import Bytecode.Json.Literal

/-!
# JSON tokens

A JSON text is a row of tokens with blanks between them: brackets, braces,
commas and colons, three words, strings and numbers.
-/

namespace Bytecode.Json

/-- A token of a JSON text. -/
inductive Token where
  | openBracket
  | closeBracket
  | openBrace
  | closeBrace
  | comma
  | colon
  | null
  | bool (value : Bool)
  /-- A string with the characters it spells; `none` when a surrogate in it
  spells nothing. -/
  | string (text : Option (List Char))
  /-- A number with its digits and signs as they are written. -/
  | number (literal : List Char)
deriving DecidableEq, Repr

/-- The characters that may stand between tokens. -/
def isBlank (char : Char) : Bool :=
  char = ' ' || char = '\t' || char = '\n' || char = '\r'

namespace Token

/-- Scans one token from its first character on. -/
def scan : List Char → Option (Token × List Char)
  | '[' :: rest => some (openBracket, rest)
  | ']' :: rest => some (closeBracket, rest)
  | '\x7b' :: rest => some (openBrace, rest)
  | '\x7d' :: rest => some (closeBrace, rest)
  | ',' :: rest => some (comma, rest)
  | ':' :: rest => some (colon, rest)
  | 'n' :: 'u' :: 'l' :: 'l' :: rest => some (null, rest)
  | 't' :: 'r' :: 'u' :: 'e' :: rest => some (bool true, rest)
  | 'f' :: 'a' :: 'l' :: 's' :: 'e' :: rest => some (bool false, rest)
  | '"' :: rest =>
      (scanString [] rest).map fun (units, rest) => (string (spell [] units), rest)
  | chars => (scanNumber chars).map fun (literal, rest) => (number literal, rest)

theorem length_of_scan {chars rest : List Char} {token : Token}
    (found : scan chars = some (token, rest)) : rest.length < chars.length := by
  unfold scan at found
  split at found
  case h_10 =>
    simp only [Option.map_eq_some_iff, Prod.mk.injEq, Prod.exists] at found
    obtain ⟨units, after, scanned, -, rfl⟩ := found
    have := length_of_scanString scanned
    simp only [List.length_cons]
    omega
  case h_11 =>
    simp only [Option.map_eq_some_iff, Prod.mk.injEq, Prod.exists] at found
    obtain ⟨literal, after, scanned, -, rfl⟩ := found
    exact length_of_scanNumber scanned
  all_goals
    simp only [Option.some.injEq, Prod.mk.injEq] at found
    obtain ⟨-, rfl⟩ := found
    simp only [List.length_cons]
    omega

/-- Scans one token past any blanks before it. -/
def next (chars : List Char) : Option (Token × List Char) :=
  scan (chars.dropWhile isBlank)

theorem length_of_next {chars rest : List Char} {token : Token}
    (found : next chars = some (token, rest)) : rest.length < chars.length :=
  Nat.lt_of_lt_of_le (length_of_scan found) (List.dropWhile_sublist isBlank).length_le

end Token

/-- The tokens of a text, after those in `done`; `none` when some of it is no
token. -/
def tokens (done : List Token) (chars : List Char) : Option (List Token) :=
  if chars.all isBlank then
    some done.reverse
  else
    match found : Token.next chars with
    | none => none
    | some (token, rest) =>
        have := Token.length_of_next found
        tokens (token :: done) rest
termination_by chars.length

end Bytecode.Json
