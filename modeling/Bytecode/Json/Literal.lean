/-!
# String and number literals

The two kinds of JSON token that have a grammar of their own. A scanner takes
the characters from the start of a literal on and gives what it found together
with the characters after it.
-/

namespace Bytecode.Json

/-! ## Strings -/

/-- One unit of a string literal: a character, or a 16-bit code from an escape
with four hexadecimal digits. -/
inductive StringUnit where
  | char (value : Char)
  | code (value : Nat)
deriving DecidableEq, Repr

/-- The value of a hexadecimal digit of either case. -/
def hexValue? (char : Char) : Option Nat :=
  if char.isDigit then
    some (char.toNat - 48)
  else if 'a' ≤ char ∧ char ≤ 'f' then
    some (char.toNat - 87)
  else if 'A' ≤ char ∧ char ≤ 'F' then
    some (char.toNat - 55)
  else
    none

/-- The number spelled by hexadecimal digits. -/
def hexNumber? (digits : List Char) : Option Nat :=
  digits.foldlM (fun value digit => (hexValue? digit).map (16 * value + ·)) 0

/-- The character that a backslash and this letter stand for. -/
def shortEscape? : Char → Option Char
  | '"' => some '"'
  | '\\' => some '\\'
  | '/' => some '/'
  | 'b' => some '\x08'
  | 'f' => some '\x0c'
  | 'n' => some '\n'
  | 'r' => some '\r'
  | 't' => some '\t'
  | _ => none

/-- Scans a string literal past its opening quote, after the units in `done`.
Control characters have to be escaped. -/
def scanString (done : List StringUnit) :
    List Char → Option (List StringUnit × List Char)
  | [] => none
  | '"' :: rest => some (done.reverse, rest)
  | '\\' :: 'u' :: a :: b :: c :: d :: rest =>
      match hexNumber? [a, b, c, d] with
      | some value => scanString (.code value :: done) rest
      | none => none
  | '\\' :: letter :: rest =>
      match shortEscape? letter with
      | some char => scanString (.char char :: done) rest
      | none => none
  | char :: rest =>
      if char < ' ' ∨ char = '\\' then none else scanString (.char char :: done) rest

/-- Whether a code is the first half of a surrogate pair. -/
def isHighSurrogate (code : Nat) : Bool :=
  0xd800 ≤ code && code < 0xdc00

/-- Whether a code is the second half of a surrogate pair. -/
def isLowSurrogate (code : Nat) : Bool :=
  0xdc00 ≤ code && code < 0xe000

/-- The code point that a surrogate pair stands for. -/
def surrogatePair (high low : Nat) : Nat :=
  0x10000 + 0x400 * (high - 0xd800) + (low - 0xdc00)

/-- The characters that units spell, after those in `done`. A surrogate that is
not part of a pair spells nothing, so there is no text then. -/
def spell (done : List Char) : List StringUnit → Option (List Char)
  | [] => some done.reverse
  | .char char :: rest => spell (char :: done) rest
  | .code high :: .code low :: rest =>
      if isHighSurrogate high && isLowSurrogate low then
        spell (Char.ofNat (surrogatePair high low) :: done) rest
      else if isHighSurrogate high || isLowSurrogate high then
        none
      else
        spell (Char.ofNat high :: done) (.code low :: rest)
  | .code code :: rest =>
      if isHighSurrogate code || isLowSurrogate code then
        none
      else
        spell (Char.ofNat code :: done) rest

theorem length_of_scanString {chars rest : List Char} {done units : List StringUnit}
    (found : scanString done chars = some (units, rest)) :
    rest.length < chars.length := by
  fun_induction scanString done chars <;> simp_all <;> omega

/-! ## Numbers -/

/-- A run of digits and what follows it. -/
def scanDigits (chars : List Char) : List Char × List Char :=
  (chars.takeWhile Char.isDigit, chars.dropWhile Char.isDigit)

/-- An optional sign out of those allowed, and what follows it. -/
def scanSign (signs : List Char) : List Char → List Char × List Char
  | [] => ([], [])
  | char :: rest => if char ∈ signs then ([char], rest) else ([], char :: rest)

/-- The whole part of a number: a zero, or digits that do not start with one. -/
def scanWhole : List Char → Option (List Char × List Char)
  | [] => none
  | char :: rest =>
      if char = '0' then
        some (['0'], rest)
      else if char.isDigit then
        some (char :: (scanDigits rest).1, (scanDigits rest).2)
      else
        none

/-- An optional fraction: a point and at least one digit. -/
def scanFraction : List Char → Option (List Char × List Char)
  | '.' :: rest =>
      let (digits, rest) := scanDigits rest
      if digits.isEmpty then none else some ('.' :: digits, rest)
  | chars => some ([], chars)

/-- An optional exponent: a letter, an optional sign and at least one digit. -/
def scanExponent : List Char → Option (List Char × List Char)
  | [] => some ([], [])
  | char :: rest =>
      if char = 'e' ∨ char = 'E' then
        let (sign, rest) := scanSign ['+', '-'] rest
        let (digits, rest) := scanDigits rest
        if digits.isEmpty then none else some (char :: sign ++ digits, rest)
      else
        some ([], char :: rest)

def scanNumber (chars : List Char) : Option (List Char × List Char) := do
  let (sign, chars) := scanSign ['-'] chars
  let (whole, chars) ← scanWhole chars
  let (fraction, chars) ← scanFraction chars
  let (exponent, chars) ← scanExponent chars
  return (sign ++ whole ++ fraction ++ exponent, chars)

theorem length_scanDigits_le (chars : List Char) :
    (scanDigits chars).2.length ≤ chars.length := by
  simpa [scanDigits] using (List.dropWhile_sublist Char.isDigit).length_le

theorem length_scanSign_le (signs chars : List Char) :
    (scanSign signs chars).2.length ≤ chars.length := by
  fun_cases scanSign signs chars <;> simp

theorem length_of_scanWhole {chars literal rest : List Char}
    (found : scanWhole chars = some (literal, rest)) :
    rest.length < chars.length := by
  have digits := length_scanDigits_le
  fun_cases scanWhole chars <;> grind [scanWhole]

theorem length_of_scanFraction {chars literal rest : List Char}
    (found : scanFraction chars = some (literal, rest)) :
    rest.length ≤ chars.length := by
  have digits := length_scanDigits_le
  fun_cases scanFraction chars <;> grind [scanFraction]

theorem length_of_scanExponent {chars literal rest : List Char}
    (found : scanExponent chars = some (literal, rest)) :
    rest.length ≤ chars.length := by
  have digits := length_scanDigits_le
  have sign := length_scanSign_le
  fun_cases scanExponent chars <;> grind [scanExponent]

theorem length_of_scanNumber {chars literal rest : List Char}
    (found : scanNumber chars = some (literal, rest)) :
    rest.length < chars.length := by
  unfold scanNumber at found
  have sign := length_scanSign_le ['-'] chars
  simp only [bind, Option.bind_eq_some_iff, pure, Option.some.injEq, Prod.mk.injEq,
    Prod.exists] at found
  obtain ⟨whole, afterWhole, isWhole, fraction, afterFraction, isFraction,
    exponent, afterExponent, isExponent, same, rfl⟩ := found
  have first := length_of_scanWhole isWhole
  have second := length_of_scanFraction isFraction
  have third := length_of_scanExponent isExponent
  omega

end Bytecode.Json
