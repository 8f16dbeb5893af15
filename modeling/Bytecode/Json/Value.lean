import Bytecode.Json.Token

/-!
# JSON values

The tokens of a text are put together to a value by a machine with a stack of
the arrays and objects that are still open, so values may be nested to any
depth. Members of an object keep their order, and a key may come more than once.
-/

namespace Bytecode

/-- A JSON value. Strings are given by the characters they spell, with `none`
for a string that spells no text; numbers are given as they are written. -/
inductive Json where
  | null
  | bool (value : Bool)
  | number (literal : List Char)
  | string (text : Option (List Char))
  | array (items : List Json)
  | object (members : List (Option (List Char) × Json))

namespace Json

/-- An array or object that is still open, with what came before, last first. -/
inductive Frame where
  /-- An array that waits for an item. -/
  | array (items : List Json)
  /-- An object that waits for the value of a key. -/
  | member (members : List (Option (List Char) × Json)) (key : Option (List Char))

/-- What a text read so far asks for. Each state has the arrays and objects
around the place that was reached, innermost first. -/
inductive State where
  | value (around : List Frame)
  /-- The first item of an array, or the end of it. -/
  | firstItem (around : List Frame)
  /-- The first key of an object, or the end of it. -/
  | firstKey (around : List Frame)
  | key (members : List (Option (List Char) × Json)) (around : List Frame)
  | colon (members : List (Option (List Char) × Json)) (key : Option (List Char))
      (around : List Frame)
  /-- Whatever may follow a complete value. -/
  | after (value : Json) (around : List Frame)

namespace State

/-- A token where a value is asked for. -/
def beginValue (around : List Frame) : Token → Option State
  | .null => some (after Json.null around)
  | .bool flag => some (after (Json.bool flag) around)
  | .number literal => some (after (Json.number literal) around)
  | .string text => some (after (Json.string text) around)
  | .openBracket => some (firstItem around)
  | .openBrace => some (firstKey around)
  | _ => none

/-- What is asked for after one more token; `none` when the token does not fit. -/
def step : State → Token → Option State
  | value around, token => beginValue around token
  | firstItem around, .closeBracket => some (after (Json.array []) around)
  | firstItem around, token => beginValue (.array [] :: around) token
  | firstKey around, .closeBrace => some (after (Json.object []) around)
  | firstKey around, .string name => some (colon [] name around)
  | key members around, .string name => some (colon members name around)
  | colon members name around, .colon => some (value (.member members name :: around))
  | after item (.array items :: around), .comma =>
      some (value (.array (item :: items) :: around))
  | after item (.array items :: around), .closeBracket =>
      some (after (Json.array (item :: items).reverse) around)
  | after item (.member members name :: around), .comma =>
      some (key ((name, item) :: members) around)
  | after item (.member members name :: around), .closeBrace =>
      some (after (Json.object ((name, item) :: members).reverse) around)
  | _, _ => none

/-- The value of a text that is complete. -/
def result? : State → Option Json
  | after item [] => some item
  | _ => none

end State

/-- The value that a row of tokens makes up. -/
def ofTokens? (row : List Token) : Option Json :=
  (row.foldlM State.step (State.value [])).bind State.result?

/-- The value that a text holds, if the text is one JSON value with nothing but
blanks around it. -/
def parse (text : String) : Option Json :=
  (tokens [] text.toList).bind ofTokens?

/-- The natural number that a value is, if it is one written with digits only. -/
def natural? : Json → Option Nat
  | number literal =>
      if literal.all Char.isDigit then some (Nat.ofDigitChars 10 literal 0) else none
  | _ => none

/-- The values that the members of an object have under a key. -/
def underKey (members : List (Option (List Char) × Json)) (key : String) : List Json :=
  members.filterMap fun (name, item) =>
    if name = some key.toList then some item else none

/-- The value under a key that comes exactly once. -/
def onlyUnderKey? (members : List (Option (List Char) × Json)) (key : String) :
    Option Json :=
  match underKey members key with
  | [item] => some item
  | _ => none

end Json

end Bytecode
