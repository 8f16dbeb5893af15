import Bytecode.Header.Basic
import Bytecode.Json.Value

/-!
# Headers as JSON

The JSON form of a header is the one that libraries document for records with
named fields. It is written as an object with its four fields in order and without
blanks. It is read from an object with the four fields in any order, or from an
array of the four values; unknown keys of an object are ignored. The signature
is not checked.
-/

namespace Bytecode.Header

/-- A key and the colon after it, as they are written. -/
def writeKey (name : String) : List Char :=
  '"' :: name.toList ++ ['"', ':']

def writeNumber (value : Nat) : List Char :=
  Nat.toDigits 10 value

/-- Numbers as an array is written. -/
def writeNumbers (values : List Nat) : List Char :=
  '[' :: [','].intercalate (values.map writeNumber) ++ [']']

/-- The text of a header: its fields under their names, the magic as an array. -/
def toJson (header : Header) : String :=
  String.ofList <|
    '\x7b' :: writeKey "magic" ++ writeNumbers (header.magic.toList.map UInt8.toNat) ++
    ',' :: writeKey "code_size" ++ writeNumber header.codeSize.toNat ++
    ',' :: writeKey "data_size" ++ writeNumber header.dataSize.toNat ++
    ',' :: writeKey "initial_data_size" ++ writeNumber header.initialDataSize.toNat ++
    ['\x7d']

/-- A byte read from a JSON value. -/
def byteOfJson? (value : Json) : Option UInt8 :=
  value.natural?.bind fun number =>
    if number < UInt8.size then some (UInt8.ofNat number) else none

def sizeOfJson? (value : Json) : Option UInt32 :=
  value.natural?.bind fun number =>
    if number < UInt32.size then some (UInt32.ofNat number) else none

def magicOfJson? : Json → Option (Vector UInt8 8)
  | .array items => do
      let bytes ← items.mapM byteOfJson?
      if whole : bytes.length = 8 then some ⟨bytes.toArray, whole⟩ else none
  | _ => none

/-- A header read from the values of its fields. -/
def ofFields? (magic codeSize dataSize initialDataSize : Json) : Option Header :=
  return {
    magic := ← magicOfJson? magic
    codeSize := ← sizeOfJson? codeSize
    dataSize := ← sizeOfJson? dataSize
    initialDataSize := ← sizeOfJson? initialDataSize }

/-- A header read from a JSON value. In an object each of the four keys comes
exactly once, and every key has to spell a text. -/
def ofJson? : Json → Option Header
  | .array [magic, codeSize, dataSize, initialDataSize] =>
      ofFields? magic codeSize dataSize initialDataSize
  | .object members => do
      guard (members.all fun member => member.1.isSome)
      ofFields? (← Json.onlyUnderKey? members "magic")
        (← Json.onlyUnderKey? members "code_size")
        (← Json.onlyUnderKey? members "data_size")
        (← Json.onlyUnderKey? members "initial_data_size")
  | _ => none

def ofJsonText? (text : String) : Option Header :=
  (Json.parse text).bind ofJson?

end Bytecode.Header
