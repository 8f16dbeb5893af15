import Bytecode.Json.Value
import Bytecode.Section.Basic

/-!
# Kinds of section as JSON

A kind of section is read from its name, or from an object that has the name as
its only key and `null` under it.
-/

namespace Bytecode.SectionKind

/-- A kind of section read from a JSON value. -/
def ofJson? : Json → Option SectionKind
  | .string (some name) => ofName? (String.ofList name)
  | .object [(some name, .null)] => ofName? (String.ofList name)
  | _ => none

def ofJsonText? (text : String) : Option SectionKind :=
  (Json.parse text).bind ofJson?

end Bytecode.SectionKind
