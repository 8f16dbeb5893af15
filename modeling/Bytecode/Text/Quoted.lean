import Bytecode.Text.CombiningMark
import Bytecode.Text.Ignorable
import Bytecode.Text.Unprintable

/-!
# Quoted text

Text of unknown origin is shown between double quotes in a form that a terminal
cannot misread. Six characters have short escapes. Combining marks, unprintable
characters and ignorable characters are written by their code point, because
none of them can be told apart by its looks. Everything else stands for itself.
-/

namespace Bytecode.Text

/-- The escape that names a character by its code point, in lower-case
hexadecimal without leading zeros. -/
def codePointEscape (char : Char) : List Char :=
  ['\\', 'u', '\x7b'] ++ Nat.toDigits 16 char.toNat ++ ['\x7d']

/-- How a character is written inside quotes. -/
def escape (char : Char) : List Char :=
  match char with
  | '\x00' => ['\\', '0']
  | '\t' => ['\\', 't']
  | '\r' => ['\\', 'r']
  | '\n' => ['\\', 'n']
  | '"' => ['\\', '"']
  | '\\' => ['\\', '\\']
  | _ =>
      if isCombiningMark char || isUnprintable char || isIgnorable char then
        codePointEscape char
      else
        [char]

/-- The text between double quotes, with its characters escaped. -/
def quoted (text : String) : String :=
  String.ofList ('"' :: text.toList.flatMap escape ++ ['"'])

end Bytecode.Text
