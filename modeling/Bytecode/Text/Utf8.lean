/-!
# Reading bytes as text

Bytes are read as UTF-8, and bytes that are not UTF-8 are replaced rather than
refused. What is replaced by one replacement character is a maximal subpart: the
longest run of bytes that begins a well-formed sequence but does not finish it,
or a single byte where no sequence can begin.
-/

namespace Bytecode.Text

/-- The character that stands for bytes that are not text. -/
def replacement : Char :=
  '\uFFFD'

/-- The closed ranges in which the bytes after `lead` must lie, one range a byte,
for a well-formed sequence; `none` when no sequence begins with `lead`. The
first range is cut where a sequence would be longer than needed, or would spell
a surrogate or a number past the last code point. -/
def continuations? (lead : UInt8) : Option (List (UInt8 × UInt8)) :=
  if lead ≤ 0x7f then some []
  else if lead < 0xc2 then none
  else if lead ≤ 0xdf then some [(0x80, 0xbf)]
  else if lead = 0xe0 then some [(0xa0, 0xbf), (0x80, 0xbf)]
  else if lead = 0xed then some [(0x80, 0x9f), (0x80, 0xbf)]
  else if lead ≤ 0xef then some [(0x80, 0xbf), (0x80, 0xbf)]
  else if lead = 0xf0 then some [(0x90, 0xbf), (0x80, 0xbf), (0x80, 0xbf)]
  else if lead ≤ 0xf3 then some [(0x80, 0xbf), (0x80, 0xbf), (0x80, 0xbf)]
  else if lead = 0xf4 then some [(0x80, 0x8f), (0x80, 0xbf), (0x80, 0xbf)]
  else none

/-- How many bytes at the front lie in the range given for their place. -/
def countWithin : List (UInt8 × UInt8) → List UInt8 → Nat
  | (low, high) :: ranges, byte :: rest =>
      if low ≤ byte ∧ byte ≤ high then countWithin ranges rest + 1 else 0
  | _, _ => 0

/-- The code point of a sequence: the low bits of its lead, fewer the longer it
is, followed by six bits from each further byte. -/
def codePoint (lead : UInt8) (rest : List UInt8) : Nat :=
  let leadBits := if rest.isEmpty then 7 else 6 - rest.length
  rest.foldl (fun value byte => 64 * value + byte.toNat % 64)
    (lead.toNat % (1 <<< leadBits))

/-- The characters that the bytes spell, with one replacement character for each
maximal subpart of an ill-formed sequence. -/
def ofUtf8Lossy : List UInt8 → List Char
  | [] => []
  | lead :: rest =>
      match continuations? lead with
      | none => replacement :: ofUtf8Lossy rest
      | some ranges =>
          let count := countWithin ranges rest
          let char :=
            if count = ranges.length then
              Char.ofNat (codePoint lead (rest.take count))
            else
              replacement
          char :: ofUtf8Lossy (rest.drop count)
termination_by bytes => bytes.length

end Bytecode.Text
