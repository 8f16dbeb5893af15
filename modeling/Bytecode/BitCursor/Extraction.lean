import Bytecode.BitCursor.Basic

/-!
# Extracting fields

A field is taken from the top of the accumulator once enough bits are valid.
Every operation gives its result together with the cursor as it stands
afterwards, because a failed extraction may have fetched units that stay
buffered: it returns no bits, so the bit position stays, but the offset may
have moved.
-/

namespace Bytecode.BitCursor

/-- Fills the accumulator until a field of this width is valid. When a round
fails, the cursor keeps what the rounds before it fetched. -/
def topUp (cursor : BitCursor) (width : FieldWidth) :
    Except MemoryError Unit × BitCursor :=
  if short : cursor.valid < width.bits then
    match round : cursor.advance width.bits with
    | .error cause => (.error cause, cursor)
    | .ok next =>
        have := deficit_lt_of_advance width short round
        next.topUp width
  else
    (.ok (), cursor)
termination_by width.bits - cursor.valid

/-- The top bits of the accumulator, as a number of the given width. -/
def front (cursor : BitCursor) (width : FieldWidth) : BitVec 32 :=
  cursor.accumulator >>> (32 - width.bits)

/-- The cursor past the top bits of its accumulator. -/
def drop (cursor : BitCursor) (width : FieldWidth) : BitCursor :=
  { cursor with
    accumulator := cursor.accumulator <<< width.bits
    valid := cursor.valid - width.bits }

/-- Takes the next field of the given width. -/
def take (cursor : BitCursor) (width : FieldWidth) :
    Except MemoryError (BitVec 32) × BitCursor :=
  match cursor.topUp width with
  | (.error cause, stopped) => (.error cause, stopped)
  | (.ok (), filled) => (.ok (filled.front width), filled.drop width)

/-- Extracts the next field with a width chosen at run time. A width that no
field has is refused and leaves the cursor as it is. -/
def extractBits (cursor : BitCursor) (width : Nat) :
    Except FieldError (BitVec 32) × BitCursor :=
  match FieldWidth.ofNat? width with
  | none => (.error (.invalidWidth width), cursor)
  | some width =>
      let (result, next) := cursor.take width
      (result.mapError .memory, next)

/-- Extracts the next field with a width fixed beforehand, in the narrowest word
that holds it. -/
def extract (cursor : BitCursor) (width : FieldWidth) :
    Except MemoryError Field × BitCursor :=
  let (result, next) := cursor.take width
  (result.map (Field.narrow width), next)

end Bytecode.BitCursor
