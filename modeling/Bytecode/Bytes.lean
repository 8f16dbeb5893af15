/-!
# Byte blocks

A byte block is an array of bytes. The operations here never change the length
of a block except for `resize`, which says so in its name.
-/

namespace Bytecode

/-- A finite block of bytes, indexed from zero. -/
abbrev Bytes := Array UInt8

namespace Bytes

def zeroed (size : Nat) : Bytes :=
  Array.replicate size 0

/-- The block cut or extended to `size` bytes: a prefix is kept and any new tail
is zero. -/
def resize (block : Bytes) (size : Nat) : Bytes :=
  block.extract 0 size ++ zeroed (size - block.size)

/-- The block with one byte replaced, or `none` when the index is out of
range. -/
def set? (block : Bytes) (index : Nat) (value : UInt8) : Option Bytes :=
  if inside : index < block.size then some (block.set index value inside) else none

/-- The block with `piece` laid over the bytes from `start` on, or `none` when
the piece does not fit. -/
def overlay? (block : Bytes) (start : Nat) (piece : Bytes) : Option Bytes :=
  if start + piece.size ≤ block.size then
    some (block.extract 0 start ++ piece ++ block.extract (start + piece.size))
  else
    none

/-- The sum of all bytes, as an exact number. -/
def total (block : Bytes) : Nat :=
  block.foldl (fun sum byte => sum + byte.toNat) 0

@[simp] theorem size_zeroed (size : Nat) : (zeroed size).size = size := by
  simp [zeroed]

@[simp] theorem size_resize (block : Bytes) (size : Nat) :
    (block.resize size).size = size := by
  simp [resize]
  omega

/-- Resizing keeps every byte that stays in range and fills the rest with
zero. -/
theorem getElem?_resize (block : Bytes) {size index : Nat} (inside : index < size) :
    (block.resize size)[index]? = some (block.getD index 0) := by
  by_cases kept : index < block.size
  · have within : index < min size block.size := by omega
    simp [resize, Array.getElem?_append, kept, within]
  · have past : ¬ index < min size block.size := by omega
    have filled : index - min size block.size < size - block.size := by omega
    simp [resize, zeroed, Array.getElem?_append, kept, past, filled]

theorem size_of_set? {block changed : Bytes} {index : Nat} {value : UInt8}
    (done : block.set? index value = some changed) : changed.size = block.size := by
  unfold set? at done
  split at done <;> simp at done
  simp [← done]

theorem size_of_overlay? {block piece changed : Bytes} {start : Nat}
    (done : block.overlay? start piece = some changed) :
    changed.size = block.size := by
  unfold overlay? at done
  split at done <;> simp at done
  simp [← done]
  omega

/-- A piece lies over the bytes from its start on, and all others show. -/
theorem getElem?_of_overlay? {block piece changed : Bytes} {start : Nat}
    (done : block.overlay? start piece = some changed) (index : Nat) :
    changed[index]? =
      if start ≤ index then piece[index - start]?.or block[index]? else block[index]? := by
  unfold overlay? at done
  split at done
  · next fits =>
      simp only [Option.some.injEq] at done
      subst done
      have kept : (block.extract 0 start).size = start := by
        rw [Array.size_extract]
        omega
      by_cases before : index < start
      · have outside : ¬ start ≤ index := by omega
        have within : index < min start block.size - 0 := by omega
        rw [if_neg outside, Array.append_assoc, Array.getElem?_append_left (by omega),
          Array.getElem?_extract, if_pos within, Nat.zero_add]
      · have behind : start ≤ index := by omega
        rw [if_pos behind, Array.append_assoc, Array.getElem?_append_right (by omega), kept]
        by_cases inside : index - start < piece.size
        · rw [Array.getElem?_append_left inside, Array.getElem?_eq_getElem inside,
            Option.some_or]
        · have ended : piece[index - start]? = none := Array.getElem?_eq_none (by omega)
          have place : start + piece.size + (index - start - piece.size) = index := by omega
          rw [Array.getElem?_append_right (by omega), ended, Option.none_or,
            Array.getElem?_extract, place]
          split
          · rfl
          · exact (Array.getElem?_eq_none (by omega)).symm
  · simp at done

/-- A piece laid over the start of a zero tail comes before what is left of the
tail. -/
theorem overlay?_zeroed (front : Bytes) {piece : Bytes} {room : Nat}
    (fits : piece.size ≤ room) :
    (front ++ zeroed room).overlay? front.size piece =
      some (front ++ piece ++ zeroed (room - piece.size)) := by
  have inside : front.size + piece.size ≤ (front ++ zeroed room).size := by
    rw [Array.size_append, size_zeroed]
    omega
  have kept : (front ++ zeroed room).extract 0 front.size = front := by simp
  have left : (front ++ zeroed room).extract (front.size + piece.size) =
      zeroed (room - piece.size) := by
    simp [zeroed]
  rw [overlay?, if_pos inside, kept, left]

end Bytes

end Bytecode
