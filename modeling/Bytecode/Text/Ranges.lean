/-!
# Ranges of code points

A property of characters is kept as the closed ranges of code points that have
it, ascending and apart.
-/

namespace Bytecode.Text

/-- Whether one of the closed ranges holds the code point. -/
def inRanges (ranges : List (Nat × Nat)) (codePoint : Nat) : Bool :=
  ranges.any fun range => range.1 ≤ codePoint && codePoint ≤ range.2

end Bytecode.Text
