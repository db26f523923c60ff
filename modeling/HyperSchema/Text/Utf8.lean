import HyperSchema.Text.Ranges

/-!
Sets of characters by their bytes. A byte run is a row of byte ranges; any choice of one byte from
each range is a character of the set.
-/

namespace HyperSchema.Text

structure ByteRange where
  first : Nat
  last : Nat
deriving DecidableEq, Repr

/-- The bytes of a code point. -/
def bytesOf (n : Nat) : List Nat :=
  if n < 0x80 then [n]
  else if n < 0x800 then [0xC0 + n / 64, 0x80 + n % 64]
  else if n < 0x10000 then [0xE0 + n / 4096, 0x80 + n / 64 % 64, 0x80 + n % 64]
  else [0xF0 + n / 262144, 0x80 + n / 4096 % 64, 0x80 + n / 64 % 64, 0x80 + n % 64]

/-- Splits a range in two behind `last`, when it holds code points on both sides. -/
def splitBehind (last : Nat) (r : Nat × Nat) : Ranges :=
  if r.1 ≤ last && last < r.2 then [(r.1, last), (last + 1, r.2)] else [r]

/-- Leaves out surrogates. -/
def dropSurrogates (r : Nat × Nat) : Ranges :=
  if r.1 < 0xE000 && 0xD7FF < r.2 then
    [(r.1, 0xD7FF), (0xE000, r.2)].filter fun (lo, hi) => lo ≤ hi
  else [r]

/-- Splits a range into the part of a block at its start, whole blocks, and the part of a block at
its end. Ranges within one block, and ASCII, stay whole. -/
def splitBlocks (size : Nat) (r : Nat × Nat) : Ranges :=
  if r.2 < 0x80 || r.1 / size == r.2 / size then [r]
  else if r.1 % size ≠ 0 then
    let next := (r.1 / size + 1) * size
    (r.1, next - 1) :: splitEnd next
  else splitEnd r.1
where
  splitEnd (lo : Nat) : Ranges :=
    if lo / size == r.2 / size || r.2 % size == size - 1 then [(lo, r.2)]
    else [(lo, r.2 / size * size - 1), (r.2 / size * size, r.2)]

/-- The byte runs of a set, in ascending order. -/
def byteRuns (set : Ranges) : List (List ByteRange) :=
  let ranges := set.flatMap fun r =>
    dropSurrogates r |>.flatMap (splitBehind 0x7F) |>.flatMap (splitBehind 0x7FF)
      |>.flatMap (splitBehind 0xFFFF) |>.flatMap (splitBlocks 64)
      |>.flatMap (splitBlocks 4096) |>.flatMap (splitBlocks 262144)
  ranges.map fun (lo, hi) => (bytesOf lo).zipWith ByteRange.mk (bytesOf hi)

end HyperSchema.Text
