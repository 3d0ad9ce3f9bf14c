/-
# Ranges of characters as bytes

In UTF-8 the characters of a range of code points are written as rows of bytes.
`rows` describes these rows by ranges of bytes: in each row of ranges any byte of the
first may be followed by any byte of the second, and so on.  For this the range is cut
where the number of bytes changes, and at the blocks that bytes count out, unless it
lies in a single one.
-/

namespace LuaBundler
namespace Text
namespace Utf8

/-- A row of ranges of bytes, each by its first and last byte. -/
abbrev Row := List (UInt8 × UInt8)

/-- The code points that are written with one, two, three and four bytes.  Between the
two ranges of three bytes lie the surrogates. -/
def lengthRanges : List (Nat × Nat) :=
  [(0, 0x7F), (0x80, 0x7FF), (0x800, 0xD7FF), (0xE000, 0xFFFF), (0x10000, 0x10FFFF)]

/-- The numbers of code points that one, two and three bytes behind the first count
out. -/
def blocks : List Nat := [64, 64 * 64, 64 * 64 * 64]

/-- The ranges among pairs of numbers. -/
def nonempty (rs : List (Nat × Nat)) : List (Nat × Nat) := rs.filter fun r => r.1 ≤ r.2

/-- A range, cut behind a block that it begins within, and before a block that it ends
within.  Code points that are single bytes come in no blocks. -/
def cutAt (block : Nat) (r : Nat × Nat) : List (Nat × Nat) :=
  if r.2 < 0x80 ∨ r.1 / block = r.2 / block then [r]
  else
    let first := (r.1 + block - 1) / block * block
    let last := (r.2 + 1) / block * block
    nonempty [(r.1, first - 1), (first, last - 1), (last, r.2)]

/-- The bytes of the character of a code point. -/
def bytes (n : Nat) : List UInt8 := String.utf8EncodeChar (Char.ofNat n)

/-- The rows of bytes of the characters from one code point to another. -/
def rows (r : Nat × Nat) : List Row :=
  let parts := nonempty (lengthRanges.map fun l => (max l.1 r.1, min l.2 r.2))
  let parts := blocks.foldl (fun parts block => parts.flatMap (cutAt block)) parts
  parts.map fun r => (bytes r.1).zip (bytes r.2)

end Utf8
end Text
end LuaBundler
