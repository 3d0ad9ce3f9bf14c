/-
# Characters by their numbers

A character may be written as its code point in hexadecimal digits, of either case.
Numbers that are no code point of a character, such as those of surrogates, stand
for none.
-/

namespace LuaBundler
namespace Text

/-- The value of a hexadecimal digit. -/
def hexDigit? (c : Char) : Option Nat :=
  if c.isDigit then some (c.toNat - '0'.toNat)
  else if 'a' ≤ c ∧ c ≤ 'f' then some (c.toNat - 'a'.toNat + 10)
  else if 'A' ≤ c ∧ c ≤ 'F' then some (c.toNat - 'A'.toNat + 10)
  else none

/-- The number that hexadecimal digits stand for. -/
def ofHex? (s : List Char) : Option Nat :=
  s.foldl (fun n c => n.bind fun n => (hexDigit? c).map (16 * n + ·)) (some 0)

/-- The character whose code point hexadecimal digits give. -/
def charOfHex? (digits : List Char) : Option Char :=
  (ofHex? digits).bind fun n => if n.isValidChar then some (Char.ofNat n) else none

/-- The character whose code point the first `n` characters give, and the rest. -/
def codePoint? (n : Nat) (s : List Char) : Option (Char × List Char) :=
  if (s.take n).length = n then (charOfHex? (s.take n)).map fun c => (c, s.drop n) else none

theorem length_codePoint?_le {n : Nat} {s r : List Char} {c : Char}
    (h : codePoint? n s = some (c, r)) : r.length ≤ s.length := by
  unfold codePoint? at h
  split at h
  · obtain ⟨d, -, hd⟩ := Option.map_eq_some_iff.1 h
    cases hd
    simp
  · cases h

end Text
end LuaBundler
