/-
# White space

`isBlank` is the Unicode property `White_Space`: 25 characters, none of them
above U+3000.  The zero-width space U+200B, the Mongolian vowel separator
U+180E and the byte-order mark U+FEFF are not in it.  `trimEnd` and `trim` take
the blanks off the ends of a text.
-/

import LuaBundler.Text.Ends

namespace LuaBundler
namespace Text

/-- The Unicode property `White_Space`. -/
def isBlank (c : Char) : Bool :=
  let n := c.toNat
  (9 ≤ n && n ≤ 13) || n == 0x20 || n == 0x85 || n == 0xA0 || n == 0x1680 ||
    (0x2000 ≤ n && n ≤ 0x200A) || n == 0x2028 || n == 0x2029 || n == 0x202F ||
    n == 0x205F || n == 0x3000

/-- A text without its trailing blanks. -/
def trimEnd (s : List Char) : List Char := dropEndWhile isBlank s

/-- A text without the blanks at either end. -/
def trim (s : List Char) : List Char := trimEnd (s.dropWhile isBlank)

/-- A text that holds nothing but blanks. -/
def isAllBlank (s : List Char) : Bool := s.all isBlank

/-- A text is trimmed to nothing exactly when all of it is blank. -/
theorem trimEnd_eq_nil_iff {s : List Char} : trimEnd s = [] ↔ isAllBlank s = true := by
  simp [trimEnd, isAllBlank, dropEndWhile_eq_nil_iff]

/-- Blanks at the beginning do not keep a text from being all blank. -/
theorem isAllBlank_dropWhile (s : List Char) :
    isAllBlank (s.dropWhile isBlank) = isAllBlank s := by
  induction s with
  | nil => rfl
  | cons c r ih =>
    rw [List.dropWhile_cons]
    split
    · next h => rw [ih, isAllBlank, isAllBlank, List.all_cons, h, Bool.true_and]
    · rfl

/-- Nothing but blanks is trimmed to nothing. -/
theorem trim_eq_nil_iff {s : List Char} : trim s = [] ↔ isAllBlank s = true := by
  rw [trim, trimEnd_eq_nil_iff, isAllBlank_dropWhile]

/-- A trimmed text has no blanks to trim. -/
theorem trim_trim (s : List Char) : trim (trim s) = trim s := by
  have hhead := List.head?_dropWhile_not isBlank s
  have hend := dropEndWhile_dropEndWhile (p := isBlank) (s.dropWhile isBlank)
  unfold trim trimEnd
  cases h : s.dropWhile isBlank with
  | nil => rfl
  | cons c r =>
    rw [h] at hhead hend
    have hc : isBlank c = false := by simpa using hhead
    have hcons : dropEndWhile isBlank (c :: r) = c :: dropEndWhile isBlank r := by
      rw [dropEndWhile_cons, hc]
      simp
    rw [hcons, List.dropWhile_cons, hc, if_neg Bool.false_ne_true, ← hcons]
    exact hend

end Text
end LuaBundler
