/-
# What tidying leaves

`tidy` works on the lines of the code (`codeLines`), one after the other.  It takes
nothing away but comments and white space (`nonBlank_tidy`).  A line feed of the code ends a
line (`codeLines_append_break`), and the lines before the last are tidied one by one
(`joinTidy_append`).
-/

import LuaBundler.Lua.Comments
import LuaBundler.Proofs.Lines
import LuaBundler.Proofs.Segments

namespace LuaBundler

namespace Text

/-- The characters of a text that are no white space. -/
def nonBlank (s : List Char) : List Char := s.filter (!isBlank ·)

@[simp] theorem nonBlank_nil : nonBlank [] = [] := rfl

@[simp] theorem nonBlank_append (s t : List Char) : nonBlank (s ++ t) = nonBlank s ++ nonBlank t :=
  List.filter_append s t

theorem nonBlank_eq_nil {s : List Char} (h : ∀ c ∈ s, isBlank c = true) : nonBlank s = [] :=
  List.filter_eq_nil_iff.2 fun c hc => by simp [h c hc]

/-- Trailing blanks are blank. -/
theorem nonBlank_trimEnd (s : List Char) : nonBlank (trimEnd s) = nonBlank s := by
  obtain ⟨t, hs, ht⟩ := exists_dropEndWhile_append (p := isBlank) s
  conv => rhs; rw [hs, nonBlank_append, nonBlank_eq_nil ht, List.append_nil]
  rfl

/-- Blanks at the end of a text do not keep what stands before them from the end. -/
theorem trimEnd_append (s t : List Char) :
    trimEnd (s ++ t) = if trimEnd t = [] then trimEnd s else s ++ trimEnd t :=
  dropEndWhile_append s t

end Text

namespace Lua

variable {s t : List Char} {l : List Char} {ls ls' : List (List Char)} {ss ts : List Segment}

theorem removeComments_append (h : Passes (s ++ t) s) :
    removeComments (s ++ t) = removeComments s ++ removeComments t := by
  rw [removeComments, h.segments_append, List.flatMap_append]
  rfl

/-- A text has a line, if only an empty one. -/
theorem codeLines_ne_nil (ss : List Segment) : codeLines ss ≠ [] := by
  induction ss with
  | nil => exact List.cons_ne_nil _ _
  | cons seg ss ih =>
    unfold codeLines
    split
    · exact List.cons_ne_nil _ _
    · rwa [Ne, List.modifyHead_eq_nil_iff]

/-- The last line of a first part goes on as the first line of what follows. -/
theorem exists_codeLines_append (ss ts : List Segment) :
    ∃ ls l, codeLines ss = ls ++ [l] ∧
      codeLines (ss ++ ts) = ls ++ (codeLines ts).modifyHead (l ++ ·) := by
  induction ss with
  | nil =>
    refine ⟨[], [], rfl, ?_⟩
    rw [List.nil_append]
    cases codeLines ts <;> rfl
  | cons seg ss ih =>
    obtain ⟨ls, l, hss, hts⟩ := ih
    rw [List.cons_append, codeLines, codeLines, hss, hts]
    split
    · exact ⟨[] :: ls, l, rfl, rfl⟩
    · cases ls with
      | nil =>
        refine ⟨[], seg.kept ++ l, rfl, ?_⟩
        cases codeLines ts <;> simp
      | cons first ls => exact ⟨(seg.kept ++ first) :: ls, l, rfl, rfl⟩

/-- A line feed of the code ends a line. -/
theorem codeLines_append_break (ss ts : List Segment) :
    codeLines (ss ++ .code '\n' :: ts) = codeLines ss ++ codeLines ts := by
  obtain ⟨ls, l, hss, hts⟩ := exists_codeLines_append ss (.code '\n' :: ts)
  rw [hts, hss, codeLines, if_pos rfl, List.modifyHead_cons, List.append_nil, List.append_assoc]
  rfl

/-- The lines without their line feeds hold what is kept. -/
theorem nonBlank_flatten_codeLines (ss : List Segment) :
    Text.nonBlank (codeLines ss).flatten = Text.nonBlank (ss.flatMap Segment.kept) := by
  induction ss with
  | nil => rfl
  | cons seg ss ih =>
    rw [codeLines, List.flatMap_cons, Text.nonBlank_append, ← ih]
    split
    · next h =>
      subst h
      rfl
    · cases hl : codeLines ss with
      | nil => exact absurd hl (codeLines_ne_nil ss)
      | cons l ls => simp

theorem nonBlank_tidyLine (l : List Char) : Text.nonBlank (tidyLine l) = Text.nonBlank l := by
  rw [← Text.nonBlank_trimEnd l]
  unfold tidyLine
  split
  · next h => rw [h]
  · next h =>
    rw [Text.nonBlank_append]
    exact List.append_nil _

theorem nonBlank_joinTidy (ls : List (List Char)) :
    Text.nonBlank (joinTidy ls) = Text.nonBlank ls.flatten := by
  fun_induction joinTidy ls with
  | case1 => rfl
  | case2 l => simp [Text.nonBlank_trimEnd]
  | case3 l ls _ ih => simp [ih, nonBlank_tidyLine]

/-- **Tidying takes away comments and white space only.** -/
theorem nonBlank_tidy (s : List Char) :
    Text.nonBlank (tidy s) = Text.nonBlank (removeComments s) := by
  rw [tidy, nonBlank_joinTidy, nonBlank_flatten_codeLines, removeComments]

/-- The lines before the last are tidied one by one. -/
theorem joinTidy_append (ls : List (List Char)) (h : ls' ≠ []) :
    joinTidy (ls ++ ls') = ls.flatMap tidyLine ++ joinTidy ls' := by
  induction ls with
  | nil => rfl
  | cons l ls ih =>
    rw [List.cons_append, List.flatMap_cons, List.append_assoc, ← ih, joinTidy]
    exact fun he => h (List.append_eq_nil_iff.1 he).2

/-- A line before others is tidied. -/
theorem joinTidy_cons (l : List Char) (h : ls ≠ []) :
    joinTidy (l :: ls) = tidyLine l ++ joinTidy ls := by
  have hjoin := joinTidy_append [l] h
  rwa [List.singleton_append, List.flatMap_singleton] at hjoin

/-- A last line that is not blank is tidied like the others, but for its line feed. -/
theorem joinTidy_concat (ls : List (List Char)) (h : Text.trimEnd l ≠ []) :
    joinTidy (ls ++ [l]) ++ ['\n'] = (ls ++ [l]).flatMap tidyLine := by
  rw [joinTidy_append ls (List.cons_ne_nil _ _), List.flatMap_append, List.append_assoc]
  congr 1
  rw [joinTidy, List.flatMap_singleton, tidyLine]
  cases hl : Text.trimEnd l with
  | nil => exact absurd hl h
  | cons c r => rfl

end Lua
end LuaBundler
