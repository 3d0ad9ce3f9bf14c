/-
# Stripping a stripped text

A stripped text holds no comments, and its strings are those of the text it came from, if
those are terminated and no block comment stands directly behind a bracket of the code
(`segments_strip_and_strip_strip`).  Such a comment can keep the bracket from another one that
makes a string with it.  A line comment cannot: the line feed behind it stays.

Then stripping once more changes nothing, except that a text that was not tidied can be
(`strip_strip`).
-/

import LuaBundler.Proofs.Thinning

namespace LuaBundler
namespace Lua

variable {s : List Char} {seg : Segment} {ss : List Segment}

/-- Signs `=` of the code come next, and then a block comment. -/
def meetsBlock : List Segment → Bool
  | .code c :: ss => c == '=' && meetsBlock ss
  | .blockComment _ :: _ => true
  | _ => false

/-- Somewhere a block comment stands directly behind a bracket of the code, or behind one and
a run of signs `=`. -/
def bracketMeetsBlock : List Segment → Bool
  | [] => false
  | seg :: ss => seg == .code '[' && meetsBlock ss || bracketMeetsBlock ss

/-- Nothing or a line feed of the code stands behind a line comment. -/
theorem endsLine_of_lineComment {t : List Char} (h : Legible (.lineComment t :: ss)) :
    EndsLine ss := by
  obtain ⟨⟨c, u, -, hbegins⟩, hss⟩ := legible_cons_iff.1 h
  cases ss with
  | nil => exact .inl rfl
  | cons seg ss =>
    have hstands := (legible_cons_iff.1 hss).1
    obtain ⟨d, v, hv, -⟩ := id hstands
    generalize hx : written (seg :: ss) = x at hbegins
    generalize u ++ x = r at hbegins
    cases hbegins with
    | lineComment _ _ _ hrest =>
      have hd : d = '\n' := hrest d (by rw [← hx, written_cons, hv]; rfl)
      rw [hd] at hv
      exact .inr (congrArg some
        (hstands.eq_code (by rw [hv]; rfl) (by decide) (by decide) (by decide)))

/-- A bracket that opens nothing is kept from another one by a block comment only. -/
theorem meetsBlock_of_opensBehind (h : Legible ss) (hnone : afterOpener? ('[' :: written ss) = none)
    (hopen : opensBehind ss = true) : meetsBlock ss = true := by
  induction ss with
  | nil => cases hopen
  | cons seg ss ih =>
    obtain ⟨hstands, hss⟩ := legible_cons_iff.1 h
    obtain ⟨c, u, htext, -⟩ := id hstands
    rw [written_cons, htext, List.cons_append] at hnone
    have hsome := isSome_afterOpener?_cons c (u ++ written ss)
    rw [hnone, Option.isSome_none, eq_comm, Bool.or_eq_false_iff, Bool.and_eq_false_iff] at hsome
    rw [opensBehind] at hopen
    split at hopen
    · next hskip =>
      rcases Bool.or_eq_true_iff.1 hskip with hcomment | hlevel
      · cases seg with
        | blockComment t => rfl
        | lineComment t =>
          rcases endsLine_of_lineComment h with rfl | hbreak
          · cases hopen
          · obtain ⟨ss, rfl⟩ := List.head?_eq_some_iff.1 hbreak
            cases hopen
        | code d => cases hcomment
        | quoted t => cases hcomment
        | longString t => cases hcomment
      · obtain rfl := eq_of_beq hlevel
        cases htext
        have hnone' : afterOpener? ('[' :: written ss) = none := by
          rw [← Option.not_isSome_iff_eq_none]
          simpa using hsome.2
        exact ih hss hnone' hopen
    · rw [htext] at hopen
      have hc : (c == '[') = true := by simpa using hopen
      rw [hsome.1] at hc
      cases hc

/-- Brackets fuse only where a block comment stands between them. -/
theorem fusesBrackets_eq_false (h : Legible ss) (hblock : bracketMeetsBlock ss = false) :
    fusesBrackets ss = false := by
  induction ss with
  | nil => rfl
  | cons seg ss ih =>
    obtain ⟨⟨c, u, htext, hbegins⟩, hss⟩ := legible_cons_iff.1 h
    rw [bracketMeetsBlock, Bool.or_eq_false_iff] at hblock
    rw [fusesBrackets, ih hss hblock.2, Bool.or_false]
    by_cases hseg : seg = .code '['
    · subst hseg
      cases htext
      have hnone : afterOpener? ('[' :: written ss) = none := by
        rw [List.nil_append] at hbegins
        generalize written ss = r at hbegins
        cases hbegins with
        | code _ _ hopen => exact hopen rfl
      rw [beq_self_eq_true, Bool.true_and] at hblock ⊢
      exact Bool.eq_false_iff.2 fun hopen => by
        rw [meetsBlock_of_opensBehind hss hnone hopen] at hblock
        cases hblock.1
    · rw [beq_eq_false_iff_ne.2 hseg, Bool.false_and]

section Stable

variable (hstring : ∀ seg ∈ segments s, seg.isString = true → seg.isTerminated = true)
  (hblock : bracketMeetsBlock (segments s) = false)
include hstring hblock

/-- From a stripped text its segments are read. -/
theorem segments_strip (trim : Bool) : segments (strip trim s) = stripped trim (segments s) := by
  have hlegible := legible_segments s
  rw [strip_eq_written trim fun _ seg hseg h =>
    Segment.endsBare_of_isTerminated (hstring seg hseg h)]
  exact (legible_stripped trim hlegible (fusesBrackets_eq_false hlegible hblock)).segments_eq

/-- **Stripping a stripped text tidies it or leaves it alone.** -/
theorem strip_strip (m n : Bool) : strip m (strip n s) = strip (m || n) s := by
  have hread := segments_strip hstring hblock n
  have hbare : ∀ {ts : List Segment}, ts.Sublist (segments s) →
      ∀ seg ∈ ts, seg.isString = true → EndsBare seg.text := fun hts seg hseg h =>
    Segment.endsBare_of_isTerminated (hstring seg (hts.subset hseg) h)
  have hleft : strip m (strip n s) = written (stripped m (segments (strip n s))) :=
    strip_eq_written m fun _ => hread ▸ hbare (stripped_sublist n _)
  have hright : strip (m || n) s = written (stripped (m || n) (segments s)) :=
    strip_eq_written (m || n) fun _ => hbare (List.Sublist.refl _)
  rw [hleft, hread, stripped_stripped, hright]

/-- **Stripping is stable**: from a stripped text no comment is read, and the strings are
those of the text, in order.  So stripping it again changes nothing. -/
theorem segments_strip_and_strip_strip (trim : Bool) :
    (∀ seg ∈ segments (strip trim s), seg.isComment = false) ∧
      (segments (strip trim s)).filter Segment.isString = (segments s).filter Segment.isString ∧
      strip trim (strip trim s) = strip trim s := by
  refine ⟨?_, ?_, ?_⟩
  · rw [segments_strip hstring hblock]
    exact fun seg => isComment_of_mem_stripped
  · rw [segments_strip hstring hblock, filter_isString_stripped]
  · rw [strip_strip hstring hblock, Bool.or_self]

end Stable

/-- Comments in strings stay and comments behind strings go; what is left is stable. -/
theorem segments_strip_of_commented_strings :
    let s := "x = [[--\n]] --[[ a ]] .. y[=[z]=] --b\n\n --c\nt[ 1 ] = \"\\\"--\" --[[d]]\n".toList
    (∀ seg ∈ segments s, seg.isString = true → seg.isTerminated = true) ∧
      bracketMeetsBlock (segments s) = false ∧
      ((∀ seg ∈ segments (strip true s), seg.isComment = false) ∧
        (segments (strip true s)).filter Segment.isString =
          (segments s).filter Segment.isString ∧
        strip true (strip true s) = strip true s) ∧
      strip true s = "x = [[--\n]]  .. y[=[z]=]\nt[ 1 ] = \"\\\"--\"\n".toList := by
  intro s
  have hstring : ∀ seg ∈ segments s, seg.isString = true → seg.isTerminated = true := by
    decide +kernel
  have hblock : bracketMeetsBlock (segments s) = false := by decide +kernel
  exact ⟨hstring, hblock, segments_strip_and_strip_strip hstring hblock true, by decide +kernel⟩

end Lua
end LuaBundler
