/-
# Scanning texts that differ in their line ends

Of two texts that differ in their line ends (`Text.WithReturns`) the scan reads the same
segments (`ScannedAlike`), with two exceptions that leave no trace.  A carriage return before
the line feed is a character of code of its own, or it is the last character of a string
that the line feed ends.  In either place it stands at the end of a line.

There is a third place, and there the scans part: a backslash in a string escapes a line
feed, but of a carriage return and a line feed it escapes the first one only, so that the
line feed ends the string.  `CutsNoString` excludes it.  Then the finished layouts differ
in their line ends again (`layout_withReturns`).
-/

import LuaBundler.Bundle.Layout
import LuaBundler.Proofs.LineEnds
import LuaBundler.Proofs.Regions
import LuaBundler.Proofs.Tidying

namespace LuaBundler
namespace Lua

open Text (WithReturns)

variable {c q : Char} {k : Nat} {r r' s t u v x y rest rest' : List Char}
  {seg seg' : Segment} {ss ts : List Segment}

/-! ### Brackets and quotes -/

theorem afterOpener?_withReturns (h : WithReturns s t) :
    Option.Rel (fun p q => p.1 = q.1 ∧ WithReturns p.2 q.2) (afterOpener? s) (afterOpener? t) := by
  cases h with
  | nil => exact .none
  | put h => exact .none
  | @keep c s t hc h =>
    by_cases hopen : c = '['
    · subst hopen
      have hlevel := h.takeWhile_eq (p := (· == '=')) rfl rfl
      have hdrop := h.dropWhile (p := (· == '=')) (by simp)
      rw [afterOpener?, afterOpener?, hlevel]
      generalize s.dropWhile (· == '=') = u at hdrop ⊢
      generalize t.dropWhile (· == '=') = v at hdrop ⊢
      cases hdrop with
      | nil => exact .none
      | put h => exact .none
      | @keep d u v hd h =>
        by_cases hopen : d = '['
        · subst hopen
          exact .some ⟨rfl, h⟩
        · simp [hopen]
    · simp [afterOpener?, hopen]

theorem withReturns_opener (k : Nat) : WithReturns (opener k) (opener k) :=
  Text.withReturns_self (by simp [opener])

theorem not_break_of_mem_closer (k : Nat) : ∀ c ∈ closer k, c ≠ '\n' ∧ c ≠ '\r' := by
  intro c hc
  simp only [closer, List.mem_cons, List.mem_append, List.mem_replicate, List.not_mem_nil,
    or_false] at hc
  rcases hc with rfl | ⟨-, rfl⟩ | rfl <;> decide

theorem throughCloser_withReturns (h : WithReturns s t) :
    WithReturns (throughCloser k s).1 (throughCloser k t).1 ∧
      WithReturns (throughCloser k s).2 (throughCloser k t).2 := by
  have hcloser : WithReturns (closer k) (closer k) :=
    Text.withReturns_self fun hmem => (not_break_of_mem_closer k _ hmem).2 rfl
  induction h with
  | nil => exact ⟨.nil, .nil⟩
  | @keep c s t hc h ih =>
    have hprefix := (WithReturns.keep hc h).isPrefixOf? (not_break_of_mem_closer k)
    rw [throughCloser, throughCloser]
    generalize (closer k).isPrefixOf? (c :: s) = u at hprefix ⊢
    generalize (closer k).isPrefixOf? (c :: t) = v at hprefix ⊢
    cases hprefix with
    | none => exact ⟨.keep hc ih.1, ih.2⟩
    | some hrest => exact ⟨hcloser, hrest⟩
  | @put s t h ih =>
    have hnone : ∀ c u, c = '\n' ∨ c = '\r' → (closer k).isPrefixOf? (c :: u) = none := by
      rintro c u (rfl | rfl) <;> rfl
    rw [throughCloser, throughCloser, hnone _ _ (.inl rfl), hnone _ _ (.inr rfl)]
    simp only
    rw [throughCloser, hnone _ _ (.inl rfl)]
    exact ⟨.put ih.1, ih.2⟩

/-- The text ends in a backslash and the carriage return that it escapes. -/
def escapesReturn : List Char → Bool
  | '\\' :: c :: r => (c == '\r' && r.isEmpty) || escapesReturn r
  | _ :: r => escapesReturn r
  | [] => false

/-- What is read of a string and what is left, from two texts that differ in their line
ends: the carriage return at the end of the line belongs to the string or stands behind it. -/
inductive SameString : List Char → List Char → List Char → List Char → Prop
  | same {x y u v : List Char} (hx : WithReturns x y) (hu : WithReturns u v) : SameString x u y v
  | atBreak {x y u v : List Char} (hx : WithReturns x y) (hu : WithReturns u v) :
      SameString x ('\n' :: u) (y ++ ['\r']) ('\n' :: v)

theorem SameString.cons (h : SameString x u y v) (hc : c ≠ '\r') :
    SameString (c :: x) u (c :: y) v := by
  cases h with
  | same hx hu => exact .same (.keep hc hx) hu
  | atBreak hx hu => exact .atBreak (.keep hc hx) hu

/-- Nothing is read of a string at a line feed. -/
theorem Quotes.eq_nil_of_break (h : Quotes q y rest) (hbreak : y ++ rest = '\n' :: v) :
    y = [] ∧ rest = '\n' :: v := by
  cases h with
  | atEnd => cases hbreak
  | atBreak => exact ⟨rfl, hbreak⟩
  | atBackslash => cases hbreak
  | close hb hn =>
    cases hbreak
    exact absurd rfl hn
  | escaped h => cases hbreak
  | plain hb hn hc h =>
    cases hbreak
    exact absurd rfl hn

/-- A character that is no backslash does not decide whether a return is escaped. -/
theorem escapesReturn_cons (hc : c ≠ '\\') (r : List Char) :
    escapesReturn (c :: r) = escapesReturn r := by
  rw [escapesReturn]
  exact fun _ _ he => absurd he hc

/-- **A string is read alike**, if no carriage return is escaped at the end of it. -/
theorem Quotes.withReturns (h : Quotes q y rest') (hs : WithReturns s (y ++ rest'))
    (hq : q ≠ '\r') (hcut : escapesReturn y = false) :
    ∃ x rest, s = x ++ rest ∧ Quotes q x rest ∧ SameString x rest y rest' := by
  induction h generalizing s with
  | atEnd =>
    cases hs
    exact ⟨[], [], rfl, .atEnd, .same .nil .nil⟩
  | atBreak =>
    cases hs with
    | keep hc hs => exact ⟨[], _, rfl, .atBreak, .same .nil (.keep hc hs)⟩
  | atBackslash =>
    cases hs with
    | keep hc hs =>
      cases hs
      exact ⟨['\\'], [], rfl, .atBackslash, .same (.keep hc .nil) .nil⟩
  | close hb hn =>
    cases hs with
    | keep hc hs => exact ⟨[q], _, rfl, .close hb hn, .same (.keep hc .nil) hs⟩
    | put hs => exact absurd rfl hq
  | @escaped c y rest' h ih =>
    rw [escapesReturn, Bool.or_eq_false_iff] at hcut
    rw [List.cons_append, List.cons_append] at hs
    cases hs with
    | keep hb hs =>
      generalize hz : y ++ rest' = z at hs
      cases hs with
      | keep hc hs =>
        subst hz
        obtain ⟨x, rest, rfl, hx, hsame⟩ := ih hs hcut.2
        exact ⟨'\\' :: c :: x, rest, rfl, .escaped hx, (hsame.cons hc).cons hb⟩
      | put hs =>
        -- the line feed behind the escaped return ends the string
        obtain ⟨rfl, -⟩ := h.eq_nil_of_break hz
        exact absurd hcut.1 (by decide)
  | @plain c y rest' hb hn hc h ih =>
    rw [escapesReturn_cons hb] at hcut
    rw [List.cons_append] at hs
    generalize hz : y ++ rest' = z at hs
    cases hs with
    | keep hr hs =>
      subst hz
      obtain ⟨x, rest, rfl, hx, hsame⟩ := ih hs hcut
      exact ⟨c :: x, rest, rfl, .plain hb hn hc hx, hsame.cons hr⟩
    | put hs =>
      obtain ⟨rfl, rfl⟩ := h.eq_nil_of_break hz
      exact ⟨[], _, rfl, .atBreak, .atBreak .nil hs⟩

theorem throughQuote_withReturns (h : WithReturns s t) (hq : q ≠ '\r')
    (hcut : escapesReturn (throughQuote q t).1 = false) :
    SameString (throughQuote q s).1 (throughQuote q s).2 (throughQuote q t).1
      (throughQuote q t).2 := by
  rw [← throughQuote_append q t] at h
  obtain ⟨x, rest, rfl, hx, hsame⟩ := (quotes_throughQuote q t).withReturns h hq hcut
  rwa [hx.throughQuote_eq]

/-! ### Segments -/

/-- A string that a line feed ends, behind a carriage return that was escaped. -/
def Segment.cutOff : Segment → Bool
  | quoted t => escapesReturn t
  | _ => false

/-- No string of the text is cut off between an escaped carriage return and the line feed
behind it. -/
def CutsNoString (s : List Char) : Prop := ∀ seg ∈ segments s, seg.cutOff = false

instance (s : List Char) : Decidable (CutsNoString s) :=
  inferInstanceAs (Decidable (∀ seg ∈ segments s, seg.cutOff = false))

/-- The segments two texts begin with, and what is left of each, if they differ in their
line ends only. -/
inductive SameSegment : Segment → List Char → Segment → List Char → Prop
  | same {seg seg' : Segment} {u v : List Char} (hb : seg = .code '\n' ↔ seg' = .code '\n')
      (hk : WithReturns seg.kept seg'.kept) (hu : WithReturns u v) : SameSegment seg u seg' v
  | atBreak {x y u v : List Char} (hx : WithReturns x y) (hu : WithReturns u v) :
      SameSegment (.quoted x) ('\n' :: u) (.quoted (y ++ ['\r'])) ('\n' :: v)

/-- A string is a segment read alike. -/
theorem SameString.quoted (h : SameString x u y v) (hq : q ≠ '\r') :
    SameSegment (.quoted (q :: x)) u (.quoted (q :: y)) v := by
  cases h with
  | same hx hu => exact .same (by simp) (.keep hq hx) hu
  | atBreak hx hu => exact .atBreak (.keep hq hx) hu

/-- **A segment is read alike**, if it is no string that is cut off. -/
theorem readSegment_withReturns (h : WithReturns r r') (hc : c ≠ '\r')
    (hcut : (readSegment c r').1.cutOff = false) :
    SameSegment (readSegment c r).1 (readSegment c r).2 (readSegment c r').1
      (readSegment c r').2 := by
  have hcode : SameSegment (.code c) r (.code c) r' :=
    .same Iff.rfl (.keep hc .nil) h
  by_cases hdash : c = '-'
  · subst hdash
    cases h with
    | nil => exact hcode
    | put h => exact hcode
    | @keep d r r' hd h =>
      by_cases hdash : d = '-'
      · subst hdash
        have hopener := afterOpener?_withReturns h
        simp only [readSegment]
        generalize afterOpener? r = u at hopener ⊢
        generalize afterOpener? r' = v at hopener ⊢
        cases hopener with
        | none => exact .same (by simp) .nil (h.dropWhile (by simp))
        | @some p p' hp =>
          obtain ⟨k, body⟩ := p
          obtain ⟨_, body'⟩ := p'
          obtain ⟨rfl, hbody⟩ := hp
          exact .same (by simp) .nil (throughCloser_withReturns hbody).2
      · simpa [readSegment, hdash] using hcode
  by_cases hdouble : c = '"'
  · subst hdouble
    exact (throughQuote_withReturns h (by decide) hcut).quoted (by decide)
  by_cases hsingle : c = '\''
  · subst hsingle
    exact (throughQuote_withReturns h (by decide) hcut).quoted (by decide)
  by_cases hopen : c = '['
  · subst hopen
    have hopener := afterOpener?_withReturns (.keep hc h)
    simp only [readSegment]
    generalize afterOpener? ('[' :: r) = u at hopener ⊢
    generalize afterOpener? ('[' :: r') = v at hopener ⊢
    cases hopener with
    | none => exact hcode
    | @some p p' hp =>
      obtain ⟨k, body⟩ := p
      obtain ⟨_, body'⟩ := p'
      obtain ⟨rfl, hbody⟩ := hp
      have hstring := throughCloser_withReturns (k := k) hbody
      exact .same (by simp) ((withReturns_opener k).append hstring.1) hstring.2
  · simpa [readSegment, hdash, hdouble, hsingle, hopen] using hcode

/-- Segments of two texts that differ in their line ends.  The second text has carriage
returns of its own before line feeds of the code. -/
inductive ScannedAlike : List Segment → List Segment → Prop
  | nil : ScannedAlike [] []
  | step {seg seg' : Segment} {ss ts : List Segment} (hb : seg = .code '\n' ↔ seg' = .code '\n')
      (hk : WithReturns seg.kept seg'.kept) (h : ScannedAlike ss ts) :
      ScannedAlike (seg :: ss) (seg' :: ts)
  /-- The carriage return is code. -/
  | inCode {ss ts : List Segment} (h : ScannedAlike (.code '\n' :: ss) (.code '\n' :: ts)) :
      ScannedAlike (.code '\n' :: ss) (.code '\r' :: .code '\n' :: ts)
  /-- The carriage return belongs to a string that the line feed ends. -/
  | inString {x y : List Char} {ss ts : List Segment} (hx : WithReturns x y)
      (h : ScannedAlike (.code '\n' :: ss) (.code '\n' :: ts)) :
      ScannedAlike (.quoted x :: .code '\n' :: ss)
        (.quoted (y ++ ['\r']) :: .code '\n' :: ts)

/-- **Texts that differ in their line ends are scanned alike.** -/
theorem scannedAlike (h : WithReturns s t) (hcut : CutsNoString t) :
    ScannedAlike (segments s) (segments t) := by
  unfold CutsNoString at hcut
  fun_induction segments t generalizing s with
  | case1 =>
    cases h
    rw [segments]
    exact .nil
  | case2 c r' ih =>
    rw [List.forall_mem_cons] at hcut
    cases h with
    | @keep _ r _ hc h =>
      have hsame := readSegment_withReturns h hc hcut.1
      rw [segments]
      generalize readSegment c r = p at hsame ⊢
      generalize readSegment c r' = p' at hsame hcut ih ⊢
      obtain ⟨seg, rest⟩ := p
      obtain ⟨seg', rest'⟩ := p'
      cases hsame with
      | same hb hk hu => exact .step hb hk (ih hu hcut.2)
      | atBreak hx hu =>
        have hrest := ih (.keep (by decide) hu) hcut.2
        rw [segments_break, segments_break] at hrest ⊢
        exact .inString hx hrest
    | @put s t h =>
      have hrest := ih (.keep (by decide) h) hcut.2
      have hreturn : readSegment '\r' ('\n' :: t) = (.code '\r', '\n' :: t) := rfl
      rw [hreturn, segments_break, segments_break] at hrest
      rw [hreturn, segments_break, segments_break]
      exact .inCode hrest

/-! ### Layout -/

/-- What is kept of the second text has line ends of its own. -/
theorem ScannedAlike.flatMap_kept (h : ScannedAlike ss ts) :
    WithReturns (ss.flatMap Segment.kept) (ts.flatMap Segment.kept) := by
  induction h with
  | nil => exact .nil
  | step hb hk h ih =>
    rw [List.flatMap_cons, List.flatMap_cons]
    exact hk.append ih
  | inCode h ih =>
    cases ih with
    | keep hc ih => exact .put ih
  | @inString x y ss ts hx h ih =>
    cases ih with
    | keep hc ih =>
      rw [List.flatMap_cons, List.flatMap_cons]
      show WithReturns (x ++ _) ((y ++ ['\r']) ++ _)
      rw [List.append_assoc]
      exact hx.append (.put ih)

theorem removeComments_withReturns (h : WithReturns s t) (hcut : CutsNoString t) :
    WithReturns (removeComments s) (removeComments t) :=
  (scannedAlike h hcut).flatMap_kept

/-- The trimmed lines differ in their line ends. -/
def SameTrimmed (l l' : List Char) : Prop := WithReturns (Text.trimEnd l) (Text.trimEnd l')

theorem SameTrimmed.append {l l' : List Char} (hx : WithReturns x y) (h : SameTrimmed l l') :
    SameTrimmed (x ++ l) (y ++ l') := by
  unfold SameTrimmed at h ⊢
  simp only [Text.trimEnd_append, ← h.eq_nil_iff]
  split
  · exact hx.trimEnd
  · exact hx.append h

/-- A carriage return at the end of a line is trimmed. -/
theorem SameTrimmed.concat_return (hx : WithReturns x y) : SameTrimmed x (y ++ ['\r']) := by
  have hreturn : Text.trimEnd ['\r'] = [] := by decide
  unfold SameTrimmed
  rw [Text.trimEnd_append, if_pos hreturn]
  exact hx.trimEnd

theorem ScannedAlike.codeLines (h : ScannedAlike ss ts) :
    List.Forall₂ SameTrimmed (codeLines ss) (codeLines ts) := by
  induction h with
  | nil => exact .cons .nil .nil
  | @step seg seg' ss ts hb hk h ih =>
    by_cases hbreak : seg = .code '\n'
    · rw [Lua.codeLines, Lua.codeLines, if_pos hbreak, if_pos (hb.1 hbreak)]
      exact .cons .nil ih
    · rw [Lua.codeLines, Lua.codeLines, if_neg hbreak, if_neg (mt hb.2 hbreak)]
      generalize Lua.codeLines ss = ls at ih ⊢
      generalize Lua.codeLines ts = ls' at ih ⊢
      cases ih with
      | nil => exact .nil
      | cons hl hls => exact .cons (hl.append hk) hls
  | inCode h ih =>
    rw [Lua.codeLines, if_pos rfl, Lua.codeLines, if_pos rfl] at ih
    cases ih with
    | cons hl hls => exact .cons (.concat_return .nil) hls
  | @inString x y ss ts hx h ih =>
    rw [Lua.codeLines, if_pos rfl, Lua.codeLines, if_pos rfl] at ih
    cases ih with
    | cons hl hls =>
      show List.Forall₂ SameTrimmed ((x ++ []) :: Lua.codeLines ss)
        ((y ++ ['\r'] ++ []) :: Lua.codeLines ts)
      rw [List.append_nil, List.append_nil]
      exact .cons (.concat_return hx) hls

theorem tidyLine_withReturns {l l' : List Char} (h : SameTrimmed l l') :
    WithReturns (tidyLine l) (tidyLine l') := by
  have hbreak : WithReturns ['\n'] ['\n'] := .keep (by decide) .nil
  unfold SameTrimmed at h
  unfold tidyLine
  generalize Text.trimEnd l = x at h ⊢
  generalize Text.trimEnd l' = y at h ⊢
  cases h with
  | nil => exact .nil
  | keep hc h => exact (WithReturns.keep hc h).append hbreak
  | put h => exact (WithReturns.put h).append hbreak

theorem joinTidy_withReturns {ls ls' : List (List Char)} (h : List.Forall₂ SameTrimmed ls ls') :
    WithReturns (joinTidy ls) (joinTidy ls') := by
  induction h with
  | nil => exact .nil
  | cons hl hls ih =>
    cases hls with
    | nil => exact hl
    | cons hl' hls => exact (tidyLine_withReturns hl).append ih

/-- **Tidied texts differ in their line ends.** -/
theorem tidy_withReturns (h : WithReturns s t) (hcut : CutsNoString t) :
    WithReturns (tidy s) (tidy t) :=
  joinTidy_withReturns (scannedAlike h hcut).codeLines

/-! ### Regions -/

/-- Related lists are cut at the same place by a test that related items pass alike. -/
theorem forall₂_takeWhile_dropWhile {α : Type} {R : α → α → Prop} {p : α → Bool} {as bs : List α}
    (h : List.Forall₂ R as bs) (hp : ∀ a b, R a b → p b = p a) :
    List.Forall₂ R (as.takeWhile p) (bs.takeWhile p) ∧
      List.Forall₂ R (as.dropWhile p) (bs.dropWhile p) := by
  induction h with
  | nil => exact ⟨.nil, .nil⟩
  | @cons a b as bs hab h ih =>
    simp only [List.takeWhile_cons, List.dropWhile_cons, hp a b hab]
    cases p a with
    | true => exact ⟨.cons hab ih.1, ih.2⟩
    | false => exact ⟨.nil, .cons hab h⟩

theorem flatten_withReturns {ls ls' : List (List Char)} (h : List.Forall₂ Text.SameLine ls ls') :
    WithReturns ls.flatten ls'.flatten := by
  induction h with
  | nil => exact .nil
  | cons hl hls ih => exact hl.withReturns.append ih

/-- **The regions of the texts differ in their line ends.** -/
theorem splitRegions_withReturns (h : WithReturns s t) :
    WithReturns (splitRegions s).prolog (splitRegions t).prolog ∧
      WithReturns (splitRegions s).plugin (splitRegions t).plugin ∧
      WithReturns (splitRegions s).epilog (splitRegions t).epilog := by
  obtain ⟨hbefore, hdeclared⟩ := forall₂_takeWhile_dropWhile (p := (!declaresPlugin ·))
    h.brokenLines fun _ _ hl => by rw [declaresPlugin, hl.withoutBreaks_eq, ← declaresPlugin]
  unfold splitRegions
  simp only [List.span_eq_takeWhile_dropWhile]
  generalize (Text.brokenLines s).dropWhile (!declaresPlugin ·) = ls at hdeclared ⊢
  generalize (Text.brokenLines t).dropWhile (!declaresPlugin ·) = ls' at hdeclared ⊢
  cases hdeclared with
  | nil => exact ⟨h, .nil, .nil⟩
  | @cons head head' rest rest' hhead hrest =>
    obtain ⟨hbody, hclosed⟩ := forall₂_takeWhile_dropWhile (p := (!closesPlugin ·))
      hrest fun _ _ hl => by rw [closesPlugin, hl.withoutBreaks_eq, ← closesPlugin]
    simp only
    generalize rest.dropWhile (!closesPlugin ·) = ls at hclosed ⊢
    generalize rest'.dropWhile (!closesPlugin ·) = ls' at hclosed ⊢
    cases hclosed with
    | nil => exact ⟨h, .nil, .nil⟩
    | cons hlast hafter =>
      refine ⟨flatten_withReturns hbefore, ?_, flatten_withReturns hafter⟩
      exact (hhead.withReturns.append (flatten_withReturns hbody)).append hlast.withReturns

end Lua

namespace Bundle

open Lua Text

variable {s t : List Char}

/-- No string of a region is cut off when the layout of the text is finished. -/
def LayoutCutsNoString (s : List Char) : Prop :=
  CutsNoString (splitRegions s).prolog ∧ CutsNoString (splitRegions s).plugin ∧
    CutsNoString (splitRegions s).epilog

instance (s : List Char) : Decidable (LayoutCutsNoString s) :=
  inferInstanceAs (Decidable (_ ∧ _ ∧ _))

/-- **Finished texts differ in their line ends**, if no string is cut off. -/
theorem layout_withReturns (h : WithReturns s t) (hcut : LayoutCutsNoString t) :
    WithReturns (layout true s) (layout true t) := by
  obtain ⟨hprolog, hplugin, hepilog⟩ := splitRegions_withReturns h
  simp only [layout, if_true]
  exact ((tidy_withReturns hprolog hcut.1).append
    (removeComments_withReturns hplugin hcut.2.1)).append (tidy_withReturns hepilog hcut.2.2)

end Bundle
end LuaBundler
