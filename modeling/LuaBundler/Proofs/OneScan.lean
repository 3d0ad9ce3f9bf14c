/-
# Scanning in parts and at once

A text is stripped in two parts as it is in one, if the scan of the whole comes by the place where
they meet on a new line (`PassesBreak`, `EndsFresh.strip_append`).  Nothing that the scan looks for
ahead matters there, and no line goes on from one part to the other.

Stripping is one pass over the segments that puts out line after line (`Draft`,
`strip_eq_finish`).  The pass can look up for each segment whether lines are trimmed there
(`scan`).  A finished bundle is one such scan of all of it, with trimming switched off in the region
of the plugin, if both ends of the region are clean (`IsClean`).
-/

import LuaBundler.Bundle.Layout
import LuaBundler.Proofs.Closed
import LuaBundler.Proofs.Regions

namespace LuaBundler
namespace Lua

open Text

variable {trims : ℕ → Bool} {m t trim : Bool} {place : ℕ} {a b o s : List Char} {d : Draft}
  {seg : Segment} {ss ts : List Segment}

/-! ### Two parts that meet on a new line -/

/-- The scan of `s` comes by the end of its beginning `a` on a new line: the last that it has read
there is a line feed of the code. -/
def PassesBreak (s a : List Char) : Prop :=
  ∃ ss, ss <+: segments s ∧ ss.getLast? = some (.code '\n') ∧ written ss = a

instance (s a : List Char) : Decidable (PassesBreak s a) :=
  decidable_of_iff
    (∃ ss ∈ (segments s).inits, ss.getLast? = some (.code '\n') ∧ written ss = a) <|
    exists_congr fun _ => and_congr_left' (List.mem_inits _ _)

/-- The first part, scanned on its own, is read as it is in the whole. -/
theorem PassesBreak.endsFresh (h : PassesBreak (a ++ b) a) : EndsFresh a := by
  obtain ⟨ss, ⟨ts, hss⟩, hlast, htext⟩ := h
  obtain ⟨rest, hreads, -⟩ := reads_of_segments_eq hss.symm
  have hrest := hreads.text_append
  rw [← written, htext, List.append_cancel_left_eq] at hrest
  subst hrest
  have hsegments : segments a = ss := by
    rw [(Reads.of_append (x := []) hreads).segments_eq, segments, List.append_nil]
  rw [EndsFresh, hsegments]
  exact .inr (List.singleton_suffix_iff_getLast?_eq_some.2 hlast)

/-- **A text is stripped in two parts** that meet behind a line feed of the code. -/
theorem EndsFresh.strip_append (h : EndsFresh a) (trim : Bool) (b : List Char) :
    strip trim (a ++ b) = strip trim a ++ strip trim b := by
  cases trim with
  | true => exact h.tidy_append b
  | false =>
    show removeComments (a ++ b) = removeComments a ++ removeComments b
    rw [removeComments, h.segments_append, List.flatMap_append]
    rfl

/-! ### One pass over the segments -/

theorem Segment.kept_eq_text (h : seg.isComment = false) : seg.kept = seg.text := by
  rw [Segment.kept, h]
  rfl

theorem Segment.kept_eq_nil (h : seg.isComment = true) : seg.kept = [] := by
  rw [Segment.kept, h]
  rfl

/-- What a scan has put out, and what it keeps of the line that it is on. -/
structure Draft where
  out : List Char
  line : List Char
  deriving DecidableEq

namespace Draft

/-- Nothing has been read yet. -/
def empty : Draft := ⟨[], []⟩

/-- A piece of the line is kept. -/
def put (d : Draft) (s : List Char) : Draft := ⟨d.out, d.line ++ s⟩

/-- A line feed ends the line. -/
def endLine (trim : Bool) (d : Draft) : Draft :=
  ⟨d.out ++ if trim then tidyLine d.line else d.line ++ ['\n'], []⟩

/-- The text ends. -/
def finish (trim : Bool) (d : Draft) : List Char :=
  d.out ++ if trim then trimEnd d.line else d.line

/-- An empty line adds nothing at the end. -/
theorem finish_nil (trim : Bool) (o : List Char) : finish trim ⟨o, []⟩ = o := by
  cases trim <;> simp [finish, trimEnd]

/-- A segment is read. -/
def read (trim : Bool) (d : Draft) (seg : Segment) : Draft :=
  if seg = .code '\n' then d.endLine trim else d.put seg.kept

/-- What was put out before stands above. -/
def under (o : List Char) (d : Draft) : Draft := ⟨o ++ d.out, d.line⟩

theorem read_break (trim : Bool) (d : Draft) : d.read trim (.code '\n') = d.endLine trim :=
  if_pos rfl

theorem read_under (o : List Char) (trim : Bool) (d : Draft) (seg : Segment) :
    (d.under o).read trim seg = (d.read trim seg).under o := by
  unfold read
  split
  · exact congrArg (Draft.mk · []) (List.append_assoc _ _ _)
  · rfl

theorem foldl_read_under (o : List Char) (trim : Bool) (ss : List Segment) (d : Draft) :
    ss.foldl (read trim) (d.under o) = (ss.foldl (read trim) d).under o := by
  induction ss generalizing d with
  | nil => rfl
  | cons seg ss ih => rw [List.foldl_cons, List.foldl_cons, read_under, ih]

/-- Segments without comments on one line are written. -/
theorem foldl_read_of_kept (h : ∀ seg ∈ ss, seg ≠ .code '\n' ∧ seg.isComment = false) (d : Draft) :
    ss.foldl (read trim) d = d.put (written ss) := by
  induction ss generalizing d with
  | nil => exact congrArg (Draft.mk d.out) (List.append_nil _).symm
  | cons seg ss ih =>
    obtain ⟨⟨hbreak, hcomment⟩, hss⟩ := List.forall_mem_cons.1 h
    rw [List.foldl_cons, ih hss, read, if_neg hbreak, Segment.kept_eq_text hcomment, written_cons]
    exact congrArg (Draft.mk d.out) (List.append_assoc _ _ _)

/-- Comments are not written. -/
theorem foldl_read_of_comments (h : ∀ seg ∈ ss, seg.isComment = true) (d : Draft) :
    ss.foldl (read trim) d = d := by
  induction ss generalizing d with
  | nil => rfl
  | cons seg ss ih =>
    obtain ⟨hcomment, hss⟩ := List.forall_mem_cons.1 h
    have hbreak : seg ≠ .code '\n' := by
      rintro rfl
      cases hcomment
    rw [List.foldl_cons, ih hss, read, if_neg hbreak, Segment.kept_eq_nil hcomment]
    exact congrArg (Draft.mk d.out) (List.append_nil _)

/-- Without trimming everything is put out that is kept. -/
theorem finish_foldl_read_false (ss : List Segment) (d : Draft) :
    (ss.foldl (read false) d).finish false = d.finish false ++ ss.flatMap Segment.kept := by
  have hread : ∀ (d : Draft) (seg : Segment),
      (d.read false seg).finish false = d.finish false ++ seg.kept := by
    intro d seg
    unfold read
    split
    · next h =>
      subst h
      simp [finish, endLine, Segment.kept, Segment.isComment, Segment.text]
    · simp [finish, put]
  induction ss generalizing d with
  | nil => simp
  | cons seg ss ih => rw [List.foldl_cons, ih, hread, List.flatMap_cons, List.append_assoc]

/-- With trimming the lines of the code are put out tidied. -/
theorem finish_foldl_read_true (ss : List Segment) (d : Draft) :
    (ss.foldl (read true) d).finish true =
      d.out ++ joinTidy ((codeLines ss).modifyHead (d.line ++ ·)) := by
  induction ss generalizing d with
  | nil => simp [finish, codeLines, joinTidy]
  | cons seg ss ih =>
    rw [List.foldl_cons, ih, codeLines, read]
    split
    · rw [List.modifyHead_cons, List.append_nil, joinTidy_cons _ (codeLines_ne_nil ss)]
      cases hlines : codeLines ss with
      | nil => exact absurd hlines (codeLines_ne_nil ss)
      | cons l ls => simp [endLine]
    · simp [put, List.modifyHead_modifyHead, Function.comp_def]

end Draft

/-- **Stripping is one pass over the segments.** -/
theorem strip_eq_finish (trim : Bool) (s : List Char) :
    strip trim s = ((segments s).foldl (Draft.read trim) .empty).finish trim := by
  cases trim with
  | true =>
    rw [Draft.finish_foldl_read_true]
    cases hlines : codeLines (segments s) with
    | nil => exact absurd hlines (codeLines_ne_nil _)
    | cons l ls => simp [Draft.empty, strip, tidy, hlines]
  | false =>
    rw [Draft.finish_foldl_read_false]
    rfl

/-- Where the scan of a text ends on a new line, everything has been put out. -/
theorem EndsFresh.foldl_read (h : EndsFresh a) (trim : Bool) (o : List Char) :
    (segments a).foldl (Draft.read trim) ⟨o, []⟩ = ⟨o ++ strip trim a, []⟩ := by
  have hline : ((segments a).foldl (Draft.read trim) .empty).line = [] := by
    rcases h with rfl | ⟨ss, hss⟩
    · rw [segments]
      rfl
    · rw [← hss, List.foldl_append, List.foldl_cons, Draft.read_break]
      rfl
  have hstart : (⟨o, []⟩ : Draft) = Draft.empty.under o := by simp [Draft.under, Draft.empty]
  have hout : strip trim a = ((segments a).foldl (Draft.read trim) .empty).out := by
    rw [strip_eq_finish, ← Draft.finish_nil trim (Draft.out _), ← hline]
  rw [hstart, Draft.foldl_read_under, Draft.under, hline, hout]

/-! ### A scan that is trimmed in parts -/

/-- Segments are read from a place of the text on.  For each one `trims` says whether lines are
trimmed at its place, and the text ends in the mode of the last one. -/
def scanFrom (trims : ℕ → Bool) : ℕ → Bool → Draft → List Segment → List Char
  | _, trim, d, [] => d.finish trim
  | place, _, d, seg :: ss =>
    scanFrom trims (place + seg.text.length) (trims place) (d.read (trims place) seg) ss

/-- A text without its comments, scanned once, with lines trimmed where `trims` says so. -/
def scan (trims : ℕ → Bool) (s : List Char) : List Char :=
  scanFrom trims 0 true .empty (segments s)

/-- On a stretch of the text in which the mode does not change the segments are read in it. -/
theorem scanFrom_append (hne : ∀ seg ∈ ss, seg.text ≠ [])
    (hm : ∀ i, place ≤ i → i < place + (written ss).length → trims i = m) (ts : List Segment) :
    scanFrom trims place t d (ss ++ ts) =
      scanFrom trims (place + (written ss).length) (if ss = [] then t else m)
        (ss.foldl (Draft.read m) d) ts := by
  induction ss generalizing place t d with
  | nil => rfl
  | cons seg ss ih =>
    obtain ⟨hseg, hss⟩ := List.forall_mem_cons.1 hne
    have hpos := List.length_pos_iff.2 hseg
    rw [written_cons, List.length_append] at hm
    have hmode : trims place = m := hm place le_rfl (by omega)
    rw [List.cons_append, scanFrom, ih hss (fun i hi hlt => hm i (by omega) (by omega)), hmode,
      if_neg (List.cons_ne_nil seg ss), ite_self, written_cons, List.length_append, Nat.add_assoc,
      List.foldl_cons]

theorem text_ne_nil_of_mem_segments (h : seg ∈ segments s) : seg.text ≠ [] := by
  have hlegible := legible_segments s
  generalize segments s = ss at h hlegible
  induction ss with
  | nil => cases h
  | cons first ss ih =>
    obtain ⟨hstands, hss⟩ := legible_cons_iff.1 hlegible
    rcases List.mem_cons.1 h with rfl | h
    · exact hstands.text_ne_nil
    · exact ih h hss

/-- A part that ends on a new line is stripped in its mode, and the scan goes on behind it. -/
theorem EndsFresh.exists_scanFrom_append (h : EndsFresh a)
    (hm : ∀ i, place ≤ i → i < place + a.length → trims i = m) (ts : List Segment) :
    ∃ u, scanFrom trims place t ⟨o, []⟩ (segments a ++ ts) =
      scanFrom trims (place + a.length) u ⟨o ++ strip m a, []⟩ ts := by
  have hrun := scanFrom_append (t := t) (d := ⟨o, []⟩)
    (fun _ => text_ne_nil_of_mem_segments (s := a)) (by rwa [written_segments]) ts
  rw [written_segments, h.foldl_read] at hrun
  exact ⟨_, hrun⟩

/-- A last part is stripped in its mode. -/
theorem scanFrom_segments (hm : ∀ i, place ≤ i → i < place + a.length → trims i = m) :
    scanFrom trims place t ⟨o, []⟩ (segments a) = o ++ strip m a := by
  have hrun := scanFrom_append (t := t) (d := Draft.empty.under o)
    (fun _ => text_ne_nil_of_mem_segments (s := a)) (by rwa [written_segments]) []
  have hstart : (⟨o, []⟩ : Draft) = Draft.empty.under o := by simp [Draft.under, Draft.empty]
  rw [List.append_nil] at hrun
  rw [hstart, hrun, scanFrom, strip_eq_finish, Draft.foldl_read_under]
  split
  · next hnil =>
    -- nothing was read, and the line is empty
    rw [hnil, List.foldl_nil, ← hstart, Draft.finish_nil, Draft.empty, Draft.finish_nil,
      List.append_nil]
  · exact List.append_assoc _ _ _

/-- **A scan that is trimmed everywhere or nowhere strips the text.** -/
theorem scan_const (trim : Bool) (s : List Char) : scan (fun _ => trim) s = strip trim s :=
  scanFrom_segments fun _ _ _ => rfl

/-- A place at which a text can be cut: one of its ends, or one that the scan comes by on a new
line. -/
def IsClean (s a : List Char) : Prop := a = [] ∨ a = s ∨ PassesBreak s a

instance (s a : List Char) : Decidable (IsClean s a) :=
  inferInstanceAs (Decidable (_ ∨ _ ∨ _))

/-- The scan begins afresh at a clean place, or the text ends there. -/
theorem IsClean.endsFresh (h : IsClean (a ++ b) a) : EndsFresh a ∨ b = [] := by
  rcases h with rfl | h | h
  · exact .inl (.inl rfl)
  · exact .inr (List.append_right_eq_self.1 h.symm)
  · exact .inl h.endsFresh

/-- What is behind the beginning of a text ends on a new line if the text does. -/
theorem EndsFresh.of_append (ha : EndsFresh a) (h : EndsFresh (a ++ b)) : EndsFresh b := by
  rcases List.eq_nil_or_concat (segments b) with hnil | ⟨ss, seg, hss⟩
  · have hb := written_segments b
    rw [hnil] at hb
    exact .inl hb.symm
  · rcases h with h | h
    · exact .inl (List.append_eq_nil_iff.1 h).2
    · rw [ha.segments_append, hss, List.concat_eq_append, ← List.append_assoc,
        List.singleton_suffix_iff_getLast?_eq_some, List.getLast?_concat] at h
      refine .inr ⟨ss, ?_⟩
      rw [hss, List.concat_eq_append, Option.some.inj h]

/-- The places outside of a stretch of the text. -/
def outside (start stop i : ℕ) : Bool := decide (i < start) || decide (stop ≤ i)

/-- **A text is scanned at once with trimming off in the middle**, if both ends of the middle are
clean. -/
theorem scan_outside {p q e : List Char} (hp : IsClean (p ++ (q ++ e)) p)
    (hq : IsClean (p ++ q ++ e) (p ++ q)) :
    scan (outside p.length (p ++ q).length) (p ++ q ++ e) =
      strip true p ++ strip false q ++ strip true e := by
  have hbefore : ∀ i, 0 ≤ i → i < 0 + p.length → outside p.length (p ++ q).length i = true :=
    fun i _ hi => by simp [outside, show i < p.length by omega]
  have hinside : ∀ i, 0 + p.length ≤ i → i < 0 + p.length + q.length →
      outside p.length (p ++ q).length i = false := fun i hi hlt => by
    simp only [outside, List.length_append, Bool.or_eq_false_iff, decide_eq_false_iff_not]
    omega
  have hbehind : ∀ i, 0 + p.length + q.length ≤ i → i < 0 + p.length + q.length + e.length →
      outside p.length (p ++ q).length i = true := fun i hi _ => by
    simp only [outside, List.length_append, Bool.or_eq_true, decide_eq_true_eq]
    omega
  have hnil : ∀ trim, strip trim [] = [] := by decide +kernel
  unfold scan Draft.empty
  rcases hp.endsFresh with hp | hp
  · obtain ⟨u, hrun⟩ := hp.exists_scanFrom_append (o := []) (t := true) hbefore
      (segments (q ++ e))
    rw [List.append_assoc, hp.segments_append, hrun, List.nil_append]
    rcases hq.endsFresh with hq | rfl
    · obtain ⟨v, hrun⟩ := (hp.of_append hq).exists_scanFrom_append (o := strip true p) (t := u)
        hinside (segments e)
      rw [(hp.of_append hq).segments_append, hrun, scanFrom_segments hbehind]
    · rw [List.append_nil, scanFrom_segments hinside, hnil, List.append_nil]
  · obtain ⟨rfl, rfl⟩ := List.append_eq_nil_iff.1 hp
    rw [List.append_nil, List.append_nil, hnil, hnil, List.append_nil, List.append_nil]
    rw [List.append_nil] at hbefore
    exact scanFrom_segments hbefore

end Lua

namespace Bundle

open Lua

/-- **Stripping is additive where the scan comes by on a new line.**  So a finished bundle is one
scan of all of it, with trimming switched off in the region of the plugin, if both ends of the
region are clean. -/
theorem strip_append_and_layout_eq_scan :
    (∀ a b, PassesBreak (a ++ b) a → ∀ trim, strip trim (a ++ b) = strip trim a ++ strip trim b) ∧
      ∀ s, let r := splitRegions s
        IsClean s r.prolog → IsClean s (r.prolog ++ r.plugin) →
          layout true s = scan (outside r.prolog.length (r.prolog ++ r.plugin).length) s := by
  refine ⟨fun a b h trim => h.endsFresh.strip_append trim b, fun s => ?_⟩
  intro r hprolog hplugin
  have htext : r.prolog ++ r.plugin ++ r.epilog = s := regions_append s
  rw [← htext] at hplugin
  rw [← htext, List.append_assoc] at hprolog
  have hscan := scan_outside hprolog hplugin
  rw [htext] at hscan
  rw [hscan]
  rfl

/-- Both parts of the first text hold marks of comments in strings, and a string over two lines is
in the first one.  In the second text a comment that looks like a plugin comes first, and the region
has blanks at the ends of its lines. -/
theorem strip_append_and_layout_eq_scan_of_awkward_texts :
    let a := "x = [[ --\n]]  --[=[ \n]=] \n".toList
    let b := "\n\ty = '--' --z".toList
    let s := "--[[\nfunction plugin\n]]\n".toList ++
      "function plugindef() \n\n  return '--' --y\nend\n\n--z".toList
    let r := splitRegions s
    PassesBreak (a ++ b) a ∧ strip true (a ++ b) = strip true a ++ strip true b ∧
      strip true a = "x = [[ --\n]]\n".toList ∧
      IsClean s r.prolog ∧ IsClean s (r.prolog ++ r.plugin) ∧
      layout true s = scan (outside r.prolog.length (r.prolog ++ r.plugin).length) s ∧
      layout true s = "function plugindef() \n\n  return '--' \nend\n".toList := by
  intro a b s r
  have hcut : PassesBreak (a ++ b) a := by decide +kernel
  have hprolog : IsClean s r.prolog := by decide +kernel
  have hplugin : IsClean s (r.prolog ++ r.plugin) := by decide +kernel
  exact ⟨hcut, strip_append_and_layout_eq_scan.1 a b hcut true, by decide +kernel, hprolog, hplugin,
    strip_append_and_layout_eq_scan.2 s hprolog hplugin, by decide +kernel⟩

end Bundle
end LuaBundler
