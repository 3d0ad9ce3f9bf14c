/-
# Reading a stripped text again

`thin` takes segments away instead of characters: the comments and, if wanted, the blanks of
the code that stand at the end of a line, a line feed before another line feed among them.
Its segments written out are the text without comments, or the tidy text
(`removeComments_eq_written`, `tidy_eq_written`).

So the question how a stripped text is read is whether its segments stand as they stood in
front of other text.  What follows a segment can change it in a few ways only (`Stands.swap`),
and thinning changes what follows in one of them: behind `[` and signs `=` a comment can go
that kept them from a second `[`.  Where that does not happen, the thinned segments are what
is read from the stripped text (`legible_thin`).
-/

import LuaBundler.Proofs.Grammar

namespace LuaBundler
namespace Lua

open Text

variable {c q : Char} {k : Nat} {r s t x y : List Char} {seg : Segment} {ss ts : List Segment}

/-! ### What follows a segment -/

/-- What stands behind a bracket matters only if the bracket is not closed. -/
theorem Closes.swap (h : Closes k t x) (hy : x = [] → y = []) : Closes k t y := by
  induction h with
  | atEnd =>
    rw [hy rfl]
    exact .atEnd
  | bracket => exact .bracket
  | @inside c t x hc h ih =>
    refine .inside ?_ (ih hy)
    by_cases hx : x = []
    · rwa [hy hx, ← hx]
    · -- the bracket that ends `t` is no longer than `t`
      have hlength : (closer k).length ≤ (c :: t).length :=
        ((h.closer_suffix hx).trans (List.suffix_cons c t)).length_le
      rw [← List.cons_append] at hc ⊢
      intro hk
      have hstart : closer k <+: c :: t :=
        List.prefix_of_prefix_length_le hk (List.prefix_append _ _) hlength
      exact hc (hstart.trans (List.prefix_append _ _))

/-- What stands behind a quoted string matters only if no quote closes it. -/
theorem Quotes.swap (h : Quotes q t x) (hend : x = [] → y = [])
    (hbreak : x.head? = some '\n' → y = [] ∨ y.head? = some '\n') : Quotes q t y := by
  induction h with
  | atEnd =>
    rw [hend rfl]
    exact .atEnd
  | atBreak =>
    rcases hbreak rfl with rfl | hy
    · exact .atEnd
    · obtain ⟨y, rfl⟩ := List.head?_eq_some_iff.1 hy
      exact .atBreak
  | atBackslash =>
    rw [hend rfl]
    exact .atBackslash
  | close hb hn => exact .close hb hn
  | escaped h ih => exact .escaped (ih hend hbreak)
  | plain hb hn hq h ih => exact .plain hb hn hq (ih hend hbreak)

/-- The segment is read from its text if `x` stands behind that. -/
def Stands (seg : Segment) (x : List Char) : Prop :=
  ∃ c u, seg.text = c :: u ∧ Begins c (u ++ x) seg x

/-- **What follows a segment of code or a string can change it in four ways**: a dash makes a
comment of a dash, a bracket goes on, and an open string ends elsewhere if its text or its
line goes on. -/
theorem Stands.swap (h : Stands seg x) (hseg : seg.isComment = false)
    (hdash : seg = .code '-' → y.head? ≠ some '-')
    (hopen : seg = .code '[' → afterOpener? ('[' :: y) = none)
    (hend : x = [] → y = []) (hbreak : x.head? = some '\n' → y = [] ∨ y.head? = some '\n') :
    Stands seg y := by
  obtain ⟨c, u, htext, hbegins⟩ := h
  refine ⟨c, u, htext, ?_⟩
  generalize hr : u ++ x = r at hbegins
  cases hbegins with
  | blockComment => cases hseg
  | lineComment => cases hseg
  | quoted hq hc =>
    cases htext
    obtain ⟨-, hquotes⟩ := throughQuote_eq_iff.1 hc
    exact .quoted hq (hquotes.swap hend hbreak).throughQuote_eq
  | @longString k r body t x ho hc =>
    cases htext
    obtain ⟨-, hcloses⟩ := throughCloser_eq_iff.1 hc
    refine .longString ?_ (hcloses.swap hend).throughCloser_eq
    rw [← afterOpener?_opener k (t ++ y)]
    simp [opener]
  | code _ hquote _ =>
    cases htext
    refine .code (fun hc v hv => ?_) hquote fun hc => ?_
    · exact hdash (congrArg Segment.code hc) (by rw [← List.nil_append y, hv]; rfl)
    · exact hopen (congrArg Segment.code hc)

theorem Stands.segments_eq (h : Stands seg x) : segments (seg.text ++ x) = seg :: segments x := by
  obtain ⟨c, u, htext, hbegins⟩ := h
  rw [htext, List.cons_append, segments, hbegins.readSegment_eq]

/-! ### Segments that are read from what they write -/

/-- The text of some segments. -/
def written (ss : List Segment) : List Char := ss.flatMap Segment.text

@[simp] theorem written_nil : written [] = [] := rfl

@[simp] theorem written_cons (seg : Segment) (ss : List Segment) :
    written (seg :: ss) = seg.text ++ written ss := rfl

/-- The segments are read from their own text. -/
def Legible (ss : List Segment) : Prop := Reads (written ss) ss []

theorem legible_nil : Legible [] := .done

theorem Legible.segments_eq (h : Legible ss) : segments (written ss) = ss := by
  rw [Reads.segments_eq h, segments, List.append_nil]

theorem legible_segments (s : List Char) : Legible (segments s) := by
  obtain ⟨rest, hreads, hrest⟩ := reads_of_segments_eq (List.append_nil (segments s)).symm
  have hnil : rest = [] := by
    cases rest with
    | nil => rfl
    | cons c r =>
      rw [segments] at hrest
      cases hrest
  rw [hnil] at hreads
  have htext := hreads.text_append
  rw [List.append_nil] at htext
  rwa [Legible, written, htext]

/-- The first segment stands before the others, which are read behind it. -/
theorem legible_cons_iff :
    Legible (seg :: ss) ↔ Stands seg (written ss) ∧ Legible ss := by
  constructor
  · intro h
    rw [Legible] at h
    generalize hs : written (seg :: ss) = s at h
    cases h with
    | @step c r left _ _ _ hseg h =>
      have hleft : written ss = left := by
        have htext := h.text_append
        rwa [List.append_nil] at htext
      subst hleft
      have hne : seg.text ≠ [] := by
        have hne := text_readSegment_ne_nil c r
        rwa [hseg.readSegment_eq] at hne
      obtain ⟨d, u, hu⟩ := List.exists_cons_of_ne_nil hne
      rw [written_cons, hu, List.cons_append] at hs
      cases hs
      exact ⟨⟨c, u, hu, hseg⟩, h⟩
  · rintro ⟨⟨c, u, htext, hseg⟩, h⟩
    rw [Legible, written_cons, htext, List.cons_append]
    exact .step hseg h

/-- What a bracket in the code needs to become an opening long bracket. -/
theorem isSome_afterOpener?_cons (c : Char) (s : List Char) :
    (afterOpener? ('[' :: c :: s)).isSome =
      (c == '[' || c == '=' && (afterOpener? ('[' :: s)).isSome) := by
  by_cases hopen : c = '['
  · subst hopen
    simp [afterOpener?]
  · by_cases hlevel : c = '='
    · subst hlevel
      simp only [afterOpener?, List.dropWhile_cons, beq_self_eq_true, if_true]
      cases h : s.dropWhile (· == '=') with
      | nil => simp
      | cons d u => by_cases hd : d = '[' <;> simp [hd]
    · simp [afterOpener?, hopen, hlevel]

/-! ### Thinning -/

/-- The segment is a blank of the code at the end of its line if `ts` follows: a line feed
before another one, or any other blank before a line feed or the end. -/
def Segment.isLoose : Segment → List Segment → Bool
  | code c, ts => isBlank c && (ts.head? == some (code '\n') || ts.isEmpty && c != '\n')
  | _, _ => false

/-- The segments without comments and, if `trim` says so, without loose blanks. -/
def thin (trim : Bool) : List Segment → List Segment
  | [] => []
  | seg :: ss =>
    if seg.isComment || trim && seg.isLoose (thin trim ss) then thin trim ss
    else seg :: thin trim ss

/-- No segment, or a line feed of the code, comes next. -/
def EndsLine (ts : List Segment) : Prop := ts = [] ∨ ts.head? = some (.code '\n')

theorem exists_of_isLoose (h : seg.isLoose ts = true) :
    (∃ c, seg = .code c ∧ isBlank c = true) ∧ EndsLine ts := by
  unfold Segment.isLoose at h
  split at h
  · next c =>
    simp only [Bool.and_eq_true, Bool.or_eq_true, beq_iff_eq, List.isEmpty_iff] at h
    exact ⟨⟨c, rfl, h.1⟩, h.2.elim .inr fun hnil => .inl hnil.1⟩
  · cases h

/-- A segment is a comment or a blank that is taken away, or it stays. -/
theorem thin_cons_cases (trim : Bool) (seg : Segment) (ss : List Segment) :
    (seg.isComment = true ∧ thin trim (seg :: ss) = thin trim ss) ∨
      ((∃ c, seg = .code c ∧ isBlank c = true) ∧ EndsLine (thin trim ss) ∧
        thin trim (seg :: ss) = thin trim ss) ∨
      (seg.isComment = false ∧ thin trim (seg :: ss) = seg :: thin trim ss) := by
  rw [thin]
  split
  · next h =>
    rcases Bool.or_eq_true_iff.1 h with hcomment | hloose
    · exact .inl ⟨hcomment, rfl⟩
    · obtain ⟨hblank, hends⟩ := exists_of_isLoose (Bool.and_eq_true_iff.1 hloose).2
      exact .inr (.inl ⟨hblank, hends, rfl⟩)
  · next h =>
    rw [Bool.or_eq_true_iff, not_or, Bool.not_eq_true] at h
    exact .inr (.inr ⟨h.1, rfl⟩)

theorem isComment_of_mem_thin {trim : Bool} (h : seg ∈ thin trim ss) : seg.isComment = false := by
  induction ss with
  | nil => cases h
  | cons seg' ss ih =>
    rcases thin_cons_cases trim seg' ss with
      ⟨-, heq⟩ | ⟨-, -, heq⟩ | ⟨hcomment, heq⟩ <;> rw [heq] at h
    · exact ih h
    · exact ih h
    · rcases List.mem_cons.1 h with rfl | h
      · exact hcomment
      · exact ih h

theorem thin_sublist (trim : Bool) (ss : List Segment) : (thin trim ss).Sublist ss := by
  induction ss with
  | nil => exact .slnil
  | cons seg ss ih =>
    rcases thin_cons_cases trim seg ss with ⟨-, heq⟩ | ⟨-, -, heq⟩ | ⟨-, heq⟩ <;> rw [heq]
    · exact ih.cons seg
    · exact ih.cons seg
    · exact ih.cons_cons seg

/-- Thinning takes no string away. -/
theorem filter_isString_thin (trim : Bool) (ss : List Segment) :
    (thin trim ss).filter Segment.isString = ss.filter Segment.isString := by
  induction ss with
  | nil => rfl
  | cons seg ss ih =>
    rcases thin_cons_cases trim seg ss with ⟨hcomment, heq⟩ | ⟨⟨c, rfl, -⟩, -, heq⟩ | ⟨-, heq⟩ <;>
      rw [heq]
    · have hstring : seg.isString = false := by
        cases seg <;> first | rfl | cases hcomment
      rw [ih, List.filter_cons_of_neg (by simp [hstring])]
    · rw [ih, List.filter_cons_of_neg (by simp [Segment.isString])]
    · rw [List.filter_cons, List.filter_cons, ih]

/-- Thinning once more changes nothing but what the first thinning left to do. -/
theorem thin_thin (m n : Bool) (ss : List Segment) : thin m (thin n ss) = thin (m || n) ss := by
  induction ss with
  | nil => rfl
  | cons seg ss ih =>
    cases hcomment : seg.isComment with
    | true => simp [thin, hcomment, ih]
    | false =>
      cases n with
      | false =>
        rw [Bool.or_false] at ih ⊢
        simp [thin, hcomment, ih]
      | true =>
        rw [Bool.or_true] at ih ⊢
        cases hloose : seg.isLoose (thin true ss) <;> simp [thin, hcomment, hloose, ih]

/-! ### Reading thinned segments -/

/-- Signs `=` and comments come next, and then a bracket. -/
def opensBehind : List Segment → Bool
  | [] => false
  | seg :: ss =>
    if seg.isComment || seg == .code '=' then opensBehind ss else seg.text.head? == some '['

/-- Somewhere a bracket of the code makes an opening long bracket with another one when the
comments between them go. -/
def fusesBrackets : List Segment → Bool
  | [] => false
  | seg :: ss => seg == .code '[' && opensBehind ss || fusesBrackets ss

theorem Stands.text_ne_nil (h : Stands seg x) : seg.text ≠ [] := by
  obtain ⟨c, u, htext, -⟩ := h
  rw [htext]
  exact List.cons_ne_nil c u

theorem Stands.head?_of_isComment (h : Stands seg x) (hseg : seg.isComment = true) :
    seg.text.head? = some '-' := by
  obtain ⟨c, u, htext, hbegins⟩ := h
  rw [htext]
  cases seg <;> cases hseg <;> generalize u ++ x = r at hbegins <;> cases hbegins <;> rfl

/-- Only code can begin with a character that begins no string and no comment. -/
theorem Stands.eq_code (h : Stands seg x) (hc : seg.text.head? = some c) (hdash : c ≠ '-')
    (hquote : ¬ (c = '"' ∨ c = '\'')) (hopen : c ≠ '[') : seg = .code c := by
  obtain ⟨d, u, htext, hbegins⟩ := h
  rw [htext] at hc
  cases hc
  generalize u ++ x = r at hbegins
  cases hbegins with
  | blockComment => exact absurd rfl hdash
  | lineComment => exact absurd rfl hdash
  | quoted hq => exact absurd hq hquote
  | longString => exact absurd rfl hopen
  | code => rfl

theorem EndsLine.written (h : EndsLine ts) : written ts = [] ∨ (written ts).head? = some '\n' := by
  rcases h with rfl | h
  · exact .inl rfl
  · obtain ⟨ts, rfl⟩ := List.head?_eq_some_iff.1 h
    exact .inr rfl

theorem eq_nil_of_written_eq_nil (h : Legible ss) (hnil : written ss = []) : ss = [] := by
  cases ss with
  | nil => rfl
  | cons seg ss =>
    exact absurd (List.append_eq_nil_iff.1 hnil).1 (legible_cons_iff.1 h).1.text_ne_nil

theorem head?_written_cons (h : seg.text ≠ []) (ss : List Segment) :
    (written (seg :: ss)).head? = seg.text.head? := by
  rw [written_cons, List.head?_append_of_ne_nil _ h]

/-- Where a dash comes next after thinning, one came next before. -/
theorem head?_written_of_thin {trim : Bool} (h : Legible ss)
    (hdash : (written (thin trim ss)).head? = some '-') : (written ss).head? = some '-' := by
  cases ss with
  | nil => exact hdash
  | cons seg ss =>
    have hstands := (legible_cons_iff.1 h).1
    rw [head?_written_cons hstands.text_ne_nil]
    rcases thin_cons_cases trim seg ss with ⟨hcomment, -⟩ | ⟨-, hends, heq⟩ | ⟨-, heq⟩
    · exact hstands.head?_of_isComment hcomment
    · rw [heq] at hdash
      rcases hends.written with hnil | hbreak
      · rw [hnil] at hdash
        cases hdash
      · rw [hbreak] at hdash
        exact absurd hdash (by decide)
    · rwa [heq, head?_written_cons hstands.text_ne_nil] at hdash

/-- Where a line feed came next before thinning, one or nothing comes next. -/
theorem written_thin_of_break (trim : Bool) (h : Legible ss)
    (hbreak : (written ss).head? = some '\n') :
    written (thin trim ss) = [] ∨ (written (thin trim ss)).head? = some '\n' := by
  cases ss with
  | nil => cases hbreak
  | cons seg ss =>
    have hstands := (legible_cons_iff.1 h).1
    rw [head?_written_cons hstands.text_ne_nil] at hbreak
    obtain rfl := hstands.eq_code hbreak (by decide) (by decide) (by decide)
    rcases thin_cons_cases trim (.code '\n') ss with ⟨hcomment, -⟩ | ⟨-, hends, heq⟩ | ⟨-, heq⟩
    · cases hcomment
    · rw [heq]
      exact hends.written
    · rw [heq]
      exact .inr rfl

/-- A bracket before thinned segments opens a long bracket exactly if another one stands
behind signs `=` and comments. -/
theorem isSome_afterOpener?_written_thin (trim : Bool) (h : Legible ss) :
    (afterOpener? ('[' :: written (thin trim ss))).isSome = opensBehind ss := by
  induction ss with
  | nil => rfl
  | cons seg ss ih =>
    obtain ⟨hstands, hss⟩ := legible_cons_iff.1 h
    rw [opensBehind]
    rcases thin_cons_cases trim seg ss with
      ⟨hcomment, heq⟩ | ⟨⟨c, rfl, hblank⟩, hends, heq⟩ | ⟨hcomment, heq⟩
    · rw [heq, hcomment, Bool.true_or, if_pos rfl, ih hss]
    · -- a blank is taken away: what comes next opens nothing
      have hc : c ≠ '=' ∧ c ≠ '[' := by
        constructor <;> rintro rfl <;> cases hblank
      rw [heq, if_neg (by simp [Segment.isComment, hc.1])]
      have hopen : ((Segment.code c).text.head? == some '[') = false := by simp [Segment.text, hc.2]
      rw [hopen]
      rcases hends with hnil | hbreak
      · rw [hnil]
        rfl
      · obtain ⟨ts, hts⟩ := List.head?_eq_some_iff.1 hbreak
        rw [hts, written_cons, Segment.text, List.singleton_append, isSome_afterOpener?_cons]
        rfl
    · rw [heq, written_cons, hcomment, Bool.false_or]
      have hcode := hstands.eq_code (c := '=')
      obtain ⟨c, u, htext, -⟩ := hstands
      rw [htext, List.cons_append, isSome_afterOpener?_cons]
      by_cases hlevel : seg = .code '='
      · subst hlevel
        cases htext
        rw [List.nil_append, ih hss]
        rfl
      · have hc : c ≠ '=' := by
          rintro rfl
          exact hlevel (hcode (by rw [htext]; rfl) (by decide) (by decide) (by decide))
        simp [hlevel, hc]

/-- A segment that stays stands before what is left, if it is no bracket that fuses. -/
theorem stands_thin (trim : Bool) (h : Legible (seg :: ss)) (hcomment : seg.isComment = false)
    (hfuse : seg = .code '[' → opensBehind ss = false) : Stands seg (written (thin trim ss)) := by
  obtain ⟨hstands, hss⟩ := legible_cons_iff.1 h
  refine hstands.swap hcomment ?_ ?_ ?_ (written_thin_of_break trim hss)
  · rintro rfl hdash
    obtain ⟨c, u, htext, hbegins⟩ := hstands
    cases htext
    obtain ⟨v, hv⟩ := List.head?_eq_some_iff.1 (head?_written_of_thin hss hdash)
    rw [List.nil_append] at hbegins
    generalize written ss = r at hbegins hv
    cases hbegins with
    | code hno => exact hno rfl v hv
  · intro hopen
    rw [← Option.not_isSome_iff_eq_none, isSome_afterOpener?_written_thin trim hss, hfuse hopen]
    exact Bool.false_ne_true
  · intro hnil
    rw [eq_nil_of_written_eq_nil hss hnil]
    rfl

/-- **Thinned segments are read from what they write**, if no brackets fuse. -/
theorem legible_thin (trim : Bool) (h : Legible ss) (hfuse : fusesBrackets ss = false) :
    Legible (thin trim ss) := by
  induction ss with
  | nil => exact legible_nil
  | cons seg ss ih =>
    rw [fusesBrackets, Bool.or_eq_false_iff] at hfuse
    have hthin := ih (legible_cons_iff.1 h).2 hfuse.2
    rcases thin_cons_cases trim seg ss with ⟨-, heq⟩ | ⟨-, -, heq⟩ | ⟨hcomment, heq⟩ <;> rw [heq]
    · exact hthin
    · exact hthin
    · refine legible_cons_iff.2 ⟨stands_thin trim h hcomment ?_, hthin⟩
      rintro rfl
      simpa using hfuse.1

/-! ### What thinned segments write -/

theorem flatMap_kept_eq_written (ss : List Segment) :
    ss.flatMap Segment.kept = written (thin false ss) := by
  induction ss with
  | nil => rfl
  | cons seg ss ih =>
    rw [List.flatMap_cons, ih, Segment.kept, thin]
    cases h : seg.isComment <;> simp

/-- Without comments a text is what its segments write that are none. -/
theorem removeComments_eq_written (s : List Char) :
    removeComments s = written (thin false (segments s)) :=
  flatMap_kept_eq_written _

/-- Segments without the line feed that ends a blank first line. -/
def dropBreak (ts : List Segment) : List Segment :=
  if ts.head? = some (.code '\n') then ts.tail else ts

/-- The lines behind a first line, tidied, with the line feed before them. -/
def restTidy (ls : List (List Char)) : List Char := if ls = [] then [] else '\n' :: joinTidy ls

/-- The segments `ts` write what is left of a first line `l` and the lines `ls` behind it. -/
inductive Tidies (l : List Char) (ls : List (List Char)) (ts : List Segment) : Prop
  | blank (hl : trimEnd l = []) (hls : ls = []) (hts : ts = [])
  | blankLine {us : List Segment} (hl : trimEnd l = []) (hls : ls ≠ [])
      (hts : ts = .code '\n' :: us) (hus : written us = joinTidy ls)
  | line (hl : trimEnd l ≠ []) (hts : ¬ EndsLine ts) (htext : written ts = trimEnd l ++ restTidy ls)

variable {l : List Char} {ls : List (List Char)}

theorem Tidies.written_eq (h : Tidies l ls ts) : written ts = trimEnd l ++ restTidy ls := by
  cases h with
  | blank hl hls hts =>
    subst hls hts
    rw [hl]
    rfl
  | blankLine hl hls hts hus => rw [hts, hl, restTidy, if_neg hls, written_cons, hus]; rfl
  | line hl hts htext => exact htext

theorem trimEnd_append_restTidy (hl : trimEnd l ≠ []) :
    trimEnd l ++ restTidy ls = joinTidy (l :: ls) := by
  cases ls with
  | nil => exact List.append_nil _
  | cons l' ls =>
    have hline : tidyLine l = trimEnd l ++ ['\n'] := by
      rw [tidyLine]
      cases h : trimEnd l with
      | nil => exact absurd h hl
      | cons c u => rfl
    rw [joinTidy_cons l (List.cons_ne_nil l' ls), hline, List.append_assoc, restTidy,
      if_neg (List.cons_ne_nil l' ls)]
    rfl

/-- What is left of the lines, written by segments. -/
theorem Tidies.written_dropBreak (h : Tidies l ls ts) :
    written (dropBreak ts) = joinTidy (l :: ls) := by
  cases h with
  | blank hl hls hts =>
    subst hls hts
    exact hl.symm
  | blankLine hl hls hts hus =>
    rw [hts, joinTidy_cons l hls, tidyLine, hl, ← hus]
    rfl
  | line hl hts htext =>
    rw [dropBreak, if_neg fun hbreak => hts (.inr hbreak), htext, trimEnd_append_restTidy hl]

/-- A segment that ends in no blank stays on its line. -/
theorem Tidies.cons (h : Tidies l ls ts) (hbare : EndsBare seg.text) :
    Tidies (seg.text ++ l) ls (seg :: ts) := by
  have htrim : trimEnd (seg.text ++ l) = seg.text ++ trimEnd l := by
    rw [trimEnd_append, hbare.trimEnd_eq]
    split
    · next hl => rw [hl, List.append_nil]
    · rfl
  obtain ⟨u, c, hu, hc⟩ := hbare
  refine .line ?_ ?_ ?_
  · rw [htrim, hu]
    simp
  · rintro (hnil | hbreak)
    · cases hnil
    · cases hbreak
      obtain rfl : '\n' = c := by
        have hlast := congrArg List.getLast? hu
        rwa [List.getLast?_concat, Segment.text, List.getLast?_singleton,
          Option.some.injEq] at hlast
      cases hc
  · rw [written_cons, h.written_eq, htrim, List.append_assoc]

/-- A line feed of the code takes the place of the one that ends a blank line behind it. -/
theorem thin_break_cons (ss : List Segment) :
    thin true (.code '\n' :: ss) = .code '\n' :: dropBreak (thin true ss) := by
  have hblank : isBlank '\n' = true := rfl
  by_cases h : (thin true ss).head? = some (.code '\n')
  · obtain ⟨ts, hts⟩ := List.head?_eq_some_iff.1 h
    simp [thin, Segment.isLoose, dropBreak, hblank, hts]
  · simp [thin, Segment.isComment, Segment.isLoose, dropBreak, h]

theorem thin_cons_of_isLoose_eq_false (hcomment : seg.isComment = false)
    (h : seg.isLoose (thin true ss) = false) : thin true (seg :: ss) = seg :: thin true ss := by
  simp [thin, hcomment, h]

/-- A blank goes if it is at the end of its line. -/
theorem Tidies.blank_cons (h : Tidies l ls (thin true ss)) (hblank : isBlank c = true)
    (hc : c ≠ '\n') : Tidies (c :: l) ls (thin true (.code c :: ss)) := by
  have htrim : trimEnd (c :: l) = if trimEnd l = [] then [] else c :: trimEnd l := by
    by_cases hl : dropEndWhile isBlank l = [] <;> simp [trimEnd, dropEndWhile_cons, hblank, hl]
  have hgo : EndsLine (thin true ss) → thin true (.code c :: ss) = thin true ss := by
    rintro (hnil | hbreak)
    · simp [thin, Segment.isLoose, hblank, hc, hnil]
    · simp [thin, Segment.isLoose, hblank, hbreak]
  cases h with
  | blank hl hls hts =>
    rw [hgo (.inl hts)]
    exact .blank (by rw [htrim, if_pos hl]) hls hts
  | blankLine hl hls hts hus =>
    rw [hgo (.inr (by rw [hts]; rfl))]
    exact .blankLine (by rw [htrim, if_pos hl]) hls hts hus
  | line hl hts htext =>
    have hstays : (Segment.code c).isLoose (thin true ss) = false :=
      Bool.eq_false_iff.2 fun hloose => hts (exists_of_isLoose hloose).2
    rw [if_neg hl] at htrim
    rw [thin_cons_of_isLoose_eq_false rfl hstays]
    refine .line ?_ ?_ ?_
    · rw [htrim]
      exact List.cons_ne_nil _ _
    · rintro (hnil | hbreak)
      · cases hnil
      · cases hbreak
        exact hc rfl
    · rw [written_cons, htext, htrim]
      rfl

/-- Thinned segments write the tidy lines, if no string ends in a blank. -/
theorem exists_tidies (hbare : ∀ seg ∈ ss, seg.isString = true → EndsBare seg.text) :
    ∃ l ls, codeLines ss = l :: ls ∧ Tidies l ls (thin true ss) := by
  induction ss with
  | nil => exact ⟨[], [], rfl, .blank rfl rfl rfl⟩
  | cons seg ss ih =>
    obtain ⟨l, ls, hlines, htidies⟩ := ih fun seg h => hbare seg (List.mem_cons_of_mem _ h)
    have hseg := hbare seg List.mem_cons_self
    rw [codeLines, hlines]
    split
    · next h =>
      subst h
      exact ⟨[], l :: ls, rfl, .blankLine rfl (List.cons_ne_nil l ls) (thin_break_cons ss)
        htidies.written_dropBreak⟩
    · next hne =>
      refine ⟨seg.kept ++ l, ls, rfl, ?_⟩
      cases seg with
      | code c =>
        cases hblank : isBlank c with
        | true => exact htidies.blank_cons hblank fun hc => hne (congrArg Segment.code hc)
        | false =>
          rw [thin_cons_of_isLoose_eq_false rfl (by simp [Segment.isLoose, hblank])]
          have hbare : EndsBare (Segment.code c).text := ⟨[], c, rfl, hblank⟩
          exact htidies.cons hbare
      | quoted t =>
        rw [thin_cons_of_isLoose_eq_false rfl rfl]
        exact htidies.cons (hseg rfl)
      | longString t =>
        rw [thin_cons_of_isLoose_eq_false rfl rfl]
        exact htidies.cons (hseg rfl)
      | lineComment t => exact htidies
      | blockComment t => exact htidies

/-- A tidy text is what its thinned segments write behind a blank first line, if no string
ends in a blank. -/
theorem tidy_eq_written
    (hbare : ∀ seg ∈ segments s, seg.isString = true → EndsBare seg.text) :
    tidy s = written (dropBreak (thin true (segments s))) := by
  obtain ⟨l, ls, hlines, htidies⟩ := exists_tidies hbare
  rw [tidy, hlines, htidies.written_dropBreak]

/-! ### Both ways to strip a text -/

/-- A text without its comments, tidied if `trim` says so. -/
def strip (trim : Bool) (s : List Char) : List Char := if trim then tidy s else removeComments s

/-- The segments that a stripped text is made of. -/
def stripped (trim : Bool) (ss : List Segment) : List Segment :=
  if trim then dropBreak (thin true ss) else thin false ss

theorem strip_eq_written (trim : Bool)
    (hbare : trim = true → ∀ seg ∈ segments s, seg.isString = true → EndsBare seg.text) :
    strip trim s = written (stripped trim (segments s)) := by
  cases trim with
  | true => exact tidy_eq_written (hbare rfl)
  | false => exact removeComments_eq_written s

theorem eq_or_cons_dropBreak (ts : List Segment) :
    ts = dropBreak ts ∨ ts = .code '\n' :: dropBreak ts := by
  unfold dropBreak
  split
  · next h =>
    obtain ⟨us, rfl⟩ := List.head?_eq_some_iff.1 h
    exact .inr rfl
  · exact .inl rfl

/-- Of the thinned segments a line feed at the beginning may be missing. -/
theorem thin_eq_or_cons_stripped (trim : Bool) (ss : List Segment) :
    thin trim ss = stripped trim ss ∨ thin trim ss = .code '\n' :: stripped trim ss := by
  cases trim with
  | true => exact eq_or_cons_dropBreak _
  | false => exact .inl rfl

theorem stripped_sublist (trim : Bool) (ss : List Segment) : (stripped trim ss).Sublist ss := by
  refine List.Sublist.trans ?_ (thin_sublist trim ss)
  rcases thin_eq_or_cons_stripped trim ss with h | h <;> rw [h]
  exact List.sublist_cons_self _ _

theorem isComment_of_mem_stripped {trim : Bool} (h : seg ∈ stripped trim ss) :
    seg.isComment = false := by
  have hmem : seg ∈ thin trim ss := by
    rcases thin_eq_or_cons_stripped trim ss with heq | heq <;> rw [heq]
    · exact h
    · exact List.mem_cons_of_mem _ h
  exact isComment_of_mem_thin hmem

/-- Stripping takes no string away. -/
theorem filter_isString_stripped (trim : Bool) (ss : List Segment) :
    (stripped trim ss).filter Segment.isString = ss.filter Segment.isString := by
  rw [← filter_isString_thin trim ss]
  rcases thin_eq_or_cons_stripped trim ss with h | h <;> rw [h]
  rfl

/-- **Stripped segments are read from what they write**, if no brackets fuse. -/
theorem legible_stripped (trim : Bool) (h : Legible ss) (hfuse : fusesBrackets ss = false) :
    Legible (stripped trim ss) := by
  have hthin := legible_thin trim h hfuse
  rcases thin_eq_or_cons_stripped trim ss with heq | heq <;> rw [heq] at hthin
  · exact hthin
  · exact (legible_cons_iff.1 hthin).2

/-- Stripping once more tidies what was not tidied and changes nothing else. -/
theorem stripped_stripped (m n : Bool) (ss : List Segment) :
    stripped m (stripped n ss) = stripped (m || n) ss := by
  cases n with
  | false =>
    rw [Bool.or_false]
    cases m <;> simp [stripped, thin_thin]
  | true =>
    have hagain : ∀ m, thin m (thin true ss) = thin true ss := fun m => by
      rw [thin_thin, Bool.or_true]
    rw [Bool.or_true]
    show stripped m (dropBreak (thin true ss)) = dropBreak (thin true ss)
    rcases eq_or_cons_dropBreak (thin true ss) with h | h
    · rw [← h]
      cases m with
      | true => rw [stripped, if_pos rfl, hagain, ← h]
      | false => exact hagain false
    · generalize dropBreak (thin true ss) = ts at h
      rw [h] at hagain
      cases m with
      | true =>
        have hbreak := hagain true
        rw [thin_break_cons, List.cons.injEq] at hbreak
        exact hbreak.2
      | false => exact (List.cons.inj (hagain false)).2

end Lua
end LuaBundler
