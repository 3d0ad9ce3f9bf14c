/-
# Indented text

A registration holds the lines of a module's body with a margin before each that is not empty
(`indentLine`).  On the text as a whole this is `indent`: a margin where a line begins, unless
the line is empty (`flatMap_indentLine_lines`).  It does not ask what the beginning of a line
lies in, so it indents string literals and comments as it does code.

Yet it does so in one way only.  The segments of an indented text are those of the text, each
indented on its own, with a margin of the code where one begins a line
(`segments_indent`).  No segment begins or ends elsewhere, for none of the marks that decide
about this goes over the end of a line.
-/

import LuaBundler.Lua.Registration
import LuaBundler.Proofs.Closed

namespace LuaBundler

namespace Text

variable {c : Char} {s t x : List Char}

/-- What stands before a line that is indented. -/
def margin : List Char := "    ".toList

/-- The margin of a text if a line begins with it. -/
def marginIf (fresh : Bool) : List Char := if fresh then margin else []

/-- A text with a margin before each line that is not empty.  `fresh` tells whether a line
begins with the text. -/
def indent (fresh : Bool) : List Char → List Char
  | [] => []
  | c :: r => if c = '\n' then '\n' :: indent true r else marginIf fresh ++ c :: indent false r

/-- Whether a line begins behind a text, if `fresh` tells whether one begins with it. -/
def freshAfter (fresh : Bool) : List Char → Bool
  | [] => fresh
  | c :: r => freshAfter (c == '\n') r

/-- A text whose last line has a line feed. -/
def endLine (s : List Char) : List Char :=
  if s = [] ∨ s.getLast? = some '\n' then s else s ++ ['\n']

@[simp] theorem indent_nil (fresh : Bool) : indent fresh [] = [] := rfl

theorem indent_break (fresh : Bool) (s : List Char) :
    indent fresh ('\n' :: s) = '\n' :: indent true s := rfl

theorem indent_cons (hc : c ≠ '\n') (fresh : Bool) (s : List Char) :
    indent fresh (c :: s) = marginIf fresh ++ c :: indent false s := if_neg hc

/-- A margin, or none, is some spaces. -/
theorem exists_marginIf_eq (fresh : Bool) : ∃ n, marginIf fresh = List.replicate n ' ' := by
  cases fresh with
  | false => exact ⟨0, rfl⟩
  | true => exact ⟨4, rfl⟩

theorem indent_append (fresh : Bool) (s t : List Char) :
    indent fresh (s ++ t) = indent fresh s ++ indent (freshAfter fresh s) t := by
  induction s generalizing fresh with
  | nil => rfl
  | cons c s ih =>
    by_cases hc : c = '\n'
    · subst hc
      rw [List.cons_append, indent_break, indent_break, ih, List.cons_append]
      rfl
    · rw [List.cons_append, indent_cons hc, indent_cons hc, ih, List.append_assoc,
        List.cons_append, freshAfter, beq_false_of_ne hc]

theorem freshAfter_concat (fresh : Bool) (s : List Char) (c : Char) :
    freshAfter fresh (s ++ [c]) = (c == '\n') := by
  induction s generalizing fresh with
  | nil => rfl
  | cons d s ih => rw [List.cons_append, freshAfter, ih]

/-- Text that ends in no line feed is indented without regard to what follows. -/
theorem indent_append_of_getLast? (fresh : Bool) (hs : s ≠ []) (hlast : s.getLast? ≠ some '\n')
    (t : List Char) : indent fresh (s ++ t) = indent fresh s ++ indent false t := by
  obtain ⟨u, c, rfl⟩ := List.eq_nil_or_concat s |>.resolve_left hs
  rw [List.concat_eq_append] at hlast ⊢
  rw [List.getLast?_concat, ne_eq, Option.some.injEq] at hlast
  rw [indent_append, freshAfter_concat, beq_false_of_ne hlast]

/-- Where a line begins that is not empty, the margin is put. -/
theorem indent_eq_append (fresh : Bool) (hs : s ≠ []) (hhead : s.head? ≠ some '\n') :
    indent fresh s = marginIf fresh ++ indent false s := by
  cases s with
  | nil => exact absurd rfl hs
  | cons c s =>
    have hc : c ≠ '\n' := fun h => hhead (congrArg some h)
    rw [indent_cons hc, indent_cons hc]
    rfl

/-- Within a line nothing is indented. -/
theorem indent_append_of_not_mem (h : '\n' ∉ s) (t : List Char) :
    indent false (s ++ t) = s ++ indent false t := by
  induction s with
  | nil => rfl
  | cons c s ih =>
    rw [List.mem_cons, not_or] at h
    rw [List.cons_append, indent_cons (Ne.symm h.1), ih h.2]
    rfl

theorem indent_of_not_mem (h : '\n' ∉ s) : indent false s = s := by
  have happend := indent_append_of_not_mem h []
  rwa [List.append_nil, indent_nil, List.append_nil] at happend

theorem length_le_length_indent (fresh : Bool) (s : List Char) :
    s.length ≤ (indent fresh s).length := by
  induction s generalizing fresh with
  | nil => exact Nat.zero_le _
  | cons c s ih =>
    by_cases hc : c = '\n'
    · subst hc
      exact Nat.succ_le_succ (ih true)
    · rw [indent_cons hc, List.length_append, List.length_cons, List.length_cons]
      have hrest := ih false
      omega

/-- A line that is not empty gets longer. -/
theorem length_lt_length_indent (hs : s ≠ []) (hlast : s.getLast? ≠ some '\n') :
    s.length < (indent true s).length := by
  induction s with
  | nil => exact absurd rfl hs
  | cons c s ih =>
    by_cases hc : c = '\n'
    · subst hc
      cases s with
      | nil => exact absurd rfl hlast
      | cons d s =>
        rw [List.getLast?_cons_cons] at hlast
        exact Nat.succ_lt_succ (ih (List.cons_ne_nil d s) hlast)
    · have hmargin : (marginIf true).length = 4 := by decide
      have hrest := length_le_length_indent false s
      rw [indent_cons hc, List.length_append, List.length_cons, List.length_cons, hmargin]
      omega

/-- Text that ends in no line feed stays as it is exactly if it has none. -/
theorem indent_eq_self_iff (hlast : s.getLast? ≠ some '\n') : indent false s = s ↔ '\n' ∉ s := by
  refine ⟨fun h hmem => ?_, indent_of_not_mem⟩
  -- `x` is the first line, and something stands behind its line feed
  obtain ⟨x, r, hs, hx⟩ := List.eq_append_cons_of_mem hmem
  subst hs
  rw [indent_append_of_not_mem hx, indent_break, List.append_cancel_left_eq, List.cons.injEq] at h
  have hr : r ≠ [] := by
    rintro rfl
    exact hlast List.getLast?_concat
  have hlast' : r.getLast? ≠ some '\n' := by
    obtain ⟨d, u, rfl⟩ := List.exists_cons_of_ne_nil hr
    rwa [List.getLast?_append_of_ne_nil _ (List.cons_ne_nil _ _), List.getLast?_cons_cons] at hlast
  have hlength := length_lt_length_indent hr hlast'
  rw [h.2] at hlength
  exact Nat.lt_irrefl _ hlength

theorem indent_line_append (fresh : Bool) (hx : '\n' ∉ x) (hne : x ≠ []) (s : List Char) :
    indent fresh (x ++ '\n' :: s) = marginIf fresh ++ x ++ '\n' :: indent true s := by
  have hlast : x.getLast? ≠ some '\n' := fun h => hx (List.mem_of_getLast? h)
  have hhead : x.head? ≠ some '\n' := fun h => hx (List.mem_of_head? h)
  rw [indent_append_of_getLast? fresh hne hlast, indent_eq_append fresh hne hhead,
    indent_of_not_mem hx, indent_break]

/-- The lines of a text, one of which is `x`. -/
theorem lines_line_append (hn : '\n' ∉ x) (hr : '\r' ∉ x) (s : List Char) :
    lines (x ++ '\n' :: s) = x :: lines s := by
  have hlast : x.getLast? ≠ some '\r' := fun h => hr (List.mem_of_getLast? h)
  rw [lines, brokenLines_line_append hn, List.map_cons, withoutBreak]
  simp [hlast, lines]

theorem lines_of_not_mem (hn : '\n' ∉ x) (hne : x ≠ []) : lines x = [x] := by
  have hlines : brokenLines x = [x] := by
    induction x with
    | nil => exact absurd rfl hne
    | cons c x ih =>
      rw [List.mem_cons, not_or] at hn
      rw [brokenLines, if_neg (Ne.symm hn.1)]
      cases x with
      | nil => rfl
      | cons d x => rw [ih hn.2 (List.cons_ne_nil d x)]
  have hlast : x.getLast? ≠ some '\n' := fun h => hn (List.mem_of_getLast? h)
  rw [lines, hlines, List.map_singleton, withoutBreak, if_neg hlast]

theorem endLine_of_not_mem (hn : '\n' ∉ x) (hne : x ≠ []) : endLine x = x ++ ['\n'] := by
  refine if_neg (not_or.2 ⟨hne, fun h => hn (List.mem_of_getLast? h)⟩)

theorem endLine_append_break (x s : List Char) :
    endLine (x ++ '\n' :: s) = x ++ '\n' :: endLine s := by
  have hne : x ++ '\n' :: s ≠ [] := by simp
  unfold endLine
  cases s with
  | nil => simp
  | cons c s =>
    have hlast : (x ++ '\n' :: c :: s).getLast? = (c :: s).getLast? := by
      rw [List.getLast?_append_of_ne_nil _ (List.cons_ne_nil _ _), List.getLast?_cons_cons]
    rw [hlast]
    by_cases h : (c :: s).getLast? = some '\n' <;> simp [h]

theorem endLine_eq_nil_or (s : List Char) : endLine s = [] ∨ (endLine s).getLast? = some '\n' := by
  unfold endLine
  split
  · next h => exact h
  · exact .inr List.getLast?_concat

/-- Only the last part of a text needs a line feed, if the first ends in one. -/
theorem endLine_append (h : s = [] ∨ s.getLast? = some '\n') (t : List Char) :
    endLine (s ++ t) = s ++ endLine t := by
  rcases h with rfl | h
  · rfl
  · obtain ⟨u, rfl⟩ := List.getLast?_eq_some_iff.1 h
    rw [List.append_assoc, List.singleton_append, endLine_append_break, List.append_assoc]
    rfl

end Text

namespace Lua

open Text

variable {c q : Char} {k : Nat} {s t x y : List Char} {seg : Segment} {ss ts : List Segment}

/-- **The indented lines of a text are the indented text.** -/
theorem flatMap_indentLine_lines (h : '\r' ∉ s) :
    (lines s).flatMap indentLine = indent true (endLine s) := by
  have hline : ∀ x y : List Char, '\n' ∉ x →
      indent true (x ++ '\n' :: y) = indentLine x ++ indent true y := fun x y hx => by
    unfold indentLine
    split
    · next hnil =>
      subst hnil
      rfl
    · next hne =>
      rw [indent_line_append true hx hne, List.append_assoc, List.append_assoc, List.append_assoc]
      rfl
  -- `x` is what has been read of the first line
  suffices hall : ∀ s x : List Char, '\n' ∉ x → '\r' ∉ x → '\r' ∉ s →
      (lines (x ++ s)).flatMap indentLine = indent true (endLine (x ++ s)) from
    hall s [] List.not_mem_nil List.not_mem_nil h
  intro s
  induction s with
  | nil =>
    intro x hn hr _
    rw [List.append_nil]
    by_cases hne : x = []
    · subst hne
      rfl
    · rw [lines_of_not_mem hn hne, endLine_of_not_mem hn hne, hline x [] hn,
        List.flatMap_singleton, indent_nil, List.append_nil]
  | cons c s ih =>
    intro x hn hr hs
    rw [List.mem_cons, not_or] at hs
    by_cases hc : c = '\n'
    · subst hc
      rw [lines_line_append hn hr, endLine_append_break, hline x _ hn, List.flatMap_cons]
      exact congrArg (indentLine x ++ ·) (ih [] List.not_mem_nil List.not_mem_nil hs.2)
    · have hx := ih (x ++ [c]) (by simp [hn, Ne.symm hc]) (by simp [hr, hs.1]) hs.2
      rwa [List.append_assoc] at hx

/-! ### The segments of an indented text -/

/-- A segment with a margin behind each of its line feeds, where the line is not empty. -/
def Segment.indented : Segment → Segment
  | code c => code c
  | quoted t => quoted (indent false t)
  | longString t => longString (indent false t)
  | lineComment t => lineComment (indent false t)
  | blockComment t => blockComment (indent false t)

/-- Indented segments, with a margin before each that begins a line which is not empty. -/
def indentSegments (fresh : Bool) : List Segment → List Segment
  | [] => []
  | seg :: ss =>
    if seg = .code '\n' then .code '\n' :: indentSegments true ss
    else (marginIf fresh).map .code ++ seg.indented :: indentSegments false ss

theorem Segment.text_indented (seg : Segment) : seg.indented.text = indent false seg.text := by
  cases seg with
  | code c =>
    by_cases hc : c = '\n'
    · subst hc
      rfl
    · exact (indent_cons hc false []).symm
  | _ => rfl

theorem firstLine_indent_append (s t : List Char) :
    firstLine (indent false s ++ t) = firstLine (s ++ t) := by
  induction s with
  | nil => rfl
  | cons c s ih =>
    by_cases hc : c = '\n'
    · subst hc
      rfl
    · rw [indent_cons hc]
      exact (firstLine_cons hc _).trans
        ((congrArg (c :: ·) ih).trans (firstLine_cons hc _).symm)

/-- A margin closes no long bracket. -/
theorem Closes.marginIf_append (h : Closes k t x) (fresh : Bool) :
    Closes k (marginIf fresh ++ t) x := by
  obtain ⟨n, hn⟩ := exists_marginIf_eq fresh
  rw [hn]
  clear hn
  induction n with
  | zero => exact h
  | succ n ih =>
    refine .inside (fun hk => ?_) ih
    cases (List.cons_prefix_cons.1 hk).1

/-- A long bracket is closed in an indented text as in the text. -/
theorem Closes.indent (h : Closes k t x) (fresh : Bool) : Closes k (indent fresh t) x := by
  induction h generalizing fresh with
  | atEnd => exact .atEnd
  | bracket =>
    rw [indent_eq_append fresh (by simp [closer]) (by simp [closer]),
      indent_of_not_mem (not_break_mem_closer k)]
    exact Closes.bracket.marginIf_append fresh
  | @inside c t x hc h ih =>
    by_cases hbreak : c = '\n'
    · subst hbreak
      refine .inside (fun hk => ?_) (ih true)
      cases (List.cons_prefix_cons.1 hk).1
    · rw [indent_cons hbreak]
      refine Closes.marginIf_append (.inside ?_ (ih false)) fresh
      -- the bracket would stand on the line, and that is the same in both texts
      rwa [← prefix_firstLine_iff (not_break_mem_closer k), firstLine_cons hbreak,
        firstLine_indent_append, ← firstLine_cons hbreak,
        prefix_firstLine_iff (not_break_mem_closer k)]

/-- A margin ends no quoted string. -/
theorem Quotes.marginIf_append (h : Quotes q t x) (hq : q = '"' ∨ q = '\'') (fresh : Bool) :
    Quotes q (marginIf fresh ++ t) x := by
  have hspace : ' ' ≠ q := by rcases hq with rfl | rfl <;> decide
  obtain ⟨n, hn⟩ := exists_marginIf_eq fresh
  rw [hn]
  clear hn
  induction n with
  | zero => exact h
  | succ n ih => exact .plain (by decide) (by decide) hspace ih

/-- A quoted string ends in an indented text as in the text. -/
theorem Quotes.indent (h : Quotes q t x) (hq : q = '"' ∨ q = '\'') (fresh : Bool) :
    Quotes q (indent fresh t) x := by
  induction h generalizing fresh with
  | atEnd => exact .atEnd
  | atBreak => exact .atBreak
  | atBackslash => exact Quotes.atBackslash.marginIf_append hq fresh
  | close hb hn =>
    rw [indent_cons hn]
    exact (Quotes.close hb hn).marginIf_append hq fresh
  | @escaped c t x h ih =>
    rw [indent_cons (by decide)]
    refine Quotes.marginIf_append ?_ hq fresh
    by_cases hc : c = '\n'
    · subst hc
      exact .escaped (ih true)
    · rw [indent_cons hc]
      exact .escaped (ih false)
  | plain hb hn hne h ih =>
    rw [indent_cons hn]
    exact (Quotes.plain hb hn hne (ih false)).marginIf_append hq fresh

/-- **A segment is read from an indented text as from the text.** -/
theorem Stands.indented (h : Stands seg x) : Stands seg.indented x := by
  obtain ⟨c, u, htext, hbegins⟩ := h
  generalize hr : u ++ x = r at hbegins
  cases hbegins with
  | @blockComment k r body t x ho hc =>
    cases htext
    obtain ⟨-, hcloses⟩ := throughCloser_eq_iff.1 hc
    have hindented : Text.indent false ('-' :: '-' :: (opener k ++ t)) =
        '-' :: '-' :: (opener k ++ Text.indent false t) :=
      congrArg ('-' :: '-' :: ·) (indent_append_of_not_mem (not_break_mem_opener k) t)
    refine ⟨'-', '-' :: (opener k ++ Text.indent false t), hindented, ?_⟩
    rw [Segment.indented, hindented, List.cons_append, List.append_assoc]
    exact .blockComment (afterOpener?_opener k _) (hcloses.indent false).throughCloser_eq
  | @lineComment r t x ho htail ht hrest =>
    cases htext
    have hindented : Text.indent false ('-' :: '-' :: t) = '-' :: '-' :: t :=
      congrArg ('-' :: '-' :: ·) (indent_of_not_mem ht)
    refine ⟨'-', '-' :: t, hindented, ?_⟩
    rw [Segment.indented, hindented, List.cons_append, ← htail]
    exact .lineComment ho htail ht hrest
  | quoted hq hc =>
    cases htext
    obtain ⟨-, hquotes⟩ := throughQuote_eq_iff.1 hc
    have hindented : Text.indent false (c :: u) = c :: Text.indent false u :=
      indent_cons (ne_of_isQuote hq).2 false u
    refine ⟨c, Text.indent false u, hindented, ?_⟩
    rw [Segment.indented, hindented]
    exact .quoted hq (hquotes.indent hq false).throughQuote_eq
  | @longString k r body t x ho hc =>
    cases htext
    obtain ⟨-, hcloses⟩ := throughCloser_eq_iff.1 hc
    have hindented : Text.indent false (opener k ++ t) = opener k ++ Text.indent false t :=
      indent_append_of_not_mem (not_break_mem_opener k) t
    refine ⟨'[', (List.replicate k '=' ++ ['[']) ++ Text.indent false t, hindented, ?_⟩
    rw [Segment.indented, hindented, List.append_assoc]
    exact .longString (afterOpener?_opener k _) (hcloses.indent false).throughCloser_eq
  | code hdash hquote hopen =>
    cases htext
    exact ⟨_, [], rfl, .code hdash hquote hopen⟩

theorem written_map_code_append (x : List Char) (ts : List Segment) :
    written (x.map .code ++ ts) = x ++ written ts := by
  induction x with
  | nil => rfl
  | cons c x ih => exact congrArg (c :: ·) ih

/-- Indented segments write the indented text, if each keeps to the lines of the code. -/
theorem written_indentSegments (fresh : Bool) (h : ∀ seg ∈ ss, seg.KeepsLines) :
    written (indentSegments fresh ss) = Text.indent fresh (written ss) := by
  induction ss generalizing fresh with
  | nil => rfl
  | cons seg ss ih =>
    have hrest := fun fresh' => ih fresh' fun seg hseg => h seg (List.mem_cons_of_mem _ hseg)
    rw [indentSegments]
    split
    · next hseg =>
      subst hseg
      rw [written_cons, written_cons, hrest]
      rfl
    · next hseg =>
      obtain ⟨hne, hbreak⟩ := h seg List.mem_cons_self
      have hhead : seg.text.head? ≠ some '\n' := fun h => hseg (hbreak (.inl h))
      have hlast : seg.text.getLast? ≠ some '\n' := fun h => hseg (hbreak (.inr h))
      rw [written_map_code_append, written_cons, written_cons, hrest, Segment.text_indented,
        indent_append_of_getLast? fresh hne hlast, indent_eq_append fresh hne hhead,
        List.append_assoc]

theorem Legible.margin_append (h : Legible ss) (fresh : Bool) :
    Legible ((marginIf fresh).map .code ++ ss) := by
  obtain ⟨n, hn⟩ := exists_marginIf_eq fresh
  rw [hn]
  clear hn
  induction n with
  | zero => exact h
  | succ n ih =>
    exact legible_cons_iff.2 ⟨stands_code (by decide) (by decide) (by decide) _, ih⟩

/-- **Indented segments are read from what they write.** -/
theorem legible_indentSegments (fresh : Bool) (h : Legible ss)
    (hclosed : ∀ seg ∈ ss, seg.isClosed = true) : Legible (indentSegments fresh ss) := by
  induction ss generalizing fresh with
  | nil => exact legible_nil
  | cons seg ss ih =>
    obtain ⟨hstands, hss⟩ := legible_cons_iff.1 h
    have hclosed' : ∀ seg ∈ ss, seg.isClosed = true := fun seg hseg =>
      hclosed seg (List.mem_cons_of_mem _ hseg)
    have hrest := fun fresh' => ih fresh' hss hclosed'
    rw [indentSegments]
    split
    · exact legible_cons_iff.2 ⟨stands_code (by decide) (by decide) (by decide) _, hrest true⟩
    · refine Legible.margin_append (legible_cons_iff.2 ⟨Stands.indented ?_, hrest false⟩) fresh
      refine hstands.of_firstLine (hclosed seg List.mem_cons_self) ?_
      have hline := firstLine_indent_append (written ss) []
      rwa [List.append_nil, List.append_nil,
        ← written_indentSegments false (hss.keepsLines hclosed')] at hline

/-- A line feed that ends the segments ends them indented. -/
theorem break_suffix_indentSegments (fresh : Bool) (h : [.code '\n'] <:+ ss) :
    [.code '\n'] <:+ indentSegments fresh ss := by
  obtain ⟨ts, rfl⟩ := h
  induction ts generalizing fresh with
  | nil => exact List.suffix_rfl
  | cons seg ts ih =>
    rw [List.cons_append, indentSegments]
    split
    · exact (ih true).trans (List.suffix_cons _ _)
    · exact ((ih false).trans (List.suffix_cons _ _)).trans (List.suffix_append _ _)

/-- **The segments of an indented text are those of the text, indented one by one.** -/
theorem segments_indent (fresh : Bool) (hclosed : ∀ seg ∈ segments s, seg.isClosed = true) :
    segments (Text.indent fresh s) = indentSegments fresh (segments s) := by
  have h := legible_segments s
  have hwritten := written_indentSegments fresh (h.keepsLines hclosed)
  rw [written_segments] at hwritten
  rw [← hwritten, (legible_indentSegments fresh h hclosed).segments_eq]

/-- The strings of an indented text are those of the text, indented one by one. -/
theorem filter_isString_indentSegments (fresh : Bool) (ss : List Segment) :
    (indentSegments fresh ss).filter Segment.isString =
      (ss.filter Segment.isString).map Segment.indented := by
  have hmargin : ∀ fresh ts, ((marginIf fresh).map Segment.code ++ ts).filter Segment.isString =
      ts.filter Segment.isString := fun fresh ts => by cases fresh <;> rfl
  have hstring : ∀ seg : Segment, seg.indented.isString = seg.isString := fun seg => by
    cases seg <;> rfl
  induction ss generalizing fresh with
  | nil => rfl
  | cons seg ss ih =>
    rw [indentSegments]
    split
    · next hseg =>
      subst hseg
      exact ih true
    · rw [hmargin, List.filter_cons, List.filter_cons, hstring, ih]
      split <;> rfl

/-! ### Tidying indented text -/

theorem head?_indentSegments (fresh : Bool) (ts : List Segment) :
    (indentSegments fresh ts).head? = some (.code '\n') ↔ ts.head? = some (.code '\n') := by
  cases ts with
  | nil => rfl
  | cons seg ts =>
    rw [indentSegments]
    split
    · next hseg => simp [hseg]
    · next hseg =>
      refine iff_of_false (fun h => ?_) fun h => hseg (Option.some.inj h)
      cases fresh with
      | true => cases h
      | false =>
        have hindented : seg.indented = .code '\n' := Option.some.inj h
        cases seg with
        | code c => exact hseg hindented
        | _ => cases hindented

theorem indentSegments_eq_nil_iff (fresh : Bool) (ts : List Segment) :
    indentSegments fresh ts = [] ↔ ts = [] := by
  cases ts with
  | nil => rfl
  | cons seg ts =>
    rw [indentSegments]
    split <;> simp

theorem endsLine_indentSegments (fresh : Bool) (ts : List Segment) :
    EndsLine (indentSegments fresh ts) ↔ EndsLine ts :=
  or_congr (indentSegments_eq_nil_iff fresh ts) (head?_indentSegments fresh ts)

/-- A blank of the code is at the end of its line in an indented text as in the text. -/
theorem isLoose_indented (seg : Segment) (fresh : Bool) (ts : List Segment) :
    seg.indented.isLoose (indentSegments fresh ts) = seg.isLoose ts := by
  cases seg with
  | code c =>
    have hhead : ((indentSegments fresh ts).head? == some (.code '\n')) =
        (ts.head? == some (.code '\n')) :=
      Bool.eq_iff_iff.2 (by rw [beq_iff_eq, beq_iff_eq, head?_indentSegments])
    have hnil : (indentSegments fresh ts).isEmpty = ts.isEmpty :=
      Bool.eq_iff_iff.2 (by
        rw [List.isEmpty_iff, List.isEmpty_iff, indentSegments_eq_nil_iff])
    simp only [Segment.indented, Segment.isLoose, hhead, hnil]
  | _ => rfl

/-- At the end of a line no margin is put. -/
theorem indentSegments_of_endsLine (h : EndsLine ts) :
    indentSegments true ts = indentSegments false ts := by
  rcases h with rfl | h
  · rfl
  · obtain ⟨ts, rfl⟩ := List.head?_eq_some_iff.1 h
    rfl

/-- Elsewhere one is put. -/
theorem indentSegments_of_not_endsLine (h : ¬ EndsLine ts) :
    indentSegments true ts = margin.map .code ++ indentSegments false ts := by
  cases ts with
  | nil => exact absurd (.inl rfl) h
  | cons seg ts =>
    have hseg : seg ≠ .code '\n' := fun hseg => h (.inr (congrArg some hseg))
    rw [indentSegments, if_neg hseg, indentSegments, if_neg hseg]
    rfl

/-- A blank goes if it is at the end of its line, and stays otherwise. -/
theorem thin_blank_cons (hblank : isBlank c = true) (hc : c ≠ '\n') (ss : List Segment) :
    (EndsLine (thin true ss) → thin true (.code c :: ss) = thin true ss) ∧
      (¬ EndsLine (thin true ss) → thin true (.code c :: ss) = .code c :: thin true ss) := by
  refine ⟨fun h => ?_, fun h => ?_⟩
  · have hloose : (Segment.code c).isLoose (thin true ss) = true := by
      rcases h with h | h <;> simp [Segment.isLoose, hblank, hc, h]
    simp [thin, hloose]
  · exact thin_cons_of_isLoose_eq_false rfl
      (Bool.eq_false_iff.2 fun hloose => h (exists_of_isLoose hloose).2)

/-- So do blanks together. -/
theorem thin_spaces_append (n : ℕ) (ss : List Segment) :
    (EndsLine (thin true ss) →
        thin true ((List.replicate n ' ').map .code ++ ss) = thin true ss) ∧
      (¬ EndsLine (thin true ss) →
        thin true ((List.replicate n ' ').map .code ++ ss) =
          (List.replicate n ' ').map .code ++ thin true ss) := by
  induction n with
  | zero => exact ⟨fun _ => rfl, fun _ => rfl⟩
  | succ n ih =>
    obtain ⟨hgoes, hstays⟩ := thin_blank_cons (c := ' ') rfl (by decide)
      ((List.replicate n ' ').map .code ++ ss)
    refine ⟨fun h => ?_, fun h => ?_⟩
    · have hthin := ih.1 h
      exact (hgoes (hthin ▸ h)).trans hthin
    · have hthin := ih.2 h
      refine (hstays (hthin ▸ ?_)).trans (congrArg (.code ' ' :: ·) hthin)
      cases n with
      | zero => exact h
      | succ n =>
        rintro (hnil | hbreak)
        · cases hnil
        · cases hbreak

/-- The margin of a line goes if nothing else is left of the line. -/
theorem thin_margin_append (fresh : Bool) (h : thin true ss = indentSegments false ts) :
    thin true ((marginIf fresh).map .code ++ ss) = indentSegments fresh ts := by
  cases fresh with
  | false => exact h
  | true =>
    have hline : EndsLine (thin true ss) ↔ EndsLine ts := by
      rw [h, endsLine_indentSegments]
    obtain ⟨hgoes, hstays⟩ := thin_spaces_append 4 ss
    by_cases hends : EndsLine ts
    · rw [indentSegments_of_endsLine hends, ← h]
      exact hgoes (hline.2 hends)
    · rw [indentSegments_of_not_endsLine hends, ← h]
      exact hstays (mt hline.1 hends)

theorem dropBreak_indentSegments (ts : List Segment) :
    dropBreak (indentSegments true ts) = indentSegments true (dropBreak ts) := by
  unfold dropBreak
  by_cases h : ts.head? = some (.code '\n')
  · obtain ⟨us, rfl⟩ := List.head?_eq_some_iff.1 h
    rfl
  · rw [if_neg h, if_neg (mt (head?_indentSegments true ts).1 h)]

/-- **Indented segments are thinned as the segments are**, but for their margins. -/
theorem thin_indentSegments (fresh : Bool) (ss : List Segment) :
    thin true (indentSegments fresh ss) = indentSegments fresh (thin true ss) := by
  induction ss generalizing fresh with
  | nil => rfl
  | cons seg ss ih =>
    rw [indentSegments]
    split
    · next hseg =>
      subst hseg
      rw [thin_break_cons, thin_break_cons, ih, dropBreak_indentSegments]
      rfl
    · next hseg =>
      refine thin_margin_append fresh ?_
      have hcomment : seg.indented.isComment = seg.isComment := by cases seg <;> rfl
      rw [thin, thin, ih, hcomment, isLoose_indented]
      split
      · rfl
      · rw [indentSegments, if_neg hseg]
        rfl

theorem EndsBare.indent (h : EndsBare s) (fresh : Bool) : EndsBare (Text.indent fresh s) := by
  obtain ⟨u, c, rfl, hc⟩ := h
  have hbreak : c ≠ '\n' := by
    rintro rfl
    cases hc
  rw [indent_append, indent_cons hbreak, ← List.append_assoc]
  exact ⟨_, c, rfl, hc⟩

theorem endsBare_of_isClosed (hclosed : ∀ seg ∈ segments s, seg.isClosed = true) :
    ∀ seg ∈ segments s, seg.isString = true → EndsBare seg.text := fun seg hseg hstring =>
  Segment.endsBare_of_isTerminated (Segment.isTerminated_of_isClosed (hclosed seg hseg) hstring)

/-- A tidy text is made of the characters of the text. -/
theorem mem_of_mem_tidy (hclosed : ∀ seg ∈ segments s, seg.isClosed = true) (h : c ∈ tidy s) :
    c ∈ s := by
  rw [tidy_eq_written (endsBare_of_isClosed hclosed)] at h
  obtain ⟨seg, hseg, hc⟩ := List.mem_flatMap.1 h
  rw [← written_segments s]
  exact List.mem_flatMap.2 ⟨seg, (stripped_sublist true _).subset hseg, hc⟩

/-- **Text is tidied indented as it is not**, if its segments are closed. -/
theorem tidy_indent (hclosed : ∀ seg ∈ segments s, seg.isClosed = true) :
    tidy (Text.indent true s) = Text.indent true (tidy s) := by
  have hbare := endsBare_of_isClosed hclosed
  have hindented : ∀ seg ∈ segments (Text.indent true s), seg.isString = true →
      EndsBare seg.text := by
    intro seg hseg hstring
    have hmem : seg ∈ (segments (Text.indent true s)).filter Segment.isString :=
      List.mem_filter.2 ⟨hseg, hstring⟩
    rw [segments_indent true hclosed, filter_isString_indentSegments] at hmem
    obtain ⟨seg', hseg', rfl⟩ := List.mem_map.1 hmem
    obtain ⟨hmem', hstring'⟩ := List.mem_filter.1 hseg'
    rw [Segment.text_indented]
    exact (hbare seg' hmem' hstring').indent false
  have hkeeps : ∀ seg ∈ dropBreak (thin true (segments s)), seg.KeepsLines := fun seg hseg =>
    (legible_segments s).keepsLines hclosed seg ((stripped_sublist true _).subset hseg)
  rw [tidy_eq_written hbare, tidy_eq_written hindented, segments_indent true hclosed,
    thin_indentSegments, dropBreak_indentSegments, written_indentSegments true hkeeps]

/-- A line feed at the end of a text is one of the code, if the segments are closed. -/
theorem segments_endLine (hclosed : ∀ seg ∈ segments s, seg.isClosed = true) :
    segments (endLine s) = segments s ∨ segments (endLine s) = segments s ++ [.code '\n'] := by
  unfold endLine
  split
  · exact .inl rfl
  · have hbreak := segments_append_break hclosed []
    rw [segments] at hbreak
    exact .inr hbreak

theorem isClosed_of_mem_endLine (hclosed : ∀ seg ∈ segments s, seg.isClosed = true) :
    ∀ seg ∈ segments (endLine s), seg.isClosed = true := by
  rcases segments_endLine hclosed with h | h <;> rw [h]
  · exact hclosed
  · exact List.forall_mem_append.2 ⟨hclosed, List.forall_mem_singleton.2 rfl⟩

theorem endsFresh_endLine (hclosed : ∀ seg ∈ segments s, seg.isClosed = true) :
    EndsFresh (endLine s) := by
  rcases endLine_eq_nil_or s with hnil | hlast
  · exact .inl hnil
  · exact endsFresh_of_getLast? (isClosed_of_mem_endLine hclosed) hlast

theorem tidyLine_eq_nil_or (l : List Char) :
    tidyLine l = [] ∨ (tidyLine l).getLast? = some '\n' := by
  unfold tidyLine
  split
  · exact .inl rfl
  · exact .inr List.getLast?_concat

theorem endLine_trimEnd (l : List Char) : endLine (trimEnd l) = tidyLine l := by
  unfold tidyLine
  split
  · next h =>
    rw [h]
    rfl
  · next hne =>
    refine if_neg (not_or.2 ⟨hne, fun hlast => ?_⟩)
    cases getLast?_dropEndWhile hlast

/-- The last of the tidy lines is given a line feed like the others. -/
theorem endLine_joinTidy (ls : List (List Char)) : endLine (joinTidy ls) = ls.flatMap tidyLine := by
  fun_induction joinTidy ls with
  | case1 => rfl
  | case2 l => rw [endLine_trimEnd, List.flatMap_singleton]
  | case3 l ls _ ih => rw [endLine_append (tidyLine_eq_nil_or l), ih, List.flatMap_cons]

/-- **The last line is tidied like the others.** -/
theorem tidy_endLine (hclosed : ∀ seg ∈ segments s, seg.isClosed = true) :
    tidy (endLine s) = endLine (tidy s) := by
  have hlines : (codeLines (segments (endLine s))).flatMap tidyLine =
      (codeLines (segments s)).flatMap tidyLine := by
    rcases segments_endLine hclosed with h | h <;> rw [h]
    rw [codeLines_append_break, List.flatMap_append]
    exact List.append_nil _
  rw [(endsFresh_endLine hclosed).tidy_eq, hlines, tidy, endLine_joinTidy]

end Lua
end LuaBundler
