/-
# The grammar of segments

`CutInto s ss` declares the segments of a text by what stands where, and not by how they are
found.  A bracket runs through the first closing bracket of its level in all that follows
(`RunsThrough`).  A quoted string runs through its first quote that no backslash escapes, or
up to its first such line feed (`QuoteEnds`).  What begins no other segment is a character of
the code.  A text can be cut in one way only, and that is the way in which it is read
(`cutInto_iff`).

So removing comments leaves the other segments, and tidying cuts what they leave at the line
feeds of the code, takes the blanks off each piece and drops the pieces that are then empty
(`exists_cutInto_and_stripped_eq`).  A string that is terminated stays as it is in both.
-/

import LuaBundler.Proofs.Tidying

namespace LuaBundler
namespace Lua

open Text

variable {c q : Char} {k : Nat} {l r s t u x rest : List Char} {ls ts : List (List Char)}
  {seg : Segment} {ss : List Segment}

/-! ### Brackets -/

/-- The text `t` runs through the first closing long bracket of level `k` in `t ++ rest`, or to
the end if there is none. -/
def RunsThrough (k : Nat) (t rest : List Char) : Prop :=
  (∃ u, t = u ++ closer k ∧ ∀ v w, t ++ rest = v ++ closer k ++ w → u.length ≤ v.length) ∨
    rest = [] ∧ ¬ closer k <:+: t

theorem Closes.runsThrough (h : Closes k t rest) : RunsThrough k t rest := by
  induction h with
  | atEnd => exact .inr ⟨rfl, fun h => by cases List.eq_nil_of_infix_nil h⟩
  | bracket => exact .inl ⟨[], rfl, fun v _ _ => Nat.zero_le v.length⟩
  | @inside c t r hc h ih =>
    rcases ih with ⟨u, rfl, hfirst⟩ | ⟨rfl, hnone⟩
    · refine .inl ⟨c :: u, rfl, fun v w hvw => ?_⟩
      cases v with
      | nil => exact absurd ⟨w, hvw.symm⟩ hc
      | cons d v =>
        rw [List.cons_append, List.cons_append, List.cons_append, List.cons.injEq] at hvw
        exact Nat.succ_le_succ (hfirst v w hvw.2)
    · refine .inr ⟨rfl, fun h => ?_⟩
      rw [List.append_nil] at hc
      rcases List.infix_cons_iff.1 h with hprefix | hinfix
      · exact hc hprefix
      · exact hnone hinfix

/-- A bracket runs as far as its text in one way only. -/
theorem RunsThrough.eq (h : RunsThrough k t rest) (h' : RunsThrough k u x)
    (htext : t ++ rest = u ++ x) : t = u := by
  rcases h with ⟨v, rfl, hfirst⟩ | ⟨rfl, hnone⟩ <;> rcases h' with ⟨w, rfl, hfirst'⟩ | ⟨rfl, hnone'⟩
  · have hle := hfirst w x htext
    have hle' := hfirst' v rest htext.symm
    exact List.append_inj_left htext (by simp only [List.length_append]; omega)
  · rw [List.append_nil] at htext
    exact absurd ⟨v, rest, htext⟩ hnone'
  · rw [List.append_nil] at htext
    exact absurd ⟨w, x, htext.symm⟩ hnone
  · rwa [List.append_nil, List.append_nil] at htext

theorem runsThrough_iff : RunsThrough k t rest ↔ Closes k t rest := by
  refine ⟨fun h => ?_, Closes.runsThrough⟩
  have hcloses := closes_throughCloser k (t ++ rest)
  have htext := throughCloser_append k (t ++ rest)
  have ht := h.eq hcloses.runsThrough htext.symm
  rw [← ht] at htext hcloses
  rwa [List.append_cancel_left htext] at hcloses

theorem afterOpener?_eq_none_iff : afterOpener? s = none ↔ ∀ k, ¬ opener k <+: s := by
  rw [Option.eq_none_iff_forall_ne_some]
  constructor
  · rintro h k ⟨body, rfl⟩
    exact h (k, body) (afterOpener?_opener k body)
  · rintro h ⟨k, body⟩ hs
    exact h k ⟨body, (afterOpener?_eq_some_iff.1 hs).symm⟩

/-! ### Quotes -/

/-- Whether the character behind `u` is escaped in a quoted string that begins with `u`: an
escape is a backslash that is not escaped itself. -/
def escapes (u : List Char) : Bool := u.foldl (fun escaped c => !escaped && c == '\\') false

theorem escapes_escaped (c : Char) (u : List Char) : escapes ('\\' :: c :: u) = escapes u := by
  simp only [escapes, List.foldl_cons]
  rfl

theorem escapes_plain (hc : c ≠ '\\') (u : List Char) : escapes (c :: u) = escapes u := by
  simp [escapes, beq_false_of_ne hc]

/-- Each quote `q` and each line feed in `u` is escaped. -/
def StaysOpen (q : Char) (u : List Char) : Prop :=
  ∀ v c w, u = v ++ c :: w → c = q ∨ c = '\n' → escapes v = true

/-- Behind an opening quote `q` the text `t` belongs to the string and `rest` does not. -/
def QuoteEnds (q : Char) (t rest : List Char) : Prop :=
  (∃ u, t = u ++ [q] ∧ StaysOpen q u ∧ escapes u = false) ∨
    StaysOpen q t ∧ (rest = [] ∨ escapes t = false ∧ rest.head? = some '\n')

theorem staysOpen_nil (q : Char) : StaysOpen q [] := fun v c w h => by simp at h

theorem staysOpen_escaped (hq : q ≠ '\\') (c : Char) (u : List Char) :
    StaysOpen q ('\\' :: c :: u) ↔ StaysOpen q u := by
  constructor
  · rintro h v d w rfl hd
    rw [← escapes_escaped c v]
    exact h ('\\' :: c :: v) d w rfl hd
  · intro h v d w hu hd
    match v, hu with
    | [], hu =>
      cases hu
      rcases hd with hd | hd
      · exact absurd hd.symm hq
      · exact absurd hd (by decide)
    | [_], hu =>
      cases hu
      rfl
    | _ :: _ :: v, hu =>
      cases hu
      rw [escapes_escaped]
      exact h v d w rfl hd

theorem staysOpen_plain (hc : c ≠ '\\') :
    StaysOpen q (c :: u) ↔ (c ≠ q ∧ c ≠ '\n') ∧ StaysOpen q u := by
  constructor
  · refine fun h => ⟨not_or.1 fun hstop => ?_, ?_⟩
    · exact absurd (h [] c u rfl hstop) (by decide)
    · rintro v d w rfl hd
      rw [← escapes_plain hc v]
      exact h (c :: v) d w rfl hd
  · rintro ⟨hne, h⟩ v d w hu hd
    cases v with
    | nil =>
      cases hu
      exact absurd hd (not_or.2 hne)
    | cons e v =>
      cases hu
      rw [escapes_plain hc]
      exact h v d w rfl hd

theorem quoteEnds_escaped (hq : q ≠ '\\') :
    QuoteEnds q ('\\' :: c :: t) rest ↔ QuoteEnds q t rest := by
  unfold QuoteEnds
  rw [staysOpen_escaped hq, escapes_escaped]
  refine or_congr_left ⟨?_, ?_⟩
  · rintro ⟨u, hu, hopen, hescapes⟩
    match u, hu with
    | [], hu => exact absurd (List.cons.inj hu).1.symm hq
    | [_], hu =>
      cases hu
      cases hescapes
    | _ :: _ :: u, hu =>
      cases hu
      exact ⟨u, rfl, (staysOpen_escaped hq _ u).1 hopen, by rwa [escapes_escaped] at hescapes⟩
  · rintro ⟨u, rfl, hopen, hescapes⟩
    exact ⟨'\\' :: c :: u, rfl, (staysOpen_escaped hq c u).2 hopen, by rwa [escapes_escaped]⟩

theorem quoteEnds_plain (hb : c ≠ '\\') (hn : c ≠ '\n') (hq : c ≠ q) :
    QuoteEnds q (c :: t) rest ↔ QuoteEnds q t rest := by
  have hopen : ∀ u, StaysOpen q (c :: u) ↔ StaysOpen q u := fun u =>
    (staysOpen_plain hb).trans (and_iff_right ⟨hq, hn⟩)
  unfold QuoteEnds
  rw [hopen, escapes_plain hb]
  refine or_congr_left ⟨?_, ?_⟩
  · rintro ⟨u, hu, hu', hescapes⟩
    cases u with
    | nil => exact absurd (List.cons.inj hu).1 hq
    | cons d u =>
      cases hu
      exact ⟨u, rfl, (hopen u).1 hu', by rwa [escapes_plain hb] at hescapes⟩
  · rintro ⟨u, rfl, hu', hescapes⟩
    exact ⟨c :: u, rfl, (hopen u).2 hu', by rwa [escapes_plain hb]⟩

theorem Quotes.quoteEnds (hq : q ≠ '\\') (h : Quotes q t rest) : QuoteEnds q t rest := by
  induction h with
  | atEnd => exact .inr ⟨staysOpen_nil q, .inl rfl⟩
  | atBreak => exact .inr ⟨staysOpen_nil q, .inr ⟨rfl, rfl⟩⟩
  | atBackslash =>
    refine .inr ⟨fun v c w hv hc => ?_, .inl rfl⟩
    cases v with
    | nil =>
      cases hv
      rcases hc with hc | hc
      · exact absurd hc.symm hq
      · exact absurd hc (by decide)
    | cons d v => simp at hv
  | close => exact .inl ⟨[], rfl, staysOpen_nil q, rfl⟩
  | escaped h ih => exact (quoteEnds_escaped hq).2 ih
  | plain hb hn hne h ih => exact (quoteEnds_plain hb hn hne).2 ih

/-- A quote or a line feed that is not escaped ends the string. -/
theorem QuoteEnds.eq_nil (h : QuoteEnds q (u ++ c :: t) rest) (hc : c = q ∨ c = '\n')
    (hu : escapes u = false) : t = [] ∧ c = q := by
  have hclosed : ∀ {w}, ¬ StaysOpen q (u ++ c :: w) := fun h => by
    rw [h u c _ rfl hc] at hu
    cases hu
  rcases h with ⟨v, hv, hopen, -⟩ | ⟨hopen, -⟩
  · rcases List.eq_nil_or_concat t with rfl | ⟨w, d, rfl⟩
    · exact ⟨rfl, (List.append_inj' hv rfl).2 |> List.singleton_inj.1⟩
    · rw [List.concat_eq_append, ← List.cons_append, ← List.append_assoc] at hv
      exact absurd ((List.append_inj' hv rfl).1 ▸ hopen) hclosed
  · exact absurd hopen hclosed

/-- A quoted string ends where the rules for reading it end it. -/
theorem QuoteEnds.quotes (hb : q ≠ '\\') (hn : q ≠ '\n') :
    ∀ {t : List Char}, QuoteEnds q t rest → Quotes q t rest
  | [], h => by
    rcases h with ⟨u, hu, -⟩ | ⟨-, rfl | ⟨-, hbreak⟩⟩
    · simp at hu
    · exact .atEnd
    · obtain ⟨r, rfl⟩ := List.head?_eq_some_iff.1 hbreak
      exact .atBreak
  | c :: t, h => by
    by_cases hstop : c = q ∨ c = '\n'
    · obtain ⟨rfl, rfl⟩ := QuoteEnds.eq_nil (u := []) h hstop rfl
      exact .close hb hn
    · rw [not_or] at hstop
      by_cases hc : c = '\\'
      · subst hc
        match t, h with
        | [], h =>
          rcases h with ⟨u, hu, -⟩ | ⟨-, rfl | ⟨hescapes, -⟩⟩
          · have hlast := congrArg List.getLast? hu
            rw [List.getLast?_concat] at hlast
            exact absurd (Option.some.inj hlast) hb.symm
          · exact .atBackslash
          · cases hescapes
        | d :: t, h => exact .escaped (QuoteEnds.quotes hb hn ((quoteEnds_escaped hb).1 h))
      · exact .plain hc hstop.2 hstop.1
          (QuoteEnds.quotes hb hn ((quoteEnds_plain hc hstop.2 hstop.1).1 h))

theorem quoteEnds_iff (hb : q ≠ '\\') (hn : q ≠ '\n') :
    QuoteEnds q t rest ↔ Quotes q t rest :=
  ⟨QuoteEnds.quotes hb hn, Quotes.quoteEnds hb⟩

/-! ### Cutting a text -/

/-- The text `s` is cut into the segments `ss`. -/
inductive CutInto : List Char → List Segment → Prop
  | nil : CutInto [] []
  | blockComment {k : Nat} {t rest : List Char} {ss : List Segment} (ht : RunsThrough k t rest)
      (h : CutInto rest ss) :
      CutInto ('-' :: '-' :: (opener k ++ (t ++ rest)))
        (.blockComment ('-' :: '-' :: (opener k ++ t)) :: ss)
  | lineComment {t rest : List Char} {ss : List Segment}
      (ho : ∀ k, ¬ opener k <+: t ++ rest) (ht : '\n' ∉ t) (hrest : ∀ c ∈ rest.head?, c = '\n')
      (h : CutInto rest ss) :
      CutInto ('-' :: '-' :: (t ++ rest)) (.lineComment ('-' :: '-' :: t) :: ss)
  | quoted {q : Char} {t rest : List Char} {ss : List Segment} (hq : q = '"' ∨ q = '\'')
      (ht : QuoteEnds q t rest) (h : CutInto rest ss) :
      CutInto (q :: (t ++ rest)) (.quoted (q :: t) :: ss)
  | longString {k : Nat} {t rest : List Char} {ss : List Segment} (ht : RunsThrough k t rest)
      (h : CutInto rest ss) :
      CutInto (opener k ++ (t ++ rest)) (.longString (opener k ++ t) :: ss)
  /-- Nothing else begins here. -/
  | code {c : Char} {rest : List Char} {ss : List Segment} (hdash : ¬ ['-', '-'] <+: c :: rest)
      (hquote : ¬ (c = '"' ∨ c = '\'')) (hopen : ∀ k, ¬ opener k <+: c :: rest)
      (h : CutInto rest ss) : CutInto (c :: rest) (.code c :: ss)

theorem ne_of_isQuote (hq : q = '"' ∨ q = '\'') : q ≠ '\\' ∧ q ≠ '\n' := by
  rcases hq with rfl | rfl <;> decide

/-- What a text is cut into is read from it. -/
theorem CutInto.segments_eq (h : CutInto s ss) : segments s = ss := by
  induction h with
  | nil => rw [segments]
  | @blockComment k t rest ss ht h ih =>
    have hbegins : Begins '-' ('-' :: (opener k ++ (t ++ rest)))
        (.blockComment ('-' :: '-' :: (opener k ++ t))) rest :=
      .blockComment (afterOpener?_opener k _) (runsThrough_iff.1 ht).throughCloser_eq
    rw [segments, hbegins.readSegment_eq, ih]
  | @lineComment t rest ss ho ht hrest h ih =>
    have hbegins : Begins '-' ('-' :: (t ++ rest)) (.lineComment ('-' :: '-' :: t)) rest :=
      .lineComment (afterOpener?_eq_none_iff.2 ho) rfl ht hrest
    rw [segments, hbegins.readSegment_eq, ih]
  | @quoted q t rest ss hq ht h ih =>
    obtain ⟨hb, hn⟩ := ne_of_isQuote hq
    have hbegins : Begins q (t ++ rest) (.quoted (q :: t)) rest :=
      .quoted hq ((quoteEnds_iff hb hn).1 ht).throughQuote_eq
    rw [segments, hbegins.readSegment_eq, ih]
  | @longString k t rest ss ht h ih =>
    have hbegins : Begins '[' (List.replicate k '=' ++ ['['] ++ (t ++ rest))
        (.longString (opener k ++ t)) rest :=
      .longString (afterOpener?_opener k _) (runsThrough_iff.1 ht).throughCloser_eq
    have htext : opener k ++ (t ++ rest) = '[' :: (List.replicate k '=' ++ ['['] ++ (t ++ rest)) :=
      rfl
    rw [htext, segments, hbegins.readSegment_eq, ih]
  | @code c rest ss hdash hquote hopen h ih =>
    have hbegins : Begins c rest (.code c) rest := by
      refine .code (fun hc u hu => hdash ?_) hquote fun hc => ?_
      · rw [hc, hu]
        exact ⟨u, rfl⟩
      · rw [← hc]
        exact afterOpener?_eq_none_iff.2 hopen
    rw [segments, hbegins.readSegment_eq, ih]

/-- A text is cut into the segments that are read from it. -/
theorem cutInto_segments (s : List Char) : CutInto s (segments s) := by
  fun_induction segments s with
  | case1 => exact .nil
  | case2 c r ih =>
    have hbegins := begins_readSegment c r
    generalize (readSegment c r).1 = seg at hbegins ih
    generalize (readSegment c r).2 = left at hbegins ih
    cases hbegins with
    | @blockComment k r body t rest ho hc =>
      obtain ⟨rfl, hcloses⟩ := throughCloser_eq_iff.1 hc
      rw [afterOpener?_eq_some_iff.1 ho]
      exact .blockComment hcloses.runsThrough ih
    | lineComment ho hr ht hrest =>
      rw [hr] at ho ⊢
      exact .lineComment (afterOpener?_eq_none_iff.1 ho) ht hrest ih
    | quoted hq hc =>
      obtain ⟨rfl, hquotes⟩ := throughQuote_eq_iff.1 hc
      exact .quoted hq (hquotes.quoteEnds (ne_of_isQuote hq).1) ih
    | longString ho hc =>
      obtain ⟨rfl, hcloses⟩ := throughCloser_eq_iff.1 hc
      rw [afterOpener?_eq_some_iff.1 ho]
      exact .longString hcloses.runsThrough ih
    | @code c r hdash hquote hopen =>
      refine .code ?_ hquote (fun k hk => ?_) ih
      · rintro ⟨u, hu⟩
        cases hu
        exact hdash rfl u rfl
      · obtain rfl : '[' = c := by
          obtain ⟨u, hu⟩ := hk
          exact (List.cons.inj hu).1
        exact afterOpener?_eq_none_iff.1 (hopen rfl) k hk

/-- **There is one way to cut a text into segments**, and it is the way in which it is read. -/
theorem cutInto_iff : CutInto s ss ↔ ss = segments s :=
  ⟨fun h => h.segments_eq.symm, fun h => h ▸ cutInto_segments s⟩

/-! ### What stays of a text -/

namespace Segment

/-- The segment is a character of the code. -/
def isCode : Segment → Bool
  | code _ => true
  | _ => false

/-- The segment is a string literal. -/
def isString : Segment → Bool
  | quoted _ => true
  | longString _ => true
  | _ => false

/-- The segment is a string literal that is closed as it was opened: by a quote that is not
escaped, or by a long bracket of the same level. -/
def isTerminated : Segment → Bool
  | quoted (q :: t) => (q == '"' || q == '\'') && t.getLast? == some q && !escapes t.dropLast
  | longString t =>
    match afterOpener? t with
    | some (k, body) => (closer k).isSuffixOf body
    | none => false
  | _ => false

end Segment

/-- The text ends in a character that is no blank. -/
def EndsBare (s : List Char) : Prop := ∃ u c, s = u ++ [c] ∧ isBlank c = false

theorem EndsBare.trimEnd_eq (h : EndsBare s) : trimEnd s = s := by
  obtain ⟨u, c, rfl, hc⟩ := h
  have hlast : trimEnd [c] = [c] := by simp [trimEnd, dropEndWhile, hc]
  rw [trimEnd_append, hlast, if_neg (List.cons_ne_nil _ _)]

/-- A terminated string ends in a quote or a bracket. -/
theorem Segment.endsBare_of_isTerminated (h : seg.isTerminated = true) : EndsBare seg.text := by
  unfold isTerminated at h
  split at h
  · next q t =>
    simp only [Bool.and_eq_true, Bool.or_eq_true, beq_iff_eq] at h
    obtain ⟨⟨hq, hlast⟩, -⟩ := h
    obtain ⟨u, rfl⟩ := List.getLast?_eq_some_iff.1 hlast
    refine ⟨q :: u, q, rfl, ?_⟩
    rcases hq with rfl | rfl <;> rfl
  · next t =>
    split at h
    · next k body hopen =>
      obtain ⟨u, rfl⟩ := List.isSuffixOf_iff_suffix.1 h
      refine ⟨opener k ++ u ++ ']' :: List.replicate k '=', ']', ?_, rfl⟩
      rw [text, afterOpener?_eq_some_iff.1 hopen]
      simp [closer]
    · cases h
  · cases h

/-- The characters that stay when comments go, each with whether it is a character of the
code. -/
def marked (ss : List Segment) : List (Char × Bool) :=
  (ss.filter (!·.isComment)).flatMap fun seg => seg.text.map (·, seg.isCode)

/-- What stays when comments go, cut at the line feeds of the code. -/
def pieces (ss : List Segment) : List (List Char) :=
  ((marked ss).splitOnP (· == ('\n', true))).map (·.map Prod.fst)

/-- No piece ends within a text in which nothing separates. -/
theorem splitOnP_append_of_not {α : Type} {p : α → Bool} {xs : List α}
    (h : ∀ a ∈ xs, p a = false) (ys : List α) :
    (xs ++ ys).splitOnP p = (ys.splitOnP p).modifyHead (xs ++ ·) := by
  induction xs with
  | nil =>
    rw [List.nil_append]
    cases ys.splitOnP p <;> rfl
  | cons a xs ih =>
    rw [List.cons_append, List.splitOnP_cons_eq_if_modifyHead, h a List.mem_cons_self,
      ih fun b hb => h b (List.mem_cons_of_mem _ hb)]
    cases ys.splitOnP p <;> rfl

/-- The lines of the code are the pieces of what stays. -/
theorem codeLines_eq_pieces (ss : List Segment) : codeLines ss = pieces ss := by
  induction ss with
  | nil => rfl
  | cons seg ss ih =>
    rw [codeLines, ih]
    split
    · next h =>
      subst h
      have hmarked : marked (.code '\n' :: ss) = ('\n', true) :: marked ss := by
        simp [marked, Segment.isComment, Segment.text, Segment.isCode]
      rw [pieces, pieces, hmarked, List.splitOnP_cons_eq_if_modifyHead]
      rfl
    · next hne =>
      cases hcomment : seg.isComment with
      | true =>
        have hmarked : marked (seg :: ss) = marked ss := by simp [marked, hcomment]
        rw [pieces, pieces, hmarked, Segment.kept, hcomment]
        cases (marked ss).splitOnP (· == ('\n', true)) <;> rfl
      | false =>
        have hmarked : marked (seg :: ss) = seg.text.map (·, seg.isCode) ++ marked ss := by
          simp [marked, hcomment]
        have hnone : ∀ a ∈ seg.text.map (·, seg.isCode), (a == ('\n', true)) = false := by
          intro a ha
          obtain ⟨c, hc, rfl⟩ := List.mem_map.1 ha
          cases seg with
          | code d =>
            obtain rfl := List.mem_singleton.1 hc
            simpa [Segment.isCode] using hne
          | quoted t => simp [Segment.isCode]
          | longString t => simp [Segment.isCode]
          | lineComment t => cases hcomment
          | blockComment t => cases hcomment
        rw [pieces, pieces, hmarked, splitOnP_append_of_not hnone, Segment.kept, hcomment]
        cases (marked ss).splitOnP (· == ('\n', true)) with
        | nil => rfl
        | cons l ls => simp [Function.comp_def]

/-- The lines before the last are trimmed, and dropped if nothing is left of them. -/
theorem joinTidy_concat_eq (ls : List (List Char)) (l : List Char) :
    joinTidy (ls ++ [l]) =
      ((ls.map trimEnd).filter (· ≠ [])).flatMap (· ++ ['\n']) ++ trimEnd l := by
  rw [joinTidy_append ls (List.cons_ne_nil _ _), joinTidy]
  congr 1
  induction ls with
  | nil => rfl
  | cons l ls ih =>
    rw [List.flatMap_cons, ih, List.map_cons, tidyLine]
    cases h : trimEnd l <;> simp

/-- The texts occur in `s` one after the other. -/
inductive OccurInOrder : List (List Char) → List Char → Prop
  | nil {s : List Char} : OccurInOrder [] s
  | cons {t s : List Char} {ts : List (List Char)} (u : List Char) (h : OccurInOrder ts s) :
      OccurInOrder (t :: ts) (u ++ (t ++ s))

theorem OccurInOrder.append_left (h : OccurInOrder ts s) (u : List Char) :
    OccurInOrder ts (u ++ s) := by
  cases h with
  | nil => exact .nil
  | cons v h =>
    rw [← List.append_assoc]
    exact .cons (u ++ v) h

/-- The terminated strings among some segments. -/
def terminated (ss : List Segment) : List (List Char) :=
  (ss.filter Segment.isTerminated).map Segment.text

theorem isComment_of_isTerminated (h : seg.isTerminated = true) : seg.isComment = false := by
  cases seg <;> first | rfl | cases h

/-- Removing comments leaves the terminated strings. -/
theorem occurInOrder_kept (ss : List Segment) :
    OccurInOrder (terminated ss) (ss.flatMap Segment.kept) := by
  induction ss with
  | nil => exact .nil
  | cons seg ss ih =>
    rw [List.flatMap_cons]
    cases h : seg.isTerminated with
    | true =>
      rw [terminated, List.filter_cons_of_pos h, List.map_cons, Segment.kept,
        isComment_of_isTerminated h]
      exact .cons [] ih
    | false =>
      rw [terminated, List.filter_cons_of_neg (by simp [h])]
      exact ih.append_left _

/-- What a text put before the first line adds to the tidy lines. -/
theorem exists_joinTidy_append (t l : List Char) (ls : List (List Char)) :
    ∃ u, joinTidy ((t ++ l) :: ls) = u ++ joinTidy (l :: ls) ∧ (EndsBare t → t <+: u) := by
  by_cases hl : trimEnd l = []
  · have htl : trimEnd (t ++ l) = trimEnd t := by rw [trimEnd_append, if_pos hl]
    cases ls with
    | nil =>
      refine ⟨trimEnd t, ?_, fun h => ?_⟩
      · rw [joinTidy, joinTidy, htl, hl, List.append_nil]
      · rw [h.trimEnd_eq]
    | cons l' ls =>
      refine ⟨tidyLine (t ++ l), ?_, fun h => ?_⟩
      · have hline : tidyLine l = [] := by rw [tidyLine, hl]
        rw [joinTidy_cons _ (List.cons_ne_nil l' ls), joinTidy_cons _ (List.cons_ne_nil l' ls),
          hline, List.nil_append]
      · rw [tidyLine, htl, h.trimEnd_eq]
        split
        · exact List.nil_prefix
        · exact List.prefix_append _ _
  · have htl : trimEnd (t ++ l) = t ++ trimEnd l := by rw [trimEnd_append, if_neg hl]
    refine ⟨t, ?_, fun _ => List.prefix_rfl⟩
    cases ls with
    | nil => rw [joinTidy, joinTidy, htl]
    | cons l' ls =>
      have hline : tidyLine (t ++ l) = t ++ tidyLine l := by
        rw [tidyLine, tidyLine, htl]
        cases h : trimEnd l with
        | nil => exact absurd h hl
        | cons d u => cases t <;> simp
      rw [joinTidy_cons _ (List.cons_ne_nil l' ls), joinTidy_cons _ (List.cons_ne_nil l' ls), hline,
        List.append_assoc]

/-- Tidying leaves the terminated strings. -/
theorem occurInOrder_joinTidy (ss : List Segment) :
    OccurInOrder (terminated ss) (joinTidy (codeLines ss)) := by
  induction ss with
  | nil => exact .nil
  | cons seg ss ih =>
    rw [codeLines]
    split
    · next h =>
      subst h
      rw [joinTidy_cons _ (codeLines_ne_nil ss)]
      exact ih
    · obtain ⟨l, ls, hl⟩ := List.exists_cons_of_ne_nil (codeLines_ne_nil ss)
      rw [hl] at ih ⊢
      obtain ⟨u, hu, hprefix⟩ := exists_joinTidy_append seg.kept l ls
      rw [List.modifyHead_cons, hu]
      cases h : seg.isTerminated with
      | true =>
        have hkept : seg.kept = seg.text := by
          rw [Segment.kept, isComment_of_isTerminated h]
          rfl
        obtain ⟨v, rfl⟩ := hprefix (hkept ▸ Segment.endsBare_of_isTerminated h)
        rw [terminated, List.filter_cons_of_pos h, List.map_cons, hkept, List.append_assoc]
        exact .cons [] (ih.append_left v)
      | false =>
        rw [terminated, List.filter_cons_of_neg (by simp [h])]
        exact ih.append_left u

/-- **Comments are removed and lines tidied as the grammar of segments says.**  A text is cut
into segments in one way.  Without comments it consists of the other segments.  Tidied, it
consists of the pieces between the line feeds of the code in what then is left, without the
blanks they end in; the empty ones are dropped with their line feeds, and the others keep
theirs.  Both leave the terminated strings as they are, in order. -/
theorem exists_cutInto_and_stripped_eq (s : List Char) :
    ∃ ss, (∀ ts, CutInto s ts ↔ ts = ss) ∧
      removeComments s = (ss.filter (!·.isComment)).flatMap Segment.text ∧
      (∃ ls l, pieces ss = ls ++ [l] ∧
        tidy s = ((ls.map trimEnd).filter (· ≠ [])).flatMap (· ++ ['\n']) ++ trimEnd l) ∧
      OccurInOrder (terminated ss) (removeComments s) ∧
      OccurInOrder (terminated ss) (tidy s) := by
  refine ⟨segments s, fun ts => cutInto_iff, ?_, ?_, occurInOrder_kept _, occurInOrder_joinTidy _⟩
  · rw [removeComments]
    induction segments s with
    | nil => rfl
    | cons seg ss ih =>
      rw [List.flatMap_cons, ih, Segment.kept]
      cases h : seg.isComment <;> simp [h]
  · have hne := codeLines_ne_nil (segments s)
    rw [codeLines_eq_pieces] at hne
    have hlast := List.dropLast_append_getLast hne
    refine ⟨_, _, hlast.symm, ?_⟩
    rw [tidy, codeLines_eq_pieces, ← joinTidy_concat_eq, hlast]

end Lua
end LuaBundler
