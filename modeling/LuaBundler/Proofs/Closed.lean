/-
# Closed segments

A string literal or a block comment is closed if its closing mark stands at its end
(`Segment.isClosed`); an open one runs to the end of its line or of the text, and what is
added there can become a part of it.  Of what follows a closed segment only the line matters
that it stands on (`Stands.of_firstLine`): a dash makes a comment of a dash there, and a
bracket goes on.

So behind a text of closed segments a line feed is one of the code (`segments_append_break`),
and behind a line feed of the code the scan begins afresh, on a new line (`EndsFresh`).
-/

import LuaBundler.Proofs.Thinning

namespace LuaBundler
namespace Lua

open Text

variable {c q : Char} {k : Nat} {p s t x y : List Char} {seg : Segment} {ss : List Segment}

namespace Segment

/-- A string literal or a block comment has its closing mark.  Other segments need none. -/
def isClosed : Segment → Bool
  | blockComment t =>
    match afterOpener? (t.drop 2) with
    | some (k, body) => (closer k).isSuffixOf body
    | none => false
  | seg => !seg.isString || seg.isTerminated

theorem isTerminated_of_isClosed (h : seg.isClosed = true) (hstring : seg.isString = true) :
    seg.isTerminated = true := by
  cases seg with
  | quoted t => exact h
  | longString t => exact h
  | _ => cases hstring

theorem closer_suffix_of_longString (h : (longString (opener k ++ t)).isClosed = true) :
    closer k <:+ t := by
  have hterminated := isTerminated_of_isClosed h rfl
  rw [isTerminated, afterOpener?_opener] at hterminated
  exact List.isSuffixOf_iff_suffix.1 hterminated

theorem closer_suffix_of_blockComment
    (h : (blockComment ('-' :: '-' :: (opener k ++ t))).isClosed = true) : closer k <:+ t := by
  have hbody : afterOpener? (('-' :: '-' :: (opener k ++ t)).drop 2) = some (k, t) :=
    afterOpener?_opener k t
  rw [isClosed, hbody] at h
  exact List.isSuffixOf_iff_suffix.1 h

end Segment

/-! ### The line a text begins with -/

/-- The line that a text begins with. -/
def firstLine (s : List Char) : List Char := s.takeWhile (· != '\n')

theorem firstLine_append (h : '\n' ∉ s) (t : List Char) : firstLine (s ++ t) = s ++ firstLine t :=
  List.takeWhile_append_of_pos fun _ hc => bne_iff_ne.2 fun he => h (he ▸ hc)

theorem firstLine_cons (hc : c ≠ '\n') (s : List Char) : firstLine (c :: s) = c :: firstLine s :=
  List.takeWhile_cons_of_pos (bne_iff_ne.2 hc)

theorem firstLine_append_break (s t : List Char) : firstLine (s ++ '\n' :: t) = firstLine s := by
  induction s with
  | nil => rfl
  | cons c s ih =>
    rw [List.cons_append, firstLine, firstLine, List.takeWhile_cons, List.takeWhile_cons]
    split
    · exact congrArg (c :: ·) ih
    · rfl

/-- A text without line feeds stands at the beginning of the text if it does of the line. -/
theorem prefix_firstLine_iff (hp : '\n' ∉ p) : p <+: firstLine s ↔ p <+: s := by
  refine ⟨fun h => h.trans (List.takeWhile_prefix _), fun h => ?_⟩
  obtain ⟨r, rfl⟩ := h
  exact ⟨firstLine r, (firstLine_append hp r).symm⟩

theorem firstLine_eq_nil_iff : firstLine s = [] ↔ ∀ c ∈ s.head?, c = '\n' := by
  cases s <;> simp [firstLine, List.takeWhile_cons]

theorem not_break_mem_opener (k : Nat) : '\n' ∉ opener k := by simp [opener]

theorem not_break_mem_closer (k : Nat) : '\n' ∉ closer k := by simp [closer]

/-- Whether a long bracket is opened can be told from the line. -/
theorem afterOpener?_eq_none_of_firstLine (h : afterOpener? s = none)
    (hline : firstLine t = firstLine s) : afterOpener? t = none := by
  rw [afterOpener?_eq_none_iff] at h ⊢
  intro k hk
  rw [← prefix_firstLine_iff (not_break_mem_opener k), hline,
    prefix_firstLine_iff (not_break_mem_opener k)] at hk
  exact h k hk

/-! ### What stands behind a closed segment -/

/-- What stands behind a closing bracket does not matter. -/
theorem Closes.of_suffix (h : Closes k t x) (hclosed : closer k <:+ t) (y : List Char) :
    Closes k t y := by
  induction h with
  | atEnd => cases List.suffix_nil.1 hclosed
  | bracket => exact .bracket
  | @inside c t x hc h ih =>
    rcases List.suffix_cons_iff.1 hclosed with heq | hclosed
    · rw [← List.cons_append, ← heq] at hc
      exact absurd (List.prefix_append _ _) hc
    · refine .inside (fun hk => hc ?_) (ih hclosed)
      -- the bracket that ends `t` is no longer than `t`
      have hlength : (closer k).length ≤ (c :: t).length :=
        (hclosed.trans (List.suffix_cons c t)).length_le
      rw [← List.cons_append] at hk ⊢
      exact (List.prefix_of_prefix_length_le hk (List.prefix_append _ _) hlength).trans
        (List.prefix_append _ _)

/-- What stands behind a closing quote does not matter. -/
theorem Quotes.of_getLast? (h : Quotes q t x) (hb : q ≠ '\\') (hlast : t.getLast? = some q)
    (hescapes : escapes t.dropLast = false) (y : List Char) : Quotes q t y := by
  induction h with
  | atEnd => cases hlast
  | atBreak => cases hlast
  | atBackslash => exact absurd (Option.some.inj hlast).symm hb
  | close hb hn => exact .close hb hn
  | @escaped c t x h ih =>
    cases t with
    | nil => cases hescapes
    | cons d t =>
      rw [List.getLast?_cons_cons, List.getLast?_cons_cons] at hlast
      rw [List.dropLast_cons_cons, List.dropLast_cons_cons, escapes_escaped] at hescapes
      exact .escaped (ih hlast hescapes)
  | @plain c t x hc hn hq h ih =>
    cases t with
    | nil => exact absurd (Option.some.inj hlast) hq
    | cons d t =>
      rw [List.getLast?_cons_cons] at hlast
      rw [List.dropLast_cons_cons, escapes_plain hc] at hescapes
      exact .plain hc hn hq (ih hlast hescapes)

/-- **Of what follows a closed segment only the line matters.** -/
theorem Stands.of_firstLine (h : Stands seg x) (hclosed : seg.isClosed = true)
    (hline : firstLine y = firstLine x) : Stands seg y := by
  obtain ⟨c, u, htext, hbegins⟩ := h
  refine ⟨c, u, htext, ?_⟩
  generalize hr : u ++ x = r at hbegins
  cases hbegins with
  | @blockComment k r body t x ho hc =>
    cases htext
    have hopener : ∀ z, afterOpener? (opener k ++ t ++ z) = some (k, t ++ z) := fun z => by
      rw [List.append_assoc, afterOpener?_opener]
    have hsuffix := Segment.closer_suffix_of_blockComment hclosed
    obtain ⟨-, hcloses⟩ := throughCloser_eq_iff.1 hc
    exact .blockComment (hopener y) (hcloses.of_suffix hsuffix y).throughCloser_eq
  | @lineComment r t x ho htail ht hrest =>
    cases htext
    have hnil : firstLine y = [] := hline.trans (firstLine_eq_nil_iff.2 hrest)
    have hcomment : firstLine (t ++ y) = firstLine r := by
      rw [htail, firstLine_append ht, firstLine_append ht, hline]
    exact .lineComment (afterOpener?_eq_none_of_firstLine ho hcomment) rfl ht
      (firstLine_eq_nil_iff.1 hnil)
  | @quoted q r t x hq hc =>
    cases htext
    have hterminated := Segment.isTerminated_of_isClosed hclosed rfl
    simp only [Segment.isTerminated, Bool.and_eq_true, beq_iff_eq, Bool.not_eq_true'] at hterminated
    obtain ⟨⟨-, hlast⟩, hescapes⟩ := hterminated
    obtain ⟨-, hquotes⟩ := throughQuote_eq_iff.1 hc
    exact .quoted hq (hquotes.of_getLast? (ne_of_isQuote hq).1 hlast hescapes y).throughQuote_eq
  | @longString k r body t x ho hc =>
    cases htext
    have hsuffix := Segment.closer_suffix_of_longString hclosed
    obtain ⟨-, hcloses⟩ := throughCloser_eq_iff.1 hc
    refine .longString ?_ (hcloses.of_suffix hsuffix y).throughCloser_eq
    rw [← afterOpener?_opener k (t ++ y)]
    simp [opener]
  | code hdash hquote hopen =>
    cases htext
    rw [List.nil_append]
    refine .code (fun hc v hv => ?_) hquote fun hc => ?_
    · have hdashes : ['-'] <+: y := ⟨v, hv.symm⟩
      rw [← prefix_firstLine_iff (by decide), hline, prefix_firstLine_iff (by decide)] at hdashes
      obtain ⟨v, rfl⟩ := hdashes
      exact hdash hc v rfl
    · refine afterOpener?_eq_none_of_firstLine (hopen hc) ?_
      rw [firstLine_cons (by decide), firstLine_cons (by decide), hline]

/-- A character that begins nothing else is read as code. -/
theorem stands_code (hdash : c ≠ '-') (hquote : ¬ (c = '"' ∨ c = '\'')) (hopen : c ≠ '[')
    (x : List Char) : Stands (.code c) x :=
  ⟨c, [], rfl, .code (fun h => absurd h hdash) hquote fun h => absurd h hopen⟩

/-- The text of a closed segment begins and ends with a line feed only if it is one of the
code. -/
def Segment.KeepsLines (seg : Segment) : Prop :=
  seg.text ≠ [] ∧
    (seg.text.head? = some '\n' ∨ seg.text.getLast? = some '\n' → seg = .code '\n')

theorem EndsBare.getLast?_ne (h : EndsBare s) : s.getLast? ≠ some '\n' := by
  obtain ⟨u, c, rfl, hc⟩ := h
  rw [List.getLast?_concat]
  rintro ⟨⟩
  cases hc

theorem Stands.keepsLines (h : Stands seg x) (hclosed : seg.isClosed = true) :
    seg.KeepsLines := by
  refine ⟨h.text_ne_nil, fun hbreak => ?_⟩
  obtain ⟨c, u, htext, hbegins⟩ := h
  rw [htext, List.head?_cons] at hbreak
  generalize u ++ x = r at hbegins
  have hlast : seg.isString = true → (c :: u).getLast? ≠ some '\n' := fun hstring => by
    rw [← htext]
    exact (Segment.endsBare_of_isTerminated
      (Segment.isTerminated_of_isClosed hclosed hstring)).getLast?_ne
  cases hbegins with
  | code => cases htext; rcases hbreak with hc | hc <;> cases hc <;> rfl
  | quoted hq =>
    rcases hbreak with hc | hc
    · exact absurd (Option.some.inj hc) (ne_of_isQuote hq).2
    · exact absurd hc (hlast rfl)
  | longString =>
    rcases hbreak with hc | hc
    · cases hc
    · exact absurd hc (hlast rfl)
  | @lineComment r t x ho hr ht hrest =>
    cases htext
    rcases hbreak with hc | hc
    · cases hc
    · have hmem := List.mem_of_getLast? hc
      simp only [List.mem_cons, ht, or_false] at hmem
      rcases hmem with h | h <;> cases h
  | @blockComment k r body t x ho hc =>
    cases htext
    rcases hbreak with hc | hc
    · cases hc
    · obtain ⟨v, rfl⟩ := Segment.closer_suffix_of_blockComment hclosed
      have hend : '-' :: '-' :: (opener k ++ (v ++ closer k)) =
          '-' :: '-' :: (opener k ++ (v ++ ']' :: List.replicate k '=')) ++ [']'] := by
        simp [closer]
      rw [hend, List.getLast?_concat] at hc
      cases hc

theorem Legible.keepsLines (h : Legible ss) (hclosed : ∀ seg ∈ ss, seg.isClosed = true) :
    ∀ seg ∈ ss, seg.KeepsLines := by
  induction ss with
  | nil => exact List.forall_mem_nil _
  | cons seg ss ih =>
    obtain ⟨hstands, hss⟩ := legible_cons_iff.1 h
    rw [List.forall_mem_cons] at hclosed ⊢
    exact ⟨hstands.keepsLines hclosed.1, ih hss hclosed.2⟩

/-! ### What stands behind a line feed of the code -/

@[simp] theorem written_segments (s : List Char) : written (segments s) = s :=
  flatMap_text_segments s

/-- Closed segments are read before a line feed as they are before the end. -/
theorem reads_append_break (h : Legible ss) (hclosed : ∀ seg ∈ ss, seg.isClosed = true)
    (y : List Char) : Reads (written ss ++ '\n' :: y) ss ('\n' :: y) := by
  induction ss with
  | nil => exact .done
  | cons seg ss ih =>
    obtain ⟨hstands, hss⟩ := legible_cons_iff.1 h
    have hrest := ih hss fun seg hseg => hclosed seg (List.mem_cons_of_mem _ hseg)
    obtain ⟨c, u, htext, hbegins⟩ := hstands.of_firstLine (hclosed seg List.mem_cons_self)
      (firstLine_append_break (written ss) y)
    rw [written_cons, htext, List.append_assoc]
    exact .step hbegins hrest

/-- **Behind closed segments a line feed is one of the code.** -/
theorem segments_append_break (hclosed : ∀ seg ∈ segments s, seg.isClosed = true)
    (y : List Char) : segments (s ++ '\n' :: y) = segments s ++ .code '\n' :: segments y := by
  have hreads := reads_append_break (legible_segments s) hclosed y
  rw [written_segments] at hreads
  rw [hreads.segments_eq, segments_break]

/-- The text is empty, or the last that is read from it is a line feed of the code. -/
def EndsFresh (s : List Char) : Prop := s = [] ∨ [.code '\n'] <:+ segments s

/-- A line feed that ends closed segments is one of the code. -/
theorem endsFresh_of_getLast? (hclosed : ∀ seg ∈ segments s, seg.isClosed = true)
    (h : s.getLast? = some '\n') : EndsFresh s := by
  have hkeeps := (legible_segments s).keepsLines hclosed
  have hwritten := written_segments s
  rcases List.eq_nil_or_concat (segments s) with hnil | ⟨ss, seg, hss⟩
  · rw [hnil] at hwritten
    exact .inl hwritten.symm
  · rw [List.concat_eq_append] at hss
    rw [hss] at hwritten hkeeps
    obtain ⟨hne, hbreak⟩ := hkeeps seg (List.mem_append_right ss (List.mem_singleton_self seg))
    have hlast : seg.text.getLast? = some '\n' := by
      rwa [← hwritten, written, List.flatMap_append, List.flatMap_singleton,
        List.getLast?_append_of_ne_nil _ hne] at h
    rw [hbreak (.inr hlast)] at hss
    exact .inr ⟨ss, hss.symm⟩

/-- **The scan begins afresh behind a line feed of the code.** -/
theorem EndsFresh.segments_append (h : EndsFresh s) (y : List Char) :
    segments (s ++ y) = segments s ++ segments y := by
  rcases h with rfl | ⟨ss, hss⟩
  · rw [segments]
    rfl
  · obtain ⟨rest, hreads, hrest⟩ := reads_of_segments_eq hss.symm
    obtain rfl : rest = ['\n'] := by
      rw [← flatMap_text_segments rest, hrest]
      rfl
    have hseparates : Separates ['\n'] := ⟨'\n', List.mem_singleton_self _, by decide, by decide⟩
    rw [(hreads.append hseparates y).segments_eq, List.singleton_append, segments_break, ← hss,
      List.append_assoc]
    rfl

/-- All lines of a text are tidied alike if it ends with a line feed of the code. -/
theorem EndsFresh.tidy_eq (h : EndsFresh s) :
    tidy s = (codeLines (segments s)).flatMap tidyLine := by
  rcases h with rfl | ⟨ss, hss⟩
  · rw [tidy, segments]
    rfl
  · rw [tidy, ← hss, codeLines_append_break, joinTidy_append _ (codeLines_ne_nil []),
      List.flatMap_append]
    rfl

/-- **A text is tidied in two parts** that meet behind a line feed of the code. -/
theorem EndsFresh.tidy_append (h : EndsFresh s) (y : List Char) :
    tidy (s ++ y) = tidy s ++ tidy y := by
  rw [h.tidy_eq, tidy, h.segments_append]
  rcases h with rfl | ⟨ss, hss⟩
  · rw [segments]
    rfl
  · rw [← hss, List.append_assoc, List.singleton_append, codeLines_append_break,
      codeLines_append_break, joinTidy_append _ (codeLines_ne_nil (segments y)),
      List.flatMap_append]
    exact congrArg (· ++ tidy y) (List.append_nil _).symm

end Lua
end LuaBundler
