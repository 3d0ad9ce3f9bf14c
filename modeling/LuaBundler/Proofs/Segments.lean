/-
# Reading a text in parts

`Begins c r seg rest` lists the ways in which a text `c :: r` can begin with a segment,
one for each row of the table in `LuaBundler.Lua.Segment`, and `readSegment` follows it
(`begins_iff`).  `Reads s ss rest` repeats it: the segments `ss` are read from `s`, and
`rest` is left.

What was read stays as it is if the end of the text is cut off behind it
(`Reads.of_append`).  So a text is scanned in two parts as it is in one, if the scan of
the whole comes by the place where they meet outside all strings and comments
(`Passes.segments_append`).  Text that is added can change what was read before: behind
`[` an added `=[` makes a bracket of both.  It does not if what is left holds a character
that is part of no opening bracket (`Reads.append`).
-/

import Mathlib.Data.List.Infix
import LuaBundler.Lua.Segment

namespace LuaBundler
namespace Lua

variable {c d q : Char} {k : Nat} {r s t x y rest body : List Char}

/-! ### Brackets -/

/-- An opening long bracket is read as one. -/
theorem afterOpener?_opener (k : Nat) (body : List Char) :
    afterOpener? (opener k ++ body) = some (k, body) := by
  have hdrop : (List.replicate k '=' ++ '[' :: body).dropWhile (· == '=') = '[' :: body := by
    rw [List.dropWhile_append_of_pos (by simp)]
    rfl
  have htake : (List.replicate k '=' ++ '[' :: body).takeWhile (· == '=') =
      List.replicate k '=' := by
    rw [List.takeWhile_append_of_pos (by simp)]
    simp
  simp [opener, afterOpener?, hdrop, htake]

theorem afterOpener?_eq_some_iff : afterOpener? s = some (k, body) ↔ s = opener k ++ body :=
  ⟨eq_opener_append_of_afterOpener?, fun h => h ▸ afterOpener?_opener k body⟩

/-- The text holds a character that is part of no opening long bracket. -/
def Separates (s : List Char) : Prop := ∃ c ∈ s, c ≠ '[' ∧ c ≠ '='

theorem Separates.append_left (h : Separates s) (t : List Char) : Separates (t ++ s) := by
  obtain ⟨c, hc, hne⟩ := h
  exact ⟨c, List.mem_append_right t hc, hne⟩

/-- No bracket opens a text whose beginning it does not open, if that holds a character
that is part of none. -/
theorem afterOpener?_append_eq_none (h : afterOpener? s = none) (hs : Separates s)
    (y : List Char) : afterOpener? (s ++ y) = none := by
  rw [Option.eq_none_iff_forall_ne_some]
  rintro ⟨k, body⟩ hk
  rcases List.append_eq_append_iff.1 (afterOpener?_eq_some_iff.1 hk) with ⟨a, ha, -⟩ | ⟨b, hb, -⟩
  · obtain ⟨c, hc, hopen, hlevel⟩ := hs
    have hmem : c ∈ opener k := ha ▸ List.mem_append_left a hc
    simp only [opener, List.mem_cons, List.mem_append, List.mem_replicate, List.not_mem_nil,
      or_false] at hmem
    rcases hmem with he | ⟨-, he⟩ | he
    · exact hopen he
    · exact hlevel he
    · exact hopen he
  · rw [hb, afterOpener?_opener] at h
    cases h

theorem afterOpener?_eq_none_of_append (h : afterOpener? (s ++ y) = none) :
    afterOpener? s = none := by
  cases hs : afterOpener? s with
  | none => rfl
  | some p =>
    rw [afterOpener?_eq_some_iff.1 hs, List.append_assoc, afterOpener?_opener] at h
    cases h

/-- Behind an opening long bracket of level `k` the text `t` is read, and `rest` is left. -/
inductive Closes (k : Nat) : List Char → List Char → Prop
  /-- The text ends. -/
  | atEnd : Closes k [] []
  /-- The bracket is closed. -/
  | bracket {r : List Char} : Closes k (closer k) r
  /-- No bracket of the level closes here. -/
  | inside {c : Char} {t r : List Char} (hc : ¬ closer k <+: c :: (t ++ r))
      (h : Closes k t r) : Closes k (c :: t) r

/-- The end of a long bracket is found as the rules say. -/
theorem closes_throughCloser (k : Nat) (s : List Char) :
    Closes k (throughCloser k s).1 (throughCloser k s).2 := by
  induction s with
  | nil => exact .atEnd
  | cons c r ih =>
    unfold throughCloser
    split
    · exact .bracket
    · next h =>
      refine .inside (fun ⟨u, hu⟩ => ?_) ih
      rw [throughCloser_append] at hu
      rw [Text.isPrefixOf?_eq_some_iff.2 hu.symm] at h
      cases h

/-- The rules for long brackets leave no choice. -/
theorem Closes.throughCloser_eq (h : Closes k t rest) :
    throughCloser k (t ++ rest) = (t, rest) := by
  induction h with
  | atEnd => rfl
  | @bracket r =>
    have hp : (closer k).isPrefixOf? (closer k ++ r) = some r := Text.isPrefixOf?_eq_some_iff.2 rfl
    obtain ⟨c, u, hu⟩ : ∃ c u, closer k ++ r = c :: u := ⟨_, _, rfl⟩
    rw [hu] at hp ⊢
    rw [throughCloser, hp]
  | @inside c t r hc h ih =>
    rw [List.cons_append, throughCloser]
    split
    · next u hu => exact absurd ⟨u, (Text.isPrefixOf?_eq_some_iff.1 hu).symm⟩ hc
    · rw [ih]

theorem throughCloser_eq_iff :
    throughCloser k s = (t, rest) ↔ s = t ++ rest ∧ Closes k t rest := by
  constructor
  · intro h
    have happend := throughCloser_append k s
    have hcloses := closes_throughCloser k s
    rw [h] at happend hcloses
    exact ⟨happend.symm, hcloses⟩
  · rintro ⟨rfl, h⟩
    exact h.throughCloser_eq

/-- Text is left behind a closing bracket only. -/
theorem Closes.closer_suffix (h : Closes k t rest) (hr : rest ≠ []) : closer k <:+ t := by
  induction h with
  | atEnd => exact absurd rfl hr
  | bracket => exact List.suffix_rfl
  | inside hc h ih => exact (ih hr).trans (List.suffix_cons _ _)

/-- What is cut off behind a closing bracket does not matter. -/
theorem Closes.of_append (h : Closes k t (x ++ y)) : Closes k t x := by
  generalize hr : x ++ y = r at h
  induction h with
  | atEnd =>
    rw [(List.append_eq_nil_iff.1 hr).1]
    exact .atEnd
  | bracket => exact .bracket
  | @inside c t r hc h ih =>
    subst hr
    refine .inside (fun hx => hc (hx.trans ?_)) (ih rfl)
    rw [← List.append_assoc, ← List.cons_append]
    exact List.prefix_append _ _

/-- What is added behind a closing bracket does not matter. -/
theorem Closes.append (h : Closes k t x) (hx : x ≠ []) (y : List Char) : Closes k t (x ++ y) := by
  induction h with
  | atEnd => exact absurd rfl hx
  | bracket => exact .bracket
  | @inside c t r hc h ih =>
    refine .inside (fun hy => hc ?_) (ih hx)
    -- the bracket that ends `t` is no longer than `t`
    have hlength : (closer k).length ≤ (c :: t).length :=
      ((h.closer_suffix hx).trans (List.suffix_cons c t)).length_le
    rw [← List.cons_append] at hy ⊢
    exact (List.prefix_of_prefix_length_le hy (List.prefix_append _ _) hlength).trans
      (List.prefix_append _ _)

/-! ### Quotes -/

/-- Behind an opening quote `q` the text `t` is read, and `rest` is left. -/
inductive Quotes (q : Char) : List Char → List Char → Prop
  /-- The text ends. -/
  | atEnd : Quotes q [] []
  /-- The line ends. -/
  | atBreak {r : List Char} : Quotes q [] ('\n' :: r)
  /-- The text ends behind a backslash. -/
  | atBackslash : Quotes q ['\\'] []
  /-- The string is closed. -/
  | close {r : List Char} (hb : q ≠ '\\') (hn : q ≠ '\n') : Quotes q [q] r
  /-- A backslash and the character behind it belong to the string. -/
  | escaped {c : Char} {t r : List Char} (h : Quotes q t r) : Quotes q ('\\' :: c :: t) r
  /-- Any other character belongs to the string. -/
  | plain {c : Char} {t r : List Char} (hb : c ≠ '\\') (hn : c ≠ '\n') (hq : c ≠ q)
      (h : Quotes q t r) : Quotes q (c :: t) r

/-- A quoted string is read as the rules say. -/
theorem quotes_throughQuote (q : Char) (s : List Char) :
    Quotes q (throughQuote q s).1 (throughQuote q s).2 := by
  fun_induction throughQuote q s with
  | case1 => exact .atEnd
  | case2 => exact .atBackslash
  | case3 c r p ih => exact .escaped ih
  | case4 => exact .atBreak
  | case5 r hend hesc hn =>
    refine .close (fun hb => ?_) hn
    cases r with
    | nil => exact hend hb rfl
    | cons d r => exact hesc d r hb rfl
  | case6 c r hend hesc hn hq p ih =>
    refine .plain (fun hb => ?_) hn hq ih
    cases r with
    | nil => exact hend hb rfl
    | cons d r => exact hesc d r hb rfl

/-- The rules for quoted strings leave no choice. -/
theorem Quotes.throughQuote_eq (h : Quotes q t rest) : throughQuote q (t ++ rest) = (t, rest) := by
  induction h with
  | atEnd => rfl
  | atBreak => simp [throughQuote]
  | atBackslash => rfl
  | close hb hn =>
    rw [List.singleton_append, throughQuote, if_neg hn, if_pos rfl]
    · exact fun he => absurd he hb
    · exact fun _ _ he => absurd he hb
  | escaped h ih => simp [throughQuote, ih]
  | plain hb hn hq h ih =>
    rw [List.cons_append, throughQuote, if_neg hn, if_neg hq, ih]
    · exact fun he => absurd he hb
    · exact fun _ _ he => absurd he hb

theorem throughQuote_eq_iff : throughQuote q s = (t, rest) ↔ s = t ++ rest ∧ Quotes q t rest := by
  constructor
  · intro h
    have happend := throughQuote_append q s
    have hquotes := quotes_throughQuote q s
    rw [h] at happend hquotes
    exact ⟨happend.symm, hquotes⟩
  · rintro ⟨rfl, h⟩
    exact h.throughQuote_eq

/-- What is cut off behind a quoted string does not matter. -/
theorem Quotes.of_append (h : Quotes q t (x ++ y)) : Quotes q t x := by
  generalize hr : x ++ y = r at h
  induction h with
  | atEnd =>
    rw [(List.append_eq_nil_iff.1 hr).1]
    exact .atEnd
  | atBreak =>
    cases x with
    | nil => exact .atEnd
    | cons d x =>
      cases hr
      exact .atBreak
  | atBackslash =>
    rw [(List.append_eq_nil_iff.1 hr).1]
    exact .atBackslash
  | close hb hn => exact .close hb hn
  | escaped h ih => exact .escaped (ih hr)
  | plain hb hn hq h ih => exact .plain hb hn hq (ih hr)

/-- What is added behind a quoted string that has text behind it does not matter. -/
theorem Quotes.append (h : Quotes q t x) (hx : x ≠ []) (y : List Char) : Quotes q t (x ++ y) := by
  induction h with
  | atEnd => exact absurd rfl hx
  | atBreak => exact .atBreak
  | atBackslash => exact absurd rfl hx
  | close hb hn => exact .close hb hn
  | escaped h ih => exact .escaped (ih hx)
  | plain hb hn hq h ih => exact .plain hb hn hq (ih hx)

/-! ### Segments -/

/-- A text `c :: r` begins with the segment `seg`, and `rest` stands behind it. -/
inductive Begins : Char → List Char → Segment → List Char → Prop
  | blockComment {k : Nat} {r body t rest : List Char} (ho : afterOpener? r = some (k, body))
      (hc : throughCloser k body = (t, rest)) :
      Begins '-' ('-' :: r) (.blockComment ('-' :: '-' :: (opener k ++ t))) rest
  | lineComment {r t rest : List Char} (ho : afterOpener? r = none) (hr : r = t ++ rest)
      (ht : '\n' ∉ t) (hrest : ∀ c ∈ rest.head?, c = '\n') :
      Begins '-' ('-' :: r) (.lineComment ('-' :: '-' :: t)) rest
  | quoted {q : Char} {r t rest : List Char} (hq : q = '"' ∨ q = '\'')
      (hc : throughQuote q r = (t, rest)) : Begins q r (.quoted (q :: t)) rest
  | longString {k : Nat} {r body t rest : List Char}
      (ho : afterOpener? ('[' :: r) = some (k, body)) (hc : throughCloser k body = (t, rest)) :
      Begins '[' r (.longString (opener k ++ t)) rest
  | code {c : Char} {r : List Char} (hdash : c = '-' → ∀ u, r ≠ '-' :: u)
      (hquote : ¬ (c = '"' ∨ c = '\'')) (hopen : c = '[' → afterOpener? ('[' :: r) = none) :
      Begins c r (.code c) r

/-- A text begins with the segment that is read from it. -/
theorem begins_readSegment (c : Char) (r : List Char) :
    Begins c r (readSegment c r).1 (readSegment c r).2 := by
  unfold readSegment
  split
  · next r =>
    split
    · next k body h => exact .blockComment h rfl
    · next h =>
      refine .lineComment h List.takeWhile_append_dropWhile.symm ?_ ?_
      · intro hmem
        have hbreak := List.all_eq_true.1 List.all_takeWhile '\n' hmem
        simp at hbreak
      · intro c hc
        have := List.head?_dropWhile_not (· != '\n') r
        rw [Option.mem_def.1 hc] at this
        simpa using this
  · exact .quoted (.inl rfl) rfl
  · exact .quoted (.inr rfl) rfl
  · next r =>
    split
    · next k body h => exact .longString h rfl
    · next h => exact .code (fun he => absurd he (by decide)) (by decide) fun _ => h
  · next hdouble hsingle hbracket hdash =>
    exact .code (fun he u => hdash u he) (not_or.2 ⟨hdouble, hsingle⟩) fun he => absurd he hbracket

/-- There is one segment that a text begins with. -/
theorem Begins.readSegment_eq {seg : Segment} (h : Begins c r seg rest) :
    readSegment c r = (seg, rest) := by
  cases h with
  | blockComment ho hc => simp [readSegment, ho, hc]
  | @lineComment r t rest ho hr ht hrest =>
    have htake : ∀ c ∈ t, (c != '\n') = true := fun c hc => by
      rw [bne_iff_ne]
      exact fun he => ht (he ▸ hc)
    have hstop : rest.takeWhile (· != '\n') = [] ∧ rest.dropWhile (· != '\n') = rest := by
      cases rest with
      | nil => exact ⟨rfl, rfl⟩
      | cons d rest =>
        obtain rfl := hrest d rfl
        exact ⟨rfl, rfl⟩
    have htext : r.takeWhile (· != '\n') = t := by
      rw [hr, List.takeWhile_append_of_pos htake, hstop.1, List.append_nil]
    have hleft : r.dropWhile (· != '\n') = rest := by
      rw [hr, List.dropWhile_append_of_pos htake, hstop.2]
    simp only [readSegment, ho, htext, hleft]
  | quoted hq hc => rcases hq with rfl | rfl <;> simp [readSegment, hc]
  | longString ho hc => simp [readSegment, ho, hc]
  | code hdash hquote hopen =>
    unfold readSegment
    split
    · exact absurd rfl (hdash rfl _)
    · exact absurd (.inl rfl) hquote
    · exact absurd (.inr rfl) hquote
    · rw [hopen rfl]
    · rfl

theorem begins_iff {seg : Segment} : Begins c r seg rest ↔ readSegment c r = (seg, rest) := by
  refine ⟨Begins.readSegment_eq, fun h => ?_⟩
  have hbegins := begins_readSegment c r
  rwa [h] at hbegins

theorem Begins.text_append {seg : Segment} (h : Begins c r seg rest) :
    seg.text ++ rest = c :: r := by
  have htext := readSegment_append c r
  rwa [h.readSegment_eq] at htext

/-- What is cut off behind a segment does not matter. -/
theorem Begins.of_append {seg : Segment} (h : Begins c (r ++ y) seg (x ++ y)) :
    Begins c r seg x := by
  have htext := h.text_append
  rw [← List.append_assoc, ← List.cons_append, List.append_left_inj] at htext
  generalize hs : r ++ y = s at h
  generalize hz : x ++ y = z at h
  cases h with
  | @blockComment k r' body t z ho hc =>
    obtain ⟨-, hcloses⟩ := throughCloser_eq_iff.1 hc
    rw [← hz] at hcloses
    obtain rfl : r = '-' :: (opener k ++ (t ++ x)) := by
      simpa [Segment.text] using htext.symm
    refine .blockComment (afterOpener?_opener _ _) ?_
    exact hcloses.of_append.throughCloser_eq
  | @lineComment r' t z ho hr ht hrest =>
    obtain rfl : r = '-' :: (t ++ x) := by simpa [Segment.text] using htext.symm
    refine .lineComment (afterOpener?_eq_none_of_append (y := y) ?_) rfl ht fun c hc => ?_
    · simp only [List.cons_append, List.cons.injEq, true_and] at hs
      rwa [hs]
    · refine hrest c ?_
      rw [← hz, List.head?_append, Option.mem_def.1 hc]
      rfl
  | @quoted q r' t z hq hc =>
    obtain ⟨-, hquotes⟩ := throughQuote_eq_iff.1 hc
    rw [← hz] at hquotes
    obtain rfl : r = t ++ x := by simpa [Segment.text] using htext.symm
    exact .quoted hq hquotes.of_append.throughQuote_eq
  | @longString k r' body t z ho hc =>
    obtain ⟨-, hcloses⟩ := throughCloser_eq_iff.1 hc
    rw [← hz] at hcloses
    have hopener : afterOpener? ('[' :: r) = some (k, t ++ x) := by
      rw [← htext]
      simp [Segment.text, afterOpener?_opener]
    exact .longString hopener hcloses.of_append.throughCloser_eq
  | @code c s hdash hquote hopen =>
    obtain rfl : r = x := by simpa [Segment.text] using htext.symm
    refine .code (fun he u hu => ?_) hquote fun he => ?_
    · exact hdash he (u ++ y) (by rw [← hs, hu, List.cons_append])
    · refine afterOpener?_eq_none_of_append (y := y) ?_
      rw [List.cons_append, hs]
      exact hopen he

/-- What is added behind a segment does not matter, if the text behind it holds a
character that is part of no opening bracket. -/
theorem Begins.append {seg : Segment} (h : Begins c r seg x) (hx : Separates x)
    (y : List Char) : Begins c (r ++ y) seg (x ++ y) := by
  have hne : x ≠ [] := by
    rintro rfl
    obtain ⟨c, hc, -⟩ := hx
    cases hc
  cases h with
  | @blockComment k r body t x ho hc =>
    obtain ⟨rfl, hcloses⟩ := throughCloser_eq_iff.1 hc
    have hopener : afterOpener? (r ++ y) = some (k, t ++ (x ++ y)) := by
      rw [afterOpener?_eq_some_iff.1 ho]
      simp [afterOpener?_opener]
    exact .blockComment hopener (hcloses.append hne y).throughCloser_eq
  | @lineComment r t x ho hr ht hrest =>
    refine .lineComment (afterOpener?_append_eq_none ho ?_ y) ?_ ht fun c hc => ?_
    · rw [hr]
      exact hx.append_left t
    · rw [hr]
      exact List.append_assoc t x y
    · cases x with
      | nil => exact absurd rfl hne
      | cons d x => exact hrest c hc
  | @quoted q r t x hq hc =>
    obtain ⟨rfl, hquotes⟩ := throughQuote_eq_iff.1 hc
    rw [List.append_assoc]
    exact .quoted hq (hquotes.append hne y).throughQuote_eq
  | @longString k r body t x ho hc =>
    obtain ⟨rfl, hcloses⟩ := throughCloser_eq_iff.1 hc
    have hopener : afterOpener? ('[' :: (r ++ y)) = some (k, t ++ (x ++ y)) := by
      rw [← List.cons_append, afterOpener?_eq_some_iff.1 ho]
      simp [afterOpener?_opener]
    exact .longString hopener (hcloses.append hne y).throughCloser_eq
  | @code c r hdash hquote hopen =>
    refine .code (fun he u hu => ?_) hquote fun he => ?_
    · cases r with
      | nil => exact hne rfl
      | cons d r =>
        cases hu
        exact hdash he r rfl
    · rw [← List.cons_append]
      exact afterOpener?_append_eq_none (hopen he) (hx.append_left ['[']) y

/-! ### Beginnings of a text -/

/-- From `s` the segments `ss` are read, and `rest` is left. -/
inductive Reads : List Char → List Segment → List Char → Prop
  | done {s : List Char} : Reads s [] s
  | step {c : Char} {r left rest : List Char} {seg : Segment} {ss : List Segment}
      (hseg : Begins c r seg left) (h : Reads left ss rest) : Reads (c :: r) (seg :: ss) rest

variable {ss ts : List Segment}

/-- Reading loses no character. -/
theorem Reads.text_append (h : Reads s ss rest) : ss.flatMap Segment.text ++ rest = s := by
  induction h with
  | done => rfl
  | step hseg h ih => rw [List.flatMap_cons, List.append_assoc, ih, hseg.text_append]

/-- A line feed in the code is a segment. -/
theorem segments_break (s : List Char) : segments ('\n' :: s) = .code '\n' :: segments s := by
  rw [segments]
  rfl

/-- What is left is scanned afterwards. -/
theorem Reads.segments_eq (h : Reads s ss rest) : segments s = ss ++ segments rest := by
  induction h with
  | done => rfl
  | step hseg h ih => rw [segments, hseg.readSegment_eq, ih, List.cons_append]

/-- The first segments of a text are read from it. -/
theorem reads_of_segments_eq (h : segments s = ss ++ ts) :
    ∃ rest, Reads s ss rest ∧ segments rest = ts := by
  induction ss generalizing s with
  | nil => exact ⟨s, .done, h⟩
  | cons seg ss ih =>
    cases s with
    | nil =>
      rw [segments] at h
      cases h
    | cons c r =>
      rw [segments, List.cons_append, List.cons.injEq] at h
      obtain ⟨hseg, hrest⟩ := h
      obtain ⟨rest, hreads, hts⟩ := ih hrest
      refine ⟨rest, .step ?_ hreads, hts⟩
      rw [← hseg]
      exact begins_readSegment c r

/-- What is cut off behind the segments that are read does not matter. -/
theorem Reads.of_append (h : Reads (s ++ y) ss (x ++ y)) : Reads s ss x := by
  induction ss generalizing s with
  | nil =>
    generalize hs : s ++ y = a at h
    generalize hx : x ++ y = b at h
    cases h
    rw [List.append_cancel_right (hs.trans hx.symm)]
    exact .done
  | cons seg ss ih =>
    have htext := h.text_append
    rw [← List.append_assoc, List.append_left_inj, List.flatMap_cons, List.append_assoc] at htext
    generalize hs : s ++ y = a at h
    cases h with
    | @step c r left _ _ _ hseg h =>
      have hleft := h.text_append
      rw [← List.append_assoc] at hleft
      subst hleft
      cases s with
      | nil =>
        -- a segment is not empty, so it was not read from behind the cut
        have hempty := (List.append_eq_nil_iff.1 htext).1
        have hne := text_readSegment_ne_nil c r
        rw [hseg.readSegment_eq] at hne
        exact absurd hempty hne
      | cons d s =>
        cases hs
        exact .step hseg.of_append (ih h)

/-- What is added behind the segments that are read does not matter, if the text left
holds a character that is part of no opening bracket. -/
theorem Reads.append (h : Reads s ss x) (hx : Separates x) (y : List Char) :
    Reads (s ++ y) ss (x ++ y) := by
  induction h with
  | done => exact .done
  | step hseg h ih =>
    refine .step (hseg.append ?_ y) (ih hx)
    rw [← h.text_append]
    exact hx.append_left _

/-- The scan of `s` comes by the end of its beginning `a`, outside all strings and
comments. -/
def Passes (s a : List Char) : Prop := ∃ ss, ss <+: segments s ∧ ss.flatMap Segment.text = a

instance (s a : List Char) : Decidable (Passes s a) :=
  decidable_of_iff (∃ ss ∈ (segments s).inits, ss.flatMap Segment.text = a) <|
    exists_congr fun _ => and_congr_left' (List.mem_inits _ _)

/-- The scan passes a place if it reads segments up to there. -/
theorem passes_iff_reads : Passes (s ++ t) s ↔ ∃ ss, Reads (s ++ t) ss t := by
  constructor
  · rintro ⟨ss, ⟨ts, hss⟩, htext⟩
    obtain ⟨rest, hreads, -⟩ := reads_of_segments_eq hss.symm
    have hrest := hreads.text_append
    rw [htext, List.append_cancel_left_eq] at hrest
    exact ⟨ss, hrest ▸ hreads⟩
  · rintro ⟨ss, h⟩
    exact ⟨ss, ⟨segments t, h.segments_eq.symm⟩, List.append_cancel_right h.text_append⟩

/-- **A text is scanned in two parts as it is in one**, if the scan of the whole passes
between them. -/
theorem Passes.segments_append (h : Passes (s ++ t) s) :
    segments (s ++ t) = segments s ++ segments t := by
  obtain ⟨ss, hreads⟩ := passes_iff_reads.1 h
  have hs : Reads s ss [] := Reads.of_append (y := t) hreads
  rw [hreads.segments_eq, hs.segments_eq, segments, List.append_nil]

/-- A scan that passes two places passes the second on its way from the first. -/
theorem Passes.drop (h : Passes (s ++ t) s) (hx : Passes (s ++ t) (s ++ x)) : Passes t x := by
  obtain ⟨ss, hreads⟩ := passes_iff_reads.1 h
  obtain ⟨ts, hts, htext⟩ := hx
  have hs := List.append_cancel_right hreads.text_append
  rw [hreads.segments_eq] at hts
  rcases List.prefix_or_prefix_of_prefix (List.prefix_append ss _) hts with ⟨us, rfl⟩ | ⟨us, rfl⟩
  · refine ⟨us, (List.prefix_append_right_inj ss).1 hts, ?_⟩
    rwa [List.flatMap_append, hs, List.append_cancel_left_eq] at htext
  · rw [List.flatMap_append, htext, List.append_assoc, List.append_right_eq_self] at hs
    rw [(List.append_eq_nil_iff.1 hs).1]
    exact ⟨[], List.nil_prefix, rfl⟩

end Lua
end LuaBundler
