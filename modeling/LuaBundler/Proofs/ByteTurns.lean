/-
# Turns of the scan of bytes

From the beginning of a character on, the bytes say what the text says.  The level of a long
bracket, the place where it closes and the end of a quoted string are found among the bytes where
they are in the text (`level?_utf8`, `closeEnd_utf8`, `Quotes.min_quotedEnd`): no byte of another
character is taken for what is looked for, and what a step over two bytes leaves of a character is
passed.

So a turn goes over whole segments of the text (`exists_goesOver`), cuts the string between two
characters and writes what the segments write (`turn?_eq_some`).  Turn after turn this leads to the
end of the string, and to the stripped text (`run?_eq_some`).
-/

import LuaBundler.Proofs.ByteScan
import LuaBundler.Proofs.Registration

namespace LuaBundler
namespace Lua

open Text

variable {c q : Char} {k : ℕ} {r s t u rest : List Char} {m : Move} {ss : List Segment}

/-! ### Places -/

theorem from?_utf8 (u s : List Char) : from? (utf8 (u ++ s)) (utf8 u).length = some (utf8 s) := by
  rw [from?, if_pos (length_utf8_le_append u s), drop_utf8_append]

/-- The level of a bracket is the length of the run behind it, if another bracket ends the run. -/
theorem map_fst_afterOpener?_cons (r : List Char) :
    (afterOpener? ('[' :: r)).map Prod.fst =
      if (r.dropWhile (· == '=')).head? = some '[' then some (r.takeWhile (· == '=')).length
      else none := by
  rw [afterOpener?]
  split
  · next body hbody =>
    rw [hbody]
    rfl
  · next hne =>
    rw [if_neg]
    · rfl
    · intro hhead
      obtain ⟨body, hbody⟩ := List.head?_eq_some_iff.1 hhead
      exact hne body hbody

theorem afterOpener?_of_head?_ne (h : s.head? ≠ some '[') : afterOpener? s = none := by
  unfold afterOpener?
  split
  · exact absurd rfl h
  · rfl

/-- The level of a long bracket is read from the bytes. -/
theorem level?_utf8 (u s : List Char) :
    level? (utf8 (u ++ s)) (utf8 u).length = some ((afterOpener? s).map Prod.fst) := by
  have hbracket : '['.toNat < 128 := by decide
  unfold level?
  simp only [getElem?_utf8_append_eq_some_iff hbracket]
  by_cases hs : s.head? = some '['
  · obtain ⟨r, rfl⟩ := List.head?_eq_some_iff.1 hs
    have hrun : ∀ c ∈ r.takeWhile (· == '='), c.toNat < 128 := fun c hc => by
      have hequals : (c == '=') = true := List.all_eq_true.1 List.all_takeWhile c hc
      rw [eq_of_beq hequals]
      decide
    have hfrom : from? (utf8 (u ++ '[' :: r)) ((utf8 u).length + 1) = some (utf8 r) := by
      have h := from?_utf8 (u ++ ['[']) r
      rwa [List.append_assoc, length_utf8_concat hbracket] at h
    have hbehind := getElem?_utf8_append_eq_some_iff hbracket (u ++ '[' :: r.takeWhile (· == '='))
      (r.dropWhile (· == '='))
    rw [length_utf8_append_of_forall_lt u (List.forall_mem_cons.2 ⟨hbracket, hrun⟩),
      List.append_assoc, List.cons_append, List.takeWhile_append_dropWhile, List.length_cons,
      ← Nat.add_assoc, Nat.add_right_comm] at hbehind
    rw [if_pos hs, hfrom, Option.map_some, takeWhile_utf8 (agrees_eq (by decide)),
      utf8_of_forall_lt hrun, List.length_map, map_fst_afterOpener?_cons]
    simp only [hbehind]
  · rw [if_neg hs, afterOpener?_of_head?_ne hs]
    rfl

/-- Bytes among which the first one looked for is not are passed. -/
theorem indexOf?_append_of_not_mem {x : UInt8} {l p : List UInt8} (h : x ∉ l) (m : List UInt8) :
    indexOf? (x :: p) (l ++ m) = (indexOf? (x :: p) m).map (· + l.length) := by
  induction l with
  | nil => simp
  | cons y l ih =>
    rw [List.mem_cons, not_or] at h
    rw [List.cons_append, indexOf?, if_neg fun hpre => h.1 (List.cons_prefix_cons.1 hpre).1, ih h.2]
    simp [Function.comp_def, Nat.add_assoc]

theorem indexOf?_eq_zero {l p : List UInt8} (h : p <+: l) (hl : l ≠ []) :
    indexOf? p l = some 0 := by
  cases l with
  | nil => exact absurd rfl hl
  | cons x r => exact if_pos h

/-- A long bracket is ASCII. -/
theorem forall_mem_bracket_lt (hc : c.toNat < 128) (k : ℕ) :
    ∀ d ∈ c :: (List.replicate k '=' ++ [c]), d.toNat < 128 := by
  simp only [List.forall_mem_cons, List.forall_mem_append, List.mem_replicate]
  refine ⟨hc, ?_, hc, by simp⟩
  rintro d ⟨-, rfl⟩
  decide

theorem forall_mem_closer_lt (k : ℕ) : ∀ c ∈ closer k, c.toNat < 128 :=
  forall_mem_bracket_lt (by decide) k

theorem forall_mem_opener_lt (k : ℕ) : ∀ c ∈ opener k, c.toNat < 128 :=
  forall_mem_bracket_lt (by decide) k

theorem length_closer (k : ℕ) : (closer k).length = k + 2 := by
  simp [closer]

theorem length_opener (k : ℕ) : (opener k).length = k + 2 := by
  simp [opener]

/-- A closing bracket that does not begin with a character begins behind it. -/
theorem indexOf?_utf8_cons (h : ¬ closer k <+: c :: r) :
    indexOf? (utf8 (closer k)) (utf8 (c :: r)) =
      (indexOf? (utf8 (closer k)) (utf8 r)).map (· + (String.utf8EncodeChar c).length) := by
  have hbracket : ']'.toNat < 128 := by decide
  have hcloser : utf8 (closer k) = ']'.toUInt8 :: utf8 (List.replicate k '=' ++ [']']) := by
    rw [closer, utf8_cons, utf8EncodeChar_of_lt hbracket, List.singleton_append]
  -- the bracket itself is one byte, and no other character has its byte
  by_cases hc : c = ']'
  · subst hc
    rw [← utf8_prefix_iff (forall_mem_closer_lt k)] at h
    rw [utf8_cons, utf8EncodeChar_of_lt hbracket] at h ⊢
    exact if_neg h
  · rw [hcloser, utf8_cons]
    exact indexOf?_append_of_not_mem (fun hmem => hc ((eq_toUInt8_iff hbracket hmem).1 rfl)) _

/-- The first closing bracket among the bytes is the first one of the text. -/
theorem indexOf?_utf8_closer (k : ℕ) (s : List Char) :
    (indexOf? (utf8 (closer k)) (utf8 s)).elim (utf8 s).length (· + (k + 2)) =
      (utf8 (throughCloser k s).1).length := by
  have hascii := forall_mem_closer_lt k
  induction s with
  | nil => rfl
  | cons c r ih =>
    unfold throughCloser
    split
    · next rest hfound =>
      have hpre : utf8 (closer k) <+: utf8 (c :: r) :=
        (utf8_prefix_iff hascii).2 ⟨rest, (Text.isPrefixOf?_eq_some_iff.1 hfound).symm⟩
      rw [indexOf?_eq_zero hpre (by simp [utf8_cons]), utf8_of_forall_lt hascii, List.length_map,
        length_closer]
      exact Nat.zero_add _
    · next hnone =>
      have hpre : ¬ closer k <+: c :: r := fun ⟨rest, hrest⟩ => by
        rw [Text.isPrefixOf?_eq_some_iff.2 hrest.symm] at hnone
        cases hnone
      rw [indexOf?_utf8_cons hpre, utf8_cons, utf8_cons, List.length_append, List.length_append,
        ← ih]
      cases indexOf? (utf8 (closer k)) (utf8 r) with
      | none => rfl
      | some i =>
        show i + (String.utf8EncodeChar c).length + (k + 2) = _ + (i + (k + 2))
        omega

/-- **A long bracket ends among the bytes where it ends in the text.** -/
theorem closeEnd_utf8 (u : List Char) (k : ℕ) (s : List Char) :
    closeEnd (utf8 (u ++ s)) (utf8 u).length k = (utf8 (u ++ (throughCloser k s).1)).length := by
  have hindex := indexOf?_utf8_closer k s
  have hcloser := utf8_of_forall_lt (forall_mem_closer_lt k)
  rw [closeEnd, if_neg (Nat.not_lt_of_le (length_utf8_le_append u s)), drop_utf8_append, ← hcloser,
    utf8_append, utf8_append, List.length_append, List.length_append, ← hindex]
  split
  · next i hi =>
    rw [hi]
    exact Nat.add_assoc _ _ _
  · next hnone =>
    rw [hnone]
    rfl

/-! ### Strings -/

/-- Bytes that do not stop a string are passed. -/
theorem quotedEnd_append {b : UInt8} (w l m : List UInt8)
    (h : ∀ x ∈ l, x ≠ '\\'.toUInt8 ∧ x ≠ '\n'.toUInt8 ∧ x ≠ b) :
    quotedEnd (w ++ (l ++ m)) b w.length = quotedEnd (w ++ (l ++ m)) b (w ++ l).length := by
  induction l generalizing w with
  | nil => rw [List.append_nil]
  | cons x l ih =>
    obtain ⟨⟨hback, hbreak, hquote⟩, hl⟩ := List.forall_mem_cons.1 h
    have hbyte : (w ++ (x :: l ++ m))[w.length]? = some x := by simp
    have hrest := ih (w ++ [x]) hl
    rw [List.append_assoc, List.singleton_append, List.append_assoc, List.singleton_append,
      List.length_append, List.length_singleton] at hrest
    rw [quotedEnd, if_pos (by simp), hbyte, if_neg (by simpa using hback),
      if_neg (by simpa using hbreak), if_neg (by simpa using hquote)]
    exact hrest

/-- At the beginning of a character the scan of a string goes by that character. -/
theorem quotedEnd_utf8_cons (hq : q.toNat < 128) (u : List Char) (c : Char) (r : List Char) :
    quotedEnd (utf8 (u ++ c :: r)) q.toUInt8 (utf8 u).length =
      if c = '\\' then quotedEnd (utf8 (u ++ c :: r)) q.toUInt8 ((utf8 u).length + 2)
      else if c = '\n' then (utf8 u).length
      else if c = q then (utf8 u).length + 1
      else quotedEnd (utf8 (u ++ c :: r)) q.toUInt8 (utf8 (u ++ [c])).length := by
  have hback : '\\'.toNat < 128 := by decide
  have hbreak : '\n'.toNat < 128 := by decide
  by_cases hstop : c = '\\' ∨ c = '\n' ∨ c = q
  · rw [quotedEnd, if_pos (length_utf8_lt_append_cons u c r)]
    simp only [getElem?_utf8_append_eq_some_iff hback, getElem?_utf8_append_eq_some_iff hbreak,
      getElem?_utf8_append_eq_some_iff hq, List.head?_cons, Option.some_inj]
    split
    · rfl
    split
    · rfl
    · next hn hb =>
      have hc := (hstop.resolve_left hn).resolve_left hb
      rw [if_pos hc, if_pos hc]
  · rw [not_or, not_or] at hstop
    obtain ⟨hn, hb, hne⟩ := hstop
    rw [if_neg hn, if_neg hb, if_neg hne]
    have hpass := quotedEnd_append (b := q.toUInt8) (utf8 u) (String.utf8EncodeChar c) (utf8 r)
      fun x hx => ⟨mt (eq_toUInt8_iff hback hx).1 hn, mt (eq_toUInt8_iff hbreak hx).1 hb,
        mt (eq_toUInt8_iff hq hx).1 hne⟩
    have hone : utf8 [c] = String.utf8EncodeChar c := List.append_nil _
    rwa [← utf8_cons, ← utf8_append, ← hone, ← utf8_append] at hpass

/-- Behind a backslash the scan of a string gets over one character, though it steps over one byte
of it. -/
theorem quotedEnd_utf8_escaped (hq : q.toNat < 128) (u : List Char) (c : Char) (r : List Char) :
    quotedEnd (utf8 (u ++ c :: r)) q.toUInt8 ((utf8 u).length + 1) =
      quotedEnd (utf8 (u ++ c :: r)) q.toUInt8 (utf8 (u ++ [c])).length := by
  have hback : '\\'.toNat < 128 := by decide
  have hbreak : '\n'.toNat < 128 := by decide
  obtain ⟨x, l, hbytes⟩ := exists_utf8EncodeChar_eq c
  have hpass := quotedEnd_append (b := q.toUInt8) (utf8 u ++ [x]) l (utf8 r) fun y hy =>
    ⟨ne_toUInt8_of_mem_tail hbytes hy hback, ne_toUInt8_of_mem_tail hbytes hy hbreak,
      ne_toUInt8_of_mem_tail hbytes hy hq⟩
  have htext : utf8 u ++ [x] ++ (l ++ utf8 r) = utf8 (u ++ c :: r) := by
    rw [utf8_append, utf8_cons, hbytes, List.append_assoc]
    rfl
  have hplace : utf8 u ++ [x] ++ l = utf8 (u ++ [c]) := by
    rw [utf8_append, utf8_cons, hbytes, List.append_assoc]
    simp
  rwa [htext, hplace, List.length_append, List.length_singleton] at hpass

/-- **A string ends among the bytes where it ends in the text.**  A step over two bytes may end
inside a character; what is left of it does not stop the string. -/
theorem Quotes.min_quotedEnd (h : Quotes q t rest) (hq : q.toNat < 128) (u : List Char) :
    min (quotedEnd (utf8 (u ++ (t ++ rest))) q.toUInt8 (utf8 u).length)
        (utf8 (u ++ (t ++ rest))).length = (utf8 (u ++ t)).length := by
  have hback : '\\'.toNat < 128 := by decide
  induction h generalizing u with
  | atEnd => rw [List.append_nil, List.append_nil, quotedEnd, if_neg (lt_irrefl _), min_self]
  | atBreak =>
    rw [List.nil_append, List.append_nil, quotedEnd_utf8_cons hq, if_neg (by decide), if_pos rfl]
    exact min_eq_left (length_utf8_le_append u _)
  | atBackslash =>
    rw [List.append_nil, quotedEnd_utf8_cons hq, if_pos rfl]
    refine min_eq_right (le_trans ?_ (le_quotedEnd _ _ _))
    rw [length_utf8_concat hback]
    omega
  | @close r hb hn =>
    rw [List.singleton_append, quotedEnd_utf8_cons hq, if_neg hb, if_neg hn, if_pos rfl,
      ← length_utf8_concat hq]
    have h := length_utf8_le_append (u ++ [q]) r
    rw [List.append_assoc] at h
    exact min_eq_left h
  | @escaped c t r h ih =>
    -- the step ends behind the first byte of `c`, and the others are passed
    have hstep := quotedEnd_utf8_escaped hq (u ++ ['\\']) c (t ++ r)
    have hrest := ih (u ++ ['\\', c])
    rw [length_utf8_concat hback] at hstep
    simp only [List.append_assoc, List.cons_append, List.nil_append] at hstep hrest ⊢
    rw [quotedEnd_utf8_cons hq, if_pos rfl, hstep, hrest]
  | @plain c t r hb hn hne h ih =>
    have hrest := ih (u ++ [c])
    simp only [List.append_assoc, List.cons_append, List.nil_append] at hrest ⊢
    rw [quotedEnd_utf8_cons hq, if_neg hb, if_neg hn, if_neg hne, hrest]

/-! ### Turns -/

/-- A move does with segments what the scan of the text does with them. -/
def Move.Takes : Move → List Segment → Prop
  | copy _, ss => ∀ seg ∈ ss, seg ≠ .code '\n' ∧ seg.isComment = false
  | skip _, ss => ∀ seg ∈ ss, seg.isComment = true
  | endLine _, ss => ss = [.code '\n']

theorem Move.takes_copy {seg : Segment} (hbreak : seg ≠ .code '\n') (h : seg.isComment = false)
    (stop : ℕ) : (copy stop).Takes [seg] :=
  List.forall_mem_singleton.2 ⟨hbreak, h⟩

theorem Move.takes_skip {seg : Segment} (h : seg.isComment = true) (stop : ℕ) :
    (skip stop).Takes [seg] :=
  List.forall_mem_singleton.2 h

/-- From the end of `u` on a move goes over segments that the text there begins with. -/
structure Move.GoesOver (m : Move) (u s : List Char) (ss : List Segment) (rest : List Char) :
    Prop where
  takes : m.Takes ss
  segments_eq : segments s = ss ++ segments rest
  text_eq : written ss ++ rest = s
  stop_eq : m.stop = (utf8 (u ++ written ss)).length

theorem Begins.goesOver {seg : Segment} (h : Begins c r seg rest) (htakes : m.Takes [seg])
    (hstop : m.stop = (utf8 (u ++ seg.text)).length) : m.GoesOver u (c :: r) [seg] rest where
  takes := htakes
  segments_eq := by
    rw [segments, h.readSegment_eq]
    rfl
  text_eq := by
    rw [written_cons, written_nil, List.append_nil, h.text_append]
  stop_eq := by
    rw [hstop, written_cons, written_nil, List.append_nil]

/-- What is done at the beginning of a character is decided by the characters. -/
theorem move?_utf8 (u : List Char) (c : Char) (r : List Char) :
    move? (utf8 (u ++ c :: r)) (utf8 u).length =
      if c = '-' ∧ r.head? = some '-' then skipComment? (utf8 (u ++ c :: r)) (utf8 u).length
      else if c = '"' ∨ c = '\'' then
        some (.copy (min (quotedEnd (utf8 (u ++ c :: r)) c.toUInt8 ((utf8 u).length + 1))
          (utf8 (u ++ c :: r)).length))
      else if c = '[' then copyBracket? (utf8 (u ++ c :: r)) (utf8 u).length
      else if c = '\n' then some (.endLine ((utf8 u).length + 1))
      else copyPlain? (utf8 (u ++ c :: r)) (utf8 u).length := by
  obtain ⟨x, l, hbytes⟩ := exists_utf8EncodeChar_eq c
  have hx : x ∈ String.utf8EncodeChar c := hbytes ▸ List.mem_cons_self
  have hbyte : (utf8 (u ++ c :: r))[(utf8 u).length]? = some x := by
    have h := getElem?_utf8_append u (c :: r) 0
    rwa [utf8_cons, hbytes] at h
  have hnext : c = '-' → ((utf8 (u ++ c :: r))[(utf8 u).length + 1]? = some '-'.toUInt8 ↔
      r.head? = some '-') := by
    rintro rfl
    have h := getElem?_utf8_append_eq_some_iff (show '-'.toNat < 128 by decide) (u ++ ['-']) r
    rwa [length_utf8_concat (by decide), List.append_assoc] at h
  rw [move?, hbyte, Option.bind_some]
  simp only [eq_toUInt8_iff (show '-'.toNat < 128 by decide) hx,
    eq_toUInt8_iff (show '"'.toNat < 128 by decide) hx,
    eq_toUInt8_iff (show '\''.toNat < 128 by decide) hx,
    eq_toUInt8_iff (show '['.toNat < 128 by decide) hx,
    eq_toUInt8_iff (show '\n'.toNat < 128 by decide) hx, and_congr_right hnext]
  split
  · rfl
  split
  · next hquote =>
    have hc : c.toNat < 128 := by rcases hquote with rfl | rfl <;> decide
    rw [(eq_toUInt8_iff hc hx).2 rfl]
  · rfl

/-- A long bracket that opens is looked through behind its opening bracket. -/
theorem closeEnd_utf8_opener (u : List Char) (k : ℕ) (body : List Char) :
    closeEnd (utf8 (u ++ (opener k ++ body))) ((utf8 u).length + (k + 2)) k =
      (utf8 (u ++ (opener k ++ (throughCloser k body).1))).length := by
  rw [← length_opener, ← length_utf8_append_of_forall_lt u (forall_mem_opener_lt k),
    ← List.append_assoc, closeEnd_utf8, List.append_assoc]

/-- What two dashes begin is decided behind them. -/
theorem move?_dashes (u r : List Char) :
    move? (utf8 (u ++ '-' :: '-' :: r)) (utf8 u).length =
      some (.skip (((afterOpener? r).map Prod.fst).elim
        (utf8 (u ++ '-' :: '-' :: r.takeWhile (· != '\n'))).length
        fun k => closeEnd (utf8 (u ++ ['-', '-'] ++ r))
          ((utf8 (u ++ ['-', '-'])).length + (k + 2)) k)) := by
  have hcut : ∀ s, u ++ '-' :: '-' :: s = u ++ ['-', '-'] ++ s := by simp
  have hplace : (utf8 u).length + 2 = (utf8 (u ++ ['-', '-'])).length := by
    have h := length_utf8_concat (show '-'.toNat < 128 by decide) (u ++ ['-'])
    rw [List.append_assoc, length_utf8_concat (by decide)] at h
    exact h.symm
  have hrun : (utf8 r).takeWhile (fun x => !(x == '\n'.toUInt8)) = utf8 (r.takeWhile (· != '\n')) :=
    takeWhile_utf8 (agrees_eq (by decide)).not r
  rw [move?_utf8, if_pos ⟨rfl, rfl⟩, skipComment?, hcut r, hplace, level?_utf8, Option.bind_some,
    from?_utf8, Option.map_some, hrun, ← List.length_append, ← utf8_append,
    ← hcut (r.takeWhile (· != '\n'))]
  cases (afterOpener? r).map Prod.fst <;> rfl

/-- A block comment is skipped to its end. -/
theorem move?_blockComment {body : List Char} (ho : afterOpener? r = some (k, body))
    (u : List Char) :
    move? (utf8 (u ++ '-' :: '-' :: r)) (utf8 u).length =
      some (.skip (utf8 (u ++ '-' :: '-' :: (opener k ++ (throughCloser k body).1))).length) := by
  rw [move?_dashes, ho, Option.map_some, Option.elim_some, eq_opener_append_of_afterOpener? ho,
    closeEnd_utf8_opener, List.append_assoc]
  rfl

/-- Another comment is skipped to the end of its line. -/
theorem move?_lineComment (ho : afterOpener? r = none) (u : List Char) :
    move? (utf8 (u ++ '-' :: '-' :: r)) (utf8 u).length =
      some (.skip (utf8 (u ++ '-' :: '-' :: r.takeWhile (· != '\n'))).length) := by
  rw [move?_dashes, ho]
  rfl

/-- A quoted string is copied to its end. -/
theorem move?_quote (hq : q = '"' ∨ q = '\'') (u r : List Char) :
    move? (utf8 (u ++ q :: r)) (utf8 u).length =
      some (.copy (utf8 (u ++ q :: (throughQuote q r).1)).length) := by
  have hascii : q.toNat < 128 := by rcases hq with rfl | rfl <;> decide
  have hdash : q ≠ '-' := by rcases hq with rfl | rfl <;> decide
  have hend := (quotes_throughQuote q r).min_quotedEnd hascii (u ++ [q])
  rw [throughQuote_append, length_utf8_concat hascii, List.append_assoc, List.append_assoc] at hend
  rw [move?_utf8, if_neg fun h => hdash h.1, if_pos hq]
  exact congrArg (some ∘ Move.copy) hend

theorem move?_bracket (u r : List Char) :
    move? (utf8 (u ++ '[' :: r)) (utf8 u).length =
      some (.copy (((afterOpener? ('[' :: r)).map Prod.fst).elim (utf8 (u ++ ['['])).length
        fun k => closeEnd (utf8 (u ++ '[' :: r)) ((utf8 u).length + (k + 2)) k)) := by
  rw [move?_utf8, if_neg fun h => absurd h.1 (by decide), if_neg (by decide), if_pos rfl,
    copyBracket?, level?_utf8, Option.map_some, length_utf8_concat (by decide)]
  cases (afterOpener? ('[' :: r)).map Prod.fst <;> rfl

/-- A long string is copied to its end. -/
theorem move?_longString {body : List Char} (ho : afterOpener? ('[' :: r) = some (k, body))
    (u : List Char) :
    move? (utf8 (u ++ '[' :: r)) (utf8 u).length =
      some (.copy (utf8 (u ++ (opener k ++ (throughCloser k body).1))).length) := by
  rw [move?_bracket, ho, eq_opener_append_of_afterOpener? ho]
  exact congrArg (some ∘ Move.copy) (closeEnd_utf8_opener u k body)

/-- A line feed of the code ends the line. -/
theorem move?_break (u r : List Char) :
    move? (utf8 (u ++ '\n' :: r)) (utf8 u).length =
      some (.endLine (utf8 (u ++ ['\n'])).length) := by
  rw [move?_utf8, if_neg fun h => absurd h.1 (by decide), if_neg (by decide), if_neg (by decide),
    if_pos rfl, length_utf8_concat (by decide)]

/-- The characters at which a run of plain code stops. -/
def isMarkChar (c : Char) : Bool :=
  c == '-' || (c == '"' || (c == '\'' || (c == '[' || c == '\n')))

theorem agrees_isMark : Agrees isMark isMarkChar :=
  (agrees_eq (by decide)).or <| (agrees_eq (by decide)).or <| (agrees_eq (by decide)).or <|
    (agrees_eq (by decide)).or (agrees_eq (by decide))

theorem isMarkChar_eq_false_iff :
    isMarkChar c = false ↔ (c ≠ '-' ∧ ¬ (c = '"' ∨ c = '\'') ∧ c ≠ '[') ∧ c ≠ '\n' := by
  simp [isMarkChar, and_assoc]

/-- Plain code is copied up to the next mark. -/
theorem copyPlain?_utf8 (u s : List Char) :
    copyPlain? (utf8 (u ++ s)) (utf8 u).length =
      some (.copy (let stop := (utf8 (u ++ s.takeWhile (!isMarkChar ·))).length
        if stop = (utf8 u).length then stop + 1 else stop)) := by
  rw [copyPlain?, from?_utf8, Option.map_some, takeWhile_utf8 agrees_isMark.not, utf8_append,
    List.length_append]

/-- A dash that begins no comment is copied alone. -/
theorem move?_dash (hr : r.head? ≠ some '-') (u : List Char) :
    move? (utf8 (u ++ '-' :: r)) (utf8 u).length = some (.copy (utf8 (u ++ ['-'])).length) := by
  rw [move?_utf8, if_neg fun h => hr h.2, if_neg (by decide), if_neg (by decide),
    if_neg (by decide), copyPlain?_utf8, List.takeWhile_cons_of_neg (by decide), List.append_nil,
    length_utf8_concat (by decide)]
  exact congrArg (some ∘ Move.copy) (if_pos rfl)

/-- Other characters are copied up to the next mark. -/
theorem move?_plain (hc : isMarkChar c = false) (u r : List Char) :
    move? (utf8 (u ++ c :: r)) (utf8 u).length =
      some (.copy (utf8 (u ++ c :: r.takeWhile (!isMarkChar ·))).length) := by
  obtain ⟨⟨hdash, hquote, hopen⟩, hbreak⟩ := isMarkChar_eq_false_iff.1 hc
  have hlt := length_utf8_lt_append_cons u c (r.takeWhile (!isMarkChar ·))
  rw [move?_utf8, if_neg fun h => hdash h.1, if_neg hquote, if_neg hopen, if_neg hbreak,
    copyPlain?_utf8, List.takeWhile_cons_of_pos (by rw [hc]; rfl)]
  exact congrArg (some ∘ Move.copy) (if_neg (Nat.ne_of_gt hlt))

/-- A run of characters without marks is code. -/
theorem goesOver_plain (hc : isMarkChar c = false) (u r : List Char) :
    (Move.copy (utf8 (u ++ c :: r.takeWhile (!isMarkChar ·))).length).GoesOver u (c :: r)
      ((c :: r.takeWhile (!isMarkChar ·)).map .code) (r.dropWhile (!isMarkChar ·)) := by
  have hplain : ∀ d ∈ c :: r.takeWhile (!isMarkChar ·),
      (d ≠ '-' ∧ ¬ (d = '"' ∨ d = '\'') ∧ d ≠ '[') ∧ d ≠ '\n' := by
    refine List.forall_mem_cons.2 ⟨isMarkChar_eq_false_iff.1 hc, fun d hd => ?_⟩
    have hd : (!isMarkChar d) = true := List.all_eq_true.1 List.all_takeWhile d hd
    exact isMarkChar_eq_false_iff.1 (Bool.not_eq_true' _ ▸ hd)
  have htext : c :: r =
      c :: r.takeWhile (!isMarkChar ·) ++ r.dropWhile (!isMarkChar ·) := by
    rw [List.cons_append, List.takeWhile_append_dropWhile]
  have hwritten : ∀ p : List Char, written (p.map Segment.code) = p := fun p => by
    have h := written_map_code_append p []
    rwa [List.append_nil, written_nil, List.append_nil] at h
  refine ⟨?_, ?_, ?_, ?_⟩
  · exact List.forall_mem_map.2 fun d hd => ⟨fun he => (hplain d hd).2 (Segment.code.inj he), rfl⟩
  · conv_lhs => rw [htext]
    exact segments_map_code_append (fun d hd => (hplain d hd).1) _
  · rw [hwritten, ← htext]
  · rw [hwritten]
    rfl

/-- **A turn goes over segments of the text**, from the beginning of a character on. -/
theorem exists_goesOver (u : List Char) (c : Char) (r : List Char) :
    ∃ m ss rest, move? (utf8 (u ++ c :: r)) (utf8 u).length = some m ∧
      m.GoesOver u (c :: r) ss rest := by
  have hbegins := begins_readSegment c r
  generalize (readSegment c r).1 = seg at hbegins
  generalize (readSegment c r).2 = rest at hbegins
  cases hbegins with
  | @blockComment k r body t rest ho hc =>
    have hmove := move?_blockComment ho u
    rw [hc] at hmove
    exact ⟨_, _, rest, hmove, (Begins.blockComment ho hc).goesOver (Move.takes_skip rfl _) rfl⟩
  | @lineComment r t rest ho hr ht hrest =>
    have hbegins : Begins '-' ('-' :: r) (.lineComment ('-' :: '-' :: t)) rest :=
      .lineComment ho hr ht hrest
    have hmove := move?_lineComment ho u
    have hread := hbegins.readSegment_eq
    simp only [readSegment, ho, Prod.mk.injEq, Segment.lineComment.injEq, List.cons.injEq,
      true_and] at hread
    rw [hread.1] at hmove
    exact ⟨_, _, rest, hmove, hbegins.goesOver (Move.takes_skip rfl _) rfl⟩
  | @quoted q r t rest hq hc =>
    have hmove := move?_quote hq u r
    rw [hc] at hmove
    exact ⟨_, _, rest, hmove, (Begins.quoted hq hc).goesOver (Move.takes_copy (by simp) rfl _) rfl⟩
  | @longString k r body t rest ho hc =>
    have hbegins : Begins '[' r (.longString (opener k ++ t)) rest := .longString ho hc
    have hmove := move?_longString ho u
    rw [hc] at hmove
    exact ⟨_, _, rest, hmove, hbegins.goesOver (Move.takes_copy (by simp) rfl _) rfl⟩
  | @code c r hdash hquote hopen =>
    have hbegins : Begins c r (.code c) r := .code hdash hquote hopen
    by_cases hbreak : c = '\n'
    · subst hbreak
      exact ⟨_, _, r, move?_break u r, hbegins.goesOver rfl rfl⟩
    have htakes : ∀ stop, (Move.copy stop).Takes [.code c] :=
      Move.takes_copy (fun he => hbreak (Segment.code.inj he)) rfl
    by_cases hbracket : c = '['
    · subst hbracket
      have hmove := move?_bracket u r
      rw [hopen rfl] at hmove
      exact ⟨_, _, r, hmove, hbegins.goesOver (htakes _) rfl⟩
    by_cases hminus : c = '-'
    · subst hminus
      have hr : r.head? ≠ some '-' := fun h => by
        obtain ⟨t, ht⟩ := List.head?_eq_some_iff.1 h
        exact hdash rfl t ht
      exact ⟨_, _, r, move?_dash hr u, hbegins.goesOver (htakes _) rfl⟩
    · -- plain code is one segment for each character, and all of a run is copied in one turn
      have hc := isMarkChar_eq_false_iff.2 ⟨⟨hminus, hquote, hbracket⟩, hbreak⟩
      exact ⟨_, _, _, move?_plain hc u r, goesOver_plain hc u r⟩

/-! ### The whole scan -/

variable {trim : Bool} {str : String} {st : Cursor} {v : List Char}

/-- **A turn has a result**: what the scan of the text makes of the segments that the turn goes
over. -/
theorem turn?_eq_some (h : str.toList = u ++ s) (hm : move? (bytes str) (utf8 u).length = some m)
    (hover : m.GoesOver u s ss rest) (trim : Bool) (d : Draft) :
    turn? trim str ⟨(utf8 u).length, d⟩ =
      some ⟨(utf8 (u ++ written ss)).length, ss.foldl (Draft.read trim) d⟩ := by
  have htakes := hover.takes
  have hstop := hover.stop_eq
  have htext : str.toList = u ++ (written ss ++ rest) := by rw [hover.text_eq, h]
  rw [turn?, hm, Option.bind_some]
  cases m with
  | copy stop =>
    obtain rfl : stop = _ := hstop
    show (slice? str _ _).map _ = _
    rw [slice?_eq htext, Option.map_some, String.toList_ofList, Draft.foldl_read_of_kept htakes]
  | skip stop =>
    obtain rfl : stop = _ := hstop
    rw [Draft.foldl_read_of_comments htakes]
  | endLine stop =>
    obtain rfl : stop = _ := hstop
    obtain rfl : ss = _ := htakes
    rw [List.foldl_cons, Draft.read_break]
    rfl

/-- From the beginning of a character on there is a turn. -/
theorem exists_turn? (h : str.toList = u ++ c :: r) (trim : Bool) (d : Draft) :
    ∃ m ss rest, move? (bytes str) (utf8 u).length = some m ∧ m.GoesOver u (c :: r) ss rest ∧
      turn? trim str ⟨(utf8 u).length, d⟩ =
        some ⟨(utf8 (u ++ written ss)).length, ss.foldl (Draft.read trim) d⟩ := by
  obtain ⟨m, ss, rest, hm, hover⟩ := exists_goesOver u c r
  rw [← h, ← bytes_eq] at hm
  exact ⟨m, ss, rest, hm, hover, turn?_eq_some h hm hover trim d⟩

/-- The scan comes to the end of the string, and writes what the scan of the text does. -/
theorem run?_eq_some (h : str.toList = u ++ v) (d : Draft) :
    run? trim str ⟨(utf8 u).length, d⟩ =
      some (((segments v).foldl (Draft.read trim) d).finish trim) := by
  induction hlength : v.length using Nat.strong_induction_on generalizing u v d with
  | _ length ih =>
    subst hlength
    have hbytes : bytes str = utf8 (u ++ v) := by rw [bytes_eq, h]
    cases v with
    | nil =>
      rw [List.append_nil] at hbytes
      rw [segments]
      exact run?_of_le (le_of_eq (congrArg List.length hbytes))
    | cons c r =>
      obtain ⟨m, ss, rest, -, hover, hturn⟩ := exists_turn? h trim d
      have hpos : (utf8 u).length < (bytes str).length :=
        hbytes ▸ length_utf8_lt_append_cons u c r
      have htext : str.toList = u ++ written ss ++ rest := by
        rw [List.append_assoc, hover.text_eq, h]
      -- the turn went forward, so it has read something and less is left
      have hshorter : rest.length < (c :: r).length := by
        have hne : written ss ≠ [] := by
          intro hnil
          have hlt := pos_lt_of_turn? hturn
          rw [hnil, List.append_nil] at hlt
          exact lt_irrefl _ hlt
        rw [← hover.text_eq, List.length_append]
        exact Nat.lt_add_of_pos_left (List.length_pos_iff.2 hne)
      rw [run?_of_turn? hpos hturn, ih rest.length hshorter htext _ rfl, hover.segments_eq,
        List.foldl_append]

/-- The states that the scan of the bytes comes by are states of the scan of the text. -/
theorem Reached.exists_eq (h : Reached trim str st) :
    ∃ ss rest, segments str.toList = ss ++ segments rest ∧ str.toList = written ss ++ rest ∧
      st = ⟨(utf8 (written ss)).length, ss.foldl (Draft.read trim) .empty⟩ := by
  induction h with
  | start => exact ⟨[], str.toList, rfl, rfl, rfl⟩
  | @turn st st' h hpos hturn ih =>
    obtain ⟨ss, rest, hsegments, htext, rfl⟩ := ih
    cases rest with
    | nil =>
      rw [bytes_eq, htext, List.append_nil] at hpos
      exact absurd hpos (lt_irrefl _)
    | cons c r =>
      obtain ⟨m, ts, rest, -, hover, hturn'⟩ :=
        exists_turn? htext trim (ss.foldl (Draft.read trim) .empty)
      rw [hturn, Option.some_inj] at hturn'
      have hwritten : written (ss ++ ts) = written ss ++ written ts := List.flatMap_append
      refine ⟨ss ++ ts, rest, ?_, ?_, ?_⟩
      · rw [hsegments, hover.segments_eq, List.append_assoc]
      · rw [htext, hwritten, List.append_assoc, hover.text_eq]
      · rw [hturn', hwritten, List.foldl_append]

/-- **The scan of the bytes is safe and writes what the scan of the text does.**  Wherever it comes,
a character begins there or the string ends, and up to the end there is always a next turn, which
stops further on and again between two characters.  The result is the stripped text. -/
theorem byte_scan_is_safe_and_faithful (trim : Bool) (s : String) :
    (∀ st, Reached trim s st → IsBoundary s st.pos ∧
      (st.pos < (bytes s).length → ∃ m st', move? (bytes s) st.pos = some m ∧
        turn? trim s st = some st' ∧ st'.pos = m.stop ∧ st.pos < m.stop ∧
        IsBoundary s m.stop)) ∧
    stripBytes? trim s = some (strip trim s.toList) := by
  refine ⟨fun st hst => ?_, ?_⟩
  · obtain ⟨ss, rest, -, htext, rfl⟩ := hst.exists_eq
    refine ⟨isBoundary_of_toList htext, fun hpos => ?_⟩
    cases rest with
    | nil =>
      rw [bytes_eq, htext, List.append_nil] at hpos
      exact absurd hpos (lt_irrefl _)
    | cons c r =>
      obtain ⟨m, ts, rest, hm, hover, hturn⟩ :=
        exists_turn? htext trim (ss.foldl (Draft.read trim) .empty)
      refine ⟨m, _, hm, hturn, hover.stop_eq.symm, lt_stop_of_move? hm, ?_⟩
      rw [hover.stop_eq]
      refine isBoundary_of_toList (v := rest) ?_
      rw [List.append_assoc, hover.text_eq, htext]
  · rw [strip_eq_finish]
    exact run?_eq_some (u := []) rfl .empty

/-- The step behind the first backslash ends inside a character, and the one behind the last
backslash behind the end of the text. -/
theorem byte_scan_is_safe_and_faithful_of_cut_character :
    let s := "s = '\\é--' --ü\n\"\\"
    Reached true s ⟨0, .empty⟩ ∧ 0 < (bytes s).length ∧
      (∃ m st', move? (bytes s) 0 = some m ∧ turn? true s ⟨0, .empty⟩ = some st' ∧
        st'.pos = m.stop ∧ 0 < m.stop ∧ IsBoundary s m.stop) ∧
      bytes s = "s = '\\".toList.map Char.toUInt8 ++ (0xC3 :: 0xA9 ::
        ("--' --".toList.map Char.toUInt8 ++ (0xC3 :: 0xBC ::
          "\n\"\\".toList.map Char.toUInt8))) ∧
      ¬ IsBoundary s 7 ∧
      stripBytes? true s = some "s = '\\é--'\n\"\\".toList := by
  intro s
  have hpos : 0 < (bytes s).length := by decide +kernel
  have hstripped : strip true s.toList = "s = '\\é--'\n\"\\".toList := by decide +kernel
  obtain ⟨hsafe, hresult⟩ := byte_scan_is_safe_and_faithful true s
  refine ⟨.start, hpos, (hsafe _ .start).2 hpos, by decide +kernel, by decide +kernel, ?_⟩
  rw [hresult, hstripped]

end Lua
end LuaBundler
