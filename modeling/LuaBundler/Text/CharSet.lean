/-
# Sets of characters

A set of characters is the list of the ranges of code points that it consists of, in
rising order and as few as possible, so that equal sets are equal lists.

`contains_union` and `contains_compl` say what the set operations do; the others are
made from these two.  Code points of surrogates are no characters, so ranges neither
begin nor end among them.
-/

import LuaBundler.Text.Hex

namespace LuaBundler
namespace Text

/-- Closed ranges in rising order, of which none meets the next. -/
def RangesRise (rs : List (Nat × Nat)) : Prop :=
  rs.Pairwise (fun r t => r.2 + 1 < t.1) ∧ ∀ r ∈ rs, r.1 ≤ r.2

/-- A set of characters. -/
structure CharSet where
  /-- The ranges of the code points of its characters. -/
  ranges : List (Nat × Nat)
  rise : RangesRise ranges
  deriving DecidableEq

namespace CharSet

/-! ## Membership -/

/-- The number lies in one of the ranges, which rise. -/
def covers : List (Nat × Nat) → Nat → Bool
  | [], _ => false
  | (a, b) :: r, n => if n ≤ b then a ≤ n else covers r n

/-- The character belongs to the set. -/
def contains (s : CharSet) (c : Char) : Bool := covers s.ranges c.toNat

theorem covers_iff {rs : List (Nat × Nat)} (h : RangesRise rs) {n : Nat} :
    covers rs n = true ↔ ∃ r ∈ rs, r.1 ≤ n ∧ n ≤ r.2 := by
  induction rs with
  | nil => simp [covers]
  | cons r rs ih =>
    have hp := List.pairwise_cons.1 h.1
    have ht : RangesRise rs := ⟨hp.2, fun t ht => h.2 t (List.mem_cons_of_mem _ ht)⟩
    simp only [covers]
    split
    · rename_i hn
      constructor
      · intro ha
        exact ⟨r, List.mem_cons_self, by simpa using ha, hn⟩
      · rintro ⟨t, htm, ha, hb⟩
        rcases List.mem_cons.1 htm with rfl | htm
        · simpa using ha
        · have := hp.1 t htm
          have := h.2 r List.mem_cons_self
          omega
    · rename_i hn
      rw [ih ht]
      constructor
      · rintro ⟨t, htm, hab⟩
        exact ⟨t, List.mem_cons_of_mem _ htm, hab⟩
      · rintro ⟨t, htm, ha, hb⟩
        rcases List.mem_cons.1 htm with rfl | htm
        · omega
        · exact ⟨t, htm, ha, hb⟩

/-! ## Joining ranges -/

/-- Ranges that come in the order of their starts, with those that meet joined. -/
def join : List (Nat × Nat) → List (Nat × Nat)
  | [] => []
  | [r] => [r]
  | (a, b) :: (c, d) :: rest =>
    if c ≤ b + 1 then join ((a, max b d) :: rest) else (a, b) :: join ((c, d) :: rest)
termination_by rs => rs.length

/-- The order of the starts of ranges. -/
def startsBefore (r t : Nat × Nat) : Bool := r.1 ≤ t.1

/-- The ranges come in the order of their starts, and none is empty. -/
def Ordered (rs : List (Nat × Nat)) : Prop :=
  rs.Pairwise (fun r t => r.1 ≤ t.1) ∧ ∀ r ∈ rs, r.1 ≤ r.2

theorem exists_mem_join_iff (rs : List (Nat × Nat)) (h : Ordered rs) {n : Nat} :
    (∃ r ∈ join rs, r.1 ≤ n ∧ n ≤ r.2) ↔ ∃ r ∈ rs, r.1 ≤ n ∧ n ≤ r.2 := by
  fun_induction join rs with
  | case1 => simp
  | case2 => simp
  | case3 a b c d rest hc ih =>
    obtain ⟨hp, hv⟩ := h
    simp only [List.pairwise_cons, List.mem_cons, forall_eq_or_imp] at hp hv
    rw [ih ⟨by simp only [List.pairwise_cons]; exact ⟨hp.1.2, hp.2.2⟩, by
      simp only [List.mem_cons, forall_eq_or_imp]; exact ⟨by omega, hv.2.2⟩⟩]
    simp only [List.mem_cons, exists_eq_or_imp]
    constructor
    · rintro (h | h)
      · by_cases hb : n ≤ b
        · exact Or.inl ⟨h.1, hb⟩
        · exact Or.inr (Or.inl ⟨by omega, by omega⟩)
      · exact Or.inr (Or.inr h)
    · rintro (h | h | h)
      · exact Or.inl ⟨h.1, by omega⟩
      · exact Or.inl ⟨by have := hp.1.1; omega, by omega⟩
      · exact Or.inr h
  | case4 a b c d rest hc ih =>
    obtain ⟨hp, hv⟩ := h
    rw [List.pairwise_cons] at hp
    have := ih ⟨hp.2, fun r hr => hv r (List.mem_cons_of_mem _ hr)⟩
    simp only [List.mem_cons, exists_eq_or_imp] at this ⊢
    rw [this]

theorem le_of_mem_join (rs : List (Nat × Nat)) (h : Ordered rs) {k : Nat}
    (hk : ∀ r ∈ rs, k ≤ r.1) : ∀ r ∈ join rs, k ≤ r.1 := by
  fun_induction join rs with
  | case1 => simp
  | case2 => exact hk
  | case3 a b c d rest hc ih =>
    obtain ⟨hp, hv⟩ := h
    simp only [List.pairwise_cons, List.mem_cons, forall_eq_or_imp] at hp hv hk
    exact ih ⟨by simp only [List.pairwise_cons]; exact ⟨hp.1.2, hp.2.2⟩, by
      simp only [List.mem_cons, forall_eq_or_imp]; exact ⟨by omega, hv.2.2⟩⟩
      (by simp only [List.mem_cons, forall_eq_or_imp]; exact ⟨hk.1, hk.2.2⟩)
  | case4 a b c d rest hc ih =>
    obtain ⟨hp, hv⟩ := h
    rw [List.pairwise_cons] at hp
    intro r hr
    rcases List.mem_cons.1 hr with rfl | hr
    · exact hk _ List.mem_cons_self
    · exact ih ⟨hp.2, fun r hr => hv r (List.mem_cons_of_mem _ hr)⟩
        (fun r hr => hk r (List.mem_cons_of_mem _ hr)) r hr

theorem rangesRise_join (rs : List (Nat × Nat)) (h : Ordered rs) : RangesRise (join rs) := by
  fun_induction join rs with
  | case1 => exact ⟨List.Pairwise.nil, by simp⟩
  | case2 r => exact ⟨List.pairwise_singleton _ _, h.2⟩
  | case3 a b c d rest hc ih =>
    obtain ⟨hp, hv⟩ := h
    simp only [List.pairwise_cons, List.mem_cons, forall_eq_or_imp] at hp hv
    exact ih ⟨by simp only [List.pairwise_cons]; exact ⟨hp.1.2, hp.2.2⟩, by
      simp only [List.mem_cons, forall_eq_or_imp]; exact ⟨by omega, hv.2.2⟩⟩
  | case4 a b c d rest hc ih =>
    obtain ⟨hp, hv⟩ := h
    have hp' := List.pairwise_cons.1 hp
    have ht : Ordered ((c, d) :: rest) := ⟨hp'.2, fun r hr => hv r (List.mem_cons_of_mem _ hr)⟩
    have hr := ih ht
    have hle : ∀ r ∈ join ((c, d) :: rest), c ≤ r.1 := by
      apply le_of_mem_join _ ht
      intro r hr
      rcases List.mem_cons.1 hr with rfl | hr
      · exact Nat.le_refl _
      · exact (List.pairwise_cons.1 hp'.2).1 r hr
    refine ⟨List.pairwise_cons.2 ⟨fun r hr => ?_, hr.1⟩, fun r hr' => ?_⟩
    · have := hle r hr
      simp only
      omega
    · rcases List.mem_cons.1 hr' with rfl | hr'
      · exact hv _ List.mem_cons_self
      · exact hr.2 r hr'

/-! ## Sets from ranges -/

theorem ordered_mergeSort (rs : List (Nat × Nat)) (h : ∀ r ∈ rs, r.1 ≤ r.2) :
    Ordered (rs.mergeSort startsBefore) := by
  refine ⟨?_, fun r hr => h r (by simpa using hr)⟩
  have := @List.pairwise_mergeSort _ startsBefore
    (by intro a b c; simp only [startsBefore, decide_eq_true_eq]; omega)
    (by intro a b; simp only [startsBefore, Bool.or_eq_true, decide_eq_true_eq]; omega) rs
  exact this.imp (by intro a b; simp [startsBefore])

/-- The set of the characters whose code points lie in ranges. -/
def ofRanges (rs : List (Nat × Nat)) : CharSet where
  ranges := join ((rs.filter fun r => r.1 ≤ r.2).mergeSort startsBefore)
  rise := rangesRise_join _ (ordered_mergeSort _ fun r hr => by simpa using (List.mem_filter.1 hr).2)

theorem contains_ofRanges (rs : List (Nat × Nat)) (c : Char) :
    (ofRanges rs).contains c = rs.any fun r => r.1 ≤ c.toNat && c.toNat ≤ r.2 := by
  rw [Bool.eq_iff_iff, contains, covers_iff (ofRanges rs).rise]
  simp only [ofRanges]
  rw [exists_mem_join_iff _ (ordered_mergeSort _ fun r hr => by simpa using (List.mem_filter.1 hr).2)]
  simp only [List.mem_mergeSort, List.mem_filter, List.any_eq_true, Bool.and_eq_true,
    decide_eq_true_eq]
  constructor
  · rintro ⟨r, hr, h⟩
    exact ⟨r, hr.1, h⟩
  · rintro ⟨r, hr, h⟩
    exact ⟨r, ⟨hr, by omega⟩, h⟩

/-- The set without characters. -/
def empty : CharSet := ⟨[], List.Pairwise.nil, by simp⟩

/-- The set of one character. -/
def single (c : Char) : CharSet := ofRanges [(c.toNat, c.toNat)]

/-- The set of the characters from one to another. -/
def between (c d : Char) : CharSet := ofRanges [(c.toNat, d.toNat)]

/-! ## Operations -/

/-- The characters of two sets. -/
def union (s t : CharSet) : CharSet := ofRanges (s.ranges ++ t.ranges)

theorem contains_union (s t : CharSet) (c : Char) :
    (s.union t).contains c = (s.contains c || t.contains c) := by
  rw [Bool.eq_iff_iff, union, contains_ofRanges, Bool.or_eq_true, contains, contains,
    covers_iff s.rise, covers_iff t.rise]
  simp only [List.any_append, Bool.or_eq_true, List.any_eq_true, Bool.and_eq_true,
    decide_eq_true_eq]

/-- The largest code point. -/
def lastCode : Nat := 0x10FFFF

/-- The range of the characters from one code point to another, if there are any. -/
def gap (a b : Nat) : List (Nat × Nat) :=
  let a := if 0xD800 ≤ a ∧ a < 0xE000 then 0xE000 else a
  let b := if 0xD800 ≤ b ∧ b < 0xE000 then 0xD7FF else b
  if a ≤ b then [(a, b)] else []

/-- What ranges leave out from a code point on. -/
def gaps (start : Nat) : List (Nat × Nat) → List (Nat × Nat)
  | [] => gap start lastCode
  | (a, b) :: r => (if start < a then gap start (a - 1) else []) ++ gaps (b + 1) r

/-- The characters that do not belong to a set. -/
def compl (s : CharSet) : CharSet := ofRanges (gaps 0 s.ranges)

theorem exists_mem_gap_iff {a b n : Nat} (hn : n.isValidChar) :
    (∃ r ∈ gap a b, r.1 ≤ n ∧ n ≤ r.2) ↔ a ≤ n ∧ n ≤ b := by
  have : n < 0xD800 ∨ 0xE000 ≤ n := by rcases hn with h | h <;> omega
  simp only [gap]
  split <;> split <;> split <;> simp <;> omega

theorem exists_mem_gaps_iff {rs : List (Nat × Nat)} (h : RangesRise rs) {start n : Nat}
    (hs : ∀ r ∈ rs, start ≤ r.1) (hn : n.isValidChar) :
    (∃ r ∈ gaps start rs, r.1 ≤ n ∧ n ≤ r.2) ↔
      start ≤ n ∧ ¬ ∃ r ∈ rs, r.1 ≤ n ∧ n ≤ r.2 := by
  have hm : n ≤ lastCode := by
    simp only [lastCode]
    rcases hn with h | h <;> omega
  induction rs generalizing start with
  | nil =>
    simp only [gaps]
    rw [exists_mem_gap_iff hn]
    simp [hm]
  | cons r rs ih =>
    obtain ⟨a, b⟩ := r
    have hp := List.pairwise_cons.1 h.1
    have ht : RangesRise rs := ⟨hp.2, fun t ht => h.2 t (List.mem_cons_of_mem _ ht)⟩
    have hab : a ≤ b := h.2 _ List.mem_cons_self
    have hsa : start ≤ a := hs _ List.mem_cons_self
    have htail : ∀ t ∈ rs, b + 1 ≤ t.1 := fun t ht => by
      have := hp.1 t ht
      simp only at this
      omega
    have hfirst : (∃ r ∈ (if start < a then gap start (a - 1) else []), r.1 ≤ n ∧ n ≤ r.2) ↔
        start ≤ n ∧ n < a := by
      split
      · rw [exists_mem_gap_iff hn]
        omega
      · simp
        omega
    have hsplit : (∃ r ∈ gaps start ((a, b) :: rs), r.1 ≤ n ∧ n ≤ r.2) ↔
        (start ≤ n ∧ n < a) ∨ ∃ r ∈ gaps (b + 1) rs, r.1 ≤ n ∧ n ≤ r.2 := by
      simp only [gaps, List.mem_append, or_and_right, exists_or]
      exact or_congr_left hfirst
    have hrest := ih ht htail
    constructor
    · intro h
      rcases hsplit.1 h with h | h
      · refine ⟨h.1, ?_⟩
        rintro ⟨t, htm, h'⟩
        rcases List.mem_cons.1 htm with rfl | htm
        · have := h'.1
          omega
        · have := htail t htm
          omega
      · obtain ⟨h, hx⟩ := hrest.1 h
        refine ⟨by omega, ?_⟩
        rintro ⟨t, htm, h'⟩
        rcases List.mem_cons.1 htm with rfl | htm
        · have := h'.2
          omega
        · exact hx ⟨t, htm, h'⟩
    · rintro ⟨h1, h2⟩
      by_cases hlt : n < a
      · exact hsplit.2 (Or.inl ⟨h1, hlt⟩)
      · refine hsplit.2 (Or.inr (hrest.2 ⟨?_, fun ⟨t, htm, h'⟩ =>
          h2 ⟨t, List.mem_cons_of_mem _ htm, h'⟩⟩))
        by_cases hb : n ≤ b
        · exact absurd ⟨(a, b), List.mem_cons_self, by omega, hb⟩ h2
        · omega

theorem contains_compl (s : CharSet) (c : Char) : s.compl.contains c = !s.contains c := by
  have hn : c.toNat.isValidChar := c.valid
  rw [compl, contains_ofRanges, Bool.eq_iff_iff, Bool.not_eq_true', ← Bool.not_eq_true, contains,
    covers_iff s.rise]
  simp only [List.any_eq_true, Bool.and_eq_true, decide_eq_true_eq]
  rw [exists_mem_gaps_iff s.rise (by simp) hn]
  simp

/-- The characters of both of two sets. -/
def inter (s t : CharSet) : CharSet := (s.compl.union t.compl).compl

/-- The characters of the first set alone. -/
def diff (s t : CharSet) : CharSet := (s.compl.union t).compl

/-- The characters of one of two sets alone. -/
def symmDiff (s t : CharSet) : CharSet := (s.diff t).union (t.diff s)

/-- The characters of all sets of a list. -/
def unions (ss : List CharSet) : CharSet := ofRanges (ss.flatMap ranges)

/-- All characters. -/
def all : CharSet := empty.compl

/-- The set has no character beyond ASCII. -/
def isAscii (s : CharSet) : Bool := s.ranges.all fun r => r.2 < 128

/-- The character that is the only one of a set. -/
def single? (s : CharSet) : Option Char :=
  match s.ranges with
  | [(a, b)] => if a = b then some (Char.ofNat a) else none
  | _ => none

/-! ## Tables -/

/-- The ranges that an item of a table stands for.  `A` is one code point, `A-B` a
range, and `A-B/2` every second code point of a range, all in hexadecimal digits. -/
def ofItem (item : List Char) : List (Nat × Nat) :=
  match item.splitOn '-' with
  | [a] =>
    match ofHex? a with
    | some a => [(a, a)]
    | none => []
  | [a, r] =>
    match ofHex? a, (r.splitOn '/').map ofHex? with
    | some a, [some b] => [(a, b)]
    | some a, [some b, some _] =>
      (List.range ((b - a) / 2 + 1)).map fun k => (a + 2 * k, a + 2 * k)
    | _, _ => []
  | _ => []

/-- The items of a table, between blanks and line ends. -/
def items (table : String) : List (List Char) :=
  (table.toList.splitOnP fun c => c == ' ' || c == '\n').filter (!·.isEmpty)

/-- The set that a table lists. -/
def ofTable (table : String) : CharSet := ofRanges ((items table).flatMap ofItem)

end CharSet
end Text
end LuaBundler
