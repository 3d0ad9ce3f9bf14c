/-
# The calls of a text

Which texts are calls is said by a grammar (`IsCall`), and an `Occurrence` is a place in a
text where a call stands and no word character stands directly before it.  Occurrences may
lie in the argument of another one.  A scan (`IsScan`) takes some of them in the order of the
text, apart from each other, so that each occurrence it does not take begins inside one that
it takes.

There is one scan only (`IsScan.unique`), and `imports` returns the names in its calls
(`imports_eq_names_of_scan`).  The argument is that at most one call begins at a place
(`Occurrence.eq_of_start_eq`), and that `arguments` stops at the first occurrence behind the
place where it is (`Occurrence.callAt?_eq`).
-/

import LuaBundler.Proofs.LineEnds

namespace LuaBundler
namespace Lua

open Text (isAllBlank isBlank trim)

variable {s t u x y rest lit call : List Char} {close : Char}

/-! ### The grammar -/

/-- What may stand in a literal that `close` ends. -/
structure IsArgument (close : Char) (x : List Char) : Prop where
  ne_nil : x ≠ []
  close_not_mem : close ∉ x
  return_not_mem : '\r' ∉ x
  break_not_mem : '\n' ∉ x

/-- A literal with the argument `x`. -/
inductive IsLiteral : List Char → List Char → Prop
  | double {x : List Char} (h : IsArgument '"' x) : IsLiteral ('"' :: (x ++ ['"'])) x
  | single {x : List Char} (h : IsArgument '\'' x) : IsLiteral ('\'' :: (x ++ ['\''])) x
  | bracket {x : List Char} (h : IsArgument ']' x) :
      IsLiteral ('[' :: '[' :: (x ++ [']', ']'])) x

/-- A call with the argument `x`: the word, at most one parenthesis with blanks on either
side, and a literal. -/
inductive IsCall : List Char → List Char → Prop
  | intro {w p v lit x : List Char} (hw : isAllBlank w = true) (hp : p = [] ∨ p = ['('])
      (hv : isAllBlank v = true) (hl : IsLiteral lit x) :
      IsCall ("require".toList ++ (w ++ (p ++ (v ++ lit)))) x

theorem IsCall.exists_parts (h : IsCall call x) :
    ∃ w p v lit, isAllBlank w = true ∧ (p = [] ∨ p = ['(']) ∧ isAllBlank v = true ∧
      IsLiteral lit x ∧ call = "require".toList ++ (w ++ (p ++ (v ++ lit))) := by
  obtain ⟨hw, hp, hv, hl⟩ := h
  exact ⟨_, _, _, _, hw, hp, hv, hl, rfl⟩

theorem isArgument_iff :
    IsArgument close x ↔ x ≠ [] ∧ ∀ c ∈ x, isArgumentChar close c = true := by
  have hchar : ∀ c, isArgumentChar close c = true ↔ c ≠ close ∧ c ≠ '\r' ∧ c ≠ '\n' := by
    simp [isArgumentChar, and_assoc]
  simp only [hchar]
  constructor
  · rintro ⟨hne, hclose, hreturn, hbreak⟩
    exact ⟨hne, fun c hc => ⟨fun h => hclose (h ▸ hc), fun h => hreturn (h ▸ hc),
      fun h => hbreak (h ▸ hc)⟩⟩
  · rintro ⟨hne, h⟩
    exact ⟨hne, fun hc => (h _ hc).1 rfl, fun hc => (h _ hc).2.1 rfl, fun hc => (h _ hc).2.2 rfl⟩

/-- A literal is read up to the first mark that can end it. -/
theorem literal?_eq_some_iff {mark r : List Char} :
    argument?.literal? close (close :: mark) r = some (x, rest) ↔
      IsArgument close x ∧ r = x ++ (close :: mark ++ rest) := by
  rw [isArgument_iff]
  unfold argument?.literal?
  constructor
  · intro h
    split at h
    · cases h
    · next hne =>
      obtain ⟨t, ht, he⟩ := Option.map_eq_some_iff.1 h
      obtain ⟨rfl, rfl⟩ := Prod.mk.inj he
      refine ⟨⟨hne, List.all_eq_true.1 List.all_takeWhile⟩, ?_⟩
      rw [← Text.isPrefixOf?_eq_some_iff.1 ht, List.takeWhile_append_dropWhile]
  · rintro ⟨⟨hne, hx⟩, rfl⟩
    have hclose : isArgumentChar close close = false := by simp [isArgumentChar]
    have htake : (x ++ (close :: mark ++ rest)).takeWhile (isArgumentChar close) = x := by
      rw [List.takeWhile_append_of_pos hx, List.cons_append, List.takeWhile_cons, hclose]
      exact List.append_nil x
    have hdrop : (x ++ (close :: mark ++ rest)).dropWhile (isArgumentChar close) =
        close :: mark ++ rest := by
      rw [List.dropWhile_append_of_pos hx, List.cons_append, List.dropWhile_cons, hclose]
      rfl
    rw [htake, hdrop, Text.isPrefixOf?_eq_some_iff.2 rfl]
    cases x with
    | nil => exact absurd rfl hne
    | cons c x => rfl

/-- **The literal a text begins with** is the one of the grammar. -/
theorem argument?_eq_some_iff :
    argument? s = some (x, rest) ↔ ∃ lit, IsLiteral lit x ∧ s = lit ++ rest := by
  constructor
  · intro h
    unfold argument? at h
    split at h
    · obtain ⟨hx, rfl⟩ := literal?_eq_some_iff.1 h
      exact ⟨_, .double hx, by simp⟩
    · obtain ⟨hx, rfl⟩ := literal?_eq_some_iff.1 h
      exact ⟨_, .single hx, by simp⟩
    · obtain ⟨hx, rfl⟩ := literal?_eq_some_iff.1 h
      exact ⟨_, .bracket hx, by simp⟩
    · cases h
  · rintro ⟨lit, hlit, rfl⟩
    cases hlit with
    | double hx => exact literal?_eq_some_iff.2 ⟨hx, by simp⟩
    | single hx => exact literal?_eq_some_iff.2 ⟨hx, by simp⟩
    | bracket hx => exact literal?_eq_some_iff.2 ⟨hx, by simp⟩

/-- A literal begins with a character that is no blank and no parenthesis. -/
theorem IsLiteral.exists_head (h : IsLiteral lit x) :
    ∃ c r, lit = c :: r ∧ isBlank c = false ∧ c ≠ '(' := by
  cases h with
  | double _ => exact ⟨_, _, rfl, rfl, by decide⟩
  | single _ => exact ⟨_, _, rfl, rfl, by decide⟩
  | bracket _ => exact ⟨_, _, rfl, rfl, by decide⟩

/-- A literal ends in a character that is no word character. -/
theorem IsLiteral.exists_last (h : IsLiteral lit x) :
    ∃ r c, lit = r ++ [c] ∧ Text.isWordChar c = false := by
  cases h with
  | @double x _ => exact ⟨'"' :: x, '"', rfl, by decide +kernel⟩
  | @single x _ => exact ⟨'\'' :: x, '\'', rfl, by decide +kernel⟩
  | @bracket x _ => exact ⟨'[' :: '[' :: (x ++ [']']), ']', by simp, by decide +kernel⟩

theorem dropWhile_isBlank_append {w : List Char} (hw : isAllBlank w = true) (r : List Char) :
    (w ++ r).dropWhile isBlank = r.dropWhile isBlank :=
  List.dropWhile_append_of_pos (List.all_eq_true.1 hw)

/-- Blanks and a parenthesis are passed over. -/
theorem dropParen_append {w p v : List Char} (hw : isAllBlank w = true)
    (hp : p = [] ∨ p = ['(']) (hv : isAllBlank v = true) {c : Char} (hc : isBlank c = false)
    (hparen : c ≠ '(') (r : List Char) :
    (dropParen ((w ++ (p ++ (v ++ c :: r))).dropWhile isBlank)).dropWhile isBlank = c :: r := by
  have hdrop : (c :: r).dropWhile isBlank = c :: r := by
    rw [List.dropWhile_cons, hc]
    rfl
  rw [dropWhile_isBlank_append hw]
  rcases hp with rfl | rfl
  · have hkeep : dropParen (c :: r) = c :: r := by simp [dropParen, hparen]
    rw [List.nil_append, dropWhile_isBlank_append hv, hdrop, hkeep, hdrop]
  · have hskip : (['('] ++ (v ++ c :: r)).dropWhile isBlank = '(' :: (v ++ c :: r) := rfl
    rw [hskip, dropParen, dropWhile_isBlank_append hv, hdrop]

/-- What was passed over is blanks and at most one parenthesis. -/
theorem exists_append_dropParen (r : List Char) :
    ∃ w p v, isAllBlank w = true ∧ (p = [] ∨ p = ['(']) ∧ isAllBlank v = true ∧
      r = w ++ (p ++ (v ++ (dropParen (r.dropWhile isBlank)).dropWhile isBlank)) := by
  have hblank : ∀ r : List Char, isAllBlank (r.takeWhile isBlank) = true := fun _ =>
    List.all_takeWhile
  have hparen : ∀ r, ∃ p, (p = [] ∨ p = ['(']) ∧ r = p ++ dropParen r := by
    intro r
    unfold dropParen
    split
    · exact ⟨['('], .inr rfl, rfl⟩
    · exact ⟨[], .inl rfl, rfl⟩
  obtain ⟨p, hp, he⟩ := hparen (r.dropWhile isBlank)
  refine ⟨_, p, _, hblank r, hp, hblank (dropParen (r.dropWhile isBlank)), ?_⟩
  rw [List.takeWhile_append_dropWhile, ← he, List.takeWhile_append_dropWhile]

/-- **The call a text begins with** is the one of the grammar. -/
theorem call?_eq_some_iff :
    call? s = some (x, rest) ↔ ∃ call, IsCall call x ∧ s = call ++ rest := by
  constructor
  · intro h
    unfold call? at h
    split at h
    · next r hr =>
      obtain ⟨lit, hlit, he⟩ := argument?_eq_some_iff.1 h
      obtain ⟨w, p, v, hw, hp, hv, hparts⟩ := exists_append_dropParen r
      refine ⟨_, .intro hw hp hv hlit, ?_⟩
      rw [Text.isPrefixOf?_eq_some_iff.1 hr, hparts, he]
      simp only [List.append_assoc]
    · cases h
  · rintro ⟨_, ⟨hw, hp, hv, hlit⟩, rfl⟩
    unfold call?
    simp only [List.append_assoc, Text.isPrefixOf?_eq_some_iff.2 rfl]
    obtain ⟨c, l, rfl, hc, hparen⟩ := hlit.exists_head
    rw [List.cons_append, dropParen_append hw hp hv hc hparen]
    exact argument?_eq_some_iff.2 ⟨_, hlit, rfl⟩

theorem isCall_iff : IsCall call x ↔ call? call = some (x, []) := by
  simp only [call?_eq_some_iff, List.append_nil, exists_eq_right']

instance : Decidable (IsCall call x) := decidable_of_iff _ isCall_iff.symm

theorem IsCall.ne_nil (h : IsCall call x) : call ≠ [] := by
  cases h
  simp

/-- Directly behind a call another word can begin. -/
theorem IsCall.any_isWordChar_getLast? (h : IsCall call x) (u : List Char) :
    (u ++ call).getLast?.any Text.isWordChar = false := by
  obtain ⟨-, -, -, hlit⟩ := h
  obtain ⟨r, c, rfl, hc⟩ := hlit.exists_last
  simp only [← List.append_assoc, List.getLast?_concat]
  exact hc

/-! ### Occurrences -/

/-- A place in the text `s` where a call stands. -/
structure Occurrence (s : List Char) where
  before : List Char
  call : List Char
  argument : List Char
  behind : List Char
  isCall : IsCall call argument
  /-- The word stands by itself. -/
  apart : before.getLast?.any Text.isWordChar = false
  text_eq : before ++ (call ++ behind) = s

namespace Occurrence

variable (c d : Occurrence s)

/-- Where the call begins. -/
def start : ℕ := c.before.length

/-- Where the text behind the call begins. -/
def stop : ℕ := c.start + c.call.length

theorem start_lt_stop : c.start < c.stop :=
  Nat.lt_add_of_pos_right (List.length_pos_of_ne_nil c.isCall.ne_nil)

theorem stop_le_length : c.stop ≤ s.length := by
  have h := congrArg List.length c.text_eq
  simp only [List.length_append] at h
  unfold stop start
  omega

variable {c d}

/-- A reader that comes to an occurrence finds it. -/
theorem callAt?_eq (h : c.start = u.length) (ht : u ++ t = s) :
    callAt? (u.getLast?.any Text.isWordChar) t = some (c.argument, c.behind) := by
  obtain ⟨rfl, rfl⟩ := List.append_inj (c.text_eq.trans ht.symm) h
  rw [c.apart]
  exact call?_eq_some_iff.2 ⟨_, c.isCall, rfl⟩

/-- **At most one call begins at a place.** -/
theorem eq_of_start_eq (h : c.start = d.start) : c = d := by
  have hfound := d.callAt?_eq h.symm c.text_eq
  rw [callAt?_eq rfl c.text_eq] at hfound
  obtain ⟨hargument, hbehind⟩ := Prod.mk.inj (Option.some.inj hfound)
  obtain ⟨hbefore, hrest⟩ := List.append_inj (c.text_eq.trans d.text_eq.symm) h
  rw [hbehind] at hrest
  have hcall := List.append_cancel_right hrest
  cases c
  cases d
  cases hbefore
  cases hcall
  cases hargument
  cases hbehind
  rfl

end Occurrence

/-! ### Scans -/

/-- The list takes, in the order of the text, occurrences that do not overlap and begin at the
place `n` or behind it.  Any other one there begins inside one that is taken. -/
structure IsScan (n : ℕ) (cs : List (Occurrence s)) : Prop where
  apart : cs.Pairwise fun c d => c.stop ≤ d.start
  from_le : ∀ c ∈ cs, n ≤ c.start
  covers : ∀ d : Occurrence s, n ≤ d.start →
    d ∈ cs ∨ ∃ c ∈ cs, c.start < d.start ∧ d.start < c.stop

namespace IsScan

variable {n : ℕ} {c d : Occurrence s} {cs ds : List (Occurrence s)}

/-- The first call that is taken is the first one there is. -/
theorem start_le (h : IsScan n (c :: cs)) (hd : n ≤ d.start) : c.start ≤ d.start := by
  have hfirst : ∀ e ∈ c :: cs, c.start ≤ e.start := by
    intro e he
    rcases List.mem_cons.1 he with rfl | he
    · exact Nat.le_refl _
    · exact Nat.le_trans (Nat.le_of_lt c.start_lt_stop) (List.rel_of_pairwise_cons h.apart he)
  rcases h.covers d hd with hmem | ⟨e, he, hlt, -⟩
  · exact hfirst d hmem
  · exact Nat.le_trans (hfirst e he) (Nat.le_of_lt hlt)

/-- Behind its first call a scan goes on as a scan. -/
theorem tail (h : IsScan n (c :: cs)) : IsScan c.stop cs where
  apart := h.apart.of_cons
  from_le := fun _ he => List.rel_of_pairwise_cons h.apart he
  covers := by
    intro d hd
    have hlt := c.start_lt_stop
    have hn := h.from_le c List.mem_cons_self
    rcases h.covers d (by omega) with hmem | ⟨e, he, hinside⟩
    · rcases List.mem_cons.1 hmem with rfl | hmem
      · omega
      · exact .inl hmem
    · rcases List.mem_cons.1 he with rfl | he
      · omega
      · exact .inr ⟨e, he, hinside⟩

/-- **A text has one scan.** -/
theorem unique (hc : IsScan n cs) (hd : IsScan n ds) : cs = ds := by
  induction cs generalizing n ds with
  | nil =>
    cases ds with
    | nil => rfl
    | cons d ds =>
      rcases hc.covers d (hd.from_le d List.mem_cons_self) with hmem | ⟨e, he, -⟩
      · cases hmem
      · cases he
  | cons c cs ih =>
    have hcn := hc.from_le c List.mem_cons_self
    cases ds with
    | nil =>
      rcases hd.covers c hcn with hmem | ⟨e, he, -⟩
      · cases hmem
      · cases he
    | cons d ds =>
      have hdn := hd.from_le d List.mem_cons_self
      obtain rfl : c = d :=
        Occurrence.eq_of_start_eq (Nat.le_antisymm (hc.start_le hdn) (hd.start_le hcn))
      rw [ih hc.tail hd.tail]

/-- Behind all occurrences nothing is taken. -/
theorem nil (h : s.length ≤ n) : IsScan n ([] : List (Occurrence s)) where
  apart := .nil
  from_le := fun _ hc => nomatch hc
  covers := fun d hd => by
    have hlt := d.start_lt_stop
    have hle := d.stop_le_length
    omega

/-- Where no call begins the scan is the one from the next place. -/
theorem of_succ (hn : ∀ d : Occurrence s, d.start ≠ n) (h : IsScan (n + 1) cs) :
    IsScan n cs where
  apart := h.apart
  from_le := fun c hc => Nat.le_of_succ_le (h.from_le c hc)
  covers := fun d hd => h.covers d (Nat.lt_of_le_of_ne hd (Ne.symm (hn d)))

/-- Where a call begins it is taken, and the scan goes on behind it. -/
theorem cons (h : IsScan c.stop cs) : IsScan c.start (c :: cs) where
  apart := .cons h.from_le h.apart
  from_le := by
    intro d hd
    rcases List.mem_cons.1 hd with rfl | hd
    · exact Nat.le_refl _
    · exact Nat.le_trans (Nat.le_of_lt c.start_lt_stop) (h.from_le d hd)
  covers := by
    intro d hd
    by_cases hstop : c.stop ≤ d.start
    · rcases h.covers d hstop with hmem | ⟨e, he, hinside⟩
      · exact .inl (List.mem_cons_of_mem c hmem)
      · exact .inr ⟨e, List.mem_cons_of_mem c he, hinside⟩
    · rcases Nat.eq_or_lt_of_le hd with heq | hlt
      · rw [Occurrence.eq_of_start_eq heq]
        exact .inl List.mem_cons_self
      · exact .inr ⟨c, List.mem_cons_self, hlt, Nat.lt_of_not_le hstop⟩

end IsScan

/-- **The arguments of a text are those of its scan.**  Between two calls the reader knows of
the text `u` before it whether a word character stands at its end. -/
theorem exists_isScan (inWord : Bool) (hu : u.getLast?.any Text.isWordChar = inWord)
    (hs : u ++ t = s) :
    ∃ cs : List (Occurrence s), IsScan u.length cs ∧
      cs.map Occurrence.argument = arguments inWord t := by
  fun_induction arguments inWord t generalizing u with
  | case1 inWord =>
    have hlength : s.length = u.length := by rw [← hs, List.append_nil]
    exact ⟨[], .nil (Nat.le_of_eq hlength), rfl⟩
  | case2 inWord c r x rest hfound ih =>
    cases inWord with
    | true => cases hfound
    | false =>
      obtain ⟨call, hcall, he⟩ := call?_eq_some_iff.1 hfound
      let first : Occurrence s := ⟨u, call, x, rest, hcall, hu, he ▸ hs⟩
      have hbehind : (u ++ call) ++ rest = s := by rw [List.append_assoc, ← he, hs]
      obtain ⟨cs, hscan, hcs⟩ := ih (hcall.any_isWordChar_getLast? u) hbehind
      rw [List.length_append] at hscan
      refine ⟨first :: cs, IsScan.cons (c := first) hscan, ?_⟩
      rw [List.map_cons, hcs]
  | case3 inWord c r hnone ih =>
    have hlast : (u ++ [c]).getLast?.any Text.isWordChar = Text.isWordChar c := by
      rw [List.getLast?_concat]
      rfl
    have hbehind : (u ++ [c]) ++ r = s := by
      rw [List.append_assoc]
      exact hs
    obtain ⟨cs, hscan, hcs⟩ := ih hlast hbehind
    rw [List.length_append] at hscan
    refine ⟨cs, hscan.of_succ fun d hd => ?_, hcs⟩
    rw [← hu, d.callAt?_eq hd hs] at hnone
    cases hnone

/-! ### Names -/

/-- The name that a call asks for. -/
def Occurrence.name (c : Occurrence s) : String := String.ofList (trim c.argument)

/-- The names in some calls, without those that are all blank. -/
def names (cs : List (Occurrence s)) : List String :=
  (cs.filter fun c => !isAllBlank c.argument).map Occurrence.name

theorem mem_names {cs : List (Occurrence s)} {c : Occurrence s} (hc : c ∈ cs)
    (h : isAllBlank c.argument = false) : c.name ∈ names cs :=
  List.mem_map_of_mem (List.mem_filter.2 ⟨hc, by rw [h]; rfl⟩)

/-- Calls with the arguments that are read have the names that are required. -/
theorem imports_eq_names_of_map_argument {cs : List (Occurrence s)}
    (h : cs.map Occurrence.argument = arguments false s) : imports s = names cs := by
  have hblank : ∀ x, decide (trim x ≠ []) = !isAllBlank x := by
    intro x
    rw [Bool.eq_iff_iff, decide_eq_true_iff, Ne, Text.trim_eq_nil_iff]
    simp
  rw [imports, ← h, names, List.map_map, List.filter_map, List.map_map]
  simp only [Function.comp_def, hblank]
  rfl

/-- **What a text requires are the names in its scan**, in the order of the text, with
repetitions.  The scan is the only list of occurrences that are apart from each other and
leave out none but those that begin inside one of them. -/
theorem imports_eq_names_of_scan (s : List Char) :
    ∃ cs : List (Occurrence s), IsScan 0 cs ∧
      (∀ ds : List (Occurrence s), IsScan 0 ds → ds = cs) ∧ imports s = names cs := by
  obtain ⟨cs, hscan, hcs⟩ := exists_isScan (u := []) (s := s) false rfl rfl
  exact ⟨cs, hscan, fun ds hds => hds.unique hscan, imports_eq_names_of_map_argument hcs⟩

/-- A call in the argument of another one is not taken. -/
example : imports "require \"x require 'y'\" require([[ z ]])".toList = ["x require 'y'", "z"] := by
  decide +kernel

end Lua
end LuaBundler
