/-
# Texts that differ in their line ends

`WithReturns s t` says that `t` is the text `s` with a carriage return put before some of
its line feeds, and that `s` holds none.  So `s` is `t` with each carriage return and line
feed replaced by the line feed (`WithReturns.dropReturns_eq`).

The relation is kept by whatever cuts a text at its white space or treats a carriage return
like a line feed.  The lines of the two texts are the same (`WithReturns.lines_eq`), and so
are the modules they require (`Lua.imports_withReturns`).
-/

import Mathlib.Data.List.Forall2
import LuaBundler.Lua.Require
import LuaBundler.Proofs.Lines

namespace LuaBundler

namespace Text

/-- The text `t` is the text `s`, in which there is no carriage return, with one put before
some of the line feeds. -/
inductive WithReturns : List Char → List Char → Prop
  | nil : WithReturns [] []
  | keep {c : Char} {s t : List Char} (hc : c ≠ '\r') (h : WithReturns s t) :
      WithReturns (c :: s) (c :: t)
  | put {s t : List Char} (h : WithReturns s t) : WithReturns ('\n' :: s) ('\r' :: '\n' :: t)

/-- A text with a carriage return before each line feed. -/
def addReturns (s : List Char) : List Char :=
  s.flatMap fun c => if c = '\n' then ['\r', '\n'] else [c]

/-- A text without the carriage returns that stand directly before a line feed. -/
def dropReturns : List Char → List Char
  | [] => []
  | '\r' :: '\n' :: r => '\n' :: dropReturns r
  | c :: r => c :: dropReturns r

variable {a s s' t t' : List Char} {p : Char → Bool}

theorem withReturns_self (h : '\r' ∉ s) : WithReturns s s := by
  induction s with
  | nil => exact .nil
  | cons c s ih =>
    rw [List.mem_cons, not_or] at h
    exact .keep (Ne.symm h.1) (ih h.2)

theorem withReturns_addReturns (h : '\r' ∉ s) : WithReturns s (addReturns s) := by
  induction s with
  | nil => exact .nil
  | cons c s ih =>
    rw [List.mem_cons, not_or] at h
    rw [addReturns, List.flatMap_cons]
    split
    · next hc =>
      subst hc
      exact .put (ih h.2)
    · exact .keep (Ne.symm h.1) (ih h.2)

namespace WithReturns

/-- **Dropping the carriage returns gives the first text.** -/
theorem dropReturns_eq (h : WithReturns s t) : dropReturns t = s := by
  induction h with
  | nil => rfl
  | keep hc h ih =>
    rw [dropReturns, ih]
    exact fun _ he => absurd he hc
  | put h ih => rw [dropReturns, ih]

theorem not_mem (h : WithReturns s t) : '\r' ∉ s := by
  induction h with
  | nil => exact List.not_mem_nil
  | keep hc h ih => exact List.not_mem_cons_of_ne_of_not_mem (Ne.symm hc) ih
  | put h ih => exact List.not_mem_cons_of_ne_of_not_mem (by decide) ih

theorem append (h : WithReturns s t) (h' : WithReturns s' t') :
    WithReturns (s ++ s') (t ++ t') := by
  induction h with
  | nil => exact h'
  | keep hc h ih => exact .keep hc ih
  | put h ih => exact .put ih

theorem eq_nil_iff (h : WithReturns s t) : s = [] ↔ t = [] := by
  cases h <;> simp

/-! ### Cutting a text -/

/-- Both texts begin with a given text without line ends, or neither does. -/
theorem isPrefixOf? (h : WithReturns s t) (ha : ∀ c ∈ a, c ≠ '\n' ∧ c ≠ '\r') :
    Option.Rel WithReturns (a.isPrefixOf? s) (a.isPrefixOf? t) := by
  induction a generalizing s t with
  | nil => exact .some h
  | cons c a ih =>
    have hc := ha c List.mem_cons_self
    cases h with
    | nil => exact .none
    | @keep d s t hd h =>
      show Option.Rel WithReturns (if c == d then a.isPrefixOf? s else none)
        (if c == d then a.isPrefixOf? t else none)
      split
      · exact ih h fun c hmem => ha c (List.mem_cons_of_mem _ hmem)
      · exact .none
    | @put s t h =>
      show Option.Rel WithReturns (if c == '\n' then a.isPrefixOf? s else none)
        (if c == '\r' then a.isPrefixOf? ('\n' :: t) else none)
      rw [if_neg (by simpa using hc.1), if_neg (by simpa using hc.2)]
      exact .none

theorem dropWhile (h : WithReturns s t) (hp : p '\n' = true → p '\r' = true) :
    WithReturns (s.dropWhile p) (t.dropWhile p) := by
  induction h with
  | nil => exact .nil
  | @keep c s t hc h ih =>
    rw [List.dropWhile_cons, List.dropWhile_cons]
    split
    · exact ih
    · exact .keep hc h
  | @put s t h ih =>
    rw [List.dropWhile_cons, List.dropWhile_cons, List.dropWhile_cons]
    cases hn : p '\n' with
    | true => simpa [hp hn] using ih
    | false =>
      cases p '\r' with
      | true => simpa using .keep (by decide) h
      | false => simpa using .put h

theorem takeWhile_eq (h : WithReturns s t) (hn : p '\n' = false) (hr : p '\r' = false) :
    t.takeWhile p = s.takeWhile p := by
  induction h with
  | nil => rfl
  | keep hc h ih => rw [List.takeWhile_cons, List.takeWhile_cons, ih]
  | put h ih => simp [hn, hr]

theorem dropEndWhile (h : WithReturns s t) (hn : p '\n' = true) (hr : p '\r' = true) :
    WithReturns (dropEndWhile p s) (dropEndWhile p t) := by
  induction h with
  | nil => exact .nil
  | @keep c s t hc h ih =>
    simp only [dropEndWhile_cons, ← ih.eq_nil_iff]
    split
    · exact .nil
    · exact .keep hc ih
  | @put s t h ih =>
    simp only [dropEndWhile_cons, ← ih.eq_nil_iff]
    by_cases he : Text.dropEndWhile p s = []
    · simpa [he, hn, hr] using .nil
    · simpa [he] using .put ih

theorem trimEnd (h : WithReturns s t) : WithReturns (trimEnd s) (trimEnd t) :=
  h.dropEndWhile rfl rfl

end WithReturns

/-! ### Lines -/

/-- Two lines that are the same but for the ends they may have. -/
def SameLine (l l' : List Char) : Prop :=
  ∃ x, '\n' ∉ x ∧ '\r' ∉ x ∧
    (l = x ∧ l' = x ∨ l = x ++ ['\n'] ∧ (l' = x ++ ['\n'] ∨ l' = x ++ ['\r', '\n']))

theorem SameLine.cons {c : Char} {l l' : List Char} (h : SameLine l l') (hn : c ≠ '\n')
    (hr : c ≠ '\r') : SameLine (c :: l) (c :: l') := by
  obtain ⟨x, hxn, hxr, hx⟩ := h
  refine ⟨c :: x, List.not_mem_cons_of_ne_of_not_mem (Ne.symm hn) hxn,
    List.not_mem_cons_of_ne_of_not_mem (Ne.symm hr) hxr, ?_⟩
  rcases hx with ⟨rfl, rfl⟩ | ⟨rfl, rfl | rfl⟩
  · exact .inl ⟨rfl, rfl⟩
  · exact .inr ⟨rfl, .inl rfl⟩
  · exact .inr ⟨rfl, .inr rfl⟩

theorem SameLine.withReturns {l l' : List Char} (h : SameLine l l') : WithReturns l l' := by
  obtain ⟨x, -, hr, ⟨rfl, rfl⟩ | ⟨rfl, rfl | rfl⟩⟩ := h
  · exact withReturns_self hr
  · exact (withReturns_self hr).append (.keep (by decide) .nil)
  · exact (withReturns_self hr).append (.put .nil)

/-- The two lines are the same without their ends. -/
theorem SameLine.withoutBreak_eq {l l' : List Char} (h : SameLine l l') :
    withoutBreak l' = withoutBreak l := by
  obtain ⟨x, hn, hr, ⟨rfl, rfl⟩ | ⟨rfl, rfl | rfl⟩⟩ := h
  · rfl
  · rfl
  · have hlast : x.getLast? ≠ some '\r' := fun h => hr (List.mem_of_getLast? h)
    have hbreak : x ++ ['\r', '\n'] = (x ++ ['\r']) ++ ['\n'] := by simp
    simp only [withoutBreak, hbreak, List.getLast?_concat, List.dropLast_concat, if_true,
      if_neg hlast]

/-- The two lines are the same without all that they may end in. -/
theorem SameLine.withoutBreaks_eq {l l' : List Char} (h : SameLine l l') :
    withoutBreaks l' = withoutBreaks l := by
  unfold withoutBreaks
  obtain ⟨x, -, -, ⟨rfl, rfl⟩ | ⟨rfl, rfl | rfl⟩⟩ := h
  · rfl
  · rfl
  · rw [dropEndWhile_append, dropEndWhile_append]
    rfl

namespace WithReturns

/-- The texts have the same lines, but for their ends. -/
theorem brokenLines (h : WithReturns s t) :
    List.Forall₂ SameLine (brokenLines s) (brokenLines t) := by
  induction h with
  | nil => exact .nil
  | @keep c s t hc h ih =>
    rw [Text.brokenLines, Text.brokenLines]
    split
    · exact .cons ⟨[], by simp, by simp, .inr ⟨rfl, .inl rfl⟩⟩ ih
    · next hn =>
      cases hs : Text.brokenLines s with
      | nil =>
        rw [hs, List.forall₂_nil_left_iff] at ih
        rw [ih]
        exact .cons (.cons ⟨[], by simp, by simp, .inl ⟨rfl, rfl⟩⟩ hn hc) .nil
      | cons l ls =>
        rw [hs] at ih
        obtain ⟨l', ls', hl, hls, ht⟩ := List.forall₂_cons_left_iff.1 ih
        rw [ht]
        exact .cons (hl.cons hn hc) hls
  | @put s t h ih =>
    have ht : Text.brokenLines ('\r' :: '\n' :: t) = ['\r', '\n'] :: Text.brokenLines t := rfl
    rw [ht, Text.brokenLines, if_pos rfl]
    exact .cons ⟨[], by simp, by simp, .inr ⟨rfl, .inr rfl⟩⟩ ih

/-- **Line ends do not show in the lines of a text.** -/
theorem lines_eq (h : WithReturns s t) : lines t = lines s := by
  rw [lines, lines, eq_comm, ← List.forall₂_eq_eq_eq, List.forall₂_map_left_iff,
    List.forall₂_map_right_iff]
  exact h.brokenLines.imp fun _ _ hl => hl.withoutBreak_eq.symm

end WithReturns

end Text

namespace Lua

open Text (WithReturns)

variable {s t : List Char}

/-- Both are the same argument, and what stands behind them differs in its line ends. -/
def SameCall (p q : List Char × List Char) : Prop := p.1 = q.1 ∧ WithReturns p.2 q.2

theorem literal?_withReturns (h : WithReturns s t) {close : Char} {mark : List Char}
    (hmark : ∀ c ∈ mark, c ≠ '\n' ∧ c ≠ '\r') :
    Option.Rel SameCall (argument?.literal? close mark s) (argument?.literal? close mark t) := by
  have htake := h.takeWhile_eq (p := isArgumentChar close) (by simp [isArgumentChar])
    (by simp [isArgumentChar])
  have hdrop := h.dropWhile (p := isArgumentChar close) (by simp [isArgumentChar])
  have hprefix := hdrop.isPrefixOf? hmark
  unfold argument?.literal?
  rw [htake]
  cases s.takeWhile (isArgumentChar close) with
  | nil => exact .none
  | cons c x =>
    generalize mark.isPrefixOf? (s.dropWhile (isArgumentChar close)) = u at hprefix ⊢
    generalize mark.isPrefixOf? (t.dropWhile (isArgumentChar close)) = v at hprefix ⊢
    cases hprefix with
    | none => exact .none
    | some hrest => exact .some ⟨rfl, hrest⟩

theorem argument?_withReturns (h : WithReturns s t) :
    Option.Rel SameCall (argument? s) (argument? t) := by
  cases h with
  | nil => exact .none
  | put h => exact .none
  | @keep c s t hc h =>
    by_cases hdouble : c = '"'
    · subst hdouble
      exact literal?_withReturns h (by simp)
    by_cases hsingle : c = '\''
    · subst hsingle
      exact literal?_withReturns h (by simp)
    by_cases hopen : c = '['
    · subst hopen
      cases h with
      | nil => exact .none
      | put h => exact .none
      | @keep d s t hd h =>
        by_cases hopen : d = '['
        · subst hopen
          exact literal?_withReturns h (by simp)
        · simp [argument?, hopen]
    · simp [argument?, hdouble, hsingle, hopen]

theorem dropParen_withReturns (h : WithReturns s t) : WithReturns (dropParen s) (dropParen t) := by
  cases h with
  | nil => exact .nil
  | put h => exact .put h
  | @keep c s t hc h =>
    unfold dropParen
    by_cases hparen : c = '('
    · subst hparen
      exact h
    · simpa [hparen] using .keep hc h

theorem call?_withReturns (h : WithReturns s t) : Option.Rel SameCall (call? s) (call? t) := by
  have hword := h.isPrefixOf? (a := "require".toList) (by simp)
  unfold call?
  generalize "require".toList.isPrefixOf? s = u at hword ⊢
  generalize "require".toList.isPrefixOf? t = v at hword ⊢
  cases hword with
  | none => exact .none
  | some hrest =>
    have hblank := hrest.dropWhile (p := Text.isBlank) fun _ => rfl
    exact argument?_withReturns ((dropParen_withReturns hblank).dropWhile fun _ => rfl)

theorem callAt?_withReturns (h : WithReturns s t) (inWord : Bool) :
    Option.Rel SameCall (callAt? inWord s) (callAt? inWord t) := by
  unfold callAt?
  split
  · exact .none
  · exact call?_withReturns h

/-- A call that a text begins with gives its first argument. -/
theorem arguments_of_some {inWord : Bool} {x rest : List Char}
    (h : callAt? inWord s = some (x, rest)) : arguments inWord s = x :: arguments false rest := by
  cases s with
  | nil => cases inWord <;> cases h
  | cons c s =>
    rw [arguments]
    split
    · next y rest' hy =>
      cases h.symm.trans hy
      rfl
    · next hnone => cases h.symm.trans hnone

/-- Where no call begins the next character is looked at. -/
theorem arguments_of_none {inWord : Bool} {c : Char} (h : callAt? inWord (c :: s) = none) :
    arguments inWord (c :: s) = arguments (Text.isWordChar c) s := by
  rw [arguments]
  split
  · next hsome => cases h.symm.trans hsome
  · rfl

/-- **Line ends do not show in the calls of a text.** -/
theorem arguments_withReturns (h : WithReturns s t) (inWord : Bool) :
    arguments inWord t = arguments inWord s := by
  have hcall := callAt?_withReturns h inWord
  fun_induction arguments inWord s generalizing t with
  | case1 inWord =>
    cases h
    rw [arguments]
  | case2 inWord c r x rest hfound ih =>
    rw [hfound] at hcall
    generalize ht : callAt? inWord t = v at hcall
    cases hcall with
    | @some _ q hq =>
      obtain ⟨y, rest'⟩ := q
      obtain ⟨rfl, hrest⟩ := hq
      rw [arguments_of_some ht, ih hrest (callAt?_withReturns hrest false)]
  | case3 inWord c r hfound ih =>
    rw [hfound] at hcall
    generalize ht : callAt? inWord t = v at hcall
    cases hcall with
    | none =>
      cases h with
      | keep hc h => rw [arguments_of_none ht, ih h (callAt?_withReturns h _)]
      | put h =>
        have hbreak : ∀ w u, callAt? w ('\n' :: u) = none := fun w u => by cases w <;> rfl
        rw [arguments_of_none ht, arguments_of_none (hbreak _ _), ih h (callAt?_withReturns h _)]

/-- **Line ends do not show in what a text requires.** -/
theorem imports_withReturns (h : WithReturns s t) : imports t = imports s := by
  rw [imports, imports, arguments_withReturns h]

end Lua
end LuaBundler
