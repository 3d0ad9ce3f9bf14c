/-
# Calls in joined texts

What two texts require that stand one below the other is what the first one requires and then
what the second one does (`imports_append_break`).  The exception is a first text that ends
within a call, before its literal (`EndsOpen`).

A literal holds no line feed.  So in a call that goes on below a line feed the literal
stands below it, and above it there are only the word, blanks and at most one parenthesis
(`IsCall.append_eq_append_break`).  A line feed is no word character either, so the second text is
read as if nothing stood above it (`arguments_append_break`).

The prelude of an entry stands above its contents in this way.
-/

import LuaBundler.EntryPrelude
import LuaBundler.Proofs.Calls

namespace LuaBundler
namespace Lua

open Text (isAllBlank isBlank)

variable {s t u x y rest lit call : List Char}

/-- The text ends within a call, before its literal: with the word, and blanks and at most one
parenthesis behind it. -/
def EndsOpen (s : List Char) : Prop :=
  ∃ u w p v, isAllBlank w = true ∧ (p = [] ∨ p = ['(']) ∧ isAllBlank v = true ∧
    s = u ++ ("require".toList ++ (w ++ (p ++ v)))

/-- A text ends open if the word comes first when it is read backwards, blanks and a parenthesis
aside. -/
theorem endsOpen_iff : EndsOpen s ↔ "require".toList.reverse <+:
    (dropParen (s.reverse.dropWhile isBlank)).dropWhile isBlank := by
  have hword : "require".toList.reverse = 'e' :: "riuqer".toList := rfl
  constructor
  · rintro ⟨u, w, p, v, hw, hp, hv, rfl⟩
    have hblank : ∀ {w : List Char}, isAllBlank w = true → isAllBlank w.reverse = true :=
      fun h => List.all_reverse.trans h
    have hparen : p.reverse = [] ∨ p.reverse = ['('] := by rcases hp with rfl | rfl <;> simp
    have hback : (u ++ ("require".toList ++ (w ++ (p ++ v)))).reverse =
        v.reverse ++ (p.reverse ++ (w.reverse ++ 'e' :: ("riuqer".toList ++ u.reverse))) := by
      simp
    rw [hback, dropParen_append (hblank hv) hparen (hblank hw) (by decide) (by decide), hword]
    exact List.prefix_append _ _
  · rintro ⟨u, hu⟩
    obtain ⟨v, p, w, hv, hp, hw, hs⟩ := exists_append_dropParen s.reverse
    refine ⟨u.reverse, w.reverse, p.reverse, v.reverse, ?_, ?_, ?_, ?_⟩
    · exact List.all_reverse.trans hw
    · rcases hp with rfl | rfl <;> simp
    · exact List.all_reverse.trans hv
    · rw [← List.reverse_reverse s, hs, ← hu]
      simp

instance : Decidable (EndsOpen s) := decidable_of_iff _ endsOpen_iff.symm

/-- A text with an open end has one whatever stands before it. -/
theorem EndsOpen.append_left (h : EndsOpen s) (t : List Char) : EndsOpen (t ++ s) := by
  obtain ⟨u, w, p, v, hw, hp, hv, rfl⟩ := h
  exact ⟨t ++ u, w, p, v, hw, hp, hv, (List.append_assoc t u _).symm⟩

/-- Of two parts of a text that has a line feed somewhere, the first holds it or stands before
it. -/
theorem exists_of_append_eq_append_break (h : x ++ y = s ++ '\n' :: t) :
    (∃ r, x = s ++ '\n' :: r) ∨ ∃ r, s = x ++ r ∧ y = r ++ '\n' :: t := by
  rcases List.append_eq_append_iff.1 h with ⟨r, rfl, rfl⟩ | ⟨r, rfl, hr⟩
  · exact .inr ⟨r, rfl, rfl⟩
  · cases r with
    | nil => exact .inr ⟨[], by simp, hr.symm⟩
    | cons c r =>
      obtain ⟨rfl, -⟩ := List.cons.inj hr
      exact .inl ⟨r, rfl⟩

/-- A part without line feeds stands before it. -/
theorem exists_of_append_eq_append_break_of_not_mem (hx : '\n' ∉ x)
    (h : x ++ y = s ++ '\n' :: t) : ∃ r, s = x ++ r ∧ y = r ++ '\n' :: t := by
  refine (exists_of_append_eq_append_break h).resolve_left ?_
  rintro ⟨r, rfl⟩
  exact hx (by simp)

/-- A literal holds no line feed. -/
theorem IsLiteral.break_not_mem (h : IsLiteral lit x) : '\n' ∉ lit := by
  cases h with
  | double hx => simp [hx.break_not_mem]
  | single hx => simp [hx.break_not_mem]
  | bracket hx => simp [hx.break_not_mem]

/-- What stands of blanks before a line feed is blank. -/
theorem isAllBlank_of_append {r : List Char} (h : isAllBlank (s ++ r) = true) :
    isAllBlank s = true := by
  unfold isAllBlank at h ⊢
  rw [List.all_append, Bool.and_eq_true] at h
  exact h.1

/-- A call that holds a line feed is open there. -/
theorem IsCall.endsOpen (h : IsCall call x) (he : call = s ++ '\n' :: t) : EndsOpen s := by
  obtain ⟨w, p, v, lit, hw, hp, hv, hlit, rfl⟩ := h.exists_parts
  obtain ⟨s₁, rfl, h₁⟩ := exists_of_append_eq_append_break_of_not_mem (by decide) he
  rcases exists_of_append_eq_append_break h₁ with ⟨r, rfl⟩ | ⟨s₂, rfl, h₂⟩
  · exact ⟨[], s₁, [], [], isAllBlank_of_append hw, .inl rfl, rfl, by simp⟩
  have hbreak : '\n' ∉ p := by rcases hp with rfl | rfl <;> decide
  obtain ⟨s₃, rfl, h₃⟩ := exists_of_append_eq_append_break_of_not_mem hbreak h₂
  rcases exists_of_append_eq_append_break h₃ with ⟨r, rfl⟩ | ⟨s₄, rfl, h₄⟩
  · exact ⟨[], w, p, s₃, hw, hp, isAllBlank_of_append hv, rfl⟩
  · exact absurd (h₄ ▸ List.mem_append_right s₄ List.mem_cons_self) hlit.break_not_mem

/-- **Where a text does not end open, a call at its beginning stops in it**, whatever stands
below. -/
theorem IsCall.append_eq_append_break (h : IsCall call x) (hs : ¬ EndsOpen s)
    (he : call ++ rest = s ++ '\n' :: t) : ∃ r, s = call ++ r ∧ rest = r ++ '\n' :: t := by
  refine (exists_of_append_eq_append_break he).resolve_left ?_
  rintro ⟨r, hr⟩
  exact hs (h.endsOpen hr)

/-- The call that a text begins with is the one it has alone. -/
theorem call?_append_break (hs : ¬ EndsOpen s) (t : List Char) :
    call? (s ++ '\n' :: t) = (call? s).map fun (x, rest) => (x, rest ++ '\n' :: t) := by
  refine Option.ext fun ⟨x, rest⟩ => ?_
  simp only [Option.map_eq_some_iff, Prod.exists, Prod.mk.injEq, call?_eq_some_iff]
  constructor
  · rintro ⟨call, hcall, he⟩
    obtain ⟨r, hr, rfl⟩ := hcall.append_eq_append_break hs he.symm
    exact ⟨x, r, ⟨call, hcall, hr⟩, rfl, rfl⟩
  · rintro ⟨x', r, ⟨call, hcall, rfl⟩, rfl, rfl⟩
    exact ⟨call, hcall, List.append_assoc call r _⟩

theorem callAt?_append_break (hs : ¬ EndsOpen s) (inWord : Bool) (t : List Char) :
    callAt? inWord (s ++ '\n' :: t) =
      (callAt? inWord s).map fun (x, rest) => (x, rest ++ '\n' :: t) := by
  cases inWord with
  | false => exact call?_append_break hs t
  | true => rfl

/-- A line feed is passed over, and behind it a word can begin. -/
theorem arguments_break (inWord : Bool) (t : List Char) :
    arguments inWord ('\n' :: t) = arguments false t := by
  have hnone : callAt? inWord ('\n' :: t) = none := by cases inWord <;> rfl
  have hword : Text.isWordChar '\n' = false := by decide +kernel
  rw [arguments_of_none hnone, hword]

/-- **The arguments of joined texts** are those of the one and those of the other. -/
theorem arguments_append_break (hs : ¬ EndsOpen s) (inWord : Bool) (t : List Char) :
    arguments inWord (s ++ '\n' :: t) = arguments inWord s ++ arguments false t := by
  fun_induction arguments inWord s with
  | case1 inWord => exact arguments_break inWord t
  | case2 inWord c r x rest hfound ih =>
    have hcall := callAt?_append_break hs inWord t
    rw [hfound] at hcall
    -- the rest is the end of the text, so it does not end open either
    have hrest : ¬ EndsOpen rest := by
      intro hopen
      cases inWord with
      | true => cases hfound
      | false =>
        obtain ⟨call, -, he⟩ := call?_eq_some_iff.1 hfound
        exact hs (he ▸ hopen.append_left call)
    rw [List.cons_append] at hcall ⊢
    rw [arguments_of_some hcall, ih hrest, List.cons_append]
  | case3 inWord c r hnone ih =>
    have hcall := callAt?_append_break hs inWord t
    rw [hnone] at hcall
    rw [List.cons_append] at hcall ⊢
    rw [arguments_of_none hcall, ih fun hopen => hs (hopen.append_left [c])]

/-- What joined texts require is what the one requires and then what the other does. -/
theorem imports_append_break (hs : ¬ EndsOpen s) (t : List Char) :
    imports (s ++ '\n' :: t) = imports s ++ imports t := by
  unfold imports
  rw [arguments_append_break hs, List.map_append, List.filter_append, List.map_append]

/-- No call begins with a blank. -/
theorem callAt?_of_isBlank {c : Char} (hc : isBlank c = true) (inWord : Bool) :
    callAt? inWord (c :: s) = none := by
  cases inWord with
  | true => rfl
  | false =>
    by_contra hne
    obtain ⟨⟨x, rest⟩, hfound⟩ := Option.ne_none_iff_exists'.1 hne
    obtain ⟨_, ⟨-, -, -, -⟩, he⟩ := call?_eq_some_iff.1 hfound
    obtain ⟨rfl, -⟩ := List.cons.inj he
    cases hc

/-- Blanks require nothing. -/
theorem imports_of_isAllBlank (hs : isAllBlank s = true) : imports s = [] := by
  have hall : ∀ inWord, arguments inWord s = [] := by
    induction s with
    | nil =>
      intro inWord
      rw [arguments]
    | cons c s ih =>
      intro inWord
      rw [isAllBlank, List.all_cons, Bool.and_eq_true] at hs
      rw [arguments_of_none (callAt?_of_isBlank hs.1 inWord)]
      exact ih hs.2 _
  unfold imports
  rw [hall]
  rfl

/-- Line feeds at the end of a text require nothing. -/
theorem imports_dropEndWhile (hs : ¬ EndsOpen (Text.dropEndWhile (· == '\n') s)) :
    imports (Text.dropEndWhile (· == '\n') s) = imports s := by
  obtain ⟨t, ht, hbreaks⟩ := Text.exists_dropEndWhile_append (p := (· == '\n')) s
  cases t with
  | nil => rw [← List.append_nil (Text.dropEndWhile _ s), ← ht]
  | cons c t =>
    obtain rfl : c = '\n' := eq_of_beq (hbreaks c List.mem_cons_self)
    have hblank : isAllBlank t = true := List.all_eq_true.2 fun c hc => by
      rw [eq_of_beq (hbreaks c (List.mem_cons_of_mem _ hc))]
      rfl
    have himports := imports_append_break hs t
    rwa [← ht, imports_of_isAllBlank hblank, List.append_nil, eq_comm] at himports

/-- A prelude of blanks holds no placeholder. -/
theorem expand_of_isAllBlank (name : List Char) (hs : isAllBlank s = true) :
    EntryPrelude.expand name s = s := by
  induction s with
  | nil => rw [EntryPrelude.expand]
  | cons c s ih =>
    rw [isAllBlank, List.all_cons, Bool.and_eq_true] at hs
    have hnone : EntryPrelude.placeholder.isPrefixOf? (c :: s) = none := by
      by_contra hne
      obtain ⟨rest, hfound⟩ := Option.ne_none_iff_exists'.1 hne
      obtain ⟨rfl, -⟩ := List.cons.inj (Text.isPrefixOf?_eq_some_iff.1 hfound)
      cases hs.1
    rw [EntryPrelude.expand]
    split
    · next hfound =>
      rw [hnone] at hfound
      cases hfound
    · rw [ih hs.2]

/-- **What joined texts require.**  A text that does not end open requires the same with another
one below it, and what the other one requires comes behind it.  So below a prelude that does not
end open, the line feeds at its end aside, an entry requires what the prelude does with the
name of the entry in it, and then exactly what it requires itself. -/
theorem imports_joined :
    (∀ a b, ¬ EndsOpen a → imports (a ++ '\n' :: b) = imports a ++ imports b) ∧
      ∀ text entry contents,
        let expanded := EntryPrelude.expand (escape entry.toList) text
        ¬ EndsOpen (Text.dropEndWhile (· == '\n') expanded) →
          imports ((EntryPrelude.ofText text).apply entry contents) =
            imports expanded ++ imports contents := by
  refine ⟨fun a b ha => imports_append_break ha b, fun text entry contents => ?_⟩
  intro expanded he
  by_cases htext : isAllBlank text = true
  · have hexpanded : expanded = text := expand_of_isAllBlank _ htext
    rw [hexpanded, imports_of_isAllBlank htext, EntryPrelude.ofText, if_pos htext]
    rfl
  · rw [EntryPrelude.ofText, if_neg htext, ← imports_dropEndWhile he]
    exact imports_append_break he contents

/-- The word stands in the last line of a text and of a prelude, but with something behind it, so
that neither ends open: the literal below belongs to no call. -/
theorem imports_joined_of_closed_ends :
    let a := "require 'x' -- require(y".toList
    let b := "'z'\nrequire 'y'".toList
    let text := "require '{script}'\nlocal require = require --\n\n".toList
    imports (a ++ '\n' :: b) = ["x", "y"] ∧
      imports ((EntryPrelude.ofText text).apply "main" b) = ["main", "y"] := by
  intro a b text
  have ha := imports_joined.1 a b (by decide +kernel)
  have htext := imports_joined.2 text "main" b (by decide +kernel)
  rw [ha, htext]
  decide +kernel

/-- Where the first text ends open, a literal below it makes it a call. -/
example : imports "local require = require\n'x'".toList = ["x"] := by decide +kernel

end Lua
end LuaBundler
