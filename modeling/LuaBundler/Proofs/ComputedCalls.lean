/-
# Calls with a computed argument

A call may open a parenthesis, and the literal need not be all that stands in it, as in
`require("a" .. x)`.  Then the argument is computed at run time (`Occurrence.isComputed`), and
the literal is not what the call asks for.

The reader does not look behind the literal and takes a computed call like any other.  So what
a text requires is what its other calls ask for only if the literals of the computed ones are
all blank (`Bundle.imports_eq_names_filter_iff`).  Otherwise a bundle holds a module that is
not asked for, or reports one as missing (`Bundle.computed_call_fails`).
-/

import LuaBundler.Proofs.Calls
import LuaBundler.Proofs.Provenance

namespace LuaBundler
namespace Lua

open Text (isAllBlank isBlank)

namespace Occurrence

variable {s : List Char}

/-- A parenthesis is open before the literal. -/
def isOpen (c : Occurrence s) : Bool :=
  ((c.call.drop "require".toList.length).dropWhile isBlank).head? == some '('

/-- A parenthesis is open, and behind the literal something other than its end follows. -/
def isComputed (c : Occurrence s) : Bool :=
  c.isOpen && (c.behind.dropWhile isBlank).head?.any (· != ')')

/-- The parenthesis is that of the grammar. -/
theorem isOpen_iff (c : Occurrence s) :
    c.isOpen = true ↔ ∃ w v lit, isAllBlank w = true ∧ isAllBlank v = true ∧
      IsLiteral lit c.argument ∧ c.call = "require".toList ++ (w ++ ('(' :: (v ++ lit))) := by
  have hword : ∀ w r, isAllBlank w = true →
      (("require".toList ++ (w ++ r)).drop "require".toList.length).dropWhile isBlank =
        r.dropWhile isBlank := fun w r hw => by
    rw [List.drop_left, dropWhile_isBlank_append hw]
  unfold isOpen
  constructor
  · intro h
    obtain ⟨w, p, v, lit, hw, hp, hv, hl, he⟩ := c.isCall.exists_parts
    rw [he, hword w _ hw] at h
    rcases hp with rfl | rfl
    · obtain ⟨d, l, rfl, hd, hparen⟩ := hl.exists_head
      rw [List.nil_append, dropWhile_isBlank_append hv, List.dropWhile_cons, hd] at h
      exact absurd (Option.some.inj (eq_of_beq h)) hparen
    · exact ⟨w, v, lit, hw, hv, hl, he⟩
  · rintro ⟨w, v, lit, hw, -, -, he⟩
    rw [he, hword w _ hw]
    rfl

/-- **A computed call has more than its literal in the parenthesis:** behind the literal and
blanks stands a character that does not close it. -/
theorem isComputed_iff (c : Occurrence s) :
    c.isComputed = true ↔
      (∃ w v lit, isAllBlank w = true ∧ isAllBlank v = true ∧ IsLiteral lit c.argument ∧
        c.call = "require".toList ++ (w ++ ('(' :: (v ++ lit)))) ∧
      ∃ u d r, isAllBlank u = true ∧ isBlank d = false ∧ d ≠ ')' ∧ c.behind = u ++ d :: r := by
  rw [isComputed, Bool.and_eq_true, isOpen_iff]
  refine and_congr_right fun _ => ⟨fun h => ?_, ?_⟩
  · have hblank : isAllBlank (c.behind.takeWhile isBlank) = true := List.all_takeWhile
    have hparts := List.takeWhile_append_dropWhile (p := isBlank) (l := c.behind)
    have hhead := List.head?_dropWhile_not isBlank c.behind
    cases he : c.behind.dropWhile isBlank with
    | nil =>
      rw [he] at h
      cases h
    | cons d r =>
      rw [he] at h hhead hparts
      exact ⟨_, d, r, hblank, by simpa using hhead, by simpa using h, hparts.symm⟩
  · rintro ⟨u, d, r, hu, hd, hparen, he⟩
    rw [he, dropWhile_isBlank_append hu, List.dropWhile_cons, hd]
    simpa using hparen

end Occurrence

variable {s : List Char}

/-- The call of a text in which the name is put together from a literal and a variable. -/
def computedCall : Occurrence "require(\"a\" .. x)".toList where
  before := []
  call := "require(\"a\"".toList
  argument := "a".toList
  behind := " .. x)".toList
  isCall := by decide +kernel
  apart := rfl
  text_eq := rfl

/-- No name is lost with the calls that are left out if and only if all of these are blank. -/
theorem names_eq_names_filter_iff {cs : List (Occurrence s)} {p : Occurrence s → Bool} :
    names cs = names (cs.filter p) ↔ ∀ c ∈ cs, p c = false → isAllBlank c.argument = true := by
  have hfilter : names (cs.filter p) =
      ((cs.filter fun c => !isAllBlank c.argument).filter p).map Occurrence.name := by
    rw [names, List.filter_comm]
  have hself : names cs = names (cs.filter p) ↔
      ∀ c ∈ cs.filter fun c => !isAllBlank c.argument, p c = true := by
    rw [hfilter, names, ← List.filter_eq_self]
    constructor
    · intro h
      refine List.filter_sublist.eq_of_length ?_
      simpa only [List.length_map] using (congrArg List.length h).symm
    · intro h
      rw [h]
  rw [hself]
  refine forall_congr' fun c => ?_
  rw [List.mem_filter, and_imp]
  refine imp_congr_right fun _ => ?_
  cases isAllBlank c.argument <;> cases p c <;> decide

end Lua

namespace Bundle

open Lua (IsScan Occurrence computedCall names)

variable {l : Loader} {o : Options} {entry : String} {r r' : Resolver} {b : Bundle}

/-- What the entry, prelude included, or the text of a bundled module requires is a module of
the bundle, or it is reported. -/
theorem mem_modules_or_unresolved {h : Ends l o entry r}
    (hb : ofEntry l o entry r h = (.ok b, r')) {text : List Char}
    (htext : (∃ raw, l.load r.requests ⟨entry⟩ = .ok raw ∧ text = o.prelude.apply entry raw) ∨
      ∃ name ∈ b.modules, r'.SourceOf l name text) {n : String} (hn : n ∈ Lua.imports text) :
    n ∈ b.modules ∨ n ∈ b.unresolved.map Unresolved.name := by
  obtain ⟨raw, hl, rfl, rfl⟩ := exists_of_ofEntry_eq_ok hb
  set contents := o.prelude.apply entry raw
  set w := (start o entry contents (r.ask l ⟨entry⟩).2).finish l o entry (h raw hl)
  have hp : w.pending = [] := Walk.pending_finish (h raw hl)
  obtain ⟨taken, ha⟩ := Walk.accounts_finish (h raw hl) (accounts_start contents)
  rw [ofWalk, List.mem_reverse, List.map_reverse, List.mem_reverse]
  refine ha.visited_or_reported_of_ended hp ?_
  rcases htext with ⟨raw', hraw, rfl⟩ | ⟨name, hname, hsource⟩
  · obtain rfl := Except.ok.inj (hl.symm.trans hraw)
    exact .inl hn
  · refine .inr ⟨name, List.mem_reverse.1 hname, ?_⟩
    rw [follows_of_get? hsource.stored]
    exact List.mem_append_left _ hn

/-- **Computed calls are taken like the others.**  Let `cs` be the scan of a text.  The text
requires what the calls of `cs` without a computed argument ask for if and only if the literal
of each computed one is all blank.  For any other call of `cs`, computed or not, a bundle with
the text in it, as its entry or as a module, has a module or a report. -/
theorem imports_eq_names_filter_iff (s : List Char) :
    ∃ cs : List (Occurrence s), IsScan 0 cs ∧
      (∀ ds : List (Occurrence s), IsScan 0 ds → ds = cs) ∧
      (Lua.imports s = names (cs.filter fun c => !c.isComputed) ↔
        ∀ c ∈ cs, c.isComputed = true → Text.isAllBlank c.argument = true) ∧
      ∀ {l o entry r r' b} (h : Ends l o entry r), ofEntry l o entry r h = (.ok b, r') →
        ((∃ raw, l.load r.requests ⟨entry⟩ = .ok raw ∧ s = o.prelude.apply entry raw) ∨
          ∃ name ∈ b.modules, r'.SourceOf l name s) →
        ∀ c ∈ cs, Text.isAllBlank c.argument = false →
          c.name ∈ b.modules ∨ c.name ∈ b.unresolved.map Unresolved.name := by
  obtain ⟨cs, hscan, hcs⟩ := Lua.exists_isScan (u := []) (s := s) false rfl rfl
  have himports := Lua.imports_eq_names_of_map_argument hcs
  refine ⟨cs, hscan, fun ds hds => hds.unique hscan, ?_, fun h hb htext c hc hblank => ?_⟩
  · rw [himports, Lua.names_eq_names_filter_iff]
    simp only [Bool.not_eq_false']
  · refine mem_modules_or_unresolved hb htext ?_
    rw [himports]
    exact Lua.mem_names hc hblank

/-- The only call is computed, and the bundle has a module or a report for its literal. -/
theorem computed_call_adds_module :
    let text := "require(\"a\" .. x)".toList
    let l := Loader.ofFiles [(⟨"main.lua"⟩, text), (⟨"a.lua"⟩, "return 1".toList)]
    let r : Resolver := { store := .empty }
    ∃ h b r' cs, ofEntry l {} "main.lua" r h = (.ok b, r') ∧ IsScan (s := text) 0 cs ∧
      computedCall ∈ cs ∧ computedCall.isComputed = true ∧
      (computedCall.name ∈ b.modules ∨ computedCall.name ∈ b.unresolved.map Unresolved.name) := by
  intro text l r
  have h : Ends l {} "main.lua" r := ends_of_finite {} "main.lua" (Loader.finite_ofFiles _) r
  have hl : l.load r.requests ⟨"main.lua"⟩ = .ok text := rfl
  have hb := ofEntry_eq_after h hl 2 (by decide +kernel)
  obtain ⟨cs, hscan, -, -, hbundle⟩ := imports_eq_names_filter_iff text
  -- nothing begins before the first character of the text
  have hmem : computedCall ∈ cs :=
    (hscan.covers computedCall (Nat.zero_le _)).resolve_right fun ⟨_, _, hlt, _⟩ =>
      absurd hlt (Nat.not_lt_zero _)
  exact ⟨h, _, _, cs, hb, hscan, hmem, by decide +kernel,
    hbundle h hb (.inl ⟨text, hl, rfl⟩) computedCall hmem (by decide +kernel)⟩

/-- **A computed call makes a bundle fail.**  The text does not ask for `a`, but it is read as
if it did.  There is no such file, and so the bundle is not complete. -/
theorem computed_call_fails :
    let text := "require(\"a\" .. x)".toList
    let l := Loader.ofFiles [(⟨"main.lua"⟩, text)]
    let r : Resolver := { store := .empty }
    (∃ c : Occurrence text, c.isComputed = true ∧ c.name = "a") ∧ Lua.imports text = ["a"] ∧
      ∃ h b r', ofEntry l {} "main.lua" r h = (.ok b, r') ∧ b.isComplete = false ∧
        b.unresolved.map Unresolved.name = ["a"] := by
  intro text l r
  have h : Ends l {} "main.lua" r := ends_of_finite {} "main.lua" (Loader.finite_ofFiles _) r
  have hl : l.load r.requests ⟨"main.lua"⟩ = .ok text := rfl
  have hb := ofEntry_eq_after h hl 1 (by decide +kernel)
  exact ⟨⟨computedCall, by decide +kernel, by decide +kernel⟩, by decide +kernel, h, _, _, hb,
    by decide +kernel, by decide +kernel⟩

end Bundle
end LuaBundler
