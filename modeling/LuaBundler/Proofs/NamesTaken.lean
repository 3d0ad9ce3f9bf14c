/-
# How many names a walk takes

A walk with a finite loader ends, and the number of names it takes from its stack until then
is known exactly (`pending_after_eq_nil_iff`): a name is taken for each import of the entry,
for each dependency of each bundled module, and for each extra module as often as the
extension point is bundled under one name or another.  It makes no difference whether names
are taken again, stand for the same file or cannot be resolved, nor what was stored before.

The number of steps is the length of the list of the names taken, and that list is known from
the books of the walk (`Accounts.exists_taken`).
-/

import Mathlib.Algebra.Ring.Nat
import LuaBundler.Proofs.Walk

namespace LuaBundler
namespace Bundle

/-- If a function gives something for each member of a list, these make up a list. -/
theorem exists_map_eq_map_some {α β : Type} {f : α → Option β} {as : List α}
    (h : ∀ a ∈ as, ∃ b, f a = some b) : ∃ bs : List β, as.map f = bs.map some := by
  induction as with
  | nil => exact ⟨[], rfl⟩
  | cons a as ih =>
    obtain ⟨b, hb⟩ := h a List.mem_cons_self
    obtain ⟨bs, hbs⟩ := ih fun a ha => h a (List.mem_cons_of_mem _ ha)
    exact ⟨b :: bs, by rw [List.map_cons, hb, hbs, List.map_cons]⟩

/-- Where each of some names is stored, what follows them are the dependencies of their modules,
and the extra modules once for each name of the extension point. -/
theorem length_flatMap_follows {o : Options} {s : Store} {names : List String}
    {modules : List Module} (h : names.map s.get? = modules.map some) :
    (names.flatMap (follows o s)).length =
      (modules.map fun m => m.dependencies.length).sum +
        o.extras.length * names.countP o.reaches := by
  induction names generalizing modules with
  | nil =>
    obtain rfl := List.map_eq_nil_iff.1 h.symm
    rfl
  | cons name names ih =>
    cases modules with
    | nil => cases h
    | cons m modules =>
      obtain ⟨hm, hrest⟩ := List.cons.inj h
      have hextras : (o.extrasOf name).length = if o.reaches name then o.extras.length else 0 := by
        unfold Options.extrasOf
        split <;> rfl
      simp only [List.flatMap_cons, List.length_append, List.map_cons, List.sum_cons,
        List.countP_cons, Nat.mul_add, follows_of_get? hm, hextras, ih hrest]
      split <;> omega

namespace Walk

variable {l : Loader} {o : Options} {entry : String} {direct taken : List String} {w : Walk}

/-- A walk that makes no step stays where it is. -/
theorem after_of_none (hs : w.step? l o entry = none) (n : ℕ) : w.after l o entry n = w := by
  cases n with
  | zero => rfl
  | succ n => rw [after, hs]

/-- The modules of the visited names. -/
theorem Accounts.exists_modules (h : Accounts o entry direct taken w) :
    ∃ modules : List Module, w.visited.map w.resolver.store.get? = modules.map some :=
  exists_map_eq_map_some fun _ hn => h.stored hn

/-- **A walk makes one step for each name it takes.**  Up to its end it takes some names more,
which its books then hold, and no name is left after some steps if and only if there are as
many of them. -/
theorem Accounts.exists_taken (h : Accounts o entry direct taken w) (he : w.Ends l o entry) :
    ∃ names, Accounts o entry direct (names ++ taken) (w.finish l o entry he) ∧
      ∀ n, (w.after l o entry n).pending = [] ↔ names.length ≤ n := by
  fun_induction Walk.finish l o entry w he generalizing taken with
  | case1 w he hs =>
    refine ⟨[], h, fun n => ?_⟩
    rw [after_of_none hs, step?_eq_none_iff.1 hs]
    simp
  | case2 w he w' hs ih =>
    obtain ⟨name, hstep⟩ := step?_eq_some_iff.1 hs
    obtain ⟨names, hnames, hlength⟩ := ih (h.step hstep)
    refine ⟨names ++ [name], by rwa [List.append_assoc], fun n => ?_⟩
    rw [List.length_append, List.length_singleton]
    cases n with
    | zero =>
      have hpending : w.pending ≠ [] := by
        intro hp
        rw [step?_eq_none_iff.2 hp] at hs
        cases hs
      rw [after]
      simp [hpending]
    | succ n =>
      rw [after, hs, Nat.add_le_add_iff_right]
      exact hlength n

end Walk

variable {l : Loader} {o : Options} {entry : String} {r : Resolver}

/-- **With a finite loader the walk of a bundle ends, and the number of names it takes is
known.**  Each of the modules is stored at the end.  No name is left after some steps if and
only if these are at least as many as the imports of the entry, the dependencies of the modules
and, for each module at the path of the extension point, the extra modules. -/
theorem pending_after_eq_nil_iff (hl : l.Finite) (o : Options) (entry : String) (r : Resolver) :
    ∃ he : Ends l o entry r, ∀ b r', ofEntry l o entry r he = (.ok b, r') →
      ∃ raw, ∃ modules : List Module, l.load r.requests ⟨entry⟩ = .ok raw ∧
        b.modules.map r'.store.get? = modules.map some ∧
        let contents := o.prelude.apply entry raw
        let first := start o entry contents (r.ask l ⟨entry⟩).2
        let total := (Lua.imports contents).length +
          (modules.map fun m => m.dependencies.length).sum +
          o.extras.length * b.modules.countP o.reaches
        (∀ n, (first.after l o entry n).pending = [] ↔ total ≤ n) ∧
          b = ofWalk contents (first.after l o entry total) := by
  refine ⟨ends_of_finite o entry hl r, fun b r' hb => ?_⟩
  obtain ⟨raw, hraw, rfl, rfl⟩ := exists_of_ofEntry_eq_ok hb
  obtain ⟨names, ha, hafter⟩ :=
    (accounts_start (o.prelude.apply entry raw)).exists_taken (ends_of_finite o entry hl r raw hraw)
  obtain ⟨modules, hmodules⟩ := ha.exists_modules
  have htaken := (ha.perm_of_ended (Walk.pending_finish _)).length_eq
  rw [List.append_nil, List.length_append, length_flatMap_follows hmodules] at htaken
  refine ⟨raw, modules.reverse, hraw, ?_, ?_⟩
  · simp only [ofWalk, List.map_reverse, hmodules]
  · intro contents first total
    have htotal : total = names.length := by
      rw [htaken, ← Nat.add_assoc]
      simp only [total, ofWalk, List.map_reverse, List.sum_reverse, List.countP_reverse]
      rfl
    rw [htotal]
    refine ⟨hafter, ?_⟩
    rw [← Walk.finish_eq_after _ ((hafter _).2 (Nat.le_refl _))]

/-- Modules that require themselves and each other, a file with two names that is the extension
point under both, a stored module that has no file, and a name that fails six times: the walk
takes 17 names. -/
theorem pending_after_of_tangled_modules :
    let text := "require 'a.b' require 'x' require 'gone'".toList
    let l := Loader.ofFiles [(⟨"main.lua"⟩, text), (⟨"a/b.lua"⟩, text),
      (⟨"x.lua"⟩, "require 'a/b' require 'x'".toList)]
    let o : Options := { extensionPoint := some "a.b", extras := ["y", "gone"] }
    let r : Resolver := { store := Store.empty.insert "y" ⟨["x", "gone"], []⟩ }
    let first := start o "main.lua" text (r.ask l ⟨"main.lua"⟩).2
    ∃ h b r', ofEntry l o "main.lua" r h = (.ok b, r') ∧
      b.modules = ["x", "a/b", "y", "a.b"] ∧
      (first.after l o "main.lua" 17).pending = [] ∧
      (first.after l o "main.lua" 16).pending ≠ [] := by
  intro text l o r first
  have hl : l.load r.requests ⟨"main.lua"⟩ = .ok text := rfl
  obtain ⟨h, htaken⟩ := pending_after_eq_nil_iff (l := l) (Loader.finite_ofFiles _) o "main.lua" r
  let w := first.after l o "main.lua" 17
  have hw : w.pending = [] ∧ w.visited.reverse = ["x", "a/b", "y", "a.b"] ∧
      w.visited.reverse.map (fun n => (w.resolver.store.get? n).map (·.dependencies.length)) =
        [2, 3, 2, 3].map some := by decide +kernel
  have hb : ofEntry l o "main.lua" r h = (.ok (ofWalk text w), w.resolver) :=
    ofEntry_eq_after h hl 17 hw.1
  obtain ⟨raw, modules, hraw, hmodules, hlength, -⟩ := htaken _ _ hb
  obtain rfl := Except.ok.inj (hl.symm.trans hraw)
  have hdependencies : modules.map (fun m => m.dependencies.length) = [2, 3, 2, 3] := by
    have hmap := congrArg (List.map (Option.map fun m => m.dependencies.length)) hmodules
    rw [List.map_map, List.map_map] at hmap
    refine (List.map_inj_right fun _ _ => Option.some.inj).1 ?_
    rw [← hw.2.2, List.map_map]
    exact hmap.symm
  have himports : (Lua.imports text).length = 3 := by decide +kernel
  have hreached : (ofWalk text w).modules.countP o.reaches = 2 := by decide +kernel
  have hsteps : ∀ n, (first.after l o "main.lua" n).pending = [] ↔ 17 ≤ n := by
    intro n
    refine (hlength n).trans ?_
    rw [hdependencies, hreached]
    exact Iff.of_eq (congrArg (· + _ + _ ≤ n) himports)
  exact ⟨h, _, _, hb, hw.2.1, (hsteps 17).2 (by decide), mt (hsteps 16).1 (by decide)⟩

end Bundle
end LuaBundler
