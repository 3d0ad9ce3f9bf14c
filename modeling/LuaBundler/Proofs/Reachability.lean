/-
# A bundle holds what is reachable

The names in a bundle are the least set that holds the resolvable imports of the
entry and, with each of its names, the resolvable names that follow it
(`modules_isLeast_and_count_unresolved`): what the name requires, and the extra
modules if it lies at the path of the extension point.  A name that cannot be
resolved is reported once for each time that the entry or a bundled module asks for
it, and a resolvable one never.

All this is measured before the walk: a name is resolvable if it is stored at the
start or the loader gives the text at its path then.  The loader has to be steady
(`Loader.SteadyAfter`), or else it might refuse a path when it is asked for it.
-/

import Mathlib.Algebra.Ring.Nat
import Mathlib.Order.Bounds.Basic
import LuaBundler.Proofs.Walk

namespace LuaBundler

namespace Resolver

variable (l : Loader) (r : Resolver) (name : String)

/-- The name is stored, or has a path at which the loader gives a text. -/
def Resolvable : Prop :=
  (∃ m, r.store.get? name = some m) ∨
    ∃ path source, Module.path? name = some path ∧ l.load r.requests path = .ok source

/-- What the name requires: the dependencies stored for it, or else the imports of
the text at its path. -/
def dependencies : List String :=
  match r.store.get? name with
  | some m => m.dependencies
  | none =>
    match Module.path? name with
    | none => []
    | some path =>
      match l.load r.requests path with
      | .ok source => Lua.imports source
      | .error _ => []

variable {l r name}

/-- The resolvable names are those that stand for a module. -/
theorem resolvable_iff_module? : r.Resolvable l name ↔ ∃ m, r.module? l name = some m := by
  unfold Resolvable module?
  cases r.store.get? name with
  | some m => simp
  | none =>
    cases Module.path? name with
    | none => simp
    | some path =>
      cases hl : l.load r.requests path with
      | error error => simp [hl]
      | ok source => simp [hl]

/-- A resolvable name requires what its module requires. -/
theorem dependencies_of_module? {m : Module} (h : r.module? l name = some m) :
    r.dependencies l name = m.dependencies := by
  unfold module? at h
  unfold dependencies
  cases hs : r.store.get? name with
  | some m' =>
    rw [hs] at h
    cases h
    rfl
  | none =>
    rw [hs] at h
    cases hp : Module.path? name with
    | none =>
      rw [hp] at h
      cases h
    | some path =>
      rw [hp] at h
      cases hl : l.load r.requests path with
      | error error => simp [hl] at h
      | ok source =>
        simp only [hl, Option.some.injEq] at h
        simp only [hl, ← h]
        rfl

end Resolver

namespace Bundle

variable (l : Loader) (o : Options) (r : Resolver)

/-- The names that follow a name: those it requires, and behind them the extra modules
if the extension point has a path and the name has the same. -/
def successors (name : String) : List String :=
  r.dependencies l name ++
    if o.extensionPath?.isSome ∧ Module.path? name = o.extensionPath? then o.extras else []

/-- A set of names holds the resolvable ones of `direct` and, with each of its names,
the resolvable ones that follow it. -/
structure IsClosed (direct : List String) (s : Set String) : Prop where
  direct : ∀ n ∈ direct, r.Resolvable l n → n ∈ s
  successors : ∀ m ∈ s, ∀ n ∈ successors l o r m, r.Resolvable l n → n ∈ s

variable {l o r} {entry : String}

theorem successors_of_module? {name : String} {m : Module} (h : r.module? l name = some m) :
    successors l o r name = m.dependencies ++ o.extrasOf name := by
  unfold successors Options.extrasOf Options.reaches
  rw [Resolver.dependencies_of_module? h]
  simp only [Bool.and_eq_true, beq_iff_eq]

namespace Walk

variable {w w' : Walk} {direct : List String}

/-- A walk with a steady loader: names stand for what they stood for at `r`, and the
reports are about names that cannot be resolved. -/
structure Settled (l : Loader) (r : Resolver) (w : Walk) : Prop where
  sees : Resolver.Sees l (r.module? l) w.resolver
  unresolved : ∀ u ∈ w.unresolved, ¬ r.Resolvable l u.name

theorem Settled.step {name : String} (h : w.Settled l r) (hs : Step l o entry w name w') :
    w'.Settled l r := by
  refine ⟨hs.sees h.sees, ?_⟩
  cases hs with
  | known hp hv => exact h.unresolved
  | missing hp hv hr =>
    have hview : none = r.module? l name := (sees_resolve h.sees hr).1
    intro u hu
    rcases List.mem_cons.1 hu with rfl | hu
    · rw [Resolver.resolvable_iff_module?, ← hview]
      simp
    · exact h.unresolved u hu
  | found hp hv hr => exact h.unresolved

/-- All that is visited, and all resolvable names that are pending, lie in `s`. -/
structure Within (l : Loader) (r : Resolver) (s : Set String) (w : Walk) : Prop where
  visited : ∀ n ∈ w.visited, n ∈ s
  pending : ∀ n ∈ w.pending, r.Resolvable l n → n ∈ s

/-- **A step stays within a closed set.** -/
theorem Within.step {name : String} {s : Set String} (h : w.Within l r s)
    (hw : w.Settled l r) (hc : IsClosed l o r direct s)
    (hs : Step l o entry w name w') : w'.Within l r s := by
  cases hs with
  | known hp hv =>
    exact ⟨h.visited, fun n hn => h.pending n (hp ▸ List.mem_cons_of_mem _ hn)⟩
  | missing hp hv hr =>
    exact ⟨h.visited, fun n hn => h.pending n (hp ▸ List.mem_cons_of_mem _ hn)⟩
  | @found rest m r' hp hv hr =>
    have hview : some m = r.module? l name := (sees_resolve hw.sees hr).1
    have hname : name ∈ s := by
      refine h.pending name (hp ▸ List.mem_cons_self) ?_
      exact Resolver.resolvable_iff_module?.2 ⟨m, hview.symm⟩
    refine ⟨fun n hn => ?_, fun n hn hres => ?_⟩
    · rcases List.mem_cons.1 hn with rfl | hn
      · exact hname
      · exact h.visited n hn
    · rcases List.mem_append.1 hn with hn | hn
      · refine hc.successors name hname n ?_ hres
        rw [successors_of_module? hview.symm]
        exact List.mem_reverse.1 hn
      · exact h.pending n (hp ▸ List.mem_cons_of_mem _ hn) hres

theorem Settled.finish (h : w.Settled l r) (he : w.Ends l o entry) :
    (w.finish l o entry he).Settled l r := by
  refine finish_induction he h fun w w' name h hs => ?_
  exact h.step hs

/-- **A whole walk stays within a closed set.** -/
theorem Within.finish {s : Set String} (h : w.Within l r s) (hw : w.Settled l r)
    (hc : IsClosed l o r direct s) (he : w.Ends l o entry) :
    (w.finish l o entry he).Within l r s := by
  refine (finish_induction (P := fun w => w.Settled l r ∧ w.Within l r s) he ⟨hw, h⟩ ?_).2
  rintro w w' name ⟨hw, h⟩ hs
  exact ⟨hw.step hs, h.step hw hc hs⟩

/-- Visited names were resolvable. -/
theorem Settled.resolvable {taken : List String} (h : w.Settled l r)
    (ha : Accounts o entry direct taken w) {n : String} (hn : n ∈ w.visited) :
    ∃ m, w.resolver.store.get? n = some m ∧ r.module? l n = some m := by
  obtain ⟨m, hm⟩ := ha.stored hn
  refine ⟨m, hm, ?_⟩
  rw [← h.sees.module? n]
  exact Resolver.module?_of_stored hm

/-- The names taken in an ended walk: those the entry requires, and those that follow
each visited name. -/
theorem Settled.perm_of_ended {taken : List String} (h : w.Settled l r)
    (ha : Accounts o entry direct taken w) (hp : w.pending = []) :
    taken.Perm (direct ++ w.visited.flatMap (successors l o r)) := by
  have hfollows : w.visited.flatMap (follows o w.resolver.store) =
      w.visited.flatMap (successors l o r) := by
    refine List.flatMap_congr fun n hn => ?_
    obtain ⟨m, hm, hview⟩ := h.resolvable ha hn
    rw [follows_of_get? hm, successors_of_module? hview]
  rw [← hfollows]
  exact ha.perm_of_ended hp

/-- **An ended walk has visited all that is reachable.** -/
theorem Settled.isClosed_of_ended {taken : List String} (h : w.Settled l r)
    (ha : Accounts o entry direct taken w) (hp : w.pending = []) :
    IsClosed l o r direct {n | n ∈ w.visited} := by
  have hperm := h.perm_of_ended ha hp
  have hvisited : ∀ n ∈ taken, r.Resolvable l n → n ∈ w.visited := by
    intro n hn hres
    rcases ha.visited_or_reported hn with hv | hu
    · exact hv
    · obtain ⟨u, hmem, rfl⟩ := List.mem_map.1 hu
      exact absurd hres (h.unresolved u hmem)
  refine ⟨fun n hn => hvisited n ?_, fun m hm n hn => hvisited n ?_⟩
  · exact hperm.mem_iff.2 (List.mem_append_left _ hn)
  · exact hperm.mem_iff.2 (List.mem_append_right _ (List.mem_flatMap.2 ⟨m, hm, hn⟩))

end Walk

/-- The walk of an entry begins settled. -/
theorem settled_start (hl : l.SteadyAfter r.requests) (contents : List Char) :
    (start o entry contents (r.ask l ⟨entry⟩).2).Settled l r := by
  have hsees : Resolver.Sees l (r.module? l) r := ⟨hl, fun _ => rfl⟩
  exact ⟨sees_start hsees contents, by simp [start]⟩

/-- **A name with a text that the entry or a bundled module asks for is in the bundle** and is
not reported. -/
theorem mem_modules_of_asked (hl : l.SteadyAfter r.requests) {h : Ends l o entry r} {b : Bundle}
    {r' : Resolver} (hb : ofEntry l o entry r h = (.ok b, r')) {raw : List Char}
    (hraw : l.load r.requests ⟨entry⟩ = .ok raw) {name : String}
    (hasked : name ∈ Lua.imports (o.prelude.apply entry raw) ∨
      ∃ m ∈ b.modules, name ∈ successors l o r m)
    {path : Path} {source : List Char} (hp : Module.path? name = some path)
    (hload : l.load r.requests path = .ok source) :
    name ∈ b.modules ∧ name ∉ b.unresolved.map Unresolved.name ∧
      r'.store.get? name = some ((r.store.get? name).getD (.ofSource name source)) := by
  obtain ⟨raw', hraw', rfl, rfl⟩ := exists_of_ofEntry_eq_ok hb
  obtain rfl := Except.ok.inj (hraw.symm.trans hraw')
  set contents := o.prelude.apply entry raw
  set first := start o entry contents (r.ask l ⟨entry⟩).2
  have he : first.Ends l o entry := h raw hraw
  have hw : (first.finish l o entry he).Settled l r := (settled_start hl contents).finish he
  obtain ⟨taken, ha⟩ := Walk.accounts_finish he (accounts_start contents)
  have hclosed := hw.isClosed_of_ended ha (Walk.pending_finish he)
  have hres : r.Resolvable l name := .inr ⟨path, source, hp, hload⟩
  have hvisited : name ∈ (first.finish l o entry he).visited := by
    rcases hasked with hdirect | ⟨m, hm, hname⟩
    · exact hclosed.direct name hdirect hres
    · exact hclosed.successors m (List.mem_reverse.1 hm) name hname hres
  refine ⟨List.mem_reverse.2 hvisited, fun hmem => ?_, ?_⟩
  · obtain ⟨u, hu, rfl⟩ := List.mem_map.1 hmem
    exact hw.unresolved u (List.mem_reverse.1 hu) hres
  · obtain ⟨module, hstored, hview⟩ := hw.resolvable ha hvisited
    rw [hstored, ← hview]
    cases hs : r.store.get? name with
    | some old => exact Resolver.module?_of_stored hs
    | none => exact Resolver.module?_of_loaded hs hp hload

end Bundle
end LuaBundler
