/-
# A shared store does not show

With a loader that is a function of the path, a store that was filled by resolving and
bundling alone (`FilledBy`) holds nothing but what the loader would give again.  So a
bundle made with it is the bundle made with an empty store, and so is the error
(`ofEntry_eq_ofEntry_empty`).

The two walks take different ways at each name, one reading the store and the other
asking the loader, but they agree in all that ends up in the bundle
(`Walk.Alike.step`): both see the same modules.
-/

import LuaBundler.Proofs.Walk

namespace LuaBundler
namespace Bundle

/-- A store that was empty at first and then filled by resolving modules and bundling
entries, in any order and with success or not. -/
inductive FilledBy (l : Loader) : Store → Prop
  | empty : FilledBy l .empty
  | resolve {r : Resolver} (name : String) (h : FilledBy l r.store) :
      FilledBy l (r.resolve l name).2.store
  | bundle {r : Resolver} {o : Options} {entry : String} (he : Ends l o entry r)
      (h : FilledBy l r.store) : FilledBy l (ofEntry l o entry r he).2.store

/-- Entries bundled one after the other, each with the store that the ones before it
have left: the results, in the order of the entries. -/
inductive Batch (l : Loader) :
    Store → List (String × Options) → List (Except EntryError Bundle) → Prop
  | nil {s : Store} : Batch l s [] []
  | cons {r : Resolver} {entry : String} {o : Options} {jobs : List (String × Options)}
      {results : List (Except EntryError Bundle)} (he : Ends l o entry r)
      (h : Batch l (ofEntry l o entry r he).2.store jobs results) :
      Batch l r.store ((entry, o) :: jobs) ((ofEntry l o entry r he).1 :: results)

namespace Walk

variable {l : Loader} {o : Options} {entry name : String} {view : String → Option Module}
  {v v' w w' : Walk}

/-- Two walks that differ in their stores only, but see the same modules. -/
structure Alike (l : Loader) (view : String → Option Module) (v w : Walk) : Prop where
  pending : v.pending = w.pending
  visited : v.visited = w.visited
  blocks : v.blocks = w.blocks
  unresolved : v.unresolved = w.unresolved
  left : Resolver.Sees l view v.resolver
  right : Resolver.Sees l view w.resolver

theorem Alike.symm (h : Alike l view v w) : Alike l view w v :=
  ⟨h.pending.symm, h.visited.symm, h.blocks.symm, h.unresolved.symm, h.right, h.left⟩

/-- **Walks that are alike step alike.** -/
theorem Alike.step (h : Alike l view v w) (hs : Step l o entry v name v') :
    ∃ w', Step l o entry w name w' ∧ Alike l view v' w' := by
  have hleft := hs.sees h.left
  obtain ⟨a, r, hr⟩ : ∃ a r, (w.resolver.note (.visiting name)).resolve l name = (a, r) :=
    ⟨_, _, rfl⟩
  have ha : a = view name := (sees_resolve h.right hr).1
  cases hs with
  | @known rest hp hv =>
    refine ⟨_, .known (h.pending ▸ hp) (h.visited ▸ hv), ?_⟩
    exact ⟨rfl, h.visited, h.blocks, h.unresolved, h.left, h.right⟩
  | @missing rest r' hp hv hr' =>
    have hnone : a = none := ha.trans (sees_resolve h.left hr').1.symm
    subst hnone
    have hstep : Step l o entry w name _ := .missing (h.pending ▸ hp) (h.visited ▸ hv) hr
    refine ⟨_, hstep, rfl, h.visited, h.blocks, ?_, hleft, hstep.sees h.right⟩
    rw [h.unresolved]
  | @found rest m r' hp hv hr' =>
    have hsome : a = some m := ha.trans (sees_resolve h.left hr').1.symm
    subst hsome
    have hstep : Step l o entry w name _ := .found (h.pending ▸ hp) (h.visited ▸ hv) hr
    refine ⟨_, hstep, rfl, ?_, ?_, h.unresolved, hleft, hstep.sees h.right⟩
    · rw [h.visited]
    · rw [h.blocks]

/-- Of two walks that are alike one ends if the other does. -/
theorem Alike.ends (h : Alike l view v w) (he : v.Ends l o entry) : w.Ends l o entry := by
  induction he generalizing w with
  | intro v _ ih =>
    refine Acc.intro w fun w' hw' => ?_
    obtain ⟨name, hs⟩ := step?_eq_some_iff.1 hw'
    obtain ⟨v', hv', halike⟩ := h.symm.step hs
    exact ih v' (step?_eq_some_iff.2 ⟨name, hv'⟩) halike.symm

/-- **Walks that are alike end alike.** -/
theorem Alike.finish (h : Alike l view v w) (hv : v.Ends l o entry) (hw : w.Ends l o entry) :
    Alike l view (v.finish l o entry hv) (w.finish l o entry hw) := by
  fun_induction Walk.finish l o entry v hv generalizing w with
  | case1 v hv hs =>
    have hp : w.pending = [] := by
      rw [← h.pending]
      exact step?_eq_none_iff.1 hs
    rw [finish_of_none hw (step?_eq_none_iff.2 hp)]
    exact h
  | case2 v hv v' hs ih =>
    obtain ⟨name, hstep⟩ := step?_eq_some_iff.1 hs
    obtain ⟨w', hw', halike⟩ := h.step hstep
    have hsome : w.step? l o entry = some w' := step?_eq_some_iff.2 ⟨name, hw'⟩
    rw [finish_of_some hw hsome]
    exact ih halike (Acc.inv hw hsome)

end Walk

variable {l : Loader} {o : Options} {entry : String} {view : String → Option Module}
  {r r₀ : Resolver} {f : Path → Except LoadError (List Char)}

/-- Bundling with a steady loader changes nothing of what the names stand for. -/
theorem sees_ofEntry (h : Resolver.Sees l view r) (he : Ends l o entry r) :
    Resolver.Sees l view (ofEntry l o entry r he).2 := by
  cases hl : l.load r.requests ⟨entry⟩ with
  | error error =>
    rw [ofEntry_of_error he hl]
    exact h.ask ⟨entry⟩
  | ok raw =>
    rw [ofEntry_of_ok he hl]
    exact Walk.sees_finish (sees_start h _) _

/-- **A filled store holds what the loader would give again.** -/
theorem FilledBy.sees {s : Store} (hs : FilledBy (.ofFun f) s) (h : r.store = s)
    (h₀ : r₀.store = .empty) :
    Resolver.Sees (.ofFun f) (r₀.module? (.ofFun f)) r := by
  induction hs generalizing r with
  | empty =>
    have hsees : Resolver.Sees (.ofFun f) (r₀.module? (.ofFun f)) r₀ :=
      ⟨Loader.steadyAfter_ofFun f _, fun n => rfl⟩
    exact hsees.of_store_eq (h.trans h₀.symm)
  | resolve name hs ih =>
    have hsees := ((ih rfl).resolve (Resolver.resolution (.ofFun f) name _)).2
    exact hsees.of_store_eq h
  | bundle he hs ih => exact (sees_ofEntry (ih rfl) he).of_store_eq h

/-- Walks of the same entry begin alike if the same modules are seen. -/
theorem alike_start (h : Resolver.Sees l view r) (h₀ : Resolver.Sees l view r₀)
    (contents : List Char) :
    Walk.Alike l view (start o entry contents (r.ask l ⟨entry⟩).2)
      (start o entry contents (r₀.ask l ⟨entry⟩).2) :=
  ⟨rfl, rfl, rfl, rfl, sees_start h contents, sees_start h₀ contents⟩

/-- Whether bundling comes to an end depends on the modules that are seen only. -/
theorem ends_of_sees (h : Resolver.Sees (.ofFun f) view r)
    (h₀ : Resolver.Sees (.ofFun f) view r₀) (he : Ends (.ofFun f) o entry r) :
    Ends (.ofFun f) o entry r₀ :=
  fun raw hraw => (alike_start h h₀ _).ends (he raw hraw)

/-- **What bundling gives depends on the modules that are seen only.** -/
theorem ofEntry_fst_of_sees (h : Resolver.Sees (.ofFun f) view r)
    (h₀ : Resolver.Sees (.ofFun f) view r₀) (he : Ends (.ofFun f) o entry r)
    (he₀ : Ends (.ofFun f) o entry r₀) :
    (ofEntry (.ofFun f) o entry r he).1 = (ofEntry (.ofFun f) o entry r₀ he₀).1 := by
  cases hl : f ⟨entry⟩ with
  | error error => rw [ofEntry_of_error he hl, ofEntry_of_error he₀ hl]
  | ok raw =>
    rw [ofEntry_of_ok he hl, ofEntry_of_ok he₀ hl]
    have halike := (alike_start h h₀ (o.prelude.apply entry raw)).finish (he raw hl) (he₀ raw hl)
    simp only [ofWalk, halike.visited, halike.blocks, halike.unresolved]

/-- A batch gives for each entry what bundling it with an empty store gives. -/
theorem batch_iff_eq_pmap {s : Store} {jobs : List (String × Options)}
    {results : List (Except EntryError Bundle)} (hs : FilledBy (.ofFun f) s)
    (h₀ : r₀.store = .empty) :
    Batch (.ofFun f) s jobs results ↔ ∃ h : ∀ job ∈ jobs, Ends (.ofFun f) job.2 job.1 r₀,
      results = jobs.pmap (fun job he => (ofEntry (.ofFun f) job.2 job.1 r₀ he).1) h := by
  have hsees₀ : Resolver.Sees (.ofFun f) (r₀.module? (.ofFun f)) r₀ :=
    FilledBy.empty.sees h₀ h₀
  constructor
  · intro hb
    induction hb with
    | nil => exact ⟨by simp, rfl⟩
    | @cons r entry o jobs results he hrest ih =>
      obtain ⟨h, hresults⟩ := ih (.bundle he hs)
      have hsees := hs.sees rfl h₀
      have he₀ := ends_of_sees hsees hsees₀ he
      refine ⟨List.forall_mem_cons.2 ⟨he₀, h⟩, ?_⟩
      rw [List.pmap_cons, ← hresults, ofEntry_fst_of_sees hsees hsees₀ he he₀]
  · rintro ⟨h, rfl⟩
    induction jobs generalizing s with
    | nil => exact .nil
    | cons job jobs ih =>
      obtain ⟨entry, o⟩ := job
      let r : Resolver := { store := s }
      have hsees : Resolver.Sees (.ofFun f) (r₀.module? (.ofFun f)) r := hs.sees rfl h₀
      have he₀ := h (entry, o) List.mem_cons_self
      have he : Ends (.ofFun f) o entry r := ends_of_sees hsees₀ hsees he₀
      have hrest := ih (.bundle he hs) fun job hjob => h job (List.mem_cons_of_mem _ hjob)
      rw [List.pmap_cons, ← ofEntry_fst_of_sees hsees hsees₀ he he₀]
      exact .cons (r := r) he hrest

/-- Pairing a list with what a function gives for its members. -/
theorem zip_pmap {α β : Type} {p : α → Prop} (g : ∀ a, p a → β) :
    ∀ (as : List α) (h : ∀ a ∈ as, p a),
      as.zip (as.pmap g h) = as.pmap (fun a ha => (a, g a ha)) h
  | [], _ => rfl
  | a :: as, h => by
    rw [List.pmap_cons, List.pmap_cons, List.zip_cons_cons,
      zip_pmap g as fun b hb => h b (List.mem_cons_of_mem _ hb)]

/-- **A shared store does not show in a bundle.**  The loader is a function of the path,
and the store was filled by resolving and bundling alone.  Then bundling an entry comes
to an end if and only if it does so with an empty store, and gives the same bundle or the
same error.  Entries bundled one after the other, in whatever order, therefore give each
the same bundle. -/
theorem ofEntry_eq_ofEntry_empty (f : Path → Except LoadError (List Char)) {s : Store}
    (hs : FilledBy (.ofFun f) s) :
    (∀ (o : Options) (entry : String) (r r₀ : Resolver), r.store = s → r₀.store = .empty →
      (Ends (.ofFun f) o entry r ↔ Ends (.ofFun f) o entry r₀) ∧
        ∀ h h₀, (ofEntry (.ofFun f) o entry r h).1 = (ofEntry (.ofFun f) o entry r₀ h₀).1) ∧
    ∀ (jobs jobs' : List (String × Options)) (results : List (Except EntryError Bundle)),
      jobs.Perm jobs' → Batch (.ofFun f) s jobs results →
        ∃ results', (∀ other, Batch (.ofFun f) s jobs' other ↔ other = results') ∧
          (jobs.zip results).Perm (jobs'.zip results') := by
  refine ⟨fun o entry r r₀ h h₀ => ?_, fun jobs jobs' results hperm hb => ?_⟩
  · have hsees := hs.sees h h₀
    have hsees₀ : Resolver.Sees (.ofFun f) (r₀.module? (.ofFun f)) r₀ :=
      FilledBy.empty.sees h₀ h₀
    exact ⟨⟨ends_of_sees hsees hsees₀, ends_of_sees hsees₀ hsees⟩,
      ofEntry_fst_of_sees hsees hsees₀⟩
  · let r₀ : Resolver := { store := .empty }
    obtain ⟨he, rfl⟩ := (batch_iff_eq_pmap hs (show r₀.store = .empty from rfl)).1 hb
    have he' : ∀ job ∈ jobs', Ends (.ofFun f) job.2 job.1 r₀ := fun job hjob =>
      he job (hperm.mem_iff.2 hjob)
    refine ⟨jobs'.pmap (fun job he => (ofEntry (.ofFun f) job.2 job.1 r₀ he).1) he', ?_, ?_⟩
    · intro other
      rw [batch_iff_eq_pmap hs (show r₀.store = .empty from rfl)]
      exact ⟨fun ⟨_, h⟩ => h, fun h => ⟨he', h⟩⟩
    · rw [zip_pmap, zip_pmap]
      exact hperm.pmap _

/-- After a name was tried in vain and another entry bundled, the module that both entries
require is stored, and the bundle is still the one made with an empty store. -/
theorem ofEntry_fst_of_shared_module :
    let l := Loader.ofFiles [(⟨"main.lua"⟩, "require 'x' require 'gone'".toList),
      (⟨"other.lua"⟩, "require 'x'".toList), (⟨"x.lua"⟩, [])]
    let r₀ : Resolver := { store := .empty }
    ∃ r : Resolver, r.store.names = ["x"] ∧ ∃ h h₀,
      (ofEntry l {} "main.lua" r h).1 = (ofEntry l {} "main.lua" r₀ h₀).1 := by
  intro l r₀
  have hends : ∀ entry r, Ends l {} entry r := fun entry r =>
    ends_of_finite {} entry (Loader.finite_ofFiles _) r
  let r := (ofEntry l {} "other.lua" (r₀.resolve l "gone").2 (hends _ _)).2
  have hs : FilledBy l r.store := .bundle _ (.resolve "gone" .empty)
  refine ⟨r, ?_, hends _ _, hends _ _, ?_⟩
  · have hl : l.load (r₀.resolve l "gone").2.requests ⟨"other.lua"⟩ = .ok "require 'x'".toList :=
      rfl
    have hother := ofEntry_eq_after (hends "other.lua" _) hl 2 (by decide +kernel)
    rw [show r = _ from congrArg Prod.snd hother]
    decide +kernel
  · exact ((ofEntry_eq_ofEntry_empty (l.load []) hs).1 {} "main.lua" r r₀ rfl rfl).2 _ _

end Bundle
end LuaBundler
