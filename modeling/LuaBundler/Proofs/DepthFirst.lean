/-
# The walk is a depth-first traversal

A traversal goes through a list of names from the last to the first.  A name that has
been visited is passed over, one that cannot be resolved is reported, and any other is
marked and then everything it requires is gone through in the same way, before the
names that stand ahead of it in the list.  There is no stack.  A traversal need not come
to an end, so `Visits` is a relation, which holds between what had been done before and
what has been done after a traversal that ends; the latter is unique (`Visits.unique`).

The walk of a bundle does the same (`ofEntry_eq_tour`): it ends if and only if the
traversal of the imports of the entry does, and then both have visited the same modules
and reported the same names in the same order, have asked the loader for the same paths
in the same order, and leave the same store.  The loader may change its answers as it
likes.
-/

import LuaBundler.Proofs.Walk

namespace LuaBundler
namespace Bundle

/-- What a traversal has done so far, in order. -/
structure Tour where
  order : List String := []
  reports : List Unresolved := []
  resolver : Resolver

/-- The names of a list are visited, from the last to the first, and what they require:
what had been done before, and what has been done when this has come to an end. -/
inductive Visits (l : Loader) (o : Options) (entry : String) : List String → Tour → Tour → Prop
  /-- There are no names. -/
  | nil {t : Tour} : Visits l o entry [] t t
  /-- The first name has been visited. -/
  | known {name : String} {later : List String} {t t' : Tour}
      (hlater : Visits l o entry later t t') (hv : name ∈ t'.order) :
      Visits l o entry (name :: later) t t'
  /-- The first name cannot be resolved, and is reported. -/
  | missing {name : String} {later : List String} {t t' : Tour} {r : Resolver}
      (hlater : Visits l o entry later t t') (hv : name ∉ t'.order)
      (hr : t'.resolver.resolve l name = (none, r)) :
      Visits l o entry (name :: later) t
        { t' with reports := t'.reports ++ [⟨name, entry⟩], resolver := r }
  /-- The first name is marked, and what it requires is visited. -/
  | found {name : String} {later : List String} {t t' t'' : Tour} {m : Module} {r : Resolver}
      (hlater : Visits l o entry later t t') (hv : name ∉ t'.order)
      (hr : t'.resolver.resolve l name = (some m, r))
      (hnext : Visits l o entry (m.dependencies ++ o.extrasOf name)
        { t' with order := t'.order ++ [name], resolver := r } t'') :
      Visits l o entry (name :: later) t t''

variable {l : Loader} {o : Options} {entry name : String} {names later : List String}
  {t t' t'' : Tour}

/-- **A traversal has one outcome.** -/
theorem Visits.unique (h : Visits l o entry names t t') (h' : Visits l o entry names t t'') :
    t' = t'' := by
  induction h generalizing t'' with
  | nil =>
    cases h'
    rfl
  | known hlater hv ih =>
    cases h' with
    | known hlater' => exact ih hlater'
    | missing hlater' hv' => exact absurd (ih hlater' ▸ hv) hv'
    | found hlater' hv' => exact absurd (ih hlater' ▸ hv) hv'
  | missing hlater hv hr ih =>
    cases h' with
    | known hlater' hv' => exact absurd (ih hlater' ▸ hv') hv
    | missing hlater' hv' hr' =>
      cases ih hlater'
      rw [hr] at hr'
      cases hr'
      rfl
    | found hlater' hv' hr' =>
      cases ih hlater'
      rw [hr] at hr'
      cases hr'
  | found hlater hv hr hnext ih ihnext =>
    cases h' with
    | known hlater' hv' => exact absurd (ih hlater' ▸ hv') hv
    | missing hlater' hv' hr' =>
      cases ih hlater'
      rw [hr] at hr'
      cases hr'
    | found hlater' hv' hr' hnext' =>
      cases ih hlater'
      rw [hr] at hr'
      cases hr'
      exact ihnext hnext'

/-- Of a longer list the last part is visited first. -/
theorem Visits.append (h : Visits l o entry names t' t'') (hlater : Visits l o entry later t t') :
    Visits l o entry (names ++ later) t t'' := by
  induction h with
  | nil => exact hlater
  | known _ hv ih => exact .known (ih hlater) hv
  | missing _ hv hr ih => exact .missing (ih hlater) hv hr
  | found _ hv hr hnext ih => exact .found (ih hlater) hv hr hnext

/-- The parts of a list that has been visited have been visited. -/
theorem Visits.exists_of_append (h : Visits l o entry (names ++ later) t t'') :
    ∃ t', Visits l o entry later t t' ∧ Visits l o entry names t' t'' := by
  induction names generalizing t'' with
  | nil => exact ⟨t'', h, .nil⟩
  | cons name names ih =>
    cases h with
    | known h hv =>
      obtain ⟨t', hlater, hnames⟩ := ih h
      exact ⟨t', hlater, .known hnames hv⟩
    | missing h hv hr =>
      obtain ⟨t', hlater, hnames⟩ := ih h
      exact ⟨t', hlater, .missing hnames hv hr⟩
    | found h hv hr hnext =>
      obtain ⟨t', hlater, hnames⟩ := ih h
      exact ⟨t', hlater, .found hnames hv hr hnext⟩

/-- A walk has come as far as a traversal: it has visited and reported the same, and
leaves the same store after the same requests. -/
structure Agrees (w : Walk) (t : Tour) : Prop where
  order : w.visited.reverse = t.order
  reports : w.unresolved.reverse = t.reports
  store : w.resolver.store = t.resolver.store
  requests : w.resolver.requests = t.resolver.requests

theorem Agrees.mem_iff {w : Walk} (h : Agrees w t) : name ∈ w.visited ↔ name ∈ t.order := by
  rw [← h.order, List.mem_reverse]

/-- Reporting a name in the walk is reporting it in the traversal. -/
theorem Agrees.missing {w : Walk} {r r' : Resolver} (h : Agrees w t) (rest : List String)
    (hstore : r.store = r'.store) (hrequests : r.requests = r'.requests) :
    Agrees { w with
        pending := rest
        unresolved := ⟨name, entry⟩ :: w.unresolved
        resolver := r.note (.unresolved ⟨name, entry⟩) }
      { t with reports := t.reports ++ [⟨name, entry⟩], resolver := r' } := by
  refine ⟨h.order, ?_, hstore, hrequests⟩
  rw [List.reverse_cons, h.reports]

/-- Visiting a module in the walk is marking it in the traversal. -/
theorem Agrees.found {w : Walk} {r r' : Resolver} (h : Agrees w t) (pending : List String)
    (block : List Char) (hstore : r.store = r'.store) (hrequests : r.requests = r'.requests) :
    Agrees {
        pending := pending
        visited := name :: w.visited
        blocks := block :: w.blocks
        unresolved := w.unresolved
        resolver := (o.eventsAt name).foldl Resolver.note r }
      { t with order := t.order ++ [name], resolver := r' } := by
  refine ⟨?_, h.reports, ?_, ?_⟩
  · rw [List.reverse_cons, h.order]
  · rw [Resolver.foldl_note_store, hstore]
  · rw [Resolver.foldl_note_requests, hrequests]

/-- **A step of the walk is a name of the traversal.**  What the step leaves on the stack
is, read from the bottom, what the traversal still has to visit. -/
theorem Agrees.step {w w' : Walk} (h : Agrees w t) (hs : w.Step l o entry name w') :
    ∃ t₁, Agrees w' t₁ ∧ ∀ t', Visits l o entry w'.pending.reverse t₁ t' →
      Visits l o entry w.pending.reverse t t' := by
  cases hs with
  | @known rest hp hv =>
    refine ⟨t, ⟨h.order, h.reports, h.store, h.requests⟩, fun t' hvisits => ?_⟩
    rw [hp, List.reverse_cons]
    exact hvisits.append (.known .nil (h.mem_iff.1 hv))
  | @missing rest r hp hv hr =>
    obtain ⟨r', hr', hstore, hrequests⟩ := Resolver.resolve_congr hr h.store h.requests
    refine ⟨_, h.missing rest hstore hrequests, fun t' hvisits => ?_⟩
    rw [hp, List.reverse_cons]
    exact hvisits.append (.missing .nil (mt h.mem_iff.2 hv) hr')
  | @found rest m r hp hv hr =>
    obtain ⟨r', hr', hstore, hrequests⟩ := Resolver.resolve_congr hr h.store h.requests
    refine ⟨_, h.found _ _ hstore hrequests, fun t' hvisits => ?_⟩
    rw [List.reverse_append, List.reverse_reverse] at hvisits
    obtain ⟨t₂, hnext, hrest⟩ := hvisits.exists_of_append
    rw [hp, List.reverse_cons]
    exact hrest.append (.found .nil (mt h.mem_iff.2 hv) hr' hnext)

/-- **Where a walk ends the traversal does**, and both have come as far. -/
theorem Agrees.finish {w : Walk} (h : Agrees w t) (he : w.Ends l o entry) :
    ∃ t', Visits l o entry w.pending.reverse t t' ∧ Agrees (w.finish l o entry he) t' := by
  fun_induction Walk.finish l o entry w he generalizing t with
  | case1 w he hs =>
    rw [Walk.step?_eq_none_iff.1 hs]
    exact ⟨t, .nil, h⟩
  | case2 w he w' hs ih =>
    obtain ⟨name, hstep⟩ := Walk.step?_eq_some_iff.1 hs
    obtain ⟨t₁, h₁, hvisits⟩ := h.step hstep
    obtain ⟨t', ht', h'⟩ := ih h₁
    exact ⟨t', hvisits t' ht', h'⟩

/-- **Where a traversal ends the walk does.**  A walk with the names of an ended traversal
on top of its stack ends if it does once they are gone. -/
theorem Visits.ends (hvisits : Visits l o entry names t t') {rest : List String} {w : Walk}
    (hp : w.pending = names.reverse ++ rest) (h : Agrees w t)
    (hrest : ∀ w' : Walk, w'.pending = rest → Agrees w' t' → w'.Ends l o entry) :
    w.Ends l o entry := by
  -- what the later names leave behind has the first name on top of its stack
  have hlater : ∀ {name : String} {later rest : List String} {w : Walk},
      w.pending = (name :: later).reverse ++ rest → w.pending = later.reverse ++ name :: rest := by
    intro name later rest w hp
    rw [hp, List.reverse_cons, List.append_assoc, List.singleton_append]
  induction hvisits generalizing w rest with
  | nil => exact hrest w hp h
  | @known name _ _ _ _ hv ih =>
    refine ih (hlater hp) h fun w₁ hp₁ h₁ => ?_
    have hstep : w₁.Step l o entry name _ := .known hp₁ (h₁.mem_iff.2 hv)
    refine Walk.ends_of_some (Walk.step?_eq_some_iff.2 ⟨name, hstep⟩) ?_
    exact hrest _ rfl ⟨h₁.order, h₁.reports, h₁.store, h₁.requests⟩
  | @missing name _ _ _ _ _ hv hr ih =>
    refine ih (hlater hp) h fun w₁ hp₁ h₁ => ?_
    obtain ⟨r', hr', hstore, hrequests⟩ := Resolver.resolve_congr hr
      (a := w₁.resolver.note (.visiting name)) h₁.store.symm h₁.requests.symm
    have hstep : w₁.Step l o entry name _ := .missing hp₁ (mt h₁.mem_iff.1 hv) hr'
    refine Walk.ends_of_some (Walk.step?_eq_some_iff.2 ⟨name, hstep⟩) ?_
    exact hrest _ rfl (h₁.missing _ hstore.symm hrequests.symm)
  | @found name _ _ _ _ _ _ _ hv hr _ ih ihnext =>
    refine ih (hlater hp) h fun w₁ hp₁ h₁ => ?_
    obtain ⟨r', hr', hstore, hrequests⟩ := Resolver.resolve_congr hr
      (a := w₁.resolver.note (.visiting name)) h₁.store.symm h₁.requests.symm
    have hstep : w₁.Step l o entry name _ := .found hp₁ (mt h₁.mem_iff.1 hv) hr'
    refine Walk.ends_of_some (Walk.step?_eq_some_iff.2 ⟨name, hstep⟩) ?_
    exact ihnext rfl (h₁.found _ _ hstore.symm hrequests.symm) hrest

/-- **The walk of a bundle refines the traversal.**  Whatever the loader answers, the walk
over the imports of a loaded entry ends if and only if the traversal of them does.  Then
the modules of the bundle are in the order of the traversal, the reports are its reports,
the loader was asked for the same paths in the same order and the stores are the same.
The text of the bundle is the registrations of its modules, last visited first, and then
the entry. -/
theorem ofEntry_eq_tour {r : Resolver} {raw : List Char}
    (hl : l.load r.requests ⟨entry⟩ = .ok raw) :
    let contents := o.prelude.apply entry raw
    let first : Tour := { resolver := (r.ask l ⟨entry⟩).2 }
    (Ends l o entry r ↔ ∃ t, Visits l o entry (Lua.imports contents) first t) ∧
      ∀ h : Ends l o entry r, ∃ b r' t blocks,
        ofEntry l o entry r h = (.ok b, r') ∧
          (∀ t', Visits l o entry (Lua.imports contents) first t' ↔ t' = t) ∧
          b.modules = t.order ∧ b.unresolved = t.reports ∧
          r'.requests = t.resolver.requests ∧ r'.store = t.resolver.store ∧
          b.modules.reverse.map (fun n => (r'.store.get? n).map Module.wrapped) =
            blocks.map some ∧
          b.text = ['\n', '\n'].intercalate (blocks ++ [contents]) := by
  intro contents first
  have hfirst : Agrees (start o entry contents (r.ask l ⟨entry⟩).2) first :=
    ⟨rfl, rfl, Resolver.foldl_note_store _ _, Resolver.foldl_note_requests _ _⟩
  have htour : ∀ h : Ends l o entry r, ∃ t, Visits l o entry (Lua.imports contents) first t ∧
      Agrees ((start o entry contents (r.ask l ⟨entry⟩).2).finish l o entry (h raw hl)) t := by
    intro h
    obtain ⟨t, ht, hagrees⟩ := hfirst.finish (h raw hl)
    rw [start, List.reverse_reverse] at ht
    exact ⟨t, ht, hagrees⟩
  refine ⟨⟨fun h => ?_, ?_⟩, fun h => ?_⟩
  · obtain ⟨t, ht, -⟩ := htour h
    exact ⟨t, ht⟩
  · rintro ⟨t, ht⟩ raw' hraw'
    obtain rfl : raw = raw' := Except.ok.inj (hl.symm.trans hraw')
    refine ht.ends ?_ hfirst fun w hp _ => Walk.ends_of_pending_eq_nil hp
    rw [start, List.append_nil]
  · obtain ⟨t, ht, hagrees⟩ := htour h
    obtain ⟨taken, haccounts⟩ := Walk.accounts_finish (h raw hl) (accounts_start contents)
    refine ⟨_, _, t, _, ofEntry_of_ok h hl, fun t' => ⟨fun ht' => ht'.unique ht, ?_⟩,
      hagrees.order, hagrees.reports, hagrees.requests, hagrees.store, ?_, rfl⟩
    · rintro rfl
      exact ht
    · rw [← haccounts.blocks]
      simp only [ofWalk, List.reverse_reverse]

/-- Two modules that share a third: the later one is visited first, and what they share
comes right behind it. -/
theorem visits_of_shared_module :
    let l := Loader.ofFiles [(⟨"main.lua"⟩, "require 'x' require 'y'".toList),
      (⟨"x.lua"⟩, "require 'z'".toList), (⟨"y.lua"⟩, "require 'z' require 'gone'".toList),
      (⟨"z.lua"⟩, [])]
    let r : Resolver := { store := .empty, requests := [⟨"main.lua"⟩] }
    ∃ t, Visits l {} "main.lua" ["x", "y"] { resolver := r } t ∧
      t.order = ["y", "z", "x"] ∧ t.reports = [⟨"gone", "main.lua"⟩] ∧
      t.resolver.requests.reverse =
        [⟨"main.lua"⟩, ⟨"y.lua"⟩, ⟨"gone.lua"⟩, ⟨"z.lua"⟩, ⟨"x.lua"⟩] := by
  intro l r
  let r₀ : Resolver := { store := .empty }
  have h : Ends l {} "main.lua" r₀ := ends_of_finite {} "main.lua" (Loader.finite_ofFiles _) r₀
  have hl : l.load r₀.requests ⟨"main.lua"⟩ = .ok "require 'x' require 'y'".toList := rfl
  obtain ⟨b, r', t, -, hb, ht, horder, hreports, hrequests, -⟩ := (ofEntry_eq_tour hl).2 h
  have himports : Lua.imports "require 'x' require 'y'".toList = ["x", "y"] := by decide +kernel
  rw [ofEntry_eq_after h hl 7 (by decide +kernel)] at hb
  obtain ⟨rfl, rfl⟩ := hb
  refine ⟨t, ?_, ?_, ?_, ?_⟩
  · rw [← himports]
    exact (ht t).2 rfl
  · rw [← horder]
    decide +kernel
  · rw [← hreports]
    decide +kernel
  · rw [← hrequests]
    decide +kernel

end Bundle
end LuaBundler
