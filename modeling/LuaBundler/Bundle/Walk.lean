/-
# The walk over an entry's imports

The walk visits the modules an entry needs.  It keeps a stack of names still to be
looked at.  A name taken from the stack that was visited before is dropped.
Otherwise it is resolved: if that fails the name is noted as unresolved, and if it
succeeds the module is visited, its registration is set above the ones so far and
the names it requires go onto the stack, followed by the extra modules if it is the
extension point.  The walk ends when the stack is empty.

A name that cannot be resolved is not marked as visited, so it is noted once for
each time it is met.

`finish` runs a walk to its end.  It takes a proof that the walk ends, `Ends`, so
that it is a total function for every loader of which that is known.
-/

import LuaBundler.Bundle.Options

namespace LuaBundler
namespace Bundle

/-- The state of a walk.  All lists but `pending`, whose head comes next, have the
latest item first. -/
structure Walk where
  pending : List String
  visited : List String := []
  blocks : List (List Char) := []
  unresolved : List Unresolved := []
  resolver : Resolver

namespace Walk

variable (l : Loader) (o : Options) (entry : String)

/-- The walk after `name` was taken from the stack, leaving `rest`, and resolved. -/
def visit (w : Walk) (name : String) (rest : List String) : Walk :=
  match (w.resolver.note (.visiting name)).resolve l name with
  | (none, r) =>
    let u : Unresolved := ⟨name, entry⟩
    { w with
      pending := rest
      unresolved := u :: w.unresolved
      resolver := r.note (.unresolved u) }
  | (some m, r) =>
    { w with
      pending := (m.dependencies ++ o.extrasOf name).reverse ++ rest
      visited := name :: w.visited
      blocks := m.wrapped :: w.blocks
      resolver := (o.eventsAt name).foldl Resolver.note r }

/-- The walk after one more name, or `none` if no name is left. -/
def step? (w : Walk) : Option Walk :=
  match w.pending with
  | [] => none
  | name :: rest =>
    some (if name ∈ w.visited then { w with pending := rest } else w.visit l o entry name rest)

/-- What a step of a walk can be: the name taken from the stack and the walk after it. -/
inductive Step (w : Walk) : String → Walk → Prop
  /-- The name was visited before. -/
  | known {name : String} {rest : List String} (hp : w.pending = name :: rest)
      (hv : name ∈ w.visited) : Step w name { w with pending := rest }
  /-- The name cannot be resolved. -/
  | missing {name : String} {rest : List String} {r : Resolver} (hp : w.pending = name :: rest)
      (hv : name ∉ w.visited)
      (hr : (w.resolver.note (.visiting name)).resolve l name = (none, r)) :
      Step w name { w with
        pending := rest
        unresolved := ⟨name, entry⟩ :: w.unresolved
        resolver := r.note (.unresolved ⟨name, entry⟩) }
  /-- The module is visited. -/
  | found {name : String} {rest : List String} {m : Module} {r : Resolver}
      (hp : w.pending = name :: rest) (hv : name ∉ w.visited)
      (hr : (w.resolver.note (.visiting name)).resolve l name = (some m, r)) :
      Step w name {
        pending := (m.dependencies ++ o.extrasOf name).reverse ++ rest
        visited := name :: w.visited
        blocks := m.wrapped :: w.blocks
        unresolved := w.unresolved
        resolver := (o.eventsAt name).foldl Resolver.note r }

/-- `w'` is the walk one step after `w`. -/
def Next (w' w : Walk) : Prop := w.step? l o entry = some w'

/-- The walk from `w` comes to an end. -/
def Ends (w : Walk) : Prop := Acc (Next l o entry) w

/-- The walk at its end. -/
def finish (w : Walk) (h : w.Ends l o entry) : Walk :=
  match hs : w.step? l o entry with
  | none => w
  | some w' => w'.finish (Acc.inv h hs)
termination_by (⟨w, h⟩ : { w // Acc (Next l o entry) w })
decreasing_by exact hs

variable {l o entry}

/-- The function `step?` makes the steps of the relation `Step` and no others. -/
theorem step?_eq_some_iff {w w' : Walk} :
    w.step? l o entry = some w' ↔ ∃ name, Step l o entry w name w' := by
  constructor
  · intro h
    unfold step? at h
    split at h
    · cases h
    next name rest hp =>
    rw [Option.some.injEq] at h
    split at h
    · next hv => exact ⟨name, h ▸ .known hp hv⟩
    next hv =>
    unfold visit at h
    split at h
    · next r hr => exact ⟨name, h ▸ .missing hp hv hr⟩
    · next m r hr => exact ⟨name, h ▸ .found hp hv hr⟩
  · rintro ⟨name, h⟩
    cases h with
    | known hp hv => simp [step?, hp, hv]
    | missing hp hv hr => simp [step?, visit, hp, hv, hr]
    | found hp hv hr => simp [step?, visit, hp, hv, hr]

/-- A walk makes no step exactly when no name is left. -/
theorem step?_eq_none_iff {w : Walk} : w.step? l o entry = none ↔ w.pending = [] := by
  unfold step?
  split <;> simp [*]

/-- A walk ends if it does after its next step. -/
theorem ends_of_some {w w' : Walk} (hs : w.step? l o entry = some w')
    (h : w'.Ends l o entry) : w.Ends l o entry := by
  refine Acc.intro w fun w'' hs'' => ?_
  have he : w' = w'' := Option.some.inj (hs.symm.trans hs'')
  exact he ▸ h

/-- A walk with no name left is at its end. -/
theorem ends_of_pending_eq_nil {w : Walk} (hp : w.pending = []) : w.Ends l o entry := by
  refine Acc.intro w fun w' hs => ?_
  rw [Next, step?_eq_none_iff.2 hp] at hs
  cases hs

/-- A walk that makes no step is at its end. -/
theorem finish_of_none {w : Walk} (h : w.Ends l o entry) (hs : w.step? l o entry = none) :
    w.finish l o entry h = w := by
  rw [finish]
  split
  · rfl
  · next w' hs' =>
    rw [hs] at hs'
    cases hs'

/-- A walk ends where it ends after its next step. -/
theorem finish_of_some {w w' : Walk} (h : w.Ends l o entry)
    (hs : w.step? l o entry = some w') :
    w.finish l o entry h = w'.finish l o entry (Acc.inv h hs) := by
  rw [finish]
  split
  · next hs' =>
    rw [hs] at hs'
    cases hs'
  · next w'' hs' =>
    have he : w'' = w' := by
      rw [hs] at hs'
      exact (Option.some.inj hs').symm
    subst he
    rfl

/-- At its end a walk has no name left to look at. -/
theorem pending_finish {w : Walk} (h : w.Ends l o entry) :
    (w.finish l o entry h).pending = [] := by
  fun_induction finish l o entry w h with
  | case1 w h hs => exact step?_eq_none_iff.1 hs
  | case2 w h w' hs ih => exact ih

/-- What holds at the start and is kept by each step holds at the end. -/
theorem finish_induction {P : Walk → Prop} {w : Walk} (h : w.Ends l o entry) (start : P w)
    (step : ∀ w w' name, P w → Step l o entry w name w' → P w') :
    P (w.finish l o entry h) := by
  fun_induction finish l o entry w h with
  | case1 w h hs => exact start
  | case2 w h w' hs ih =>
    obtain ⟨name, hstep⟩ := step?_eq_some_iff.1 hs
    exact ih (step w w' name start hstep)

end Walk
end Bundle
end LuaBundler
