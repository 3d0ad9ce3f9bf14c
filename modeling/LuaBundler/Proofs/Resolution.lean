/-
# What a name stands for

`Resolver.module?` is the module a name stands for: the stored one, or else the one
made of the text that the loader gives at the path of the name.  Resolving a name
answers with it (`Resolution.answer_eq`).

A stored module never changes and is never dropped (`Resolution.get?_of_get?`), and
what resolving answers is stored afterwards (`Resolution.get?_answer`).

A loader may answer the same request differently later on.  It is steady after some
requests if from then on it answers every path as it would at once.  With a steady
loader a name stands for the same module before and after anything is resolved
(`Sees.resolve`): the store then only remembers what the loader would say again.
-/

import LuaBundler.Module.Resolver

namespace LuaBundler

/-- After the requests `past` the loader answers each path always in the same way. -/
def Loader.SteadyAfter (l : Loader) (past : List Path) : Prop :=
  ∀ earlier path, past <:+ earlier → l.load earlier path = l.load past path

/-- A loader that is a function of the path is steady. -/
theorem Loader.steadyAfter_ofFun (f : Path → Except LoadError (List Char)) (past : List Path) :
    (ofFun f).SteadyAfter past :=
  fun _ _ _ => rfl

/-- A steady loader stays so. -/
theorem Loader.SteadyAfter.cons {l : Loader} {past : List Path} (h : l.SteadyAfter past)
    (path : Path) : l.SteadyAfter (path :: past) := by
  intro earlier other hp
  have hpast : past <:+ path :: past := List.suffix_cons path past
  rw [h earlier other (hpast.trans hp), h (path :: past) other hpast]

namespace Resolver

/-- The module that `name` stands for: the stored one, or else the one made of the
text at its path. -/
def module? (l : Loader) (r : Resolver) (name : String) : Option Module :=
  match r.store.get? name with
  | some m => some m
  | none =>
    match Module.path? name with
    | none => none
    | some path =>
      match l.load r.requests path with
      | .ok source => some (.ofSource name source)
      | .error _ => none

variable {l : Loader} {name : String} {r r' : Resolver} {m? : Option Module}

theorem module?_of_stored {m : Module} (hs : r.store.get? name = some m) :
    r.module? l name = some m := by
  unfold module?
  rw [hs]

theorem module?_of_pathless (hs : r.store.get? name = none) (hp : Module.path? name = none) :
    r.module? l name = none := by
  unfold module?
  rw [hs, hp]

theorem module?_of_refused {path : Path} {error : LoadError} (hs : r.store.get? name = none)
    (hp : Module.path? name = some path) (hl : l.load r.requests path = .error error) :
    r.module? l name = none := by
  unfold module?
  rw [hs, hp]
  simp only [hl]

theorem module?_of_loaded {path : Path} {source : List Char} (hs : r.store.get? name = none)
    (hp : Module.path? name = some path) (hl : l.load r.requests path = .ok source) :
    r.module? l name = some (.ofSource name source) := by
  unfold module?
  rw [hs, hp]
  simp only [hl]

/-- Only the store and the requests decide what a name stands for. -/
theorem module?_congr (hs : r'.store = r.store) (hr : r'.requests = r.requests) (n : String) :
    r'.module? l n = r.module? l n := by
  unfold module?
  rw [hs, hr]

/-- **Resolving a name gives what it stands for.** -/
theorem Resolution.answer_eq (h : Resolution l name r m? r') : m? = r.module? l name := by
  cases h with
  | stored hs => exact (module?_of_stored hs).symm
  | pathless hs hp => exact (module?_of_pathless hs hp).symm
  | refused hs hp hl => exact (module?_of_refused hs hp hl).symm
  | loaded hs hp hl => exact (module?_of_loaded hs hp hl).symm

/-- Only the store and the requests matter to a resolution. -/
theorem resolve_congr {a : Resolver} (hres : r.resolve l name = (m?, r'))
    (hs : r.store = a.store) (hr : r.requests = a.requests) :
    ∃ a', a.resolve l name = (m?, a') ∧ r'.store = a'.store ∧ r'.requests = a'.requests := by
  unfold resolve ask at hres ⊢
  rw [hs, hr] at hres
  cases hget : a.store.get? name with
  | some m =>
    simp only [hget] at hres ⊢
    cases hres
    exact ⟨a, rfl, hs, hr⟩
  | none =>
    cases hp : Module.pathOrError name with
    | error e =>
      simp only [hget, hp] at hres ⊢
      cases hres
      exact ⟨_, rfl, hs, hr⟩
    | ok path =>
      cases hl : l.load a.requests path with
      | error e =>
        simp only [hget, hp, hl] at hres ⊢
        cases hres
        exact ⟨_, rfl, rfl, rfl⟩
      | ok source =>
        simp only [hget, hp, hl] at hres ⊢
        cases hres
        exact ⟨_, rfl, rfl, rfl⟩

/-- What was stored before a resolution is stored after it. -/
theorem Resolution.get?_of_get? (h : Resolution l name r m? r') {n : String} {m : Module}
    (hm : r.store.get? n = some m) : r'.store.get? n = some m := by
  cases h with
  | stored hs => exact hm
  | pathless hs hp => exact hm
  | refused hs hp hl => exact hm
  | loaded hs hp hl =>
    rw [note_store, Store.get?_insert_of_eq_none hs]
    split
    · next he =>
      rw [he, hs] at hm
      cases hm
    · exact hm

/-- The module that a resolution gives is stored after it. -/
theorem Resolution.get?_answer {m : Module} (h : Resolution l name r (some m) r') :
    r'.store.get? name = some m := by
  cases h with
  | stored hs => exact hs
  | loaded hs hp hl =>
    rw [note_store, Store.get?_insert_of_eq_none hs]
    simp

/-- A name that cannot be resolved leaves the store as it was. -/
theorem Resolution.store_eq_of_none (h : Resolution l name r none r') : r'.store = r.store := by
  cases h with
  | pathless hs hp => rfl
  | refused hs hp hl => rfl

/-- Every name stands for what `view` says, now and after every further request. -/
structure Sees (l : Loader) (view : String → Option Module) (r : Resolver) : Prop where
  steady : l.SteadyAfter r.requests
  module? : ∀ n, r.module? l n = view n

variable {view : String → Option Module}

/-- Only the store and the requests matter to what is seen. -/
theorem Sees.congr (h : Sees l view r) (hs : r'.store = r.store)
    (hr : r'.requests = r.requests) : Sees l view r' :=
  ⟨hr ▸ h.steady, fun n => (module?_congr hs hr n).trans (h.module? n)⟩

theorem Sees.note (h : Sees l view r) (e : Log.Event) : Sees l view (r.note e) :=
  h.congr rfl rfl

/-- If the loader is a function of the path, only the store matters. -/
theorem Sees.of_store_eq {f : Path → Except LoadError (List Char)}
    (h : Sees (.ofFun f) view r) (hs : r'.store = r.store) : Sees (.ofFun f) view r' := by
  refine ⟨Loader.steadyAfter_ofFun f _, fun n => ?_⟩
  rw [← h.module? n]
  unfold Resolver.module?
  rw [hs]
  rfl

/-- A request changes nothing of what is seen. -/
theorem Sees.ask (h : Sees l view r) (path : Path) : Sees l view (r.ask l path).2 := by
  refine ⟨h.steady.cons path, fun n => ?_⟩
  have hl : ∀ p, l.load (path :: r.requests) p = l.load r.requests p := fun p =>
    h.steady _ p (List.suffix_cons path r.requests)
  rw [← h.module? n]
  unfold Resolver.module?
  rw [ask_store, ask_requests]
  simp only [hl]

/-- Storing a module under a name that stands for it changes nothing of what is seen. -/
theorem Sees.insert (h : Sees l view r) {m : Module} (hs : r.store.get? name = none)
    (hm : view name = some m) : Sees l view { r with store := r.store.insert name m } := by
  refine ⟨h.steady, fun n => ?_⟩
  by_cases hn : n = name
  · have : (r.store.insert name m).get? n = some m := by
      rw [Store.get?_insert_of_eq_none hs]
      simp [hn]
    rw [module?_of_stored this, hn, hm]
  · rw [← h.module? n]
    unfold Resolver.module?
    rw [Store.get?_insert_of_eq_none hs]
    simp only [hn, if_false]

/-- **Nothing a steady resolver resolves changes what a name stands for.** -/
theorem Sees.resolve (h : Sees l view r) (hr : Resolution l name r m? r') :
    m? = view name ∧ Sees l view r' := by
  have hanswer : m? = view name := hr.answer_eq.trans (h.module? name)
  refine ⟨hanswer, ?_⟩
  cases hr with
  | stored hs => exact h
  | pathless hs hp => exact h.congr rfl rfl
  | refused hs hp hl => exact (h.ask _).congr rfl rfl
  | loaded hs hp hl => exact ((h.ask _).insert hs hanswer.symm).congr rfl rfl

end Resolver
end LuaBundler
