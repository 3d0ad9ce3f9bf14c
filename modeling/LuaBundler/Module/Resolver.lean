/-
# Resolving modules

Resolving a name finds its module in the store, or loads it from its path and
stores it.  A name without a path is never looked for, and a name that cannot be
resolved leaves the store as it was, so that a later attempt starts afresh.
-/

import LuaBundler.Log
import LuaBundler.Module.Loader
import LuaBundler.Module.Name
import LuaBundler.Module.Store

namespace LuaBundler

/-- Why a module could not be resolved. -/
inductive ResolveError
  /-- The name has no path. -/
  | invalidName (name : String)
  /-- The loader gave no text. -/
  | notLoaded (error : LoadError)
  deriving DecidableEq, Repr

/-- A resolution error in words. -/
def ResolveError.failure : ResolveError → Failure
  | invalidName name => { layers := [s!"Invalid module name '{name}'"] }
  | notLoaded error => error.failure

/-- The path of a module, or the reason why it has none. -/
def Module.pathOrError (name : String) : Except ResolveError Path :=
  match path? name with
  | some path => .ok path
  | none => .error (.invalidName name)

/-- What resolution works on: the modules stored so far, the paths the loader was
asked for and the events reported, each latest first. -/
structure Resolver where
  store : Store
  requests : List Path := []
  log : List Log.Event := []

namespace Resolver

/-- Report an event. -/
def note (r : Resolver) (e : Log.Event) : Resolver := { r with log := e :: r.log }

/-- Ask the loader for the text at a path. -/
def ask (l : Loader) (path : Path) (r : Resolver) : Except LoadError (List Char) × Resolver :=
  (l.load r.requests path, { r with requests := path :: r.requests })

/-- The module of that name, loaded and stored if it was not in the store. -/
def resolve (l : Loader) (name : String) (r : Resolver) : Option Module × Resolver :=
  match r.store.get? name with
  | some m => (some m, r)
  | none =>
    match Module.pathOrError name with
    | .error e => (none, r.note (.notResolved name e.failure))
    | .ok path =>
      match r.ask l path with
      | (.error e, r') => (none, r'.note (.notResolved name (ResolveError.notLoaded e).failure))
      | (.ok source, r') =>
        let m := Module.ofSource name source
        (some m, { r' with store := r'.store.insert name m }.note
          (.resolved name m.dependencies.length))

@[simp] theorem note_store (r : Resolver) (e : Log.Event) : (r.note e).store = r.store := rfl

@[simp] theorem note_requests (r : Resolver) (e : Log.Event) :
    (r.note e).requests = r.requests := rfl

@[simp] theorem ask_store (l : Loader) (path : Path) (r : Resolver) :
    (r.ask l path).2.store = r.store := rfl

@[simp] theorem ask_requests (l : Loader) (path : Path) (r : Resolver) :
    (r.ask l path).2.requests = path :: r.requests := rfl

/-- Reports leave the store alone. -/
@[simp] theorem foldl_note_store (es : List Log.Event) (r : Resolver) :
    (es.foldl note r).store = r.store := by
  induction es generalizing r with
  | nil => rfl
  | cons e es ih => exact ih _

/-- Reports are no requests. -/
@[simp] theorem foldl_note_requests (es : List Log.Event) (r : Resolver) :
    (es.foldl note r).requests = r.requests := by
  induction es generalizing r with
  | nil => rfl
  | cons e es ih => exact ih _

/-- What resolving `name` from `r` can come to: the answer and the resolver after it. -/
inductive Resolution (l : Loader) (name : String) (r : Resolver) :
    Option Module → Resolver → Prop
  /-- The module is in the store. -/
  | stored {m : Module} (hs : r.store.get? name = some m) : Resolution l name r (some m) r
  /-- The name has no path. -/
  | pathless {e : Log.Event} (hs : r.store.get? name = none) (hp : Module.path? name = none) :
      Resolution l name r none (r.note e)
  /-- The loader gives no text. -/
  | refused {path : Path} {error : LoadError} {e : Log.Event} (hs : r.store.get? name = none)
      (hp : Module.path? name = some path) (hl : l.load r.requests path = .error error) :
      Resolution l name r none ((r.ask l path).2.note e)
  /-- The loader gives a text, and its module is stored. -/
  | loaded {path : Path} {source : List Char} {e : Log.Event} (hs : r.store.get? name = none)
      (hp : Module.path? name = some path) (hl : l.load r.requests path = .ok source) :
      Resolution l name r (some (.ofSource name source))
        ({ (r.ask l path).2 with store := r.store.insert name (.ofSource name source) }.note e)

/-- Every resolution is one of the four. -/
theorem resolution (l : Loader) (name : String) (r : Resolver) :
    Resolution l name r (r.resolve l name).1 (r.resolve l name).2 := by
  unfold resolve
  cases hs : r.store.get? name with
  | some m => exact .stored hs
  | none =>
    unfold Module.pathOrError
    cases hp : Module.path? name with
    | none => exact .pathless hs hp
    | some path =>
      simp only [ask]
      cases hl : l.load r.requests path with
      | error error => exact .refused hs hp hl
      | ok source => exact .loaded hs hp hl

variable {l : Loader} {name : String} {r r' : Resolver} {m? : Option Module}

theorem Resolution.of_eq (h : r.resolve l name = (m?, r')) : Resolution l name r m? r' := by
  have := resolution l name r
  rwa [h] at this

/-- What holds of every stored module, and of a module made of the text that the
loader gives for `name`, holds of every stored module and of the answer after `name`
has been resolved. -/
theorem Resolution.forall_stored {P : String → Module → Prop} (h : Resolution l name r m? r')
    (hs : ∀ n m, r.store.get? n = some m → P n m)
    (hl : ∀ path source, Module.path? name = some path → l.load r.requests path = .ok source →
      P name (.ofSource name source)) :
    (∀ n m, r'.store.get? n = some m → P n m) ∧ ∀ m ∈ m?, P name m := by
  cases h with
  | stored hn => exact ⟨hs, fun m hm => hs name m (hm ▸ hn)⟩
  | pathless hn hp => exact ⟨hs, by simp⟩
  | refused hn hp hl' => exact ⟨hs, by simp⟩
  | loaded hn hp hl' =>
    have hnew := hl _ _ hp hl'
    refine ⟨fun n m hm => ?_, by simpa using hnew⟩
    rw [note_store, Store.get?_insert_of_eq_none hn] at hm
    split at hm
    · next he =>
      cases hm
      exact he ▸ hnew
    · exact hs n m hm

end Resolver
end LuaBundler
