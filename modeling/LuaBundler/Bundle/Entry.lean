/-
# Bundling an entry

The bundle of an entry script holds the registration of every module the entry
needs, directly or through others, and the script itself, which comes last.  The
parts are separated by a blank line.  A module visited later stands above the ones
visited before it.

Bundling fails only if the entry itself cannot be loaded.  Imports that cannot be
resolved are left out and listed in the bundle.
-/

import LuaBundler.Bundle.Termination

namespace LuaBundler

/-- A bundled entry script. -/
structure Bundle where
  text : List Char
  /-- The modules in the bundle, in the order in which they were visited. -/
  modules : List String
  /-- The imports left out, one for each time such an import was met. -/
  unresolved : List Unresolved
  deriving DecidableEq, Repr

/-- The entry script cannot be loaded. -/
structure EntryError where
  entry : String
  error : LoadError
  deriving DecidableEq, Repr

/-- An entry error in words. -/
def EntryError.failure (e : EntryError) : Failure :=
  e.error.failure.within ("Failed to load entry script '" ++ e.entry ++ "'")

namespace Bundle

/-- Every import was resolved. -/
def isComplete (b : Bundle) : Bool := b.unresolved.isEmpty

variable (l : Loader) (o : Options) (entry : String)

/-- The walk over the imports of an entry whose text, prelude included, is
`contents`. -/
def start (contents : List Char) (r : Resolver) : Walk where
  pending := (Lua.imports contents).reverse
  resolver :=
    (o.events ++ [Log.Event.bundling entry (Lua.imports contents).length]).foldl Resolver.note r

/-- The bundle at the end of the walk for an entry with the text `contents`. -/
def ofWalk (contents : List Char) (w : Walk) : Bundle where
  text := ['\n', '\n'].intercalate (w.blocks ++ [contents])
  modules := w.visited.reverse
  unresolved := w.unresolved.reverse

/-- If the entry can be loaded, the walk over its imports ends. -/
def Ends (r : Resolver) : Prop :=
  ∀ raw, l.load r.requests ⟨entry⟩ = .ok raw →
    (start o entry (o.prelude.apply entry raw) (r.ask l ⟨entry⟩).2).Ends l o entry

/-- With a finite loader bundling comes to an end. -/
theorem ends_of_finite {l : Loader} (h : l.Finite) (r : Resolver) : Ends l o entry r :=
  fun _ _ => Walk.ends_of_finite h _

/-- The bundle of an entry. -/
def ofEntry (r : Resolver) (h : Ends l o entry r) : Except EntryError Bundle × Resolver :=
  match hl : l.load r.requests ⟨entry⟩ with
  | .error e => (.error ⟨entry, e⟩, (r.ask l ⟨entry⟩).2)
  | .ok raw =>
    let contents := o.prelude.apply entry raw
    let w := (start o entry contents (r.ask l ⟨entry⟩).2).finish l o entry (h raw hl)
    (.ok (ofWalk contents w), w.resolver)

end Bundle
end LuaBundler
