/-
# Bundle options

An extension point is a module that loads further modules without naming them.
Bundling it pulls in the extra modules.  It is recognised by its path, so every
name for the same file counts; an extension point whose name has no path is never
reached.
-/

import LuaBundler.EntryPrelude
import LuaBundler.Module.Resolver

namespace LuaBundler
namespace Bundle

/-- What may vary from bundle to bundle. -/
structure Options where
  extensionPoint : Option String := none
  extras : List String := []
  prelude : EntryPrelude := .none
  deriving DecidableEq, Repr

namespace Options

/-- The path of the extension point, if it has one. -/
def extensionPath? (o : Options) : Option Path := o.extensionPoint.bind Module.path?

/-- The module `name` is the extension point. -/
def reaches (o : Options) (name : String) : Bool :=
  o.extensionPath?.isSome && Module.path? name == o.extensionPath?

/-- The extra modules that the module `name` pulls in. -/
def extrasOf (o : Options) (name : String) : List String :=
  if o.reaches name then o.extras else []

/-- What is reported of the extension point before a walk starts. -/
def events (o : Options) : List Log.Event :=
  match o.extensionPoint with
  | none => []
  | some name =>
    match Module.pathOrError name with
    | .ok _ => []
    | .error e => [.extensionPointIgnored e.failure]

/-- What is reported when the module `name` has been resolved. -/
def eventsAt (o : Options) (name : String) : List Log.Event :=
  if o.reaches name then [.extensionPointReached name o.extras.length] else []

end Options
end Bundle
end LuaBundler
