/-
# Bundling sessions

A session keeps texts in memory, by path, and the store of modules that were
loaded from them.  Its operations bundle, import single modules, look into the
store and change the texts.  A module stays in the store as it was loaded, also
when its text has changed since.
-/

import LuaBundler.Bundle.Entry

namespace LuaBundler

/-- Texts by path, and the modules loaded so far. -/
structure Session where
  files : List (Path × List Char)
  store : Store

namespace Session

/-- What can be asked of a session. -/
inductive Request
  | importModule (name : String)
  | bundle (entry : String) (options : Bundle.Options)
  | get (name : String)
  | contains (name : String)
  | insert (name : String) (m : Module)
  | write (path : Path) (text : List Char)
  | remove (path : Path)
  | clearStore

/-- What a session answers. -/
inductive Answer
  | done
  | truth (b : Bool)
  | stored (m : Option Module)
  | bundled (b : Bundle)
  | failed (e : EntryError)

/-- The texts with `text` at `path`. -/
def writeFile (files : List (Path × List Char)) (path : Path) (text : List Char) :
    List (Path × List Char) :=
  (path, text) :: files.filter (·.1 ≠ path)

/-- The texts without the one at `path`. -/
def removeFile (files : List (Path × List Char)) (path : Path) : List (Path × List Char) :=
  files.filter (·.1 ≠ path)

/-- The loader that reads the session's texts. -/
def loader (s : Session) : Loader := .ofFiles s.files

/-- The resolver at the start of an operation. -/
def resolver (s : Session) : Resolver := { store := s.store }

/-- The answer to a request, the paths that were loaded for it in order, and the
session after it. -/
def handle (s : Session) : Request → Answer × List Path × Session
  | .importModule name =>
    let (m, r) := s.resolver.resolve s.loader name
    (.truth m.isSome, r.requests.reverse, { s with store := r.store })
  | .bundle entry o =>
    let h := Bundle.ends_of_finite o entry (Loader.finite_ofFiles s.files) s.resolver
    match Bundle.ofEntry s.loader o entry s.resolver h with
    | (.ok b, r) => (.bundled b, r.requests.reverse, { s with store := r.store })
    | (.error e, r) => (.failed e, r.requests.reverse, { s with store := r.store })
  | .get name => (.stored (s.store.get? name), [], s)
  | .contains name => (.truth (s.store.contains name), [], s)
  | .insert name m => (.done, [], { s with store := s.store.insert name m })
  | .write path text => (.done, [], { s with files := writeFile s.files path text })
  | .remove path => (.done, [], { s with files := removeFile s.files path })
  | .clearStore => (.done, [], { s with store := .empty })

end Session
end LuaBundler
