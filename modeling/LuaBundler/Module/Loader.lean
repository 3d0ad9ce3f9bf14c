/-
# Loaders

A loader gives the text at a path.  Its answer may depend on the paths it was
asked for before, so it may change from one request to the next.  A loader is
finite if all the texts it can ever give are among finitely many.
-/

import LuaBundler.Failure
import LuaBundler.Path

namespace LuaBundler

/-- Why a loader gave no text. -/
inductive LoadError
  /-- There is no file of that path. -/
  | missing (path : Path)
  /-- The file at the path cannot be read. -/
  | unreadable (path : Path) (fault : Disk.Fault)
  deriving DecidableEq, Repr

/-- A load error in words. -/
def LoadError.failure : LoadError → Failure
  | missing path => { layers := [path.text ++ " not found"] }
  | unreadable path fault =>
    { layers := ["Failed to read " ++ path.text], cause := some (.system fault) }

/-- A source of texts.  `earlier` lists the paths already asked for, latest first. -/
structure Loader where
  load : (earlier : List Path) → Path → Except LoadError (List Char)

namespace Loader

/-- The loader that answers every request for a path in the same way. -/
def ofFun (f : Path → Except LoadError (List Char)) : Loader := ⟨fun _ => f⟩

/-- All texts the loader can give are among finitely many. -/
def Finite (l : Loader) : Prop :=
  ∃ texts : List (List Char), ∀ earlier path text,
    l.load earlier path = .ok text → text ∈ texts

/-- The loader that looks a path up in a list of files. -/
def ofFiles (files : List (Path × List Char)) : Loader :=
  ofFun fun path =>
    match files.lookup path with
    | some text => .ok text
    | none => .error (.missing path)

theorem mem_of_lookup_eq_some {files : List (Path × List Char)} {path : Path}
    {text : List Char} (h : files.lookup path = some text) : text ∈ files.map Prod.snd := by
  obtain ⟨l₁, l₂, rfl, -⟩ := List.lookup_eq_some_iff.1 h
  simp

/-- A list of files holds finitely many texts. -/
theorem finite_ofFiles (files : List (Path × List Char)) : (ofFiles files).Finite := by
  refine ⟨files.map Prod.snd, fun _ path text h => ?_⟩
  simp only [ofFiles, ofFun] at h
  split at h
  · next t ht =>
    cases h
    exact mem_of_lookup_eq_some ht
  · cases h

end Loader
end LuaBundler
