/-
# The disk

A disk is a finite tree of directories, files and symbolic links.  It is kept as a
list of what lies where; the root is always a directory and is not listed.  A
location names a place in the tree without any symbolic link on the way, the
deepest name first, so that the parent of a location is its tail.
-/

import LuaBundler.Path

namespace LuaBundler

/-- A place in the tree, the deepest name first. -/
abbrev Location := List String

/-- What lies at a location. -/
inductive Node
  | dir
  | file (content : ByteArray)
  | link (target : Path)

/-- A disk, and the directory from which relative paths are seen. -/
structure Disk where
  nodes : List (Location × Node)
  workingDir : Location

namespace Disk

/-- What lies at a location. -/
def at? (d : Disk) : Location → Option Node
  | [] => some .dir
  | loc => d.nodes.lookup loc

/-- The disk with `node` at a location. -/
def put (d : Disk) (loc : Location) (node : Node) : Disk :=
  { d with nodes := (loc, node) :: d.nodes.filter (·.1 ≠ loc) }

/-- The disk with nothing at a location. -/
def erase (d : Disk) (loc : Location) : Disk :=
  { d with nodes := d.nodes.filter (·.1 ≠ loc) }

/-- A directory lies there. -/
def isDirAt (d : Disk) (loc : Location) : Bool :=
  match d.at? loc with
  | some .dir => true
  | _ => false

/-- A file with that content lies there. -/
def isFileAt (d : Disk) (loc : Location) (content : ByteArray) : Bool :=
  match d.at? loc with
  | some (.file other) => other == content
  | _ => false

/-- The names in the directory at a location. -/
def namesAt (d : Disk) (loc : Location) : List String :=
  d.nodes.filterMap fun e =>
    match e.1 with
    | name :: parent => if parent = loc then some name else none
    | [] => none

theorem lookup_filter_ne {nodes : List (Location × Node)} {loc other : Location}
    (h : other ≠ loc) : (nodes.filter (·.1 ≠ loc)).lookup other = nodes.lookup other := by
  induction nodes with
  | nil => rfl
  | cons e nodes ih =>
    obtain ⟨key, node⟩ := e
    by_cases hk : key = loc
    · subst hk
      simpa [List.lookup_cons, beq_false_of_ne h] using ih
    · rw [List.filter_cons_of_pos (by simpa using hk), List.lookup_cons, List.lookup_cons, ih]

/-- What was put somewhere lies there, and nothing else has changed. -/
theorem at?_put {d : Disk} {loc : Location} (hne : loc ≠ []) (node : Node) (other : Location) :
    (d.put loc node).at? other = if other = loc then some node else d.at? other := by
  cases other with
  | nil => simp [at?, Ne.symm hne]
  | cons name parent =>
    simp only [at?, put, List.lookup_cons]
    by_cases h : name :: parent = loc
    · simp [h]
    · simpa [h, beq_false_of_ne h] using lookup_filter_ne h

end Disk
end LuaBundler
