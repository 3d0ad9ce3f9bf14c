/-
# Paths as text

A path is a text in which `/` separates names.  `components` reads it: empty
pieces and pieces `.` do not count, except that a leading `.` stays as
`Component.current`; a leading `/` is `Component.root` and `..` is
`Component.parent`.  A backslash is a character like any other.  Nothing here
looks at a disk.
-/

import LuaBundler.Text.Ends

namespace LuaBundler

/-- A path, as it is written. -/
structure Path where
  text : String
  deriving DecidableEq, Repr, Inhabited

/-- A part of a path. -/
inductive Component
  | root
  | current
  | parent
  | normal (name : String)
  deriving DecidableEq, Repr

namespace Component

/-- How a component is written. -/
def text : Component → String
  | root => "/"
  | current => "."
  | parent => ".."
  | normal name => name

/-- The component leads nowhere but further down. -/
def isInward : Component → Bool
  | current => true
  | normal _ => true
  | _ => false

/-- The component that a piece between two slashes stands for, if any. -/
def ofPiece? (piece : List Char) : Option Component :=
  if piece = [] ∨ piece = ['.'] then none
  else if piece = ['.', '.'] then some parent
  else some (normal (String.ofList piece))

end Component

namespace Path

/-- The pieces between the slashes of a path. -/
def pieces (p : Path) : List (List Char) := p.text.toList.splitOn '/'

/-- The path starts at the root. -/
def isAbsolute (p : Path) : Bool := p.text.toList.head? == some '/'

/-- The components of a path. -/
def components (p : Path) : List Component :=
  match p.pieces with
  | [] => []
  | piece :: rest =>
    (if p.isAbsolute then [.root]
      else if piece = ['.'] then [.current]
      else (Component.ofPiece? piece).toList) ++ rest.filterMap Component.ofPiece?

/-- `q` seen from `p`: an absolute `q` stands for itself, and any other is
written behind `p` and a slash, unless `p` is empty or ends in one. -/
def join (p q : Path) : Path :=
  if q.isAbsolute then q
  else if p.text.isEmpty || p.text.toList.getLast? == some '/' then ⟨p.text ++ q.text⟩
  else ⟨p.text ++ "/" ++ q.text⟩

/-- Every component leads further down, so the path stays below any directory it
is seen from. -/
def isInward (p : Path) : Bool := p.components.all Component.isInward

/-- The last component, if it is a name. -/
def fileName? (p : Path) : Option String :=
  match p.components.getLast? with
  | some (.normal name) => some name
  | _ => none

/-- A file name cut at its last dot into stem and extension.  A dot that the
name begins with does not count. -/
def splitName (name : String) : String × Option String :=
  let back := name.toList.reverse
  match back.dropWhile (· != '.') with
  | '.' :: c :: stem =>
    (String.ofList (c :: stem).reverse, some (String.ofList (back.takeWhile (· != '.')).reverse))
  | _ => (name, none)

/-- The extension of the file name. -/
def extension? (p : Path) : Option String := p.fileName?.bind fun n => (splitName n).2

/-- The components of `p` behind those of `base`, if `p` begins with them. -/
def below? (base p : Path) : Option (List Component) :=
  base.components.isPrefixOf? p.components

/-- The path that pieces stand for, given last one first. -/
def ofBack : List (List Char) → Path
  | [[]] => ⟨"/"⟩
  | back => ⟨String.ofList (['/'].intercalate back.reverse)⟩

/-- The paths that end at a component of the given pieces, longest first.  Pieces
are given last one first; the first piece of a path always counts, and of the others
an empty one and `.` do not. -/
def ascending : List (List Char) → List Path
  | [] => []
  | [piece] => [ofBack [piece]]
  | piece :: next :: rest =>
    if piece = [] ∨ piece = ['.'] then ascending (next :: rest)
    else ofBack (piece :: next :: rest) :: ascending (next :: rest)

/-- The directories above a path, nearest first.  The empty path, which stands for
the directory it is seen from, is not among them. -/
def parents (p : Path) : List Path := (ascending p.pieces.reverse).tail

/-- The path without its last component, or `none` for the root and the empty
path. -/
def parent? (p : Path) : Option Path :=
  match p.parents with
  | q :: _ => some q
  | [] => if p.components = [] ∨ p.components = [.root] then none else some ⟨""⟩

end Path
end LuaBundler
