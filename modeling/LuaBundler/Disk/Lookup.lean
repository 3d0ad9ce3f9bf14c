/-
# Following a path

A path is followed name by name, from the root if it is absolute and from the
working directory otherwise.  Each name is looked up in a directory, `.` and an
empty piece stay there, `..` goes to its parent, and a symbolic link is replaced
by its target.  At most `maxLinks` links are followed.  The path ends at something
that exists or at a free name in a directory.

What happens at the last name depends on the purpose: a symbolic link there may be
followed or not, and a name with a slash behind it stands for a directory, so no
file can be written there.
-/

import LuaBundler.Disk.Basic
import LuaBundler.Disk.Fault

namespace LuaBundler
namespace Disk

/-- The number of symbolic links that are followed on one path. -/
def maxLinks : Nat := 40

/-- The length of the longest name in a directory, in bytes. -/
def maxName : Nat := 255

/-- The length from which on a path is too long, in bytes. -/
def pathLimit : Nat := 4096

/-- Where a path ends. -/
inductive Target
  /-- Something lies there. -/
  | found (loc : Location)
  /-- Nothing lies there, but its parent is a directory. -/
  | free (loc : Location)
  deriving DecidableEq, Repr

/-- What a path is followed for. -/
inductive Purpose
  /-- To reach what it leads to. -/
  | reach
  /-- To name what lies at its end, be it a symbolic link. -/
  | name
  /-- To write a file at its end. -/
  | write
  deriving DecidableEq, Repr

/-- Nothing but slashes stands behind a name. -/
def endsInSlash (rest : List String) : Bool := rest ≠ [] && rest.all (· = "")

/-- Where the pieces of a path lead, seen from `loc`. -/
def follow (d : Disk) (purpose : Purpose) (links : Nat) (loc : Location) :
    List String → Except Fault Target
  | [] => .ok (.found loc)
  | name :: rest =>
    if ¬ d.isDirAt loc then .error .notDirectory
    else if name = "" ∨ name = "." then follow d purpose links loc rest
    else if name = ".." then follow d purpose links loc.tail rest
    else if purpose = .write ∧ endsInSlash rest then .error .isDirectory
    else if maxName < name.utf8ByteSize then .error .nameTooLong
    else
      match d.at? (name :: loc) with
      | none => if rest = [] then .ok (.free (name :: loc)) else .error .notFound
      | some (.link target) =>
        if rest = [] ∧ purpose = .name then .ok (.found (name :: loc))
        else
          match links with
          | 0 => .error .tooManyLinks
          | n + 1 =>
            follow d purpose n (if target.isAbsolute then [] else loc)
              (target.pieces.map String.ofList ++ rest)
      | some _ => follow d purpose links (name :: loc) rest
termination_by names => (links, names.length)

/-- Where the pieces of the path `p` lead. -/
def followFrom (d : Disk) (purpose : Purpose) (p : Path) (pieces : List (List Char)) :
    Except Fault Target :=
  if '\x00' ∈ p.text.toList then .error .badPath
  else if p.text = "" then .error .notFound
  else if pathLimit ≤ p.text.utf8ByteSize then .error .nameTooLong
  else
    d.follow purpose maxLinks (if p.isAbsolute then [] else d.workingDir) (pieces.map String.ofList)

/-- Where a path leads. -/
def locate (d : Disk) (p : Path) : Except Fault Target := d.followFrom .reach p p.pieces

/-- What a path leads to. -/
def stat? (d : Disk) (p : Path) : Option Node :=
  match d.locate p with
  | .ok (.found loc) => d.at? loc
  | _ => none

/-- The path leads to a file. -/
def isFile (d : Disk) (p : Path) : Bool :=
  match d.stat? p with
  | some (.file _) => true
  | _ => false

/-- The path leads to a directory. -/
def isDir (d : Disk) (p : Path) : Bool :=
  match d.stat? p with
  | some .dir => true
  | _ => false

/-- The bytes of the file that a path leads to. -/
def readBytes (d : Disk) (p : Path) : Except Fault ByteArray :=
  match d.locate p with
  | .error f => .error f
  | .ok (.free _) => .error .notFound
  | .ok (.found loc) =>
    match d.at? loc with
    | some (.file content) => .ok content
    | some .dir => .error .isDirectory
    | _ => .error .notFound

/-- The text of the file that a path leads to. -/
def readText (d : Disk) (p : Path) : Except Fault (List Char) :=
  match d.readBytes p with
  | .error f => .error f
  | .ok content =>
    match String.fromUTF8? content with
    | some s => .ok s.toList
    | none => .error .notText

/-- The directory that a path leads to, and the names in it. -/
def list (d : Disk) (p : Path) : Except Fault (Location × List String) :=
  match d.locate p with
  | .error f => .error f
  | .ok (.free _) => .error .notFound
  | .ok (.found loc) =>
    if d.isDirAt loc then .ok (loc, d.namesAt loc) else .error .notDirectory

/-- The texts of all files on the disk. -/
def texts (d : Disk) : List (List Char) :=
  d.nodes.filterMap fun e =>
    match e.2 with
    | .file content => (String.fromUTF8? content).map String.toList
    | _ => none

/-- What is read from a path is the text of a file on the disk. -/
theorem mem_texts_of_readText {d : Disk} {p : Path} {s : List Char}
    (h : d.readText p = .ok s) : s ∈ d.texts := by
  unfold readText at h
  split at h
  · cases h
  next content hc =>
  unfold readBytes at hc
  split at hc
  · cases hc
  · cases hc
  next loc _ =>
  split at hc
  · next content' hn =>
    cases hc
    split at h
    · next t ht =>
      cases h
      cases loc with
      | nil => simp [at?] at hn
      | cons name parent =>
        obtain ⟨l₁, l₂, he, -⟩ := List.lookup_eq_some_iff.1 hn
        refine List.mem_filterMap.2 ⟨(name :: parent, .file content), by simp [he], ?_⟩
        simp [ht]
    · cases h
  · cases hc
  · cases hc

end Disk
end LuaBundler
