/-
# Changing the disk

Making directories, writing files and removing them.  An operation returns the
disk even when it fails, since it may have done part of its work.
-/

import LuaBundler.Disk.Lookup

namespace LuaBundler
namespace Disk

/-- The disk after an operation, and whether it succeeded. -/
abbrev Change := Except Fault Unit × Disk

/-- Make a directory at a free name.  Slashes at the end of the path do not count,
and a symbolic link at its end is not followed. -/
def makeDir (d : Disk) (p : Path) : Change :=
  match d.followFrom .name p (p.pieces.reverse.dropWhile (· = [])).reverse with
  | .error f => (.error f, d)
  | .ok (.found _) => (.error .alreadyExists, d)
  | .ok (.free loc) => (.ok (), d.put loc .dir)

/-- A directory that is there counts as made. -/
def orDir (p : Path) (f : Fault) (d : Disk) : Change :=
  if d.isDir p then (.ok (), d) else (.error f, d)

/-- Make the first of the directories.  If its parent is missing, the ones behind
it are made before. -/
def makeFirst (d : Disk) : List Path → Change
  | [] => (.ok (), d)
  | p :: parents =>
    match d.makeDir p with
    | (.ok (), d') => (.ok (), d')
    | (.error .notFound, _) =>
      match d.makeFirst parents with
      | (.error f, d') => (.error f, d')
      | (.ok (), d') =>
        match d'.makeDir p with
        | (.ok (), d'') => (.ok (), d'')
        | (.error f, _) => orDir p f d'
    | (.error f, _) => orDir p f d

/-- Make a directory and the ones above it that are missing. -/
def makeDirs (d : Disk) (p : Path) : Change :=
  if p.text = "" then (.ok (), d) else d.makeFirst (p :: p.parents)

/-- Write a file, in place of the one that is there if any. -/
def writeBytes (d : Disk) (p : Path) (content : ByteArray) : Change :=
  match d.followFrom .write p p.pieces with
  | .error f => (.error f, d)
  | .ok (.free loc) => (.ok (), d.put loc (.file content))
  | .ok (.found loc) =>
    if d.isDirAt loc then (.error .isDirectory, d) else (.ok (), d.put loc (.file content))

/-- Write a text as UTF-8. -/
def writeText (d : Disk) (p : Path) (s : List Char) : Change :=
  d.writeBytes p (String.ofList s).toUTF8

/-- Place a node on the disk, together with the directories above it. -/
def place (d : Disk) (p : Path) (node : Node) : Disk :=
  let d := match p.parent? with
    | some parent => (d.makeDirs parent).2
    | none => d
  match node with
  | .dir => (d.makeDirs p).2
  | .file content => (d.writeBytes p content).2
  | .link target =>
    match d.followFrom .name p p.pieces with
    | .ok (.free loc) => d.put loc (.link target)
    | _ => d

/-- Remove the file, or the symbolic link, at a path. -/
def remove (d : Disk) (p : Path) : Disk :=
  match d.followFrom .name p p.pieces with
  | .ok (.found loc) => if d.isDirAt loc then d else d.erase loc
  | _ => d

end Disk
end LuaBundler
