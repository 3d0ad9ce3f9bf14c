/-
# What has changed on a disk

The changes between two states of a disk: the directories and files below a
location that are new or have other content.  Removed ones do not count, and
symbolic links are neither counted nor followed.
-/

import LuaBundler.Disk.Basic
import LuaBundler.Text.Utf8

namespace LuaBundler
namespace Disk

/-- The path from the location `top` down to `loc`, if `loc` lies below it. -/
def below? (top loc : Location) : Option Path :=
  match top.reverse.isPrefixOf? loc.reverse with
  | some (name :: names) => some ⟨"/".intercalate (name :: names)⟩
  | _ => none

/-- The changes below `top` since the state `old`: a directory is given by its path
alone, a file by its path and its text. -/
def changesSince (d old : Disk) (top : Location) : List (Path × Option (List Char)) :=
  d.nodes.filterMap fun e =>
    match below? top e.1 with
    | none => none
    | some path =>
      match e.2 with
      | .link _ => none
      | .dir => if old.isDirAt e.1 then none else some (path, none)
      | .file content =>
        if old.isFileAt e.1 content then none else some (path, some (Text.decodeLossy content))

end Disk
end LuaBundler
