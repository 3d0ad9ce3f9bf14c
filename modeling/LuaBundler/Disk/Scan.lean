/-
# All files below a directory

`filesBelow` collects the files below a directory, also through symbolic links.  A
link to one of the directories that are being scanned would never end and is an
error.  Every level of the scan makes the path longer, and no path may be as long
as `pathLimit`, so that many levels are enough.
-/

import LuaBundler.Disk.Lookup

namespace LuaBundler
namespace Disk

/-- Why a directory cannot be scanned. -/
inductive ScanError
  /-- The system refused an operation. -/
  | system (fault : Fault)
  /-- A symbolic link leads back to a directory on the way to it. -/
  | loop
  deriving DecidableEq, Repr

/-- The files below the directory at the path `p`, by their paths.  `trail` holds
the locations of the directories above it. -/
def scan (d : Disk) : (depth : Nat) → (trail : List Location) → (p : Path) →
    Except ScanError (List Path)
  | 0, _, _ => .error (.system .nameTooLong)
  | depth + 1, trail, p =>
    match d.list p with
    | .error f => .error (.system f)
    | .ok (loc, names) =>
      (names.mapM fun name =>
        let child := p.join ⟨name⟩
        match d.at? (name :: loc) with
        | some .dir => d.scan depth (loc :: trail) child
        | some (.link _) =>
          match d.locate child with
          | .error f => .error (.system f)
          | .ok (.free _) => .error (.system .notFound)
          | .ok (.found target) =>
            if ¬ d.isDirAt target then .ok [child]
            else if target ∈ loc :: trail then .error .loop
            else d.scan depth (loc :: trail) child
        | _ => .ok [child]).map List.flatten

/-- The files below the directory at the path `p`, by their paths. -/
def filesBelow (d : Disk) (p : Path) : Except ScanError (List Path) := d.scan pathLimit [] p

end Disk
end LuaBundler
