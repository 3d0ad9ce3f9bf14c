/-
# Disk faults

The ways in which an operation on a path can fail, with the system's own
descriptions of them.
-/

namespace LuaBundler
namespace Disk

/-- Why the disk refused an operation. -/
inductive Fault
  /-- Nothing is there. -/
  | notFound
  /-- Something other than a directory stands where one is needed. -/
  | notDirectory
  /-- A directory stands where a file is needed. -/
  | isDirectory
  /-- Something is already there. -/
  | alreadyExists
  /-- The path, or a name in it, is longer than the system allows. -/
  | nameTooLong
  /-- Following the path meets too many symbolic links. -/
  | tooManyLinks
  /-- The file's bytes are not UTF-8 text. -/
  | notText
  /-- The path holds a NUL character. -/
  | badPath
  deriving DecidableEq, Repr

/-- The system's description of a fault. -/
def Fault.message : Fault → String
  | notFound => "No such file or directory (os error 2)"
  | notDirectory => "Not a directory (os error 20)"
  | isDirectory => "Is a directory (os error 21)"
  | alreadyExists => "File exists (os error 17)"
  | nameTooLong => "File name too long (os error 36)"
  | tooManyLinks => "Too many levels of symbolic links (os error 40)"
  | notText => "stream did not contain valid UTF-8"
  | badPath => "file name contained an unexpected NUL byte"

end Disk
end LuaBundler
