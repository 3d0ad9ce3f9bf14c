/-
# Module names

The module `library.mixin` lies at the path `library/mixin.lua`: in a module name
`.` and `/` both separate pieces.  A name with an empty piece, or with a
backslash, has no path.  So the path of a module is relative and none of its
pieces is `.` or `..`.
-/

import LuaBundler.Path

namespace LuaBundler
namespace Module

/-- The separators of a module name. -/
def isSeparator (c : Char) : Bool := c == '.' || c == '/'

/-- The pieces of a module name. -/
def namePieces (name : String) : List (List Char) := name.toList.splitOnP isSeparator

/-- The path at which the module `name` is looked for. -/
def path? (name : String) : Option Path :=
  if '\\' ∈ name.toList ∨ [] ∈ namePieces name then none
  else some ⟨String.ofList (['/'].intercalate (namePieces name)) ++ ".lua"⟩

end Module
end LuaBundler
