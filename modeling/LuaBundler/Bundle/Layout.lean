/-
# The layout of a finished bundle

Comments and blank lines can be taken out of a bundle before it is written.  The
plugin definition is meant to be read by people too, so it loses its comments
only and keeps its lines.
-/

import LuaBundler.Log
import LuaBundler.Lua.Comments
import LuaBundler.Lua.PluginRegion

namespace LuaBundler
namespace Bundle

/-- The finished text of a bundle. -/
def layout (strip : Bool) (s : List Char) : List Char :=
  if strip then
    let r := Lua.splitRegions s
    Lua.tidy r.prolog ++ Lua.removeComments r.plugin ++ Lua.tidy r.epilog
  else s

/-- The length of a text in UTF-8. -/
def byteSize (s : List Char) : Nat := (String.ofList s).utf8ByteSize

/-- What is reported when a bundle is finished. -/
def layoutEvents (strip : Bool) (s : List Char) : List Log.Event :=
  if strip then
    let r := Lua.splitRegions s
    [.tidying (byteSize r.prolog) (byteSize r.plugin) (byteSize r.epilog)]
  else []

end Bundle
end LuaBundler
