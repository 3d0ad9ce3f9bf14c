/-
# Module registrations

A bundle holds each of its modules as a registration,

    package.preload["name"] = package.preload["name"] or function()
        body
    end

which runs the body the first time the module is required and keeps an earlier
registration of the same name.  The body's lines are indented by four spaces,
except the empty ones.
-/

import LuaBundler.Lua.Quoted
import LuaBundler.Text.Lines

namespace LuaBundler
namespace Lua

/-- The slot of `package.preload` that holds the module `name`. -/
def preloadSlot (name : String) : List Char :=
  "package.preload[\"".toList ++ escape name.toList ++ "\"]".toList

/-- The first line of the registration of `name`. -/
def registrationHead (name : String) : List Char :=
  preloadSlot name ++ " = ".toList ++ preloadSlot name ++ " or function()\n".toList

/-- A line of a module's body as it stands in the registration. -/
def indentLine (l : List Char) : List Char :=
  if l = [] then ['\n'] else "    ".toList ++ l ++ ['\n']

/-- The registration of the module `name` with the body `source`. -/
def register (name : String) (source : List Char) : List Char :=
  registrationHead name ++ (Text.lines source).flatMap indentLine ++ "end".toList

end Lua
end LuaBundler
