/-
# The plugin definition of a script

A script may describe itself to its host in a function `plugindef`.  The region
runs from the first line that declares the function to the first later line that
is `end` alone, and `splitRegions` cuts a text into what stands before the
region, the region and what stands behind it.  A text without a closed region
is all prolog.
-/

import LuaBundler.Text.Blank
import LuaBundler.Text.Lines

namespace LuaBundler
namespace Lua

/-- A text cut around its plugin definition. -/
structure Regions where
  prolog : List Char
  plugin : List Char
  epilog : List Char
  deriving DecidableEq, Repr

/-- The line declares the function `plugindef`: its name is followed by a
parenthesis or a blank, so that no longer name is meant. -/
def declaresPlugin (line : List Char) : Bool :=
  match "function plugindef".toList.isPrefixOf? (Text.withoutBreaks line) with
  | some (c :: _) => c == '(' || Text.isBlank c
  | _ => false

/-- The line closes the region: it starts with `end` and nothing else is on it. -/
def closesPlugin (line : List Char) : Bool :=
  Text.trimEnd (Text.withoutBreaks line) == "end".toList

/-- The regions of a text. -/
def splitRegions (s : List Char) : Regions :=
  let (before, declared) := (Text.brokenLines s).span (!declaresPlugin ·)
  match declared with
  | [] => ⟨s, [], []⟩
  | head :: rest =>
    let (body, closed) := rest.span (!closesPlugin ·)
    match closed with
    | [] => ⟨s, [], []⟩
    | last :: after => ⟨before.flatten, head ++ body.flatten ++ last, after.flatten⟩

end Lua
end LuaBundler
