/-
# The log

What the program reports while it works, as values: each event has a level, a
message and the part of the program it comes from.  A reader of the log chooses what
to see; the events themselves do not depend on that.
-/

import LuaBundler.Failure
import LuaBundler.Path
import LuaBundler.Text.ControlSequence

namespace LuaBundler

/-- An import that could not be resolved for the bundle of an entry. -/
structure Unresolved where
  name : String
  requestedBy : String
  deriving DecidableEq, Repr

/-- The report of an unresolved import. -/
def Unresolved.message (u : Unresolved) : String :=
  "Unresolvable import in file \"" ++ u.requestedBy ++ "\": " ++ u.name

namespace Log

/-- How much an event matters. -/
inductive Level
  | error
  | warn
  | info
  | debug
  | trace
  deriving DecidableEq, Repr

namespace Level

/-- The name a level is printed under. -/
def name : Level → String
  | error => "ERROR"
  | warn => "WARN"
  | info => "INFO"
  | debug => "DEBUG"
  | trace => "TRACE"

/-- The place of a level, from the one that matters most. -/
def rank : Level → Nat
  | error => 1
  | warn => 2
  | info => 3
  | debug => 4
  | trace => 5

end Level

/-- The parts of the program that report. -/
inductive Part
  | program
  | settings
  | project
  | bundle
  | resolver
  | layout
  deriving DecidableEq, Repr

/-- The name by which a reader of the log chooses a part.  The name of the program
stands at the beginning of each. -/
def Part.target : Part → String
  | program => "luapack"
  | settings => "luapack::config"
  | project => "luapack::orchestrator"
  | bundle => "luapack::bundler"
  | resolver => "luapack::resolver"
  | layout => "luapack::postprocess"

/-- Something that the program reports. -/
inductive Event
  | settingsRead (file : Path)
  | noEntries (dir : Path)
  | noMixinDir (dir : Path)
  | mixinsChosen (count : Nat)
  | extensionPointIgnored (reason : Failure)
  | bundling (entry : String) (imports : Nat)
  | visiting (name : String)
  | resolved (name : String) (dependencies : Nat)
  | notResolved (name : String) (reason : Failure)
  | unresolved (u : Unresolved)
  | extensionPointReached (name : String) (extras : Nat)
  | tidying (prolog plugin epilog : Nat)
  | bundled (entry : String) (modules : Nat) (output : Path)
  | finished (bundles modules : Nat)
  | incomplete (count : Nat)
  deriving DecidableEq, Repr

namespace Event

/-- How much an event matters. -/
def level : Event → Level
  | settingsRead .. => .debug
  | noEntries .. => .warn
  | noMixinDir .. => .debug
  | mixinsChosen .. => .debug
  | extensionPointIgnored .. => .debug
  | bundling .. => .debug
  | visiting .. => .trace
  | resolved .. => .debug
  | notResolved .. => .debug
  | unresolved .. => .error
  | extensionPointReached .. => .debug
  | tidying .. => .debug
  | bundled .. => .info
  | finished .. => .info
  | incomplete .. => .error

/-- The part of the program that an event comes from. -/
def part : Event → Part
  | settingsRead .. => .settings
  | noEntries .. => .project
  | noMixinDir .. => .project
  | mixinsChosen .. => .project
  | extensionPointIgnored .. => .bundle
  | bundling .. => .bundle
  | visiting .. => .bundle
  | resolved .. => .resolver
  | notResolved .. => .resolver
  | unresolved .. => .bundle
  | extensionPointReached .. => .bundle
  | tidying .. => .layout
  | bundled .. => .project
  | finished .. => .program
  | incomplete .. => .program

/-- The text of an event. -/
def message : Event → String
  | settingsRead file => "Loaded config from " ++ file.text
  | noEntries dir => "No entry scripts found in " ++ dir.text
  | noMixinDir dir => "No mixin directory at " ++ dir.text
  | mixinsChosen count => s!"Using {count} mixins"
  | extensionPointIgnored reason => "Extension point disabled: " ++ reason.summary
  | bundling entry imports => s!"Bundling '{entry}' with {imports} direct imports"
  | visiting name => s!"Processing import '{name}'"
  | resolved name dependencies =>
    s!"Resolved module '{name}' with {dependencies} dependencies"
  | notResolved name reason => s!"Failed to resolve module '{name}': " ++ reason.trace
  | unresolved u => u.message
  | extensionPointReached name extras =>
    s!"Extension point '{name}' resolved, adding {extras} extra modules"
  | tidying prolog plugin epilog =>
    s!"Post-processing bundle: prolog {prolog} bytes, plugindef {plugin} bytes, " ++
      s!"epilog {epilog} bytes"
  | bundled entry modules output =>
    s!"Bundled {entry} ({modules} modules) -> " ++ output.text
  | finished bundles modules => s!"Wrote {bundles} bundles ({modules} modules resolved)"
  | incomplete count =>
    s!"{count} unresolvable imports; bundles were written without them"

/-- The line of an event. -/
def line (e : Event) : String := e.level.name ++ " " ++ e.message

/-- The line of an event in the printed log, where names cannot give orders to the
terminal. -/
def printedLine (e : Event) : String := String.ofList (Text.withoutControls e.line.toList)

end Event
end Log
end LuaBundler
