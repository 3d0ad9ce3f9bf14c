/-
# The program

One run of the program: it reads its arguments, loads the settings, puts what the
arguments say over them and bundles the project.  All it does is a function of the
arguments, the environment and the disk.
-/

import LuaBundler.CommandLine.Arguments
import LuaBundler.Log.Filter
import LuaBundler.Project
import LuaBundler.Settings.Load

namespace LuaBundler
namespace CommandLine

/-- How a run of the program ended. -/
inductive Outcome
  /-- The bundles were written. -/
  | finished (summary : Summary)
  /-- The run has stopped at an error. -/
  | failed (failure : Failure)
  /-- The version was printed. -/
  | version
  /-- The summary of the options was printed. -/
  | help
  /-- The command line made no sense. -/
  | misuse
  deriving DecidableEq, Repr

/-- The exit status: 0 if all is well, 1 if an import is missing or an error stopped
the run, 2 if the command line made no sense. -/
def Outcome.code : Outcome → Nat
  | finished summary => if summary.isComplete then 0 else 1
  | failed _ => 1
  | version => 0
  | help => 0
  | misuse => 2

/-- The name and version of the program. -/
def versionLine : String := "luapack 0.1.0\n"

/-- The summary of the options. -/
def usageLine : String :=
  "Usage: luapack [-s DIR] [-o DIR] [-c FILE] [-m NAME]... [--no-strip-comments] [-v]... " ++
    "[ENTRY]...\n"

/-- The text that a run prints on its standard output. -/
def Outcome.output : Outcome → String
  | version => versionLine
  | help => usageLine
  | _ => ""

/-- What a run leaves behind: how it ended, the events it printed, in order, and the
disk. -/
structure Exit where
  outcome : Outcome
  log : List Log.Event
  disk : Disk

/-- The settings under the layer of the command line. -/
def Arguments.over (a : Arguments) (s : Settings) : Settings :=
  let layer : Settings.Layer := {
    sourceDir := a.source
    outputDir := a.output
    stripComments := if a.keepComments then some false else none }
  layer.over s

/-- The mixins that the command line names, if it names any. -/
def Arguments.mixins? (a : Arguments) : Option (List String) :=
  if a.mixins.isEmpty then none else some a.mixins

/-- What is reported at the end of a run. -/
def closingEvents (s : Summary) (loaded : Nat) : List Log.Event :=
  .finished s.bundles.length loaded ::
    if s.isComplete then [] else [.incomplete s.unresolved.length]

/-- Bundle the project as the command line says.  The events are in order. -/
def bundleProject (d : Disk) (env : Settings.Environment) (a : Arguments) : Exit :=
  match Settings.load d env a.config with
  | (.error e, events) => ⟨.failed e.failure, events, d⟩
  | (.ok settings, events) =>
    let p : Project := { settings := a.over settings, disk := d, log := events.reverse }
    match p.run a.entries a.mixins? with
    | (.error e, p) => ⟨.failed e.failure, p.log.reverse, p.disk⟩
    | (.ok s, p) =>
      ⟨.finished s, p.log.reverse ++ closingEvents s p.store.size, p.disk⟩

/-- Run the program. -/
def run (d : Disk) (env : Settings.Environment) (arguments : List String) : Exit :=
  match Command.ofArguments arguments with
  | .version => ⟨.version, [], d⟩
  | .help => ⟨.help, [], d⟩
  | .misuse => ⟨.misuse, [], d⟩
  | .bundle a =>
    let exit := bundleProject d env a
    let filter := Log.Filter.ofVerbosity a.verbosity (env.lookup "RUST_LOG")
    { exit with log := filter.select exit.log }

end CommandLine
end LuaBundler
