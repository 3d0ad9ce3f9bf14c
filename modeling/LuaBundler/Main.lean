/-
# The executable

Reads the part of the file system that a run may look at, runs the program on it,
and carries out what has changed.  Symbolic links are read as what they lead to,
except for one that leads back to a directory above it.
-/

import LuaBundler.CommandLine.Program
import LuaBundler.Disk.Changes

namespace LuaBundler
namespace Executable

/-- The environment variables that a run looks at. -/
def variableNames : List String :=
  ["HOME", "XDG_CONFIG_HOME", "RUST_LOG", "LUAPACK_SOURCE_DIR", "LUAPACK_OUTPUT_DIR",
    "LUAPACK_EXTENSION_POINT", "LUAPACK_MIXIN_DIR", "LUAPACK_STRIP_COMMENTS"]

/-- The environment of the process. -/
def readEnvironment : IO Settings.Environment :=
  variableNames.filterMapM fun name => do
    return (← IO.getEnv name).map fun value => (name, value)

/-- Where a path leads from a location if nothing on it is a symbolic link. -/
def locationOf (workingDir : Location) (p : Path) : Location :=
  p.components.foldl (fun loc c =>
    match c with
    | .root => []
    | .current => loc
    | .parent => loc.tail
    | .normal name => name :: loc) workingDir

/-- The absolute path of a location. -/
def pathOf (loc : Location) : String := "/" ++ "/".intercalate loc.reverse

/-- The disk with what the file system has at a location, apart from the contents of
a directory. -/
def look (d : Disk) (loc : Location) : IO Disk := do
  if loc.isEmpty then return d
  try
    let real ← IO.FS.realPath (pathOf loc)
    if ← real.isDir then return d.put loc .dir
    return d.put loc (.file (← IO.FS.readBinFile real))
  catch _ => return d

/-- The disk with what the file system has at a location and below it.  `trail` holds
the directories on the way there. -/
partial def lookBelow (d : Disk) (trail : List String) (loc : Location) : IO Disk := do
  let d ← look d loc
  if !d.isDirAt loc then return d
  try
    let real ← IO.FS.realPath (pathOf loc)
    if trail.contains real.toString then return d.put loc (.link ⟨real.toString⟩)
    let mut d := d
    for entry in ← real.readDir do
      d ← lookBelow d (real.toString :: trail) (entry.fileName :: loc)
    return d
  catch _ => return d

/-- The disk with what lies on a path, at its end and below that. -/
def observe (d : Disk) (p : Path) : IO Disk := do
  let loc := locationOf d.workingDir p
  let mut d := d
  for depth in List.range loc.length do
    d ← look d (loc.drop (depth + 1))
  lookBelow d [] loc

/-- Make the directories and write the files that a run has changed. -/
def carryOut (changes : List (Path × Option (List Char))) : IO Unit := do
  for (path, content) in changes do
    if content.isNone then IO.FS.createDirAll ("/" ++ path.text)
  for (path, content) in changes do
    match content with
    | some text => IO.FS.writeFile ("/" ++ path.text) (String.ofList text)
    | none => pure ()

/-- What a run with these arguments may look at: the settings files, and then the
directories that the settings name. -/
def observeProject (d : Disk) (env : Settings.Environment) (a : CommandLine.Arguments) :
    IO Disk := do
  let mut d := d
  for file in (Settings.userFile? env).toList ++ [Path.mk Settings.fileName] ++ a.config.toList do
    d ← observe d file
  match Settings.load d env a.config with
  | (.error _, _) => return d
  | (.ok settings, _) =>
    let settings := a.over settings
    d ← observe d settings.sourceDir
    d ← observe d settings.outputDir
    for entry in a.entries do
      d ← observe d (settings.sourceDir.join ⟨entry⟩)
    return d

/-- Run the program in the process's working directory. -/
def run (arguments : List String) : IO UInt32 := do
  let env ← readEnvironment
  let here : Path := ⟨(← IO.currentDir).toString⟩
  let empty : Disk := { nodes := [], workingDir := locationOf [] here }
  let before ← match CommandLine.Command.ofArguments arguments with
    | .bundle a => observeProject empty env a
    | _ => pure empty
  let exit := CommandLine.run before env arguments
  for event in exit.log do
    IO.eprintln event.printedLine
  carryOut (exit.disk.changesSince before [])
  IO.print exit.outcome.output
  match exit.outcome with
  | .failed failure => IO.eprintln ("Error: " ++ failure.trace)
  | .misuse => IO.eprint CommandLine.usageLine
  | _ => pure ()
  return exit.outcome.code.toUInt32

end Executable
end LuaBundler

/-- Bundle Lua scripts and the modules they require into single files. -/
def main (arguments : List String) : IO UInt32 := LuaBundler.Executable.run arguments
