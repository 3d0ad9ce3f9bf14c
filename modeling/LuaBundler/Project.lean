/-
# Projects

A project is a directory of scripts on a disk, with settings, bundled into an output
directory.  All entries share one store of loaded modules.

Entries are the scripts directly inside the source directory, unless others are
named.  Mixins are the scripts anywhere below the mixin directory, unless others are
named; the extension point pulls them in.
-/

import LuaBundler.Bundle.Entry
import LuaBundler.Bundle.Layout
import LuaBundler.Disk.Scan
import LuaBundler.Disk.Write
import LuaBundler.Settings.Basic

namespace LuaBundler

/-- The loader that reads the files below a directory. -/
def Loader.ofDisk (d : Disk) (root : Path) : Loader :=
  .ofFun fun path =>
    match d.readText (root.join path) with
    | .ok text => .ok text
    | .error fault => .error (.unreadable (root.join path) fault)

theorem Loader.load_ofDisk_eq_ok_iff {d : Disk} {root path : Path} {earlier : List Path}
    {s : List Char} :
    (ofDisk d root).load earlier path = .ok s ↔ d.readText (root.join path) = .ok s := by
  simp only [ofDisk, ofFun]
  split <;> simp [*]

/-- A disk holds finitely many texts. -/
theorem Loader.finite_ofDisk (d : Disk) (root : Path) : (ofDisk d root).Finite :=
  ⟨d.texts, fun _ _ _ h => Disk.mem_texts_of_readText (load_ofDisk_eq_ok_iff.1 h)⟩

/-- A bundle that has been written. -/
structure Written where
  entry : String
  output : Path
  /-- The number of modules in the bundle. -/
  modules : Nat
  deriving DecidableEq, Repr

/-- What a run has done. -/
structure Summary where
  bundles : List Written
  unresolved : List Unresolved
  deriving DecidableEq, Repr

/-- Every import of every entry was resolved. -/
def Summary.isComplete (s : Summary) : Bool := s.unresolved.isEmpty

/-- Why a run has stopped. -/
inductive RunError
  /-- The source directory cannot be listed. -/
  | sourceDirUnreadable (dir : Path) (fault : Disk.Fault)
  /-- The mixin directory cannot be scanned. -/
  | scanFailed (dir : Path) (error : Disk.ScanError)
  /-- A mixin does not lie below the source directory. -/
  | mixinElsewhere (file : Path)
  /-- The output directory cannot be made. -/
  | outputDirFailed (dir : Path) (fault : Disk.Fault)
  /-- An entry cannot be loaded. -/
  | entryFailed (error : EntryError)
  /-- An entry is no file path below the source directory. -/
  | entryElsewhere (entry : String)
  /-- The directory for a bundle cannot be made. -/
  | dirFailed (dir : Path) (fault : Disk.Fault)
  /-- A bundle cannot be written. -/
  | writeFailed (file : Path) (fault : Disk.Fault)
  deriving DecidableEq, Repr

/-- A run error in words. -/
def RunError.failure : RunError → Failure
  | sourceDirUnreadable dir fault =>
    { layers := ["Failed to read source directory " ++ dir.text], cause := some (.system fault) }
  | scanFailed dir (.system fault) =>
    { layers := ["Failed to scan " ++ dir.text], cause := some (.system fault) }
  | scanFailed dir .loop => { layers := ["Failed to scan " ++ dir.text] }
  | mixinElsewhere file =>
    { layers := ["Mixin " ++ file.text ++ " outside source directory"], cause := some .elsewhere }
  | outputDirFailed dir fault =>
    { layers := ["Failed to create output directory " ++ dir.text], cause := some (.system fault) }
  | entryFailed error => error.failure
  | entryElsewhere entry =>
    { layers := [s!"Entry '{entry}' must be a file path relative to the source directory"] }
  | dirFailed dir fault =>
    { layers := ["Failed to create " ++ dir.text], cause := some (.system fault) }
  | writeFailed file fault =>
    { layers := ["Failed to write bundle " ++ file.text], cause := some (.system fault) }

/-! ## Finding scripts -/

/-- The path leads to a file whose extension is `lua`. -/
def Disk.isScript (d : Disk) (p : Path) : Bool := d.isFile p && p.extension? == some "lua"

/-- The texts in rising order. -/
def sortNames (names : List String) : List String := names.mergeSort (fun a b => decide (a ≤ b))

/-- The scripts directly inside a directory, in rising order. -/
def findEntries (d : Disk) (dir : Path) : Except RunError (List String) :=
  match d.list dir with
  | .error fault => .error (.sourceDirUnreadable dir fault)
  | .ok (_, names) => .ok (sortNames (names.filter fun name => d.isScript (dir.join ⟨name⟩)))

/-- How the file name of a script reads without its extension.  What is left of
`..lua` is read as the parent directory. -/
def scriptStem (name : String) : String :=
  let stem := (Path.splitName name).1
  if stem = "." then ".." else stem

/-- The module name of a script, given the components of its path below the source
directory. -/
def mixinName (components : List Component) : String :=
  ".".intercalate (components.dropLast.map Component.text ++
    (components.getLast?.map fun c => scriptStem c.text).toList)

/-- The module name of a script below the directory `source`. -/
def mixinOf (source file : Path) : Except RunError String :=
  match source.below? file with
  | some components => .ok (mixinName components)
  | none => .error (.mixinElsewhere file)

/-- The names of the scripts anywhere below `root`, in rising order.  They are named
by their paths below `source`.  A directory that is missing holds none. -/
def findMixins (d : Disk) (source root : Path) : Except RunError (List String) :=
  if ¬ d.isDir root then .ok []
  else
    match d.filesBelow root with
    | .error e => .error (.scanFailed root e)
    | .ok files =>
      ((files.filter d.isScript).mapM (mixinOf source)).map sortNames

/-! ## Bundling -/

/-- A project, with the modules loaded so far and the events reported so far, latest
first. -/
structure Project where
  settings : Settings
  disk : Disk
  store : Store := .empty
  log : List Log.Event := []

namespace Project

/-- Report an event. -/
def note (p : Project) (e : Log.Event) : Project := { p with log := e :: p.log }

/-- The loader that reads the source directory as it is now. -/
def loader (p : Project) : Loader := .ofDisk p.disk p.settings.sourceDir

/-- The finished bundle of an entry.  Nothing is written. -/
def bundleEntry (p : Project) (o : Bundle.Options) (entry : String) :
    Except EntryError Bundle × Project :=
  let r : Resolver := { store := p.store, log := p.log }
  let h := Bundle.ends_of_finite o entry (Loader.finite_ofDisk p.disk p.settings.sourceDir) r
  match Bundle.ofEntry p.loader o entry r h with
  | (.error e, r) => (.error e, { p with store := r.store, log := r.log })
  | (.ok b, r) =>
    let strip := p.settings.stripComments
    (.ok { b with text := Bundle.layout strip b.text },
      (Bundle.layoutEvents strip b.text).foldl note { p with store := r.store, log := r.log })

/-- Where the bundle of an entry is written: at the same place below the output
directory.  An entry that is no file path leading inwards has no such place. -/
def outputPath? (s : Settings) (entry : String) : Option Path :=
  let path : Path := ⟨entry⟩
  if path.isInward ∧ path.fileName?.isSome then some (s.outputDir.join path) else none

/-- Write a bundle, and make the directory for it first. -/
def writeBundle (p : Project) (output : Path) (text : List Char) :
    Except RunError Unit × Project :=
  let parent := output.parent?.getD ⟨""⟩
  match p.disk.makeDirs parent with
  | (.error fault, d) => (.error (.dirFailed parent fault), { p with disk := d })
  | (.ok (), d) =>
    match d.writeText output text with
    | (.error fault, d) => (.error (.writeFailed output fault), { p with disk := d })
    | (.ok (), d) => (.ok (), { p with disk := d })

/-- Bundle an entry and write the bundle. -/
def runEntry (p : Project) (o : Bundle.Options) (entry : String) :
    Except RunError (Written × List Unresolved) × Project :=
  match p.bundleEntry o entry with
  | (.error e, p) => (.error (.entryFailed e), p)
  | (.ok b, p) =>
    match outputPath? p.settings entry with
    | none => (.error (.entryElsewhere entry), p)
    | some output =>
      match p.writeBundle output b.text with
      | (.error e, p) => (.error e, p)
      | (.ok (), p) =>
        let count := b.modules.length
        (.ok (⟨entry, output, count⟩, b.unresolved), p.note (.bundled entry count output))

/-- Bundle entries one after the other, until one fails. -/
def runEntries (p : Project) (o : Bundle.Options) : List String → Except RunError Summary × Project
  | [] => (.ok ⟨[], []⟩, p)
  | entry :: entries =>
    match p.runEntry o entry with
    | (.error e, p) => (.error e, p)
    | (.ok (written, unresolved), p) =>
      match p.runEntries o entries with
      | (.error e, p) => (.error e, p)
      | (.ok s, p) => (.ok ⟨written :: s.bundles, unresolved ++ s.unresolved⟩, p)

/-- The entries of a run: the ones named, or else the ones found. -/
def chooseEntries (p : Project) (entries : List String) : Except RunError (List String) × Project :=
  let dir := p.settings.sourceDir
  match if entries.isEmpty then findEntries p.disk dir else .ok entries with
  | .error e => (.error e, p)
  | .ok entries => (.ok entries, if entries.isEmpty then p.note (.noEntries dir) else p)

/-- The mixins of a run: the ones named, or else the ones found. -/
def chooseMixins (p : Project) (mixins : Option (List String)) :
    Except RunError (List String) × Project :=
  match mixins with
  | some mixins => (.ok mixins, p.note (.mixinsChosen mixins.length))
  | none =>
    let root := p.settings.mixinRoot
    let p := if p.disk.isDir root then p else p.note (.noMixinDir root)
    match findMixins p.disk p.settings.sourceDir root with
    | .error e => (.error e, p)
    | .ok mixins => (.ok mixins, p.note (.mixinsChosen mixins.length))

/-- Make the output directory. -/
def makeOutputDir (p : Project) : Except RunError Unit × Project :=
  let dir := p.settings.outputDir
  match p.disk.makeDirs dir with
  | (.error fault, d) => (.error (.outputDirFailed dir fault), { p with disk := d })
  | (.ok (), d) => (.ok (), { p with disk := d })

/-- Bundle the entries into the output directory.  What was written before an error
stays there, and what was loaded stays in the store. -/
def run (p : Project) (entries : List String) (mixins : Option (List String)) :
    Except RunError Summary × Project :=
  match p.chooseEntries entries with
  | (.error e, p) => (.error e, p)
  | (.ok entries, p) =>
    match p.chooseMixins mixins with
    | (.error e, p) => (.error e, p)
    | (.ok mixins, p) =>
      match p.makeOutputDir with
      | (.error e, p) => (.error e, p)
      | (.ok (), p) => p.runEntries (p.settings.bundleOptions mixins) entries

end Project
end LuaBundler
