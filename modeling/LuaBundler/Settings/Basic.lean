/-
# Settings

The settings of a run and the layers they come from.  A layer sets some of them
and leaves the others to the layers below it (`Layer.over`).
-/

import LuaBundler.Bundle.Options
import LuaBundler.Path

namespace LuaBundler

/-- The settings of a run. -/
structure Settings where
  /-- Entry scripts and modules are loaded from here. -/
  sourceDir : Path := ⟨"."⟩
  /-- Bundles are written here. -/
  outputDir : Path := ⟨"dist"⟩
  /-- The module that loads the mixins; a blank name stands for none. -/
  extensionPoint : String := "library.mixin"
  /-- The directory below the source directory that holds the mixins. -/
  mixinDir : Path := ⟨"mixin"⟩
  /-- Comments and blank lines are taken out of finished bundles. -/
  stripComments : Bool := true
  /-- The text placed above every entry. -/
  entryPrelude : Option String := none
  deriving DecidableEq, Repr

/-- Why settings were refused. -/
inductive SettingsError
  /-- A settings file cannot be read. -/
  | unreadable (file : Path) (fault : Disk.Fault)
  /-- A settings file, or a document that is no file, is not what it should be. -/
  | malformed (file : Option Path)
  /-- The environment gives something else than a truth value. -/
  | invalidBoolean (value : String)
  /-- The mixin directory may lie outside of the source directory. -/
  | mixinDirOutside (dir : Path)
  deriving DecidableEq, Repr

/-- A settings error in words. -/
def SettingsError.failure : SettingsError → Failure
  | unreadable file fault =>
    { layers := ["Failed to read config file " ++ file.text], cause := some (.system fault) }
  | malformed none => { layers := [], cause := some .document }
  | malformed (some file) =>
    { layers := ["Failed to parse config file " ++ file.text], cause := some .document }
  | invalidBoolean value =>
    { layers := [s!"Invalid boolean in LUAPACK_STRIP_COMMENTS: '{value}'"] }
  | mixinDirOutside dir =>
    { layers := ["mixin_dir '" ++ dir.text ++
        "' must be a relative path inside the source directory"] }

namespace Settings

/-- The extension point, if there is one. -/
def extensionPoint? (s : Settings) : Option String :=
  match Text.trim s.extensionPoint.toList with
  | [] => none
  | name => some (String.ofList name)

/-- Where the mixins lie. -/
def mixinRoot (s : Settings) : Path := s.sourceDir.join s.mixinDir

/-- Mixins are named by their paths below the source directory, so their directory
must lead nowhere but further down. -/
def validate (s : Settings) : Except SettingsError Unit :=
  if s.mixinDir.isInward then .ok () else .error (.mixinDirOutside s.mixinDir)

/-- The options for bundling with these settings and mixins. -/
def bundleOptions (s : Settings) (mixins : List String) : Bundle.Options where
  extensionPoint := s.extensionPoint?
  extras := if s.extensionPoint?.isSome then mixins else []
  prelude := match s.entryPrelude with
    | none => .none
    | some text => .ofText text.toList

/-- A layer of settings: `none` leaves a setting to the layers below. -/
structure Layer where
  sourceDir : Option Path := none
  outputDir : Option Path := none
  extensionPoint : Option String := none
  mixinDir : Option Path := none
  stripComments : Option Bool := none
  entryPrelude : Option String := none
  deriving DecidableEq, Repr

/-- The settings `s` under the layer `l`. -/
def Layer.over (l : Layer) (s : Settings) : Settings where
  sourceDir := l.sourceDir.getD s.sourceDir
  outputDir := l.outputDir.getD s.outputDir
  extensionPoint := l.extensionPoint.getD s.extensionPoint
  mixinDir := l.mixinDir.getD s.mixinDir
  stripComments := l.stripComments.getD s.stripComments
  entryPrelude := l.entryPrelude.or s.entryPrelude

end Settings
end LuaBundler
