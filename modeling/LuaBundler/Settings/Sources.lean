/-
# Where layers of settings come from

A layer is read from a settings document or from the environment.  In a document
each key is a setting of the right kind and occurs once.  In the environment the
variables named below count, and a truth value may be spelt in several ways.
-/

import LuaBundler.Settings.Basic
import LuaBundler.Settings.Document

namespace LuaBundler
namespace Settings

/-- The layer with one more key of a document, or `none` if the key is no setting,
has the wrong kind of value or was there before. -/
def Layer.set? (l : Layer) : String × Document.Value → Option Layer
  | ("source_dir", .text s) =>
    if l.sourceDir.isSome then none else some { l with sourceDir := some ⟨s⟩ }
  | ("output_dir", .text s) =>
    if l.outputDir.isSome then none else some { l with outputDir := some ⟨s⟩ }
  | ("extension_point", .text s) =>
    if l.extensionPoint.isSome then none else some { l with extensionPoint := some s }
  | ("mixin_dir", .text s) =>
    if l.mixinDir.isSome then none else some { l with mixinDir := some ⟨s⟩ }
  | ("strip_comments", .flag b) =>
    if l.stripComments.isSome then none else some { l with stripComments := some b }
  | ("entry_prelude", .text s) =>
    if l.entryPrelude.isSome then none else some { l with entryPrelude := some s }
  | _ => none

/-- The layer a document describes. -/
def Layer.ofDocument? (document : List Char) : Option Layer :=
  (Document.ofText? document).bind fun entries => entries.foldlM Layer.set? {}

/-- The settings a document describes, over the defaults. -/
def ofDocument (document : List Char) : Except SettingsError Settings :=
  match Layer.ofDocument? document with
  | none => .error (.malformed none)
  | some l => ((l.over {}).validate).map fun _ => l.over {}

/-- Environment variables by name. -/
abbrev Environment := List (String × String)

/-- The truth value that a text spells, blanks around it and capitals not counting. -/
def truth? (s : String) : Option Bool :=
  let word := String.ofList ((Text.trim s.toList).map Char.toLower)
  if word ∈ ["1", "true", "yes", "on"] then some true
  else if word ∈ ["0", "false", "no", "off"] then some false
  else none

/-- The layer the environment describes.  A variable that should be a truth value
and is none sets nothing. -/
def Layer.ofEnvironment (env : Environment) : Layer where
  sourceDir := (env.lookup "LUAPACK_SOURCE_DIR").map Path.mk
  outputDir := (env.lookup "LUAPACK_OUTPUT_DIR").map Path.mk
  extensionPoint := env.lookup "LUAPACK_EXTENSION_POINT"
  mixinDir := (env.lookup "LUAPACK_MIXIN_DIR").map Path.mk
  stripComments := (env.lookup "LUAPACK_STRIP_COMMENTS").bind truth?

/-- The environment spells a truth value wherever it should. -/
def checkEnvironment (env : Environment) : Except SettingsError Unit :=
  match env.lookup "LUAPACK_STRIP_COMMENTS" with
  | none => .ok ()
  | some value => if (truth? value).isSome then .ok () else .error (.invalidBoolean value)

/-- The settings under the layer of the environment, and whether it was in order. -/
def underEnvironment (s : Settings) (env : Environment) : Except SettingsError Unit × Settings :=
  (checkEnvironment env, (Layer.ofEnvironment env).over s)

end Settings
end LuaBundler
