/-
# Loading settings

The settings of a run lie in layers, from the bottom: the defaults, the user's
settings file, the file `luapack.toml` in the working directory, a file named on the
command line and the environment.  The first two files may be missing.  Only the
settings that result from all layers have to be valid.
-/

import LuaBundler.Disk.Lookup
import LuaBundler.Settings.Sources

namespace LuaBundler
namespace Settings

/-- The name of settings files. -/
def fileName : String := "luapack.toml"

/-- The user's settings file, in the directory that the environment names for
settings or else in the user's home. -/
def userFile? (env : Environment) : Option Path :=
  let home := (env.lookup "HOME").map fun home => (Path.mk home).join ⟨".config"⟩
  let dir := match (env.lookup "XDG_CONFIG_HOME").map Path.mk with
    | some dir => if dir.isAbsolute then some dir else home
    | none => home
  dir.map fun dir => (dir.join ⟨"luapack"⟩).join ⟨fileName⟩

/-- The settings files that apply, from the bottom. -/
def files (d : Disk) (env : Environment) (explicit : Option Path) : List Path :=
  ((userFile? env).toList ++ [Path.mk fileName]).filter d.isFile ++ explicit.toList

/-- The layer that a settings file describes. -/
def Layer.ofFile (d : Disk) (file : Path) : Except SettingsError Layer :=
  match d.readText file with
  | .error fault => .error (.unreadable file fault)
  | .ok text =>
    match Layer.ofDocument? text with
    | none => .error (.malformed (some file))
    | some layer => .ok layer

/-- The settings under the layers of files, and the events reported on the way, in
order. -/
def underFiles (d : Disk) (s : Settings) : List Path → Except SettingsError Settings × List Log.Event
  | [] => (.ok s, [])
  | file :: files =>
    match Layer.ofFile d file with
    | .error e => (.error e, [])
    | .ok layer =>
      let (r, events) := underFiles d (layer.over s) files
      (r, .settingsRead file :: events)

/-- The settings of a run, and the events reported on the way, in order. -/
def load (d : Disk) (env : Environment) (explicit : Option Path) :
    Except SettingsError Settings × List Log.Event :=
  let (r, events) := underFiles d {} (files d env explicit)
  (do
    let s ← r
    let (checked, s) := s.underEnvironment env
    checked
    s.validate
    return s, events)

end Settings
end LuaBundler
