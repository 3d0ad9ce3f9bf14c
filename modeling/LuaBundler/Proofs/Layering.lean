/-
# The layers of settings

The settings of a run are those of its layers put on each other: each setting has the value
that the highest layer setting it gives, and the default if none sets it (`stacked`,
`highest_eq_some_iff`).  From below the layers are the user's settings file, the project's
file, the file named on the command line (`FileLayers`), the environment, in which each field
but one has a variable of its own (`Sets`), and the command line (`Arguments.layer`).

The main statement follows a run from the disk and the environment to the settings it bundles
with (`bundleProject_by_layers`).  The settings are refused for three reasons (`Refused`): at
the user's or the project's file only if that file is there, and at the mixin directory only
if the one that all layers give together leads out of the source directory.  What lower layers
say about it does not matter (`bundleProject_of_straying_user`).
-/

import Mathlib.Tactic.Push
import LuaBundler.CommandLine.Program
import LuaBundler.Proofs.Tree

namespace LuaBundler
namespace Settings

variable {α : Type} {d : Disk} {env : Environment} {explicit : Option Path} {file : Path}
  {l : Layer} {ls : List Layer} {s : Settings}

/-! ### The highest layer -/

/-- What the highest layer that sets a field gives to it.  The lowest layer stands first. -/
def highest (field : Layer → Option α) (ls : List Layer) : Option α :=
  ls.reverse.findSome? field

/-- A field has the value that a layer gives to it if no layer above sets it. -/
theorem highest_eq_some_iff {field : Layer → Option α} {v : α} : highest field ls = some v ↔
    ∃ below l above, ls = below ++ l :: above ∧ field l = some v ∧
      ∀ l' ∈ above, field l' = none := by
  rw [highest, List.findSome?_eq_some_iff]
  constructor
  · rintro ⟨above, l, below, hls, hl, habove⟩
    refine ⟨below.reverse, l, above.reverse, ?_, hl, fun l' h => habove l' (List.mem_reverse.1 h)⟩
    rw [← List.reverse_reverse ls, hls]
    simp
  · rintro ⟨below, l, above, rfl, hl, habove⟩
    exact ⟨above.reverse, l, below.reverse, by simp, hl,
      fun l' h => habove l' (List.mem_reverse.1 h)⟩

theorem highest_concat (field : Layer → Option α) (ls : List Layer) (l : Layer) :
    highest field (ls ++ [l]) = (field l).or (highest field ls) := by
  rw [highest, List.reverse_concat, List.findSome?_cons]
  cases field l <;> rfl

/-- The settings that layers give, the lowest layer first. -/
def stacked (ls : List Layer) : Settings where
  sourceDir := (highest Layer.sourceDir ls).getD ⟨"."⟩
  outputDir := (highest Layer.outputDir ls).getD ⟨"dist"⟩
  extensionPoint := (highest Layer.extensionPoint ls).getD "library.mixin"
  mixinDir := (highest Layer.mixinDir ls).getD ⟨"mixin"⟩
  stripComments := (highest Layer.stripComments ls).getD true
  entryPrelude := highest Layer.entryPrelude ls

/-- One more layer is put on top. -/
theorem over_stacked (l : Layer) (ls : List Layer) : l.over (stacked ls) = stacked (ls ++ [l]) := by
  simp only [Layer.over, stacked, highest_concat, Option.getD_or]

/-! ### The layer of the environment -/

/-- The words for a truth value. -/
def words : Bool → List String
  | true => ["1", "true", "yes", "on"]
  | false => ["0", "false", "no", "off"]

/-- The text is a word for the truth value, but for blanks around it and for capitals. -/
def Spells (text : String) (b : Bool) : Prop :=
  String.ofList ((Text.trim text.toList).map Char.toLower) ∈ words b

instance (text : String) (b : Bool) : Decidable (Spells text b) :=
  inferInstanceAs (Decidable (_ ∈ words b))

/-- No word stands for both truth values. -/
theorem disjoint_words : List.Disjoint (words true) (words false) := by
  simp [words]

theorem truth?_eq_some_iff {text : String} {b : Bool} : truth? text = some b ↔ Spells text b := by
  unfold truth? Spells
  generalize String.ofList ((Text.trim text.toList).map Char.toLower) = word
  show (if word ∈ words true then some true else if word ∈ words false then some false
    else none) = some b ↔ word ∈ words b
  split
  · next htrue =>
    have hfalse : word ∉ words false := fun hfalse => disjoint_words htrue hfalse
    cases b <;> simp [htrue, hfalse]
  next htrue =>
  split
  · next hfalse => cases b <;> simp [htrue, hfalse]
  · next hfalse => cases b <;> simp [htrue, hfalse]

/-- The environment sets the fields of `l`, each one by its variable.  A truth value that is
spelt wrongly sets nothing, and there is no variable for the prelude. -/
structure Sets (env : Environment) (l : Layer) : Prop where
  sourceDir : l.sourceDir = (env.lookup "LUAPACK_SOURCE_DIR").map Path.mk
  outputDir : l.outputDir = (env.lookup "LUAPACK_OUTPUT_DIR").map Path.mk
  extensionPoint : l.extensionPoint = env.lookup "LUAPACK_EXTENSION_POINT"
  mixinDir : l.mixinDir = (env.lookup "LUAPACK_MIXIN_DIR").map Path.mk
  stripComments : ∀ b, l.stripComments = some b ↔
    ∃ value, env.lookup "LUAPACK_STRIP_COMMENTS" = some value ∧ Spells value b
  entryPrelude : l.entryPrelude = none

theorem Sets.unique {l' : Layer} (h : Sets env l) (h' : Sets env l') : l = l' := by
  have hstrip : l.stripComments = l'.stripComments :=
    Option.ext fun b => (h.stripComments b).trans (h'.stripComments b).symm
  cases l with | mk =>
  cases l' with | mk =>
  simp only [Layer.mk.injEq]
  exact ⟨h.sourceDir.trans h'.sourceDir.symm, h.outputDir.trans h'.outputDir.symm,
    h.extensionPoint.trans h'.extensionPoint.symm, h.mixinDir.trans h'.mixinDir.symm, hstrip,
    h.entryPrelude.trans h'.entryPrelude.symm⟩

theorem sets_ofEnvironment (env : Environment) : Sets env (.ofEnvironment env) where
  sourceDir := rfl
  outputDir := rfl
  extensionPoint := rfl
  mixinDir := rfl
  stripComments b := by
    simp only [Layer.ofEnvironment, Option.bind_eq_some_iff, truth?_eq_some_iff]
  entryPrelude := rfl

theorem checkEnvironment_eq_ok_iff : checkEnvironment env = .ok () ↔
    ∀ value, env.lookup "LUAPACK_STRIP_COMMENTS" = some value → ∃ b, Spells value b := by
  unfold checkEnvironment
  cases env.lookup "LUAPACK_STRIP_COMMENTS" with
  | none => exact iff_of_true rfl fun _ h => by cases h
  | some value =>
    simp only [Option.some.injEq, forall_eq', ← truth?_eq_some_iff]
    cases truth? value <;> simp

/-! ### The layers of files -/

/-- The file can be read, and what it says is the layer `l`. -/
def Describes (d : Disk) (file : Path) (l : Layer) : Prop :=
  ∃ text, d.readText file = .ok text ∧ Layer.ofDocument? text = some l

theorem ofFile_eq_ok_iff : Layer.ofFile d file = .ok l ↔ Describes d file l := by
  unfold Layer.ofFile Describes
  cases d.readText file with
  | error fault => simp
  | ok text => cases h : Layer.ofDocument? text <;> simp [h]

theorem Describes.unique {l' : Layer} (h : Describes d file l) (h' : Describes d file l') :
    l = l' :=
  Except.ok.inj ((ofFile_eq_ok_iff.2 h).symm.trans (ofFile_eq_ok_iff.2 h'))

theorem rel_describes_unique {slot : Option Path} {l l' : Option Layer}
    (h : Option.Rel (Describes d) slot l) (h' : Option.Rel (Describes d) slot l') : l = l' := by
  cases h with
  | none => cases h'; rfl
  | some h =>
    cases h' with
    | some h' => exact congrArg some (h.unique h')

theorem Describes.isFile (h : Describes d file l) : d.isFile file = true := by
  obtain ⟨text, htext, -⟩ := h
  unfold Disk.readText Disk.readBytes at htext
  unfold Disk.isFile Disk.stat?
  split at htext
  · cases htext
  · next content hbytes =>
    split at hbytes
    · cases hbytes
    · cases hbytes
    · next loc hlocate =>
      split at hbytes
      · next hat => simp only [hlocate, hat]
      · cases hbytes
      · cases hbytes

/-- A file that may be missing gives its layer, if it is there, to what follows. -/
theorem underFiles_append_eq_ok_iff (base : List Layer) (slot : Option Path) (files : List Path) :
    (underFiles d (stacked base) (slot.toList ++ files)).1 = .ok s ↔
      ∃ l, Option.Rel (Describes d) slot l ∧
        (underFiles d (stacked (base ++ l.toList)) files).1 = .ok s := by
  cases slot with
  | none =>
    constructor
    · exact fun h => ⟨none, .none, by simpa using h⟩
    · rintro ⟨_, ⟨⟩, h⟩
      simpa using h
  | some file =>
    rw [Option.toList_some, List.singleton_append, underFiles]
    constructor
    · cases hfile : Layer.ofFile d file with
      | error e => exact fun h => by cases h
      | ok l => exact fun h => ⟨some l, .some (ofFile_eq_ok_iff.1 hfile), over_stacked l base ▸ h⟩
    · rintro ⟨_, @⟨_, l, hl⟩, h⟩
      rw [ofFile_eq_ok_iff.2 hl]
      simpa only [over_stacked, Option.toList_some] using h

/-- The layers of the settings files that apply.  A file that is missing has none; the file
named on the command line has to be there. -/
structure FileLayers (d : Disk) (env : Environment) (explicit : Option Path) where
  user : Option Layer
  project : Option Layer
  named : Option Layer
  user_rel : Option.Rel (Describes d) ((userFile? env).filter d.isFile) user
  project_rel : Option.Rel (Describes d) ((some ⟨"luapack.toml"⟩).filter d.isFile) project
  named_rel : Option.Rel (Describes d) explicit named

instance : Subsingleton (FileLayers d env explicit) where
  allEq F F' := by
    cases F with | mk user project named huser hproject hnamed =>
    cases F' with | mk user' project' named' huser' hproject' hnamed' =>
    obtain rfl := rel_describes_unique huser huser'
    obtain rfl := rel_describes_unique hproject hproject'
    obtain rfl := rel_describes_unique hnamed hnamed'
    rfl

/-- The layers of the settings files, from the lowest to the highest. -/
def FileLayers.layers (F : FileLayers d env explicit) : List Layer :=
  F.user.toList ++ F.project.toList ++ F.named.toList

theorem underFiles_files_eq_ok_iff : (underFiles d {} (files d env explicit)).1 = .ok s ↔
    ∃ F : FileLayers d env explicit, s = stacked F.layers := by
  have hfiles : files d env explicit = ((userFile? env).filter d.isFile).toList ++
      (((some ⟨"luapack.toml"⟩ : Option Path).filter d.isFile).toList ++
        (explicit.toList ++ [])) := by
    simp [files, fileName, Option.toList_filter]
  have hdefault : ({} : Settings) = stacked [] := rfl
  rw [hfiles, hdefault, underFiles_append_eq_ok_iff]
  simp only [underFiles_append_eq_ok_iff, underFiles, Except.ok.injEq]
  constructor
  · rintro ⟨user, huser, project, hproject, named, hnamed, rfl⟩
    exact ⟨⟨user, project, named, huser, hproject, hnamed⟩, by simp [FileLayers.layers]⟩
  · rintro ⟨F, rfl⟩
    exact ⟨F.user, F.user_rel, F.project, F.project_rel, F.named, F.named_rel,
      by simp [FileLayers.layers]⟩

/-- The file is read for its settings: it is the user's or the project's and is there, or it
is named on the command line. -/
def Applies (d : Disk) (env : Environment) (explicit : Option Path) (file : Path) : Prop :=
  (userFile? env = some file ∨ file = ⟨"luapack.toml"⟩) ∧ d.isFile file = true ∨
    explicit = some file

theorem exists_rel_iff {β : Type} {r : α → β → Prop} {o : Option α} :
    (∃ p, Option.Rel r o p) ↔ ∀ x, o = some x → ∃ y, r x y := by
  cases o with
  | none => exact iff_of_true ⟨none, .none⟩ fun _ h => by cases h
  | some x =>
    constructor
    · rintro ⟨_, hp⟩ _ ⟨⟩
      cases hp with
      | some h => exact ⟨_, h⟩
    · intro h
      obtain ⟨y, hy⟩ := h x rfl
      exact ⟨some y, .some hy⟩

/-- The files have their layers if each one that applies describes a layer. -/
theorem nonempty_fileLayers_iff : Nonempty (FileLayers d env explicit) ↔
    ∀ file, Applies d env explicit file → ∃ l, Describes d file l := by
  have hslots : Nonempty (FileLayers d env explicit) ↔
      (∃ l, Option.Rel (Describes d) ((userFile? env).filter d.isFile) l) ∧
        (∃ l, Option.Rel (Describes d) ((some ⟨"luapack.toml"⟩).filter d.isFile) l) ∧
        ∃ l, Option.Rel (Describes d) explicit l :=
    ⟨fun ⟨F⟩ => ⟨⟨_, F.user_rel⟩, ⟨_, F.project_rel⟩, ⟨_, F.named_rel⟩⟩,
      fun ⟨⟨user, huser⟩, ⟨project, hproject⟩, ⟨named, hnamed⟩⟩ =>
        ⟨⟨user, project, named, huser, hproject, hnamed⟩⟩⟩
  simp only [hslots, exists_rel_iff, Option.filter_eq_some_iff, Option.some.injEq, Applies,
    or_and_right, or_imp, forall_and, and_assoc, eq_comm (a := (⟨"luapack.toml"⟩ : Path))]

/-! ### Loading -/

theorem validate_eq_ok_iff : s.validate = .ok () ↔
    ∀ c ∈ s.mixinDir.components, c = .current ∨ ∃ name, c = .normal name := by
  rw [← Path.isInward_iff_forall]
  unfold validate
  split <;> simp [*]

theorem bind_eq_ok_iff {ε β : Type} {x : Except ε α} {f : α → Except ε β} {y : β} :
    (x >>= f) = .ok y ↔ ∃ v, x = .ok v ∧ f v = .ok y := by
  cases x <;> simp [bind, Except.bind]

/-- The settings of a run are those of its layers, if all is in order. -/
theorem load_eq_ok_iff : (load d env explicit).1 = .ok s ↔
    ∃ F : FileLayers d env explicit, checkEnvironment env = .ok () ∧ s.validate = .ok () ∧
      s = stacked (F.layers ++ [.ofEnvironment env]) := by
  unfold load underEnvironment
  simp only [bind_eq_ok_iff, underFiles_files_eq_ok_iff]
  constructor
  · rintro ⟨_, ⟨F, rfl⟩, _, henv, _, hvalid, hs⟩
    cases hs
    rw [over_stacked] at hvalid ⊢
    exact ⟨F, henv, hvalid, rfl⟩
  · rintro ⟨F, henv, hvalid, rfl⟩
    rw [← over_stacked] at hvalid ⊢
    exact ⟨_, ⟨F, rfl⟩, (), henv, (), hvalid, rfl⟩

/-- Why settings are refused. -/
inductive Refused (d : Disk) (env : Environment) (explicit : Option Path) : Prop
  /-- A file that applies describes no layer. -/
  | file {file : Path} (happlies : Applies d env explicit file) (hnone : ∀ l, ¬ Describes d file l)
  /-- The environment spells no truth value where it should. -/
  | boolean {value : String} (hvalue : env.lookup "LUAPACK_STRIP_COMMENTS" = some value)
      (hnone : ∀ b, ¬ Spells value b)
  /-- The mixin directory that all layers give together has a component that is neither a name
  nor a dot. -/
  | mixinDir (F : FileLayers d env explicit) {l : Layer} (hl : Sets env l) {c : Component}
      (hc : c ∈ (stacked (F.layers ++ [l])).mixinDir.components)
      (hcurrent : c ≠ .current) (hname : ∀ name, c ≠ .normal name)

theorem load_eq_error_iff : (∃ e, (load d env explicit).1 = .error e) ↔ Refused d env explicit := by
  have hfails : (∃ e, (load d env explicit).1 = .error e) ↔
      ¬ ∃ s, (load d env explicit).1 = .ok s := by
    cases (load d env explicit).1 <;> simp
  rw [hfails]
  simp only [load_eq_ok_iff]
  constructor
  · intro hnone
    by_cases hfiles : Nonempty (FileLayers d env explicit)
    · obtain ⟨F⟩ := hfiles
      by_cases henv : checkEnvironment env = .ok ()
      · have hvalid : (stacked (F.layers ++ [.ofEnvironment env])).validate ≠ .ok () :=
          fun hvalid => hnone ⟨_, F, henv, hvalid, rfl⟩
        rw [Ne, validate_eq_ok_iff] at hvalid
        push Not at hvalid
        obtain ⟨c, hc, hcurrent, hname⟩ := hvalid
        exact .mixinDir F (sets_ofEnvironment env) hc hcurrent hname
      · rw [checkEnvironment_eq_ok_iff] at henv
        push Not at henv
        obtain ⟨value, hvalue, hnone⟩ := henv
        exact .boolean hvalue hnone
    · rw [nonempty_fileLayers_iff] at hfiles
      push Not at hfiles
      obtain ⟨file, happlies, hnone⟩ := hfiles
      exact .file happlies hnone
  · rintro hrefused ⟨s, F, henv, hvalid, rfl⟩
    cases hrefused with
    | file happlies hnone =>
      obtain ⟨l, hl⟩ := nonempty_fileLayers_iff.1 ⟨F⟩ _ happlies
      exact hnone l hl
    | boolean hvalue hnone =>
      obtain ⟨b, hb⟩ := checkEnvironment_eq_ok_iff.1 henv _ hvalue
      exact hnone b hb
    | mixinDir F' hl hc hcurrent hname =>
      obtain rfl := Subsingleton.elim F F'
      obtain rfl := hl.unique (sets_ofEnvironment env)
      rcases validate_eq_ok_iff.1 hvalid _ hc with rfl | ⟨name, rfl⟩
      · exact hcurrent rfl
      · exact hname name rfl

end Settings

/-! ### The run -/

namespace CommandLine

open Settings

/-- The layer of the command line. -/
def Arguments.layer (a : Arguments) : Layer where
  sourceDir := a.source
  outputDir := a.output
  stripComments := if a.keepComments then some false else none

/-- What a run leaves behind, given how bundling the project ended. -/
def Exit.ofRun : Except RunError Summary × Project → Exit
  | (.error e, p) => ⟨.failed e.failure, p.log.reverse, p.disk⟩
  | (.ok s, p) => ⟨.finished s, p.log.reverse ++ closingEvents s p.store.size, p.disk⟩

theorem bundleProject_of_error {d : Disk} {env : Environment} {a : Arguments} {e : SettingsError}
    {events : List Log.Event} (h : load d env a.config = (.error e, events)) :
    bundleProject d env a = ⟨.failed e.failure, events, d⟩ := by
  unfold bundleProject
  rw [h]

theorem bundleProject_of_ok {d : Disk} {env : Environment} {a : Arguments} {s : Settings}
    {events : List Log.Event} (h : load d env a.config = (.ok s, events)) :
    bundleProject d env a = .ofRun (Project.run
      { settings := a.layer.over s, disk := d, log := events.reverse } a.entries a.mixins?) := by
  have hover : a.layer.over s = a.over s := rfl
  unfold bundleProject
  rw [h, hover]
  dsimp only
  cases Project.run { settings := a.over s, disk := d, log := events.reverse } a.entries
    a.mixins? with
  | mk result p => cases result <;> rfl

/-- **A run goes by its layers of settings.**  Loading them fails exactly for the reasons of
`Refused`, and then the run ends there and leaves the disk alone.  Otherwise the project is
bundled with what the layers give: the defaults, the user's file, the project's file, the file
named on the command line, the environment with a variable for each field but the prelude, and
the command line, from the lowest to the highest. -/
theorem bundleProject_by_layers (d : Disk) (env : Environment) (a : Arguments) :
    ((∃ e, (load d env a.config).1 = .error e) ↔ Refused d env a.config) ∧
    (∀ e events, load d env a.config = (.error e, events) →
      bundleProject d env a = ⟨.failed e.failure, events, d⟩) ∧
    ∀ s events, load d env a.config = (.ok s, events) →
      ∃ (F : FileLayers d env a.config) (l : Layer), Sets env l ∧
        s = stacked (F.layers ++ [l]) ∧
        bundleProject d env a = .ofRun (Project.run
          { settings := stacked (F.layers ++ [l, a.layer])
            disk := d
            log := events.reverse } a.entries a.mixins?) := by
  refine ⟨load_eq_error_iff, fun e events h => bundleProject_of_error h, fun s events h => ?_⟩
  obtain ⟨F, -, -, rfl⟩ := load_eq_ok_iff.1 (congrArg Prod.fst h)
  refine ⟨F, .ofEnvironment env, sets_ofEnvironment env, rfl, ?_⟩
  rw [bundleProject_of_ok h, over_stacked, List.append_assoc]
  rfl

/-! ### A lower layer that does not matter -/

/-- The user's settings file gives a mixin directory that lies elsewhere.  There are two more
files, of the project and for a run that names it. -/
def strayingUser : Disk where
  nodes := [(["home"], .dir), ([".config", "home"], .dir), (["luapack", ".config", "home"], .dir),
    (["luapack.toml", "luapack", ".config", "home"],
      .file "mixin_dir = \"../shared\"\noutput_dir = \"out\"\n".toUTF8),
    (["project"], .dir),
    (["luapack.toml", "project"],
      .file "strip_comments = false\nentry_prelude = \"-- tools\"\n".toUTF8),
    (["ci.toml", "project"],
      .file "extension_point = \"lib.ci\"\nentry_prelude = \"-- built\"\n".toUTF8)]
  workingDir := ["project"]

/-- Every field that can be set in the environment is set there. -/
def strayingUserEnvironment : Environment :=
  [("HOME", "/home"), ("LUAPACK_SOURCE_DIR", "scripts"), ("LUAPACK_OUTPUT_DIR", "build"),
    ("LUAPACK_EXTENSION_POINT", "lib.hooks"), ("LUAPACK_MIXIN_DIR", "hooks"),
    ("LUAPACK_STRIP_COMMENTS", " Yes ")]

theorem linkFree_strayingUser : strayingUser.LinkFree :=
  (Disk.isTree_of_fits (by decide)).linkFree

theorem describes_user_strayingUser :
    Describes strayingUser ⟨"/home/.config/luapack/luapack.toml"⟩
      { mixinDir := some ⟨"../shared"⟩, outputDir := some ⟨"out"⟩ } :=
  ⟨_, Disk.readText_of_file linkFree_strayingUser (by decide) rfl, by decide +kernel⟩

theorem describes_project_strayingUser :
    Describes strayingUser ⟨"luapack.toml"⟩
      { stripComments := some false, entryPrelude := some "-- tools" } :=
  ⟨_, Disk.readText_of_file linkFree_strayingUser (by decide) rfl, by decide +kernel⟩

theorem describes_named_strayingUser :
    Describes strayingUser ⟨"ci.toml"⟩
      { extensionPoint := some "lib.ci", entryPrelude := some "-- built" } :=
  ⟨_, Disk.readText_of_file linkFree_strayingUser (by decide) rfl, by decide +kernel⟩

/-- The layers of its three files. -/
def strayingUserLayers :
    FileLayers strayingUser strayingUserEnvironment (some ⟨"ci.toml"⟩) where
  user := some { mixinDir := some ⟨"../shared"⟩, outputDir := some ⟨"out"⟩ }
  project := some { stripComments := some false, entryPrelude := some "-- tools" }
  named := some { extensionPoint := some "lib.ci", entryPrelude := some "-- built" }
  user_rel := by
    have hfile : userFile? strayingUserEnvironment =
        some ⟨"/home/.config/luapack/luapack.toml"⟩ := by
      decide
    rw [hfile, Option.filter_some, if_pos describes_user_strayingUser.isFile]
    exact .some describes_user_strayingUser
  project_rel := by
    rw [Option.filter_some, if_pos describes_project_strayingUser.isFile]
    exact .some describes_project_strayingUser
  named_rel := .some describes_named_strayingUser

/-- The layer of its environment. -/
def strayingUserVariables : Layer where
  sourceDir := some ⟨"scripts"⟩
  outputDir := some ⟨"build"⟩
  extensionPoint := some "lib.hooks"
  mixinDir := some ⟨"hooks"⟩
  stripComments := some true

theorem eq_strayingUserVariables {l : Layer} (h : Sets strayingUserEnvironment l) :
    l = strayingUserVariables :=
  h.unique
    { sourceDir := rfl
      outputDir := rfl
      extensionPoint := rfl
      mixinDir := rfl
      stripComments := by decide
      entryPrelude := rfl }

/-- Where the environment sets a field, the files do not matter, and where the command line does,
the environment does not.  The prelude is the one of the file that the command line names. -/
theorem bundleProject_of_straying_user :
    (∃ events,
      bundleProject strayingUser strayingUserEnvironment { config := some ⟨"ci.toml"⟩ } =
        .ofRun (Project.run
          { settings :=
              { sourceDir := ⟨"scripts"⟩, outputDir := ⟨"build"⟩, extensionPoint := "lib.hooks",
                mixinDir := ⟨"hooks"⟩, stripComments := true, entryPrelude := some "-- built" }
            disk := strayingUser
            log := events } [] none)) ∧
    ∃ events,
      bundleProject strayingUser strayingUserEnvironment
          { config := some ⟨"ci.toml"⟩, source := some ⟨"lua"⟩, output := some ⟨"dist"⟩,
            keepComments := true } =
        .ofRun (Project.run
          { settings :=
              { sourceDir := ⟨"lua"⟩, outputDir := ⟨"dist"⟩, extensionPoint := "lib.hooks",
                mixinDir := ⟨"hooks"⟩, stripComments := false, entryPrelude := some "-- built" }
            disk := strayingUser
            log := events } [] none) := by
  have hrun : ∀ a : Arguments, a.config = some ⟨"ci.toml"⟩ → ∃ events,
      bundleProject strayingUser strayingUserEnvironment a =
        .ofRun (Project.run
          { settings := stacked (strayingUserLayers.layers ++ [strayingUserVariables, a.layer])
            disk := strayingUser
            log := events } a.entries a.mixins?) := by
    intro a hconfig
    obtain ⟨hfails, -, hruns⟩ := bundleProject_by_layers strayingUser strayingUserEnvironment a
    rw [hconfig] at hfails hruns
    cases hload : load strayingUser strayingUserEnvironment (some ⟨"ci.toml"⟩) with
    | mk result events =>
      cases result with
      | error e =>
        cases hfails.1 ⟨e, congrArg Prod.fst hload⟩ with
        | file happlies hnone =>
          obtain ⟨l, hl⟩ := nonempty_fileLayers_iff.1 ⟨strayingUserLayers⟩ _ happlies
          exact absurd hl (hnone l)
        | boolean hvalue hnone =>
          cases hvalue
          exact absurd (by decide) (hnone true)
        | mixinDir F hl hc _ hname =>
          obtain rfl := Subsingleton.elim F strayingUserLayers
          obtain rfl := eq_strayingUserVariables hl
          have hdir : (stacked (strayingUserLayers.layers ++
              [strayingUserVariables])).mixinDir.components = [.normal "hooks"] := by
            decide
          rw [hdir] at hc
          exact absurd (List.mem_singleton.1 hc) (hname _)
      | ok s =>
        obtain ⟨F, l, hl, -, hrun⟩ := hruns s events hload
        obtain rfl := Subsingleton.elim F strayingUserLayers
        obtain rfl := eq_strayingUserVariables hl
        exact ⟨events.reverse, hrun⟩
  exact ⟨hrun { config := some ⟨"ci.toml"⟩ } rfl,
    hrun { config := some ⟨"ci.toml"⟩, source := some ⟨"lua"⟩, output := some ⟨"dist"⟩,
           keepComments := true } rfl⟩

end CommandLine
end LuaBundler
