/-
# Mixins lie below the source directory

Settings that have been read lead from the source directory inwards to the mixin directory
(`Settings.IsRead.isInward`), and the command line cannot change that: it says where the source
directory is, not where the mixins are in it.  So the path of whatever lies below the mixin
directory, also through symbolic links, has the components of the source directory before its own,
none of which leads out again (`exists_components_of_below`).  A scan for mixins may fail, but
never because a script lies elsewhere.

A mixin takes its name from those components without the extension of the last one
(`withoutExtension`).  They lead inwards too, with the exception of two file names
(`mixins_lie_below_source`): what is left of `..lua` and of `...lua` is the parent directory
(`mixin_path_leads_up_of_dots`).
-/

import LuaBundler.Project
import LuaBundler.Proofs.Layering
import LuaBundler.Proofs.Scripts

namespace LuaBundler

namespace Settings

variable {s : Settings}

/-- The settings were read from their layers, or from a document alone. -/
def IsRead (s : Settings) : Prop :=
  (∃ d env explicit, (load d env explicit).1 = .ok s) ∨ ∃ document, ofDocument document = .ok s

/-- **Settings that have been read are valid.** -/
theorem IsRead.validate (h : s.IsRead) : s.validate = .ok () := by
  rcases h with ⟨d, env, explicit, h⟩ | ⟨document, h⟩
  · obtain ⟨-, -, hvalid, -⟩ := load_eq_ok_iff.1 h
    exact hvalid
  · unfold ofDocument at h
    split at h
    · cases h
    next l hl =>
    cases hvalid : (l.over {}).validate with
    | error e =>
      rw [hvalid] at h
      cases h
    | ok _ =>
      rw [hvalid] at h
      cases h
      exact hvalid

/-- The mixin directory of settings that have been read leads inwards. -/
theorem IsRead.isInward (h : s.IsRead) : s.mixinDir.isInward = true :=
  Path.isInward_iff_forall.2 (validate_eq_ok_iff.1 h.validate)

end Settings

/-! ### Components without an extension -/

/-- A component whose extension is taken off.  The extension goes first, and then the dot before
it, if what is left is a name.  Of `..lua` two dots are left, which are none, and of `...lua`
three, which are one; both end as two dots. -/
def Component.withoutExtension : Component → Component
  | .normal name =>
    match Path.splitName name with
    | (_, none) => .normal name
    | (stem, some _) => if stem = "." ∨ stem = ".." then .parent else .normal stem
  | c => c

/-- The components of a path whose extension is taken off. -/
def withoutExtension (cs : List Component) : List Component :=
  cs.dropLast ++ (cs.getLast?.map Component.withoutExtension).toList

theorem withoutExtension_concat (init : List Component) (c : Component) :
    withoutExtension (init ++ [c]) = init ++ [c.withoutExtension] := by
  simp [withoutExtension]

section Script

variable {name : String} (hname : (Path.splitName name).2 = some "lua")

include hname

theorem withoutExtension_script : (Component.normal name).withoutExtension =
    if (Path.splitName name).1 = "." ∨ (Path.splitName name).1 = ".." then .parent
    else .normal (Path.splitName name).1 := by
  have hsplit : Path.splitName name = ((Path.splitName name).1, some "lua") := Prod.ext rfl hname
  rw [Component.withoutExtension, hsplit]

theorem withoutExtension_script_ne_root : (Component.normal name).withoutExtension ≠ .root := by
  rw [withoutExtension_script hname]
  split <;> simp

/-- Two names of scripts lead up without the extension. -/
theorem withoutExtension_script_eq_parent_iff :
    (Component.normal name).withoutExtension = .parent ↔ name = "..lua" ∨ name = "...lua" := by
  have hlua : ∀ stem : String, (Path.splitName name).1 = stem ↔ name = stem ++ ".lua" := by
    intro stem
    obtain ⟨hsplit, -⟩ := Path.of_splitName hname
    rw [← String.toList_inj, ← String.toList_inj, hsplit, String.toList_append]
    exact (List.append_left_inj _).symm
  rw [withoutExtension_script hname, ite_eq_left_iff, hlua, hlua]
  simp [or_iff_not_imp_left]

/-- What the name of a mixin ends in. -/
theorem scriptStem_eq : scriptStem name = (Component.normal name).withoutExtension.text := by
  rw [withoutExtension_script hname, scriptStem]
  by_cases hdot : (Path.splitName name).1 = "."
  · simp [hdot, Component.text]
  by_cases hdots : (Path.splitName name).1 = ".."
  · simp [hdots, Component.text]
  · simp [hdot, hdots, Component.text]

/-- **The name of a mixin is made of its components without the extension.** -/
theorem mixinName_concat (init : List Component) : mixinName (init ++ [.normal name]) =
    ".".intercalate ((withoutExtension (init ++ [.normal name])).map Component.text) := by
  rw [withoutExtension_concat, List.map_append, List.map_singleton, ← scriptStem_eq hname]
  simp [mixinName, Component.text]

end Script

variable {s : Settings} {d : Disk} {f : Path}

/-- The components of the mixin directory are those of the source directory and then components
that lead inwards. -/
theorem Settings.exists_components_mixinRoot (h : s.mixinDir.isInward = true) :
    ∃ cs, s.mixinRoot.components = s.sourceDir.components ++ cs ∧
      ∀ c ∈ cs, c = .current ∨ ∃ name, c = .normal name := by
  have hdir := Path.isInward_iff_forall.1 h
  unfold mixinRoot
  rw [Path.components_join (Path.isInward_iff.1 h).1]
  split
  · next hempty =>
    refine ⟨s.mixinDir.components, ?_, hdir⟩
    rw [show s.sourceDir = ⟨""⟩ from congrArg Path.mk hempty]
    rfl
  · exact ⟨s.mixinDir.steps, rfl, fun c hc => .inr (Path.exists_name_of_mem_steps h hc)⟩

/-- **What is found at or below the mixin directory lies below the source directory.** -/
theorem exists_components_of_below (hinward : s.mixinDir.isInward = true) (hd : d.Named)
    (h : f = s.mixinRoot ∨ d.Below s.mixinRoot f) :
    ∃ cs, s.sourceDir.below? f = some cs ∧
      ∀ c ∈ cs, c = .current ∨ ∃ name, c = .normal name := by
  obtain ⟨cs, hroot, hcs⟩ := Settings.exists_components_mixinRoot hinward
  rcases h with rfl | h
  · exact ⟨cs, List.isPrefixOf?_eq_some_iff_append_eq.2 hroot.symm, hcs⟩
  · obtain ⟨names, -, hnames, rfl⟩ := h.exists_names hd
    refine ⟨cs ++ names.map .normal, List.isPrefixOf?_eq_some_iff_append_eq.2 ?_, ?_⟩
    · rw [Path.components_join_ofNames _ hnames, hroot, List.append_assoc]
    · simp only [List.forall_mem_append, List.forall_mem_map]
      exact ⟨hcs, fun name _ => .inr ⟨name, rfl⟩⟩

/-- Mixins are all named if they lie below the source directory. -/
theorem findMixins_ne_error {source root : Path}
    (h : ∀ f, d.Below root f → ∃ cs, source.below? f = some cs) (file : Path) :
    findMixins d source root ≠ .error (.mixinElsewhere file) := by
  unfold findMixins
  split
  · simp
  split
  · simp
  next files hfiles =>
  have hall : ∀ f ∈ files.filter d.isScript,
      mixinOf source f = .ok (mixinName ((source.below? f).getD [])) := by
    intro f hf
    obtain ⟨cs, hcs⟩ := h f (Disk.below_of_mem_scan hfiles (List.mem_of_mem_filter hf))
    simp only [mixinOf, hcs, Option.getD_some]
  rw [mapM_eq_ok_map hall]
  simp [Except.map]

/-- The last component of what is found below the mixin directory is its file name. -/
theorem exists_concat_of_below {source root : Path} {cs : List Component} (hd : d.Named)
    (h : d.Below root f) (hcs : source.below? f = some cs) (hroot : source.below? root ≠ none) :
    ∃ init name, cs = init ++ [.normal name] ∧ f.fileName? = some name := by
  obtain ⟨front, hfront⟩ := Option.ne_none_iff_exists'.1 hroot
  obtain ⟨names, hne, hnames, rfl⟩ := h.exists_names hd
  obtain ⟨init, name, rfl⟩ := (List.eq_nil_or_concat' names).resolve_left hne
  have hf := List.isPrefixOf?_eq_some_iff_append_eq.1 hcs
  have hroot := List.isPrefixOf?_eq_some_iff_append_eq.1 hfront
  rw [Path.components_join_ofNames _ hnames, ← hroot, List.append_assoc,
    List.append_cancel_left_eq, List.map_append, ← List.append_assoc] at hf
  refine ⟨front ++ init.map .normal, name, hf, ?_⟩
  rw [Path.fileName?, Path.components_join_ofNames _ hnames, List.map_append,
    ← List.append_assoc, List.map_singleton, List.getLast?_concat]

/-- **A scan for mixins stays below the source directory.**  The settings have been read, and
the command line may give another source or output directory.  On any disk the path of whatever
is found at the mixin directory or below, also through symbolic links, has the components of the
source directory and then others, none of them the root or a parent.  So no mixin is reported to
lie elsewhere.

The name of a mixin is made of those components without the extension.  None of them is the
root, and only the last can be a parent.  It is one exactly if the file is called `..lua` or
`...lua`. -/
theorem mixins_lie_below_source (hs : s.IsRead) (hd : d.Named) (a : CommandLine.Arguments) :
    (∀ f, f = (a.over s).mixinRoot ∨ d.Below (a.over s).mixinRoot f →
      ∃ cs, f.components = (a.over s).sourceDir.components ++ cs ∧
        (a.over s).sourceDir.below? f = some cs ∧ .parent ∉ cs ∧ .root ∉ cs) ∧
    (∀ files, d.filesBelow (a.over s).mixinRoot = .ok files →
      ∀ f ∈ files, d.Below (a.over s).mixinRoot f) ∧
    (∀ file, findMixins d (a.over s).sourceDir (a.over s).mixinRoot ≠
      .error (.mixinElsewhere file)) ∧
    ∀ f, d.Below (a.over s).mixinRoot f → d.isScript f = true →
      ∃ cs, (a.over s).sourceDir.below? f = some cs ∧
        mixinOf (a.over s).sourceDir f =
          .ok (".".intercalate ((withoutExtension cs).map Component.text)) ∧
        .root ∉ withoutExtension cs ∧ .parent ∉ (withoutExtension cs).dropLast ∧
        (.parent ∈ withoutExtension cs ↔
          f.fileName? = some "..lua" ∨ f.fileName? = some "...lua") := by
  have hinward : (a.over s).mixinDir.isInward = true := hs.isInward
  have hbelow : ∀ f, f = (a.over s).mixinRoot ∨ d.Below (a.over s).mixinRoot f →
      ∃ cs, (a.over s).sourceDir.below? f = some cs ∧ .parent ∉ cs ∧ .root ∉ cs := by
    intro f hf
    obtain ⟨cs, hbelow, hcs⟩ := exists_components_of_below hinward hd hf
    exact ⟨cs, hbelow, fun hmem => by simpa using hcs _ hmem, fun hmem => by simpa using hcs _ hmem⟩
  refine ⟨fun f hf => ?_, fun files hfiles f hf => Disk.below_of_mem_scan hfiles hf, ?_,
    fun f hf hscript => ?_⟩
  · obtain ⟨cs, hcs, hinside⟩ := hbelow f hf
    exact ⟨cs, (List.isPrefixOf?_eq_some_iff_append_eq.1 hcs).symm, hcs, hinside⟩
  · exact findMixins_ne_error fun f hf => (hbelow f (.inr hf)).imp fun cs h => h.1
  · obtain ⟨cs, hcs, hparent, hroot⟩ := hbelow f (.inr hf)
    obtain ⟨front, hfront, -⟩ := hbelow _ (.inl rfl)
    obtain ⟨init, name, rfl, hfile⟩ := exists_concat_of_below hd hf hcs (by simp [hfront])
    have hlua : (Path.splitName name).2 = some "lua" := by
      unfold Disk.isScript Path.extension? at hscript
      rw [hfile, Bool.and_eq_true, beq_iff_eq] at hscript
      exact hscript.2
    simp only [List.mem_append, List.mem_singleton, not_or] at hparent hroot
    refine ⟨_, hcs, ?_, ?_, ?_, ?_⟩
    · rw [← mixinName_concat hlua, mixinOf, hcs]
    · simpa [withoutExtension_concat, hroot.1] using
        (withoutExtension_script_ne_root hlua).symm
    · simpa [withoutExtension_concat] using hparent.1
    · rw [withoutExtension_concat, hfile, List.mem_append, List.mem_singleton,
        or_iff_right hparent.1, eq_comm, withoutExtension_script_eq_parent_iff hlua,
        Option.some.injEq, Option.some.injEq]

/-- A disk whose mixin directory holds a link to a directory outside of the source directory. -/
def linkedMixins : Disk where
  nodes := [(["src"], .dir), (["m", "src"], .dir), (["d", "m", "src"], .link ⟨"../../lib"⟩),
    (["lib"], .dir), (["x.lua", "lib"], .file "return 1".toUTF8)]
  workingDir := []

theorem list_linkedMixins :
    linkedMixins.list ⟨"./src/./m/"⟩ = .ok (["m", "src"], ["d"]) ∧
      linkedMixins.list ⟨"./src/./m/d"⟩ = .ok (["lib"], ["x.lua"]) := by
  have hpieces : (⟨"./src/./m/"⟩ : Path).pieces =
        [".".toList, "src".toList, ".".toList, "m".toList, []] ∧
      (⟨"./src/./m/d"⟩ : Path).pieces =
        [".".toList, "src".toList, ".".toList, "m".toList, "d".toList] ∧
      (⟨"../../lib"⟩ : Path).pieces = ["..".toList, "..".toList, "lib".toList] := by
    decide
  have hsize : "src".utf8ByteSize = 3 ∧ "m".utf8ByteSize = 1 ∧ "d".utf8ByteSize = 1 ∧
      "lib".utf8ByteSize = 3 ∧ "./src/./m/".utf8ByteSize = 10 ∧
      "./src/./m/d".utf8ByteSize = 11 := by decide
  constructor <;>
    simp [linkedMixins, Disk.list, Disk.locate, Disk.followFrom, hpieces, hsize, Disk.follow,
      Disk.at?, Disk.isDirAt, Disk.pathLimit, Path.isAbsolute, List.lookup_cons, Disk.maxName,
      Disk.maxLinks, Disk.namesAt]

theorem isScript_linkedMixins : linkedMixins.isScript ⟨"./src/./m/d/x.lua"⟩ = true := by
  have hpieces : (⟨"./src/./m/d/x.lua"⟩ : Path).pieces =
        [".".toList, "src".toList, ".".toList, "m".toList, "d".toList, "x.lua".toList] ∧
      (⟨"../../lib"⟩ : Path).pieces = ["..".toList, "..".toList, "lib".toList] := by
    decide
  have hsize : "src".utf8ByteSize = 3 ∧ "m".utf8ByteSize = 1 ∧ "d".utf8ByteSize = 1 ∧
      "x.lua".utf8ByteSize = 5 ∧ "lib".utf8ByteSize = 3 ∧
      "./src/./m/d/x.lua".utf8ByteSize = 17 := by decide
  have hfile : linkedMixins.isFile ⟨"./src/./m/d/x.lua"⟩ = true := by
    simp [linkedMixins, Disk.isFile, Disk.stat?, Disk.locate, Disk.followFrom, hpieces, hsize,
      Disk.follow, Disk.at?, Disk.isDirAt, Disk.pathLimit, Path.isAbsolute, List.lookup_cons,
      Disk.maxName, Disk.maxLinks]
  have hlua : (⟨"./src/./m/d/x.lua"⟩ : Path).extension? = some "lua" := by decide
  rw [Disk.isScript, hfile, hlua]
  rfl

/-- A script behind the link has its path below the source directory, with the extension and
without. -/
theorem mixins_lie_below_source_of_link :
    let s : Settings := { mixinDir := ⟨"./m/"⟩ }
    let a : CommandLine.Arguments := { source := some ⟨"./src"⟩ }
    let f : Path := ⟨"./src/./m/d/x.lua"⟩
    Settings.ofDocument "mixin_dir = './m/'".toList = .ok s ∧ linkedMixins.Named ∧
      linkedMixins.Below (a.over s).mixinRoot f ∧ linkedMixins.isScript f = true ∧
      (∃ cs, (a.over s).sourceDir.below? f = some cs ∧ .parent ∉ cs ∧ .root ∉ cs) ∧
      (∃ cs, (a.over s).sourceDir.below? f = some cs ∧
        mixinOf (a.over s).sourceDir f =
          .ok (".".intercalate ((withoutExtension cs).map Component.text)) ∧
        .root ∉ withoutExtension cs ∧ .parent ∉ withoutExtension cs) ∧
      ∀ file, findMixins linkedMixins (a.over s).sourceDir (a.over s).mixinRoot ≠
        .error (.mixinElsewhere file) := by
  intro s a f
  have hs : Settings.ofDocument "mixin_dir = './m/'".toList = .ok s := by decide +kernel
  have hd : linkedMixins.Named := Disk.named_of_nodes (by decide)
  have hroot : (a.over s).mixinRoot = ⟨"./src/./m/"⟩ := by decide
  have hfound : linkedMixins.Below (a.over s).mixinRoot f := by
    have hlink : (⟨"./src/./m/"⟩ : Path).join ⟨"d"⟩ = ⟨"./src/./m/d"⟩ := by decide
    have hfile : (⟨"./src/./m/d"⟩ : Path).join ⟨"x.lua"⟩ = f := by decide
    obtain ⟨hlist, hlinked⟩ := list_linkedMixins
    rw [hroot]
    refine .deeper hlist List.mem_cons_self ?_
    rw [hlink, ← hfile]
    exact .inside hlinked List.mem_cons_self
  have hscript : linkedMixins.isScript f = true := isScript_linkedMixins
  obtain ⟨hbelow, -, herror, hnamed⟩ := mixins_lie_below_source (.inr ⟨_, hs⟩) hd a
  obtain ⟨cs, -, hcs⟩ := hbelow f (.inr hfound)
  obtain ⟨cs', hcs', hname, hnoRoot, -, hparent⟩ := hnamed f hfound hscript
  have hnoParent : .parent ∉ withoutExtension cs' := hparent.not.2 (by decide)
  exact ⟨hs, hd, hfound, hscript, ⟨cs, hcs⟩, ⟨cs', hcs', hname, hnoRoot, hnoParent⟩, herror⟩

/-! ### A name that leads up -/

/-- A disk whose one mixin is called `..lua`. -/
def dottedMixin : Disk where
  nodes := [(["src"], .dir), (["mixin", "src"], .dir),
    (["..lua", "mixin", "src"], .file "return 1".toUTF8)]
  workingDir := []

theorem isTree_dottedMixin : dottedMixin.IsTree := Disk.isTree_of_fits (by decide)

theorem filesBelow_dottedMixin :
    dottedMixin.filesBelow ⟨"src/mixin"⟩ = .ok [⟨"src/mixin/..lua"⟩] := by
  have hlist : dottedMixin.list ⟨"src/mixin"⟩ = .ok (["mixin", "src"], ["..lua"]) := by
    rw [Disk.list_of_reaches isTree_dottedMixin.linkFree (by decide) (by decide)]
    decide
  have hjoin : (⟨"src/mixin"⟩ : Path).join ⟨"..lua"⟩ = ⟨"src/mixin/..lua"⟩ := by decide
  have hfile : dottedMixin.at? ["..lua", "mixin", "src"] = some (.file "return 1".toUTF8) := rfl
  have hscan : ∀ depth, dottedMixin.scan (depth + 1) [] ⟨"src/mixin"⟩ =
      .ok [⟨"src/mixin/..lua"⟩] := by
    intro depth
    rw [Disk.scan, hlist]
    simp only [List.mapM_cons, hjoin, hfile]
    rfl
  exact hscan 4095

theorem isScript_dottedMixin : dottedMixin.isScript ⟨"src/mixin/..lua"⟩ = true := by
  have hreach : dottedMixin.Reaches ⟨"src/mixin/..lua"⟩ := by decide
  have hfile : dottedMixin.at? (dottedMixin.placeOf ⟨"src/mixin/..lua"⟩) =
      some (.file "return 1".toUTF8) := rfl
  have hlua : (⟨"src/mixin/..lua"⟩ : Path).extension? = some "lua" := by decide
  rw [Disk.isScript, Disk.isFile, Disk.stat?_of_reaches isTree_dottedMixin.linkFree hreach, hfile,
    hlua]
  rfl

/-- **The path of a mixin can lead up.**  The settings have been read, and the one script that a
scan finds lies in the mixin directory.  Its path below the source directory is `mixin/..` without
the extension, and its name is made of that. -/
theorem mixin_path_leads_up_of_dots :
    let s : Settings := { sourceDir := ⟨"src"⟩ }
    let f : Path := ⟨"src/mixin/..lua"⟩
    Settings.ofDocument "source_dir = 'src'".toList = .ok s ∧ dottedMixin.IsTree ∧
      dottedMixin.filesBelow s.mixinRoot = .ok [f] ∧ dottedMixin.isScript f = true ∧
      s.sourceDir.below? f = some [.normal "mixin", .normal "..lua"] ∧
      withoutExtension [.normal "mixin", .normal "..lua"] = [.normal "mixin", .parent] ∧
      findMixins dottedMixin s.sourceDir s.mixinRoot = .ok ["mixin..."] := by
  intro s f
  have hroot : s.mixinRoot = ⟨"src/mixin"⟩ := by decide
  have hfiles : dottedMixin.filesBelow s.mixinRoot = .ok [f] := hroot ▸ filesBelow_dottedMixin
  have hscript : dottedMixin.isScript f = true := isScript_dottedMixin
  have hname : mixinOf s.sourceDir f = .ok "mixin..." := by decide
  have hmixins : findMixins dottedMixin s.sourceDir s.mixinRoot = .ok ["mixin..."] := by
    rw [findMixins, if_neg (not_not.2 (Disk.isDir_of_filesBelow hfiles)), hfiles]
    simp only [List.filter_cons_of_pos hscript, List.filter_nil, List.mapM_cons, List.mapM_nil,
      hname]
    exact congrArg Except.ok (List.mergeSort_singleton _)
  exact ⟨by decide +kernel, isTree_dottedMixin, hfiles, hscript, by decide,
    by decide, hmixins⟩

end LuaBundler
