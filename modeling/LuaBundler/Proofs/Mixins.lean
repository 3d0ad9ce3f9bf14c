/-
# Mixins and the files they come from

A mixin is named by the components of its path below the source directory, with dots between
them, and a module lies where its name leads with slashes for the dots.  The two undo each other
exactly if no component, the extension apart, holds a dot or a backslash
(`path?_mixinName_iff`).  Only such mixins are loaded from the files they were found as
(`mixin_leads_back_iff_isPlain`): the name made of `mixin/a.b.lua` is the one of
`mixin/a/b.lua`, if there is such a file, and otherwise leads nowhere.
-/

import LuaBundler.Project
import LuaBundler.Proofs.Reachability
import LuaBundler.Proofs.Scripts

namespace LuaBundler

/-! ## Names and paths -/

/-- Neither a separator of module names nor a character that they must not hold. -/
def IsPlainText (s : String) : Prop := '.' ∉ s.toList ∧ '\\' ∉ s.toList

/-- Components of the path of a script that hold no dot and no backslash, but for the
extension. -/
def IsPlain (cs : List Component) : Prop :=
  (∀ c ∈ cs.dropLast, IsPlainText c.text) ∧
    ∀ c ∈ cs.getLast?, IsPlainText (Path.splitName c.text).1

instance (s : String) : Decidable (IsPlainText s) := inferInstanceAs (Decidable (_ ∧ _))

instance (cs : List Component) : Decidable (IsPlain cs) := inferInstanceAs (Decidable (_ ∧ _))

/-- The path in which slashes separate the components. -/
def Path.ofComponents (cs : List Component) : Path := .ofNames (cs.map Component.text)

section Intercalate

variable {α : Type} {sep x : α} {parts : List (List α)} {part : List α}

theorem mem_intercalate_of_mem (h : part ∈ parts) (hx : x ∈ part) :
    x ∈ [sep].intercalate parts := by
  induction parts with
  | nil => cases h
  | cons first rest ih =>
    cases rest with
    | nil =>
      rw [List.mem_singleton.1 h] at hx
      simpa using hx
    | cons next rest =>
      rw [List.intercalate_cons_of_ne_nil (by simp), List.mem_append, List.mem_append]
      rcases List.mem_cons.1 h with rfl | h
      · exact .inl (.inl hx)
      · exact .inr (ih h)

theorem of_mem_intercalate (h : x ∈ [sep].intercalate parts) :
    x = sep ∨ ∃ part ∈ parts, x ∈ part := by
  induction parts with
  | nil => cases h
  | cons first rest ih =>
    cases rest with
    | nil => exact .inr ⟨first, List.mem_cons_self, by simpa using h⟩
    | cons next rest =>
      rw [List.intercalate_cons_of_ne_nil (by simp), List.mem_append, List.mem_append] at h
      rcases h with (h | h) | h
      · exact .inr ⟨first, List.mem_cons_self, h⟩
      · exact .inl (List.mem_singleton.1 h)
      · rcases ih h with h | ⟨part, hpart, hx⟩
        · exact .inl h
        · exact .inr ⟨part, List.mem_cons_of_mem _ hpart, hx⟩

/-- Mapped parts stand between mapped separators. -/
theorem map_intercalate {β : Type} (f : α → β) (sep : α) (parts : List (List α)) :
    ([sep].intercalate parts).map f = [f sep].intercalate (parts.map (List.map f)) := by
  induction parts with
  | nil => rfl
  | cons first rest ih =>
    cases rest with
    | nil => simp
    | cons next rest =>
      rw [List.intercalate_cons_of_ne_nil (by simp), List.map_append, List.map_append, ih]
      exact (List.intercalate_cons_of_ne_nil (by simp)).symm

end Intercalate

namespace Module

/-- What stands between the slashes of the path of a module holds no dot and no backslash. -/
theorem plain_of_path? {name : String} {p : Path} {parts : List (List Char)}
    (h : path? name = some p) (hp : p.text.toList = ['/'].intercalate parts ++ ".lua".toList) :
    ∀ part ∈ parts, '.' ∉ part ∧ '\\' ∉ part := by
  obtain ⟨hback, -, htext⟩ := path?_eq_some_iff.1 h
  rw [hp, List.append_left_inj] at htext
  have hmem : ∀ part ∈ parts, ∀ x ∈ part, ∃ c ∈ name.toList, slashed c = x := by
    intro part hpart x hx
    have hx' : x ∈ ['/'].intercalate parts := mem_intercalate_of_mem hpart hx
    rwa [htext, List.mem_map] at hx'
  refine fun part hpart => ⟨fun hdot => ?_, fun hslash => ?_⟩
  · obtain ⟨c, -, hc⟩ := hmem part hpart '.' hdot
    exact slashed_ne_dot c hc
  · obtain ⟨c, hc, he⟩ := hmem part hpart '\\' hslash
    unfold slashed at he
    split at he
    · cases he
    · exact hback (he ▸ hc)

/-- A name made of plain parts has a path, with slashes between the parts. -/
theorem path?_of_plain {name : String} {p : Path} {parts : List (List Char)} (hne : parts ≠ [])
    (hparts : ∀ part ∈ parts, part ≠ [] ∧ '/' ∉ part)
    (hplain : ∀ part ∈ parts, '.' ∉ part ∧ '\\' ∉ part)
    (hname : name.toList = ['.'].intercalate parts)
    (hp : p.text.toList = ['/'].intercalate parts ++ ".lua".toList) : path? name = some p := by
  have hkeep : ∀ part ∈ parts, part.map slashed = part := by
    intro part hpart
    have hslashed : ∀ c ∈ part, slashed c = c := fun c hc =>
      slashed_of_ne_dot fun he => (hplain part hpart).1 (he ▸ hc)
    exact (List.map_congr_left hslashed).trans (List.map_id part)
  have hslashed : name.toList.map slashed = ['/'].intercalate parts := by
    rw [hname, map_intercalate, List.map_congr_left hkeep, List.map_id']
    rfl
  refine path?_eq_some_iff.2 ⟨fun hback => ?_, fun hnil => ?_, by rw [hp, hslashed]⟩
  · rcases of_mem_intercalate (hname ▸ hback) with hback | ⟨part, hpart, hback⟩
    · cases hback
    · exact (hplain part hpart).2 hback
  · rw [namePieces_eq, hslashed,
      List.splitOn_intercalate _ (fun part hpart => (hparts part hpart).2) hne] at hnil
    exact (hparts [] hnil).1 rfl

end Module

/-- **The name of a mixin leads back to its file** exactly if its path is plain. -/
theorem path?_mixinName_iff {init : List Component} {last : String}
    (hlast : (Path.splitName last).2 = some "lua")
    (hcs : ∀ c ∈ init ++ [.normal last], c.text ≠ "" ∧ '/' ∉ c.text.toList) :
    Module.path? (mixinName (init ++ [.normal last])) =
        some (.ofComponents (init ++ [.normal last])) ↔
      IsPlain (init ++ [.normal last]) := by
  obtain ⟨hsplit, hstem⟩ := Path.of_splitName hlast
  have hnormal : (Component.normal last).text = last := rfl
  set stem := (Path.splitName last).1 with hstemdef
  set parts := init.map (fun c => c.text.toList) ++ [stem.toList] with hparts
  have hplain : IsPlain (init ++ [.normal last]) ↔
      ∀ part ∈ parts, '.' ∉ part ∧ '\\' ∉ part := by
    simp only [IsPlain, IsPlainText, List.dropLast_concat, List.getLast?_concat, hparts,
      List.forall_mem_append, List.forall_mem_map, List.forall_mem_singleton, Option.mem_some_iff,
      forall_eq', hnormal, hstemdef]
  have hfile : (Path.ofComponents (init ++ [.normal last])).text.toList =
      ['/'].intercalate parts ++ ".lua".toList := by
    rw [Path.ofComponents, Path.toList_ofNames, hparts, Module.intercalate_concat_append]
    simp [hnormal, hsplit, Function.comp_def]
  rw [hplain]
  refine ⟨fun h => Module.plain_of_path? h hfile, fun h => ?_⟩
  have hname : (mixinName (init ++ [.normal last])).toList = ['.'].intercalate parts := by
    -- the stem is no dot, so the name is made of it as it is
    have hdot : stem ≠ "." := by
      intro he
      exact (h stem.toList (by simp [hparts])).1 (by simp [he])
    have hscript : scriptStem last = stem := if_neg hdot
    unfold mixinName
    rw [String.toList_intercalate]
    simp [hnormal, hscript, hparts, Function.comp_def]
  refine Module.path?_of_plain (by simp [hparts]) ?_ h hname hfile
  simp only [hparts, List.forall_mem_append, List.forall_mem_map, List.forall_mem_singleton,
    Ne, String.toList_eq_nil_iff] at hcs ⊢
  refine ⟨hcs.1, hstem, fun hslash => hcs.2.2 ?_⟩
  rw [hnormal, hsplit]
  exact List.mem_append_left _ hslash

/-! ## Found files -/

/-- The script `f` is one of the files found, and lies below the source directory at `cs`. -/
structure IsMixin (d : Disk) (s : Settings) (files : List Path) (f : Path) (cs : List Component) :
    Prop where
  mem : f ∈ files
  script : d.isScript f = true
  below : s.sourceDir.below? f = some cs

variable {d : Disk} {s : Settings} {files : List Path} {f f' : Path} {cs cs' : List Component}

namespace IsMixin

/-- A mixin is found under names below the mixin directory.  Its components are those of the
mixin directory and then the names.  A dot that the mixin directory begins with counts only if
the path of the source directory is empty. -/
structure FoundAs (s : Settings) (f : Path) (cs : List Component) (names : List String) :
    Prop where
  ne_nil : names ≠ []
  isName : ∀ name ∈ names, Location.IsName name
  path : f = s.sourceDir.join (s.mixinDir.join (.ofNames names))
  relative : (s.mixinDir.join (.ofNames names)).isAbsolute = false
  components : ∃ first, (first = [] ∨ first = [Component.current]) ∧
    cs = first ++ (s.mixinDir.join (.ofNames names)).pieces.filterMap Component.ofPiece?

/-- **Every file found lies below the source directory**, under names below the mixin
directory. -/
theorem exists_foundAs (hd : d.IsTree) (hs : s.validate = .ok ())
    (hfiles : d.filesBelow s.mixinRoot = .ok files) (hf : f ∈ files) :
    ∃ cs, s.sourceDir.below? f = some cs ∧ ∃ names, FoundAs s f cs names := by
  have hinward : s.mixinDir.isInward = true := by
    unfold Settings.validate at hs
    split at hs
    · next h => exact h
    · cases hs
  have habs : s.mixinDir.isAbsolute = false := (Path.isInward_iff.1 hinward).1
  obtain ⟨names, hne, hnames, rfl⟩ := (Disk.below_of_mem_scan hfiles hf).exists_names hd.named
  have hrel : (Path.ofNames names).isAbsolute = false := Path.isAbsolute_of_isName hnames
  have hrel' : (s.mixinDir.join (.ofNames names)).isAbsolute = false :=
    (Path.isAbsolute_join hrel).trans habs
  obtain ⟨first, hfirst, hbelow⟩ := Path.below?_join (p := s.sourceDir) hrel'
  have hpath := Path.join_join (p := s.sourceDir) habs hrel
  exact ⟨_, by rw [← hbelow, ← hpath]; rfl, names, hne, hnames, hpath, hrel', first, hfirst, rfl⟩

variable {names : List String}

theorem FoundAs.filterMap_pieces (h : FoundAs s f cs names) :
    (s.mixinDir.join (.ofNames names)).pieces.filterMap Component.ofPiece? =
      s.mixinDir.lead.filterMap Component.ofPiece? ++ names.map .normal := by
  have hrel : (Path.ofNames names).isAbsolute = false := Path.isAbsolute_of_isName h.isName
  rw [Path.pieces_join hrel, Path.pieces_ofNames h.ne_nil fun n hn => (h.isName n hn).2,
    List.filterMap_append, Path.filterMap_ofPiece?_of_isName h.isName]

/-- The components of a mixin are written without slashes, and the last is a name. -/
theorem FoundAs.concat (h : FoundAs s f cs names) :
    (∀ c ∈ cs, c.text ≠ "" ∧ '/' ∉ c.text.toList) ∧ ∃ init last, cs = init ++ [.normal last] := by
  obtain ⟨first, hfirst, hcs⟩ := h.components
  refine ⟨fun c hc => ?_, ?_⟩
  · rcases List.mem_append.1 (hcs ▸ hc) with hc | hc
    · rcases hfirst with rfl | rfl
      · cases hc
      · rw [List.mem_singleton.1 hc]
        decide
    · obtain ⟨piece, hpiece, hp⟩ := List.mem_filterMap.1 hc
      rw [Path.text_of_ofPiece? hp, String.toList_ofList]
      refine ⟨fun he => ?_, Path.slash_notMem_of_mem_pieces hpiece⟩
      have hnone := Path.ofPiece?_eq_none_iff.2
        (.inl (by simpa using congrArg String.toList he : piece = []))
      rw [hp] at hnone
      cases hnone
  · rcases List.eq_nil_or_concat names with hnil | ⟨init, last, hnames⟩
    · exact absurd hnil h.ne_nil
    · exact ⟨first ++ (s.mixinDir.lead.filterMap Component.ofPiece? ++ init.map .normal), last,
        by rw [hcs, h.filterMap_pieces, hnames]; simp⟩

/-- Plain components do not begin with a dot. -/
theorem FoundAs.of_isPlain (h : FoundAs s f cs names) (hplain : IsPlain cs) :
    cs = (s.mixinDir.join (.ofNames names)).pieces.filterMap Component.ofPiece? := by
  obtain ⟨first, rfl | rfl, hcs⟩ := h.components
  · exact hcs
  · -- a leading dot is not the last component, so it must be plain, which it is not
    have hne : (s.mixinDir.join (.ofNames names)).pieces.filterMap Component.ofPiece? ≠ [] := by
      rw [h.filterMap_pieces]
      simpa using fun _ => h.ne_nil
    have hdot : Component.current ∈ cs.dropLast := by
      rw [hcs, List.dropLast_append_of_ne_nil hne]
      exact List.mem_cons_self
    exact absurd (hplain.1 _ hdot).1 (by decide)

/-- The name of a mixin leads back to its file exactly if its components are plain. -/
theorem path?_iff (h : IsMixin d s files f cs) (hfound : FoundAs s f cs names) :
    Module.path? (mixinName cs) = some (.ofComponents cs) ↔ IsPlain cs := by
  obtain ⟨hcs, init, last, rfl⟩ := hfound.concat
  refine path?_mixinName_iff ?_ hcs
  have hcomponents := List.isPrefixOf?_eq_some_iff_append_eq.1 h.below
  have hscript := h.script
  unfold Disk.isScript Path.extension? Path.fileName? at hscript
  rw [← hcomponents, ← List.append_assoc, List.getLast?_concat, Bool.and_eq_true,
    beq_iff_eq] at hscript
  exact hscript.2

/-- The file is read at its components seen from the source directory. -/
theorem readText_eq (hd : d.LinkFree) (h : IsMixin d s files f cs) (hfound : FoundAs s f cs names)
    (hplain : IsPlain cs) :
    d.readText (s.sourceDir.join (.ofComponents cs)) = d.readText f := by
  have htexts : cs.map Component.text =
      (s.mixinDir.join (.ofNames names)).names.filter Location.moves := by
    rw [hfound.of_isPlain hplain, Path.map_text_filterMap_ofPiece?]
    rfl
  have hreach : d.Reaches f := Disk.reaches_of_isFile hd (Bool.and_eq_true_iff.1 h.script).1
  rw [hfound.path] at hreach
  rw [Path.ofComponents, htexts, hfound.path]
  refine Disk.readText_ofNames_filter hd hfound.relative hreach ?_
  obtain ⟨-, init, last, hcs⟩ := hfound.concat
  rw [← htexts, hcs]
  simp

/-- Plain components are read off the name of a mixin, and the file off the components. -/
theorem eq_of_mixinName_eq {names' : List String} (h : IsMixin d s files f cs)
    (hfound : FoundAs s f cs names) (h' : IsMixin d s files f' cs')
    (hfound' : FoundAs s f' cs' names') (hplain : IsPlain cs) (hplain' : IsPlain cs')
    (he : mixinName cs' = mixinName cs) : f' = f := by
  have hpath := (h.path?_iff hfound).2 hplain
  rw [← he, (h'.path?_iff hfound').2 hplain', Option.some.injEq] at hpath
  have hpieces : ∀ {f cs names}, FoundAs s f cs names →
      (Path.ofComponents cs).pieces = (cs.map Component.text).map String.toList := by
    intro f cs names hf
    obtain ⟨hcs, init, last, hconcat⟩ := hf.concat
    refine Path.pieces_ofNames (by simp [hconcat]) fun name hname => ?_
    obtain ⟨c, hc, rfl⟩ := List.mem_map.1 hname
    exact (hcs c hc).2
  have htexts := congrArg Path.pieces hpath
  rw [hpieces hfound, hpieces hfound', hfound.of_isPlain hplain, hfound'.of_isPlain hplain',
    hfound.filterMap_pieces, hfound'.filterMap_pieces, List.map_append, List.map_append,
    List.map_append, List.map_append, List.append_cancel_left_eq] at htexts
  have hnames : names' = names := by
    have hinj : Function.Injective String.toList := fun _ _ h => String.toList_injective h
    simpa [Function.comp_def, Component.text] using List.map_injective_iff.2 hinj htexts
  rw [hfound.path, hfound'.path, hnames]

end IsMixin

/-! ## Mixins in bundles -/

theorem Settings.extras_bundleOptions {mixins : List String} {name : String}
    (h : (s.bundleOptions mixins).reaches name = true) :
    (s.bundleOptions mixins).extras = mixins := by
  unfold Bundle.Options.reaches Bundle.Options.extensionPath? at h
  have hpoint : s.extensionPoint?.isSome = true := by
    cases hp : s.extensionPoint? with
    | some point => rfl
    | none => simp [bundleOptions, hp] at h
  simp [bundleOptions, hpoint]

/-- The extra modules follow a module at the path of the extension point. -/
theorem Bundle.mem_successors_of_reaches {l : Loader} {o : Options} {r : Resolver}
    {m name : String} (hm : o.reaches m = true) (hname : name ∈ o.extras) :
    name ∈ successors l o r m := by
  unfold Options.reaches at hm
  rw [Bool.and_eq_true, beq_iff_eq] at hm
  unfold successors
  rw [if_pos hm]
  exact List.mem_append_right _ hname

/-- What a script at the components `cs`, found among `files`, brings about if mixins are
named as `names`. -/
structure IsDelivered (d : Disk) (s : Settings) (files : List Path) (names : List String)
    (f : Path) (cs : List Component) : Prop where
  /-- At the path of its name lies the script itself. -/
  readText_eq : d.readText (s.sourceDir.join (.ofComponents cs)) = d.readText f
  /-- No other script with plain components has its name. -/
  unique : ∀ f' cs', IsMixin d s files f' cs' → IsPlain cs' → mixinName cs' = mixinName cs →
    f' = f
  /-- Every bundle that reaches the extension point holds it, made of its text unless a module
  of its name was stored before, and does not report it. -/
  bundled : ∀ {text}, d.readText f = .ok text → ∀ {entry r h b r'},
    Bundle.ofEntry (.ofDisk d s.sourceDir) (s.bundleOptions names) entry r h = (.ok b, r') →
    (∃ m ∈ b.modules, (s.bundleOptions names).reaches m = true) →
      mixinName cs ∈ b.modules ∧ mixinName cs ∉ b.unresolved.map Unresolved.name ∧
        r'.store.get? (mixinName cs) =
          some ((r.store.get? (mixinName cs)).getD (.ofSource (mixinName cs) text))

/-- The name of a file that lies below the source directory. -/
def Settings.mixinNameOf (s : Settings) (f : Path) : String :=
  mixinName ((s.sourceDir.below? f).getD [])

theorem IsMixin.mixinNameOf_eq (h : IsMixin d s files f cs) : s.mixinNameOf f = mixinName cs := by
  rw [Settings.mixinNameOf, h.below, Option.getD_some]

/-- Mixins are found if the directory can be scanned and all its files lie below the source
directory: one for each script. -/
theorem exists_findMixins (hfiles : d.filesBelow s.mixinRoot = .ok files)
    (hbelow : ∀ f ∈ files, ∃ cs, s.sourceDir.below? f = some cs) :
    ∃ names, findMixins d s.sourceDir s.mixinRoot = .ok names ∧
      names.Perm ((files.filter d.isScript).map s.mixinNameOf) := by
  have hnames : ∀ f ∈ files.filter d.isScript,
      mixinOf s.sourceDir f = .ok (s.mixinNameOf f) := by
    intro f hf
    obtain ⟨cs, hcs⟩ := hbelow f (List.mem_of_mem_filter hf)
    simp only [mixinOf, Settings.mixinNameOf, hcs, Option.getD_some]
  refine ⟨sortNames ((files.filter d.isScript).map s.mixinNameOf), ?_, List.mergeSort_perm _ _⟩
  unfold findMixins
  rw [if_neg (not_not.2 (Disk.isDir_of_filesBelow hfiles)), hfiles]
  simp only [mapM_eq_ok_map hnames]
  rfl

/-- **Which mixins lead back to their files.**  The disk is a tree and the settings are valid.
If the mixin directory can be scanned, everything found there lies below the source directory,
and there is one mixin for each script, named by the components of its path.

The path of a name is the path of its script exactly if the components are plain.  Then it is
this script that is loaded under the name, no other script with plain components has the name,
and bundles that reach the extension point hold the mixin. -/
theorem mixin_leads_back_iff_isPlain (hd : d.IsTree) (hs : s.validate = .ok ())
    (hfiles : d.filesBelow s.mixinRoot = .ok files) :
    (∀ f ∈ files, ∃ cs, s.sourceDir.below? f = some cs) ∧
      ∃ names, findMixins d s.sourceDir s.mixinRoot = .ok names ∧
        names.Perm ((files.filter d.isScript).map s.mixinNameOf) ∧
        ∀ f cs, IsMixin d s files f cs → s.mixinNameOf f = mixinName cs ∧
          (Module.path? (mixinName cs) = some (.ofComponents cs) ↔ IsPlain cs) ∧
            (IsPlain cs → IsDelivered d s files names f cs) := by
  have hfound := fun f (hf : f ∈ files) => IsMixin.exists_foundAs hd hs hfiles hf
  have hfoundAs : ∀ {f cs}, IsMixin d s files f cs → ∃ names, IsMixin.FoundAs s f cs names := by
    intro f cs h
    obtain ⟨cs', hbelow, hnames⟩ := hfound f h.mem
    obtain rfl := Option.some.inj (h.below.symm.trans hbelow)
    exact hnames
  have hbelow : ∀ f ∈ files, ∃ cs, s.sourceDir.below? f = some cs :=
    fun f hf => (hfound f hf).imp fun cs h => h.1
  obtain ⟨names, hnames, hperm⟩ := exists_findMixins hfiles hbelow
  refine ⟨hbelow, names, hnames, hperm, fun f cs h => ?_⟩
  obtain ⟨below, hfoundf⟩ := hfoundAs h
  refine ⟨h.mixinNameOf_eq, h.path?_iff hfoundf, fun hplain => ?_⟩
  have hread := h.readText_eq hd.linkFree hfoundf hplain
  refine ⟨hread, ?_, ?_⟩
  · intro f' cs' h' hplain' he
    obtain ⟨below', hfoundf'⟩ := hfoundAs h'
    exact h.eq_of_mixinName_eq hfoundf h' hfoundf' hplain hplain' he
  · rintro text htext entry r hends b r' hb ⟨m, hm, hreaches⟩
    have hextra : mixinName cs ∈ (s.bundleOptions names).extras := by
      rw [Settings.extras_bundleOptions hreaches, hperm.mem_iff, ← h.mixinNameOf_eq]
      exact List.mem_map_of_mem (List.mem_filter.2 ⟨h.mem, h.script⟩)
    have hload : (Loader.ofDisk d s.sourceDir).load r.requests (.ofComponents cs) = .ok text :=
      Loader.load_ofDisk_eq_ok_iff.2 (hread.trans htext)
    obtain ⟨raw, hraw, -⟩ := Bundle.exists_of_ofEntry_eq_ok hb
    exact Bundle.mem_modules_of_asked (Loader.steadyAfter_ofFun _ _) hb hraw
      (.inr ⟨m, hm, Bundle.mem_successors_of_reaches hreaches hextra⟩)
      ((h.path?_iff hfoundf).2 hplain) hload

/-! ### Two mixins of one name -/

/-- A project with an extension point and two mixins, `mixin/a.b.lua` and `mixin/a/b.lua`. -/
def twoMixins : Disk where
  nodes := [(["src"], .dir), (["main.lua", "src"], .file "require 'library.mixin'".toUTF8),
    (["library", "src"], .dir), (["mixin.lua", "library", "src"], .file "return 0".toUTF8),
    (["mixin", "src"], .dir), (["a.b.lua", "mixin", "src"], .file "return 1".toUTF8),
    (["a", "mixin", "src"], .dir), (["b.lua", "a", "mixin", "src"], .file "return 2".toUTF8)]
  workingDir := []

def twoMixinsSettings : Settings := { sourceDir := ⟨"src"⟩ }

theorem isTree_twoMixins : twoMixins.IsTree := Disk.isTree_of_fits (by decide +kernel)

theorem filesBelow_twoMixins :
    twoMixins.filesBelow twoMixinsSettings.mixinRoot =
      .ok [⟨"src/mixin/a.b.lua"⟩, ⟨"src/mixin/a/b.lua"⟩] := by
  have houter : twoMixins.list ⟨"src/mixin"⟩ = .ok (["mixin", "src"], ["a.b.lua", "a"]) := by
    rw [Disk.list_of_reaches isTree_twoMixins.linkFree (by decide +kernel) (by decide +kernel)]
    decide +kernel
  have hinner : twoMixins.list ⟨"src/mixin/a"⟩ = .ok (["a", "mixin", "src"], ["b.lua"]) := by
    rw [Disk.list_of_reaches isTree_twoMixins.linkFree (by decide +kernel) (by decide +kernel)]
    decide +kernel
  have hjoin : (⟨"src/mixin"⟩ : Path).join ⟨"a"⟩ = ⟨"src/mixin/a"⟩ ∧
      (⟨"src/mixin"⟩ : Path).join ⟨"a.b.lua"⟩ = ⟨"src/mixin/a.b.lua"⟩ ∧
      (⟨"src/mixin/a"⟩ : Path).join ⟨"b.lua"⟩ = ⟨"src/mixin/a/b.lua"⟩ := by decide +kernel
  have hscan : ∀ depth trail,
      twoMixins.scan (depth + 1) trail ⟨"src/mixin/a"⟩ = .ok [⟨"src/mixin/a/b.lua"⟩] := by
    intro depth trail
    rw [Disk.scan, hinner]
    simp only [List.mapM_cons, hjoin]
    rfl
  have hroot : ∀ depth, twoMixins.scan (depth + 2) [] ⟨"src/mixin"⟩ =
      .ok [⟨"src/mixin/a.b.lua"⟩, ⟨"src/mixin/a/b.lua"⟩] := by
    intro depth
    have hfile : twoMixins.at? ["a.b.lua", "mixin", "src"] =
      some (.file "return 1".toUTF8) := rfl
    have hdir : twoMixins.at? ["a", "mixin", "src"] = some .dir := rfl
    rw [Disk.scan, houter]
    simp only [List.mapM_cons, hjoin, hfile, hdir, hscan]
    rfl
  exact hroot 4094

theorem isMixin_twoMixins :
    IsMixin twoMixins twoMixinsSettings [⟨"src/mixin/a.b.lua"⟩, ⟨"src/mixin/a/b.lua"⟩]
        ⟨"src/mixin/a.b.lua"⟩ [.normal "mixin", .normal "a.b.lua"] ∧
      IsMixin twoMixins twoMixinsSettings [⟨"src/mixin/a.b.lua"⟩, ⟨"src/mixin/a/b.lua"⟩]
        ⟨"src/mixin/a/b.lua"⟩ [.normal "mixin", .normal "a", .normal "b.lua"] := by
  have hscript : ∀ {p : Path} {content : ByteArray}, twoMixins.Reaches p →
      twoMixins.at? (twoMixins.placeOf p) = some (.file content) → p.extension? = some "lua" →
      twoMixins.isScript p = true := by
    intro p content hreach hfile hext
    unfold Disk.isScript Disk.isFile
    rw [Disk.stat?_of_reaches isTree_twoMixins.linkFree hreach, hfile, hext]
    rfl
  exact ⟨⟨by simp, hscript (by decide +kernel) rfl (by decide +kernel), by decide +kernel⟩,
    ⟨by simp, hscript (by decide +kernel) rfl (by decide +kernel), by decide +kernel⟩⟩

theorem findMixins_twoMixins :
    findMixins twoMixins twoMixinsSettings.sourceDir twoMixinsSettings.mixinRoot =
      .ok ["mixin.a.b", "mixin.a.b"] := by
  obtain ⟨hdotted, hplain⟩ := isMixin_twoMixins
  obtain ⟨names, hnames, hperm⟩ := exists_findMixins filesBelow_twoMixins (by
    simpa using ⟨⟨_, hdotted.below⟩, ⟨_, hplain.below⟩⟩)
  rw [List.filter_cons_of_pos hdotted.script, List.filter_cons_of_pos hplain.script,
    List.filter_nil, List.map_cons, List.map_cons, List.map_nil, hdotted.mixinNameOf_eq,
    hplain.mixinNameOf_eq] at hperm
  have hsame : names = List.replicate 2 "mixin.a.b" := List.perm_replicate.1 hperm
  rw [hnames, hsame]
  rfl

/-- Both mixins get the same name, and it is not the first that lies at its path. -/
theorem two_mixins_of_one_name :
    twoMixins.IsTree ∧ twoMixinsSettings.validate = .ok () ∧
      findMixins twoMixins twoMixinsSettings.sourceDir twoMixinsSettings.mixinRoot =
        .ok ["mixin.a.b", "mixin.a.b"] ∧
      mixinOf twoMixinsSettings.sourceDir ⟨"src/mixin/a.b.lua"⟩ = .ok "mixin.a.b" ∧
      mixinOf twoMixinsSettings.sourceDir ⟨"src/mixin/a/b.lua"⟩ = .ok "mixin.a.b" ∧
      Module.path? "mixin.a.b" ≠ some ⟨"mixin/a.b.lua"⟩ :=
  ⟨isTree_twoMixins, by decide +kernel, findMixins_twoMixins, by decide +kernel,
    by decide +kernel, by decide +kernel⟩

/-- The other one is the mixin that bundles hold. -/
theorem mixin_leads_back_of_two :
    Module.path? "mixin.a.b" = some ⟨"mixin/a/b.lua"⟩ ∧
      ∃ h b r', Bundle.ofEntry (.ofDisk twoMixins twoMixinsSettings.sourceDir)
          (twoMixinsSettings.bundleOptions ["mixin.a.b", "mixin.a.b"]) "main.lua"
          { store := .empty } h = (.ok b, r') ∧
        "mixin.a.b" ∈ b.modules ∧
        r'.store.get? "mixin.a.b" = some (.ofSource "mixin.a.b" "return 2".toList) := by
  have hd := isTree_twoMixins.linkFree
  obtain ⟨-, names, hnames, -, hmixin⟩ :=
    mixin_leads_back_iff_isPlain isTree_twoMixins (by decide +kernel) filesBelow_twoMixins
  obtain rfl := Except.ok.inj (findMixins_twoMixins.symm.trans hnames)
  obtain ⟨-, hpath, hdelivered⟩ := hmixin _ _ isMixin_twoMixins.2
  have hplain : IsPlain [.normal "mixin", .normal "a", .normal "b.lua"] := by decide +kernel
  have hread : twoMixins.readText ⟨"src/mixin/a/b.lua"⟩ = .ok "return 2".toList :=
    Disk.readText_of_file hd (by decide +kernel) rfl
  have hentry : (Loader.ofDisk twoMixins twoMixinsSettings.sourceDir).load [] ⟨"main.lua"⟩ =
      .ok "require 'library.mixin'".toList :=
    Loader.load_ofDisk_eq_ok_iff.2 (Disk.readText_of_file hd (by decide +kernel) rfl)
  have hpoint : (Loader.ofDisk twoMixins twoMixinsSettings.sourceDir).load []
      ⟨"library/mixin.lua"⟩ = .ok "return 0".toList :=
    Loader.load_ofDisk_eq_ok_iff.2 (Disk.readText_of_file hd (by decide +kernel) rfl)
  obtain ⟨h, b, r', hb⟩ : ∃ h b r',
      Bundle.ofEntry (.ofDisk twoMixins twoMixinsSettings.sourceDir)
        (twoMixinsSettings.bundleOptions ["mixin.a.b", "mixin.a.b"]) "main.lua"
        { store := .empty } h = (.ok b, r') :=
    ⟨Bundle.ends_of_finite _ _ (Loader.finite_ofDisk _ _) _, _, _,
      Bundle.ofEntry_of_ok _ hentry⟩
  have hreached : "library.mixin" ∈ b.modules :=
    (Bundle.mem_modules_of_asked (Loader.steadyAfter_ofFun _ _) hb hentry
      (.inl (by decide +kernel)) (by decide +kernel) hpoint).1
  obtain ⟨hmem, -, hstored⟩ :=
    (hdelivered hplain).bundled hread hb ⟨"library.mixin", hreached, by decide +kernel⟩
  exact ⟨hpath.2 hplain, h, b, r', hb, hmem, hstored⟩

end LuaBundler
