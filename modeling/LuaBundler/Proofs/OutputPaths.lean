/-
# Where bundles are written

An entry is accepted if it is a file path that leads inwards.  Its bundle is written at its own
steps behind those of the output directory (`Project.steps_of_outputPath?`), so two entries have
the same output path, dots apart, exactly if they name the same source file
(`Project.steps_output_eq_iff`).

Unless symbolic links lie below the output directory, different steps lead to different places
(`Path.walk_names_eq_iff`).  So a bundle that a run has written stays there until the run bundles
the same entry again (`Project.Stands.runEntries`).  A link in the output directory may lead one
bundle over another (`Project.run_writes_over_bundle`).
-/

import LuaBundler.Proofs.Links
import LuaBundler.Proofs.Runs
import LuaBundler.Proofs.Scripts

namespace LuaBundler

/-! ## Paths that lead inwards -/

namespace Location

/-- Names that never turn to a parent lead downwards, each but for those that do not move. -/
theorem walk_eq_append {loc : Location} {names : List String} (h : ".." ∉ names) :
    loc.walk names = (names.filter moves).reverse ++ loc := by
  induction names generalizing loc with
  | nil => rfl
  | cons name names ih =>
    obtain ⟨hname, hnames⟩ := List.ne_and_not_mem_of_not_mem_cons h
    rw [walk_cons, ih hnames]
    cases hmoves : moves name with
    | true =>
      have hdown : Descends name := by
        refine descends_of_not (fun hstay => ?_) (Ne.symm hname)
        rcases hstay with rfl | rfl <;> cases hmoves
      rw [List.filter_cons_of_pos hmoves, turn_of_descends hdown, List.reverse_cons,
        List.append_assoc]
      rfl
    | false => rw [List.filter_cons_of_neg (by simp [hmoves]), turn_of_not_moves hmoves]

end Location

namespace Path

variable {p q q' : Path}

theorem steps_ne_nil (h : p.fileName?.isSome) : p.steps ≠ [] := by
  unfold fileName? at h
  split at h
  · next name hlast =>
    exact List.ne_nil_of_mem (List.mem_filter.2 ⟨List.mem_of_getLast? hlast, rfl⟩)
  · cases h

/-- The steps of a relative path are written as its names that move. -/
theorem map_text_steps (h : p.isAbsolute = false) :
    p.steps.map Component.text = p.names.filter Location.moves := by
  rw [steps_eq, h, if_neg Bool.false_ne_true, List.nil_append, map_text_filterMap_ofPiece?]
  rfl

/-- **Paths that lead inwards lead to the same place exactly if they have the same steps.** -/
theorem walk_names_eq_iff {start : Location} (hq : q.isInward = true) (hq' : q'.isInward = true) :
    start.walk q.names = start.walk q'.names ↔ q.steps = q'.steps := by
  have hnames : ∀ {p : Path}, p.isInward = true →
      p.steps = (p.names.filter Location.moves).map .normal := by
    intro p hp
    rw [← map_text_steps (isInward_iff.1 hp).1, List.map_map]
    refine ((List.map_congr_left fun c hc => ?_).trans (List.map_id _)).symm
    obtain ⟨name, rfl⟩ := exists_name_of_mem_steps hp hc
    rfl
  rw [Location.walk_eq_append (Disk.not_mem_names_of_isInward hq),
    Location.walk_eq_append (Disk.not_mem_names_of_isInward hq'), List.append_left_inj,
    List.reverse_inj, hnames hq, hnames hq']
  exact ⟨fun h => by rw [h], fun h => List.map_injective_iff.2 (fun _ _ => Component.normal.inj) h⟩

end Path

namespace Project

variable {s : Settings} {entry entry' : String} {output output' : Path}

/-! ## Output paths -/

/-- **An output path is the one of the output directory and then the steps of the entry**, of
which there are some, all of them names. -/
theorem steps_of_outputPath? (h : outputPath? s entry = some output) :
    output.steps = s.outputDir.steps ++ (⟨entry⟩ : Path).steps ∧ (⟨entry⟩ : Path).steps ≠ [] ∧
      ∀ c ∈ (⟨entry⟩ : Path).steps, ∃ name, c = .normal name := by
  obtain ⟨hinward, hfile, rfl⟩ := outputPath?_eq_some_iff.1 h
  exact ⟨Path.steps_join (Path.isInward_iff.1 hinward).1, Path.steps_ne_nil hfile,
    fun c hc => Path.exists_name_of_mem_steps hinward hc⟩

/-- An output path lies strictly below the output directory. -/
theorem below?_of_outputPath? (h : outputPath? s entry = some output) :
    ∃ first, (first = [] ∨ first = [Component.current]) ∧
      s.outputDir.below? output = some (first ++ (⟨entry⟩ : Path).steps) := by
  obtain ⟨hinward, -, rfl⟩ := outputPath?_eq_some_iff.1 h
  have habs := (Path.isInward_iff.1 hinward).1
  have hsteps : (⟨entry⟩ : Path).steps =
      (⟨entry⟩ : Path).pieces.filterMap Component.ofPiece? := by
    rw [Path.steps_eq, habs]
    rfl
  rw [hsteps]
  exact Path.below?_join habs

/-- **Entries with the same output path, dots apart, name the same source file.** -/
theorem steps_output_eq_iff (h : outputPath? s entry = some output)
    (h' : outputPath? s entry' = some output') :
    (output.steps = output'.steps ↔ (⟨entry⟩ : Path).steps = (⟨entry'⟩ : Path).steps) ∧
      ((⟨entry⟩ : Path).steps = (⟨entry'⟩ : Path).steps ↔
        (s.sourceDir.join ⟨entry⟩).steps = (s.sourceDir.join ⟨entry'⟩).steps) := by
  have habs := (Path.isInward_iff.1 (outputPath?_eq_some_iff.1 h).1).1
  have habs' := (Path.isInward_iff.1 (outputPath?_eq_some_iff.1 h').1).1
  rw [(steps_of_outputPath? h).1, (steps_of_outputPath? h').1, Path.steps_join habs,
    Path.steps_join habs', List.append_right_inj, List.append_right_inj]
  exact ⟨Iff.rfl, Iff.rfl⟩

/-! ## Runs -/

/-- The job that is done for an entry, if its bundle is made and written. -/
def entryJob? (p : Project) (o : Bundle.Options) (entry : String) : Option Job :=
  match p.runEntry o entry with
  | (.error _, _) => none
  | (.ok (w, _), _) => (p.bundleEntry o entry).1.toOption.map fun b => ⟨entry, w.output, b⟩

/-- The jobs that are done when entries are bundled one after the other, up to the first that
fails. -/
def entriesJobs (p : Project) (o : Bundle.Options) : List String → List Job
  | [] => []
  | entry :: entries =>
    match p.entryJob? o entry with
    | none => []
    | some j => j :: (p.runEntry o entry).2.entriesJobs o entries

/-- The jobs that are done in a run. -/
def jobs (p : Project) (entries : List String) (mixins : Option (List String)) : List Job :=
  match p.chooseEntries entries with
  | (.error _, _) => []
  | (.ok entries, p) =>
    match p.chooseMixins mixins with
    | (.error _, _) => []
    | (.ok mixins, p) =>
      match p.makeOutputDir with
      | (.error _, _) => []
      | (.ok (), p) => p.entriesJobs (p.settings.bundleOptions mixins) entries

variable {p p' : Project} {o : Bundle.Options} {entries : List String} {d d' : Disk}
  {done : List Job}

theorem entryJob?_eq (p : Project) (o : Bundle.Options) (entry : String) : p.entryJob? o entry =
    match p.runEntry o entry with
    | (.error _, _) => none
    | (.ok (w, _), _) => (p.bundleEntry o entry).1.toOption.map fun b => ⟨entry, w.output, b⟩ := by
  rfl

theorem entriesJobs_nil (p : Project) (o : Bundle.Options) : p.entriesJobs o [] = [] := by rfl

theorem entriesJobs_cons (p : Project) (o : Bundle.Options) (entry : String)
    (entries : List String) : p.entriesJobs o (entry :: entries) =
      match p.entryJob? o entry with
      | none => []
      | some j => j :: (p.runEntry o entry).2.entriesJobs o entries := by rfl

theorem entriesJobs_of_ok {b : Bundle} {w : Written} {u : List Unresolved}
    (hb : (p.bundleEntry o entry).1 = .ok b) (hr : p.runEntry o entry = (.ok (w, u), p')) :
    p.entriesJobs o (entry :: entries) = ⟨entry, w.output, b⟩ :: p'.entriesJobs o entries := by
  have hjob : p.entryJob? o entry = some ⟨entry, w.output, b⟩ := by
    rw [entryJob?_eq, hr, hb]
    rfl
  rw [entriesJobs_cons, hjob, hr]

theorem entriesJobs_of_error {e : RunError} (hr : p.runEntry o entry = (.error e, p')) :
    p.entriesJobs o (entry :: entries) = [] := by
  have hjob : p.entryJob? o entry = none := by rw [entryJob?_eq, hr]
  rw [entriesJobs_cons, hjob]

/-- What writing a bundle comes to: directories are made, and the text is written if that
succeeds. -/
theorem exists_of_writeBundle {text : List Char} {result : Except RunError Unit}
    (h : p.writeBundle output text = (result, p')) :
    p'.settings = p.settings ∧ ∃ made, p.disk.Builds [] made ∧
      ((result = .ok () ∧ made.writeText output text = (.ok (), p'.disk)) ∨
        ((∃ e, result = .error e) ∧ p'.disk = made)) := by
  simp only [writeBundle] at h
  split at h
  · next fault made hmade =>
    cases h
    exact ⟨rfl, made, .of_grows (Disk.of_makeDirs hmade).1, .inr ⟨⟨_, rfl⟩, rfl⟩⟩
  next made hmade =>
  split at h
  · next fault written hwritten =>
    cases h
    exact ⟨rfl, made, .of_grows (Disk.of_makeDirs hmade).1,
      .inr ⟨⟨_, rfl⟩, Disk.of_writeText_error hwritten⟩⟩
  · next written hwritten =>
    cases h
    exact ⟨rfl, made, .of_grows (Disk.of_makeDirs hmade).1, .inl ⟨rfl, hwritten⟩⟩

/-- The jobs are done on the disk: the output directory can be entered, no links lie below it,
and the last bundle of each entry lies where the names of the entry lead from there. -/
structure Stands (s : Settings) (done : List Job) (d : Disk) : Prop where
  clear : d.ClearBelow s.outputDir
  output : ∀ j ∈ done, outputPath? s j.entry = some j.output
  bundle : ∃ start, d.StartsAt s.outputDir start ∧ ∀ before j later,
    done = before ++ j :: later →
    (∀ k ∈ later, (⟨k.entry⟩ : Path).steps ≠ (⟨j.entry⟩ : Path).steps) →
      d.locate j.output = .ok (.found (start.walk (⟨j.entry⟩ : Path).names)) ∧
        d.at? (start.walk (⟨j.entry⟩ : Path).names) =
          some (.file (String.ofList j.bundle.text).toUTF8)

namespace Stands

/-- Directories may be made. -/
theorem builds (h : Stands s done d) (hb : d.Builds [] d') : Stands s done d' := by
  obtain ⟨start, hs, hbundle⟩ := h.bundle
  refine ⟨hb.clearBelow hs h.clear, h.output, start, hb.startsAt hs, ?_⟩
  intro before j later hjobs hlast
  obtain ⟨hlocate, hfile⟩ := hbundle before j later hjobs hlast
  exact ⟨hb.locate hlocate, (hb.file_iff List.not_mem_nil).2 hfile⟩

/-- **One more bundle is written**, and those of other entries stay. -/
theorem concat {j : Job} (h : Stands s done d) (ho : outputPath? s j.entry = some j.output)
    (hw : d.writeText j.output j.bundle.text = (.ok (), d')) : Stands s (done ++ [j]) d' := by
  obtain ⟨hinward, -, houtput⟩ := outputPath?_eq_some_iff.1 ho
  rw [houtput] at hw
  obtain ⟨start, hs, hbuilds, hlocate, hfile⟩ := Disk.of_writeText_join hinward h.clear hw
  obtain ⟨start', hs', hbundle⟩ := h.bundle
  obtain rfl := hs.unique hs'
  refine ⟨hbuilds.clearBelow hs h.clear, ?_, start, hbuilds.startsAt hs, ?_⟩
  · rw [List.forall_mem_append, List.forall_mem_singleton]
    exact ⟨h.output, ho⟩
  intro before k later hjobs hlast
  rcases List.eq_nil_or_concat later with rfl | ⟨later, last, rfl⟩
  · obtain ⟨-, hk⟩ := List.append_inj' hjobs rfl
    obtain rfl := List.singleton_inj.1 hk
    rw [houtput]
    exact ⟨hlocate, hfile⟩
  · rw [List.concat_eq_append] at hjobs hlast
    rw [← List.cons_append, ← List.append_assoc] at hjobs
    obtain ⟨hbefore, hk⟩ := List.append_inj' hjobs rfl
    obtain rfl := List.singleton_inj.1 hk
    obtain ⟨hlocate', hfile'⟩ := hbundle before k later hbefore fun m hm =>
      hlast m (List.mem_append_left _ hm)
    have hother : start.walk (⟨k.entry⟩ : Path).names ≠ start.walk (⟨j.entry⟩ : Path).names := by
      have hk : outputPath? s k.entry = some k.output := h.output k (by simp [hbefore])
      rw [Ne, Path.walk_names_eq_iff (outputPath?_eq_some_iff.1 hk).1 hinward]
      exact (hlast j (by simp)).symm
    exact ⟨hbuilds.locate hlocate', (hbuilds.file_iff (by simpa using hother)).2 hfile'⟩

/-- An entry that is bundled and written becomes one more job. -/
theorem runEntry_ok (h : Stands s done p.disk) (hs : p.settings = s) {w : Written}
    {u : List Unresolved} (hr : EntryStep p o entry (.ok (w, u)) p') :
    ∃ b, (p.bundleEntry o entry).1 = .ok b ∧ w = ⟨entry, w.output, b.modules.length⟩ ∧
      p'.settings = s ∧ Stands s (done ++ [⟨entry, w.output, b⟩]) p'.disk := by
  obtain ⟨-, hsettings, hdisk, -⟩ := bundleEntry_eq p o entry
  cases hr with
  | @written b q q' output hb ho hw =>
    rw [hb] at hdisk hsettings
    obtain ⟨hsettings', made, hmade, ⟨-, hwritten⟩ | ⟨⟨e, he⟩, -⟩⟩ := exists_of_writeBundle hw
    · exact ⟨b, by rw [hb], rfl, (hsettings'.trans hsettings).trans hs,
        (h.builds (hdisk ▸ hmade)).concat (hs ▸ ho) hwritten⟩
    · cases he

/-- An entry at which a run fails leaves the jobs that were done. -/
theorem runEntry_error (h : Stands s done p.disk) {e : RunError}
    (hr : EntryStep p o entry (.error e) p') : Stands s done p'.disk := by
  obtain ⟨-, -, hdisk, -⟩ := bundleEntry_eq p o entry
  cases hr with
  | failed hb =>
    rw [hb] at hdisk
    exact hdisk ▸ h
  | elsewhere hb ho =>
    rw [hb] at hdisk
    exact hdisk ▸ h
  | refused hb ho hw =>
    rw [hb] at hdisk
    obtain ⟨-, made, hmade, ⟨he, -⟩ | ⟨-, he⟩⟩ := exists_of_writeBundle hw
    · cases he
    · rw [he]
      exact h.builds (hdisk ▸ hmade)

/-- **A run over entries does its jobs.** -/
theorem runEntries (h : Stands s done p.disk) (hs : p.settings = s) (o : Bundle.Options)
    (entries : List String) :
    Stands s (done ++ p.entriesJobs o entries) (p.runEntries o entries).2.disk ∧
      ∀ summary, (p.runEntries o entries).1 = .ok summary →
        summary.bundles = (p.entriesJobs o entries).map Job.written := by
  induction entries generalizing p done with
  | nil =>
    rw [runEntries_nil, entriesJobs_nil, List.append_nil]
    exact ⟨h, by rintro summary ⟨⟩; rfl⟩
  | cons entry entries ih =>
    have hstep := entryStep p o entry
    cases hr : p.runEntry o entry with
    | mk result p' =>
      rw [hr] at hstep
      cases result with
      | error e =>
        rw [entriesJobs_of_error hr, List.append_nil, runEntries_cons, hr]
        exact ⟨h.runEntry_error hstep, by simp⟩
      | ok written =>
        obtain ⟨w, u⟩ := written
        obtain ⟨b, hb, hw, hs', hnext⟩ := h.runEntry_ok hs hstep
        obtain ⟨hstands, hsummary⟩ := ih hnext hs'
        rw [entriesJobs_of_ok hb hr, runEntries_of_ok hr]
        rw [List.append_assoc] at hstands
        refine ⟨hstands, fun summary hrun => ?_⟩
        obtain ⟨rest, hrest, rfl⟩ := map_eq_ok_iff.1 hrun
        rw [List.map_cons, ← hsummary rest hrest, Job.written, ← hw]

end Stands

theorem of_chooseEntries {result : Except RunError (List String)}
    (h : p.chooseEntries entries = (result, p')) : p'.settings = p.settings ∧ p'.disk = p.disk := by
  unfold chooseEntries at h
  simp only at h
  split at h
  · cases h
    exact ⟨rfl, rfl⟩
  · split at h <;> cases h <;> exact ⟨rfl, rfl⟩

theorem of_chooseMixins {mixins : Option (List String)} {result : Except RunError (List String)}
    (h : p.chooseMixins mixins = (result, p')) : p'.settings = p.settings ∧ p'.disk = p.disk := by
  unfold chooseMixins at h
  split at h
  · cases h
    exact ⟨rfl, rfl⟩
  · simp only at h
    split at h <;> cases h <;> split <;> exact ⟨rfl, rfl⟩

theorem makeDirs_of_makeOutputDir (h : p.makeOutputDir = (.ok (), p')) :
    p'.settings = p.settings ∧ p.disk.makeDirs p.settings.outputDir = (.ok (), p'.disk) := by
  simp only [makeOutputDir] at h
  split at h
  · cases h
  · next made hmade =>
    cases h
    exact ⟨rfl, hmade⟩

/-- Once entries and mixins are chosen and the output directory is made, a run does its entries. -/
theorem run_of_makeOutputDir {mixins : Option (List String)} {entries' mixins' : List String}
    {p₁ p₂ p₃ : Project} (hentries : p.chooseEntries entries = (.ok entries', p₁))
    (hmixins : p₁.chooseMixins mixins = (.ok mixins', p₂))
    (hmade : p₂.makeOutputDir = (.ok (), p₃)) :
    p.jobs entries mixins = p₃.entriesJobs (p₃.settings.bundleOptions mixins') entries' ∧
      p.run entries mixins = p₃.runEntries (p₃.settings.bundleOptions mixins') entries' := by
  simp only [jobs, run, hentries, hmixins, hmade, and_self]

/-- What a run comes to: nothing is done and it fails, or it does its entries. -/
theorem run_cases (p : Project) (entries : List String) (mixins : Option (List String)) :
    (p.jobs entries mixins = [] ∧ ∃ e, (p.run entries mixins).1 = .error e) ∨
      ∃ (p' : Project) (o : Bundle.Options) (entries' : List String),
        p'.settings = p.settings ∧
        p.disk.makeDirs p.settings.outputDir = (.ok (), p'.disk) ∧
        p.jobs entries mixins = p'.entriesJobs o entries' ∧
        p.run entries mixins = p'.runEntries o entries' := by
  cases hentries : p.chooseEntries entries with
  | mk chosen p₁ =>
    cases chosen with
    | error e =>
      left
      simp only [jobs, run, hentries]
      exact ⟨trivial, e, rfl⟩
    | ok entries' =>
      cases hmixins : p₁.chooseMixins mixins with
      | mk chosen p₂ =>
        cases chosen with
        | error e =>
          left
          simp only [jobs, run, hentries, hmixins]
          exact ⟨trivial, e, rfl⟩
        | ok mixins' =>
          cases hmade : p₂.makeOutputDir with
          | mk made p₃ =>
            cases made with
            | error e =>
              left
              simp only [jobs, run, hentries, hmixins, hmade]
              exact ⟨trivial, e, rfl⟩
            | ok _ =>
              right
              obtain ⟨hsettings₁, hdisk₁⟩ := of_chooseEntries hentries
              obtain ⟨hsettings₂, hdisk₂⟩ := of_chooseMixins hmixins
              obtain ⟨hsettings₃, hdirs⟩ := makeDirs_of_makeOutputDir hmade
              have hsettings := hsettings₂.trans hsettings₁
              refine ⟨p₃, p₃.settings.bundleOptions mixins', entries', hsettings₃.trans hsettings,
                ?_, run_of_makeOutputDir hentries hmixins hmade⟩
              rwa [hsettings, hdisk₂, hdisk₁] at hdirs

/-- **The bundles of a run stay where they were written** until the same entry is bundled again,
unless symbolic links lie below the output directory. -/
theorem readText_of_jobs (entries : List String) (mixins : Option (List String))
    (hclear : (p.disk.makeDirs p.settings.outputDir).2.ClearBelow p.settings.outputDir) :
    (∀ j ∈ p.jobs entries mixins, outputPath? p.settings j.entry = some j.output) ∧
      (∀ summary, (p.run entries mixins).1 = .ok summary →
        summary.bundles = (p.jobs entries mixins).map Job.written) ∧
      ∀ before j later, p.jobs entries mixins = before ++ j :: later →
        (∀ k ∈ later, (⟨k.entry⟩ : Path).steps ≠ (⟨j.entry⟩ : Path).steps) →
          (p.run entries mixins).2.disk.readText j.output = .ok j.bundle.text := by
  rcases p.run_cases entries mixins with
    ⟨hjobs, e, he⟩ | ⟨p', o, entries', hsettings, hmade, hjobs, hrun⟩
  · rw [hjobs, he]
    simp
  rw [hmade] at hclear
  obtain ⟨start, hs⟩ := Disk.exists_startsAt_of_makeDirs hmade
  have hstart : Stands p.settings [] p'.disk := ⟨hclear, by simp, start, hs, by simp⟩
  obtain ⟨hstands, hsummary⟩ := hstart.runEntries hsettings o entries'
  rw [hjobs, hrun]
  refine ⟨hstands.output, hsummary, fun before j later hsplit hlast => ?_⟩
  obtain ⟨start', -, hbundle⟩ := hstands.bundle
  obtain ⟨hlocate, hfile⟩ := hbundle before j later hsplit hlast
  rw [Disk.readText_of_locate hlocate hfile, String.toList_ofList]

/-! ### Scripts without imports -/

/-- An entry without imports is bundled as it is, if nothing is put above it and no comments are
taken out. -/
theorem bundleEntry_of_no_imports {raw : List Char} (hl : p.loader.load [] ⟨entry⟩ = .ok raw)
    (hprelude : o.prelude = .none) (himports : Lua.imports raw = [])
    (hstrip : p.settings.stripComments = false) :
    (p.bundleEntry o entry).1 = .ok ⟨raw, [], []⟩ := by
  have hcontents : o.prelude.apply entry raw = raw := by rw [hprelude]; rfl
  have hend : ((Bundle.start o entry (o.prelude.apply entry raw)
      (p.resolver.ask p.loader ⟨entry⟩).2).after p.loader o entry 0).pending = [] := by
    rw [hcontents, Bundle.Walk.after, Bundle.start, himports]
    rfl
  obtain ⟨hresult, -⟩ := bundleEntry_eq p o entry
  rw [hresult, Bundle.ofEntry_eq_after (p.ends o entry) hl 0 hend, hcontents, hstrip]
  simp [Except.map, Bundle.ofWalk, Bundle.Walk.after, Bundle.start, Bundle.layout]

/-- Settings for scripts whose bundles are written as they are. -/
def plainSettings : Settings := { sourceDir := ⟨"src"⟩, stripComments := false }

/-- The job of a script that consists of `text`. -/
def plainJob (entry : String) (output : Path) (text : String) : Job :=
  ⟨entry, output, ⟨text.toList, [], []⟩⟩

/-- A script without imports is bundled and written as it is, and the other entries are left. -/
theorem exists_runEntries_of_plain {text : String} {loc : Location}
    (hs : p.settings = plainSettings) (hd : p.disk = d) (hprelude : o.prelude = .none)
    (hread : d.locate ((⟨"src"⟩ : Path).join ⟨entry⟩) = .ok (.found loc))
    (hfile : d.at? loc = some (.file text.toUTF8)) (himports : Lua.imports text.toList = [])
    (ho : outputPath? plainSettings entry = some output)
    (hdirs : d.makeDirs (output.parent?.getD ⟨""⟩) = (.ok (), d))
    (hw : d.writeText output text.toList = (.ok (), d')) :
    ∃ p' : Project, p'.settings = plainSettings ∧ p'.disk = d' ∧ ∀ entries,
      p.entriesJobs o (entry :: entries) = plainJob entry output text :: p'.entriesJobs o entries ∧
      (p.runEntries o (entry :: entries)).2 = (p'.runEntries o entries).2 := by
  have hl : p.loader.load [] ⟨entry⟩ = .ok text.toList := by
    rw [loader, Loader.load_ofDisk_eq_ok_iff, hs, hd]
    exact Disk.readText_of_locate hread hfile
  have hb := bundleEntry_of_no_imports hl hprelude himports (by rw [hs]; rfl)
  subst hd
  obtain ⟨p', hr, hsettings, hdisk⟩ := runEntry_of_writeText hb (hs ▸ ho) hdirs hw
  refine ⟨p', hsettings.trans hs, hdisk, fun entries => ⟨entriesJobs_of_ok hb hr, ?_⟩⟩
  rw [runEntries_of_ok hr]

/-- A script without imports is bundled and written if there is room for its bundle. -/
theorem exists_runEntries_of_room (text : String) (hd : d.LinkFree)
    (hs : p.settings = plainSettings) (hdisk : p.disk = d) (hprelude : o.prelude = .none)
    (hread : d.Reaches ((⟨"src"⟩ : Path).join ⟨entry⟩))
    (hfile : d.isFileAt (d.placeOf ((⟨"src"⟩ : Path).join ⟨entry⟩)) text.toUTF8 = true)
    (himports : Lua.imports text.toList = []) (ho : outputPath? plainSettings entry = some output)
    (hroom : HasRoomFor plainSettings d entry) :
    ∃ p' : Project, p'.settings = plainSettings ∧
      p'.disk = d.put (d.placeOf output) (.file text.toUTF8) ∧ ∀ entries,
        p.entriesJobs o (entry :: entries) =
          plainJob entry output text :: p'.entriesJobs o entries := by
  obtain ⟨hdir, hfree⟩ := hroom output ho
  have hwritten := Disk.writeText_of_hasRoom hd hfree text.toList
  rw [String.ofList_toList] at hwritten
  obtain ⟨p', hsettings, hdisk', hjobs⟩ := exists_runEntries_of_plain hs hdisk hprelude
    ((Disk.locate_eq_found_iff hd).2 ⟨hread, rfl⟩) (Disk.isFileAt_iff.1 hfile) himports ho
    (Disk.makeDirs_of_isDir hd hdir) hwritten
  exact ⟨p', hsettings, hdisk', fun entries => (hjobs entries).1⟩

/-! ## Output paths stay apart -/

/-- **Output paths are confined and meet only for the same entry.**  An entry is accepted if it
leads inwards and ends in a name.  The output path takes its steps behind those of the output
directory, and lies strictly below it.  Two output paths have the same steps exactly if the
entries do, which is when both are loaded from the same path.  So, unless symbolic links lie below
the output directory once it is made, no bundle of a run is written over one of another entry. -/
theorem output_paths_stay_apart :
    (∀ s entry output, outputPath? s entry = some output ↔
      ((∀ c ∈ (⟨entry⟩ : Path).components, c = .current ∨ ∃ name, c = .normal name) ∧
        ∃ name, (⟨entry⟩ : Path).fileName? = some name) ∧
      output = s.outputDir.join ⟨entry⟩) ∧
    (∀ s entry output, outputPath? s entry = some output →
      output.steps = s.outputDir.steps ++ (⟨entry⟩ : Path).steps ∧
      (∀ c ∈ (⟨entry⟩ : Path).steps, ∃ name, c = .normal name) ∧
      output.components = (if s.outputDir.text = "" then (⟨entry⟩ : Path).components
        else s.outputDir.components ++ (⟨entry⟩ : Path).steps) ∧
      ∃ c cs, s.outputDir.below? output = some (c :: cs)) ∧
    (∀ s entry entry' output output', outputPath? s entry = some output →
      outputPath? s entry' = some output' →
      (output.steps = output'.steps ↔ (⟨entry⟩ : Path).steps = (⟨entry'⟩ : Path).steps) ∧
      ((⟨entry⟩ : Path).steps = (⟨entry'⟩ : Path).steps ↔
        (s.sourceDir.join ⟨entry⟩).steps = (s.sourceDir.join ⟨entry'⟩).steps)) ∧
    ∀ (p : Project) (entries : List String) (mixins : Option (List String)),
      (p.disk.makeDirs p.settings.outputDir).2.ClearBelow p.settings.outputDir →
      (∀ summary, (p.run entries mixins).1 = .ok summary →
        summary.bundles = (p.jobs entries mixins).map Job.written) ∧
      ∀ before j later, p.jobs entries mixins = before ++ j :: later →
        outputPath? p.settings j.entry = some j.output ∧
        ((∀ k ∈ later, (⟨k.entry⟩ : Path).steps ≠ (⟨j.entry⟩ : Path).steps) →
          (p.run entries mixins).2.disk.readText j.output = .ok j.bundle.text) := by
  refine ⟨fun s entry output => ?_, fun s entry output h => ?_,
    fun s entry entry' output output' => steps_output_eq_iff, fun p entries mixins hclear => ?_⟩
  · rw [outputPath?_eq_some_iff, Path.isInward_iff_forall, and_assoc, Option.isSome_iff_exists]
  · obtain ⟨hsteps, hne, hnames⟩ := steps_of_outputPath? h
    obtain ⟨hinward, -, houtput⟩ := outputPath?_eq_some_iff.1 h
    obtain ⟨first, -, hbelow⟩ := below?_of_outputPath? h
    obtain ⟨c, cs, hcs⟩ := List.exists_cons_of_ne_nil (List.append_ne_nil_of_right_ne_nil first hne)
    refine ⟨hsteps, hnames, ?_, c, cs, hcs ▸ hbelow⟩
    rw [houtput, Path.components_join (Path.isInward_iff.1 hinward).1]
  · obtain ⟨houtput, hsummary, hread⟩ := readText_of_jobs entries mixins hclear
    refine ⟨hsummary, fun before j later hjobs => ⟨houtput j (by simp [hjobs]), ?_⟩⟩
    exact hread before j later hjobs

/-- A disk with two scripts of the same name, and directories for their bundles. -/
def twoMains : Disk where
  nodes := [(["src"], .dir), (["x", "src"], .dir), (["y", "src"], .dir),
    (["main.lua", "x", "src"], .file "return 1".toUTF8),
    (["main.lua", "y", "src"], .file "return 2".toUTF8),
    (["dist"], .dir), (["x", "dist"], .dir), (["y", "dist"], .dir)]
  workingDir := []

/-- The disk with the bundle of the first script. -/
def firstMainWritten : Disk :=
  twoMains.put (twoMains.placeOf ⟨"dist/x/main.lua"⟩) (.file "return 1".toUTF8)

theorem linkFree_twoMains : twoMains.LinkFree := (Disk.isTree_of_fits (by decide)).linkFree

theorem makeDirs_twoMains : twoMains.makeDirs ⟨"dist"⟩ = (.ok (), twoMains) :=
  Disk.makeDirs_of_isDir linkFree_twoMains
    ((Disk.isDir_iff linkFree_twoMains).2 ⟨by decide, by decide⟩)

theorem linkFree_firstMainWritten : firstMainWritten.LinkFree :=
  (Disk.grows_put (show twoMains.isDirAt _ = false by decide) "return 1").1.linkFree
    linkFree_twoMains

theorem jobs_twoMains :
    jobs { settings := plainSettings, disk := twoMains } ["x/main.lua", "y/main.lua"] (some []) =
      [plainJob "x/main.lua" ⟨"dist/x/main.lua"⟩ "return 1",
        plainJob "y/main.lua" ⟨"dist/y/main.lua"⟩ "return 2"] := by
  have hfirst : outputPath? plainSettings "x/main.lua" = some ⟨"dist/x/main.lua"⟩ := by decide
  have hsecond : outputPath? plainSettings "y/main.lua" = some ⟨"dist/y/main.lua"⟩ := by decide
  have hroom : HasRoomFor plainSettings twoMains "x/main.lua" :=
    hasRoomFor_of_hasRoom linkFree_twoMains hfirst (show _ = some ⟨"dist/x"⟩ by decide)
      (by decide) (by decide) (by decide)
  have hroom' : HasRoomFor plainSettings firstMainWritten "y/main.lua" :=
    hasRoomFor_of_hasRoom linkFree_firstMainWritten hsecond (show _ = some ⟨"dist/y"⟩ by decide)
      (by decide) (by decide) (by decide)
  let p : Project := ({ settings := plainSettings, disk := twoMains } : Project).note
    (.mixinsChosen 0)
  obtain ⟨p₁, hsettings, hdisk, hjobs⟩ := exists_runEntries_of_room "return 1" linkFree_twoMains
    (show p.settings = _ from rfl) rfl (show (plainSettings.bundleOptions []).prelude = _ from rfl)
    (by decide) (by decide) (by decide +kernel) hfirst hroom
  obtain ⟨p₂, -, -, hjobs'⟩ := exists_runEntries_of_room "return 2" linkFree_firstMainWritten
    hsettings hdisk (show (plainSettings.bundleOptions []).prelude = _ from rfl)
    (by decide) (by decide) (by decide +kernel) hsecond hroom'
  rw [(run_of_makeOutputDir rfl rfl (makeOutputDir_of_makeDirs makeDirs_twoMains)).1]
  exact (hjobs _).trans (by rw [hjobs', entriesJobs_nil])

/-- Scripts of the same name in different directories are bundled, and each bundle is there after
the run. -/
theorem output_paths_stay_apart_of_scripts :
    let p : Project := { settings := plainSettings, disk := twoMains }
    let entries := ["x/main.lua", "y/main.lua"]
    let first := plainJob "x/main.lua" ⟨"dist/x/main.lua"⟩ "return 1"
    let second := plainJob "y/main.lua" ⟨"dist/y/main.lua"⟩ "return 2"
    (p.disk.makeDirs p.settings.outputDir).2.ClearBelow p.settings.outputDir ∧
      p.jobs entries (some []) = [first, second] ∧
      (⟨second.entry⟩ : Path).steps ≠ (⟨first.entry⟩ : Path).steps ∧
      second.output.steps ≠ first.output.steps ∧
      (p.run entries (some [])).2.disk.readText first.output = .ok first.bundle.text ∧
      (p.run entries (some [])).2.disk.readText second.output = .ok second.bundle.text := by
  intro p entries first second
  have hclear : (p.disk.makeDirs p.settings.outputDir).2.ClearBelow p.settings.outputDir := by
    rw [show p.disk.makeDirs p.settings.outputDir = (.ok (), twoMains) from makeDirs_twoMains]
    exact linkFree_twoMains.clearBelow _
  have hne : (⟨second.entry⟩ : Path).steps ≠ (⟨first.entry⟩ : Path).steps := by decide
  obtain ⟨-, -, hmeet, hstay⟩ := output_paths_stay_apart
  obtain ⟨-, hread⟩ := hstay p entries (some []) hclear
  obtain ⟨hplaceFirst, hkept⟩ := hread [] first [second] jobs_twoMains
  obtain ⟨hplaceSecond, hlast⟩ := hread [first] second [] jobs_twoMains
  refine ⟨hclear, jobs_twoMains, hne, ?_, hkept (by simpa using hne), hlast (by simp)⟩
  rwa [Ne, (hmeet _ _ _ _ _ hplaceSecond hplaceFirst).1]

/-! ### A link in the output directory -/

/-- A disk with two scripts, and a link in the output directory. -/
def linkedOutput : Disk where
  nodes := [(["src"], .dir), (["a.lua", "src"], .file "return 1".toUTF8),
    (["b.lua", "src"], .file "return 2".toUTF8), (["dist"], .dir),
    (["b.lua", "dist"], .link ⟨"a.lua"⟩)]
  workingDir := []

/-- The disk with the bundle of the first script. -/
def firstWritten : Disk := linkedOutput.put ["a.lua", "dist"] (.file "return 1".toUTF8)

/-- The disk with the bundle of the second script, written where the link leads. -/
def secondWritten : Disk := firstWritten.put ["a.lua", "dist"] (.file "return 2".toUTF8)

theorem makeDirs_linkedOutput :
    linkedOutput.makeDirs ⟨"dist"⟩ = (.ok (), linkedOutput) ∧
      firstWritten.makeDirs ⟨"dist"⟩ = (.ok (), firstWritten) := by
  have hpieces : (⟨"dist"⟩ : Path).pieces = ["dist".toList] := by decide
  have hsize : "dist".utf8ByteSize = 4 := by decide
  constructor <;>
    simp [linkedOutput, firstWritten, Disk.put, Disk.makeDirs, Disk.makeFirst, Disk.makeDir,
      Disk.followFrom, hpieces, Disk.follow, Disk.at?, Disk.isDirAt, Disk.pathLimit,
      Path.isAbsolute, Disk.maxName, hsize, Disk.orDir, Disk.isDir, Disk.stat?, Disk.locate,
      List.lookup_cons]

/-- The scripts are read where they lie, and the second bundle is written where the link leads. -/
theorem followFrom_linkedOutput :
    linkedOutput.locate ⟨"src/a.lua"⟩ = .ok (.found ["a.lua", "src"]) ∧
      firstWritten.locate ⟨"src/b.lua"⟩ = .ok (.found ["b.lua", "src"]) ∧
      secondWritten.locate ⟨"dist/a.lua"⟩ = .ok (.found ["a.lua", "dist"]) ∧
      linkedOutput.followFrom .write ⟨"dist/a.lua"⟩ (⟨"dist/a.lua"⟩ : Path).pieces =
        .ok (.free ["a.lua", "dist"]) ∧
      firstWritten.followFrom .write ⟨"dist/b.lua"⟩ (⟨"dist/b.lua"⟩ : Path).pieces =
        .ok (.found ["a.lua", "dist"]) := by
  have hpieces : (⟨"src/a.lua"⟩ : Path).pieces = ["src".toList, "a.lua".toList] ∧
      (⟨"src/b.lua"⟩ : Path).pieces = ["src".toList, "b.lua".toList] ∧
      (⟨"dist/a.lua"⟩ : Path).pieces = ["dist".toList, "a.lua".toList] ∧
      (⟨"dist/b.lua"⟩ : Path).pieces = ["dist".toList, "b.lua".toList] ∧
      (⟨"a.lua"⟩ : Path).pieces = ["a.lua".toList] := by decide
  have hsize : "src".utf8ByteSize = 3 ∧ "dist".utf8ByteSize = 4 ∧ "a.lua".utf8ByteSize = 5 ∧
      "b.lua".utf8ByteSize = 5 ∧ "src/a.lua".utf8ByteSize = 9 ∧ "src/b.lua".utf8ByteSize = 9 ∧
      "dist/a.lua".utf8ByteSize = 10 ∧ "dist/b.lua".utf8ByteSize = 10 := by decide
  refine ⟨?_, ?_, ?_, ?_, ?_⟩ <;>
    simp [linkedOutput, firstWritten, secondWritten, Disk.put, Disk.locate, Disk.followFrom,
      hpieces, hsize, Disk.follow, Disk.at?, Disk.isDirAt, Disk.pathLimit, Path.isAbsolute,
      List.lookup_cons, Disk.maxName, Disk.maxLinks, Disk.endsInSlash]

theorem writeText_linkedOutput :
    linkedOutput.writeText ⟨"dist/a.lua"⟩ "return 1".toList = (.ok (), firstWritten) ∧
      firstWritten.writeText ⟨"dist/b.lua"⟩ "return 2".toList = (.ok (), secondWritten) := by
  obtain ⟨-, -, -, hwriteA, hwriteB⟩ := followFrom_linkedOutput
  have hfile : firstWritten.isDirAt ["a.lua", "dist"] = false := rfl
  simp only [Disk.writeText, Disk.writeBytes, hwriteA, hwriteB, hfile]
  exact ⟨rfl, rfl⟩

/-- The link of the second output path leads to the first one, and its bundle is written over the
other. -/
theorem run_writes_over_bundle :
    let p : Project := { settings := plainSettings, disk := linkedOutput }
    let first := plainJob "a.lua" ⟨"dist/a.lua"⟩ "return 1"
    let second := plainJob "b.lua" ⟨"dist/b.lua"⟩ "return 2"
    p.jobs ["a.lua", "b.lua"] (some []) = [first, second] ∧
      (⟨second.entry⟩ : Path).steps ≠ (⟨first.entry⟩ : Path).steps ∧
      (p.run ["a.lua", "b.lua"] (some [])).2.disk.readText first.output =
        .ok second.bundle.text ∧
      second.bundle.text ≠ first.bundle.text := by
  intro p first second
  obtain ⟨hreadA, hreadB, hlast, -, -⟩ := followFrom_linkedOutput
  obtain ⟨q, hsettings, hdisk, hjobs, hrun⟩ : ∃ q : Project, q.settings = plainSettings ∧
      q.disk = linkedOutput ∧
      p.jobs ["a.lua", "b.lua"] (some []) =
        q.entriesJobs (q.settings.bundleOptions []) ["a.lua", "b.lua"] ∧
      p.run ["a.lua", "b.lua"] (some []) =
        q.runEntries (q.settings.bundleOptions []) ["a.lua", "b.lua"] :=
    ⟨p.note (.mixinsChosen 0), rfl, rfl,
      run_of_makeOutputDir rfl rfl (makeOutputDir_of_makeDirs makeDirs_linkedOutput.1)⟩
  have hprelude : (q.settings.bundleOptions []).prelude = .none := by rw [hsettings]; rfl
  have hjoin : (⟨"src"⟩ : Path).join ⟨"a.lua"⟩ = ⟨"src/a.lua"⟩ ∧
      (⟨"src"⟩ : Path).join ⟨"b.lua"⟩ = ⟨"src/b.lua"⟩ := by decide
  have hparent : (⟨"dist/a.lua"⟩ : Path).parent? = some ⟨"dist"⟩ ∧
      (⟨"dist/b.lua"⟩ : Path).parent? = some ⟨"dist"⟩ := by decide
  obtain ⟨p₁, hsettings₁, hdisk₁, hfirst⟩ := exists_runEntries_of_plain hsettings hdisk hprelude
    (hjoin.1 ▸ hreadA) rfl (by decide +kernel) (show _ = some ⟨"dist/a.lua"⟩ by decide)
    (hparent.1 ▸ makeDirs_linkedOutput.1) writeText_linkedOutput.1
  obtain ⟨p₂, -, hdisk₂, hsecond⟩ := exists_runEntries_of_plain hsettings₁ hdisk₁ hprelude
    (hjoin.2 ▸ hreadB) rfl (by decide +kernel) (show _ = some ⟨"dist/b.lua"⟩ by decide)
    (hparent.2 ▸ makeDirs_linkedOutput.2) writeText_linkedOutput.2
  refine ⟨?_, by decide, ?_, by decide⟩
  · rw [hjobs, (hfirst _).1, (hsecond _).1, entriesJobs_nil]
  · rw [hrun, (hfirst _).2, (hsecond _).2, runEntries_nil, hdisk₂]
    exact Disk.readText_of_locate hlast rfl

end Project
end LuaBundler
