/-
# What a run leaves behind

A run bundles its entries one after the other with one store and writes each bundle before it
begins the next.  If no bundle is written over a file that the run reads, none of this shows:
each bundle is the one that an empty store and the disk at the start give (`freshBundle`), and
after the run each place written to holds the last bundle written there, while every other
file is as it was (`Holds`).  A run that fails at an entry has done just this for the entries
before it.

The argument is an invariant of the run (`Running`): the store holds what the disk at the start
would give again, and the disk has grown by the bundles written.  Whatever an entry asks for is
then answered as it was at the start (`Running.alike`), because a file that is read is an old
one.  That needs the directory to which paths are seen relatively, the source directory, to
have been there at the start; if it is reached through the output directory, which a run makes
first, the start is the disk with the output directory made.
-/

import Mathlib.Data.List.Induction
import LuaBundler.Project
import LuaBundler.Proofs.Answers
import LuaBundler.Proofs.Reachability
import LuaBundler.Proofs.Room
import LuaBundler.Proofs.SharedStore
import LuaBundler.Proofs.Tree

namespace LuaBundler

/-- The disk would not make a directory or write a file. -/
def RunError.isRefusal : RunError → Bool
  | outputDirFailed .. => true
  | dirFailed .. => true
  | writeFailed .. => true
  | _ => false

namespace Project

variable {s : Settings} {d d' base : Disk} {o : Bundle.Options} {entry : String}
  {p p' : Project}

/-! ## Single entries -/

/-- The finished bundle of an entry, made with an empty store from the files on a disk. -/
def freshBundle (s : Settings) (d : Disk) (o : Bundle.Options) (entry : String) :
    Except EntryError Bundle :=
  let r : Resolver := { store := .empty }
  let h := Bundle.ends_of_finite o entry (Loader.finite_ofDisk d s.sourceDir) r
  (Bundle.ofEntry (.ofDisk d s.sourceDir) o entry r h).1.map fun b =>
    { b with text := Bundle.layout s.stripComments b.text }

/-- The resolver with which a project bundles an entry. -/
def resolver (p : Project) : Resolver := { store := p.store, log := p.log }

/-- Bundling an entry comes to an end. -/
theorem ends (p : Project) (o : Bundle.Options) (entry : String) :
    Bundle.Ends p.loader o entry p.resolver :=
  Bundle.ends_of_finite o entry (Loader.finite_ofDisk p.disk p.settings.sourceDir) p.resolver

/-- The places of the files that are read when an entry is bundled. -/
def entryReads (p : Project) (o : Bundle.Options) (entry : String) : List Location :=
  let paths := (Bundle.ofEntry p.loader o entry p.resolver (p.ends o entry)).2.requests.map
    p.settings.sourceDir.join
  (paths.filter fun path => (p.disk.readText path).isOk).map p.disk.placeOf

theorem foldl_note (es : List Log.Event) (p : Project) :
    (es.foldl note p).settings = p.settings ∧ (es.foldl note p).disk = p.disk ∧
      (es.foldl note p).store = p.store := by
  induction es generalizing p with
  | nil => exact ⟨rfl, rfl, rfl⟩
  | cons e es ih => exact ih (p.note e)

/-- What bundling an entry gives, and what it changes: the store and the log. -/
theorem bundleEntry_eq (p : Project) (o : Bundle.Options) (entry : String) :
    let result := Bundle.ofEntry p.loader o entry p.resolver (p.ends o entry)
    (p.bundleEntry o entry).1 = result.1.map (fun b =>
        { b with text := Bundle.layout p.settings.stripComments b.text }) ∧
      (p.bundleEntry o entry).2.settings = p.settings ∧ (p.bundleEntry o entry).2.disk = p.disk ∧
      (p.bundleEntry o entry).2.store = result.2.store := by
  intro result
  have hresult : Bundle.ofEntry p.loader o entry { store := p.store, log := p.log }
      (Bundle.ends_of_finite o entry (Loader.finite_ofDisk p.disk p.settings.sourceDir)
        { store := p.store, log := p.log }) = result := rfl
  unfold bundleEntry
  simp only [hresult]
  cases hr : result with
  | mk answer r =>
    cases answer with
    | error e => exact ⟨rfl, rfl, rfl, rfl⟩
    | ok b =>
      obtain ⟨hsettings, hdisk, hstore⟩ := foldl_note
        (Bundle.layoutEvents p.settings.stripComments b.text)
        { p with store := r.store, log := r.log }
      exact ⟨rfl, hsettings, hdisk, hstore⟩

theorem outputPath?_eq_some_iff {output : Path} : outputPath? s entry = some output ↔
    (⟨entry⟩ : Path).isInward = true ∧ (⟨entry⟩ : Path).fileName?.isSome ∧
      output = s.outputDir.join ⟨entry⟩ := by
  simp only [outputPath?]
  split
  · next h => simp [h, eq_comm]
  · next h =>
    simp only [reduceCtorEq, false_iff]
    exact fun hall => h ⟨hall.1, hall.2.1⟩

/-- A bundle is written to a place below the output directory. -/
theorem placeOf_output {output : Path} (h : outputPath? s entry = some output) (d : Disk) :
    ∃ name below, d.placeOf output = name :: below ++ d.placeOf s.outputDir := by
  obtain ⟨hinward, hfile, rfl⟩ := outputPath?_eq_some_iff.1 h
  rw [Disk.placeOf_join d (Path.isInward_iff.1 hinward).1]
  refine Location.exists_walk_eq (Disk.not_mem_names_of_isInward hinward) ?_
  obtain ⟨piece, hpiece, hempty, hdot, hparent⟩ := Path.exists_piece_of_fileName? hfile
  refine ⟨String.ofList piece, List.mem_map_of_mem hpiece, ?_, ?_, ?_⟩
  · exact fun he => hempty (by simpa using congrArg String.toList he)
  · exact fun he => hdot (by simpa using congrArg String.toList he)
  · exact fun he => hparent (by simpa using congrArg String.toList he)

/-- What writing a bundle does to the disk, and nothing else. -/
theorem of_writeBundle {output : Path} {text : List Char} {result : Except RunError Unit}
    (hd : p.disk.LinkFree) (h : p.writeBundle output text = (result, p')) :
    p'.settings = p.settings ∧ p'.store = p.store ∧
      match result with
      | .ok () => p.disk.Grows [p.disk.placeOf output] p'.disk ∧
          p'.disk.readText output = .ok text
      | .error e => p.disk.Grows [] p'.disk ∧ e.isRefusal = true := by
  simp only [writeBundle] at h
  split at h
  · next fault made hmade =>
    cases h
    exact ⟨rfl, rfl, (Disk.of_makeDirs hmade).1, rfl⟩
  next made hmade =>
  obtain ⟨hgrows, -⟩ := Disk.of_makeDirs hmade
  split at h
  · next fault written hwritten =>
    cases h
    obtain rfl := Disk.of_writeText_error hwritten
    exact ⟨rfl, rfl, hgrows, rfl⟩
  · next written hwritten =>
    cases h
    obtain ⟨hgrows', hread⟩ := Disk.of_writeText (hgrows.linkFree hd) hwritten
    rw [hgrows.placeOf] at hgrows'
    exact ⟨rfl, rfl, hgrows.trans hgrows', hread⟩

/-- What an entry of a run can come to: the answer and the project after it. -/
inductive EntryStep (p : Project) (o : Bundle.Options) (entry : String) :
    Except RunError (Written × List Unresolved) → Project → Prop
  /-- The entry cannot be loaded. -/
  | failed {e : EntryError} {q : Project} (hb : p.bundleEntry o entry = (.error e, q)) :
      EntryStep p o entry (.error (.entryFailed e)) q
  /-- There is no place for the bundle. -/
  | elsewhere {b : Bundle} {q : Project} (hb : p.bundleEntry o entry = (.ok b, q))
      (ho : outputPath? p.settings entry = none) :
      EntryStep p o entry (.error (.entryElsewhere entry)) q
  /-- The bundle is not written. -/
  | refused {b : Bundle} {q q' : Project} {output : Path} {e : RunError}
      (hb : p.bundleEntry o entry = (.ok b, q)) (ho : outputPath? p.settings entry = some output)
      (hw : q.writeBundle output b.text = (.error e, q')) : EntryStep p o entry (.error e) q'
  /-- The bundle is written. -/
  | written {b : Bundle} {q q' : Project} {output : Path}
      (hb : p.bundleEntry o entry = (.ok b, q)) (ho : outputPath? p.settings entry = some output)
      (hw : q.writeBundle output b.text = (.ok (), q')) :
      EntryStep p o entry (.ok (⟨entry, output, b.modules.length⟩, b.unresolved))
        (q'.note (.bundled entry b.modules.length output))

/-- An entry of a run is one of the four. -/
theorem entryStep (p : Project) (o : Bundle.Options) (entry : String) :
    EntryStep p o entry (p.runEntry o entry).1 (p.runEntry o entry).2 := by
  obtain ⟨-, hsettings, -, -⟩ := bundleEntry_eq p o entry
  unfold runEntry
  cases hb : p.bundleEntry o entry with
  | mk result q =>
    have hsame : q.settings = p.settings := by rwa [hb] at hsettings
    cases result with
    | error e => exact .failed hb
    | ok b =>
      simp only [hsame]
      cases ho : outputPath? p.settings entry with
      | none => exact .elsewhere hb ho
      | some output =>
        simp only []
        cases hw : q.writeBundle output b.text with
        | mk written q' =>
          cases written with
          | error e => exact .refused hb ho hw
          | ok _ => exact .written hb ho hw

/-! ## Bundles on a disk -/

/-- An entry that was bundled, its bundle, and where that was written. -/
structure Job where
  entry : String
  output : Path
  bundle : Bundle

/-- What a run tells of a bundle. -/
def Job.written (j : Job) : Written := ⟨j.entry, j.output, j.bundle.modules.length⟩

/-- The bundle is the one made with an empty store from the files on a disk, and goes where the
bundles of its entry go. -/
structure Job.IsFresh (s : Settings) (d : Disk) (o : Bundle.Options) (j : Job) : Prop where
  bundle : freshBundle s d o j.entry = .ok j.bundle
  output : outputPath? s j.entry = some j.output

/-- The disk `d'` is the disk `d` with bundles written: the last one written to a place is read
there, directories may have been made where nothing was, and nothing else has changed. -/
structure Holds (d : Disk) (jobs : List Job) (d' : Disk) : Prop where
  grows : d.Grows (jobs.map fun j => d.placeOf j.output) d'
  bundle : ∀ before j later, jobs = before ++ j :: later →
    (∀ k ∈ later, d.placeOf k.output ≠ d.placeOf j.output) →
      d'.readText j.output = .ok j.bundle.text

namespace Holds

variable {jobs : List Job} {d'' : Disk}

theorem refl (d : Disk) : Holds d [] d := ⟨.refl d, by simp⟩

/-- Directories may be made. -/
theorem grow (h : Holds d jobs d') (hd : d.LinkFree) (hgrows : d'.Grows [] d'') :
    Holds d jobs d'' := by
  refine ⟨?_, fun before j later hjobs hlast => ?_⟩
  · rw [← List.append_nil (jobs.map _)]
    exact h.grows.trans hgrows
  · obtain ⟨text, htext, hsame⟩ :=
      hgrows.exists_readText (h.grows.linkFree hd) (h.bundle before j later hjobs hlast)
    rw [htext, hsame List.not_mem_nil]

/-- One more bundle is written. -/
theorem concat {j : Job} (h : Holds d jobs d') (hd : d.LinkFree)
    (hgrows : d'.Grows [d'.placeOf j.output] d'')
    (hread : d''.readText j.output = .ok j.bundle.text) : Holds d (jobs ++ [j]) d'' := by
  rw [h.grows.placeOf] at hgrows
  refine ⟨?_, fun before k later hjobs hlast => ?_⟩
  · rw [List.map_append]
    exact h.grows.trans hgrows
  · rcases List.eq_nil_or_concat later with rfl | ⟨later, last, rfl⟩
    · obtain ⟨-, hk⟩ := List.append_inj' hjobs rfl
      obtain rfl := List.singleton_inj.1 hk
      exact hread
    · rw [List.concat_eq_append] at hjobs hlast
      rw [← List.cons_append, ← List.append_assoc] at hjobs
      obtain ⟨hbefore, hk⟩ := List.append_inj' hjobs rfl
      obtain rfl := List.singleton_inj.1 hk
      have hother : d.placeOf j.output ≠ d.placeOf k.output := hlast j (by simp)
      obtain ⟨text, htext, hsame⟩ := hgrows.exists_readText (h.grows.linkFree hd)
        (h.bundle before k later hbefore fun m hm => hlast m (List.mem_append_left _ hm))
      rw [htext, hsame]
      rw [h.grows.placeOf, List.mem_singleton]
      exact fun he => hother he.symm

/-- The disk at the start may be an older one that only lacks directories. -/
theorem older (h : Holds base jobs d') (hgrows : d.Grows [] base) : Holds d jobs d' := by
  have hplace : base.placeOf = d.placeOf := funext hgrows.placeOf
  refine ⟨?_, ?_⟩
  · rw [← List.nil_append (jobs.map _), ← hplace]
    exact hgrows.trans h.grows
  · rw [← hplace]
    exact h.bundle

end Holds

/-! ## The invariant of a run -/

/-- The run has bundled and written the jobs `done`, which come from the entries `all`, as an
empty store and the disk `base` give them. -/
structure Running (s : Settings) (base : Disk) (o : Bundle.Options) (all : List String)
    (done : List Job) (p : Project) : Prop where
  settings : p.settings = s
  filled : Bundle.FilledBy (.ofDisk base s.sourceDir) p.store
  holds : Holds base done p.disk
  fresh : ∀ j ∈ done, j.entry ∈ all ∧ j.IsFresh s base o
  entered : p.disk = base ∨ base.Enters s.sourceDir

/-- Why a run stops at an entry. -/
inductive Stops (s : Settings) (d : Disk) (o : Bundle.Options) (entry : String) : RunError → Prop
  /-- There is no place for the bundle of the entry. -/
  | elsewhere (h : outputPath? s entry = none) : Stops s d o entry (.entryElsewhere entry)
  /-- The entry cannot be loaded. -/
  | failed {e : EntryError} (he : e.entry = entry)
      (h : outputPath? s entry = none ∨ ∃ e', freshBundle s d o entry = .error e') :
      Stops s d o entry (.entryFailed e)

/-- No bundle of the entries is written over one of the files at the places `reads`. -/
def Apart (s : Settings) (base : Disk) (all : List String) (reads : List Location) : Prop :=
  ∀ entry ∈ all, ∀ output, outputPath? s entry = some output → base.placeOf output ∉ reads

theorem Job.IsFresh.output_eq {j : Job} {output : Path} (h : j.IsFresh s d o) (he : j.entry = entry)
    (ho : outputPath? s entry = some output) : j.output = output :=
  Option.some.inj (h.output.symm.trans (he ▸ ho))

theorem map_eq_ok_iff {ε α β : Type} {f : α → β} {x : Except ε α} {b : β} :
    x.map f = .ok b ↔ ∃ a, x = .ok a ∧ f a = b := by
  cases x <;> simp [Except.map]

theorem map_eq_error_iff {ε α β : Type} {f : α → β} {x : Except ε α} {e : ε} :
    x.map f = .error e ↔ x = .error e := by
  cases x <;> simp [Except.map]

/-- The error of an entry names it. -/
theorem entry_of_map_eq_error {l : Loader} {r : Resolver} {h : Bundle.Ends l o entry r}
    {f : Bundle → Bundle} {e : EntryError}
    (he : (Bundle.ofEntry l o entry r h).1.map f = .error e) : e.entry = entry := by
  cases hl : l.load r.requests ⟨entry⟩ with
  | error error =>
    rw [Bundle.ofEntry_of_error h hl] at he
    cases he
    rfl
  | ok raw =>
    rw [Bundle.ofEntry_of_ok h hl] at he
    cases he

/-- An entry can be bundled if its text can be read. -/
theorem exists_freshBundle_iff : (∃ b, freshBundle s base o entry = .ok b) ↔
    ∃ text, base.readText (s.sourceDir.join ⟨entry⟩) = .ok text := by
  constructor
  · rintro ⟨b, hb⟩
    obtain ⟨b', hb', -⟩ := map_eq_ok_iff.1 hb
    obtain ⟨raw, hl, -⟩ := Bundle.exists_of_ofEntry_eq_ok (Prod.ext hb' rfl)
    exact ⟨raw, Loader.load_ofDisk_eq_ok_iff.1 hl⟩
  · rintro ⟨text, htext⟩
    have hb := congrArg Prod.fst (Bundle.ofEntry_of_ok (o := o) (r := { store := .empty })
      (Bundle.ends_of_finite o entry (Loader.finite_ofDisk base s.sourceDir) _)
      (Loader.load_ofDisk_eq_ok_iff.2 htext))
    exact ⟨_, map_eq_ok_iff.2 ⟨_, hb, rfl⟩⟩

/-- An entry that can be read and has a place for its bundle is no reason to stop. -/
theorem not_stops_of_readText {output : Path} {text : List Char} {e : RunError}
    (ho : outputPath? s entry = some output)
    (htext : base.readText (s.sourceDir.join ⟨entry⟩) = .ok text) : ¬ Stops s base o entry e := by
  intro hstops
  obtain ⟨b, hb⟩ := exists_freshBundle_iff (o := o).2 ⟨text, htext⟩
  cases hstops with
  | elsewhere hnone => cases ho.symm.trans hnone
  | failed _ hwhy =>
    rcases hwhy with hnone | ⟨e', he'⟩
    · cases ho.symm.trans hnone
    · cases hb.symm.trans he'

/-- A module that an entry asks for is in its bundle if the text can be read. -/
theorem mem_modules_of_freshBundle {b : Bundle} (hb : freshBundle s base o entry = .ok b)
    {raw source : List Char} {name : String} {path : Path}
    (hraw : base.readText (s.sourceDir.join ⟨entry⟩) = .ok raw)
    (hname : name ∈ Lua.imports (o.prelude.apply entry raw)) (hp : Module.path? name = some path)
    (hread : base.readText (s.sourceDir.join path) = .ok source) : name ∈ b.modules := by
  obtain ⟨b', hb', rfl⟩ := map_eq_ok_iff.1 hb
  exact (Bundle.mem_modules_of_asked (Loader.steadyAfter_ofFun _ _) (Prod.ext hb' rfl)
    (Loader.load_ofDisk_eq_ok_iff.2 hraw) (.inl hname) hp
    (Loader.load_ofDisk_eq_ok_iff.2 hread)).1

/-- If an entry can be bundled, the source directory is there. -/
theorem enters_of_freshBundle {b : Bundle} (hd : base.LinkFree)
    (hentry : (⟨entry⟩ : Path).isAbsolute = false) (hb : freshBundle s base o entry = .ok b) :
    base.Enters s.sourceDir := by
  obtain ⟨text, htext⟩ := exists_freshBundle_iff.1 ⟨b, hb⟩
  exact ((Disk.readText_eq_ok_iff hd).1 htext).1.enters hentry

/-- If the source directory is not there, no entry can be bundled. -/
theorem freshBundle_of_not_enters (o : Bundle.Options) (hd : base.LinkFree)
    (hentry : (⟨entry⟩ : Path).isAbsolute = false) (hs : ¬ base.Enters s.sourceDir) :
    ∃ e, freshBundle s base o entry = .error e := by
  cases hb : freshBundle s base o entry with
  | error e => exact ⟨e, rfl⟩
  | ok b => exact absurd (enters_of_freshBundle hd hentry hb) hs

namespace Running

variable {all : List String} {done : List Job}

/-- **A run is answered as at its start** by the disk, whatever bundling an entry asks for. -/
theorem alike (h : Running s base o all done p) (hd : base.LinkFree) (hc : base.Closed)
    (hentry : (⟨entry⟩ : Path).isInward = true) (ha : Apart s base all (p.entryReads o entry))
    {path : Path} (hpath : path ∈
      (Bundle.ofEntry p.loader o entry p.resolver (p.ends o entry)).2.requests) :
    Loader.Alike (p.loader.load []) ((Loader.ofDisk base s.sourceDir).load []) path := by
  intro source
  unfold loader
  rw [Loader.load_ofDisk_eq_ok_iff, Loader.load_ofDisk_eq_ok_iff, h.settings]
  rcases h.entered with he | hentered
  · rw [he]
  -- a file that is read is none of the bundles, so it is an old one
  have hold : ∀ text, p.disk.readText (s.sourceDir.join path) = .ok text →
      base.placeOf (s.sourceDir.join path) ∉ done.map fun j => base.placeOf j.output := by
    intro text htext hmem
    obtain ⟨j, hj, hplace⟩ := List.mem_map.1 hmem
    obtain ⟨hall, hfresh⟩ := h.fresh j hj
    refine ha j.entry hall j.output hfresh.output ?_
    refine List.mem_map.2 ⟨s.sourceDir.join path, List.mem_filter.2 ⟨?_, ?_⟩, ?_⟩
    · rw [h.settings]
      exact List.mem_map_of_mem hpath
    · rw [htext]
      rfl
    · rw [h.holds.grows.placeOf, hplace]
  have hinward : path.isInward = true := by
    rcases Bundle.mem_requests_ofEntry _ hpath with hmem | ⟨name, hname⟩
    · rw [List.mem_singleton.1 hmem]
      exact hentry
    · exact Module.isInward_of_path? hname
  constructor
  · intro hnew
    exact h.holds.grows.readText_of_inward hd hc hentered hinward (hold source hnew) hnew
  · intro hbase
    obtain ⟨text, htext, hsame⟩ := h.holds.grows.exists_readText hd hbase
    rw [htext, hsame (hold text htext)]

/-- **An entry is bundled as at the start**, and the store holds then what the disk at the start
would give again. -/
theorem bundleEntry (h : Running s base o all done p) (hd : base.LinkFree) (hc : base.Closed)
    (hentry : (⟨entry⟩ : Path).isInward = true) (ha : Apart s base all (p.entryReads o entry)) :
    (∀ b, (p.bundleEntry o entry).1 = .ok b ↔ freshBundle s base o entry = .ok b) ∧
      Bundle.FilledBy (.ofDisk base s.sourceDir) (p.bundleEntry o entry).2.store := by
  have hends : Bundle.Ends (.ofDisk base s.sourceDir) o entry p.resolver :=
    Bundle.ends_of_finite o entry (Loader.finite_ofDisk base s.sourceDir) p.resolver
  obtain ⟨hbundle, hstore⟩ := Bundle.ofEntry_change (l := p.loader)
    (k := .ofDisk base s.sourceDir) rfl rfl rfl (p.ends o entry) hends fun path hpath =>
      h.alike hd hc hentry ha hpath
  obtain ⟨hresult, -, -, hlast⟩ := bundleEntry_eq p o entry
  refine ⟨fun b => ?_, ?_⟩
  · let r₀ : Resolver := { store := .empty }
    have hends₀ : Bundle.Ends (.ofDisk base s.sourceDir) o entry r₀ :=
      Bundle.ends_of_finite o entry (Loader.finite_ofDisk base s.sourceDir) r₀
    have hsees := h.filled.sees (show p.resolver.store = p.store from rfl)
      (show r₀.store = .empty from rfl)
    have hempty : (Bundle.ofEntry (.ofDisk base s.sourceDir) o entry p.resolver hends).1 =
        (Bundle.ofEntry (.ofDisk base s.sourceDir) o entry r₀ hends₀).1 :=
      Bundle.ofEntry_fst_of_sees hsees (Bundle.FilledBy.empty.sees rfl rfl) hends hends₀
    rw [hempty] at hbundle
    rw [hresult, h.settings, map_eq_ok_iff]
    exact (exists_congr fun b => and_congr_left fun _ => hbundle b).trans map_eq_ok_iff.symm
  · rw [hlast]
    exact hstore ▸ .bundle (r := p.resolver) hends h.filled

/-- **An entry that is bundled and written** becomes one more job. -/
theorem runEntry_ok (h : Running s base o all done p) (hd : base.LinkFree) (hc : base.Closed)
    (hentry : entry ∈ all) (ha : Apart s base all (p.entryReads o entry)) {w : Written}
    {u : List Unresolved} (hr : EntryStep p o entry (.ok (w, u)) p') :
    ∃ j : Job, j.entry = entry ∧ w = j.written ∧ u = j.bundle.unresolved ∧
      Running s base o all (done ++ [j]) p' := by
  obtain ⟨-, hsettings, hdisk, -⟩ := bundleEntry_eq p o entry
  cases hr with
  | @written b q q' output hb ho hw =>
    rw [h.settings] at ho
    rw [hb] at hsettings hdisk
    have hinward := (outputPath?_eq_some_iff.1 ho).1
    obtain ⟨hfresh, hfilled⟩ := h.bundleEntry hd hc hinward ha
    rw [hb] at hfresh hfilled
    have hb' : freshBundle s base o entry = .ok b := (hfresh b).1 rfl
    have hlinks : q.disk.LinkFree := hdisk ▸ h.holds.grows.linkFree hd
    obtain ⟨hsettings', hstore', hgrows, hread⟩ := of_writeBundle hlinks hw
    rw [hdisk] at hgrows
    refine ⟨⟨entry, output, b⟩, rfl, rfl, rfl, ?_, ?_, ?_, ?_, ?_⟩
    · exact (hsettings'.trans hsettings).trans h.settings
    · rw [show (q'.note _).store = q.store from hstore']
      exact hfilled
    · exact h.holds.concat hd hgrows hread
    · intro j hj
      rcases List.mem_append.1 hj with hj | hj
      · exact h.fresh j hj
      · rw [List.mem_singleton.1 hj]
        exact ⟨hentry, hb', ho⟩
    · exact .inr (enters_of_freshBundle hd (Path.isInward_iff.1 hinward).1 hb')

/-- **An entry at which a run fails** leaves what was written before it, and is one that
cannot be loaded or has no place for its bundle, unless the disk refuses to write. -/
theorem runEntry_error (h : Running s base o all done p) (hd : base.LinkFree) (hc : base.Closed)
    (ha : Apart s base all (p.entryReads o entry)) {e : RunError}
    (hr : EntryStep p o entry (.error e) p') :
    Holds base done p'.disk ∧ (e.isRefusal = true ∨ Stops s base o entry e) := by
  obtain ⟨hresult, -, hdisk, -⟩ := bundleEntry_eq p o entry
  cases hr with
  | @failed e q hb =>
    rw [hb] at hdisk hresult
    refine ⟨hdisk ▸ h.holds, .inr (.failed (entry_of_map_eq_error hresult.symm) ?_)⟩
    cases ho : outputPath? s entry with
    | none => exact .inl rfl
    | some output =>
      right
      have hfresh := (h.bundleEntry hd hc (outputPath?_eq_some_iff.1 ho).1 ha).1
      rw [hb] at hfresh
      cases hbase : freshBundle s base o entry with
      | error e' => exact ⟨e', rfl⟩
      | ok b => cases (hfresh b).2 hbase
  | @elsewhere b q hb ho =>
    rw [h.settings] at ho
    rw [hb] at hdisk
    exact ⟨hdisk ▸ h.holds, .inr (.elsewhere ho)⟩
  | @refused b q q' output e hb ho hw =>
    rw [hb] at hdisk
    have hlinks : q.disk.LinkFree := hdisk ▸ h.holds.grows.linkFree hd
    obtain ⟨-, -, hgrows, he⟩ := of_writeBundle hlinks hw
    rw [hdisk] at hgrows
    exact ⟨h.holds.grow hd hgrows, .inl he⟩

end Running

/-! ## Whole runs -/

/-- What a run over entries can come to, when the jobs are done. -/
inductive Outcome (s : Settings) (d : Disk) (o : Bundle.Options) (entries : List String)
    (jobs : List Job) : Except RunError Summary → Prop
  /-- All entries are done. -/
  | done (h : jobs.map Job.entry = entries) :
      Outcome s d o entries jobs
        (.ok ⟨jobs.map Job.written, jobs.flatMap fun j => j.bundle.unresolved⟩)
  /-- The run has stopped at the entry behind the ones that are done. -/
  | stopped {entry : String} {later : List String} {e : RunError}
      (h : entries = jobs.map Job.entry ++ entry :: later) (he : Stops s d o entry e) :
      Outcome s d o entries jobs (.error e)
  /-- The disk has refused to write. -/
  | refused {e : RunError} (h : jobs.map Job.entry <+: entries) (he : e.isRefusal = true) :
      Outcome s d o entries jobs (.error e)

/-- The places of the files that are read when entries are bundled one after the other. -/
def entriesReads (p : Project) (o : Bundle.Options) : List String → List Location
  | [] => []
  | entry :: entries =>
    p.entryReads o entry ++
      match p.runEntry o entry with
      | (.error _, _) => []
      | (.ok _, p) => p.entriesReads o entries

/-- The places of the files that a run with chosen entries and mixins reads. -/
def runReads (p : Project) (entries mixins : List String) : List Location :=
  match (p.note (.mixinsChosen mixins.length)).makeOutputDir with
  | (.error _, _) => []
  | (.ok (), p) => p.entriesReads (p.settings.bundleOptions mixins) entries

theorem runEntries_nil (p : Project) (o : Bundle.Options) :
    p.runEntries o [] = (.ok ⟨[], []⟩, p) := by rfl

theorem runEntries_cons (p : Project) (o : Bundle.Options) (entry : String)
    (entries : List String) : p.runEntries o (entry :: entries) =
      match p.runEntry o entry with
      | (.error e, p) => (.error e, p)
      | (.ok (written, unresolved), p) =>
        match p.runEntries o entries with
        | (.error e, p) => (.error e, p)
        | (.ok s, p) => (.ok ⟨written :: s.bundles, unresolved ++ s.unresolved⟩, p) := by rfl

/-- A run whose first entry is written goes on with the others. -/
theorem runEntries_of_ok {entries : List String} {w : Written} {u : List Unresolved}
    (h : p.runEntry o entry = (.ok (w, u), p')) : p.runEntries o (entry :: entries) =
      ((p'.runEntries o entries).1.map fun s => ⟨w :: s.bundles, u ++ s.unresolved⟩,
        (p'.runEntries o entries).2) := by
  rw [runEntries_cons, h]
  cases hrest : p'.runEntries o entries with
  | mk result q => cases result <;> simp [hrest, Except.map]

theorem entriesReads_cons (p : Project) (o : Bundle.Options) (entry : String)
    (entries : List String) : p.entriesReads o (entry :: entries) =
      p.entryReads o entry ++
        match p.runEntry o entry with
        | (.error _, _) => []
        | (.ok _, p) => p.entriesReads o entries := by rfl

/-- One more job before the others. -/
theorem Outcome.cons {entries : List String} {jobs : List Job} {result : Except RunError Summary}
    (h : Outcome s d o entries jobs result) (j : Job) :
    Outcome s d o (j.entry :: entries) (j :: jobs)
      (result.map fun s => ⟨j.written :: s.bundles, j.bundle.unresolved ++ s.unresolved⟩) := by
  cases h with
  | done h => exact .done (by rw [List.map_cons, h])
  | stopped h he => exact .stopped (by rw [h]; rfl) he
  | refused h he => exact .refused (List.cons_prefix_cons.2 ⟨rfl, h⟩) he

/-- **The entries of a run** are bundled as at its start, until one fails. -/
theorem Running.runEntries {all entries : List String} {done : List Job}
    (h : Running s base o all done p) (hd : base.LinkFree) (hc : base.Closed)
    (hentries : ∀ entry ∈ entries, entry ∈ all)
    (ha : Apart s base all (p.entriesReads o entries)) :
    ∃ jobs : List Job, (∀ j ∈ jobs, j.IsFresh s base o) ∧
      Holds base (done ++ jobs) (p.runEntries o entries).2.disk ∧
      Outcome s base o entries jobs (p.runEntries o entries).1 := by
  induction entries generalizing p done with
  | nil =>
    rw [runEntries_nil]
    refine ⟨[], by simp, ?_, .done rfl⟩
    rw [List.append_nil]
    exact h.holds
  | cons entry entries ih =>
    rw [entriesReads_cons] at ha
    have hfirst : Apart s base all (p.entryReads o entry) := fun e he output ho hmem =>
      ha e he output ho (List.mem_append_left _ hmem)
    have hstep := entryStep p o entry
    cases hr : p.runEntry o entry with
    | mk result p' =>
      rw [hr] at hstep ha
      cases result with
      | error e =>
        obtain ⟨hholds, hwhy⟩ := h.runEntry_error hd hc hfirst hstep
        rw [runEntries_cons, hr]
        refine ⟨[], by simp, by simpa using hholds, ?_⟩
        rcases hwhy with he | he
        · exact .refused List.nil_prefix he
        · exact .stopped rfl he
      | ok written =>
        obtain ⟨w, u⟩ := written
        obtain ⟨j, rfl, rfl, rfl, hnext⟩ :=
          h.runEntry_ok hd hc (hentries entry List.mem_cons_self) hfirst hstep
        obtain ⟨jobs, hfresh, hholds, hout⟩ := ih hnext
          (fun e he => hentries e (List.mem_cons_of_mem _ he)) fun e he output ho hmem =>
            ha e he output ho (List.mem_append_right _ hmem)
        have hj : j.IsFresh s base o := (hnext.fresh j (by simp)).2
        rw [runEntries_of_ok hr]
        rw [List.append_assoc, List.singleton_append] at hholds
        exact ⟨j :: jobs, List.forall_mem_cons.2 ⟨hj, hfresh⟩, hholds, hout.cons j⟩

/-- Making the output directory changes the disk alone, and fails only if the disk refuses. -/
theorem of_makeOutputDir {result : Except RunError Unit} (h : p.makeOutputDir = (result, p')) :
    p'.settings = p.settings ∧ p'.store = p.store ∧
      p'.disk = (p.disk.makeDirs p.settings.outputDir).2 ∧
        ∀ e, result = .error e → e.isRefusal = true := by
  simp only [makeOutputDir] at h
  split at h
  · next fault made hmade =>
    cases h
    rw [hmade]
    exact ⟨rfl, rfl, rfl, by rintro e ⟨⟩; rfl⟩
  · next made hmade =>
    cases h
    rw [hmade]
    exact ⟨rfl, rfl, rfl, by rintro e ⟨⟩⟩

theorem makeOutputDir_of_makeDirs (h : p.disk.makeDirs p.settings.outputDir = (.ok (), d)) :
    p.makeOutputDir = (.ok (), { p with disk := d }) := by
  simp only [makeOutputDir, h]

/-- A run with chosen entries and mixins. -/
theorem run_eq {entries : List String} (h : entries ≠ []) (p : Project) (mixins : List String) :
    p.run entries (some mixins) =
      match (p.note (.mixinsChosen mixins.length)).makeOutputDir with
      | (.error e, p) => (.error e, p)
      | (.ok (), p) => p.runEntries (p.settings.bundleOptions mixins) entries := by
  have hempty : entries.isEmpty = false := by simpa using h
  have hentries : p.chooseEntries entries = (.ok entries, p) := by
    simp only [chooseEntries, hempty, Bool.false_eq_true, if_false]
  have hmixins : p.chooseMixins (some mixins) =
      (.ok mixins, p.note (.mixinsChosen mixins.length)) := by rfl
  cases hmade : (p.note (.mixinsChosen mixins.length)).makeOutputDir with
  | mk result q =>
    cases result with
    | error e => simp only [run, hentries, hmixins, hmade]
    | ok _ => simp only [run, hentries, hmixins, hmade]

/-! ## Runs that are not refused -/

/-- An entry is done if its bundle is made and written, and the disk has the bundle then. -/
theorem runEntry_of_writeText {b : Bundle} (hb : (p.bundleEntry o entry).1 = .ok b)
    (ho : outputPath? p.settings entry = some output)
    (hdirs : p.disk.makeDirs (output.parent?.getD ⟨""⟩) = (.ok (), p.disk))
    (hw : p.disk.writeText output b.text = (.ok (), d')) :
    ∃ p', p.runEntry o entry = (.ok (⟨entry, output, b.modules.length⟩, b.unresolved), p') ∧
      p'.settings = p.settings ∧ p'.disk = d' := by
  obtain ⟨-, hsettings, hdisk, -⟩ := bundleEntry_eq p o entry
  have hbundle : ∀ {q : Project}, q.disk = p.disk →
      q.writeBundle output b.text = (.ok (), { q with disk := d' }) := by
    intro q hq
    simp only [writeBundle, hq, hdirs, hw]
  have hstep := entryStep p o entry
  cases hr : p.runEntry o entry with
  | mk result p' =>
    rw [hr] at hstep
    cases hstep with
    | failed hb' => cases (congrArg Prod.fst hb').symm.trans hb
    | elsewhere hb' ho' => cases ho'.symm.trans ho
    | refused hb' ho' hw' =>
      cases ho'.symm.trans ho
      cases (congrArg Prod.fst hb').symm.trans hb
      rw [hb'] at hdisk
      cases hw'.symm.trans (hbundle hdisk)
    | written hb' ho' hw' =>
      cases ho'.symm.trans ho
      cases (congrArg Prod.fst hb').symm.trans hb
      rw [hb'] at hdisk hsettings
      cases hw'.symm.trans (hbundle hdisk)
      exact ⟨_, rfl, hsettings, rfl⟩

/-- The directory for the bundle of an entry is there, and has room for it. -/
def HasRoomFor (s : Settings) (d : Disk) (entry : String) : Prop :=
  ∀ output, outputPath? s entry = some output →
    d.isDir (output.parent?.getD ⟨""⟩) = true ∧ d.HasRoom output

theorem hasRoomFor_of_hasRoom {output parent : Path} (hd : d.LinkFree)
    (ho : outputPath? s entry = some output) (hparent : output.parent? = some parent)
    (hreach : d.Reaches parent) (hdir : d.isDirAt (d.placeOf parent) = true)
    (hroom : d.HasRoom output) : HasRoomFor s d entry := by
  intro output' ho'
  obtain rfl := Option.some.inj (ho.symm.trans ho')
  rw [hparent]
  exact ⟨(Disk.isDir_iff hd).2 ⟨hreach, hdir⟩, hroom⟩

/-- A bundle that is written leaves room for the others. -/
theorem HasRoomFor.put {loc : Location} (h : HasRoomFor s d entry) (hd : d.LinkFree)
    (hloc : d.isDirAt loc = false) (text : String) :
    HasRoomFor s (d.put loc (.file text.toUTF8)) entry := by
  intro output ho
  obtain ⟨hdir, hroom⟩ := h output ho
  obtain ⟨hgrows, -⟩ := Disk.grows_put hloc text
  obtain ⟨hreach, hplace⟩ := (Disk.isDir_iff hd).1 hdir
  refine ⟨(Disk.isDir_iff (hgrows.linkFree hd)).2 ⟨hgrows.reaches hreach, ?_⟩, hroom.put hloc text⟩
  rw [hgrows.placeOf]
  exact hgrows.isDirAt hplace

/-- A bundle is written if there is room for it. -/
theorem exists_runEntry_of_room {b : Bundle} {output : Path} (hd : p.disk.LinkFree)
    (hb : (p.bundleEntry o entry).1 = .ok b) (ho : outputPath? p.settings entry = some output)
    (hroom : HasRoomFor p.settings p.disk entry) :
    ∃ p', p.runEntry o entry = (.ok (⟨entry, output, b.modules.length⟩, b.unresolved), p') ∧
      p'.settings = p.settings ∧
      p'.disk = p.disk.put (p.disk.placeOf output) (.file (String.ofList b.text).toUTF8) :=
  runEntry_of_writeText hb ho (Disk.makeDirs_of_isDir hd (hroom output ho).1)
    (Disk.writeText_of_hasRoom hd (hroom output ho).2 b.text)

/-- Entries are not refused if there is room for their bundles. -/
theorem isRefusal_of_runEntries {entries : List String} (hd : p.disk.LinkFree)
    (hroom : ∀ entry ∈ entries, HasRoomFor p.settings p.disk entry) {e : RunError}
    (he : (p.runEntries o entries).1 = .error e) : e.isRefusal = false := by
  induction entries generalizing p with
  | nil => cases he
  | cons entry entries ih =>
    have hfirst := hroom entry List.mem_cons_self
    have hstep := entryStep p o entry
    cases hr : p.runEntry o entry with
    | mk result p' =>
      rw [hr] at hstep
      cases hstep with
      | failed hb =>
        rw [runEntries_cons, hr] at he
        cases he
        rfl
      | elsewhere hb ho =>
        rw [runEntries_cons, hr] at he
        cases he
        rfl
      | refused hb ho hw =>
        obtain ⟨q, hwritten, -, -⟩ :=
          exists_runEntry_of_room hd (congrArg Prod.fst hb) ho hfirst
        cases hr.symm.trans hwritten
      | written hb ho hw =>
        obtain ⟨q, hwritten, hsettings, hdisk⟩ :=
          exists_runEntry_of_room hd (congrArg Prod.fst hb) ho hfirst
        cases hr.symm.trans hwritten
        rw [runEntries_of_ok hr] at he
        dsimp only at he
        rw [map_eq_error_iff] at he
        have hplace := (hfirst _ ho).2.place
        refine ih (hdisk ▸ (Disk.grows_put hplace _).1.linkFree hd) (fun other hother => ?_) he
        rw [hsettings, hdisk]
        exact (hroom other (List.mem_cons_of_mem _ hother)).put hd hplace _

/-- **A run is not refused** if its output directory can be made and then has room for all
bundles. -/
theorem isRefusal_of_run {entries : List String} (hne : entries ≠ []) (mixins : List String)
    (hd : p.disk.LinkFree) {made : Disk}
    (hmade : p.disk.makeDirs p.settings.outputDir = (.ok (), made))
    (hroom : ∀ entry ∈ entries, HasRoomFor p.settings made entry) {e : RunError}
    (he : (p.run entries (some mixins)).1 = .error e) : e.isRefusal = false := by
  let q : Project := { p.note (.mixinsChosen mixins.length) with disk := made }
  have hlinks : q.disk.LinkFree := (Disk.of_makeDirs hmade).1.linkFree hd
  have hq : (p.note (.mixinsChosen mixins.length)).makeOutputDir = (.ok (), q) :=
    makeOutputDir_of_makeDirs hmade
  rw [run_eq hne, hq] at he
  exact isRefusal_of_runEntries hlinks hroom he

/-! ## Source and output directory apart -/

/-- An entry that leads inwards reads files below the source directory. -/
theorem suffix_of_mem_entryReads (hentry : (⟨entry⟩ : Path).isInward = true) {loc : Location}
    (h : loc ∈ p.entryReads o entry) : p.disk.placeOf p.settings.sourceDir <:+ loc := by
  obtain ⟨full, hfull, rfl⟩ := List.mem_map.1 h
  obtain ⟨path, hpath, rfl⟩ := List.mem_map.1 (List.mem_of_mem_filter hfull)
  have hinward : path.isInward = true := by
    rcases Bundle.mem_requests_ofEntry _ hpath with hmem | ⟨name, hname⟩
    · rw [List.mem_singleton.1 hmem]
      exact hentry
    · exact Module.isInward_of_path? hname
  rw [Disk.placeOf_join _ (Path.isInward_iff.1 hinward).1]
  exact Location.suffix_walk (Disk.not_mem_names_of_isInward hinward)

/-- So do entries that are bundled one after the other. -/
theorem suffix_of_mem_entriesReads {entries : List String} (hd : p.disk.LinkFree)
    (hentries : ∀ entry ∈ entries, (⟨entry⟩ : Path).isInward = true) {loc : Location}
    (h : loc ∈ p.entriesReads o entries) : p.disk.placeOf p.settings.sourceDir <:+ loc := by
  induction entries generalizing p with
  | nil => cases h
  | cons entry entries ih =>
    rw [entriesReads_cons] at h
    rcases List.mem_append.1 h with h | h
    · exact suffix_of_mem_entryReads (hentries entry List.mem_cons_self) h
    · obtain ⟨-, hsettings, hdisk, -⟩ := bundleEntry_eq p o entry
      have hstep := entryStep p o entry
      cases hr : p.runEntry o entry with
      | mk result p' =>
        rw [hr] at h hstep
        cases hstep with
        | failed => cases h
        | elsewhere => cases h
        | refused => cases h
        | @written b q q' output hb ho hw =>
          rw [hb] at hsettings hdisk
          obtain ⟨hsettings', -, hgrows, -⟩ := of_writeBundle (hdisk ▸ hd) hw
          have hrest := ih (p := q'.note _) (hgrows.linkFree (hdisk ▸ hd))
            (fun e he => hentries e (List.mem_cons_of_mem _ he)) h
          rw [← hdisk, ← hsettings, ← hsettings', ← hgrows.placeOf]
          exact hrest

/-- **No bundle is written over a file that is read** if neither the source nor the output
directory lies in the other and all entries lead inwards. -/
theorem apart_of_not_suffix {entries : List String} (hd : d.LinkFree)
    (hentries : ∀ entry ∈ entries, (⟨entry⟩ : Path).isInward = true)
    (hout : ¬ d.placeOf s.outputDir <:+ d.placeOf s.sourceDir)
    (hsource : ¬ d.placeOf s.sourceDir <:+ d.placeOf s.outputDir) (mixins : List String) :
    Apart s d entries (runReads { settings := s, disk := d } entries mixins) := by
  intro entry _ output ho hmem
  obtain ⟨name, below, hplace⟩ := placeOf_output ho d
  have hbelow : d.placeOf s.sourceDir <:+ d.placeOf output := by
    unfold runReads at hmem
    split at hmem
    · cases hmem
    next p' hmade =>
    obtain ⟨hsettings, -, hdisk, -⟩ := of_makeOutputDir hmade
    obtain ⟨hgrows, -⟩ := Disk.of_makeDirs (Prod.eta (d.makeDirs s.outputDir)).symm
    have hgrows' : d.Grows [] p'.disk := hdisk ▸ hgrows
    have hsuffix := suffix_of_mem_entriesReads (hgrows'.linkFree hd) hentries hmem
    rwa [hgrows'.placeOf, hsettings] at hsuffix
  rcases List.suffix_or_suffix_of_suffix hbelow ⟨name :: below, hplace.symm⟩ with h | h
  · exact hsource h
  · exact hout h

/-! ## The outcome -/

/-- The disk from which a run reads: the one it begins with, if the source directory is there,
and otherwise that disk with the output directory made. -/
def startDisk (s : Settings) (d : Disk) : Disk :=
  if d.isDir (s.sourceDir.join ⟨"."⟩) then d else (d.makeDirs s.outputDir).2

/-- A source directory that cannot be entered at first is looked for later. -/
theorem startDisk_of_not_enters (hd : d.LinkFree) (h : ¬ d.Enters s.sourceDir) :
    startDisk s d = (d.makeDirs s.outputDir).2 :=
  if_neg fun hdir => h (Disk.enters_of_isDir hd hdir)

/-- **What a run leaves behind.**  The disk is a tree without symbolic links, the store is empty
at first, entries and mixins are chosen, and no bundle is written over a file that the run
reads.

Then the run does its entries one after the other, until one has no place for its bundle or
cannot be loaded from the disk at the start, or the disk refuses to write.  Each bundle that it
reports and writes is the finished one that an empty store and the disk at the start give.
Afterwards each place written to holds the last bundle written there; besides, directories may
have been made, and nothing else has changed, so no file outside of the output directory. -/
theorem run_outcome (s : Settings) (d : Disk) (ht : d.IsTree) {entries : List String}
    (hne : entries ≠ []) (mixins : List String)
    (ha : Apart s d entries (runReads { settings := s, disk := d } entries mixins)) :
    let p : Project := { settings := s, disk := d }
    let o := s.bundleOptions mixins
    let after := (p.run entries (some mixins)).2.disk
    ∃ jobs : List Job, (∀ j ∈ jobs, j.IsFresh s (startDisk s d) o) ∧ Holds d jobs after ∧
      (∀ loc content, ¬ d.placeOf s.outputDir <:+ loc →
        (after.at? loc = some (.file content) ↔ d.at? loc = some (.file content))) ∧
      Outcome s (startDisk s d) o entries jobs (p.run entries (some mixins)).1 := by
  intro p o after
  have houtside : ∀ jobs, (∀ j ∈ jobs, j.IsFresh s (startDisk s d) o) → Holds d jobs after →
      ∀ loc content, ¬ d.placeOf s.outputDir <:+ loc →
        (after.at? loc = some (.file content) ↔ d.at? loc = some (.file content)) := by
    intro jobs hfresh hholds loc content hloc
    refine hholds.grows.file_iff fun hmem => hloc ?_
    obtain ⟨j, hj, rfl⟩ := List.mem_map.1 hmem
    obtain ⟨name, below, hplace⟩ := placeOf_output (hfresh j hj).output d
    exact ⟨name :: below, hplace.symm⟩
  suffices h : ∃ jobs : List Job, (∀ j ∈ jobs, j.IsFresh s (startDisk s d) o) ∧
      Holds d jobs after ∧
      Outcome s (startDisk s d) o entries jobs (p.run entries (some mixins)).1 by
    obtain ⟨jobs, hfresh, hholds, hout⟩ := h
    exact ⟨jobs, hfresh, hholds, houtside jobs hfresh hholds, hout⟩
  simp only [after]
  rw [run_eq hne]
  unfold runReads at ha
  cases hmade : (p.note (.mixinsChosen mixins.length)).makeOutputDir with
  | mk result p' =>
    obtain ⟨hsettings, hstore, hdisk, hrefused⟩ := of_makeOutputDir hmade
    obtain ⟨hgrows, hclosed⟩ := Disk.of_makeDirs (Prod.eta (d.makeDirs s.outputDir)).symm
    cases result with
    | error e =>
      refine ⟨[], by simp, ?_, .refused List.nil_prefix (hrefused e rfl)⟩
      exact (Holds.refl d).grow ht.linkFree (hdisk ▸ hgrows)
    | ok _ =>
      rw [hmade] at ha
      have hbase : d.Grows [] (startDisk s d) ∧ (startDisk s d).Closed ∧
          (startDisk s d).Grows [] p'.disk ∧
            (p'.disk = startDisk s d ∨ (startDisk s d).Enters s.sourceDir) := by
        rw [hdisk]
        unfold startDisk
        split
        · next hdir =>
          exact ⟨.refl d, ht.closed, hgrows, .inr (Disk.enters_of_isDir ht.linkFree hdir)⟩
        · exact ⟨hgrows, hclosed ht.closed, .refl _, .inl rfl⟩
      obtain ⟨hstart, hclosed', hgrows', hentered⟩ := hbase
      have hrunning : Running s (startDisk s d) o entries [] p' := by
        refine ⟨hsettings, ?_, ⟨hgrows', by simp⟩, by simp, hentered⟩
        rw [hstore]
        exact .empty
      have hoptions : p'.settings.bundleOptions mixins = o := by
        rw [hsettings]
        rfl
      have hlinks : (startDisk s d).LinkFree := hstart.linkFree ht.linkFree
      obtain ⟨jobs, hfresh, hholds, hout⟩ := hrunning.runEntries hlinks hclosed'
        (fun _ he => he) fun entry he output ho => by
          rw [hstart.placeOf, ← hoptions]
          exact ha entry he output ho
      simp only [hoptions]
      exact ⟨jobs, hfresh, hholds.older hstart, hout⟩

/-! ### A source directory behind the output directory -/

/-- Settings whose source directory is reached through the output directory. -/
def throughOutput : Settings := { sourceDir := ⟨"dist/../src"⟩ }

/-- A disk that holds a source directory with one script. -/
def scriptOnly : Disk where
  nodes := [(["src"], .dir), (["main.lua", "src"], .file "return 1".toUTF8)]
  workingDir := []

/-- The disk with the output directory made. -/
def outputMade : Disk := scriptOnly.put ["dist"] .dir

theorem isTree_scriptOnly : scriptOnly.IsTree := Disk.isTree_of_fits (by decide)

theorem makeDirs_scriptOnly : scriptOnly.makeDirs ⟨"dist"⟩ = (.ok (), outputMade) :=
  Disk.makeDirs_of_free (by decide) (by decide) (by decide) (by decide) rfl rfl

theorem linkFree_outputMade : outputMade.LinkFree :=
  (Disk.of_makeDirs makeDirs_scriptOnly).1.linkFree isTree_scriptOnly.linkFree

theorem hasRoomFor_outputMade : HasRoomFor throughOutput outputMade "main.lua" :=
  hasRoomFor_of_hasRoom linkFree_outputMade (show _ = some ⟨"dist/main.lua"⟩ by decide)
    (show _ = some ⟨"dist"⟩ by decide) (by decide) rfl (by decide)

theorem readText_outputMade :
    outputMade.readText ⟨"dist/../src/main.lua"⟩ = .ok "return 1".toList := by
  have hplace : outputMade.placeOf ⟨"dist/../src/main.lua"⟩ = ["main.lua", "src"] := by decide
  refine Disk.readText_of_file linkFree_outputMade (by decide) ?_
  rw [hplace]
  rfl

theorem not_enters_scriptOnly : ¬ scriptOnly.Enters throughOutput.sourceDir := by decide

theorem apart_throughOutput : Apart throughOutput scriptOnly ["main.lua"]
    (runReads { settings := throughOutput, disk := scriptOnly } ["main.lua"] []) :=
  apart_of_not_suffix isTree_scriptOnly.linkFree (by decide) (by decide) (by decide) []

/-- The run of the entry `main.lua` succeeds. -/
theorem run_throughOutput :
    ∃ summary, (run { settings := throughOutput, disk := scriptOnly } ["main.lua"] (some [])).1 =
      .ok summary := by
  let o := throughOutput.bundleOptions []
  let p : Project := ({ settings := throughOutput, disk := scriptOnly } : Project).note
    (.mixinsChosen 0)
  let made : Project := { p with disk := outputMade }
  have hmade : p.makeOutputDir = (.ok (), made) := makeOutputDir_of_makeDirs makeDirs_scriptOnly
  have hload : made.loader.load [] ⟨"main.lua"⟩ = .ok "return 1".toList := by
    have hjoin : made.settings.sourceDir.join ⟨"main.lua"⟩ = ⟨"dist/../src/main.lua"⟩ := by decide
    rw [loader, Loader.load_ofDisk_eq_ok_iff, hjoin]
    exact readText_outputMade
  obtain ⟨b, hb⟩ : ∃ b, (made.bundleEntry o "main.lua").1 = .ok b := by
    rw [(bundleEntry_eq made o "main.lua").1, Bundle.ofEntry_of_ok _ hload]
    exact ⟨_, rfl⟩
  have hlinks : made.disk.LinkFree := linkFree_outputMade
  have hroom : HasRoomFor made.settings made.disk "main.lua" := hasRoomFor_outputMade
  have hplace : outputPath? made.settings "main.lua" = some ⟨"dist/main.lua"⟩ := by decide
  obtain ⟨p', hr, -, -⟩ := exists_runEntry_of_room hlinks hb hplace hroom
  rw [run_eq (by simp), List.length_nil, hmade]
  show ∃ summary, (made.runEntries o ["main.lua"]).1 = .ok summary
  rw [runEntries_of_ok hr, runEntries_nil]
  exact ⟨_, rfl⟩

/-- The run of `main.lua` succeeds and writes over nothing it reads, but the files at the start
give no bundle: the directory through which the source directory is reached was made by the
run. -/
theorem run_ne_fresh_of_source_through_output :
    scriptOnly.IsTree ∧
      Apart throughOutput scriptOnly ["main.lua"]
        (runReads { settings := throughOutput, disk := scriptOnly } ["main.lua"] []) ∧
      (∃ summary,
        (run { settings := throughOutput, disk := scriptOnly } ["main.lua"] (some [])).1 =
          .ok summary) ∧
      ∃ e, freshBundle throughOutput scriptOnly (throughOutput.bundleOptions []) "main.lua" =
        .error e := by
  have habs : (⟨"main.lua"⟩ : Path).isAbsolute = false := by decide
  exact ⟨isTree_scriptOnly, apart_throughOutput, run_throughOutput,
    freshBundle_of_not_enters _ isTree_scriptOnly.linkFree habs not_enters_scriptOnly⟩

/-! ### Entries that share a module -/

/-- A disk with two scripts and a module that both require. -/
def sharing : Disk where
  nodes := [(["src"], .dir), (["a.lua", "src"], .file "require 'm'".toUTF8),
    (["b.lua", "src"], .file "local m = require 'm'".toUTF8),
    (["m.lua", "src"], .file "return 1".toUTF8)]
  workingDir := []

/-- The disk with the output directory made. -/
def sharingMade : Disk := sharing.put ["dist"] .dir

/-- The entries of a run: one of them comes twice, and one is not there. -/
def sharingEntries : List String := ["a.lua", "b.lua", "a.lua", "gone.lua", "b.lua"]

theorem isTree_sharing : sharing.IsTree := Disk.isTree_of_fits (by decide)

theorem makeDirs_sharing : sharing.makeDirs ⟨"dist"⟩ = (.ok (), sharingMade) :=
  Disk.makeDirs_of_free (by decide) (by decide) (by decide) (by decide) rfl rfl

theorem linkFree_sharingMade : sharingMade.LinkFree :=
  (Disk.of_makeDirs makeDirs_sharing).1.linkFree isTree_sharing.linkFree

theorem outputPath?_sharing :
    outputPath? throughOutput "a.lua" = some ⟨"dist/a.lua"⟩ ∧
      outputPath? throughOutput "b.lua" = some ⟨"dist/b.lua"⟩ ∧
      outputPath? throughOutput "gone.lua" = some ⟨"dist/gone.lua"⟩ := by decide

theorem hasRoomFor_sharing :
    ∀ entry ∈ sharingEntries, HasRoomFor throughOutput sharingMade entry := by
  obtain ⟨ha, hb, hgone⟩ := outputPath?_sharing
  have hroom : ∀ {entry : String} {output : Path}, outputPath? throughOutput entry = some output →
      output.parent? = some ⟨"dist"⟩ → sharingMade.HasRoom output →
        HasRoomFor throughOutput sharingMade entry := fun ho hparent hroom =>
    hasRoomFor_of_hasRoom linkFree_sharingMade ho hparent (by decide) rfl hroom
  have hroomA := hroom ha (by decide) (by decide)
  have hroomB := hroom hb (by decide) (by decide)
  have hroomGone := hroom hgone (by decide) (by decide)
  simp only [sharingEntries, List.forall_mem_cons]
  exact ⟨hroomA, hroomB, hroomA, hroomGone, hroomB, by simp⟩

theorem readText_sharing :
    sharingMade.readText (throughOutput.sourceDir.join ⟨"a.lua"⟩) = .ok "require 'm'".toList ∧
      sharingMade.readText (throughOutput.sourceDir.join ⟨"b.lua"⟩) =
        .ok "local m = require 'm'".toList ∧
      sharingMade.readText (throughOutput.sourceDir.join ⟨"m.lua"⟩) = .ok "return 1".toList ∧
      ∀ text, sharingMade.readText (throughOutput.sourceDir.join ⟨"gone.lua"⟩) ≠ .ok text := by
  have hread : ∀ {path : Path} {text : String}, sharingMade.Reaches path →
      sharingMade.isFileAt (sharingMade.placeOf path) text.toUTF8 = true →
        sharingMade.readText path = .ok text.toList := fun hreach hfile =>
    Disk.readText_of_file linkFree_sharingMade hreach (Disk.isFileAt_iff.1 hfile)
  refine ⟨hread (by decide) (by decide), hread (by decide) (by decide),
    hread (by decide) (by decide), fun text htext => ?_⟩
  have hreach := ((Disk.readText_eq_ok_iff linkFree_sharingMade).1 htext).1
  exact absurd hreach (by decide)

theorem apart_sharing : Apart throughOutput sharing sharingEntries
    (runReads { settings := throughOutput, disk := sharing } sharingEntries []) :=
  apart_of_not_suffix isTree_sharing.linkFree (by decide) (by decide) (by decide) []

theorem freshBundle_gone_sharing (b : Bundle) : freshBundle throughOutput sharingMade
    (throughOutput.bundleOptions []) "gone.lua" ≠ .ok b := by
  intro hb
  obtain ⟨text, htext⟩ := exists_freshBundle_iff.1 ⟨b, hb⟩
  exact readText_sharing.2.2.2 text htext

theorem mem_modules_sharing {j : Job} (he : j.entry = "a.lua" ∨ j.entry = "b.lua")
    (h : j.IsFresh throughOutput sharingMade (throughOutput.bundleOptions [])) :
    "m" ∈ j.bundle.modules := by
  obtain ⟨hreadA, hreadB, hreadM, -⟩ := readText_sharing
  have hb := h.bundle
  rcases he with he | he <;> rw [he] at hb
  · exact mem_modules_of_freshBundle hb hreadA (by decide +kernel) (by decide) hreadM
  · exact mem_modules_of_freshBundle hb hreadB (by decide +kernel) (by decide) hreadM

/-- Only the first three entries of the run can be done. -/
theorem eq_of_stopped_sharing {jobs : List Job} {entry : String} {later : List String}
    {e : RunError}
    (hfresh : ∀ j ∈ jobs, j.IsFresh throughOutput sharingMade (throughOutput.bundleOptions []))
    (hentries : sharingEntries = jobs.map Job.entry ++ entry :: later)
    (hstops : Stops throughOutput sharingMade (throughOutput.bundleOptions []) entry e) :
    entry = "gone.lua" ∧ ∃ first second third, jobs = [first, second, third] ∧
      first.entry = "a.lua" ∧ second.entry = "b.lua" ∧ third.entry = "a.lua" := by
  obtain ⟨hplaceA, hplaceB, -⟩ := outputPath?_sharing
  obtain ⟨hreadA, hreadB, -, -⟩ := readText_sharing
  rcases jobs with _ | ⟨first, _ | ⟨second, _ | ⟨third, _ | ⟨fourth, rest⟩⟩⟩⟩
  · obtain ⟨rfl, -⟩ : "a.lua" = entry ∧ _ := by simpa [sharingEntries] using hentries
    exact absurd hstops (not_stops_of_readText hplaceA hreadA)
  · obtain ⟨-, rfl, -⟩ : _ ∧ "b.lua" = entry ∧ _ := by simpa [sharingEntries] using hentries
    exact absurd hstops (not_stops_of_readText hplaceB hreadB)
  · obtain ⟨-, -, rfl, -⟩ : _ ∧ _ ∧ "a.lua" = entry ∧ _ := by
      simpa [sharingEntries] using hentries
    exact absurd hstops (not_stops_of_readText hplaceA hreadA)
  · obtain ⟨hfirst, hsecond, hthird, hentry, -⟩ : "a.lua" = first.entry ∧ "b.lua" = second.entry ∧
        "a.lua" = third.entry ∧ "gone.lua" = entry ∧ _ := by
      simpa [sharingEntries] using hentries
    exact ⟨hentry.symm, first, second, third, rfl, hfirst.symm, hsecond.symm, hthird.symm⟩
  · obtain ⟨-, -, -, hfourth, -⟩ : _ ∧ _ ∧ _ ∧ "gone.lua" = fourth.entry ∧ _ := by
      simpa [sharingEntries] using hentries
    have hb := (hfresh fourth (by simp)).bundle
    rw [← hfourth] at hb
    exact absurd hb (freshBundle_gone_sharing _)

/-- The run writes the bundles of its first three entries, which all hold the module, and stops at
the one that is not there.  The bundle of the entry that comes twice was written last. -/
theorem run_outcome_of_sharing :
    let o := throughOutput.bundleOptions []
    let made := (sharing.makeDirs throughOutput.outputDir).2
    let result := run { settings := throughOutput, disk := sharing } sharingEntries (some [])
    ∃ first second third : Job,
      [first, second, third].map Job.entry = ["a.lua", "b.lua", "a.lua"] ∧
      (∀ j ∈ [first, second, third],
        j.IsFresh throughOutput made o ∧ "m" ∈ j.bundle.modules) ∧
      (∃ e, result.1 = .error (.entryFailed e) ∧ e.entry = "gone.lua") ∧
      result.2.disk.readText ⟨"dist/b.lua"⟩ = .ok second.bundle.text ∧
      result.2.disk.readText ⟨"dist/a.lua"⟩ = .ok third.bundle.text := by
  intro o made result
  have hne : sharingEntries ≠ [] := by simp [sharingEntries]
  have hmade : made = sharingMade := congrArg Prod.snd makeDirs_sharing
  have hstart : startDisk throughOutput sharing = sharingMade := by
    rw [startDisk_of_not_enters isTree_sharing.linkFree (by decide)]
    exact hmade
  obtain ⟨jobs, hfresh, hholds, -, hout⟩ :=
    run_outcome throughOutput sharing isTree_sharing hne [] apart_sharing
  rw [hstart] at hfresh hout
  change Holds sharing jobs result.2.disk at hholds
  change Outcome throughOutput sharingMade o sharingEntries jobs result.1 at hout
  have hallowed : ∀ e, result.1 = .error e → e.isRefusal = false := fun e he =>
    isRefusal_of_run hne [] isTree_sharing.linkFree makeDirs_sharing hasRoomFor_sharing he
  rw [hmade]
  clear_value result
  obtain ⟨outcome, q⟩ := result
  obtain ⟨hplaceA, hplaceB, hplaceGone⟩ := outputPath?_sharing
  cases hout with
  | done hjobs =>
    have hmem : "gone.lua" ∈ jobs.map Job.entry := by simp [hjobs, sharingEntries]
    obtain ⟨j, hj, he⟩ := List.mem_map.1 hmem
    exact absurd (he ▸ (hfresh j hj).bundle) (freshBundle_gone_sharing _)
  | refused _ he =>
    rw [hallowed _ rfl] at he
    cases he
  | stopped hentries hstops =>
    obtain ⟨rfl, first, second, third, rfl, hfirst, hsecond, hthird⟩ :=
      eq_of_stopped_sharing hfresh hentries hstops
    simp only [List.forall_mem_cons] at hfresh ⊢
    obtain ⟨hfreshA, hfreshB, hfreshA', hnil⟩ := hfresh
    have hsecondPlace := hfreshB.output_eq hsecond hplaceB
    have hthirdPlace := hfreshA'.output_eq hthird hplaceA
    refine ⟨first, second, third, by simp [hfirst, hsecond, hthird],
      ⟨⟨hfreshA, mem_modules_sharing (.inl hfirst) hfreshA⟩,
        ⟨hfreshB, mem_modules_sharing (.inr hsecond) hfreshB⟩,
        ⟨hfreshA', mem_modules_sharing (.inl hthird) hfreshA'⟩, by simp⟩, ?_, ?_, ?_⟩
    · cases hstops with
      | elsewhere hnone => cases hplaceGone.symm.trans hnone
      | failed he _ => exact ⟨_, rfl, he⟩
    · rw [← hsecondPlace]
      refine hholds.bundle [first] second [third] rfl ?_
      rw [List.forall_mem_singleton, hthirdPlace, hsecondPlace]
      decide
    · rw [← hthirdPlace]
      exact hholds.bundle [first, second] third [] rfl (by simp)

end Project
end LuaBundler
