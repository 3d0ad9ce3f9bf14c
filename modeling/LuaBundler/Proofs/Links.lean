/-
# Disks with symbolic links

A symbolic link may lead anywhere, so what lies at the end of a path shows only on a disk.  But
as long as links stay where they are, a disk that grows (`Builds`) leads every path to where it
led before, and a path to a free name to what was made there (`Builds.follow`).

A relative path seen from `p` is followed from the place at which `p` is entered (`StartsAt`).
Unless links lie below that place, the path is written to where its own names lead from there
(`of_writeText_join`).  Once a directory has been made it can be entered
(`exists_startsAt_of_makeDirs`).
-/

import LuaBundler.Proofs.Tree

namespace LuaBundler
namespace Disk

/-- The place at which a path ends. -/
def Target.place : Target → Location
  | found loc => loc
  | free loc => loc

variable {d d' : Disk} {purpose : Purpose} {links : Nat} {loc other start : Location}
  {name : String} {names names' : List String} {target : Target} {p q : Path}

/-! ## Following a path -/

theorem follow_nil : d.follow purpose links loc [] = .ok (.found loc) := by
  rw [follow]

theorem follow_stay (hdir : d.isDirAt loc = true) (h : name = "" ∨ name = ".") :
    d.follow purpose links loc (name :: names) = d.follow purpose links loc names := by
  rw [follow, if_neg (not_not.2 hdir), if_pos h]

theorem follow_parent (hdir : d.isDirAt loc = true) :
    d.follow purpose links loc (".." :: names) = d.follow purpose links loc.tail names := by
  rw [follow, if_neg (not_not.2 hdir), if_neg (by decide), if_pos rfl]

theorem follow_free (hdir : d.isDirAt loc = true) (h : Location.Descends name)
    (hsize : name.utf8ByteSize ≤ maxName) (hnode : d.at? (name :: loc) = none) :
    d.follow purpose links loc [name] = .ok (.free (name :: loc)) := by
  rw [follow, if_neg (not_not.2 hdir), if_neg (not_or.2 ⟨h.1, h.2.1⟩), if_neg h.2.2,
    if_neg (by simp [endsInSlash]), if_neg (Nat.not_lt.2 hsize), hnode]
  rfl

theorem follow_step {node : Node} (hslash : ¬ (purpose = .write ∧ endsInSlash names = true))
    (hdir : d.isDirAt loc = true) (h : Location.Descends name) (hsize : name.utf8ByteSize ≤ maxName)
    (hnode : d.at? (name :: loc) = some node) (hlink : ∀ target, node ≠ .link target) :
    d.follow purpose links loc (name :: names) = d.follow purpose links (name :: loc) names := by
  rw [follow, if_neg (not_not.2 hdir), if_neg (not_or.2 ⟨h.1, h.2.1⟩), if_neg h.2.2,
    if_neg hslash, if_neg (Nat.not_lt.2 hsize), hnode]
  cases node with
  | link target => exact absurd rfl (hlink target)
  | dir => rfl
  | file content => rfl

theorem follow_child {node : Node} (hdir : d.isDirAt loc = true) (h : Location.Descends name)
    (hsize : name.utf8ByteSize ≤ maxName) (hnode : d.at? (name :: loc) = some node)
    (hlink : ∀ target, node ≠ .link target) :
    d.follow .reach links loc (name :: names) = d.follow .reach links (name :: loc) names :=
  follow_step (by simp) hdir h hsize hnode hlink

theorem follow_link {target : Path} (hdir : d.isDirAt loc = true) (h : Location.Descends name)
    (hsize : name.utf8ByteSize ≤ maxName) (hnode : d.at? (name :: loc) = some (.link target)) :
    d.follow .reach (links + 1) loc (name :: names) =
      d.follow .reach links (if target.isAbsolute then [] else loc)
        (target.pieces.map String.ofList ++ names) := by
  rw [follow, if_neg (not_not.2 hdir), if_neg (not_or.2 ⟨h.1, h.2.1⟩), if_neg h.2.2,
    if_neg (by simp), if_neg (Nat.not_lt.2 hsize), hnode]
  simp

/-! ## Growing -/

/-- The disk has grown, and no symbolic link was written over. -/
structure Builds (d : Disk) (written : List Location) (d' : Disk) : Prop
    extends d.Grows written d' where
  link : ∀ loc target, d.at? loc = some (.link target) → d'.at? loc = some (.link target)

namespace Builds

variable {written : List Location}

/-- Making directories leaves links alone. -/
theorem of_grows (h : d.Grows [] d') : d.Builds [] d' := by
  refine ⟨h, fun loc target hlink => ?_⟩
  rcases h.node loc with he | ⟨hnone, -⟩ | ⟨hmem, -⟩
  · rwa [he]
  · rw [hnone] at hlink
    cases hlink
  · cases hmem

variable (h : d.Builds written d')
include h

/-- No link is made. -/
theorem link_iff {target : Path} :
    d'.at? loc = some (.link target) ↔ d.at? loc = some (.link target) := by
  refine ⟨fun hlink => ?_, h.link loc target⟩
  rcases h.node loc with he | ⟨-, hdir⟩ | ⟨-, -, text, htext⟩
  · rwa [← he]
  · rw [hdir] at hlink
    cases hlink
  · rw [htext] at hlink
    cases hlink

/-- What is there stays, and is a link only if it was one. -/
theorem exists_node {node : Node} (hnode : d.at? loc = some node)
    (hlink : ∀ target, node ≠ .link target) :
    ∃ node', d'.at? loc = some node' ∧ ∀ target, node' ≠ .link target := by
  obtain ⟨node', hnode'⟩ := Option.isSome_iff_exists.1
    (h.isSome (Option.isSome_of_eq_some hnode))
  refine ⟨node', hnode', ?_⟩
  rintro target rfl
  rw [h.link_iff.1 hnode'] at hnode
  cases hnode
  exact hlink target rfl

theorem origin (p : Path) : d'.origin p = d.origin p := by
  unfold Disk.origin
  rw [h.workingDir]

/-- **A path still leads to where it led.**  If that was a free name, it leads to what was made
there. -/
theorem follow (hp : purpose = .name → ∃ other, target = .free other)
    (hfree : ∀ other, target = .free other →
      ∃ node, d'.at? other = some node ∧ ∀ target, node ≠ .link target)
    (hf : d.follow purpose links loc names = .ok target) :
    d'.follow .reach links loc names = .ok (.found target.place) := by
  fun_induction Disk.follow d purpose links loc names with
  | case1 links loc =>
    cases hf
    exact follow_nil
  | case3 links loc name names hdir hstay ih =>
    rw [follow_stay (h.isDirAt (not_not.1 hdir)) hstay]
    exact ih hf
  | case4 links loc names hdir hstay ih =>
    rw [follow_parent (h.isDirAt (not_not.1 hdir))]
    exact ih hf
  | case7 links loc name hdir hstay hparent hsize hnode hslash =>
    cases hf
    obtain ⟨node, hmade, hlink⟩ := hfree _ rfl
    rw [follow_child (h.isDirAt (not_not.1 hdir)) (Location.descends_of_not hstay hparent)
      (Nat.not_lt.1 hsize) hmade hlink]
    exact follow_nil
  | case9 links loc name names hdir hstay hparent hslash hsize target' hnode hpurpose =>
    cases hf
    obtain ⟨other, hother⟩ := hp hpurpose.2
    cases hother
  | case11 loc name names hdir hstay hparent hslash hsize target' hnode hpurpose links ih =>
    rw [follow_link (h.isDirAt (not_not.1 hdir)) (Location.descends_of_not hstay hparent)
      (Nat.not_lt.1 hsize) (h.link _ _ hnode)]
    exact ih hf
  | case12 links loc name names hdir hstay hparent hslash hsize node hlink hnode ih =>
    obtain ⟨node', hnode', hlink'⟩ := h.exists_node hnode hlink
    rw [follow_child (h.isDirAt (not_not.1 hdir)) (Location.descends_of_not hstay hparent)
      (Nat.not_lt.1 hsize) hnode' hlink']
    exact ih hf
  | _ => cases hf

end Builds

/-! ## Paths seen from a directory -/

/-- Names that lead somewhere do so whatever follows them. -/
theorem follow_append (h : d.follow .reach links loc names = .ok (.found other)) :
    ∃ links', ∀ names', d.follow .reach links loc (names ++ names') =
      d.follow .reach links' other names' := by
  fun_induction follow d .reach links loc names with
  | case1 links loc =>
    cases h
    exact ⟨links, fun names' => rfl⟩
  | case3 links loc name names hdir hstay ih =>
    obtain ⟨links', hlinks⟩ := ih h
    refine ⟨links', fun names' => ?_⟩
    rw [List.cons_append, follow_stay (not_not.1 hdir) hstay, hlinks]
  | case4 links loc names hdir hstay ih =>
    obtain ⟨links', hlinks⟩ := ih h
    refine ⟨links', fun names' => ?_⟩
    rw [List.cons_append, follow_parent (not_not.1 hdir), hlinks]
  | case9 links loc name names hdir hstay hparent hslash hsize target hnode hpurpose =>
    cases hpurpose.2
  | case11 loc name names hdir hstay hparent hslash hsize target hnode hpurpose links ih =>
    obtain ⟨links', hlinks⟩ := ih h
    refine ⟨links', fun names' => ?_⟩
    rw [List.cons_append, follow_link (not_not.1 hdir) (Location.descends_of_not hstay hparent)
      (Nat.not_lt.1 hsize) hnode, ← List.append_assoc]
    exact hlinks names'
  | case12 links loc name names hdir hstay hparent hslash hsize node hlink hnode ih =>
    obtain ⟨links', hlinks⟩ := ih h
    refine ⟨links', fun names' => ?_⟩
    rw [List.cons_append, follow_child (not_not.1 hdir) (Location.descends_of_not hstay hparent)
      (Nat.not_lt.1 hsize) hnode hlink, hlinks]
  | _ => cases h

/-- A name that is followed on the way is that of a link or of something else. -/
theorem of_follow_cons (h : d.follow purpose links loc (name :: names) = .ok target)
    (hname : Location.Descends name) (hne : names ≠ []) :
    d.isDirAt loc = true ∧ name.utf8ByteSize ≤ maxName ∧
      ((∃ node, d.at? (name :: loc) = some node ∧ (∀ target, node ≠ .link target) ∧
          d.follow purpose links (name :: loc) names = .ok target) ∨
        ∃ path n, d.at? (name :: loc) = some (.link path) ∧ links = n + 1 ∧
          d.follow purpose n (if path.isAbsolute then [] else loc)
            (path.pieces.map String.ofList ++ names) = .ok target) := by
  rw [follow] at h
  split at h
  · cases h
  next hdir =>
  rw [if_neg (not_or.2 ⟨hname.1, hname.2.1⟩), if_neg hname.2.2] at h
  split at h
  · cases h
  split at h
  · cases h
  next hsize =>
  refine ⟨not_not.1 hdir, Nat.not_lt.1 hsize, ?_⟩
  split at h
  · cases h
  · next path hnode =>
    rw [if_neg fun hall => hne hall.1] at h
    cases links with
    | zero => cases h
    | succ n => exact .inr ⟨path, n, hnode, rfl, h⟩
  · next node hlink hnode => exact .inl ⟨node, hnode, hlink, h⟩

/-- **What is followed behind some names is followed from where they lead.** -/
theorem exists_follow_of_append (hne : names' ≠ [])
    (h : d.follow purpose links loc (names ++ names') = .ok target) :
    ∃ links' start, d.follow .reach links loc names = .ok (.found start) ∧
      d.follow purpose links' start names' = .ok target := by
  fun_induction follow d .reach links loc names with
  | case1 links loc => exact ⟨links, loc, rfl, h⟩
  | case2 links loc name names hdir =>
    rw [List.cons_append, follow, if_pos hdir] at h
    cases h
  | case3 links loc name names hdir hstay ih =>
    rw [List.cons_append, follow_stay (not_not.1 hdir) hstay] at h
    exact ih h
  | case4 links loc names hdir hstay ih =>
    rw [List.cons_append, follow_parent (not_not.1 hdir)] at h
    exact ih h
  | case5 links loc name names hdir hstay hparent hslash => cases hslash.1
  | case6 links loc name names hdir hstay hparent hslash hsize =>
    obtain ⟨-, hshort, -⟩ :=
      of_follow_cons h (Location.descends_of_not hstay hparent) (by simp [hne])
    exact absurd hsize (Nat.not_lt.2 hshort)
  | case7 links loc name hdir hstay hparent hsize hnode hslash =>
    obtain ⟨-, -, ⟨node, hnode', -⟩ | ⟨path, n, hnode', -⟩⟩ :=
      of_follow_cons h (Location.descends_of_not hstay hparent) (by simp [hne])
    · cases hnode.symm.trans hnode'
    · cases hnode.symm.trans hnode'
  | case8 links loc name names hdir hstay hparent hslash hsize hnode =>
    obtain ⟨-, -, ⟨node, hnode', -⟩ | ⟨path, n, hnode', -⟩⟩ :=
      of_follow_cons h (Location.descends_of_not hstay hparent) (by simp [hne])
    · cases hnode.symm.trans hnode'
    · cases hnode.symm.trans hnode'
  | case9 links loc name names hdir hstay hparent hslash hsize target hnode hpurpose =>
    cases hpurpose.2
  | case10 loc name names hdir hstay hparent hslash hsize target hnode =>
    obtain ⟨-, -, ⟨node, hnode', hlink, -⟩ | ⟨path, n, -, hzero, -⟩⟩ :=
      of_follow_cons h (Location.descends_of_not hstay hparent) (by simp [hne])
    · exact absurd (Option.some.inj (hnode'.symm.trans hnode)) (hlink target)
    · cases hzero
  | case11 loc name names hdir hstay hparent hslash hsize target hnode hpurpose links ih =>
    obtain ⟨-, -, ⟨node, hnode', hlink, -⟩ | ⟨path, n, hnode', hn, hrest⟩⟩ :=
      of_follow_cons h (Location.descends_of_not hstay hparent) (by simp [hne])
    · exact absurd (Option.some.inj (hnode'.symm.trans hnode)) (hlink target)
    · cases hnode.symm.trans hnode'
      cases hn
      exact ih (by rwa [List.append_assoc])
  | case12 links loc name names hdir hstay hparent hslash hsize node hlink hnode ih =>
    obtain ⟨-, -, ⟨node', hnode', -, hrest⟩ | ⟨path, n, hnode', -⟩⟩ :=
      of_follow_cons h (Location.descends_of_not hstay hparent) (by simp [hne])
    · exact ih hrest
    · exact absurd (Option.some.inj (hnode.symm.trans hnode')) (hlink path)

/-- Without links below a place, names that never turn to a parent lead where they say. -/
theorem eq_walk_of_follow (hclear : ∀ loc target, start <:+ loc → d.at? loc ≠ some (.link target))
    (hloc : start <:+ loc) (hnames : ".." ∉ names)
    (h : d.follow purpose links loc names = .ok target) :
    target.place = loc.walk names := by
  fun_induction follow d purpose links loc names with
  | case1 links loc =>
    cases h
    rfl
  | case3 links loc name names hdir hstay ih =>
    rw [Location.walk_cons, Location.turn_of_stay hstay]
    exact ih hloc (List.not_mem_of_not_mem_cons hnames) h
  | case4 links loc names hdir hstay ih => exact absurd List.mem_cons_self hnames
  | case7 links loc name hdir hstay hparent hsize hnode hslash =>
    cases h
    rw [Location.walk_cons, Location.turn_of_descends (Location.descends_of_not hstay hparent)]
    rfl
  | case9 links loc name names hdir hstay hparent hslash hsize target hnode hpurpose =>
    exact absurd hnode (hclear _ _ (hloc.trans (List.suffix_cons _ _)))
  | case11 loc name names hdir hstay hparent hslash hsize target hnode hpurpose links ih =>
    exact absurd hnode (hclear _ _ (hloc.trans (List.suffix_cons _ _)))
  | case12 links loc name names hdir hstay hparent hslash hsize node hnode hlink ih =>
    rw [Location.walk_cons, Location.turn_of_descends (Location.descends_of_not hstay hparent)]
    exact ih (hloc.trans (List.suffix_cons _ _)) (List.not_mem_of_not_mem_cons hnames) h
  | _ => cases h

/-- Relative paths seen from `p` are followed from `start`. -/
def StartsAt (d : Disk) (p : Path) (start : Location) : Prop :=
  d.follow .reach maxLinks (d.origin p) (p.lead.map String.ofList) = .ok (.found start)

/-- No symbolic link lies below the place at which `p` is entered. -/
def ClearBelow (d : Disk) (p : Path) : Prop :=
  ∀ start, d.StartsAt p start → ∀ loc target, start <:+ loc → d.at? loc ≠ some (.link target)

theorem LinkFree.clearBelow (hd : d.LinkFree) (p : Path) : d.ClearBelow p :=
  fun _ _ loc target _ => hd loc target

theorem StartsAt.unique {start' : Location} (h : d.StartsAt p start) (h' : d.StartsAt p start') :
    start = start' := by
  have he := h.symm.trans h'
  cases he
  rfl

namespace Builds

variable {written : List Location} (h : d.Builds written d')
include h

theorem startsAt (hs : d.StartsAt p start) : d'.StartsAt p start := by
  unfold StartsAt
  rw [h.origin]
  exact h.follow (by simp) (by simp) hs

/-- If paths seen from `p` are followed at all, links below are no more than before. -/
theorem clearBelow (hs : d.StartsAt p start) (hclear : d.ClearBelow p) : d'.ClearBelow p := by
  intro start' hs' loc target hloc hlink
  rw [← (h.startsAt hs).unique hs'] at hloc
  exact hclear start hs loc target hloc (h.link_iff.1 hlink)

/-- What a path leads to it still leads to. -/
theorem locate (hf : d.locate p = .ok (.found loc)) : d'.locate p = .ok (.found loc) := by
  unfold Disk.locate at hf ⊢
  rw [followFrom_eq_ok_iff] at hf ⊢
  rw [h.origin]
  exact ⟨hf.1, h.follow (by simp) (by simp) hf.2⟩

end Builds

/-- The text of a file is read by any path that leads to it. -/
theorem readText_of_locate {text : String} (hl : d.locate p = .ok (.found loc))
    (hfile : d.at? loc = some (.file text.toUTF8)) : d.readText p = .ok text.toList := by
  unfold readText readBytes
  simp only [hl, hfile, fromUTF8?_toUTF8]

theorem names_ne_nil (p : Path) : p.names ≠ [] := by
  unfold Path.names Path.pieces
  simp

/-- What is written lies where its path leads, and no directory was there. -/
theorem exists_of_writeText {s : List Char} (h : d.writeText p s = (.ok (), d')) :
    ∃ target, d.followFrom .write p p.pieces = .ok target ∧ d.isDirAt target.place = false ∧
      d' = d.put target.place (.file (String.ofList s).toUTF8) := by
  unfold writeText writeBytes at h
  split at h
  · cases h
  · next free hfree =>
    cases h
    obtain ⟨last, parent, -, -, hnone⟩ := parent_of_follow_free (followFrom_eq_ok_iff.1 hfree).2
    refine ⟨_, hfree, ?_, rfl⟩
    unfold isDirAt Target.place
    rw [hnone]
  · next found hfound =>
    split at h
    · cases h
    next hfile =>
    cases h
    exact ⟨_, hfound, Bool.eq_false_iff.2 hfile, rfl⟩

/-- **A text is written where the names of its path lead**, and read back there. -/
theorem of_writeText_join {s : List Char} (hq : q.isInward = true) (hclear : d.ClearBelow p)
    (h : d.writeText (p.join q) s = (.ok (), d')) :
    ∃ start, d.StartsAt p start ∧ d.Builds [start.walk q.names] d' ∧
      d'.locate (p.join q) = .ok (.found (start.walk q.names)) ∧
      d'.at? (start.walk q.names) = some (.file (String.ofList s).toUTF8) := by
  have habs : q.isAbsolute = false := (Path.isInward_iff.1 hq).1
  have hinward := not_mem_names_of_isInward hq
  obtain ⟨target, hfollow, hfile, hput⟩ := exists_of_writeText h
  obtain ⟨husable, hfollow⟩ := followFrom_eq_ok_iff.1 hfollow
  have hnames : (p.join q).pieces.map String.ofList = p.lead.map String.ofList ++ q.names :=
    names_join habs
  rw [origin_join d habs, hnames] at hfollow
  obtain ⟨links', start, hs, hrest⟩ := exists_follow_of_append (names_ne_nil q) hfollow
  have hplace : target.place = start.walk q.names :=
    eq_walk_of_follow (hclear start hs) List.suffix_rfl hinward hrest
  obtain ⟨hgrows, hnode⟩ := grows_put hfile (String.ofList s)
  rw [← hput] at hgrows hnode
  have hbuilds : d.Builds [target.place] d' := by
    refine ⟨hgrows, fun other path hlink => ?_⟩
    rcases hgrows.node other with he | ⟨hnone, -⟩ | ⟨hmem, -⟩
    · rwa [he]
    · rw [hnone] at hlink
      cases hlink
    · rw [List.mem_singleton.1 hmem, hplace] at hlink
      exact absurd hlink (hclear start hs _ _ (Location.suffix_walk hinward))
  have hfound := hbuilds.follow (by simp)
    (fun other he => ⟨_, by rw [he] at hnode; exact hnode, by simp⟩) hfollow
  rw [hplace] at hbuilds hnode hfound
  refine ⟨start, hs, hbuilds, ?_, hnode⟩
  rw [locate, followFrom_eq_ok_iff, origin_join d' habs, hbuilds.origin, hnames]
  exact ⟨husable, hfound⟩

/-! ## Directories that were made -/

/-- Empty names lead from a directory to itself. -/
theorem follow_of_forall_eq_empty (hdir : d.isDirAt loc = true) (h : ∀ name ∈ names, name = "") :
    d.follow purpose links loc names = .ok (.found loc) := by
  induction names with
  | nil => exact follow_nil
  | cons name names ih =>
    rw [follow_stay hdir (.inl (h name List.mem_cons_self))]
    exact ih fun other hother => h other (List.mem_cons_of_mem _ hother)

theorem exists_startsAt_of_isDir (h : d.isDir p = true) : ∃ start, d.StartsAt p start := by
  have hlocate : ∃ loc, d.locate p = .ok (.found loc) := by
    unfold isDir stat? at h
    cases hl : d.locate p with
    | error f => simp [hl] at h
    | ok target =>
      cases target with
      | free loc => simp [hl] at h
      | found loc => exact ⟨loc, rfl⟩
  obtain ⟨loc, hl⟩ := hlocate
  have hf := (followFrom_eq_ok_iff.1 hl).2
  rcases p.pieces_eq_lead with he | he
  · rw [he] at hf
    exact ⟨loc, hf⟩
  · rw [he, List.map_append] at hf
    obtain ⟨-, start, hs, -⟩ := exists_follow_of_append (by simp) hf
    exact ⟨start, hs⟩

/-- Slashes at the end of a path do not count when a directory is made, and what is seen from it
stands behind them. -/
theorem exists_lead_eq (p : Path) : ∃ back, (∀ piece ∈ back, piece = []) ∧
    p.lead = (p.pieces.reverse.dropWhile (· = [])).reverse ++ back := by
  have hcut : ∀ pieces : List (List Char), ∃ back, (∀ piece ∈ back, piece = []) ∧
      pieces = (pieces.reverse.dropWhile (· = [])).reverse ++ back := by
    intro pieces
    refine ⟨(pieces.reverse.takeWhile (· = [])).reverse, fun piece hmem => ?_, ?_⟩
    · have hall := List.all_takeWhile (p := fun piece : List Char => decide (piece = []))
        (l := pieces.reverse)
      exact of_decide_eq_true (List.all_eq_true.1 hall piece (List.mem_reverse.1 hmem))
    · rw [← List.reverse_append, List.takeWhile_append_dropWhile, List.reverse_reverse]
  obtain ⟨back, hback, hlead⟩ := hcut p.lead
  refine ⟨back, hback, ?_⟩
  rcases p.pieces_eq_lead with he | he
  · rwa [he]
  · rw [he, List.reverse_append]
    exact hlead

theorem exists_startsAt_of_makeDir (h : d.makeDir p = (.ok (), d')) :
    ∃ start, d'.StartsAt p start := by
  have hbuilds : d.Builds [] d' := .of_grows (of_makeDir h).1
  unfold makeDir at h
  split at h
  · cases h
  · cases h
  next free hfree =>
  cases h
  have hfollow := (followFrom_eq_ok_iff.1 hfree).2
  obtain ⟨last, parent, rfl, -, -⟩ := parent_of_follow_free hfollow
  have hmade : (d.put (last :: parent) .dir).at? (last :: parent) = some .dir := by
    rw [at?_put (List.cons_ne_nil _ _), if_pos rfl]
  have hfound := hbuilds.follow (fun _ => ⟨_, rfl⟩)
    (fun other he => ⟨_, by cases he; exact hmade, by simp⟩) hfollow
  obtain ⟨links', hlinks⟩ := follow_append hfound
  obtain ⟨back, hback, hlead⟩ := exists_lead_eq p
  refine ⟨last :: parent, ?_⟩
  rw [StartsAt, hbuilds.origin, hlead, List.map_append, hlinks]
  refine follow_of_forall_eq_empty (isDirAt_iff.2 hmade) fun name hname => ?_
  obtain ⟨piece, hpiece, rfl⟩ := List.mem_map.1 hname
  rw [hback piece hpiece]

theorem exists_startsAt_of_orDir {fault : Fault} {d₀ : Disk}
    (h : orDir p fault d₀ = (.ok (), d')) : ∃ start, d'.StartsAt p start := by
  unfold orDir at h
  split at h
  · next hdir =>
    cases h
    exact exists_startsAt_of_isDir hdir
  · cases h

/-- **A directory that has been made can be entered.** -/
theorem exists_startsAt_of_makeDirs (h : d.makeDirs p = (.ok (), d')) :
    ∃ start, d'.StartsAt p start := by
  unfold makeDirs at h
  split at h
  · next hempty =>
    cases h
    refine ⟨d.origin p, ?_⟩
    rw [StartsAt, show p = ⟨""⟩ from congrArg Path.mk hempty]
    exact follow_nil
  unfold makeFirst at h
  split at h
  · next made hmade =>
    cases h
    exact exists_startsAt_of_makeDir hmade
  · split at h
    · cases h
    · split at h
      · next last hlast =>
        cases h
        exact exists_startsAt_of_makeDir hlast
      · exact exists_startsAt_of_orDir h
  · exact exists_startsAt_of_orDir h

end Disk
end LuaBundler
