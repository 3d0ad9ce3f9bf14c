/-
# Trees of directories and files

On a disk without symbolic links a path leads to the same place on every disk it leads
anywhere on: `placeOf` finds it from the path alone.  Whether it leads there depends on what
lies on the way (`Leads`): each name must stand in a directory.

A disk grows (`Grows`) if directories are made where nothing was and files are written.  Then
every path that led somewhere still does (`Grows.leads`), and a file is changed only at the
places written to.  Conversely, if a path seen from a directory of the old disk leads to an
old file on the new disk, then it did so before (`Grows.readText_of_inward`): in a closed
tree, where everything lies in a directory, the directories on the way to a file are as old as
the file.
-/

import LuaBundler.Disk.Write
import LuaBundler.Proofs.Paths

namespace LuaBundler

namespace Location

/-- Where a name leads from a place, whatever lies there. -/
def turn (loc : Location) (name : String) : Location :=
  if name = "" ∨ name = "." then loc else if name = ".." then loc.tail else name :: loc

/-- The name leads neither to the place itself nor to its parent. -/
def Descends (name : String) : Prop := name ≠ "" ∧ name ≠ "." ∧ name ≠ ".."

instance (name : String) : Decidable (Descends name) := inferInstanceAs (Decidable (_ ∧ _ ∧ _))

theorem descends_of_not {name : String} (hstay : ¬ (name = "" ∨ name = "."))
    (hparent : name ≠ "..") : Descends name :=
  ⟨fun he => hstay (.inl he), fun he => hstay (.inr he), hparent⟩

theorem turn_of_stay {loc : Location} {name : String} (h : name = "" ∨ name = ".") :
    loc.turn name = loc := if_pos h

theorem turn_parent (loc : Location) : loc.turn ".." = loc.tail := rfl

theorem turn_of_descends {loc : Location} {name : String} (h : Descends name) :
    loc.turn name = name :: loc := by
  unfold turn
  rw [if_neg (not_or.2 ⟨h.1, h.2.1⟩), if_neg h.2.2]

/-- Where names lead from a place, one after the other. -/
def walk (loc : Location) (names : List String) : Location := names.foldl turn loc

@[simp] theorem walk_nil (loc : Location) : loc.walk [] = loc := rfl

@[simp] theorem walk_cons (loc : Location) (name : String) (names : List String) :
    loc.walk (name :: names) = (loc.turn name).walk names := rfl

@[simp] theorem walk_append (loc : Location) (names names' : List String) :
    loc.walk (names ++ names') = (loc.walk names).walk names' := List.foldl_append

/-- Names that never turn to a parent lead to a place below. -/
theorem suffix_walk {loc : Location} {names : List String} (h : ".." ∉ names) :
    loc <:+ loc.walk names := by
  induction names generalizing loc with
  | nil => exact List.suffix_rfl
  | cons name names ih =>
    obtain ⟨hname, hnames⟩ := List.ne_and_not_mem_of_not_mem_cons h
    refine List.IsSuffix.trans ?_ (ih hnames)
    unfold turn
    rw [if_neg (Ne.symm hname)]
    split
    · exact List.suffix_rfl
    · exact List.suffix_cons _ _

/-- Names that never turn to a parent and are not all empty or dots lead to a place strictly
below. -/
theorem exists_walk_eq {loc : Location} {names : List String} (h : ".." ∉ names)
    (hdown : ∃ name ∈ names, Descends name) :
    ∃ name below, loc.walk names = name :: below ++ loc := by
  induction names generalizing loc with
  | nil => simp at hdown
  | cons name names ih =>
    obtain ⟨hname, hnames⟩ := List.ne_and_not_mem_of_not_mem_cons h
    by_cases hstay : name = "" ∨ name = "."
    · rw [walk_cons, turn_of_stay hstay]
      refine ih hnames ?_
      obtain ⟨other, hmem, hother⟩ := hdown
      rcases List.mem_cons.1 hmem with rfl | hmem
      · exact absurd hstay fun hs => hs.elim hother.1 hother.2.1
      · exact ⟨other, hmem, hother⟩
    · rw [walk_cons, turn_of_descends (descends_of_not hstay (Ne.symm hname))]
      obtain ⟨below, hbelow⟩ : name :: loc <:+ walk (name :: loc) names := suffix_walk hnames
      cases below with
      | nil => exact ⟨name, [], hbelow.symm⟩
      | cons first below => exact ⟨first, below ++ [name], by simp [← hbelow]⟩

end Location

/-- The pieces of a path, as names. -/
def Path.names (p : Path) : List String := p.pieces.map String.ofList

namespace Disk

/-- The place from which a path is followed. -/
def origin (d : Disk) (p : Path) : Location := if p.isAbsolute then [] else d.workingDir

/-- The place that a path leads to unless there are symbolic links on the way, whether or not
anything lies there. -/
def placeOf (d : Disk) (p : Path) : Location := (d.origin p).walk p.names

/-- Nothing on the disk is a symbolic link. -/
def LinkFree (d : Disk) : Prop := ∀ loc target, d.at? loc ≠ some (.link target)

/-- Whatever lies on the disk lies in a directory. -/
def Closed (d : Disk) : Prop := ∀ name loc, (d.at? (name :: loc)).isSome → d.isDirAt loc = true

/-- A tree of directories and files, each under a name that a path can give it. -/
structure IsTree (d : Disk) : Prop where
  closed : d.Closed
  linkFree : d.LinkFree
  named : ∀ name loc, (d.at? (name :: loc)).isSome → Location.Descends name ∧ '/' ∉ name.toList

/-- The names lead somewhere from a place: each stands in a directory, and something of that
name is in it. -/
def Leads (d : Disk) : Location → List String → Prop
  | _, [] => True
  | loc, name :: names =>
    d.isDirAt loc = true ∧
      (Location.Descends name → name.utf8ByteSize ≤ maxName ∧ (d.at? (name :: loc)).isSome) ∧
      d.Leads (loc.turn name) names

instance decidableLeads (d : Disk) : (loc : Location) → (names : List String) →
    Decidable (d.Leads loc names)
  | _, [] => .isTrue trivial
  | loc, name :: names =>
    have := d.decidableLeads (loc.turn name) names
    inferInstanceAs (Decidable (_ ∧ (Location.Descends name → _) ∧ _))

variable {d d' d'' : Disk} {loc other : Location} {name : String} {names : List String}
  {p q : Path}

/-- What is listed lies in a directory, under a name that a path can give it, and is no
symbolic link. -/
def fits (d : Disk) : Location × Node → Bool
  | (_, .link _) => false
  | (loc, _) => d.isDirAt loc.tail && loc.head?.all fun name =>
      name ≠ "" && name ≠ "." && name ≠ ".." && !name.toList.contains '/'

/-- Whether a disk is a tree shows in the list of what lies where. -/
theorem isTree_of_fits (h : d.nodes.all d.fits = true) : d.IsTree := by
  have hfits : ∀ name parent node, d.at? (name :: parent) = some node →
      d.fits (name :: parent, node) = true := by
    intro name parent node hat
    obtain ⟨before, later, hnodes, -⟩ := List.lookup_eq_some_iff.1 hat
    exact List.all_eq_true.1 h _ (by simp [hnodes])
  have hchild : ∀ name parent, (d.at? (name :: parent)).isSome → d.isDirAt parent = true ∧
      Location.Descends name ∧ '/' ∉ name.toList := by
    intro name parent hsome
    obtain ⟨node, hat⟩ := Option.isSome_iff_exists.1 hsome
    have hfit := hfits name parent node hat
    cases node with
    | link target => cases hfit
    | dir => simpa [fits, Location.Descends, and_assoc] using hfit
    | file content => simpa [fits, Location.Descends, and_assoc] using hfit
  refine ⟨fun name loc hsome => (hchild name loc hsome).1, fun loc target hlink => ?_,
    fun name loc hsome => (hchild name loc hsome).2⟩
  cases loc with
  | nil => cases hlink
  | cons name parent => cases hfits name parent _ hlink

theorem isDirAt_iff : d.isDirAt loc = true ↔ d.at? loc = some .dir := by
  unfold isDirAt
  split <;> simp_all

theorem isFileAt_iff {content : ByteArray} :
    d.isFileAt loc content = true ↔ d.at? loc = some (.file content) := by
  have hbeq : ∀ other : ByteArray, (other == content) = true ↔ other = content := by
    refine fun other => ⟨fun h => ?_, ?_⟩
    · exact congrArg ByteArray.mk (eq_of_beq (a := other.data) (b := content.data) h)
    · rintro rfl
      exact beq_self_eq_true other.data
  unfold isFileAt
  split <;> simp_all

/-! ## Following -/

@[simp] theorem leads_nil : d.Leads loc [] := trivial

theorem leads_stay (h : name = "" ∨ name = ".") :
    d.Leads loc (name :: names) ↔ d.isDirAt loc = true ∧ d.Leads loc names := by
  have hname : ¬ Location.Descends name := fun hdown => h.elim hdown.1 hdown.2.1
  rw [Leads, Location.turn_of_stay h]
  simp [hname]

theorem leads_parent :
    d.Leads loc (".." :: names) ↔ d.isDirAt loc = true ∧ d.Leads loc.tail names := by
  have hname : ¬ Location.Descends ".." := fun hdown => hdown.2.2 rfl
  rw [Leads, Location.turn_parent]
  simp [hname]

theorem leads_child (h : Location.Descends name) :
    d.Leads loc (name :: names) ↔ d.isDirAt loc = true ∧ name.utf8ByteSize ≤ maxName ∧
      (d.at? (name :: loc)).isSome ∧ d.Leads (name :: loc) names := by
  rw [Leads, Location.turn_of_descends h]
  simp [h, and_assoc]

theorem leads_append {names' : List String} :
    d.Leads loc (names ++ names') ↔ d.Leads loc names ∧ d.Leads (loc.walk names) names' := by
  induction names generalizing loc with
  | nil => simp
  | cons name names ih =>
    rw [List.cons_append, Leads, Leads, ih, Location.walk_cons, and_assoc, and_assoc]

/-- Names that were followed to something lead there. -/
theorem leads_of_follow {purpose : Purpose} {links : Nat} (hd : d.LinkFree)
    (h : d.follow purpose links loc names = .ok (.found other)) :
    d.Leads loc names ∧ other = loc.walk names := by
  fun_induction follow d purpose links loc names with
  | case1 loc links =>
    cases h
    exact ⟨leads_nil, rfl⟩
  | case3 links loc name names hdir hstay ih =>
    obtain ⟨hlead, rfl⟩ := ih h
    rw [leads_stay hstay, Location.walk_cons, Location.turn_of_stay hstay]
    exact ⟨⟨not_not.1 hdir, hlead⟩, rfl⟩
  | case4 links loc names hdir hstay ih =>
    obtain ⟨hlead, rfl⟩ := ih h
    rw [leads_parent, Location.walk_cons, Location.turn_parent]
    exact ⟨⟨not_not.1 hdir, hlead⟩, rfl⟩
  | case12 links loc name names hdir hstay hparent hslash hsize node hnode hlink ih =>
    obtain ⟨hlead, rfl⟩ := ih h
    have hname := Location.descends_of_not hstay hparent
    rw [leads_child hname, Location.walk_cons, Location.turn_of_descends hname]
    exact ⟨⟨not_not.1 hdir, Nat.not_lt.1 hsize, Option.isSome_of_eq_some hlink, hlead⟩, rfl⟩
  | case9 links loc name names hdir hstay hparent hslash hsize target hnode hpurpose =>
    exact absurd hnode (hd _ _)
  | case11 loc name names hdir hstay hparent hslash hsize target hnode hpurpose links ih =>
    exact absurd hnode (hd _ _)
  | _ => cases h

/-- Names that lead somewhere are followed there, unless a file is to be written. -/
theorem follow_of_leads {purpose : Purpose} {links : Nat} (hpurpose : purpose ≠ .write)
    (hd : d.LinkFree) (h : d.Leads loc names) :
    d.follow purpose links loc names = .ok (.found (loc.walk names)) := by
  fun_induction follow d purpose links loc names with
  | case1 => rfl
  | case2 links loc name names hdir => exact absurd h.1 hdir
  | case3 links loc name names hdir hstay ih =>
    rw [Location.walk_cons, Location.turn_of_stay hstay]
    exact ih ((leads_stay hstay).1 h).2
  | case4 links loc names hdir hstay ih => exact ih (leads_parent.1 h).2
  | case5 links loc name names hdir hstay hparent hslash => exact absurd hslash.1 hpurpose
  | case6 links loc name names hdir hstay hparent hslash hsize =>
    have hshort := ((leads_child (Location.descends_of_not hstay hparent)).1 h).2.1
    exact absurd hsize (Nat.not_lt.2 hshort)
  | case7 links loc name hdir hstay hparent hsize hnode hslash =>
    have hsome := ((leads_child (Location.descends_of_not hstay hparent)).1 h).2.2.1
    rw [hnode] at hsome
    cases hsome
  | case8 links loc name names hdir hstay hparent hslash hsize hnode =>
    have hsome := ((leads_child (Location.descends_of_not hstay hparent)).1 h).2.2.1
    rw [hnode] at hsome
    cases hsome
  | case9 links loc name names hdir hstay hparent hslash hsize target hnode =>
    exact absurd hnode (hd _ _)
  | case10 loc name names hdir hstay hparent hslash hsize target hnode =>
    exact absurd hnode (hd _ _)
  | case11 loc name names hdir hstay hparent hslash hsize target hnode =>
    exact absurd hnode (hd _ _)
  | case12 links loc name names hdir hstay hparent hslash hsize node hnode hlink ih =>
    have hname := Location.descends_of_not hstay hparent
    rw [Location.walk_cons, Location.turn_of_descends hname]
    exact ih ((leads_child hname).1 h).2.2.2

/-- Names that were followed to a free place end in its name, and those before lead to its
parent. -/
theorem leads_of_follow_free {purpose : Purpose} {links : Nat} (hd : d.LinkFree)
    (h : d.follow purpose links loc names = .ok (.free other)) :
    ∃ init last, names = init ++ [last] ∧ d.Leads loc init ∧ other = last :: loc.walk init ∧
      Location.Descends last ∧ last.utf8ByteSize ≤ maxName := by
  fun_induction follow d purpose links loc names with
  | case3 links loc name names hdir hstay ih =>
    obtain ⟨init, last, rfl, hlead, rfl, hlast⟩ := ih h
    refine ⟨name :: init, last, rfl, (leads_stay hstay).2 ⟨not_not.1 hdir, hlead⟩, ?_, hlast⟩
    rw [Location.walk_cons, Location.turn_of_stay hstay]
  | case4 links loc names hdir hstay ih =>
    obtain ⟨init, last, rfl, hlead, rfl, hlast⟩ := ih h
    exact ⟨".." :: init, last, rfl, leads_parent.2 ⟨not_not.1 hdir, hlead⟩, rfl, hlast⟩
  | case7 links loc name hdir hstay hparent hsize hnode hslash =>
    cases h
    exact ⟨[], name, rfl, leads_nil, rfl, Location.descends_of_not hstay hparent,
      Nat.not_lt.1 hsize⟩
  | case11 loc name names hdir hstay hparent hslash hsize target hnode hpurpose links ih =>
    exact absurd hnode (hd _ _)
  | case12 links loc name names hdir hstay hparent hslash hsize node hnode hlink ih =>
    obtain ⟨init, last, rfl, hlead, rfl, hlast⟩ := ih h
    have hname := Location.descends_of_not hstay hparent
    refine ⟨name :: init, last, rfl, (leads_child hname).2 ⟨not_not.1 hdir, Nat.not_lt.1 hsize,
      Option.isSome_of_eq_some hlink, hlead⟩, ?_, hlast⟩
    rw [Location.walk_cons, Location.turn_of_descends hname]
  | _ => cases h

/-- A free place lies in a directory, and nothing lies there. -/
theorem parent_of_follow_free {purpose : Purpose} {links : Nat}
    (h : d.follow purpose links loc names = .ok (.free other)) :
    ∃ last parent, other = last :: parent ∧ d.isDirAt parent = true ∧ d.at? other = none := by
  fun_induction follow d purpose links loc names with
  | case3 links loc name names hdir hstay ih => exact ih h
  | case4 links loc names hdir hstay ih => exact ih h
  | case7 links loc name hdir hstay hparent hsize hnode hslash =>
    cases h
    exact ⟨name, loc, rfl, not_not.1 hdir, hnode⟩
  | case11 loc name names hdir hstay hparent hslash hsize target hnode hpurpose links ih =>
    exact ih h
  | case12 links loc name names hdir hstay hparent hslash hsize node hnode hlink ih => exact ih h
  | _ => cases h

/-! ## Reading -/

/-- The system takes the text for a path. -/
structure IsUsable (p : Path) : Prop where
  noNul : '\x00' ∉ p.text.toList
  nonempty : p.text ≠ ""
  short : p.text.utf8ByteSize < pathLimit

instance (p : Path) : Decidable (IsUsable p) :=
  decidable_of_iff ('\x00' ∉ p.text.toList ∧ p.text ≠ "" ∧ p.text.utf8ByteSize < pathLimit)
    ⟨fun ⟨hnul, hempty, hshort⟩ => ⟨hnul, hempty, hshort⟩,
      fun h => ⟨h.noNul, h.nonempty, h.short⟩⟩

theorem followFrom_eq_ok_iff {purpose : Purpose} {pieces : List (List Char)} {target : Target} :
    d.followFrom purpose p pieces = .ok target ↔ IsUsable p ∧
      d.follow purpose maxLinks (d.origin p) (pieces.map String.ofList) = .ok target := by
  unfold followFrom origin
  constructor
  · intro h
    split at h
    · cases h
    next hnul =>
    split at h
    · cases h
    next hempty =>
    split at h
    · cases h
    next hshort => exact ⟨⟨hnul, hempty, Nat.not_le.1 hshort⟩, h⟩
  · rintro ⟨⟨hnul, hempty, hshort⟩, h⟩
    rwa [if_neg hnul, if_neg hempty, if_neg (Nat.not_le.2 hshort)]

/-- The path leads somewhere. -/
def Reaches (d : Disk) (p : Path) : Prop := IsUsable p ∧ d.Leads (d.origin p) p.names

instance (d : Disk) (p : Path) : Decidable (d.Reaches p) := inferInstanceAs (Decidable (_ ∧ _))

theorem locate_eq_found_iff (hd : d.LinkFree) :
    d.locate p = .ok (.found loc) ↔ d.Reaches p ∧ loc = d.placeOf p := by
  unfold locate
  rw [followFrom_eq_ok_iff, Reaches, and_assoc]
  refine and_congr_right fun _ => ⟨leads_of_follow hd, ?_⟩
  rintro ⟨hlead, rfl⟩
  exact follow_of_leads (by simp) hd hlead

/-- **Reading a path** gives the text of the file at its place, if it leads there. -/
theorem readText_eq_ok_iff (hd : d.LinkFree) {s : List Char} :
    d.readText p = .ok s ↔ d.Reaches p ∧ ∃ content text,
      d.at? (d.placeOf p) = some (.file content) ∧ String.fromUTF8? content = some text ∧
        s = text.toList := by
  unfold readText readBytes
  constructor
  · intro h
    cases hl : d.locate p with
    | error f => simp [hl] at h
    | ok target =>
      cases target with
      | free loc => simp [hl] at h
      | found loc =>
        obtain ⟨hreach, rfl⟩ := (locate_eq_found_iff hd).1 hl
        simp only [hl] at h
        cases hn : d.at? (d.placeOf p) with
        | none => simp [hn] at h
        | some node =>
          cases node with
          | dir => simp [hn] at h
          | link target => simp [hn] at h
          | file content =>
            simp only [hn] at h
            cases ht : String.fromUTF8? content with
            | none => simp [ht] at h
            | some text =>
              simp only [ht] at h
              cases h
              exact ⟨hreach, content, text, rfl, ht, rfl⟩
  · rintro ⟨hreach, content, text, hn, ht, rfl⟩
    have hl : d.locate p = .ok (.found (d.placeOf p)) := (locate_eq_found_iff hd).2 ⟨hreach, rfl⟩
    simp only [hl, hn, ht]

theorem isDir_iff (hd : d.LinkFree) :
    d.isDir p = true ↔ d.Reaches p ∧ d.isDirAt (d.placeOf p) = true := by
  unfold isDir stat?
  constructor
  · intro h
    cases hl : d.locate p with
    | error f => simp [hl] at h
    | ok target =>
      cases target with
      | free loc => simp [hl] at h
      | found loc =>
        obtain ⟨hreach, rfl⟩ := (locate_eq_found_iff hd).1 hl
        simp only [hl] at h
        refine ⟨hreach, isDirAt_iff.2 ?_⟩
        split at h
        · next hn => exact hn
        · cases h
  · rintro ⟨hreach, hdir⟩
    have hl : d.locate p = .ok (.found (d.placeOf p)) := (locate_eq_found_iff hd).2 ⟨hreach, rfl⟩
    simp only [hl, isDirAt_iff.1 hdir]

/-- A text that was written as UTF-8 is read back. -/
theorem fromUTF8?_toUTF8 (text : String) : String.fromUTF8? text.toUTF8 = some text := by
  exact dif_pos (show text.toUTF8.IsValidUTF8 from text.isValidUTF8)

/-- What was written as UTF-8 is read where it lies. -/
theorem readText_of_file (hd : d.LinkFree) (hreach : d.Reaches p) {text : String}
    (hfile : d.at? (d.placeOf p) = some (.file text.toUTF8)) : d.readText p = .ok text.toList :=
  (readText_eq_ok_iff hd).2 ⟨hreach, _, text, hfile, fromUTF8?_toUTF8 text, rfl⟩

/-! ## Growing -/

/-- Directories were made where nothing was, texts were written to some of the places
`written`, and nothing else has changed. -/
structure Grows (d : Disk) (written : List Location) (d' : Disk) : Prop where
  workingDir : d'.workingDir = d.workingDir
  node : ∀ loc, d'.at? loc = d.at? loc ∨ (d.at? loc = none ∧ d'.at? loc = some .dir) ∨
    (loc ∈ written ∧ d.at? loc ≠ some .dir ∧ ∃ text : String, d'.at? loc = some (.file text.toUTF8))

namespace Grows

variable {written written' : List Location}

theorem refl (d : Disk) : d.Grows [] d := ⟨rfl, fun _ => .inl rfl⟩

theorem mono (h : d.Grows written d') (hw : written ⊆ written') : d.Grows written' d' := by
  refine ⟨h.workingDir, fun loc => ?_⟩
  rcases h.node loc with he | hdir | ⟨hmem, hfile⟩
  · exact .inl he
  · exact .inr (.inl hdir)
  · exact .inr (.inr ⟨hw hmem, hfile⟩)

theorem trans (h : d.Grows written d') (h' : d'.Grows written' d'') :
    d.Grows (written ++ written') d'' := by
  refine ⟨h'.workingDir.trans h.workingDir, fun loc => ?_⟩
  rcases h'.node loc with he' | ⟨hnone', hdir'⟩ | ⟨hmem', hnot', htext'⟩
  · rw [he']
    exact (h.mono (List.subset_append_left _ _)).node loc
  · rcases h.node loc with he | ⟨hnone, hdir⟩ | ⟨hmem, hnot, text, htext⟩
    · exact .inr (.inl ⟨he ▸ hnone', hdir'⟩)
    · exact .inr (.inl ⟨hnone, hdir'⟩)
    · rw [hnone'] at htext
      cases htext
  · refine .inr (.inr ⟨List.mem_append_right _ hmem', fun hdir => ?_, htext'⟩)
    rcases h.node loc with he | ⟨hnone, -⟩ | ⟨-, hnot, -⟩
    · exact hnot' (he.trans hdir)
    · rw [hnone] at hdir
      cases hdir
    · exact hnot hdir

variable (h : d.Grows written d')
include h

theorem placeOf (p : Path) : d'.placeOf p = d.placeOf p := by
  unfold Disk.placeOf origin
  rw [h.workingDir]

/-- A directory stays one. -/
theorem isDirAt (hdir : d.isDirAt loc = true) : d'.isDirAt loc = true := by
  rw [isDirAt_iff] at hdir ⊢
  rcases h.node loc with he | ⟨hnone, hdir'⟩ | ⟨-, hnot, -⟩
  · exact he.trans hdir
  · exact hdir'
  · exact absurd hdir hnot

/-- What was there still is. -/
theorem isSome (hsome : (d.at? loc).isSome) : (d'.at? loc).isSome := by
  rcases h.node loc with he | ⟨-, hdir⟩ | ⟨-, -, text, htext⟩
  · rwa [he]
  · rw [hdir]
    rfl
  · rw [htext]
    rfl

/-- A file is the same as before unless it was written. -/
theorem file_iff (hloc : loc ∉ written) {content : ByteArray} :
    d'.at? loc = some (.file content) ↔ d.at? loc = some (.file content) := by
  rcases h.node loc with he | ⟨hnone, hdir⟩ | ⟨hmem, -⟩
  · rw [he]
  · simp [hnone, hdir]
  · exact absurd hmem hloc

/-- No symbolic link is made. -/
theorem linkFree (hd : d.LinkFree) : d'.LinkFree := by
  intro loc target hlink
  rcases h.node loc with he | ⟨-, hdir⟩ | ⟨-, -, text, htext⟩
  · exact hd loc target (he.symm.trans hlink)
  · rw [hdir] at hlink
    cases hlink
  · rw [htext] at hlink
    cases hlink

/-- **Names that led somewhere still do.** -/
theorem leads (hlead : d.Leads loc names) : d'.Leads loc names := by
  induction names generalizing loc with
  | nil => exact leads_nil
  | cons name names ih =>
    obtain ⟨hdir, hname, hrest⟩ := hlead
    exact ⟨h.isDirAt hdir, fun hdown => ⟨(hname hdown).1, h.isSome (hname hdown).2⟩, ih hrest⟩

theorem reaches (hreach : d.Reaches p) : d'.Reaches p := by
  refine ⟨hreach.1, ?_⟩
  unfold origin
  rw [h.workingDir]
  exact h.leads hreach.2

/-- **What could be read still can**, and has changed only if it was written. -/
theorem exists_readText (hd : d.LinkFree) {s : List Char} (hs : d.readText p = .ok s) :
    ∃ s', d'.readText p = .ok s' ∧ (d.placeOf p ∉ written → s' = s) := by
  obtain ⟨hreach, content, text, hnode, htext, rfl⟩ := (readText_eq_ok_iff hd).1 hs
  have hread : ∀ {content' text'}, d'.at? (d.placeOf p) = some (.file content') →
      String.fromUTF8? content' = some text' → d'.readText p = .ok text'.toList := by
    intro content' text' hnode' htext'
    refine (readText_eq_ok_iff (h.linkFree hd)).2
      ⟨h.reaches hreach, content', text', ?_, htext', rfl⟩
    rwa [h.placeOf]
  rcases h.node (d.placeOf p) with he | ⟨hnone, -⟩ | ⟨hmem, -, text', hfile⟩
  · exact ⟨text.toList, hread (he.trans hnode) htext, fun _ => rfl⟩
  · rw [hnone] at hnode
    cases hnode
  · exact ⟨text'.toList, hread hfile (fromUTF8?_toUTF8 text'), fun hnot => absurd hmem hnot⟩

end Grows

/-! ## Closed trees -/

/-- In a closed tree directories lie on the way to whatever is there. -/
theorem Closed.isDirAt_of_suffix (hd : d.Closed) (h : loc <:+ other)
    (hsome : (d.at? other).isSome) : loc = other ∨ d.isDirAt loc = true := by
  induction other with
  | nil => exact .inl (List.suffix_nil.1 h)
  | cons name parent ih =>
    have hparent : d.isDirAt parent = true := hd name parent hsome
    rcases List.suffix_cons_iff.1 h with he | hsuffix
    · exact .inl he
    · rcases ih hsuffix (by rw [isDirAt_iff.1 hparent]; rfl) with rfl | hdir
      · exact .inr hparent
      · exact .inr hdir

/-- Names that lead downwards to an old file on a disk that has grown led there before. -/
theorem Grows.leads_of_file {written : List Location} {content : ByteArray}
    (h : d.Grows written d') (hd : d.Closed) (hnames : ".." ∉ names)
    (hlead : d'.Leads loc names) (hw : loc.walk names ∉ written)
    (hfile : d.at? (loc.walk names) = some (.file content)) : d.Leads loc names := by
  induction names generalizing loc with
  | nil => exact leads_nil
  | cons name names ih =>
    obtain ⟨hdir, hname, hrest⟩ := hlead
    have hsome : (d.at? (loc.walk (name :: names))).isSome := Option.isSome_of_eq_some hfile
    refine ⟨?_, fun hdown => ⟨(hname hdown).1, ?_⟩,
      ih (List.not_mem_of_not_mem_cons hnames) hrest hw hfile⟩
    · rcases hd.isDirAt_of_suffix (Location.suffix_walk hnames) hsome with he | hold
      · rw [he, isDirAt_iff, (h.file_iff hw).2 hfile] at hdir
        cases hdir
      · exact hold
    · have hsuffix : name :: loc <:+ loc.walk (name :: names) := by
        rw [Location.walk_cons, Location.turn_of_descends hdown]
        exact Location.suffix_walk (List.not_mem_of_not_mem_cons hnames)
      rcases hd.isDirAt_of_suffix hsuffix hsome with he | hold
      · rwa [he]
      · rw [isDirAt_iff.1 hold]
        rfl

theorem names_join (h : q.isAbsolute = false) :
    (p.join q).names = p.lead.map String.ofList ++ q.names := by
  unfold Path.names
  rw [Path.pieces_join h, List.map_append]

theorem origin_join (d : Disk) (h : q.isAbsolute = false) : d.origin (p.join q) = d.origin p := by
  unfold origin
  rw [Path.isAbsolute_join h]

/-- The place of a path seen from `p` lies where its own names lead from the place of `p`. -/
theorem placeOf_join (d : Disk) (h : q.isAbsolute = false) :
    d.placeOf (p.join q) = (d.placeOf p).walk q.names := by
  have hlead : (d.origin p).walk (p.lead.map String.ofList) = d.placeOf p := by
    unfold placeOf Path.names
    rcases p.pieces_eq_lead with he | he
    · rw [he]
    · rw [he, List.map_append, Location.walk_append]
      rfl
  unfold placeOf at hlead ⊢
  rw [origin_join d h, names_join h, Location.walk_append, hlead]

/-- The place from which paths are followed that are seen from `p`. -/
def Enters (d : Disk) (p : Path) : Prop := d.Leads (d.origin p) (p.lead.map String.ofList)

instance (d : Disk) (p : Path) : Decidable (d.Enters p) :=
  inferInstanceAs (Decidable (d.Leads _ _))

/-- A path can be seen from `p` only where `p` can be entered. -/
theorem Reaches.enters (h : q.isAbsolute = false) (hreach : d.Reaches (p.join q)) : d.Enters p := by
  have hlead := hreach.2
  rw [names_join h, origin_join d h, leads_append] at hlead
  exact hlead.1

/-- The directory that `p` stands for can be named by a dot seen from `p`. -/
theorem enters_of_isDir (hd : d.LinkFree) (h : d.isDir (p.join ⟨"."⟩) = true) : d.Enters p :=
  ((isDir_iff hd).1 h).1.enters rfl

theorem not_mem_names_of_isInward (h : p.isInward = true) : ".." ∉ p.names := by
  intro hmem
  obtain ⟨piece, hpiece, he⟩ := List.mem_map.1 hmem
  refine (Path.isInward_iff.1 h).2 ?_
  rwa [← show piece = ['.', '.'] from by simpa using congrArg String.toList he]

/-- **An old file that can be read from a directory of the old disk could be read before.** -/
theorem Grows.readText_of_inward {written : List Location} {s : List Char}
    (h : d.Grows written d') (hd : d.LinkFree) (hc : d.Closed) (hp : d.Enters p)
    (hq : q.isInward = true) (hw : d.placeOf (p.join q) ∉ written)
    (hs : d'.readText (p.join q) = .ok s) : d.readText (p.join q) = .ok s := by
  have habs : q.isAbsolute = false := (Path.isInward_iff.1 hq).1
  obtain ⟨hreach, content, text, hnode, htext, rfl⟩ := (readText_eq_ok_iff (h.linkFree hd)).1 hs
  rw [h.placeOf, h.file_iff hw] at hnode
  refine (readText_eq_ok_iff hd).2 ⟨⟨hreach.1, ?_⟩, content, text, hnode, htext, rfl⟩
  have hlead := hreach.2
  have horigin : d'.origin (p.join q) = d.origin p := by
    rw [origin_join d' habs]
    unfold origin
    rw [h.workingDir]
  rw [horigin, names_join habs, leads_append] at hlead
  have hplace : d.placeOf (p.join q) =
      ((d.origin p).walk (p.lead.map String.ofList)).walk q.names := by
    unfold Disk.placeOf
    rw [origin_join d habs, names_join habs, Location.walk_append]
  rw [hplace] at hnode hw
  rw [origin_join d habs, names_join habs, leads_append]
  exact ⟨hp, h.leads_of_file hc (not_mem_names_of_isInward hq) hlead.2 hw hnode⟩

/-! ## Making directories and writing files -/

/-- A directory made at a free place adds to the tree and leaves it closed. -/
theorem of_makeDir {result : Except Fault Unit} (h : d.makeDir p = (result, d')) :
    d.Grows [] d' ∧ (d.Closed → d'.Closed) := by
  unfold makeDir at h
  split at h
  · cases h
    exact ⟨.refl d, id⟩
  · cases h
    exact ⟨.refl d, id⟩
  next free hfree =>
  cases h
  obtain ⟨last, parent, rfl, hparent, hnone⟩ :=
    parent_of_follow_free (followFrom_eq_ok_iff.1 hfree).2
  have hput := at?_put (d := d) (List.cons_ne_nil last parent) .dir
  have hgrows : d.Grows [] (d.put (last :: parent) .dir) := by
    refine ⟨rfl, fun loc => ?_⟩
    rw [hput]
    split
    · next he => exact .inr (.inl ⟨he ▸ hnone, rfl⟩)
    · exact .inl rfl
  refine ⟨hgrows, fun hclosed name loc hsome => hgrows.isDirAt ?_⟩
  rw [hput] at hsome
  split at hsome
  · next he =>
    cases he
    exact hparent
  · exact hclosed name loc hsome

theorem of_orDir {result : Except Fault Unit} {f : Fault} (h : orDir p f d = (result, d')) :
    d' = d := by
  unfold orDir at h
  split at h <;> cases h <;> rfl

theorem of_makeFirst {result : Except Fault Unit} {ps : List Path}
    (h : d.makeFirst ps = (result, d')) : d.Grows [] d' ∧ (d.Closed → d'.Closed) := by
  induction ps generalizing result d' with
  | nil =>
    cases h
    exact ⟨.refl d, id⟩
  | cons p ps ih =>
    unfold makeFirst at h
    split at h
    · next made hmade =>
      cases h
      exact of_makeDir hmade
    · split at h
      · next f made hmade =>
        cases h
        exact ih hmade
      · next made hmade =>
        obtain ⟨hgrows, hclosed⟩ := ih hmade
        split at h
        · next last hlast =>
          cases h
          obtain ⟨hgrows', hclosed'⟩ := of_makeDir hlast
          exact ⟨hgrows.trans hgrows', fun hd => hclosed' (hclosed hd)⟩
        · rw [of_orDir h]
          exact ⟨hgrows, hclosed⟩
    · rw [of_orDir h]
      exact ⟨.refl d, id⟩

/-- **Making directories adds to the tree** and leaves it closed, also if it fails. -/
theorem of_makeDirs {result : Except Fault Unit} (h : d.makeDirs p = (result, d')) :
    d.Grows [] d' ∧ (d.Closed → d'.Closed) := by
  unfold makeDirs at h
  split at h
  · cases h
    exact ⟨.refl d, id⟩
  · exact of_makeFirst h

/-- A failed write changes nothing. -/
theorem of_writeText_error {s : List Char} {f : Fault} (h : d.writeText p s = (.error f, d')) :
    d' = d := by
  unfold writeText writeBytes at h
  split at h
  · cases h
    rfl
  · cases h
  · split at h <;> cases h
    rfl

/-- A text can be put wherever no directory stands. -/
theorem grows_put (h : d.isDirAt loc = false) (text : String) :
    d.Grows [loc] (d.put loc (.file text.toUTF8)) ∧
      (d.put loc (.file text.toUTF8)).at? loc = some (.file text.toUTF8) := by
  have hne : loc ≠ [] := by
    rintro rfl
    cases h
  have hput := at?_put (d := d) hne (.file text.toUTF8)
  refine ⟨⟨rfl, fun other => ?_⟩, by rw [hput, if_pos rfl]⟩
  rw [hput]
  split
  · next he =>
    refine .inr (.inr ⟨List.mem_singleton.2 he, fun hdir => ?_, text, rfl⟩)
    rw [he, ← isDirAt_iff, h] at hdir
    cases hdir
  · exact .inl rfl

/-- **A text that was written is read back**, and nothing but its place has changed. -/
theorem of_writeText {s : List Char} (hd : d.LinkFree) (h : d.writeText p s = (.ok (), d')) :
    d.Grows [d.placeOf p] d' ∧ d'.readText p = .ok s := by
  have hread : ∀ hgrows : d.Grows [d.placeOf p] d', IsUsable p → d'.Leads (d.origin p) p.names →
      d'.at? (d.placeOf p) = some (.file (String.ofList s).toUTF8) → d'.readText p = .ok s := by
    intro hgrows husable hlead hnode
    refine (readText_eq_ok_iff (hgrows.linkFree hd)).2
      ⟨⟨husable, ?_⟩, _, String.ofList s, ?_, fromUTF8?_toUTF8 _, String.toList_ofList.symm⟩
    · unfold origin at hlead ⊢
      rwa [hgrows.workingDir]
    · rwa [hgrows.placeOf]
  unfold writeText writeBytes at h
  split at h
  · cases h
  · next free hfree =>
    cases h
    obtain ⟨husable, hfollow⟩ := followFrom_eq_ok_iff.1 hfree
    obtain ⟨last, parent, rfl, hparent, hnone⟩ := parent_of_follow_free hfollow
    obtain ⟨init, last', hnames, hlead, hplace, hlast, hsize⟩ := leads_of_follow_free hd hfollow
    obtain ⟨rfl, rfl⟩ := List.cons.inj hplace
    have hp : d.placeOf p = last :: (d.origin p).walk init := by
      unfold placeOf Path.names
      rw [hnames, Location.walk_append, Location.walk_cons, Location.turn_of_descends hlast]
      rfl
    have hfile : d.isDirAt (last :: (d.origin p).walk init) = false := by
      unfold isDirAt
      rw [hnone]
    obtain ⟨hgrows, hnode⟩ := grows_put hfile (String.ofList s)
    rw [hp] at hread ⊢
    refine ⟨hgrows, hread hgrows husable ?_ hnode⟩
    unfold Path.names
    rw [hnames, leads_append, leads_child hlast, hnode]
    exact ⟨hgrows.leads hlead, hgrows.isDirAt hparent, hsize, rfl, leads_nil⟩
  · next loc hfound =>
    split at h
    · cases h
    next hfile =>
    cases h
    obtain ⟨husable, hfollow⟩ := followFrom_eq_ok_iff.1 hfound
    obtain ⟨hlead, rfl⟩ := leads_of_follow hd hfollow
    obtain ⟨hgrows, hnode⟩ := grows_put (Bool.eq_false_iff.2 hfile) (String.ofList s)
    exact ⟨hgrows, hread hgrows husable (hgrows.leads hlead) hnode⟩

end Disk
end LuaBundler
