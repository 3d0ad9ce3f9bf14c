/-
# Where a disk does not refuse

A file can be written at a path whose last name is free or the name of a file, in a directory that
is there (`HasRoom`, `writeText_of_hasRoom`).  A directory that is there counts as made, and one
can be made in a directory that is there (`makeDirs_of_isDir`, `makeDirs_of_free`).

What is said here is about disks without symbolic links.  Writing a file leaves as much room as
there was (`HasRoom.put`), so files are written one after the other without being refused.
-/

import LuaBundler.Disk.Write
import LuaBundler.Proofs.Links

namespace LuaBundler
namespace Disk

variable {d : Disk} {links : Nat} {loc : Location} {name last : String} {init : List String}
  {p q : Path} {s : List Char}

/-! ## Directories -/

/-- A directory that is there counts as made. -/
theorem makeDirs_of_isDir (hd : d.LinkFree) (h : d.isDir p = true) :
    d.makeDirs p = (.ok (), d) := by
  obtain ⟨hreach, -⟩ := (isDir_iff hd).1 h
  have htrimmed : ∃ loc, d.followFrom .name p (p.pieces.reverse.dropWhile (· = [])).reverse =
      .ok (.found loc) := by
    have hlead := hreach.2
    obtain ⟨back, hpieces⟩ : (p.pieces.reverse.dropWhile (· = [])).reverse <+: p.pieces := by
      rw [← List.reverse_suffix, List.reverse_reverse]
      exact List.dropWhile_suffix _
    rw [Path.names, ← hpieces, List.map_append, leads_append] at hlead
    exact ⟨_, followFrom_eq_ok_iff.2 ⟨hreach.1, follow_of_leads (by simp) hd hlead.1⟩⟩
  obtain ⟨loc, hfound⟩ := htrimmed
  rw [makeDirs, if_neg hreach.1.nonempty, makeFirst, makeDir, hfound]
  exact if_pos h

/-- A directory is made at a free name. -/
theorem makeDirs_of_free (hp : IsUsable p) (hnames : p.names = [name])
    (hname : Location.Descends name) (hsize : name.utf8ByteSize ≤ maxName)
    (hdir : d.isDirAt (d.origin p) = true) (hnone : d.at? (name :: d.origin p) = none) :
    d.makeDirs p = (.ok (), d.put (name :: d.origin p) .dir) := by
  have hpieces : p.pieces = [name.toList] := by
    have hmap : p.names.map String.toList = p.pieces := by simp [Path.names, Function.comp_def]
    rw [← hmap, hnames, List.map_singleton]
  have hne : name.toList ≠ [] := fun he => hname.1 (String.toList_eq_nil_iff.1 he)
  have hfree : d.followFrom .name p (p.pieces.reverse.dropWhile (· = [])).reverse =
      .ok (.free (name :: d.origin p)) := by
    refine followFrom_eq_ok_iff.2 ⟨hp, ?_⟩
    simp only [hpieces, List.reverse_singleton, List.dropWhile_cons, hne, decide_false,
      Bool.false_eq_true, if_false, List.map_singleton, String.ofList_toList]
    exact follow_free hdir hname hsize hnone
  rw [makeDirs, if_neg hp.nonempty, makeFirst, makeDir, hfree]

/-! ## Files -/

/-- A path to something that is there, or to a free name, is followed there to write a file. -/
theorem follow_write (hd : d.LinkFree) (hlead : d.Leads loc init)
    (hdir : d.isDirAt (loc.walk init) = true) (hlast : Location.Descends last)
    (hsize : last.utf8ByteSize ≤ maxName) :
    ∃ target, d.follow .write links loc (init ++ [last]) = .ok target ∧
      target.place = last :: loc.walk init := by
  induction init generalizing loc with
  | nil =>
    rw [Location.walk_nil] at hdir ⊢
    cases hnode : d.at? (last :: loc) with
    | none => exact ⟨_, follow_free hdir hlast hsize hnode, rfl⟩
    | some node =>
      refine ⟨.found (last :: loc), ?_, rfl⟩
      rw [List.nil_append, follow_step (by simp [endsInSlash]) hdir hlast hsize hnode
        fun target he => hd _ target (he ▸ hnode)]
      exact follow_nil
  | cons name init ih =>
    obtain ⟨hthere, hname, hrest⟩ := hlead
    rw [Location.walk_cons] at hdir ⊢
    obtain ⟨target, htarget, hplace⟩ := ih hrest hdir
    refine ⟨target, ?_, hplace⟩
    rw [List.cons_append, ← htarget]
    by_cases hstay : name = "" ∨ name = "."
    · rw [follow_stay hthere hstay, Location.turn_of_stay hstay]
    by_cases hparent : name = ".."
    · subst hparent
      rw [follow_parent hthere, Location.turn_parent]
    have hdescends := Location.descends_of_not hstay hparent
    obtain ⟨hshort, hsome⟩ := hname hdescends
    obtain ⟨node, hnode⟩ := Option.isSome_iff_exists.1 hsome
    rw [follow_step (by simp [endsInSlash, hlast.1]) hthere hdescends hshort hnode fun target he =>
      hd _ target (he ▸ hnode), Location.turn_of_descends hdescends]

/-- There is room for a file at the path: the names before the last one lead to a directory, the
last one can stand for a file in it, and no directory has it. -/
structure HasRoom (d : Disk) (p : Path) : Prop where
  usable : IsUsable p
  leads : d.Leads (d.origin p) (p.names.dropLast ++ ["."])
  name : ∀ last ∈ p.names.getLast?, Location.Descends last ∧ last.utf8ByteSize ≤ maxName
  place : d.isDirAt (d.placeOf p) = false

instance (d : Disk) (p : Path) : Decidable (d.HasRoom p) :=
  decidable_of_iff (IsUsable p ∧ d.Leads (d.origin p) (p.names.dropLast ++ ["."]) ∧
      (∀ last ∈ p.names.getLast?, Location.Descends last ∧ last.utf8ByteSize ≤ maxName) ∧
      d.isDirAt (d.placeOf p) = false)
    ⟨fun ⟨husable, hleads, hname, hplace⟩ => ⟨husable, hleads, hname, hplace⟩,
      fun h => ⟨h.usable, h.leads, h.name, h.place⟩⟩

/-- The path leads to a name in a directory that is there. -/
theorem HasRoom.exists_concat (h : d.HasRoom p) :
    ∃ init last, p.names = init ++ [last] ∧ d.Leads (d.origin p) init ∧
      d.isDirAt ((d.origin p).walk init) = true ∧ Location.Descends last ∧
      last.utf8ByteSize ≤ maxName ∧ d.placeOf p = last :: (d.origin p).walk init := by
  obtain ⟨init, last, hnames⟩ := (List.eq_nil_or_concat' p.names).resolve_left (names_ne_nil p)
  have hleads := h.leads
  rw [hnames, List.dropLast_concat, leads_append, leads_stay (.inr rfl)] at hleads
  obtain ⟨hlast, hsize⟩ := h.name last (by simp [hnames])
  refine ⟨init, last, hnames, hleads.1, hleads.2.1, hlast, hsize, ?_⟩
  rw [placeOf, hnames, Location.walk_append, Location.walk_cons, Location.turn_of_descends hlast]
  rfl

/-- **A file is written where there is room for it.** -/
theorem writeText_of_hasRoom (hd : d.LinkFree) (h : d.HasRoom p) (s : List Char) :
    d.writeText p s = (.ok (), d.put (d.placeOf p) (.file (String.ofList s).toUTF8)) := by
  obtain ⟨init, last, hnames, hlead, hdir, hlast, hsize, hplace⟩ := h.exists_concat
  obtain ⟨target, htarget, he⟩ := follow_write hd hlead hdir hlast hsize
  rw [← hnames] at htarget
  have hfollow := followFrom_eq_ok_iff.2 ⟨h.usable, htarget⟩
  rw [← hplace] at he
  unfold writeText writeBytes
  rw [hfollow]
  cases target with
  | free loc => simp only [← he, Target.place]
  | found loc =>
    have hfile : d.isDirAt loc = false := by simpa only [← he, Target.place] using h.place
    simp only [hfile, ← he, Target.place]
    rfl

/-- A file put where no directory is leaves the room there was. -/
theorem HasRoom.put (h : d.HasRoom q) (hloc : d.isDirAt loc = false) (text : String) :
    (d.put loc (.file text.toUTF8)).HasRoom q := by
  obtain ⟨hgrows, hfile⟩ := grows_put hloc text
  refine ⟨h.usable, ?_, h.name, ?_⟩
  · exact hgrows.leads h.leads
  · rw [hgrows.placeOf]
    have hne : loc ≠ [] := by
      rintro rfl
      cases hloc
    have hplace := h.place
    rw [Bool.eq_false_iff, Ne, isDirAt_iff] at hplace ⊢
    rw [at?_put hne]
    split
    · simp
    · exact hplace

end Disk
end LuaBundler
