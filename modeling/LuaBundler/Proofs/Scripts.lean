/-
# What a scan finds

A scan of the directory `p` finds nothing but what lies below it, also through symbolic links
(`below_of_mem_scan`): each file it lists is written as `p` and the names on the way to it
(`Below.exists_names`).  Those names are components of the path, behind the ones of `p`
(`components_join_ofNames`).

The same file can be written in several ways, since empty names and dots lead nowhere.  Without
them a path is shorter and leads to the same place (`readText_ofNames_filter`).
-/

import Mathlib.Data.String.Basic
import LuaBundler.Disk.Scan
import LuaBundler.Proofs.Tree

namespace LuaBundler

namespace Location

/-- The name can stand for what lies in a directory. -/
def IsName (name : String) : Prop := Descends name ∧ '/' ∉ name.toList

instance (name : String) : Decidable (IsName name) := inferInstanceAs (Decidable (_ ∧ _))

/-- The name does not lead to the place itself. -/
def moves (name : String) : Bool := name ≠ "" && name ≠ "."

theorem turn_of_not_moves {loc : Location} {name : String} (h : moves name = false) :
    loc.turn name = loc := by
  refine turn_of_stay ?_
  unfold moves at h
  simpa [Decidable.or_iff_not_imp_left] using h

/-- Names that do not move can be left out. -/
theorem walk_filter (loc : Location) (names : List String) :
    loc.walk (names.filter moves) = loc.walk names := by
  induction names generalizing loc with
  | nil => rfl
  | cons name names ih =>
    rw [walk_cons]
    cases hname : moves name with
    | true => rw [List.filter_cons_of_pos hname, walk_cons, ih]
    | false => rw [List.filter_cons_of_neg (by simp [hname]), turn_of_not_moves hname, ih]

end Location

/-! ## Paths made of names -/

namespace Path

variable {p q : Path} {name : String} {names : List String}

theorem map_toList_names (p : Path) : p.names.map String.toList = p.pieces := by
  unfold Path.names
  rw [List.map_map]
  exact List.map_id'' (fun _ => String.toList_ofList) _

/-- The path in which slashes separate the names. -/
def ofNames (names : List String) : Path := ⟨"/".intercalate names⟩

theorem toList_ofNames (names : List String) :
    (ofNames names).text.toList = ['/'].intercalate (names.map String.toList) :=
  String.toList_intercalate

/-- The pieces of a path made of names are the names. -/
theorem pieces_ofNames (hne : names ≠ []) (h : ∀ name ∈ names, '/' ∉ name.toList) :
    (ofNames names).pieces = names.map String.toList := by
  unfold pieces
  rw [toList_ofNames, List.splitOn_intercalate _ _ (by simpa using hne)]
  intro piece hpiece
  obtain ⟨name, hname, rfl⟩ := List.mem_map.1 hpiece
  exact h name hname

theorem names_ofNames (hne : names ≠ []) (h : ∀ name ∈ names, '/' ∉ name.toList) :
    (ofNames names).names = names := by
  unfold Path.names
  rw [pieces_ofNames hne h, List.map_map]
  exact List.map_id'' (fun name => String.ofList_toList) names

/-- A path whose first name is not empty does not start at the root. -/
theorem isAbsolute_ofNames (h : ∀ name ∈ names, name ≠ "" ∧ '/' ∉ name.toList) :
    (ofNames names).isAbsolute = false := by
  rw [Bool.eq_false_iff]
  intro habs
  cases names with
  | nil => cases habs
  | cons name names =>
    obtain ⟨rest, hrest⟩ := pieces_of_isAbsolute habs
    rw [pieces_ofNames (by simp) fun name hname => (h name hname).2, List.map_cons] at hrest
    exact (h name List.mem_cons_self).1 (String.toList_eq_nil_iff.1 (List.cons.inj hrest).1)

theorem isAbsolute_of_isName (h : ∀ name ∈ names, Location.IsName name) :
    (ofNames names).isAbsolute = false :=
  isAbsolute_ofNames fun name hname => ⟨(h name hname).1.1, (h name hname).2⟩

/-- What is written before a path that is seen from a name. -/
theorem front_of_isName (h : Location.IsName name) : front ⟨name⟩ = name.toList ++ ['/'] := by
  unfold front
  rw [if_neg]
  rw [Bool.or_eq_true, String.isEmpty_iff, beq_iff_eq, not_or]
  exact ⟨h.1.1, fun hlast => h.2 (List.mem_of_getLast? hlast)⟩

theorem moves_ofList_iff {piece : List Char} :
    Location.moves (String.ofList piece) = true ↔ Component.ofPiece? piece ≠ none := by
  rw [Ne, ofPiece?_eq_none_iff, Location.moves, Bool.and_eq_true, decide_eq_true_iff,
    decide_eq_true_iff, not_or, Ne, Ne, ← String.toList_inj, ← String.toList_inj,
    String.toList_ofList]
  rfl

/-- Components are written as the pieces that move. -/
theorem map_text_filterMap_ofPiece? (pieces : List (List Char)) :
    (pieces.filterMap Component.ofPiece?).map Component.text =
      (pieces.map String.ofList).filter Location.moves := by
  induction pieces with
  | nil => rfl
  | cons piece pieces ih =>
    rw [List.map_cons]
    cases hc : Component.ofPiece? piece with
    | none =>
      have hstays := (not_congr moves_ofList_iff).2 (not_not.2 hc)
      rw [List.filterMap_cons_none hc, List.filter_cons_of_neg hstays, ih]
    | some c =>
      have hmoves := moves_ofList_iff.2 (by rw [hc]; simp)
      rw [List.filterMap_cons_some hc, List.filter_cons_of_pos hmoves, List.map_cons, ih,
        text_of_ofPiece? hc]

theorem ofPiece?_of_isName (h : Location.IsName name) :
    Component.ofPiece? name.toList = some (.normal name) := by
  unfold Component.ofPiece?
  rw [if_neg, if_neg, String.ofList_toList]
  · intro he
    exact h.1.2.2 (String.toList_injective he)
  · rintro (he | he)
    · exact h.1.1 (String.toList_eq_nil_iff.1 he)
    · exact h.1.2.1 (String.toList_injective he)

theorem filterMap_ofPiece?_of_isName (h : ∀ name ∈ names, Location.IsName name) :
    (names.map String.toList).filterMap Component.ofPiece? = names.map .normal := by
  rw [List.filterMap_map, ← List.filterMap_eq_map]
  exact List.filterMap_congr fun name hname => ofPiece?_of_isName (h name hname)

/-- **The components of a path made of names are the names.** -/
theorem components_ofNames (h : ∀ name ∈ names, Location.IsName name) :
    (ofNames names).components = names.map .normal := by
  cases names with
  | nil => rfl
  | cons name rest =>
    have hslash : ∀ n ∈ name :: rest, '/' ∉ n.toList := fun n hn => (h n hn).2
    have hfirst : name.toList ≠ ['.'] := fun he =>
      (h name List.mem_cons_self).1.2.1 (String.toList_injective he)
    rw [components_eq, isAbsolute_of_isName h, pieces_ofNames (by simp) hslash,
      filterMap_ofPiece?_of_isName h, if_neg Bool.false_ne_true, if_neg (by simpa using hfirst),
      List.nil_append]

/-- A path made of names lies below any path that it is seen from, where the names lead. -/
theorem components_join_ofNames (p : Path) (h : ∀ name ∈ names, Location.IsName name) :
    (p.join (ofNames names)).components = p.components ++ names.map .normal := by
  have hcomponents := components_ofNames h
  have hsteps : (ofNames names).steps = names.map .normal := by
    rw [steps, hcomponents, List.filter_eq_self]
    intro c hc
    obtain ⟨name, -, rfl⟩ := List.mem_map.1 hc
    rfl
  rw [components_join (isAbsolute_of_isName h), hsteps]
  split
  · next hp =>
    rw [hcomponents, show p = ⟨""⟩ from congrArg Path.mk hp]
    rfl
  · rfl

/-- Names can be seen one from another. -/
theorem join_ofNames_cons (p : Path) (hne : names ≠ []) (hname : Location.IsName name)
    (hnames : ∀ name ∈ names, Location.IsName name) :
    (p.join ⟨name⟩).join (ofNames names) = p.join (ofNames (name :: names)) := by
  have habs := isAbsolute_of_isName hnames
  have hfirst : (⟨name⟩ : Path).isAbsolute = false :=
    isAbsolute_of_isName (List.forall_mem_singleton.2 hname)
  have htext : ((⟨name⟩ : Path).join (ofNames names)).text.toList =
      (ofNames (name :: names)).text.toList := by
    rw [toList_join habs, front_of_isName hname, toList_ofNames, toList_ofNames,
      List.map_cons, List.intercalate_cons_of_ne_nil (by simpa using hne)]
  rw [join_join hfirst habs]
  exact congrArg (p.join ∘ Path.mk) (String.toList_injective htext)

end Path

/-! ## Scanning -/

section Mapping

variable {α β ε : Type} {f : α → Except ε β} {as : List α}

/-- What a list was mapped to comes from its elements. -/
theorem exists_of_mem_mapM {bs : List β} (h : as.mapM f = .ok bs) {b : β} (hb : b ∈ bs) :
    ∃ a ∈ as, f a = .ok b := by
  induction as generalizing bs with
  | nil =>
    cases h
    cases hb
  | cons a as ih =>
    rw [List.mapM_cons] at h
    cases ha : f a with
    | error e =>
      rw [ha] at h
      cases h
    | ok first =>
      cases hrest : as.mapM f with
      | error e =>
        rw [ha, hrest] at h
        cases h
      | ok rest =>
        rw [ha, hrest] at h
        cases h
        rcases List.mem_cons.1 hb with rfl | hb
        · exact ⟨a, List.mem_cons_self, ha⟩
        · obtain ⟨other, hother, he⟩ := ih hrest hb
          exact ⟨other, List.mem_cons_of_mem _ hother, he⟩

/-- A list is mapped without an error if each of its elements is. -/
theorem mapM_eq_ok_map {g : α → β} (h : ∀ a ∈ as, f a = .ok (g a)) :
    as.mapM f = .ok (as.map g) := by
  induction as with
  | nil => rfl
  | cons a as ih =>
    rw [List.mapM_cons, h a List.mem_cons_self, ih fun b hb => h b (List.mem_cons_of_mem _ hb)]
    rfl

end Mapping

namespace Disk

variable {d : Disk} {loc : Location} {name : String} {p f : Path}

/-- Something lies wherever a directory lists a name. -/
theorem isSome_of_mem_namesAt (h : name ∈ d.namesAt loc) : (d.at? (name :: loc)).isSome := by
  obtain ⟨⟨other, node⟩, hmem, he⟩ := List.mem_filterMap.1 h
  have hkey : other = name :: loc := by
    cases other with
    | nil => cases he
    | cons first parent => simpa [Option.ite_none_right_eq_some, and_comm] using he
  subst hkey
  unfold at?
  rw [Option.isSome_iff_ne_none, Ne, List.lookup_eq_none_iff]
  exact fun hnone => by simpa using hnone _ hmem

theorem of_list {listed : List String} (h : d.list p = .ok (loc, listed)) :
    d.locate p = .ok (.found loc) ∧ d.isDirAt loc = true ∧ listed = d.namesAt loc := by
  unfold list at h
  split at h
  · cases h
  · cases h
  · next hfound =>
    split at h
    · next hdir =>
      cases h
      exact ⟨hfound, hdir, rfl⟩
    · cases h

/-- Whatever lies on the disk has a name that a path can give it. -/
def Named (d : Disk) : Prop :=
  ∀ name loc, (d.at? (name :: loc)).isSome → Location.IsName name

/-- Whether a disk gives such names shows in the list of what lies where. -/
theorem named_of_nodes (h : ∀ e ∈ d.nodes, ∀ name ∈ e.1.head?, Location.IsName name) :
    d.Named := by
  intro name loc hsome
  obtain ⟨node, hnode⟩ := Option.isSome_iff_exists.1 hsome
  obtain ⟨before, later, hnodes, -⟩ := List.lookup_eq_some_iff.1 hnode
  exact h (name :: loc, node) (by simp [hnodes]) name rfl

/-- What lies below a directory, also through symbolic links, by its path. -/
inductive Below (d : Disk) : Path → Path → Prop
  /-- It lies in the directory. -/
  | inside {p : Path} {loc : Location} {listed : List String} {name : String}
      (hl : d.list p = .ok (loc, listed)) (hn : name ∈ listed) : Below d p (p.join ⟨name⟩)
  /-- It lies below something in the directory. -/
  | deeper {p f : Path} {loc : Location} {listed : List String} {name : String}
      (hl : d.list p = .ok (loc, listed)) (hn : name ∈ listed) (h : Below d (p.join ⟨name⟩) f) :
      Below d p f

/-- **What lies below a directory is written as the directory and names behind it.** -/
theorem Below.exists_names (hd : d.Named) (h : d.Below p f) :
    ∃ names, names ≠ [] ∧ (∀ name ∈ names, Location.IsName name) ∧
      f = p.join (Path.ofNames names) := by
  have hisName : ∀ {p loc listed name}, d.list p = .ok (loc, listed) → name ∈ listed →
      Location.IsName name := by
    intro p loc listed name hl hn
    obtain ⟨-, -, rfl⟩ := of_list hl
    exact hd name loc (isSome_of_mem_namesAt hn)
  induction h with
  | inside hl hn => exact ⟨[_], by simp, by simpa using hisName hl hn, rfl⟩
  | @deeper p _ _ _ name hl hn _ ih =>
    obtain ⟨names, hne, hall, rfl⟩ := ih
    exact ⟨name :: names, by simp, by simpa using ⟨hisName hl hn, hall⟩,
      Path.join_ofNames_cons p hne (hisName hl hn) hall⟩

/-- **A scan finds what lies below.** -/
theorem below_of_mem_scan {depth : Nat} {trail : List Location} {files : List Path}
    (h : d.scan depth trail p = .ok files) (hf : f ∈ files) : d.Below p f := by
  induction depth generalizing trail p files with
  | zero => cases h
  | succ depth ih =>
    unfold scan at h
    split at h
    · cases h
    next loc listed hlist =>
    unfold Except.map at h
    split at h
    · cases h
    next lists hlists =>
    cases h
    obtain ⟨part, hpart, hfpart⟩ := List.mem_flatten.1 hf
    obtain ⟨name, hname, hscanned⟩ := exists_of_mem_mapM hlists hpart
    have hinside : part = [p.join ⟨name⟩] → d.Below p f := by
      rintro rfl
      rw [List.mem_singleton.1 hfpart]
      exact .inside hlist hname
    split at hscanned
    · exact .deeper hlist hname (ih hscanned hfpart)
    · -- a link stands for a directory or for something else
      simp only at hscanned
      split at hscanned
      · cases hscanned
      · cases hscanned
      · split at hscanned
        · cases hscanned
          exact hinside rfl
        · split at hscanned
          · cases hscanned
          · exact .deeper hlist hname (ih hscanned hfpart)
    · cases hscanned
      exact hinside rfl

theorem isDir_of_filesBelow {files : List Path} (h : d.filesBelow p = .ok files) :
    d.isDir p = true := by
  have hlist : ∃ loc listed, d.list p = .ok (loc, listed) := by
    unfold filesBelow pathLimit scan at h
    split at h
    · cases h
    · next loc listed hlist => exact ⟨loc, listed, hlist⟩
  obtain ⟨loc, listed, hlist⟩ := hlist
  obtain ⟨hfound, hdir, -⟩ := of_list hlist
  unfold isDir stat?
  rw [hfound]
  simp only [isDirAt_iff.1 hdir]

/-! ## Shorter ways to write a path -/

/-- Names that do not move can be left out on the way to something. -/
theorem Leads.filter {names : List String} (h : d.Leads loc names) :
    d.Leads loc (names.filter Location.moves) := by
  induction names generalizing loc with
  | nil => exact h
  | cons name names ih =>
    obtain ⟨hdir, hname, hrest⟩ := h
    cases hmoves : Location.moves name with
    | true =>
      rw [List.filter_cons_of_pos hmoves]
      exact ⟨hdir, hname, ih hrest⟩
    | false =>
      rw [Location.turn_of_not_moves hmoves] at hrest
      rw [List.filter_cons_of_neg (by simp [hmoves])]
      exact ih hrest

/-- What the system takes for a path it also takes with characters left out, unless none is
left. -/
theorem IsUsable.of_sublist {q : Path} (h : IsUsable q) (hp : p.text ≠ "")
    (hsub : List.Sublist p.text.toList q.text.toList) : IsUsable p := by
  refine ⟨fun hnul => h.noNul (hsub.subset hnul), hp, lt_of_le_of_lt ?_ h.short⟩
  rw [← String.utf8Len_toList, ← String.utf8Len_toList]
  exact String.utf8Len_le_of_sublist hsub

theorem sublist_intercalate {α : Type} (sep : List α) {parts parts' : List (List α)}
    (h : List.Sublist parts parts') :
    List.Sublist (sep.intercalate parts) (sep.intercalate parts') := by
  induction h with
  | slnil => exact List.Sublist.refl _
  | @cons parts parts' part hsub ih =>
    cases parts' with
    | nil => simp [List.sublist_nil.1 hsub]
    | cons next parts' =>
      rw [List.intercalate_cons_of_ne_nil (by simp)]
      exact ih.trans (List.sublist_append_right _ _)
  | @cons_cons parts parts' part hsub ih =>
    cases parts with
    | nil =>
      cases parts' with
      | nil => exact List.Sublist.refl _
      | cons next parts' =>
        rw [List.intercalate_singleton, List.intercalate_cons_of_ne_nil (by simp),
          List.append_assoc]
        exact List.sublist_append_left _ _
    | cons next parts =>
      have hne : parts' ≠ [] := by
        rintro rfl
        cases hsub
      rw [List.intercalate_cons_of_ne_nil (by simp), List.intercalate_cons_of_ne_nil hne]
      exact (List.Sublist.refl _).append ih

/-- Two paths that lead to the same place read the same. -/
theorem readText_congr {q : Path} (hd : d.LinkFree) (hp : d.Reaches p) (hq : d.Reaches q)
    (h : d.placeOf p = d.placeOf q) : d.readText p = d.readText q := by
  have hlocate : ∀ {r}, d.Reaches r → d.locate r = .ok (.found (d.placeOf r)) := fun hr =>
    (locate_eq_found_iff hd).2 ⟨hr, rfl⟩
  unfold readText readBytes
  rw [hlocate hp, hlocate hq, h]

theorem stat?_of_reaches (hd : d.LinkFree) (h : d.Reaches p) :
    d.stat? p = d.at? (d.placeOf p) := by
  unfold stat?
  rw [(locate_eq_found_iff hd).2 ⟨h, rfl⟩]

theorem list_of_reaches (hd : d.LinkFree) (h : d.Reaches p)
    (hdir : d.isDirAt (d.placeOf p) = true) :
    d.list p = .ok (d.placeOf p, d.namesAt (d.placeOf p)) := by
  unfold list
  rw [(locate_eq_found_iff hd).2 ⟨h, rfl⟩]
  exact if_pos hdir

theorem reaches_of_isFile (hd : d.LinkFree) (h : d.isFile p = true) : d.Reaches p := by
  unfold isFile stat? at h
  split at h
  · next content hstat =>
    split at hstat
    · next found hfound => exact ((locate_eq_found_iff hd).1 hfound).1
    · cases hstat
  · cases h

/-- **A path reads the same without the names that do not move**, if it leads anywhere. -/
theorem readText_ofNames_filter {q : Path} (hd : d.LinkFree) (hq : q.isAbsolute = false)
    (hreach : d.Reaches (p.join q)) (hne : q.names.filter Location.moves ≠ []) :
    d.readText (p.join (Path.ofNames (q.names.filter Location.moves))) =
      d.readText (p.join q) := by
  set names := q.names.filter Location.moves with hnames
  have hslash : ∀ name ∈ names, '/' ∉ name.toList := by
    intro name hname
    obtain ⟨piece, hpiece, rfl⟩ := List.mem_map.1 (List.mem_of_mem_filter hname)
    rw [String.toList_ofList]
    exact Path.slash_notMem_of_mem_pieces hpiece
  have hempty : ∀ name ∈ names, name ≠ "" := by
    rintro name hname rfl
    cases (List.mem_filter.1 hname).2
  have habs : (Path.ofNames names).isAbsolute = false :=
    Path.isAbsolute_ofNames fun name hname => ⟨hempty name hname, hslash name hname⟩
  have htext : (p.join (Path.ofNames names)).text ≠ "" := by
    intro he
    have hpieces := Path.pieces_ofNames hne hslash
    rw [← String.toList_eq_nil_iff, Path.toList_join habs, List.append_eq_nil_iff] at he
    rw [Path.pieces, he.2, List.splitOn_nil] at hpieces
    have hmem : [] ∈ names.map String.toList := hpieces ▸ List.mem_cons_self
    obtain ⟨name, hname, hnil⟩ := List.mem_map.1 hmem
    exact hempty name hname (String.toList_eq_nil_iff.1 hnil)
  have hsub : List.Sublist (p.join (Path.ofNames names)).text.toList (p.join q).text.toList := by
    have hpieces : ['/'].intercalate (q.names.map String.toList) = q.text.toList := by
      rw [Path.map_toList_names, Path.pieces, List.intercalate_splitOn]
    rw [Path.toList_join habs, Path.toList_join hq, Path.toList_ofNames, ← hpieces]
    exact (List.Sublist.refl _).append (sublist_intercalate _ (List.filter_sublist.map _))
  refine readText_congr hd ⟨hreach.1.of_sublist htext hsub, ?_⟩ hreach ?_
  · have hlead := hreach.2
    rw [origin_join d hq, names_join hq, leads_append] at hlead
    rw [origin_join d habs, names_join habs, Path.names_ofNames hne hslash, leads_append]
    exact ⟨hlead.1, hlead.2.filter⟩
  · rw [placeOf_join d habs, placeOf_join d hq, Path.names_ofNames hne hslash, hnames,
      Location.walk_filter]

end Disk
end LuaBundler
