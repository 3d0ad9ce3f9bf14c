/-
# Paths seen from one another

`Path.front` is what is written before a path when it is seen from `p`: the text of `p`,
with a slash behind it unless `p` is empty or ends in one.  So a relative path seen from `p`
has the pieces of `p` before its own (`pieces_join`), and seeing paths from one another is
associative (`join_join`).  The same holds of components but for a dot that a path begins with;
without it they are the steps of a path (`steps_join`, `components_join`).

A path leads inwards exactly if it does not start at the root and has no piece `..`
(`isInward_iff`).  The path of a module, which is its name with slashes for separators
(`Module.path?_eq_some_iff`), is of that kind (`Module.isInward_of_path?`).
-/

import Mathlib.Data.List.Basic
import Mathlib.Data.List.Induction
import LuaBundler.Module.Name

namespace LuaBundler
namespace Path

variable {p q r : Path}

/-! ## Pieces -/

/-- What is written before a relative path that is seen from `p`. -/
def front (p : Path) : List Char :=
  if p.text.isEmpty || p.text.toList.getLast? == some '/' then p.text.toList
  else p.text.toList ++ ['/']

theorem toList_join (h : q.isAbsolute = false) :
    (p.join q).text.toList = p.front ++ q.text.toList := by
  unfold join front
  rw [if_neg (by simp [h])]
  split
  · rw [String.toList_append]
  · rw [String.toList_append, String.toList_append, List.append_assoc, List.append_assoc]
    rfl

/-- Nothing is written before a relative path, or something that ends in a slash. -/
theorem front_eq (p : Path) : p.front = [] ∨ ∃ cs, p.front = cs ++ ['/'] := by
  unfold front
  split
  · next h =>
    rcases Bool.or_eq_true_iff.1 h with h | h
    · exact .inl (String.toList_eq_nil_iff.2 (String.isEmpty_iff.1 h))
    · obtain ⟨cs, hcs⟩ := List.getLast?_eq_some_iff.1 (beq_iff_eq.1 h)
      exact .inr ⟨cs, hcs⟩
  · exact .inr ⟨_, rfl⟩

/-- The pieces that stand before those of a relative path that is seen from `p`. -/
def lead (p : Path) : List (List Char) := (p.front.splitOn '/').dropLast

/-- **A relative path seen from `p` has the pieces of `p` before its own.** -/
theorem pieces_join (h : q.isAbsolute = false) : (p.join q).pieces = p.lead ++ q.pieces := by
  unfold pieces lead
  rw [toList_join h]
  rcases front_eq p with hp | ⟨cs, hp⟩
  · rw [hp]
    rfl
  · rw [hp, List.append_assoc, List.singleton_append, List.splitOn_append_cons_self,
      List.splitOn_append_cons_self]
    simp

theorem isAbsolute_join (h : q.isAbsolute = false) : (p.join q).isAbsolute = p.isAbsolute := by
  unfold isAbsolute at h ⊢
  rw [toList_join h]
  unfold front
  cases hp : p.text.toList with
  | nil =>
    rw [if_pos (by simp [String.isEmpty_iff, String.toList_eq_nil_iff.1 hp])]
    exact h
  | cons c cs => split <;> rfl

/-- What is written before a path that is seen from `q`, as `q` is from `p`. -/
theorem front_join (h : q.isAbsolute = false) : (p.join q).front = p.front ++ q.front := by
  have hempty : ∀ s : Path, s.text.isEmpty = s.text.toList.isEmpty := fun s => by
    rw [Bool.eq_iff_iff, String.isEmpty_iff, List.isEmpty_iff, String.toList_eq_nil_iff]
  rcases List.eq_nil_or_concat q.text.toList with hq | ⟨cs, c, hq⟩
  · have hfront : q.front = [] := by
      unfold front
      rw [hempty, hq]
      rfl
    rw [front, hempty, toList_join h, hq, hfront, List.append_nil]
    rcases front_eq p with hp | ⟨cs, hp⟩ <;> simp [hp]
  · rw [front, hempty, toList_join h, front.eq_1 q, hempty q, hq]
    by_cases hc : c = '/' <;> simp [hc]

/-- **Seeing paths from one another is associative.** -/
theorem join_join (hq : q.isAbsolute = false) (hr : r.isAbsolute = false) :
    (p.join q).join r = p.join (q.join r) := by
  have hqr : (q.join r).isAbsolute = false := (isAbsolute_join hr).trans hq
  have htext : ((p.join q).join r).text.toList = (p.join (q.join r)).text.toList := by
    rw [toList_join hr, front_join hq, toList_join hqr, toList_join hr, List.append_assoc]
  exact congrArg Path.mk (String.toList_injective htext)

/-- A path that is empty or ends in a slash has one more piece, an empty one. -/
theorem pieces_eq_lead (p : Path) : p.pieces = p.lead ∨ p.pieces = p.lead ++ [[]] := by
  unfold lead front pieces
  split
  · next h =>
    right
    rcases Bool.or_eq_true_iff.1 h with h | h
    · rw [String.isEmpty_iff.1 h]
      rfl
    · obtain ⟨cs, hcs⟩ := List.getLast?_eq_some_iff.1 (beq_iff_eq.1 h)
      rw [hcs, List.splitOn_append_cons_self]
      simp
  · left
    rw [List.splitOn_append_cons_self]
    simp

/-- No piece of a split text holds what it was split at. -/
theorem eq_false_of_mem_splitOnP {f : Char → Bool} {cs piece : List Char}
    (h : piece ∈ cs.splitOnP f) : ∀ c ∈ piece, f c = false := by
  induction cs generalizing piece with
  | nil => simp_all
  | cons c cs ih =>
    rw [List.splitOnP_cons_eq_if_modifyHead] at h
    split at h
    · rcases List.mem_cons.1 h with rfl | h
      · simp
      · exact ih h
    · next hc =>
      obtain ⟨first, rest, hsplit⟩ := List.exists_cons_of_ne_nil (List.splitOnP_ne_nil f cs)
      rw [hsplit] at h
      rcases List.mem_cons.1 h with rfl | h
      · rintro d (_ | ⟨_, hd⟩)
        · simpa using hc
        · exact ih (hsplit ▸ List.mem_cons_self) d hd
      · exact ih (hsplit ▸ List.mem_cons_of_mem _ h)

theorem slash_notMem_of_mem_pieces {piece : List Char} (h : piece ∈ p.pieces) : '/' ∉ piece := by
  intro hslash
  have := eq_false_of_mem_splitOnP h '/' hslash
  simp at this

/-! ## Components -/

/-- A path that starts at the root has an empty first piece. -/
theorem pieces_of_isAbsolute (h : p.isAbsolute = true) : ∃ rest, p.pieces = [] :: rest := by
  unfold pieces isAbsolute at *
  cases ht : p.text.toList with
  | nil => simp [ht] at h
  | cons c cs =>
    have hc : c = '/' := by simpa [ht] using h
    exact ⟨cs.splitOn '/', by rw [List.splitOn_cons_eq_if_modifyHead, if_pos (by simp [hc])]⟩

/-- The components of a path, with the first one set apart. -/
theorem components_eq (p : Path) :
    p.components = (if p.isAbsolute then [.root] else
      if p.pieces.head? = some ['.'] then [.current] else []) ++
        p.pieces.filterMap Component.ofPiece? := by
  unfold components
  cases hp : p.pieces with
  | nil => exact absurd hp (List.splitOn_ne_nil _ _)
  | cons piece rest =>
    by_cases ha : p.isAbsolute = true
    · obtain ⟨rest', hp'⟩ := pieces_of_isAbsolute ha
      obtain rfl : piece = [] := (List.cons.inj (hp.symm.trans hp')).1
      simp [ha, Component.ofPiece?]
    · by_cases hc : piece = ['.']
      · simp [ha, hc, Component.ofPiece?]
      · cases ho : Component.ofPiece? piece <;> simp [ha, hc, ho]

/-- The components of a path, but for a dot that it begins with. -/
def steps (p : Path) : List Component := p.components.filter (· ≠ .current)

theorem ofPiece?_ne_current (piece : List Char) :
    Component.ofPiece? piece ≠ some .current := by
  unfold Component.ofPiece?
  split
  · simp
  · split <;> simp

theorem steps_eq (p : Path) :
    p.steps = (if p.isAbsolute then [.root] else []) ++ p.pieces.filterMap Component.ofPiece? := by
  have hkeep : (p.pieces.filterMap Component.ofPiece?).filter (· ≠ .current) =
      p.pieces.filterMap Component.ofPiece? := by
    refine List.filter_eq_self.2 fun c hc => ?_
    obtain ⟨piece, -, hpiece⟩ := List.mem_filterMap.1 hc
    refine decide_eq_true fun he => ofPiece?_ne_current piece (he ▸ hpiece)
  rw [steps, components_eq, List.filter_append, hkeep]
  cases p.isAbsolute with
  | true => rfl
  | false =>
    rw [if_neg Bool.false_ne_true, if_neg Bool.false_ne_true]
    split <;> rfl

/-- A path has the component `.` only if it begins with it. -/
theorem components_eq_append_steps (p : Path) :
    p.components =
      (if p.isAbsolute = false ∧ p.pieces.head? = some ['.'] then [.current] else []) ++
        p.steps := by
  rw [components_eq, steps_eq]
  cases p.isAbsolute <;> simp

/-- Pieces stand before those of a path that is seen from a path with a text. -/
theorem lead_ne_nil (h : p.text ≠ "") : p.lead ≠ [] := by
  have hfront : p.front ≠ [] := by
    unfold front
    split
    · exact mt String.toList_eq_nil_iff.1 h
    · simp
  obtain ⟨cs, hcs⟩ := p.front_eq.resolve_left hfront
  unfold lead
  rw [hcs, List.splitOn_append_cons_self]
  simp

/-- **A relative path that is seen from `p` takes its steps behind those of `p`.** -/
theorem steps_join (h : q.isAbsolute = false) : (p.join q).steps = p.steps ++ q.steps := by
  have hlead : p.pieces.filterMap Component.ofPiece? = p.lead.filterMap Component.ofPiece? := by
    rcases p.pieces_eq_lead with he | he <;> simp [he, Component.ofPiece?]
  simp only [steps_eq, pieces_join h, isAbsolute_join h, h, hlead, List.filterMap_append,
    Bool.false_eq_true, if_false, List.nil_append, List.append_assoc]

theorem join_of_text_eq_empty (h : p.text = "") (q : Path) : p.join q = q := by
  unfold join
  split
  · rfl
  · rw [if_pos (by simp [h]), h, String.empty_append]

/-- A relative path seen from `p` has the components of `p` before its own.  A dot that it
begins with counts only if `p` is empty. -/
theorem components_join (h : q.isAbsolute = false) :
    (p.join q).components = if p.text = "" then q.components else p.components ++ q.steps := by
  split
  · next hp => rw [join_of_text_eq_empty hp]
  · next hp =>
    obtain ⟨piece, rest, hlead⟩ := List.exists_cons_of_ne_nil (lead_ne_nil hp)
    have hhead : p.pieces.head? = some piece := by
      rcases p.pieces_eq_lead with he | he <;> simp [he, hlead]
    rw [components_eq_append_steps (p.join q), components_eq_append_steps p, steps_join h,
      isAbsolute_join h, pieces_join h, hlead, hhead, List.append_assoc]
    rfl

/-- **A relative path seen from `p` lies below `p`.** -/
theorem below?_join (h : q.isAbsolute = false) :
    ∃ first, (first = [] ∨ first = [Component.current]) ∧
      p.below? (p.join q) = some (first ++ q.pieces.filterMap Component.ofPiece?) := by
  have hsteps : q.steps = q.pieces.filterMap Component.ofPiece? := by rw [steps_eq, h]; rfl
  have hcomponents := components_join (p := p) h
  rw [← hsteps]
  split at hcomponents
  · next hp =>
    have hempty : p.components = [] := by rw [show p = ⟨""⟩ from congrArg Path.mk hp]; rfl
    refine ⟨_, ?_, List.isPrefixOf?_eq_some_iff_append_eq.2
      (by rw [hempty, hcomponents, components_eq_append_steps]; rfl)⟩
    split
    · exact .inr rfl
    · exact .inl rfl
  · exact ⟨[], .inl rfl, List.isPrefixOf?_eq_some_iff_append_eq.2 hcomponents.symm⟩

theorem ofPiece?_eq_none_iff {piece : List Char} :
    Component.ofPiece? piece = none ↔ piece = [] ∨ piece = ['.'] := by
  unfold Component.ofPiece?
  split
  · simp [*]
  · split <;> simp [*]

/-- A component is written as the piece that it stands for. -/
theorem text_of_ofPiece? {piece : List Char} {c : Component}
    (h : Component.ofPiece? piece = some c) : c.text = String.ofList piece := by
  unfold Component.ofPiece? at h
  split at h
  · cases h
  · split at h
    · next hparent =>
      cases h
      rw [hparent]
      rfl
    · cases h
      rfl

theorem ofPiece?_eq_parent_iff {piece : List Char} :
    Component.ofPiece? piece = some .parent ↔ piece = ['.', '.'] := by
  unfold Component.ofPiece?
  split
  · next h => rcases h with rfl | rfl <;> simp
  · split <;> simp [*]

theorem isInward_iff_forall :
    p.isInward = true ↔ ∀ c ∈ p.components, c = .current ∨ ∃ name, c = .normal name := by
  have hc : ∀ c : Component, c.isInward = true ↔ c = .current ∨ ∃ name, c = .normal name := by
    rintro (_ | _ | _ | name) <;> simp [Component.isInward]
  unfold isInward
  simp only [List.all_eq_true, hc]

/-- The steps of a path that leads inwards are names. -/
theorem exists_name_of_mem_steps (h : p.isInward = true) {c : Component} (hc : c ∈ p.steps) :
    ∃ name, c = .normal name := by
  obtain ⟨hmem, hne⟩ := List.mem_filter.1 hc
  exact (isInward_iff_forall.1 h c hmem).resolve_left (of_decide_eq_true hne)

/-- **A path leads inwards** if it does not start at the root and never turns to a parent. -/
theorem isInward_iff : p.isInward = true ↔ p.isAbsolute = false ∧ ['.', '.'] ∉ p.pieces := by
  have hrest : (p.pieces.filterMap Component.ofPiece?).all Component.isInward = true ↔
      ['.', '.'] ∉ p.pieces := by
    rw [List.all_eq_true]
    constructor
    · intro h hp
      have := h .parent (List.mem_filterMap.2 ⟨_, hp, ofPiece?_eq_parent_iff.2 rfl⟩)
      cases this
    · intro h c hc
      obtain ⟨piece, hpiece, ho⟩ := List.mem_filterMap.1 hc
      cases c with
      | current => rfl
      | normal name => rfl
      | parent => exact absurd (ofPiece?_eq_parent_iff.1 ho ▸ hpiece) h
      | root =>
        unfold Component.ofPiece? at ho
        split at ho
        · cases ho
        · split at ho <;> cases ho
  unfold isInward
  rw [components_eq, List.all_append, Bool.and_eq_true, hrest]
  refine and_congr_left fun _ => ?_
  cases p.isAbsolute with
  | true => simp [Component.isInward]
  | false =>
    rw [if_neg Bool.false_ne_true]
    split <;> simp [Component.isInward]

/-- A path whose last component is a name has a piece that is neither empty nor made of dots
alone. -/
theorem exists_piece_of_fileName? (h : p.fileName?.isSome) :
    ∃ piece ∈ p.pieces, piece ≠ [] ∧ piece ≠ ['.'] ∧ piece ≠ ['.', '.'] := by
  unfold fileName? at h
  split at h
  · next name hlast =>
    have hmem := List.mem_of_getLast? hlast
    rw [components_eq, List.mem_append] at hmem
    have hpiece : Component.normal name ∈ p.pieces.filterMap Component.ofPiece? := by
      refine hmem.resolve_left fun hfirst => ?_
      split at hfirst
      · simp at hfirst
      · split at hfirst <;> simp at hfirst
    obtain ⟨piece, hp, ho⟩ := List.mem_filterMap.1 hpiece
    unfold Component.ofPiece? at ho
    split at ho
    · cases ho
    next hstay =>
    split at ho
    · cases ho
    next hparent => exact ⟨piece, hp, fun he => hstay (.inl he), fun he => hstay (.inr he), hparent⟩
  · cases h

/-- A file name with an extension is the stem, a dot and the extension, and the stem is not
empty. -/
theorem of_splitName {name ext : String} (h : (splitName name).2 = some ext) :
    name.toList = (splitName name).1.toList ++ '.' :: ext.toList ∧ (splitName name).1 ≠ "" := by
  unfold splitName at h ⊢
  simp only at h ⊢
  split at h
  · next c stem hdrop =>
    have hname := List.takeWhile_append_dropWhile (p := (· != '.')) (l := name.toList.reverse)
    rw [hdrop] at hname
    cases h
    have hname' := congrArg List.reverse hname
    rw [List.reverse_reverse] at hname'
    refine ⟨?_, by simp [← String.toList_eq_nil_iff]⟩
    conv_lhs => rw [← hname']
    simp
  · cases h

end Path

/-! ## Paths of modules -/

namespace Module

/-- There is no separator in a piece of a module name. -/
theorem isSeparator_of_mem_namePieces {name : String} {piece : List Char}
    (h : piece ∈ namePieces name) : ∀ c ∈ piece, isSeparator c = false :=
  Path.eq_false_of_mem_splitOnP h

/-- What stands behind the last of some pieces belongs to that piece. -/
theorem intercalate_concat_append {α : Type} (sep last back : List α) (init : List (List α)) :
    sep.intercalate (init ++ [last]) ++ back = sep.intercalate (init ++ [last ++ back]) := by
  induction init with
  | nil => simp
  | cons piece init ih =>
    rw [List.cons_append, List.cons_append, List.intercalate_cons_of_ne_nil (by simp),
      List.intercalate_cons_of_ne_nil (by simp), List.append_assoc, ih]

/-- A character of a module name as it stands in the path: both separators are slashes. -/
def slashed (c : Char) : Char := if isSeparator c then '/' else c

theorem slashed_ne_dot (c : Char) : slashed c ≠ '.' := by
  unfold slashed
  split
  · decide
  · next h =>
    rintro rfl
    exact h rfl

theorem slashed_of_ne_dot {c : Char} (h : c ≠ '.') : slashed c = c := by
  unfold slashed isSeparator
  split
  · next hc =>
    rcases Bool.or_eq_true_iff.1 hc with hc | hc
    · exact absurd (beq_iff_eq.1 hc) h
    · exact (beq_iff_eq.1 hc).symm
  · rfl

/-- The pieces of a module name stand between slashes once all separators are slashes. -/
theorem namePieces_eq (name : String) :
    namePieces name = (name.toList.map slashed).splitOn '/' := by
  unfold namePieces
  induction name.toList with
  | nil => rfl
  | cons c cs ih =>
    have hc : (slashed c == '/') = isSeparator c := by
      unfold slashed
      cases hs : isSeparator c with
      | true => rfl
      | false =>
        rw [if_neg Bool.false_ne_true, beq_eq_false_iff_ne]
        rintro rfl
        cases hs
    rw [List.map_cons, List.splitOnP_cons_eq_if_modifyHead, List.splitOn_cons_eq_if_modifyHead,
      hc, ih]
    cases hs : isSeparator c with
    | true => rfl
    | false => rw [if_neg Bool.false_ne_true, if_neg Bool.false_ne_true, slashed, hs,
        if_neg Bool.false_ne_true]

/-- **The path of a module is its name with slashes for separators**, and the extension. -/
theorem path?_eq_some_iff {name : String} {p : Path} :
    path? name = some p ↔ '\\' ∉ name.toList ∧ [] ∉ namePieces name ∧
      p.text.toList = name.toList.map slashed ++ ".lua".toList := by
  have htext : (String.ofList (['/'].intercalate (namePieces name)) ++ ".lua").toList =
      name.toList.map slashed ++ ".lua".toList := by
    rw [String.toList_append, String.toList_ofList, namePieces_eq, List.intercalate_splitOn]
  unfold path?
  constructor
  · intro h
    split at h
    · cases h
    · next hname =>
      cases h
      exact ⟨fun hslash => hname (.inl hslash), fun hnil => hname (.inr hnil), htext⟩
  · rintro ⟨hslash, hnil, hp⟩
    rw [if_neg (not_or.2 ⟨hslash, hnil⟩)]
    exact congrArg (some ∘ Path.mk) (String.toList_injective (htext.trans hp.symm))

/-- The path of a module has the pieces of its name, with the extension behind the last. -/
theorem pieces_of_path? {name : String} {p : Path} (h : path? name = some p) :
    ∃ init last, namePieces name = init ++ [last] ∧ p.pieces = init ++ [last ++ ".lua".toList] := by
  obtain ⟨-, -, htext⟩ := path?_eq_some_iff.1 h
  rcases List.eq_nil_or_concat (namePieces name) with hnil | ⟨init, last, hname⟩
  · exact absurd hnil (List.splitOnP_ne_nil _ _)
  rw [List.concat_eq_append] at hname
  refine ⟨init, last, hname, ?_⟩
  have hslash : ∀ piece ∈ init ++ [last ++ ".lua".toList], '/' ∉ piece := by
    have hpieces : ∀ piece ∈ init ++ [last], '/' ∉ piece := by
      intro piece hpiece hmem
      exact absurd (isSeparator_of_mem_namePieces (hname ▸ hpiece) '/' hmem) (by decide)
    rw [List.forall_mem_append, List.forall_mem_singleton] at hpieces ⊢
    refine ⟨hpieces.1, ?_⟩
    rw [List.mem_append, not_or]
    exact ⟨hpieces.2, by decide⟩
  unfold Path.pieces
  rw [htext, ← @List.intercalate_splitOn _ (name.toList.map slashed) _ _ '/', ← namePieces_eq,
    hname, intercalate_concat_append, List.splitOn_intercalate _ hslash (by simp)]

/-- **The path of a module leads inwards.** -/
theorem isInward_of_path? {name : String} {p : Path} (h : path? name = some p) :
    p.isInward = true := by
  obtain ⟨init, last, hname, hpieces⟩ := pieces_of_path? h
  have hne : [] ∉ namePieces name := (path?_eq_some_iff.1 h).2.1
  have hdots : ∀ piece ∈ p.pieces, piece ≠ [] ∧ piece ≠ ['.', '.'] := by
    intro piece hpiece
    rw [hpieces] at hpiece
    rcases List.mem_append.1 hpiece with hpiece | hpiece
    · have hmem : piece ∈ namePieces name := hname ▸ List.mem_append_left _ hpiece
      refine ⟨fun he => hne (he ▸ hmem), ?_⟩
      rintro rfl
      exact absurd (isSeparator_of_mem_namePieces hmem '.' (by simp)) (by decide)
    · rw [List.mem_singleton.1 hpiece]
      exact ⟨by simp, fun he => by simpa using congrArg List.length he⟩
  refine Path.isInward_iff.2 ⟨?_, fun hmem => (hdots _ hmem).2 rfl⟩
  rw [Bool.eq_false_iff]
  intro habs
  obtain ⟨rest, hrest⟩ := Path.pieces_of_isAbsolute habs
  exact (hdots [] (hrest ▸ List.mem_cons_self)).1 rfl

end Module
end LuaBundler
