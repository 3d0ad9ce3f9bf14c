/-
# The history of a session's store

Every module in the store of a session that began with an empty one was brought there by one
request (`exists_origin`): the first since the store was last cleared that stored anything
under its name.  That request inserted the module, or resolved the name, alone or for a
bundle, when the texts held one at the path of the name, and made the module of that text.
Since then the entry has not changed, whatever has become of the text.

Each request other than clearing the store keeps what is stored (`get?_handle`) and adds
nothing but what it supplies (`supplies_of_get?_handle`).
-/

import Mathlib.Data.List.Induction
import LuaBundler.Proofs.Blocks
import LuaBundler.Proofs.Requests
import LuaBundler.Session

namespace LuaBundler
namespace Session

/-- The session after some requests. -/
def after (s : Session) (qs : List Request) : Session :=
  qs.foldl (fun s q => (s.handle q).2.2) s

@[simp] theorem after_nil (s : Session) : s.after [] = s := rfl

@[simp] theorem after_cons (s : Session) (q : Request) (qs : List Request) :
    s.after (q :: qs) = (s.handle q).2.2.after qs := rfl

@[simp] theorem after_append (s : Session) (qs qs' : List Request) :
    s.after (qs ++ qs') = (s.after qs).after qs' :=
  List.foldl_append

/-- `source` is the text at the path of the module `name`. -/
def HoldsText (s : Session) (name : String) (source : List Char) : Prop :=
  ∃ path, Module.path? name = some path ∧ s.files.lookup path = some source

/-- A request to the session `s` brings the module under its name into the store. -/
inductive Supplies (s : Session) : Request → String → Module → Prop
  /-- The request inserts the module. -/
  | inserted {name : String} {m : Module} : Supplies s (.insert name m) name m
  /-- The request imports the module, and the text at its path is there. -/
  | imported {name : String} {source : List Char} (h : s.HoldsText name source) :
      Supplies s (.importModule name) name (.ofSource name source)
  /-- The module is in the bundle that is made, and the text at its path is there. -/
  | bundled {entry : String} {o : Bundle.Options} {b : Bundle} {name : String}
      {source : List Char} (hb : (s.handle (.bundle entry o)).1 = .bundled b)
      (hn : name ∈ b.modules) (h : s.HoldsText name source) :
      Supplies s (.bundle entry o) name (.ofSource name source)

variable {s : Session} {name : String} {m : Module} {source : List Char}

/-! ## Single requests -/

/-- The session's loader gives the texts that the session holds. -/
theorem load_eq_ok_iff {earlier : List Path} {path : Path} :
    s.loader.load earlier path = .ok source ↔ s.files.lookup path = some source := by
  simp only [loader, Loader.ofFiles, Loader.ofFun]
  split <;> simp [*]

/-- What importing a module comes to. -/
theorem handle_importModule (s : Session) (name : String) :
    ∃ m? r, Resolver.Resolution s.loader name s.resolver m? r ∧
      s.handle (.importModule name) =
        (.truth m?.isSome, r.requests.reverse, { s with store := r.store }) :=
  ⟨_, _, Resolver.resolution s.loader name s.resolver, rfl⟩

/-- A session's bundle is the one made with its loader and its store. -/
theorem handle_bundle_of_ok {o : Bundle.Options} {entry : String} {b : Bundle} {r : Resolver}
    {h : Bundle.Ends s.loader o entry s.resolver}
    (hb : Bundle.ofEntry s.loader o entry s.resolver h = (.ok b, r)) :
    s.handle (.bundle entry o) = (.bundled b, r.requests.reverse, { s with store := r.store }) := by
  simp only [handle, hb]

/-- A session's bundle fails if it does with its loader and its store. -/
theorem handle_bundle_of_error {o : Bundle.Options} {entry : String} {e : EntryError}
    {r : Resolver} {h : Bundle.Ends s.loader o entry s.resolver}
    (hb : Bundle.ofEntry s.loader o entry s.resolver h = (.error e, r)) :
    s.handle (.bundle entry o) = (.failed e, r.requests.reverse, { s with store := r.store }) := by
  simp only [handle, hb]

/-- What bundling comes to: a bundle, with its modules added to the store, or a failure,
and the session as it was. -/
theorem handle_bundle (s : Session) (entry : String) (o : Bundle.Options) :
    (∃ b, (s.handle (.bundle entry o)).1 = .bundled b ∧
        (s.handle (.bundle entry o)).2.2.files = s.files ∧
        s.store.Extends b.modules (s.handle (.bundle entry o)).2.2.store ∧
        ∀ n m, (s.handle (.bundle entry o)).2.2.store.get? n = some m →
          s.store.get? n = some m ∨ ∃ source, s.HoldsText n source ∧ m = .ofSource n source) ∨
      ∃ e, (s.handle (.bundle entry o)).1 = .failed e ∧
        (s.handle (.bundle entry o)).2.2 = s := by
  have h : Bundle.Ends s.loader o entry s.resolver :=
    Bundle.ends_of_finite o entry (Loader.finite_ofFiles s.files) s.resolver
  cases hb : Bundle.ofEntry s.loader o entry s.resolver h with
  | mk answer r =>
    cases answer with
    | ok b =>
      left
      refine ⟨b, ?_⟩
      rw [handle_bundle_of_ok hb]
      refine ⟨rfl, rfl, Bundle.extends_ofEntry hb, fun n m hm => ?_⟩
      have hstored := Bundle.forall_stored_ofEntry (P := fun n m =>
        s.store.get? n = some m ∨ ∃ source, s.HoldsText n source ∧ m = .ofSource n source) h
        (fun n path earlier source hp hl =>
          .inr ⟨source, ⟨path, hp, load_eq_ok_iff.1 hl⟩, rfl⟩)
        (fun n m hm => .inl hm) n m
      rw [hb] at hstored
      exact hstored hm
    | error e =>
      right
      refine ⟨e, ?_⟩
      rw [handle_bundle_of_error hb, (Bundle.of_ofEntry_eq_error hb).2]
      exact ⟨rfl, rfl⟩

/-- **What is stored stays so** until the store is cleared. -/
theorem get?_handle {q : Request} (hq : q ≠ .clearStore) (hm : s.store.get? name = some m) :
    (s.handle q).2.2.store.get? name = some m := by
  cases q with
  | importModule n =>
    obtain ⟨m?, r, hr, he⟩ := s.handle_importModule n
    rw [he]
    exact hr.get?_of_get? hm
  | bundle entry o =>
    rcases s.handle_bundle entry o with ⟨b, -, -, hext, -⟩ | ⟨e, -, he⟩
    · exact hext.get?_of_get? hm
    · rwa [he]
  | get n => exact hm
  | contains n => exact hm
  | insert n m' =>
    show (s.store.insert n m').get? name = some m
    cases hn : s.store.get? n with
    | some old => rwa [Store.insert_of_get?_eq_some hn]
    | none =>
      have hne : name ≠ n := by
        rintro rfl
        rw [hn] at hm
        cases hm
      rw [Store.get?_insert_of_eq_none hn, if_neg hne, hm]
  | write path text => exact hm
  | remove path => exact hm
  | clearStore => exact absurd rfl hq

/-- **What a request adds to the store it supplies.** -/
theorem supplies_of_get?_handle {q : Request} (hn : s.store.get? name = none)
    (hm : (s.handle q).2.2.store.get? name = some m) : s.Supplies q name m := by
  have hold : s.store.get? name ≠ some m := by
    rw [hn]
    simp
  cases q with
  | importModule n =>
    obtain ⟨m?, r, hr, he⟩ := s.handle_importModule n
    rw [he] at hm
    cases hr with
    | stored hs => exact absurd hm hold
    | pathless hs hp => exact absurd hm hold
    | refused hs hp hl => exact absurd hm hold
    | @loaded path source e hs hp hl =>
      rw [Resolver.note_store, Store.get?_insert_of_eq_none hs] at hm
      split at hm
      · next he =>
        cases hm
        subst he
        exact .imported ⟨path, hp, load_eq_ok_iff.1 hl⟩
      · exact absurd hm hold
  | bundle entry o =>
    rcases s.handle_bundle entry o with ⟨b, hb, -, hext, horigin⟩ | ⟨e, -, he⟩
    · obtain ⟨source, hsource, rfl⟩ := (horigin name m hm).resolve_left hold
      have hmem := Store.mem_names_of_get? hm
      rw [hext.names_eq, List.mem_append] at hmem
      have hnew := hmem.resolve_left (Store.get?_eq_none_iff.1 hn)
      exact .bundled hb (List.mem_of_mem_filter hnew) hsource
    · rw [he] at hm
      exact absurd hm hold
  | get n => exact absurd hm hold
  | contains n => exact absurd hm hold
  | insert n m' =>
    change (s.store.insert n m').get? name = some m at hm
    cases hs : s.store.get? n with
    | some old =>
      rw [Store.insert_of_get?_eq_some hs] at hm
      exact absurd hm hold
    | none =>
      rw [Store.get?_insert_of_eq_none hs] at hm
      split at hm
      · next he =>
        cases hm
        subst he
        exact .inserted
      · exact absurd hm hold
  | write path text => exact absurd hm hold
  | remove path => exact absurd hm hold
  | clearStore => cases hm

/-! ## Whole histories -/

/-- What is stored stays so through requests that do not clear the store. -/
theorem get?_after {qs : List Request} (hq : .clearStore ∉ qs)
    (hm : s.store.get? name = some m) : (s.after qs).store.get? name = some m := by
  induction qs generalizing s with
  | nil => exact hm
  | cons q qs ih =>
    rw [List.mem_cons, not_or] at hq
    exact ih hq.2 (get?_handle (Ne.symm hq.1) hm)

/-- How `m` came to be stored under `name` by the requests `qs`.  They are `old`, at whose
end the store was cleared if there are any, then `before`, then `q`, and then `later`. -/
structure Origin (s : Session) (qs : List Request) (name : String) (m : Module)
    (old before : List Request) (q : Request) (later : List Request) : Prop where
  split : qs = old ++ (before ++ q :: later)
  cleared : old = [] ∨ ∃ earlier, old = earlier ++ [.clearStore]
  /-- After `old` the store was not cleared. -/
  kept : .clearStore ∉ before ++ q :: later
  /-- Up to `q` nothing was stored under the name. -/
  absent : ∀ mid, mid <+: before → (s.after (old ++ mid)).store.get? name = none
  supplied : (s.after (old ++ before)).Supplies q name m
  /-- From `q` on the module is stored. -/
  stays : ∀ mid, mid <+: later →
    (s.after (old ++ (before ++ q :: mid))).store.get? name = some m

/-- The requests since the store was last cleared. -/
theorem exists_since_clear (qs : List Request) :
    ∃ old recent, qs = old ++ recent ∧ (old = [] ∨ ∃ earlier, old = earlier ++ [.clearStore]) ∧
      .clearStore ∉ recent := by
  induction qs using List.reverseRecOn with
  | nil => exact ⟨[], [], rfl, .inl rfl, List.not_mem_nil⟩
  | append_singleton qs q ih =>
    obtain ⟨old, recent, rfl, hold, hrecent⟩ := ih
    by_cases hq : q = .clearStore
    · exact ⟨old ++ recent ++ [q], [], by simp, .inr ⟨old ++ recent, by rw [hq]⟩,
        List.not_mem_nil⟩
    · refine ⟨old, recent ++ [q], by simp, hold, ?_⟩
      rw [List.mem_append, List.mem_singleton, not_or]
      exact ⟨hrecent, Ne.symm hq⟩

/-- Further requests that do not clear the store leave a module with its origin. -/
theorem Origin.concat {qs old before later : List Request} {q q' : Request}
    (h : Origin s qs name m old before q later) (hq' : q' ≠ .clearStore) :
    Origin s (qs ++ [q']) name m old before q (later ++ [q']) := by
  have hkept : .clearStore ∉ before ++ q :: (later ++ [q']) := by
    rw [← List.cons_append, ← List.append_assoc, List.mem_append, List.mem_singleton, not_or]
    exact ⟨h.kept, Ne.symm hq'⟩
  refine ⟨by rw [h.split]; simp, h.cleared, hkept, h.absent, h.supplied, fun mid hmid => ?_⟩
  rcases List.prefix_concat_iff.1 hmid with rfl | hmid
  · have hlast := h.stays later (List.prefix_refl later)
    simpa using get?_handle hq' hlast
  · exact h.stays mid hmid

/-- **Every stored module has an origin**, if the store was empty at first. -/
theorem exists_origin (hs : s.store = .empty) {qs : List Request}
    (hm : (s.after qs).store.get? name = some m) :
    ∃ old before q later, Origin s qs name m old before q later := by
  induction qs using List.reverseRecOn with
  | nil =>
    rw [after_nil, hs] at hm
    cases hm
  | append_singleton qs q ih =>
    have hq : q ≠ .clearStore := by
      rintro rfl
      rw [after_append] at hm
      cases hm
    cases hold : (s.after qs).store.get? name with
    | some m' =>
      have hkept : (s.after (qs ++ [q])).store.get? name = some m' := by
        rw [after_append]
        exact get?_handle hq hold
      obtain rfl := Option.some.inj (hkept.symm.trans hm)
      obtain ⟨old, before, q₀, later, h⟩ := ih hold
      exact ⟨old, before, q₀, later ++ [q], h.concat hq⟩
    | none =>
      obtain ⟨old, before, rfl, hcleared, hbefore⟩ := exists_since_clear qs
      refine ⟨old, before, q, [], by simp, hcleared, ?_, fun mid hmid => ?_, ?_,
        fun mid hmid => ?_⟩
      · rw [List.mem_append, List.mem_singleton, not_or]
        exact ⟨hbefore, Ne.symm hq⟩
      · -- a module stored on the way would still be there
        obtain ⟨rest, rfl⟩ := hmid
        rw [Option.eq_none_iff_forall_not_mem]
        intro m' hm'
        have hrest : .clearStore ∉ rest := fun h => hbefore (List.mem_append_right _ h)
        have hend := get?_after hrest hm'
        rw [← after_append, List.append_assoc, hold] at hend
        cases hend
      · rw [after_append] at hm
        exact supplies_of_get?_handle hold hm
      · rw [List.prefix_nil.1 hmid, ← List.append_assoc]
        exact hm

/-- **Where the modules of a session's store come from.**  A session begins with an empty
store.  After any requests, each stored module is the one that the first request to store
anything under its name has supplied since the store was last cleared, and it has been
stored ever since.

Whatever happened before, an import that fails and a bundle that fails leave the session as
it was; a bundle adds to the store the names of its modules that were not there, in their
order, and changes no text; and a name that is not stored can be imported exactly if it has
a path and there is a text at it. -/
theorem origin_of_stored_and_frame (files : List (Path × List Char)) (qs : List Request) :
    (∀ name m, (after ⟨files, .empty⟩ qs).store.get? name = some m →
      ∃ old before q later, Origin ⟨files, .empty⟩ qs name m old before q later) ∧
    ∀ s : Session,
      (∀ name, (s.handle (.importModule name)).1 = .truth false →
        (s.handle (.importModule name)).2.2 = s) ∧
      (∀ entry o e, (s.handle (.bundle entry o)).1 = .failed e →
        (s.handle (.bundle entry o)).2.2 = s) ∧
      (∀ entry o b, (s.handle (.bundle entry o)).1 = .bundled b →
        (s.handle (.bundle entry o)).2.2.files = s.files ∧
        ∃ new, (s.handle (.bundle entry o)).2.2.store.entries = s.store.entries ++ new ∧
          new.map Prod.fst = b.modules.filter (· ∉ s.store.names)) ∧
      ∀ name, s.store.get? name = none →
        ((s.handle (.importModule name)).1 = .truth true ↔
          ∃ path text, Module.path? name = some path ∧ s.files.lookup path = some text) := by
  refine ⟨fun name m hm => exists_origin rfl hm, fun s => ⟨?_, ?_, ?_, ?_⟩⟩
  · intro name hfalse
    obtain ⟨m?, r, hr, he⟩ := s.handle_importModule name
    rw [he] at hfalse ⊢
    cases m? with
    | some m => simp at hfalse
    | none =>
      rw [hr.store_eq_of_none]
      rfl
  · intro entry o e hfailed
    rcases s.handle_bundle entry o with ⟨b, hb, -⟩ | ⟨e, -, he⟩
    · rw [hb] at hfailed
      cases hfailed
    · exact he
  · intro entry o b hbundled
    rcases s.handle_bundle entry o with ⟨b', hb, hfiles, hext, -⟩ | ⟨e, he, -⟩
    · rw [hb] at hbundled
      cases hbundled
      exact ⟨hfiles, hext⟩
    · rw [he] at hbundled
      cases hbundled
  · intro name hs
    obtain ⟨m?, r, hr, he⟩ := s.handle_importModule name
    rw [he]
    cases hr with
    | stored hs' =>
      rw [show s.resolver.store = s.store from rfl, hs] at hs'
      cases hs'
    | pathless _ hp => simp [hp]
    | @refused path error e _ hp hl =>
      have hnone : ∀ text, s.files.lookup path ≠ some text := fun text htext => by
        rw [load_eq_ok_iff.2 htext] at hl
        cases hl
      simp [hp, hnone]
    | loaded _ hp hl => simp [hp, load_eq_ok_iff.1 hl]

/-- The module `x` is imported in vain, then its text is written and a bundle made with it,
and then the text is replaced and another module offered under the name: what is stored is
still made of the first text. -/
theorem origin_of_module_with_changed_text :
    let start : Session := ⟨[(⟨"main.lua"⟩, "require 'x'".toList)], .empty⟩
    let qs : List Request := [.importModule "x", .write ⟨"x.lua"⟩ "return 1".toList,
      .bundle "main.lua" {}, .write ⟨"x.lua"⟩ "return 2".toList, .insert "x" ⟨["y"], []⟩,
      .importModule "x"]
    let m : Module := .ofSource "x" "return 1".toList
    (start.handle (.importModule "x")).1 = .truth false ∧
      (start.handle (.importModule "x")).2.2 = start ∧
      (start.after qs).store.get? "x" = some m ∧
      ∃ old before q later, Origin start qs "x" m old before q later := by
  intro start qs m
  obtain ⟨horigin, hframe⟩ := origin_of_stored_and_frame start.files qs
  have hfalse : (start.handle (.importModule "x")).1 = .truth false := rfl
  have hsame := (hframe start).1 "x" hfalse
  let written : Session := (start.handle (.write ⟨"x.lua"⟩ "return 1".toList)).2.2
  have hm : (start.after qs).store.get? "x" = some m := by
    have hends : Bundle.Ends written.loader {} "main.lua" written.resolver :=
      Bundle.ends_of_finite {} "main.lua" (Loader.finite_ofFiles written.files) written.resolver
    have hl : written.loader.load written.resolver.requests ⟨"main.lua"⟩ =
        .ok "require 'x'".toList := rfl
    have hb := Bundle.ofEntry_eq_after hends hl 1 (by decide +kernel)
    simp only [qs, after_cons]
    rw [hsame, show (start.handle (.write ⟨"x.lua"⟩ "return 1".toList)).2.2 = written from rfl,
      handle_bundle_of_ok hb]
    decide +kernel
  exact ⟨hfalse, hsame, hm, horigin "x" m hm⟩

end Session
end LuaBundler
