/-
# The books of a walk

Every name on the stack of a walk was put there by the entry or by a visited module,
and every name taken off it was visited or is reported.  `Walk.Accounts` keeps these
books: the names taken and the names still pending are together those the entry
requires and those that follow each visited module (`conserved`), and a name that is
never visited was taken once for each of its reports (`count`).  A step keeps the
books (`Accounts.step`), so they are in order when the walk ends
(`accounts_finish`).

Nothing here is asked of the loader, which may change its answers during the walk.
-/

import Mathlib.Data.List.Perm.Basic
import LuaBundler.Bundle.Entry
import LuaBundler.Proofs.Resolution

namespace LuaBundler
namespace Bundle

/-- The names that follow a visited module on the stack: the dependencies stored for
it, and behind them the extra modules if it is the extension point. -/
def follows (o : Options) (s : Store) (name : String) : List String :=
  ((s.get? name).map Module.dependencies).getD [] ++ o.extrasOf name

theorem follows_of_get? {o : Options} {s : Store} {name : String} {m : Module}
    (h : s.get? name = some m) : follows o s name = m.dependencies ++ o.extrasOf name := by
  unfold follows
  rw [h]
  rfl

namespace Walk

variable {l : Loader} {o : Options} {entry : String} {direct taken : List String}
  {w w' : Walk} {name : String}

/-- The books of a walk that began with the names `direct` on its stack and has taken
`taken` from it, latest first. -/
structure Accounts (o : Options) (entry : String) (direct taken : List String) (w : Walk) :
    Prop where
  /-- No module is visited twice. -/
  nodup : w.visited.Nodup
  /-- The blocks are the registrations stored for the visited modules. -/
  blocks : w.visited.map (fun n => (w.resolver.store.get? n).map Module.wrapped) =
    w.blocks.map some
  /-- No name is lost and none comes from elsewhere. -/
  conserved : (taken ++ w.pending).Perm
    (direct ++ w.visited.flatMap (follows o w.resolver.store))
  /-- Visited names were taken from the stack. -/
  visited : ∀ n ∈ w.visited, n ∈ taken
  /-- A name not visited was reported each time it was taken. -/
  count : ∀ n, n ∉ w.visited → taken.count n = (w.unresolved.map Unresolved.name).count n
  requestedBy : ∀ u ∈ w.unresolved, u.requestedBy = entry

/-- A visited module is stored. -/
theorem Accounts.stored (h : Accounts o entry direct taken w) {n : String}
    (hn : n ∈ w.visited) : ∃ m, w.resolver.store.get? n = some m := by
  have hmem : (w.resolver.store.get? n).map Module.wrapped ∈ w.blocks.map some := by
    rw [← h.blocks]
    exact List.mem_map_of_mem hn
  obtain ⟨block, -, hb⟩ := List.mem_map.1 hmem
  obtain ⟨m, hm, -⟩ := Option.map_eq_some_iff.1 hb.symm
  exact ⟨m, hm⟩

/-- A name taken from the stack was visited or is reported. -/
theorem Accounts.visited_or_reported (h : Accounts o entry direct taken w) {n : String}
    (hn : n ∈ taken) : n ∈ w.visited ∨ n ∈ w.unresolved.map Unresolved.name := by
  by_cases hv : n ∈ w.visited
  · exact .inl hv
  · right
    rw [← List.count_pos_iff, ← h.count n hv]
    exact List.count_pos_iff.2 hn

/-- At the end of a walk all names have been taken. -/
theorem Accounts.perm_of_ended (h : Accounts o entry direct taken w) (hp : w.pending = []) :
    taken.Perm (direct ++ w.visited.flatMap (follows o w.resolver.store)) := by
  have hc := h.conserved
  rwa [hp, List.append_nil] at hc

/-- **What the entry or a visited module needs is visited at the end, or reported.** -/
theorem Accounts.visited_or_reported_of_ended (h : Accounts o entry direct taken w)
    (hp : w.pending = []) {n : String}
    (hn : n ∈ direct ∨ ∃ name ∈ w.visited, n ∈ follows o w.resolver.store name) :
    n ∈ w.visited ∨ n ∈ w.unresolved.map Unresolved.name := by
  refine h.visited_or_reported ?_
  rwa [(h.perm_of_ended hp).mem_iff, List.mem_append, List.mem_flatMap]

/-- What a step leaves of the store is what was there for every visited module. -/
theorem Step.get?_of_get? (hs : Step l o entry w name w') {n : String} {m : Module}
    (hm : w.resolver.store.get? n = some m) : w'.resolver.store.get? n = some m := by
  cases hs with
  | known hp hv => exact hm
  | missing hp hv hr => exact (Resolver.Resolution.of_eq hr).get?_of_get? hm
  | found hp hv hr =>
    rw [Resolver.foldl_note_store]
    exact (Resolver.Resolution.of_eq hr).get?_of_get? hm

/-- What is stored for the visited modules stays so in a step. -/
theorem Accounts.get?_step (h : Accounts o entry direct taken w)
    (hs : Step l o entry w name w') {n : String} (hn : n ∈ w.visited) :
    w'.resolver.store.get? n = w.resolver.store.get? n := by
  obtain ⟨m, hm⟩ := h.stored hn
  rw [hm, hs.get?_of_get? hm]

/-- What follows the visited modules stays so in a step. -/
theorem Accounts.flatMap_follows_step (h : Accounts o entry direct taken w)
    (hs : Step l o entry w name w') :
    w.visited.flatMap (follows o w'.resolver.store) =
      w.visited.flatMap (follows o w.resolver.store) :=
  List.flatMap_congr fun n hn => by
    unfold follows
    rw [h.get?_step hs hn]

/-- **A step keeps the books.** -/
theorem Accounts.step (h : Accounts o entry direct taken w) (hs : Step l o entry w name w') :
    Accounts o entry direct (name :: taken) w' := by
  have hfollows := h.flatMap_follows_step hs
  have hblocks : w.visited.map (fun n => (w'.resolver.store.get? n).map Module.wrapped) =
      w.blocks.map some := by
    rw [← h.blocks]
    exact List.map_congr_left fun n hn => by rw [h.get?_step hs hn]
  have hcount := fun n => h.conserved.count_eq n
  cases hs with
  | @known rest hp hv =>
    refine ⟨h.nodup, h.blocks, ?_, fun n hn => List.mem_cons_of_mem _ (h.visited n hn), ?_,
      h.requestedBy⟩
    · refine List.perm_iff_count.2 fun n => ?_
      rw [← hcount n, hp]
      simp only [List.cons_append, List.count_append, List.count_cons]
      omega
    · intro n hn
      have hne : name ≠ n := fun he => hn (he ▸ hv)
      rw [List.count_cons_of_ne hne]
      exact h.count n hn
  | @missing rest r hp hv hr =>
    refine ⟨h.nodup, hblocks, ?_, fun n hn => List.mem_cons_of_mem _ (h.visited n hn), ?_, ?_⟩
    · refine List.perm_iff_count.2 fun n => ?_
      rw [hfollows, ← hcount n, hp]
      simp only [List.cons_append, List.count_append, List.count_cons]
      omega
    · intro n hn
      rw [List.map_cons, List.count_cons, List.count_cons, h.count n hn]
    · intro u hu
      rcases List.mem_cons.1 hu with rfl | hu
      · rfl
      · exact h.requestedBy u hu
  | @found rest m r hp hv hr =>
    have hm : ((o.eventsAt name).foldl Resolver.note r).store.get? name = some m := by
      rw [Resolver.foldl_note_store]
      exact (Resolver.Resolution.of_eq hr).get?_answer
    refine ⟨List.nodup_cons.2 ⟨hv, h.nodup⟩, ?_, ?_, ?_, ?_, h.requestedBy⟩
    · rw [List.map_cons, List.map_cons, hblocks, hm]
      rfl
    · refine List.perm_iff_count.2 fun n => ?_
      rw [List.flatMap_cons, hfollows, follows_of_get? hm]
      have hc := hcount n
      rw [hp] at hc
      simp only [List.cons_append, List.count_append, List.count_cons,
        List.count_reverse] at hc ⊢
      omega
    · intro n hn
      rcases List.mem_cons.1 hn with rfl | hn
      · exact List.mem_cons_self
      · exact List.mem_cons_of_mem _ (h.visited n hn)
    · intro n hn
      rw [List.mem_cons, not_or] at hn
      rw [List.count_cons_of_ne (Ne.symm hn.1)]
      exact h.count n hn.2

/-- With a steady loader a name taken from the stack resolves to what it stands for, and
this changes nothing of what the names stand for. -/
theorem sees_resolve {view : String → Option Module} {m? : Option Module} {r : Resolver}
    (h : Resolver.Sees l view w.resolver)
    (hr : (w.resolver.note (.visiting name)).resolve l name = (m?, r)) :
    m? = view name ∧ Resolver.Sees l view r :=
  (h.note _).resolve (Resolver.Resolution.of_eq hr)

/-- With a steady loader a step changes nothing of what the names stand for. -/
theorem Step.sees {view : String → Option Module} (hs : Step l o entry w name w')
    (h : Resolver.Sees l view w.resolver) : Resolver.Sees l view w'.resolver := by
  cases hs with
  | known hp hv => exact h
  | missing hp hv hr =>
    obtain ⟨-, h'⟩ := sees_resolve h hr
    exact h'.congr rfl rfl
  | found hp hv hr =>
    obtain ⟨-, h'⟩ := sees_resolve h hr
    exact h'.congr (Resolver.foldl_note_store _ _) (Resolver.foldl_note_requests _ _)

/-- A walk with a steady loader sees at its end what it saw before. -/
theorem sees_finish {view : String → Option Module} (h : Resolver.Sees l view w.resolver)
    (he : w.Ends l o entry) : Resolver.Sees l view (w.finish l o entry he).resolver := by
  refine finish_induction (P := fun w => Resolver.Sees l view w.resolver) he h
    fun w w' name h hs => ?_
  exact hs.sees h

/-- **The books are in order when the walk ends.** -/
theorem accounts_finish (he : w.Ends l o entry) (h : Accounts o entry direct taken w) :
    ∃ taken', Accounts o entry direct taken' (w.finish l o entry he) := by
  refine finish_induction (P := fun w => ∃ taken', Accounts o entry direct taken' w) he
    ⟨taken, h⟩ ?_
  rintro w w' name ⟨taken', h⟩ hs
  exact ⟨name :: taken', h.step hs⟩

/-- The walk after `n` steps, or at its end if that comes sooner. -/
def after (l : Loader) (o : Options) (entry : String) : Nat → Walk → Walk
  | 0, w => w
  | n + 1, w =>
    match w.step? l o entry with
    | none => w
    | some w' => after l o entry n w'

/-- **A walk that has no name left after some steps ends there.** -/
theorem finish_eq_after (he : w.Ends l o entry) {n : Nat}
    (hp : (w.after l o entry n).pending = []) :
    w.finish l o entry he = w.after l o entry n := by
  induction n generalizing w with
  | zero => exact finish_of_none he (step?_eq_none_iff.2 hp)
  | succ n ih =>
    unfold after at hp ⊢
    cases hs : w.step? l o entry with
    | none => exact finish_of_none he hs
    | some w' =>
      rw [hs] at hp
      rw [finish_of_some he hs]
      exact ih _ hp

end Walk

variable {l : Loader} {o : Options} {entry : String} {r : Resolver}

/-- The books of the walk over the imports of an entry, before its first step. -/
theorem accounts_start (contents : List Char) :
    Walk.Accounts o entry (Lua.imports contents) [] (start o entry contents r) where
  nodup := List.nodup_nil
  blocks := rfl
  conserved := by
    rw [List.nil_append, start, List.flatMap_nil, List.append_nil]
    exact List.reverse_perm _
  visited := by simp [start]
  count := by simp [start]
  requestedBy := by simp [start]

/-- With a steady loader the walk of an entry sees at first what the resolver saw. -/
theorem sees_start {view : String → Option Module} (h : Resolver.Sees l view r)
    (contents : List Char) :
    Resolver.Sees l view (start o entry contents (r.ask l ⟨entry⟩).2).resolver :=
  (h.ask ⟨entry⟩).congr (Resolver.foldl_note_store _ _) (Resolver.foldl_note_requests _ _)

/-- Bundling fails if the entry cannot be loaded. -/
theorem ofEntry_of_error {error : LoadError} (h : Ends l o entry r)
    (hl : l.load r.requests ⟨entry⟩ = .error error) :
    ofEntry l o entry r h = (.error ⟨entry, error⟩, (r.ask l ⟨entry⟩).2) := by
  unfold ofEntry
  split
  · next e he =>
    rw [hl] at he
    cases he
    rfl
  · next raw hraw =>
    rw [hl] at hraw
    cases hraw

/-- Bundling gives what the walk over the imports of the entry ends with. -/
theorem ofEntry_of_ok {raw : List Char} (h : Ends l o entry r)
    (hl : l.load r.requests ⟨entry⟩ = .ok raw) :
    ofEntry l o entry r h =
      let contents := o.prelude.apply entry raw
      let w := (start o entry contents (r.ask l ⟨entry⟩).2).finish l o entry (h raw hl)
      (.ok (ofWalk contents w), w.resolver) := by
  unfold ofEntry
  split
  · next e he =>
    rw [hl] at he
    cases he
  · next raw' hraw' =>
    have : raw' = raw := by
      rw [hl] at hraw'
      exact (Except.ok.inj hraw').symm
    subst this
    rfl

/-- A bundle can be found by making steps until no name is left. -/
theorem ofEntry_eq_after {raw : List Char} (h : Ends l o entry r)
    (hl : l.load r.requests ⟨entry⟩ = .ok raw) (n : Nat)
    (hp : ((start o entry (o.prelude.apply entry raw) (r.ask l ⟨entry⟩).2).after
      l o entry n).pending = []) :
    ofEntry l o entry r h =
      let contents := o.prelude.apply entry raw
      let w := (start o entry contents (r.ask l ⟨entry⟩).2).after l o entry n
      (.ok (ofWalk contents w), w.resolver) := by
  rw [ofEntry_of_ok h hl]
  simp only [Walk.finish_eq_after (h raw hl) hp]

/-- A bundle can be read off the walk that has no name left. -/
theorem ofEntry_fst_eq_after {raw : List Char} {b : Bundle} (h : Ends l o entry r)
    (hl : l.load r.requests ⟨entry⟩ = .ok raw) (n : Nat)
    (hw : ((start o entry (o.prelude.apply entry raw) (r.ask l ⟨entry⟩).2).after
        l o entry n).pending = [] ∧
      ofWalk (o.prelude.apply entry raw)
        ((start o entry (o.prelude.apply entry raw) (r.ask l ⟨entry⟩).2).after l o entry n) = b) :
    (ofEntry l o entry r h).1 = .ok b := by
  rw [ofEntry_eq_after h hl n hw.1]
  exact congrArg Except.ok hw.2

/-- If there is a bundle, the entry was loaded. -/
theorem exists_of_ofEntry_eq_ok {h : Ends l o entry r} {b : Bundle} {r' : Resolver}
    (hb : ofEntry l o entry r h = (.ok b, r')) :
    ∃ raw, ∃ hl : l.load r.requests ⟨entry⟩ = .ok raw,
      let contents := o.prelude.apply entry raw
      let w := (start o entry contents (r.ask l ⟨entry⟩).2).finish l o entry (h raw hl)
      b = ofWalk contents w ∧ r' = w.resolver := by
  have hl : (∃ error, l.load r.requests ⟨entry⟩ = .error error) ∨
      ∃ raw, l.load r.requests ⟨entry⟩ = .ok raw := by
    cases l.load r.requests ⟨entry⟩ with
    | error error => exact .inl ⟨error, rfl⟩
    | ok raw => exact .inr ⟨raw, rfl⟩
  rcases hl with ⟨error, hl⟩ | ⟨raw, hl⟩
  · rw [ofEntry_of_error h hl] at hb
    cases hb
  · rw [ofEntry_of_ok h hl] at hb
    cases hb
    exact ⟨raw, hl, rfl, rfl⟩

end Bundle
end LuaBundler
