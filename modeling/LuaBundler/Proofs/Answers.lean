/-
# A bundle depends on the answers to its requests

Two loaders that are functions of the path answer a request alike if both give the same text
or both refuse it (`Loader.Alike`); why they refuse it may differ.  If they answer alike all
that is asked for in the making of a bundle with one of them, then with the other, from the
same store, the same is asked for (`Walk.Asks.change`), and the outcome is the same bundle and
the same store (`ofEntry_change`).
-/

import LuaBundler.Proofs.Requests

namespace LuaBundler

/-- Two functions give the same text for a path, or both give none. -/
def Loader.Alike (f g : Path → Except LoadError (List Char)) (path : Path) : Prop :=
  ∀ source, f path = .ok source ↔ g path = .ok source

namespace Resolver

variable {l : Loader} {name : String} {r r' t : Resolver} {m? : Option Module}
  {f g : Path → Except LoadError (List Char)}

/-- What is stored after a resolution depends on its answer only. -/
theorem Resolution.store_eq (h : Resolution l name r m? r') :
    r'.store = m?.elim r.store (r.store.insert name) := by
  cases h with
  | stored hs => exact (Store.insert_of_get?_eq_some hs).symm
  | pathless hs hp => rfl
  | refused hs hp hl => rfl
  | loaded hs hp hl => rfl

/-- **A name resolves alike** if what is asked for is answered alike. -/
theorem Resolution.change (h : Resolution (.ofFun f) name r m? r') (hs : t.store = r.store)
    (hagree : ∀ path, r'.requests = path :: r.requests → Loader.Alike f g path) :
    ∃ t', t.resolve (.ofFun g) name = (m?, t') ∧ t'.store = r'.store := by
  have hg := resolution (.ofFun g) name t
  have hanswer : (t.resolve (.ofFun g) name).1 = m? := by
    rw [hg.answer_eq]
    cases h with
    | stored hm => exact module?_of_stored (hs ▸ hm)
    | pathless hn hp => exact module?_of_pathless (hs ▸ hn) hp
    | @refused path error _ hn hp hl =>
      cases hload : g path with
      | error e => exact module?_of_refused (hs ▸ hn) hp hload
      | ok source =>
        have hok : f path = .ok source := (hagree path rfl source).2 hload
        rw [show f path = .error error from hl] at hok
        cases hok
    | loaded hn hp hl => exact module?_of_loaded (hs ▸ hn) hp ((hagree _ rfl _).1 hl)
  refine ⟨_, Prod.ext hanswer rfl, ?_⟩
  rw [hg.store_eq, hanswer, h.store_eq, hs]

end Resolver

namespace Bundle

variable {f g : Path → Except LoadError (List Char)} {o : Options} {entry : String}

namespace Walk

variable {l : Loader} {name : String} {w w' v v' : Walk} {asks : List (String × Path)}

/-- Two walks that differ at most in what was asked for and what was reported. -/
structure Same (w v : Walk) : Prop where
  pending : v.pending = w.pending
  visited : v.visited = w.visited
  blocks : v.blocks = w.blocks
  unresolved : v.unresolved = w.unresolved
  store : v.resolver.store = w.resolver.store

/-- **A step is the same** if what is asked for in it is answered alike. -/
theorem Step.change (hs : Step (.ofFun f) o entry w name w') (h : w.Same v)
    (hagree : ∀ path, w'.resolver.requests = path :: w.resolver.requests →
      Loader.Alike f g path) :
    ∃ v', Step (.ofFun g) o entry v name v' ∧ w'.Same v' := by
  cases hs with
  | known hp hv =>
    exact ⟨_, .known (h.pending ▸ hp) (h.visited ▸ hv),
      rfl, h.visited, h.blocks, h.unresolved, h.store⟩
  | missing hp hv hr =>
    obtain ⟨t', ht, hstore⟩ := (Resolver.Resolution.of_eq hr).change
      (t := v.resolver.note (.visiting name)) h.store hagree
    refine ⟨_, .missing (h.pending ▸ hp) (h.visited ▸ hv) ht, rfl, h.visited, h.blocks, ?_, hstore⟩
    rw [h.unresolved]
  | @found rest m r hp hv hr =>
    have hrequests := Resolver.foldl_note_requests (o.eventsAt name) r
    obtain ⟨t', ht, hstore⟩ := (Resolver.Resolution.of_eq hr).change
      (t := v.resolver.note (.visiting name)) h.store fun path hpath =>
        hagree path (hrequests.trans hpath)
    refine ⟨_, .found (h.pending ▸ hp) (h.visited ▸ hv) ht, rfl, ?_, ?_, h.unresolved, ?_⟩
    · rw [h.visited]
    · rw [h.blocks]
    · rw [Resolver.foldl_note_store, Resolver.foldl_note_store, hstore]

/-- **A whole walk is the same** if all that is asked for is answered alike. -/
theorem Asks.change (ha : Asks (.ofFun f) o entry w asks w') (h : w.Same v)
    (hagree : ∀ a ∈ asks, Loader.Alike f g a.2) (he : v.Ends (.ofFun g) o entry)
    (hp : w'.pending = []) : w'.Same (v.finish (.ofFun g) o entry he) := by
  induction ha generalizing v with
  | refl =>
    rw [finish_of_none he (step?_eq_none_iff.2 (h.pending.trans hp))]
    exact h
  | @step w w₁ w' name paths asks hs hr ha ih =>
    obtain ⟨v₁, hstep, hsame⟩ := hs.change h fun path hpath => by
      obtain rfl : paths = [path] := by
        rw [hpath, ← List.singleton_append, List.append_cancel_right_eq] at hr
        rw [← List.reverse_reverse paths, ← hr]
        rfl
      exact hagree (name, path) (by simp)
    rw [finish_of_some he (step?_eq_some_iff.2 ⟨name, hstep⟩)]
    exact ih hsame (fun a ha => hagree a (List.mem_append_right _ ha)) _ hp

end Walk

/-- **Bundling is the same**, from the same store, if all that is asked for is answered alike:
the bundle, if there is one, and what is stored afterwards. -/
theorem ofEntry_change {l k : Loader} {r t : Resolver} (hf : l = .ofFun f) (hg : k = .ofFun g)
    (hs : t.store = r.store) (h : Ends l o entry r) (ht : Ends k o entry t)
    (hagree : ∀ path ∈ (ofEntry l o entry r h).2.requests, Loader.Alike f g path) :
    (∀ b, (ofEntry l o entry r h).1 = .ok b ↔ (ofEntry k o entry t ht).1 = .ok b) ∧
    (ofEntry k o entry t ht).2.store = (ofEntry l o entry r h).2.store := by
  subst hf hg
  cases hl : f ⟨entry⟩ with
  | error error =>
    rw [ofEntry_of_error h hl] at hagree ⊢
    cases hload : g ⟨entry⟩ with
    | error e =>
      rw [ofEntry_of_error ht hload]
      exact ⟨by simp, hs⟩
    | ok raw =>
      have hok : f ⟨entry⟩ = .ok raw := (hagree ⟨entry⟩ List.mem_cons_self raw).2 hload
      rw [hl] at hok
      cases hok
  | ok raw =>
    rw [ofEntry_of_ok h hl] at hagree ⊢
    obtain ⟨asks, hasks⟩ := Walk.Asks.exists_finish (h raw hl)
    have hrequests := hasks.requests_eq
    have hentry : Loader.Alike f g ⟨entry⟩ := by
      refine hagree ⟨entry⟩ ?_
      rw [hrequests, start, Resolver.foldl_note_requests]
      exact List.mem_append_right _ List.mem_cons_self
    have hload : g ⟨entry⟩ = .ok raw := (hentry raw).1 hl
    rw [ofEntry_of_ok ht hload]
    have hsame : (start o entry (o.prelude.apply entry raw) (r.ask (.ofFun f) ⟨entry⟩).2).Same
        (start o entry (o.prelude.apply entry raw) (t.ask (.ofFun g) ⟨entry⟩).2) := by
      refine ⟨rfl, rfl, rfl, rfl, ?_⟩
      unfold start
      rw [Resolver.foldl_note_store, Resolver.foldl_note_store]
      exact hs
    have hlast := hasks.change hsame (fun a ha => hagree a.2 ?_) (ht raw hload)
      (Walk.pending_finish _)
    · refine ⟨fun b => ?_, hlast.store⟩
      simp only [ofWalk, hlast.blocks, hlast.visited, hlast.unresolved]
    · rw [hrequests]
      exact List.mem_append_left _ (List.mem_reverse.2 (List.mem_map_of_mem ha))

end Bundle
end LuaBundler
