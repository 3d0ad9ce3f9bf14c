/-
# Where stored modules come from

In a store that resolving has filled, every module was made of a text that the loader
gave, at some time, for the path of its name (`AllSourced`).  No resolution spoils this
(`Resolution.allSourced`), and so no bundling does (`allSourced_finish`): what is stored
stays, and what is added comes from the loader.
-/

import LuaBundler.Proofs.Walk

namespace LuaBundler
namespace Resolver

/-- The module stored under `name` was made of `source`, which the loader gave when it
was asked for the path of the name. -/
structure SourceOf (l : Loader) (r : Resolver) (name : String) (source : List Char) : Prop where
  given : ∃ path earlier, Module.path? name = some path ∧ path :: earlier <:+ r.requests ∧
    l.load earlier path = .ok source
  stored : r.store.get? name = some (.ofSource name source)

/-- Every stored module was made of a text of the loader. -/
def AllSourced (l : Loader) (r : Resolver) : Prop :=
  ∀ name m, r.store.get? name = some m → ∃ source, SourceOf l r name source

variable {l : Loader} {name : String} {source : List Char} {r r' : Resolver}

/-- A source stays one while more requests are made, as long as its module is stored. -/
theorem SourceOf.mono (h : SourceOf l r name source) (hr : r.requests <:+ r'.requests)
    (hs : r'.store.get? name = r.store.get? name) : SourceOf l r' name source := by
  obtain ⟨path, earlier, hp, hsuffix, hl⟩ := h.given
  exact ⟨⟨path, earlier, hp, hsuffix.trans hr, hl⟩, hs.trans h.stored⟩

/-- Requests alone leave every stored module with its source. -/
theorem AllSourced.mono (h : AllSourced l r) (hr : r.requests <:+ r'.requests)
    (hs : r'.store = r.store) : AllSourced l r' := by
  intro name m hm
  rw [hs] at hm
  obtain ⟨source, hsource⟩ := h name m hm
  exact ⟨source, hsource.mono hr (by rw [hs])⟩

/-- An empty store holds no module without a source. -/
theorem allSourced_of_empty (h : r.store = .empty) : AllSourced l r := by
  intro name m hm
  rw [h, Store.get?_empty] at hm
  cases hm

/-- **What a resolution stores comes from the loader.** -/
theorem Resolution.allSourced {m? : Option Module} (hr : Resolution l name r m? r')
    (h : AllSourced l r) : AllSourced l r' := by
  cases hr with
  | stored hs => exact h
  | pathless hs hp => exact h.mono List.suffix_rfl rfl
  | refused hs hp hl => exact h.mono (List.suffix_cons _ _) rfl
  | @loaded path source e hs hp hl =>
    intro n m hm
    have hinsert := Store.get?_insert_of_eq_none (m := .ofSource name source) hs n
    by_cases hn : n = name
    · subst hn
      refine ⟨source, ⟨path, r.requests, hp, List.suffix_rfl, hl⟩, ?_⟩
      rw [if_pos rfl] at hinsert
      exact hinsert
    · rw [if_neg hn] at hinsert
      obtain ⟨source', hsource⟩ := h n m (hinsert.symm.trans hm)
      exact ⟨source', hsource.mono (List.suffix_cons _ _) hinsert⟩

end Resolver

namespace Bundle

variable {l : Loader} {o : Options} {entry : String}

/-- What a step stores comes from the loader. -/
theorem Walk.Step.allSourced {name : String} {w w' : Walk} (hs : Step l o entry w name w')
    (h : w.resolver.AllSourced l) : w'.resolver.AllSourced l := by
  cases hs with
  | known hp hv => exact h
  | missing hp hv hr =>
    have hnote : (w.resolver.note (.visiting name)).AllSourced l := h.mono List.suffix_rfl rfl
    exact ((Resolver.Resolution.of_eq hr).allSourced hnote).mono List.suffix_rfl rfl
  | @found rest m r hp hv hr =>
    have hnote : (w.resolver.note (.visiting name)).AllSourced l := h.mono List.suffix_rfl rfl
    have hrequests := Resolver.foldl_note_requests (o.eventsAt name) r
    exact ((Resolver.Resolution.of_eq hr).allSourced hnote).mono (hrequests ▸ List.suffix_rfl)
      (Resolver.foldl_note_store _ _)

/-- **What a walk stores comes from the loader.** -/
theorem Walk.allSourced_finish {w : Walk} (h : w.resolver.AllSourced l)
    (he : w.Ends l o entry) : (w.finish l o entry he).resolver.AllSourced l := by
  refine finish_induction (P := fun w => w.resolver.AllSourced l) he h fun w w' name h hs => ?_
  exact hs.allSourced h

/-- The walk of an entry begins with the sources that the resolver had. -/
theorem allSourced_start {r : Resolver} (h : r.AllSourced l) (contents : List Char) :
    (start o entry contents (r.ask l ⟨entry⟩).2).resolver.AllSourced l := by
  refine h.mono ?_ (Resolver.foldl_note_store _ _)
  unfold start
  rw [Resolver.foldl_note_requests]
  exact List.suffix_cons _ _

end Bundle
end LuaBundler
