/-
# Walks end

With a finite loader every walk ends (`Walk.ends_of_finite`).  All names that can
ever be met occur on the stack at the start, among the extra modules, among the
dependencies of stored modules or among the imports of the finitely many texts.
Each step either marks one of these names as visited or leaves the visited names
and takes a name off the stack.
-/

import LuaBundler.Bundle.Walk

namespace LuaBundler
namespace Bundle

/-- The names in `all` that do not occur in `visited`, counted with repetitions. -/
def unvisited (all visited : List String) : Nat := (all.filter (· ∉ visited)).length

/-- Visiting one more of the names leaves fewer of them. -/
theorem unvisited_cons_lt {all visited : List String} {name : String} (h : name ∈ all)
    (hv : name ∉ visited) : unvisited all (name :: visited) < unvisited all visited := by
  have hf : all.filter (· ∉ name :: visited) =
      (all.filter (· ∉ visited)).filter (· ≠ name) := by
    rw [List.filter_filter]
    exact List.filter_congr fun a _ => by simp [not_or]
  rw [unvisited, hf]
  exact List.length_filter_lt_length_iff_exists.2
    ⟨name, List.mem_filter.2 ⟨h, by simpa using hv⟩, by simp⟩

/-- `all` holds every name that a walk from `w` can meet. -/
structure Covers (l : Loader) (o : Options) (all : List String) (w : Walk) : Prop where
  pending : ∀ n ∈ w.pending, n ∈ all
  extras : ∀ n ∈ o.extras, n ∈ all
  stored : ∀ a m, w.resolver.store.get? a = some m → ∀ n ∈ m.dependencies, n ∈ all
  loaded : ∀ earlier path text, l.load earlier path = .ok text → ∀ n ∈ Lua.imports text, n ∈ all

variable {l : Loader} {o : Options} {entry : String}

/-- The modules stored after a resolution, and the answer, name no new names. -/
theorem Covers.resolve {all : List String} {w : Walk} (h : Covers l o all w) {name : String}
    {m? : Option Module} {r : Resolver} {e : Log.Event}
    (hr : (w.resolver.note e).resolve l name = (m?, r)) :
    (∀ a m, r.store.get? a = some m → ∀ n ∈ m.dependencies, n ∈ all) ∧
      ∀ m ∈ m?, ∀ n ∈ m.dependencies, n ∈ all :=
  (Resolver.Resolution.of_eq hr).forall_stored h.stored fun path source _ hl => h.loaded _ path source hl

/-- Each step stays within the names, and takes one of them from the ones to be
visited or from the stack. -/
theorem Covers.step {all : List String} {w w' : Walk} (h : Covers l o all w)
    (hs : w.step? l o entry = some w') :
    Covers l o all w' ∧ Prod.Lex (· < ·) (· < ·)
      (unvisited all w'.visited, w'.pending.length) (unvisited all w.visited, w.pending.length) := by
  obtain ⟨name, hs⟩ := Walk.step?_eq_some_iff.1 hs
  cases hs with
  | @known rest hp hv =>
    have hrest : ∀ n ∈ rest, n ∈ all := fun n hn => h.pending n (hp ▸ List.mem_cons_of_mem _ hn)
    exact ⟨⟨hrest, h.extras, h.stored, h.loaded⟩, Prod.Lex.right _ (by simp [hp])⟩
  | @missing rest r hp hv hr =>
    have hrest : ∀ n ∈ rest, n ∈ all := fun n hn => h.pending n (hp ▸ List.mem_cons_of_mem _ hn)
    exact ⟨⟨hrest, h.extras, (h.resolve hr).1, h.loaded⟩, Prod.Lex.right _ (by simp [hp])⟩
  | @found rest m r hp hv hr =>
    have hname : name ∈ all := h.pending name (hp ▸ List.mem_cons_self)
    obtain ⟨hstored, hm⟩ := h.resolve hr
    refine ⟨⟨fun n hn => ?_, h.extras, ?_, h.loaded⟩,
      Prod.Lex.left _ _ (unvisited_cons_lt hname hv)⟩
    · simp only [List.mem_append, List.mem_reverse] at hn
      rcases hn with (hn | hn) | hn
      · exact hm m rfl n hn
      · unfold Options.extrasOf at hn
        split at hn
        · exact h.extras n hn
        · simp at hn
      · exact h.pending n (hp ▸ List.mem_cons_of_mem _ hn)
    · rw [Resolver.foldl_note_store]
      exact hstored

/-- A walk whose names are covered by a list comes to an end. -/
theorem Covers.ends {all : List String} {w : Walk} (h : Covers l o all w) :
    w.Ends l o entry :=
  Acc.intro w fun _ hs => Covers.ends (h.step hs).1
termination_by (unvisited all w.visited, w.pending.length)
decreasing_by exact (h.step hs).2

/-- **With a finite loader every walk ends.** -/
theorem Walk.ends_of_finite (h : l.Finite) (w : Walk) : w.Ends l o entry := by
  obtain ⟨texts, ht⟩ := h
  have : Covers l o (w.pending ++ o.extras ++
      w.resolver.store.entries.flatMap (·.2.dependencies) ++ texts.flatMap Lua.imports) w := by
    refine ⟨?_, ?_, ?_, ?_⟩
    · intro n hn; simp [hn]
    · intro n hn; simp [hn]
    · intro a m hm n hn
      obtain ⟨l₁, l₂, he, -⟩ := List.lookup_eq_some_iff.1 hm
      have : n ∈ w.resolver.store.entries.flatMap (·.2.dependencies) :=
        List.mem_flatMap.2 ⟨(a, m), by simp [he], hn⟩
      simp [this]
    · intro earlier path text hl n hn
      have : n ∈ texts.flatMap Lua.imports := List.mem_flatMap.2 ⟨text, ht _ _ _ hl, hn⟩
      simp [this]
  exact this.ends

end Bundle
end LuaBundler
