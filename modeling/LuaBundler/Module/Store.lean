/-
# The store of resolved modules

A store keeps what is known of each module that has been loaded, under the name
it was required by and in the order of loading.  An entry never changes: a
second `insert` under the same name leaves the store as it was, so no name
occurs twice (`nodup_names`).
-/

import LuaBundler.Lua.Registration
import LuaBundler.Lua.Require

namespace LuaBundler

/-- A module that has been loaded. -/
structure Module where
  /-- The names the module requires, in the order of its text, with repetitions. -/
  dependencies : List String
  /-- The registration of the module in a bundle. -/
  wrapped : List Char
  deriving DecidableEq, Repr

/-- What is kept of the module `name` whose text is `source`. -/
def Module.ofSource (name : String) (source : List Char) : Module :=
  ⟨Lua.imports source, Lua.register name source⟩

/-- Loaded modules by name. -/
structure Store where
  entries : List (String × Module)
  nodup_names : (entries.map Prod.fst).Nodup

namespace Store

/-- The store that holds no module. -/
def empty : Store := ⟨[], List.nodup_nil⟩

instance : Inhabited Store := ⟨empty⟩

/-- The names in the store, oldest first. -/
def names (s : Store) : List String := s.entries.map Prod.fst

/-- The module stored under `name`. -/
def get? (s : Store) (name : String) : Option Module := s.entries.lookup name

/-- The number of modules in the store. -/
def size (s : Store) : Nat := s.entries.length

/-- The store holds a module of that name. -/
def contains (s : Store) (name : String) : Bool := s.names.contains name

/-- The store with `m` under `name`, unless the name is taken. -/
def insert (s : Store) (name : String) (m : Module) : Store :=
  if h : name ∈ s.names then s
  else ⟨s.entries ++ [(name, m)], by
    rw [List.map_append]
    exact List.nodup_append.2 ⟨s.nodup_names, by simp, by
      intro a ha b hb
      simp only [List.map_cons, List.map_nil, List.mem_singleton] at hb
      exact fun hab => h (by rw [← hb, ← hab]; exact ha)⟩⟩

@[simp] theorem get?_empty (name : String) : empty.get? name = none := rfl

/-- A name is missing from the store exactly when nothing is stored under it. -/
theorem get?_eq_none_iff {s : Store} {name : String} : s.get? name = none ↔ name ∉ s.names := by
  rw [get?, List.lookup_eq_none_iff, names]
  simp only [bne_iff_ne, List.mem_map, not_exists, not_and]
  exact ⟨fun h e he hn => h e he hn.symm, fun h e he hn => h e he hn.symm⟩

/-- Insertion under a free name adds that entry and changes no other. -/
theorem get?_insert_of_eq_none {s : Store} {name : String} {m : Module}
    (h : s.get? name = none) (other : String) :
    (s.insert name m).get? other = if other = name then some m else s.get? other := by
  have hl : s.entries.lookup name = none := h
  simp only [insert, get?_eq_none_iff.1 h, dite_false, get?, List.lookup_append]
  by_cases ho : other = name
  · subst ho; simp [hl]
  · simp [ho, List.lookup_cons, beq_false_of_ne ho]

/-- Insertion under a taken name changes nothing. -/
theorem insert_of_get?_eq_some {s : Store} {name : String} {m old : Module}
    (h : s.get? name = some old) : s.insert name m = s := by
  have : name ∈ s.names := by
    rw [← Decidable.not_not (p := name ∈ s.names), ← get?_eq_none_iff, h]
    simp
  simp [insert, this]

end Store
end LuaBundler
