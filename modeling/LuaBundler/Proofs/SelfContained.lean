/-
# What a complete bundle registers

At run time a call `require("name")` looks for a registration of exactly that name.  In
a complete bundle that began with an empty store, every call found in the entry or in
the text of a bundled module has a registration of its argument without the blanks at
its ends (`registers_argument_iff`).  The argument as it is written is registered if and
only if it has no such blanks, or an extra module goes by that very name.

So a bundle can be complete and yet not hold what one of its calls asks for
(`complete_without_padded_argument`).
-/

import LuaBundler.Proofs.Literal
import LuaBundler.Proofs.Provenance

namespace LuaBundler
namespace Bundle

/-- One of the blocks is a registration whose keys denote `v`. -/
def Registers (blocks : List (List Char)) (v : List Char) : Prop :=
  ∃ block ∈ blocks, ∃ rest, Lua.readHead? block = some (v, rest)

namespace Walk

variable {l : Loader} {o : Options} {entry : String} {direct taken : List String} {w : Walk}

/-- The registrations of a walk are those of its visited modules. -/
theorem registers_iff (ha : Accounts o entry direct taken w) (hs : w.resolver.AllSourced l)
    {v : List Char} : Registers w.blocks v ↔ String.ofList v ∈ w.visited := by
  constructor
  · rintro ⟨block, hblock, rest, hread⟩
    have hmem : some block ∈ w.blocks.map some := List.mem_map_of_mem hblock
    rw [← ha.blocks] at hmem
    obtain ⟨name, hname, hwrapped⟩ := List.mem_map.1 hmem
    obtain ⟨m, hm, rfl⟩ := Option.map_eq_some_iff.1 hwrapped
    obtain ⟨source, hsource⟩ := hs name m hm
    obtain rfl : m = .ofSource name source := Option.some.inj (hm.symm.trans hsource.stored)
    rw [Module.ofSource, Lua.readHead?_register] at hread
    cases hread
    rwa [String.ofList_toList]
  · intro hname
    obtain ⟨m, hm⟩ := ha.stored hname
    obtain ⟨source, hsource⟩ := hs _ m hm
    have hmem : some (Lua.register (String.ofList v) source) ∈ w.blocks.map some := by
      rw [← ha.blocks]
      refine List.mem_map.2 ⟨_, hname, ?_⟩
      rw [hsource.stored]
      rfl
    obtain ⟨block, hblock, he⟩ := List.mem_map.1 hmem
    have hread := Lua.readHead?_register (String.ofList v) source
    rw [String.toList_ofList, ← Option.some.inj he] at hread
    exact ⟨block, hblock, _, hread⟩

/-- **A complete walk has visited all that the entry and the visited modules need.** -/
theorem mem_visited_of_complete (ha : Accounts o entry direct taken w) (hp : w.pending = [])
    (hu : w.unresolved = []) {n : String}
    (hn : n ∈ direct ∨ ∃ name ∈ w.visited, n ∈ follows o w.resolver.store name) :
    n ∈ w.visited := by
  rcases ha.visited_or_reported_of_ended hp hn with hv | hr
  · exact hv
  · rw [hu] at hr
    cases hr

/-- A visited name is required by the entry or by a visited module, and so has no blanks
at its ends, or it is an extra module that the extension point has pulled in. -/
theorem trim_or_extra_of_mem_visited {contents : List Char}
    (ha : Accounts o entry (Lua.imports contents) taken w) (hs : w.resolver.AllSourced l)
    (hp : w.pending = []) {n : String} (hn : n ∈ w.visited) :
    Text.trim n.toList = n.toList ∨
      n ∈ o.extras ∧ ∃ name ∈ w.visited, o.reaches name = true := by
  have hmem := (ha.perm_of_ended hp).mem_iff.1 (ha.visited n hn)
  rw [List.mem_append, List.mem_flatMap] at hmem
  rcases hmem with hdirect | ⟨name, hname, hfollows⟩
  · exact .inl (Lua.trim_of_mem_imports hdirect)
  · obtain ⟨m, hm⟩ := ha.stored hname
    obtain ⟨source, hsource⟩ := hs name m hm
    rw [follows_of_get? hsource.stored, List.mem_append] at hfollows
    rcases hfollows with hdep | hextra
    · exact .inl (Lua.trim_of_mem_imports hdep)
    · unfold Options.extrasOf at hextra
      split at hextra
      · next hreaches => exact .inr ⟨hextra, name, hname, hreaches⟩
      · cases hextra

end Walk

variable {l : Loader} {o : Options} {entry : String} {r : Resolver}

/-- **What a complete bundle registers.**  The bundle began with an empty store, and its
blocks are the registrations of its modules.  Take a call in the entry, prelude included,
or in the text that the loader gave for a module of the bundle, whose argument `v` is not
all blank.  Then `v` without the blanks at its ends is registered, and `v` itself is if and
only if it has no such blanks or names an extra module that the bundle pulls in. -/
theorem registers_argument_iff (hr : r.store = .empty) (h : Ends l o entry r) {b : Bundle}
    {r' : Resolver} (hb : ofEntry l o entry r h = (.ok b, r')) (hc : b.isComplete = true) :
    ∃ raw blocks, l.load r.requests ⟨entry⟩ = .ok raw ∧
      b.modules.reverse.map (fun n => (r'.store.get? n).map Module.wrapped) = blocks.map some ∧
      b.text = ['\n', '\n'].intercalate (blocks ++ [o.prelude.apply entry raw]) ∧
      (∀ name ∈ b.modules, ∃ source, r'.SourceOf l name source) ∧
      ∀ text, (text = o.prelude.apply entry raw ∨
          ∃ name ∈ b.modules, r'.SourceOf l name text) →
        ∀ v ∈ Lua.arguments false text, Text.isAllBlank v = false →
          Registers blocks (Text.trim v) ∧
            (Registers blocks v ↔ Text.trim v = v ∨
              String.ofList v ∈ o.extras ∧ ∃ name ∈ b.modules, o.reaches name = true) := by
  obtain ⟨raw, hl, rfl, rfl⟩ := exists_of_ofEntry_eq_ok hb
  set contents := o.prelude.apply entry raw
  set w := (start o entry contents (r.ask l ⟨entry⟩).2).finish l o entry (h raw hl)
  have hp : w.pending = [] := Walk.pending_finish (h raw hl)
  have hu : w.unresolved = [] := by
    rw [isComplete, List.isEmpty_iff] at hc
    exact List.reverse_eq_nil_iff.1 hc
  have hs : w.resolver.AllSourced l :=
    Walk.allSourced_finish (allSourced_start (Resolver.allSourced_of_empty hr) contents) _
  obtain ⟨taken, ha⟩ := Walk.accounts_finish (h raw hl) (accounts_start contents)
  have hmem : ∀ n, n ∈ (ofWalk contents w).modules ↔ n ∈ w.visited := fun n => List.mem_reverse
  refine ⟨raw, w.blocks, hl, ?_, rfl, fun name hname => ?_, fun text htext v hv hblank => ?_⟩
  · rw [ofWalk, List.reverse_reverse]
    exact ha.blocks
  · obtain ⟨m, hm⟩ := ha.stored ((hmem name).1 hname)
    exact hs name m hm
  have htrim : String.ofList (Text.trim v) ∈ w.visited := by
    refine Walk.mem_visited_of_complete ha hp hu ?_
    rcases htext with rfl | ⟨name, hname, hsource⟩
    · exact .inl (Lua.trim_mem_imports hv hblank)
    · refine .inr ⟨name, (hmem name).1 hname, ?_⟩
      rw [follows_of_get? hsource.stored]
      exact List.mem_append_left _ (Lua.trim_mem_imports hv hblank)
  rw [Walk.registers_iff ha hs, Walk.registers_iff ha hs]
  refine ⟨htrim, fun hvisited => ?_, ?_⟩
  · have hor := Walk.trim_or_extra_of_mem_visited ha hs hp hvisited
    rw [String.toList_ofList] at hor
    rcases hor with he | ⟨hextra, name, hname, hreaches⟩
    · exact .inl he
    · exact .inr ⟨hextra, name, (hmem name).2 hname, hreaches⟩
  · rintro (he | ⟨hextra, name, hname, hreaches⟩)
    · rwa [he] at htrim
    · refine Walk.mem_visited_of_complete ha hp hu (.inr ⟨name, (hmem name).1 hname, ?_⟩)
      refine List.mem_append_right _ ?_
      rw [Options.extrasOf, if_pos hreaches]
      exact hextra

/-- Of two calls one has blanks around its argument: both modules are registered, but the
argument with the blanks is not. -/
theorem not_registers_padded_argument :
    let text := "require(\"a\") require(\" b \")".toList
    let l := Loader.ofFiles [(⟨"main.lua"⟩, text), (⟨"a.lua"⟩, []), (⟨"b.lua"⟩, [])]
    let r : Resolver := { store := .empty }
    ∃ h b r' blocks, ofEntry l {} "main.lua" r h = (.ok b, r') ∧ b.isComplete = true ∧
      b.text = ['\n', '\n'].intercalate (blocks ++ [text]) ∧
      Registers blocks "a".toList ∧ Registers blocks "b".toList ∧
      ¬ Registers blocks " b ".toList := by
  intro text l r
  have h : Ends l {} "main.lua" r := ends_of_finite {} "main.lua" (Loader.finite_ofFiles _) r
  have hl : l.load r.requests ⟨"main.lua"⟩ = .ok text := rfl
  have hb := ofEntry_eq_after h hl 3 (by decide +kernel)
  have hc : (ofWalk text ((start {} "main.lua" text (r.ask l ⟨"main.lua"⟩).2).after
      l {} "main.lua" 3)).isComplete = true := by decide +kernel
  have harguments : Lua.arguments false text = ["a".toList, " b ".toList] := by decide +kernel
  obtain ⟨raw, blocks, hraw, -, htext, -, hregisters⟩ := registers_argument_iff rfl h hb hc
  obtain rfl := Except.ok.inj (hl.symm.trans hraw)
  have hcall := hregisters text (.inl rfl)
  rw [harguments] at hcall
  have ha := hcall "a".toList (by decide) (by decide +kernel)
  have hb' := hcall " b ".toList (by decide) (by decide +kernel)
  refine ⟨h, _, _, blocks, hb, hc, htext, ha.1, hb'.1, fun hpadded => ?_⟩
  rcases hb'.2.1 hpadded with htrim | ⟨hextra, -⟩
  · exact absurd htrim (by decide +kernel)
  · cases hextra

/-- **A complete bundle need not hold what it asks for.**  The one call asks for a name with
a blank at each end, and there is a file for that very name.  The bundle is complete, but it
registers the name without the blanks only. -/
theorem complete_without_padded_argument :
    let text := "require(\" a \")".toList
    let l := Loader.ofFiles [(⟨"main.lua"⟩, text), (⟨"a.lua"⟩, "return 1".toList),
      (⟨" a .lua"⟩, "return 2".toList)]
    let r : Resolver := { store := .empty }
    ∃ h b r', ofEntry l {} "main.lua" r h = (.ok b, r') ∧ b.isComplete = true ∧
      Lua.arguments false text = [" a ".toList] ∧ Module.path? " a " = some ⟨" a .lua"⟩ ∧
      b.modules = ["a"] ∧
      ∀ part ∈ b.text.tails, (Lua.readHead? part).map Prod.fst ≠ some " a ".toList := by
  intro text l r
  have h : Ends l {} "main.lua" r := ends_of_finite {} "main.lua" (Loader.finite_ofFiles _) r
  have hl : l.load r.requests ⟨"main.lua"⟩ = .ok text := rfl
  have hb := ofEntry_eq_after h hl 2 (by decide +kernel)
  exact ⟨h, _, _, hb, by decide +kernel, by decide +kernel, by decide +kernel,
    by decide +kernel, by decide +kernel⟩

end Bundle
end LuaBundler
