/-
# Where registrations stand

The registrations of a bundle stand above the entry, and each one stands above a module that
requires it, or else the entry does.  A module may be required again by one that is visited later;
that one stands above it.  If the imports have no cycles and can all be resolved, then every
registration stands above all modules that require it if and only if the imports of the entry and
those of each module are `Untangled` (`stands_above_iff`).

In the other cases the order in the text is not an order of the imports, even if one exists
(`registration_below_user`).
-/

import LuaBundler.Proofs.Blocks
import LuaBundler.Proofs.VisitOrder

namespace LuaBundler
namespace Bundle

variable {next : String → List String} {names order : List String}

/-- Of two members of a list one stands before the other. -/
theorem sublist_or_sublist {α : Type} {as : List α} {a b : α} (ha : a ∈ as) (hb : b ∈ as)
    (hne : a ≠ b) : [a, b].Sublist as ∨ [b, a].Sublist as := by
  induction as with
  | nil => cases ha
  | cons c as ih =>
    rcases List.mem_cons.1 ha with rfl | ha'
    · have hb' := (List.mem_cons.1 hb).resolve_left hne.symm
      exact .inl ((List.singleton_sublist.2 hb').cons_cons a)
    · rcases List.mem_cons.1 hb with rfl | hb'
      · exact .inr ((List.singleton_sublist.2 ha').cons_cons b)
      · exact (ih ha' hb').imp (.cons c) (.cons c)

/-- In a list without repetitions of two members only one stands before the other. -/
theorem not_sublist_of_sublist {α : Type} {as : List α} {a b : α} (has : as.Nodup)
    (h : [a, b].Sublist as) : ¬ [b, a].Sublist as := by
  induction as with
  | nil => cases h
  | cons c as ih =>
    obtain ⟨hc, has⟩ := List.nodup_cons.1 has
    intro h'
    cases h with
    | cons _ h =>
      cases h' with
      | cons _ h' => exact ih has h h'
      | cons_cons _ h' => exact hc (h.subset (by simp))
    | cons_cons _ h =>
      cases h' with
      | cons _ h' => exact hc (h'.subset (by simp))
      | cons_cons _ h' => exact hc (h.subset (by simp))

/-- In a list that holds with each name what follows it, no name follows one behind it if and only
if each one stands before what follows it. -/
theorem pairwise_iff_forall_sublist (horder : order.Nodup)
    (hclosed : ∀ u ∈ order, ∀ m ∈ next u, m ∈ order) (hself : ∀ u ∈ order, u ∉ next u) :
    (order.Pairwise fun a b => a ∉ next b) ↔
      ∀ u ∈ order, ∀ m ∈ next u, [u, m].Sublist order := by
  rw [List.pairwise_iff_forall_sublist]
  constructor
  · intro h u hu m hm
    have hne : u ≠ m := fun he => hself u hu (he ▸ hm)
    refine (sublist_or_sublist hu (hclosed u hu m hm) hne).resolve_right fun hbefore => ?_
    exact h hbefore hm
  · intro h a b hbefore hab
    have hb : b ∈ order := hbefore.subset (by simp)
    exact not_sublist_of_sublist horder hbefore (h b hb a hab)

/-- What is reached from the names of a list in which each one stands before what follows it is in
the list, and lies on no cycle. -/
theorem mem_and_not_transGen_of_reached (hnames : ∀ n ∈ names, n ∈ order)
    (hnext : ∀ u ∈ order, ∀ m ∈ next u, m ∈ order ∧ order.idxOf u < order.idxOf m) {n : String}
    (hn : Reached next names n) :
    n ∈ order ∧ ¬ Relation.TransGen (fun a b => b ∈ next a) n n := by
  have hmem : ∀ n, Reached next names n → n ∈ order := fun n hn =>
    hn.induction (P := (· ∈ order)) hnames fun a _ ha m hm => (hnext a ha m hm).1
  have hlt : ∀ m, Relation.TransGen (fun a b => b ∈ next a) n m →
      m ∈ order ∧ order.idxOf n < order.idxOf m := by
    intro m hm
    induction hm with
    | single hab => exact hnext n (hmem n hn) _ hab
    | tail _ hbc ih =>
      obtain ⟨hc, hlt⟩ := hnext _ ih.1 _ hbc
      exact ⟨hc, ih.2.trans hlt⟩
  exact ⟨hmem n hn, fun hcycle => Nat.lt_irrefl _ (hlt n hcycle).2⟩

variable {o : Options} {entry : String} {r r' : Resolver} {b : Bundle}
  {f : Path → Except LoadError (List Char)}

/-- Without an extension point a name is followed by what it requires. -/
theorem successors_of_extensionPoint_eq_none {l : Loader} (ho : o.extensionPoint = none) :
    successors l o r = r.dependencies l := by
  funext name
  unfold successors Options.extensionPath?
  rw [ho]
  simp

/-- **Where the registrations of a bundle stand.**  The loader is a function of the path, the store
was filled by resolving and bundling, and there is no extension point.  The registrations of the
modules stand above the entry, each of them above a module that requires it if the entry does not.
If all that is reached can be resolved and there are no cycles, each of them stands above all
modules that require it if and only if the imports of the entry and of each module are
untangled. -/
theorem stands_above_iff (hs : FilledBy (.ofFun f) r.store) (ho : o.extensionPoint = none)
    {h : Ends (.ofFun f) o entry r} (hb : ofEntry (.ofFun f) o entry r h = (.ok b, r')) :
    ∃ raw sources, f ⟨entry⟩ = .ok raw ∧
      List.Forall₂ (IsSource (.ofFun f)) b.modules.reverse sources ∧
      b.text = ['\n', '\n'].intercalate
        (registrations b.modules.reverse sources ++ [o.prelude.apply entry raw]) ∧
      let direct := Lua.imports (o.prelude.apply entry raw)
      let requires := r.dependencies (.ofFun f)
      b.modules.Nodup ∧
      (∀ m ∈ b.modules,
        m ∈ direct ∨ ∃ u ∈ b.modules, m ∈ requires u ∧ [m, u].Sublist b.modules.reverse) ∧
      ((∀ n, Reached requires direct n → r.Resolvable (.ofFun f) n) →
        (∀ n, Reached requires direct n →
          ¬ Relation.TransGen (fun a b => b ∈ requires a) n n) →
        ((∀ u ∈ b.modules, ∀ m ∈ requires u, [m, u].Sublist b.modules.reverse) ↔
          Untangled requires direct ∧ ∀ u ∈ b.modules, Untangled requires (requires u))) := by
  obtain ⟨raw, sources, hl, hsources, -, htext⟩ := exists_blocks hs hb
  obtain ⟨raw', hraw', hadds⟩ := exists_adds_modules (Loader.steadyAfter_ofFun f _) hb
  obtain rfl := Except.ok.inj (hl.symm.trans hraw')
  rw [successors_of_extensionPoint_eq_none ho] at hadds
  have hnodup : b.modules.Nodup := hadds.nodup List.nodup_nil
  have hreverse : ∀ u m, [m, u].Sublist b.modules.reverse ↔ [u, m].Sublist b.modules := by
    intro u m
    exact @List.reverse_sublist _ [u, m] b.modules
  refine ⟨raw, sources, hl, hsources, htext, hnodup, fun m hm => ?_, fun hok hacyclic => ?_⟩
  · simpa only [hreverse] using hadds.exists_before hm
  · have hclosed : ∀ u ∈ b.modules, ∀ m ∈ r.dependencies (.ofFun f) u, m ∈ b.modules :=
      fun u hu m hm => hadds.mem_of_mem_next hu hm (hok m ((hadds.reached hu).tail hm))
    have hself : ∀ u ∈ b.modules, u ∉ r.dependencies (.ofFun f) u := fun u hu hself =>
      hacyclic u (hadds.reached hu) (.single hself)
    rw [← hadds.pairwise_iff hok hacyclic fun _ _ => List.not_mem_nil,
      pairwise_iff_forall_sublist hnodup hclosed hself]
    simp only [hreverse]

/-- The entry and two modules require `z`, and where names stand behind it in a list they lead to
it as well.  So it is visited behind both modules, and its registration stands above theirs. -/
theorem stands_above_of_shared_module :
    let text := "require 'z' require 'w' require 'x'".toList
    let l := Loader.ofFiles [(⟨"main.lua"⟩, text), (⟨"x.lua"⟩, "require 'z' require 'y'".toList),
      (⟨"y.lua"⟩, "require 'z'".toList), (⟨"z.lua"⟩, []), (⟨"w.lua"⟩, [])]
    let r : Resolver := { store := .empty }
    let requires := r.dependencies l
    ∃ h b r', ofEntry l {} "main.lua" r h = (.ok b, r') ∧ b.modules = ["x", "y", "z", "w"] ∧
      (∀ u ∈ b.modules, ∀ m ∈ requires u, [m, u].Sublist b.modules.reverse) ∧
      Untangled requires (Lua.imports text) ∧ Untangled requires (requires "x") := by
  intro text l r requires
  have h : Ends l {} "main.lua" r := ends_of_finite {} "main.lua" (Loader.finite_ofFiles _) r
  have hl : l.load r.requests ⟨"main.lua"⟩ = .ok text := rfl
  let w := (start {} "main.lua" text (r.ask l ⟨"main.lua"⟩).2).after l {} "main.lua" 7
  have hw : w.pending = [] ∧ (ofWalk text w).modules = ["x", "y", "z", "w"] := by decide +kernel
  have hb : ofEntry l {} "main.lua" r h = (.ok (ofWalk text w), w.resolver) :=
    ofEntry_eq_after h hl 7 hw.1
  obtain ⟨raw, -, hraw, -, -, -, -, hiff⟩ := stands_above_iff (f := l.load []) .empty rfl hb
  obtain rfl := Except.ok.inj (hl.symm.trans hraw)
  have hreached : ∀ n, Reached requires (Lua.imports text) n → n ∈ ["x", "y", "z", "w"] ∧
      ¬ Relation.TransGen (fun a b => b ∈ requires a) n n := fun n hn =>
    mem_and_not_transGen_of_reached (by decide +kernel) (by decide +kernel) hn
  have hok : ∀ n, Reached requires (Lua.imports text) n → r.Resolvable l n := by
    have hsome : ∀ n ∈ ["x", "y", "z", "w"], (r.module? l n).isSome = true := by decide +kernel
    exact fun n hn =>
      Resolver.resolvable_iff_module?.2 (Option.isSome_iff_exists.1 (hsome n (hreached n hn).1))
  have habove : ∀ u ∈ (ofWalk text w).modules, ∀ m ∈ requires u,
      [m, u].Sublist (ofWalk text w).modules.reverse := by decide +kernel
  obtain ⟨hdirect, huntangled⟩ := (hiff hok fun n hn => (hreached n hn).2).1 habove
  refine ⟨h, _, _, hb, hw.2, habove, hdirect, huntangled "x" ?_⟩
  rw [hw.2]
  exact List.mem_cons_self

/-- **Not every registration stands above the modules that require it.**  All modules are found and
there are no cycles, and yet the registration of `z` stands below the one of `x`, which requires
it: the entry asks for `z` too, and last, so `z` is visited first. -/
theorem registration_below_user :
    let text := "require 'x' require 'z'".toList
    let x := "require 'z'".toList
    let z := "return {}".toList
    let l := Loader.ofFiles [(⟨"main.lua"⟩, text), (⟨"x.lua"⟩, x), (⟨"z.lua"⟩, z)]
    let r : Resolver := { store := .empty }
    let requires := r.dependencies l
    ∃ h b r', ofEntry l {} "main.lua" r h = (.ok b, r') ∧
      (∀ n, Reached requires (Lua.imports text) n → r.Resolvable l n ∧
        ¬ Relation.TransGen (fun a b => b ∈ requires a) n n) ∧
      "x" ∈ b.modules ∧ "z" ∈ requires "x" ∧ ¬ ["z", "x"].Sublist b.modules.reverse ∧
      b.text = ['\n', '\n'].intercalate [Lua.register "x" x, Lua.register "z" z, text] := by
  intro text x z l r requires
  have h : Ends l {} "main.lua" r := ends_of_finite {} "main.lua" (Loader.finite_ofFiles _) r
  have hl : l.load r.requests ⟨"main.lua"⟩ = .ok text := rfl
  have hb := ofEntry_eq_after h hl 3 (by decide +kernel)
  have hreached : ∀ n, Reached requires (Lua.imports text) n → n ∈ ["x", "z"] ∧
      ¬ Relation.TransGen (fun a b => b ∈ requires a) n n := fun n hn =>
    mem_and_not_transGen_of_reached (by decide +kernel) (by decide +kernel) hn
  have hsome : ∀ n ∈ ["x", "z"], (r.module? l n).isSome = true := by decide +kernel
  refine ⟨h, _, _, hb, fun n hn => ⟨?_, (hreached n hn).2⟩, by decide +kernel, by decide +kernel,
    by decide +kernel, by decide +kernel⟩
  exact Resolver.resolvable_iff_module?.2
    (Option.isSome_iff_exists.1 (hsome n (hreached n hn).1))

end Bundle
end LuaBundler
