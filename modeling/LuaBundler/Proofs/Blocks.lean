/-
# The blocks of a bundle

The text of a bundle is made of blocks, one for each module, and the entry behind them
(`exists_blocks`).  A block is the registration of a module and a blank line.  It is a list
of lines that each end in a line feed: the head, the lines of the body, `end` and the blank
one (`flatten_blockLines`).  None of them declares a plugin
(`declaresPlugin_eq_false_of_mem_blockLines`), and only the last but one is `end`
(`indentLine_ne_end`).  So the plugin of a bundle is the one of its entry, whatever the modules
hold (`splitRegions_text`).

The store may have been filled before, as long as this was done by resolving and bundling
alone: then it holds nothing but registrations of texts that the loader has given
(`FilledBy.forall_stored`).
-/

import Mathlib.Data.List.Forall2
import LuaBundler.Proofs.Literal
import LuaBundler.Proofs.Regions
import LuaBundler.Proofs.SharedStore

namespace LuaBundler

namespace Lua

/-- The lines of a block: the registration of `name`, and a blank line. -/
def blockLines (name : String) (source : List Char) : List (List Char) :=
  registrationHead name :: ((Text.lines source).map indentLine ++ ["end\n".toList, ['\n']])

/-- A block is made of its lines. -/
theorem flatten_blockLines (name : String) (source : List Char) :
    (blockLines name source).flatten = register name source ++ ['\n', '\n'] := by
  simp [blockLines, register, List.flatMap_def]

/-- The slot of a module is written on one line. -/
theorem not_break_of_mem_preloadSlot {name : String} {c : Char} (h : c ∈ preloadSlot name) :
    c ≠ '\n' ∧ c ≠ '\r' := by
  have hopen : ∀ c ∈ "package.preload[\"".toList, c ≠ '\n' ∧ c ≠ '\r' := by simp
  have hclose : ∀ c ∈ "\"]".toList, c ≠ '\n' ∧ c ≠ '\r' := by simp
  unfold preloadSlot at h
  rcases List.mem_append.1 h with h | h
  · rcases List.mem_append.1 h with h | h
    · exact hopen c h
    · exact not_break_of_mem_escape h
  · exact hclose c h

/-- The first line of a registration ends in a line feed, and has no other, nor a carriage
return. -/
theorem exists_registrationHead_eq (name : String) :
    ∃ x, (∀ c ∈ x, c ≠ '\n' ∧ c ≠ '\r') ∧ registrationHead name = x ++ ['\n'] := by
  have hequals : ∀ c ∈ " = ".toList, c ≠ '\n' ∧ c ≠ '\r' := by simp
  have hfunction : ∀ c ∈ " or function()".toList, c ≠ '\n' ∧ c ≠ '\r' := by simp
  have hend : " or function()\n".toList = " or function()".toList ++ ['\n'] := by decide
  refine ⟨preloadSlot name ++ " = ".toList ++ preloadSlot name ++ " or function()".toList, ?_, ?_⟩
  · simp only [List.forall_mem_append]
    have hslot : ∀ c ∈ preloadSlot name, c ≠ '\n' ∧ c ≠ '\r' :=
      fun c hc => not_break_of_mem_preloadSlot hc
    exact ⟨⟨⟨hslot, hequals⟩, hslot⟩, hfunction⟩
  · rw [registrationHead, hend, ← List.append_assoc]

/-- Each line of a block ends in a line feed, and has no other. -/
theorem exists_eq_of_mem_blockLines (name : String) (source : List Char) :
    ∀ l ∈ blockLines name source, ∃ x, '\n' ∉ x ∧ l = x ++ ['\n'] := by
  intro l h
  rw [blockLines, List.mem_cons, List.mem_append, List.mem_map] at h
  rcases h with rfl | ⟨x, hx, rfl⟩ | h
  · obtain ⟨x, hx, hhead⟩ := exists_registrationHead_eq name
    exact ⟨x, fun hmem => (hx _ hmem).1 rfl, hhead⟩
  · unfold indentLine
    split
    · exact ⟨[], List.not_mem_nil, rfl⟩
    · exact ⟨"    ".toList ++ x, by simpa using Text.not_mem_of_mem_lines hx, rfl⟩
  · simp only [List.mem_cons, List.not_mem_nil, or_false] at h
    rcases h with rfl | rfl
    · exact ⟨"end".toList, by decide, rfl⟩
    · exact ⟨[], List.not_mem_nil, rfl⟩

/-- A line that declares the plugin begins with its keyword. -/
theorem head?_of_declaresPlugin {l : List Char} (h : declaresPlugin l = true) :
    l.head? = some 'f' := by
  obtain ⟨t, hl, -⟩ := Text.exists_dropEndWhile_append (p := fun c => c == '\n' || c == '\r') l
  unfold declaresPlugin at h
  split at h
  · next c r hp =>
    have hbreaks := Text.isPrefixOf?_eq_some_iff.1 hp
    unfold Text.withoutBreaks at hbreaks
    rw [hl, hbreaks]
    rfl
  · cases h

/-- No line of a block declares a plugin. -/
theorem declaresPlugin_eq_false_of_mem_blockLines (name : String) (source : List Char) :
    ∀ l ∈ blockLines name source, declaresPlugin l = false := by
  intro l h
  rw [Bool.eq_false_iff]
  intro hd
  have hhead := head?_of_declaresPlugin hd
  rw [blockLines, List.mem_cons, List.mem_append, List.mem_map] at h
  rcases h with rfl | ⟨x, -, rfl⟩ | h
  · cases hhead
  · unfold indentLine at hhead
    split at hhead <;> cases hhead
  · simp only [List.mem_cons, List.not_mem_nil, or_false] at h
    rcases h with rfl | rfl <;> cases hhead

/-- No line of a body is `end` alone. -/
theorem indentLine_ne_end (l : List Char) : indentLine l ≠ "end\n".toList := by
  unfold indentLine
  split
  · decide
  · intro h
    cases h

/-- **A block only lengthens the prolog** of a text it stands before. -/
theorem splitRegions_register_append (name : String) (source s : List Char) :
    splitRegions (register name source ++ '\n' :: '\n' :: s) =
      { splitRegions s with
        prolog := register name source ++ '\n' :: '\n' :: (splitRegions s).prolog } := by
  have h := splitRegions_append (exists_eq_of_mem_blockLines name source)
    (declaresPlugin_eq_false_of_mem_blockLines name source) s
  rw [flatten_blockLines] at h
  simpa using h

end Lua

namespace Bundle

variable {l : Loader} {o : Options} {entry : String} {r r' : Resolver} {b : Bundle}

/-- What holds of every module made of a text that the loader gives for its name, and of
every stored module, holds of every stored module after a step. -/
theorem Walk.Step.forall_stored {P : String → Module → Prop} {name : String} {w w' : Walk}
    (h : Step l o entry w name w')
    (hl : ∀ n path earlier source, Module.path? n = some path →
      l.load earlier path = .ok source → P n (.ofSource n source))
    (hs : ∀ n m, w.resolver.store.get? n = some m → P n m) :
    ∀ n m, w'.resolver.store.get? n = some m → P n m := by
  cases h with
  | known hp hv => exact hs
  | missing hp hv hr =>
    exact ((Resolver.Resolution.of_eq hr).forall_stored hs fun path source hpath hload =>
      hl _ path _ source hpath hload).1
  | found hp hv hr =>
    rw [Resolver.foldl_note_store]
    exact ((Resolver.Resolution.of_eq hr).forall_stored hs fun path source hpath hload =>
      hl _ path _ source hpath hload).1

/-- What holds of every module made of a text that the loader gives for its name, and of
every stored module, holds of every stored module after bundling. -/
theorem forall_stored_ofEntry {P : String → Module → Prop} (he : Ends l o entry r)
    (hl : ∀ n path earlier source, Module.path? n = some path →
      l.load earlier path = .ok source → P n (.ofSource n source))
    (hs : ∀ n m, r.store.get? n = some m → P n m) :
    ∀ n m, (ofEntry l o entry r he).2.store.get? n = some m → P n m := by
  cases hload : l.load r.requests ⟨entry⟩ with
  | error e =>
    rw [ofEntry_of_error he hload]
    exact hs
  | ok raw =>
    rw [ofEntry_of_ok he hload]
    refine Walk.finish_induction
      (P := fun w => ∀ n m, w.resolver.store.get? n = some m → P n m) _ ?_ ?_
    · intro n m hm
      rw [start, Resolver.foldl_note_store] at hm
      exact hs n m hm
    · intro w w' name hw hstep
      exact hstep.forall_stored hl hw

/-- **A filled store holds only modules made of texts that the loader has given.** -/
theorem FilledBy.forall_stored {P : String → Module → Prop} {s : Store} (h : FilledBy l s)
    (hl : ∀ n path earlier source, Module.path? n = some path →
      l.load earlier path = .ok source → P n (.ofSource n source)) :
    ∀ n m, s.get? n = some m → P n m := by
  induction h with
  | empty =>
    intro n m hm
    cases hm
  | @resolve r name h ih =>
    exact ((Resolver.resolution l name r).forall_stored ih fun path source hpath hload =>
      hl _ path _ source hpath hload).1
  | bundle he h ih => exact forall_stored_ofEntry he hl ih

/-- The blocks of a bundle, with what separates them from what follows. -/
theorem intercalate_concat (blocks : List (List Char)) (contents : List Char) :
    ['\n', '\n'].intercalate (blocks ++ [contents]) =
      blocks.flatMap (· ++ ['\n', '\n']) ++ contents := by
  induction blocks with
  | nil => simp [List.intercalate]
  | cons block blocks ih =>
    have hne : blocks ++ [contents] ≠ [] := by simp
    obtain ⟨x, xs, hx⟩ := List.exists_cons_of_ne_nil hne
    rw [List.cons_append, List.flatMap_cons, List.append_assoc, ← ih, hx]
    simp [List.intercalate]

/-- A text that the loader gives at the path of a module. -/
def IsSource (l : Loader) (name : String) (source : List Char) : Prop :=
  ∃ path earlier, Module.path? name = some path ∧ l.load earlier path = .ok source

/-- The registrations of modules, each with its source, in the order of the modules. -/
def registrations (names : List String) (sources : List (List Char)) : List (List Char) :=
  List.zipWith Lua.register names sources

/-- Registrations of texts the loader gives are the registrations of a list of such
texts. -/
theorem exists_registrations {names : List String} {blocks : List (List Char)}
    (h : List.Forall₂ (fun name block => ∃ source, IsSource l name source ∧
      block = Lua.register name source) names blocks) :
    ∃ sources, List.Forall₂ (IsSource l) names sources ∧ blocks = registrations names sources := by
  induction h with
  | nil => exact ⟨[], .nil, rfl⟩
  | cons hblock _ ih =>
    obtain ⟨source, hsource, rfl⟩ := hblock
    obtain ⟨sources, hsources, rfl⟩ := ih
    exact ⟨source :: sources, .cons hsource hsources, rfl⟩

/-- **A bundle is the registrations of its modules, and the entry behind them.**  The
modules were made of texts that the loader gives at their paths, and the registrations are
those stored for them. -/
theorem exists_blocks (hs : FilledBy l r.store) {h : Ends l o entry r}
    (hb : ofEntry l o entry r h = (.ok b, r')) :
    ∃ raw sources, l.load r.requests ⟨entry⟩ = .ok raw ∧
      List.Forall₂ (IsSource l) b.modules.reverse sources ∧
      b.modules.reverse.map (fun n => (r'.store.get? n).map Module.wrapped) =
        (registrations b.modules.reverse sources).map some ∧
      b.text = ['\n', '\n'].intercalate
        (registrations b.modules.reverse sources ++ [o.prelude.apply entry raw]) := by
  obtain ⟨raw, hl, rfl, rfl⟩ := exists_of_ofEntry_eq_ok hb
  set contents := o.prelude.apply entry raw
  set w := (start o entry contents (r.ask l ⟨entry⟩).2).finish l o entry (h raw hl)
  obtain ⟨taken, ha⟩ := Walk.accounts_finish (h raw hl) (accounts_start contents)
  have hstored : ∀ n m, w.resolver.store.get? n = some m →
      ∃ source, IsSource l n source ∧ m = .ofSource n source := by
    have hfilled : FilledBy l w.resolver.store := by
      have hbundle : FilledBy l (ofEntry l o entry r h).2.store := .bundle h hs
      rwa [ofEntry_of_ok h hl] at hbundle
    exact hfilled.forall_stored fun n path earlier source hpath hload =>
      ⟨source, ⟨path, earlier, hpath, hload⟩, rfl⟩
  have hblocks := ha.blocks
  rw [← List.forall₂_eq_eq_eq, List.forall₂_map_left_iff, List.forall₂_map_right_iff] at hblocks
  obtain ⟨sources, hsources, hregistrations⟩ := exists_registrations (hblocks.imp
    fun n block hblock => by
      obtain ⟨m, hm, rfl⟩ := Option.map_eq_some_iff.1 hblock
      obtain ⟨source, hsource, rfl⟩ := hstored n m hm
      exact ⟨source, hsource, rfl⟩)
  refine ⟨raw, sources, hl, ?_⟩
  simp only [ofWalk, List.reverse_reverse]
  refine ⟨hsources, ?_, ?_⟩
  · rw [← hregistrations]
    exact ha.blocks
  · rw [← hregistrations]

/-- The blocks of modules only lengthen the prolog of a text they stand before. -/
theorem splitRegions_registrations_append (names : List String) (sources : List (List Char))
    (s : List Char) :
    Lua.splitRegions ((registrations names sources).flatMap (· ++ ['\n', '\n']) ++ s) =
      { Lua.splitRegions s with
        prolog := (registrations names sources).flatMap (· ++ ['\n', '\n']) ++
          (Lua.splitRegions s).prolog } := by
  induction names generalizing sources with
  | nil => rfl
  | cons name names ih =>
    cases sources with
    | nil => rfl
    | cons source sources =>
      have hrest := ih sources
      simp only [registrations, List.zipWith_cons_cons, List.flatMap_cons, List.append_assoc,
        List.cons_append, List.nil_append] at hrest ⊢
      rw [Lua.splitRegions_register_append, hrest]

/-- **The plugin of a bundle is the one of its entry.**  Whatever the modules are called and
whatever is written in them, what stands above the entry becomes part of the prolog, and the
other regions are those of the entry alone. -/
theorem splitRegions_text (hs : FilledBy l r.store) {h : Ends l o entry r}
    (hb : ofEntry l o entry r h = (.ok b, r')) :
    ∃ raw above, l.load r.requests ⟨entry⟩ = .ok raw ∧
      b.text = above ++ o.prelude.apply entry raw ∧
      Lua.splitRegions b.text =
        { Lua.splitRegions (o.prelude.apply entry raw) with
          prolog := above ++ (Lua.splitRegions (o.prelude.apply entry raw)).prolog } := by
  obtain ⟨raw, sources, hl, -, -, htext⟩ := exists_blocks hs hb
  rw [intercalate_concat] at htext
  refine ⟨raw, _, hl, htext, ?_⟩
  rw [htext]
  exact splitRegions_registrations_append _ _ _

/-- A module that declares a plugin itself and an extra module whose name does so on a line of
its own stand above the entry, and the plugin is still the one of the entry. -/
theorem splitRegions_text_of_declaring_modules :
    let text := "require 'x'\nfunction plugindef()\n    return 1\nend\nprint 'z'".toList
    let x := "function plugindef()\nend\nfunction plugindef()".toList
    let extra := "a\nfunction plugindef()\nend"
    let l := Loader.ofFiles [(⟨"main.lua"⟩, text), (⟨"x.lua"⟩, x),
      (⟨"a\nfunction plugindef()\nend.lua"⟩, x)]
    let o : Options := { extensionPoint := some "x", extras := [extra] }
    let r := (({ store := .empty } : Resolver).resolve l "x").2
    ∃ h b r' above, ofEntry l o "main.lua" r h = (.ok b, r') ∧ b.modules = ["x", extra] ∧
      b.text = above ++ text ∧
      Lua.splitRegions b.text =
        ⟨above ++ "require 'x'\n".toList, "function plugindef()\n    return 1\nend\n".toList,
          "print 'z'".toList⟩ := by
  intro text x extra l o r
  have h : Ends l o "main.lua" r := ends_of_finite o "main.lua" (Loader.finite_ofFiles _) r
  have hl : l.load r.requests ⟨"main.lua"⟩ = .ok text := rfl
  have hb := ofEntry_eq_after h hl 2 (by decide +kernel)
  have hregions : Lua.splitRegions (o.prelude.apply "main.lua" text) = ⟨"require 'x'\n".toList,
      "function plugindef()\n    return 1\nend\n".toList, "print 'z'".toList⟩ := by
    decide +kernel
  obtain ⟨raw, above, hraw, htext, hsplit⟩ := splitRegions_text (.resolve "x" .empty) hb
  obtain rfl := Except.ok.inj (hl.symm.trans hraw)
  have hmodules : (ofWalk text ((start o "main.lua" text (r.ask l ⟨"main.lua"⟩).2).after
      l o "main.lua" 2)).modules = ["x", extra] := by decide +kernel
  refine ⟨h, _, _, above, hb, hmodules, htext, ?_⟩
  rw [hsplit, hregions]

end Bundle
end LuaBundler
