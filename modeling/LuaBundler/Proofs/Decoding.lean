/-
# A bundle can be read back

`readBlock?` reads one block of a bundle: the head, whose two keys denote the name of the
module, then the lines of the body, up to the first line that is `end` alone, and then a
blank line.  A line of the body has lost its line feed and the four spaces it was indented
by; an empty one has no such spaces.  `readBlocks` reads a number of blocks and returns
what is behind them.

Of a bundle these blocks are its modules, last visited first, each with the lines of its
text, and the entry is what is behind them (`readBlocks_text`).  So the text of a bundle and
the number of its modules determine the modules and their lines.  No line of a body passes for
a head or for the end of its block (`headNames_and_count_end`).
-/

import LuaBundler.Proofs.Blocks

namespace LuaBundler

namespace Lua

/-- A line of a body without its indentation and its line feed. -/
def unindent? (l : List Char) : Option (List Char) :=
  if l = ['\n'] then some [] else ("    ".toList.isPrefixOf? l).map List.dropLast

/-- The name and the lines of the block a text begins with, and the text behind it. -/
def readBlock? (s : List Char) : Option ((List Char × List (List Char)) × List Char) := do
  let (name, r) ← readHead? s
  match (Text.brokenLines r).span (· ≠ "end\n".toList) with
  | (body, _ :: ['\n'] :: rest) =>
    let ls ← body.mapM unindent?
    return ((name, ls), rest.flatten)
  | _ => none

/-- The names and the lines of the first `n` blocks of a text, and the text behind them. -/
def readBlocks : Nat → List Char → Option (List (List Char × List (List Char)) × List Char)
  | 0, s => some ([], s)
  | n + 1, s => do
    let (block, r) ← readBlock? s
    let (blocks, rest) ← readBlocks n r
    return (block :: blocks, rest)

/-- An indented line is read as the line. -/
theorem unindent?_indentLine (l : List Char) : unindent? (indentLine l) = some l := by
  unfold indentLine
  split
  · next h => rw [h]; rfl
  · next h =>
    have hp : "    ".toList.isPrefixOf? ("    ".toList ++ l ++ ['\n']) = some (l ++ ['\n']) :=
      Text.isPrefixOf?_eq_some_iff.2 (List.append_assoc _ _ _)
    rw [unindent?, if_neg (by simp), hp, Option.map_some, List.dropLast_concat]

/-- The lines of a body are read as they were. -/
theorem mapM_unindent?_indentLine (ls : List (List Char)) :
    (ls.map indentLine).mapM unindent? = some ls := by
  induction ls with
  | nil => rfl
  | cons l ls ih =>
    rw [List.map_cons, List.mapM_cons, unindent?_indentLine, ih]
    rfl

/-- The lines behind the head of a block, and those of what stands behind the block. -/
theorem brokenLines_body_append (name : String) (source rest : List Char) :
    Text.brokenLines ((Text.lines source).flatMap indentLine ++ "end\n\n".toList ++ rest) =
      (Text.lines source).map indentLine ++
        "end\n".toList :: ['\n'] :: Text.brokenLines rest := by
  have hbroken : ∀ l ∈ (Text.lines source).map indentLine ++ ["end\n".toList, ['\n']],
      ∃ x, '\n' ∉ x ∧ l = x ++ ['\n'] := fun l hl =>
    exists_eq_of_mem_blockLines name source l (List.mem_cons_of_mem _ hl)
  have hlines := Text.brokenLines_flatten_append hbroken rest
  rw [List.append_assoc, List.cons_append, List.cons_append, List.nil_append] at hlines
  rw [← hlines, List.flatten_append, List.flatMap_def]
  rfl

/-- **A block is read as the module it was made for.** -/
theorem readBlock?_register (name : String) (source rest : List Char) :
    readBlock? (register name source ++ '\n' :: '\n' :: rest) =
      some ((name.toList, Text.lines source), rest) := by
  have htext : register name source ++ '\n' :: '\n' :: rest = registrationHead name ++
      ((Text.lines source).flatMap indentLine ++ "end\n\n".toList ++ rest) := by
    simp [register]
  have hbody : ∀ l ∈ (Text.lines source).map indentLine, decide (l ≠ "end\n".toList) = true := by
    intro l hl
    obtain ⟨x, -, rfl⟩ := List.mem_map.1 hl
    exact decide_eq_true (indentLine_ne_end x)
  have hspan : (Text.brokenLines ((Text.lines source).flatMap indentLine ++
        "end\n\n".toList ++ rest)).span (· ≠ "end\n".toList) =
      ((Text.lines source).map indentLine, "end\n".toList :: ['\n'] :: Text.brokenLines rest) := by
    rw [brokenLines_body_append name, List.span_eq_takeWhile_dropWhile,
      List.takeWhile_append_of_pos hbody, List.dropWhile_append_of_pos hbody]
    simp
  rw [readBlock?, htext, readHead?_registrationHead]
  simp only [Option.bind_eq_bind, Option.bind_some, hspan, mapM_unindent?_indentLine,
    Text.flatten_brokenLines]
  rfl

/-- **Blocks are read as the modules they were made for**, one after the other. -/
theorem readBlocks_flatMap_append {names : List String} {sources : List (List Char)}
    (h : names.length = sources.length) (rest : List Char) :
    readBlocks names.length
        ((List.zipWith register names sources).flatMap (· ++ ['\n', '\n']) ++ rest) =
      some (List.zipWith (fun name source => (name.toList, Text.lines source)) names sources,
        rest) := by
  induction names generalizing sources with
  | nil => rfl
  | cons name names ih =>
    cases sources with
    | nil => cases h
    | cons source sources =>
      rw [List.length_cons, readBlocks, List.zipWith_cons_cons, List.flatMap_cons,
        List.append_assoc, List.append_assoc, List.cons_append, List.singleton_append,
        readBlock?_register]
      simp only [Option.bind_eq_bind, Option.bind_some]
      rw [ih (Nat.succ.inj h)]
      rfl

/-- The name in the head of a block, if the line is one. -/
def headName? (line : List Char) : Option (List Char) := (readHead? line).map Prod.fst

/-- A line that does not begin like a head is none. -/
theorem headName?_eq_none {c : Char} (hc : c ≠ 'p') (s : List Char) :
    headName? (c :: s) = none := by
  have hprefix : "package.preload[\"".toList.isPrefixOf? (c :: s) = none := by
    rw [Option.eq_none_iff_forall_ne_some]
    intro r hr
    cases Text.isPrefixOf?_eq_some_iff.1 hr
    exact hc rfl
  rw [headName?, readHead?, hprefix]
  rfl

/-- The only head among the lines of a block is the first, with the name of the module. -/
theorem filterMap_headName?_blockLines (name : String) (source : List Char) :
    (blockLines name source).filterMap headName? = [name.toList] := by
  have hhead : headName? (registrationHead name) = some name.toList := by
    have hread := readHead?_registrationHead name []
    rw [List.append_nil] at hread
    rw [headName?, hread]
    rfl
  have hbody : ((Text.lines source).map indentLine).filterMap headName? = [] := by
    refine List.filterMap_eq_nil_iff.2 (List.forall_mem_map.2 fun l _ => ?_)
    unfold indentLine
    split
    · exact headName?_eq_none (by decide) []
    · exact headName?_eq_none (by decide) _
  have hend : ["end\n".toList, ['\n']].filterMap headName? = [] := rfl
  rw [blockLines, List.filterMap_cons_some hhead, List.filterMap_append, hbody, hend]
  rfl

/-- One line of a block is `end` alone. -/
theorem count_end_blockLines (name : String) (source : List Char) :
    (blockLines name source).count "end\n".toList = 1 := by
  have hhead : registrationHead name ≠ "end\n".toList := fun h => by cases h
  have hbody : ((Text.lines source).map indentLine).count "end\n".toList = 0 :=
    List.count_eq_zero.2 fun hmem => by
      obtain ⟨l, -, hl⟩ := List.mem_map.1 hmem
      exact indentLine_ne_end l hl
  rw [blockLines, List.count_cons_of_ne hhead, List.count_append, hbody]
  rfl

/-- **The lines of blocks are read in one way only**: the heads among them are those of the
modules, in their order, and `end` stands alone on as many. -/
theorem headNames_and_count_end {names : List String} {sources : List (List Char)}
    (h : names.length = sources.length) :
    let lines := Text.brokenLines
      ((List.zipWith register names sources).flatMap (· ++ ['\n', '\n']))
    lines.filterMap headName? = names.map String.toList ∧
      lines.count "end\n".toList = names.length := by
  induction names generalizing sources with
  | nil => exact ⟨rfl, rfl⟩
  | cons name names ih =>
    cases sources with
    | nil => cases h
    | cons source sources =>
      obtain ⟨hheads, hcount⟩ := ih (Nat.succ.inj h)
      have hlines := Text.brokenLines_flatten_append (exists_eq_of_mem_blockLines name source)
        ((List.zipWith register names sources).flatMap (· ++ ['\n', '\n']))
      rw [flatten_blockLines] at hlines
      simp only [List.zipWith_cons_cons, List.flatMap_cons, hlines, List.filterMap_append,
        List.count_append, filterMap_headName?_blockLines, count_end_blockLines, hheads, hcount,
        List.map_cons, List.length_cons]
      exact ⟨rfl, Nat.add_comm _ _⟩

end Lua

namespace Bundle

variable {f g : Path → Except LoadError (List Char)} {o o' : Options} {entry entry' : String}
  {r r' r₁ r₁' : Resolver} {b b' : Bundle}

/-- No module is in a bundle twice. -/
theorem nodup_modules {l : Loader} {h : Ends l o entry r}
    (hb : ofEntry l o entry r h = (.ok b, r')) : b.modules.Nodup := by
  obtain ⟨raw, hl, rfl, rfl⟩ := exists_of_ofEntry_eq_ok hb
  obtain ⟨taken, ha⟩ := Walk.accounts_finish (h raw hl) (accounts_start _)
  exact List.pairwise_reverse.2 (ha.nodup.imp Ne.symm)

/-- Modules with the lines of their texts, as blocks are read. -/
def decoded (names : List String) (sources : List (List Char)) :
    List (List Char × List (List Char)) :=
  List.zipWith (fun name source => (name.toList, Text.lines source)) names sources

/-- What a bundle of a steady loader is read as, and the lines before its entry. -/
theorem exists_readBlocks_text (hs : FilledBy (.ofFun f) r.store) {h : Ends (.ofFun f) o entry r}
    (hb : ofEntry (.ofFun f) o entry r h = (.ok b, r')) :
    ∃ raw sources before, f ⟨entry⟩ = .ok raw ∧
      List.Forall₂ (IsSource (.ofFun f)) b.modules.reverse sources ∧
      Lua.readBlocks b.modules.length b.text =
        some (decoded b.modules.reverse sources, o.prelude.apply entry raw) ∧
      b.text = before ++ o.prelude.apply entry raw ∧
      (Text.brokenLines before).filterMap Lua.headName? = b.modules.reverse.map String.toList ∧
      (Text.brokenLines before).count "end\n".toList = b.modules.length := by
  obtain ⟨raw, sources, hl, hsources, -, htext⟩ := exists_blocks hs hb
  rw [intercalate_concat] at htext
  obtain ⟨hheads, hcount⟩ := Lua.headNames_and_count_end hsources.length_eq
  rw [List.length_reverse] at hcount
  refine ⟨raw, sources, _, hl, hsources, ?_, htext, hheads, hcount⟩
  rw [htext, ← List.length_reverse]
  exact Lua.readBlocks_flatMap_append hsources.length_eq _

/-- Modules that are decoded alike are the same modules, with the same lines. -/
theorem decoded_inj {names names' : List String} {sources sources' : List (List Char)}
    (h : List.Forall₂ (IsSource (.ofFun f)) names sources)
    (h' : List.Forall₂ (IsSource (.ofFun g)) names' sources')
    (heq : decoded names sources = decoded names' sources') :
    names = names' ∧ ∀ name ∈ names, ∀ path source source', Module.path? name = some path →
      f path = .ok source → g path = .ok source' → Text.lines source = Text.lines source' := by
  induction h generalizing names' sources' with
  | nil =>
    cases h' with
    | nil => exact ⟨rfl, fun name hname => absurd hname List.not_mem_nil⟩
    | cons _ _ => cases heq
  | @cons name source names sources hsource _ ih =>
    cases h' with
    | nil => cases heq
    | @cons name' source' names' sources' hsource' hrest' =>
      simp only [decoded, List.zipWith_cons_cons, List.cons.injEq, Prod.mk.injEq] at heq
      obtain ⟨⟨hname, hlines⟩, hrest⟩ := heq
      obtain rfl := String.toList_inj.1 hname
      obtain ⟨rfl, hall⟩ := ih hrest' hrest
      refine ⟨rfl, List.forall_mem_cons.2 ⟨fun path x x' hpath hx hx' => ?_, hall⟩⟩
      obtain ⟨q, _, hq, hf⟩ := hsource
      obtain ⟨q', _, hq', hg⟩ := hsource'
      obtain rfl := Option.some.inj (hpath.symm.trans hq)
      obtain rfl := Option.some.inj (hpath.symm.trans hq')
      obtain rfl := Except.ok.inj (hx.symm.trans hf)
      obtain rfl := Except.ok.inj (hx'.symm.trans hg)
      exact hlines

/-- **The text of a bundle decodes uniquely.**  The loader is a function of the path, and the
store was filled by resolving and bundling alone.  The text is read as one block for each
module, last visited first, and no module has two of them.  Each block gives the name of the
module and the lines of the text that the loader has at its path.  Behind the blocks is the
entry, prelude included.  Before the entry no other line is a head, and no other is `end` alone.
So two bundles with the same text and as many modules, of whatever loaders and entries, have
the same modules, the same lines in each and the same entry text. -/
theorem readBlocks_text (hs : FilledBy (.ofFun f) r.store) {h : Ends (.ofFun f) o entry r}
    (hb : ofEntry (.ofFun f) o entry r h = (.ok b, r')) :
    b.modules.Nodup ∧
    (∃ raw sources before, f ⟨entry⟩ = .ok raw ∧
      List.Forall₂ (fun name source => ∃ path, Module.path? name = some path ∧
        f path = .ok source) b.modules.reverse sources ∧
      Lua.readBlocks b.modules.length b.text =
        some (decoded b.modules.reverse sources, o.prelude.apply entry raw) ∧
      b.text = before ++ o.prelude.apply entry raw ∧
      (Text.brokenLines before).filterMap Lua.headName? = b.modules.reverse.map String.toList ∧
      (Text.brokenLines before).count "end\n".toList = b.modules.length) ∧
    ∀ (g : Path → Except LoadError (List Char)) (o' : Options) (entry' : String)
      (r₁ r₁' : Resolver) (h₁ : Ends (.ofFun g) o' entry' r₁) (b' : Bundle),
      FilledBy (.ofFun g) r₁.store → ofEntry (.ofFun g) o' entry' r₁ h₁ = (.ok b', r₁') →
      b'.modules.length = b.modules.length → b'.text = b.text →
        b'.modules = b.modules ∧
        (∀ name ∈ b.modules, ∀ path source source', Module.path? name = some path →
          f path = .ok source → g path = .ok source' →
            Text.lines source = Text.lines source') ∧
        ∀ raw raw', f ⟨entry⟩ = .ok raw → g ⟨entry'⟩ = .ok raw' →
          o.prelude.apply entry raw = o'.prelude.apply entry' raw' := by
  obtain ⟨raw, sources, before, hraw, hsources, hread, hbefore⟩ := exists_readBlocks_text hs hb
  refine ⟨nodup_modules hb, ⟨raw, sources, before, hraw, ?_, hread, hbefore⟩, ?_⟩
  · exact hsources.imp fun _ _ ⟨path, _, hpath, hload⟩ => ⟨path, hpath, hload⟩
  · intro g o' entry' r₁ r₁' h₁ b' hs' hb' hlength htext
    obtain ⟨raw', sources', -, hraw', hsources', hread', -⟩ := exists_readBlocks_text hs' hb'
    rw [hlength, htext, hread, Option.some.injEq, Prod.mk.injEq] at hread'
    obtain ⟨hnames, hlines⟩ := decoded_inj hsources hsources' hread'.1
    refine ⟨(List.reverse_injective hnames).symm, fun name hname => ?_, ?_⟩
    · exact hlines name (List.mem_reverse.2 hname)
    · intro x x' hx hx'
      obtain rfl := Except.ok.inj (hx.symm.trans hraw)
      obtain rfl := Except.ok.inj (hx'.symm.trans hraw')
      exact hread'.2

/-- A body with a line `end`, an empty line and the head of a block in it, and a name with a
line feed: the blocks are read nevertheless, and the loader that has other line ends gives
the same lines. -/
theorem readBlocks_text_of_awkward_modules :
    let text := "require'x\"y'end\n".toList
    let head := "package.preload[\"z\"] = package.preload[\"z\"] or function()".toList
    let source := "end\r\n\n".toList ++ head ++ "\r\nend".toList
    let source' := "end\n\n".toList ++ head ++ "\nend\n".toList
    let files := fun source => [(⟨"main.lua"⟩, text), (⟨"x\"y.lua"⟩, source), (⟨"a\nb.lua"⟩, [])]
    let l := Loader.ofFiles (files source)
    let l' := Loader.ofFiles (files source')
    let o : Options := { extensionPoint := some "x\"y", extras := ["a\nb"] }
    let r₀ : Resolver := { store := .empty }
    let r := (r₀.resolve l "a\nb").2
    let b : Bundle := ⟨Lua.register "a\nb" [] ++ ['\n', '\n'] ++ Lua.register "x\"y" source ++
      ['\n', '\n'] ++ text, ["x\"y", "a\nb"], []⟩
    ∃ h h', (ofEntry l o "main.lua" r h).1 = .ok b ∧ (ofEntry l' o "main.lua" r₀ h').1 = .ok b ∧
      b.modules.Nodup ∧
      Lua.readBlocks 2 b.text =
        some ([("a\nb".toList, []), ("x\"y".toList, ["end".toList, [], head, "end".toList])],
          text) ∧
      Text.lines source = Text.lines source' := by
  intro text head source source' files l l' o r₀ r b
  have h : Ends l o "main.lua" r := ends_of_finite o "main.lua" (Loader.finite_ofFiles _) r
  have h' : Ends l' o "main.lua" r₀ := ends_of_finite o "main.lua" (Loader.finite_ofFiles _) r₀
  have hb : (ofEntry l o "main.lua" r h).1 = .ok b :=
    ofEntry_fst_eq_after h rfl 2 (by decide +kernel)
  have hb' : (ofEntry l' o "main.lua" r₀ h').1 = .ok b :=
    ofEntry_fst_eq_after h' rfl 2 (by decide +kernel)
  have hs : FilledBy l r.store := .resolve "a\nb" .empty
  obtain ⟨hnodup, -, hunique⟩ := readBlocks_text hs (Prod.ext hb rfl)
  obtain ⟨-, hlines, -⟩ := hunique _ o "main.lua" r₀ _ h' b .empty (Prod.ext hb' rfl) rfl rfl
  exact ⟨h, h', hb, hb', hnodup, by decide +kernel,
    hlines "x\"y" (by decide) ⟨"x\"y.lua"⟩ source source' (by decide +kernel) rfl rfl⟩

end Bundle
end LuaBundler
