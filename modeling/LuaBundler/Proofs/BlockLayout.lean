/-
# The layout of a bundle, block by block

A finished bundle is its finished blocks and the finished entry behind them
(`layout_text`), if in each registration, scanned on its own, the last line is code
(`EndsInCode`).  Then no string or comment of a block goes on into the next one
(`EndsInCode.segments_append`), nothing in a block opens or closes the region of the plugin
(`splitRegions_registrations_append`), and of the blank line between two blocks nothing is
left but the end of the line before it.
-/

import LuaBundler.Bundle.Layout
import LuaBundler.Proofs.Blocks
import LuaBundler.Proofs.Tidying

namespace LuaBundler

namespace Lua

variable {w : List Char}

/-- The scan of a text comes to an `end` at the end of it, outside all strings and
comments. -/
def EndsInCode (w : List Char) : Prop := [.code 'e', .code 'n', .code 'd'] <:+ segments w

instance (w : List Char) : Decidable (EndsInCode w) :=
  inferInstanceAs (Decidable (_ <:+ _))

/-- A code character is read from a text that begins with it. -/
theorem segments_end_append (y : List Char) :
    segments ("end\n".toList ++ y) =
      .code 'e' :: .code 'n' :: .code 'd' :: .code '\n' :: segments y := by
  simp [segments, readSegment]

/-- **The scan of a text that ends in code starts afresh behind its last line.** -/
theorem EndsInCode.segments_append (h : EndsInCode w) (y : List Char) :
    segments (w ++ '\n' :: y) = segments w ++ .code '\n' :: segments y := by
  obtain ⟨ss, hss⟩ := h
  obtain ⟨rest, hreads, hrest⟩ := reads_of_segments_eq hss.symm
  obtain rfl : rest = "end".toList := by
    rw [← flatMap_text_segments rest, hrest]
    rfl
  have hseparates : Separates "end".toList := ⟨'e', by decide, by decide, by decide⟩
  have hall := (hreads.append hseparates ('\n' :: y)).segments_eq
  have hend : "end".toList ++ '\n' :: y = "end\n".toList ++ y := rfl
  rw [hall, ← hss, hend, segments_end_append, List.append_assoc]
  rfl

/-- The last line of a text that ends in code is not blank. -/
theorem EndsInCode.exists_codeLines (h : EndsInCode w) :
    ∃ ls l, codeLines (segments w) = ls ++ [l] ∧ Text.trimEnd l ≠ [] := by
  obtain ⟨ss, hss⟩ := h
  obtain ⟨ls, l, -, hlines⟩ := exists_codeLines_append ss [.code 'e', .code 'n', .code 'd']
  have hend : Text.trimEnd "end".toList ≠ [] := by decide
  refine ⟨ls, l ++ "end".toList, ?_, ?_⟩
  · rw [← hss, hlines]
    rfl
  · rw [Text.trimEnd_append, if_neg hend]
    exact List.append_ne_nil_of_right_ne_nil l hend

/-- **A block is tidied on its own.** -/
theorem EndsInCode.tidy_append (h : EndsInCode w) (y : List Char) :
    tidy (w ++ '\n' :: '\n' :: y) = tidy w ++ '\n' :: tidy y := by
  obtain ⟨ls, l, hlines, hl⟩ := h.exists_codeLines
  have hne := codeLines_ne_nil (segments y)
  calc tidy (w ++ '\n' :: '\n' :: y)
      = joinTidy (codeLines (segments w) ++ ([[]] ++ codeLines (segments y))) := by
        rw [tidy, h.segments_append, codeLines_append_break, segments_break]
        rfl
    _ = (codeLines (segments w)).flatMap tidyLine ++ tidy y := by
        rw [joinTidy_append _ (by simp), joinTidy_append _ hne]
        rfl
    _ = tidy w ++ '\n' :: tidy y := by
        rw [hlines, ← joinTidy_concat ls hl, ← hlines, List.append_assoc]
        rfl

/-- Blocks are tidied one by one. -/
theorem tidy_flatMap_append {ws : List (List Char)} (h : ∀ w ∈ ws, EndsInCode w)
    (y : List Char) :
    tidy (ws.flatMap (· ++ ['\n', '\n']) ++ y) =
      ws.flatMap (fun w => tidy w ++ ['\n']) ++ tidy y := by
  induction ws with
  | nil => rfl
  | cons w ws ih =>
    have hrest := ih fun w hw => h w (List.mem_cons_of_mem _ hw)
    simp only [List.flatMap_cons, List.append_assoc, List.cons_append, List.nil_append] at hrest ⊢
    rw [(h w List.mem_cons_self).tidy_append, hrest]

end Lua

namespace Bundle

variable {l : Loader} {o : Options} {entry : String} {r r' : Resolver} {b : Bundle}

/-- **Blocks that end in code are finished one by one.** -/
theorem layout_registrations_append {names : List String} {sources : List (List Char)}
    (hend : ∀ w ∈ registrations names sources, Lua.EndsInCode w) (s : List Char) :
    layout true ((registrations names sources).flatMap (· ++ ['\n', '\n']) ++ s) =
      (registrations names sources).flatMap (fun w => Lua.tidy w ++ ['\n']) ++
        layout true s := by
  simp only [layout, if_true, splitRegions_registrations_append, Lua.tidy_flatMap_append hend,
    List.append_assoc]

/-- **A finished bundle is its finished blocks and the finished entry**, whatever the store
held before, as long as it was filled by resolving and bundling.  If the last line of each
registration, scanned on its own, is code, then each block is tidied on its own, with one
line feed behind it, and the entry has the layout that it has alone. -/
theorem layout_text (hs : FilledBy l r.store) {h : Ends l o entry r}
    (hb : ofEntry l o entry r h = (.ok b, r')) :
    ∃ raw blocks, l.load r.requests ⟨entry⟩ = .ok raw ∧
      b.modules.reverse.map (fun n => (r'.store.get? n).map Module.wrapped) = blocks.map some ∧
      b.text = ['\n', '\n'].intercalate (blocks ++ [o.prelude.apply entry raw]) ∧
      ((∀ w ∈ blocks, Lua.EndsInCode w) →
        layout true b.text = blocks.flatMap (fun w => Lua.tidy w ++ ['\n']) ++
          layout true (o.prelude.apply entry raw)) := by
  obtain ⟨raw, sources, hl, -, hstored, htext⟩ := exists_blocks hs hb
  refine ⟨raw, _, hl, hstored, htext, fun hend => ?_⟩
  rw [htext, intercalate_concat]
  exact layout_registrations_append hend _

/-- Comments and strings that hold the marks of the plugin's region and of each other stand in
two modules, and the region itself stands in the entry: the blocks are finished one by one. -/
theorem layout_text_of_two_modules :
    let text := "require'x'require'y'\nfunction plugindef()\n\n--[[a]]end\nend\n".toList
    let x := "--[[\nfunction plugindef()\n]]\nreturn[[\n--]]".toList
    let y := "return'a\\\n-- b'\r\nend".toList
    let l := Loader.ofFiles [(⟨"main.lua"⟩, text), (⟨"x.lua"⟩, x), (⟨"y.lua"⟩, y)]
    let r := (({ store := .empty } : Resolver).resolve l "x").2
    let blocks := [Lua.register "x" x, Lua.register "y" y]
    ∃ h b r', ofEntry l {} "main.lua" r h = (.ok b, r') ∧
      (∀ w ∈ blocks, Lua.EndsInCode w) ∧
      layout true b.text =
        blocks.flatMap (fun w => Lua.tidy w ++ ['\n']) ++ layout true text := by
  intro text x y l r blocks
  have h : Ends l {} "main.lua" r := ends_of_finite {} "main.lua" (Loader.finite_ofFiles _) r
  have hl : l.load r.requests ⟨"main.lua"⟩ = .ok text := rfl
  let w := (start {} "main.lua" text (r.ask l ⟨"main.lua"⟩).2).after l {} "main.lua" 2
  have hw : w.pending = [] ∧
      w.visited.map (fun n => (w.resolver.store.get? n).map Module.wrapped) =
        blocks.map some := by decide +kernel
  have hb := ofEntry_eq_after h hl 2 hw.1
  have hend : ∀ w ∈ blocks, Lua.EndsInCode w := by decide +kernel
  obtain ⟨raw, blocks', hraw, hstored, -, hlayout⟩ := layout_text (.resolve "x" .empty) hb
  obtain rfl := Except.ok.inj (hl.symm.trans hraw)
  obtain rfl : blocks = blocks' := by
    rw [ofWalk, List.reverse_reverse] at hstored
    exact (List.map_inj_right fun _ _ => Option.some.inj).1 (hw.2.symm.trans hstored)
  exact ⟨h, _, _, hb, hend, hlayout hend⟩

end Bundle
end LuaBundler
