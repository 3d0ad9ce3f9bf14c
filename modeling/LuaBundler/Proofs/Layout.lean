/-
# What the finished layout keeps

Each region of a text is scanned on its own when its layout is finished.  So the result has
the characters of the text without its comments, white space aside, if the scan of the whole
text passes the two ends of the plugin's region outside all strings and comments
(`nonBlank_layout`).

The region is found by looking at lines only, and the condition can fail: the lines
`function plugindef` and `end` may lie in a comment or in a string.  Then commented text
comes back, or a part of a string is lost (`layout_mixes_comments_and_strings`).
-/

import LuaBundler.Bundle.Layout
import LuaBundler.Proofs.Regions
import LuaBundler.Proofs.Tidying

namespace LuaBundler
namespace Bundle

open Lua Text

/-- The characters of a finished text are those of its regions without comments. -/
theorem nonBlank_layout_regions (s : List Char) :
    nonBlank (layout true s) =
      nonBlank (removeComments (splitRegions s).prolog ++
        removeComments (splitRegions s).plugin ++ removeComments (splitRegions s).epilog) := by
  simp only [layout, if_true, nonBlank_append, nonBlank_tidy]

/-- A text loses its comments as its regions do, if its scan passes between them. -/
theorem removeComments_regions {s : List Char} (hprolog : Passes s (splitRegions s).prolog)
    (hplugin : Passes s ((splitRegions s).prolog ++ (splitRegions s).plugin)) :
    removeComments (splitRegions s).prolog ++ removeComments (splitRegions s).plugin ++
      removeComments (splitRegions s).epilog = removeComments s := by
  have htext := regions_append s
  generalize (splitRegions s).prolog = p at *
  generalize (splitRegions s).plugin = q at *
  generalize (splitRegions s).epilog = e at *
  rw [List.append_assoc] at htext
  subst htext
  rw [removeComments_append hprolog, removeComments_append (hprolog.drop hplugin),
    List.append_assoc]

/-- **Finishing the layout takes away comments and white space only**, if the scan of the
text passes both ends of the plugin's region outside all strings and comments. -/
theorem nonBlank_layout {s : List Char} (hprolog : Passes s (splitRegions s).prolog)
    (hplugin : Passes s ((splitRegions s).prolog ++ (splitRegions s).plugin)) :
    nonBlank (layout true s) = nonBlank (removeComments s) := by
  rw [nonBlank_layout_regions, removeComments_regions hprolog hplugin]

/-- A comment ends before the region and a string stands in it: both stay what they are. -/
theorem nonBlank_layout_of_commented_plugin :
    let s := "--[[\nfunction plugin\n]]\nfunction plugindef()\n  return '--x' --y\nend\n--z".toList
    Passes s (splitRegions s).prolog ∧
      Passes s ((splitRegions s).prolog ++ (splitRegions s).plugin) ∧
      nonBlank (layout true s) = nonBlank (removeComments s) ∧
      nonBlank (removeComments s) = "functionplugindef()return'--x'end".toList := by
  intro s
  have hprolog : Passes s (splitRegions s).prolog := by decide +kernel
  have hplugin : Passes s ((splitRegions s).prolog ++ (splitRegions s).plugin) := by
    decide +kernel
  exact ⟨hprolog, hplugin, nonBlank_layout hprolog hplugin, by decide +kernel⟩

/-- **Comments come back and strings are cut** where the region begins inside of one.  In
the first text the lines of the region lie in a block comment, and in the second in a long
string. -/
theorem layout_mixes_comments_and_strings :
    let s := "--[[\nfunction plugindef()\n]]\nend\n".toList
    let t := "x = [[\nfunction plugindef()\n-- y\nend\n]]".toList
    layout true s = "function plugindef()\n]]\nend\n".toList ∧
      removeComments s = "\nend\n".toList ∧
      layout true t = "x = [[function plugindef()\n\nend\n]]".toList ∧ removeComments t = t ∧
      nonBlank (layout true s) ≠ nonBlank (removeComments s) ∧
      nonBlank (layout true t) ≠ nonBlank (removeComments t) := by
  decide +kernel

end Bundle
end LuaBundler
