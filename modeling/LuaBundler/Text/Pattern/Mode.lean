/-
# How the parts of a pattern are meant

A pattern is written in a mode, which says whether capitals count, where a line begins
and ends, whether characters beyond ASCII belong to the named classes, and whether
blanks count.  The classes and the kinds of places that depend on the mode are defined
here.

Without regard to capitals a character stands for all that fold to the same one.
Where characters beyond ASCII do not belong to the named classes, no class may hold any
of them.
-/

import LuaBundler.Text.Blank
import LuaBundler.Text.Pattern.Form
import LuaBundler.Text.Unicode.Query
import LuaBundler.Text.Unicode.CaseFolding

namespace LuaBundler
namespace Text
namespace Pattern

/-- How the parts of a pattern are meant. -/
structure Mode where
  /-- Capital and small letters are the same. -/
  ignoreCase : Bool := false
  /-- `^` and `$` stand for the ends of lines, not of the text. -/
  multiLine : Bool := false
  /-- `.` stands for a line feed too. -/
  dotAll : Bool := false
  /-- Repetitions prefer to be short. -/
  lazy : Bool := false
  /-- A carriage return ends a line too. -/
  returns : Bool := false
  /-- Characters beyond ASCII belong to the named classes. -/
  unicode : Bool := true
  /-- Blanks in the pattern do not count. -/
  spaced : Bool := false
  deriving DecidableEq, Repr

namespace Mode

/-- The mode with the flag of a letter switched on or off. -/
def switch (m : Mode) (on : Bool) : Char → Mode
  | 'i' => { m with ignoreCase := on }
  | 'm' => { m with multiLine := on }
  | 's' => { m with dotAll := on }
  | 'U' => { m with lazy := on }
  | 'R' => { m with returns := on }
  | 'u' => { m with unicode := on }
  | 'x' => { m with spaced := on }
  | _ => m

/-! ## Blanks and remarks -/

/-- A text without the blanks and remarks it starts with.  A remark goes from `#` to
the end of its line. -/
def skipRemarks (inRemark : Bool) : List Char → List Char
  | [] => []
  | c :: r =>
    if inRemark then skipRemarks (c != '\n') r
    else if isBlank c then skipRemarks false r
    else if c = '#' then skipRemarks true r
    else c :: r

/-- What is left of a pattern without the part that does not count. -/
def skip (m : Mode) (s : List Char) : List Char := if m.spaced then skipRemarks false s else s

theorem length_skipRemarks_le (b : Bool) (s : List Char) :
    (skipRemarks b s).length ≤ s.length := by
  induction s generalizing b with
  | nil => simp [skipRemarks]
  | cons c r ih =>
    unfold skipRemarks
    split
    · exact Nat.le_succ_of_le (ih _)
    · split
      · exact Nat.le_succ_of_le (ih _)
      · split
        · exact Nat.le_succ_of_le (ih _)
        · exact Nat.le_refl _

theorem length_skip_le (m : Mode) (s : List Char) : (m.skip s).length ≤ s.length := by
  unfold skip
  split
  · exact length_skipRemarks_le _ _
  · exact Nat.le_refl _

/-- The first characters that are of a kind, and what follows them.  What does not
count may stand behind each. -/
def span (m : Mode) (p : Char → Bool) : List Char → List Char × List Char
  | [] => ([], [])
  | c :: r =>
    if p c then
      let (taken, rest) := m.span p (m.skip r)
      (c :: taken, rest)
    else ([], c :: r)
termination_by s => s.length
decreasing_by exact Nat.lt_succ_of_le (length_skip_le m r)

/-! ## Classes of characters -/

/-- The characters that count as one of a set. -/
def closed (m : Mode) (s : CharSet) : CharSet :=
  let ascii := Unicode.Category.ascii
  if ¬ m.ignoreCase then s
  else if m.unicode then Unicode.foldClosure s
  else s.union ((Unicode.foldClosure (s.inter ascii)).inter ascii)

/-- The characters outside of a set, unless the set is bound to ASCII. -/
def others? (m : Mode) (s : CharSet) : Option CharSet := if m.unicode then some s.compl else none

/-- The class that is written as a set or as what is outside of it.  What counts as one
of the set is not outside. -/
def class? (m : Mode) (negated : Bool) (s : CharSet) : Option CharSet :=
  if negated then m.others? (m.closed s) else some (m.closed s)

/-- Decimal digits. -/
def digits (m : Mode) : CharSet :=
  if m.unicode then Unicode.Category.decimalNumber else .ofTable "30-39"

/-- White space. -/
def blanks (m : Mode) : CharSet :=
  if m.unicode then Unicode.Property.whiteSpace else .ofTable "9-D 20"

/-- The characters that make up words. -/
def wordChars (m : Mode) : CharSet := if m.unicode then Text.wordChars else asciiWordChars

/-- The class that a letter behind a backslash names. -/
def named? (m : Mode) : Char → Option CharSet
  | 'd' => some m.digits
  | 's' => some m.blanks
  | 'w' => some m.wordChars
  | 'D' => m.others? m.digits
  | 'S' => m.others? m.blanks
  | 'W' => m.others? m.wordChars
  | _ => none

/-- The characters that `.` stands for. -/
def anyChar? (m : Mode) : Option CharSet :=
  m.others? (if m.dotAll then .empty else if m.returns then .ofTable "A D" else .ofTable "A")

end Mode

/-- The classes of ASCII characters that have a name. -/
def asciiClass? : String → Option CharSet
  | "alnum" => some (.ofTable "30-39 41-5A 61-7A")
  | "alpha" => some (.ofTable "41-5A 61-7A")
  | "ascii" => some (.ofTable "0-7F")
  | "blank" => some (.ofTable "9 20")
  | "cntrl" => some (.ofTable "0-1F 7F")
  | "digit" => some (.ofTable "30-39")
  | "graph" => some (.ofTable "21-7E")
  | "lower" => some (.ofTable "61-7A")
  | "print" => some (.ofTable "20-7E")
  | "punct" => some (.ofTable "21-2F 3A-40 5B-60 7B-7E")
  | "space" => some (.ofTable "9-D 20")
  | "upper" => some (.ofTable "41-5A")
  | "word" => some (.ofTable "30-39 41-5A 5F 61-7A")
  | "xdigit" => some (.ofTable "30-39 41-46 61-66")
  | _ => none

/-! ## Parts -/

namespace Mode

/-- A character, which may stand for others. -/
def ofChar (m : Mode) (c : Char) : Pattern := ofSet (m.closed (.single c))

/-- The place that `^` stands for. -/
def start (m : Mode) : Place := if m.multiLine then .lineStart m.returns else .start

/-- The place that `$` stands for. -/
def finish (m : Mode) : Place := if m.multiLine then .lineEnd m.returns else .finish

end Mode
end Pattern
end Text
end LuaBundler
