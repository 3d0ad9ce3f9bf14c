/-
# Lines

A line feed ends a line.  `brokenLines` cuts a text into its lines, each with
the line feed that ends it; only the last one may lack it, and the lines put
together again are the text (`flatten_brokenLines`).  `lines` gives the lines
without their ends, where an end is a line feed together with one carriage
return directly before it.
-/

import LuaBundler.Text.Ends

namespace LuaBundler
namespace Text

/-- The lines of a text, each with its line feed. -/
def brokenLines : List Char → List (List Char)
  | [] => []
  | c :: r =>
    if c = '\n' then ['\n'] :: brokenLines r
    else match brokenLines r with
      | [] => [[c]]
      | l :: ls => (c :: l) :: ls

/-- No character is lost between the lines. -/
theorem flatten_brokenLines (s : List Char) : (brokenLines s).flatten = s := by
  induction s with
  | nil => rfl
  | cons c r ih =>
    simp only [brokenLines]
    split
    · next h => simp [h, ih]
    · split
      · next h => simp [h] at ih; simp [← ih]
      · next l ls h => simp [h] at ih; simp [← ih]

/-- A line without its end: the line feed, and one carriage return before it.
A line that no line feed ends is left alone, its carriage returns included. -/
def withoutBreak (l : List Char) : List Char :=
  if l.getLast? = some '\n' then
    let body := l.dropLast
    if body.getLast? = some '\r' then body.dropLast else body
  else l

/-- The lines of a text, without their ends. -/
def lines (s : List Char) : List (List Char) := (brokenLines s).map withoutBreak

/-- A line without all the carriage returns and line feeds it ends in. -/
def withoutBreaks (l : List Char) : List Char :=
  dropEndWhile (fun c => c == '\n' || c == '\r') l

end Text
end LuaBundler
