/-
# Removing comments

`removeComments` leaves a text's code and string literals and takes its comments
away.  `tidy` does that and cleans the layout too: it takes the blanks off the
end of each line and drops the lines on which nothing is left.  Its lines end at
the line feeds of the code; a line feed inside a string literal is part of the
literal, so the literal's own layout stays as it was.
-/

import LuaBundler.Lua.Segment
import LuaBundler.Text.Blank

namespace LuaBundler
namespace Lua

/-- The characters of a segment that stay when comments go. -/
def Segment.kept (s : Segment) : List Char := if s.isComment then [] else s.text

/-- A text without its comments. -/
def removeComments (s : List Char) : List Char := (segments s).flatMap Segment.kept

/-- The text without comments, cut at the line feeds of its code. -/
def codeLines : List Segment → List (List Char)
  | [] => [[]]
  | s :: r =>
    if s = .code '\n' then [] :: codeLines r
    else (codeLines r).modifyHead (s.kept ++ ·)

/-- A trimmed line with its line feed, or nothing if the line is blank. -/
def tidyLine (l : List Char) : List Char :=
  match Text.trimEnd l with
  | [] => []
  | t => t ++ ['\n']

/-- The trimmed lines that are not blank.  The last line has no line feed. -/
def joinTidy : List (List Char) → List Char
  | [] => []
  | [l] => Text.trimEnd l
  | l :: ls => tidyLine l ++ joinTidy ls

/-- A text without its comments, the blanks its lines end in and its blank lines. -/
def tidy (s : List Char) : List Char := joinTidy (codeLines (segments s))

end Lua
end LuaBundler
