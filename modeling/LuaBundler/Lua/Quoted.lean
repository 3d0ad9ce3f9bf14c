/-
# Escapes in quoted strings

`escape` writes a text so that it can stand between two double quotes or two
single quotes of Lua source on one line: both quotes and the backslash get a
backslash before them, line feed and carriage return become `\n` and `\r`.
-/

namespace LuaBundler
namespace Lua

/-- How a character is written inside a quoted string. -/
def escapeChar (c : Char) : List Char :=
  if c = '\n' then ['\\', 'n']
  else if c = '\r' then ['\\', 'r']
  else if c = '"' ∨ c = '\'' ∨ c = '\\' then ['\\', c]
  else [c]

/-- How a text is written inside a quoted string. -/
def escape (s : List Char) : List Char := s.flatMap escapeChar

@[simp] theorem escape_nil : escape [] = [] := rfl

@[simp] theorem escape_cons (c : Char) (s : List Char) :
    escape (c :: s) = escapeChar c ++ escape s := rfl

/-- An escaped text is part of one line. -/
theorem not_break_of_mem_escape {s : List Char} {c : Char} (h : c ∈ escape s) :
    c ≠ '\n' ∧ c ≠ '\r' := by
  obtain ⟨d, -, hd⟩ := List.mem_flatMap.1 h
  unfold escapeChar at hd
  repeat' split at hd
  all_goals simp only [List.mem_cons, List.not_mem_nil, or_false] at hd
  · rcases hd with rfl | rfl <;> decide
  · rcases hd with rfl | rfl <;> decide
  · rcases hd with rfl | rfl
    · decide
    · exact ⟨by assumption, by assumption⟩
  · exact hd ▸ ⟨by assumption, by assumption⟩

end Lua
end LuaBundler
