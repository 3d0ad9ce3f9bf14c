/-
# Preludes

A prelude is a text placed above every entry script, on lines of its own.  In it
`{script}` stands for the name of the entry, escaped so that it can be written
between quotes.  A prelude of blanks alone is no prelude.
-/

import LuaBundler.Lua.Quoted
import LuaBundler.Text.Blank

namespace LuaBundler

/-- What is placed above an entry, if anything. -/
structure EntryPrelude where
  text? : Option (List Char)
  deriving DecidableEq, Repr

namespace EntryPrelude

/-- Nothing is placed above the entry. -/
def none : EntryPrelude := ⟨.none⟩

/-- The prelude with a given text. -/
def ofText (s : List Char) : EntryPrelude :=
  if Text.isAllBlank s then none else ⟨some s⟩

/-- Entries stay as they are. -/
def isIdentity (p : EntryPrelude) : Bool := p.text?.isNone

/-- The part of a prelude that stands for the entry's name. -/
def placeholder : List Char := "{script}".toList

/-- A text with `name` in place of each placeholder, from left to right. -/
def expand (name : List Char) (s : List Char) : List Char :=
  match s with
  | [] => []
  | c :: r =>
    match _found : placeholder.isPrefixOf? (c :: r) with
    | some rest => name ++ expand name rest
    | .none => c :: expand name r
termination_by s.length
decreasing_by
  · have h := congrArg List.length (Text.isPrefixOf?_eq_some_iff.1 ‹_›)
    have h8 : placeholder.length = 8 := by decide
    simp only [List.length_append, h8] at h
    omega
  · simp

/-- The text of an entry with the prelude above it.  Line feeds that the prelude
ends in are replaced by a single one. -/
def apply (p : EntryPrelude) (entry : String) (contents : List Char) : List Char :=
  match p.text? with
  | .none => contents
  | some s =>
    Text.dropEndWhile (· == '\n') (expand (Lua.escape entry.toList) s) ++ '\n' :: contents

end EntryPrelude
end LuaBundler
