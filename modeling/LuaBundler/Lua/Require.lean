/-
# The modules a script requires

A script names the modules it needs in calls `require("name")`, `require 'name'`
and `require [[name]]`.  `imports` finds these calls in the text, wherever they
stand, and returns the names in the order of the text, with repetitions.

A call is the word `require`, not preceded by a word character, then at most one
opening parenthesis with blanks on either side, then a literal: a nonempty run
of characters between two equal quotes, or between `[[` and `]]`, in which
neither a line end nor the closing quote or bracket occurs.  The calls are read
from left to right and do not overlap.
-/

import LuaBundler.Text.Blank
import LuaBundler.Text.WordChar

namespace LuaBundler
namespace Lua

/-- A character that may stand in the argument of a call which `close` ends. -/
def isArgumentChar (close c : Char) : Bool := c != close && c != '\r' && c != '\n'

/-- The argument a text begins with, and the text behind its closing mark. -/
def argument? : List Char → Option (List Char × List Char)
  | '"' :: r => literal? '"' ['"'] r
  | '\'' :: r => literal? '\'' ['\''] r
  | '[' :: '[' :: r => literal? ']' [']', ']'] r
  | _ => none
where
  /-- A nonempty run of characters other than `close`, with `mark` behind it. -/
  literal? (close : Char) (mark r : List Char) : Option (List Char × List Char) :=
    match r.takeWhile (isArgumentChar close) with
    | [] => none
    | x => (mark.isPrefixOf? (r.dropWhile (isArgumentChar close))).map (x, ·)

/-- A text without the opening parenthesis it may begin with. -/
def dropParen : List Char → List Char
  | '(' :: r => r
  | s => s

/-- The argument of the call a text begins with, and the text behind the literal. -/
def call? (s : List Char) : Option (List Char × List Char) :=
  match "require".toList.isPrefixOf? s with
  | some r =>
    argument? ((dropParen (r.dropWhile Text.isBlank)).dropWhile Text.isBlank)
  | none => none

theorem length_dropParen_le (s : List Char) : (dropParen s).length ≤ s.length := by
  unfold dropParen; split <;> simp

theorem length_argument?_le {s x rest : List Char} (h : argument? s = some (x, rest)) :
    rest.length ≤ s.length := by
  have literal : ∀ {close mark r}, argument?.literal? close mark r = some (x, rest) →
      rest.length ≤ r.length := by
    intro close mark r h
    unfold argument?.literal? at h
    split at h
    · simp at h
    · obtain ⟨t, ht, he⟩ := Option.map_eq_some_iff.1 h
      have := congrArg List.length (Text.isPrefixOf?_eq_some_iff.1 ht)
      have := Text.length_dropWhile_le (isArgumentChar close) r
      simp only [Prod.mk.injEq] at he
      simp only [List.length_append, he.2] at *
      omega
  unfold argument? at h
  split at h
  · have := literal h; simp only [List.length_cons]; omega
  · have := literal h; simp only [List.length_cons]; omega
  · have := literal h; simp only [List.length_cons]; omega
  · simp at h

/-- Behind a call there is less text than before it. -/
theorem length_call?_lt {s x rest : List Char} (h : call? s = some (x, rest)) :
    rest.length < s.length := by
  unfold call? at h
  split at h
  · next r hr =>
    have h1 := length_argument?_le h
    have h2 := Text.length_dropWhile_le Text.isBlank (dropParen (r.dropWhile Text.isBlank))
    have h3 := length_dropParen_le (r.dropWhile Text.isBlank)
    have h4 := Text.length_dropWhile_le Text.isBlank r
    have h5 := congrArg List.length (Text.isPrefixOf?_eq_some_iff.1 hr)
    have h6 : "require".toList.length = 7 := by decide
    simp only [List.length_append, h6] at h5
    omega
  · simp at h

/-- The call a text begins with, if no word character stands directly before it. -/
def callAt? (inWord : Bool) (s : List Char) : Option (List Char × List Char) :=
  if inWord then none else call? s

theorem length_callAt?_lt {inWord : Bool} {s x rest : List Char}
    (h : callAt? inWord s = some (x, rest)) : rest.length < s.length := by
  unfold callAt? at h
  split at h
  · simp at h
  · exact length_call?_lt h

/-- The arguments of the calls in a text, as they are written.  `inWord` tells
whether a word character stands directly before the text. -/
def arguments (inWord : Bool) (s : List Char) : List (List Char) :=
  match s with
  | [] => []
  | c :: r =>
    match _found : callAt? inWord (c :: r) with
    | some (x, rest) => x :: arguments false rest
    | none => arguments (Text.isWordChar c) r
termination_by s.length
decreasing_by
  · exact length_callAt?_lt ‹_›
  · simp

/-- The names of the modules a script requires.  Blanks around a name do not
count, and a name that is all blank is no name. -/
def imports (s : List Char) : List String :=
  (((arguments false s).map Text.trim).filter (· ≠ [])).map String.ofList

/-- An argument that is not all blank names a module, blanks at its ends aside. -/
theorem trim_mem_imports {s v : List Char} (h : v ∈ arguments false s)
    (hv : Text.isAllBlank v = false) : String.ofList (Text.trim v) ∈ imports s := by
  have hne : Text.trim v ≠ [] := by
    rw [Ne, Text.trim_eq_nil_iff, hv]
    exact Bool.false_ne_true
  refine List.mem_map_of_mem (List.mem_filter.2 ⟨List.mem_map_of_mem h, ?_⟩)
  exact decide_eq_true hne

/-- The names that a script requires have no blanks at their ends. -/
theorem trim_of_mem_imports {s : List Char} {name : String} (h : name ∈ imports s) :
    Text.trim name.toList = name.toList := by
  obtain ⟨x, hx, rfl⟩ := List.mem_map.1 h
  obtain ⟨v, -, rfl⟩ := List.mem_map.1 (List.mem_filter.1 hx).1
  rw [String.toList_ofList, Text.trim_trim]

end Lua
end LuaBundler
