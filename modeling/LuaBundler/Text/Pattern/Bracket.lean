/-
# Classes in brackets

A class of characters can be written as what it holds, between brackets:
`[a-z_]`, `[^0-9]`, `[[:alpha:]\d]`.  What is written side by side is united, the
signs `&&`, `--` and `~~` stand for what is in both sides, in the left side alone and
in one side alone, from left to right, and brackets may stand in brackets.

A bracket or a hyphen that comes first, and a hyphen that comes last, stands for
itself.
-/

import LuaBundler.Text.Pattern.Escape

namespace LuaBundler
namespace Text
namespace Pattern

/-- A set of characters as it is written in brackets. -/
structure WrittenSet where
  chars : CharSet := .empty
  /-- The number of items side by side. -/
  items : Nat := 0
  /-- How deep the deepest item is nested. -/
  deepest : Nat := 0

namespace WrittenSet

/-- The set with one more item. -/
def add (w : WrittenSet) (s : CharSet) (depth : Nat) : WrittenSet :=
  ⟨w.chars.union s, w.items + 1, max w.deepest depth⟩

/-- How deep the set is nested.  Several items are one level deeper than they are. -/
def depth (w : WrittenSet) : Nat := if w.items ≤ 1 then w.deepest else w.deepest + 1

end WrittenSet

/-- A class of characters that has been read, and how deep it is nested. -/
structure Nested where
  chars : CharSet
  depth : Nat

/-- What has been read of a class in brackets. -/
structure Bracket where
  /-- The class holds all other characters. -/
  negated : Bool
  /-- What stands before the last sign, and what the sign does with both sides. -/
  left : Option (Nested × (CharSet → CharSet → CharSet)) := none
  /-- What stands behind the last sign. -/
  right : WrittenSet := {}

namespace Bracket

/-- The bracket with one more item. -/
def add (b : Bracket) (s : CharSet) (depth : Nat) : Bracket :=
  { b with right := b.right.add s depth }

/-- What the bracket holds, by the last sign. -/
def content (b : Bracket) (m : Mode) : Nested :=
  match b.left with
  | none => ⟨b.right.chars, b.right.depth⟩
  | some (left, join) =>
    ⟨join (m.closed left.chars) (m.closed b.right.chars), max left.depth b.right.depth + 1⟩

/-- The bracket behind one more sign. -/
def operate (b : Bracket) (m : Mode) (join : CharSet → CharSet → CharSet) : Bracket :=
  { b with left := some (b.content m, join), right := {} }

/-- The class of a bracket that is closed. -/
def close? (b : Bracket) (m : Mode) : Option Nested :=
  let content := b.content m
  (m.class? b.negated content.chars).map fun s => ⟨s, content.depth + 1⟩

/-- What a class in brackets is made of. -/
inductive Token
  | opening (b : Bracket)
  | closing
  | sign (join : CharSet → CharSet → CharSet)
  | chars (s : CharSet)

/-! ## The start of a bracket -/

/-- The bracket with the hyphens that it starts with, and what follows them. -/
def hyphens (m : Mode) (b : Bracket) (s : List Char) : Bracket × List Char :=
  let (taken, rest) := m.span (· == '-') s
  (taken.foldl (fun b c => b.add (.single c) 0) b, rest)

/-- The start of a bracket, read from behind its opening bracket. -/
def opening (m : Mode) (s : List Char) : Bracket × List Char :=
  let (negated, s) := match m.skip s with
    | '^' :: r => (true, m.skip r)
    | s => (false, s)
  match hyphens m { negated } s with
  | (b, ']' :: r) => if b.right.items = 0 then (b.add (.single ']') 0, r) else (b, ']' :: r)
  | start => start

/-- A named class of ASCII characters, read from behind its opening bracket: its set,
and whether it holds the other characters. -/
def named? : List Char → Option ((CharSet × Bool) × List Char)
  | ':' :: r =>
    let (negated, s) := match r with
      | '^' :: t => (true, t)
      | _ => (false, r)
    match s.dropWhile (· != ':') with
    | ':' :: ']' :: rest =>
      (asciiClass? (String.ofList (s.takeWhile (· != ':')))).map fun s => ((s, negated), rest)
    | _ => none
  | _ => none

/-! ## Items -/

/-- A character or an escape in brackets, and what follows it. -/
def item? (m : Mode) : List Char → Option (Escape × List Char)
  | [] => none
  | '\\' :: r => Escape.read? m r
  | c :: r => some (.char c, r)

/-- The character can stand in brackets. -/
def isAllowed (m : Mode) (c : Char) : Bool := m.unicode || c.toNat < 128

/-- The characters that an item stands for. -/
def chars? (m : Mode) : Escape → Option CharSet
  | .char c => if isAllowed m c then some (.single c) else none
  | .chars s => some s
  | .place _ => none

/-- The characters from one item to another. -/
def range? (m : Mode) : Escape → Escape → Option CharSet
  | .char c, .char d =>
    if c ≤ d ∧ isAllowed m c ∧ isAllowed m d then some (.between c d) else none
  | _, _ => none

/-- The first character behind a hyphen, by which it is told whether the hyphen makes a
range.  Where blanks do not count it is looked for beyond blanks and one `#`. -/
def behindHyphen? (m : Mode) (s : List Char) : Option Char :=
  if ¬ m.spaced then s.head?
  else
    let r := match s.dropWhile isBlank with
      | '#' :: r => r.dropWhile isBlank
      | r => r
    r.head?.or s.head?

/-- An item, or two with a hyphen between them.  The hyphen makes no range if a bracket
or a second hyphen follows. -/
def charsOrRange? (m : Mode) (s : List Char) : Option (CharSet × List Char) := do
  let (e, r) ← item? m s
  match m.skip r with
  | '-' :: t =>
    if behindHyphen? m t = some ']' ∨ behindHyphen? m t = some '-' then
      return (← chars? m e, '-' :: t)
    else
      let (f, t) ← item? m (m.skip t)
      return (← range? m e f, t)
  | r => return (← chars? m e, r)

/-! ## The whole -/

/-- The next part of a class in brackets. -/
def token? (m : Mode) (s : List Char) : Option (Token × List Char) :=
  match m.skip s with
  | '[' :: r =>
    match named? r with
    | some ((s, negated), r) => (m.class? negated s).map fun s => (.chars s, r)
    | none => some (.opening (opening m r).1, (opening m r).2)
  | ']' :: r => some (.closing, r)
  | '&' :: '&' :: r => some (.sign .inter, r)
  | '-' :: '-' :: r => some (.sign .diff, r)
  | '~' :: '~' :: r => some (.sign .symmDiff, r)
  | r => (charsOrRange? m r).map fun p => (.chars p.1, p.2)

/-- The class of the bracket `b` and what follows it, read from within it.  `outer`
holds the brackets around it, nearest first. -/
def read? (m : Mode) (outer : List Bracket) (b : Bracket) (s : List Char) :
    Option (Nested × List Char) :=
  match token? m s with
  | none => none
  | some (t, r) =>
    if r.length < s.length then
      match t with
      | .opening inner => read? m (b :: outer) inner r
      | .sign join => read? m outer (b.operate m join) r
      | .chars s => read? m outer (b.add s 0) r
      | .closing =>
        match b.close? m, outer with
        | none, _ => none
        | some content, [] => some (content, r)
        | some content, around :: outer =>
          read? m outer (around.add content.chars content.depth) r
    else none
termination_by s.length

/-- A class in brackets, read from behind its opening bracket, and what follows it. -/
def ofText? (m : Mode) (s : List Char) : Option (Nested × List Char) :=
  read? m [] (opening m s).1 (opening m s).2

end Bracket
end Pattern
end Text
end LuaBundler
