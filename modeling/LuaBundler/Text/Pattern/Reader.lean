/-
# Written patterns

`Pattern.ofText?` reads the usual notation of patterns.

| written | stands for |
| --- | --- |
| `a` | that character |
| `.` | any character but a line feed |
| `[...]` | a class in brackets |
| `\...` | an escape |
| `^` `$` | the start and the end of the text |
| `pq` | `p` followed by `q` |
| `p|q` | `p` or `q` |
| `p?` `p*` `p+` | `p` at most once, any number of times, at least once |
| `p{2}` `p{2,}` `p{2,5}` | `p` so many times |
| `(p)` `(?<name>p)` | `p` as a piece with a number, and perhaps a name |
| `(?:p)` | `p` |
| `(?i)` `(?i-m:p)` | other modes up to the end of the group, or for `p` |

A `?` behind a repetition makes it prefer fewer pieces.  A text that is no pattern, that
is nested too deeply or whose pattern is too large is refused.
-/

import LuaBundler.Text.Pattern.Bracket
import LuaBundler.Text.Pattern.Size

namespace LuaBundler
namespace Text
namespace Pattern

/-- What a pattern is made of. -/
inductive Token
  /-- A group begins, in the mode `m`. -/
  | opening (m : Mode)
  /-- A group with a number begins. -/
  | numbered (name : Option (List Char))
  | closing
  /-- The mode changes up to the end of the group. -/
  | mode (m : Mode)
  | bar
  | part (p : Pattern) (depth : Nat)
  | times (least : Nat) (most : Option Nat) (eager : Bool)

/-! ## Groups and modes -/

/-- The letters that change the mode; the hyphen switches the ones behind it off. -/
def modeLetters : List Char := ['i', 'm', 's', 'U', 'R', 'u', 'x', '-']

/-- The mode that letters give. -/
def Mode.ofLetters? (m : Mode) (letters : List Char) : Option Mode :=
  if letters.all (· ∈ modeLetters) ∧ letters.Nodup ∧ letters.getLast? ≠ some '-' then
    let on := (letters.takeWhile (· != '-')).foldl (fun m c => m.switch true c) m
    some ((letters.dropWhile (· != '-')).foldl (fun m c => m.switch false c) on)
  else none

/-- A character that the name of a group may begin with. -/
def isNameStart (c : Char) : Bool := c == '_' || Unicode.Property.alphabetic.contains c

/-- A character that the name of a group may have behind its first. -/
def isNameChar (c : Char) : Bool :=
  isNameStart c || c == '.' || c == '[' || c == ']' || Unicode.Category.number.contains c

/-- The start of a group with a name, read from behind `<`. -/
def namedGroup? (s : List Char) : Option (Token × List Char) :=
  match s.dropWhile (· != '>') with
  | [] => none
  | _ :: rest =>
    match s.takeWhile (· != '>') with
    | [] => none
    | c :: r =>
      if isNameStart c ∧ r.all isNameChar then some (.numbered (some (c :: r)), rest) else none

/-- A change of the mode, or the start of a group in another mode, read from behind
`(?`. -/
def modeChange? (m : Mode) (s : List Char) : Option (Token × List Char) := do
  let ends (c : Char) : Bool := c == ':' || c == ')'
  let letters := s.takeWhile (!ends ·)
  let changed ← m.ofLetters? letters
  match s.dropWhile (!ends ·) with
  | ':' :: r => return (.opening changed, r)
  | ')' :: r => if letters = [] then none else return (.mode changed, r)
  | _ => none

/-- What an opening parenthesis begins, read from behind it. -/
def opening? (m : Mode) (s : List Char) : Option (Token × List Char) :=
  match m.skip s with
  | '?' :: 'P' :: '<' :: r => namedGroup? r
  | '?' :: '<' :: r => namedGroup? r
  | '?' :: r => modeChange? m r
  | r => some (.numbered none, r)

/-! ## Repetitions -/

/-- The first number that is too large to count repetitions: it takes more than 32 bits. -/
def countLimit : Nat := 65536 * 65536

/-- A number, and what follows it.  Blanks around it never count. -/
def count? (m : Mode) (s : List Char) : Option (Nat × List Char) :=
  let (digits, rest) := m.span Char.isDigit (s.dropWhile isBlank)
  let n := digits.foldl (fun n c => 10 * n + (c.toNat - '0'.toNat)) 0
  if digits = [] ∨ countLimit ≤ n then none else some (n, (m.span isBlank rest).2)

/-- A repetition, read from behind it up to the question mark that may follow it. -/
def preferring (m : Mode) (least : Nat) (most : Option Nat) : List Char → Token × List Char
  | '?' :: r => (.times least most m.lazy, r)
  | r => (.times least most !m.lazy, r)

/-- A repetition in braces, read from behind the opening one. -/
def counts? (m : Mode) (s : List Char) : Option (Token × List Char) := do
  let (least, r) ← count? m (m.skip s)
  match r with
  | '\x7d' :: r => return preferring m least (some least) (m.skip r)
  | ',' :: r =>
    match m.skip r with
    | '\x7d' :: r => return preferring m least none (m.skip r)
    | r =>
      match ← count? m r with
      | (most, '\x7d' :: r) =>
        if least ≤ most then return preferring m least (some most) (m.skip r) else none
      | _ => none
  | _ => none

/-! ## Parts -/

/-- The pattern of an escape. -/
def ofEscape (m : Mode) : Escape → Pattern
  | .char c => m.ofChar c
  | .chars s => ofSet s
  | .place p => place p

/-- The next part of a pattern, and what follows it. -/
def token? (m : Mode) : List Char → Option (Token × List Char)
  | [] => none
  | '(' :: r => opening? m r
  | ')' :: r => some (.closing, r)
  | '|' :: r => some (.bar, r)
  | '?' :: r => some (preferring m 0 (some 1) r)
  | '*' :: r => some (preferring m 0 none r)
  | '+' :: r => some (preferring m 1 none r)
  | '\x7b' :: r => counts? m r
  | '[' :: r => (Bracket.ofText? m r).map fun p => (.part (ofSet p.1.chars) p.1.depth, p.2)
  | '\\' :: r => (Escape.read? m r).map fun p => (.part (ofEscape m p.1) 0, p.2)
  | '.' :: r => m.anyChar?.map fun s => (.part (ofSet s) 0, r)
  | '^' :: r => some (.part (place m.start) 0, r)
  | '$' :: r => some (.part (place m.finish) 0, r)
  | c :: r => some (.part (m.ofChar c) 0, r)

/-! ## The whole -/

/-- A part of a pattern as it is written. -/
structure Part where
  /-- A change of the mode is a part too, but stands for nothing and is not repeated. -/
  pattern : Option Pattern
  /-- How deep it is nested. -/
  depth : Nat

/-- How deep parts are nested that stand for one thing, if there are several. -/
def depthOf (depths : List Nat) : Nat :=
  match depths with
  | [] => 0
  | [n] => n
  | n :: ns => ns.foldl max n + 1

/-- What has been read of a group. -/
structure Group where
  /-- The number of the group, if it has one. -/
  number : Option Nat := none
  /-- The branches before the last bar, latest first, and how deep they are nested. -/
  branches : List (Pattern × Nat) := []
  /-- The parts behind the last bar, latest first. -/
  parts : List Part := []

namespace Group

/-- The branches up to the end, latest first. -/
def allBranches (g : Group) : List (Pattern × Nat) :=
  (row (g.parts.filterMap (·.pattern)).reverse, depthOf (g.parts.map (·.depth))) :: g.branches

/-- The pattern of what stands in the group. -/
def content (g : Group) : Pattern := choose (g.allBranches.map (·.1)).reverse

/-- How deep what stands in the group is nested. -/
def depth (g : Group) : Nat := depthOf (g.allBranches.map (·.2))

/-- The group as a part of the pattern around it. -/
def close (g : Group) : Part where
  pattern := match g.number with
    | some n => group n g.content
    | none => g.content
  depth := g.depth + 1

/-- The group with one more part. -/
def push (g : Group) (part : Part) : Group := { g with parts := part :: g.parts }

/-- The group behind one more bar. -/
def bar (g : Group) : Group := { g with branches := g.allBranches, parts := [] }

/-- The group with its last part repeated. -/
def repeatLast? (g : Group) (least : Nat) (most : Option Nat) (eager : Bool) : Option Group :=
  match g.parts with
  | ⟨some p, depth⟩ :: parts =>
    some { g with parts := ⟨some (repeated p least most eager), depth + 1⟩ :: parts }
  | _ => none

end Group

/-- Where the reading of a pattern stands. -/
structure Reading where
  mode : Mode := {}
  group : Group := {}
  /-- The groups around this one, nearest first, each with its mode. -/
  outer : List (Mode × Group) := []
  /-- The number of groups that have a number so far. -/
  numbered : Nat := 0
  /-- The names of groups so far. -/
  names : List (List Char) := []

namespace Reading

/-- The reading at the start of a group. -/
def enter (w : Reading) (m : Mode) (g : Group) : Reading :=
  { w with mode := m, group := g, outer := (w.mode, w.group) :: w.outer }

/-- The reading behind one more part. -/
def take? (w : Reading) : Token → Option Reading
  | .opening m => some (w.enter m {})
  | .numbered name =>
    if name.any w.names.contains then none
    else
      let number := w.numbered + 1
      some { w.enter w.mode { number } with
        numbered := number, names := name.toList ++ w.names }
  | .closing =>
    match w.outer with
    | [] => none
    | (m, g) :: outer => some { w with mode := m, group := g.push w.group.close, outer }
  | .mode m => some { w with mode := m, group := w.group.push ⟨none, 0⟩ }
  | .bar => some { w with group := w.group.bar }
  | .part p depth => some { w with group := w.group.push ⟨some p, depth⟩ }
  | .times least most eager =>
    (w.group.repeatLast? least most eager).map fun g => { w with group := g }

/-- The group that is all of a pattern, read to the end. -/
def finish? (w : Reading) (s : List Char) : Option Group :=
  match w.mode.skip s with
  | [] => if w.outer.isEmpty then some w.group else none
  | t =>
    match token? w.mode t with
    | none => none
    | some (part, r) =>
      if r.length < s.length then
        match w.take? part with
        | some w => w.finish? r
        | none => none
      else none
termination_by s.length

end Reading

/-- How deep the parts of a pattern may be nested. -/
def depthLimit : Nat := 250

/-- The pattern that a text describes. -/
def ofText? (s : List Char) : Option Pattern := do
  let whole ← Reading.finish? {} s
  let p := whole.content
  if depthLimit < whole.depth ∨ p.isTooLarge then none else return p

end Pattern
end Text
end LuaBundler
