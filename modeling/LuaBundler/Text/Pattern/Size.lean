/-
# How large patterns are

A text is searched for a pattern with an automaton, which takes a step with each byte.
The size of a pattern is the memory for its states: 32 bytes for each, 8 more for each
range of bytes where a state tells several ranges apart, and 4 more for each way on
where a state has several.  A repetition by number has as many copies of what it
repeats.

The text is searched forward for the end of a piece and backward for its start, with
an automaton for each.  A pattern is too large if one of the two is.
-/

import LuaBundler.Text.Pattern.Form
import LuaBundler.Text.Utf8.Range

namespace LuaBundler
namespace Text

/-- The direction in which a text is searched. -/
inductive Direction
  | forward
  | backward
  deriving DecidableEq, Repr

namespace Pattern

/-- The memory for a state. -/
def stateSize : Nat := 32

/-- The memory for a range of bytes, where a state tells several apart. -/
def rangeSize : Nat := 8

/-- The memory for a way on, where a state has several. -/
def linkSize : Nat := 4

/-! ## Sets -/

/-- The rows that go on behind each first range of rows, which come in rising order. -/
def follow (rows : List Utf8.Row) : List (List Utf8.Row) :=
  (rows.splitBy fun r t => r.head? == t.head?).map (·.map List.tail)

/-- The rows that can be left to read on the way through rows of at most `n` ranges. -/
def stages : Nat → List Utf8.Row → List (List Utf8.Row)
  | 0, _ => []
  | n + 1, rows => rows :: ((follow rows).filter (!·.contains [])).flatMap (stages n)

/-- The size of a set.  Forward there is a state for what is left to read, so that
characters share states behind their first bytes; backward there is one for what has
been read. -/
def setSize (d : Direction) (s : CharSet) : Nat :=
  if s.isAscii then 2 * stateSize + rangeSize * s.ranges.length
  else
    let rows := s.ranges.flatMap Utf8.rows
    let stages := stages 4 rows
    match d with
    | .forward =>
      stateSize + total (stages.eraseDups.map fun r => stateSize + rangeSize * (follow r).length)
    | .backward =>
      2 * stateSize + stateSize * total (stages.map fun r => (follow r).length) +
        linkSize * rows.length

/-! ## Texts -/

/-- The bytes of a text in the order in which they are read. -/
def bytesOf (d : Direction) (s : List Char) : List UInt8 :=
  let bytes := s.flatMap String.utf8EncodeChar
  match d with
  | .forward => bytes
  | .backward => bytes.reverse

/-- The size of a choice between words of less than `n` bytes, which share states at
their beginnings.  Where a word ends, the words before it and those behind it are told
apart, so that the first that fits is found. -/
def wordsSize : Nat → List (List UInt8) → Nat
  | 0, _ => 0
  | n + 1, words =>
    if words.all List.isEmpty then 0
    else
      let words := (words.takeWhile List.isEmpty).take 1 ++ words.dropWhile List.isEmpty
      let runs := words.splitOnP List.isEmpty
      let links := (runs.filter (· ≠ [])).length + (runs.length - 1)
      let runSize (run : List (List UInt8)) : Nat :=
        let firsts := (run.filterMap List.head?).eraseDups
        (if firsts.length ≤ 1 then firsts.length * stateSize
          else stateSize + rangeSize * firsts.length) +
        total (firsts.map fun b =>
          wordsSize n ((run.filter fun w => w.head? = some b).map List.tail))
      stateSize + linkSize * links + total (runs.map runSize)

/-- The texts that a pattern is a choice between, if it is a choice between texts. -/
def texts? (p : Pattern) : Option (List (List Char)) :=
  p.branches.mapM fun
    | text s => some s
    | _ => none

/-! ## Patterns -/

/-- The last state of the automaton of a pattern has several ways on, or will have. -/
def endsInFork (d : Direction) : Pattern → Bool
  | times p 0 none _ => p.leastLength.any (0 < ·)
  | times _ _ none _ => true
  | times p least (some most) _ => least = most && p.endsInFork d
  | group _ p => d = .backward && p.endsInFork d
  | seq p q =>
    match d with
    | .forward => q.endsInFork d
    | .backward => p.endsInFork d
  | _ => false

/-- The memory for the way on from the last state of a pattern. -/
def exitSize (d : Direction) (p : Pattern) : Nat := if p.endsInFork d then linkSize else 0

/-- The size of `least` to `most` copies of what has the size `copy`, of which `exit` is
for the way on.  Each copy that can be left out has a state before it with two ways on. -/
def copiesSize (copy exit least most : Nat) : Nat :=
  if least = most then least * copy - exit
  else
    let optional := (most - least) * (stateSize + 2 * linkSize)
    let joint := if least = 0 ∧ most ≠ 1 then 2 * stateSize else stateSize
    most * copy + optional + joint

mutual

/-- The size of the states and the ways between them that a pattern needs. -/
def size (d : Direction) : Pattern → Nat
  | empty => stateSize
  | text s => (bytesOf d s).length * stateSize
  | one s => setSize d s
  | place _ => stateSize
  | times p least most _ =>
    let exit := p.exitSize d
    let copy := p.size d + exit
    match least, most with
    | 0, none =>
      if p.leastLength.any (0 < ·) then copy + stateSize + linkSize
      else copy + 3 * stateSize + 4 * linkSize
    | least, none => least * copy + stateSize + linkSize
    | least, some most => copiesSize copy exit least most
  | group _ p =>
    match d with
    | .forward => p.size d + p.exitSize d + 2 * stateSize
    | .backward => p.size d
  | seq p q =>
    let inner := match d with
      | .forward => p
      | .backward => q
    p.size d + q.size d + inner.exitSize d
  | either p q =>
    match (either p q).texts? with
    | some ss =>
      let words := ss.map (bytesOf d)
      stateSize + wordsSize (total (words.map List.length) + 1) words
    | none => p.branchesSize d + q.branchesSize d + 2 * stateSize
termination_by p => (sizeOf p, 0)

/-- The size of the branches of a choice, with the ways to them and from them. -/
def branchesSize (d : Direction) : Pattern → Nat
  | either p q => p.branchesSize d + q.branchesSize d
  | p => p.size d + p.exitSize d + linkSize
termination_by p => (sizeOf p, 1)

end

/-- Pieces of the pattern are found only at the end of a text where a search in the
direction begins. -/
def isAnchored (d : Direction) (p : Pattern) : Bool :=
  match d with
  | .forward => p.beginsText
  | .backward => p.endsText

/-- The size of the automaton that searches a text for a pattern.  Unless the search
ends where it begins, a state in front skips any bytes. -/
def searchSize (d : Direction) (p : Pattern) : Nat :=
  let whole := group 0 p
  let skipping :=
    if p.isAnchored d then stateSize else 3 * stateSize + rangeSize + 2 * linkSize
  skipping + whole.size d + whole.exitSize d + stateSize

/-- The memory that an automaton may take. -/
def sizeLimit : Nat := 10 * 1024 * 1024

/-- The pattern is too large to search for. -/
def isTooLarge (p : Pattern) : Bool :=
  sizeLimit < p.searchSize .forward || sizeLimit < p.searchSize .backward

end Pattern
end Text
end LuaBundler
