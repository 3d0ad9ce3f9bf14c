/-
# Patterns

A pattern describes pieces of text: one character of a set, the empty piece at a place
of some kind, or a combination of such.  `occursIn` tells whether a text holds a piece
that fits.

A text of `n` characters has `n + 1` places, before its first character, between
two and behind the last.  `ends` takes the places where a piece may start to those
where a piece that fits may end; it marks each place of the text by a truth value.
Since a piece that fits often ends further on, and there are only `n + 1` places,
`n + 1` repetitions reach every place that any number of them can reach.
-/

import LuaBundler.Text.CharSet
import LuaBundler.Text.WordChar

namespace LuaBundler
namespace Text

/-- The word characters as a set. -/
def wordChars : CharSet := .ofRanges wordRanges

/-- The word characters of ASCII. -/
def asciiWordChars : CharSet := .ofTable "30-39 41-5A 5F 61-7A"

/-- A kind of place in a text. -/
inductive Place
  /-- The start of the text. -/
  | start
  /-- The end of the text. -/
  | finish
  /-- The start of a line; `returns` if a carriage return ends a line too. -/
  | lineStart (returns : Bool)
  /-- The end of a line. -/
  | lineEnd (returns : Bool)
  /-- A word starts or ends there; `unicode` if words are not of ASCII alone. -/
  | wordEdge (unicode : Bool)
  /-- No word starts or ends there. -/
  | noWordEdge (unicode : Bool)
  | wordStart (unicode : Bool)
  | wordEnd (unicode : Bool)
  /-- No word goes on to the place. -/
  | behindNoWord (unicode : Bool)
  /-- No word goes on from the place. -/
  | beforeNoWord (unicode : Bool)
  deriving DecidableEq

namespace Place

/-- The character, if there is one, belongs to a word. -/
def inWord (unicode : Bool) (c : Option Char) : Bool :=
  c.any (if unicode then wordChars else asciiWordChars).contains

/-- The place between two characters, of which one may be missing, is of the kind. -/
def holds : Place → Option Char → Option Char → Bool
  | start, before, _ => before.isNone
  | finish, _, after => after.isNone
  | lineStart returns, before, after =>
    before.isNone || before == some '\n' ||
      (returns && before == some '\r' && after != some '\n')
  | lineEnd returns, before, after =>
    after.isNone || (returns && after == some '\r') ||
      (after == some '\n' && !(returns && before == some '\r'))
  | wordEdge u, before, after => inWord u before != inWord u after
  | noWordEdge u, before, after => inWord u before == inWord u after
  | wordStart u, before, after => !inWord u before && inWord u after
  | wordEnd u, before, after => inWord u before && !inWord u after
  | behindNoWord u, before, _ => !inWord u before
  | beforeNoWord u, _, after => !inWord u after

end Place

/-- A description of pieces of text. -/
inductive Pattern
  /-- The empty piece. -/
  | empty
  /-- The piece itself, which is not empty. -/
  | text (s : List Char)
  /-- One character of a set. -/
  | one (s : CharSet)
  /-- The empty piece at a place of some kind. -/
  | place (p : Place)
  /-- Pieces of the pattern in a row, at least and at most so many, of which as many as
  possible are preferred if it is `eager`. -/
  | times (p : Pattern) (least : Nat) (most : Option Nat) (eager : Bool)
  /-- A piece of the pattern, which has a number. -/
  | group (number : Nat) (p : Pattern)
  /-- A piece of the first pattern followed by one of the second. -/
  | seq (p q : Pattern)
  /-- A piece of one of the two patterns. -/
  | either (p q : Pattern)
  deriving DecidableEq

namespace Pattern

/-! ## Occurrences -/

/-- Some of the places of a text, as a mark for each from the first to the last. -/
abbrev Places := List Bool

/-- The places that are marked here or there. -/
def Places.union (s t : Places) : Places := List.zipWith (· || ·) s t

/-- The places reached from `s` by taking `f` exactly `n` times, as long as there are
any. -/
def Places.iterate (f : Places → Places) : Nat → Places → Places
  | 0, s => s
  | n + 1, s => if s.any id then iterate f n (f s) else s

/-- The places reached from `s` by taking `f` at most `n` times. -/
def Places.reach (f : Places → Places) : Nat → Places → Places
  | 0, s => s
  | n + 1, s => if s.union (f s) = s then s else reach f n (s.union (f s))

/-- The places behind the characters that start at a given place and are accepted. -/
def Places.behind (text : List Char) (accepts : Char → Bool) (s : Places) : Places :=
  false :: List.zipWith (fun c b => b && accepts c) text s

/-- The characters before and behind each place of a text, given the one before it. -/
def neighbours (before : Option Char) : List Char → List (Option Char × Option Char)
  | [] => [(before, none)]
  | c :: r => (before, some c) :: neighbours (some c) r

/-- The places of `text` where a piece may end that starts at one of the given ones. -/
def ends (text : List Char) : Pattern → Places → Places
  | empty, s => s
  | .text piece, s => piece.foldl (fun s c => s.behind text (· == c)) s
  | one set, s => s.behind text set.contains
  | place p, s => List.zipWith (fun x b => b && p.holds x.1 x.2) (neighbours none text) s
  | times p least most _, s =>
    let enough := text.length + 1
    Places.reach (p.ends text)
      (match most with
        | none => enough
        | some most => min (most - least) enough)
      (Places.iterate (p.ends text) (min least enough) s)
  | group _ p, s => p.ends text s
  | seq p q, s => q.ends text (p.ends text s)
  | either p q, s => (p.ends text s).union (q.ends text s)

/-- Some piece of the text fits the pattern. -/
def occursIn (p : Pattern) (text : List Char) : Bool :=
  (p.ends text (List.replicate (text.length + 1) true)).any id

/-! ## Lengths of pieces -/

/-- The length of the shortest piece that fits; none if the pattern has a part that
nothing fits. -/
def leastLength : Pattern → Option Nat
  | empty => some 0
  | text s => some s.length
  | one s => if s.ranges = [] then none else some 1
  | place _ => some 0
  | times p least _ _ => p.leastLength.map (· * least)
  | group _ p => p.leastLength
  | seq p q => do return (← p.leastLength) + (← q.leastLength)
  | either p q => do return min (← p.leastLength) (← q.leastLength)

/-- The length of the longest piece that fits; none if there is no bound, or if the
pattern has a part that nothing fits. -/
def mostLength : Pattern → Option Nat
  | empty => some 0
  | text s => some s.length
  | one s => if s.ranges = [] then none else some 1
  | place _ => some 0
  | times p _ most _ => do return (← p.mostLength) * (← most)
  | group _ p => p.mostLength
  | seq p q => do return (← p.mostLength) + (← q.mostLength)
  | either p q => do return max (← p.mostLength) (← q.mostLength)

/-- Every piece that fits starts at the start of the text, as the pattern shows. -/
def beginsText : Pattern → Bool
  | place p => p = .start
  | times p least _ _ => least != 0 && p.beginsText
  | group _ p => p.beginsText
  | seq p q => p.beginsText || (p.mostLength == some 0 && q.beginsText)
  | either p q => p.beginsText && q.beginsText
  | _ => false

/-- Every piece that fits ends at the end of the text, as the pattern shows. -/
def endsText : Pattern → Bool
  | place p => p = .finish
  | times p least _ _ => least != 0 && p.endsText
  | group _ p => p.endsText
  | seq p q => q.endsText || (q.mostLength == some 0 && p.endsText)
  | either p q => p.endsText && q.endsText
  | _ => false

end Pattern
end Text
end LuaBundler
