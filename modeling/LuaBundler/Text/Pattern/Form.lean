/-
# Patterns made of few parts

A pattern can be written in many ways.  The functions here put patterns together so
that as little as possible is left of how they were written: texts in a row are one
text, a choice between characters is one set, a beginning that all branches share
stands before the choice, and the empty piece is not repeated.

`ends_row` says that a row means its parts one behind the other.
-/

import LuaBundler.Text.Pattern

namespace LuaBundler
namespace Text
namespace Pattern

/-! ## Rows -/

/-- The parts that a pattern is a row of. -/
def pieces : Pattern → List Pattern
  | empty => []
  | seq p q => p.pieces ++ q.pieces
  | p => [p]

/-- A part in front of others; two texts become one. -/
def prepend (p : Pattern) (ps : List Pattern) : List Pattern :=
  match p, ps with
  | text s, text t :: rest => text (s ++ t) :: rest
  | p, ps => p :: ps

/-- The pattern that is a row of parts. -/
def ofPieces : List Pattern → Pattern
  | [] => empty
  | [p] => p
  | p :: q :: rest => seq p (ofPieces (q :: rest))

/-- Patterns in a row. -/
def row (ps : List Pattern) : Pattern := ofPieces ((ps.flatMap pieces).foldr prepend [])

/-- The places where pieces of several patterns in a row may end. -/
def endsAll (txt : List Char) (ps : List Pattern) (s : Places) : Places :=
  ps.foldl (fun s p => p.ends txt s) s

theorem endsAll_append (txt : List Char) (ps qs : List Pattern) (s : Places) :
    endsAll txt (ps ++ qs) s = endsAll txt qs (endsAll txt ps s) := by
  simp [endsAll, List.foldl_append]

theorem endsAll_pieces (txt : List Char) (p : Pattern) (s : Places) :
    endsAll txt p.pieces s = p.ends txt s := by
  induction p generalizing s with
  | seq p q hp hq => rw [pieces, endsAll_append, hp, hq, ends]
  | _ => rfl

theorem endsAll_prepend (txt : List Char) (p : Pattern) (ps : List Pattern) (s : Places) :
    endsAll txt (prepend p ps) s = endsAll txt (p :: ps) s := by
  unfold prepend
  split
  · simp [endsAll, ends, List.foldl_append]
  · rfl

theorem ends_ofPieces (txt : List Char) (ps : List Pattern) (s : Places) :
    (ofPieces ps).ends txt s = endsAll txt ps s := by
  fun_induction ofPieces ps generalizing s with
  | case1 => rfl
  | case2 => rfl
  | case3 p q rest ih => rw [ends, ih]; rfl

/-- A row means its parts one behind the other. -/
theorem ends_row (txt : List Char) (ps : List Pattern) (s : Places) :
    (row ps).ends txt s = endsAll txt ps s := by
  have hjoin : ∀ (qs : List Pattern) (s : Places),
      endsAll txt (qs.foldr prepend []) s = endsAll txt qs s := by
    intro qs
    induction qs with
    | nil => intro s; rfl
    | cons q qs ih => intro s; rw [List.foldr_cons, endsAll_prepend]; exact ih _
  rw [row, ends_ofPieces, hjoin]
  induction ps generalizing s with
  | nil => rfl
  | cons p ps ih =>
    rw [List.flatMap_cons, endsAll_append, endsAll_pieces, ih]
    rfl

/-! ## Characters and choices -/

/-- One character of a set; a set of one character is a text. -/
def ofSet (s : CharSet) : Pattern :=
  match s.single? with
  | some c => text [c]
  | none => one s

/-- The patterns that a pattern is a choice between. -/
def branches : Pattern → List Pattern
  | either p q => p.branches ++ q.branches
  | p => [p]

/-- The choice between patterns, of which there is one at least. -/
def ofBranches : List Pattern → Pattern
  | [] => empty
  | [p] => p
  | p :: q :: rest => either p (ofBranches (q :: rest))

/-- The character that is all a pattern stands for. -/
def char? : Pattern → Option Char
  | text [c] => some c
  | _ => none

/-- The set that is all a pattern stands for. -/
def set? : Pattern → Option CharSet
  | one s => some s
  | _ => none

/-- The set that a choice between patterns comes to. -/
def unionSet? (ps : List Pattern) : Option CharSet :=
  match ps.mapM char?, ps.mapM set? with
  | some cs, _ => some (.unions (cs.map .single))
  | none, some ss => some (.unions ss)
  | none, none => none

/-- The longest beginning that two rows share. -/
def sharedStart : List Pattern → List Pattern → List Pattern
  | p :: ps, q :: qs => if p = q then p :: sharedStart ps qs else []
  | _, _ => []

/-- The longest beginning that the rows of a choice share, if all of them are rows. -/
def commonStart (rows : List (List Pattern)) : List Pattern :=
  match rows with
  | [] => []
  | r :: rest => if rows.all (2 ≤ ·.length) then rest.foldl sharedStart r else []

/-- The choice between patterns, which share a beginning at most `n` times. -/
def chooseWithin : Nat → List Pattern → Pattern
  | 0, ps => ofBranches ps
  | n + 1, ps =>
    let ps := ps.flatMap branches
    match ps, unionSet? ps with
    | [p], _ => p
    | _, some s => ofSet s
    | _, none =>
      let rows := ps.map pieces
      match commonStart rows with
      | [] => ofBranches ps
      | start =>
        row (start ++ [chooseWithin n (rows.map fun r => row (r.drop start.length))])

/-- The number of the parts of a pattern, and of the parts of these. -/
def partCount : Pattern → Nat
  | times p _ _ _ => p.partCount + 1
  | group _ p => p.partCount + 1
  | seq p q => p.partCount + q.partCount + 1
  | either p q => p.partCount + q.partCount + 1
  | _ => 1

/-- The sum of numbers. -/
def total (ns : List Nat) : Nat := ns.foldr (· + ·) 0

/-- The choice between patterns.  Each beginning that is shared has a part at least, so
the parts bound how often that can be. -/
def choose (ps : List Pattern) : Pattern := chooseWithin (total (ps.map partCount)) ps

/-! ## Repetitions -/

/-- A pattern repeated.  One whose pieces are all empty is needed once at most. -/
def repeated (p : Pattern) (least : Nat) (most : Option Nat) (eager : Bool) : Pattern :=
  let (least, most) :=
    if p.mostLength = some 0 then (min least 1, some (min (most.getD 1) 1)) else (least, most)
  match least, most with
  | 0, some 0 => empty
  | 1, some 1 => p
  | least, most => times p least most eager

end Pattern
end Text
end LuaBundler
