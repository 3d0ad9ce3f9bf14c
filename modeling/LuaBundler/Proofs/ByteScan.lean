/-
# The scan of bytes

The scan that strips a text, carried out on its bytes: at each turn the bytes from a place on
decide what to do and where to stop (`move?`), and what is kept is cut out of the string between the
two places (`turn?`).  A scan that looks behind the end of the bytes, or cuts a character in two,
has no result.

All that is looked for is ASCII.  In a quoted string a backslash makes the scan step over two bytes,
which may end inside a character or behind the end of the text.

Whatever the bytes are, each turn stops behind the place where it began (`lt_stop_of_move?`), so
the scan comes to an end (`run?`).
-/

import LuaBundler.Proofs.OneScan
import LuaBundler.Proofs.Utf8Bytes

namespace LuaBundler
namespace Lua

open Text

variable {b : List UInt8} {i k n pos start : ℕ} {m : Move}

/-! ### Places among bytes -/

/-- The bytes from a place on, if it is not behind the end. -/
def from? (b : List UInt8) (i : ℕ) : Option (List UInt8) :=
  if i ≤ b.length then some (b.drop i) else none

/-- The level of the long bracket that opens at a place, if one does. -/
def level? (b : List UInt8) (start : ℕ) : Option (Option ℕ) :=
  if b[start]? = some '['.toUInt8 then
    (from? b (start + 1)).map fun r =>
      let k := (r.takeWhile (· == '='.toUInt8)).length
      if b[start + 1 + k]? = some '['.toUInt8 then some k else none
  else some none

/-- Where the first occurrence of some bytes begins. -/
def indexOf? (p : List UInt8) : List UInt8 → Option ℕ
  | [] => none
  | x :: r => if p <+: x :: r then some 0 else (indexOf? p r).map (· + 1)

/-- Where the long bracket of level `k` ends that closes first from a place on, or the end. -/
def closeEnd (b : List UInt8) (start k : ℕ) : ℕ :=
  if b.length < start then b.length
  else
    match indexOf? ((closer k).map Char.toUInt8) (b.drop start) with
    | some i => start + i + (k + 2)
    | none => b.length

/-- Where the string ends that a byte `q` has opened, from a place in it on.  Behind a backslash
this can be one byte behind the end of the text. -/
def quotedEnd (b : List UInt8) (q : UInt8) (i : ℕ) : ℕ :=
  if i < b.length then
    if b[i]? = some '\\'.toUInt8 then quotedEnd b q (i + 2)
    else if b[i]? = some '\n'.toUInt8 then i
    else if b[i]? = some q then i + 1
    else quotedEnd b q (i + 1)
  else i
termination_by b.length - i

/-- The bytes at which a run of plain code stops. -/
def isMark (x : UInt8) : Bool :=
  x == '-'.toUInt8 || (x == '"'.toUInt8 || (x == '\''.toUInt8 ||
    (x == '['.toUInt8 || x == '\n'.toUInt8)))

/-! ### Turns -/

/-- What is done in a turn, and the place where it stops. -/
inductive Move
  | copy (stop : ℕ)
  | skip (stop : ℕ)
  | endLine (stop : ℕ)

/-- The place where a turn stops. -/
def Move.stop : Move → ℕ
  | copy stop => stop
  | skip stop => stop
  | endLine stop => stop

/-- Two dashes begin a comment. -/
def skipComment? (b : List UInt8) (pos : ℕ) : Option Move :=
  (level? b (pos + 2)).bind fun
    | some k => some (.skip (closeEnd b (pos + 2 + (k + 2)) k))
    | none => (from? b (pos + 2)).map fun r =>
      .skip (pos + 2 + (r.takeWhile fun x => !(x == '\n'.toUInt8)).length)

/-- A bracket begins a long string, or is code. -/
def copyBracket? (b : List UInt8) (pos : ℕ) : Option Move :=
  (level? b pos).map fun
    | some k => .copy (closeEnd b (pos + (k + 2)) k)
    | none => .copy (pos + 1)

/-- Other bytes are code, at least one of them. -/
def copyPlain? (b : List UInt8) (pos : ℕ) : Option Move :=
  (from? b pos).map fun r =>
    let stop := pos + (r.takeWhile fun x => !isMark x).length
    .copy (if stop = pos then stop + 1 else stop)

/-- What the bytes from a place on say is to be done. -/
def move? (b : List UInt8) (pos : ℕ) : Option Move :=
  b[pos]?.bind fun x =>
    if x = '-'.toUInt8 ∧ b[pos + 1]? = some '-'.toUInt8 then skipComment? b pos
    else if x = '"'.toUInt8 ∨ x = '\''.toUInt8 then
      some (.copy (min (quotedEnd b x (pos + 1)) b.length))
    else if x = '['.toUInt8 then copyBracket? b pos
    else if x = '\n'.toUInt8 then some (.endLine (pos + 1))
    else copyPlain? b pos

/-- How far a scan has come, and what it has written. -/
structure Cursor where
  pos : ℕ
  draft : Draft

/-- A turn of the scan of a string. -/
def turn? (trim : Bool) (s : String) (st : Cursor) : Option Cursor :=
  (move? (bytes s) st.pos).bind fun
    | .copy stop => (slice? s st.pos stop).map fun piece => ⟨stop, st.draft.put piece.toList⟩
    | .skip stop => some ⟨stop, st.draft⟩
    | .endLine stop => some ⟨stop, st.draft.endLine trim⟩

theorem le_closeEnd (hstart : n ≤ start) (hlength : n ≤ b.length) (k : ℕ) :
    n ≤ closeEnd b start k := by
  unfold closeEnd
  split
  · exact hlength
  split
  · omega
  · exact hlength

theorem le_quotedEnd (b : List UInt8) (q : UInt8) (i : ℕ) : i ≤ quotedEnd b q i := by
  fun_induction quotedEnd b q i <;> omega

/-- **A turn stops behind the place where it began**, whatever the bytes are. -/
theorem lt_stop_of_move? (h : move? b pos = some m) : pos < m.stop := by
  obtain ⟨x, hx, hmove⟩ := Option.bind_eq_some_iff.1 h
  have hpos : pos < b.length := (List.getElem?_eq_some_iff.1 hx).1
  split at hmove
  · obtain ⟨level, -, hlevel⟩ := Option.bind_eq_some_iff.1 hmove
    cases level with
    | some k =>
      obtain rfl := Option.some.inj hlevel
      exact le_closeEnd (by omega) hpos k
    | none =>
      obtain ⟨r, -, rfl⟩ := Option.map_eq_some_iff.1 hlevel
      show pos < pos + 2 + _
      omega
  split at hmove
  · obtain rfl := Option.some.inj hmove
    exact lt_min (le_quotedEnd b x (pos + 1)) hpos
  split at hmove
  · obtain ⟨level, -, rfl⟩ := Option.map_eq_some_iff.1 hmove
    cases level with
    | some k => exact le_closeEnd (by omega) hpos k
    | none => exact Nat.lt_succ_self pos
  split at hmove
  · obtain rfl := Option.some.inj hmove
    exact Nat.lt_succ_self pos
  · obtain ⟨r, -, rfl⟩ := Option.map_eq_some_iff.1 hmove
    simp only [Move.stop]
    split <;> omega

variable {trim : Bool} {s : String} {st st' : Cursor}

/-- A turn ends where its move stops. -/
theorem exists_move?_of_turn? (h : turn? trim s st = some st') :
    ∃ m, move? (bytes s) st.pos = some m ∧ st'.pos = m.stop := by
  obtain ⟨m, hm, hturn⟩ := Option.bind_eq_some_iff.1 h
  refine ⟨m, hm, ?_⟩
  cases m with
  | copy stop =>
    obtain ⟨piece, -, rfl⟩ := Option.map_eq_some_iff.1 hturn
    rfl
  | skip stop =>
    obtain rfl := Option.some.inj hturn
    rfl
  | endLine stop =>
    obtain rfl := Option.some.inj hturn
    rfl

theorem pos_lt_of_turn? (h : turn? trim s st = some st') : st.pos < st'.pos := by
  obtain ⟨m, hm, hpos⟩ := exists_move?_of_turn? h
  rw [hpos]
  exact lt_stop_of_move? hm

/-- Turns are made until the end of the string.  Then the last line is put out. -/
def run? (trim : Bool) (s : String) (st : Cursor) : Option (List Char) :=
  if st.pos < (bytes s).length then
    match _h : turn? trim s st with
    | some st' => run? trim s st'
    | none => none
  else some (st.draft.finish trim)
termination_by (bytes s).length - st.pos
decreasing_by
  have := pos_lt_of_turn? ‹_›
  omega

theorem run?_of_le (h : (bytes s).length ≤ st.pos) :
    run? trim s st = some (st.draft.finish trim) := by
  rw [run?, if_neg (Nat.not_lt_of_le h)]

theorem run?_of_turn? (h : st.pos < (bytes s).length) (hturn : turn? trim s st = some st') :
    run? trim s st = run? trim s st' := by
  rw [run?, if_pos h]
  split
  · next after hafter =>
    rw [hturn, Option.some_inj] at hafter
    rw [hafter]
  · next hnone =>
    rw [hturn] at hnone
    cases hnone

/-- A string without its comments, scanned by its bytes. -/
def stripBytes? (trim : Bool) (s : String) : Option (List Char) := run? trim s ⟨0, .empty⟩

/-- The states that the scan of a string comes by. -/
inductive Reached (trim : Bool) (s : String) : Cursor → Prop
  | start : Reached trim s ⟨0, .empty⟩
  | turn {st st' : Cursor} (h : Reached trim s st) (hpos : st.pos < (bytes s).length)
      (hturn : turn? trim s st = some st') : Reached trim s st'

end Lua
end LuaBundler
