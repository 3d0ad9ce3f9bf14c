/-
# Segments of Lua text

A Lua text is read from left to right as segments: comments, string literals
and single characters of code.

| segment | begins with | runs through |
| --- | --- | --- |
| block comment | `--[==[` | the first `]==]`, or the end of the text |
| line comment | any other `--` | the last character before a line feed or the end |
| quoted string | `"` or `'` | the next such quote; the last character before a line feed; the end |
| long string | `[==[` | the first `]==]`, or the end of the text |
| code | anything else | that character |

The number of `=` in a long bracket, its level, may be zero and is the same at
both ends.  In a quoted string a backslash makes the next character an ordinary
one, be it a quote or a line feed.

The segments put together again are the text (`flatMap_text_segments`).
-/

import LuaBundler.Text.Ends

namespace LuaBundler
namespace Lua

/-- A piece of Lua text, with the characters it was read from. -/
inductive Segment
  | code (c : Char)
  | quoted (text : List Char)
  | longString (text : List Char)
  | lineComment (text : List Char)
  | blockComment (text : List Char)
  deriving DecidableEq, Repr

namespace Segment

/-- The characters a segment was read from. -/
def text : Segment → List Char
  | code c => [c]
  | quoted t => t
  | longString t => t
  | lineComment t => t
  | blockComment t => t

/-- Comments carry no meaning for the program. -/
def isComment : Segment → Bool
  | lineComment _ => true
  | blockComment _ => true
  | _ => false

end Segment

/-- The long bracket of level `k` that opens a string or a comment. -/
def opener (k : Nat) : List Char := '[' :: (List.replicate k '=' ++ ['['])

/-- The long bracket of level `k` that closes a string or a comment. -/
def closer (k : Nat) : List Char := ']' :: (List.replicate k '=' ++ [']'])

/-- The level of the long bracket a text opens with, and what follows it. -/
def afterOpener? : List Char → Option (Nat × List Char)
  | '[' :: r =>
    match r.dropWhile (· == '=') with
    | '[' :: body => some ((r.takeWhile (· == '=')).length, body)
    | _ => none
  | _ => none

/-- A text cut behind the first closing long bracket of level `k`. -/
def throughCloser (k : Nat) : List Char → List Char × List Char
  | [] => ([], [])
  | c :: r =>
    match (closer k).isPrefixOf? (c :: r) with
    | some rest => (closer k, rest)
    | none =>
      let p := throughCloser k r
      (c :: p.1, p.2)

/-- What follows an opening quote `q`, cut behind the quote that closes it. -/
def throughQuote (q : Char) : List Char → List Char × List Char
  | [] => ([], [])
  | ['\\'] => (['\\'], [])
  | '\\' :: c :: r =>
    let p := throughQuote q r
    ('\\' :: c :: p.1, p.2)
  | c :: r =>
    if c = '\n' then ([], c :: r)
    else if c = q then ([c], r)
    else
      let p := throughQuote q r
      (c :: p.1, p.2)

/-- The segment a text `c :: r` begins with, and the text behind it. -/
def readSegment : Char → List Char → Segment × List Char
  | '-', '-' :: r =>
    match afterOpener? r with
    | some (k, body) =>
      let p := throughCloser k body
      (.blockComment ('-' :: '-' :: (opener k ++ p.1)), p.2)
    | none => (.lineComment ('-' :: '-' :: r.takeWhile (· != '\n')), r.dropWhile (· != '\n'))
  | '"', r =>
    let p := throughQuote '"' r
    (.quoted ('"' :: p.1), p.2)
  | '\'', r =>
    let p := throughQuote '\'' r
    (.quoted ('\'' :: p.1), p.2)
  | '[', r =>
    match afterOpener? ('[' :: r) with
    | some (k, body) =>
      let p := throughCloser k body
      (.longString (opener k ++ p.1), p.2)
    | none => (.code '[', r)
  | c, r => (.code c, r)

theorem eq_opener_append_of_afterOpener? {s body : List Char} {k : Nat}
    (h : afterOpener? s = some (k, body)) : s = opener k ++ body := by
  unfold afterOpener? at h
  split at h
  · next r =>
    split at h
    · next b hb =>
      simp only [Option.some.injEq, Prod.mk.injEq] at h
      obtain ⟨rfl, rfl⟩ := h
      have hr : r.takeWhile (· == '=') = List.replicate (r.takeWhile (· == '=')).length '=' :=
        List.eq_replicate_iff.2 ⟨rfl, fun c hc => by
          simpa using List.all_eq_true.1 List.all_takeWhile c hc⟩
      conv => lhs; rw [← List.takeWhile_append_dropWhile (p := (· == '=')) (l := r), hb]
      simp [opener, ← hr]
    · simp at h
  · simp at h

theorem throughCloser_append (k : Nat) (s : List Char) :
    (throughCloser k s).1 ++ (throughCloser k s).2 = s := by
  induction s with
  | nil => rfl
  | cons c r ih =>
    unfold throughCloser
    split
    · next rest h => exact (Text.isPrefixOf?_eq_some_iff.1 h).symm
    · simp [ih]

theorem throughQuote_append (q : Char) (s : List Char) :
    (throughQuote q s).1 ++ (throughQuote q s).2 = s := by
  fun_induction throughQuote q s <;> simp +zetaDelta [*]

/-- Reading a segment loses no character. -/
theorem readSegment_append (c : Char) (r : List Char) :
    (readSegment c r).1.text ++ (readSegment c r).2 = c :: r := by
  unfold readSegment
  split
  · split
    · next h =>
      simp [Segment.text, throughCloser_append, ← eq_opener_append_of_afterOpener? h]
    · simp [Segment.text]
  · simp [Segment.text, throughQuote_append]
  · simp [Segment.text, throughQuote_append]
  · split
    · next h =>
      simp [Segment.text, throughCloser_append, ← eq_opener_append_of_afterOpener? h]
    · simp [Segment.text]
  · simp [Segment.text]

/-- No segment is empty. -/
theorem text_readSegment_ne_nil (c : Char) (r : List Char) :
    (readSegment c r).1.text ≠ [] := by
  unfold readSegment
  split <;> (try split) <;> simp [Segment.text, opener]

theorem length_readSegment_le (c : Char) (r : List Char) :
    (readSegment c r).2.length ≤ r.length := by
  have h := congrArg List.length (readSegment_append c r)
  have hp := List.length_pos_iff.2 (text_readSegment_ne_nil c r)
  simp only [List.length_append, List.length_cons] at h
  omega

/-- The segments of a text. -/
def segments : List Char → List Segment
  | [] => []
  | c :: r => (readSegment c r).1 :: segments (readSegment c r).2
termination_by s => s.length
decreasing_by
  have := length_readSegment_le c r
  simp only [List.length_cons]
  omega

/-- **The segments of a text put together again are the text.** -/
theorem flatMap_text_segments (s : List Char) : (segments s).flatMap Segment.text = s := by
  fun_induction segments s with
  | case1 => rfl
  | case2 c r ih => simp [ih, readSegment_append]

end Lua
end LuaBundler
