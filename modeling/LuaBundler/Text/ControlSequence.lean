/-
# Text without control sequences

Some characters are not for reading: a terminal takes them as orders.  An escape
begins a sequence, of which the terminal prints nothing; how long it is hangs on its
first characters.

| begins with | ends with |
| --- | --- |
| an escape and `[`, a control sequence | a letter or a sign from `@` to `~` |
| an escape and `]`, a command | a bell, or an escape and a backslash |
| an escape and `P`, `X`, `^` or `_`, a string | an escape and a backslash |
| an escape and anything else | a digit, a letter or a sign from `0` to `~` |

`withoutControls` leaves what is printed.  `isPrinted_of_mem` says that this holds no
controls, and `withoutControls_eq_self` that nothing else is taken away.
-/

namespace LuaBundler
namespace Text

/-- What a terminal has begun to take in. -/
inductive Begun
  | nothing
  | escape
  /-- An escape and signs behind it. -/
  | escapeSequence
  | controlSequence
  /-- The start of a string for a device, up to the letter that says what it is. -/
  | deviceControl
  | controlString
  | command
  deriving DecidableEq, Repr

/-- The controls that are white space: tab, line feed, form feed, carriage return. -/
def isSpaceControl (c : Char) : Bool := c == '\t' || c == '\n' || c == '\x0c' || c == '\r'

/-- The character is printed where no sequence has begun. -/
def isPrinted (c : Char) : Bool := (0x20 ≤ c.toNat && c.toNat ≠ 0x7F) || isSpaceControl c

namespace Begun

/-- What has begun behind one more character, which is not printed. -/
def next (b : Begun) (c : Char) : Begun :=
  match b with
  | nothing => nothing
  | escape =>
    if c = '[' then controlSequence
    else if c = ']' then command
    else if c = 'P' then deviceControl
    else if c = 'X' ∨ c = '^' ∨ c = '_' then controlString
    else if ' ' ≤ c ∧ c ≤ '/' then escapeSequence
    else if '0' ≤ c ∧ c ≤ '~' then nothing
    else escape
  | escapeSequence => if '0' ≤ c ∧ c ≤ '~' then nothing else escapeSequence
  | controlSequence => if '@' ≤ c ∧ c ≤ '~' then nothing else controlSequence
  | deviceControl => if '@' ≤ c ∧ c ≤ '~' then controlString else deviceControl
  -- A string is taken in byte by byte, and the byte 9C ends it.
  | controlString => if (String.utf8EncodeChar c).contains 0x9C then nothing else controlString
  | command => if c = '\x07' then nothing else command

/-- The character is printed.  White space is, unless it belongs to a string or to a
command. -/
def prints (b : Begun) (c : Char) : Bool :=
  match b with
  | nothing => isPrinted c
  | escape => isSpaceControl c
  | escapeSequence => isSpaceControl c
  | controlSequence => isSpaceControl c
  | _ => false

/-- What is printed of a text.  The characters cancel and substitute break off what has
begun, and so does white space that is printed. -/
def printed (b : Begun) : List Char → List Char
  | [] => []
  | c :: r =>
    if c = '\x1b' then escape.printed r
    else if c = '\x18' ∨ c = '\x1a' then nothing.printed r
    else if b.prints c then c :: nothing.printed r
    else (b.next c).printed r

theorem isPrinted_of_prints {b : Begun} {c : Char} (h : b.prints c = true) :
    isPrinted c = true := by
  cases b <;> simp_all [prints, isPrinted]

theorem isPrinted_of_mem_printed {b : Begun} {s : List Char} {c : Char} (h : c ∈ b.printed s) :
    isPrinted c = true := by
  fun_induction printed b s with
  | case1 => cases h
  | case2 b r ih => exact ih h
  | case3 b c r _ _ ih => exact ih h
  | case4 b d r _ _ hp ih =>
    rcases List.mem_cons.1 h with rfl | h
    · exact isPrinted_of_prints hp
    · exact ih h
  | case5 b d r _ _ _ ih => exact ih h

theorem printed_nothing_eq_self {s : List Char} (h : ∀ c ∈ s, isPrinted c = true) :
    nothing.printed s = s := by
  induction s with
  | nil => rfl
  | cons c r ih =>
    have hc := h c List.mem_cons_self
    have h1 : c ≠ '\x1b' := by rintro rfl; exact absurd hc (by decide)
    have h2 : ¬ (c = '\x18' ∨ c = '\x1a') := by
      rintro (rfl | rfl) <;> exact absurd hc (by decide)
    rw [printed, if_neg h1, if_neg h2, if_pos (by exact hc),
      ih fun c hc => h c (List.mem_cons_of_mem _ hc)]

end Begun

/-- The part of a text that is printed. -/
def withoutControls (s : List Char) : List Char := Begun.nothing.printed s

/-- No control is left, but for white space. -/
theorem isPrinted_of_mem {s : List Char} {c : Char} (h : c ∈ withoutControls s) :
    isPrinted c = true := Begun.isPrinted_of_mem_printed h

/-- A text without controls is printed as it is. -/
theorem withoutControls_eq_self {s : List Char} (h : ∀ c ∈ s, isPrinted c = true) :
    withoutControls s = s := Begun.printed_nothing_eq_self h

end Text
end LuaBundler
