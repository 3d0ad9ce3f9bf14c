/-
# Settings documents

A settings document is a TOML document that gives texts and truth values to keys,
one to a line:

    source_dir = "scripts"     # a comment
    strip_comments = false

Every setting is a text or a truth value, so the reader knows no other TOML
value and no tables.  It knows all that TOML 1.1 has for these lines: bare and
quoted keys, comments, the four kinds of strings and the escapes in them.  A line
ends in a line feed, before which one carriage return may stand; elsewhere a
carriage return is refused, and so is any other control character but the tab.
-/

import LuaBundler.Text.Ends
import LuaBundler.Text.Hex

namespace LuaBundler
namespace Settings
namespace Document

/-- What a document gives to a key. -/
inductive Value
  | text (s : String)
  | flag (b : Bool)
  deriving DecidableEq, Repr

/-- The blanks within a line. -/
def isSpace (c : Char) : Bool := c == ' ' || c == '\t'

/-- A text without the blanks at the start of its line. -/
def skipSpace (s : List Char) : List Char := s.dropWhile isSpace

/-- The characters that may stand in strings and comments. -/
def isPrintable (c : Char) : Bool := c == '\t' || (0x20 ≤ c.toNat && c.toNat != 0x7F)

/-- What follows the line end that a text starts with. -/
def afterBreak? : List Char → Option (List Char)
  | '\n' :: r => some r
  | '\r' :: '\n' :: r => some r
  | _ => none

/-- What follows a line of which only blanks and a comment are left. -/
def afterLine? (s : List Char) : Option (List Char) :=
  match skipSpace s with
  | [] => some []
  | '#' :: r =>
    match r.dropWhile isPrintable with
    | [] => some []
    | t => afterBreak? t
  | t => afterBreak? t

/-- A text without the blank lines, or the blanks of a line, it starts with. -/
def skipLines : List Char → List Char
  | '\r' :: '\n' :: r => skipLines r
  | c :: r => if isSpace c || c == '\n' then skipLines r else c :: r
  | [] => []

/-- What follows a backslash at the end of a line: the line end and the blanks and
line ends behind it do not belong to the string. -/
def afterFold? (s : List Char) : Option (List Char) := (afterBreak? (skipSpace s)).map skipLines

/-- The escapes of one letter. -/
def letterEscapes : List (Char × Char) :=
  [('b', '\x08'), ('t', '\t'), ('n', '\n'), ('f', '\x0c'), ('r', '\r'), ('e', '\x1b'),
    ('"', '"'), ('\\', '\\')]

/-- The escapes that give a code point, each with the number of its digits. -/
def codeEscapes : List (Char × Nat) := [('x', 2), ('u', 4), ('U', 8)]

/-- The character an escape stands for, and what follows it. -/
def escape? : List Char → Option (Char × List Char)
  | [] => none
  | c :: r =>
    match letterEscapes.lookup c, codeEscapes.lookup c with
    | some d, _ => some (d, r)
    | none, some n => Text.codePoint? n r
    | none, none => none

theorem length_escape?_lt {s r : List Char} {c : Char} (h : escape? s = some (c, r)) :
    r.length < s.length := by
  unfold escape? at h
  split at h
  · cases h
  · split at h
    · cases h; simp
    · have := Text.length_codePoint?_le h; simp only [List.length_cons]; omega
    · cases h

theorem length_afterBreak?_lt {s r : List Char} (h : afterBreak? s = some r) :
    r.length < s.length := by
  unfold afterBreak? at h
  split at h
  · cases h; simp
  · cases h; simp only [List.length_cons]; omega
  · cases h

theorem length_skipLines_le (s : List Char) : (skipLines s).length ≤ s.length := by
  fun_induction skipLines s <;> simp_all <;> omega

theorem length_afterFold?_lt {s r : List Char} (h : afterFold? s = some r) :
    r.length < s.length := by
  obtain ⟨t, ht, rfl⟩ := Option.map_eq_some_iff.1 h
  have h1 := length_afterBreak?_lt ht
  have h2 := length_skipLines_le t
  have h3 := Text.length_dropWhile_le isSpace s
  simp only [skipSpace] at h1
  omega

/-- What may stand in a string beside printable characters. -/
structure Quoting where
  quote : Char
  /-- A backslash starts an escape. -/
  escapes : Bool

/-- The kind of string that double quotes enclose. -/
def basic : Quoting := ⟨'"', true⟩

/-- The kind of string that single quotes enclose. -/
def literal : Quoting := ⟨'\'', false⟩

/-- A string on one line, read from behind its opening quote, and what follows it. -/
def line? (q : Quoting) (s : List Char) : Option (List Char × List Char) :=
  match s with
  | [] => none
  | c :: r =>
    if c = q.quote then some ([], r)
    else if q.escapes ∧ c = '\\' then
      match _found : escape? r with
      | none => none
      | some (d, t) => (line? q t).map fun p => (d :: p.1, p.2)
    else if isPrintable c then (line? q r).map fun p => (c :: p.1, p.2)
    else none
termination_by s.length
decreasing_by
  · have := length_escape?_lt ‹_›; simp only [List.length_cons]; omega
  · simp

/-- A string over several lines, read from behind its three opening quotes, and what
follows it.  Of up to five quotes in a row the last three close the string and the
others belong to it. -/
def lines? (q : Quoting) (s : List Char) : Option (List Char × List Char) :=
  match s with
  | [] => none
  | c :: r =>
    if c = q.quote then
      let run := min 5 (1 + (r.takeWhile (· == q.quote)).length)
      if 3 ≤ run then some (List.replicate (run - 3) q.quote, r.drop (run - 1))
      else (lines? q r).map fun p => (c :: p.1, p.2)
    else if q.escapes ∧ c = '\\' then
      match _fold : afterFold? r with
      | some t => lines? q t
      | none =>
        match _found : escape? r with
        | none => none
        | some (d, t) => (lines? q t).map fun p => (d :: p.1, p.2)
    else if isPrintable c ∨ (afterBreak? (c :: r)).isSome then
      (lines? q r).map fun p => (c :: p.1, p.2)
    else none
termination_by s.length
decreasing_by
  · simp
  · have := length_afterFold?_lt ‹_›; simp only [List.length_cons]; omega
  · have := length_escape?_lt ‹_›; simp only [List.length_cons]; omega
  · simp

/-- The characters of a key without quotes. -/
def isBareKey (c : Char) : Bool := c.isAlphanum || c == '_' || c == '-'

/-- The key a text starts with, and what follows it. -/
def key? : List Char → Option (List Char × List Char)
  | '"' :: r => line? basic r
  | '\'' :: r => line? literal r
  | s =>
    match s.takeWhile isBareKey with
    | [] => none
    | k => some (k, s.dropWhile isBareKey)

/-- A text without the line end right behind three opening quotes. -/
def skipBreak (s : List Char) : List Char := (afterBreak? s).getD s

/-- The string a text starts with, and what follows it. -/
def string? : List Char → Option (List Char × List Char)
  | '"' :: '"' :: '"' :: r => lines? basic (skipBreak r)
  | '\'' :: '\'' :: '\'' :: r => lines? literal (skipBreak r)
  | '"' :: r => line? basic r
  | '\'' :: r => line? literal r
  | _ => none

/-- The value a text starts with, and what follows it. -/
def value? : List Char → Option (Value × List Char)
  | 't' :: 'r' :: 'u' :: 'e' :: r => some (.flag true, r)
  | 'f' :: 'a' :: 'l' :: 's' :: 'e' :: r => some (.flag false, r)
  | s => (string? s).map fun p => (.text (String.ofList p.1), p.2)

/-- The key and value on the line a text starts with, and what follows the line. -/
def assignment? (s : List Char) : Option ((String × Value) × List Char) := do
  let (k, r) ← key? s
  let r ← ['='].isPrefixOf? (skipSpace r)
  let (v, r) ← value? (skipSpace r)
  let r ← afterLine? r
  return ((String.ofList k, v), r)

/-- The keys and values of a document, in order. -/
def read? (s : List Char) : Option (List (String × Value)) :=
  match skipSpace s with
  | [] => some []
  | t =>
    match afterLine? t with
    | some r => if r.length < s.length then read? r else none
    | none =>
      match assignment? t with
      | some (a, r) => if r.length < s.length then (read? r).map (a :: ·) else none
      | none => none
termination_by s.length

/-- The keys and values of a document, which may start with a byte-order mark. -/
def ofText? : List Char → Option (List (String × Value))
  | '\ufeff' :: s => read? s
  | s => read? s

end Document
end Settings
end LuaBundler
