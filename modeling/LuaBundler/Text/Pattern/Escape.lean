/-
# Escapes in patterns

What a backslash and the characters behind it stand for.

| written | stands for |
| --- | --- |
| `\.` and other signs of ASCII | that character |
| `\n` `\t` `\r` `\a` `\f` `\v` | a control character |
| `\x7F` `\u007F` `\U0000007F` `\x{7F}` | the character of that code point |
| `\d` `\s` `\w` `\D` `\S` `\W` | a named class |
| `\pL` `\p{Greek}` `\p{sc=Greek}` `\P{Lu}` | a class of characters by their properties |
| `\A` `\z` `\b` `\B` `\<` `\>` `\b{start}` ... | a place |

Where blanks do not count they may stand between the letters of a name and the digits of
a number.
-/

import LuaBundler.Text.Hex
import LuaBundler.Text.Pattern.Mode

namespace LuaBundler
namespace Text
namespace Pattern

/-- What an escape stands for. -/
inductive Escape
  | char (c : Char)
  | chars (s : CharSet)
  | place (p : Place)

namespace Escape

/-! ## Characters -/

/-- The control characters that letters stand for. -/
def controls : List (Char × Char) :=
  [('a', '\x07'), ('f', '\x0c'), ('t', '\t'), ('n', '\n'), ('r', '\r'), ('v', '\x0b')]

/-- The letters in front of code points, each with the number of its digits. -/
def codes : List (Char × Nat) := [('x', 2), ('u', 4), ('U', 8)]

/-- The first `n` characters that count, and what follows them. -/
def take? (m : Mode) : Nat → List Char → Option (List Char × List Char)
  | 0, s => some ([], s)
  | _ + 1, [] => none
  | n + 1, c :: r => (take? m n (m.skip r)).map fun p => (c :: p.1, p.2)

/-- What stands before a closing brace, and what follows it. -/
def inBraces? (m : Mode) (s : List Char) : Option (List Char × List Char) :=
  match m.span (· != '\x7d') (m.skip s) with
  | (content, _ :: rest) => some (content, rest)
  | (_, []) => none

/-- The character of a code point: in braces, or of `n` digits.  Two digits stand for
a byte of the text, so that beyond ASCII they need a mode that knows such characters. -/
def code? (m : Mode) (n : Nat) (s : List Char) : Option (Escape × List Char) :=
  match m.skip s with
  | '\x7b' :: r => do
    let (digits, rest) ← inBraces? m r
    if digits = [] then none else return (.char (← charOfHex? digits), rest)
  | s => do
    let (digits, rest) ← take? m n s
    let c ← charOfHex? digits
    if n = 2 ∧ 0x80 ≤ c.toNat ∧ ¬ m.unicode then none else return (.char c, rest)

/-! ## Properties -/

/-- The parts of a text before and behind the first place where `sign` stands. -/
def cutAt? (sign : List Char) : List Char → Option (List Char × List Char)
  | [] => none
  | c :: r =>
    if sign.isPrefixOf (c :: r) then some ([], (c :: r).drop sign.length)
    else (cutAt? sign r).map fun p => (c :: p.1, p.2)

/-- The class that the text in braces stands for: a name, or a property and its value. -/
def property? (s : List Char) : Option CharSet :=
  match ([['!', '='], [':'], ['=']] : List (List Char)).findSome? (cutAt? · s) with
  | some (property, value) => Unicode.byValue? property value
  | none => Unicode.byName? s

/-- A class of characters by their properties, read from behind its letter. -/
def properties? (m : Mode) (negated : Bool) (s : List Char) : Option (Escape × List Char) := do
  let (found, rest) ← match m.skip s with
    | [] => none
    | '\\' :: _ => none
    | '\x7b' :: r => (inBraces? m r).map fun p => (property? p.1, p.2)
    | c :: r => some (property? [c], r)
  if ¬ m.unicode then none else return (.chars (← m.class? negated (← found)), rest)

/-! ## Places -/

/-- The kinds of word boundaries that have a name. -/
def boundary? (m : Mode) : String → Option Place
  | "start" => some (.wordStart m.unicode)
  | "end" => some (.wordEnd m.unicode)
  | "start-half" => some (.behindNoWord m.unicode)
  | "end-half" => some (.beforeNoWord m.unicode)
  | _ => none

/-- The letters of the names of word boundaries. -/
def isBoundaryLetter (c : Char) : Bool := c.isAlpha || c == '-'

/-- What `\b` stands for, read from behind it.  Braces behind it hold the name of a
kind of word boundary, unless they begin like a number of repetitions. -/
def edge? (m : Mode) : List Char → Option (Escape × List Char)
  | '\x7b' :: r =>
    match m.span isBoundaryLetter (m.skip r) with
    | ([], []) => none
    | ([], _) => some (.place (.wordEdge m.unicode), '\x7b' :: r)
    | (name, '\x7d' :: rest) => (boundary? m (String.ofList name)).map fun p => (.place p, rest)
    | _ => none
  | r => some (.place (.wordEdge m.unicode), r)

/-- The places that one character behind a backslash stands for. -/
def place? (m : Mode) : Char → Option Place
  | 'A' => some .start
  | 'z' => some .finish
  | 'B' => some (.noWordEdge m.unicode)
  | '<' => some (.wordStart m.unicode)
  | '>' => some (.wordEnd m.unicode)
  | _ => none

/-! ## The whole -/

/-- What the escape of one character stands for. -/
def letter? (m : Mode) (c : Char) : Option Escape :=
  match controls.lookup c, m.named? c, place? m c with
  | some d, _, _ => some (.char d)
  | none, some s, _ => some (.chars s)
  | none, none, some p => some (.place p)
  | none, none, none => if c.toNat < 128 ∧ ¬ c.isAlphanum then some (.char c) else none

/-- An escape, read from behind its backslash, and what follows it. -/
def read? (m : Mode) : List Char → Option (Escape × List Char)
  | [] => none
  | 'b' :: r => edge? m r
  | 'p' :: r => properties? m false r
  | 'P' :: r => properties? m true r
  | c :: r =>
    match codes.lookup c with
    | some n => code? m n r
    | none => (letter? m c).map fun e => (e, r)

end Escape
end Pattern
end Text
end LuaBundler
