/-
# What quoted literals denote

`readLiteral` reads a quoted literal as the language does: a backslash and the
character behind it stand for one character, a quote like the opening one ends the
literal, and a line break in it is an error.  Of the escapes it knows those that stand
for a quote, a backslash or a line break.

`readHead?` reads the first line of a registration and gives the name that the two keys
on it denote, if both denote the same.

An escaped text between two quotes denotes the text (`readLiteral_escape`), so the
first line of a registration denotes the name it was made for
(`readHead?_registrationHead`).
-/

import LuaBundler.Lua.Registration

namespace LuaBundler
namespace Lua

/-- The character that an escape stands for, given the one behind the backslash. -/
def unescape? (c : Char) : Option Char :=
  if c = 'n' then some '\n'
  else if c = 'r' then some '\r'
  else if c = '"' ∨ c = '\'' ∨ c = '\\' then some c
  else none

/-- The text that a literal denotes whose opening `quote` has been read, and what stands
behind its closing quote. -/
def readLiteral (quote : Char) : List Char → Option (List Char × List Char)
  | [] => none
  | '\\' :: c :: r => do
    let d ← unescape? c
    let (x, rest) ← readLiteral quote r
    return (d :: x, rest)
  | c :: r =>
    if c = quote then some ([], r)
    else if c = '\\' ∨ c = '\n' ∨ c = '\r' then none
    else do
      let (x, rest) ← readLiteral quote r
      return (c :: x, rest)

/-- The name that the keys on the first line of a registration denote, and the text
behind that line. -/
def readHead? (s : List Char) : Option (List Char × List Char) := do
  let r ← "package.preload[\"".toList.isPrefixOf? s
  let (name, r) ← readLiteral '"' r
  let r ← "] = package.preload[\"".toList.isPrefixOf? r
  let (again, r) ← readLiteral '"' r
  let r ← "] or function()\n".toList.isPrefixOf? r
  if again = name then return (name, r) else none

/-- An escape is read as the character it stands for. -/
theorem readLiteral_escaped {c d : Char} (quote : Char) (h : unescape? c = some d)
    (s : List Char) :
    readLiteral quote ('\\' :: c :: s) =
      (readLiteral quote s).map fun p => (d :: p.1, p.2) := by
  rw [readLiteral, h]
  cases readLiteral quote s <;> rfl

/-- A character that needs no escape is read as itself. -/
theorem readLiteral_plain {c quote : Char} (hq : c ≠ quote) (hc : c ≠ '\\') (hn : c ≠ '\n')
    (hr : c ≠ '\r') (s : List Char) :
    readLiteral quote (c :: s) = (readLiteral quote s).map fun p => (c :: p.1, p.2) := by
  rw [readLiteral, if_neg hq, if_neg (by simp [hc, hn, hr])]
  · cases readLiteral quote s <;> rfl
  · intro d r he
    exact absurd he hc

/-- A character as it is written in a literal is read as that character. -/
theorem readLiteral_escapeChar {quote : Char} (hq : quote = '"' ∨ quote = '\'') (c : Char)
    (s : List Char) :
    readLiteral quote (escapeChar c ++ s) =
      (readLiteral quote s).map fun p => (c :: p.1, p.2) := by
  unfold escapeChar
  split
  · next h => exact h ▸ readLiteral_escaped quote (by decide) s
  split
  · next h => exact h ▸ readLiteral_escaped quote (by decide) s
  split
  · next h =>
    refine readLiteral_escaped quote ?_ s
    rcases h with rfl | rfl | rfl <;> decide
  next hn hr h =>
  rw [not_or, not_or] at h
  refine readLiteral_plain ?_ h.2.2 hn hr s
  rcases hq with rfl | rfl
  · exact h.1
  · exact h.2.1

/-- **An escaped text denotes the text**, and the literal ends at the quote behind it. -/
theorem readLiteral_escape {quote : Char} (hq : quote = '"' ∨ quote = '\'')
    (s rest : List Char) : readLiteral quote (escape s ++ quote :: rest) = some (s, rest) := by
  induction s with
  | nil =>
    rw [escape_nil, List.nil_append, readLiteral, if_pos rfl]
    rintro c r rfl
    rcases hq with h | h <;> cases h
  | cons c s ih =>
    rw [escape_cons, List.append_assoc, readLiteral_escapeChar hq, ih]
    rfl

/-- The first line of a registration, cut at the ends of its two keys. -/
theorem registrationHead_eq (name : String) :
    registrationHead name =
      "package.preload[\"".toList ++ (escape name.toList ++ '"' ::
        ("] = package.preload[\"".toList ++ (escape name.toList ++ '"' ::
          "] or function()\n".toList))) := by
  have hmiddle : "\"]".toList ++ (" = ".toList ++ "package.preload[\"".toList) =
      '"' :: "] = package.preload[\"".toList := by decide
  have hend : "\"]".toList ++ " or function()\n".toList = '"' :: "] or function()\n".toList := by
    decide
  unfold registrationHead preloadSlot
  simp only [List.append_assoc]
  rw [hend, ← List.cons_append, ← hmiddle]
  simp only [List.append_assoc]

/-- **The first line of a registration denotes its name** with both of its keys. -/
theorem readHead?_registrationHead (name : String) (rest : List Char) :
    readHead? (registrationHead name ++ rest) = some (name.toList, rest) := by
  have hprefix : ∀ p r : List Char, p.isPrefixOf? (p ++ r) = some r := fun p r =>
    Text.isPrefixOf?_eq_some_iff.2 rfl
  have hliteral : ∀ rest : List Char,
      readLiteral '"' (escape name.toList ++ '"' :: rest) = some (name.toList, rest) :=
    readLiteral_escape (.inl rfl) name.toList
  rw [registrationHead_eq, readHead?]
  simp only [List.append_assoc, List.cons_append, hprefix, hliteral, Option.bind_eq_bind,
    Option.bind_some, if_true]
  rfl

/-- The first line of the registration of a module denotes the name of the module. -/
theorem readHead?_register (name : String) (source : List Char) :
    readHead? (register name source) =
      some (name.toList, (Text.lines source).flatMap indentLine ++ "end".toList) := by
  rw [register, List.append_assoc, readHead?_registrationHead]

end Lua
end LuaBundler
