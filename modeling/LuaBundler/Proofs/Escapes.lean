/-
# Escaped texts in literals

A literal denotes a text character by character (`Denotes`): an escape stands for the character
that it names and any other character for itself.  The language and the scan for comments end a
literal at the same quote (`Denotes.quotes`), although the scan takes any character behind a
backslash and the language only those that it knows.

No escape stands for a character of the placeholder, so a literal holds the placeholder exactly
where the text that it denotes does.  Expanded with an escaped name, it denotes that text expanded
with the name itself (`Denotes.expand`).
-/

import LuaBundler.EntryPrelude
import LuaBundler.Proofs.Blocks
import LuaBundler.Proofs.OneScan
import LuaBundler.Proofs.Registration

namespace LuaBundler

variable {c q : Char} {n p r s t u v x y : List Char}

namespace Lua

/-! ### What the characters of a literal denote -/

/-- Between two quotes `q` the characters `t` denote the text `x`. -/
inductive Denotes (q : Char) : List Char → List Char → Prop
  | nil : Denotes q [] []
  | escaped {c d : Char} {t x : List Char} (hc : unescape? c = some d) (h : Denotes q t x) :
      Denotes q ('\\' :: c :: t) (d :: x)
  | plain {c : Char} {t x : List Char} (hq : c ≠ q) (hb : c ≠ '\\') (hn : c ≠ '\n')
      (hr : c ≠ '\r') (h : Denotes q t x) : Denotes q (c :: t) (c :: x)

/-- The literal is read up to the quote behind it. -/
theorem Denotes.readLiteral_eq (hq : q ≠ '\\') (h : Denotes q t x) (r : List Char) :
    readLiteral q (t ++ q :: r) = some (x, r) := by
  induction h with
  | nil =>
    rw [List.nil_append, readLiteral, if_pos rfl]
    exact fun _ _ he => absurd he hq
  | escaped hc h ih =>
    rw [List.cons_append, List.cons_append, readLiteral_escaped q hc, ih]
    rfl
  | plain hne hb hn hr h ih =>
    rw [List.cons_append, readLiteral_plain hne hb hn hr, ih]
    rfl

/-- What is read as a literal stands in front of a quote. -/
theorem exists_denotes_of_readLiteral (h : readLiteral q s = some (x, r)) :
    ∃ t, s = t ++ q :: r ∧ Denotes q t x := by
  fun_induction readLiteral q s generalizing x with
  | case1 => cases h
  | case2 c s ih =>
    simp only [Option.bind_eq_bind, Option.bind_eq_some_iff, Prod.exists, Option.pure_def,
      Option.some.injEq, Prod.mk.injEq] at h
    obtain ⟨d, hd, y, left, hread, rfl, rfl⟩ := h
    obtain ⟨t, rfl, ht⟩ := ih hread
    exact ⟨'\\' :: c :: t, rfl, .escaped hd ht⟩
  | case3 s hescape =>
    cases h
    exact ⟨[], rfl, .nil⟩
  | case4 => cases h
  | case5 c s hescape hquote hplain ih =>
    simp only [Option.bind_eq_bind, Option.bind_eq_some_iff, Prod.exists, Option.pure_def,
      Option.some.injEq, Prod.mk.injEq] at h
    obtain ⟨y, left, hread, rfl, rfl⟩ := h
    obtain ⟨t, rfl, ht⟩ := ih hread
    rw [not_or, not_or] at hplain
    exact ⟨c :: t, rfl, .plain hquote hplain.1 hplain.2.1 hplain.2.2 ht⟩

/-- **The scan ends a literal where the language does**, whatever follows. -/
theorem Denotes.quotes (hq : q ≠ '\\' ∧ q ≠ '\n') (h : Denotes q t x) (r : List Char) :
    Quotes q (t ++ [q]) r := by
  induction h with
  | nil => exact .close hq.1 hq.2
  | escaped hc h ih => exact .escaped ih
  | plain hne hb hn hr h ih => exact .plain hb hn hne ih

/-- A literal that the language accepts is one segment, with the same text behind it. -/
theorem readSegment_of_readLiteral (hq : q = '"' ∨ q = '\'')
    (h : readLiteral q s = some (x, r)) :
    ∃ t, s = t ++ q :: r ∧ readSegment q s = (.quoted (q :: (t ++ [q])), r) := by
  obtain ⟨t, rfl, ht⟩ := exists_denotes_of_readLiteral h
  have hend := (ht.quotes (ne_of_isQuote hq) r).throughQuote_eq
  rw [List.append_assoc] at hend
  have hbegins : Begins q (t ++ q :: r) (.quoted (q :: (t ++ [q]))) r := .quoted hq hend
  exact ⟨t, rfl, hbegins.readSegment_eq⟩

/-- Literals side by side denote their texts side by side. -/
theorem Denotes.append (h : Denotes q t x) (hu : Denotes q u y) : Denotes q (t ++ u) (x ++ y) := by
  induction h with
  | nil => exact hu
  | escaped hc h ih => exact .escaped hc ih
  | plain hne hb hn hr h ih => exact .plain hne hb hn hr ih

theorem denotes_escape (hq : q = '"' ∨ q = '\'') (s : List Char) : Denotes q (escape s) s := by
  obtain ⟨t, ht, hdenotes⟩ := exists_denotes_of_readLiteral (readLiteral_escape hq s [])
  rwa [List.append_cancel_right ht]

/-- The characters that have escapes. -/
theorem mem_of_unescape? {d : Char} (h : unescape? c = some d) :
    d ∈ ['\n', '\r', '"', '\'', '\\'] := by
  unfold unescape? at h
  split at h
  · cases h
    decide
  split at h
  · cases h
    decide
  split at h
  · next hc =>
    cases h
    rcases hc with rfl | rfl | rfl <;> decide
  · cases h

/-- **A literal begins with a text without escapes if what it denotes does**, and the other way
round. -/
theorem Denotes.exists_of_prefix (h : Denotes q t x)
    (hp : ∀ c ∈ p, c ∉ ['\n', '\r', '"', '\'', '\\']) (hpre : p <+: t ∨ p <+: x) :
    ∃ r y, t = p ++ r ∧ x = p ++ y ∧ Denotes q r y := by
  induction p generalizing t x with
  | nil => exact ⟨t, x, rfl, rfl, h⟩
  | cons c p ih =>
    obtain ⟨hc, hp⟩ := List.forall_mem_cons.1 hp
    have hback : c ≠ '\\' := by
      rintro rfl
      exact hc (by decide)
    cases h with
    | nil => simp at hpre
    | escaped hd h =>
      rcases hpre with hpre | hpre
      · exact absurd (List.cons_prefix_cons.1 hpre).1 hback
      · have hcd := (List.cons_prefix_cons.1 hpre).1
        exact absurd (mem_of_unescape? hd) (hcd ▸ hc)
    | plain hne hb hn hr h =>
      simp only [List.cons_prefix_cons, ← and_or_left] at hpre
      obtain ⟨rfl, hpre⟩ := hpre
      obtain ⟨r, y, rfl, rfl, hrest⟩ := ih h hp hpre
      exact ⟨r, y, rfl, rfl, hrest⟩

end Lua

/-! ### Placeholders -/

namespace EntryPrelude

open Lua

theorem expand_nil (n : List Char) : expand n [] = [] := by
  rw [expand]

theorem expand_placeholder_append (n s : List Char) :
    expand n (placeholder ++ s) = n ++ expand n s := by
  have hne : placeholder ++ s = '{' :: (placeholder.tail ++ s) := rfl
  rw [hne, expand]
  split
  · next rest hfound =>
    rw [← hne, Text.isPrefixOf?_eq_some_iff, List.append_cancel_left_eq] at hfound
    rw [hfound]
  · next hfound =>
    rw [← hne, Text.isPrefixOf?_eq_some_iff.2 rfl] at hfound
    cases hfound

/-- A character with which no placeholder begins stays. -/
theorem expand_cons (h : ¬ placeholder <+: c :: s) : expand n (c :: s) = c :: expand n s := by
  rw [expand]
  split
  · next rest hfound => exact absurd ⟨rest, (Text.isPrefixOf?_eq_some_iff.1 hfound).symm⟩ h
  · rfl

theorem expand_cons_of_ne (hc : c ≠ '{') : expand n (c :: s) = c :: expand n s :=
  expand_cons fun h => hc (List.cons_prefix_cons.1 h).1.symm

theorem expand_of_not_mem (hs : '{' ∉ s) : expand n s = s := by
  induction s with
  | nil => exact expand_nil n
  | cons c s ih =>
    rw [List.mem_cons, not_or] at hs
    rw [expand_cons_of_ne (Ne.symm hs.1), ih hs.2]

/-- What stands before a character that is in no placeholder is expanded on its own. -/
theorem expand_append_cons (hc : c ∉ placeholder) (u v : List Char) :
    expand n (u ++ c :: v) = expand n u ++ c :: expand n v := by
  have hne : c ≠ '{' := by
    rintro rfl
    exact hc (by decide)
  fun_induction expand n u with
  | case1 => exact expand_cons_of_ne hne
  | case2 d u rest hfound ih =>
    rw [Text.isPrefixOf?_eq_some_iff.1 hfound, List.append_assoc, expand_placeholder_append, ih,
      List.append_assoc]
  | case3 d u hfound ih =>
    rw [List.cons_append, expand_cons, ih, List.cons_append]
    intro hpre
    -- a placeholder that ends before the character stands in front of it
    have hcut : (d :: u) ++ [c] <+: (d :: u) ++ c :: v :=
      (List.prefix_append_right_inj _).2 ⟨v, rfl⟩
    rcases List.prefix_or_prefix_of_prefix hpre hcut with h | h
    · rcases List.prefix_concat_iff.1 h with h | ⟨rest, h⟩
      · exact hc (h ▸ List.mem_append_right _ List.mem_cons_self)
      · rw [Text.isPrefixOf?_eq_some_iff.2 h.symm] at hfound
        cases hfound
    · exact hc (h.subset (List.mem_append_right _ List.mem_cons_self))

/-- The name itself is in place of a placeholder alone. -/
theorem expand_placeholder (n : List Char) : expand n placeholder = n := by
  have h := expand_placeholder_append n []
  rwa [expand_nil, List.append_nil, List.append_nil] at h

end EntryPrelude

namespace Lua

open EntryPrelude

/-- **A literal with an escaped name in place of its placeholders denotes what it did with the name
itself in place of them.** -/
theorem Denotes.expand (hq : q = '"' ∨ q = '\'') (n : List Char) (h : Denotes q t x) :
    Denotes q (expand (escape n) t) (expand n x) := by
  have hplace : ∀ c ∈ placeholder, c ∉ ['\n', '\r', '"', '\'', '\\'] := fun c hc => by
    have hall : placeholder.all (fun c => c ∉ ['\n', '\r', '"', '\'', '\\']) = true := rfl
    exact of_decide_eq_true (List.all_eq_true.1 hall c hc)
  -- by the length of the literal, for a placeholder is taken at once
  induction hlength : t.length using Nat.strong_induction_on generalizing t x with
  | _ length ih =>
    subst hlength
    by_cases hpre : placeholder <+: t ∨ placeholder <+: x
    · obtain ⟨r, y, rfl, rfl, hrest⟩ := h.exists_of_prefix hplace hpre
      rw [expand_placeholder_append, expand_placeholder_append]
      refine (denotes_escape hq n).append (ih r.length ?_ hrest rfl)
      rw [List.length_append]
      exact Nat.lt_add_of_pos_left (by decide)
    · rw [not_or] at hpre
      cases h with
      | nil =>
        rw [expand_nil, expand_nil]
        exact .nil
      | @escaped c d t x hd h =>
        have hne : c ≠ '{' := by
          rintro rfl
          cases hd
        rw [expand_cons hpre.1, expand_cons hpre.2, expand_cons_of_ne hne]
        exact .escaped hd (ih t.length (by simp only [List.length_cons]; omega) h rfl)
      | @plain c t x hne hb hn hr h =>
        rw [expand_cons hpre.1, expand_cons hpre.2]
        exact .plain hne hb hn hr (ih t.length (by simp) h rfl)

end Lua

namespace EntryPrelude

open Lua

/-- What stands below a prelude that ends in `v`, from the beginning of `v` on. -/
def below (entry : String) (v contents : List Char) : List Char :=
  Text.dropEndWhile (· == '\n') (expand (escape entry.toList) v) ++ '\n' :: contents

/-- A prelude with a literal in it is placed above an entry. -/
theorem apply_append_cons (hq : q = '"' ∨ q = '\'') (entry : String) (u t v contents : List Char) :
    (ofText (u ++ q :: (t ++ q :: v))).apply entry contents =
      expand (escape entry.toList) u ++
        q :: (expand (escape entry.toList) t ++ q :: below entry v contents) := by
  have hplace : q ∉ placeholder := by
    rcases hq with rfl | rfl <;> decide
  have hblank : ¬ Text.isAllBlank (u ++ q :: (t ++ q :: v)) = true := by
    intro h
    rw [Text.isAllBlank, List.all_eq_true] at h
    have hquote := h q (List.mem_append_right _ List.mem_cons_self)
    rcases hq with rfl | rfl <;> revert hquote <;> decide
  have hend : ∀ y, Text.dropEndWhile (· == '\n') (q :: y) =
      q :: Text.dropEndWhile (· == '\n') y := fun y => by
    rw [Text.dropEndWhile_cons, if_neg]
    rintro ⟨-, hbreak⟩
    exact (ne_of_isQuote hq).2 (eq_of_beq hbreak)
  have hjoin : ∀ x y, Text.dropEndWhile (· == '\n') (x ++ q :: y) =
      x ++ q :: Text.dropEndWhile (· == '\n') y := fun x y => by
    rw [Text.dropEndWhile_append, hend, if_neg (List.cons_ne_nil _ _)]
  rw [ofText, if_neg hblank, apply]
  simp only [expand_append_cons hplace, hjoin, below, List.append_assoc, List.cons_append]

end EntryPrelude

namespace Lua

open EntryPrelude

/-- Stripping leaves the first line of a registration alone. -/
theorem strip_registrationHead (trim : Bool) (name : String) :
    strip trim (registrationHead name) = registrationHead name := by
  cases trim with
  | true => exact tidy_registrationHead name
  | false =>
    have hkept : ∀ seg ∈ segments (registrationHead name), seg.kept = seg.text := by
      intro seg hseg
      rw [segments_registrationHead, List.mem_append, List.mem_singleton] at hseg
      rcases hseg with hseg | rfl
      · exact Segment.kept_eq_text (forall_mem_headSegments name seg hseg).2
      · rfl
    show (segments (registrationHead name)).flatMap Segment.kept = registrationHead name
    rw [List.flatMap_congr hkept, flatMap_text_segments]

/-- **An escaped text is read back**, between either kind of quotes and with any text behind the
second one: it denotes the text, the scan for comments ends it at the same quote, and it is on one
line.  So the first line of a registration is one line that denotes the name twice, and stripping
leaves it alone wherever it begins a line of the code.  A placeholder between quotes denotes the
name of the entry, and in a longer literal the name takes its place. -/
theorem escape_reads_back :
    (∀ q, q = '"' ∨ q = '\'' → ∀ s rest,
      readLiteral q (escape s ++ q :: rest) = some (s, rest) ∧
        readSegment q (escape s ++ q :: rest) = (.quoted (q :: (escape s ++ [q])), rest)) ∧
    (∀ s, ∀ c ∈ escape s, c ≠ '\n' ∧ c ≠ '\r') ∧
    (∀ name source,
      (∃ line body, register name source = line ++ '\n' :: body ∧
        registrationHead name = line ++ ['\n'] ∧ (∀ c ∈ line, c ≠ '\n' ∧ c ≠ '\r') ∧
        readHead? (register name source) = some (name.toList, body)) ∧
      ∀ trim above, EndsFresh above → ∀ rest,
        strip trim (above ++ (registrationHead name ++ rest)) =
          strip trim above ++ (registrationHead name ++ strip trim rest)) ∧
    (∀ q, q = '"' ∨ q = '\'' → ∀ entry u v contents,
      (∃ w, (ofText (u ++ q :: (placeholder ++ q :: v))).apply entry contents =
          expand (escape entry.toList) u ++ q :: w ∧
        readLiteral q w = some (entry.toList, below entry v contents)) ∧
      ∀ t x, readLiteral q (t ++ q :: v) = some (x, v) →
        ∃ w, (ofText (u ++ q :: (t ++ q :: v))).apply entry contents =
            expand (escape entry.toList) u ++ q :: w ∧
          readLiteral q w = some (expand entry.toList x, below entry v contents)) := by
  refine ⟨fun q hq s rest => ?_, fun s c => not_break_of_mem_escape, fun name source => ⟨?_, ?_⟩,
    fun q hq entry u v contents => ⟨?_, fun t x hread => ?_⟩⟩
  · have hread := readLiteral_escape hq s rest
    obtain ⟨t, htext, hscan⟩ := readSegment_of_readLiteral hq hread
    rw [List.append_cancel_right htext]
    exact ⟨htext ▸ hread, htext ▸ hscan⟩
  · obtain ⟨line, hline, hhead⟩ := exists_registrationHead_eq name
    refine ⟨line, _, ?_, hhead, hline, readHead?_register name source⟩
    rw [register, hhead, List.append_assoc, List.append_assoc]
    rfl
  · intro trim above habove rest
    rw [habove.strip_append, (endsFresh_registrationHead name).strip_append,
      strip_registrationHead]
  · refine ⟨_, apply_append_cons hq entry u placeholder v contents, ?_⟩
    rw [expand_placeholder]
    exact readLiteral_escape hq entry.toList _
  · obtain ⟨t', htext, ht⟩ := exists_denotes_of_readLiteral hread
    obtain rfl := List.append_cancel_right htext
    exact ⟨_, apply_append_cons hq entry u t v contents,
      (ht.expand hq entry.toList).readLiteral_eq (ne_of_isQuote hq).1 _⟩

/-- The name has both quotes, a backslash in front of a quote and at its end, a line feed, marks of
comments and a character of two bytes.  The literal in the prelude has an escape behind the
placeholder. -/
theorem escape_reads_back_of_awkward_name :
    let name := "a\\\"--\n[['é\\"
    let above := "x = '--' --[[ y\n]]\n".toList
    let t := "@{script}\\'".toList
    let v := " --z\n\n".toList
    readLiteral '\'' (escape name.toList ++ '\'' :: v) = some (name.toList, v) ∧
      readSegment '\'' (escape name.toList ++ '\'' :: v) =
        (.quoted ('\'' :: (escape name.toList ++ ['\''])), v) ∧
      EndsFresh above ∧
      strip true (above ++ (registrationHead name ++ "return 1 --z\nend".toList)) =
        "x = '--'\n".toList ++ (registrationHead name ++ "return 1\nend".toList) ∧
      readLiteral '\'' (t ++ '\'' :: v) = some ("@{script}'".toList, v) ∧
      ∃ w, (ofText ("s = ".toList ++ '\'' :: (t ++ '\'' :: v))).apply name "return s".toList =
          "s = ".toList ++ '\'' :: w ∧
        readLiteral '\'' w =
          some ("@".toList ++ name.toList ++ "'".toList, " --z\nreturn s".toList) := by
  intro name above t v
  have hquote := escape_reads_back.1 '\'' (.inr rfl) name.toList v
  have habove : EndsFresh above := .inr (by decide +kernel)
  have hstrip := (escape_reads_back.2.2.1 name []).2 true above habove "return 1 --z\nend".toList
  have hread : readLiteral '\'' (t ++ '\'' :: v) = some ("@{script}'".toList, v) := by
    decide +kernel
  obtain ⟨w, happly, hw⟩ := (escape_reads_back.2.2.2 '\'' (.inr rfl) name "s = ".toList v
    "return s".toList).2 t _ hread
  have habove' : strip true above = "x = '--'\n".toList := by decide +kernel
  have hbelow : strip true "return 1 --z\nend".toList = "return 1\nend".toList := by decide +kernel
  have hlead : expand (escape name.toList) "s = ".toList = "s = ".toList :=
    expand_of_not_mem (by decide)
  have hliteral : expand name.toList "@{script}'".toList =
      "@".toList ++ name.toList ++ "'".toList := by
    show expand name.toList ('@' :: (placeholder ++ ['\''])) = '@' :: (name.toList ++ ['\''])
    rw [expand_cons_of_ne (by decide), expand_placeholder_append, expand_of_not_mem (by decide)]
  have hrest : below name v "return s".toList = " --z\nreturn s".toList := by
    have hv : expand (escape name.toList) v = v := expand_of_not_mem (by decide)
    rw [below, hv]
    decide
  refine ⟨hquote.1, hquote.2, habove, ?_, hread, w, ?_, ?_⟩
  · rw [hstrip, habove', hbelow]
  · rw [happly, hlead]
  · rw [hw, hliteral, hrest]

end Lua
end LuaBundler
