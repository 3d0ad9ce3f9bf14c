/-
# The ends of a text

A text begins with another exactly when the other and what `isPrefixOf?` returns
make it up (`isPrefixOf?_eq_some_iff`).  Dropping characters off its beginning
makes no text longer (`length_dropWhile_le`).

`dropEndWhile p` takes characters off the end of a text as long as they satisfy
`p`.  The result is the longest beginning of the text whose last character does
not satisfy `p`: what is cut off satisfies `p` (`exists_dropEndWhile_append`),
and the last character that stays does not (`getLast?_dropEndWhile`).
-/

namespace LuaBundler
namespace Text

/-- `isPrefixOf?` finds what follows `p` in a text that begins with `p`. -/
theorem isPrefixOf?_eq_some_iff {p s r : List Char} :
    p.isPrefixOf? s = some r ↔ s = p ++ r := by
  induction p generalizing s with
  | nil => exact Option.some_inj
  | cons c p ih =>
    cases s with
    | nil =>
      show none = some r ↔ [] = c :: (p ++ r)
      simp
    | cons d s =>
      show (if c == d then p.isPrefixOf? s else none) = some r ↔ d :: s = c :: (p ++ r)
      by_cases h : c = d
      · simp [h, ih]
      · simp [h, Ne.symm h]

/-- What stays when the beginning of a text is dropped is no longer than the text. -/
theorem length_dropWhile_le (p : Char → Bool) (s : List Char) :
    (s.dropWhile p).length ≤ s.length :=
  (List.dropWhile_sublist p).length_le

/-- A text without the characters satisfying `p` that it ends in. -/
def dropEndWhile (p : Char → Bool) : List Char → List Char
  | [] => []
  | c :: r =>
    match dropEndWhile p r with
    | [] => if p c then [] else [c]
    | t => c :: t

variable {p : Char → Bool}

@[simp] theorem dropEndWhile_nil : dropEndWhile p [] = [] := rfl

/-- One step of `dropEndWhile` from the front. -/
theorem dropEndWhile_cons (c : Char) (r : List Char) :
    dropEndWhile p (c :: r) =
      if dropEndWhile p r = [] ∧ p c = true then [] else c :: dropEndWhile p r := by
  cases h : dropEndWhile p r <;> by_cases hc : p c <;> simp [dropEndWhile, h, hc]

/-- What is cut off satisfies `p`. -/
theorem exists_dropEndWhile_append (s : List Char) :
    ∃ t, s = dropEndWhile p s ++ t ∧ ∀ c ∈ t, p c = true := by
  induction s with
  | nil => exact ⟨[], rfl, by simp⟩
  | cons c r ih =>
    obtain ⟨t, ht, hp⟩ := ih
    rw [dropEndWhile_cons]
    split
    · next h =>
      rw [h.1] at ht
      refine ⟨c :: r, rfl, fun x hx => ?_⟩
      rcases List.mem_cons.1 hx with rfl | hx
      · exact h.2
      · exact hp x (by simpa [ht] using hx)
    · exact ⟨t, by rw [List.cons_append, ← ht], hp⟩

/-- Nothing is left exactly when every character satisfies `p`. -/
theorem dropEndWhile_eq_nil_iff {s : List Char} :
    dropEndWhile p s = [] ↔ ∀ c ∈ s, p c = true := by
  induction s with
  | nil => simp
  | cons c r ih =>
    rw [dropEndWhile_cons]
    split
    · next h => simpa [h.2] using ih.1 h.1
    · next h => simp only [List.mem_cons, forall_eq_or_imp, reduceCtorEq, false_iff]
                exact fun hc => h ⟨ih.2 hc.2, hc.1⟩

/-- What is cut off at once leaves nothing to cut off. -/
theorem dropEndWhile_dropEndWhile (s : List Char) :
    dropEndWhile p (dropEndWhile p s) = dropEndWhile p s := by
  induction s with
  | nil => rfl
  | cons c r ih =>
    rw [dropEndWhile_cons]
    split
    · rfl
    · next h => rw [dropEndWhile_cons, ih, if_neg h]

/-- The last character that stays does not satisfy `p`. -/
theorem getLast?_dropEndWhile {s : List Char} {c : Char}
    (h : (dropEndWhile p s).getLast? = some c) : p c = false := by
  induction s with
  | nil => simp at h
  | cons d r ih =>
    rw [dropEndWhile_cons] at h
    split at h
    · simp at h
    · next hn =>
      cases hr : dropEndWhile p r with
      | nil =>
        simp [hr] at h hn
        exact h ▸ hn
      | cons e t =>
        rw [hr] at h ih
        exact ih (by simpa [List.getLast?_cons_cons] using h)

end Text
end LuaBundler
