/-
# The tokens of a stripped text

The tokens of a text are its words, its string literals and each other character of its code
that is no blank (`tokens`).  Comments stand between tokens, and when they go, what stood
apart can come together: two words, or two brackets that make an opening long bracket
(`fuses`).  Nothing else can: the tokens of a text without comments are those of the text
exactly if nothing fuses, and the same holds of a tidy text, if no string of the text ends in
a blank that tidying takes off (`tokens_strip_eq_iff`).

A comment is not replaced by a blank, so `return--[[x]]1` becomes the one word `return1`
(`words_and_brackets_fuse`).
-/

import LuaBundler.Proofs.Thinning

namespace LuaBundler
namespace Lua

open Text

variable {a c : Char} {s : List Char} {seg : Segment} {ss ts us : List Segment}

/-- The characters of names and numbers. -/
def isWordChar (c : Char) : Bool := c.isAlphanum || c == '_'

/-- What a program is made of. -/
inductive Token
  /-- A name, a keyword or a number. -/
  | word (text : List Char)
  /-- A string literal, as it is written. -/
  | literal (text : List Char)
  /-- Any other character: a bracket, or a part of an operator. -/
  | mark (c : Char)
  deriving DecidableEq, Repr

/-- The next segment is a character of a word. -/
def startsWord : List Segment → Bool
  | .code c :: _ => isWordChar c
  | _ => false

/-- The tokens with `c` before them, in one word with the next if `joined` says so. -/
def addWordChar (c : Char) (joined : Bool) (ts : List Token) : List Token :=
  match joined, ts with
  | true, .word w :: ts => .word (c :: w) :: ts
  | _, ts => .word [c] :: ts

/-- The tokens that segments make up.  A word goes on as long as its characters follow each
other. -/
def tokensOf : List Segment → List Token
  | [] => []
  | .code c :: ss =>
    if isWordChar c then addWordChar c (startsWord ss) (tokensOf ss)
    else if isBlank c then tokensOf ss
    else .mark c :: tokensOf ss
  | .quoted t :: ss => .literal t :: tokensOf ss
  | .longString t :: ss => .literal t :: tokensOf ss
  | _ :: ss => tokensOf ss

/-- The tokens of a text. -/
def tokens (s : List Char) : List Token := tokensOf (segments s)

/-- A word of the code ends here, and another one begins behind comments. -/
def fusesWords (seg : Segment) (ss : List Segment) : Bool :=
  startsWord [seg] && !startsWord ss && startsWord (ss.dropWhile Segment.isComment)

/-- Somewhere two words, or two brackets that make an opening long bracket, come together when
the comments between them go. -/
def fuses : List Segment → Bool
  | [] => false
  | seg :: ss => fusesWords seg ss || seg == .code '[' && opensBehind ss || fuses ss

/-! ### Words -/

theorem isBlank_eq_false_of_isWordChar (h : isWordChar c = true) : isBlank c = false := by
  have hrange : ∀ {lo hi : Char}, lo.val ≤ c.val → c.val ≤ hi.val → 48 ≤ lo.toNat →
      hi.toNat ≤ 122 → 48 ≤ c.toNat ∧ c.toNat ≤ 122 := fun hlo hhi h48 h122 =>
    ⟨h48.trans (UInt32.le_iff_toNat_le.1 hlo), (UInt32.le_iff_toNat_le.1 hhi).trans h122⟩
  have hc : 48 ≤ c.toNat ∧ c.toNat ≤ 122 := by
    rcases Bool.or_eq_true_iff.1 h with h | h
    · rcases Bool.or_eq_true_iff.1 h with h | hdigit
      · rcases Bool.or_eq_true_iff.1 h with hupper | hlower
        · obtain ⟨hlo, hhi⟩ := of_decide_eq_true hupper
          exact hrange hlo hhi (by decide) (by decide)
        · obtain ⟨hlo, hhi⟩ := Bool.and_eq_true_iff.1 hlower
          exact hrange (of_decide_eq_true hlo) (of_decide_eq_true hhi) (by decide) (by decide)
      · obtain ⟨hlo, hhi⟩ := Bool.and_eq_true_iff.1 hdigit
        exact hrange (of_decide_eq_true hlo) (of_decide_eq_true hhi) (by decide) (by decide)
    · obtain rfl := eq_of_beq h
      decide
  simp only [isBlank, Bool.or_eq_false_iff, Bool.and_eq_false_iff, decide_eq_false_iff_not,
    beq_eq_false_iff_ne]
  omega

theorem tokensOf_isComment (h : seg.isComment = true) : tokensOf (seg :: ss) = tokensOf ss := by
  cases seg <;> first | rfl | cases h

theorem startsWord_of_isBlank (h : isBlank c = true) : startsWord (.code c :: ss) = false :=
  Bool.eq_false_iff.2 fun hword => by
    rw [isBlank_eq_false_of_isWordChar hword] at h
    cases h

theorem tokensOf_isBlank (h : isBlank c = true) : tokensOf (.code c :: ss) = tokensOf ss := by
  rw [tokensOf, if_pos h, if_neg]
  have hword : startsWord [.code c] = false := startsWord_of_isBlank h
  exact Bool.eq_false_iff.1 hword

theorem addWordChar_false (a : Char) (ts : List Token) : addWordChar a false ts = .word [a] :: ts :=
  rfl

/-- Where a word starts, it is the first token, and a character before it joins it. -/
theorem exists_addWordChar_eq (a : Char) (h : startsWord ss = true) :
    ∃ c w ts, tokensOf ss = .word (c :: w) :: ts ∧
      addWordChar a true (tokensOf ss) = .word (a :: c :: w) :: ts := by
  unfold startsWord at h
  split at h
  · next c ss =>
    rw [tokensOf, if_pos h]
    unfold addWordChar
    split
    · exact ⟨_, _, _, rfl, rfl⟩
    · exact ⟨_, _, _, rfl, rfl⟩
  · cases h

/-- Behind a segment that is read the same, the same tokens are left, and a word goes on in
both texts or in none. -/
theorem tokensOf_cons_inj (h : tokensOf (seg :: ts) = tokensOf (seg :: us)) :
    tokensOf ts = tokensOf us ∧ (startsWord [seg] = true → startsWord ts = startsWord us) := by
  cases seg with
  | code a =>
    by_cases ha : isWordChar a = true
    · rw [tokensOf, tokensOf, if_pos ha, if_pos ha] at h
      cases hts : startsWord ts <;> cases hus : startsWord us <;> rw [hts, hus] at h
      · exact ⟨(List.cons.inj h).2, fun _ => rfl⟩
      · obtain ⟨c, w, vs, -, hadd⟩ := exists_addWordChar_eq a hus
        rw [hadd, addWordChar_false] at h
        cases h
      · obtain ⟨c, w, vs, -, hadd⟩ := exists_addWordChar_eq a hts
        rw [hadd, addWordChar_false] at h
        cases h
      · obtain ⟨c, w, vs, heq, hadd⟩ := exists_addWordChar_eq a hts
        obtain ⟨c', w', vs', heq', hadd'⟩ := exists_addWordChar_eq a hus
        rw [hadd, hadd'] at h
        cases h
        exact ⟨heq.trans heq'.symm, fun _ => rfl⟩
    · rw [tokensOf, tokensOf, if_neg ha, if_neg ha] at h
      refine ⟨?_, fun hword => absurd hword ha⟩
      split at h
      · exact h
      · exact (List.cons.inj h).2
  | quoted t => exact ⟨(List.cons.inj h).2, fun hword => by cases hword⟩
  | longString t => exact ⟨(List.cons.inj h).2, fun hword => by cases hword⟩
  | lineComment t => exact ⟨h, fun hword => by cases hword⟩
  | blockComment t => exact ⟨h, fun hword => by cases hword⟩

/-- Thinning keeps the start of a word, or moves it up through comments. -/
theorem startsWord_thin (trim : Bool) (ss : List Segment) :
    startsWord (thin trim ss) = startsWord (ss.dropWhile Segment.isComment) := by
  induction ss with
  | nil => rfl
  | cons seg ss ih =>
    rcases thin_cons_cases trim seg ss with
      ⟨hcomment, heq⟩ | ⟨⟨c, rfl, hblank⟩, hends, heq⟩ | ⟨hcomment, heq⟩ <;> rw [heq]
    · rw [List.dropWhile_cons, if_pos hcomment, ih]
    · rw [List.dropWhile_cons, if_neg (by simp [Segment.isComment]), startsWord_of_isBlank hblank]
      rcases hends with hnil | hbreak
      · rw [hnil]
        rfl
      · obtain ⟨ts, hts⟩ := List.head?_eq_some_iff.1 hbreak
        rw [hts]
        rfl
    · rw [List.dropWhile_cons, if_neg (by simp [hcomment])]
      cases seg <;> rfl

/-- Behind a word another one starts as before, if they do not fuse. -/
theorem startsWord_thin_eq (trim : Bool) (hseg : startsWord [seg] = true)
    (h : fusesWords seg ss = false) : startsWord (thin trim ss) = startsWord ss := by
  rw [startsWord_thin]
  rw [fusesWords, hseg, Bool.true_and, Bool.and_eq_false_iff] at h
  rcases h with hstarts | hdrop
  · rw [Bool.not_eq_false'] at hstarts
    rw [hstarts]
    cases ss with
    | nil => cases hstarts
    | cons seg' ss =>
      cases seg' with
      | code c => exact hstarts
      | _ => cases hstarts
  · cases ss with
    | nil => rfl
    | cons seg' ss =>
      cases seg' with
      | code c => rfl
      | quoted t => rfl
      | longString t => rfl
      | lineComment t => exact hdrop
      | blockComment t => exact hdrop

/-! ### Fusing -/

theorem fusesBrackets_of_fuses (h : fuses ss = false) : fusesBrackets ss = false := by
  induction ss with
  | nil => rfl
  | cons seg ss ih =>
    rw [fuses, Bool.or_eq_false_iff, Bool.or_eq_false_iff] at h
    rw [fusesBrackets, h.1.2, ih h.2]
    rfl

/-- Thinning keeps the tokens, if nothing fuses. -/
theorem tokensOf_thin (trim : Bool) (h : fuses ss = false) :
    tokensOf (thin trim ss) = tokensOf ss := by
  induction ss with
  | nil => rfl
  | cons seg ss ih =>
    rw [fuses, Bool.or_eq_false_iff, Bool.or_eq_false_iff] at h
    have htokens := ih h.2
    rcases thin_cons_cases trim seg ss with
      ⟨hcomment, heq⟩ | ⟨⟨c, rfl, hblank⟩, -, heq⟩ | ⟨-, heq⟩ <;> rw [heq]
    · rw [tokensOf_isComment hcomment, htokens]
    · rw [tokensOf_isBlank hblank, htokens]
    · cases seg with
      | code a =>
        rw [tokensOf, tokensOf, htokens]
        split
        · next ha =>
          have hword : startsWord [.code a] = true := ha
          rw [startsWord_thin_eq trim hword h.1.1]
        · rfl
      | _ => simp only [tokensOf, htokens]

/-- The text of a bracket that opens a long bracket is no token of its own. -/
theorem exists_tokens_bracket {x : List Char} (h : (afterOpener? ('[' :: x)).isSome = true) :
    ∃ t ts, tokens ('[' :: x) = .literal t :: ts := by
  obtain ⟨⟨k, body⟩, hopen⟩ := Option.isSome_iff_exists.1 h
  have hbegins : Begins '[' x (.longString (opener k ++ (throughCloser k body).1))
      (throughCloser k body).2 := .longString hopen rfl
  rw [tokens, segments, hbegins.readSegment_eq]
  exact ⟨_, _, rfl⟩

/-- Only words and brackets fuse with what follows. -/
theorem fuses_cons (hword : startsWord [seg] = false) (hopen : seg ≠ .code '[') :
    fuses (seg :: ss) = fuses ss := by
  rw [fuses, fusesWords, hword, beq_eq_false_iff_ne.2 hopen]
  rfl

/-- If the same tokens are read, the thinned segments are, and nothing fuses. -/
theorem segments_written_thin_of_tokens (trim : Bool) (h : Legible ss)
    (htokens : tokens (written (thin trim ss)) = tokensOf ss) :
    segments (written (thin trim ss)) = thin trim ss ∧ fuses ss = false := by
  induction ss with
  | nil => exact ⟨by rw [thin, written_nil, segments], rfl⟩
  | cons seg ss ih =>
    have hss := (legible_cons_iff.1 h).2
    rcases thin_cons_cases trim seg ss with
      ⟨hcomment, heq⟩ | ⟨⟨c, rfl, hblank⟩, -, heq⟩ | ⟨hcomment, heq⟩ <;> rw [heq] at htokens ⊢
    · rw [tokensOf_isComment hcomment] at htokens
      have hword : startsWord [seg] = false := by cases seg <;> first | rfl | cases hcomment
      rw [fuses_cons hword (by rintro rfl; cases hcomment)]
      exact ih hss htokens
    · rw [tokensOf_isBlank hblank] at htokens
      rw [fuses_cons (startsWord_of_isBlank hblank) (by rintro ⟨⟩; cases hblank)]
      exact ih hss htokens
    · have hopen : seg = .code '[' → opensBehind ss = false := by
        rintro rfl
        refine Bool.eq_false_iff.2 fun hopens => ?_
        rw [← isSome_afterOpener?_written_thin trim hss] at hopens
        obtain ⟨t, ts, ht⟩ := exists_tokens_bracket hopens
        rw [written_cons, Segment.text, List.singleton_append, ht] at htokens
        cases htokens
      have hstands := stands_thin trim h hcomment hopen
      rw [written_cons, hstands.segments_eq]
      rw [tokens, written_cons, hstands.segments_eq] at htokens
      obtain ⟨hrest, hstarts⟩ := tokensOf_cons_inj htokens
      obtain ⟨hread, hfuse⟩ := ih hss hrest
      refine ⟨by rw [hread], ?_⟩
      rw [hread, startsWord_thin] at hstarts
      have hwords : fusesWords seg ss = false := by
        rw [fusesWords]
        cases hword : startsWord [seg] with
        | false => rfl
        | true => rw [hstarts hword, Bool.true_and, Bool.not_and_self]
      have hbrackets : (seg == .code '[' && opensBehind ss) = false := by
        rw [Bool.and_eq_false_iff, beq_eq_false_iff_ne]
        by_cases hseg : seg = .code '['
        · exact .inr (hopen hseg)
        · exact .inl hseg
      rw [fuses, hwords, hbrackets, hfuse]
      rfl

/-- **The tokens read from what thinned segments write are those of the segments exactly if
nothing fuses.** -/
theorem tokens_written_thin_iff (trim : Bool) (h : Legible ss) :
    tokens (written (thin trim ss)) = tokensOf ss ↔ fuses ss = false := by
  refine ⟨fun htokens => (segments_written_thin_of_tokens trim h htokens).2, fun hfuse => ?_⟩
  rw [tokens, (legible_thin trim h (fusesBrackets_of_fuses hfuse)).segments_eq,
    tokensOf_thin trim hfuse]

/-- A line feed at the beginning makes no token. -/
theorem tokens_break (s : List Char) : tokens ('\n' :: s) = tokens s := by
  rw [tokens, segments_break, tokensOf_isBlank rfl, tokens]

/-- **A stripped text has the tokens of the text exactly if nothing fuses**: neither two words
nor two brackets come together when the comments between them go.  A string that ends in a
blank is not terminated; tidying shortens it, so it is left out there. -/
theorem tokens_strip_eq_iff (s : List Char) :
    (tokens (removeComments s) = tokens s ↔ fuses (segments s) = false) ∧
      ((∀ seg ∈ segments s, seg.isString = true → EndsBare seg.text) →
        (tokens (tidy s) = tokens s ↔ fuses (segments s) = false)) := by
  have hthin : ∀ trim, tokens (written (stripped trim (segments s))) = tokens s ↔
      fuses (segments s) = false := fun trim => by
    rw [← tokens_written_thin_iff trim (legible_segments s), ← tokens]
    rcases thin_eq_or_cons_stripped trim (segments s) with h | h <;> rw [h]
    rw [written_cons, Segment.text, List.singleton_append, tokens_break]
  refine ⟨?_, fun hbare => ?_⟩
  · rw [removeComments_eq_written]
    exact hthin false
  · rw [tidy_eq_written hbare]
    exact hthin true

/-- Comments beside a sign or a blank keep nothing apart. -/
theorem tokens_strip_of_comments_beside_signs :
    let s := "local x--[[a]]= t[--[[b]]1] --c\n  .. [[ d \n]]--[=[\n]=]\n\nreturn--e\nx".toList
    (∀ seg ∈ segments s, seg.isString = true → seg.isTerminated = true) ∧
      fuses (segments s) = false ∧
      tokens (removeComments s) = tokens s ∧ tokens (tidy s) = tokens s ∧
      tidy s = "local x= t[1]\n  .. [[ d \n]]\nreturn\nx".toList := by
  intro s
  have hstring : ∀ seg ∈ segments s, seg.isString = true → seg.isTerminated = true := by
    decide +kernel
  have hfuse : fuses (segments s) = false := by decide +kernel
  obtain ⟨hremove, htidy⟩ := tokens_strip_eq_iff s
  have hbare := fun seg hseg h => Segment.endsBare_of_isTerminated (hstring seg hseg h)
  exact ⟨hstring, hfuse, hremove.2 hfuse, (htidy hbare).2 hfuse, by decide +kernel⟩

/-- **Words and brackets fuse** where nothing but a comment stands between them.  In the
first text a keyword and a number become a name, and in the second a bracket gets into the
string behind it. -/
theorem words_and_brackets_fuse :
    let s := "return--[[x]]1".toList
    let t := "t[--[[x]][[k]]]".toList
    tokens s = [.word "return".toList, .word "1".toList] ∧
      (∀ trim, strip trim s = "return1".toList) ∧
      tokens "return1".toList = [.word "return1".toList] ∧
      tokens t = [.word "t".toList, .mark '[', .literal "[[k]]".toList, .mark ']'] ∧
      (∀ trim, strip trim t = "t[[[k]]]".toList) ∧
      tokens "t[[[k]]]".toList = [.word "t".toList, .literal "[[[k]]".toList, .mark ']'] := by
  decide +kernel

end Lua
end LuaBundler
