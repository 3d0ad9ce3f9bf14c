/-
# Texts as bytes

`utf8` writes a text as bytes, character by character.  The byte of an ASCII character is part of
no other character (`eq_toUInt8_iff`).  So a run of bytes that is described by ASCII bytes is a run
of characters (`takeWhile_utf8`), and ASCII bytes begin the bytes of a text exactly where their
characters begin the text (`utf8_prefix_iff`).

The bytes of a string are those of its text (`bytes_eq`).  A piece of it is a string again if both
of its ends are boundaries of characters (`slice?`), and what stands between two parts of the text
is such a piece (`slice?_eq`).
-/

import LuaBundler.Text.Ends
import Mathlib.Data.List.Basic

namespace LuaBundler
namespace Text

variable {a c : Char} {x : UInt8} {p s u v m : List Char} {f : UInt8 → Bool} {g : Char → Bool}

/-! ### Bytes and characters -/

/-- The bytes of a text. -/
def utf8 (s : List Char) : List UInt8 := s.flatMap String.utf8EncodeChar

@[simp] theorem utf8_nil : utf8 [] = [] := rfl

theorem utf8_cons (c : Char) (s : List Char) : utf8 (c :: s) = String.utf8EncodeChar c ++ utf8 s :=
  rfl

theorem utf8_append (s t : List Char) : utf8 (s ++ t) = utf8 s ++ utf8 t :=
  List.flatMap_append

/-- An ASCII character is one byte. -/
theorem utf8EncodeChar_of_lt (h : c.toNat < 128) : String.utf8EncodeChar c = [c.toUInt8] := by
  have hval : c.val.toNat ≤ 127 := Nat.le_of_lt_succ h
  rw [String.utf8EncodeChar, if_pos hval]
  rfl

/-- No other character has an ASCII byte in it. -/
theorem le_of_mem_utf8EncodeChar (h : 128 ≤ c.toNat) (hx : x ∈ String.utf8EncodeChar c) :
    128 ≤ x.toNat := by
  have hval : ¬ c.val.toNat ≤ 127 := Nat.not_le_of_lt h
  unfold String.utf8EncodeChar at hx
  simp only [if_neg hval] at hx
  split at hx
  · simp only [List.mem_cons, List.not_mem_nil, or_false] at hx
    rcases hx with rfl | rfl <;> simp only [UInt8.toNat_ofNat'] <;> omega
  split at hx
  · simp only [List.mem_cons, List.not_mem_nil, or_false] at hx
    rcases hx with rfl | rfl | rfl <;> simp only [UInt8.toNat_ofNat'] <;> omega
  · simp only [List.mem_cons, List.not_mem_nil, or_false] at hx
    rcases hx with rfl | rfl | rfl | rfl <;> simp only [UInt8.toNat_ofNat'] <;> omega

theorem toNat_toUInt8 (h : c.toNat < 128) : c.toUInt8.toNat = c.toNat := by
  show c.val.toNat % 2 ^ 8 = c.toNat
  exact Nat.mod_eq_of_lt (by show c.toNat < 256; omega)

/-- **The byte of an ASCII character is part of that character only.** -/
theorem eq_toUInt8_iff (ha : a.toNat < 128) (hx : x ∈ String.utf8EncodeChar c) :
    x = a.toUInt8 ↔ c = a := by
  constructor
  · rintro rfl
    by_cases hc : c.toNat < 128
    · rw [utf8EncodeChar_of_lt hc, List.mem_singleton] at hx
      have hnat := congrArg UInt8.toNat hx
      rw [toNat_toUInt8 ha, toNat_toUInt8 hc] at hnat
      exact Char.toNat_inj.1 hnat.symm
    · have hle := le_of_mem_utf8EncodeChar (Nat.le_of_not_lt hc) hx
      rw [toNat_toUInt8 ha] at hle
      omega
  · rintro rfl
    rwa [utf8EncodeChar_of_lt ha, List.mem_singleton] at hx

theorem exists_utf8EncodeChar_eq (c : Char) : ∃ x l, String.utf8EncodeChar c = x :: l :=
  List.exists_cons_of_ne_nil String.utf8EncodeChar_ne_nil

/-- The bytes of a character behind its first one are no ASCII bytes. -/
theorem ne_toUInt8_of_mem_tail {y : UInt8} {l : List UInt8} (h : String.utf8EncodeChar c = x :: l)
    (hy : y ∈ l) (ha : a.toNat < 128) : y ≠ a.toUInt8 := by
  rintro rfl
  have hmem : a.toUInt8 ∈ String.utf8EncodeChar c := h ▸ List.mem_cons_of_mem _ hy
  obtain rfl := (eq_toUInt8_iff ha hmem).1 rfl
  rw [utf8EncodeChar_of_lt ha, List.cons.injEq] at h
  rw [← h.2] at hy
  cases hy

/-- The bytes of ASCII characters, one for each. -/
theorem utf8_of_forall_lt (h : ∀ c ∈ s, c.toNat < 128) : utf8 s = s.map Char.toUInt8 := by
  induction s with
  | nil => rfl
  | cons c s ih =>
    obtain ⟨hc, hs⟩ := List.forall_mem_cons.1 h
    rw [utf8_cons, utf8EncodeChar_of_lt hc, ih hs]
    rfl

theorem length_utf8_le_append (u v : List Char) : (utf8 u).length ≤ (utf8 (u ++ v)).length := by
  rw [utf8_append, List.length_append]
  exact Nat.le_add_right _ _

/-- A character adds bytes. -/
theorem length_utf8_lt_append_cons (u : List Char) (c : Char) (v : List Char) :
    (utf8 u).length < (utf8 (u ++ c :: v)).length := by
  have hpos := List.length_pos_iff.2 (String.utf8EncodeChar_ne_nil (c := c))
  rw [utf8_append, utf8_cons, List.length_append, List.length_append]
  omega

theorem length_utf8_append_of_forall_lt (u : List Char) (h : ∀ c ∈ p, c.toNat < 128) :
    (utf8 (u ++ p)).length = (utf8 u).length + p.length := by
  rw [utf8_append, List.length_append, utf8_of_forall_lt h, List.length_map]

theorem length_utf8_concat (ha : a.toNat < 128) (u : List Char) :
    (utf8 (u ++ [a])).length = (utf8 u).length + 1 := by
  rw [utf8_append, List.length_append, utf8_cons, utf8EncodeChar_of_lt ha]
  rfl

/-- What is said of bytes is said of the characters that they are part of. -/
def Agrees (f : UInt8 → Bool) (g : Char → Bool) : Prop :=
  ∀ c, ∀ x ∈ String.utf8EncodeChar c, f x = g c

theorem agrees_eq (ha : a.toNat < 128) : Agrees (· == a.toUInt8) (· == a) := fun c x hx => by
  rw [Bool.eq_iff_iff, beq_iff_eq, beq_iff_eq]
  exact eq_toUInt8_iff ha hx

theorem Agrees.not (h : Agrees f g) : Agrees (fun x => !f x) (fun c => !g c) := fun c x hx =>
  congrArg Bool.not (h c x hx)

theorem Agrees.or {f' : UInt8 → Bool} {g' : Char → Bool} (h : Agrees f g) (h' : Agrees f' g') :
    Agrees (fun x => f x || f' x) (fun c => g c || g' c) := fun c x hx =>
  congrArg₂ (· || ·) (h c x hx) (h' c x hx)

/-- A run of bytes is a run of characters. -/
theorem takeWhile_utf8 (h : Agrees f g) (s : List Char) :
    (utf8 s).takeWhile f = utf8 (s.takeWhile g) := by
  induction s with
  | nil => rfl
  | cons c s ih =>
    rw [utf8_cons]
    cases hc : g c with
    | true =>
      rw [List.takeWhile_append_of_pos fun x hx => (h c x hx).trans hc, ih,
        List.takeWhile_cons_of_pos hc, utf8_cons]
    | false =>
      obtain ⟨x, l, hbytes⟩ := exists_utf8EncodeChar_eq c
      have hx : ¬ f x = true := by
        rw [h c x (hbytes ▸ List.mem_cons_self), hc]
        exact Bool.false_ne_true
      rw [hbytes, List.cons_append, List.takeWhile_cons_of_neg hx,
        List.takeWhile_cons_of_neg (by simp [hc]), utf8_nil]

/-- **ASCII characters begin a text where their bytes begin its bytes.** -/
theorem utf8_prefix_iff (hp : ∀ a ∈ p, a.toNat < 128) : utf8 p <+: utf8 s ↔ p <+: s := by
  refine ⟨fun h => ?_, fun ⟨t, ht⟩ => ⟨utf8 t, by rw [← ht, utf8_append]⟩⟩
  induction p generalizing s with
  | nil => exact List.nil_prefix
  | cons a p ih =>
    obtain ⟨ha, hrest⟩ := List.forall_mem_cons.1 hp
    rw [utf8_cons, utf8EncodeChar_of_lt ha, List.singleton_append] at h
    cases s with
    | nil => cases List.prefix_nil.1 h
    | cons c s =>
      obtain ⟨x, l, hbytes⟩ := exists_utf8EncodeChar_eq c
      rw [utf8_cons, hbytes, List.cons_append, List.cons_prefix_cons] at h
      obtain ⟨hx, h⟩ := h
      obtain rfl := (eq_toUInt8_iff ha (hbytes ▸ List.mem_cons_self)).1 hx.symm
      rw [utf8EncodeChar_of_lt ha, List.cons.injEq] at hbytes
      rw [← hbytes.2, List.nil_append] at h
      exact List.cons_prefix_cons.2 ⟨rfl, ih hrest h⟩

/-- The bytes behind the beginning of a text are those of the rest. -/
theorem getElem?_utf8_append (u s : List Char) (i : ℕ) :
    (utf8 (u ++ s))[(utf8 u).length + i]? = (utf8 s)[i]? := by
  rw [utf8_append, List.getElem?_append_right (Nat.le_add_right _ _), Nat.add_sub_cancel_left]

theorem drop_utf8_append (u s : List Char) : (utf8 (u ++ s)).drop (utf8 u).length = utf8 s := by
  rw [utf8_append, List.drop_left]

/-- Behind the beginning of a text there is the byte of the character that comes next. -/
theorem getElem?_utf8_append_eq_some_iff (ha : a.toNat < 128) (u s : List Char) :
    (utf8 (u ++ s))[(utf8 u).length]? = some a.toUInt8 ↔ s.head? = some a := by
  have hplace := getElem?_utf8_append u s 0
  rw [Nat.add_zero] at hplace
  rw [hplace]
  cases s with
  | nil => exact iff_of_false nofun nofun
  | cons c s =>
    obtain ⟨x, l, hbytes⟩ := exists_utf8EncodeChar_eq c
    rw [utf8_cons, hbytes, List.cons_append, List.getElem?_cons_zero, List.head?_cons,
      Option.some_inj, Option.some_inj]
    exact eq_toUInt8_iff ha (hbytes ▸ List.mem_cons_self)

/-! ### Pieces of a string -/

/-- The bytes of a string. -/
def bytes (s : String) : List UInt8 := s.toByteArray.data.toList

theorem bytes_eq (s : String) : bytes s = utf8 s.toList := by
  rw [bytes, ← String.utf8Encode_toList, List.utf8Encode, List.toList_data_toByteArray, utf8]

theorem bytes_inj {s t : String} : bytes s = bytes t ↔ s = t := by
  refine ⟨fun h => String.toByteArray_inj.1 (ByteArray.ext (Array.toList_inj.1 h)), fun h => ?_⟩
  rw [h]

/-- A character begins at a place among the bytes of a string, or the string ends there. -/
def IsBoundary (s : String) (i : ℕ) : Prop := String.Pos.Raw.IsValid s ⟨i⟩

instance (s : String) (i : ℕ) : Decidable (IsBoundary s i) :=
  inferInstanceAs (Decidable (String.Pos.Raw.IsValid s ⟨i⟩))

/-- The piece of a string between two places, if both of them are boundaries and the first is not
behind the second. -/
def slice? (s : String) (i j : ℕ) : Option String :=
  if h : IsBoundary s i ∧ IsBoundary s j ∧ i ≤ j then
    some (s.extract ⟨⟨i⟩, h.1⟩ ⟨⟨j⟩, h.2.1⟩)
  else none

/-- Between two parts of a text there is a boundary. -/
theorem isBoundary_of_toList {s : String} (h : s.toList = u ++ v) :
    IsBoundary s (utf8 u).length := by
  rw [IsBoundary, String.Pos.Raw.isValid_iff_exists_append]
  refine ⟨String.ofList u, String.ofList v, ?_, ?_⟩
  · rw [← String.ofList_append, ← h, String.ofList_toList]
  · have hsize : (bytes (String.ofList u)).length = (utf8 u).length := by
      rw [bytes_eq, String.toList_ofList]
    rw [← hsize]
    rfl

theorem bytes_extract {s : String} (i j : s.Pos) :
    bytes (s.extract i j) =
      ((bytes s).drop i.offset.byteIdx).take (j.offset.byteIdx - i.offset.byteIdx) := by
  rw [bytes, String.toByteArray_extract, ByteArray.data_extract, Array.toList_extract]
  rfl

/-- **A part of a text is a piece of the string.** -/
theorem slice?_eq {s : String} (h : s.toList = u ++ (m ++ v)) :
    slice? s (utf8 u).length (utf8 (u ++ m)).length = some (String.ofList m) := by
  have hstart : IsBoundary s (utf8 u).length := isBoundary_of_toList h
  have hstop : IsBoundary s (utf8 (u ++ m)).length :=
    isBoundary_of_toList (h.trans (List.append_assoc u m v).symm)
  have hlength : (utf8 (u ++ m)).length - (utf8 u).length = (utf8 m).length := by
    rw [utf8_append, List.length_append, Nat.add_sub_cancel_left]
  rw [slice?, dif_pos ⟨hstart, hstop, length_utf8_le_append u m⟩, Option.some_inj, ← bytes_inj,
    bytes_extract, bytes_eq, bytes_eq, h, String.toList_ofList]
  show ((utf8 (u ++ (m ++ v))).drop (utf8 u).length).take _ = utf8 m
  rw [hlength, drop_utf8_append, utf8_append, List.take_left]

end Text
end LuaBundler
