/-
# Reading bytes as text

`decodeLossy` reads any bytes as UTF-8.  Where they are not UTF-8 it puts the
replacement character U+FFFD, one for each longest piece that could have begun a
character.
-/

namespace LuaBundler
namespace Text

/-- The lead of a character: its first bits, and the ranges in which the bytes that
continue it must lie. -/
structure Lead where
  bits : Nat
  ranges : List (UInt8 × UInt8)

/-- The lead that a first byte stands for, unless it cannot begin a character. -/
def lead? (b : UInt8) : Option Lead :=
  let any : UInt8 × UInt8 := (0x80, 0xBF)
  if b < 0x80 then some ⟨b.toNat, []⟩
  else if b < 0xC2 then none
  else if b < 0xE0 then some ⟨b.toNat - 0xC0, [any]⟩
  else if b = 0xE0 then some ⟨0, [(0xA0, 0xBF), any]⟩
  else if b = 0xED then some ⟨0xD, [(0x80, 0x9F), any]⟩
  else if b < 0xF0 then some ⟨b.toNat - 0xE0, [any, any]⟩
  else if b = 0xF0 then some ⟨0, [(0x90, 0xBF), any, any]⟩
  else if b < 0xF4 then some ⟨b.toNat - 0xF0, [any, any, any]⟩
  else if b = 0xF4 then some ⟨4, [(0x80, 0x8F), any, any]⟩
  else none

/-- Begin a character with the byte `b`: what is written at once, and the lead of a
character that needs more bytes. -/
def beginChar (b : UInt8) : List Char × Option Lead :=
  match lead? b with
  | none => (['\ufffd'], none)
  | some ⟨bits, []⟩ => ([Char.ofNat bits], none)
  | some lead => ([], some lead)

/-- Read bytes, given the lead of a character that has been begun. -/
def decodeFrom : Option Lead → List UInt8 → List Char
  | none, [] => []
  | some _, [] => ['\ufffd']
  | none, b :: r => (beginChar b).1 ++ decodeFrom (beginChar b).2 r
  | some ⟨bits, ranges⟩, b :: r =>
    match ranges with
    | [] => '\ufffd' :: ((beginChar b).1 ++ decodeFrom (beginChar b).2 r)
    | (low, high) :: more =>
      if low ≤ b ∧ b ≤ high then
        let bits := 64 * bits + (b.toNat - 0x80)
        match more with
        | [] => Char.ofNat bits :: decodeFrom none r
        | _ => decodeFrom (some ⟨bits, more⟩) r
      else '\ufffd' :: ((beginChar b).1 ++ decodeFrom (beginChar b).2 r)

/-- The text that bytes stand for. -/
def decodeLossy (bytes : ByteArray) : List Char := decodeFrom none bytes.toList

end Text
end LuaBundler
