import PaperHtml.Text.Basic

/-!
# UTF-8

Bytes are read as UTF-8.  A byte sequence that is no character is replaced by
U+FFFD, one for each longest beginning of a character that could have been.
-/

namespace PaperHtml

/-- A byte, as its number. -/
abbrev Byte := Nat

namespace Utf8

/-- The mark that stands for bytes that are no character. -/
def replacement : Char := Char.ofNat 0xFFFD

/-- What a first byte asks for: how many bytes follow it, the range of the second
byte, and the bits it gives to the code point. -/
structure Lead where
  following : Nat
  low : Byte
  high : Byte
  bits : Nat

/-- The demand of a first byte above the ASCII range, if it can begin a character. -/
def lead? (b : Byte) : Option Lead :=
  if 0xC2 ≤ b ∧ b ≤ 0xDF then some ⟨1, 0x80, 0xBF, b - 0xC0⟩
  else if b = 0xE0 then some ⟨2, 0xA0, 0xBF, 0⟩
  else if b = 0xED then some ⟨2, 0x80, 0x9F, 0xD⟩
  else if 0xE1 ≤ b ∧ b ≤ 0xEF then some ⟨2, 0x80, 0xBF, b - 0xE0⟩
  else if b = 0xF0 then some ⟨3, 0x90, 0xBF, 0⟩
  else if b = 0xF4 then some ⟨3, 0x80, 0x8F, 4⟩
  else if 0xF1 ≤ b ∧ b ≤ 0xF3 then some ⟨3, 0x80, 0xBF, b - 0xF0⟩
  else none

/-- A character that has begun: the bits so far, and what it still asks for. -/
structure Partial where
  bits : Nat
  following : Nat
  low : Byte
  high : Byte

/-- The characters of a byte sequence, with a character perhaps begun. -/
def decodeFrom : Option Partial → List Byte → Text
  | none, [] => []
  | some _, [] => [replacement]
  | some p, b :: rest =>
    if p.low ≤ b ∧ b ≤ p.high then
      let bits := p.bits * 64 + (b - 0x80)
      if p.following ≤ 1 then Char.ofNat bits :: decodeFrom none rest
      else decodeFrom (some ⟨bits, p.following - 1, 0x80, 0xBF⟩) rest
    -- a byte that does not go on with the character may still begin the next one
    else if b < 0x80 then replacement :: Char.ofNat b :: decodeFrom none rest
    else
      match lead? b with
      | some l => replacement :: decodeFrom (some ⟨l.bits, l.following, l.low, l.high⟩) rest
      | none => replacement :: replacement :: decodeFrom none rest
  | none, b :: rest =>
    if b < 0x80 then Char.ofNat b :: decodeFrom none rest
    else
      match lead? b with
      | some l => decodeFrom (some ⟨l.bits, l.following, l.low, l.high⟩) rest
      | none => replacement :: decodeFrom none rest

/-- The text of a byte sequence. -/
def decode (bytes : List Byte) : Text := decodeFrom none bytes

/-- The bytes of one character. -/
def encodeChar (c : Char) : List Byte :=
  let n := c.toNat
  if n < 0x80 then [n]
  else if n < 0x800 then [0xC0 + n / 64, 0x80 + n % 64]
  else if n < 0x10000 then [0xE0 + n / 4096, 0x80 + n / 64 % 64, 0x80 + n % 64]
  else [0xF0 + n / 262144, 0x80 + n / 4096 % 64, 0x80 + n / 64 % 64, 0x80 + n % 64]

/-- The bytes of a text. -/
def encode (t : Text) : List Byte := t.flatMap encodeChar

end Utf8

end PaperHtml
