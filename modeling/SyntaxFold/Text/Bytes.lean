/-!
# Bytes

Programs exchange bytes. Text becomes bytes by UTF-8; bytes become text either only when they are
valid, or with a replacement character for each longest part that cannot be continued to a valid
character.
-/

namespace SyntaxFold

/-- A run of bytes. -/
abbrev Bytes := List UInt8

namespace Bytes

/-- The bytes of a text. -/
def ofString (text : String) : Bytes := text.toUTF8.toList

/-- A byte that begins a character of several bytes: how many more follow, the bits that it
contributes, and the bounds of the next byte. -/
structure Lead where
  more : Nat
  value : Nat
  least : Nat
  greatest : Nat

/-- The role of a byte that can begin a character of several bytes. The bounds keep out overlong
forms, surrogates and numbers beyond the last character. -/
def lead? (byte : Nat) : Option Lead :=
  if 0xC2 ≤ byte ∧ byte ≤ 0xDF then some ⟨1, byte - 0xC0, 0x80, 0xBF⟩
  else if byte = 0xE0 then some ⟨2, 0, 0xA0, 0xBF⟩
  else if byte = 0xED then some ⟨2, 0xD, 0x80, 0x9F⟩
  else if 0xE1 ≤ byte ∧ byte ≤ 0xEF then some ⟨2, byte - 0xE0, 0x80, 0xBF⟩
  else if byte = 0xF0 then some ⟨3, 0, 0x90, 0xBF⟩
  else if 0xF1 ≤ byte ∧ byte ≤ 0xF3 then some ⟨3, byte - 0xF0, 0x80, 0xBF⟩
  else if byte = 0xF4 then some ⟨3, 4, 0x80, 0x8F⟩
  else none

/-- A decoder: the characters so far, newest first, with `none` for a part that is not valid, and
the character that has begun. -/
structure Decoder where
  decoded : List (Option Char)
  open? : Option Lead

/-- Reads a byte where a character begins. -/
def Decoder.begin (decoded : List (Option Char)) (byte : Nat) : Decoder :=
  if byte < 0x80 then ⟨some (Char.ofNat byte) :: decoded, none⟩
  else match lead? byte with
    | some lead => ⟨decoded, some lead⟩
    | none => ⟨none :: decoded, none⟩

/-- Reads a byte. -/
def Decoder.step (decoder : Decoder) (byte : UInt8) : Decoder :=
  let byte := byte.toNat
  match decoder.open? with
  | none => begin decoder.decoded byte
  | some lead =>
    if lead.least ≤ byte ∧ byte ≤ lead.greatest then
      let value := 64 * lead.value + byte % 64
      if lead.more = 1 then ⟨some (Char.ofNat value) :: decoder.decoded, none⟩
      else ⟨decoder.decoded, some ⟨lead.more - 1, value, 0x80, 0xBF⟩⟩
    else begin (none :: decoder.decoded) byte

/-- The characters of bytes, with `none` for each part that is not valid. -/
def decode (bytes : Bytes) : List (Option Char) :=
  let decoder := bytes.foldl Decoder.step ⟨[], none⟩
  let decoded := if decoder.open?.isSome then none :: decoder.decoded else decoder.decoded
  decoded.reverse

/-- The text of bytes that are valid. -/
def toString? (bytes : Bytes) : Option String :=
  ((decode bytes).mapM id).map String.ofList

/-- The text of bytes, with a replacement character for each part that is not valid. -/
def toStringLossy (bytes : Bytes) : String :=
  String.ofList ((decode bytes).map (·.getD '\ufffd'))

end Bytes

end SyntaxFold
