/-!
Bytes of a text in UTF-8, and the text of bytes. Bytes that are no UTF-8 become replacement
characters: one for each longest stretch that begins a character and cannot go on.
-/

namespace QuickFix.Text

def bytesOf (cs : List Char) : List UInt8 := cs.flatMap String.utf8EncodeChar

/-- A character that has begun: the bits read, how many bytes are left, and the bounds of the next
byte. -/
structure Unfinished where
  bits : Nat
  left : Nat
  least : UInt8
  most : UInt8

/-- What a byte is at the start of a character. -/
inductive Lead where
  | char (c : Char)
  | unfinished (u : Unfinished)
  | invalid

/-- Reads the first byte of a character. The bounds of the second byte keep out long forms,
surrogates and what lies beyond the last character. -/
def lead (b : UInt8) : Lead :=
  let n := b.toNat
  if n < 0x80 then .char (Char.ofNat n)
  else if n < 0xC2 then .invalid
  else if n < 0xE0 then .unfinished ⟨n - 0xC0, 1, 0x80, 0xBF⟩
  else if n = 0xE0 then .unfinished ⟨0, 2, 0xA0, 0xBF⟩
  else if n = 0xED then .unfinished ⟨0xD, 2, 0x80, 0x9F⟩
  else if n < 0xF0 then .unfinished ⟨n - 0xE0, 2, 0x80, 0xBF⟩
  else if n = 0xF0 then .unfinished ⟨0, 3, 0x90, 0xBF⟩
  else if n < 0xF4 then .unfinished ⟨n - 0xF0, 3, 0x80, 0xBF⟩
  else if n = 0xF4 then .unfinished ⟨4, 3, 0x80, 0x8F⟩
  else .invalid

/-- The character that stands for bytes that are none. -/
def replacementChar : Char := '\ufffd'

def Unfinished.take (u : Unfinished) (b : UInt8) : Unfinished :=
  ⟨u.bits * 64 + (b.toNat - 0x80), u.left - 1, 0x80, 0xBF⟩

/-- What is written when a character begins, and what is unfinished then. -/
def begin (b : UInt8) : List Char × Option Unfinished :=
  match lead b with
  | .char c => ([c], none)
  | .unfinished u => ([], some u)
  | .invalid => ([replacementChar], none)

/-- Decodes bytes behind an unfinished character. -/
def decodeFrom : Option Unfinished → List UInt8 → List Char
  | none, [] => []
  | some _, [] => [replacementChar]
  | none, b :: rest => (begin b).1 ++ decodeFrom (begin b).2 rest
  | some u, b :: rest =>
    if u.least ≤ b ∧ b ≤ u.most then
      if u.left = 1 then Char.ofNat (u.take b).bits :: decodeFrom none rest
      else decodeFrom (some (u.take b)) rest
    else replacementChar :: ((begin b).1 ++ decodeFrom (begin b).2 rest)

def ofBytes (bytes : List UInt8) : List Char := decodeFrom none bytes

end QuickFix.Text
