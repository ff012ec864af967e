import QuickFix.Action.Source
import QuickFix.Text.Utf8

/-!
File URIs. A path is written byte by byte: unreserved characters and slashes as they are, all others
as a percent sign with two digits. In reading, a percent sign without two digits stands for itself.
-/

namespace QuickFix.Uri

/-- Whether a byte is written as it is: letters and digits of ASCII, `-`, `.`, `_`, `~` and `/`. -/
def isPlain (b : UInt8) : Bool :=
  let n := b.toNat
  (0x30 ≤ n && n ≤ 0x39) || (0x41 ≤ n && n ≤ 0x5A) || (0x61 ≤ n && n ≤ 0x7A) ||
    n = 0x2D || n = 0x2E || n = 0x5F || n = 0x7E || n = 0x2F

/-- A hexadecimal digit below 16, with capital letters. -/
def hexDigit (n : Nat) : Char := if n < 10 then Char.ofNat (48 + n) else Char.ofNat (55 + n)

/-- How a byte is written. -/
def encodeByte (b : UInt8) : List Char :=
  if isPlain b then [Char.ofNat b.toNat]
  else ['%', hexDigit (b.toNat / 16), hexDigit (b.toNat % 16)]

def encode (path : String) : String :=
  String.ofList ((Text.bytesOf path.toList).flatMap encodeByte)

def hexValue? (b : UInt8) : Option UInt8 :=
  if 0x30 ≤ b ∧ b ≤ 0x39 then some (b - 0x30)
  else if 0x61 ≤ b ∧ b ≤ 0x66 then some (b - 0x57)
  else if 0x41 ≤ b ∧ b ≤ 0x46 then some (b - 0x37)
  else none

/-- The byte of two hexadecimal digits. -/
def escaped? (high low : UInt8) : Option UInt8 :=
  match hexValue? high, hexValue? low with
  | some h, some l => some (h * 16 + l)
  | _, _ => none

/-- Reads the escapes among bytes. -/
def decodeBytes : List UInt8 → List UInt8
  | [] => []
  | [a] => [a]
  | [a, b] => [a, b]
  | a :: b :: c :: rest =>
    if a = 0x25 then
      match escaped? b c with
      | some value => value :: decodeBytes rest
      | none => a :: decodeBytes (b :: c :: rest)
    else a :: decodeBytes (b :: c :: rest)

def decode (path : String) : String :=
  String.ofList (Text.ofBytes (decodeBytes (Text.bytesOf path.toList)))

/-- What file URIs begin with. -/
def scheme : List Char := ['f', 'i', 'l', 'e', ':', '/', '/']

/-- The host that a file URI may name. -/
def localHost : List Char := ['l', 'o', 'c', 'a', 'l', 'h', 'o', 's', 't']

/-- The path that a URI is made of: a relative one begins in the working directory, if there is one.
-/
def fromRoot (workingDirectory : Option Path) (path : Path) : Path :=
  if path.isAbsolute then path else (workingDirectory.map fun d => d.join path).getD path

def ofPath (path : Path) (workingDirectory : Option Path := none) : String :=
  String.ofList scheme ++ encode (fromRoot workingDirectory path).text

/-- The path of a file URI; other URIs have none. -/
def path? (uri : String) : Option Path :=
  match Text.dropPrefix? scheme uri.toList with
  | none => none
  | some rest =>
    let rest := (Text.dropPrefix? localHost rest).getD rest
    some ⟨decode (String.ofList rest)⟩

def document? (source : DocumentSource) (uri : String) : Option Document :=
  (path? uri).bind source.find?

end QuickFix.Uri
