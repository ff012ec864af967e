import QuickFix.Decimal.Shortest
import QuickFix.Json.Basic

/-!
The compact text of a JSON value: no blanks, members in their order, characters other than quotes,
backslashes and control characters as they are.
-/

namespace QuickFix.Json

/-- Numbers are positional while their first digit stands for `10 ^ -5` to `10 ^ 15`. -/
def numberLayout : Decimal.Layout := ⟨-5, 15⟩

def floatText (x : Float) : List Char :=
  let bits := x.toBits
  let sign := if bits >>> 63 = 0 then [] else ['-']
  let magnitude := bits &&& 0x7FFFFFFFFFFFFFFF
  if magnitude = 0 then sign ++ ['0', '.', '0']
  else sign ++ numberLayout.write (Decimal.shortest (Decimal.ofBits magnitude))

def intText : Int → List Char
  | .ofNat n => Decimal.digitChars n
  | .negSucc n => '-' :: Decimal.digitChars (n + 1)

def Number.text : Number → List Char
  | .int n => intText n
  | .float x => floatText x

/-- A hexadecimal digit below 16, with small letters. -/
def hexDigit (n : Nat) : Char := if n < 10 then Char.ofNat (48 + n) else Char.ofNat (87 + n)

/-- How a character is written inside a string. -/
def escape (c : Char) : List Char :=
  if c = '"' then ['\\', '"']
  else if c = '\\' then ['\\', '\\']
  else if c = '\x08' then ['\\', 'b']
  else if c = '\x0c' then ['\\', 'f']
  else if c = '\n' then ['\\', 'n']
  else if c = '\r' then ['\\', 'r']
  else if c = '\t' then ['\\', 't']
  else if c.toNat < 0x20 then
    ['\\', 'u', '0', '0', hexDigit (c.toNat / 16), hexDigit (c.toNat % 16)]
  else [c]

/-- The text of a string, with its quotes. -/
def quote (s : String) : List Char := '"' :: s.toList.flatMap escape ++ ['"']

mutual

def chars : Json → List Char
  | null => ['n', 'u', 'l', 'l']
  | bool true => ['t', 'r', 'u', 'e']
  | bool false => ['f', 'a', 'l', 's', 'e']
  | number n => n.text
  | string s => quote s
  | array items => '[' :: itemChars items ++ [']']
  | object members => '\x7b' :: memberChars members ++ ['\x7d']

/-- The characters of the items of a list, with commas between them. -/
def itemChars : List Json → List Char
  | [] => []
  | [item] => chars item
  | item :: rest => chars item ++ ',' :: itemChars rest

/-- The characters of the members of an object, with commas between them. -/
def memberChars : List (String × Json) → List Char
  | [] => []
  | [(key, value)] => quote key ++ ':' :: chars value
  | (key, value) :: rest => quote key ++ ':' :: chars value ++ ',' :: memberChars rest

end

def render (value : Json) : String := String.ofList value.chars

end QuickFix.Json
