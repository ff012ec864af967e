import QuickFix.Decimal.Nearest
import QuickFix.Json.Number
import QuickFix.Json.Parser
import QuickFix.Yaml.Error

/-!
What a plain scalar stands for: null, a truth value, an integer in one of four bases, a float, or
else its own text.
-/

namespace QuickFix.Yaml.Core

def isNull (cs : List Char) : Bool :=
  ["null", "Null", "NULL", "~"].contains (String.ofList cs)

def bool? (cs : List Char) : Option Bool :=
  match String.ofList cs with
  | "true" | "True" | "TRUE" => some true
  | "false" | "False" | "FALSE" => some false
  | _ => none

/-- The number that digits spell in a base up to sixteen. -/
def natural? (base : Nat) (cs : List Char) : Option Nat := do
  let values ← cs.mapM Json.hexValue?
  if values.isEmpty || values.any (base ≤ ·) then none
  else return values.foldl (fun n d => n * base + d) 0

/-- Whether a text is more than one digit with a zero in front, perhaps with a sign. Such a text is
no number. -/
def hasLeadingZero (cs : List Char) : Bool :=
  let digits := match cs with
    | '+' :: rest => rest
    | '-' :: rest => rest
    | _ => cs
  1 < digits.length && digits.head? = some '0' && digits.all Char.isDigit

/-- The number that a text without sign says. -/
def magnitude? (cs : List Char) : Option Nat :=
  match cs with
  | '0' :: 'x' :: digits => natural? 16 digits
  | '0' :: 'o' :: digits => natural? 8 digits
  | '0' :: 'b' :: digits => natural? 2 digits
  | _ => if hasLeadingZero cs then none else natural? 10 cs

/-- Whether an integer is negative or has a magnitude below a power of two, where a negative one may
reach the half of it. -/
def fits (bits : Nat) (n : Int) : Bool :=
  -Int.pow 2 (bits - 1) ≤ n && n < Int.pow 2 bits

/-- The integer that a text says. One of more than 64 bits is an error, and one of more than 128 is
no integer. -/
def int? (cs : List Char) : Except Error (Option Int) :=
  let value : Option Int := match cs with
    | '-' :: rest => (magnitude? rest).map fun n => -(n : Int)
    | '+' :: rest => (magnitude? rest).map fun n => n
    | _ => (magnitude? cs).map fun n => n
  match value.filter (fits 128) with
  | some n => if fits 64 n then .ok (some n) else .error .integerOutOfRange
  | none => .ok none

/-- Reads an exponent, if there is one, up to the end of a text. -/
def exponent? : List Char → Option Int
  | [] => some 0
  | e :: cs =>
    if e = 'e' ∨ e = 'E' then
      match cs with
      | '-' :: digits => (natural? 10 digits).map fun n => -(n : Int)
      | '+' :: digits => (natural? 10 digits).map fun n => (n : Int)
      | digits => (natural? 10 digits).map fun n => (n : Int)
    else none

/-- The decimal that a text without sign says: digits with at most one point among or around them,
and perhaps an exponent. -/
def decimal? (cs : List Char) : Option Decimal.Scaled :=
  let (whole, rest) := Json.readDigits cs
  let (fraction, rest) :=
    match rest with
    | '.' :: more => Json.readDigits more
    | _ => ([], rest)
  let digits := whole ++ fraction
  if digits.isEmpty then none
  else (exponent? rest).map fun e => ⟨Json.ofDigits digits, e - fraction.length⟩

/-- The finite float that a text says, perhaps with one sign. -/
def finite? (cs : List Char) : Option Float :=
  match cs with
  | '-' :: rest => do return -(← (← decimal? rest).nearest?)
  | '+' :: rest => do (← decimal? rest).nearest?
  | _ => do (← decimal? cs).nearest?

/-- Whether a text says a float that is not finite. -/
def isSpecial (cs : List Char) : Bool :=
  [".inf", ".Inf", ".INF", "+.inf", "+.Inf", "+.INF", "-.inf", "-.Inf", "-.INF", ".nan", ".NaN",
    ".NAN"].contains (String.ofList cs)

/-- The value of the float that a text says: null if it is not finite. -/
def float? (cs : List Char) : Option Json :=
  if isSpecial cs then some .null else (finite? cs).map fun x => .number (.float x)

/-- The value of a plain scalar without a tag. -/
def plain (cs : List Char) : Except Error Json := do
  if cs.isEmpty || isNull cs then return .null
  if let some b := bool? cs then return .bool b
  if let some n ← int? cs then return .number (.int n)
  if !hasLeadingZero cs then
    if let some value := float? cs then return value
  return .string (String.ofList cs)

end QuickFix.Yaml.Core
