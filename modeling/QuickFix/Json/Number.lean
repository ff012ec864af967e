import QuickFix.Json.Basic

/-!
Numbers from their digits. An integer that fits in 64 bits stays one. Any other number becomes a
float: its leading digits, as many as fit in 64 bits, are scaled by a power of ten.
-/

namespace QuickFix.Json

/-- The bound on an unsigned integer. -/
def unsignedBound : Nat := 0x10000000000000000

/-- The bound on the magnitude of a negative integer, which may be reached. -/
def negativeBound : Nat := 0x8000000000000000

/-- Leading digits as a number below the bound, and the number of digits left over. -/
structure Leading where
  value : Nat
  used : Nat
  left : Nat

/-- Reads digits behind a number for as long as the result stays below the bound. -/
def Leading.read (value : Nat) : List Nat → Leading
  | [] => ⟨value, 0, 0⟩
  | d :: ds =>
    if value * 10 + d < unsignedBound then
      let rest := Leading.read (value * 10 + d) ds
      { rest with used := rest.used + 1 }
    else ⟨value, 0, ds.length + 1⟩

/-- A power of ten up to `10 ^ 308`, as a float. -/
def tenTo (n : Nat) : Float := Float.ofScientific 1 false n

/-- Scales a float by a power of ten; `none` if it grows beyond the finite floats. A division by
more than `10 ^ 308` takes several steps, of which `steps` are allowed. -/
def scaleBy : (steps : Nat) → Float → Int → Option Float
  | steps, x, exponent =>
    if 0 ≤ exponent then
      if exponent ≤ 308 then
        let y := x * tenTo exponent.toNat
        if y.isInf then none else some y
      else if x == 0 then some x else none
    else if -308 ≤ exponent then some (x / tenTo (-exponent).toNat)
    else if x == 0 then some x
    else
      match steps with
      | 0 => some 0
      | steps + 1 => scaleBy steps (x / tenTo 308) (exponent + 308)

/-- The parts of a number as written: its sign, the digits of its integer part, those behind the
point if there is one, and the exponent if there is one. -/
structure Numeral where
  negative : Bool
  whole : List Nat
  fraction : Option (List Nat)
  exponent : Option Int

def signed (negative : Bool) (x : Float) : Float := if negative then -x else x

/-- The exponents beyond these are not counted exactly. -/
def exponentBound : Int := 0x7FFFFFFF

/-- The float a numeral stands for, or `none` if that is no finite float. -/
def Numeral.float? (n : Numeral) : Option Float :=
  let whole := Leading.read 0 n.whole
  let all := Leading.read whole.value (n.fraction.getD [])
  let shift : Int := whole.left - all.used
  let written := n.exponent.getD 0
  if written.natAbs > exponentBound.toNat then
    if all.value ≠ 0 ∧ 0 < written then none else some (signed n.negative 0)
  else
    let exponent := max (-exponentBound - 1) (min exponentBound (shift + written))
    (scaleBy 8 all.value.toUInt64.toFloat exponent).map (signed n.negative)

/-- The number a numeral stands for, or `none` if it is too large. -/
def Numeral.number? (n : Numeral) : Option Number :=
  let whole := Leading.read 0 n.whole
  if n.fraction.isSome || n.exponent.isSome || whole.left ≠ 0 then n.float?.map .float
  else if !n.negative then some (.int whole.value)
  else if whole.value = 0 || whole.value > negativeBound then
    some (.float (-whole.value.toUInt64.toFloat))
  else some (.int (-whole.value))

end QuickFix.Json
