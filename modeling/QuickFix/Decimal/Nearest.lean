import QuickFix.Decimal.Shortest

/-!
The 64-bit float nearest to a decimal. A decimal half way between two floats goes to the one with
the even mantissa.
-/

namespace QuickFix.Decimal

/-- The natural number nearest to a quotient; a half goes to the even neighbour. -/
def roundDiv (num den : Nat) : Nat :=
  if 2 * (num % den) < den then num / den
  else if den < 2 * (num % den) then num / den + 1
  else num / den + num / den % 2

/-- The exponent of the first binary digit of a positive quotient. -/
def binaryExponent (num den : Nat) : Int :=
  let guess : Int := (num.log2 : Int) - den.log2
  let (up, down) := powerOf 2 guess
  if den * up ≤ num * down then guess else guess - 1

/-- The exponent of the smallest positive float. -/
def leastExponent : Int := -1074

/-- The float nearest to a positive quotient, as bits, if the format had no largest float. The bits
of neighbours follow one another, so a mantissa that is rounded up to the next power of two needs no
care. -/
def nearestBits (num den : Nat) : Nat :=
  let exponent := max (binaryExponent num den - 52) leastExponent
  let (up, down) := powerOf 2 exponent
  (exponent - leastExponent).toNat * 0x10000000000000 + roundDiv (num * down) (den * up)

/-- The bits of infinity, which no finite float reaches. -/
def infinityBits : Nat := 0x7FF0000000000000

/-- The exponent of the first digit of a decimal, beyond which it is surely no finite float, and
below the negative of which it is surely zero. -/
def decimalBound : Int := 400

def Scaled.nearest? (s : Scaled) : Option Float :=
  let leading := s.exponent + (digitChars s.digits).length
  if s.digits = 0 ∨ leading < -decimalBound then some 0
  else if decimalBound < leading then none
  else
    let (num, den) := powerOf 10 s.exponent
    let bits := nearestBits (s.digits * num) den
    if bits < infinityBits then some (Float.ofBits bits.toUInt64) else none

end QuickFix.Decimal
