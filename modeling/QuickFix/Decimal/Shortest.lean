/-!
The shortest decimal that reads back as a binary fraction. A binary fraction `m * 2 ^ e` stands for
all reals that round to it, an interval whose ends belong to it when `m` is even. Of the decimal
grids, from one digit upwards, the first with a point in that interval gives the digits, and of two
such points the nearer one.
-/

namespace QuickFix.Decimal

/-- A positive binary fraction `mantissa * 2 ^ exponent`, with the distance to the next smaller one:
it is half of the usual distance where the exponent changes. -/
structure Binary where
  mantissa : Nat
  exponent : Int
  narrowBelow : Bool
  deriving DecidableEq, Repr

/-- A decimal `digits * 10 ^ exponent`. -/
structure Scaled where
  digits : Nat
  exponent : Int
  deriving DecidableEq, Repr, Inhabited

/-- Two to a power that may be negative, as numerator and denominator. -/
def powerOf (base : Nat) (exponent : Int) : Nat × Nat :=
  (base.pow exponent.toNat, base.pow (-exponent).toNat)

/-- The interval of the reals that round to a binary fraction, with its middle, as numerators over
one denominator. -/
structure Interval where
  low : Nat
  middle : Nat
  high : Nat
  denominator : Nat
  closed : Bool
  deriving Repr

def Binary.interval (b : Binary) : Interval :=
  let (num, den) := powerOf 2 (b.exponent - 2)
  { low := (4 * b.mantissa - (if b.narrowBelow then 1 else 2)) * num
    middle := 4 * b.mantissa * num
    high := (4 * b.mantissa + 2) * num
    denominator := den
    closed := b.mantissa % 2 = 0 }

/-- Whether `digits * 10 ^ exponent` lies in an interval. -/
def Interval.holds (i : Interval) (s : Scaled) : Bool :=
  let (num, den) := powerOf 10 s.exponent
  let point := s.digits * num * i.denominator
  if i.closed then i.low * den ≤ point && point ≤ i.high * den
  else i.low * den < point && point < i.high * den

/-- Twice the distance of a decimal from the middle of an interval, up to a common factor of all
decimals with that exponent. -/
def Interval.distance (i : Interval) (s : Scaled) : Nat :=
  let (num, den) := powerOf 10 s.exponent
  let point := s.digits * num * i.denominator
  (point - i.middle * den) + (i.middle * den - point)

/-- The point of a decimal grid nearest to the middle, if one lies in the interval. -/
def Interval.pointOn? (i : Interval) (exponent : Int) : Option Scaled :=
  let (num, den) := powerOf 10 exponent
  let below := i.middle * den / (i.denominator * num)
  let candidates := [Scaled.mk below exponent, Scaled.mk (below + 1) exponent].filter i.holds
  match candidates with
  | [] => none
  | [s] => some s
  | s :: t :: _ =>
    if i.distance s < i.distance t then some s
    else if i.distance t < i.distance s then some t
    else some (if s.digits % 2 = 0 then s else t)

/-- Tries the grids from `exponent` downwards, `count` of them. -/
def Interval.firstPoint? (i : Interval) : (count : Nat) → (exponent : Int) → Option Scaled
  | 0, _ => none
  | count + 1, exponent =>
    match i.pointOn? exponent with
    | some s => some s
    | none => i.firstPoint? count (exponent - 1)

/-- Takes the zeros off the end of the digits; `fuel` bounds their number. -/
def Scaled.stripZeros : (fuel : Nat) → Scaled → Scaled
  | 0, s => s
  | fuel + 1, s =>
    if s.digits ≠ 0 ∧ s.digits % 10 = 0 then stripZeros fuel ⟨s.digits / 10, s.exponent + 1⟩ else s

/-- The exponent of the first digit of a positive fraction: the number of digits of its integer part
less one, or for a fraction below one what brings it there. -/
def leadingExponent (b : Binary) : Int :=
  let (num, den) := powerOf 2 b.exponent
  let whole := b.mantissa * num / den
  if whole ≠ 0 then ((Nat.toDigits 10 whole).length : Int) - 1
  else -((Nat.toDigits 10 (den / (b.mantissa * num))).length : Int)

/-- The shortest decimal that rounds to a binary fraction. Seventeen digits always suffice; one grid
more is tried in front, since a fraction may round up to the next power of ten. -/
def shortest (b : Binary) : Scaled :=
  match b.interval.firstPoint? 20 (leadingExponent b + 1) with
  | some s => s.stripZeros 400
  | none => ⟨0, 0⟩

/-- The binary fraction of a positive finite number in the 64-bit format. -/
def ofBits (bits : UInt64) : Binary :=
  let fraction := (bits &&& 0xFFFFFFFFFFFFF).toNat
  let biased := ((bits >>> 52) &&& 0x7FF).toNat
  if biased = 0 then ⟨fraction, -1074, false⟩
  else ⟨fraction + 0x10000000000000, (biased : Int) - 1075, fraction = 0 && biased > 1⟩

def digitChars (n : Nat) : List Char := Nat.toDigits 10 n

/-- How a number is written: positionally while the exponent of its first digit lies between the two
bounds, with a point and at least one digit behind it; otherwise with an exponent, which always has
a sign. -/
structure Layout where
  least : Int
  most : Int

def Layout.write (layout : Layout) (s : Scaled) : List Char :=
  let digits := digitChars s.digits
  let leading := s.exponent + digits.length - 1
  if layout.least ≤ leading ∧ leading ≤ layout.most then
    if 0 ≤ s.exponent then digits ++ List.replicate s.exponent.toNat '0' ++ ['.', '0']
    else if 0 ≤ leading then
      let whole := (leading + 1).toNat
      digits.take whole ++ '.' :: digits.drop whole
    else '0' :: '.' :: List.replicate (-leading - 1).toNat '0' ++ digits
  else
    let tail := digits.drop 1
    let sign := if leading < 0 then '-' else '+'
    digits.take 1 ++ (if tail.isEmpty then [] else '.' :: tail) ++
      'e' :: sign :: digitChars leading.natAbs

end QuickFix.Decimal
