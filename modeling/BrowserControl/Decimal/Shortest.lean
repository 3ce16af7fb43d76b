import BrowserControl.Decimal.Numeral

/-!
# Shortest Decimal Text

A binary64 number is written with the fewest decimal digits that read back as the same number, and among
those with the digits nearest to it.  The reals that read back as a number form an interval around it, which
includes its ends exactly when the significand is even.  For one digit, two digits and so on, the
two neighbours of the number on that decimal grid are tried; the first grid with a neighbour in the
interval wins.
-/

namespace BrowserControl.Decimal

/-- `coefficient · 10 ^ exponent`. -/
structure Approximation where
  coefficient : Nat
  exponent : Int
  deriving DecidableEq, Repr

/-- A magnitude together with the bounds of the reals that round to it, over one denominator. -/
structure RoundingInterval where
  low : Nat
  middle : Nat
  high : Nat
  denominator : Nat
  closed : Bool
  deriving DecidableEq, Repr

/-- The rounding interval of a magnitude.  Below a power of two the numbers lie twice as dense. -/
def Magnitude.interval (magnitude : Magnitude) : RoundingInterval :=
  let below := if magnitude.significand = leadingBit ∧ leastExponent < magnitude.exponent then 1 else 2
  let (unit, denominator) := scaleRatio 2 (magnitude.exponent - 2) 1 1
  { low := (4 * magnitude.significand - below) * unit
    middle := 4 * magnitude.significand * unit
    high := (4 * magnitude.significand + 2) * unit
    denominator
    closed := magnitude.significand % 2 = 0 }

/-- The power of ten of the first decimal digit of a positive ratio. -/
def leadingPower (numerator denominator : Nat) : Int :=
  if denominator ≤ numerator then digitCount (numerator / denominator) - 1
  else -(digitCount ((denominator - 1) / numerator) : Int)

/-- The multiple of `10 ^ power` next to the middle of the interval that lies inside it, if any. -/
def RoundingInterval.onGrid? (interval : RoundingInterval) (power : Int) : Option Approximation :=
  let scale := (scaleRatio 10 (-power) 1 1).1
  let unit := (scaleRatio 10 power interval.denominator 1).1
  let floor := interval.middle * scale / unit
  let rest := interval.middle * scale % unit
  let within (bound point : Nat) : Bool := bound < point || interval.closed && bound = point
  let floorFits := within (interval.low * scale) (floor * unit)
  let nextFits := within ((floor + 1) * unit) (interval.high * scale)
  let nextIsNearer := unit < 2 * rest || 2 * rest = unit && floor % 2 = 1
  if floorFits && !(nextFits && nextIsNearer) then some ⟨floor, power⟩
  else if nextFits then some ⟨floor + 1, power⟩
  else none

/-- The shortest decimal that reads back as a positive magnitude; seventeen digits always suffice. -/
def Magnitude.shortest (magnitude : Magnitude) : Approximation :=
  let interval := magnitude.interval
  let leading := leadingPower interval.middle interval.denominator
  ((List.range 17).findSome? fun (further : Nat) ↦
    interval.onGrid? (leading - further)).getD
    ⟨magnitude.significand, 0⟩

/-- How decimals are laid out: the powers of ten of the first digit that are written out
positionally, and the least number of digits of an exponent. -/
structure Layout where
  positionalFrom : Int
  positionalBelow : Int
  exponentDigits : Nat

def trimZeros (digits : List Char) : List Char :=
  (digits.reverse.dropWhile (· = '0')).reverse

/-- Digits with the point after the first `whole` of them, and at least one digit on either side. -/
def placePoint (digits : List Char) (whole : Int) : List Char :=
  if whole ≤ 0 then '0' :: '.' :: (List.replicate (-whole).toNat '0' ++ digits)
  else
    let before := digits.take whole.toNat
    let after := digits.drop whole.toNat
    before ++ List.replicate (whole.toNat - before.length) '0' ++
      '.' :: if after.isEmpty then ['0'] else after

def writeExponent (layout : Layout) (exponent : Int) : List Char :=
  let digits := Nat.toDigits 10 exponent.natAbs
  'e' :: (if exponent < 0 then '-' else '+') ::
    (List.replicate (layout.exponentDigits - digits.length) '0' ++ digits)

def Approximation.write (layout : Layout) (decimal : Approximation) : List Char :=
  let allDigits := Nat.toDigits 10 decimal.coefficient
  let digits := trimZeros allDigits
  let power : Int := allDigits.length + decimal.exponent - 1
  if layout.positionalFrom ≤ power ∧ power < layout.positionalBelow then
    placePoint digits (power + 1)
  else
    let mantissa :=
      match digits with
      | first :: second :: others => first :: '.' :: second :: others
      | short => short
    mantissa ++ writeExponent layout power

/-- A binary64 number written with the fewest digits. -/
def writeFloat (layout : Layout) (number : Float) : String :=
  let pattern := patternOf number
  let sign := if isNegative number then "-" else ""
  if infinityPattern < pattern then "nan"
  else if pattern = infinityPattern then sign ++ "inf"
  else if pattern = 0 then sign ++ "0.0"
  else sign ++ String.ofList ((Magnitude.ofPattern pattern).shortest.write layout)

/-- Numbers are written positionally from a ten-thousandth to below ten quadrillions, and an exponent has at
least two digits. -/
def standardLayout : Layout := ⟨-4, 16, 2⟩

end BrowserControl.Decimal
