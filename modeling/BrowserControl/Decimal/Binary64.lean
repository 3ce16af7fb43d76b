/-!
# Binary64 Numbers

The finite non-negative binary64 numbers are `significand · 2 ^ exponent` with a significand below `2 ^ 53`
and an exponent from `-1074` to `971`.  In increasing order they are numbered from zero on without gaps, and
the number of each is its bit pattern.  A ratio of natural numbers is rounded to the nearest of them; a
ratio halfway between two goes to the one with the even significand.
-/

namespace BrowserControl.Decimal

/-- The weight of the leading bit of a full significand, `2 ^ 52`. -/
def leadingBit : Nat := 0x10000000000000

/-- The weight of the sign in a bit pattern, `2 ^ 63`. -/
def signBit : Nat := 0x8000000000000000

/-- A finite magnitude, `significand · 2 ^ exponent`. -/
structure Magnitude where
  significand : Nat
  exponent : Int
  deriving DecidableEq, Repr

def leastExponent : Int := -1074

/-- The bit pattern of the infinite magnitude, one above the largest finite one. -/
def infinityPattern : Nat := 0x7FF * leadingBit

def Magnitude.ofPattern (pattern : Nat) : Magnitude :=
  if pattern / leadingBit = 0 then ⟨pattern, leastExponent⟩
  else
    ⟨leadingBit + pattern % leadingBit, (pattern / leadingBit : Nat) + leastExponent - 1⟩

/-- The bit pattern of a magnitude whose significand has its leading bit, or whose exponent is least.
A significand of `2 ^ 53`, to which rounding may lead, carries over into the exponent. -/
def Magnitude.pattern (magnitude : Magnitude) : Nat :=
  (magnitude.exponent - leastExponent).toNat * leadingBit + magnitude.significand

/-- Taking a bit pattern apart and putting it together again changes nothing. -/
theorem Magnitude.pattern_ofPattern (pattern : Nat) :
    (Magnitude.ofPattern pattern).pattern = pattern := by
  unfold Magnitude.ofPattern Magnitude.pattern leastExponent leadingBit
  split
  · simp
  · simp only
    omega

/-- The quotient of two natural numbers rounded to the nearest, a half to the even neighbour. -/
def roundQuotient (numerator denominator : Nat) : Nat :=
  let floor := numerator / denominator
  let twice := 2 * (numerator % denominator)
  if twice < denominator then floor
  else if twice = denominator then floor + floor % 2
  else floor + 1

/-- `numerator · base ^ power / denominator` as a ratio of natural numbers. -/
def scaleRatio (base : Nat) (power : Int) (numerator denominator : Nat) : Nat × Nat :=
  match power with
  | .ofNat up => (numerator * Nat.pow base up, denominator)
  | .negSucc down => (numerator, denominator * Nat.pow base (down + 1))

/-- The exponent at which a positive ratio has a significand of 53 bits, or the least exponent. -/
def ratioExponent (numerator denominator : Nat) : Int :=
  let estimate : Int := (numerator.log2 : Int) - denominator.log2
  let (high, low) := scaleRatio 2 (-estimate) numerator denominator
  max leastExponent (if low ≤ high then estimate - 52 else estimate - 53)

/-- The bit pattern nearest to a positive ratio; above the finite ones, that of infinity or more. -/
def nearestPattern (numerator denominator : Nat) : Nat :=
  let exponent := ratioExponent numerator denominator
  let (high, low) := scaleRatio 2 (-exponent) numerator denominator
  (Magnitude.mk (roundQuotient high low) exponent).pattern

def ofPattern (negative : Bool) (pattern : Nat) : Float :=
  Float.ofBits (UInt64.ofNat (if negative then signBit + pattern else pattern))

/-- The integer as a binary64 number; absent when it is nearer to infinity than to any of them. -/
def ofInt? (integer : Int) : Option Float :=
  if integer = 0 then some (ofPattern false 0)
  else
    let pattern := nearestPattern integer.natAbs 1
    if pattern < infinityPattern then some (ofPattern (integer < 0) pattern) else none

def isNegative (number : Float) : Bool :=
  signBit ≤ number.toBits.toNat

def patternOf (number : Float) : Nat :=
  number.toBits.toNat % signBit

end BrowserControl.Decimal
