import BrowserControl.Decimal.Binary64

/-!
# Decimal Numerals

Decimal digits and the numbers they denote.  Integers may have any size, but one with more than
`integerDigitLimit` digits is neither read nor written.  A numeral with a fraction or an exponent denotes
`coefficient · 10 ^ exponent` and is read as the nearest binary64 number, however many digits it has; one
beyond the largest is read as infinite.
-/

namespace BrowserControl.Decimal

/-- The most digits an integer may have to be read or written. -/
def integerDigitLimit : Nat := 4300

def digitCount (number : Nat) : Nat :=
  (Nat.toDigits 10 number).length

def ofDigits (digits : List Char) : Nat :=
  digits.foldl (fun value digit ↦ 10 * value + (digit.toNat - 48)) 0

/-- An integer written in decimal; absent when it has too many digits. -/
def writeInteger? (integer : Int) : Option String :=
  if digitCount integer.natAbs ≤ integerDigitLimit then some (toString integer) else none

def tooLongToWrite : String :=
  "Exceeds the limit (" ++ toString integerDigitLimit ++
    " digits) for integer string conversion; use sys.set_int_max_str_digits() to increase the limit"

def tooLongToRead (digits : Nat) : String :=
  "Exceeds the limit (" ++ toString integerDigitLimit ++
    " digits) for integer string conversion: value has " ++ toString digits ++
    " digits; use sys.set_int_max_str_digits() to increase the limit"

/-- The binary64 number nearest to `± coefficient · 10 ^ exponent`.  Exponents that decide the answer on
their own are settled without building the power. -/
def nearest (negative : Bool) (coefficient : Nat) (exponent : Int) : Float :=
  let leading : Int := digitCount coefficient + exponent
  if coefficient = 0 ∨ leading < -400 then ofPattern negative 0
  else if 400 < leading then ofPattern negative infinityPattern
  else
    let (numerator, denominator) := scaleRatio 10 exponent coefficient 1
    ofPattern negative (min infinityPattern (nearestPattern numerator denominator))

end BrowserControl.Decimal
