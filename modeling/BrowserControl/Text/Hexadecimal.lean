/-!
# Hexadecimal Numerals

Hexadecimal digits with lower-case letters, as escapes and diagnostics show them, and the reading of
single digits in either case.
-/

namespace BrowserControl.Text

def hexDigit (digit : Nat) : Char :=
  if digit < 10 then Char.ofNat (48 + digit) else Char.ofNat (87 + digit)

/-- The last `width` hexadecimal digits of a number. -/
def hexDigits : Nat → Nat → List Char
  | 0, _ => []
  | width + 1, number => hexDigits width (number / 16) ++ [hexDigit (number % 16)]

@[simp]
theorem length_hexDigits (width number : Nat) : (hexDigits width number).length = width := by
  induction width generalizing number with
  | zero => rfl
  | succ width ih => simp [hexDigits, ih]

def hexValue? (character : Char) : Option Nat :=
  if '0' ≤ character ∧ character ≤ '9' then some (character.toNat - 48)
  else if 'a' ≤ character ∧ character ≤ 'f' then some (character.toNat - 87)
  else if 'A' ≤ character ∧ character ≤ 'F' then some (character.toNat - 55)
  else none

/-- A written digit is read back. -/
theorem hexValue?_hexDigit (digit : Nat) (hdigit : digit < 16) :
    hexValue? (hexDigit digit) = some digit := by
  have hall : ∀ candidate < 16, hexValue? (hexDigit candidate) = some candidate := by decide
  exact hall digit hdigit

/-- The value of a numeral, most significant digit first; absent if some character is no digit. -/
def hexNumber? (numeral : List Char) : Option Nat :=
  numeral.foldlM (fun value character ↦ (16 * value + ·) <$> hexValue? character) 0

end BrowserControl.Text
