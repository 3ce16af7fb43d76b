import BrowserControl.Text.Quoted
import Mathlib.Algebra.Ring.Nat

/-!
# Reading Quoted Text

What stands between the quotes of a quoted text can be read one code point after the other: a backslash
opens an escape, whose length follows from its letter, and anything else stands for itself
(`readCodePoint_quotedCodePoint`).  An unescaped quote ends the text.  So a quoted text needs no
separator after it: if two quoted texts are the beginnings of the same characters, then they are the
same text (`quotedCharacters_append_inj`).
-/

namespace BrowserControl.Text

/-! ## Numbers -/

/-- Hexadecimal digits denote the number they were written for, as far as they reach. -/
theorem hexNumber?_hexDigits (width number : Nat) :
    hexNumber? (hexDigits width number) = some (number % 16 ^ width) := by
  unfold hexNumber?
  induction width generalizing number with
  | zero => simp [hexDigits, Nat.mod_one]
  | succ width ih =>
    -- The last digit stands for the remainder, and those before it for the quotient.
    have hdigit := hexValue?_hexDigit (number % 16) (Nat.mod_lt _ (by decide))
    have hnumber : number % 16 ^ (width + 1) = 16 * (number / 16 % 16 ^ width) + number % 16 := by
      rw [Nat.pow_succ, Nat.mul_comm, Nat.mod_mul]
      omega
    rw [hexDigits, List.foldlM_append, ih, hnumber]
    simp [hdigit]

namespace CodePoint

/-- The number of a character is not one of half of a surrogate pair. -/
theorem value_scalar_lt_or (character : Char) :
    (scalar character).value < 0xD800 ∨
      0xE000 ≤ (scalar character).value ∧ (scalar character).value < 0x110000 :=
  character.valid

theorem value_lt (codePoint : CodePoint) : codePoint.value < 16 ^ 8 := by
  cases codePoint with
  | surrogate offset =>
    have hvalue : (surrogate offset).value = 0xD800 + offset := rfl
    omega
  | scalar character =>
    have hvalue := value_scalar_lt_or character
    omega

/-- Code points are told apart by their numbers. -/
theorem ofUnit_value (codePoint : CodePoint) : ofUnit codePoint.value = codePoint := by
  cases codePoint with
  | surrogate offset =>
    have hvalue : (surrogate offset).value = 0xD800 + offset := rfl
    have hrange : 0xD800 ≤ (surrogate offset).value ∧ (surrogate offset).value < 0xE000 := by omega
    rw [ofUnit, dif_pos hrange, surrogate.injEq, Fin.mk.injEq]
    omega
  | scalar character =>
    have hvalue := value_scalar_lt_or character
    have hrange : ¬(0xD800 ≤ (scalar character).value ∧ (scalar character).value < 0xE000) := by
      omega
    rw [ofUnit, dif_neg hrange, value, Char.ofNat_toNat]

end CodePoint

/-! ## Escapes -/

/-- How many digits follow the letter of an escape. -/
def escapeWidth? : Char → Option Nat
  | 'x' => some 2
  | 'u' => some 4
  | 'U' => some 8
  | _ => none

/-- What a letter stands for after a backslash if no digits follow. -/
def escaped : Char → Char
  | 't' => '\t'
  | 'n' => '\n'
  | 'r' => '\r'
  | character => character

/-- The code point at the beginning of what stands between quotes, and what comes after it. -/
def readCodePoint : List Char → Option (CodePoint × List Char)
  | [] => none
  | '\\' :: letter :: rest =>
    match escapeWidth? letter with
    | some width =>
      (hexNumber? (rest.take width)).map fun number ↦ (CodePoint.ofUnit number, rest.drop width)
    | none => some (.scalar (escaped letter), rest)
  | character :: rest => some (.scalar character, rest)

/-- An escape of a width is read back from its digits. -/
theorem readCodePoint_digits {letter : Char} {width : Nat} (hletter : escapeWidth? letter = some width)
    {codePoint : CodePoint} (hvalue : codePoint.value < 16 ^ width) (rest : List Char) :
    readCodePoint ('\\' :: letter :: (hexDigits width codePoint.value ++ rest)) =
      some (codePoint, rest) := by
  have htake : (hexDigits width codePoint.value ++ rest).take width =
      hexDigits width codePoint.value := List.take_left' (length_hexDigits _ _)
  have hdrop : (hexDigits width codePoint.value ++ rest).drop width = rest :=
    List.drop_left' (length_hexDigits _ _)
  simp only [readCodePoint, hletter, htake, hdrop, hexNumber?_hexDigits, Nat.mod_eq_of_lt hvalue,
    CodePoint.ofUnit_value, Option.map_some]

theorem readCodePoint_numericEscape (codePoint : CodePoint) (rest : List Char) :
    readCodePoint (numericEscape codePoint.value ++ rest) = some (codePoint, rest) := by
  have hvalue := codePoint.value_lt
  unfold numericEscape
  split
  · exact readCodePoint_digits rfl (by omega) rest
  · split
    · exact readCodePoint_digits rfl (by omega) rest
    · exact readCodePoint_digits rfl hvalue rest

theorem readCodePoint_of_ne {character : Char} (hne : character ≠ '\\') (rest : List Char) :
    readCodePoint (character :: rest) = some (.scalar character, rest) := by
  unfold readCodePoint
  split <;> simp_all

/-- A code point is read as it was written between quotes. -/
theorem readCodePoint_quotedCodePoint {quote : Char} (hquote : quote = '\'' ∨ quote = '"')
    (codePoint : CodePoint) (rest : List Char) :
    readCodePoint (quotedCodePoint quote codePoint ++ rest) = some (codePoint, rest) := by
  cases codePoint with
  | surrogate offset => exact readCodePoint_numericEscape (.surrogate offset) rest
  | scalar character =>
    rw [quotedCodePoint]
    by_cases hescaped : character = quote ∨ character = '\\'
    · rw [if_pos hescaped]
      rcases hescaped with rfl | rfl
      · rcases hquote with rfl | rfl <;> rfl
      · rfl
    rw [if_neg hescaped]
    by_cases htab : character = '\t'
    · rw [if_pos htab, htab]
      rfl
    rw [if_neg htab]
    by_cases hfeed : character = '\n'
    · rw [if_pos hfeed, hfeed]
      rfl
    rw [if_neg hfeed]
    by_cases hreturn : character = '\r'
    · rw [if_pos hreturn, hreturn]
      rfl
    rw [if_neg hreturn]
    by_cases hprintable : isPrintable character = true
    · rw [if_pos hprintable]
      exact readCodePoint_of_ne (fun heq ↦ hescaped (.inr heq)) rest
    · rw [if_neg hprintable]
      exact readCodePoint_numericEscape (.scalar character) rest

/-- No code point is written with an unescaped quote. -/
theorem quotedCodePoint_append_ne {quote : Char} (hquote : quote = '\'' ∨ quote = '"')
    (codePoint : CodePoint) (rest rest' : List Char) :
    quotedCodePoint quote codePoint ++ rest ≠ quote :: rest' := by
  have hne : quote ≠ '\\' := by rcases hquote with rfl | rfl <;> decide
  intro hsame
  have hread := readCodePoint_quotedCodePoint hquote codePoint rest
  rw [hsame, readCodePoint_of_ne hne] at hread
  obtain rfl : CodePoint.scalar quote = codePoint := congrArg Prod.fst (Option.some.inj hread)
  rw [quotedCodePoint, if_pos (.inl rfl)] at hsame
  exact hne (List.cons.inj hsame).1.symm

/-! ## Texts -/

/-- The first unescaped quote ends a text. -/
theorem flatMap_quotedCodePoint_append_inj {quote : Char} (hquote : quote = '\'' ∨ quote = '"')
    {text text' : List CodePoint} {rest rest' : List Char}
    (hsame : text.flatMap (quotedCodePoint quote) ++ quote :: rest =
      text'.flatMap (quotedCodePoint quote) ++ quote :: rest') : text = text' ∧ rest = rest' := by
  induction text generalizing text' with
  | nil =>
    cases text' with
    | nil => exact ⟨rfl, (List.cons.inj hsame).2⟩
    | cons first others =>
      rw [List.flatMap_cons, List.append_assoc] at hsame
      exact absurd hsame.symm (quotedCodePoint_append_ne hquote first _ rest)
  | cons first others ih =>
    cases text' with
    | nil =>
      rw [List.flatMap_cons, List.append_assoc] at hsame
      exact absurd hsame (quotedCodePoint_append_ne hquote first _ rest')
    | cons first' others' =>
      rw [List.flatMap_cons, List.flatMap_cons, List.append_assoc, List.append_assoc] at hsame
      -- The same characters are read in the same way, so the texts begin with the same code point.
      have hread := congrArg readCodePoint hsame
      rw [readCodePoint_quotedCodePoint hquote, readCodePoint_quotedCodePoint hquote] at hread
      obtain ⟨rfl, hothers⟩ := Prod.mk.inj (Option.some.inj hread)
      obtain ⟨rfl, hrest⟩ := ih hothers
      exact ⟨rfl, hrest⟩

theorem delimiter_eq_or (text : List CodePoint) : delimiter text = '\'' ∨ delimiter text = '"' := by
  unfold delimiter
  split
  · exact .inr rfl
  · exact .inl rfl

/-- Where a quoted text ends can be told without knowing what comes after it. -/
theorem quotedCharacters_append_inj {text text' : List CodePoint} {rest rest' : List Char}
    (hsame : quotedCharacters text ++ rest = quotedCharacters text' ++ rest') :
    text = text' ∧ rest = rest' := by
  unfold quotedCharacters at hsame
  simp only [List.cons_append, List.append_assoc, List.nil_append] at hsame
  obtain ⟨hdelimiter, hsame⟩ := List.cons.inj hsame
  rw [← hdelimiter] at hsame
  exact flatMap_quotedCodePoint_append_inj (delimiter_eq_or text) hsame

end BrowserControl.Text
