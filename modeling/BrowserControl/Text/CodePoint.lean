/-!
# Code Points

An escape such as `\ud800` can put half of a surrogate pair into a text on its own, which no
character can express.  Text that may come out of escapes is therefore a list of code points: each is a
character or a lone surrogate.  Every ordinary text embeds into this form, and the embedding loses
nothing (`ofString_injective`).
-/

namespace BrowserControl.Text

/-- A character, or one half of a surrogate pair that stands alone. -/
inductive CodePoint where
  | scalar (character : Char)
  | surrogate (offset : Fin 0x800)
  deriving DecidableEq, Repr

namespace CodePoint

def value : CodePoint → Nat
  | scalar character => character.toNat
  | surrogate offset => 0xD800 + offset

/-- The code point that a four-digit escape with this value stands for. -/
def ofUnit (unit : Nat) : CodePoint :=
  if hrange : 0xD800 ≤ unit ∧ unit < 0xE000 then
    surrogate ⟨unit - 0xD800, by omega⟩
  else
    scalar (Char.ofNat unit)

/-- Whether a unit opens a surrogate pair. -/
def isLeading (unit : Nat) : Bool :=
  0xD800 ≤ unit && unit < 0xDC00

def isTrailing (unit : Nat) : Bool :=
  0xDC00 ≤ unit && unit < 0xE000

/-- The character that a leading and a trailing unit spell together. -/
def ofPair (leading trailing : Nat) : CodePoint :=
  scalar (Char.ofNat (0x10000 + (leading - 0xD800) * 0x400 + (trailing - 0xDC00)))

/-- An ordinary text, code point by code point. -/
def ofString (text : String) : List CodePoint :=
  text.toList.map scalar

theorem scalar_injective : ∀ left right : Char, scalar left = scalar right → left = right := by
  intro left right hsame
  injection hsame

/-- No two texts have the same code points. -/
theorem ofString_injective (left right : String) (hsame : ofString left = ofString right) :
    left = right := by
  have hcharacters : left.toList = right.toList :=
    List.map_inj_right (fun {left right} ↦ scalar_injective left right) |>.1 hsame
  simpa using congrArg String.ofList hcharacters

end CodePoint

end BrowserControl.Text
