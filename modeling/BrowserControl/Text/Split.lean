/-!
# Splitting Text

Cutting a text at separators, and what is built on it: the words of a text, its form with normal spacing, and
the longest piece between spaces.  A text cut at one character and joined with that character again is
the same text (`joinWith_splitAt`).
-/

namespace BrowserControl.Text

/-- The pieces between separators; there is always at least one. -/
def splitWhere (isSeparator : Char → Bool) : List Char → List (List Char)
  | [] => [[]]
  | character :: rest =>
    match splitWhere isSeparator rest with
    | [] => [[character]]
    | first :: others =>
      if isSeparator character then [] :: first :: others else (character :: first) :: others

def splitAt (separator : Char) (text : List Char) : List (List Char) :=
  splitWhere (· = separator) text

def joinWith (separator : Char) : List (List Char) → List Char
  | [] => []
  | [piece] => piece
  | piece :: others => piece ++ separator :: joinWith separator others

/-- Even the empty text has a piece. -/
theorem splitWhere_ne_nil (isSeparator : Char → Bool) (text : List Char) :
    splitWhere isSeparator text ≠ [] := by
  cases text with
  | nil => simp [splitWhere]
  | cons character rest =>
    unfold splitWhere
    split
    · simp
    · split <;> simp

/-- Joining the pieces with the separator gives the text back. -/
theorem joinWith_splitAt (separator : Char) (text : List Char) :
    joinWith separator (splitAt separator text) = text := by
  unfold splitAt
  induction text with
  | nil => rfl
  | cons character rest ih =>
    unfold splitWhere
    cases hpieces : splitWhere (· = separator) rest with
    | nil => exact absurd hpieces (splitWhere_ne_nil _ rest)
    | cons first others =>
      rw [hpieces] at ih
      by_cases hseparator : character = separator
      · simp [hseparator, joinWith, ih]
      · cases others <;> simp_all [joinWith]

/-- Whether a character counts as space within a document: space, tab, line feed and carriage return. -/
def isSpace (character : Char) : Bool :=
  character = ' ' || character = '\t' || character = '\n' || character = '\r'

/-- The words of a text, which are never empty. -/
def words (text : List Char) : List (List Char) :=
  (splitWhere isSpace text).filter (!·.isEmpty)

/-- The text with one space between its words and none around them. -/
def normalSpacing (text : List Char) : List Char :=
  joinWith ' ' (words text)

/-- The longest piece between spaces; of several, the first. -/
def longestPiece (text : List Char) : List Char :=
  (splitAt ' ' text).foldl
    (fun longest piece ↦ if longest.length < piece.length then piece else longest) []

def occursIn (part : List Char) : List Char → Bool
  | [] => part.isEmpty
  | character :: rest => part.isPrefixOf (character :: rest) || occursIn part rest

end BrowserControl.Text
