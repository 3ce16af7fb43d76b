/-!
# Lines

A text file may end its lines with a line feed, a carriage return or both.  Reading gives every line the
same ending, a line feed; places in the text are afterwards reported by line and column, both counted
from one.
-/

namespace BrowserControl.Text

def unifyLineEndings : List Char → List Char
  | [] => []
  | '\r' :: '\n' :: rest => '\n' :: unifyLineEndings rest
  | character :: rest => (if character = '\r' then '\n' else character) :: unifyLineEndings rest

structure Place where
  offset : Nat
  line : Nat
  column : Nat
  deriving DecidableEq, Repr

/-- The place a number of characters into a text. -/
def placeAt (text : List Char) (offset : Nat) : Place :=
  let before := text.take offset
  { offset
    line := before.count '\n' + 1
    column := (before.reverse.takeWhile (· ≠ '\n')).length + 1 }

def Place.description (place : Place) : String :=
  "line " ++ toString place.line ++ " column " ++ toString place.column ++ " (char " ++
    toString place.offset ++ ")"

end BrowserControl.Text
