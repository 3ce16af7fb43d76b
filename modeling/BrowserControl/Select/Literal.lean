import BrowserControl.Text.Split

/-!
# Literals in Queries

A query for options carries a text as a literal.  Neither query language has escapes: a literal is the text
between double quotes, or between single quotes if it holds a double quote.  A text that holds both is
cut at its double quotes, and the pieces and the quotes between them are concatenated; after a text that ends
with a double quote, one more is written.

What a literal says (`meaning`) is what its quotations hold, one after the other.
-/

namespace BrowserControl.Select

structure Quotation where
  quote : Char
  content : List Char
  deriving DecidableEq, Repr

/-- A text as it stands in a query. -/
inductive Literal where
  | single (quotation : Quotation)
  | concatenation (quotations : List Quotation)
  deriving DecidableEq, Repr

def Quotation.write (quotation : Quotation) : List Char :=
  quotation.quote :: quotation.content ++ [quotation.quote]

def quotedQuote : Quotation :=
  ⟨'\'', ['"']⟩

namespace Literal

/-- The quotations of pieces, with a double quote between any two of them. -/
def ofPieces : List (List Char) → List Quotation
  | [] => []
  | [piece] => [⟨'"', piece⟩]
  | piece :: others => ⟨'"', piece⟩ :: quotedQuote :: ofPieces others

def ofText (text : List Char) : Literal :=
  if '"' ∈ text then
    if '\'' ∈ text then
      concatenation (ofPieces (Text.splitAt '"' text) ++
        if text.getLast? = some '"' then [quotedQuote] else [])
    else single ⟨'\'', text⟩
  else single ⟨'"', text⟩

def write : Literal → String
  | single quotation => String.ofList quotation.write
  | concatenation quotations =>
    "concat(" ++ ", ".intercalate (quotations.map fun quotation ↦ String.ofList quotation.write) ++ ")"

/-- The text that a literal says. -/
def meaning : Literal → List Char
  | single quotation => quotation.content
  | concatenation quotations => quotations.flatMap Quotation.content

/-- A text with at most one kind of quotes is said as it is. -/
theorem meaning_ofText {text : List Char} (hone : '"' ∉ text ∨ '\'' ∉ text) :
    (ofText text).meaning = text := by
  unfold ofText
  rcases hone with hdouble | hsingle
  · simp [hdouble, meaning]
  · by_cases hdouble : '"' ∈ text <;> simp [hdouble, hsingle, meaning]

end Literal

end BrowserControl.Select
