import BrowserControl.Decimal.Numeral
import BrowserControl.Failure
import BrowserControl.Text.Line

/-!
# Problems in Documents

Why a text is no document.  Most problems are a complaint about a place in the text; the others concern
numbers and nesting beyond what is read.
-/

namespace BrowserControl.Json

/-- What is wrong at a place in a text. -/
inductive Complaint where
  | byteOrderMark
  | noValue
  | noKey
  | noColon
  | noComma
  | extraText
  | unterminatedText
  | controlCharacter
  | unknownEscape
  | badNumericEscape
  deriving DecidableEq, Repr

def Complaint.description : Complaint → String
  | byteOrderMark => "Unexpected UTF-8 BOM (decode using utf-8-sig)"
  | noValue => "Expecting value"
  | noKey => "Expecting property name enclosed in double quotes"
  | noColon => "Expecting ':' delimiter"
  | noComma => "Expecting ',' delimiter"
  | extraText => "Extra data"
  | unterminatedText => "Unterminated string starting at"
  | controlCharacter => "Invalid control character at"
  | unknownEscape => "Invalid \\escape"
  | badNumericEscape => "Invalid \\uXXXX escape"

inductive Bracket where
  | array
  | object
  deriving DecidableEq, Repr

/-- Why a text is no document. -/
inductive Problem where
  | malformed (complaint : Complaint) (offset : Nat)
  | integerTooLong (digits : Nat)
  | nestedTooDeep (bracket : Bracket)
  deriving DecidableEq, Repr

def Problem.failure (text : List Char) : Problem → Failure
  | malformed complaint offset =>
    .of .malformedJson
      (complaint.description ++ ": " ++ (Text.placeAt text offset).description)
  | integerTooLong digits => .of .invalidValue (Decimal.tooLongToRead digits)
  | nestedTooDeep bracket =>
    .of .nestedTooDeep
      ("maximum recursion depth exceeded while decoding a JSON " ++
        (match bracket with
          | .array => "array"
          | .object => "object") ++
        " from a unicode string")

end BrowserControl.Json
