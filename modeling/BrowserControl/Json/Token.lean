import BrowserControl.Json.Problem
import BrowserControl.Json.Value

/-!
# Tokens of Documents

A text is cut into tokens: brackets, separators, texts, and the values that take one token.  Blanks between
tokens are skipped.  A place from which no token can be read becomes a last token that carries the
problem; whether that is what has to be reported is for the reader to say, who may have stopped before
it or may have expected something else there.
-/

namespace BrowserControl.Json

inductive Token where
  | opening (bracket : Bracket)
  | closing (bracket : Bracket)
  | comma
  | colon
  | text (value : List Text.CodePoint)
  | single (value : Value)
  | bad (problem : Problem)

/-- A token and where it starts. -/
structure Lexeme where
  offset : Nat
  token : Token

/-! ## Texts -/

def fourDigits? (characters : List Char) : Option Nat :=
  match characters with
  | first :: second :: third :: fourth :: _ => Text.hexNumber? [first, second, third, fourth]
  | _ => none

/-- What single characters mean after a backslash. -/
def shortEscapes : List (Char × Char) := [
  ('"', '"'), ('\\', '\\'), ('/', '/'), ('b', '\x08'), ('f', '\x0c'), ('n', '\n'), ('r', '\r'),
  ('t', '\t')]

/-- The code point of a numeric escape, given what follows its `u`, and the number of characters it takes up
from there.  Two escapes that spell a surrogate pair together are read as one.  An escape at the
very end of a text cannot be complete, since the closing quote is missing. -/
def numericEscape (offset : Nat) (characters : List Char) :
    Except Problem (Text.CodePoint × Nat) :=
  match (if (characters.drop 4).isEmpty then none else fourDigits? characters) with
  | none => .error (.malformed .badNumericEscape offset)
  | some unit =>
    match characters.drop 4 with
    | '\\' :: 'u' :: further =>
      if Text.CodePoint.isLeading unit ∧ ¬(further.drop 4).isEmpty then
        match fourDigits? further with
        | none => .error (.malformed .badNumericEscape (offset + 6))
        | some second =>
          if Text.CodePoint.isTrailing second then .ok (Text.CodePoint.ofPair unit second, 10)
          else .ok (Text.CodePoint.ofUnit unit, 4)
      else .ok (Text.CodePoint.ofUnit unit, 4)
    | _ => .ok (Text.CodePoint.ofUnit unit, 4)

/-- The code point of an escape whose backslash is at `offset`, given what follows the backslash, and the
number of characters it takes up from there. -/
def escape (start offset : Nat) (characters : List Char) :
    Except Problem (Text.CodePoint × Nat) :=
  match characters with
  | [] => .error (.malformed .unterminatedText start)
  | 'u' :: digits =>
    (fun (codePoint, length) ↦ (codePoint, length + 1)) <$> numericEscape (offset + 1) digits
  | character :: _ =>
    match shortEscapes.lookup character with
    | some meaning => .ok (.scalar meaning, 1)
    | none => .error (.malformed .unknownEscape offset)

/-- Read a text whose opening quote is at `start` from `offset` on, passing over `skip` characters first,
which belong to an escape.  Yields the text and the offset after its closing quote. -/
def readText (start : Nat) : (skip offset : Nat) → List Char →
    Except Problem (List Text.CodePoint × Nat)
  | _, _, [] => .error (.malformed .unterminatedText start)
  | skip + 1, offset, _ :: rest => readText start skip (offset + 1) rest
  | 0, offset, character :: rest =>
    if character = '"' then .ok ([], offset + 1)
    else if character = '\\' then
      match escape start offset rest with
      | .error problem => .error problem
      | .ok (codePoint, length) =>
        (fun (text, after) ↦ (codePoint :: text, after)) <$> readText start length (offset + 1) rest
    else if character < ' ' then .error (.malformed .controlCharacter offset)
    else
      (fun (text, after) ↦ (.scalar character :: text, after)) <$> readText start 0 (offset + 1) rest

/-! ## Numbers -/

/-- A number as it is written: its digits before the point, those after it, and its exponent. -/
structure Numeral where
  negative : Bool
  whole : List Char
  fraction : List Char
  exponent : Option Int
  length : Nat

/-- The digits before the point: zero, or digits that do not start with a zero. -/
def wholeDigits (characters : List Char) : List Char :=
  match characters with
  | '0' :: _ => ['0']
  | _ => characters.takeWhile Char.isDigit

/-- The digits after a point, if there are a point and digits. -/
def fractionDigits (characters : List Char) : List Char :=
  match characters with
  | '.' :: rest => rest.takeWhile Char.isDigit
  | _ => []

def exponent? (characters : List Char) : Option (Int × Nat) :=
  match characters with
  | mark :: rest =>
    if mark = 'e' ∨ mark = 'E' then
      let (sign, digits) : Option Char × List Char :=
        match rest with
        | '-' :: further => (some '-', further.takeWhile Char.isDigit)
        | '+' :: further => (some '+', further.takeWhile Char.isDigit)
        | _ => (none, rest.takeWhile Char.isDigit)
      if digits.isEmpty then none
      else
        let size : Int := Decimal.ofDigits digits
        some (if sign = some '-' then -size else size, 1 + sign.toList.length + digits.length)
    else none
  | [] => none

/-- The longest number that the characters start with. -/
def numeral? (characters : List Char) : Option Numeral :=
  let negative := characters.head? = some '-'
  let unsigned := if negative then characters.drop 1 else characters
  let whole := wholeDigits unsigned
  if whole.isEmpty then none
  else
    let afterWhole := unsigned.drop whole.length
    let fraction := fractionDigits afterWhole
    let fractionLength := if fraction.isEmpty then 0 else fraction.length + 1
    let exponent := exponent? (afterWhole.drop fractionLength)
    some
      { negative
        whole
        fraction
        exponent := exponent.map Prod.fst
        length := (if negative then 1 else 0) + whole.length + fractionLength +
          (exponent.map Prod.snd).getD 0 }

/-- The value of a number: an integer if it has neither fraction nor exponent. -/
def Numeral.token (numeral : Numeral) : Token :=
  if numeral.fraction.isEmpty ∧ numeral.exponent.isNone then
    if numeral.whole.length ≤ Decimal.integerDigitLimit then
      let size : Int := Decimal.ofDigits numeral.whole
      .single (.int (if numeral.negative then -size else size))
    else .bad (.integerTooLong numeral.whole.length)
  else
    .single (.float (Decimal.nearest numeral.negative
      (Decimal.ofDigits (numeral.whole ++ numeral.fraction))
      (numeral.exponent.getD 0 - numeral.fraction.length)))

/-! ## Cutting a text -/

def words : List (List Char × Value) := [
  ("null".toList, .null),
  ("true".toList, .bool true),
  ("false".toList, .bool false),
  ("NaN".toList, .float (Decimal.ofPattern false 0x7FF8000000000000)),
  ("Infinity".toList, .float (Decimal.ofPattern false Decimal.infinityPattern)),
  ("-Infinity".toList, .float (Decimal.ofPattern true Decimal.infinityPattern))]

def wordOrNumber (offset : Nat) (characters : List Char) : Token × Nat :=
  match words.find? fun word ↦ word.1.isPrefixOf characters with
  | some (word, value) => (.single value, word.length)
  | none =>
    match numeral? characters with
    | some numeral => (numeral.token, numeral.length)
    | none => (.bad (.malformed .noValue offset), 1)

/-- The token that starts with a character which is no blank, and how many characters it takes up. -/
def token (offset : Nat) (character : Char) (rest : List Char) : Token × Nat :=
  if character = '[' then (.opening .array, 1)
  else if character = ']' then (.closing .array, 1)
  else if character = '\x7b' then (.opening .object, 1)
  else if character = '\x7d' then (.closing .object, 1)
  else if character = ',' then (.comma, 1)
  else if character = ':' then (.colon, 1)
  else if character = '"' then
    match readText offset 0 (offset + 1) rest with
    | .ok (text, after) => (.text text, after - offset)
    | .error problem => (.bad problem, 1)
  else wordOrNumber offset (character :: rest)

def isBlank (character : Char) : Bool :=
  character = ' ' || character = '\t' || character = '\n' || character = '\r'

/-- The tokens from an offset on, after the `skip` characters that belong to the last token. -/
def lexemes : (skip offset : Nat) → List Char → List Lexeme
  | _, _, [] => []
  | skip + 1, offset, _ :: rest => lexemes skip (offset + 1) rest
  | 0, offset, character :: rest =>
    if isBlank character then lexemes 0 (offset + 1) rest
    else
      match token offset character rest with
      | (.bad problem, _) => [⟨offset, .bad problem⟩]
      | (token, length) => ⟨offset, token⟩ :: lexemes (length - 1) (offset + 1) rest

end BrowserControl.Json
