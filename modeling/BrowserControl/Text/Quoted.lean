import BrowserControl.Text.Hexadecimal
import BrowserControl.Text.Printable

/-!
# Quoted Text

Diagnostics and descriptions quote a text so that it can be told from its surroundings.  A text stands
between single quotes, or between double quotes if it holds a single quote and no double quote.  The
delimiter and the backslash are escaped with a backslash; tab, line feed and carriage return have escapes of
their own; anything else that is not printable is written by its number, with as many digits as its size
calls for.  The written form is therefore always an ordinary, printable text.
-/

namespace BrowserControl.Text

/-- The quote to put around a text. -/
def delimiter (text : List CodePoint) : Char :=
  if CodePoint.scalar '\'' ∈ text ∧ CodePoint.scalar '"' ∉ text then '"' else '\''

def numericEscape (number : Nat) : List Char :=
  if number < 0x100 then '\\' :: 'x' :: hexDigits 2 number
  else if number < 0x10000 then '\\' :: 'u' :: hexDigits 4 number
  else '\\' :: 'U' :: hexDigits 8 number

/-- One code point of a text quoted with the given delimiter. -/
def quotedCodePoint (quote : Char) : CodePoint → List Char
  | .surrogate offset => numericEscape (CodePoint.surrogate offset).value
  | .scalar character =>
    if character = quote ∨ character = '\\' then ['\\', character]
    else if character = '\t' then ['\\', 't']
    else if character = '\n' then ['\\', 'n']
    else if character = '\r' then ['\\', 'r']
    else if isPrintable character then [character]
    else numericEscape character.toNat

def quotedCharacters (text : List CodePoint) : List Char :=
  delimiter text :: text.flatMap (quotedCodePoint (delimiter text)) ++ [delimiter text]

def quotedCodePoints (text : List CodePoint) : String :=
  String.ofList (quotedCharacters text)

/-- The quoted form of an ordinary text. -/
def quoted (text : String) : String :=
  quotedCodePoints (CodePoint.ofString text)

end BrowserControl.Text
