import BrowserControl.Text.Hexadecimal

/-!
# UTF-8

Strict decoding of UTF-8.  The decoder reads one octet at a time.  Between characters it accepts the first
octet of a character, which says how many continuation octets follow and, where a shorter encoding, a
surrogate or a number beyond the last character has to be ruled out, narrows the first of them.  The
first octet that rules the input out decides what is reported: which octets, counted from the start of
the character, and why.
-/

namespace BrowserControl.Text.Utf8

/-- Why a run of octets is no character. -/
inductive Fault where
  | badStart
  | badContinuation
  | truncated
  deriving DecidableEq, Repr

/-- A run of octets that cannot be decoded: where it starts, its first octet and its length. -/
structure Problem where
  fault : Fault
  start : Nat
  firstOctet : UInt8
  length : Nat
  deriving DecidableEq, Repr

def Fault.description : Fault → String
  | .badStart => "invalid start byte"
  | .badContinuation => "invalid continuation byte"
  | .truncated => "unexpected end of data"

/-- The report on octets that are not UTF-8; a single octet is shown, a longer run is located only. -/
def Problem.message (problem : Problem) : String :=
  let place :=
    if problem.length = 1 then
      "byte 0x" ++ String.ofList (hexDigits 2 problem.firstOctet.toNat) ++ " in position " ++
        toString problem.start
    else
      "bytes in position " ++ toString problem.start ++ "-" ++
        toString (problem.start + problem.length - 1)
  "'utf-8' codec can't decode " ++ place ++ ": " ++ problem.fault.description

/-- A character of which the first octets have been read. -/
structure Partial where
  start : Nat
  firstOctet : UInt8
  seen : Nat
  owed : Nat
  low : UInt8
  high : UInt8
  value : Nat

/-- What the first octet of a character announces: the continuation octets that are owed, the bounds of the
next of them, and the bits the octet carries itself. -/
def announce (octet : UInt8) : Option (Nat × UInt8 × UInt8 × Nat) :=
  if octet < 0x80 then some (0, 0x80, 0xBF, octet.toNat)
  else if octet < 0xC2 then none
  else if octet < 0xE0 then some (1, 0x80, 0xBF, octet.toNat - 0xC0)
  else if octet < 0xF0 then
    some (2, if octet = 0xE0 then 0xA0 else 0x80, if octet = 0xED then 0x9F else 0xBF,
      octet.toNat - 0xE0)
  else if octet < 0xF5 then
    some (3, if octet = 0xF0 then 0x90 else 0x80, if octet = 0xF4 then 0x8F else 0xBF,
      octet.toNat - 0xF0)
  else none

def decodeFrom (position : Nat) : Option Partial → List UInt8 → Except Problem (List Char)
  | none, [] => .ok []
  | some unfinished, [] =>
    .error ⟨.truncated, unfinished.start, unfinished.firstOctet, unfinished.seen⟩
  | none, octet :: octets =>
    match announce octet with
    | none => .error ⟨.badStart, position, octet, 1⟩
    | some (0, _, _, value) => (Char.ofNat value :: ·) <$> decodeFrom (position + 1) none octets
    | some (owed, low, high, value) =>
      decodeFrom (position + 1) (some ⟨position, octet, 1, owed, low, high, value⟩) octets
  | some unfinished, octet :: octets =>
    if unfinished.low ≤ octet ∧ octet ≤ unfinished.high then
      let value := unfinished.value * 0x40 + (octet.toNat - 0x80)
      if unfinished.owed = 1 then
        (Char.ofNat value :: ·) <$> decodeFrom (position + 1) none octets
      else
        decodeFrom (position + 1)
          (some
            { unfinished with
              seen := unfinished.seen + 1
              owed := unfinished.owed - 1
              low := 0x80
              high := 0xBF
              value })
          octets
    else
      .error ⟨.badContinuation, unfinished.start, unfinished.firstOctet, unfinished.seen⟩

/-- The characters that a sequence of octets encodes, or the first run that encodes none. -/
def decode (octets : List UInt8) : Except Problem (List Char) :=
  decodeFrom 0 none octets

end BrowserControl.Text.Utf8
