import BrowserControl.Json.Reader
import BrowserControl.Text.Uppercase
import BrowserControl.Text.Utf8
import BrowserControl.Time

/-!
# Settings

How long to wait for a new window, how long to pause between two looks, and from which severity on to log.
Settings may come from a file that holds an object; members with other keys are ignored, and a key that
is missing has a standard value.  The values are checked in a fixed order, so that what a file with several
mistakes is refused for does not depend on the order of its members.
-/

namespace BrowserControl

/-- Settings as they are kept; whole numbers are put on the scale when they are used. -/
structure Settings (τ : Type) where
  newWindowTimeout : Seconds τ
  pollFrequency : Seconds τ
  logLevel : List Text.CodePoint

namespace Settings

section

variable {τ : Type} [TimeScale τ]

/-- The settings to use when none are given. -/
def standard : Settings τ where
  newWindowTimeout := .whole 0
  pollFrequency := .measured TimeScale.half
  logLevel := Text.CodePoint.ofString "WARNING"

def timeout (settings : Settings τ) : Except Failure τ :=
  settings.newWindowTimeout.onScale

def pause (settings : Settings τ) : Except Failure τ :=
  settings.pollFrequency.onScale

/-- The name of the log threshold, in capitals. -/
def level (settings : Settings τ) : List Text.CodePoint :=
  Text.upperCodePoints settings.logLevel

end

/-! ## Checks -/

/-- A value that has to be a number of seconds. -/
def checkSeconds (key : String) (value : Json.Value) : Except Failure (Seconds Float) :=
  let negative := Failure.of .invalidValue (key ++ " can't be negative, got " ++ value.display)
  match value with
  | .int number => if number < 0 then .error negative else .ok (.whole number)
  | .float number => if number < 0 then .error negative else .ok (.measured number)
  | _ =>
    .error (.of .invalidValue (key ++ " must be a number of seconds, got " ++ value.display))

def checkNonzero (key : String) (seconds : Seconds Float) : Except Failure Unit :=
  let isZero :=
    match seconds with
    | .whole number => number == 0
    | .measured number => number == 0
  if isZero then .error (.of .invalidValue (key ++ " must be greater than 0")) else .ok ()

def checkLevel (key : String) (value : Json.Value) : Except Failure (List Text.CodePoint) :=
  match value with
  | .text level => .ok level
  | _ => .error (.of .invalidValue (key ++ " must be a level name, got " ++ value.display))

/-- The settings that three values make, or the first mistake in them. -/
def ofValues (timeout pause level : Json.Value) : Except Failure (Settings Float) := do
  let newWindowTimeout ← checkSeconds "new_window_timeout" timeout
  let pollFrequency ← checkSeconds "poll_frequency" pause
  checkNonzero "poll_frequency" pollFrequency
  let logLevel ← checkLevel "log_level" level
  pure { newWindowTimeout, pollFrequency, logLevel }

/-! ## Bindings -/

/-- The keys under which settings are given. -/
inductive Key where
  | newWindowTimeout
  | pollFrequency
  | logLevel
  deriving DecidableEq, Repr

namespace Key

def name : Key → String
  | newWindowTimeout => "new_window_timeout"
  | pollFrequency => "poll_frequency"
  | logLevel => "log_level"

/-- The value of a key under which nothing is given. -/
def standard : Key → Json.Value
  | newWindowTimeout => .int 0
  | pollFrequency => .float 0.5
  | logLevel => .text (Text.CodePoint.ofString "WARNING")

end Key

abbrev Bindings :=
  Key → Json.Value

namespace Bindings

/-- The bindings with a value given under a name; under a name that is no key's, nothing is bound. -/
def put (name : List Text.CodePoint) (value : Json.Value) (bindings : Bindings) : Bindings :=
  fun key ↦ if name = Text.CodePoint.ofString key.name then value else bindings key

/-- The standard bindings, updated with the members of an object. -/
def ofMembers (members : Json.Members Json.Value) : Bindings :=
  members.settled.foldl (fun bindings member ↦ bindings.put member.1 member.2) Key.standard

end Bindings

/-- The settings that an object makes, with standard values for keys it does not have. -/
def ofMembers (members : Json.Members Json.Value) : Except Failure (Settings Float) :=
  let bindings := Bindings.ofMembers members
  ofValues (bindings .newWindowTimeout) (bindings .pollFrequency) (bindings .logLevel)

def ofValue (value : Json.Value) : Except Failure (Settings Float) :=
  match value with
  | .object members => ofMembers members
  | other =>
    .error (.of .noSuchMember ("'" ++ other.typeName ++ "' object has no attribute 'items'"))

def ofText (text : List Char) : Except Failure (Settings Float) := do
  ofValue (← Json.parse (Text.unifyLineEndings text))

def ofOctets (octets : List UInt8) : Except Failure (Settings Float) :=
  match Text.Utf8.decode octets with
  | .ok text => ofText text
  | .error problem => .error (.of .malformedUtf8 problem.message)

/-! ## Files -/

/-- What may be found where settings are looked for. -/
inductive Source where
  | nowhere
  | missing
  | directory
  | file (octets : List UInt8)

/-- The settings from a source; looking nowhere gives the standard ones. -/
def load : Source → Except Failure (Settings Float)
  | .nowhere => .ok standard
  | .missing => .error (.of .noSuchFile "")
  | .directory => .error (.of .isDirectory "")
  | .file octets => ofOctets octets

end Settings

end BrowserControl
