import BrowserControl.Attempt
import BrowserControl.Text.Quoted
import BrowserControl.Text.Uppercase

/-!
# Logging

A log lets through the records whose severity reaches its threshold.  Thresholds have names, which are
accepted in any letter case; a log whose threshold is zero has none of its own and follows the root log.
Logs are known by their names: asking for a log again gives the same one, and may set its threshold.
-/

namespace BrowserControl

def thresholdNames : List (String × Nat) := [
  ("CRITICAL", 50),
  ("FATAL", 50),
  ("ERROR", 40),
  ("WARN", 30),
  ("WARNING", 30),
  ("INFO", 20),
  ("DEBUG", 10),
  ("NOTSET", 0)]

/-- The threshold that a name asks for; an empty name asks for none. -/
def requestedThreshold (name : List Text.CodePoint) : Except Failure (Option Nat) :=
  if name.isEmpty then .ok none
  else
    let capitals := Text.upperCodePoints name
    match thresholdNames.find? fun entry ↦ Text.CodePoint.ofString entry.1 = capitals with
    | some entry => .ok (some entry.2)
    | none => .error (.of .invalidValue ("Unknown level: " ++ Text.quotedCodePoints capitals))

inductive Severity where
  | debug
  | warning
  deriving DecidableEq, Repr

namespace Severity

def name : Severity → String
  | debug => "DEBUG"
  | warning => "WARNING"

/-- The least threshold that a record of this severity does not exceed. -/
def rank : Severity → Nat
  | debug => 10
  | warning => 30

end Severity

structure Record where
  severity : Severity
  message : String
  deriving DecidableEq, Repr

/-- The threshold of the root log unless it is set. -/
def rootThreshold : Nat := 30

/-- A log: its threshold, and the records it has let through, latest first. -/
structure Journal where
  threshold : Nat
  records : List Record
  deriving DecidableEq, Repr

namespace Journal

def fresh : Journal :=
  ⟨0, []⟩

def admits (journal : Journal) (severity : Severity) : Bool :=
  (if journal.threshold = 0 then rootThreshold else journal.threshold) ≤ severity.rank

/-- The log after a record has been offered to it. -/
def note (severity : Severity) (message : String) (journal : Journal) : Journal :=
  if journal.admits severity then { journal with records := ⟨severity, message⟩ :: journal.records }
  else journal

/-- Set the threshold to the one with a name, if a name is given. -/
def setThreshold (name : List Text.CodePoint) : Attempt Journal Unit := do
  match ← Attempt.ofExcept (requestedThreshold name) with
  | none => pure ()
  | some threshold => modify fun journal ↦ { journal with threshold }

end Journal

/-- The thresholds of the logs that have been asked for, by the names of the logs. -/
structure LogRegistry where
  thresholds : List (String × Nat)
  deriving DecidableEq, Repr

namespace LogRegistry

/-- The name under which a log is known; the root log may be asked for without a name. -/
def canonicalName (name : String) : String :=
  if name = "" then "root" else name

def threshold (registry : LogRegistry) (name : String) : Nat :=
  (registry.thresholds.lookup (canonicalName name)).getD
    (if canonicalName name = "root" then rootThreshold else 0)

def setThreshold (name : String) (level : List Text.CodePoint) : Attempt LogRegistry Unit := do
  match ← Attempt.ofExcept (requestedThreshold level) with
  | none => pure ()
  | some threshold =>
    modify fun registry ↦ ⟨(canonicalName name, threshold) :: registry.thresholds⟩

/-- Ask for a log, and set its threshold if the name of one is given. -/
def request (name : String) (level : List Text.CodePoint) : Attempt LogRegistry String := do
  setThreshold name level
  pure (canonicalName name)

end LogRegistry

end BrowserControl
