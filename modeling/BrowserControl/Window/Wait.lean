import BrowserControl.Window.Browser

/-!
# Waiting for New Windows

Windows are new to whoever knows the handles that were there before.  One look reads the handles and keeps
the new ones, each once.  Waiting means looking again and again, with a pause after each look, until there
is something new or a look was taken after the deadline; an element that was not found counts as nothing new.
-/

namespace BrowserControl.Browser

variable {τ : Type} [TimeScale τ]

/-- The handles that are not known yet, each once, in the order of first mention. -/
def unknownHandles (known windows : List String) : List String :=
  windows.eraseDups.filter (· ∉ known)

def newWindows (known : List String) : Attempt (Browser τ) (List String) :=
  unknownHandles known <$> readWindows

def timedOut {α : Type} : Attempt (Browser τ) α :=
  throw (.of .timeout "")

/-- Look for new windows until the deadline has passed, at most the given number of times. -/
def awaitNewUntil (known : List String) (deadline span : τ) :
    Nat → Attempt (Browser τ) (List String)
  | 0 => timedOut
  | looks + 1 => do
    let found ← Attempt.recover (newWindows known) .noSuchElement fun _ ↦ pure []
    if found ≠ [] then pure found
    else if deadline < (← get).clock then timedOut
    else do
      pause span
      awaitNewUntil known deadline span looks

/-- Wait for new windows up to a time from now, pausing for a while after each look. -/
def awaitNew (known : List String) (timeout span : τ) : Attempt (Browser τ) (List String) := do
  awaitNewUntil known ((← get).clock + timeout) span (TimeScale.pollLimit timeout span)

end BrowserControl.Browser
