import BrowserControl.Fault
import BrowserControl.Time

/-!
# Browsers

A browser has windows, known by their handles, in the order of their opening; one handle is active, even if
its window is gone.  Pages open, close and focus windows of their own accord, at once or at a later time.  A
later event takes effect when the handles are read and its time has come.

A browser can be asked for the handles and for the active handle, told to switch to a window and to close the
active one, and left alone for a while.  Each of the first four may have a fault planned.  Every call is
recorded, the latest first.
-/

namespace BrowserControl

/-- What a page does to the windows: it opens some, closes some, and may focus one. -/
structure PageEvent where
  opened : List String
  closed : List String
  focused : Option String
  deriving DecidableEq, Repr

structure PendingEvent (τ : Type) where
  due : τ
  event : PageEvent
  deriving Repr

structure BrowserFaults where
  readWindows : Plan
  readActive : Plan
  switchTo : Plan
  closeActive : Plan
  deriving Repr

/-- Something that was asked of a browser.  Asking for the active handle and closing the active window keep
the handle that was active then. -/
inductive Call where
  | readWindows
  | readActive (active : String)
  | switchTo (handle : String)
  | close (active : String)
  | pause
  deriving DecidableEq, Repr

/-- A browser, its clock, and what it was asked for. -/
structure Browser (τ : Type) where
  windows : List String
  active : String
  clock : τ
  pending : List (PendingEvent τ)
  faults : BrowserFaults
  calls : List Call
  deriving Repr

namespace Browser

variable {τ : Type}

def fresh [TimeScale τ] (windows : List String) (active : String) : Browser τ where
  windows
  active
  clock := 0
  pending := []
  faults := ⟨none, none, none, none⟩
  calls := []

/-! ## Events -/

/-- The browser after an event: what is opened comes last, also if it is open already, and of what is closed
the first occurrence goes. -/
def undergo (event : PageEvent) (browser : Browser τ) : Browser τ :=
  { browser with
    windows := event.closed.foldl List.erase (browser.windows ++ event.opened)
    active := event.focused.getD browser.active }

def schedule [TimeScale τ] (delay : τ) (event : PageEvent) (browser : Browser τ) : Browser τ :=
  { browser with pending := browser.pending ++ [⟨browser.clock + delay, event⟩] }

/-- The browser after all events whose time has come, in the order they were scheduled. -/
def catchUp [TimeScale τ] (browser : Browser τ) : Browser τ :=
  let isDue (pending : PendingEvent τ) : Bool := pending.due ≤ browser.clock
  let later := { browser with pending := browser.pending.filter fun pending ↦ !isDue pending }
  (browser.pending.filter isDue).foldl (fun current pending ↦ current.undergo pending.event) later

def passTime [TimeScale τ] (span : τ) (browser : Browser τ) : Browser τ :=
  { browser with clock := browser.clock + span }

/-! ## Calls -/

def record (call : Call) : Attempt (Browser τ) Unit :=
  modify fun browser ↦ { browser with calls := call :: browser.calls }

def requireOpen (handle : String) : Attempt (Browser τ) Unit := do
  if handle ∈ (← get).windows then pure ()
  else throw (.of .noSuchWindow ("no such window: " ++ handle))

def readWindows [TimeScale τ] : Attempt (Browser τ) (List String) := do
  record .readWindows
  modify catchUp
  strike (fun browser ↦ browser.faults.readWindows) fun plan browser ↦
    { browser with faults := { browser.faults with readWindows := plan } }
  return (← get).windows

/-- Read the active handle; there has to be a window with it. -/
def readActive : Attempt (Browser τ) String := do
  let active := (← get).active
  record (.readActive active)
  strike (fun browser ↦ browser.faults.readActive) fun plan browser ↦
    { browser with faults := { browser.faults with readActive := plan } }
  requireOpen active
  pure active

def switchTo (handle : String) : Attempt (Browser τ) Unit := do
  record (.switchTo handle)
  strike (fun browser ↦ browser.faults.switchTo) fun plan browser ↦
    { browser with faults := { browser.faults with switchTo := plan } }
  requireOpen handle
  modify fun browser ↦ { browser with active := handle }

/-- Close the active window; its handle stays active. -/
def closeActive : Attempt (Browser τ) Unit := do
  let active := (← get).active
  record (.close active)
  strike (fun browser ↦ browser.faults.closeActive) fun plan browser ↦
    { browser with faults := { browser.faults with closeActive := plan } }
  requireOpen active
  modify fun browser ↦ { browser with windows := browser.windows.erase active }

def pause [TimeScale τ] (span : τ) : Attempt (Browser τ) Unit := do
  record .pause
  modify (passTime span)

end Browser

end BrowserControl
