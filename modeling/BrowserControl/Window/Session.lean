import BrowserControl.Logging
import BrowserControl.Settings
import BrowserControl.Window.Wait

/-!
# Window Sessions

A session looks after one window that opens while it is in force.  When it starts, it remembers the windows
that are there and the active one.  It then finds the window that has opened since, provided there is exactly
one, and switches to it; it can switch back to where it started; and when it is closed it closes the window it
found, and only that one, and gives the focus back.

A session is used once: it finds at most one window, and once it is closed it cannot find another.  The
stage of a session says how far it is, so that a session which has found a window always knows which.
-/

namespace BrowserControl

/-- How far a session is; a closed one remembers the window it had found. -/
inductive Stage where
  | notAttached
  | attached (window : String)
  | closed (window : Option String)
  deriving DecidableEq, Repr

namespace Stage

def window? : Stage → Option String
  | notAttached => none
  | attached window => some window
  | closed window => window

def isClosed : Stage → Bool
  | closed _ => true
  | _ => false

end Stage

/-- What a session remembers: the windows at its start, each once, and the one that was active. -/
structure Session (τ : Type) where
  settings : Settings τ
  initialWindows : List String
  initialActive : String
  stage : Stage

structure Desktop (τ : Type) where
  browser : Browser τ
  journal : Journal

structure Scene (τ : Type) where
  session : Session τ
  desktop : Desktop τ

namespace Desktop

variable {τ : Type}

def onBrowser {α : Type} (attempt : Attempt (Browser τ) α) : Attempt (Desktop τ) α :=
  attempt.onPart Desktop.browser fun browser desktop ↦ { desktop with browser }

def onJournal {α : Type} (attempt : Attempt Journal α) : Attempt (Desktop τ) α :=
  attempt.onPart Desktop.journal fun journal desktop ↦ { desktop with journal }

end Desktop

namespace Scene

variable {τ : Type}

def onBrowser {α : Type} (attempt : Attempt (Browser τ) α) : Attempt (Scene τ) α :=
  (Desktop.onBrowser attempt).onPart Scene.desktop fun desktop scene ↦ { scene with desktop }

def note (severity : Severity) (message : String) : Attempt (Scene τ) Unit :=
  modify fun scene ↦
    { scene with
      desktop := { scene.desktop with journal := scene.desktop.journal.note severity message } }

def enter (stage : Stage) : Attempt (Scene τ) Unit :=
  modify fun scene ↦ { scene with session := { scene.session with stage } }

end Scene

namespace Session

variable {τ : Type} [TimeScale τ]

omit [TimeScale τ] in
/-- Set the threshold of the log to the one that settings name, if settings are given. -/
def adoptLevel : Option (Settings τ) → Attempt (Desktop τ) Unit
  | none => pure ()
  | some settings => Desktop.onJournal (Journal.setThreshold settings.level)

/-- Start a session, with standard settings unless some are given. -/
def start (settings : Option (Settings τ)) : Attempt (Desktop τ) (Session τ) := do
  adoptLevel settings
  let windows ← Desktop.onBrowser Browser.readWindows
  let active ← Desktop.onBrowser Browser.readActive
  pure
    { settings := settings.getD Settings.standard
      initialWindows := windows.eraseDups
      initialActive := active
      stage := .notAttached }

/-! ## Finding the window -/

/-- Wait for windows that have opened since the start, and report if none appears in time. -/
def awaitNewWindows (timeout : Seconds τ) : Attempt (Scene τ) (List String) := do
  let session := (← get).session
  let pause ← Attempt.ofExcept session.settings.pause
  let span ← Attempt.ofExcept timeout.onScale
  Attempt.recover (Scene.onBrowser (Browser.awaitNew session.initialWindows span pause)) .timeout
    fun _ ↦ do
      Scene.note .warning ("No new window appeared within " ++ timeout.write ++ "s")
      throw (.of .noNewWindow
        ("Can't switch to a new window: no new windows detected within " ++ timeout.write ++ "s"))

/-- The windows that have opened since the start, waited for only if there is time. -/
def findNewWindows (timeout : Seconds τ) : Attempt (Scene τ) (List String) := do
  if timeout.isPositive then awaitNewWindows timeout
  else Scene.onBrowser (Browser.newWindows (← get).session.initialWindows)

/-- The one window that has opened since the start. -/
def detect (timeout : Seconds τ) : Attempt (Scene τ) String := do
  match ← findNewWindows timeout with
  | [window] => pure window
  | [] =>
    Scene.note .warning "No new window detected"
    throw (.given .noNewWindow)
  | several =>
    Scene.note .warning (toString several.length ++ " new windows opened, refusing to pick one")
    throw (.given (.ambiguousNewWindows several.length))

/-- The time to wait for the window: the one asked for, or else the one in the settings. -/
def timeoutOr (timeout : Option (Seconds τ)) (settings : Settings τ) :
    Except Failure (Seconds τ) :=
  match timeout with
  | some timeout => .ok timeout
  | none => Seconds.measured <$> settings.timeout

/-- The window of the session, which is found now if it has not been found before. -/
def attach (timeout : Option (Seconds τ)) : Attempt (Scene τ) String := do
  let session := (← get).session
  match session.stage with
  | .closed _ => throw (.of .sessionClosed "This window session has already been closed")
  | .attached window => pure window
  | .notAttached =>
    let timeout ← Attempt.ofExcept (timeoutOr timeout session.settings)
    let window ← detect timeout
    Scene.enter (.attached window)
    pure window

/-! ## Switching and closing -/

def switchToNewWindow (timeout : Option (Seconds τ)) : Attempt (Scene τ) Unit := do
  let window ← attach timeout
  Scene.note .debug ("Switching to new window " ++ window)
  Scene.onBrowser (Browser.switchTo window)

omit [TimeScale τ] in
def switchBack : Attempt (Scene τ) Unit := do
  let session := (← get).session
  Scene.note .debug ("Switching back to window " ++ session.initialActive)
  Scene.onBrowser (Browser.switchTo session.initialActive)

/-- Close the window of the session, unless it is gone.  The focus goes back to the window that was active at
the start if it is on the window of the session, and otherwise stays where it is. -/
def release (window : String) : Attempt (Scene τ) Unit := do
  let session := (← get).session
  if window ∉ (← Scene.onBrowser Browser.readWindows) then
    Scene.note .debug ("Window " ++ window ++ " is already closed")
  else
    let active ← Scene.onBrowser Browser.readActive
    if active = window then
      Scene.onBrowser Browser.closeActive
      Scene.onBrowser (Browser.switchTo session.initialActive)
      Scene.note .debug ("Closed window " ++ window ++ ", back on " ++ session.initialActive)
    else
      Scene.onBrowser (Browser.switchTo window)
      Scene.onBrowser Browser.closeActive
      Scene.onBrowser (Browser.switchTo active)
      Scene.note .debug ("Closed window " ++ window ++ ", back on " ++ active)

/-- End the session.  It is over whatever happens to its window. -/
def close : Attempt (Scene τ) Unit := do
  let stage := (← get).session.stage
  Scene.enter (.closed stage.window?)
  match stage with
  | .attached window => release window
  | _ => pure ()

end Session

end BrowserControl
