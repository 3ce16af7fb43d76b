import BrowserControl.Window.Session

/-!
# Scripts

A script drives one browser with any number of sessions.  Sessions have names; starting one under a name
that is in use makes the name stand for the new session, while the old one stays in force for the scopes
it was entered with.  A scope runs steps with a session and closes the session when it is left, whether
at its end or by a failure.  A failure that comes out of closing takes the place of the one that was under
way.

Running a script gives a report on every step in the order of their ends: what came of it, what was asked of
the browser, what the log let through, and the states that the step found and left behind.
-/

namespace BrowserControl

/-- One browser, its log, all sessions in the order of their starts, and what names stand for. -/
structure World (τ : Type) where
  desktop : Desktop τ
  sessions : List (Session τ)
  names : List (String × Nat)

namespace World

variable {τ : Type}

def fresh [TimeScale τ] (windows : List String) (active : String) : World τ :=
  ⟨⟨Browser.fresh windows active, Journal.fresh⟩, [], []⟩

def number? (name : String) (world : World τ) : Option Nat :=
  world.names.lookup name

def session? (name : String) (world : World τ) : Option (Session τ) :=
  (world.number? name).bind fun number ↦ world.sessions[number]?

def changeBrowser (change : Browser τ → Browser τ) (world : World τ) : World τ :=
  { world with desktop := { world.desktop with browser := change world.desktop.browser } }

def onDesktop {α : Type} (attempt : Attempt (Desktop τ) α) : Attempt (World τ) α :=
  attempt.onPart World.desktop fun desktop world ↦ { world with desktop }

def noSession {α : Type} (name : String) : Attempt (World τ) α :=
  throw (.of .unknownName (Text.quoted name))

/-- Do something with the session that has a number. -/
def onNumber (number : Nat) (attempt : Attempt (Scene τ) Unit) : Attempt (World τ) Unit :=
  fun world ↦
    match world.sessions[number]? with
    | none => (.ok (), world)
    | some session =>
      let (outcome, scene) := attempt.perform ⟨session, world.desktop⟩
      (outcome,
        { world with desktop := scene.desktop, sessions := world.sessions.set number scene.session })

def onSession (name : String) (attempt : Attempt (Scene τ) Unit) : Attempt (World τ) Unit := do
  match (← get).number? name with
  | none => noSession name
  | some number => onNumber number attempt

/-- Make a name stand for a new session, or for none until the session has started. -/
def startSession [TimeScale τ] (name : String) (settings : Option (Except Failure (Settings τ))) :
    Attempt (World τ) Unit := do
  modify fun world ↦ { world with names := world.names.filter fun entry ↦ entry.1 ≠ name }
  let settings ← settings.mapM Attempt.ofExcept
  let session ← onDesktop (Session.start settings)
  modify fun world ↦
    { world with
      sessions := world.sessions ++ [session]
      names := (name, world.sessions.length) :: world.names }

end World

inductive Command (τ : Type) where
  | start (settings : Option (Except Failure (Settings τ)))
  | switch (timeout : Option (Seconds τ))
  | back
  | close
  | fail (failure : Failure)
  | page (event : PageEvent)
  | later (delay : Seconds τ) (event : PageEvent)
  | advance (span : Seconds τ)
  | plan (faults : BrowserFaults)
  | level (name : List Text.CodePoint)

def Command.run {τ : Type} [TimeScale τ] (name : String) : Command τ → Attempt (World τ) Unit
  | start settings => World.startSession name settings
  | switch timeout => World.onSession name (Session.switchToNewWindow timeout)
  | back => World.onSession name Session.switchBack
  | close => World.onSession name Session.close
  | fail failure => throw failure
  | page event => modify (World.changeBrowser (Browser.undergo event))
  | later delay event => do
    let delay ← Attempt.ofExcept delay.onScale
    modify (World.changeBrowser (Browser.schedule delay event))
  | advance span => do
    let span ← Attempt.ofExcept span.onScale
    modify (World.changeBrowser (Browser.passTime span))
  | plan faults => modify (World.changeBrowser fun browser ↦ { browser with faults })
  | level name => World.onDesktop (Desktop.onJournal (Journal.setThreshold name))

/-- The number of the session that a single step acts through, if there is one. -/
def Command.number? {τ : Type} (name : String) (world : World τ) : Command τ → Option Nat
  | switch _ | back | close => world.number? name
  | _ => none

/-- A step under the name of a session.  Inside a scope, the failure of a step that is not caught leaves the
scope. -/
inductive Step (τ : Type) where
  | single (name : String) (caught : Bool) (command : Command τ)
  | scope (name : String) (caught : Bool) (body : List (Step τ))

namespace Step

variable {τ : Type}

def name : Step τ → String
  | single name _ _ => name
  | scope name _ _ => name

/-- Whether the failure of a step stays within it. -/
def caught : Step τ → Bool
  | single _ caught _ => caught
  | scope _ caught _ => caught

end Step

/-- What came of a step, and the number of the session that it acted through.  For a scope, this is what
leaving it did, from the state that its steps had left behind. -/
structure Report (τ : Type) where
  step : Step τ
  number : Option Nat
  outcome : Except Failure Unit
  calls : List Call
  records : List Record
  before : World τ
  world : World τ

namespace Report

variable {τ : Type}

/-- The failure that a step passes on to the scope around it. -/
def raised (report : Report τ) : Option Failure :=
  match report.outcome with
  | .ok _ => none
  | .error failure => if report.step.caught then none else some failure

/-- The session that the step is about, as it is after the step. -/
def session? (report : Report τ) : Option (Session τ) :=
  report.world.session? report.step.name

end Report

/-- What has been put in front of a list since it had a given length, oldest first. -/
def newest {α : Type} (before : Nat) (entries : List α) : List α :=
  (entries.take (entries.length - before)).reverse

namespace Step

variable {τ : Type} [TimeScale τ]

omit [TimeScale τ] in
def observe (step : Step τ) (number : Option Nat) (attempt : Attempt (World τ) Unit)
    (world : World τ) : Report τ :=
  let (outcome, later) := attempt.perform world
  { step
    number
    outcome
    calls := newest world.desktop.browser.calls.length later.desktop.browser.calls
    records := newest world.desktop.journal.records.length later.desktop.journal.records
    before := world
    world := later }

/-- Leave a scope: close its session, then pass on the failure that was under way, if any. -/
def leave (number : Nat) (raised : Option Failure) : Attempt (World τ) Unit := do
  World.onNumber number Session.close
  match raised with
  | none => pure ()
  | some failure => throw failure

mutual

/-- Run a step: the reports on it and on the steps inside it, and the world and the failure that it passes
on. -/
def run : Step τ → World τ → List (Report τ) × World τ × Option Failure
  | single name caught command, world =>
    let report := observe (single name caught command) (command.number? name world)
      (command.run name) world
    ([report], report.world, report.raised)
  | scope name caught body, world =>
    match world.number? name with
    | none =>
      let report := observe (scope name caught body) none (World.noSession name) world
      ([report], report.world, report.raised)
    | some number =>
      let (reports, inner, raised) := runBody body world
      let report := observe (scope name caught body) (some number) (leave number raised) inner
      (reports ++ [report], report.world, report.raised)

/-- Run the steps of a scope up to the first that fails without being caught. -/
def runBody : List (Step τ) → World τ → List (Report τ) × World τ × Option Failure
  | [], world => ([], world, none)
  | step :: rest, world =>
    match run step world with
    | (reports, later, some failure) => (reports, later, some failure)
    | (reports, later, none) =>
      let (further, last, raised) := runBody rest later
      (reports ++ further, last, raised)

end

/-- Run all steps of a script, one after the other, whatever fails. -/
def runAll : List (Step τ) → World τ → List (Report τ)
  | [], _ => []
  | step :: rest, world =>
    let (reports, later, _) := run step world
    reports ++ runAll rest later

end Step

end BrowserControl
