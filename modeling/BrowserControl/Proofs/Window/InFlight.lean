import BrowserControl.Proofs.Window.Faultless
import BrowserControl.Proofs.Window.Runs

/-!
# Failures in Flight

When a failure ends the steps of a scope, the session of the scope is closed before the failure is
passed on.  Closing can fail on its own, and then its failure comes out of the scope instead.
Without faults this takes a window that is gone: the active one, whose handle has to be read, or,
if the focus is on the window of the session, the one that was active at its start, which has to
get the focus.  In every other case the failure comes out of the scope as it is.
-/

namespace BrowserControl

open Attempt

variable {τ : Type}

namespace Session

/-- The window that closing a session needs and does not find, if there is one. -/
def missingWindow? (windows : List String) (active : String) (session : Session τ) :
    Option String :=
  match session.stage with
  | .attached window =>
    if window ∉ windows then none
    else if active ∉ windows then some active
    else if active = window ∧ session.initialActive ∉ windows.erase window then
      some session.initialActive
    else none
  | _ => none

/-- A session that is not attached needs no window in order to close. -/
theorem missingWindow?_of_not_attached {session : Session τ} (windows : List String)
    (active : String) (hstage : ∀ window, session.stage ≠ .attached window) :
    session.missingWindow? windows active = none := by
  unfold missingWindow?
  split
  · next window hwindow => exact absurd hwindow (hstage window)
  · rfl

/-- A release succeeds unless a window it needs is missing. -/
theorem missingWindow?_of_attached {session : Session τ} {window : String}
    (windows : List String) (active : String) (hstage : session.stage = .attached window) :
    releaseOutcome window session.initialActive windows active =
      match session.missingWindow? windows active with
      | none => .ok ()
      | some handle => .error (Browser.noSuchWindow handle) := by
  unfold releaseOutcome missingWindow?
  rw [hstage]
  by_cases hwindow : window ∉ windows
  · simp [hwindow]
  by_cases hactive : active ∉ windows
  · simp [hwindow, hactive]
  by_cases hinitial : active = window ∧ session.initialActive ∉ windows.erase window
  · simp [hwindow, hinitial]
  · simp [hwindow, hactive, hinitial]

/-- Without faults, closing a session fails exactly if it needs a window that is gone. -/
theorem outcome_close [TimeScale τ] (scene : Scene τ)
    (hquiet : scene.desktop.browser.faults = .quiet) :
    (close.perform scene).1 =
      match scene.session.missingWindow? scene.desktop.browser.catchUp.windows
        scene.desktop.browser.catchUp.active with
      | none => .ok ()
      | some handle => .error (Browser.noSuchWindow handle) := by
  by_cases hattached : ∃ window, scene.session.stage = .attached window
  · obtain ⟨window, hstage⟩ := hattached
    rw [(comesTo_close scene hstage (Browser.shows_catchUp hquiet)).outcome_eq]
    exact missingWindow?_of_attached _ _ hstage
  · have hstage := not_exists.1 hattached
    rw [perform_close_of_not_attached scene hstage, missingWindow?_of_not_attached _ _ hstage]

end Session

/-! ## Leaving scopes -/

namespace World

/-- The window that closing the session with a number needs and does not find, once due events
have taken effect. -/
def missingWindow? [TimeScale τ] (number : Nat) (world : World τ) : Option String :=
  world.sessions[number]?.bind fun session ↦
    session.missingWindow? world.desktop.browser.catchUp.windows
      world.desktop.browser.catchUp.active

end World

namespace Step

variable [TimeScale τ] {world inner : World τ}

/-- Leaving a scope with a failure under way fails in any case; it is with the failure under way
unless closing the session fails. -/
theorem outcome_leave (number : Nat) (failure : Failure)
    (hquiet : inner.desktop.browser.faults = .quiet) :
    ((leave number (some failure)).perform inner).1 =
      .error ((inner.missingWindow? number).elim failure Browser.noSuchWindow) := by
  unfold World.missingWindow?
  cases hsession : inner.sessions[number]? with
  | none =>
    unfold leave
    rw [perform_bind, World.perform_onNumber_of_eq_none _ hsession]
    rfl
  | some session =>
    have houtcome := Session.outcome_close ⟨session, inner.desktop⟩ hquiet
    rw [perform_leave _ hsession]
    simp only [Option.bind_some]
    cases hmissing : session.missingWindow? inner.desktop.browser.catchUp.windows
        inner.desktop.browser.catchUp.active with
    | none =>
      simp only [hmissing] at houtcome
      rw [houtcome]
      rfl
    | some handle =>
      simp only [hmissing] at houtcome
      rw [houtcome]
      rfl

/-- The failure that ends the steps of a scope comes out of it as it is, provided that no call has
a fault when the scope is left and that closing the session needs no window that is gone.  If it
does, the failure to find that window comes out instead. -/
theorem run_scope_of_raised {name : String} {body : List (Step τ)} {number : Nat}
    {reports : List (Report τ)} {failure : Failure} (caught : Bool)
    (hnumber : world.number? name = some number)
    (hbody : runBody body world = (reports, inner, some failure))
    (hquiet : inner.desktop.browser.faults = .quiet) :
    ∃ report : Report τ, ∃ raised : Failure,
      run (.scope name caught body) world =
          (reports ++ [report], report.world, if caught then none else some raised) ∧
        report.before = inner ∧ report.outcome = .error raised ∧
        (inner.missingWindow? number = none → raised = failure) ∧
        ∀ handle, inner.missingWindow? number = some handle →
          raised = Browser.noSuchWindow handle := by
  refine ⟨observe (.scope name caught body) (some number) (leave number (some failure)) inner,
    (inner.missingWindow? number).elim failure Browser.noSuchWindow, ?_, rfl,
    outcome_leave number failure hquiet, ?_, ?_⟩
  · have houtcome : (observe (.scope name caught body) (some number)
        (leave number (some failure)) inner).outcome = _ := outcome_leave number failure hquiet
    rw [run, hnumber]
    simp only [hbody, Report.raised, houtcome]
    rfl
  · intro hmissing
    rw [hmissing]
    rfl
  · intro handle hmissing
    rw [hmissing]
    rfl

end Step

/-- The world in which a session has started in a browser with a single window. -/
def startedAlone : World Float :=
  (Step.run (.single "s" false (.start none)) (World.fresh ["w0"] "w0")).2.1

/-- The session finds a window; then another one opens and gets the focus, the window at the start
is closed by its user, and a failure ends the steps. -/
def movedOn : List (Step Float) :=
  [.single "s" false (.page ⟨["w1"], [], none⟩),
    .single "s" false (.switch (some (.whole 0))),
    .single "s" false (.page ⟨["w2"], ["w0"], some "w2"⟩),
    .single "s" false (.fail (.of .invalidValue "boom"))]

/-- The failure comes out as it is although the window at the start is gone. -/
theorem run_movedOn :
    ∃ reports inner,
      Step.runBody movedOn startedAlone = (reports, inner, some (.of .invalidValue "boom")) ∧
        inner.desktop.browser.windows = ["w1", "w2"] ∧
        (Step.run (.scope "s" false movedOn) startedAlone).2.2 =
          some (.of .invalidValue "boom") := by
  have hnumber : startedAlone.number? "s" = some 0 := rfl
  have hbody : Step.runBody movedOn startedAlone = (_, _, some (.of .invalidValue "boom")) := rfl
  obtain ⟨report, raised, hrun, -, -, hsame, -⟩ :=
    Step.run_scope_of_raised false hnumber hbody rfl
  refine ⟨_, _, hbody, rfl, ?_⟩
  rw [hrun, hsame rfl]
  rfl

/-- The session finds a window and has the focus on it; then the window at the start is closed by
its user, and a failure ends the steps. -/
def cutOff : List (Step Float) :=
  [.single "s" false (.page ⟨["w1"], [], none⟩),
    .single "s" false (.switch (some (.whole 0))),
    .single "s" false (.page ⟨[], ["w0"], none⟩),
    .single "s" false (.fail (.of .invalidValue "boom"))]

/-- The failure does not come out, since the focus cannot be given back. -/
theorem run_cutOff_displaces :
    ∃ reports inner,
      Step.runBody cutOff startedAlone = (reports, inner, some (.of .invalidValue "boom")) ∧
        inner.desktop.browser.faults = .quiet ∧
        (Step.run (.scope "s" false cutOff) startedAlone).2.2 = some (Browser.noSuchWindow "w0") ∧
        Browser.noSuchWindow "w0" ≠ .of .invalidValue "boom" :=
  ⟨_, _, rfl, rfl, rfl, by decide⟩

end BrowserControl
