import BrowserControl.Proofs.Window.Lifecycle
import BrowserControl.Proofs.Window.Release

/-!
# What Closing Does

Closing a session reads the handles, and what it then does depends on four things: whether the
window of the session is there, whether the active one is, whether they are the same, and whether
the window that was active at the start is still there.  Without faults each of the cases comes to
one outcome, one list of windows, one active window and one sequence of calls
(`closes_of_isReachable`).  In all of them the session is over.

The window at the start can only be missed when the focus has to go back to it.  It is never the
window of the session, so that closing that one does not take it away: this is where it matters
that the session was started and not made up.
-/

namespace BrowserControl

variable {τ : Type} [TimeScale τ]

namespace Session

open Scene

/-- Closing a session comes to an outcome, leaves these windows in this order with one of them
active, and issues these calls; the session is over, and otherwise as it was. -/
structure Closes (outcome : Except Failure Unit) (windows : List String) (active : String)
    (asked : List Call) (scene : Scene τ) : Prop where
  outcome_eq : (close.perform scene).1 = outcome
  windows_eq : (close.perform scene).2.desktop.browser.windows = windows
  active_eq : (close.perform scene).2.desktop.browser.active = active
  issues : Issues asked close scene
  session_eq : (close.perform scene).2.session =
    { scene.session with stage := .closed scene.session.stage.window? }

/-- Closing while attached ends as the windows and the focus at that moment say. -/
theorem closes_of_attached (scene : Scene τ) {window active : String} {windows : List String}
    (hattached : scene.session.stage = .attached window)
    (hquiet : scene.desktop.browser.faults = .quiet)
    (hwindows : scene.desktop.browser.catchUp.windows = windows)
    (hactive : scene.desktop.browser.catchUp.active = active) :
    Closes (releaseOutcome window scene.session.initialActive windows active)
      (releaseWindows window windows active)
      (releaseActive window scene.session.initialActive windows active)
      (releaseCalls window scene.session.initialActive windows active) scene := by
  subst hwindows hactive
  have hclose := performs_close scene hattached (Browser.shows_catchUp hquiet)
  exact ⟨hclose.outcome_eq, hclose.shows.windows_eq, hclose.shows.active_eq, hclose.issues,
    session_close scene⟩

end Session

/-- A world that some script leads to, from a browser without sessions. -/
def World.IsReachable (world : World τ) : Prop :=
  ∃ steps desktop, ∃ report ∈ Step.runAll steps ⟨desktop, [], []⟩,
    world = report.before ∨ world = report.world

theorem World.IsReachable.isSound {world : World τ} (hreachable : world.IsReachable) :
    world.IsSound := by
  obtain ⟨steps, desktop, report, hreport, hworld⟩ := hreachable
  have hnamed : World.IsNamed (⟨desktop, [], []⟩ : World τ) := World.isNamed_of_names_eq_nil rfl
  have hsound : World.IsSound (⟨desktop, [], []⟩ : World τ) := World.isSound_of_sessions_eq_nil rfl
  obtain ⟨last, hrun⟩ := Step.runAll_isRun steps hnamed
  obtain ⟨hbefore, hafter⟩ := hrun.isSound_of_mem hnamed hsound report hreport
  rcases hworld with rfl | rfl
  · exact hbefore
  · exact hafter

/-- What closing a session that has found its window does if no call has a fault, by what there is
once due events have taken effect.  If its window is gone, nothing happens.  If the active window is
gone, this is reported, and nothing happens.  Otherwise its window is taken from the list.  If it
was the active one, the focus goes back to the window that was active at the start, unless that is
gone, which is reported; and if not, the focus is where it was. -/
theorem Session.closes_of_isReachable {world : World τ} {session : Session τ} {window : String}
    (hreachable : world.IsReachable) (hsession : session ∈ world.sessions)
    (hattached : session.stage = .attached window)
    (hquiet : world.desktop.browser.faults = .quiet)
    (hdistinct : world.desktop.browser.catchUp.windows.Nodup) :
    let windows := world.desktop.browser.catchUp.windows
    let active := world.desktop.browser.catchUp.active
    let others := windows.filter (· ≠ window)
    (window ∉ windows → Closes (.ok ()) windows active [.readWindows] ⟨session, world.desktop⟩) ∧
    (window ∈ windows → active ∉ windows →
      Closes (.error (Browser.noSuchWindow active)) windows active
        [.readWindows, .readActive active] ⟨session, world.desktop⟩) ∧
    (window ∈ windows → active = window → session.initialActive ∈ windows →
      Closes (.ok ()) others session.initialActive
        [.readWindows, .readActive window, .close window, .switchTo session.initialActive]
        ⟨session, world.desktop⟩) ∧
    (window ∈ windows → active = window → session.initialActive ∉ windows →
      Closes (.error (Browser.noSuchWindow session.initialActive)) others window
        [.readWindows, .readActive window, .close window, .switchTo session.initialActive]
        ⟨session, world.desktop⟩) ∧
    (window ∈ windows → active ∈ windows → active ≠ window →
      Closes (.ok ()) others active
        [.readWindows, .readActive active, .switchTo window, .close window, .switchTo active]
        ⟨session, world.desktop⟩) := by
  intro windows active others
  have hcloses : Closes (releaseOutcome window session.initialActive windows active)
      (releaseWindows window windows active)
      (releaseActive window session.initialActive windows active)
      (releaseCalls window session.initialActive windows active) ⟨session, world.desktop⟩ :=
    closes_of_attached ⟨session, world.desktop⟩ hattached hquiet rfl rfl
  have hsound := hreachable.isSound session hsession
  have hinitial : session.initialActive ≠ window :=
    (hsound.window?_notMem window (hsound.window?_of_attached window hattached)).2.symm
  have hothers : windows.erase window = others := by
    rw [hdistinct.erase_eq_filter]
    exact List.filter_congr fun other _ ↦ by simp only [bne, ne_eq, decide_not, beq_eq_decide]
  have hstays : session.initialActive ∈ windows.erase window ↔ session.initialActive ∈ windows :=
    List.mem_erase_of_ne hinitial
  unfold releaseOutcome releaseWindows releaseActive releaseCalls at hcloses
  rw [hothers] at hcloses hstays
  refine ⟨fun hgone ↦ ?gone, fun hwindow hactive ↦ ?unfocused, fun hwindow hactive hback ↦ ?focused,
    fun hwindow hactive hback ↦ ?stranded, fun hwindow hactive hother ↦ ?elsewhere⟩
  case gone =>
    have hrest : others = windows := by rw [← hothers, List.erase_of_not_mem hgone]
    simpa [hgone, hrest] using hcloses
  case unfocused =>
    have hother : active ≠ window := fun hsame ↦ hactive (hsame ▸ hwindow)
    simpa [hwindow, hactive, hother] using hcloses
  case focused => simpa [hwindow, hactive, hback, hstays] using hcloses
  case stranded => simpa [hwindow, hactive, hback, hstays] using hcloses
  case elsewhere => simpa [hwindow, hactive, hother] using hcloses

/-- Another window has opened since and has the focus, which it has again afterwards. -/
theorem Session.closes_shiftedFocus :
    ∃ (world : World Float) (session : Session Float),
      world.IsReachable ∧ session ∈ world.sessions ∧ session.stage = .attached "w1" ∧
      world.desktop.browser.faults = .quiet ∧
      world.desktop.browser.catchUp.windows = ["w0", "w1", "w2"] ∧
      Closes (.ok ()) ["w0", "w2"] "w2"
        [.readWindows, .readActive "w2", .switchTo "w1", .close "w1", .switchTo "w2"]
        ⟨session, world.desktop⟩ := by
  obtain ⟨report, hreport⟩ : ∃ report : Report Float,
      (Step.runAll shiftedFocus (World.fresh ["w0"] "w0"))[4]? = some report := ⟨_, rfl⟩
  have htold {α : Type} (look : Report Float → α) (value : α)
      (hvalue : (Step.runAll shiftedFocus (World.fresh ["w0"] "w0"))[4]?.map look = some value) :
      look report = value := by
    rw [hreport] at hvalue
    exact Option.some.inj hvalue
  obtain ⟨session, hsession, hstage⟩ := Option.map_eq_some_iff.1
    (htold (fun report ↦ report.before.sessions[0]?.map Session.stage) (some (.attached "w1")) rfl)
  have hreachable : World.IsReachable report.before :=
    ⟨shiftedFocus, _, report, List.mem_of_getElem? hreport, .inl rfl⟩
  have hquiet := htold (fun report ↦ report.before.desktop.browser.faults) .quiet rfl
  have hwindows := htold (fun report ↦ report.before.desktop.browser.catchUp.windows)
    ["w0", "w1", "w2"] rfl
  have hactive := htold (fun report ↦ report.before.desktop.browser.catchUp.active) "w2" rfl
  have hcloses := Session.closes_of_isReachable hreachable (List.mem_of_getElem? hsession) hstage
    hquiet (by rw [hwindows]; decide)
  simp only [hwindows, hactive] at hcloses
  obtain ⟨-, -, -, -, helsewhere⟩ := hcloses
  exact ⟨report.before, session, hreachable, List.mem_of_getElem? hsession, hstage, hquiet,
    hwindows, helsewhere (by decide) (by decide) (by decide)⟩

end BrowserControl
