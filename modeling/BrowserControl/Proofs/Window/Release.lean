import BrowserControl.Proofs.Window.Faultless
import BrowserControl.Proofs.Window.Runs
import Mathlib.Data.List.Nodup

/-!
# Releasing the Window of a Session

Without faults, a session that is closed gets rid of its window unless the active window is gone;
then the active handle cannot be read, the failure comes out of the closing, and the window of the
session stays open.  Nothing is tried again, since the session is over by then.
-/

namespace BrowserControl

variable {τ : Type}

/-- The window of a session is still there exactly if it was and the active one was not. -/
theorem Session.mem_releaseWindows_iff {windows : List String} {window active : String}
    (hdistinct : windows.Nodup) :
    window ∈ releaseWindows window windows active ↔ window ∈ windows ∧ active ∉ windows := by
  unfold releaseWindows
  by_cases hactive : active ∈ windows
  · simp [hactive, hdistinct.not_mem_erase]
  · simp [hactive]

/-! ## Leaving scopes -/

/-- When a session that has found its window is closed, by a call or because its scope is left in
whatever way, and no call has a fault, the window is gone afterwards exactly if it was gone before
or the active window was there.  If it stays since the active window is gone, the step fails where
the active handle is read, and nothing is told to the browser after that. -/
theorem Report.mem_windows_iff_of_tells_close [TimeScale τ] (steps : List (Step τ))
    (desktop : Desktop τ) {report : Report τ} {number : Nat} {session : Session τ}
    {window : String} (hreport : report ∈ Step.runAll steps ⟨desktop, [], []⟩)
    (htells : report.Tells number .close session) (hattached : session.stage = .attached window)
    (hquiet : report.before.desktop.browser.faults = .quiet)
    (hdistinct : report.before.desktop.browser.catchUp.windows.Nodup) :
    (window ∈ report.world.desktop.browser.windows ↔
      window ∈ report.before.desktop.browser.catchUp.windows ∧
        report.before.desktop.browser.catchUp.active ∉
          report.before.desktop.browser.catchUp.windows) ∧
      (window ∈ report.before.desktop.browser.catchUp.windows →
        report.before.desktop.browser.catchUp.active ∉
            report.before.desktop.browser.catchUp.windows →
          report.outcome =
              .error (Browser.noSuchWindow report.before.desktop.browser.catchUp.active) ∧
            report.calls =
              [.readWindows, .readActive report.before.desktop.browser.catchUp.active]) := by
  have hnamed : World.IsNamed (⟨desktop, [], []⟩ : World τ) := World.isNamed_of_names_eq_nil rfl
  obtain ⟨last, hrun⟩ := Step.runAll_isRun steps hnamed
  obtain ⟨harises, hbefore⟩ := hrun.arises_of_mem hnamed report hreport
  have hact := harises.isAct_of_tells hbefore htells
  have hclose := Session.performs_close ⟨session, report.before.desktop⟩ hattached
    (Browser.shows_catchUp hquiet)
  refine ⟨?_, fun hwindow hactive ↦ ⟨hact.outcome_eq_of_error _ ?_, ?_⟩⟩
  · rw [hact.world_eq]
    change window ∈ (Session.close.perform _).2.desktop.browser.windows ↔ _
    rw [hclose.shows.windows_eq]
    exact Session.mem_releaseWindows_iff hdistinct
  · refine hclose.outcome_eq.trans ?_
    simp [Session.releaseOutcome, hwindow, hactive]
  · rw [hact.calls_eq, hact.world_eq]
    change newest _ (Session.close.perform _).2.desktop.browser.calls = _
    rw [hclose.issues, newest_append, List.reverse_reverse]
    simp [Session.releaseCalls, hwindow, hactive]

/-- In a scope, a window opens and is found; then another one opens and gets the focus. -/
def shiftedFocus : List (Step Float) :=
  [.single "s" false (.start none),
    .scope "s" false
      [.single "s" false (.page ⟨["w1"], [], none⟩),
        .single "s" false (.switch (some (.whole 0))),
        .single "s" false (.page ⟨["w2"], [], some "w2"⟩)]]

/-- The window that was found is gone when the scope has been left. -/
theorem shiftedFocus_releases :
    ∃ report ∈ Step.runAll shiftedFocus (World.fresh ["w0"] "w0"),
      (∃ session, report.Tells 0 .close session ∧ session.stage = .attached "w1") ∧
        report.before.desktop.browser.windows = ["w0", "w1", "w2"] ∧
        "w1" ∉ report.world.desktop.browser.windows := by
  obtain ⟨report, hreport⟩ : ∃ report : Report Float,
      (Step.runAll shiftedFocus (World.fresh ["w0"] "w0"))[4]? = some report := ⟨_, rfl⟩
  have htold {α : Type} (look : Report Float → α) (value : α)
      (hvalue : (Step.runAll shiftedFocus (World.fresh ["w0"] "w0"))[4]?.map look = some value) :
      look report = value := by
    rw [hreport] at hvalue
    exact Option.some.inj hvalue
  obtain ⟨session, hsession, hstage⟩ := Option.map_eq_some_iff.1
    (htold (fun report ↦ report.before.sessions[0]?.map Session.stage) (some (.attached "w1")) rfl)
  have htells : report.Tells 0 .close session :=
    ⟨htold Report.number (some 0) rfl, htold (fun report ↦ report.step.act?) (some .close) rfl,
      hsession⟩
  have hwindows := htold (fun report ↦ report.before.desktop.browser.catchUp.windows)
    ["w0", "w1", "w2"] rfl
  have hactive := htold (fun report ↦ report.before.desktop.browser.catchUp.active) "w2" rfl
  obtain ⟨hiff, -⟩ := Report.mem_windows_iff_of_tells_close shiftedFocus
    (World.fresh ["w0"] "w0").desktop (List.mem_of_getElem? hreport) htells hstage
    (htold (fun report ↦ report.before.desktop.browser.faults) .quiet rfl) (by simp [hwindows])
  refine ⟨report, List.mem_of_getElem? hreport, ⟨session, htells, hstage⟩,
    htold (fun report ↦ report.before.desktop.browser.windows) _ rfl, fun hstays ↦ ?_⟩
  apply (hiff.1 hstays).2
  simp [hwindows, hactive]

/-- In a scope, a window opens and is found; then another one opens, gets the focus and is closed
by its user. -/
def lostFocus : List (Step Float) :=
  [.single "s" false (.start none),
    .scope "s" false
      [.single "s" false (.page ⟨["w1"], [], none⟩),
        .single "s" false (.switch (some (.whole 0))),
        .single "s" false (.page ⟨["w2"], [], some "w2"⟩),
        .single "s" false (.page ⟨[], ["w2"], none⟩)]]

/-- The scope is left with a failure, and the window that was found is still there. -/
theorem lostFocus_leaves_open :
    ∃ report ∈ Step.runAll lostFocus (World.fresh ["w0"] "w0"),
      ∃ body session, report.step = .scope "s" false body ∧ report.Tells 0 .close session ∧
        session.stage = .attached "w1" ∧
        report.before.desktop.browser.faults = .quiet ∧
        report.before.desktop.browser.windows = ["w0", "w1"] ∧
        report.outcome = .error (Browser.noSuchWindow "w2") ∧
        report.world.desktop.browser.windows = ["w0", "w1"] := by
  exact
    ⟨_, List.mem_of_getElem? (i := 5) rfl, _, _, rfl, ⟨rfl, rfl, rfl⟩, rfl, rfl, rfl, rfl, rfl⟩

end BrowserControl
