import BrowserControl.Proofs.Window.Operations

/-!
# Sessions Without Faults

Without faults, what a session does can be described exactly: by the windows that there are once
due events have taken effect, and by which of them is active.  Calls then fail only for want of a
window.  While nothing is pending, looking for windows finds what there is at the first look,
however long the wait would have been.
-/

namespace BrowserControl

open Attempt

variable {τ : Type}

def BrowserFaults.quiet : BrowserFaults :=
  ⟨none, none, none, none⟩

/-! ## Calls without faults -/

namespace Browser

/-- A browser without faults, and what there is to see of its windows. -/
structure Shows (windows : List String) (active : String) (pending : List (PendingEvent τ))
    (browser : Browser τ) : Prop where
  windows_eq : browser.windows = windows
  active_eq : browser.active = active
  pending_eq : browser.pending = pending
  faults_eq : browser.faults = .quiet

theorem Shows.self {windows : List String} {active : String} {pending : List (PendingEvent τ)}
    {browser : Browser τ} (hshows : browser.Shows windows active pending) :
    browser.Shows windows browser.active pending :=
  ⟨hshows.windows_eq, rfl, hshows.pending_eq, hshows.faults_eq⟩

def noSuchWindow (handle : String) : Failure :=
  .of .noSuchWindow ("no such window: " ++ handle)

section

variable {browser : Browser τ}

/-- Without faults, a browser that has caught up shows its windows to whoever asks. -/
theorem shows_catchUp [TimeScale τ] (hquiet : browser.faults = .quiet) :
    browser.catchUp.Shows browser.catchUp.windows browser.catchUp.active
      browser.catchUp.pending := by
  refine ⟨rfl, rfl, rfl, ?_⟩
  rw [catchUp_faults, hquiet]

theorem perform_readWindows_of_quiet [TimeScale τ] (hquiet : browser.faults = .quiet) :
    ∃ later, readWindows.perform browser = (.ok browser.catchUp.windows, later) ∧
      later.Shows browser.catchUp.windows browser.catchUp.active browser.catchUp.pending := by
  refine ⟨browser.catchUp.asked .readWindows .quiet, ?_, rfl, rfl, rfl, rfl⟩
  rw [perform_readWindows, hquiet]
  rfl

variable {windows : List String} {active : String} {pending : List (PendingEvent τ)}
  (hshows : browser.Shows windows active pending)

include hshows

/-- The active handle can be read while its window is open. -/
theorem Shows.perform_readActive (hopen : active ∈ windows) :
    ∃ later, readActive.perform browser = (.ok active, later) ∧
      later.Shows windows active pending := by
  obtain ⟨rfl, rfl, rfl, hquiet⟩ := hshows
  refine ⟨browser.asked (.readActive browser.active) .quiet, ?_, rfl, rfl, rfl, rfl⟩
  rw [Browser.perform_readActive, hquiet, openness_of_mem hopen]
  rfl

theorem Shows.perform_readActive_of_notMem (hgone : active ∉ windows) :
    ∃ later, readActive.perform browser = (.error (noSuchWindow active), later) ∧
      later.Shows windows active pending := by
  obtain ⟨rfl, rfl, rfl, hquiet⟩ := hshows
  refine ⟨browser.asked (.readActive browser.active) .quiet, ?_, rfl, rfl, rfl, rfl⟩
  rw [Browser.perform_readActive, hquiet, openness_of_notMem hgone]
  rfl

/-- One can switch to any window that is open. -/
theorem Shows.perform_switchTo {handle : String} (hopen : handle ∈ windows) :
    ∃ later, (switchTo handle).perform browser = (.ok (), later) ∧
      later.Shows windows handle pending := by
  obtain ⟨rfl, rfl, rfl, hquiet⟩ := hshows
  refine ⟨{ browser.asked (.switchTo handle) .quiet with active := handle }, ?_, rfl, rfl, rfl, rfl⟩
  rw [Browser.perform_switchTo, hquiet, openness_of_mem hopen]
  rfl

theorem Shows.perform_switchTo_of_notMem {handle : String} (hgone : handle ∉ windows) :
    ∃ later, (switchTo handle).perform browser = (.error (noSuchWindow handle), later) ∧
      later.Shows windows active pending := by
  obtain ⟨rfl, rfl, rfl, hquiet⟩ := hshows
  refine ⟨browser.asked (.switchTo handle) .quiet, ?_, rfl, rfl, rfl, rfl⟩
  rw [Browser.perform_switchTo, hquiet, openness_of_notMem hgone]
  rfl

/-- Closing takes away the active window and only that. -/
theorem Shows.perform_closeActive (hopen : active ∈ windows) :
    ∃ later, closeActive.perform browser = (.ok (), later) ∧
      later.Shows (windows.erase active) active pending := by
  obtain ⟨rfl, rfl, rfl, hquiet⟩ := hshows
  refine ⟨{ browser.asked (.close browser.active) .quiet with
    windows := browser.windows.erase browser.active }, ?_, rfl, rfl, rfl, rfl⟩
  rw [Browser.perform_closeActive, hquiet, openness_of_mem hopen]
  rfl

end

end Browser

namespace Scene

/-- What an attempt comes to from a scene on, and what the browser shows afterwards. -/
structure ComesTo (outcome : Except Failure Unit) (windows : List String) (active : String)
    (pending : List (PendingEvent τ)) (attempt : Attempt (Scene τ) Unit) (scene : Scene τ) :
    Prop where
  outcome_eq : (attempt.perform scene).1 = outcome
  shows : (attempt.perform scene).2.desktop.browser.Shows windows active pending

/-- The calls that an attempt issues from a scene on are the given ones, in order. -/
def Issues (asked : List Call) (attempt : Attempt (Scene τ) Unit) (scene : Scene τ) : Prop :=
  (attempt.perform scene).2.desktop.browser.calls = asked.reverse ++ scene.desktop.browser.calls

/-- What an attempt comes to, and by which calls. -/
structure Performs (outcome : Except Failure Unit) (windows : List String) (active : String)
    (pending : List (PendingEvent τ)) (asked : List Call) (attempt : Attempt (Scene τ) Unit)
    (scene : Scene τ) : Prop extends ComesTo outcome windows active pending attempt scene where
  issues : Issues asked attempt scene

section

variable {outcome : Except Failure Unit} {windows : List String} {active : String}
  {pending : List (PendingEvent τ)} {asked : List Call} {scene : Scene τ}

theorem Performs.of_perform_eq {attempt other : Attempt (Scene τ) Unit} {start : Scene τ}
    (hperforms : Performs outcome windows active pending asked other start)
    (hperform : attempt.perform scene = other.perform start)
    (hcalls : start.desktop.browser.calls = scene.desktop.browser.calls) :
    Performs outcome windows active pending asked attempt scene where
  outcome_eq := hperform ▸ hperforms.outcome_eq
  shows := hperform ▸ hperforms.shows
  issues := by
    unfold Issues
    rw [hperform, ← hcalls]
    exact hperforms.issues

theorem performs_get_bind {next : Scene τ → Attempt (Scene τ) Unit}
    (hnext : Performs outcome windows active pending asked (next scene) scene) :
    Performs outcome windows active pending asked (get >>= next) scene := by
  refine hnext.of_perform_eq ?_ rfl
  rw [perform_bind, perform_get]

theorem performs_note (severity : Severity) (message : String)
    (hshows : scene.desktop.browser.Shows windows active pending) :
    Performs (.ok ()) windows active pending [] (note severity message) scene :=
  ⟨⟨rfl, hshows⟩, rfl⟩

variable {α : Type} {call : Call} {attempt : Attempt (Browser τ) α} {later : Browser τ}
  {next : α → Attempt (Scene τ) Unit}
  (hcall : (attempt.perform scene.desktop.browser).2.calls = call :: scene.desktop.browser.calls)

include hcall

/-- A call that succeeds comes first, then what the rest performs. -/
theorem performs_onBrowser_bind {value : α}
    (hattempt : attempt.perform scene.desktop.browser = (.ok value, later))
    (hnext : Performs outcome windows active pending asked (next value) (scene.withBrowser later)) :
    Performs outcome windows active pending (call :: asked) (onBrowser attempt >>= next) scene := by
  have hperform : (onBrowser attempt >>= next).perform scene =
      (next value).perform (scene.withBrowser later) := by
    rw [perform_bind, perform_onBrowser, hattempt]
  have hlater : later.calls = call :: scene.desktop.browser.calls := by
    rw [← hcall, hattempt]
  have hissues := hnext.issues
  refine ⟨⟨hperform ▸ hnext.outcome_eq, hperform ▸ hnext.shows⟩, ?_⟩
  unfold Issues at hissues ⊢
  rw [hperform, hissues, browser_withBrowser, hlater]
  simp

/-- A call that fails is the last one. -/
theorem performs_onBrowser_bind_of_eq_error {failure : Failure}
    (hattempt : attempt.perform scene.desktop.browser = (.error failure, later))
    (hshows : later.Shows windows active pending) :
    Performs (.error failure) windows active pending [call] (onBrowser attempt >>= next)
      scene := by
  have hperform : (onBrowser attempt >>= next).perform scene =
      (.error failure, scene.withBrowser later) := by
    rw [perform_bind, perform_onBrowser, hattempt]
  rw [hattempt] at hcall
  refine ⟨⟨by rw [hperform], by rw [hperform]; exact hshows⟩, ?_⟩
  unfold Issues
  rw [hperform]
  exact hcall

end

end Scene

/-! ## Acting without faults -/

namespace Session

open Scene

/-- What closing the window of a session comes to if no call has a fault. -/
def releaseOutcome (window initialActive : String) (windows : List String) (active : String) :
    Except Failure Unit :=
  if window ∉ windows then .ok ()
  else if active ∉ windows then .error (Browser.noSuchWindow active)
  else if active = window ∧ initialActive ∉ windows.erase window then
    .error (Browser.noSuchWindow initialActive)
  else .ok ()

/-- The windows that are left when the window of a session has been closed without faults. -/
def releaseWindows (window : String) (windows : List String) (active : String) : List String :=
  if active ∈ windows then windows.erase window else windows

/-- The window that is active when the window of a session has been closed without faults. -/
def releaseActive (window initialActive : String) (windows : List String) (active : String) :
    String :=
  if window ∈ windows ∧ active = window ∧ initialActive ∈ windows.erase window then initialActive
  else active

/-- The calls that closing the window of a session issues if no call has a fault. -/
def releaseCalls (window initialActive : String) (windows : List String) (active : String) :
    List Call :=
  .readWindows ::
    if window ∉ windows then []
    else .readActive active ::
      if active ∉ windows then []
      else if active = window then [.close window, .switchTo initialActive]
      else [.switchTo window, .close window, .switchTo active]

variable [TimeScale τ] {scene : Scene τ} {windows : List String} {active : String}
  {pending : List (PendingEvent τ)}

/-- Without faults, what closing the window of a session comes to depends on nothing but which
windows there are and which is active, once due events have taken effect. -/
theorem performs_release (window : String)
    (hcatchUp : scene.desktop.browser.catchUp.Shows windows active pending) :
    Performs (releaseOutcome window scene.session.initialActive windows active)
      (releaseWindows window windows active)
      (releaseActive window scene.session.initialActive windows active) pending
      (releaseCalls window scene.session.initialActive windows active)
      (release window) scene := by
  obtain ⟨rfl, rfl, rfl, hquiet⟩ := hcatchUp
  rw [Browser.catchUp_faults] at hquiet
  obtain ⟨first, hfirst, hfirstShows⟩ := Browser.perform_readWindows_of_quiet hquiet
  generalize scene.desktop.browser.catchUp.windows = windows at hfirst hfirstShows ⊢
  generalize scene.desktop.browser.catchUp.active = active at hfirst hfirstShows ⊢
  generalize scene.desktop.browser.catchUp.pending = pending at hfirst hfirstShows ⊢
  unfold release releaseOutcome releaseWindows releaseActive releaseCalls
  apply performs_get_bind
  apply performs_onBrowser_bind (Browser.calls_readWindows _) hfirst
  by_cases hwindow : window ∈ windows
  case neg =>
    simp only [hwindow, not_false_eq_true, if_true, false_and, if_false,
      List.erase_of_not_mem hwindow, ite_self]
    exact performs_note _ _ hfirstShows
  have hread : (Browser.readActive.perform first).2.calls = .readActive active :: first.calls := by
    rw [Browser.calls_readActive, hfirstShows.active_eq]
  by_cases hactive : active ∈ windows
  case neg =>
    -- The window of the session is not the active one, since it is there.
    have hother : active ≠ window := fun hsame ↦ hactive (hsame ▸ hwindow)
    obtain ⟨second, hsecond, hsecondShows⟩ := hfirstShows.perform_readActive_of_notMem hactive
    simp only [hwindow, hactive, hother, not_true_eq_false, not_false_eq_true, if_true, if_false,
      false_and, and_false]
    exact performs_onBrowser_bind_of_eq_error hread hsecond hsecondShows
  obtain ⟨second, hsecond, hsecondShows⟩ := hfirstShows.perform_readActive hactive
  simp only [hwindow, hactive, not_true_eq_false, if_true, if_false, true_and]
  apply performs_onBrowser_bind hread hsecond
  by_cases hsame : active = window
  · subst hsame
    obtain ⟨third, hthird, hthirdShows⟩ := hsecondShows.perform_closeActive hactive
    have hclose : (Browser.closeActive.perform second).2.calls = .close active :: second.calls := by
      rw [Browser.calls_closeActive, hsecondShows.active_eq]
    simp only [if_true, true_and]
    apply performs_onBrowser_bind hclose hthird
    by_cases hinitial : scene.session.initialActive ∈ windows.erase active
    · obtain ⟨fourth, hfourth, hfourthShows⟩ := hthirdShows.perform_switchTo hinitial
      simp only [hinitial, not_true_eq_false, if_true, if_false]
      exact performs_onBrowser_bind (Browser.calls_switchTo _ _) hfourth
        (performs_note _ _ hfourthShows)
    · obtain ⟨fourth, hfourth, hfourthShows⟩ := hthirdShows.perform_switchTo_of_notMem hinitial
      simp only [hinitial, not_false_eq_true, if_true, if_false]
      exact performs_onBrowser_bind_of_eq_error (Browser.calls_switchTo _ _) hfourth hfourthShows
  · have hstays : active ∈ windows.erase window := (List.mem_erase_of_ne hsame).2 hactive
    obtain ⟨third, hthird, hthirdShows⟩ := hsecondShows.perform_switchTo hwindow
    obtain ⟨fourth, hfourth, hfourthShows⟩ := hthirdShows.perform_closeActive hwindow
    obtain ⟨fifth, hfifth, hfifthShows⟩ := hfourthShows.perform_switchTo hstays
    have hclose : (Browser.closeActive.perform third).2.calls = .close window :: third.calls := by
      rw [Browser.calls_closeActive, hthirdShows.active_eq]
    simp only [hsame, if_false, false_and]
    apply performs_onBrowser_bind (Browser.calls_switchTo _ _) hthird
    apply performs_onBrowser_bind hclose hfourth
    exact performs_onBrowser_bind (Browser.calls_switchTo _ _) hfifth
      (performs_note _ _ hfifthShows)

omit [TimeScale τ] in
/-- Switching back moves the focus to the window that was active first. -/
theorem comesTo_switchBack (hshows : scene.desktop.browser.Shows windows active pending)
    (hinitial : scene.session.initialActive ∈ windows) :
    ComesTo (.ok ()) windows scene.session.initialActive pending switchBack scene := by
  obtain ⟨later, hswitch, hlater⟩ := hshows.perform_switchTo hinitial
  have hperform := perform_switchBack scene
  rw [perform_onBrowser, browser_noted, hswitch] at hperform
  exact ⟨congrArg Prod.fst hperform, by rw [hperform]; exact hlater⟩

/-- Switching to the new window comes down to finding it. -/
theorem comesTo_switchToNewWindow {timeout : Option (Seconds τ)} {window : String}
    {found : Scene τ} (hattach : (attach timeout).perform scene = (.ok window, found))
    (hshows : found.desktop.browser.Shows windows active pending) (hwindow : window ∈ windows) :
    ComesTo (.ok ()) windows window pending (switchToNewWindow timeout) scene := by
  obtain ⟨later, hswitch, hlater⟩ := hshows.perform_switchTo hwindow
  have hperform := perform_switchToNewWindow_of_attach_eq_ok scene hattach
  rw [perform_onBrowser, browser_noted, hswitch] at hperform
  exact ⟨congrArg Prod.fst hperform, by rw [hperform]; exact hlater⟩

/-- Closing while attached: the outcome, the windows, the focus and the calls. -/
theorem performs_close (scene : Scene τ) {window : String}
    (hstage : scene.session.stage = .attached window)
    (hcatchUp : scene.desktop.browser.catchUp.Shows windows active pending) :
    Performs (releaseOutcome window scene.session.initialActive windows active)
      (releaseWindows window windows active)
      (releaseActive window scene.session.initialActive windows active) pending
      (releaseCalls window scene.session.initialActive windows active) close scene := by
  have hrelease : Performs _ _ _ pending _ (release window)
      (scene.entered (.closed (some window))) := performs_release window hcatchUp
  exact hrelease.of_perform_eq (perform_close_of_attached scene hstage) rfl

theorem comesTo_close (scene : Scene τ) {window : String}
    (hstage : scene.session.stage = .attached window)
    (hcatchUp : scene.desktop.browser.catchUp.Shows windows active pending) :
    ComesTo (releaseOutcome window scene.session.initialActive windows active)
      (releaseWindows window windows active)
      (releaseActive window scene.session.initialActive windows active) pending close scene :=
  (performs_close scene hstage hcatchUp).toComesTo

end Session

/-! ## Looking without faults -/

namespace Browser

variable [TimeScale τ] {browser : Browser τ} {windows known : List String} {active : String}

theorem Shows.catchUp (hshows : browser.Shows windows active []) :
    browser.catchUp.Shows windows active [] := by
  rw [catchUp_of_pending_eq_nil hshows.pending_eq]
  exact hshows

theorem Shows.perform_readWindows (hshows : browser.Shows windows active []) :
    ∃ later, readWindows.perform browser = (.ok windows, later) ∧
      later.Shows windows active [] := by
  obtain ⟨later, hread, hlater⟩ := perform_readWindows_of_quiet hshows.faults_eq
  obtain ⟨hwindows, hactive, hpending, -⟩ := hshows.catchUp
  rw [hwindows] at hread
  rw [hwindows, hactive, hpending] at hlater
  exact ⟨later, hread, hlater⟩

/-- A look finds what is shown and not known. -/
theorem Shows.perform_newWindows (hshows : browser.Shows windows active []) (known : List String) :
    ∃ later, (newWindows known).perform browser = (.ok (unknownHandles known windows), later) ∧
      later.Shows windows active [] := by
  obtain ⟨later, hread, hlater⟩ := hshows.perform_readWindows
  refine ⟨later, ?_, hlater⟩
  rw [newWindows, perform_map, hread]
  rfl

/-- If there is something new already, every wait ends at its first look. -/
theorem Shows.perform_awaitNew [LawfulTimeScale τ] (hshows : browser.Shows windows active [])
    (hfound : unknownHandles known windows ≠ []) (timeout span : τ) :
    ∃ later, (awaitNew known timeout span).perform browser =
        (.ok (unknownHandles known windows), later) ∧ later.Shows windows active [] := by
  obtain ⟨later, hlook, hlater⟩ := hshows.perform_newWindows known
  obtain ⟨looks, hlooks⟩ :=
    Nat.exists_eq_succ_of_ne_zero (LawfulTimeScale.pollLimit_pos timeout span).ne'
  refine ⟨later, ?_, hlater⟩
  unfold awaitNew
  rw [perform_bind, perform_get, hlooks]
  simp only [awaitNewUntil, perform_bind, perform_recover, hlook]
  rw [if_pos hfound]
  rfl

/-- Of the windows with one more, that one is new. -/
theorem unknownHandles_append_singleton {opened : String} (hopened : opened ∉ windows) :
    unknownHandles windows.eraseDups (windows ++ [opened]) = [opened] := by
  unfold unknownHandles
  rw [List.eraseDups_append, List.filter_append]
  have hknown : windows.eraseDups.filter (· ∉ windows.eraseDups) = [] := by simp
  rw [hknown]
  simp [List.removeAll, List.eraseDups_cons, hopened]

end Browser

/-- A time to wait is on the scale, if one is given. -/
def IsOnScale [TimeScale τ] (timeout : Option (Seconds τ)) : Prop :=
  ∀ given, timeout = some given → ∃ span, given.onScale = .ok span

namespace Session

open Scene

variable [TimeScale τ] {windows : List String} {active : String}

/-- A session starts with the windows that are shown, not attached. -/
theorem perform_start {desktop : Desktop τ} (hshows : desktop.browser.Shows windows active [])
    (hactive : active ∈ windows) :
    ∃ later, (start none).perform desktop =
        (.ok ⟨Settings.standard, windows.eraseDups, active, .notAttached⟩, later) ∧
      later.browser.Shows windows active [] := by
  obtain ⟨first, hfirst, hfirstShows⟩ := hshows.perform_readWindows
  obtain ⟨second, hsecond, hsecondShows⟩ := hfirstShows.perform_readActive hactive
  refine ⟨{ desktop with browser := second }, ?_, hsecondShows⟩
  unfold start Desktop.onBrowser
  simp only [adoptLevel, perform_bind, perform_pure, perform_onPart, hfirst, hsecond]
  rfl

variable [LawfulTimeScale τ] {scene : Scene τ}

/-- The standard settings can be used on every scale. -/
theorem exists_timeout_standard :
    ∃ span, (Settings.standard : Settings τ).timeout = .ok span := by
  obtain ⟨span, hspan⟩ := LawfulTimeScale.exists_ofInt?_zero (τ := τ)
  refine ⟨span, ?_⟩
  simp [Settings.timeout, Settings.standard, Seconds.onScale, hspan]

/-- With something new to find, the first look finds it. -/
theorem perform_findNewWindows {timeout : Seconds τ}
    (hshows : scene.desktop.browser.Shows windows active [])
    (hsettings : scene.session.settings = Settings.standard)
    (htimeout : ∃ span, timeout.onScale = .ok span)
    (hfound : Browser.unknownHandles scene.session.initialWindows windows ≠ []) :
    ∃ later, (findNewWindows timeout).perform scene =
        (.ok (Browser.unknownHandles scene.session.initialWindows windows), later) ∧
      later.desktop.browser.Shows windows active [] := by
  unfold findNewWindows
  by_cases hpositive : timeout.isPositive = true
  · obtain ⟨span, hspan⟩ := htimeout
    obtain ⟨later, hawait, hlater⟩ :=
      hshows.perform_awaitNew hfound span (TimeScale.half : τ)
    refine ⟨scene.withBrowser later, ?_, hlater⟩
    have hpause : (Settings.standard : Settings τ).pause = .ok TimeScale.half := rfl
    rw [if_pos hpositive, awaitNewWindows]
    simp only [perform_bind, perform_get, hsettings, hpause, hspan, perform_ofExcept,
      perform_recover, perform_onBrowser, hawait]
  · obtain ⟨later, hlook, hlater⟩ := hshows.perform_newWindows scene.session.initialWindows
    refine ⟨scene.withBrowser later, ?_, hlater⟩
    rw [if_neg hpositive]
    simp only [perform_bind, perform_get, perform_onBrowser, hlook]

/-- A session that is started without settings attaches to the one window that has opened since.
-/
theorem perform_attach (scene : Scene τ) {timeout : Option (Seconds τ)} {window : String}
    (hshows : scene.desktop.browser.Shows windows active [])
    (hsettings : scene.session.settings = Settings.standard)
    (hstage : scene.session.stage = .notAttached) (htimeout : IsOnScale timeout)
    (hfound : Browser.unknownHandles scene.session.initialWindows windows = [window]) :
    ∃ later, (attach timeout).perform scene = (.ok window, later) ∧
      later.desktop.browser.Shows windows active [] := by
  obtain ⟨waited, hwaited, hscale⟩ : ∃ waited, timeoutOr timeout Settings.standard = .ok waited ∧
      ∃ span, waited.onScale = .ok span := by
    cases timeout with
    | some given => exact ⟨given, rfl, htimeout given rfl⟩
    | none =>
      obtain ⟨span, hspan⟩ := exists_timeout_standard (τ := τ)
      refine ⟨.measured span, ?_, span, rfl⟩
      rw [timeoutOr, hspan]
      rfl
  obtain ⟨later, hfind, hlater⟩ :=
    perform_findNewWindows hshows hsettings hscale (by simp [hfound])
  refine ⟨later.entered (.attached window), ?_, hlater⟩
  rw [perform_attach_of_notAttached scene timeout hstage, hsettings, hwaited]
  simp only [detect, perform_bind, hfind, hfound, perform_pure]

end Session

end BrowserControl
