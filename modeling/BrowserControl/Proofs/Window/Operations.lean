import BrowserControl.Proofs.Window.Detection
import Mathlib.Data.List.Infix

/-!
# What the Operations of a Session Can Do

Each operation of a session is described once, for all states of the browser and all plans for its
faults: how it changes the session, and which calls it can issue in which order.  Switching to the
new window searches if it has to, and then issues one switch, to the window found.  Closing
follows one of two scripts, depending on whether the window found is the active one, and may stop
early.
-/

namespace BrowserControl

open Attempt

variable {τ : Type}

namespace Scene

/-! ## Calls in order -/

/-- The calls that an attempt issues from a scene on are those of a script, in order; it may stop
early. -/
def Follows {α : Type} (script : List Call) (attempt : Attempt (Scene τ) α) (scene : Scene τ) :
    Prop :=
  ∃ asked, asked <+: script ∧
    (attempt.perform scene).2.desktop.browser.calls = asked.reverse ++ scene.desktop.browser.calls

section

variable {α β : Type} {script : List Call} {scene : Scene τ}

theorem follows_of_calls_eq {attempt : Attempt (Scene τ) α}
    (hcalls : (attempt.perform scene).2.desktop.browser.calls = scene.desktop.browser.calls) :
    Follows script attempt scene :=
  ⟨[], List.nil_prefix, hcalls⟩

theorem follows_get_bind {next : Scene τ → Attempt (Scene τ) α}
    (hnext : Follows script (next scene) scene) : Follows script (get >>= next) scene := by
  unfold Follows
  rw [perform_bind, perform_get]
  exact hnext

/-- An attempt that starts with a call of the browser follows a script that starts with that call.
-/
theorem follows_onBrowser_bind {call : Call} {attempt : Attempt (Browser τ) β}
    {next : β → Attempt (Scene τ) α}
    (hcall : (attempt.perform scene.desktop.browser).2.calls = call :: scene.desktop.browser.calls)
    (hnext : ∀ value later, attempt.perform scene.desktop.browser = (.ok value, later) →
      Follows script (next value) (scene.withBrowser later)) :
    Follows (call :: script) (onBrowser attempt >>= next) scene := by
  unfold Follows
  rw [perform_bind, perform_onBrowser]
  generalize hrun : attempt.perform scene.desktop.browser = result at hcall
  rcases result with ⟨failure | value, later⟩
  · exact ⟨[call], ⟨script, rfl⟩, hcall⟩
  · obtain ⟨asked, hasked, hcalls⟩ := hnext value later hrun
    refine ⟨call :: asked, (List.prefix_cons_inj call).2 hasked, ?_⟩
    rw [hcalls, browser_withBrowser, hcall]
    simp

end

def SameSession (before after : Scene τ) : Prop :=
  after.session = before.session

theorem composes_sameSession : Composes (SameSession : Scene τ → Scene τ → Prop) where
  refl _ := rfl
  trans hfirst hsecond := hsecond.trans hfirst

theorem moves_onBrowser_sameSession {α : Type} (attempt : Attempt (Browser τ) α) :
    (onBrowser attempt).Moves SameSession :=
  fun _ ↦ rfl

end Scene

/-- Success at the browser changes nothing else of the desktop. -/
theorem Desktop.onBrowser_eq_ok {α : Type} {attempt : Attempt (Browser τ) α}
    {desktop later : Desktop τ} {value : α}
    (hattempt : (Desktop.onBrowser attempt).perform desktop = (.ok value, later)) :
    ∃ browser, attempt.perform desktop.browser = (.ok value, browser) ∧
      later = { desktop with browser } := by
  rw [Desktop.onBrowser, perform_onPart] at hattempt
  obtain ⟨houtcome, rfl⟩ := Prod.mk.inj hattempt
  exact ⟨_, Prod.ext houtcome rfl, rfl⟩

namespace Session

open Scene

/-! ## Starting -/

/-- Setting a threshold does not concern the browser. -/
theorem browser_adoptLevel (settings : Option (Settings τ)) (desktop : Desktop τ) :
    ((adoptLevel settings).perform desktop).2.browser = desktop.browser := by
  cases settings with
  | none => rfl
  | some settings => rfl

section

variable [TimeScale τ]

/-- Starting a session tells the browser nothing. -/
theorem asksOnly_start (settings : Option (Settings τ)) (desktop : Desktop τ) :
    desktop.browser.AsksOnly (fun call ↦ !call.isCommand)
      ((start settings).perform desktop).2.browser := by
  let relation (before after : Desktop τ) : Prop :=
    before.browser.AsksOnly (fun call ↦ !call.isCommand) after.browser
  have hbrowser := Browser.composes_asksOnly (τ := τ) fun call ↦ !call.isCommand
  have hcomposes : Composes relation :=
    ⟨fun desktop ↦ hbrowser.refl desktop.browser,
      fun hfirst hsecond ↦ hbrowser.trans hfirst hsecond⟩
  refine (?_ : (start settings).Moves relation) desktop
  refine Moves.bind hcomposes (fun desktop ↦ ?_) fun _ ↦ ?_
  · change desktop.browser.AsksOnly _ _
    rw [browser_adoptLevel]
    exact hbrowser.refl desktop.browser
  refine Moves.bind hcomposes (fun desktop ↦ ?_) fun windows ↦ ?_
  · exact Browser.asksOnly_of_calls_eq_cons .readWindows rfl (Browser.calls_readWindows _)
  refine Moves.bind hcomposes (fun desktop ↦ ?_) fun active ↦ moves_pure hcomposes _
  exact Browser.asksOnly_of_calls_eq_cons (.readActive _) rfl (Browser.calls_readActive _)

/-- A session that has started is not attached, and the window that was active is one that it
knows. -/
theorem start_eq_ok {settings : Option (Settings τ)} {desktop later : Desktop τ}
    {session : Session τ} (hstart : (start settings).perform desktop = (.ok session, later)) :
    session.stage = .notAttached ∧ session.initialActive ∈ session.initialWindows := by
  unfold start at hstart
  obtain ⟨_, quiet, -, hstart⟩ := bind_eq_ok hstart
  obtain ⟨windows, first, hfirst, hstart⟩ := bind_eq_ok hstart
  obtain ⟨active, second, hsecond, hstart⟩ := bind_eq_ok hstart
  cases hstart
  obtain ⟨browser, hread, rfl⟩ := Desktop.onBrowser_eq_ok hfirst
  obtain ⟨_, hactive, -⟩ := Desktop.onBrowser_eq_ok hsecond
  obtain ⟨-, hwindows, -⟩ := Browser.readWindows_eq_ok hread
  obtain ⟨-, hopen, -, -⟩ := Browser.readActive_eq_ok hactive
  rw [hwindows] at hopen
  exact ⟨rfl, List.mem_eraseDups.2 hopen⟩

end

section

variable (scene : Scene τ)

/-! ## Switching back -/

/-- Switching back is a note and a call, in every stage. -/
theorem perform_switchBack :
    switchBack.perform scene =
      (onBrowser (Browser.switchTo scene.session.initialActive)).perform
        (scene.noted .debug ("Switching back to window " ++ scene.session.initialActive)) := by
  unfold switchBack
  rw [perform_bind, perform_get]
  simp only [perform_bind, perform_note]

@[simp]
theorem session_switchBack : (switchBack.perform scene).2.session = scene.session := by
  rw [perform_switchBack, perform_onBrowser]
  simp

@[simp]
theorem calls_switchBack :
    (switchBack.perform scene).2.desktop.browser.calls =
      .switchTo scene.session.initialActive :: scene.desktop.browser.calls := by
  rw [perform_switchBack, perform_onBrowser]
  simp

variable [TimeScale τ]

/-! ## Switching to the new window -/

/-- A closed session is not attached again, and the browser does not learn of the attempt. -/
theorem perform_attach_of_closed (timeout : Option (Seconds τ)) {window : Option String}
    (hstage : scene.session.stage = .closed window) :
    (attach timeout).perform scene =
      (.error (.of .sessionClosed "This window session has already been closed"), scene) := by
  unfold attach
  rw [perform_bind, perform_get]
  simp [hstage]

/-- Attaching once more gives the same window and asks nothing. -/
theorem perform_attach_of_attached (timeout : Option (Seconds τ)) {window : String}
    (hstage : scene.session.stage = .attached window) :
    (attach timeout).perform scene = (.ok window, scene) := by
  unfold attach
  rw [perform_bind, perform_get]
  simp [hstage]

/-- Attaching for the first time is detection, and the stage follows if it succeeds. -/
theorem perform_attach_of_notAttached (timeout : Option (Seconds τ))
    (hstage : scene.session.stage = .notAttached) :
    (attach timeout).perform scene =
      match timeoutOr timeout scene.session.settings with
      | .error failure => (.error failure, scene)
      | .ok timeout =>
        match (detect timeout).perform scene with
        | (.error failure, later) => (.error failure, later)
        | (.ok window, later) => (.ok window, later.entered (.attached window)) := by
  unfold attach
  rw [perform_bind, perform_get]
  simp only [hstage, perform_bind, perform_ofExcept]
  cases timeoutOr timeout scene.session.settings with
  | error failure => rfl
  | ok timeout =>
    simp only
    rcases (detect timeout).perform scene with ⟨failure | window, later⟩
    · rfl
    · rfl

/-- What an attempt to attach can come to: either it has only looked, or the session is attached to
the window that it yields, which is the one known before or one that was not there at the start. -/
def Attaches : Except Failure String × Scene τ → Prop
  | (.error _, later) => scene.OnlyLooked later
  | (.ok window, later) =>
    later.session = { scene.session with stage := .attached window } ∧
      scene.desktop.browser.AsksOnly Call.isLook later.desktop.browser ∧
      (scene.session.stage = .attached window ∨
        scene.session.stage = .notAttached ∧ window ∉ scene.session.initialWindows)

/-- Attaching either finds a new window or leaves the session alone. -/
theorem attaches_attach (timeout : Option (Seconds τ)) :
    Attaches scene ((attach timeout).perform scene) := by
  cases hstage : scene.session.stage with
  | closed window =>
    rw [perform_attach_of_closed scene timeout hstage]
    exact composes_onlyLooked.refl scene
  | attached window =>
    rw [perform_attach_of_attached scene timeout hstage]
    refine ⟨?_, (Browser.composes_asksOnly _).refl _, .inl hstage⟩
    rw [← hstage]
  | notAttached =>
    rw [perform_attach_of_notAttached scene timeout hstage]
    cases timeoutOr timeout scene.session.settings with
    | error failure => exact composes_onlyLooked.refl scene
    | ok timeout =>
      have hlooked := moves_detect timeout scene
      have hnew (window : String) : ((detect timeout).perform scene).1 = .ok window →
          window ∉ scene.session.initialWindows := notMem_of_detect
      simp only
      generalize (detect timeout).perform scene = result at hlooked hnew ⊢
      rcases result with ⟨failure | window, later⟩
      · exact hlooked
      · obtain ⟨hsession, hbrowser⟩ := hlooked
        refine ⟨?_, hbrowser, .inr ⟨hstage, hnew window rfl⟩⟩
        rw [session_entered, hsession]

/-- An attempt to attach that fails leaves the session as it was. -/
theorem onlyLooked_of_attach_eq_error {timeout : Option (Seconds τ)} {failure : Failure}
    {later : Scene τ} (hattach : (attach timeout).perform scene = (.error failure, later)) :
    scene.OnlyLooked later := by
  have hattaches := attaches_attach scene timeout
  rw [hattach] at hattaches
  exact hattaches

/-- A session is attached to the window that attaching gives. -/
theorem attach_eq_ok {timeout : Option (Seconds τ)} {window : String} {later : Scene τ}
    (hattach : (attach timeout).perform scene = (.ok window, later)) :
    later.session = { scene.session with stage := .attached window } ∧
      scene.desktop.browser.AsksOnly Call.isLook later.desktop.browser ∧
      (scene.session.stage = .attached window ∨
        scene.session.stage = .notAttached ∧ window ∉ scene.session.initialWindows) := by
  have hattaches := attaches_attach scene timeout
  rw [hattach] at hattaches
  exact hattaches

/-- No window is switched to that was not found. -/
theorem perform_switchToNewWindow_of_attach_eq_error {timeout : Option (Seconds τ)}
    {failure : Failure} {later : Scene τ}
    (hattach : (attach timeout).perform scene = (.error failure, later)) :
    (switchToNewWindow timeout).perform scene = (.error failure, later) := by
  unfold switchToNewWindow
  rw [perform_bind, hattach]

/-- The stage is entered before the window is switched to. -/
theorem perform_switchToNewWindow_of_attach_eq_ok {timeout : Option (Seconds τ)}
    {window : String} {later : Scene τ}
    (hattach : (attach timeout).perform scene = (.ok window, later)) :
    (switchToNewWindow timeout).perform scene =
      (onBrowser (Browser.switchTo window)).perform
        (later.noted .debug ("Switching to new window " ++ window)) := by
  unfold switchToNewWindow
  rw [perform_bind, hattach]
  simp only [perform_bind, perform_note]

/-! ## Closing -/

theorem moves_release (window : String) :
    (release window : Attempt (Scene τ) Unit).Moves SameSession := by
  have hcomposes : Composes (SameSession : Scene τ → Scene τ → Prop) := composes_sameSession
  refine Moves.bind hcomposes (moves_get hcomposes) fun scene ↦ ?_
  refine Moves.bind hcomposes (moves_onBrowser_sameSession _) fun windows ↦ ?_
  by_cases hgone : window ∉ windows
  · rw [if_pos hgone]
    exact fun _ ↦ rfl
  · rw [if_neg hgone]
    refine Moves.bind hcomposes (moves_onBrowser_sameSession _) fun active ↦ ?_
    by_cases hactive : active = window
    · rw [if_pos hactive]
      refine Moves.bind hcomposes (moves_onBrowser_sameSession _) fun _ ↦ ?_
      exact Moves.bind hcomposes (moves_onBrowser_sameSession _) fun _ _ ↦ rfl
    · rw [if_neg hactive]
      refine Moves.bind hcomposes (moves_onBrowser_sameSession _) fun _ ↦ ?_
      refine Moves.bind hcomposes (moves_onBrowser_sameSession _) fun _ ↦ ?_
      exact Moves.bind hcomposes (moves_onBrowser_sameSession _) fun _ _ ↦ rfl

/-- The calls that closing a window issues if nothing fails; what is done after the reads depends
on the window that is active once due events have taken effect. -/
def releaseScript (window active : String) (session : Session τ) : List Call :=
  .readWindows :: .readActive active ::
    if active = window then [.close window, .switchTo session.initialActive]
    else [.switchTo window, .close window, .switchTo active]

/-- The calls of a release are the beginning of a script that its windows and focus fix. -/
theorem follows_release (window : String) :
    Follows (releaseScript window scene.desktop.browser.catchUp.active scene.session)
      (release window) scene := by
  unfold releaseScript release
  apply follows_get_bind
  refine follows_onBrowser_bind (Browser.calls_readWindows _) fun windows first hfirst ↦ ?_
  obtain ⟨-, -, hfirstActive⟩ := Browser.readWindows_eq_ok hfirst
  by_cases hgone : window ∉ windows
  · rw [if_pos hgone]
    exact follows_of_calls_eq rfl
  rw [if_neg hgone]
  refine follows_onBrowser_bind (by simp [hfirstActive]) fun active second hsecond ↦ ?_
  obtain ⟨hread, -, -, hsecondActive⟩ := Browser.readActive_eq_ok hsecond
  rw [browser_withBrowser, hfirstActive] at hread
  rw [← hread]
  by_cases hactive : active = window
  · rw [if_pos hactive, if_pos hactive]
    refine follows_onBrowser_bind (by simp [hsecondActive, hactive]) fun _ _ _ ↦ ?_
    refine follows_onBrowser_bind (Browser.calls_switchTo _ _) fun _ _ _ ↦ ?_
    exact follows_of_calls_eq rfl
  · rw [if_neg hactive, if_neg hactive]
    refine follows_onBrowser_bind (Browser.calls_switchTo _ _) fun _ third hthird ↦ ?_
    -- The close that follows hits the window that has just been switched to.
    have hthirdActive := (Browser.switchTo_eq_ok hthird).2
    refine follows_onBrowser_bind (by simp [hthirdActive]) fun _ _ _ ↦ ?_
    refine follows_onBrowser_bind (Browser.calls_switchTo _ _) fun _ _ _ ↦ ?_
    exact follows_of_calls_eq rfl

/-- The stage is closed before the release begins. -/
theorem perform_close_of_attached {window : String}
    (hstage : scene.session.stage = .attached window) :
    close.perform scene = (release window).perform (scene.entered (.closed (some window))) := by
  unfold close
  rw [perform_bind, perform_get]
  simp only [perform_bind, perform_enter, hstage, Stage.window?]

/-- Closing without a window asks nothing of the browser. -/
theorem perform_close_of_not_attached
    (hstage : ∀ window, scene.session.stage ≠ .attached window) :
    close.perform scene = (.ok (), scene.entered (.closed scene.session.stage.window?)) := by
  unfold close
  rw [perform_bind, perform_get]
  simp only [perform_bind, perform_enter]
  cases hcases : scene.session.stage with
  | notAttached => rfl
  | attached window => exact absurd hcases (hstage window)
  | closed window => rfl

/-- A session is over after an attempt to close it, whatever came of the attempt. -/
theorem session_close :
    (close.perform scene).2.session =
      { scene.session with stage := .closed scene.session.stage.window? } := by
  by_cases hattached : ∃ window, scene.session.stage = .attached window
  · obtain ⟨window, hstage⟩ := hattached
    rw [perform_close_of_attached scene hstage]
    have hsession := moves_release window (scene.entered (.closed (some window)))
    rw [SameSession] at hsession
    rw [hsession, session_entered, hstage]
    rfl
  · rw [perform_close_of_not_attached scene (not_exists.1 hattached)]
    rfl

end

end Session

end BrowserControl
