import BrowserControl.Proofs.Window.Operations

/-!
# Failing to Switch to the New Window

Before the browser is told to switch, nothing of the session changes, so that a search which fails
can be repeated.  The session notes the window as soon as it has found it, however, and not only
when it has switched to it: if the switch fails, the session stays attached to that window for good,
and trying again means switching to it again, without another search.  So a call that fails changes
the session exactly if it was the first to find the window.
-/

namespace BrowserControl

open Attempt

variable {τ : Type}

namespace Browser

/-- A browser that has been told something last has not only been looked at. -/
theorem not_asksOnly_of_calls_eq {allowed : Call → Bool} {before after : Browser τ} {call : Call}
    {asked : List Call} (hcalls : after.calls = call :: (asked ++ before.calls))
    (hcall : allowed call = false) : ¬before.AsksOnly allowed after := by
  rintro ⟨other, hother, hallowed⟩
  rw [hcalls, ← List.cons_append] at hother
  have hsame : call :: asked = other := List.append_cancel_right hother
  have hmem : allowed call = true := hallowed call (hsame ▸ List.mem_cons_self)
  rw [hcall] at hmem
  contradiction

end Browser

namespace Session

open Scene

variable [TimeScale τ]

/-- The window of a session was found, and then the switch to it failed. -/
structure FailsToSwitch (window : String) (before after : Scene τ) : Prop where
  session_eq : after.session = { before.session with stage := .attached window }
  calls_eq : ∃ asked, after.desktop.browser.calls =
    .switchTo window :: (asked ++ before.desktop.browser.calls) ∧ ∀ call ∈ asked, call.isLook = true
  known_or_new : before.session.stage = .attached window ∨
    before.session.stage = .notAttached ∧ window ∉ before.session.initialWindows

/-- A call that fails has either only looked, or failed to switch. -/
theorem onlyLooked_or_failsToSwitch {scene later : Scene τ} {timeout : Option (Seconds τ)}
    {failure : Failure}
    (hswitch : (switchToNewWindow timeout).perform scene = (.error failure, later)) :
    scene.OnlyLooked later ∨ ∃ window, FailsToSwitch window scene later := by
  rcases hattach : (attach timeout).perform scene with ⟨reported | window, found⟩
  · rw [perform_switchToNewWindow_of_attach_eq_error scene hattach] at hswitch
    obtain ⟨-, rfl⟩ := Prod.mk.inj hswitch
    exact .inl (onlyLooked_of_attach_eq_error scene hattach)
  · rw [perform_switchToNewWindow_of_attach_eq_ok scene hattach, perform_onBrowser] at hswitch
    obtain ⟨-, rfl⟩ := Prod.mk.inj hswitch
    obtain ⟨hsession, ⟨asked, hcalls, hlooks⟩, hknown⟩ := attach_eq_ok scene hattach
    refine .inr ⟨window, hsession, ⟨asked, ?_, hlooks⟩, hknown⟩
    rw [browser_withBrowser, Browser.calls_switchTo, browser_noted, hcalls]

/-- Of a session whose call to switch has failed, at most the stage has changed, and it is as before
exactly if the session had found its window already or the browser was only looked at.  Otherwise
the session is attached to the window that it has found, and will not search again. -/
theorem switchToNewWindow_eq_error {scene later : Scene τ} {timeout : Option (Seconds τ)}
    {failure : Failure}
    (hswitch : (switchToNewWindow timeout).perform scene = (.error failure, later)) :
    later.session = { scene.session with stage := later.session.stage } ∧
    (later.session = scene.session ↔ (scene.session.stage = .notAttached →
      scene.desktop.browser.AsksOnly Call.isLook later.desktop.browser)) ∧
    (later.session ≠ scene.session → ∃ window, FailsToSwitch window scene later ∧
      window ∉ scene.session.initialWindows ∧
      ∀ again desktop, (attach again).perform ⟨later.session, desktop⟩ =
        (.ok window, ⟨later.session, desktop⟩)) := by
  rcases onlyLooked_or_failsToSwitch hswitch with ⟨hsession, hlooked⟩ | ⟨window, hfails⟩
  · exact ⟨by rw [hsession], iff_of_true hsession fun _ ↦ hlooked, fun hne ↦ absurd hsession hne⟩
  · obtain ⟨asked, hcalls, -⟩ := hfails.calls_eq
    have hstage : later.session.stage = .attached window := by rw [hfails.session_eq]
    refine ⟨by rw [hfails.session_eq], ?_⟩
    rcases hfails.known_or_new with hknown | ⟨hfirst, hnew⟩
    · have hsession : later.session = scene.session := by rw [hfails.session_eq, ← hknown]
      exact ⟨iff_of_true hsession fun hfirst ↦ absurd (hknown.symm.trans hfirst) (by simp),
        fun hne ↦ absurd hsession hne⟩
    · have hne : later.session ≠ scene.session := fun hsame ↦
        absurd (hstage.symm.trans ((congrArg Session.stage hsame).trans hfirst)) (by simp)
      refine ⟨iff_of_false hne fun hlooked ↦ ?_, fun _ ↦ ⟨window, hfails, hnew, ?_⟩⟩
      · exact Browser.not_asksOnly_of_calls_eq hcalls rfl (hlooked hfirst)
      · exact fun again desktop ↦ perform_attach_of_attached ⟨later.session, desktop⟩ again hstage

/-- A session that looks after a popup, in a browser that will refuse the next switch. -/
def refusingSwitch : Scene Float :=
  ⟨⟨Settings.standard, ["main"], "main", .notAttached⟩,
    ⟨{ Browser.fresh ["main", "popup"] "main" with
        faults := ⟨none, none, some ⟨.of .runtime "boom", 0, some 1⟩, none⟩ },
      Journal.fresh⟩⟩

/-- The switch fails while the session stays attached. -/
theorem exists_perform_refusingSwitch :
    ∃ later, (switchToNewWindow (some (.whole 0))).perform refusingSwitch =
      (.error (.of .runtime "boom"), later) ∧ later.session.stage = .attached "popup" := by
  have houtcome : ((switchToNewWindow (some (.whole 0))).perform refusingSwitch).1 =
      .error (.of .runtime "boom") := by decide +kernel
  exact ⟨_, Prod.ext houtcome rfl, by decide +kernel⟩

/-- Not every call that fails leaves the session as it was: one whose switch is refused leaves it
attached. -/
theorem refusingSwitch_attaches :
    ¬∀ (scene later : Scene Float) (timeout : Option (Seconds Float)) (failure : Failure),
      (switchToNewWindow timeout).perform scene = (.error failure, later) →
        later.session = scene.session := by
  intro hunchanged
  obtain ⟨later, hswitch, hstage⟩ := exists_perform_refusingSwitch
  rw [hunchanged _ _ _ _ hswitch] at hstage
  contradiction

/-- The session that is refused a switch has found the popup, and will not look for another window.
-/
theorem refusingSwitch_keepsPopup :
    ∃ later, (switchToNewWindow (some (.whole 0))).perform refusingSwitch =
        (.error (.of .runtime "boom"), later) ∧
      later.session ≠ refusingSwitch.session ∧
      FailsToSwitch "popup" refusingSwitch later ∧
      ∀ again desktop, (attach again).perform ⟨later.session, desktop⟩ =
        (.ok "popup", ⟨later.session, desktop⟩) := by
  obtain ⟨later, hswitch, hstage⟩ := exists_perform_refusingSwitch
  have hne : later.session ≠ refusingSwitch.session := fun hsame ↦
    absurd (hstage.symm.trans (congrArg Session.stage hsame)) (by decide)
  obtain ⟨window, hfails, -, hattach⟩ := (switchToNewWindow_eq_error hswitch).2.2 hne
  obtain rfl : window = "popup" := by
    have hwindow : later.session.stage = .attached window := by rw [hfails.session_eq]
    rw [hstage] at hwindow
    exact (Stage.attached.inj hwindow).symm
  exact ⟨later, hswitch, hne, hfails, hattach⟩

end Session

end BrowserControl
