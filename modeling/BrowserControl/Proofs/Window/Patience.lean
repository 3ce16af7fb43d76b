import BrowserControl.Proofs.Window.Polling

/-!
# More Time to Wait

A caller who allows more time does not get another answer than before, unless the answer was that
nothing had been found in time.  Two waits from the same state go through the same looks, however
different their deadlines are, until the first look that shows something new; and a search that does
not wait at all takes the first of these looks.
-/

namespace BrowserControl.Session

open Attempt Scene

/-- The time to wait that is asked for, or else the one in the settings, comes to a span in exact
seconds. -/
def Lasts (timeout : Option (Seconds Rat)) (span : Rat) (settings : Settings Rat) : Prop :=
  ∃ seconds, timeoutOr timeout settings = .ok seconds ∧ seconds.onScale = .ok span

section

variable {scene : Scene Rat} {pause span longSpan : Rat}
  (hquiet : scene.desktop.browser.faults.readWindows = none)
  (hpause : scene.session.settings.pause = .ok pause) (hpositive : 0 < pause)

include hquiet hpause hpositive

/-- Two searches that may both go as far as the first look with something new are the same. -/
theorem perform_detect_eq {timeout other : Seconds Rat} (hspan : timeout.onScale = .ok span)
    (hlongSpan : other.onScale = .ok longSpan) {pauses : Nat}
    (hpauses : pauses ≤ Browser.lastLook span pause)
    (hlonger : pauses ≤ Browser.lastLook longSpan pause)
    (hnone : ∀ earlier < pauses, shown pause scene earlier = [])
    (hshown : shown pause scene pauses ≠ []) :
    (detect other).perform scene = (detect timeout).perform scene := by
  rw [detect, detect, perform_bind, perform_bind,
    perform_findNewWindows_of_news hquiet hpause hpositive hspan hpauses hnone hshown,
    perform_findNewWindows_of_news hquiet hpause hpositive hlongSpan hlonger hnone hshown]

variable {shorter longer : Option (Seconds Rat)}
  (hshorter : Lasts shorter span scene.session.settings)

include hshorter

/-- An attempt to attach that has found something, be it too much, comes to the same with more time;
otherwise it reports that there is nothing new. -/
theorem perform_attach_eq_or_nothing (hlonger : Lasts longer longSpan scene.session.settings)
    (hle : span ≤ longSpan) :
    (attach longer).perform scene = (attach shorter).perform scene ∨
      ∃ failure later, failure.kind = .noNewWindow ∧
        (attach shorter).perform scene = (.error failure, later) := by
  cases hstage : scene.session.stage with
  | closed window =>
    left
    rw [perform_attach_of_closed scene longer hstage, perform_attach_of_closed scene shorter hstage]
  | attached window =>
    left
    rw [perform_attach_of_attached scene longer hstage,
      perform_attach_of_attached scene shorter hstage]
  | notAttached =>
    obtain ⟨seconds, hseconds, hspan⟩ := hshorter
    obtain ⟨longSeconds, hlongSeconds, hlongSpan⟩ := hlonger
    rw [perform_attach_of_notAttached scene longer hstage,
      perform_attach_of_notAttached scene shorter hstage, hseconds, hlongSeconds]
    rcases Browser.exists_first_or_forall (fun pauses ↦ shown pause scene pauses ≠ [])
      (Browser.lastLook span pause) with ⟨pauses, hpauses, hnone, hshown⟩ | hnone
    · simp only [not_not] at hnone
      left
      have hlooks := Browser.lastLook_mono hpositive hle
      simp only [perform_detect_eq hquiet hpause hpositive hspan hlongSpan hpauses
        (hpauses.trans hlooks) hnone hshown]
    · simp only [not_not] at hnone
      right
      obtain ⟨message, hdetect⟩ :=
        exists_perform_detect_of_forall hquiet hpause hpositive hspan hnone
      simp only [hdetect]
      exact ⟨nothingNew seconds, _, kind_nothingNew seconds, rfl⟩

/-- With more time, switching to the new window comes to the same as before, in every respect:
outcome, session, browser and log.  The only exception is a search that has reported that there is
nothing new; where the switch to the window itself fails so, it does so with more time too. -/
theorem switchToNewWindow_eq_of_le (hlonger : Lasts longer longSpan scene.session.settings)
    (hle : span ≤ longSpan)
    (hanswer : ∀ failure, ((switchToNewWindow shorter).perform scene).1 = .error failure →
      failure.kind = .noNewWindow →
        ¬scene.OnlyLooked ((switchToNewWindow shorter).perform scene).2) :
    (switchToNewWindow longer).perform scene = (switchToNewWindow shorter).perform scene := by
  rcases perform_attach_eq_or_nothing hquiet hpause hpositive hshorter hlonger hle with
    hattach | ⟨failure, later, hkind, hattach⟩
  · rw [switchToNewWindow, switchToNewWindow, perform_bind, perform_bind, hattach]
  · have hswitch := perform_switchToNewWindow_of_attach_eq_error scene hattach
    rw [hswitch] at hanswer
    exact absurd (onlyLooked_of_attach_eq_error scene hattach) (hanswer failure rfl hkind)

end

/-- A window that opens late enough to be missed at first is found in one second, and with five
seconds it is found in the same way; a window that opens a little later does not matter. -/
theorem switchToNewWindow_moreTime :
    let scene := awaiting
      [⟨mkRat 3 4, ⟨["popup"], [], none⟩⟩, ⟨mkRat 5 4, ⟨["advert"], [], none⟩⟩]
    ((switchToNewWindow (some (.whole 1))).perform scene).1 = .ok () ∧
      (switchToNewWindow (some (.measured 5))).perform scene =
        (switchToNewWindow (some (.whole 1))).perform scene := by
  intro scene
  have houtcome : ((switchToNewWindow (some (.whole 1))).perform scene).1 = .ok () := by
    decide +kernel
  have hpause : scene.session.settings.pause = .ok (mkRat 1 2) := rfl
  have hshorter : Lasts (some (.whole 1)) 1 scene.session.settings := ⟨.whole 1, rfl, rfl⟩
  have hlonger : Lasts (some (.measured 5)) 5 scene.session.settings := ⟨.measured 5, rfl, rfl⟩
  refine ⟨houtcome, switchToNewWindow_eq_of_le rfl hpause (by decide +kernel) hshorter hlonger
    (by decide +kernel) ?_⟩
  intro failure hfailure
  rw [houtcome] at hfailure
  contradiction

end BrowserControl.Session
