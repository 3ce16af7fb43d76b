import BrowserControl.Proofs.Window.Calls
import BrowserControl.Window.Session

/-!
# Looking for New Windows

While a session looks for its window, the browser is only asked for its handles and left alone,
and the session itself stays as it is.  This holds for every look of a wait, whether the search
succeeds, gives up or meets a fault.  What a search finds are windows that the session did not
know at its start.
-/

namespace BrowserControl

open Attempt

variable {τ : Type}

namespace Browser

theorem moves_pause [TimeScale τ] (span : τ) :
    (pause span : Attempt (Browser τ) Unit).Moves (AsksOnly Call.isLook) :=
  fun _ ↦ asksOnly_of_calls_eq_cons .pause rfl rfl

variable [TimeScale τ]

theorem moves_newWindows (known : List String) :
    (newWindows known : Attempt (Browser τ) (List String)).Moves (AsksOnly Call.isLook) := by
  refine Moves.map (fun browser ↦ ?_) (unknownHandles known)
  exact asksOnly_of_calls_eq_cons .readWindows rfl (calls_readWindows browser)

/-- A look finds no window that was known. -/
theorem yields_newWindows (known : List String) :
    (newWindows known : Attempt (Browser τ) (List String)).Yields
      fun found ↦ ∀ window ∈ found, window ∉ known := by
  intro browser found houtcome window hwindow
  rw [newWindows, perform_map, perform_readWindows] at houtcome
  generalize browser.faults.readWindows.outcome = outcome at houtcome
  cases outcome with
  | error failure => cases houtcome
  | ok _ =>
    cases houtcome
    simpa using (List.mem_filter.1 hwindow).2

/-- Every look of a wait is followed by nothing, by the end of the wait, or by a pause and another
look. -/
theorem moves_awaitNewUntil (known : List String) (deadline span : τ) (looks : Nat) :
    (awaitNewUntil known deadline span looks).Moves (AsksOnly Call.isLook) := by
  induction looks with
  | zero => exact moves_throw (composes_asksOnly _) _
  | succ looks ih =>
    unfold awaitNewUntil
    refine Moves.bind (composes_asksOnly _) ?_ fun found ↦ ?_
    · exact Moves.recover (composes_asksOnly _) (moves_newWindows known)
        fun _ ↦ moves_pure (composes_asksOnly _) []
    · by_cases hfound : found ≠ []
      · rw [if_pos hfound]
        exact moves_pure (composes_asksOnly _) found
      · rw [if_neg hfound]
        refine Moves.bind (composes_asksOnly _) (moves_get (composes_asksOnly _)) fun browser ↦ ?_
        by_cases hlate : deadline < browser.clock
        · rw [if_pos hlate]
          exact moves_throw (composes_asksOnly _) _
        · rw [if_neg hlate]
          exact Moves.bind (composes_asksOnly _) (moves_pause span) fun _ ↦ ih

theorem yields_awaitNewUntil (known : List String) (deadline span : τ) (looks : Nat) :
    (awaitNewUntil known deadline span looks).Yields
      fun found ↦ ∀ window ∈ found, window ∉ known := by
  induction looks with
  | zero => exact yields_throw _
  | succ looks ih =>
    unfold awaitNewUntil
    refine (Yields.recover (yields_newWindows known) fun _ ↦ yields_pure (by simp)).bind
      fun found hfound ↦ ?_
    by_cases hsome : found ≠ []
    · rw [if_pos hsome]
      exact yields_pure hfound
    · rw [if_neg hsome]
      refine yields_bind_of_next fun browser ↦ ?_
      by_cases hlate : deadline < browser.clock
      · rw [if_pos hlate]
        exact yields_throw _
      · rw [if_neg hlate]
        exact yields_bind_of_next fun _ ↦ ih

theorem moves_awaitNew (known : List String) (timeout span : τ) :
    (awaitNew known timeout span).Moves (AsksOnly Call.isLook) :=
  Moves.bind (composes_asksOnly _) (moves_get (composes_asksOnly _))
    fun _ ↦ moves_awaitNewUntil known _ span _

theorem yields_awaitNew (known : List String) (timeout span : τ) :
    (awaitNew known timeout span).Yields fun found ↦ ∀ window ∈ found, window ∉ known :=
  yields_bind_of_next fun _ ↦ yields_awaitNewUntil known _ span _

end Browser

/-! ## Scenes -/

namespace Scene

def withBrowser (browser : Browser τ) (scene : Scene τ) : Scene τ :=
  { scene with desktop := { scene.desktop with browser } }

def noted (severity : Severity) (message : String) (scene : Scene τ) : Scene τ :=
  { scene with
    desktop := { scene.desktop with journal := scene.desktop.journal.note severity message } }

def entered (stage : Stage) (scene : Scene τ) : Scene τ :=
  { scene with session := { scene.session with stage } }

section

variable (scene : Scene τ)

@[simp]
theorem session_withBrowser (browser : Browser τ) :
    (scene.withBrowser browser).session = scene.session :=
  rfl

@[simp]
theorem browser_withBrowser (browser : Browser τ) :
    (scene.withBrowser browser).desktop.browser = browser :=
  rfl

@[simp]
theorem session_noted (severity : Severity) (message : String) :
    (scene.noted severity message).session = scene.session :=
  rfl

@[simp]
theorem browser_noted (severity : Severity) (message : String) :
    (scene.noted severity message).desktop.browser = scene.desktop.browser :=
  rfl

@[simp]
theorem session_entered (stage : Stage) :
    (scene.entered stage).session = { scene.session with stage } :=
  rfl

@[simp]
theorem desktop_entered (stage : Stage) : (scene.entered stage).desktop = scene.desktop :=
  rfl

theorem perform_onBrowser {α : Type} (attempt : Attempt (Browser τ) α) :
    (onBrowser attempt).perform scene =
      ((attempt.perform scene.desktop.browser).1,
        scene.withBrowser (attempt.perform scene.desktop.browser).2) :=
  rfl

theorem perform_note (severity : Severity) (message : String) :
    (note severity message).perform scene = (.ok (), scene.noted severity message) :=
  rfl

theorem perform_enter (stage : Stage) :
    (enter stage).perform scene = (.ok (), scene.entered stage) :=
  rfl

end

/-- Between two scenes the session is the same, and its browser has only been looked at. -/
def OnlyLooked (before after : Scene τ) : Prop :=
  after.session = before.session ∧
    before.desktop.browser.AsksOnly Call.isLook after.desktop.browser

/-- Looking, then looking again, is looking. -/
theorem composes_onlyLooked : Composes (OnlyLooked : Scene τ → Scene τ → Prop) where
  refl scene := ⟨rfl, (Browser.composes_asksOnly _).refl scene.desktop.browser⟩
  trans := by
    rintro first second third ⟨hfirst, hlooked⟩ ⟨hsecond, hlookedAgain⟩
    exact ⟨hsecond.trans hfirst, (Browser.composes_asksOnly _).trans hlooked hlookedAgain⟩

theorem moves_onBrowser {α : Type} {attempt : Attempt (Browser τ) α}
    (hattempt : attempt.Moves (Browser.AsksOnly Call.isLook)) :
    (onBrowser attempt).Moves OnlyLooked :=
  fun scene ↦ ⟨rfl, hattempt scene.desktop.browser⟩

theorem moves_note (severity : Severity) (message : String) :
    (note severity message : Attempt (Scene τ) Unit).Moves OnlyLooked :=
  fun scene ↦ ⟨rfl, (Browser.composes_asksOnly _).refl scene.desktop.browser⟩

theorem yields_onBrowser {α : Type} {property : α → Prop} {attempt : Attempt (Browser τ) α}
    (hattempt : attempt.Yields property) : (onBrowser attempt).Yields property :=
  (hattempt.onPart _ _).onPart _ _

end Scene

/-! ## Searches of a session -/

namespace Session

open Scene

variable [TimeScale τ]

/-- Waiting for windows changes neither the session nor the windows. -/
theorem moves_awaitNewWindows (timeout : Seconds τ) :
    (awaitNewWindows timeout).Moves OnlyLooked := by
  refine Moves.bind composes_onlyLooked (moves_get composes_onlyLooked) fun scene ↦ ?_
  refine Moves.bind composes_onlyLooked (moves_ofExcept composes_onlyLooked _) fun pause ↦ ?_
  refine Moves.bind composes_onlyLooked (moves_ofExcept composes_onlyLooked _) fun span ↦ ?_
  refine Moves.recover composes_onlyLooked ?_ fun _ ↦ ?_
  · exact moves_onBrowser (Browser.moves_awaitNew scene.session.initialWindows span pause)
  · exact Moves.bind composes_onlyLooked (moves_note _ _)
      fun _ ↦ moves_throw composes_onlyLooked _

theorem moves_findNewWindows (timeout : Seconds τ) :
    (findNewWindows timeout).Moves OnlyLooked := by
  unfold findNewWindows
  by_cases hpositive : timeout.isPositive = true
  · rw [if_pos hpositive]
    exact moves_awaitNewWindows timeout
  · rw [if_neg hpositive]
    exact Moves.bind composes_onlyLooked (moves_get composes_onlyLooked)
      fun scene ↦ moves_onBrowser (Browser.moves_newWindows scene.session.initialWindows)

/-- Detection looks and does nothing else, also when it fails. -/
theorem moves_detect (timeout : Seconds τ) : (detect timeout).Moves OnlyLooked := by
  refine Moves.bind composes_onlyLooked (moves_findNewWindows timeout) fun found ↦ ?_
  match found with
  | [] =>
    exact Moves.bind composes_onlyLooked (moves_note _ _)
      fun _ ↦ moves_throw composes_onlyLooked _
  | [window] => exact moves_pure composes_onlyLooked window
  | _ :: _ :: _ =>
    exact Moves.bind composes_onlyLooked (moves_note _ _)
      fun _ ↦ moves_throw composes_onlyLooked _

/-- What a search finds was not there at the start of the session. -/
theorem notMem_of_findNewWindows {timeout : Seconds τ} {scene : Scene τ} {found : List String}
    (hfound : ((findNewWindows timeout).perform scene).1 = .ok found) :
    ∀ window ∈ found, window ∉ scene.session.initialWindows := by
  let isNew (found : List String) : Prop := ∀ window ∈ found, window ∉ scene.session.initialWindows
  unfold findNewWindows at hfound
  by_cases hpositive : timeout.isPositive = true
  · rw [if_pos hpositive, awaitNewWindows, perform_bind, perform_get] at hfound
    refine (?_ : Yields isNew _) scene found hfound
    refine yields_bind_of_next fun pause ↦ yields_bind_of_next fun span ↦ ?_
    refine Yields.recover ?_ fun _ ↦ yields_bind_of_next fun _ ↦ yields_throw _
    exact yields_onBrowser (Browser.yields_awaitNew scene.session.initialWindows span pause)
  · rw [if_neg hpositive, perform_bind, perform_get] at hfound
    exact yields_onBrowser (Browser.yields_newWindows scene.session.initialWindows) scene found
      hfound

/-- A window that is detected was not there at the start. -/
theorem notMem_of_detect {timeout : Seconds τ} {scene : Scene τ} {window : String}
    (hdetect : ((detect timeout).perform scene).1 = .ok window) :
    window ∉ scene.session.initialWindows := by
  have hfound : ∀ found, ((findNewWindows timeout).perform scene).1 = .ok found →
      ∀ window ∈ found, window ∉ scene.session.initialWindows :=
    fun found ↦ notMem_of_findNewWindows
  rw [detect, perform_bind] at hdetect
  generalize (findNewWindows timeout).perform scene = result at hfound hdetect
  match result with
  | (.error failure, later) => cases hdetect
  | (.ok [], later) => cases hdetect
  | (.ok [found], later) =>
    cases hdetect
    exact hfound [window] rfl window (List.mem_singleton.2 rfl)
  | (.ok (_ :: _ :: _), later) => cases hdetect

end Session

end BrowserControl
