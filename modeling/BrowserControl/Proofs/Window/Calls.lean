import BrowserControl.Window.Browser

/-!
# What Calls Do to a Browser

Every call is recorded and consults its plan before it takes effect, and it takes effect only if
the window it is about is there.  There is one equation for each call, which gives its outcome and
the browser it leaves behind; whatever is proved about sessions rests on these equations.  Due
events take effect when the handles are read, and touch neither the clock nor the plans nor the
record of calls.
-/

namespace BrowserControl

def Call.isLook : Call → Bool
  | readWindows | pause => true
  | _ => false

/-- Whether a call tells the browser to do something with a window. -/
def Call.isCommand : Call → Bool
  | switchTo _ | close _ => true
  | _ => false

namespace Browser

open Attempt

variable {τ : Type}

/-- The browser after a call has been recorded and plans have been replaced. -/
def asked (call : Call) (faults : BrowserFaults) (browser : Browser τ) : Browser τ :=
  { browser with faults, calls := call :: browser.calls }

section

variable (call : Call) (faults : BrowserFaults) (browser : Browser τ)

@[simp]
theorem asked_windows : (browser.asked call faults).windows = browser.windows :=
  rfl

@[simp]
theorem asked_active : (browser.asked call faults).active = browser.active :=
  rfl

@[simp]
theorem asked_faults : (browser.asked call faults).faults = faults :=
  rfl

@[simp]
theorem asked_calls : (browser.asked call faults).calls = call :: browser.calls :=
  rfl

end

/-! ## Due events -/

/-- Events change which windows there are and which is active, and nothing else. -/
theorem foldl_undergo (due : List (PendingEvent τ)) (browser : Browser τ) :
    ∃ windows active,
      due.foldl (fun current pending ↦ current.undergo pending.event) browser =
        { browser with windows, active } := by
  induction due generalizing browser with
  | nil => exact ⟨browser.windows, browser.active, rfl⟩
  | cons pending due ih =>
    obtain ⟨windows, active, hfold⟩ := ih (browser.undergo pending.event)
    exact ⟨windows, active, hfold⟩

/-- What happens to the windows does not depend on what has been asked of the browser. -/
theorem foldl_undergo_asked (call : Call) (faults : BrowserFaults) (due : List (PendingEvent τ))
    (browser : Browser τ) :
    due.foldl (fun current pending ↦ current.undergo pending.event) (browser.asked call faults) =
      (due.foldl (fun current pending ↦ current.undergo pending.event) browser).asked call
        faults := by
  induction due generalizing browser with
  | nil => rfl
  | cons pending due ih => exact ih (browser.undergo pending.event)

variable [TimeScale τ]

/-- Catching up changes which windows there are, which is active and what is pending, and nothing
else. -/
theorem exists_catchUp_eq (browser : Browser τ) :
    ∃ windows active pending, browser.catchUp = { browser with windows, active, pending } := by
  obtain ⟨windows, active, hfold⟩ := foldl_undergo
    (browser.pending.filter fun pending ↦ decide (pending.due ≤ browser.clock))
    { browser with
      pending := browser.pending.filter fun pending ↦ !decide (pending.due ≤ browser.clock) }
  exact ⟨windows, active, _, hfold⟩

@[simp]
theorem catchUp_clock (browser : Browser τ) : browser.catchUp.clock = browser.clock := by
  obtain ⟨windows, active, pending, hcatchUp⟩ := browser.exists_catchUp_eq
  rw [hcatchUp]

@[simp]
theorem catchUp_faults (browser : Browser τ) : browser.catchUp.faults = browser.faults := by
  obtain ⟨windows, active, pending, hcatchUp⟩ := browser.exists_catchUp_eq
  rw [hcatchUp]

/-- Events that come due are no calls. -/
@[simp]
theorem catchUp_calls (browser : Browser τ) : browser.catchUp.calls = browser.calls := by
  obtain ⟨windows, active, pending, hcatchUp⟩ := browser.exists_catchUp_eq
  rw [hcatchUp]

/-- Recording a call does not change which events come due. -/
theorem catchUp_asked (call : Call) (faults : BrowserFaults) (browser : Browser τ) :
    (browser.asked call faults).catchUp = browser.catchUp.asked call faults := by
  unfold catchUp
  exact foldl_undergo_asked call faults _
    { browser with
      pending := browser.pending.filter fun pending ↦ !decide (pending.due ≤ browser.clock) }

/-- Without pending events there is nothing to catch up with. -/
theorem catchUp_of_pending_eq_nil {browser : Browser τ} (hpending : browser.pending = []) :
    browser.catchUp = browser := by
  unfold catchUp
  cases browser
  simp_all

/-! ## The calls -/

omit [TimeScale τ]

def openness (handle : String) (browser : Browser τ) : Except Failure Unit :=
  if handle ∈ browser.windows then .ok ()
  else .error (.of .noSuchWindow ("no such window: " ++ handle))

@[simp]
theorem openness_asked (handle : String) (call : Call) (faults : BrowserFaults)
    (browser : Browser τ) :
    (browser.asked call faults).openness handle = browser.openness handle :=
  rfl

theorem openness_of_mem {handle : String} {browser : Browser τ} (hopen : handle ∈ browser.windows) :
    browser.openness handle = .ok () :=
  if_pos hopen

theorem openness_of_notMem {handle : String} {browser : Browser τ}
    (hgone : handle ∉ browser.windows) :
    browser.openness handle = .error (.of .noSuchWindow ("no such window: " ++ handle)) :=
  if_neg hgone

/-- A handle is only called open while its window is. -/
theorem mem_of_openness_eq_ok {handle : String} {browser : Browser τ}
    (hopen : browser.openness handle = .ok ()) : handle ∈ browser.windows := by
  unfold openness at hopen
  split at hopen
  · assumption
  · contradiction

theorem perform_record (call : Call) (browser : Browser τ) :
    (record call).perform browser = (.ok (), browser.asked call browser.faults) :=
  rfl

theorem perform_requireOpen (handle : String) (browser : Browser τ) :
    (requireOpen handle).perform browser = (browser.openness handle, browser) := by
  unfold requireOpen openness
  rw [perform_bind, perform_get]
  by_cases hopen : handle ∈ browser.windows
  · simp [hopen]
  · simp [hopen]

/-- A call is recorded and consults its plan before anything else happens. -/
theorem perform_asking {α : Type} (call : Call) (plan : BrowserFaults → Plan)
    (replace : Plan → BrowserFaults → BrowserFaults) (effect : Attempt (Browser τ) α)
    (browser : Browser τ)
    (hreplace : replace (plan browser.faults) browser.faults = browser.faults) :
    Attempt.perform
        (do
          record call
          strike (fun browser ↦ plan browser.faults) fun next browser ↦
            { browser with faults := replace next browser.faults }
          effect)
        browser =
      let later := browser.asked call (replace (plan browser.faults).next browser.faults)
      match (plan browser.faults).outcome with
      | .ok _ => effect.perform later
      | .error failure => (.error failure, later) := by
  have hstrike :
      Attempt.perform
          (strike (fun browser : Browser τ ↦ plan browser.faults) fun next browser ↦
            { browser with faults := replace next browser.faults })
          (browser.asked call browser.faults) =
        ((plan browser.faults).outcome,
          browser.asked call (replace (plan browser.faults).next browser.faults)) := by
    apply perform_strike
    change browser.asked call (replace (plan browser.faults) browser.faults) = _
    rw [hreplace]
  rw [perform_bind, perform_record]
  simp only [perform_bind, hstrike]
  cases (plan browser.faults).outcome with
  | error failure => rfl
  | ok _ => rfl

/-- The window list is read after the events that are due, and the read is counted even if it
fails. -/
theorem perform_readWindows [TimeScale τ] (browser : Browser τ) :
    readWindows.perform browser =
      (browser.faults.readWindows.outcome.map fun _ ↦ browser.catchUp.windows,
        browser.catchUp.asked .readWindows
          { browser.faults with readWindows := browser.faults.readWindows.next }) := by
  unfold readWindows
  rw [perform_bind, perform_record]
  simp only [perform_bind, perform_modify, catchUp_asked]
  rw [perform_strike _ _ _ rfl]
  simp only [asked_faults]
  cases browser.faults.readWindows.outcome with
  | error failure => rfl
  | ok _ => rfl

/-- Reading the active handle fails if its window is gone. -/
theorem perform_readActive (browser : Browser τ) :
    readActive.perform browser =
      (browser.faults.readActive.outcome.bind fun _ ↦
          (browser.openness browser.active).map fun _ ↦ browser.active,
        browser.asked (.readActive browser.active)
          { browser.faults with readActive := browser.faults.readActive.next }) := by
  unfold readActive
  rw [perform_bind, perform_get]
  refine (perform_asking (.readActive browser.active) BrowserFaults.readActive
    (fun next faults ↦ { faults with readActive := next }) _ browser rfl).trans ?_
  cases browser.faults.readActive.outcome with
  | error failure => rfl
  | ok _ =>
    simp only [perform_bind, perform_requireOpen, openness_asked, Except.bind]
    cases browser.openness browser.active with
    | error failure => rfl
    | ok _ => rfl

/-- Switching to a window that is gone is a call as well, but moves no focus. -/
theorem perform_switchTo (handle : String) (browser : Browser τ) :
    (switchTo handle).perform browser =
      let later := browser.asked (.switchTo handle)
        { browser.faults with switchTo := browser.faults.switchTo.next }
      match browser.faults.switchTo.outcome.bind fun _ ↦ browser.openness handle with
      | .ok _ => (.ok (), { later with active := handle })
      | .error failure => (.error failure, later) := by
  refine (perform_asking (.switchTo handle) BrowserFaults.switchTo
    (fun next faults ↦ { faults with switchTo := next }) _ browser rfl).trans ?_
  cases browser.faults.switchTo.outcome with
  | error failure => rfl
  | ok _ =>
    simp only [perform_bind, perform_requireOpen, openness_asked, Except.bind]
    cases browser.openness handle with
    | error failure => rfl
    | ok _ => rfl

/-- Closing takes the active window out of the list and leaves the focus where it is. -/
theorem perform_closeActive (browser : Browser τ) :
    closeActive.perform browser =
      let later := browser.asked (.close browser.active)
        { browser.faults with closeActive := browser.faults.closeActive.next }
      match browser.faults.closeActive.outcome.bind fun _ ↦ browser.openness browser.active with
      | .ok _ => (.ok (), { later with windows := browser.windows.erase browser.active })
      | .error failure => (.error failure, later) := by
  unfold closeActive
  rw [perform_bind, perform_get]
  refine (perform_asking (.close browser.active) BrowserFaults.closeActive
    (fun next faults ↦ { faults with closeActive := next }) _ browser rfl).trans ?_
  cases browser.faults.closeActive.outcome with
  | error failure => rfl
  | ok _ =>
    simp only [perform_bind, perform_requireOpen, openness_asked, Except.bind]
    cases browser.openness browser.active with
    | error failure => rfl
    | ok _ => rfl

/-! ## Which calls are issued -/

@[simp]
theorem calls_readWindows [TimeScale τ] (browser : Browser τ) :
    (readWindows.perform browser).2.calls = .readWindows :: browser.calls := by
  simp [perform_readWindows]

@[simp]
theorem calls_readActive (browser : Browser τ) :
    (readActive.perform browser).2.calls = .readActive browser.active :: browser.calls := by
  simp [perform_readActive]

@[simp]
theorem calls_switchTo (handle : String) (browser : Browser τ) :
    ((switchTo handle).perform browser).2.calls = .switchTo handle :: browser.calls := by
  rw [perform_switchTo]
  cases browser.faults.switchTo.outcome.bind fun _ ↦ browser.openness handle with
  | error failure => rfl
  | ok _ => rfl

@[simp]
theorem calls_closeActive (browser : Browser τ) :
    (closeActive.perform browser).2.calls = .close browser.active :: browser.calls := by
  rw [perform_closeActive]
  cases browser.faults.closeActive.outcome.bind fun _ ↦ browser.openness browser.active with
  | error failure => rfl
  | ok _ => rfl

/-- Between two states of a browser, only calls of some kinds have been issued. -/
def AsksOnly (allowed : Call → Bool) (before after : Browser τ) : Prop :=
  ∃ asked, after.calls = asked ++ before.calls ∧ ∀ call ∈ asked, allowed call = true

theorem composes_asksOnly (allowed : Call → Bool) :
    Composes (AsksOnly allowed : Browser τ → Browser τ → Prop) where
  refl browser := ⟨[], rfl, by simp⟩
  trans := by
    rintro first second third ⟨early, hearly, hearlyAllowed⟩ ⟨late, hlate, hlateAllowed⟩
    refine ⟨late ++ early, by rw [hlate, hearly, List.append_assoc], ?_⟩
    intro call hcall
    rcases List.mem_append.1 hcall with hcall | hcall
    · exact hlateAllowed call hcall
    · exact hearlyAllowed call hcall

theorem asksOnly_of_calls_eq_cons {allowed : Call → Bool} {before after : Browser τ} (call : Call)
    (hallowed : allowed call = true) (hcalls : after.calls = call :: before.calls) :
    AsksOnly allowed before after := by
  refine ⟨[call], hcalls, ?_⟩
  simpa using hallowed

/-! ## Successful calls -/

theorem readWindows_eq_ok [TimeScale τ] {browser later : Browser τ} {windows : List String}
    (hread : readWindows.perform browser = (.ok windows, later)) :
    windows = browser.catchUp.windows ∧ later.windows = windows ∧
      later.active = browser.catchUp.active := by
  rw [perform_readWindows] at hread
  obtain ⟨houtcome, rfl⟩ := Prod.mk.inj hread
  cases hplan : browser.faults.readWindows.outcome with
  | error failure => rw [hplan] at houtcome; cases houtcome
  | ok _ =>
    rw [hplan] at houtcome
    cases houtcome
    exact ⟨rfl, rfl, rfl⟩

/-- The active handle can be read only if there is a window with it. -/
theorem readActive_eq_ok {browser later : Browser τ} {active : String}
    (hread : readActive.perform browser = (.ok active, later)) :
    active = browser.active ∧ active ∈ browser.windows ∧ later.windows = browser.windows ∧
      later.active = active := by
  rw [perform_readActive] at hread
  obtain ⟨houtcome, rfl⟩ := Prod.mk.inj hread
  cases hplan : browser.faults.readActive.outcome with
  | error failure => rw [hplan] at houtcome; cases houtcome
  | ok _ =>
    rw [hplan] at houtcome
    cases hopen : browser.openness browser.active with
    | error failure => simp [hopen, Except.bind, Except.map] at houtcome
    | ok _ =>
      simp only [hopen, Except.bind, Except.map, Except.ok.injEq] at houtcome
      subst houtcome
      exact ⟨rfl, mem_of_openness_eq_ok hopen, rfl, rfl⟩

/-- A switch that succeeds moves the focus and keeps the windows. -/
theorem switchTo_eq_ok {browser later : Browser τ} {handle : String}
    (hswitch : (switchTo handle).perform browser = (.ok (), later)) :
    later.windows = browser.windows ∧ later.active = handle := by
  rw [perform_switchTo] at hswitch
  generalize browser.faults.switchTo.outcome.bind (fun _ ↦ browser.openness handle) = outcome
    at hswitch
  cases outcome with
  | error failure => cases (Prod.mk.inj hswitch).1
  | ok _ =>
    obtain ⟨-, rfl⟩ := Prod.mk.inj hswitch
    exact ⟨rfl, rfl⟩

end Browser

end BrowserControl
