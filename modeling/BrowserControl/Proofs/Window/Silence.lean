import BrowserControl.Proofs.Window.Runs
import Mathlib.Data.List.Forall2

/-!
# Logging Makes No Difference

Take two runs of a script that differ in nothing but log levels: the threshold at the start, the
thresholds that steps set, and the levels in the settings that sessions are started with.  As long
as every level has a name or is empty, each step comes to the same in both runs, asks the browser
for the same, and leaves the same browser and the same sessions behind; only the records that the
log lets through may differ.

The argument compares two attempts at a time (`Attempt.Agree`): from states that are alike they
come to the same outcome and to states that are alike.  Whatever is built from attempts that agree
agrees again, and the attempts that log agree whatever their thresholds are.
-/

namespace BrowserControl

/-! ## Attempts that agree -/

namespace Attempt

variable {σ ρ α β : Type}

/-- Two outcomes are values that are the same in some sense, or the same failure. -/
inductive SameOutcome (same : α → α → Prop) : Except Failure α → Except Failure α → Prop
  | ok {left right : α} (hsame : same left right) : SameOutcome same (.ok left) (.ok right)
  | error (failure : Failure) : SameOutcome same (.error failure) (.error failure)

theorem sameOutcome_eq_iff {left right : Except Failure α} :
    SameOutcome Eq left right ↔ left = right := by
  constructor
  · rintro (hsame | failure)
    · rw [hsame]
    · rfl
  · rintro rfl
    cases left with
    | ok value => exact .ok rfl
    | error failure => exact .error failure

/-- From states that are alike, two attempts come to outcomes that are the same, and to states that
are alike. -/
def Agree (alike : σ → σ → Prop) (same : α → α → Prop) (first second : Attempt σ α) : Prop :=
  ∀ left right, alike left right →
    SameOutcome same (first.perform left).1 (second.perform right).1 ∧
      alike (first.perform left).2 (second.perform right).2

section

variable {alike : σ → σ → Prop} {same : α → α → Prop} {first second : Attempt σ α}

theorem agree_ofExcept {left right : Except Failure α} (hsame : SameOutcome same left right) :
    Agree alike same (ofExcept left) (ofExcept right) := by
  intro state other halike
  simp only [perform_ofExcept]
  exact ⟨hsame, halike⟩

theorem agree_ofExcept_self (outcome : Except Failure α) :
    Agree alike Eq (ofExcept outcome) (ofExcept outcome) :=
  agree_ofExcept (sameOutcome_eq_iff.2 rfl)

theorem agree_pure {left right : α} (hsame : same left right) :
    Agree alike same (pure left) (pure right) :=
  agree_ofExcept (.ok hsame)

theorem agree_throw (failure : Failure) : Agree alike same (throw failure) (throw failure) :=
  agree_ofExcept (.error failure)

theorem agree_get : Agree alike alike (get : Attempt σ σ) get :=
  fun _ _ halike ↦ ⟨.ok halike, halike⟩

theorem agree_modify {change changeOther : σ → σ}
    (hchange : ∀ left right, alike left right → alike (change left) (changeOther right)) :
    Agree alike Eq (modify change : Attempt σ PUnit) (modify changeOther) :=
  fun left right halike ↦ ⟨.ok rfl, hchange left right halike⟩

/-- An attempt agrees with itself on equal states. -/
theorem agree_self (attempt : Attempt σ α) : Agree Eq Eq attempt attempt := by
  rintro state _ rfl
  exact ⟨sameOutcome_eq_iff.2 rfl, rfl⟩

/-- Attempts that agree may be followed by attempts that agree on like values. -/
theorem Agree.bind {sameNext : β → β → Prop} {next nextOther : α → Attempt σ β}
    (hfirst : Agree alike same first second)
    (hnext : ∀ left right, same left right → Agree alike sameNext (next left) (nextOther right)) :
    Agree alike sameNext (first >>= next) (second >>= nextOther) := by
  intro left right halike
  obtain ⟨houtcome, hlater⟩ := hfirst left right halike
  rw [perform_bind, perform_bind]
  generalize first.perform left = result at houtcome hlater ⊢
  generalize second.perform right = other at houtcome hlater ⊢
  obtain ⟨outcome, later⟩ := result
  obtain ⟨outcomeOther, laterOther⟩ := other
  cases houtcome with
  | ok hsame => exact hnext _ _ hsame later laterOther hlater
  | error failure => exact ⟨.error failure, hlater⟩

/-- After attempts that come to the same value, both go on with that value. -/
theorem Agree.bind_eq {sameNext : β → β → Prop} {next nextOther : α → Attempt σ β}
    (hfirst : Agree alike Eq first second)
    (hnext : ∀ value, Agree alike sameNext (next value) (nextOther value)) :
    Agree alike sameNext (first >>= next) (second >>= nextOther) := by
  refine hfirst.bind ?_
  rintro value _ rfl
  exact hnext value

/-- Handlers that agree on every failure keep an agreement. -/
theorem Agree.recover {kind : Kind} {handle handleOther : Failure → Attempt σ α}
    (hfirst : Agree alike same first second)
    (hhandle : ∀ failure, Agree alike same (handle failure) (handleOther failure)) :
    Agree alike same (Attempt.recover first kind handle)
      (Attempt.recover second kind handleOther) := by
  intro left right halike
  obtain ⟨houtcome, hlater⟩ := hfirst left right halike
  rw [perform_recover, perform_recover]
  generalize first.perform left = result at houtcome hlater ⊢
  generalize second.perform right = other at houtcome hlater ⊢
  obtain ⟨outcome, later⟩ := result
  obtain ⟨outcomeOther, laterOther⟩ := other
  cases houtcome with
  | ok hsame => exact ⟨.ok hsame, hlater⟩
  | error failure =>
    by_cases hexpected : failure.kind.isA kind = true
    · simpa [hexpected] using hhandle failure later laterOther hlater
    · simpa [hexpected] using ⟨SameOutcome.error failure, hlater⟩

/-- Agreement on a part is agreement on the whole if the rest is kept alike. -/
theorem Agree.onPart {alikePart : ρ → ρ → Prop} {attempt attemptOther : Attempt ρ α}
    {part : σ → ρ} {replace : ρ → σ → σ} (hattempt : Agree alikePart same attempt attemptOther)
    (hpart : ∀ left right, alike left right → alikePart (part left) (part right))
    (hreplace : ∀ left right, alike left right → ∀ changed changedOther,
      alikePart changed changedOther → alike (replace changed left) (replace changedOther right)) :
    Agree alike same (Attempt.onPart part replace attempt)
      (Attempt.onPart part replace attemptOther) := by
  intro left right halike
  obtain ⟨houtcome, hchanged⟩ := hattempt _ _ (hpart left right halike)
  rw [perform_onPart, perform_onPart]
  exact ⟨houtcome, hreplace left right halike _ _ hchanged⟩

end

end Attempt

open Attempt

variable {τ : Type}

/-! ## Levels -/

/-- A level is empty, or the name of a threshold in any letter case. -/
def IsLevel (level : List Text.CodePoint) : Prop :=
  level = [] ∨ ∃ entry ∈ thresholdNames, Text.CodePoint.ofString entry.1 = Text.upperCodePoints level

instance : DecidablePred IsLevel :=
  fun level ↦ inferInstanceAs (Decidable (level = [] ∨ ∃ entry ∈ thresholdNames, _))

/-- The names of thresholds are in capitals. -/
theorem upperCodePoints_thresholdName :
    ∀ entry ∈ thresholdNames,
      Text.upperCodePoints (Text.CodePoint.ofString entry.1) = Text.CodePoint.ofString entry.1 := by
  decide +kernel

theorem IsLevel.upper {level : List Text.CodePoint} (hlevel : IsLevel level) :
    IsLevel (Text.upperCodePoints level) := by
  rcases hlevel with rfl | ⟨entry, hentry, hname⟩
  · exact .inl rfl
  · exact .inr ⟨entry, hentry, by rw [← hname, upperCodePoints_thresholdName entry hentry]⟩

/-- A threshold can be asked for by the name of every level. -/
theorem IsLevel.exists_requestedThreshold {level : List Text.CodePoint} (hlevel : IsLevel level) :
    ∃ threshold, requestedThreshold level = .ok threshold := by
  unfold requestedThreshold
  by_cases hempty : level.isEmpty = true
  · rw [if_pos hempty]
    exact ⟨none, rfl⟩
  · rw [if_neg hempty]
    rcases hlevel with rfl | ⟨entry, hentry, hname⟩
    · exact absurd rfl hempty
    · obtain ⟨found, hfound⟩ := Option.isSome_iff_exists.1 <|
        List.find?_isSome (p := fun entry ↦
          decide (Text.CodePoint.ofString entry.1 = Text.upperCodePoints level)).2
          ⟨entry, hentry, decide_eq_true hname⟩
      simp only [hfound]
      exact ⟨some found.2, rfl⟩

/-- One level may stand for another: both are levels, unless they are the same anyway. -/
def Interchangeable (left right : List Text.CodePoint) : Prop :=
  left = right ∨ IsLevel left ∧ IsLevel right

namespace Interchangeable

variable {left right : List Text.CodePoint}

theorem upper (hlevels : Interchangeable left right) :
    Interchangeable (Text.upperCodePoints left) (Text.upperCodePoints right) :=
  hlevels.imp (congrArg _) (And.imp IsLevel.upper IsLevel.upper)

/-- Of interchangeable levels either both are accepted or both are refused alike. -/
theorem requestedThreshold (hlevels : Interchangeable left right) :
    SameOutcome (fun _ _ ↦ True) (requestedThreshold left) (requestedThreshold right) := by
  rcases hlevels with rfl | ⟨hleft, hright⟩
  · cases BrowserControl.requestedThreshold left with
    | ok threshold => exact .ok trivial
    | error failure => exact .error failure
  · obtain ⟨threshold, hthreshold⟩ := hleft.exists_requestedThreshold
    obtain ⟨other, hother⟩ := hright.exists_requestedThreshold
    rw [hthreshold, hother]
    exact .ok trivial

/-- Whichever level sets the threshold of a log, and whatever the log is, the attempt comes to the
same. -/
theorem setThreshold (hlevels : Interchangeable left right) :
    Agree (fun _ _ ↦ True) Eq (Journal.setThreshold left) (Journal.setThreshold right) := by
  refine (agree_ofExcept hlevels.requestedThreshold).bind fun threshold other _ ↦ ?_
  cases threshold <;> cases other <;> exact fun _ _ _ ↦ ⟨.ok rfl, trivial⟩

end Interchangeable

/-! ## What is alike -/

/-- Two settings differ at most in their levels. -/
structure Settings.Alike (left right : Settings τ) : Prop where
  newWindowTimeout_eq : left.newWindowTimeout = right.newWindowTimeout
  pollFrequency_eq : left.pollFrequency = right.pollFrequency
  logLevel : Interchangeable left.logLevel right.logLevel

structure Session.Alike (left right : Session τ) : Prop where
  settings : left.settings.Alike right.settings
  initialWindows_eq : left.initialWindows = right.initialWindows
  initialActive_eq : left.initialActive = right.initialActive
  stage_eq : left.stage = right.stage

def Desktop.Alike (left right : Desktop τ) : Prop :=
  left.browser = right.browser

/-- Two scenes differ at most in their logs and in the levels of settings. -/
structure Scene.Alike (left right : Scene τ) : Prop where
  session : left.session.Alike right.session
  desktop : left.desktop.Alike right.desktop

/-- Two worlds differ at most in their logs and in the levels of settings. -/
structure World.Alike (left right : World τ) : Prop where
  desktop : left.desktop.Alike right.desktop
  sessions : List.Forall₂ Session.Alike left.sessions right.sessions
  names_eq : left.names = right.names

theorem Settings.Alike.refl (settings : Settings τ) : settings.Alike settings :=
  ⟨rfl, rfl, .inl rfl⟩

section

variable [TimeScale τ] {left right : Settings τ}

theorem Settings.Alike.pause_eq (halike : left.Alike right) : left.pause = right.pause := by
  rw [Settings.pause, Settings.pause, halike.pollFrequency_eq]

theorem Settings.Alike.timeout_eq (halike : left.Alike right) : left.timeout = right.timeout := by
  rw [Settings.timeout, Settings.timeout, halike.newWindowTimeout_eq]

/-- How long to wait does not depend on the level. -/
theorem Settings.Alike.timeoutOr_eq (halike : left.Alike right) (timeout : Option (Seconds τ)) :
    Session.timeoutOr timeout left = Session.timeoutOr timeout right := by
  cases timeout with
  | none => rw [Session.timeoutOr, Session.timeoutOr, halike.timeout_eq]
  | some timeout => rfl

end

/-- Whatever the other two values are, the settings they make with either level are alike, or
are refused for the same mistake. -/
theorem Settings.sameOutcome_ofValues {left right : List Text.CodePoint}
    (hlevels : Interchangeable left right) (timeout pause : Json.Value) :
    SameOutcome Settings.Alike (Settings.ofValues timeout pause (.text left))
      (Settings.ofValues timeout pause (.text right)) := by
  unfold Settings.ofValues
  cases Settings.checkSeconds "new_window_timeout" timeout with
  | error failure => exact .error failure
  | ok timeout =>
    cases Settings.checkSeconds "poll_frequency" pause with
    | error failure => exact .error failure
    | ok pause =>
      cases hzero : Settings.checkNonzero "poll_frequency" pause with
      | error failure => simpa [bind, Except.bind, hzero] using SameOutcome.error failure
      | ok _ =>
        simp only [bind, Except.bind, hzero]
        exact .ok ⟨rfl, rfl, hlevels⟩

/-! ## Sessions at work -/

namespace Desktop

theorem agree_onBrowser {α : Type} (attempt : Attempt (Browser τ) α) :
    Agree Desktop.Alike Eq (onBrowser attempt) (onBrowser attempt) :=
  (agree_self attempt).onPart (fun _ _ halike ↦ halike) fun _ _ _ _ _ hchanged ↦ hchanged

/-- Setting interchangeable levels leaves desktops alike. -/
theorem agree_setThreshold {level other : List Text.CodePoint}
    (hlevels : Interchangeable level other) :
    Agree (Desktop.Alike (τ := τ)) Eq (onJournal (Journal.setThreshold level))
      (onJournal (Journal.setThreshold other)) :=
  hlevels.setThreshold.onPart (fun _ _ _ ↦ trivial) fun _ _ halike _ _ _ ↦ halike

end Desktop

namespace Scene

theorem agree_onBrowser {α : Type} (attempt : Attempt (Browser τ) α) :
    Agree Scene.Alike Eq (onBrowser attempt) (onBrowser attempt) :=
  (Desktop.agree_onBrowser attempt).onPart (fun _ _ halike ↦ halike.desktop)
    fun _ _ halike _ _ hchanged ↦ ⟨halike.session, hchanged⟩

/-- Scenes stay alike when something is noted, whichever of them keeps the note. -/
theorem agree_note (severity : Severity) (message : String) :
    Agree (Scene.Alike (τ := τ)) Eq (note severity message) (note severity message) :=
  agree_modify fun _ _ halike ↦ ⟨halike.session, halike.desktop⟩

theorem agree_enter (stage : Stage) :
    Agree (Scene.Alike (τ := τ)) Eq (enter stage) (enter stage) := by
  refine agree_modify fun _ _ halike ↦ ⟨?_, halike.desktop⟩
  exact ⟨halike.session.settings, halike.session.initialWindows_eq, halike.session.initialActive_eq,
    rfl⟩

end Scene

namespace Session

open Scene

variable [TimeScale τ]

/-- Sessions that start with settings that are alike, or with none, are alike. -/
theorem agree_start {settings others : Option (Settings τ)}
    (halike : Option.Rel Settings.Alike settings others) :
    Agree Desktop.Alike Session.Alike (start settings) (start others) := by
  have hadopt : Agree Desktop.Alike Eq (adoptLevel settings) (adoptLevel others) := by
    cases halike with
    | none => exact agree_pure rfl
    | some halike => exact Desktop.agree_setThreshold halike.logLevel.upper
  have hsettings : (settings.getD Settings.standard).Alike (others.getD Settings.standard) := by
    cases halike with
    | none => exact .refl _
    | some halike => exact halike
  refine hadopt.bind_eq fun _ ↦ ?_
  refine (Desktop.agree_onBrowser _).bind_eq fun windows ↦ ?_
  refine (Desktop.agree_onBrowser _).bind_eq fun active ↦ ?_
  exact agree_pure ⟨hsettings, rfl, rfl, rfl⟩

theorem agree_awaitNewWindows (timeout : Seconds τ) :
    Agree Scene.Alike Eq (awaitNewWindows timeout) (awaitNewWindows timeout) := by
  refine agree_get.bind fun left right halike ↦ ?_
  dsimp only
  rw [halike.session.settings.pause_eq, halike.session.initialWindows_eq]
  refine (agree_ofExcept_self _).bind_eq fun pause ↦ ?_
  refine (agree_ofExcept_self _).bind_eq fun span ↦ ?_
  refine (agree_onBrowser _).recover fun _ ↦ ?_
  exact (agree_note _ _).bind_eq fun _ ↦ agree_throw _

theorem agree_findNewWindows (timeout : Seconds τ) :
    Agree Scene.Alike Eq (findNewWindows timeout) (findNewWindows timeout) := by
  unfold findNewWindows
  by_cases htime : timeout.isPositive = true
  · rw [if_pos htime]
    exact agree_awaitNewWindows timeout
  · rw [if_neg htime]
    refine agree_get.bind fun left right halike ↦ ?_
    rw [halike.session.initialWindows_eq]
    exact agree_onBrowser _

theorem agree_detect (timeout : Seconds τ) :
    Agree Scene.Alike Eq (detect timeout) (detect timeout) := by
  refine (agree_findNewWindows timeout).bind_eq fun windows ↦ ?_
  rcases windows with - | ⟨window, - | ⟨second, rest⟩⟩
  · exact (agree_note _ _).bind_eq fun _ ↦ agree_throw _
  · exact agree_pure rfl
  · exact (agree_note _ _).bind_eq fun _ ↦ agree_throw _

theorem agree_attach (timeout : Option (Seconds τ)) :
    Agree Scene.Alike Eq (attach timeout) (attach timeout) := by
  refine agree_get.bind fun left right halike ↦ ?_
  dsimp only
  rw [halike.session.settings.timeoutOr_eq, halike.session.stage_eq]
  cases right.session.stage with
  | closed window => exact agree_throw _
  | attached window => exact agree_pure rfl
  | notAttached =>
    refine (agree_ofExcept_self _).bind_eq fun span ↦ ?_
    refine (agree_detect span).bind_eq fun window ↦ ?_
    exact (agree_enter _).bind_eq fun _ ↦ agree_pure rfl

theorem agree_switchToNewWindow (timeout : Option (Seconds τ)) :
    Agree Scene.Alike Eq (switchToNewWindow timeout) (switchToNewWindow timeout) := by
  refine (agree_attach timeout).bind_eq fun window ↦ ?_
  exact (agree_note _ _).bind_eq fun _ ↦ agree_onBrowser _

omit [TimeScale τ] in
theorem agree_switchBack : Agree (Scene.Alike (τ := τ)) Eq switchBack switchBack := by
  refine agree_get.bind fun left right halike ↦ ?_
  dsimp only
  rw [halike.session.initialActive_eq]
  exact (agree_note _ _).bind_eq fun _ ↦ agree_onBrowser _

theorem agree_release (window : String) :
    Agree (Scene.Alike (τ := τ)) Eq (release window) (release window) := by
  refine agree_get.bind fun left right halike ↦ ?_
  dsimp only
  rw [halike.session.initialActive_eq]
  refine (agree_onBrowser _).bind_eq fun windows ↦ ?_
  by_cases hgone : window ∉ windows
  · rw [if_pos hgone]
    exact agree_note _ _
  rw [if_neg hgone]
  refine (agree_onBrowser _).bind_eq fun active ↦ ?_
  by_cases hactive : active = window
  · rw [if_pos hactive]
    refine (agree_onBrowser _).bind_eq fun _ ↦ ?_
    refine (agree_onBrowser _).bind_eq fun _ ↦ ?_
    exact agree_note _ _
  · rw [if_neg hactive]
    refine (agree_onBrowser _).bind_eq fun _ ↦ ?_
    refine (agree_onBrowser _).bind_eq fun _ ↦ ?_
    refine (agree_onBrowser _).bind_eq fun _ ↦ ?_
    exact agree_note _ _

theorem agree_close : Agree (Scene.Alike (τ := τ)) Eq close close := by
  refine agree_get.bind fun left right halike ↦ ?_
  dsimp only
  rw [halike.session.stage_eq]
  refine (agree_enter _).bind_eq fun _ ↦ ?_
  cases right.session.stage with
  | attached window => exact agree_release window
  | notAttached => exact agree_pure rfl
  | closed window => exact agree_pure rfl

end Session

/-! ## Worlds -/

section

variable {α β : Type} {same : α → β → Prop} {left : List α} {right : List β}

theorem rel_getElem? (hlists : List.Forall₂ same left right) (position : Nat) :
    Option.Rel same left[position]? right[position]? := by
  induction hlists generalizing position with
  | nil => exact .none
  | cons hsame _ ih =>
    cases position with
    | zero => exact .some hsame
    | succ position => simpa using ih position

theorem forall₂_set (hlists : List.Forall₂ same left right) {value : α} {other : β}
    (hsame : same value other) (position : Nat) :
    List.Forall₂ same (left.set position value) (right.set position other) := by
  induction hlists generalizing position with
  | nil => exact .nil
  | cons hhead htail ih =>
    cases position with
    | zero => exact .cons hsame htail
    | succ position => exact .cons hhead (ih position)

end

namespace World

/-- Worlds that are alike call their sessions by the same names. -/
theorem Alike.number?_eq {left right : World τ} (halike : left.Alike right) (name : String) :
    left.number? name = right.number? name := by
  rw [number?, number?, halike.names_eq]

theorem agree_onDesktop {α : Type} {same : α → α → Prop} {attempt other : Attempt (Desktop τ) α}
    (hattempts : Agree Desktop.Alike same attempt other) :
    Agree World.Alike same (onDesktop attempt) (onDesktop other) :=
  hattempts.onPart (fun _ _ halike ↦ halike.desktop)
    fun _ _ halike _ _ hchanged ↦ ⟨hchanged, halike.sessions, halike.names_eq⟩

theorem agree_changeBrowser (change : Browser τ → Browser τ) :
    Agree World.Alike Eq (modify (changeBrowser change) : Attempt (World τ) PUnit)
      (modify (changeBrowser change)) :=
  agree_modify fun _ _ halike ↦ ⟨congrArg change halike.desktop, halike.sessions, halike.names_eq⟩

/-- What agrees on scenes agrees when it is done with the session that has a number. -/
theorem agree_onNumber (number : Nat) {attempt : Attempt (Scene τ) Unit}
    (hattempt : Agree Scene.Alike Eq attempt attempt) :
    Agree World.Alike Eq (onNumber number attempt) (onNumber number attempt) := by
  intro left right halike
  have hsessions := rel_getElem? halike.sessions number
  generalize hleft : left.sessions[number]? = found at hsessions
  generalize hright : right.sessions[number]? = other at hsessions
  cases hsessions with
  | none =>
    rw [perform_onNumber_of_eq_none _ hleft, perform_onNumber_of_eq_none _ hright]
    exact ⟨.ok rfl, halike⟩
  | @some session other hsession =>
    obtain ⟨houtcome, hscene⟩ :=
      hattempt ⟨session, left.desktop⟩ ⟨other, right.desktop⟩ ⟨hsession, halike.desktop⟩
    rw [perform_onNumber _ hleft, perform_onNumber _ hright]
    exact ⟨houtcome, hscene.desktop, forall₂_set halike.sessions hscene.session number,
      halike.names_eq⟩

theorem agree_onSession (name : String) {attempt : Attempt (Scene τ) Unit}
    (hattempt : Agree Scene.Alike Eq attempt attempt) :
    Agree World.Alike Eq (onSession name attempt) (onSession name attempt) := by
  refine agree_get.bind fun left right halike ↦ ?_
  rw [halike.number?_eq]
  cases right.number? name with
  | none => exact agree_throw _
  | some number => exact agree_onNumber number hattempt

variable [TimeScale τ]

/-- Sessions started with like settings are alike. -/
theorem agree_startSession (name : String) {settings others : Option (Except Failure (Settings τ))}
    (halike : Option.Rel (SameOutcome Settings.Alike) settings others) :
    Agree World.Alike Eq (startSession name settings) (startSession name others) := by
  have hsettings : Agree World.Alike (Option.Rel Settings.Alike)
      (settings.mapM Attempt.ofExcept : Attempt (World τ) _) (others.mapM Attempt.ofExcept) := by
    cases halike with
    | none => exact agree_pure .none
    | some hsettings =>
      exact (agree_ofExcept hsettings).bind fun _ _ hsettings ↦
        agree_pure (Option.Rel.some hsettings)
  refine (agree_modify fun left right hworld ↦ ?_).bind_eq fun _ ↦ ?_
  · exact ⟨hworld.desktop, hworld.sessions, by rw [hworld.names_eq]⟩
  refine hsettings.bind fun _ _ hsettings ↦ ?_
  refine (agree_onDesktop (Session.agree_start hsettings)).bind fun _ _ hsession ↦ ?_
  refine agree_modify fun left right hworld ↦ ⟨hworld.desktop, ?_, ?_⟩
  · exact List.rel_append hworld.sessions (.cons hsession .nil)
  · rw [hworld.sessions.length_eq, hworld.names_eq]

end World

/-! ## Scripts -/

/-- Two commands that are the same but for the level they set. -/
inductive Command.Alike : Command τ → Command τ → Prop
  | start {left right : Except Failure (Settings τ)} (halike : SameOutcome Settings.Alike left right) :
      Alike (.start (some left)) (.start (some right))
  | level {left right : List Text.CodePoint} (hlevels : Interchangeable left right) :
      Alike (.level left) (.level right)
  | same (command : Command τ) : Alike command command

/-- Two steps that are the same but for the levels they set. -/
inductive Step.Alike : Step τ → Step τ → Prop
  | single (name : String) (caught : Bool) {command other : Command τ}
      (halike : command.Alike other) : Alike (.single name caught command) (.single name caught other)
  | scope (name : String) (caught : Bool) {body others : List (Step τ)}
      (halike : List.Forall₂ Alike body others) :
      Alike (.scope name caught body) (.scope name caught others)

/-- Two reports tell the same, as far as it can be seen without the log. -/
structure Report.Alike (left right : Report τ) : Prop where
  step : left.step.Alike right.step
  number_eq : left.number = right.number
  outcome_eq : left.outcome = right.outcome
  calls_eq : left.calls = right.calls
  before : left.before.Alike right.before
  world : left.world.Alike right.world

variable [TimeScale τ]

/-- Commands that are alike agree on every world. -/
theorem Command.agree_run (name : String) {command other : Command τ}
    (halike : command.Alike other) :
    Agree World.Alike Eq (command.run name) (other.run name) := by
  cases halike with
  | start halike => exact World.agree_startSession name (.some halike)
  | level hlevels => exact World.agree_onDesktop (Desktop.agree_setThreshold hlevels)
  | same command =>
    cases command with
    | start settings =>
      refine World.agree_startSession name ?_
      rcases settings with - | failure | settings
      · exact .none
      · exact .some (.error failure)
      · exact .some (.ok (.refl settings))
    | switch timeout => exact World.agree_onSession name (Session.agree_switchToNewWindow timeout)
    | back => exact World.agree_onSession name Session.agree_switchBack
    | close => exact World.agree_onSession name Session.agree_close
    | fail failure => exact agree_throw failure
    | page event => exact World.agree_changeBrowser _
    | later delay event =>
      exact (agree_ofExcept_self _).bind_eq fun _ ↦ World.agree_changeBrowser _
    | advance span => exact (agree_ofExcept_self _).bind_eq fun _ ↦ World.agree_changeBrowser _
    | plan faults => exact World.agree_changeBrowser _
    | level level => exact World.agree_onDesktop (Desktop.agree_setThreshold (.inl rfl))

omit [TimeScale τ] in
theorem Command.Alike.number?_eq {command other : Command τ} (halike : command.Alike other)
    {world otherWorld : World τ} (hworld : world.Alike otherWorld) (name : String) :
    command.number? name world = other.number? name otherWorld := by
  cases halike with
  | start halike => rfl
  | level hlevels => rfl
  | same command => cases command <;> first | rfl | exact hworld.number?_eq name

section

omit [TimeScale τ]

theorem Step.Alike.caught_eq {step other : Step τ} (halike : step.Alike other) :
    step.caught = other.caught := by
  cases halike <;> rfl

theorem Report.Alike.raised_eq {left right : Report τ} (halike : left.Alike right) :
    left.raised = right.raised := by
  rw [Report.raised, Report.raised, halike.outcome_eq, halike.step.caught_eq]

end

namespace Step

omit [TimeScale τ] in
/-- Reports of attempts that agree are alike. -/
theorem observe_alike {step other : Step τ} {attempt attemptOther : Attempt (World τ) Unit}
    {world otherWorld : World τ} (hstep : step.Alike other) (number : Option Nat)
    (hattempt : Agree World.Alike Eq attempt attemptOther) (hworld : world.Alike otherWorld) :
    (observe step number attempt world).Alike (observe other number attemptOther otherWorld) := by
  obtain ⟨houtcome, hlater⟩ := hattempt world otherWorld hworld
  refine ⟨hstep, rfl, sameOutcome_eq_iff.1 houtcome, ?_, hworld, hlater⟩
  have hbefore : world.desktop.browser = otherWorld.desktop.browser := hworld.desktop
  have hafter : (attempt.perform world).2.desktop.browser =
      (attemptOther.perform otherWorld).2.desktop.browser := hlater.desktop
  simp only [observe, hbefore, hafter]

theorem agree_leave (number : Nat) (raised : Option Failure) :
    Agree World.Alike Eq (leave number raised : Attempt (World τ) Unit) (leave number raised) := by
  refine (World.agree_onNumber number Session.agree_close).bind_eq fun _ ↦ ?_
  cases raised with
  | none => exact agree_pure rfl
  | some failure => exact agree_throw failure

/-- Two runs come to reports that are alike, to worlds that are alike, and to the same failure. -/
structure RunsAlike (left right : List (Report τ) × World τ × Option Failure) : Prop where
  reports : List.Forall₂ Report.Alike left.1 right.1
  world : left.2.1.Alike right.2.1
  raised_eq : left.2.2 = right.2.2

omit [TimeScale τ] in
theorem runsAlike_single {left right : Report τ} (halike : left.Alike right) :
    RunsAlike ([left], left.world, left.raised) ([right], right.world, right.raised) :=
  ⟨.cons halike .nil, halike.world, halike.raised_eq⟩

-- By induction on the first script; the second has the same shape, and the failure that ends a scope
-- early is the same in both.
mutual

/-- Steps that are alike run alike, by induction on their bodies. -/
theorem runsAlike_run : ∀ (step other : Step τ) (world otherWorld : World τ),
    step.Alike other → world.Alike otherWorld → RunsAlike (run step world) (run other otherWorld)
  | .single name caught command => by
    intro other world otherWorld halike hworld
    cases halike with
    | single _ _ halike =>
      simp only [run]
      rw [halike.number?_eq hworld]
      exact runsAlike_single <|
        observe_alike (.single name caught halike) _ (Command.agree_run name halike) hworld
  | .scope name caught body => by
    intro other world otherWorld halike hworld
    cases halike with
    | @scope _ _ _ others halike =>
      simp only [run]
      rw [hworld.number?_eq]
      cases otherWorld.number? name with
      | none =>
        exact runsAlike_single <|
          observe_alike (.scope name caught halike) none (agree_throw _) hworld
      | some number =>
        obtain ⟨hreports, hinner, hraised⟩ := runsAlike_runBody body others _ _ halike hworld
        dsimp only
        rw [hraised]
        have hreport := observe_alike (.scope name caught halike) (some number)
          (agree_leave number (runBody others otherWorld).2.2) hinner
        exact ⟨List.rel_append hreports (.cons hreport .nil), hreport.world, hreport.raised_eq⟩

theorem runsAlike_runBody : ∀ (body others : List (Step τ)) (world otherWorld : World τ),
    List.Forall₂ Step.Alike body others → world.Alike otherWorld →
    RunsAlike (runBody body world) (runBody others otherWorld)
  | [] => by
    intro others world otherWorld halike hworld
    cases halike
    exact ⟨.nil, hworld, rfl⟩
  | step :: rest => by
    intro others world otherWorld halike hworld
    cases halike with
    | @cons _ other _ further halike hrest =>
      obtain ⟨hreports, hlater, hraised⟩ := runsAlike_run step other _ _ halike hworld
      rw [runBody, runBody]
      generalize run step world = result at hreports hlater hraised ⊢
      generalize run other otherWorld = resultOther at hreports hlater hraised ⊢
      obtain ⟨reports, later, raised⟩ := result
      obtain ⟨reportsOther, laterOther, raisedOther⟩ := resultOther
      obtain rfl : raised = raisedOther := hraised
      cases raised with
      | some failure => exact ⟨hreports, hlater, rfl⟩
      | none =>
        obtain ⟨hfurther, hlast, hraised⟩ := runsAlike_runBody rest further _ _ hrest hlater
        exact ⟨List.rel_append hreports hfurther, hlast, hraised⟩

end

/-- **Silence.**  Two scripts that differ in nothing but levels, in worlds that differ in nothing
but their logs, come to reports that tell the same. -/
theorem forall₂_runAll_alike {steps others : List (Step τ)} {world otherWorld : World τ}
    (hsteps : List.Forall₂ Step.Alike steps others) (hworld : world.Alike otherWorld) :
    List.Forall₂ Report.Alike (runAll steps world) (runAll others otherWorld) := by
  induction hsteps generalizing world otherWorld with
  | nil => exact .nil
  | @cons step other _ _ halike _ ih =>
    have hruns := runsAlike_run step other _ _ halike hworld
    exact List.rel_append hruns.reports (ih hruns.world)

end Step

/-- A session finds a window and closes it at the end of a scope, all under one level. -/
def audited (level : List Text.CodePoint) : List (Step Float) :=
  [.single "s" false (.level level),
    .single "s" false (.start (some (Settings.ofValues (.int 0) (.float 0.5) (.text level)))),
    .single "s" false (.page ⟨["w1"], [], none⟩),
    .scope "s" false [.single "s" false (.switch none), .single "s" true (.start none)]]

def watched (threshold : Nat) : World Float :=
  { World.fresh ["w0"] "w0" with desktop := ⟨Browser.fresh ["w0"] "w0", ⟨threshold, []⟩⟩ }

/-- Only the one log lets anything through. -/
theorem runAll_audited_alike :
    List.Forall₂ Report.Alike
        (Step.runAll (audited (Text.CodePoint.ofString "Debug")) (watched 0))
        (Step.runAll (audited []) (watched 40)) ∧
      (Step.runAll (audited (Text.CodePoint.ofString "Debug")) (watched 0)).map Report.records =
        [[], [], [], [⟨.debug, "Switching to new window w1"⟩],[],
          [⟨.debug, "Closed window w1, back on w0"⟩]] ∧
      (Step.runAll (audited []) (watched 40)).map Report.records = [[], [], [], [], [], []] := by
  have hlevels : Interchangeable (Text.CodePoint.ofString "Debug") [] :=
    .inr ⟨by decide +kernel, by decide +kernel⟩
  refine ⟨Step.forall₂_runAll_alike ?_ ⟨rfl, .nil, rfl⟩, ?_, ?_⟩
  · refine .cons (.single _ _ (.level hlevels)) (.cons ?_ (.cons (.single _ _ (.same _)) ?_))
    · exact .single _ _ (.start (Settings.sameOutcome_ofValues hlevels _ _))
    · refine .cons (.scope _ _ ?_) .nil
      exact .cons (.single _ _ (.same _)) (.cons (.single _ _ (.same _)) .nil)
  · rfl
  · rfl

end BrowserControl
