import BrowserControl.Proofs.Window.Operations
import BrowserControl.Window.Script

/-!
# Runs of Scripts

However deep the scopes of a script are nested, running it is one sequence of reports, each of
which starts from the world that the one before it left behind.  A report either comes from one of
the three acts of a session, which is then the only session that changes, or it changes no
session, except that a new one may have been added, and tells the browser nothing.  What is kept
by each of these is kept by whole runs.
-/

namespace BrowserControl

open Attempt

variable {τ : Type}

/-! ## Acts of sessions -/

inductive Act (τ : Type) where
  | switch (timeout : Option (Seconds τ))
  | back
  | close

def Act.attempt [TimeScale τ] : Act τ → Attempt (Scene τ) Unit
  | switch timeout => Session.switchToNewWindow timeout
  | back => Session.switchBack
  | close => Session.close

/-- What a step tells its session to do; leaving a scope closes the session. -/
def Step.act? : Step τ → Option (Act τ)
  | single _ _ (.switch timeout) => some (.switch timeout)
  | single _ _ .back => some .back
  | single _ _ .close => some .close
  | single _ _ _ => none
  | scope _ _ _ => some .close

theorem Step.eq_single_of_act?_eq_switch {step : Step τ} {timeout : Option (Seconds τ)}
    (hact : step.act? = some (.switch timeout)) :
    ∃ name caught, step = .single name caught (.switch timeout) := by
  cases step with
  | scope name caught body => cases hact
  | single name caught command =>
    cases command with
    | switch other =>
      cases hact
      exact ⟨name, caught, rfl⟩
    | _ => cases hact

namespace World

def acted (number : Nat) (scene : Scene τ) (world : World τ) : World τ :=
  { world with desktop := scene.desktop, sessions := world.sessions.set number scene.session }

theorem getElem?_acted_self {number : Nat} {world : World τ} {session : Session τ}
    {scene : Scene τ} (hsession : world.sessions[number]? = some session) :
    (world.acted number scene).sessions[number]? = some scene.session :=
  List.getElem?_set_self (List.getElem?_eq_some_iff.1 hsession).1

/-- An attempt of a session meets the desktop as it is and leaves the other sessions as they are. -/
theorem perform_onNumber {number : Nat} {world : World τ} {session : Session τ}
    (attempt : Attempt (Scene τ) Unit) (hsession : world.sessions[number]? = some session) :
    (onNumber number attempt).perform world =
      ((attempt.perform ⟨session, world.desktop⟩).1,
        world.acted number (attempt.perform ⟨session, world.desktop⟩).2) := by
  change (onNumber number attempt : World τ → Except Failure Unit × World τ) world = _
  simp only [onNumber, hsession]
  rfl

/-- Without a session with the number nothing happens. -/
theorem perform_onNumber_of_eq_none {number : Nat} {world : World τ}
    (attempt : Attempt (Scene τ) Unit) (hsession : world.sessions[number]? = none) :
    (onNumber number attempt).perform world = (.ok (), world) := by
  change (onNumber number attempt : World τ → Except Failure Unit × World τ) world = _
  simp only [onNumber, hsession]

theorem perform_onSession {name : String} {number : Nat} {world : World τ}
    {session : Session τ} (attempt : Attempt (Scene τ) Unit)
    (hnumber : world.number? name = some number)
    (hsession : world.sessions[number]? = some session) :
    (onSession name attempt).perform world =
      ((attempt.perform ⟨session, world.desktop⟩).1,
        world.acted number (attempt.perform ⟨session, world.desktop⟩).2) := by
  unfold onSession
  rw [perform_bind, perform_get]
  simp only [hnumber]
  exact perform_onNumber attempt hsession

/-- Names stand for sessions that exist. -/
def IsNamed (world : World τ) : Prop :=
  ∀ entry ∈ world.names, entry.2 < world.sessions.length

/-- Without sessions there are no names to stand for one. -/
theorem isNamed_of_names_eq_nil {world : World τ} (hnames : world.names = []) : world.IsNamed := by
  intro entry hentry
  rw [hnames] at hentry
  cases hentry

theorem lt_of_number?_eq_some {name : String} {number : Nat} {world : World τ}
    (hnamed : world.IsNamed) (hnumber : world.number? name = some number) :
    number < world.sessions.length := by
  obtain ⟨before, after, hnames, -⟩ := List.lookup_eq_some_iff.1 hnumber
  exact hnamed (name, number) (by simp [hnames])

end World

/-- Leaving a scope closes its session, and then fails if a failure was under way; the failure of the
closing comes before that one. -/
theorem Step.perform_leave [TimeScale τ] {number : Nat} {world : World τ} {session : Session τ}
    (raised : Option Failure) (hsession : world.sessions[number]? = some session) :
    (leave number raised).perform world =
      ((Session.close.perform ⟨session, world.desktop⟩).1.bind fun _ ↦ raised.elim (.ok ()) .error,
        world.acted number (Session.close.perform ⟨session, world.desktop⟩).2) := by
  unfold leave
  rw [perform_bind, World.perform_onNumber _ hsession]
  rcases Session.close.perform ⟨session, world.desktop⟩ with ⟨failure | _, scene⟩
  · rfl
  · cases raised with
    | none => rfl
    | some failure => rfl

/-! ## Reports -/

theorem newest_append {α : Type} (asked entries : List α) :
    newest entries.length (asked ++ entries) = asked.reverse := by
  simp [newest]

variable [TimeScale τ]

namespace Report

/-- What there is to observe: single steps, scopes of unknown sessions, and scopes that are left.
-/
inductive Arises : Report τ → Prop
  | single (name : String) (caught : Bool) (command : Command τ) (world : World τ) :
    Arises (Step.observe (.single name caught command) (command.number? name world)
      (command.run name) world)
  | unknown (name : String) (caught : Bool) (body : List (Step τ)) (world : World τ) :
    Arises (Step.observe (.scope name caught body) none (World.noSession name) world)
  | left (name : String) (caught : Bool) (body : List (Step τ)) (number : Nat)
      (raised : Option Failure) (world : World τ) (hnumber : number < world.sessions.length) :
    Arises (Step.observe (.scope name caught body) (some number) (Step.leave number raised) world)

/-- A report is about a session that was told to act, and the session was there. -/
structure Tells (report : Report τ) (number : Nat) (act : Act τ) (session : Session τ) : Prop where
  number_eq : report.number = some number
  act_eq : report.step.act? = some act
  session_eq : report.before.sessions[number]? = some session

/-- A report on an act of a session.  If the act fails, its failure is what comes of the step, even of
a scope that is left with another failure under way. -/
structure IsAct (report : Report τ) (number : Nat) (act : Act τ) (session : Session τ) :
    Prop extends report.Tells number act session where
  world_eq :
    report.world =
      report.before.acted number (act.attempt.perform ⟨session, report.before.desktop⟩).2
  calls_eq :
    report.calls =
      newest report.before.desktop.browser.calls.length report.world.desktop.browser.calls
  outcome_eq : ∀ name caught command, report.step = .single name caught command →
    report.outcome = (act.attempt.perform ⟨session, report.before.desktop⟩).1
  outcome_eq_of_error : ∀ failure,
    (act.attempt.perform ⟨session, report.before.desktop⟩).1 = .error failure →
      report.outcome = .error failure

structure IsOther (report : Report τ) : Prop where
  number_eq : report.number = none
  sessions :
    report.world.sessions = report.before.sessions ∨
      ∃ session, report.world.sessions = report.before.sessions ++ [session] ∧
        session.stage = .notAttached ∧ session.initialActive ∈ session.initialWindows
  isNamed : report.before.IsNamed → report.world.IsNamed
  asksOnly :
    report.before.desktop.browser.AsksOnly (fun call ↦ !call.isCommand)
      report.world.desktop.browser
  calls_eq :
    report.calls =
      newest report.before.desktop.browser.calls.length report.world.desktop.browser.calls

end Report

/-! ## Where reports come from -/

namespace World

omit [TimeScale τ]

/-- Between two worlds there is no difference but in the log and in what happened to the browser
unasked. -/
def OnlyEvents (before after : World τ) : Prop :=
  after.sessions = before.sessions ∧ after.names = before.names ∧
    after.desktop.browser.calls = before.desktop.browser.calls

theorem composes_onlyEvents : Composes (OnlyEvents : World τ → World τ → Prop) where
  refl _ := ⟨rfl, rfl, rfl⟩
  trans := by
    rintro first second third ⟨hsessions, hnames, hcalls⟩ ⟨hsessions', hnames', hcalls'⟩
    exact ⟨hsessions'.trans hsessions, hnames'.trans hnames, hcalls'.trans hcalls⟩

theorem moves_noSession (name : String) :
    (noSession name : Attempt (World τ) Unit).Moves OnlyEvents :=
  moves_throw composes_onlyEvents _

/-- Events that call nothing add nothing to the calls. -/
theorem moves_changeBrowser {change : Browser τ → Browser τ}
    (hcalls : ∀ browser, (change browser).calls = browser.calls) :
    (modify (changeBrowser change) : Attempt (World τ) Unit).Moves OnlyEvents :=
  fun world ↦ ⟨rfl, rfl, hcalls world.desktop.browser⟩

theorem moves_setThreshold (name : List Text.CodePoint) :
    (onDesktop (Desktop.onJournal (Journal.setThreshold name)) : Attempt (World τ) Unit).Moves
      OnlyEvents :=
  fun _ ↦ ⟨rfl, rfl, rfl⟩

def forgot (name : String) (world : World τ) : World τ :=
  { world with names := world.names.filter fun entry ↦ entry.1 ≠ name }

def started (name : String) (session : Session τ) (desktop : Desktop τ) (world : World τ) :
    World τ :=
  { desktop
    sessions := world.sessions ++ [session]
    names := (name, world.sessions.length) :: (world.forgot name).names }

theorem isNamed_forgot (name : String) {world : World τ} (hnamed : world.IsNamed) :
    (world.forgot name).IsNamed :=
  fun entry hentry ↦ hnamed entry (List.mem_filter.1 hentry).1

theorem isNamed_started (name : String) (session : Session τ) (desktop : Desktop τ)
    {world : World τ} (hnamed : world.IsNamed) :
    (world.started name session desktop).IsNamed := by
  intro entry hentry
  simp only [started, List.length_append, List.length_singleton]
  rcases List.mem_cons.1 hentry with rfl | hentry
  · simp
  · have hlt := isNamed_forgot name hnamed entry hentry
    simp only [forgot] at hlt
    omega

end World

/-- Starting a session under a name first takes the name from the session that it stood for; only
a session that has started gets it. -/
theorem World.perform_startSession (name : String)
    (settings : Option (Except Failure (Settings τ))) (world : World τ) :
    ∃ given : Except Failure (Option (Settings τ)), (settings = none → given = .ok none) ∧
      (startSession name settings).perform world =
        match given with
        | .error failure => (.error failure, world.forgot name)
        | .ok given =>
          match (Session.start given).perform world.desktop with
          | (.error failure, desktop) => (.error failure, { world.forgot name with desktop })
          | (.ok session, desktop) => (.ok (), world.started name session desktop) := by
  have hgiven (given : Option (Settings τ)) :
      Attempt.perform
          (do
            let session ← onDesktop (Session.start given)
            modify fun world ↦
              { world with
                sessions := world.sessions ++ [session]
                names := (name, world.sessions.length) :: world.names })
          (world.forgot name) =
        match (Session.start given).perform world.desktop with
        | (.error failure, desktop) => (.error failure, { world.forgot name with desktop })
        | (.ok session, desktop) => (.ok (), world.started name session desktop) := by
    have hdesktop : (world.forgot name).desktop = world.desktop := rfl
    rw [perform_bind, onDesktop, perform_onPart, hdesktop]
    rcases (Session.start given).perform world.desktop with ⟨failure | session, desktop⟩
    · rfl
    · rfl
  match settings with
  | none => exact ⟨.ok none, fun _ ↦ rfl, hgiven none⟩
  | some (.ok settings) => exact ⟨.ok (some settings), by simp, hgiven (some settings)⟩
  | some (.error failure) => exact ⟨.error failure, by simp, rfl⟩

namespace Report

omit [TimeScale τ] in
theorem isOther_observe {step : Step τ} {attempt : Attempt (World τ) Unit} {world later : World τ}
    (hlater : (attempt.perform world).2 = later)
    (hsessions : later.sessions = world.sessions ∨
      ∃ session, later.sessions = world.sessions ++ [session] ∧
        session.stage = .notAttached ∧ session.initialActive ∈ session.initialWindows)
    (hnamed : world.IsNamed → later.IsNamed)
    (hasks : world.desktop.browser.AsksOnly (fun call ↦ !call.isCommand) later.desktop.browser) :
    (Step.observe step none attempt world).IsOther := by
  subst hlater
  exact ⟨rfl, hsessions, hnamed, hasks, rfl⟩

omit [TimeScale τ] in
/-- A step that only lets events happen is no act. -/
theorem isOther_of_onlyEvents {step : Step τ} {attempt : Attempt (World τ) Unit}
    (hattempt : attempt.Moves World.OnlyEvents) (world : World τ) :
    (Step.observe step none attempt world).IsOther := by
  obtain ⟨hsessions, hnames, hcalls⟩ := hattempt world
  refine isOther_observe rfl (.inl hsessions) (fun hnamed ↦ ?_) ⟨[], hcalls, by simp⟩
  unfold World.IsNamed
  rw [hnames, hsessions]
  exact hnamed

theorem isOther_start (name : String) (caught : Bool)
    (settings : Option (Except Failure (Settings τ))) (world : World τ) :
    (Step.observe (.single name caught (.start settings)) none (World.startSession name settings)
      world).IsOther := by
  obtain ⟨given, -, hperform⟩ := World.perform_startSession name settings world
  cases given with
  | error failure =>
    exact isOther_observe (congrArg Prod.snd hperform) (.inl rfl)
      (fun hnamed ↦ World.isNamed_forgot name hnamed) ((Browser.composes_asksOnly _).refl _)
  | ok given =>
    have hasks := Session.asksOnly_start given world.desktop
    rcases hstart : (Session.start given).perform world.desktop with ⟨failure | session, desktop⟩
    · simp only [hstart] at hperform hasks
      exact isOther_observe (congrArg Prod.snd hperform) (.inl rfl)
        (fun hnamed ↦ World.isNamed_forgot name hnamed) hasks
    · simp only [hstart] at hperform hasks
      exact isOther_observe (congrArg Prod.snd hperform)
        (.inr ⟨session, rfl, Session.start_eq_ok hstart⟩)
        (fun hnamed ↦ World.isNamed_started name session desktop hnamed) hasks

/-- A session that is told to act is the only one that changes. -/
theorem isAct_observe {step : Step τ} {act : Act τ} {number : Nat} {session : Session τ}
    {attempt : Attempt (World τ) Unit} {world : World τ} (hact : step.act? = some act)
    (hsession : world.sessions[number]? = some session)
    (hworld : (attempt.perform world).2 =
      world.acted number (act.attempt.perform ⟨session, world.desktop⟩).2)
    (houtcome : ∀ name caught command, step = .single name caught command →
      (attempt.perform world).1 = (act.attempt.perform ⟨session, world.desktop⟩).1)
    (hfails : ∀ failure, (act.attempt.perform ⟨session, world.desktop⟩).1 = .error failure →
      (attempt.perform world).1 = .error failure) :
    (Step.observe step (some number) attempt world).IsAct number act session :=
  ⟨⟨rfl, hact, hsession⟩, hworld, rfl, houtcome, hfails⟩

/-- A single step that names a session is an act of it, if there is such a session. -/
theorem isAct_or_isOther_onSession (act : Act τ) {name : String} {caught : Bool}
    {command : Command τ} {world : World τ} (hnamed : world.IsNamed)
    (hact : (Step.single name caught command).act? = some act)
    (hrun : command.run name = World.onSession name act.attempt)
    (hnumber : command.number? name world = world.number? name) :
    let report := Step.observe (.single name caught command) (command.number? name world)
      (command.run name) world
    (∃ number act session, report.IsAct number act session) ∨ report.IsOther := by
  intro report
  cases hlookup : world.number? name with
  | none =>
    right
    change (Step.observe _ (command.number? name world) (command.run name) world).IsOther
    rw [hnumber, hlookup, hrun]
    have hperform : (World.onSession name act.attempt).perform world =
        (World.noSession name : Attempt (World τ) Unit).perform world := by
      unfold World.onSession
      rw [perform_bind, perform_get]
      simp only [hlookup]
    exact isOther_observe (congrArg Prod.snd hperform) (.inl rfl) id
      ((Browser.composes_asksOnly _).refl _)
  | some number =>
    left
    have hlt := World.lt_of_number?_eq_some hnamed hlookup
    have hsession := List.getElem?_eq_getElem hlt
    refine ⟨number, act, world.sessions[number], ?_⟩
    have hperform := World.perform_onSession act.attempt hlookup hsession
    change (Step.observe _ (command.number? name world) (command.run name) world).IsAct _ _ _
    rw [hnumber, hlookup, hrun]
    have houtcome := congrArg Prod.fst hperform
    exact isAct_observe hact hsession (congrArg Prod.snd hperform) (fun _ _ _ _ ↦ houtcome)
      fun _ hfailure ↦ houtcome.trans hfailure

/-- Leaving a block is the close of its session. -/
theorem isAct_leave (name : String) (caught : Bool) (body : List (Step τ)) {number : Nat}
    (raised : Option Failure) {world : World τ} {session : Session τ}
    (hsession : world.sessions[number]? = some session) :
    (Step.observe (.scope name caught body) (some number) (Step.leave number raised)
      world).IsAct number .close session := by
  have hleave := Step.perform_leave raised hsession
  refine isAct_observe rfl hsession (congrArg Prod.snd hleave) (fun _ _ _ hstep ↦ by cases hstep) ?_
  intro failure hfailure
  have hclose : (Session.close.perform ⟨session, world.desktop⟩).1 = .error failure := hfailure
  rw [hleave, hclose]
  rfl

/-- Every report is on an act of a session or on something that concerns no session. -/
theorem Arises.isAct_or_isOther {report : Report τ} (harises : report.Arises)
    (hnamed : report.before.IsNamed) :
    (∃ number act session, report.IsAct number act session) ∨ report.IsOther := by
  cases harises with
  | single name caught command world =>
    match command with
    | .start settings => exact .inr (isOther_start name caught settings world)
    | .switch timeout =>
      exact isAct_or_isOther_onSession (.switch timeout) hnamed rfl rfl rfl
    | .back => exact isAct_or_isOther_onSession .back hnamed rfl rfl rfl
    | .close => exact isAct_or_isOther_onSession .close hnamed rfl rfl rfl
    | .fail failure =>
      exact .inr (isOther_of_onlyEvents (moves_throw World.composes_onlyEvents failure) world)
    | .page event =>
      refine .inr (isOther_of_onlyEvents ?_ world)
      exact World.moves_changeBrowser fun _ ↦ rfl
    | .later delay event =>
      refine .inr (isOther_of_onlyEvents ?_ world)
      exact Moves.bind World.composes_onlyEvents (moves_ofExcept World.composes_onlyEvents _)
        fun _ ↦ World.moves_changeBrowser fun _ ↦ rfl
    | .advance span =>
      refine .inr (isOther_of_onlyEvents ?_ world)
      exact Moves.bind World.composes_onlyEvents (moves_ofExcept World.composes_onlyEvents _)
        fun _ ↦ World.moves_changeBrowser fun _ ↦ rfl
    | .plan faults =>
      refine .inr (isOther_of_onlyEvents ?_ world)
      exact World.moves_changeBrowser fun _ ↦ rfl
    | .level name => exact .inr (isOther_of_onlyEvents (World.moves_setThreshold name) world)
  | unknown name caught body world =>
    exact .inr (isOther_of_onlyEvents (World.moves_noSession name) world)
  | left name caught body number raised world hnumber =>
    exact .inl ⟨number, .close, world.sessions[number],
      isAct_leave name caught body raised (List.getElem?_eq_getElem hnumber)⟩

/-- A report that names a session is on an act of that session. -/
theorem Arises.exists_isAct {report : Report τ} {number : Nat} (harises : report.Arises)
    (hnamed : report.before.IsNamed) (hnumber : report.number = some number) :
    ∃ act session, report.IsAct number act session := by
  rcases harises.isAct_or_isOther hnamed with ⟨actor, act, session, hact⟩ | hother
  · have hactor := hact.number_eq.symm.trans hnumber
    cases hactor
    exact ⟨act, session, hact⟩
  · rw [hother.number_eq] at hnumber
    cases hnumber

/-- A report that tells of an act is one. -/
theorem Arises.isAct_of_tells {report : Report τ} {number : Nat} {act : Act τ}
    {session : Session τ} (harises : report.Arises) (hnamed : report.before.IsNamed)
    (htells : report.Tells number act session) : report.IsAct number act session := by
  obtain ⟨told, actor, hact⟩ := harises.exists_isAct hnamed htells.number_eq
  cases hact.act_eq.symm.trans htells.act_eq
  cases hact.session_eq.symm.trans htells.session_eq
  exact hact

/-- No report takes a session or a name's session away. -/
theorem Arises.isNamed_world {report : Report τ} (harises : report.Arises)
    (hnamed : report.before.IsNamed) :
    report.world.IsNamed ∧ report.before.sessions.length ≤ report.world.sessions.length := by
  rcases harises.isAct_or_isOther hnamed with ⟨number, act, session, hact⟩ | hother
  · rw [hact.world_eq]
    have hlength (scene : Scene τ) :
        (report.before.acted number scene).sessions.length = report.before.sessions.length :=
      List.length_set
    refine ⟨fun entry hentry ↦ ?_, (hlength _).ge⟩
    rw [hlength]
    exact hnamed entry hentry
  · refine ⟨hother.isNamed hnamed, ?_⟩
    rcases hother.sessions with hsame | ⟨session, hadded, -⟩
    · rw [hsame]
    · rw [hadded]
      simp

end Report

/-! ## Runs -/

/-- Reports that follow each other: each starts from the world that the one before it left behind.
-/
inductive Run : World τ → List (Report τ) → World τ → Prop
  | nil (world : World τ) : Run world [] world
  | cons {report : Report τ} {reports : List (Report τ)} {last : World τ}
      (harises : report.Arises) (hrest : Run report.world reports last) :
    Run report.before (report :: reports) last

namespace Run

theorem append {first middle last : World τ} {reports further : List (Report τ)}
    (hreports : Run first reports middle) (hfurther : Run middle further last) :
    Run first (reports ++ further) last := by
  induction hreports with
  | nil => exact hfurther
  | cons harises _ ih => exact .cons harises (ih hfurther)

theorem single {report : Report τ} (harises : report.Arises) :
    Run report.before [report] report.world :=
  .cons harises (.nil report.world)

/-- All names still stand for sessions at the end of a run, and none of the sessions is lost. -/
theorem isNamed_last {first last : World τ} {reports : List (Report τ)}
    (hrun : Run first reports last) (hnamed : first.IsNamed) :
    last.IsNamed ∧ first.sessions.length ≤ last.sessions.length := by
  induction hrun with
  | nil => exact ⟨hnamed, le_rfl⟩
  | cons harises _ ih =>
    obtain ⟨hworld, hle⟩ := harises.isNamed_world hnamed
    obtain ⟨hlast, hle'⟩ := ih hworld
    exact ⟨hlast, hle.trans hle'⟩

/-- Every report of a run starts from a world in which names stand for sessions. -/
theorem arises_of_mem {first last : World τ} {reports : List (Report τ)}
    (hrun : Run first reports last) (hnamed : first.IsNamed) :
    ∀ report ∈ reports, report.Arises ∧ report.before.IsNamed := by
  induction hrun with
  | nil => simp
  | cons harises _ ih =>
    intro report hreport
    rcases List.mem_cons.1 hreport with rfl | hreport
    · exact ⟨harises, hnamed⟩
    · exact ih (harises.isNamed_world hnamed).1 report hreport

end Run

namespace Step

mutual

/-- Every step performs a run, the steps of its body included. -/
theorem run_isRun (step : Step τ) {world : World τ} (hnamed : world.IsNamed) :
    Run world (run step world).1 (run step world).2.1 := by
  cases step with
  | single name caught command =>
    rw [run]
    exact .single (.single name caught command world)
  | scope name caught body =>
    rw [run]
    cases hnumber : world.number? name with
    | none => exact .single (.unknown name caught body world)
    | some number =>
      have hbody := runBody_isRun body hnamed
      have hlt := World.lt_of_number?_eq_some hnamed hnumber
      have hle := (hbody.isNamed_last hnamed).2
      exact hbody.append (.single (.left name caught body number _ _ (hlt.trans_le hle)))

theorem runBody_isRun (steps : List (Step τ)) {world : World τ} (hnamed : world.IsNamed) :
    Run world (runBody steps world).1 (runBody steps world).2.1 := by
  cases steps with
  | nil =>
    rw [runBody]
    exact .nil world
  | cons step rest =>
    have hstep := run_isRun step hnamed
    rw [runBody]
    generalize run step world = result at hstep ⊢
    rcases result with ⟨reports, later, failure | _⟩
    · exact hstep.append (runBody_isRun rest (hstep.isNamed_last hnamed).1)
    · exact hstep

end

/-- Running a script is one run, however deep its scopes are nested. -/
theorem runAll_isRun (steps : List (Step τ)) {world : World τ} (hnamed : world.IsNamed) :
    ∃ last, Run world (runAll steps world) last := by
  induction steps generalizing world with
  | nil => exact ⟨world, .nil world⟩
  | cons step rest ih =>
    have hstep := run_isRun step hnamed
    obtain ⟨last, hrest⟩ := ih (hstep.isNamed_last hnamed).1
    exact ⟨last, hstep.append hrest⟩

end Step

end BrowserControl
