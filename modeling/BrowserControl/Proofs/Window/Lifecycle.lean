import BrowserControl.Proofs.Window.Runs
import Mathlib.Logic.Relation

/-!
# The Life of a Session

A session knows the window that was active at its start, and the window it finds is one that was
not there at its start.  What it remembers never changes; it finds at most one window and keeps
it; and it only moves on, from looking for its window to having found it, and from there or at
once to its end.  None of this depends on what pages do, which calls meet a fault, or what other
sessions do in between: it is what every act keeps, and so it is kept by every run.
-/

namespace BrowserControl

variable {τ : Type}

/-- The ways a session moves on: it finds its window, or it ends. -/
inductive Stage.Becomes : Stage → Stage → Prop
  | attached (window : String) : Becomes .notAttached (.attached window)
  | closed (stage : Stage) : Becomes stage (.closed stage.window?)

/-- There is no way on from the end of a session. -/
theorem Stage.isClosed_of_becomes {earlier later : Stage}
    (hbecomes : Relation.ReflTransGen Becomes earlier later) (hclosed : earlier.isClosed = true) :
    later.isClosed = true := by
  induction hbecomes with
  | refl => exact hclosed
  | tail _ hnext ih =>
    cases hnext with
    | attached window => cases ih
    | closed stage => rfl

namespace Session

/-- What is true of a session from its start to its end and after. -/
structure IsSound (session : Session τ) : Prop where
  initialActive_mem : session.initialActive ∈ session.initialWindows
  window?_of_notAttached : session.stage = .notAttached → session.stage.window? = none
  window?_of_attached : ∀ window, session.stage = .attached window →
    session.stage.window? = some window
  window?_notMem : ∀ window, session.stage.window? = some window →
    window ∉ session.initialWindows ∧ window ≠ session.initialActive

/-- One state of a session comes before another or is the same. -/
structure Leads (earlier later : Session τ) : Prop where
  settings_eq : later.settings = earlier.settings
  initialWindows_eq : later.initialWindows = earlier.initialWindows
  initialActive_eq : later.initialActive = earlier.initialActive
  window?_eq : ∀ window, earlier.stage.window? = some window → later.stage.window? = some window
  stage_becomes : Relation.ReflTransGen Stage.Becomes earlier.stage later.stage

theorem Leads.refl (session : Session τ) : session.Leads session :=
  ⟨rfl, rfl, rfl, fun _ ↦ id, .refl⟩

theorem Leads.trans {first second third : Session τ} (hfirst : first.Leads second)
    (hsecond : second.Leads third) : first.Leads third where
  settings_eq := hsecond.settings_eq.trans hfirst.settings_eq
  initialWindows_eq := hsecond.initialWindows_eq.trans hfirst.initialWindows_eq
  initialActive_eq := hsecond.initialActive_eq.trans hfirst.initialActive_eq
  window?_eq window hwindow := hsecond.window?_eq window (hfirst.window?_eq window hwindow)
  stage_becomes := hfirst.stage_becomes.trans hsecond.stage_becomes

theorem leads_of_becomes (session : Session τ) {stage : Stage}
    (hstage : session.stage.Becomes stage) : session.Leads { session with stage } := by
  refine ⟨rfl, rfl, rfl, fun window hwindow ↦ ?_, .single hstage⟩
  cases session with
  | mk settings initialWindows initialActive earlier =>
    cases hstage with
    | attached found => cases hwindow
    | closed => exact hwindow

/-- A session is sound as long as the window it has found is none of the first ones. -/
theorem isSound_of_window?_notMem {session : Session τ}
    (hactive : session.initialActive ∈ session.initialWindows)
    (hwindow : ∀ window, session.stage.window? = some window → window ∉ session.initialWindows) :
    session.IsSound where
  initialActive_mem := hactive
  window?_of_notAttached hstage := by rw [hstage]; rfl
  window?_of_attached window hstage := by rw [hstage]; rfl
  window?_notMem window hfound := by
    refine ⟨hwindow window hfound, ?_⟩
    rintro rfl
    exact hwindow _ hfound hactive

/-- Ending a session keeps it sound, since it remembers no other window than before. -/
theorem IsSound.closed {session : Session τ} (hsound : session.IsSound) :
    IsSound { session with stage := .closed session.stage.window? } :=
  isSound_of_window?_notMem hsound.initialActive_mem
    fun window hwindow ↦ (hsound.window?_notMem window hwindow).1

/-- Attaching to a new window keeps a session sound. -/
theorem IsSound.attached {session : Session τ} (hsound : session.IsSound) {window : String}
    (hnew : window ∉ session.initialWindows) :
    IsSound { session with stage := .attached window } := by
  refine isSound_of_window?_notMem hsound.initialActive_mem fun found hfound ↦ ?_
  cases hfound
  exact hnew

end Session

/-! ## Acts -/

section

variable [TimeScale τ] (scene : Scene τ)

open Session

/-- What an attempt to switch to the new window does to a session, whether it succeeds or fails:
nothing, or the session has found its window. -/
theorem Session.session_switchToNewWindow (timeout : Option (Seconds τ)) :
    ((switchToNewWindow timeout).perform scene).2.session = scene.session ∨
      scene.session.stage = .notAttached ∧
        ∃ window, window ∉ scene.session.initialWindows ∧
          ((switchToNewWindow timeout).perform scene).2.session =
            { scene.session with stage := .attached window } := by
  rcases hattach : (attach timeout).perform scene with ⟨failure | window, later⟩
  · left
    rw [perform_switchToNewWindow_of_attach_eq_error scene hattach]
    exact (onlyLooked_of_attach_eq_error scene hattach).1
  · rw [perform_switchToNewWindow_of_attach_eq_ok scene hattach]
    obtain ⟨hsession, -, hstage | ⟨hstage, hnew⟩⟩ := attach_eq_ok scene hattach
    · left
      change later.session = scene.session
      rw [hsession, ← hstage]
    · right
      exact ⟨hstage, window, hnew, hsession⟩

/-- No act takes a session back. -/
theorem Act.leads (act : Act τ) :
    scene.session.Leads (act.attempt.perform scene).2.session := by
  cases act with
  | switch timeout =>
    change scene.session.Leads ((switchToNewWindow timeout).perform scene).2.session
    rcases session_switchToNewWindow scene timeout with hsame | ⟨hstage, window, -, hattached⟩
    · rw [hsame]
      exact Leads.refl _
    · rw [hattached]
      apply leads_of_becomes
      rw [hstage]
      exact .attached window
  | back =>
    change scene.session.Leads (switchBack.perform scene).2.session
    rw [session_switchBack]
    exact Leads.refl _
  | close =>
    change scene.session.Leads (Session.close.perform scene).2.session
    rw [session_close]
    exact leads_of_becomes _ (.closed _)

/-- Every act leaves a sound session behind. -/
theorem Act.isSound (act : Act τ) (hsound : scene.session.IsSound) :
    (act.attempt.perform scene).2.session.IsSound := by
  cases act with
  | switch timeout =>
    change ((switchToNewWindow timeout).perform scene).2.session.IsSound
    rcases session_switchToNewWindow scene timeout with hsame | ⟨-, window, hnew, hattached⟩
    · rw [hsame]
      exact hsound
    · rw [hattached]
      exact hsound.attached hnew
  | back =>
    change (switchBack.perform scene).2.session.IsSound
    rw [session_switchBack]
    exact hsound
  | close =>
    change (Session.close.perform scene).2.session.IsSound
    rw [session_close]
    exact hsound.closed

end

/-! ## Worlds -/

namespace World

def IsSound (world : World τ) : Prop :=
  ∀ session ∈ world.sessions, session.IsSound

theorem isSound_of_sessions_eq_nil {world : World τ} (hsessions : world.sessions = []) :
    world.IsSound := by
  intro session hsession
  rw [hsessions] at hsession
  cases hsession

/-- Every session of one world is found again in another one, in the same state or a later one.
-/
def Leads (earlier later : World τ) : Prop :=
  ∀ (number : Nat) (session : Session τ), earlier.sessions[number]? = some session →
    ∃ next : Session τ, later.sessions[number]? = some next ∧ session.Leads next

theorem Leads.refl (world : World τ) : world.Leads world :=
  fun _ session hsession ↦ ⟨session, hsession, Session.Leads.refl session⟩

theorem Leads.trans {first second third : World τ} (hfirst : first.Leads second)
    (hsecond : second.Leads third) : first.Leads third := by
  intro number session hsession
  obtain ⟨next, hnext, hleads⟩ := hfirst number session hsession
  obtain ⟨last, hlast, hleads'⟩ := hsecond number next hnext
  exact ⟨last, hlast, hleads.trans hleads'⟩

/-- New sessions are added after the old ones and change none of them. -/
theorem leads_of_sessions_eq_append {earlier later : World τ} {added : List (Session τ)}
    (hsessions : later.sessions = earlier.sessions ++ added) : earlier.Leads later := by
  intro number session hsession
  refine ⟨session, ?_, Session.Leads.refl session⟩
  have hlt := (List.getElem?_eq_some_iff.1 hsession).1
  rw [hsessions, List.getElem?_append_left hlt, hsession]

variable {world : World τ} {number : Nat} {session : Session τ} {scene : Scene τ}

/-- What a session does leads the world on as it leads the session. -/
theorem leads_acted (hsession : world.sessions[number]? = some session)
    (hleads : session.Leads scene.session) : world.Leads (world.acted number scene) := by
  intro other known hknown
  by_cases hother : number = other
  · subst hother
    rw [hsession] at hknown
    cases hknown
    exact ⟨scene.session, getElem?_acted_self hsession, hleads⟩
  · refine ⟨known, ?_, Session.Leads.refl known⟩
    rw [acted, List.getElem?_set_ne hother, hknown]

theorem isSound_acted (hworld : world.IsSound) (hscene : scene.session.IsSound) :
    (world.acted number scene).IsSound := by
  intro known hknown
  rcases List.mem_or_eq_of_mem_set hknown with hknown | rfl
  · exact hworld known hknown
  · exact hscene

end World

/-! ## Runs -/

section

variable [TimeScale τ]

namespace Report

variable {report : Report τ}

/-- What a report tells takes no session back. -/
theorem Arises.leads (harises : report.Arises) (hnamed : report.before.IsNamed) :
    report.before.Leads report.world := by
  rcases harises.isAct_or_isOther hnamed with ⟨number, act, session, hact⟩ | hother
  · rw [hact.world_eq]
    exact World.leads_acted hact.session_eq (act.leads ⟨session, report.before.desktop⟩)
  · rcases hother.sessions with hsame | ⟨session, hadded, -⟩
    · exact World.leads_of_sessions_eq_append (hsame.trans (List.append_nil _).symm)
    · exact World.leads_of_sessions_eq_append hadded

/-- Every step keeps the world sound. -/
theorem Arises.isSound_world (harises : report.Arises) (hnamed : report.before.IsNamed)
    (hsound : report.before.IsSound) : report.world.IsSound := by
  rcases harises.isAct_or_isOther hnamed with ⟨number, act, session, hact⟩ | hother
  · rw [hact.world_eq]
    have hsession := hsound session (List.mem_of_getElem? hact.session_eq)
    exact World.isSound_acted hsound (act.isSound ⟨session, report.before.desktop⟩ hsession)
  · intro known hknown
    rcases hother.sessions with hsame | ⟨session, hadded, hstage, hactive⟩
    · rw [hsame] at hknown
      exact hsound known hknown
    · rw [hadded] at hknown
      rcases List.mem_append.1 hknown with hknown | hknown
      · exact hsound known hknown
      · rw [List.mem_singleton.1 hknown]
        refine Session.isSound_of_window?_notMem hactive fun window hwindow ↦ ?_
        rw [hstage] at hwindow
        cases hwindow

/-- Closing a session ends it, also if its window could not be closed. -/
theorem IsAct.isClosed {number : Nat} {session : Session τ}
    (hact : report.IsAct number .close session) :
    ∃ next, report.world.sessions[number]? = some next ∧ next.stage.isClosed = true := by
  refine ⟨(Session.close.perform ⟨session, report.before.desktop⟩).2.session, ?_, ?_⟩
  · rw [hact.world_eq]
    exact World.getElem?_acted_self hact.session_eq
  · rw [Session.session_close]
    rfl

/-- A session that has ended refuses to look for its window, without a word to the browser. -/
theorem IsAct.refuses {number : Nat} {timeout : Option (Seconds τ)} {session : Session τ}
    (hact : report.IsAct number (.switch timeout) session)
    (hclosed : session.stage.isClosed = true) :
    report.outcome = .error (.of .sessionClosed "This window session has already been closed") ∧
      report.calls = [] := by
  have hperform : (Act.switch timeout).attempt.perform ⟨session, report.before.desktop⟩ =
      (.error (.of .sessionClosed "This window session has already been closed"),
        ⟨session, report.before.desktop⟩) := by
    apply Session.perform_switchToNewWindow_of_attach_eq_error
    cases hstage : session.stage with
    | closed window => exact Session.perform_attach_of_closed _ timeout hstage
    | notAttached => rw [hstage] at hclosed; cases hclosed
    | attached window => rw [hstage] at hclosed; cases hclosed
  obtain ⟨name, caught, hstep⟩ := Step.eq_single_of_act?_eq_switch hact.act_eq
  constructor
  · rw [hact.outcome_eq name caught _ hstep, hperform]
  · rw [hact.calls_eq, hact.world_eq, hperform]
    exact newest_append [] report.before.desktop.browser.calls

end Report

namespace Run

variable {first last : World τ} {reports : List (Report τ)}

/-- All worlds of a run are sound if the first one is. -/
theorem isSound_of_mem (hrun : Run first reports last) (hnamed : first.IsNamed)
    (hsound : first.IsSound) :
    ∀ report ∈ reports, report.before.IsSound ∧ report.world.IsSound := by
  induction hrun with
  | nil => simp
  | cons harises _ ih =>
    intro report hreport
    have hworld := harises.isSound_world hnamed hsound
    rcases List.mem_cons.1 hreport with rfl | hreport
    · exact ⟨hsound, hworld⟩
    · exact ih (harises.isNamed_world hnamed).1 hworld report hreport

/-- Every step of a run is a step forward from where the run began. -/
theorem leads_of_mem (hrun : Run first reports last) (hnamed : first.IsNamed) :
    ∀ report ∈ reports, first.Leads report.before ∧ report.before.Leads report.world := by
  induction hrun with
  | nil => simp
  | cons harises _ ih =>
    intro report hreport
    have hleads := harises.leads hnamed
    rcases List.mem_cons.1 hreport with rfl | hreport
    · exact ⟨World.Leads.refl _, hleads⟩
    · obtain ⟨hbefore, hworld⟩ := ih (harises.isNamed_world hnamed).1 report hreport
      exact ⟨hleads.trans hbefore, hworld⟩

/-- Of two steps of a run the earlier leads to the later. -/
theorem pairwise_leads (hrun : Run first reports last) (hnamed : first.IsNamed) :
    reports.Pairwise fun earlier later ↦ earlier.world.Leads later.before := by
  induction hrun with
  | nil => exact .nil
  | cons harises hrest ih =>
    have hnext := (harises.isNamed_world hnamed).1
    exact .cons (fun report hreport ↦ (hrest.leads_of_mem hnext report hreport).1) (ih hnext)

end Run

/-- What a sequence of reports tells of the lives of the sessions: they are sound all the time,
neither a step nor any number of steps takes them back, closing them ends them whatever comes of
it, and then they refuse to look for a window. -/
structure Lifecycle (reports : List (Report τ)) : Prop where
  tells : ∀ report ∈ reports, ∀ number, report.number = some number →
    ∃ act session, report.Tells number act session
  isSound : ∀ report ∈ reports, report.before.IsSound ∧ report.world.IsSound
  leads : ∀ report ∈ reports, report.before.Leads report.world
  pairwise_leads : reports.Pairwise fun earlier later ↦ earlier.world.Leads later.before
  ends : ∀ report ∈ reports, ∀ number session, report.Tells number .close session →
    ∃ next, report.world.sessions[number]? = some next ∧ next.stage.isClosed = true
  refuses : ∀ report ∈ reports, ∀ number timeout session,
    report.Tells number (.switch timeout) session → session.stage.isClosed = true →
      report.outcome =
          .error (.of .sessionClosed "This window session has already been closed") ∧
        report.calls = []

/-- Every script keeps to the life of a session, from whatever state of the browser it starts,
whatever happens to the windows and whichever calls fail. -/
theorem lifecycle_runAll (steps : List (Step τ)) (desktop : Desktop τ) :
    Lifecycle (Step.runAll steps ⟨desktop, [], []⟩) := by
  have hnamed : World.IsNamed (⟨desktop, [], []⟩ : World τ) := World.isNamed_of_names_eq_nil rfl
  have hsound : World.IsSound (⟨desktop, [], []⟩ : World τ) := World.isSound_of_sessions_eq_nil rfl
  obtain ⟨last, hrun⟩ := Step.runAll_isRun steps hnamed
  have harises := hrun.arises_of_mem hnamed
  refine ⟨?_, hrun.isSound_of_mem hnamed hsound, ?_, hrun.pairwise_leads hnamed, ?_, ?_⟩
  · intro report hreport number hnumber
    obtain ⟨act, session, hact⟩ :=
      (harises report hreport).1.exists_isAct (harises report hreport).2 hnumber
    exact ⟨act, session, hact.toTells⟩
  · intro report hreport
    exact (hrun.leads_of_mem hnamed report hreport).2
  · intro report hreport number session htells
    exact ((harises report hreport).1.isAct_of_tells (harises report hreport).2 htells).isClosed
  · intro report hreport number timeout session htells hclosed
    exact ((harises report hreport).1.isAct_of_tells (harises report hreport).2
      htells).refuses hclosed

end

end BrowserControl
