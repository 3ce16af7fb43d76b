import BrowserControl.Proofs.Window.Lifecycle

/-!
# Safe Conduct

Closing a window of a browser hits the active one, whichever that is.  Nevertheless a session
closes no window but the one it found, and closes it at most once; and it makes no window active
but the one it found, the one that was active at its start, and the one that it finds active when
it comes to close its own.  The argument is by the scripts that the acts of a session follow: they
may stop early, wherever a call fails, but a close comes in them only after what makes the right
window active.
-/

namespace BrowserControl

variable {τ : Type}

def Call.isClose : Call → Bool
  | close _ => true
  | _ => false

/-! ## Scripts for closing -/

namespace Session

variable {window active handle : String} {session : Session τ} {asked : List Call}

/-- Only the window of the session is closed. -/
theorem eq_of_close_mem (hasked : asked <+: releaseScript window active session)
    (hclose : .close handle ∈ asked) : handle = window := by
  have hmem := hasked.subset hclose
  unfold releaseScript at hmem
  by_cases hactive : active = window
  · simpa [hactive] using hmem
  · simpa [hactive] using hmem

/-- No switch comes before the active handle has been read. -/
theorem eq_of_switchTo_mem (hasked : asked <+: releaseScript window active session)
    (hswitch : .switchTo handle ∈ asked) :
    handle = window ∨ handle = session.initialActive ∨ .readActive handle ∈ asked := by
  have hread : .readActive active ∈ asked := by
    match asked with
    | [] => cases hswitch
    | [first] =>
      rw [releaseScript, List.cons_prefix_cons] at hasked
      rw [hasked.1] at hswitch
      simp at hswitch
    | first :: second :: rest =>
      rw [releaseScript, List.cons_prefix_cons, List.cons_prefix_cons] at hasked
      rw [hasked.2.1]
      simp
  have hmem := hasked.subset hswitch
  unfold releaseScript at hmem
  by_cases hactive : active = window
  · right; left
    simpa [hactive] using hmem
  · have hcases : handle = window ∨ handle = active := by simpa [hactive] using hmem
    rcases hcases with hwindow | rfl
    · exact .inl hwindow
    · exact .inr (.inr hread)

/-- However far a release gets, it closes one window at most. -/
theorem countP_isClose_le (hasked : asked <+: releaseScript window active session) :
    asked.countP Call.isClose ≤ 1 := by
  apply hasked.sublist.countP_le.trans
  unfold releaseScript
  by_cases hactive : active = window
  · simp [hactive, List.countP_cons, Call.isClose]
  · simp [hactive, List.countP_cons, Call.isClose]

end Session

/-! ## Calls of single acts -/

namespace Report

section

variable {report : Report τ} {allowed : Call → Bool}

theorem calls_eq_reverse (asked : List Call)
    (hcalls : report.calls =
      newest report.before.desktop.browser.calls.length report.world.desktop.browser.calls)
    (hasked : report.world.desktop.browser.calls =
      asked ++ report.before.desktop.browser.calls) : report.calls = asked.reverse := by
  rw [hcalls, hasked, newest_append]

/-- What a step asks of the browser is what its report lists. -/
theorem allowed_of_mem_calls
    (hcalls : report.calls =
      newest report.before.desktop.browser.calls.length report.world.desktop.browser.calls)
    (hasks : report.before.desktop.browser.AsksOnly allowed report.world.desktop.browser) :
    ∀ call ∈ report.calls, allowed call = true := by
  obtain ⟨asked, hworld, hallowed⟩ := hasks
  intro call hcall
  rw [calls_eq_reverse asked hcalls hworld] at hcall
  exact hallowed call (List.mem_reverse.1 hcall)

end

variable {report : Report τ}

/-- A step that is no act of a session gives the browser no command. -/
theorem IsOther.isCommand_eq_false (hother : report.IsOther) :
    ∀ call ∈ report.calls, call.isCommand = false := by
  intro call hcall
  have hallowed := allowed_of_mem_calls hother.calls_eq hother.asksOnly call hcall
  simpa using hallowed

variable [TimeScale τ] {number : Nat} {session : Session τ}

theorem IsAct.calls_back (hact : report.IsAct number .back session) :
    report.calls = [.switchTo session.initialActive] := by
  apply calls_eq_reverse [.switchTo session.initialActive] hact.calls_eq
  rw [hact.world_eq]
  exact Session.calls_switchBack ⟨session, report.before.desktop⟩

/-- Switching to the new window takes one switch, and only once the window is known. -/
theorem IsAct.calls_switch {timeout : Option (Seconds τ)}
    (hact : report.IsAct number (.switch timeout) session) :
    (∃ failure,
        ((Session.attach timeout).perform ⟨session, report.before.desktop⟩).1 = .error failure) ∧
        (∀ call ∈ report.calls, call.isLook = true) ∨
      ∃ window looks,
        ((Session.attach timeout).perform ⟨session, report.before.desktop⟩).1 = .ok window ∧
          report.world.sessions[number]? = some { session with stage := .attached window } ∧
          report.calls = looks ++ [.switchTo window] ∧ ∀ call ∈ looks, call.isLook = true := by
  have hworld := hact.world_eq
  change report.world = report.before.acted number
    ((Session.switchToNewWindow timeout).perform ⟨session, report.before.desktop⟩).2 at hworld
  rcases hattach : (Session.attach timeout).perform ⟨session, report.before.desktop⟩ with
    ⟨failure | window, later⟩
  · left
    refine ⟨⟨failure, rfl⟩, ?_⟩
    have hlooked := (Session.onlyLooked_of_attach_eq_error _ hattach).2
    rw [Session.perform_switchToNewWindow_of_attach_eq_error _ hattach] at hworld
    apply allowed_of_mem_calls hact.calls_eq
    rw [hworld]
    exact hlooked
  · right
    obtain ⟨hsession, ⟨asked, hasked, hlooks⟩, -⟩ := Session.attach_eq_ok _ hattach
    rw [Session.perform_switchToNewWindow_of_attach_eq_ok _ hattach] at hworld
    refine ⟨window, asked.reverse, rfl, ?_, ?_, ?_⟩
    · rw [hworld, World.getElem?_acted_self hact.session_eq]
      exact congrArg some hsession
    · have hcalls : report.world.desktop.browser.calls =
          (.switchTo window :: asked) ++ report.before.desktop.browser.calls := by
        rw [hworld, List.cons_append, ← hasked]
        exact Browser.calls_switchTo window later.desktop.browser
      calc
        report.calls = (Call.switchTo window :: asked).reverse :=
          calls_eq_reverse _ hact.calls_eq hcalls
        _ = asked.reverse ++ [.switchTo window] := List.reverse_cons
    · intro call hcall
      exact hlooks call (List.mem_reverse.1 hcall)

/-- Closing a session concerns the browser only if the session has a window to close. -/
theorem IsAct.calls_close_of_not_attached (hact : report.IsAct number .close session)
    (hstage : ∀ window, session.stage ≠ .attached window) : report.calls = [] := by
  apply calls_eq_reverse [] hact.calls_eq
  have hperform := Session.perform_close_of_not_attached ⟨session, report.before.desktop⟩ hstage
  rw [hact.world_eq]
  change (Session.close.perform _).2.desktop.browser.calls = _
  rw [hperform]
  rfl

/-- Closing while attached makes the calls of the release, from the first to the one that fails. -/
theorem IsAct.calls_close_of_attached (hact : report.IsAct number .close session) {window : String}
    (hstage : session.stage = .attached window) :
    report.calls <+:
      Session.releaseScript window report.before.desktop.browser.catchUp.active session := by
  let scene : Scene τ := ⟨session, report.before.desktop⟩
  have hperform := Session.perform_close_of_attached scene hstage
  obtain ⟨asked, hscript, hasked⟩ :=
    Session.follows_release (scene.entered (.closed (some window))) window
  have hcalls : report.calls = asked.reverse.reverse := by
    apply calls_eq_reverse asked.reverse hact.calls_eq
    rw [hact.world_eq]
    change (Session.close.perform scene).2.desktop.browser.calls = _
    rw [hperform]
    exact hasked
  rw [hcalls, List.reverse_reverse]
  exact hscript

/-! ## Safety of single reports -/

/-- The session that acted, as it is afterwards. -/
def actor? (report : Report τ) : Option (Session τ) :=
  report.number.bind fun number ↦ report.world.sessions[number]?

theorem IsAct.actor?_eq {act : Act τ} (hact : report.IsAct number act session) :
    report.actor? = some (act.attempt.perform ⟨session, report.before.desktop⟩).2.session := by
  rw [actor?, hact.number_eq, hact.world_eq]
  exact World.getElem?_acted_self hact.session_eq

/-- A session that closes a window is being closed, and the window is the one it found. -/
theorem IsAct.attached_of_close_mem {act : Act τ} {handle : String}
    (hact : report.IsAct number act session) (hclose : .close handle ∈ report.calls) :
    act = .close ∧ session.stage = .attached handle := by
  cases act with
  | switch timeout =>
    rcases hact.calls_switch with ⟨-, hlooks⟩ | ⟨window, looks, -, -, hcalls, hlooks⟩
    · cases hlooks _ hclose
    · rw [hcalls, List.mem_append] at hclose
      rcases hclose with hclose | hclose
      · cases hlooks _ hclose
      · simp at hclose
  | back =>
    rw [hact.calls_back] at hclose
    simp at hclose
  | close =>
    by_cases hattached : ∃ window, session.stage = .attached window
    · obtain ⟨window, hstage⟩ := hattached
      cases Session.eq_of_close_mem (hact.calls_close_of_attached hstage) hclose
      exact ⟨rfl, hstage⟩
    · rw [hact.calls_close_of_not_attached (not_exists.1 hattached)] at hclose
      cases hclose

/-- A session only switches to the window it found, to the first active one, or back to the focus
that a close has just read. -/
theorem IsAct.cases_of_switchTo_mem {act : Act τ} {handle : String}
    (hact : report.IsAct number act session) (hswitch : .switchTo handle ∈ report.calls) :
    ∃ next, report.actor? = some next ∧
      (next.stage.window? = some handle ∨ handle = next.initialActive ∨
        act = .close ∧ .readActive handle ∈ report.calls) := by
  refine ⟨_, hact.actor?_eq, ?_⟩
  have hinitial := (act.leads ⟨session, report.before.desktop⟩).initialActive_eq
  rw [hinitial]
  cases act with
  | switch timeout =>
    left
    rcases hact.calls_switch with ⟨-, hlooks⟩ | ⟨window, looks, -, hnext, hcalls, hlooks⟩
    · cases hlooks _ hswitch
    · have hactor := hact.actor?_eq
      rw [actor?, hact.number_eq, Option.bind_some, hnext] at hactor
      rw [← Option.some.inj hactor]
      rw [hcalls, List.mem_append] at hswitch
      rcases hswitch with hswitch | hswitch
      · cases hlooks _ hswitch
      · simp only [List.mem_singleton, Call.switchTo.injEq] at hswitch
        rw [hswitch]
        rfl
  | back =>
    right; left
    rw [hact.calls_back] at hswitch
    simpa using hswitch
  | close =>
    by_cases hattached : ∃ window, session.stage = .attached window
    · obtain ⟨window, hstage⟩ := hattached
      have hcalls := hact.calls_close_of_attached hstage
      rcases Session.eq_of_switchTo_mem hcalls hswitch with rfl | hactive | hread
      · left
        change (Session.close.perform _).2.session.stage.window? = _
        rw [Session.session_close]
        change session.stage.window? = _
        rw [hstage]
        rfl
      · exact .inr (.inl hactive)
      · exact .inr (.inr ⟨rfl, hread⟩)
    · rw [hact.calls_close_of_not_attached (not_exists.1 hattached)] at hswitch
      cases hswitch

/-- What a report may tell of the calls of a session: what is closed is the window of the session
and was not there at its start; what is switched to is that window, the one active at the start,
or, on closing, the one whose handle has just been read; without a window nothing is done to close
it; and without finding one nothing is switched to. -/
structure IsSafe (report : Report τ) : Prop where
  closes : ∀ handle, .close handle ∈ report.calls →
    ∃ session, report.actor? = some session ∧ session.stage.window? = some handle ∧
      handle ∉ session.initialWindows
  switches : ∀ handle, .switchTo handle ∈ report.calls →
    ∃ session, report.actor? = some session ∧
      (session.stage.window? = some handle ∨ handle = session.initialActive ∨
        report.step.act? = some .close ∧ .readActive handle ∈ report.calls)
  quiet_close : ∀ number session, report.Tells number .close session →
    (∀ window, session.stage ≠ .attached window) → report.calls = []
  no_switch : ∀ number timeout session failure, report.Tells number (.switch timeout) session →
    ((Session.attach timeout).perform ⟨session, report.before.desktop⟩).1 = .error failure →
      ∀ handle, .switchTo handle ∉ report.calls
  no_switch_closed : ∀ number timeout session, report.Tells number (.switch timeout) session →
    session.stage.isClosed = true → ∀ handle, .switchTo handle ∉ report.calls

/-- Every step of a run is safe, given that the world before it is sound. -/
theorem Arises.isSafe (harises : report.Arises) (hnamed : report.before.IsNamed)
    (hsound : report.before.IsSound) : report.IsSafe where
  closes handle hclose := by
    rcases harises.isAct_or_isOther hnamed with ⟨number, act, session, hact⟩ | hother
    · obtain ⟨rfl, hstage⟩ := hact.attached_of_close_mem hclose
      refine ⟨_, hact.actor?_eq, ?_⟩
      change (Session.close.perform _).2.session.stage.window? = _ ∧
        _ ∉ (Session.close.perform _).2.session.initialWindows
      rw [Session.session_close]
      have hwindow : session.stage.window? = some handle := by rw [hstage]; rfl
      have hsession := hsound session (List.mem_of_getElem? hact.session_eq)
      exact ⟨hwindow, (hsession.window?_notMem handle hwindow).1⟩
    · cases hother.isCommand_eq_false _ hclose
  switches handle hswitch := by
    rcases harises.isAct_or_isOther hnamed with ⟨number, act, session, hact⟩ | hother
    · obtain ⟨next, hnext, hcases⟩ := hact.cases_of_switchTo_mem hswitch
      refine ⟨next, hnext, ?_⟩
      rcases hcases with hwindow | hactive | ⟨rfl, hread⟩
      · exact .inl hwindow
      · exact .inr (.inl hactive)
      · exact .inr (.inr ⟨hact.act_eq, hread⟩)
    · cases hother.isCommand_eq_false _ hswitch
  quiet_close number session htells hstage :=
    (harises.isAct_of_tells hnamed htells).calls_close_of_not_attached hstage
  no_switch number timeout session failure htells hfails handle hswitch := by
    rcases (harises.isAct_of_tells hnamed htells).calls_switch with ⟨-, hlooks⟩ | ⟨_, _, hok, -⟩
    · cases hlooks _ hswitch
    · rw [hfails] at hok
      cases hok
  no_switch_closed number timeout session htells hclosed handle hswitch := by
    rw [((harises.isAct_of_tells hnamed htells).refuses hclosed).2] at hswitch
    cases hswitch

end Report

/-! ## Closing once -/

/-- How many windows the session with a number may still close. -/
def World.closesLeft (number : Nat) (world : World τ) : Nat :=
  if (world.sessions[number]?.map fun session ↦ session.stage.isClosed) = some true then 0 else 1

/-- A session has one close to give at most. -/
theorem World.closesLeft_le_one (number : Nat) (world : World τ) : world.closesLeft number ≤ 1 := by
  unfold closesLeft
  split <;> simp

theorem World.closesLeft_of_isClosed {number : Nat} {world : World τ} {session : Session τ}
    (hsession : world.sessions[number]? = some session) (hclosed : session.stage.isClosed = true) :
    world.closesLeft number = 0 := by
  simp [closesLeft, hsession, hclosed]

/-- What a session has given does not come back. -/
theorem World.Leads.closesLeft_le {earlier later : World τ} (hleads : earlier.Leads later)
    (number : Nat) : later.closesLeft number ≤ earlier.closesLeft number := by
  by_cases hclosed : ∃ session, earlier.sessions[number]? = some session ∧
      session.stage.isClosed = true
  · obtain ⟨session, hsession, hclosed⟩ := hclosed
    obtain ⟨next, hnext, hsessionLeads⟩ := hleads number session hsession
    have hnextClosed := Stage.isClosed_of_becomes hsessionLeads.stage_becomes hclosed
    rw [closesLeft_of_isClosed hnext hnextClosed]
    exact Nat.zero_le _
  · refine (later.closesLeft_le_one number).trans (Nat.le_of_eq ?_)
    unfold closesLeft
    rw [if_neg]
    simpa using hclosed

section

variable [TimeScale τ]

/-- Every window that a report tells a session to have closed is one that it may not close any
more. -/
theorem Report.Arises.countP_isClose_le {report : Report τ} {number : Nat}
    (harises : report.Arises) (hnamed : report.before.IsNamed)
    (hnumber : report.number = some number) :
    report.calls.countP Call.isClose + report.world.closesLeft number ≤
      report.before.closesLeft number := by
  obtain ⟨act, session, hact⟩ := harises.exists_isAct hnamed hnumber
  by_cases hcloses : ∃ handle, .close handle ∈ report.calls
  · -- The session ends here, so that it pays with the one window that it might have closed later.
    obtain ⟨handle, hclose⟩ := hcloses
    obtain ⟨rfl, hstage⟩ := hact.attached_of_close_mem hclose
    obtain ⟨next, hnext, hclosed⟩ := hact.isClosed
    have hcount := Session.countP_isClose_le (hact.calls_close_of_attached hstage)
    have hleft : report.before.closesLeft number = 1 := by
      simp [World.closesLeft, hact.session_eq, hstage, Stage.isClosed]
    rw [World.closesLeft_of_isClosed hnext hclosed, hleft]
    exact hcount
  · have hcount : report.calls.countP Call.isClose = 0 := by
      rw [List.countP_eq_zero]
      intro call hcall hclose
      cases call with
      | close handle => exact hcloses ⟨handle, hcall⟩
      | _ => cases hclose
    rw [hcount, Nat.zero_add]
    exact (harises.leads hnamed).closesLeft_le number

/-- A session closes no more windows in a run than it may close when the run starts. -/
theorem Run.countP_isClose_le {first last : World τ} {reports : List (Report τ)}
    (hrun : Run first reports last) (hnamed : first.IsNamed) (number : Nat) :
    ((reports.filter fun report ↦ report.number = some number).flatMap Report.calls).countP
        Call.isClose ≤ first.closesLeft number := by
  induction hrun with
  | nil => simp
  | @cons report reports last harises _ ih =>
    have hrest := ih (harises.isNamed_world hnamed).1
    by_cases hnumber : report.number = some number
    · have hreport := harises.countP_isClose_le hnamed hnumber
      rw [List.filter_cons_of_pos (by simpa using hnumber), List.flatMap_cons, List.countP_append]
      calc
        _ ≤ report.calls.countP Call.isClose + report.world.closesLeft number :=
          Nat.add_le_add_left hrest _
        _ ≤ report.before.closesLeft number := hreport
    · rw [List.filter_cons_of_neg (by simpa using hnumber)]
      exact hrest.trans ((harises.leads hnamed).closesLeft_le number)

/-- What a sequence of reports tells of the calls of all sessions: every report is safe, and no
session closes more than one window in all. -/
structure SafeConduct (reports : List (Report τ)) : Prop where
  isSafe : ∀ report ∈ reports, report.IsSafe
  countP_isClose_le : ∀ number,
    ((reports.filter fun report ↦ report.number = some number).flatMap Report.calls).countP
      Call.isClose ≤ 1

/-- Every script is safe, from whatever state of the browser it starts, whatever happens to the
windows and whichever calls fail. -/
theorem safeConduct_runAll (steps : List (Step τ)) (desktop : Desktop τ) :
    SafeConduct (Step.runAll steps ⟨desktop, [], []⟩) := by
  have hnamed : World.IsNamed (⟨desktop, [], []⟩ : World τ) := World.isNamed_of_names_eq_nil rfl
  have hsound : World.IsSound (⟨desktop, [], []⟩ : World τ) := World.isSound_of_sessions_eq_nil rfl
  obtain ⟨last, hrun⟩ := Step.runAll_isRun steps hnamed
  refine ⟨fun report hreport ↦ ?_, fun number ↦ ?_⟩
  · obtain ⟨harises, hbefore⟩ := hrun.arises_of_mem hnamed report hreport
    exact harises.isSafe hbefore (hrun.isSound_of_mem hnamed hsound report hreport).1
  · exact (hrun.countP_isClose_le hnamed number).trans (World.closesLeft_le_one _ _)

end

end BrowserControl
