import BrowserControl.Proofs.Window.Faultless
import BrowserControl.Proofs.Window.Runs
import Mathlib.Data.List.Nodup
import Mathlib.Tactic.FinCases
import Mathlib.Tactic.IntervalCases

/-!
# Closing Sessions in Any Order

Several sessions may be in force on one browser, and several may have found the same window.  If no
call has a fault, they can be closed in any order and again and again: as long as every session
that holds a window has started on one that is open and that no session holds, no close fails, the
focus is never left on a window that is gone, and in the end exactly the windows that were held are
gone.

What makes this work is kept by every single close (`World.IsReleasable`): the focus is on an open
window, and the windows that sessions give the focus back to are not among those that sessions
close.
-/

namespace BrowserControl

open Attempt

variable {τ : Type}

/-- The window that a session has found and not yet let go of. -/
def Stage.held? : Stage → Option String
  | attached window => some window
  | _ => none

theorem Stage.held?_eq_some_iff {stage : Stage} {window : String} :
    stage.held? = some window ↔ stage = .attached window := by
  cases stage <;> simp [held?]

namespace World

def heldWindows (world : World τ) : List String :=
  world.sessions.filterMap fun session ↦ session.stage.held?

def heldBy (names : List String) (world : World τ) : List String :=
  names.filterMap fun name ↦ (world.session? name).bind fun session ↦ session.stage.held?

/-- No call has a fault and nothing is pending; every window is there once, and one of them is
active; and every session that holds a window has started on one that is open and that no session
holds. -/
structure IsReleasable (world : World τ) : Prop where
  faults_eq : world.desktop.browser.faults = .quiet
  pending_eq : world.desktop.browser.pending = []
  nodup : world.desktop.browser.windows.Nodup
  active_mem : world.desktop.browser.active ∈ world.desktop.browser.windows
  initialActive_mem : ∀ session ∈ world.sessions, ∀ window, session.stage = .attached window →
    session.initialActive ∈ world.desktop.browser.windows ∧
      session.initialActive ∉ world.heldWindows

/-- A window is held as long as a session is attached to it. -/
theorem mem_heldWindows_iff {window : String} {world : World τ} :
    window ∈ world.heldWindows ↔
      ∃ session ∈ world.sessions, session.stage = .attached window := by
  simp [heldWindows, Stage.held?_eq_some_iff]

theorem mem_heldBy_iff {names : List String} {window : String} {world : World τ} :
    window ∈ world.heldBy names ↔
      ∃ name ∈ names, ∃ session, world.session? name = some session ∧
        session.stage = .attached window := by
  simp [heldBy, Option.bind_eq_some_iff, Stage.held?_eq_some_iff]

/-- The world after the session with a number has been closed, as far as its sessions go. -/
def ended (number : Nat) (session : Session τ) (world : World τ) : List (Session τ) :=
  world.sessions.set number { session with stage := .closed session.stage.window? }

end World

/-! ## A single close -/

namespace Session

variable {windows : List String} {window active initialActive : String}

/-- Releasing a window while the focus is on an open window and the window to give the focus back
to stays open does not fail, takes the window away, and leaves the focus on an open window. -/
theorem release_of_mem (hdistinct : windows.Nodup) (hactive : active ∈ windows)
    (hinitial : initialActive ∈ windows) (hother : initialActive ≠ window) :
    releaseOutcome window initialActive windows active = .ok () ∧
      releaseWindows window windows active = windows.filter (· != window) ∧
      releaseActive window initialActive windows active ∈ windows.filter (· != window) := by
  have hstays : initialActive ∈ windows.filter (· != window) := by
    simpa using ⟨hinitial, hother⟩
  have hfilter := hdistinct.erase_eq_filter window
  refine ⟨?_, ?_, ?_⟩
  · rw [releaseOutcome, hfilter]
    simp [hactive, hinitial, hother]
  · rw [releaseWindows, if_pos hactive, hfilter]
  · rw [releaseActive, hfilter]
    by_cases hsame : active = window
    · rw [if_pos ⟨hsame ▸ hactive, hsame, hstays⟩]
      exact hstays
    · rw [if_neg fun hall ↦ hsame hall.2.1]
      simpa using ⟨hactive, hsame⟩

end Session

namespace World

variable {world : World τ} {number : Nat} {session : Session τ}

/-- A world stays releasable while windows go that sessions hold, none of them active afterwards,
and while sessions let go of windows. -/
theorem IsReleasable.of_fewer {later : World τ} (hworld : world.IsReleasable)
    (hshows : later.desktop.browser.Shows
      (world.desktop.browser.windows.filter (some · != session.stage.held?))
      later.desktop.browser.active [])
    (hactive : later.desktop.browser.active ∈
      world.desktop.browser.windows.filter (some · != session.stage.held?))
    (hsession : session ∈ world.sessions) (hsessions : later.sessions = world.ended number session) :
    later.IsReleasable := by
  have hheld : ∀ known ∈ later.sessions, ∀ window, known.stage = .attached window →
      known ∈ world.sessions := by
    intro known hknown window hstage
    rw [hsessions] at hknown
    rcases List.mem_or_eq_of_mem_set hknown with hknown | rfl
    · exact hknown
    · cases hstage
  refine ⟨hshows.faults_eq, hshows.pending_eq, ?_, ?_, ?_⟩
  · rw [hshows.windows_eq]
    exact hworld.nodup.filter _
  · rw [hshows.windows_eq]
    exact hactive
  · intro known hknown window hstage
    have hmem := hheld known hknown window hstage
    obtain ⟨hinitial, hfree⟩ := hworld.initialActive_mem known hmem window hstage
    rw [mem_heldWindows_iff] at hfree ⊢
    constructor
    · rw [hshows.windows_eq, List.mem_filter]
      refine ⟨hinitial, ?_⟩
      rw [bne_iff_ne, ne_comm, Ne, Stage.held?_eq_some_iff]
      exact fun hattached ↦ hfree ⟨session, hsession, hattached⟩
    · rintro ⟨other, hother, hattached⟩
      exact hfree ⟨other, hheld other hother _ hattached, hattached⟩

variable [TimeScale τ]

/-- Closing a session does not fail, takes away the window that it holds, if any, and leaves the
focus on an open window. -/
theorem IsReleasable.comesTo_close (hworld : world.IsReleasable) (hsession : session ∈ world.sessions) :
    ∃ active ∈ world.desktop.browser.windows.filter (some · != session.stage.held?),
      Scene.ComesTo (.ok ()) (world.desktop.browser.windows.filter (some · != session.stage.held?))
        active [] Session.close ⟨session, world.desktop⟩ := by
  have hshows : world.desktop.browser.Shows world.desktop.browser.windows
      world.desktop.browser.active [] := ⟨rfl, rfl, hworld.pending_eq, hworld.faults_eq⟩
  by_cases hattached : ∃ window, session.stage = .attached window
  · obtain ⟨window, hstage⟩ := hattached
    obtain ⟨hinitial, hfree⟩ := hworld.initialActive_mem session hsession window hstage
    have hother : session.initialActive ≠ window := by
      rintro rfl
      exact hfree (mem_heldWindows_iff.2 ⟨session, hsession, hstage⟩)
    obtain ⟨houtcome, hwindows, hactive⟩ :=
      Session.release_of_mem hworld.nodup hworld.active_mem hinitial hother
    have hclose := Session.comesTo_close ⟨session, world.desktop⟩ hstage hshows.catchUp
    rw [houtcome, hwindows] at hclose
    have hheld : session.stage.held? = some window := Stage.held?_eq_some_iff.2 hstage
    rw [hheld]
    exact ⟨_, hactive, hclose⟩
  · have hstage := not_exists.1 hattached
    have hheld : session.stage.held? = none := by
      cases hcases : session.stage with
      | attached window => exact absurd hcases (hstage window)
      | _ => rfl
    have hall : world.desktop.browser.windows.filter (some · != session.stage.held?) =
        world.desktop.browser.windows := by
      simp [hheld]
    have hperform := Session.perform_close_of_not_attached ⟨session, world.desktop⟩ hstage
    rw [hall]
    exact ⟨_, hworld.active_mem, congrArg Prod.fst hperform, by rw [hperform]; exact hshows⟩

/-- After a close, any other session can be closed likewise. -/
theorem IsReleasable.perform_close (hworld : world.IsReleasable)
    (hsession : world.sessions[number]? = some session) :
    ∃ later : World τ, (onNumber number Session.close).perform world = (.ok (), later) ∧
      later.IsReleasable ∧ later.names = world.names ∧
      later.sessions = world.ended number session ∧
      later.desktop.browser.windows =
        world.desktop.browser.windows.filter (some · != session.stage.held?) := by
  have hmem := List.mem_of_getElem? hsession
  obtain ⟨active, hactive, houtcome, hshows⟩ := hworld.comesTo_close hmem
  have hclosed := Session.session_close (⟨session, world.desktop⟩ : Scene τ)
  have hperform := perform_onNumber Session.close hsession
  generalize Session.close.perform ⟨session, world.desktop⟩ = result at houtcome hshows hclosed hperform
  obtain ⟨outcome, scene⟩ := result
  subst houtcome
  have hsessions : (world.acted number scene).sessions = world.ended number session :=
    congrArg (world.sessions.set number) hclosed
  refine ⟨world.acted number scene, hperform, ?_, rfl, hsessions, hshows.windows_eq⟩
  refine hworld.of_fewer hshows.self ?_ hmem hsessions
  exact hshows.active_eq ▸ hactive

end World

/-! ## Closing one after the other -/

namespace World

variable {world later : World τ} {number : Nat} {session : Session τ} {name : String}

/-- What the names stand for when one session has been closed. -/
theorem session?_eq_of_ended (hnames : later.names = world.names)
    (hsessions : later.sessions = world.ended number session)
    (hsession : world.sessions[number]? = some session) (other : String) :
    later.session? other =
      if world.number? other = some number then
        some { session with stage := .closed session.stage.window? }
      else world.session? other := by
  have hnumber : later.number? other = world.number? other := by rw [number?, number?, hnames]
  unfold session?
  rw [hnumber, hsessions, ended]
  cases hother : world.number? other with
  | none => rfl
  | some found =>
    have hlt := (List.getElem?_eq_some_iff.1 hsession).1
    by_cases hsame : found = number
    · subst hsame
      simp [hlt]
    · simp [hsame, Ne.symm hsame]

/-- Which windows some sessions hold that are to be closed, the first of them before the others. -/
theorem mem_heldBy_cons_iff (hnames : later.names = world.names)
    (hsessions : later.sessions = world.ended number session)
    (hnumber : world.number? name = some number)
    (hsession : world.sessions[number]? = some session) (rest : List String) (window : String) :
    window ∈ world.heldBy (name :: rest) ↔
      session.stage = .attached window ∨ window ∈ later.heldBy rest := by
  have hnamed : world.session? name = some session := by
    rw [session?, hnumber, Option.bind_some, hsession]
  rw [mem_heldBy_iff, mem_heldBy_iff]
  simp only [session?_eq_of_ended hnames hsessions hsession]
  constructor
  · rintro ⟨other, hother, known, hknown, hstage⟩
    by_cases hsame : world.number? other = some number
    · have heq : world.session? other = some session := by
        rw [session?, hsame, Option.bind_some, hsession]
      cases heq.symm.trans hknown
      exact .inl hstage
    · rcases List.mem_cons.1 hother with rfl | hother
      · exact absurd hnumber hsame
      · exact .inr ⟨other, hother, known, by rw [if_neg hsame, hknown], hstage⟩
  · rintro (hstage | ⟨other, hother, known, hknown, hstage⟩)
    · exact ⟨name, List.mem_cons_self, session, hnamed, hstage⟩
    · by_cases hsame : world.number? other = some number
      · rw [if_pos hsame] at hknown
        cases hknown
        cases hstage
      · rw [if_neg hsame] at hknown
        exact ⟨other, List.mem_cons_of_mem _ hother, known, hknown, hstage⟩

end World

namespace Step

variable [TimeScale τ] {world : World τ}

/-- The steps that close the sessions with some names, one after the other. -/
def closings (caught : Bool) (names : List String) : List (Step τ) :=
  names.map fun name ↦ .single name caught .close

/-- Running steps of which the first does not fail. -/
theorem runBody_single_cons {name : String} (caught : Bool) {command : Command τ}
    {later : World τ} (hperform : (command.run name).perform world = (.ok (), later))
    (rest : List (Step τ)) :
    ∃ report : Report τ, report.outcome = .ok () ∧ report.world = later ∧
      runBody (.single name caught command :: rest) world =
        (report :: (runBody rest later).1, (runBody rest later).2) := by
  refine ⟨observe (.single name caught command) (command.number? name world) (command.run name)
    world, ?_, ?_, ?_⟩
  · simp only [observe, hperform]
  · simp only [observe, hperform]
  · rw [runBody, run]
    simp only [observe, hperform, Report.raised]
    rfl

/-- Closing sessions one after the other does not fail, takes away the windows that they hold, and
leaves the focus on an open window all the time. -/
theorem exists_runBody_closings (hworld : world.IsReleasable) (caught : Bool) {names : List String}
    (hknown : ∀ name ∈ names, ∃ session, world.session? name = some session) :
    ∃ reports last, runBody (closings caught names) world = (reports, last, none) ∧
      (∀ report ∈ reports, report.outcome = .ok () ∧
        report.world.desktop.browser.active ∈ report.world.desktop.browser.windows) ∧
      last.desktop.browser.windows =
        world.desktop.browser.windows.filter (· ∉ world.heldBy names) := by
  induction names generalizing world with
  | nil => exact ⟨[], world, rfl, by simp, by simp [World.heldBy]⟩
  | cons name rest ih =>
    obtain ⟨session, hsession⟩ := hknown name List.mem_cons_self
    obtain ⟨number, hnumber, hsession⟩ := Option.bind_eq_some_iff.1 hsession
    obtain ⟨later, hclose, hlater, hnames, hsessions, hwindows⟩ := hworld.perform_close hsession
    have hperform : (Command.run name .close).perform world = (.ok (), later) := by
      rw [Command.run, World.perform_onSession _ hnumber hsession,
        ← World.perform_onNumber _ hsession, hclose]
    obtain ⟨report, houtcome, hreport, hrun⟩ :=
      runBody_single_cons caught hperform (closings caught rest)
    have hstillKnown : ∀ other ∈ rest, ∃ known, later.session? other = some known := by
      intro other hother
      rw [World.session?_eq_of_ended hnames hsessions hsession]
      split
      · exact ⟨_, rfl⟩
      · exact hknown other (List.mem_cons_of_mem _ hother)
    obtain ⟨reports, last, hrest, hreports, hlast⟩ := ih hlater hstillKnown
    refine ⟨report :: reports, last, ?_, ?_, ?_⟩
    · rw [closings, List.map_cons]
      refine hrun.trans ?_
      rw [hrest]
    · rintro other hother
      rcases List.mem_cons.1 hother with rfl | hother
      · rw [hreport]
        exact ⟨houtcome, hlater.active_mem⟩
      · exact hreports other hother
    · rw [hlast, hwindows, List.filter_filter]
      apply List.filter_congr
      intro window _
      rw [Bool.eq_iff_iff, decide_eq_true_iff,
        World.mem_heldBy_cons_iff hnames hsessions hnumber hsession, Bool.and_eq_true,
        decide_eq_true_iff, bne_iff_ne, ne_comm, Ne, Stage.held?_eq_some_iff, not_or, and_comm]

/-- If every session that holds a window is closed at least once, in whatever order and however
often, no close fails, the focus is on an open window after each of them, and in the end exactly
the windows that were held are gone. -/
theorem runBody_closings_eq (hworld : world.IsReleasable) (caught : Bool) {names : List String}
    (hknown : ∀ name ∈ names, ∃ session, world.session? name = some session)
    (hall : ∀ (number : Nat) (session : Session τ) (window : String),
      world.sessions[number]? = some session → session.stage = .attached window →
        ∃ name ∈ names, world.number? name = some number) :
    ∃ reports last, runBody (closings caught names) world = (reports, last, none) ∧
      (∀ report ∈ reports, report.outcome = .ok () ∧
        report.world.desktop.browser.active ∈ report.world.desktop.browser.windows) ∧
      last.desktop.browser.windows =
        world.desktop.browser.windows.filter (· ∉ world.heldWindows) := by
  obtain ⟨reports, last, hrun, hreports, hlast⟩ := exists_runBody_closings hworld caught hknown
  refine ⟨reports, last, hrun, hreports, hlast.trans ?_⟩
  have hheld (window : String) : window ∈ world.heldBy names ↔ window ∈ world.heldWindows := by
    rw [World.mem_heldBy_iff, World.mem_heldWindows_iff]
    constructor
    · rintro ⟨name, -, session, hsession, hstage⟩
      obtain ⟨number, -, hsession⟩ := Option.bind_eq_some_iff.1 hsession
      exact ⟨session, List.mem_of_getElem? hsession, hstage⟩
    · rintro ⟨session, hsession, hstage⟩
      obtain ⟨number, hsession⟩ := List.mem_iff_getElem?.1 hsession
      obtain ⟨name, hname, hnumber⟩ := hall number session window hsession hstage
      exact ⟨name, hname, session, by rw [World.session?, hnumber, Option.bind_some, hsession],
        hstage⟩
  simp only [hheld]

end Step

/-- Two sessions find the same window, and two more find one each, the last of which is closed by
its user. -/
def sharing : List (Step Float) :=
  [.single "a" false (.start none),
    .single "b" false (.start none),
    .single "a" false (.page ⟨["w1"], [], none⟩),
    .single "a" false (.switch (some (.whole 0))),
    .single "b" false (.switch (some (.whole 0))),
    .single "a" false .back,
    .single "c" false (.start none),
    .single "c" false (.page ⟨["w2"], [], none⟩),
    .single "c" false (.switch (some (.whole 0))),
    .single "c" false .back,
    .single "d" false (.start none),
    .single "d" false (.page ⟨["w3"], [], none⟩),
    .single "d" false (.switch (some (.whole 0))),
    .single "d" false (.page ⟨[], ["w3"], some "w2"⟩)]

/-- The world in which four sessions are in force. -/
def shared : World Float :=
  (Step.runBody sharing (World.fresh ["w0"] "w0")).2.1

theorem isReleasable_shared : shared.IsReleasable := by
  have hwindows : shared.desktop.browser.windows = ["w0", "w1", "w2"] := rfl
  have hactive : shared.desktop.browser.active = "w2" := rfl
  have hheld : shared.heldWindows = ["w1", "w1", "w2", "w3"] := rfl
  have hinitial : shared.sessions.map Session.initialActive = ["w0", "w0", "w0", "w0"] := rfl
  refine ⟨rfl, rfl, by simp [hwindows], by simp [hwindows, hactive], ?_⟩
  intro session hsession window _
  have hmem := List.mem_map_of_mem (f := Session.initialActive) hsession
  rw [hinitial] at hmem
  have hfirst : session.initialActive = "w0" := by simpa using hmem
  simp [hwindows, hheld, hfirst]

/-- The window that was there at first is left over. -/
theorem runBody_closings_shared :
    ∃ reports last,
      Step.runBody (Step.closings false ["c", "a", "d", "b", "a"]) shared = (reports, last, none) ∧
        (∀ report ∈ reports, report.outcome = .ok () ∧
          report.world.desktop.browser.active ∈ report.world.desktop.browser.windows) ∧
        last.desktop.browser.windows = ["w0"] := by
  have hheld : shared.heldWindows = ["w1", "w1", "w2", "w3"] := rfl
  have hwindows : shared.desktop.browser.windows = ["w0", "w1", "w2"] := rfl
  have hknown : ∀ name ∈ ["c", "a", "d", "b", "a"],
      ∃ session, shared.session? name = some session := by
    intro name hname
    fin_cases hname <;> exact ⟨_, rfl⟩
  have hall : ∀ (number : Nat) (session : Session Float) (window : String),
      shared.sessions[number]? = some session → session.stage = .attached window →
        ∃ name ∈ ["c", "a", "d", "b", "a"], shared.number? name = some number := by
    intro number session window hsession _
    have hlt : number < 4 := (List.getElem?_eq_some_iff.1 hsession).1
    interval_cases number
    · exact ⟨"a", by simp, rfl⟩
    · exact ⟨"b", by simp, rfl⟩
    · exact ⟨"c", by simp, rfl⟩
    · exact ⟨"d", by simp, rfl⟩
  obtain ⟨reports, last, hrun, hreports, hlast⟩ :=
    Step.runBody_closings_eq isReleasable_shared false hknown hall
  refine ⟨reports, last, hrun, hreports, ?_⟩
  simp [hlast, hwindows, hheld]

end BrowserControl
