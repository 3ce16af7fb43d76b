import BrowserControl.Proofs.Window.Faultless
import BrowserControl.Proofs.Window.Runs

/-!
# Nested Scopes

A block starts a session, enters its scope, lets a window open, switches to it, and goes on to use
the session; blocks may be nested to any depth, and the failure of a use leaves the scopes around
it one by one until it is caught.  If no call has a fault, a block gives the browser back as it
found it, with the same windows in the same order and the same one active, and lets a failure
through as it is.

The proof goes by the structure of blocks.  Inside a block, uses keep the windows and leave the
focus on the window of the session or on the one active at its start (`Settles`), which is all
that leaving the scope needs to restore both (`Restores`); and whatever restores both can be used
in the block around it.
-/

namespace BrowserControl

open Attempt

variable {τ : Type}

/-! ## Blocks -/

/-- What is done with a session once it has found its window. -/
inductive Use (τ : Type) where
  | back
  | switch (timeout : Option (Seconds τ))
  | raise (failure : Failure)
  | block (name opened : String) (timeout : Option (Seconds τ)) (caught : Bool)
    (uses : List (Use τ))

/-- The steps of a block: a session starts, and in its scope a window opens and is switched to.
-/
def blockSteps (name opened : String) (timeout : Option (Seconds τ)) (caught : Bool)
    (body : List (Step τ)) : List (Step τ) :=
  [.single name false (.start none),
    .scope name caught
      (.single name false (.page ⟨[opened], [], none⟩) ::
        .single name false (.switch timeout) :: body)]

namespace Use

mutual

def steps (inner : String) : Use τ → List (Step τ)
  | back => [.single inner false .back]
  | switch timeout => [.single inner false (.switch timeout)]
  | raise failure => [.single inner false (.fail failure)]
  | block name opened timeout caught uses =>
    blockSteps name opened timeout caught (allSteps name uses)

def allSteps (inner : String) : List (Use τ) → List (Step τ)
  | [] => []
  | use :: rest => use.steps inner ++ allSteps inner rest

end

mutual

def raised : Use τ → Option Failure
  | back => none
  | switch _ => none
  | raise failure => some failure
  | block _ _ _ caught uses => if caught then none else firstRaised uses

/-- The failure that ends some uses. -/
def firstRaised : List (Use τ) → Option Failure
  | [] => none
  | use :: rest => use.raised.or (firstRaised rest)

end

mutual

/-- In every block of a use, the name of the session is none of those around it and the window
that opens is a new one. -/
def Fits [TimeScale τ] (enclosing windows : List String) : Use τ → Prop
  | block name opened timeout _ uses =>
    name ∉ enclosing ∧ opened ∉ windows ∧ IsOnScale timeout ∧
      AllFit (name :: enclosing) (windows ++ [opened]) uses
  | _ => True

def AllFit [TimeScale τ] (enclosing windows : List String) : List (Use τ) → Prop
  | [] => True
  | use :: rest => use.Fits enclosing windows ∧ AllFit enclosing windows rest

end

end Use

/-! ## Running steps -/

variable [TimeScale τ]

/-- What steps come to: the world they leave behind, and the failure that ends them. -/
def Step.Comes (steps : List (Step τ)) (world later : World τ) (raised : Option Failure) : Prop :=
  (runBody steps world).2 = (later, raised)

namespace Step

variable {first second : List (Step τ)} {world middle later : World τ} {raised : Option Failure}

theorem comes_nil (world : World τ) : Comes [] world world none := by
  rw [Comes, runBody]

theorem comes_append (hfirst : Comes first world middle none)
    (hsecond : Comes second middle later raised) : Comes (first ++ second) world later raised := by
  induction first generalizing world with
  | nil =>
    rw [Comes, runBody] at hfirst
    cases hfirst
    exact hsecond
  | cons step rest ih =>
    rw [Comes, runBody] at hfirst
    rw [List.cons_append, Comes, runBody]
    generalize run step world = result at hfirst ⊢
    rcases result with ⟨reports, next, failure | _⟩
    · exact ih hfirst
    · cases hfirst

/-- Nothing is done after a failure. -/
theorem comes_append_of_eq_some {failure : Failure}
    (hfirst : Comes first world later (some failure)) (second : List (Step τ)) :
    Comes (first ++ second) world later (some failure) := by
  induction first generalizing world with
  | nil =>
    rw [Comes, runBody] at hfirst
    cases hfirst
  | cons step rest ih =>
    rw [Comes, runBody] at hfirst
    rw [List.cons_append, Comes, runBody]
    generalize run step world = result at hfirst ⊢
    rcases result with ⟨reports, next, failure | _⟩
    · exact ih hfirst
    · exact hfirst

theorem comes_of_run {step : Step τ} (hrun : (run step world).2 = (later, raised)) :
    Comes [step] world later raised := by
  rw [Comes, runBody]
  generalize run step world = result at hrun ⊢
  rcases result with ⟨reports, next, failure | _⟩
  · cases hrun
    simp [runBody]
  · exact hrun

theorem comes_single {name : String} {caught : Bool} {command : Command τ}
    (hperform : (command.run name).perform world = (.ok (), later)) :
    Comes [.single name caught command] world later none := by
  apply comes_of_run
  rw [run]
  simp only [observe, hperform, Report.raised]

theorem comes_fail (name : String) (failure : Failure) (world : World τ) :
    Comes [.single name false (.fail failure)] world world (some failure) := by
  apply comes_of_run
  rw [run]
  rfl

/-- A scope whose session can be closed passes on what ends its steps. -/
theorem comes_scope {name : String} {caught : Bool} {body : List (Step τ)} {number : Nat}
    (hnumber : world.number? name = some number) (hbody : Comes body world middle raised)
    (hclose : (World.onNumber number Session.close).perform middle = (.ok (), later)) :
    Comes [.scope name caught body] world later (if caught then none else raised) := by
  apply comes_of_run
  rw [run, hnumber]
  rw [Comes] at hbody
  generalize runBody body world = result at hbody ⊢
  obtain ⟨reports, inner, left⟩ := result
  cases hbody
  cases raised with
  | none => simp [observe, leave, hclose, Report.raised]
  | some failure => simp [observe, leave, perform_bind, hclose, Report.raised, Step.caught]

end Step

/-! ## What is kept -/

namespace World

omit [TimeScale τ]

/-- Names stand for the same sessions as before, and no session has changed; there may be new
ones. -/
structure Keeps (names : List String) (before after : World τ) : Prop where
  number?_eq : ∀ name ∈ names, after.number? name = before.number? name
  sessions_prefix : before.sessions <+: after.sessions

theorem Keeps.trans {names : List String} {first second third : World τ}
    (hfirst : first.Keeps names second) (hsecond : second.Keeps names third) :
    first.Keeps names third where
  number?_eq name hname := (hsecond.number?_eq name hname).trans (hfirst.number?_eq name hname)
  sessions_prefix := hfirst.sessions_prefix.trans hsecond.sessions_prefix

theorem Keeps.mono {names fewer : List String} {before after : World τ}
    (hkeeps : before.Keeps names after) (hfewer : fewer ⊆ names) : before.Keeps fewer after :=
  ⟨fun name hname ↦ hkeeps.number?_eq name (hfewer hname), hkeeps.sessions_prefix⟩

theorem Keeps.getElem?_eq {names : List String} {before after : World τ} {number : Nat}
    {session : Session τ} (hkeeps : before.Keeps names after)
    (hsession : before.sessions[number]? = some session) :
    after.sessions[number]? = some session := by
  obtain ⟨added, hadded⟩ := hkeeps.sessions_prefix
  have hlt := (List.getElem?_eq_some_iff.1 hsession).1
  rw [← hadded, List.getElem?_append_left hlt, hsession]

/-- What a session does to itself and the desktop keeps the other names. -/
theorem keeps_acted {number : Nat} {scene : Scene τ} {world : World τ} (names : List String)
    (hsession : world.sessions[number]? = some scene.session) :
    world.Keeps names (world.acted number scene) := by
  refine ⟨fun _ _ ↦ rfl, ?_⟩
  obtain ⟨hlt, hsame⟩ := List.getElem?_eq_some_iff.1 hsession
  rw [acted, ← hsame, List.set_getElem_self]

/-- Acts of sessions that are new change none of the others. -/
theorem Keeps.acted {names : List String} {before after : World τ} {number : Nat}
    (hkeeps : before.Keeps names after) (hnew : before.sessions.length ≤ number) (scene : Scene τ) :
    before.Keeps names (after.acted number scene) := by
  refine ⟨hkeeps.number?_eq, ?_⟩
  obtain ⟨added, hadded⟩ := hkeeps.sessions_prefix
  rw [World.acted, ← hadded, List.set_append_right _ _ hnew]
  exact List.prefix_append _ _

theorem number?_started_self (name : String) (session : Session τ) (desktop : Desktop τ)
    (world : World τ) :
    (world.started name session desktop).number? name = some world.sessions.length := by
  simp [number?, started]

/-- Taking a name from its session leaves the other names with theirs. -/
theorem number?_forgot {name other : String} (hother : other ≠ name) (world : World τ) :
    (world.forgot name).number? other = world.number? other := by
  unfold number? forgot
  induction world.names with
  | nil => rfl
  | cons entry rest ih =>
    obtain ⟨known, number⟩ := entry
    by_cases hknown : known = name
    · subst hknown
      have hlookup : (other == known) = false := beq_false_of_ne hother
      rw [List.filter_cons_of_neg (by simp), ih, List.lookup_cons, hlookup]
    · rw [List.filter_cons_of_pos (by simpa using hknown), List.lookup_cons, List.lookup_cons]
      cases other == known with
      | true => rfl
      | false => exact ih

/-- A new session takes no other name. -/
theorem keeps_started {name : String} {names : List String} (hname : name ∉ names)
    (session : Session τ) (desktop : Desktop τ) (world : World τ) :
    world.Keeps names (world.started name session desktop) := by
  refine ⟨fun other hother ↦ ?_, List.prefix_append _ _⟩
  have hne : other ≠ name := fun hsame ↦ hname (hsame ▸ hother)
  have hlookup : (other == name) = false := beq_false_of_ne hne
  rw [← number?_forgot hne world]
  simp only [number?, started, List.lookup_cons, hlookup]

/-- Inside a block, a name stands for a session that has found its window; both that window and
the one active at its start are there, and one of them is active. -/
structure Within (inner : String) (number : Nat) (session : Session τ) (window : String)
    (windows : List String) (world : World τ) : Prop where
  number?_eq : world.number? inner = some number
  session_eq : world.sessions[number]? = some session
  stage_eq : session.stage = .attached window
  initialActive_mem : session.initialActive ∈ windows
  window_mem : window ∈ windows
  active_eq : world.desktop.browser.active = session.initialActive ∨
    world.desktop.browser.active = window
  shows : world.desktop.browser.Shows windows world.desktop.browser.active []

end World

/-! ## Entering and leaving blocks -/

/-- Starting a session in a browser without faults gives its name to a new session, which
remembers the windows and the focus. -/
theorem World.perform_startSession_of_shows {name active : String} {windows : List String}
    {world : World τ} (hshows : world.desktop.browser.Shows windows active [])
    (hactive : active ∈ windows) :
    ∃ desktop, (World.startSession name none).perform world =
        (.ok (), world.started name
          ⟨Settings.standard, windows.eraseDups, active, .notAttached⟩ desktop) ∧
      desktop.browser.Shows windows active [] := by
  obtain ⟨desktop, hstart, hlater⟩ := Session.perform_start hshows hactive
  obtain ⟨given, hgiven, hperform⟩ := World.perform_startSession name none world
  refine ⟨desktop, ?_, hlater⟩
  rw [hperform, hgiven rfl]
  simp only [hstart]

/-- Once a window has opened, a session that has just started switches to it, and its block is
entered. -/
theorem World.exists_within [LawfulTimeScale τ] {name opened active : String}
    {timeout : Option (Seconds τ)} {windows : List String} {number : Nat} {world : World τ}
    (hnumber : world.number? name = some number)
    (hsession : world.sessions[number]? =
      some ⟨Settings.standard, windows.eraseDups, active, .notAttached⟩)
    (hshows : world.desktop.browser.Shows (windows ++ [opened]) active [])
    (hactive : active ∈ windows) (hopened : opened ∉ windows) (htimeout : IsOnScale timeout) :
    ∃ scene, (World.onSession name (Session.switchToNewWindow timeout)).perform world =
        (.ok (), world.acted number scene) ∧ scene.session.initialActive = active ∧
      (world.acted number scene).Within name number scene.session opened (windows ++ [opened]) := by
  let fresh : Session τ := ⟨Settings.standard, windows.eraseDups, active, .notAttached⟩
  have hwindow : opened ∈ windows ++ [opened] := by simp
  obtain ⟨found, hattach, hfound⟩ := Session.perform_attach ⟨fresh, world.desktop⟩ hshows rfl rfl
    htimeout (Browser.unknownHandles_append_singleton hopened)
  obtain ⟨houtcome, hlater⟩ := Session.comesTo_switchToNewWindow hattach hfound hwindow
  have hfoundSession := (Session.attach_eq_ok _ hattach).1
  have hlaterSession := congrArg (fun result ↦ result.2.session)
    (Session.perform_switchToNewWindow_of_attach_eq_ok _ hattach)
  have hstage : ((Session.switchToNewWindow timeout).perform ⟨fresh, world.desktop⟩).2.session =
      { fresh with stage := .attached opened } := hlaterSession.trans hfoundSession
  refine ⟨((Session.switchToNewWindow timeout).perform ⟨fresh, world.desktop⟩).2, ?_, ?_,
    hnumber, World.getElem?_acted_self hsession, ?_, ?_, hwindow, .inr hlater.active_eq,
    hlater.self⟩
  · rw [World.perform_onSession _ hnumber hsession]
    exact Prod.ext houtcome rfl
  · rw [hstage]
  · rw [hstage]
  · rw [hstage]
    exact List.mem_append_left _ hactive

/-- Closing the window that was opened last, with the focus on it or where it was at first, leaves
the windows that there were before and the focus where it was. -/
theorem Session.release_append_singleton {windows : List String}
    {opened initialActive active : String} (hopened : opened ∉ windows)
    (hinitial : initialActive ∈ windows) (hactive : active = initialActive ∨ active = opened) :
    releaseOutcome opened initialActive (windows ++ [opened]) active = .ok () ∧
      releaseWindows opened (windows ++ [opened]) active = windows ∧
      releaseActive opened initialActive (windows ++ [opened]) active = initialActive := by
  have hopen : active ∈ windows ++ [opened] := by
    rcases hactive with rfl | rfl
    · exact List.mem_append_left _ hinitial
    · simp
  have hleft : (windows ++ [opened]).erase opened = windows := by
    rw [List.erase_append_right _ hopened]
    simp
  refine ⟨?_, ?_, ?_⟩
  · simp [releaseOutcome, hopen, hleft, hinitial]
  · rw [releaseWindows, if_pos hopen, hleft]
  · unfold releaseActive
    rw [hleft]
    rcases hactive with rfl | rfl
    · exact ite_self _
    · simp [hinitial]

/-- Leaving a block closes its window and gives the focus back, whichever of its two windows has
it. -/
theorem World.Within.perform_close {inner opened : String} {number : Nat} {session : Session τ}
    {windows : List String} {world : World τ}
    (hwithin : world.Within inner number session opened (windows ++ [opened]))
    (hopened : opened ∉ windows) (hinitial : session.initialActive ∈ windows) :
    ∃ scene, (World.onNumber number Session.close).perform world =
        (.ok (), world.acted number scene) ∧
      scene.desktop.browser.Shows windows session.initialActive [] := by
  obtain ⟨-, hsession, hstage, -, -, hactive, hshows⟩ := hwithin
  have hclose := Session.comesTo_close ⟨session, world.desktop⟩ hstage hshows.catchUp
  obtain ⟨houtcome, hwindows, hfocus⟩ :=
    Session.release_append_singleton hopened hinitial hactive
  rw [houtcome, hwindows, hfocus] at hclose
  refine ⟨_, ?_, hclose.shows⟩
  rw [World.perform_onNumber _ hsession]
  exact Prod.ext hclose.outcome_eq rfl

/-! ## Uses and blocks -/

namespace Step

/-- Whatever happens around it, steps inside a block end as they should and stay inside the block.
-/
def Settles (names : List String) (inner : String) (windows : List String)
    (steps : List (Step τ)) (raised : Option Failure) : Prop :=
  ∀ number session window (world : World τ), world.Within inner number session window windows →
    ∃ later, Comes steps world later raised ∧
      later.Within inner number session window windows ∧ world.Keeps names later

/-- Whatever happens around it, steps end as they should and give the browser back as they found
it. -/
def Restores (names windows : List String) (steps : List (Step τ)) (raised : Option Failure) :
    Prop :=
  ∀ active (world : World τ), active ∈ windows →
    world.desktop.browser.Shows windows active [] →
      ∃ later, Comes steps world later raised ∧
        later.desktop.browser.Shows windows active [] ∧ world.Keeps names later

section

variable {names windows : List String} {inner : String}

theorem settles_nil : Settles names inner windows ([] : List (Step τ)) none :=
  fun _ _ _ world hwithin ↦ ⟨world, comes_nil world, hwithin, fun _ _ ↦ rfl, List.prefix_rfl⟩

/-- Two bodies that settle do so one after the other, and the first failure comes out. -/
theorem Settles.append {first second : List (Step τ)} {raised raised' : Option Failure}
    (hfirst : Settles names inner windows first raised)
    (hsecond : Settles names inner windows second raised') :
    Settles names inner windows (first ++ second) (raised.or raised') := by
  intro number session window world hwithin
  obtain ⟨middle, hcomes, hmiddle, hkeeps⟩ := hfirst number session window world hwithin
  cases raised with
  | some failure => exact ⟨middle, comes_append_of_eq_some hcomes second, hmiddle, hkeeps⟩
  | none =>
    obtain ⟨later, hcomes', hlater, hkeeps'⟩ := hsecond number session window middle hmiddle
    exact ⟨later, comes_append hcomes hcomes', hlater, hkeeps.trans hkeeps'⟩

/-- An act that leaves the session as it is, and the focus on one of its two windows, stays inside
the block. -/
theorem settles_single (act : Act τ) {command : Command τ}
    (hrun : command.run inner = World.onSession inner act.attempt)
    (hact : ∀ (scene : Scene τ) active window, scene.session.stage = .attached window →
      scene.session.initialActive ∈ windows → window ∈ windows →
        scene.desktop.browser.Shows windows active [] →
          (act.attempt.perform scene).2.session = scene.session ∧
            ∃ next, (next = scene.session.initialActive ∨ next = window) ∧
              Scene.ComesTo (.ok ()) windows next [] act.attempt scene) :
    Settles names inner windows [.single inner false command] none := by
  intro number session window world hwithin
  obtain ⟨hnumber, hsession, hstage, hinitial, hwindow, -, hshows⟩ := hwithin
  let scene : Scene τ := ⟨session, world.desktop⟩
  obtain ⟨hsame, next, hnext, hcomes⟩ := hact scene _ window hstage hinitial hwindow hshows
  have hperform := World.perform_onSession act.attempt hnumber hsession
  have hkeeps : world.Keeps names (world.acted number (act.attempt.perform scene).2) :=
    World.keeps_acted names (hsession.trans (congrArg some hsame.symm))
  have hactive : (world.acted number (act.attempt.perform scene).2).desktop.browser.active = next :=
    hcomes.shows.active_eq
  refine ⟨world.acted number (act.attempt.perform scene).2, comes_single ?_,
    ⟨hnumber, hkeeps.getElem?_eq hsession, hstage, hinitial, hwindow, ?_, ?_⟩, hkeeps⟩
  · rw [hrun, hperform]
    exact Prod.ext hcomes.outcome_eq rfl
  · rw [hactive]
    exact hnext
  · exact hcomes.shows.self

/-- Switching back to the window of the block settles. -/
theorem settles_back :
    Settles names inner windows ([.single inner false .back] : List (Step τ)) none := by
  refine settles_single .back rfl fun scene active window hstage hinitial _ hshows ↦ ?_
  exact ⟨Session.session_switchBack scene, _, .inl rfl,
    Session.comesTo_switchBack hshows hinitial⟩

/-- Attaching again does too, since the window has been found. -/
theorem settles_switch (timeout : Option (Seconds τ)) :
    Settles names inner windows [.single inner false (.switch timeout)] none := by
  refine settles_single (.switch timeout) rfl fun scene active window hstage _ hwindow hshows ↦ ?_
  have hattach := Session.perform_attach_of_attached scene timeout hstage
  refine ⟨?_, window, .inr rfl, Session.comesTo_switchToNewWindow hattach hshows hwindow⟩
  change ((Session.switchToNewWindow timeout).perform scene).2.session = scene.session
  rw [Session.perform_switchToNewWindow_of_attach_eq_ok scene hattach]
  rfl

theorem settles_fail (failure : Failure) :
    Settles names inner windows ([.single inner false (.fail failure)] : List (Step τ))
      (some failure) :=
  fun _ _ _ world hwithin ↦
    ⟨world, comes_fail inner failure world, hwithin, fun _ _ ↦ rfl, List.prefix_rfl⟩

/-- What restores windows and focus can be done inside a block. -/
theorem Restores.settles {steps : List (Step τ)} {raised : Option Failure}
    (hrestores : Restores (inner :: names) windows steps raised) :
    Settles (inner :: names) inner windows steps raised := by
  intro number session window world hwithin
  obtain ⟨hnumber, hsession, hstage, hinitial, hwindow, hactive, hshows⟩ := hwithin
  have hopen : world.desktop.browser.active ∈ windows := by
    rcases hactive with hactive | hactive
    · rw [hactive]
      exact hinitial
    · rw [hactive]
      exact hwindow
  obtain ⟨later, hcomes, hlater, hkeeps⟩ := hrestores _ world hopen hshows
  have hnumber' : later.number? inner = some number :=
    (hkeeps.number?_eq inner List.mem_cons_self).trans hnumber
  refine ⟨later, hcomes, ⟨hnumber', hkeeps.getElem?_eq hsession, hstage, hinitial, hwindow, ?_, ?_⟩,
    hkeeps⟩
  · rw [hlater.active_eq]
    exact hactive
  · exact hlater.self

/-- A block restores windows and focus if its steps stay inside it. -/
theorem restores_block [LawfulTimeScale τ] {name opened : String} {timeout : Option (Seconds τ)}
    {body : List (Step τ)} {raised : Option Failure} (caught : Bool) (hname : name ∉ names)
    (hopened : opened ∉ windows) (htimeout : IsOnScale timeout)
    (hbody : Settles (name :: names) name (windows ++ [opened]) body raised) :
    Restores names windows (blockSteps name opened timeout caught body)
      (if caught then none else raised) := by
  intro active world hactive hshows
  obtain ⟨desktop, hstart, hstartShows⟩ := World.perform_startSession_of_shows hshows hactive
  let first := world.started name
    ⟨Settings.standard, windows.eraseDups, active, .notAttached⟩ desktop
  let second := first.changeBrowser (Browser.undergo ⟨[opened], [], none⟩)
  have hnumber : second.number? name = some world.sessions.length :=
    World.number?_started_self _ _ _ _
  have hsession : second.sessions[world.sessions.length]? =
      some ⟨Settings.standard, windows.eraseDups, active, .notAttached⟩ :=
    List.getElem?_concat_length
  have hsecondShows : second.desktop.browser.Shows (windows ++ [opened]) active [] := by
    refine ⟨?_, hstartShows.active_eq, hstartShows.pending_eq, hstartShows.faults_eq⟩
    exact congrArg (· ++ [opened]) hstartShows.windows_eq
  obtain ⟨scene, hswitch, hinitial, hwithin⟩ :=
    World.exists_within hnumber hsession hsecondShows hactive hopened htimeout
  obtain ⟨inner, hcomes, hinner, hkeepsBody⟩ := hbody _ _ _ _ hwithin
  obtain ⟨last, hclose, hlastShows⟩ := hinner.perform_close hopened (hinitial ▸ hactive)
  -- The session of the block is a new one, so that no name around the block stands for it.
  have hkeepsStart : world.Keeps names second := World.keeps_started hname _ _ world
  have hkeepsInner : world.Keeps names inner :=
    (hkeepsStart.acted le_rfl scene).trans (hkeepsBody.mono (List.subset_cons_self name names))
  refine ⟨inner.acted world.sessions.length last, ?_, hinitial ▸ hlastShows,
    hkeepsInner.acted le_rfl last⟩
  have hbegin : Comes [.single name false (.start none)] world first none := comes_single hstart
  have hpage : Comes [.single name false (.page ⟨[opened], [], none⟩)] first second none :=
    comes_single rfl
  have hattach : Comes [.single name false (.switch timeout)] second
      (second.acted world.sessions.length scene) none := comes_single hswitch
  exact comes_append hbegin
    (comes_scope hnumber (comes_append hpage (comes_append hattach hcomes)) hclose)

end

end Step

namespace Use

mutual

/-- A use stays inside its block; by induction on how deep blocks are nested in it. -/
theorem settles [LawfulTimeScale τ] (use : Use τ) {inner : String}
    {enclosing windows : List String}
    (hfits : use.Fits (inner :: enclosing) windows) :
    Step.Settles (inner :: enclosing) inner windows (use.steps inner) use.raised := by
  cases use with
  | back =>
    rw [steps, raised]
    exact Step.settles_back
  | switch timeout =>
    rw [steps, raised]
    exact Step.settles_switch timeout
  | raise failure =>
    rw [steps, raised]
    exact Step.settles_fail failure
  | block name opened timeout caught uses =>
    rw [Fits] at hfits
    obtain ⟨hname, hopened, htimeout, hfit⟩ := hfits
    rw [steps, raised]
    exact (Step.restores_block caught hname hopened htimeout (allSettle uses hfit)).settles

/-- All uses of a block that fits its surroundings settle. -/
theorem allSettle [LawfulTimeScale τ] (uses : List (Use τ)) {inner : String}
    {enclosing windows : List String}
    (hfit : AllFit (inner :: enclosing) windows uses) :
    Step.Settles (inner :: enclosing) inner windows (allSteps inner uses) (firstRaised uses) := by
  cases uses with
  | nil =>
    rw [allSteps, firstRaised]
    exact Step.settles_nil
  | cons use rest =>
    rw [AllFit] at hfit
    rw [allSteps, firstRaised]
    exact (settles use hfit.1).append (allSettle rest hfit.2)

end

end Use

/-- Without faults, and with nothing pending and the active window open, every block gives back
the windows it found, in the same order, and the focus, and what ends its steps comes out of it
unless it is caught there. -/
theorem Step.runBody_blockSteps [LawfulTimeScale τ] {world : World τ} {name opened : String}
    {timeout : Option (Seconds τ)} {uses : List (Use τ)} (caught : Bool)
    (hquiet : world.desktop.browser.faults = .quiet)
    (hpending : world.desktop.browser.pending = [])
    (hactive : world.desktop.browser.active ∈ world.desktop.browser.windows)
    (hopened : opened ∉ world.desktop.browser.windows) (htimeout : IsOnScale timeout)
    (hfit : Use.AllFit [name] (world.desktop.browser.windows ++ [opened]) uses) :
    ∃ reports later,
      runBody (blockSteps name opened timeout caught (Use.allSteps name uses)) world =
          (reports, later, if caught then none else Use.firstRaised uses) ∧
        later.desktop.browser.windows = world.desktop.browser.windows ∧
        later.desktop.browser.active = world.desktop.browser.active := by
  have hshows : world.desktop.browser.Shows world.desktop.browser.windows
      world.desktop.browser.active [] := ⟨rfl, rfl, hpending, hquiet⟩
  obtain ⟨later, hcomes, hlater, -⟩ := restores_block caught List.not_mem_nil hopened htimeout
    (Use.allSettle uses hfit) _ world hactive hshows
  exact ⟨_, later, Prod.ext rfl hcomes, hlater.windows_eq, hlater.active_eq⟩

/-- The uses of a block with two others in it that open a window with the same handle, one after
the other; the failure of the first is caught, and that of the second comes out of both. -/
def revisit (failure : Failure) : List (Use Float) :=
  [.back, .block "inner" "w2" (some (.whole 3)) true [.back, .raise (.given .noNewWindow)],
    .switch none, .block "again" "w2" none false [.switch none, .raise failure]]

theorem runBody_revisit :
    ∃ reports later,
      Step.runBody (blockSteps "outer" "w1" none false
          (Use.allSteps "outer" (revisit (.of .timeout "too late"))))
          (World.fresh ["w0"] "w0") =
          (reports, later, some (.of .timeout "too late")) ∧
        later.desktop.browser.windows = ["w0"] ∧ later.desktop.browser.active = "w0" := by
  have hthree : IsOnScale (some (.whole 3 : Seconds Float)) := by
    rintro _ ⟨⟩
    exact ⟨_, rfl⟩
  have hnone : IsOnScale (none : Option (Seconds Float)) := by
    rintro _ ⟨⟩
  refine Step.runBody_blockSteps false rfl rfl ?_ ?_ hnone ?_
  · decide
  · decide
  · simp [revisit, Use.AllFit, Use.Fits, hthree, hnone, World.fresh, Browser.fresh]

end BrowserControl
