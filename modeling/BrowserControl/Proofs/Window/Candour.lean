import BrowserControl.Proofs.Window.Operations
import BrowserControl.Proofs.Window.Polling

/-!
# What Becomes of Failing Reads

A search for the new window reads the handles once or, if it waits, again and again, and a read can
fail.  What comes of the search rests on its last read; the others were blank.  A search that does
not wait passes the failure of its read on.  So does a search that waits, with two exceptions, which
are made for something else.  A wait reports its own end as a timeout, and the session reports every
timeout as a missing window, one that comes from the browser too.  And a wait takes an element that
was not found for nothing new, and reads again.

So a call is open about what its reads came to exactly if it does not wait, or none of them fails in
one of these two ways (`Session.isCandid_iff`).
-/

namespace BrowserControl

open Attempt

variable {τ : Type} [TimeScale τ]

namespace Browser

/-! ## One read after the other -/

omit [TimeScale τ] in
def countReads (browser : Browser τ) : Nat :=
  browser.calls.count .readWindows

/-- The browser after a read, whatever came of it, and a pause. -/
def retried (span : τ) (browser : Browser τ) : Browser τ :=
  ((pause span).perform (readWindows.perform browser).2).2

/-- What a read comes to that follows a number of others, each of them with a pause after it: the
handles that are not known yet, or a failure. -/
def readAt (known : List String) (span : τ) (browser : Browser τ) (earlier : Nat) :
    Except Failure (List String) :=
  ((newWindows known).perform ((retried span)^[earlier] browser)).1

omit [TimeScale τ] in
/-- Between two states of a browser, its handles have been read a number of times, and the plan for
switching has stayed. -/
structure HasRead (reads : Nat) (before after : Browser τ) : Prop where
  countReads_eq : after.countReads = before.countReads + reads
  switchTo_eq : after.faults.switchTo = before.faults.switchTo

omit [TimeScale τ] in
theorem HasRead.trans {early late : Nat} {first second third : Browser τ}
    (hfirst : HasRead early first second) (hsecond : HasRead late second third) :
    HasRead (early + late) first third where
  countReads_eq := by rw [hsecond.countReads_eq, hfirst.countReads_eq, Nat.add_assoc]
  switchTo_eq := hsecond.switchTo_eq.trans hfirst.switchTo_eq

section

variable (known : List String) (span : τ) (browser : Browser τ)

theorem hasRead_readWindows : HasRead 1 browser (readWindows.perform browser).2 where
  countReads_eq := by simp [countReads]
  switchTo_eq := by rw [perform_readWindows]; rfl

theorem hasRead_retried : HasRead 1 browser (browser.retried span) where
  countReads_eq := calc
    (browser.retried span).countReads
    _ = (readWindows.perform browser).2.countReads := List.count_cons_of_ne (by decide)
    _ = browser.countReads + 1 := (hasRead_readWindows browser).countReads_eq
  switchTo_eq := (hasRead_readWindows browser).switchTo_eq

/-- A look gives what the first of the planned reads gives. -/
theorem perform_newWindows :
    (newWindows known).perform browser =
      (browser.readAt known span 0, (readWindows.perform browser).2) := by
  refine Prod.ext rfl ?_
  rw [newWindows, perform_map]

/-- Every retry uses up one entry of the plan for reads. -/
theorem iterate_retried_faults (earlier : Nat) :
    ((retried span)^[earlier] browser).faults.readWindows =
      Plan.next^[earlier] browser.faults.readWindows := by
  induction earlier generalizing browser with
  | zero => rfl
  | succ earlier ih =>
    have hretried : (browser.retried span).faults.readWindows =
        browser.faults.readWindows.next := by
      change (readWindows.perform browser).2.faults.readWindows = _
      rw [perform_readWindows]
      rfl
    rw [Function.iterate_succ_apply, Function.iterate_succ_apply, ih, hretried]

/-- Reads fail as planned, whatever happens to the windows in the meantime. -/
theorem readAt_eq_error_iff (earlier : Nat) (failure : Failure) :
    browser.readAt known span earlier = .error failure ↔
      (Plan.next^[earlier] browser.faults.readWindows).outcome = .error failure := by
  rw [readAt, newWindows, perform_map, perform_readWindows, iterate_retried_faults]
  cases (Plan.next^[earlier] browser.faults.readWindows).outcome with
  | ok _ => simp [Except.map]
  | error reported => simp [Except.map]

end

end Browser

/-- What comes of a search that has read the handles a number of times: it went on after each read
but the last, and the last decides. -/
structure GoesBy {α : Type} (goesOn : Except Failure (List String) → Prop)
    (verdict : Except Failure (List String) → Except Failure α) (reads : Nat)
    (read : Nat → Except Failure (List String)) (outcome : Except Failure α) : Prop where
  goesOn_of_lt : ∀ index, index + 1 < reads → goesOn (read index)
  outcome_eq : ∀ index, index + 1 = reads → outcome = verdict (read index)

namespace GoesBy

variable {α β : Type} {goesOn : Except Failure (List String) → Prop}
  {verdict : Except Failure (List String) → Except Failure α} {reads : Nat}
  {read : Nat → Except Failure (List String)} {outcome : Except Failure α}

theorem zero : GoesBy goesOn verdict 0 read outcome :=
  ⟨fun _ hlt ↦ absurd hlt (by omega), fun _ heq ↦ absurd heq (by omega)⟩

theorem one (houtcome : outcome = verdict (read 0)) : GoesBy goesOn verdict 1 read outcome := by
  refine ⟨fun _ hlt ↦ absurd hlt (by omega), fun index heq ↦ ?_⟩
  obtain rfl : index = 0 := by omega
  exact houtcome

/-- A read after which the search goes on comes before those of the rest of the search. -/
theorem cons (hfirst : goesOn (read 0)) (hlast : reads = 0 → outcome = verdict (read 0))
    (hrest : GoesBy goesOn verdict reads (fun index ↦ read (index + 1)) outcome) :
    GoesBy goesOn verdict (1 + reads) read outcome where
  goesOn_of_lt
    | 0, _ => hfirst
    | index + 1, hlt => hrest.goesOn_of_lt index (by omega)
  outcome_eq
    | 0, heq => hlast (by omega)
    | index + 1, heq => hrest.outcome_eq index (by omega)

theorem map (hgoesBy : GoesBy goesOn verdict reads read outcome)
    (change : Except Failure α → Except Failure β) :
    GoesBy goesOn (change ∘ verdict) reads read (change outcome) :=
  ⟨hgoesBy.goesOn_of_lt, fun index heq ↦ congrArg change (hgoesBy.outcome_eq index heq)⟩

theorem imp {tolerant : Except Failure (List String) → Prop}
    (hgoesBy : GoesBy goesOn verdict reads read outcome)
    (htolerant : ∀ shown, goesOn shown → tolerant shown) :
    GoesBy tolerant verdict reads read outcome :=
  ⟨fun index hlt ↦ htolerant _ (hgoesBy.goesOn_of_lt index hlt), hgoesBy.outcome_eq⟩

end GoesBy

namespace Browser

/-- What comes of a wait whose last read came to this. -/
def waitVerdict (shown : Except Failure (List String)) : Except Failure (List String) :=
  if IsBlank shown then .error (.of .timeout "") else shown

/-- However often it may look: a wait goes on after blank reads only, and its last read decides. -/
theorem exists_goesBy_awaitNewUntil (known : List String) (deadline span : τ) (looks : Nat)
    (browser : Browser τ) :
    let result := (awaitNewUntil known deadline span looks).perform browser
    ∃ reads, HasRead reads browser result.2 ∧
      (reads = 0 → result.1 = .error (.of .timeout "")) ∧
      GoesBy IsBlank waitVerdict reads (browser.readAt known span) result.1 := by
  -- The rest of a wait is a wait of its own, from the browser after a read and a pause.
  induction looks generalizing browser with
  | zero => exact ⟨0, ⟨rfl, rfl⟩, fun _ ↦ rfl, .zero⟩
  | succ looks ih =>
    rw [perform_awaitNewUntil_of_look (perform_newWindows known span browser)]
    by_cases hblank : IsBlank (browser.readAt known span 0)
    case neg =>
      rw [if_neg hblank]
      exact ⟨1, hasRead_readWindows browser, fun hzero ↦ absurd hzero one_ne_zero,
        .one (if_neg hblank).symm⟩
    rw [if_pos hblank]
    by_cases hlate : deadline < (readWindows.perform browser).2.clock
    case pos =>
      rw [if_pos hlate]
      exact ⟨1, hasRead_readWindows browser, fun hzero ↦ absurd hzero one_ne_zero,
        .one (if_pos hblank).symm⟩
    rw [if_neg hlate]
    obtain ⟨reads, hread, hzero, hgoesBy⟩ := ih (browser.retried span)
    exact ⟨1 + reads, (hasRead_retried span browser).trans hread, by omega,
      .cons hblank (fun hnone ↦ (hzero hnone).trans (if_pos hblank).symm) hgoesBy⟩

end Browser

/-- The pause between two reads.  If the one that is set is beyond the scale, no search pauses. -/
def Settings.rest (settings : Settings τ) : τ :=
  match settings.pause with
  | .ok span => span
  | .error _ => 0

namespace Session

open Scene

/-! ## Searches -/

def read (scene : Scene τ) : Nat → Except Failure (List String) :=
  scene.desktop.browser.readAt scene.session.initialWindows scene.session.settings.rest

def reworded (seconds : Seconds τ) (found : Except Failure (List String)) :
    Except Failure (List String) :=
  match found with
  | .ok found => .ok found
  | .error failure =>
    if failure.kind.isA .timeout then .error (nothingNew seconds) else .error failure

/-- The only one of the windows that have been found. -/
def pick : List String → Except Failure String
  | [window] => .ok window
  | [] => .error (.given .noNewWindow)
  | several => .error (.given (.ambiguousNewWindows several.length))

/-- What comes of a search whose last read came to this. -/
def verdict (seconds : Seconds τ) (shown : Except Failure (List String)) : Except Failure String :=
  (if seconds.isPositive then reworded seconds (Browser.waitVerdict shown) else shown).bind pick

def GoesOn (seconds : Seconds τ) (shown : Except Failure (List String)) : Prop :=
  seconds.isPositive = true ∧ Browser.IsBlank shown

/-- The outcome of an attempt goes by the reads that it makes. -/
def Rests {α : Type} (seconds : Seconds τ)
    (verdict : Except Failure (List String) → Except Failure α) (attempt : Attempt (Scene τ) α)
    (scene : Scene τ) : Prop :=
  ∃ reads, scene.desktop.browser.HasRead reads (attempt.perform scene).2.desktop.browser ∧
    GoesBy (GoesOn seconds) verdict reads (read scene) (attempt.perform scene).1

section

variable {seconds : Seconds τ} {scene : Scene τ}

theorem Rests.map {α β : Type} {verdict : Except Failure (List String) → Except Failure α}
    {attempt : Attempt (Scene τ) α} {next : Attempt (Scene τ) β}
    (hrests : Rests seconds verdict attempt scene) (change : Except Failure α → Except Failure β)
    (hbrowser : (next.perform scene).2.desktop.browser = (attempt.perform scene).2.desktop.browser)
    (houtcome : (next.perform scene).1 = change (attempt.perform scene).1) :
    Rests seconds (change ∘ verdict) next scene := by
  obtain ⟨reads, hread, hgoesBy⟩ := hrests
  refine ⟨reads, ?_, ?_⟩
  · rw [hbrowser]
    exact hread
  · rw [houtcome]
    exact hgoesBy.map change

theorem rests_awaitNew {span pause : τ} (hpositive : seconds.isPositive = true)
    (hpause : scene.session.settings.pause = .ok pause) :
    Rests seconds Browser.waitVerdict
      (onBrowser (Browser.awaitNew scene.session.initialWindows span pause)) scene := by
  obtain ⟨reads, hreads, -, hgoesBy⟩ := Browser.exists_goesBy_awaitNewUntil
    scene.session.initialWindows (scene.desktop.browser.clock + span) pause
    (TimeScale.pollLimit span pause) scene.desktop.browser
  have hread : read scene =
      scene.desktop.browser.readAt scene.session.initialWindows pause := by
    unfold read Settings.rest
    rw [hpause]
  refine ⟨reads, ?_⟩
  rw [hread, perform_onBrowser, Browser.awaitNew, perform_bind, perform_get]
  exact ⟨hreads, hgoesBy.imp fun _ hblank ↦ ⟨hpositive, hblank⟩⟩

/-- A session that waits rewords what its browser reports, and leaves the browser alone. -/
theorem perform_awaitNewWindows {span pause : τ} {found : Except Failure (List String)}
    {later : Scene τ} (hpositive : seconds.isPositive = true)
    (hpause : scene.session.settings.pause = .ok pause) (hspan : seconds.onScale = .ok span)
    (hawait : (onBrowser (Browser.awaitNew scene.session.initialWindows span pause)).perform scene =
      (found, later)) :
    ((awaitNewWindows seconds).perform scene).2.desktop.browser = later.desktop.browser ∧
      ((awaitNewWindows seconds).perform scene).1 = reworded seconds found := by
  rw [awaitNewWindows, perform_bind, perform_get]
  simp only [perform_bind, perform_ofExcept, hpause, hspan, perform_recover, hawait]
  cases found with
  | ok found => exact ⟨rfl, rfl⟩
  | error failure =>
    by_cases htimeout : failure.kind.isA .timeout = true
    · simp [reworded, nothingNew, htimeout, hpositive, perform_note]
    · simp [reworded, htimeout]

theorem rests_awaitNewWindows (hpositive : seconds.isPositive = true) :
    Rests seconds (reworded seconds ∘ Browser.waitVerdict) (awaitNewWindows seconds) scene := by
  cases hpause : scene.session.settings.pause with
  | error failure =>
    refine ⟨0, ?_, .zero⟩
    rw [awaitNewWindows, perform_bind, perform_get]
    simp only [perform_bind, perform_ofExcept, hpause]
    exact ⟨rfl, rfl⟩
  | ok pause =>
    cases hspan : seconds.onScale with
    | error failure =>
      refine ⟨0, ?_, .zero⟩
      rw [awaitNewWindows, perform_bind, perform_get]
      simp only [perform_bind, perform_ofExcept, hpause, hspan]
      exact ⟨rfl, rfl⟩
    | ok span =>
      obtain ⟨hbrowser, houtcome⟩ := perform_awaitNewWindows hpositive hpause hspan rfl
      exact (rests_awaitNew hpositive hpause).map (reworded seconds) hbrowser houtcome

/-- A search with or without patience rests on reads only. -/
theorem rests_findNewWindows :
    Rests seconds
      (fun shown ↦
        if seconds.isPositive then reworded seconds (Browser.waitVerdict shown) else shown)
      (findNewWindows seconds) scene := by
  unfold findNewWindows
  by_cases hpositive : seconds.isPositive = true
  · simp only [if_pos hpositive]
    exact rests_awaitNewWindows hpositive
  · simp only [if_neg hpositive]
    refine ⟨1, ?_, .one ?_⟩
    · rw [perform_bind, perform_get]
      simp only [perform_onBrowser, Browser.perform_newWindows _ scene.session.settings.rest]
      exact Browser.hasRead_readWindows _
    · rw [perform_bind, perform_get]
      rfl

theorem rests_detect : Rests seconds (verdict seconds) (detect seconds) scene := by
  refine rests_findNewWindows.map (·.bind pick) ?_ ?_
  all_goals
    rw [detect, perform_bind]
    generalize (findNewWindows seconds).perform scene = result
    rcases result with ⟨failure | - | ⟨window, - | ⟨other, rest⟩⟩, later⟩
  all_goals rfl

theorem rests_attach {timeout : Option (Seconds τ)} (hstage : scene.session.stage = .notAttached)
    (hseconds : timeoutOr timeout scene.session.settings = .ok seconds) :
    Rests seconds (verdict seconds) (attach timeout) scene := by
  refine rests_detect.map id ?_ ?_
  all_goals
    rw [perform_attach_of_notAttached scene timeout hstage, hseconds]
    simp only
    generalize (detect seconds).perform scene = result
    rcases result with ⟨failure | window, later⟩
  all_goals rfl

end

/-! ## Verdicts -/

/-- A failure of a read that a search does not pass on: it waits, and the failure is of a kind that
it is prepared for. -/
def IsMasked (seconds : Seconds τ) (failure : Failure) : Prop :=
  seconds.isPositive = true ∧
    (failure.kind.isA .noSuchElement = true ∨ failure.kind.isA .timeout = true)

section

variable {seconds : Seconds τ} {failure : Failure}

/-- A failure that the search goes on after is masked. -/
theorem isMasked_of_goesOn (hgoesOn : GoesOn seconds (.error failure)) : IsMasked seconds failure :=
  ⟨hgoesOn.1, .inl hgoesOn.2⟩

theorem not_isMasked_of_kind_eq (hkind : failure.kind = .noNewWindow) :
    ¬IsMasked seconds failure := by
  rintro ⟨-, hmissing | htimeout⟩
  · rw [hkind] at hmissing
    contradiction
  · rw [hkind] at htimeout
    contradiction

/-- A masked failure comes out as the report that nothing new was found. -/
theorem verdict_of_isMasked (hmasked : IsMasked seconds failure) :
    verdict seconds (.error failure) = .error (nothingNew seconds) := by
  obtain ⟨hpositive, hkind⟩ := hmasked
  by_cases hmissing : failure.kind.isA .noSuchElement = true
  · simp [verdict, Browser.waitVerdict, Browser.IsBlank, reworded, hpositive, hmissing, Except.bind]
  · have htimeout := hkind.resolve_left hmissing
    simp [verdict, Browser.waitVerdict, Browser.IsBlank, reworded, hpositive, hmissing, htimeout,
      Except.bind]

/-- Any other failure of a read comes out unchanged. -/
theorem verdict_of_not_isMasked (hopen : ¬IsMasked seconds failure) :
    verdict seconds (.error failure) = .error failure := by
  unfold verdict
  by_cases hpositive : seconds.isPositive = true
  · obtain ⟨hmissing, htimeout⟩ := not_or.1 (not_and.1 hopen hpositive)
    simp [Browser.waitVerdict, Browser.IsBlank, reworded, hpositive, hmissing, htimeout,
      Except.bind]
  · rw [if_neg hpositive]
    rfl

/-- Only a read that shows nothing makes a search report that there is no new window. -/
theorem eq_nil_of_verdict_eq_error {found : List String}
    (hverdict : verdict seconds (.ok found) = .error failure)
    (hkind : failure.kind = .noNewWindow) : found = [] := by
  by_contra hsome
  have hpick : verdict seconds (.ok found) = pick found := by
    simp [verdict, Browser.waitVerdict, Browser.IsBlank, reworded, hsome, Except.bind]
  rw [hpick] at hverdict
  rcases found with - | ⟨window, - | ⟨other, rest⟩⟩
  · exact hsome rfl
  · cases hverdict
  · cases hverdict
    contradiction

end

/-! ## Candour -/

/-- How often a call reads the handles. -/
def reads (timeout : Option (Seconds τ)) (scene : Scene τ) : Nat :=
  ((switchToNewWindow timeout).perform scene).2.desktop.browser.countReads -
    scene.desktop.browser.countReads

/-- A call that hides nothing of what its reads came to.  A read that fails is its last, and the
failure comes out of the call; and if the call reports that there is no new window, then no read has
shown one, and the only read that may have failed is one that reported just this. -/
structure IsCandid (timeout : Option (Seconds τ)) (scene : Scene τ) : Prop where
  eq_error_of_read : ∀ index < reads timeout scene, ∀ failure, read scene index = .error failure →
    ((switchToNewWindow timeout).perform scene).1 = .error failure ∧ index + 1 = reads timeout scene
  read_of_noNewWindow : ∀ failure, ((switchToNewWindow timeout).perform scene).1 = .error failure →
    failure.kind = .noNewWindow → ∀ index < reads timeout scene,
      read scene index = .ok [] ∨ read scene index = .error failure

section

variable {timeout : Option (Seconds τ)} {seconds : Seconds τ} {scene : Scene τ}

/-- A call reads the handles only to attach. -/
theorem countReads_switchToNewWindow :
    ((switchToNewWindow timeout).perform scene).2.desktop.browser.countReads =
      ((attach timeout).perform scene).2.desktop.browser.countReads := by
  rcases hattach : (attach timeout).perform scene with ⟨failure | window, later⟩
  · rw [perform_switchToNewWindow_of_attach_eq_error scene hattach]
  · rw [perform_switchToNewWindow_of_attach_eq_ok scene hattach, perform_onBrowser,
      browser_withBrowser, Browser.countReads, Browser.calls_switchTo]
    exact List.count_cons_of_ne (by simp)

/-- What the call comes to before it switches goes by its reads. -/
theorem goesBy_reads (hstage : scene.session.stage = .notAttached)
    (hseconds : timeoutOr timeout scene.session.settings = .ok seconds) :
    GoesBy (GoesOn seconds) (verdict seconds) (reads timeout scene) (read scene)
      ((attach timeout).perform scene).1 := by
  obtain ⟨number, hread, hgoesBy⟩ := rests_attach hstage hseconds
  have hreads : reads timeout scene = number := by
    unfold reads
    rw [countReads_switchToNewWindow, hread.countReads_eq, Nat.add_sub_cancel_left]
  rw [hreads]
  exact hgoesBy

/-- Without a time to wait there is no read. -/
theorem exists_timeoutOr_eq_ok {index : Nat} (hstage : scene.session.stage = .notAttached)
    (hindex : index < reads timeout scene) :
    ∃ seconds, timeoutOr timeout scene.session.settings = .ok seconds := by
  cases hseconds : timeoutOr timeout scene.session.settings with
  | ok seconds => exact ⟨seconds, rfl⟩
  | error failure =>
    unfold reads at hindex
    rw [countReads_switchToNewWindow, perform_attach_of_notAttached scene timeout hstage, hseconds]
      at hindex
    simp at hindex

theorem switchToNewWindow_eq_error_of_attach {failure : Failure}
    (hattach : ((attach timeout).perform scene).1 = .error failure) :
    ((switchToNewWindow timeout).perform scene).1 = .error failure := by
  rw [perform_switchToNewWindow_of_attach_eq_error scene (Prod.ext hattach rfl)]

/-- The browser does not say of itself that there is no new window, unless this is planned. -/
theorem attach_eq_error_of_noNewWindow {failure : Failure}
    (hstage : scene.session.stage = .notAttached)
    (hseconds : timeoutOr timeout scene.session.settings = .ok seconds)
    (hswitch : scene.desktop.browser.faults.switchTo = none)
    (houtcome : ((switchToNewWindow timeout).perform scene).1 = .error failure)
    (hkind : failure.kind = .noNewWindow) :
    ((attach timeout).perform scene).1 = .error failure := by
  obtain ⟨number, hread, -⟩ := rests_attach hstage hseconds
  rcases hattach : (attach timeout).perform scene with ⟨reported | window, later⟩
  · rw [perform_switchToNewWindow_of_attach_eq_error scene hattach] at houtcome
    exact congrArg Except.error (Except.error.inj houtcome)
  · have hplan : later.desktop.browser.faults.switchTo = none := by
      rw [hattach] at hread
      exact hread.switchTo_eq.trans hswitch
    rw [perform_switchToNewWindow_of_attach_eq_ok scene hattach, perform_onBrowser,
      Browser.perform_switchTo, browser_noted, hplan] at houtcome
    by_cases hopen : window ∈ later.desktop.browser.windows
    · simp [Browser.openness_of_mem hopen, Except.bind] at houtcome
    · simp only [Plan.outcome_none, Except.bind, Browser.openness_of_notMem hopen,
        Except.error.injEq] at houtcome
      subst houtcome
      contradiction

section

variable (hstage : scene.session.stage = .notAttached)
  (hseconds : timeoutOr timeout scene.session.settings = .ok seconds) {index : Nat}
  (hindex : index < reads timeout scene)
  (hopen : ∀ failure, read scene index = .error failure → ¬IsMasked seconds failure)

include hstage hseconds hindex hopen

/-- A read that fails in a way that the search is not prepared for is the last one, and the failure
comes out. -/
theorem attach_eq_error_of_read {failure : Failure} (hread : read scene index = .error failure) :
    ((attach timeout).perform scene).1 = .error failure ∧ index + 1 = reads timeout scene := by
  have hgoesBy := goesBy_reads hstage hseconds
  have hlast : index + 1 = reads timeout scene := by
    by_contra hearlier
    have hgoesOn := hgoesBy.goesOn_of_lt index (by omega)
    rw [hread] at hgoesOn
    exact hopen failure hread (isMasked_of_goesOn hgoesOn)
  refine ⟨?_, hlast⟩
  rw [hgoesBy.outcome_eq index hlast, hread, verdict_of_not_isMasked (hopen failure hread)]

/-- The report that nothing new was found follows a read that found nothing, or is what the read
raised. -/
theorem read_of_attach_eq_error {failure : Failure}
    (hattach : ((attach timeout).perform scene).1 = .error failure)
    (hkind : failure.kind = .noNewWindow) :
    read scene index = .ok [] ∨ read scene index = .error failure := by
  have hgoesBy := goesBy_reads hstage hseconds
  cases hread : read scene index with
  | error reported =>
    have hraised := (attach_eq_error_of_read hstage hseconds hindex hopen hread).1
    rw [hattach] at hraised
    exact .inr (congrArg Except.error (Except.error.inj hraised).symm)
  | ok found =>
    left
    congr 1
    by_cases hlast : index + 1 = reads timeout scene
    · rw [hgoesBy.outcome_eq index hlast, hread] at hattach
      exact eq_nil_of_verdict_eq_error hattach hkind
    · have hgoesOn := hgoesBy.goesOn_of_lt index (by omega)
      rw [hread] at hgoesOn
      exact hgoesOn.2

end

/-- A call that looks for its window is candid exactly if none of its reads fails in a way that the
search is prepared for: always if it does not wait; and if it does, unless a read fails with a
timeout, or for want of an element. -/
theorem isCandid_iff (hstage : scene.session.stage = .notAttached)
    (hswitch : scene.desktop.browser.faults.switchTo = none) :
    IsCandid timeout scene ↔
      ∀ seconds, timeoutOr timeout scene.session.settings = .ok seconds →
        ∀ index < reads timeout scene, ∀ failure, read scene index = .error failure →
          ¬IsMasked seconds failure := by
  constructor
  · rintro ⟨hraised, -⟩ seconds hseconds index hindex failure hread hmasked
    obtain ⟨houtcome, hlast⟩ := hraised index hindex failure hread
    have hreported : ((attach timeout).perform scene).1 = .error (nothingNew seconds) := by
      rw [(goesBy_reads hstage hseconds).outcome_eq index hlast, hread, verdict_of_isMasked hmasked]
    rw [switchToNewWindow_eq_error_of_attach hreported] at houtcome
    obtain rfl : nothingNew seconds = failure := Except.error.inj houtcome
    exact not_isMasked_of_kind_eq (kind_nothingNew seconds) hmasked
  · intro hopen
    refine ⟨fun index hindex failure hread ↦ ?raised,
      fun failure houtcome hkind index hindex ↦ ?noNews⟩
    case raised =>
      obtain ⟨seconds, hseconds⟩ := exists_timeoutOr_eq_ok hstage hindex
      obtain ⟨hattach, hlast⟩ := attach_eq_error_of_read hstage hseconds hindex
        (hopen seconds hseconds index hindex) hread
      exact ⟨switchToNewWindow_eq_error_of_attach hattach, hlast⟩
    case noNews =>
      obtain ⟨seconds, hseconds⟩ := exists_timeoutOr_eq_ok hstage hindex
      have hattach := attach_eq_error_of_noNewWindow hstage hseconds hswitch houtcome hkind
      exact read_of_attach_eq_error hstage hseconds hindex (hopen seconds hseconds index hindex)
        hattach hkind

end

/-- A session that looks for its window in a browser whose handles cannot be read once, after they
have been read a number of times. -/
def failingRead (failure : Failure) (skip : Nat) : Scene Rat :=
  ⟨⟨Settings.standard, ["main"], "main", .notAttached⟩,
    ⟨{ Browser.fresh ["main"] "main" with
        faults := ⟨some ⟨failure, skip, some 1⟩, none, none, none⟩ },
      Journal.fresh⟩⟩

/-- A browser that is gone at the second read is not hidden. -/
theorem isCandid_failingRead :
    read (failingRead (.of .webDriver "gone") 1) 1 = .error (.of .webDriver "gone") ∧
      reads (some (.whole 1)) (failingRead (.of .webDriver "gone") 1) = 2 ∧
      IsCandid (some (.whole 1)) (failingRead (.of .webDriver "gone") 1) := by
  have hreads : reads (some (.whole 1)) (failingRead (.of .webDriver "gone") 1) = 2 := by
    decide +kernel
  refine ⟨(Browser.readAt_eq_error_iff _ _ _ _ _).2 rfl, hreads, (isCandid_iff rfl rfl).2 ?_⟩
  intro seconds _ index hindex failure hread
  have hplan := (Browser.readAt_eq_error_iff _ _ _ _ _).1 hread
  have hfailure : failure = .of .webDriver "gone" := by
    rw [hreads] at hindex
    obtain rfl | rfl : index = 0 ∨ index = 1 := by omega
    · contradiction
    · exact (Except.error.inj hplan).symm
  subst hfailure
  rintro ⟨-, hkind⟩
  contradiction

/-- Not every call is candid: a timeout of the browser itself is reported as a missing window. -/
theorem failingRead_isMasked :
    ¬∀ (scene : Scene Rat) (timeout : Option (Seconds Rat)),
      scene.session.stage = .notAttached → scene.desktop.browser.faults.switchTo = none →
        IsCandid timeout scene := by
  intro hcandid
  have hscene := hcandid (failingRead (.of .timeout "boom") 0) (some (.whole 1)) rfl rfl
  have houtcome := (hscene.eq_error_of_read 0 (by decide +kernel) (.of .timeout "boom")
    (by decide +kernel)).1
  have hmissing : ((switchToNewWindow (some (.whole 1))).perform
      (failingRead (.of .timeout "boom") 0)).1 = .error (nothingNew (.whole 1 : Seconds Rat)) := by
    decide +kernel
  rw [hmissing] at houtcome
  contradiction

end Session

end BrowserControl
