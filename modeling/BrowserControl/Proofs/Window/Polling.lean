import BrowserControl.Proofs.Window.Looks
import Mathlib.Data.Finset.Card

/-!
# Finding the Window in Exact Time

When time is exact and no call has a fault, what comes of switching to the new window depends on
nothing but the sets of windows that are new at each look.  The first look at which there is
something new decides: a single window is the one, several are refused.  If there is nothing new at
any look up to the first one after the deadline, nothing is found.

So the time to wait only says how many looks there may be, and more of them never change what an
earlier one has decided.
-/

namespace BrowserControl

open Attempt Scene

namespace Seconds

/-- In exact time, a span is longer than nothing exactly if it is so on the scale. -/
theorem isPositive_iff {seconds : Seconds Rat} {span : Rat} (hspan : seconds.onScale = .ok span) :
    seconds.isPositive = true ↔ 0 < span := by
  cases seconds with
  | whole number =>
    cases hspan
    simp only [isPositive, decide_eq_true_eq]
    exact Int.cast_pos.symm
  | measured given =>
    cases hspan
    exact decide_eq_true_iff

end Seconds

namespace Session

/-- The windows that are new to a session at a look. -/
def news (pause : Rat) (scene : Scene Rat) (pauses : Nat) : Finset String :=
  (scene.desktop.browser.atLook pause pauses).windows.toFinset \
    scene.session.initialWindows.toFinset

def nothingNew {τ : Type} [TimeScale τ] (timeout : Seconds τ) : Failure :=
  if timeout.isPositive then
    .of .noNewWindow
      ("Can't switch to a new window: no new windows detected within " ++ timeout.write ++ "s")
  else .given .noNewWindow

theorem kind_nothingNew {τ : Type} [TimeScale τ] (timeout : Seconds τ) :
    (nothingNew timeout).kind = .noNewWindow := by
  unfold nothingNew
  split
  · rfl
  · rfl

section

variable (pause : Rat) (scene : Scene Rat) (pauses : Nat)

abbrev shown : List String :=
  scene.desktop.browser.shownAt scene.session.initialWindows pause pauses

theorem toFinset_shown : (shown pause scene pauses).toFinset = news pause scene pauses :=
  Browser.toFinset_unknownHandles _ _

theorem nodup_shown : (shown pause scene pauses).Nodup :=
  Browser.nodup_unknownHandles _ _

theorem length_shown : (shown pause scene pauses).length = (news pause scene pauses).card := by
  rw [← toFinset_shown, List.toFinset_card_of_nodup (nodup_shown pause scene pauses)]

theorem shown_eq_nil_iff : shown pause scene pauses = [] ↔ news pause scene pauses = ∅ := by
  rw [← toFinset_shown, List.toFinset_eq_empty_iff]

theorem shown_eq_singleton {window : String} (hnews : news pause scene pauses = {window}) :
    shown pause scene pauses = [window] := by
  have hlength := length_shown pause scene pauses
  rw [hnews, Finset.card_singleton, List.length_eq_one_iff] at hlength
  obtain ⟨only, honly⟩ := hlength
  rw [← toFinset_shown, honly] at hnews
  have hsame : only = window := by simpa using hnews
  rw [honly, hsame]

end

section

variable {scene : Scene Rat} {timeout : Seconds Rat} {span pause : Rat}
  (hquiet : scene.desktop.browser.faults.readWindows = none)
  (hpause : scene.session.settings.pause = .ok pause) (hpositive : 0 < pause)
  (hspan : timeout.onScale = .ok span)

include hquiet hpause hpositive hspan

/-- A search ends at the first look with something new, whether it waits or looks only once. -/
theorem perform_findNewWindows_of_news {pauses : Nat}
    (hpauses : pauses ≤ Browser.lastLook span pause)
    (hnone : ∀ earlier < pauses, shown pause scene earlier = [])
    (hshown : shown pause scene pauses ≠ []) :
    (findNewWindows timeout).perform scene =
      (.ok (shown pause scene pauses),
        scene.withBrowser (scene.desktop.browser.atLook pause pauses)) := by
  unfold findNewWindows
  by_cases hwaits : 0 < span
  · rw [if_pos ((Seconds.isPositive_iff hspan).2 hwaits), awaitNewWindows]
    simp only [perform_bind, perform_get, hpause, hspan, perform_ofExcept, perform_recover,
      perform_onBrowser,
      Browser.perform_awaitNew_of_shown hquiet hwaits hpositive hpauses hnone hshown]
  · rw [Browser.lastLook, if_neg hwaits] at hpauses
    obtain rfl := Nat.le_zero.1 hpauses
    rw [if_neg (mt (Seconds.isPositive_iff hspan).1 hwaits)]
    simp only [perform_bind, perform_get, perform_onBrowser,
      Browser.perform_newWindows_of_quiet hquiet]
    rfl

/-- A search without success takes all its looks. -/
theorem exists_perform_detect_of_forall
    (hnone : ∀ pauses ≤ Browser.lastLook span pause, shown pause scene pauses = []) :
    ∃ message, (detect timeout).perform scene =
      (.error (nothingNew timeout),
        (scene.withBrowser
          (scene.desktop.browser.atLook pause (Browser.lastLook span pause))).noted .warning
          message) := by
  unfold detect findNewWindows nothingNew
  by_cases hwaits : 0 < span
  · refine ⟨"No new window appeared within " ++ timeout.write ++ "s", ?_⟩
    rw [if_pos ((Seconds.isPositive_iff hspan).2 hwaits),
      if_pos ((Seconds.isPositive_iff hspan).2 hwaits), awaitNewWindows]
    simp only [perform_bind, perform_get, hpause, hspan, perform_ofExcept, perform_recover,
      perform_onBrowser, Browser.perform_awaitNew_of_forall hquiet hwaits hpositive hnone,
      Failure.kind_of, Kind.isA_self, if_true, perform_note, perform_throw]
  · refine ⟨"No new window detected", ?_⟩
    rw [Browser.lastLook, if_neg hwaits] at hnone ⊢
    have hlook : (Browser.newWindows scene.session.initialWindows).perform scene.desktop.browser =
        (.ok [], scene.desktop.browser.atLook pause 0) := by
      rw [Browser.perform_newWindows_of_quiet hquiet]
      exact congrArg (fun found ↦ (Except.ok found, _)) (hnone 0 le_rfl)
    rw [if_neg (mt (Seconds.isPositive_iff hspan).1 hwaits),
      if_neg (mt (Seconds.isPositive_iff hspan).1 hwaits)]
    simp only [perform_bind, perform_get, perform_onBrowser, hlook, perform_note, perform_throw]

variable {pauses : Nat} (hpauses : pauses ≤ Browser.lastLook span pause)
  (hnone : ∀ earlier < pauses, shown pause scene earlier = [])

include hpauses hnone

/-- One new window is detected. -/
theorem perform_detect_of_news_eq_singleton {window : String}
    (hnews : news pause scene pauses = {window}) :
    (detect timeout).perform scene =
      (.ok window, scene.withBrowser (scene.desktop.browser.atLook pause pauses)) := by
  have hshown := shown_eq_singleton pause scene pauses hnews
  have hfind := perform_findNewWindows_of_news hquiet hpause hpositive hspan hpauses hnone
    (by rw [hshown]; exact List.cons_ne_nil _ _)
  rw [detect, perform_bind, hfind, hshown]
  rfl

/-- Several at once are too many, and a warning is noted. -/
theorem exists_perform_detect_of_one_lt_card (hnews : 1 < (news pause scene pauses).card) :
    ∃ message, (detect timeout).perform scene =
      (.error (.given (.ambiguousNewWindows (news pause scene pauses).card)),
        (scene.withBrowser (scene.desktop.browser.atLook pause pauses)).noted .warning message) := by
  rw [← length_shown] at hnews ⊢
  have hfind := perform_findNewWindows_of_news hquiet hpause hpositive hspan hpauses hnone
    (List.ne_nil_of_length_pos (Nat.zero_lt_of_lt hnews))
  rw [detect, perform_bind, hfind]
  generalize shown pause scene pauses = several at hnews
  rcases several with - | ⟨window, - | ⟨other, rest⟩⟩
  · contradiction
  · contradiction
  · exact ⟨_, rfl⟩

end

/-! ## What comes of switching -/

/-- The call has failed at a look, the last thing that the browser was asked for. -/
structure FailsAt (pause : Rat) (scene : Scene Rat) (pauses : Nat) (failure : Failure)
    (result : Except Failure Unit × Scene Rat) : Prop where
  outcome_eq : result.1 = .error failure
  session_eq : result.2.session = scene.session
  browser_eq : result.2.desktop.browser = scene.desktop.browser.atLook pause pauses

/-- The call has found a window at a look, and has then switched to it. -/
structure AttachesAt (pause : Rat) (scene : Scene Rat) (pauses : Nat) (window : String)
    (result : Except Failure Unit × Scene Rat) : Prop where
  outcome_eq : result.1 = .ok ()
  session_eq : result.2.session = { scene.session with stage := .attached window }
  browser_eq : result.2.desktop.browser =
    { scene.desktop.browser.atLook pause pauses with
      active := window
      calls := .switchTo window :: (scene.desktop.browser.atLook pause pauses).calls }

/-- Two calls have come to the same: outcome, stage of the session, and calls of the browser. -/
structure SameAnswer (scene other : Scene Rat) (result resultOther : Except Failure Unit × Scene Rat) :
    Prop where
  outcome_eq : resultOther.1 = result.1
  stage_eq : resultOther.2.session.stage = result.2.session.stage
  calls_eq : ∃ asked, result.2.desktop.browser.calls = asked ++ scene.desktop.browser.calls ∧
    resultOther.2.desktop.browser.calls = asked ++ other.desktop.browser.calls

section

variable {scene other : Scene Rat} {pause : Rat} {pauses : Nat}
  {result resultOther : Except Failure Unit × Scene Rat}

theorem FailsAt.sameAnswer {failure : Failure} (hresult : FailsAt pause scene pauses failure result)
    (hother : FailsAt pause other pauses failure resultOther)
    (hstage : other.session.stage = scene.session.stage) :
    SameAnswer scene other result resultOther where
  outcome_eq := by rw [hother.outcome_eq, hresult.outcome_eq]
  stage_eq := by rw [hother.session_eq, hresult.session_eq, hstage]
  calls_eq := by
    refine ⟨Browser.lookCalls pauses, ?_, ?_⟩
    · rw [hresult.browser_eq, Browser.atLook_calls]
    · rw [hother.browser_eq, Browser.atLook_calls]

theorem AttachesAt.sameAnswer {window : String}
    (hresult : AttachesAt pause scene pauses window result)
    (hother : AttachesAt pause other pauses window resultOther) :
    SameAnswer scene other result resultOther where
  outcome_eq := by rw [hother.outcome_eq, hresult.outcome_eq]
  stage_eq := by rw [hother.session_eq, hresult.session_eq]
  calls_eq := by
    refine ⟨.switchTo window :: Browser.lookCalls pauses, ?_, ?_⟩
    · rw [hresult.browser_eq, List.cons_append, ← Browser.atLook_calls]
    · rw [hother.browser_eq, List.cons_append, ← Browser.atLook_calls]

end

/-- A session that has not found its window yet, a browser without faults, and the time to wait and
the pause in exact seconds. -/
structure IsPolling (timeout : Option (Seconds Rat)) (seconds : Seconds Rat) (span pause : Rat)
    (scene : Scene Rat) : Prop where
  stage_eq : scene.session.stage = .notAttached
  faults_eq : scene.desktop.browser.faults = .quiet
  timeoutOr_eq : timeoutOr timeout scene.session.settings = .ok seconds
  onScale_eq : seconds.onScale = .ok span
  pause_eq : scene.session.settings.pause = .ok pause
  pause_pos : 0 < pause

namespace IsPolling

variable {timeout : Option (Seconds Rat)} {seconds : Seconds Rat} {span pause : Rat}
  {scene other : Scene Rat} (hpolling : IsPolling timeout seconds span pause scene)

include hpolling

theorem readWindows_eq : scene.desktop.browser.faults.readWindows = none :=
  congrArg BrowserFaults.readWindows hpolling.faults_eq

/-- A call whose search fails fails as the search does. -/
theorem failsAt {pauses : Nat} {failure : Failure} {message : String}
    (hdetect : (detect seconds).perform scene =
      (.error failure,
        (scene.withBrowser (scene.desktop.browser.atLook pause pauses)).noted .warning message)) :
    FailsAt pause scene pauses failure ((switchToNewWindow timeout).perform scene) := by
  have hattach := perform_attach_of_notAttached scene timeout hpolling.stage_eq
  rw [hpolling.timeoutOr_eq] at hattach
  simp only [hdetect] at hattach
  rw [perform_switchToNewWindow_of_attach_eq_error scene hattach]
  exact ⟨rfl, rfl, rfl⟩

/-- The session attaches at the first look that shows one new window. -/
theorem attachesAt {pauses : Nat} (hpauses : pauses ≤ Browser.lastLook span pause)
    (hnone : ∀ earlier < pauses, shown pause scene earlier = []) {window : String}
    (hnews : news pause scene pauses = {window}) :
    AttachesAt pause scene pauses window ((switchToNewWindow timeout).perform scene) := by
  have hdetect := perform_detect_of_news_eq_singleton hpolling.readWindows_eq hpolling.pause_eq
    hpolling.pause_pos hpolling.onScale_eq hpauses hnone hnews
  have hattach := perform_attach_of_notAttached scene timeout hpolling.stage_eq
  rw [hpolling.timeoutOr_eq] at hattach
  simp only [hdetect] at hattach
  have hfaults : (scene.desktop.browser.atLook pause pauses).faults = .quiet := by
    rw [Browser.atLook_faults, hpolling.faults_eq]
  have hwindow : window ∈ (scene.desktop.browser.atLook pause pauses).windows := by
    have hmem : window ∈ news pause scene pauses := hnews ▸ Finset.mem_singleton_self window
    exact List.mem_toFinset.1 (Finset.mem_sdiff.1 hmem).1
  have hswitch := Browser.perform_switchTo window (scene.desktop.browser.atLook pause pauses)
  rw [hfaults, Browser.openness_of_mem hwindow] at hswitch
  rw [perform_switchToNewWindow_of_attach_eq_ok scene hattach, perform_onBrowser, browser_noted,
    desktop_entered, browser_withBrowser, hswitch]
  refine ⟨rfl, rfl, ?_⟩
  change { (scene.desktop.browser.atLook pause pauses).asked (.switchTo window) .quiet with
    active := window } = _
  rw [← hfaults]
  rfl

/-- It fails at the first look if that one shows several. -/
theorem failsAt_of_one_lt_card {pauses : Nat} (hpauses : pauses ≤ Browser.lastLook span pause)
    (hnone : ∀ earlier < pauses, shown pause scene earlier = [])
    (hnews : 1 < (news pause scene pauses).card) :
    FailsAt pause scene pauses (.given (.ambiguousNewWindows (news pause scene pauses).card))
      ((switchToNewWindow timeout).perform scene) := by
  obtain ⟨message, hdetect⟩ := exists_perform_detect_of_one_lt_card hpolling.readWindows_eq
    hpolling.pause_eq hpolling.pause_pos hpolling.onScale_eq hpauses hnone hnews
  exact hpolling.failsAt hdetect

/-- It fails after the last look if none shows any. -/
theorem failsAt_lastLook
    (hnone : ∀ pauses ≤ Browser.lastLook span pause, shown pause scene pauses = []) :
    FailsAt pause scene (Browser.lastLook span pause) (nothingNew seconds)
      ((switchToNewWindow timeout).perform scene) := by
  obtain ⟨message, hdetect⟩ := exists_perform_detect_of_forall hpolling.readWindows_eq
    hpolling.pause_eq hpolling.pause_pos hpolling.onScale_eq hnone
  exact hpolling.failsAt hdetect

/-- The order in which the windows are listed, and how often each of them is, does not matter. -/
theorem sameAnswer (hother : IsPolling timeout seconds span pause other)
    (hnews : ∀ pauses, news pause other pauses = news pause scene pauses) :
    SameAnswer scene other ((switchToNewWindow timeout).perform scene)
      ((switchToNewWindow timeout).perform other) := by
  have hshown (pauses : Nat) : shown pause other pauses = [] ↔ shown pause scene pauses = [] := by
    rw [shown_eq_nil_iff, shown_eq_nil_iff, hnews]
  rcases Browser.exists_first_or_forall (fun pauses ↦ shown pause scene pauses ≠ [])
    (Browser.lastLook span pause) with ⟨pauses, hpauses, hnone, hfirst⟩ | hnone
  · simp only [not_not] at hnone
    have hnoneOther : ∀ earlier < pauses, shown pause other earlier = [] :=
      fun earlier hearlier ↦ (hshown earlier).2 (hnone earlier hearlier)
    have hcard : (news pause scene pauses).card ≠ 0 := by
      rw [← length_shown]
      exact mt List.eq_nil_of_length_eq_zero hfirst
    rcases Nat.lt_or_eq_of_le (Nat.one_le_iff_ne_zero.2 hcard) with hseveral | hone
    · have hresultOther := hother.failsAt_of_one_lt_card hpauses hnoneOther
        (by rw [hnews]; exact hseveral)
      rw [hnews] at hresultOther
      exact (hpolling.failsAt_of_one_lt_card hpauses hnone hseveral).sameAnswer hresultOther
        (by rw [hother.stage_eq, hpolling.stage_eq])
    · obtain ⟨window, hwindow⟩ := Finset.card_eq_one.1 hone.symm
      exact (hpolling.attachesAt hpauses hnone hwindow).sameAnswer
        (hother.attachesAt hpauses hnoneOther (by rw [hnews, hwindow]))
  · simp only [not_not] at hnone
    exact (hpolling.failsAt_lastLook hnone).sameAnswer
      (hother.failsAt_lastLook fun pauses hpauses ↦ (hshown pauses).2 (hnone pauses hpauses))
      (by rw [hother.stage_eq, hpolling.stage_eq])

end IsPolling

/-- Switching to the new window looks at the handles up to the first look that shows new ones, and
at most up to the last look, which is the first after the deadline.  The looks are a pause apart,
and at each of them what is due has taken effect.  The windows that are new at the look that decides
say what comes of it, and neither the order in which the handles are listed nor how often each is
listed matters; the bound on the number of looks is never met. -/
theorem switchToNewWindow_of_isPolling {timeout : Option (Seconds Rat)} {seconds : Seconds Rat}
    {span pause : Rat} {scene : Scene Rat}
    (hpolling : IsPolling timeout seconds span pause scene) :
    let browser := scene.desktop.browser
    let last := Browser.lastLook span pause
    let result := (switchToNewWindow timeout).perform scene
    (∀ pauses,
      (browser.atLook pause pauses).clock = browser.clock + pauses * pause ∧
      (browser.atLook pause pauses).pending =
        browser.pending.filter (fun pending ↦ browser.clock + pauses * pause < pending.due) ∧
      (browser.atLook pause pauses).calls = Browser.lookCalls pauses ++ browser.calls ∧
      (Browser.lookCalls pauses).count .readWindows = pauses + 1 ∧
      (Browser.lookCalls pauses).count .pause = pauses) ∧
    (∀ pauses ≤ last, (∀ earlier < pauses, news pause scene earlier = ∅) →
      (∀ window, news pause scene pauses = {window} →
        AttachesAt pause scene pauses window result) ∧
      (1 < (news pause scene pauses).card →
        FailsAt pause scene pauses
          (.given (.ambiguousNewWindows (news pause scene pauses).card)) result)) ∧
    ((∀ pauses ≤ last, news pause scene pauses = ∅) →
      (nothingNew seconds).kind = .noNewWindow ∧
      FailsAt pause scene last (nothingNew seconds) result) ∧
    (∀ other, IsPolling timeout seconds span pause other →
      (∀ pauses, news pause other pauses = news pause scene pauses) →
      SameAnswer scene other result ((switchToNewWindow timeout).perform other)) ∧
    (0 < span → ∀ looks, last < looks →
      (Browser.awaitNewUntil scene.session.initialWindows (browser.clock + span) pause
          looks).perform browser =
        (Browser.awaitNew scene.session.initialWindows span pause).perform browser) := by
  intro browser last result
  refine ⟨fun pauses ↦ ?looks, fun pauses hpauses hnone ↦ ?first, fun hnone ↦ ?none,
    fun other hother hnews ↦ hpolling.sameAnswer hother hnews, fun hwaits looks hlooks ↦ ?bound⟩
  case looks =>
    exact ⟨Browser.atLook_clock pause browser pauses,
      Browser.atLook_pending hpolling.pause_pos.le browser pauses,
      Browser.atLook_calls pause browser pauses, Browser.count_readWindows_lookCalls pauses,
      Browser.count_pause_lookCalls pauses⟩
  case first =>
    simp only [← shown_eq_nil_iff] at hnone
    exact ⟨fun window hnews ↦ hpolling.attachesAt hpauses hnone hnews,
      hpolling.failsAt_of_one_lt_card hpauses hnone⟩
  case none =>
    simp only [← shown_eq_nil_iff] at hnone
    exact ⟨kind_nothingNew seconds, hpolling.failsAt_lastLook hnone⟩
  case bound =>
    exact Browser.perform_awaitNewUntil_eq hpolling.readWindows_eq hwaits hpolling.pause_pos hlooks

/-- A session that was started when there was one window. -/
def awaiting (pending : List (PendingEvent Rat)) : Scene Rat :=
  ⟨⟨Settings.standard, ["main"], "main", .notAttached⟩,
    ⟨{ Browser.fresh ["main"] "main" with pending }, Journal.fresh⟩⟩

/-- A window that opens between two looks is found at the second of them, though it is listed
twice by then. -/
theorem switchToNewWindow_delayedWindow :
    let scene := awaiting [⟨mkRat 3 4, ⟨["popup", "popup"], [], none⟩⟩]
    let result := (switchToNewWindow (some (.whole 1))).perform scene
    IsPolling (some (.whole 1)) (.whole 1) 1 (mkRat 1 2) scene ∧
      Browser.lastLook 1 (mkRat 1 2) = 3 ∧
      news (mkRat 1 2) scene 0 = ∅ ∧ news (mkRat 1 2) scene 1 = ∅ ∧
      news (mkRat 1 2) scene 2 = {"popup"} ∧
      AttachesAt (mkRat 1 2) scene 2 "popup" result := by
  intro scene result
  have hpolling : IsPolling (some (.whole 1)) (.whole 1) 1 (mkRat 1 2) scene :=
    ⟨rfl, rfl, rfl, rfl, rfl, by decide +kernel⟩
  have hlast : Browser.lastLook 1 (mkRat 1 2) = 3 := by decide +kernel
  have hnews : news (mkRat 1 2) scene 2 = {"popup"} := by decide +kernel
  have hnone : ∀ earlier < 2, news (mkRat 1 2) scene earlier = ∅ := by decide +kernel
  exact ⟨hpolling, hlast, hnone 0 (by decide), hnone 1 (by decide), hnews,
    ((switchToNewWindow_of_isPolling hpolling).2.1 2 (by rw [hlast]; decide) hnone).1 "popup" hnews⟩

end Session

end BrowserControl
