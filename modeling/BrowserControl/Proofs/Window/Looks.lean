import BrowserControl.Proofs.Duplicates
import BrowserControl.Proofs.Window.Faultless
import Mathlib.Data.Finset.SDiff
import Mathlib.Data.Rat.Floor
import Mathlib.Tactic.Ring

/-!
# The Looks of a Wait

Where reading the handles never fails, a wait is a sequence of looks with a pause after each but
the last, and what the browser is like at a look depends on nothing but the browser at the start,
the length of the pause and the number of pauses before (`Browser.atLook`).  A wait ends at its
first look that shows something new, or at its first look after the deadline.

In exact time the looks are a pause apart, so it is known beforehand which of them is the last
(`lastLook`): the first one after the deadline.
-/

namespace BrowserControl

open Attempt

variable {τ : Type} [TimeScale τ]

namespace Browser

/-! ## One look after the other -/

/-- The browser after its handles have been read without a fault. -/
def looked (browser : Browser τ) : Browser τ :=
  browser.catchUp.asked .readWindows browser.faults

/-- The browser after its handles have been read without a fault and a pause has followed. -/
def rested (span : τ) (browser : Browser τ) : Browser τ :=
  (browser.looked.asked .pause browser.faults).passTime span

/-- The browser when its handles have been read, and read again after each of a number of pauses.
-/
def atLook (span : τ) (browser : Browser τ) (pauses : Nat) : Browser τ :=
  ((rested span)^[pauses] browser).looked

/-- The calls of a wait with a number of pauses, the latest first. -/
def lookCalls : (pauses : Nat) → List Call
  | 0 => [.readWindows]
  | pauses + 1 => .readWindows :: .pause :: lookCalls pauses

/-- The handles that a look shows and that are not known yet. -/
def shownAt (known : List String) (span : τ) (browser : Browser τ) (pauses : Nat) : List String :=
  unknownHandles known (browser.atLook span pauses).windows

section

variable (span : τ) (browser : Browser τ)

@[simp]
theorem looked_clock : browser.looked.clock = browser.clock :=
  browser.catchUp_clock

@[simp]
theorem looked_calls : browser.looked.calls = .readWindows :: browser.calls := by
  simp [looked]

@[simp]
theorem rested_clock : (browser.rested span).clock = browser.clock + span :=
  congrArg (· + span) browser.looked_clock

@[simp]
theorem rested_faults : (browser.rested span).faults = browser.faults :=
  rfl

@[simp]
theorem rested_calls : (browser.rested span).calls = .pause :: .readWindows :: browser.calls :=
  congrArg (Call.pause :: ·) browser.looked_calls

theorem atLook_zero : browser.atLook span 0 = browser.looked :=
  rfl

/-- All looks but the first are those of the browser after one pause. -/
theorem atLook_succ (pauses : Nat) :
    browser.atLook span (pauses + 1) = (browser.rested span).atLook span pauses :=
  rfl

theorem iterate_rested_faults (pauses : Nat) :
    ((rested span)^[pauses] browser).faults = browser.faults := by
  induction pauses generalizing browser with
  | zero => rfl
  | succ pauses ih => rw [Function.iterate_succ_apply, ih, rested_faults]

@[simp]
theorem atLook_faults (pauses : Nat) : (browser.atLook span pauses).faults = browser.faults :=
  browser.iterate_rested_faults span pauses

/-- After some pauses the calls are the looks and the pauses in turn. -/
theorem atLook_calls (pauses : Nat) :
    (browser.atLook span pauses).calls = lookCalls pauses ++ browser.calls := by
  induction pauses with
  | zero => exact browser.looked_calls
  | succ pauses ih =>
    have hlook : (browser.atLook span pauses).calls =
        .readWindows :: ((rested span)^[pauses] browser).calls := looked_calls _
    rw [atLook, Function.iterate_succ_apply', looked_calls, rested_calls, ← hlook, ih]
    rfl

end

/-- A wait with some pauses reads the handles once more than it pauses. -/
theorem count_readWindows_lookCalls (pauses : Nat) :
    (lookCalls pauses).count .readWindows = pauses + 1 := by
  induction pauses with
  | zero => rfl
  | succ pauses ih => simp [lookCalls, ih]

theorem count_pause_lookCalls (pauses : Nat) : (lookCalls pauses).count .pause = pauses := by
  induction pauses with
  | zero => rfl
  | succ pauses ih => simp [lookCalls, ih]

/-! ## Where a wait ends -/

section

variable {known : List String} {deadline span : τ} {browser later : Browser τ}
  {shown : Except Failure (List String)}

/-- A look after which a wait goes on: there was nothing new, or an element was not found. -/
def IsBlank : Except Failure (List String) → Prop
  | .ok found => found = []
  | .error failure => failure.kind.isA .noSuchElement = true

instance : DecidablePred IsBlank
  | .ok found => inferInstanceAs (Decidable (found = []))
  | .error failure => inferInstanceAs (Decidable (failure.kind.isA .noSuchElement = true))

/-- Whatever a look comes to, the wait goes on after it only if it was blank and taken in time. -/
theorem perform_awaitNewUntil_of_look (hlook : (newWindows known).perform browser = (shown, later))
    (looks : Nat) :
    (awaitNewUntil known deadline span (looks + 1)).perform browser =
      if IsBlank shown then
        if deadline < later.clock then (.error (.of .timeout ""), later)
        else (awaitNewUntil known deadline span looks).perform ((pause span).perform later).2
      else (shown, later) := by
  have hfound : (recover (newWindows known) .noSuchElement fun _ ↦ pure []).perform browser =
      if IsBlank shown then (.ok [], later) else (shown, later) := by
    rw [perform_recover, hlook]
    cases shown with
    | ok found => by_cases hnothing : found = [] <;> simp [IsBlank, hnothing]
    | error failure => rfl
  rw [awaitNewUntil, perform_bind, hfound]
  by_cases hblank : IsBlank shown
  · simp only [if_pos hblank, ne_eq, not_true_eq_false, if_false, perform_bind, perform_get]
    by_cases hlate : deadline < later.clock
    · simp only [if_pos hlate]
      rfl
    · simp only [if_neg hlate, perform_bind]
      rfl
  · simp only [if_neg hblank]
    cases shown with
    | ok found => exact congrArg (perform · later) (if_pos hblank)
    | error failure => rfl

end

section

variable {known : List String} {deadline span : τ} {browser : Browser τ}
  (hquiet : browser.faults.readWindows = none)

include hquiet

theorem perform_newWindows_of_quiet (known : List String) :
    (newWindows known).perform browser =
      (.ok (unknownHandles known browser.looked.windows), browser.looked) := by
  have hfaults : { browser.faults with readWindows := browser.faults.readWindows.next } =
      browser.faults := by
    cases hplans : browser.faults
    simp_all
  rw [newWindows, perform_map, perform_readWindows, hfaults, hquiet]
  rfl

/-- A look ends the wait, with or without success, or is followed by a pause and the next look. -/
theorem perform_awaitNewUntil_succ (looks : Nat) :
    (awaitNewUntil known deadline span (looks + 1)).perform browser =
      if browser.shownAt known span 0 ≠ [] then
        (.ok (browser.shownAt known span 0), browser.atLook span 0)
      else if deadline < browser.clock then (.error (.of .timeout ""), browser.atLook span 0)
      else (awaitNewUntil known deadline span looks).perform (browser.rested span) := by
  rw [perform_awaitNewUntil_of_look (perform_newWindows_of_quiet hquiet known), ite_not]
  simp only [IsBlank, looked_clock]
  rfl

/-- A wait goes on after looks that were taken in time and showed nothing new. -/
theorem perform_awaitNewUntil_add {pauses : Nat} (looks : Nat)
    (hnone : ∀ earlier < pauses, browser.shownAt known span earlier = [])
    (htime : ∀ earlier < pauses, ¬deadline < (browser.atLook span earlier).clock) :
    (awaitNewUntil known deadline span (looks + pauses)).perform browser =
      (awaitNewUntil known deadline span looks).perform ((rested span)^[pauses] browser) := by
  induction pauses generalizing browser with
  | zero => rfl
  | succ pauses ih =>
    have hfirst := htime 0 pauses.succ_pos
    rw [atLook_zero, looked_clock] at hfirst
    rw [← Nat.add_assoc, perform_awaitNewUntil_succ hquiet,
      if_neg (not_not.2 (hnone 0 pauses.succ_pos)), if_neg hfirst]
    have hrested : (browser.rested span).faults.readWindows = none := hquiet
    exact ih hrested
      (fun earlier hearlier ↦ hnone (earlier + 1) (Nat.succ_lt_succ hearlier))
      (fun earlier hearlier ↦ htime (earlier + 1) (Nat.succ_lt_succ hearlier))

variable {pauses looks : Nat} (hlooks : pauses < looks)
  (htime : ∀ earlier < pauses, ¬deadline < (browser.atLook span earlier).clock)

include hlooks htime

/-- A wait ends at the first look that shows something new, unless an earlier one was taken after
the deadline. -/
theorem perform_awaitNewUntil_of_shown
    (hnone : ∀ earlier < pauses, browser.shownAt known span earlier = [])
    (hshown : browser.shownAt known span pauses ≠ []) :
    (awaitNewUntil known deadline span looks).perform browser =
      (.ok (browser.shownAt known span pauses), browser.atLook span pauses) := by
  obtain ⟨further, rfl⟩ : ∃ further, looks = further + 1 + pauses :=
    ⟨looks - pauses - 1, by omega⟩
  rw [perform_awaitNewUntil_add hquiet _ hnone htime,
    perform_awaitNewUntil_succ (iterate_rested_faults span browser pauses ▸ hquiet)]
  exact if_pos hshown

/-- A wait gives up at the first look that is taken after the deadline, if none has shown anything
new. -/
theorem perform_awaitNewUntil_of_late
    (hnone : ∀ earlier ≤ pauses, browser.shownAt known span earlier = [])
    (hlate : deadline < (browser.atLook span pauses).clock) :
    (awaitNewUntil known deadline span looks).perform browser =
      (.error (.of .timeout ""), browser.atLook span pauses) := by
  obtain ⟨further, rfl⟩ : ∃ further, looks = further + 1 + pauses :=
    ⟨looks - pauses - 1, by omega⟩
  have hnothing := hnone pauses le_rfl
  rw [atLook, looked_clock] at hlate
  rw [perform_awaitNewUntil_add hquiet _ (fun earlier hearlier ↦ hnone earlier hearlier.le) htime,
    perform_awaitNewUntil_succ (iterate_rested_faults span browser pauses ▸ hquiet), if_pos hlate]
  exact if_neg (not_not.2 hnothing)

end

/-! ## What is new, each window once -/

theorem nodup_unknownHandles (known windows : List String) :
    (unknownHandles known windows).Nodup :=
  (nodup_eraseDups windows).filter _

theorem toFinset_unknownHandles (known windows : List String) :
    (unknownHandles known windows).toFinset = windows.toFinset \ known.toFinset := by
  ext window
  simp [unknownHandles]

/-- Among finitely many looks, there is a first with a property unless none has it. -/
theorem exists_first_or_forall (property : Nat → Prop) [DecidablePred property] (last : Nat) :
    (∃ look ≤ last, (∀ earlier < look, ¬property earlier) ∧ property look) ∨
      ∀ look ≤ last, ¬property look := by
  by_cases hsome : ∃ look, property look
  · rcases Nat.lt_or_ge last (Nat.find hsome) with hlast | hlast
    · exact .inr fun look hlook ↦ Nat.find_min hsome (hlook.trans_lt hlast)
    · exact .inl ⟨Nat.find hsome, hlast, fun earlier hearlier ↦ Nat.find_min hsome hearlier,
        Nat.find_spec hsome⟩
  · exact .inr fun look _ hlook ↦ hsome ⟨look, hlook⟩

/-! ## Exact time -/

/-- The number of pauses before the last look of a wait, which is the first after the deadline;
without time to wait there is one look only. -/
def lastLook (timeout span : Rat) : Nat :=
  if 0 < timeout then ⌊timeout / span⌋₊ + 1 else 0

variable {timeout span : Rat}

/-- The last look comes after the deadline. -/
theorem lt_lastLook_mul (htimeout : 0 < timeout) (hspan : 0 < span) :
    timeout < lastLook timeout span * span := by
  rw [lastLook, if_pos htimeout, ← div_lt_iff₀ hspan]
  exact_mod_cast Nat.lt_floor_add_one (timeout / span)

/-- Every look before the last comes within the timeout. -/
theorem mul_le_of_lt_lastLook {pauses : Nat} (hspan : 0 < span)
    (hpauses : pauses < lastLook timeout span) : pauses * span ≤ timeout := by
  unfold lastLook at hpauses
  split at hpauses
  case isFalse => exact absurd hpauses pauses.not_lt_zero
  case isTrue htimeout =>
    rw [← le_div_iff₀ hspan]
    exact (Nat.le_floor_iff (div_pos htimeout hspan).le).1 (Nat.lt_succ_iff.1 hpauses)

/-- A wait takes as many looks as make sense, and no more. -/
theorem pollLimit_eq (htimeout : 0 < timeout) :
    TimeScale.pollLimit timeout span = lastLook timeout span + 1 := by
  rw [lastLook, if_pos htimeout, ← Int.floor_toNat]
  rfl

/-- A longer wait has no fewer looks. -/
theorem lastLook_mono {longer : Rat} (hspan : 0 < span) (hlonger : timeout ≤ longer) :
    lastLook timeout span ≤ lastLook longer span := by
  unfold lastLook
  by_cases htimeout : 0 < timeout
  · rw [if_pos htimeout, if_pos (htimeout.trans_le hlonger)]
    exact Nat.succ_le_succ (Nat.floor_le_floor (div_le_div_of_nonneg_right hlonger hspan.le))
  · rw [if_neg htimeout]
    exact Nat.zero_le _

/-- The clock moves on by one span for each pause. -/
theorem atLook_clock (span : Rat) (browser : Browser Rat) (pauses : Nat) :
    (browser.atLook span pauses).clock = browser.clock + pauses * span := by
  induction pauses generalizing browser with
  | zero => simp [atLook_zero]
  | succ pauses ih =>
    calc (browser.atLook span (pauses + 1)).clock
      _ = (browser.rested span).clock + pauses * span := ih (browser.rested span)
      _ = browser.clock + span + pauses * span := by rw [rested_clock]
      _ = browser.clock + (pauses + 1 : ℕ) * span := by push_cast; ring

/-- What is still to come is what is due after now. -/
theorem catchUp_pending (browser : Browser τ) :
    browser.catchUp.pending =
      browser.pending.filter fun pending ↦ !decide (pending.due ≤ browser.clock) := by
  obtain ⟨windows, active, hfold⟩ := foldl_undergo
    (browser.pending.filter fun pending ↦ decide (pending.due ≤ browser.clock))
    { browser with
      pending := browser.pending.filter fun pending ↦ !decide (pending.due ≤ browser.clock) }
  exact congrArg Browser.pending hfold

/-- At a look, what has come due by then has taken effect, and nothing else has. -/
theorem atLook_pending {span : Rat} (hspan : 0 ≤ span) (browser : Browser Rat) (pauses : Nat) :
    (browser.atLook span pauses).pending =
      browser.pending.filter fun pending ↦ browser.clock + pauses * span < pending.due := by
  have hcatchUp (browser : Browser Rat) : browser.catchUp.pending =
      browser.pending.filter fun pending ↦ browser.clock < pending.due := by
    rw [catchUp_pending]
    refine List.filter_congr fun pending _ ↦ ?_
    change (!decide (pending.due ≤ browser.clock)) = _
    simp only [← decide_not, not_le]
  induction pauses generalizing browser with
  | zero =>
    rw [Nat.cast_zero, zero_mul, add_zero]
    exact hcatchUp browser
  | succ pauses ih =>
    have hrested : (browser.rested span).pending = browser.catchUp.pending := rfl
    have hclock : browser.clock + span + pauses * span =
        browser.clock + (pauses + 1 : ℕ) * span := by push_cast; ring
    have hlater : browser.clock ≤ browser.clock + (pauses + 1 : ℕ) * span :=
      le_add_of_nonneg_right (mul_nonneg (Nat.cast_nonneg _) hspan)
    rw [atLook_succ, ih, rested_clock, hrested, hcatchUp, List.filter_filter]
    refine List.filter_congr fun pending _ ↦ ?_
    -- What is due after this look was due after the first one too.
    change (decide (browser.clock + span + pauses * span < pending.due) && _) = _
    rw [hclock, ← Bool.decide_and, decide_eq_decide]
    exact and_iff_left_of_imp hlater.trans_lt

section

variable {known : List String} {browser : Browser Rat}

/-- The last look is the first that is taken after the deadline. -/
theorem late_iff_lastLook_le {pauses : Nat} (htimeout : 0 < timeout) (hspan : 0 < span) :
    browser.clock + timeout < (browser.atLook span pauses).clock ↔
      lastLook timeout span ≤ pauses := by
  rw [atLook_clock, add_lt_add_iff_left]
  constructor
  · intro hlate
    by_contra hearly
    exact absurd (mul_le_of_lt_lastLook hspan (not_le.1 hearly)) (not_le.2 hlate)
  · intro hlast
    calc timeout
      _ < lastLook timeout span * span := lt_lastLook_mul htimeout hspan
      _ ≤ pauses * span := by gcongr

variable (hquiet : browser.faults.readWindows = none) (htimeout : 0 < timeout) (hspan : 0 < span)

include hquiet htimeout hspan

/-- Whatever bounds the number of looks, as long as it allows for the last one: a wait ends at its
first look that shows something new. -/
theorem perform_awaitNewUntil_of_le_lastLook {pauses looks : Nat}
    (hpauses : pauses ≤ lastLook timeout span) (hlooks : lastLook timeout span < looks)
    (hnone : ∀ earlier < pauses, browser.shownAt known span earlier = [])
    (hshown : browser.shownAt known span pauses ≠ []) :
    (awaitNewUntil known (browser.clock + timeout) span looks).perform browser =
      (.ok (browser.shownAt known span pauses), browser.atLook span pauses) := by
  refine perform_awaitNewUntil_of_shown hquiet (hpauses.trans_lt hlooks) ?_ hnone hshown
  intro earlier hearlier
  rw [late_iff_lastLook_le htimeout hspan]
  omega

/-- Whatever bounds the number of looks, as long as it allows for the last one: a wait gives up at
its last look if none has shown anything new. -/
theorem perform_awaitNewUntil_of_forall_lastLook {looks : Nat}
    (hlooks : lastLook timeout span < looks)
    (hnone : ∀ pauses ≤ lastLook timeout span, browser.shownAt known span pauses = []) :
    (awaitNewUntil known (browser.clock + timeout) span looks).perform browser =
      (.error (.of .timeout ""), browser.atLook span (lastLook timeout span)) := by
  refine perform_awaitNewUntil_of_late hquiet hlooks ?_ hnone ?_
  · intro earlier hearlier
    rw [late_iff_lastLook_le htimeout hspan]
    omega
  · rw [late_iff_lastLook_le htimeout hspan]

/-- A wait ends at the first look that shows something. -/
theorem perform_awaitNew_of_shown {pauses : Nat} (hpauses : pauses ≤ lastLook timeout span)
    (hnone : ∀ earlier < pauses, browser.shownAt known span earlier = [])
    (hshown : browser.shownAt known span pauses ≠ []) :
    (awaitNew known timeout span).perform browser =
      (.ok (browser.shownAt known span pauses), browser.atLook span pauses) := by
  rw [awaitNew, perform_bind, perform_get, pollLimit_eq htimeout]
  exact perform_awaitNewUntil_of_le_lastLook hquiet htimeout hspan hpauses (Nat.lt_succ_self _)
    hnone hshown

/-- A wait in which no look shows anything ends with a timeout, after the last look. -/
theorem perform_awaitNew_of_forall
    (hnone : ∀ pauses ≤ lastLook timeout span, browser.shownAt known span pauses = []) :
    (awaitNew known timeout span).perform browser =
      (.error (.of .timeout ""), browser.atLook span (lastLook timeout span)) := by
  rw [awaitNew, perform_bind, perform_get, pollLimit_eq htimeout]
  exact perform_awaitNewUntil_of_forall_lastLook hquiet htimeout hspan (Nat.lt_succ_self _) hnone

/-- A wait ends of its own accord: no bound on the number of looks that allows for the last one is
ever met. -/
theorem perform_awaitNewUntil_eq {looks : Nat} (hlooks : lastLook timeout span < looks) :
    (awaitNewUntil known (browser.clock + timeout) span looks).perform browser =
      (awaitNew known timeout span).perform browser := by
  rcases exists_first_or_forall (fun pauses ↦ browser.shownAt known span pauses ≠ [])
    (lastLook timeout span) with ⟨pauses, hpauses, hnone, hshown⟩ | hnone
  · simp only [not_not] at hnone
    rw [perform_awaitNewUntil_of_le_lastLook hquiet htimeout hspan hpauses hlooks hnone hshown,
      perform_awaitNew_of_shown hquiet htimeout hspan hpauses hnone hshown]
  · simp only [not_not] at hnone
    rw [perform_awaitNewUntil_of_forall_lastLook hquiet htimeout hspan hlooks hnone,
      perform_awaitNew_of_forall hquiet htimeout hspan hnone]

end

end Browser

end BrowserControl
