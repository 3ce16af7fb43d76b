import BrowserControl.Proofs.Decimal.WholeNumbers
import BrowserControl.Proofs.Window.Silence
import BrowserControl.Proofs.Window.Faultless

/-!
# Using Accepted Settings

Settings are checked when they are loaded, and put to use later: the times when they are put on the scale,
the level when a session starts.  The checks refuse what compares as too small, and what is not of the
right kind.  So accepted settings can be used, except in three respects.  A time that is no number
compares with nothing, and passes; a whole number of any size passes, also if no binary64 number is next
to it; and any text passes as a level, whether or not it names a threshold.
-/

namespace BrowserControl

open Attempt

/-! ## Times -/

namespace Seconds

/-- The span can be put on the scale, as a number. -/
def IsMeasurable : Seconds Float → Prop
  | whole number => number.natAbs < Decimal.overflowThreshold
  | measured span => span.isNaN = false

instance : DecidablePred IsMeasurable
  | whole number => inferInstanceAs (Decidable (number.natAbs < Decimal.overflowThreshold))
  | measured span => inferInstanceAs (Decidable (span.isNaN = false))

def IsNotBelowZero : Seconds Float → Prop
  | whole number => ¬number < 0
  | measured span => ¬span < 0

def IsNotZero : Seconds Float → Prop
  | whole number => ¬(number == 0) = true
  | measured span => ¬(span == 0) = true

variable {seconds : Seconds Float}

/-- A whole number is on the scale if it is a float. -/
theorem onScale_whole_eq_ok_iff {number : Int} {span : Float} :
    (whole number).onScale = .ok span ↔ Decimal.ofInt? number = some span := by
  have hscale : TimeScale.ofInt? number = Decimal.ofInt? number := rfl
  simp only [onScale]
  rw [hscale]
  cases Decimal.ofInt? number <;> simp

/-- What has come out of a span as a number not below zero was there to be measured. -/
theorem isMeasurable_of_onScale {span : Float} (hscale : seconds.onScale = .ok span)
    (hspan : 0 ≤ span) : seconds.IsMeasurable := by
  cases seconds with
  | whole number => exact (Decimal.exists_ofInt?_iff number).1 ⟨span, onScale_whole_eq_ok_iff.1 hscale⟩
  | measured given =>
    obtain rfl := Except.ok.inj hscale
    exact Decimal.isNaN_eq_false_of_zero_le hspan

theorem IsMeasurable.exists_zero_le (hmeasurable : seconds.IsMeasurable)
    (hseconds : seconds.IsNotBelowZero) : ∃ span, seconds.onScale = .ok span ∧ 0 ≤ span := by
  cases seconds with
  | whole number =>
    obtain ⟨span, hspan⟩ := (Decimal.exists_ofInt?_iff number).2 hmeasurable
    exact ⟨span, onScale_whole_eq_ok_iff.2 hspan,
      Decimal.zero_le_of_ofInt?_eq_some (Int.not_lt.1 hseconds) hspan⟩
  | measured span => exact ⟨span, rfl, Decimal.zero_le_of_not_lt hseconds hmeasurable⟩

theorem IsMeasurable.exists_zero_lt (hmeasurable : seconds.IsMeasurable)
    (hseconds : seconds.IsNotBelowZero) (hne : seconds.IsNotZero) :
    ∃ span, seconds.onScale = .ok span ∧ 0 < span := by
  cases seconds with
  | whole number =>
    have hpos : 0 < number :=
      lt_of_le_of_ne (Int.not_lt.1 hseconds) fun hzero ↦ hne (beq_iff_eq.2 hzero.symm)
    obtain ⟨span, hspan⟩ := (Decimal.exists_ofInt?_iff number).2 hmeasurable
    exact ⟨span, onScale_whole_eq_ok_iff.2 hspan, Decimal.zero_lt_of_ofInt?_eq_some hpos hspan⟩
  | measured span => exact ⟨span, rfl, Decimal.zero_lt_of_not_lt hseconds hne hmeasurable⟩

end Seconds

/-! ## Levels -/

/-- The thresholds that can be asked for are the levels. -/
theorem exists_requestedThreshold_iff {level : List Text.CodePoint} :
    (∃ threshold, requestedThreshold level = .ok threshold) ↔ IsLevel level := by
  refine ⟨?_, IsLevel.exists_requestedThreshold⟩
  rintro ⟨threshold, hthreshold⟩
  simp only [requestedThreshold] at hthreshold
  split at hthreshold
  · next hempty => exact .inl (List.isEmpty_iff.1 hempty)
  · split at hthreshold
    · next entry hentry =>
      have hname := List.find?_some hentry
      exact .inr ⟨entry, List.mem_of_find?_eq_some hentry, of_decide_eq_true hname⟩
    · contradiction

/-- A level sets the threshold of a log if it is one, and otherwise is refused. -/
theorem Journal.exists_perform_setThreshold_iff {level : List Text.CodePoint} (journal : Journal) :
    (∃ later, (setThreshold level).perform journal = (.ok (), later)) ↔ IsLevel level := by
  constructor
  · rintro ⟨later, hset⟩
    obtain ⟨threshold, _, hthreshold, -⟩ := bind_eq_ok hset
    rw [perform_ofExcept] at hthreshold
    exact exists_requestedThreshold_iff.1 ⟨threshold, congrArg Prod.fst hthreshold⟩
  · intro hlevel
    obtain ⟨threshold, hthreshold⟩ := hlevel.exists_requestedThreshold
    unfold setThreshold
    rw [perform_bind, perform_ofExcept, hthreshold]
    cases threshold <;> exact ⟨_, rfl⟩

namespace Session

variable {settings : Settings Float} {desktop : Desktop Float}

/-- A session starts with any settings whose level is one, if the active window is open. -/
theorem exists_perform_start (hlevel : IsLevel settings.level)
    (hquiet : desktop.browser.faults = .quiet)
    (hopen : desktop.browser.catchUp.active ∈ desktop.browser.catchUp.windows) :
    ∃ session later, (start (some settings)).perform desktop = (.ok session, later) := by
  obtain ⟨journal, hadopt⟩ := (Journal.exists_perform_setThreshold_iff desktop.journal).2 hlevel
  obtain ⟨first, hfirst, hshows⟩ := Browser.perform_readWindows_of_quiet hquiet
  obtain ⟨second, hsecond, -⟩ := hshows.perform_readActive hopen
  unfold start adoptLevel Desktop.onBrowser Desktop.onJournal
  simp only [perform_bind, perform_pure, perform_onPart, hadopt, hfirst, hsecond]
  exact ⟨_, _, rfl⟩

/-- No session starts with settings whose level is none. -/
theorem isLevel_of_perform_start_eq_ok {session : Session Float} {later : Desktop Float}
    (hstart : (start (some settings)).perform desktop = (.ok session, later)) :
    IsLevel settings.level := by
  obtain ⟨_, adopted, hadopt, -⟩ := bind_eq_ok hstart
  have houtcome : ((Journal.setThreshold settings.level).perform desktop.journal).1 = .ok () :=
    congrArg Prod.fst hadopt
  exact (Journal.exists_perform_setThreshold_iff desktop.journal).1 ⟨_, Prod.ext houtcome rfl⟩

end Session

namespace Settings

/-! ## What the checks establish -/

/-- Settings that have passed the checks: neither time compares as too small. -/
structure IsChecked (settings : Settings Float) : Prop where
  newWindowTimeout : settings.newWindowTimeout.IsNotBelowZero
  pollFrequency : settings.pollFrequency.IsNotBelowZero
  pollFrequency_ne_zero : settings.pollFrequency.IsNotZero

/-- Seconds that pass are not below zero, which NaN is not either. -/
theorem isNotBelowZero_of_checkSeconds {key : String} {value : Json.Value} {seconds : Seconds Float}
    (hcheck : checkSeconds key value = .ok seconds) : seconds.IsNotBelowZero := by
  unfold checkSeconds at hcheck
  split at hcheck
  · split at hcheck
    · contradiction
    · next hnumber =>
      obtain rfl := Except.ok.inj hcheck
      exact hnumber
  · split at hcheck
    · contradiction
    · next hnumber =>
      obtain rfl := Except.ok.inj hcheck
      exact hnumber
  · contradiction

theorem isNotZero_of_checkNonzero {key : String} {seconds : Seconds Float}
    (hcheck : checkNonzero key seconds = .ok ()) : seconds.IsNotZero := by
  cases seconds with
  | whole number =>
    simp only [checkNonzero] at hcheck
    split at hcheck
    · contradiction
    · next hnumber => exact hnumber
  | measured span =>
    simp only [checkNonzero] at hcheck
    split at hcheck
    · contradiction
    · next hspan => exact hspan

/-- A computation in two parts succeeds only if both parts do. -/
theorem exists_of_bind_eq_ok {α β : Type} {first : Except Failure α} {next : α → Except Failure β}
    {value : β} (hbind : (first >>= next) = .ok value) :
    ∃ found, first = .ok found ∧ next found = .ok value := by
  cases first with
  | error failure => contradiction
  | ok found => exact ⟨found, rfl, hbind⟩

/-- Settings only come from values that have been checked. -/
theorem isChecked_of_ofValues {timeout pause level : Json.Value} {settings : Settings Float}
    (hvalues : ofValues timeout pause level = .ok settings) : settings.IsChecked := by
  obtain ⟨newWindowTimeout, htimeout, hrest⟩ := exists_of_bind_eq_ok hvalues
  obtain ⟨pollFrequency, hpause, hrest⟩ := exists_of_bind_eq_ok hrest
  obtain ⟨_, hnonzero, hrest⟩ := exists_of_bind_eq_ok hrest
  obtain ⟨logLevel, -, hsettings⟩ := exists_of_bind_eq_ok hrest
  obtain rfl := Except.ok.inj hsettings
  exact
    { newWindowTimeout := isNotBelowZero_of_checkSeconds htimeout
      pollFrequency := isNotBelowZero_of_checkSeconds hpause
      pollFrequency_ne_zero := isNotZero_of_checkNonzero hnonzero }

/-- An object without members makes the standard settings. -/
theorem ofMembers_nil : ofMembers [] = .ok standard :=
  rfl

/-- Whatever settings are loaded have passed the checks, the standard ones as well. -/
theorem isChecked_of_load {source : Source} {settings : Settings Float}
    (hload : load source = .ok settings) : settings.IsChecked := by
  cases source with
  | nowhere =>
    obtain rfl := Except.ok.inj hload
    exact isChecked_of_ofValues ofMembers_nil
  | missing => contradiction
  | directory => contradiction
  | file octets =>
    simp only [load, ofOctets] at hload
    split at hload
    · next text htext =>
      obtain ⟨value, -, hvalue⟩ := exists_of_bind_eq_ok hload
      cases value with
      | object members => exact isChecked_of_ofValues hvalue
      | _ => contradiction
    · contradiction

/-! ## Use -/

/-- Settings can be used: the time to wait can be read and is not below zero, the pause can be read
and is above zero, and a session starts with the settings in every browser without faults whose
active window is open once due events have taken effect.  The level can always be read. -/
structure IsUsable (settings : Settings Float) : Prop where
  timeout : ∃ span, settings.timeout = .ok span ∧ 0 ≤ span
  pause : ∃ span, settings.pause = .ok span ∧ 0 < span
  starts : ∀ desktop : Desktop Float, desktop.browser.faults = .quiet →
    desktop.browser.catchUp.active ∈ desktop.browser.catchUp.windows →
      ∃ session later, (Session.start (some settings)).perform desktop = (.ok session, later)

/-- Settings that can be used have times that can be measured and a level, wherever they are from. -/
theorem IsUsable.isMeasurable_and_isLevel {settings : Settings Float} (husable : settings.IsUsable) :
    settings.newWindowTimeout.IsMeasurable ∧ settings.pollFrequency.IsMeasurable ∧
      IsLevel settings.level := by
  obtain ⟨span, htimeout, hspan⟩ := husable.timeout
  obtain ⟨pause, hpause, hpos⟩ := husable.pause
  -- any browser will do that lets a session start
  obtain ⟨session, later, hstart⟩ := husable.starts
    ⟨Browser.fresh ["main"] "main", Journal.fresh⟩ rfl (List.mem_singleton.2 rfl)
  exact ⟨Seconds.isMeasurable_of_onScale htimeout hspan,
    Seconds.isMeasurable_of_onScale hpause (Decimal.zero_le_of_zero_lt hpos),
    Session.isLevel_of_perform_start_eq_ok hstart⟩

/-- Settings that have been loaded can be used exactly if both times are numbers on the scale and
the level, in capitals, names a threshold or is empty. -/
theorem isUsable_iff_of_load {source : Source} {settings : Settings Float}
    (hload : load source = .ok settings) :
    settings.IsUsable ↔ settings.newWindowTimeout.IsMeasurable ∧
      settings.pollFrequency.IsMeasurable ∧ IsLevel settings.level := by
  have hchecked : settings.IsChecked := isChecked_of_load hload
  refine ⟨IsUsable.isMeasurable_and_isLevel, ?_⟩
  rintro ⟨htimeout, hpause, hlevel⟩
  exact
    { timeout := htimeout.exists_zero_le hchecked.newWindowTimeout
      pause := hpause.exists_zero_lt hchecked.pollFrequency hchecked.pollFrequency_ne_zero
      starts := fun desktop hquiet hopen ↦ Session.exists_perform_start hlevel hquiet hopen }

theorem exists_load_of_map {β : Type} {source : Source} {read : Settings Float → β} {value : β}
    (hmap : (load source).map read = .ok value) :
    ∃ settings, load source = .ok settings ∧ read settings = value := by
  cases hload : load source with
  | error failure =>
    rw [hload] at hmap
    contradiction
  | ok settings =>
    rw [hload] at hmap
    exact ⟨settings, rfl, Except.ok.inj hmap⟩

def Source.ofText (text : String) : Source :=
  .file text.toUTF8.data.toList

/-- A document with a whole number, a number with a fraction, and a level in small letters. -/
def plainDocument : String :=
  "\x7b\"new_window_timeout\": 3, \"poll_frequency\": 0.1, \"log_level\": \"debug\"\x7d"

/-- A plain document makes settings that can be used. -/
theorem plainDocument_isUsable :
    ∃ settings, load (.ofText plainDocument) = .ok settings ∧ settings.IsUsable := by
  have hread : (load (.ofText plainDocument)).map (fun settings ↦
      decide (settings.newWindowTimeout.IsMeasurable ∧ settings.pollFrequency.IsMeasurable ∧
        IsLevel settings.level)) = .ok true := by decide +kernel
  obtain ⟨settings, hload, hsound⟩ := exists_load_of_map hread
  exact ⟨settings, hload, (isUsable_iff_of_load hload).2 (of_decide_eq_true hsound)⟩

/-- A document is accepted, but makes settings that cannot be used. -/
def Slips (document : String) : Prop :=
  ∃ settings, load (.ofText document) = .ok settings ∧ ¬settings.IsUsable

theorem slips_of_map {document : String}
    (hmap : (load (.ofText document)).map (fun settings ↦
      decide (settings.newWindowTimeout.IsMeasurable ∧ settings.pollFrequency.IsMeasurable ∧
        IsLevel settings.level)) = .ok false) : Slips document := by
  obtain ⟨settings, hload, hunsound⟩ := exists_load_of_map hmap
  exact ⟨settings, hload, fun husable ↦
    of_decide_eq_false hunsound husable.isMeasurable_and_isLevel⟩

/-- A pause that is no number, a time to wait that no binary64 number is next to, and a level that
names no threshold slip through the checks. -/
theorem nearMisses_slip :
    Slips "\x7b\"poll_frequency\": NaN\x7d" ∧
      Slips ("\x7b\"new_window_timeout\": " ++ toString (10 ^ 309) ++ "\x7d") ∧
      Slips "\x7b\"log_level\": \"x\"\x7d" :=
  ⟨slips_of_map (by decide +kernel), slips_of_map (by decide +kernel),
    slips_of_map (by decide +kernel)⟩

end Settings

end BrowserControl
