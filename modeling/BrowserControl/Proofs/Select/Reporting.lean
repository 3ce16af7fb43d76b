import BrowserControl.Proofs.Select.Parts
import BrowserControl.Proofs.Select.Selecting

/-!
# Faults Stop a Request and Are Reported

What a request asks of a box, and what it comes to, is settled by what the box is like; a fault can do no
more than end the request at a call.  So whatever faults are planned, the calls are those that are made
without faults, up to the first one that a fault strikes (`Box.Interruptible`).  What has been
clicked until then stays clicked.

A failure is reported in words of the control's own if it says that some element was not found, and
comes out as it is otherwise; the reason is kept as the cause (`Request.report`).  There is one gap: the
report on a choice that cannot be deselected by its index has to write the index, and fails for one
with too many digits (`Control.isForthright_iff`).
-/

namespace BrowserControl.Select

open Attempt

namespace Box

/-! ## Calls one after the other -/

/-- The box after some calls, one after the other, that no fault strikes. -/
def after (calls : List BoxCall) (box : Box) : Box :=
  calls.foldl (fun box call ↦ box.undergo call) box

/-- No fault strikes at some calls, one after the other. -/
def LetsPass (box : Box) : List BoxCall → Prop
  | [] => True
  | call :: rest => (box.plan call).outcome = .ok () ∧ (box.undergo call).LetsPass rest

section

variable (box : Box) (calls further : List BoxCall)

theorem after_append : box.after (calls ++ further) = (box.after calls).after further :=
  List.foldl_append

theorem letsPass_append :
    box.LetsPass (calls ++ further) ↔ box.LetsPass calls ∧ (box.after calls).LetsPass further := by
  induction calls generalizing box with
  | nil => simp [LetsPass, after]
  | cons call rest ih => simp only [List.cons_append, LetsPass, ih, and_assoc, after, List.foldl]

/-- Up to faults, calls leave the same box as they do without any. -/
theorem stilled_after : (box.after calls).stilled = box.stilled.after calls := by
  induction calls generalizing box with
  | nil => rfl
  | cons call rest ih =>
    calc
      ((box.undergo call).after rest).stilled = (box.undergo call).stilled.after rest := ih _
      _ = (box.stilled.undergo call).after rest := by rw [stilled_undergo]

theorem calls_undergo (call : BoxCall) : (box.undergo call).calls = call :: box.calls := by
  cases call with
  | click position selected enabled =>
    unfold undergo
    rw [calls_clicked, calls_noting]
  | _ => exact box.calls_noting _

theorem calls_after : (box.after calls).calls = calls.reverse ++ box.calls := by
  induction calls generalizing box with
  | nil => rfl
  | cons call rest ih =>
    calc
      ((box.undergo call).after rest).calls = rest.reverse ++ (box.undergo call).calls := ih _
      _ = (call :: rest).reverse ++ box.calls := by rw [calls_undergo]; simp

end

/-! ## Attempts that faults cut short -/

/-- At one of some calls a fault strikes, and at none before it.  An attempt makes the calls up to that
one, and fails as the fault does. -/
def StopsAmong {α : Type} (box : Box) (attempt : Attempt Box α) (calls : List BoxCall) : Prop :=
  ∃ before call later failure, calls = before ++ call :: later ∧ box.LetsPass before ∧
    ((box.after before).plan call).outcome = .error failure ∧
    attempt.perform box = (.error failure, (box.after before).noting call)

/-- Whatever faults are planned, an attempt makes the calls that it makes without them, one after the
other, and comes to the same outcome, unless a fault strikes at one of the calls. -/
def Interruptible {α : Type} (attempt : Attempt Box α) : Prop :=
  ∀ box : Box, ∃ calls outcome,
    attempt.perform box.stilled = (outcome, box.stilled.after calls) ∧
      (box.LetsPass calls ∧ attempt.perform box = (outcome, box.after calls) ∨
        box.StopsAmong attempt calls)

section

variable {α β : Type} {box : Box} {calls further : List BoxCall}

/-- What is stopped does not go on. -/
theorem StopsAmong.bind {first : Attempt Box α} (hstops : box.StopsAmong first calls)
    (next : α → Attempt Box β) (further : List BoxCall) :
    box.StopsAmong (first >>= next) (calls ++ further) := by
  obtain ⟨before, call, later, failure, rfl, hpass, hstrikes, hperform⟩ := hstops
  refine ⟨before, call, later ++ further, failure, ?_, hpass, hstrikes, ?_⟩
  · rw [List.append_assoc, List.cons_append]
  · rw [perform_bind, hperform]

/-- What has gone on after its first calls may be stopped at a later one. -/
theorem StopsAmong.bind_of_pass {first : Attempt Box α} {next : α → Attempt Box β} {value : α}
    (hpass : box.LetsPass calls) (hfirst : first.perform box = (.ok value, box.after calls))
    (hstops : (box.after calls).StopsAmong (next value) further) :
    box.StopsAmong (first >>= next) (calls ++ further) := by
  obtain ⟨before, call, later, failure, rfl, hbefore, hstrikes, hperform⟩ := hstops
  refine ⟨calls ++ before, call, later, failure, ?_, ?_, ?_, ?_⟩
  · rw [List.append_assoc]
  · exact (box.letsPass_append calls before).2 ⟨hpass, hbefore⟩
  · rwa [after_append]
  · rw [perform_bind, hfirst, after_append]
    exact hperform

theorem interruptible_ofExcept (outcome : Except Failure α) :
    Interruptible (Attempt.ofExcept outcome) :=
  fun box ↦ ⟨[], outcome, perform_ofExcept outcome _, .inl ⟨trivial, perform_ofExcept outcome box⟩⟩

/-- A sequence can be interrupted wherever one of its parts can. -/
theorem Interruptible.bind {first : Attempt Box α} {next : α → Attempt Box β}
    (hfirst : Interruptible first) (hnext : ∀ value, Interruptible (next value)) :
    Interruptible (first >>= next) := by
  intro box
  obtain ⟨calls, outcome, hstilled, hfirst⟩ := hfirst box
  cases outcome with
  | error failure =>
    refine ⟨calls, .error failure, by rw [perform_bind, hstilled], ?_⟩
    rcases hfirst with ⟨hpass, hperform⟩ | hstops
    · exact .inl ⟨hpass, by rw [perform_bind, hperform]⟩
    · have hbind := hstops.bind next []
      rw [List.append_nil] at hbind
      exact .inr hbind
  | ok value =>
    obtain ⟨further, outcome, hstilled', hnext⟩ := hnext value (box.after calls)
    rw [stilled_after] at hstilled'
    refine ⟨calls ++ further, outcome, ?_, ?_⟩
    · rw [perform_bind, hstilled, after_append]
      exact hstilled'
    rcases hfirst with ⟨hpass, hperform⟩ | hstops
    · rcases hnext with ⟨hpass', hperform'⟩ | hstops
      · refine .inl ⟨(box.letsPass_append calls further).2 ⟨hpass, hpass'⟩, ?_⟩
        rw [perform_bind, hperform, after_append]
        exact hperform'
      · exact .inr (.bind_of_pass hpass hperform hstops)
    · exact .inr (hstops.bind next further)

/-- What consists of a single call is cut short by a fault at this call. -/
theorem interruptible_of_perform {attempt : Attempt Box α} (call : Box → BoxCall)
    {answer : Box → Except Failure α} (hcall : ∀ box : Box, call box.stilled = call box)
    (hanswer : ∀ box : Box, answer box.stilled = answer box)
    (hperform : ∀ box : Box, attempt.perform box =
      match (box.plan (call box)).outcome with
      | .ok _ => (answer box, box.undergo (call box))
      | .error failure => (.error failure, box.noting (call box))) :
    Interruptible attempt := by
  intro box
  refine ⟨[call box], answer box, ?_, ?_⟩
  · rw [hperform, plan_stilled, hanswer, hcall]
    rfl
  · have hbox := hperform box
    cases hplan : (box.plan (call box)).outcome with
    | ok _ =>
      rw [hplan] at hbox
      exact .inl ⟨⟨hplan, trivial⟩, hbox⟩
    | error failure =>
      rw [hplan] at hbox
      exact .inr ⟨[], call box, [], failure, rfl, trivial, hplan, hbox⟩

theorem Asks.interruptible {attempt : Attempt Box α} {call : BoxCall}
    {answer : Box → Except Failure α} (hasks : Asks attempt call answer) :
    Interruptible attempt := by
  apply interruptible_of_perform (fun _ ↦ call) (fun _ ↦ rfl) hasks.answer_stilled
  intro box
  rw [hasks.perform_eq, undergo_of_click?_eq_none box call hasks.click?_eq]
  cases (box.plan call).outcome <;> rfl

theorem interruptible_click (position : Nat) : Interruptible (click position) :=
  interruptible_of_perform (fun box ↦ box.clickAt position) (fun box ↦ box.clickAt_stilled position)
    (fun _ ↦ rfl) fun box ↦ box.perform_click position

/-- What is put together from parts is cut short where a part is cut short. -/
theorem isInherited_interruptible : IsInherited fun _ attempt ↦ Interruptible attempt where
  pure value := interruptible_ofExcept (.ok value)
  throw failure := interruptible_ofExcept (.error failure)
  bind := Interruptible.bind
  asks := Asks.interruptible

end

/-- The same box, as it is before anything is recorded. -/
def unasked (box : Box) : Box :=
  { box with calls := [] }

/-- An attempt on a box compared with the same attempt without faults.  Either no fault strikes at the
calls that are made there, and outcome and calls are the same; or the calls are the same up to the first
one that a fault strikes, no more are made, and what comes out is the report on the failure of the
fault.  The box is left as these calls leave it. -/
def IsCutShort {α : Type} (box : Box) (report : Failure → Failure) (attempt : Attempt Box α) : Prop :=
  let (expected, calls, _) := box.stilled.observe attempt
  let (outcome, asked, left) := box.observe attempt
  box.unasked.LetsPass calls ∧ outcome = expected ∧ asked = calls ∧
      left = box.unasked.after calls ∨
    ∃ before call later failure, calls = before ++ call :: later ∧ box.unasked.LetsPass before ∧
      ((box.unasked.after before).plan call).outcome = .error failure ∧
      outcome = .error (report failure) ∧ asked = before ++ [call] ∧
      left = (box.unasked.after before).noting call

theorem observe_of_perform {α : Type} {attempt : Attempt Box α} {box left : Box}
    {outcome : Except Failure α} {asked : List BoxCall}
    (hperform : attempt.perform box.unasked = (outcome, left)) (hasked : left.calls = asked.reverse) :
    box.observe attempt = (outcome, asked, left) := by
  have hreverse : left.calls.reverse = asked := by rw [hasked, List.reverse_reverse]
  unfold unasked at hperform
  unfold observe
  rw [hperform]
  exact congrArg (fun asked ↦ (outcome, asked, left)) hreverse

theorem calls_after_unasked (box : Box) (calls : List BoxCall) :
    (box.unasked.after calls).calls = calls.reverse := by
  rw [calls_after]
  exact List.append_nil _

/-- What is cut short is still cut short if its failures are reported in other words. -/
theorem Interruptible.isCutShort {α : Type} {attempt reported : Attempt Box α}
    {report : Failure → Failure} {box : Box} (hattempt : Interruptible attempt)
    (hreported : ∀ start ∈ [box.unasked, box.unasked.stilled], reported.perform start =
      ((attempt.perform start).1.mapError report, (attempt.perform start).2)) :
    box.IsCutShort report reported := by
  have hstart := hreported box.unasked (by simp)
  have hstilled := hreported box.unasked.stilled (by simp)
  obtain ⟨calls, outcome, hperform, hcases⟩ := hattempt box.unasked
  rw [hperform] at hstilled
  have hexpected : box.stilled.observe reported =
      (outcome.mapError report, calls, box.unasked.stilled.after calls) :=
    observe_of_perform hstilled (box.stilled.calls_after_unasked calls)
  unfold IsCutShort
  rcases hcases with ⟨hpass, hperform⟩ | ⟨before, call, later, failure, heq, hpass, hstrikes, hperform⟩
  · rw [hperform] at hstart
    rw [hexpected, observe_of_perform hstart (box.calls_after_unasked calls)]
    exact .inl ⟨hpass, rfl, rfl, rfl⟩
  · rw [hperform] at hstart
    have hasked : ((box.unasked.after before).noting call).calls = (before ++ [call]).reverse := by
      rw [calls_noting, calls_after_unasked, List.reverse_append]
      rfl
    rw [hexpected, observe_of_perform hstart hasked]
    exact .inr ⟨before, call, later, failure, heq, hpass, hstrikes, rfl, rfl, rfl⟩

end Box

namespace Picker

open Box

/-! ## Requests -/

def select (picker : Picker) : Criterion → Attempt Box Unit
  | .value content => picker.selectByValue content
  | .index number => selectByIndex number
  | .text shown => picker.selectByText shown

def deselect (picker : Picker) : Criterion → Attempt Box Unit
  | .value content => picker.deselectByValue content
  | .index number => picker.deselectByIndex number
  | .text shown => picker.deselectByText shown

theorem interruptible_unsetSelected (position : Nat) : Interruptible (unsetSelected position) := by
  refine asks_isSelected.interruptible.bind fun selected ↦ ?_
  cases selected with
  | true => exact interruptible_click position
  | false => exact interruptible_ofExcept (.ok ())

theorem interruptible_setSelected (position : Nat) : Interruptible (setSelected position) := by
  refine asks_isSelected.interruptible.bind fun selected ↦ ?_
  cases selected with
  | true => exact interruptible_ofExcept (.ok ())
  | false =>
    refine asks_isEnabled.interruptible.bind fun enabled ↦ ?_
    cases enabled with
    | true => exact interruptible_click position
    | false => exact interruptible_ofExcept (.error _)

theorem interruptible_select (picker : Picker) (criterion : Criterion) :
    Interruptible (picker.select criterion) := by
  have hinherited := isInherited_interruptible
  have hset := interruptible_setSelected
  cases criterion with
  | value content => exact inherits_selectByValue hinherited hset picker content
  | index number => exact inherits_selectByIndex hinherited hset number
  | text shown => exact inherits_selectByText hinherited hset picker shown

theorem interruptible_deselect (picker : Picker) (criterion : Criterion) :
    Interruptible (picker.deselect criterion) := by
  have hinherited := isInherited_interruptible
  have hunset := interruptible_unsetSelected
  cases criterion with
  | value content => exact inherits_deselectByValue hinherited hunset picker content
  | index number => exact inherits_deselectByIndex hinherited hunset picker number
  | text shown => exact inherits_deselectByText hinherited hunset picker shown

end Picker

def Criterion.IsWritable : Criterion → Prop
  | index number => (Criterion.index number).IsPlain
  | _ => True

namespace Request

/-- A failure of this request is reported in words of the control's own if some element was not found. -/
def IsReported : Request → Prop
  | firstSelected | select _ | deselect _ => True
  | _ => False

/-- What callers are told of a failure. -/
def report : Request → Failure → Failure
  | firstSelected, failure =>
    if failure.kind.isA .noSuchElement then
      failure.reportedAs .noSelection "No options are selected"
    else failure
  | select criterion, failure | deselect criterion, failure => criterion.report failure
  | _, failure => failure

/-- If the box has to be multiple for a request, it is, and it can be asked. -/
def LetsIn (box : Box) : Request → Prop
  | deselect _ | deselectAll => box.isMultiple = true ∧ (box.plan .readMultiple).outcome = .ok ()
  | _ => True

/-- The report on a choice that is not found can be written. -/
def IsWritable : Request → Prop
  | deselect criterion => criterion.IsWritable
  | _ => True

end Request

namespace Control

/-- What is done for a request, before failures are reported. -/
def unreported (control : Control) : Request → Attempt Box Answer
  | .firstSelected => .choice <$> Picker.firstSelected
  | .select criterion => (fun _ ↦ .done) <$> control.picker.select criterion
  | .deselect criterion => (fun _ ↦ .done) <$> do
    requireMultiple "deselect options"
    control.picker.deselect criterion
  | request => control.respond request

/-- What is reported by a control on an attempt that goes by a criterion. -/
def reported (attempt : Attempt Box Unit) : Criterion → Attempt Box Unit
  | .value content => reportMissing ("value: " ++ content) attempt
  | .index number => reportMissingIndex number attempt
  | .text shown => reportMissing ("visible text: " ++ shown) attempt

theorem select_eq (control : Control) (criterion : Criterion) :
    control.select criterion = reported (control.picker.select criterion) criterion := by
  cases criterion <;> rfl

theorem deselect_eq (control : Control) (criterion : Criterion) :
    control.deselect criterion = (requireMultiple "deselect options" >>= fun _ ↦
      reported (control.picker.deselect criterion) criterion) := by
  cases criterion <;> rfl

/-- With an index that can be written, reporting is recovery from a missing element. -/
theorem reported_eq {criterion : Criterion} (hwritable : criterion.IsWritable)
    (attempt : Attempt Box Unit) :
    reported attempt criterion = Attempt.recover attempt .noSuchElement fun failure ↦
      throw (failure.reportedAs .optionNotFound
        ("Cannot locate option with " ++ criterion.inWords)) := by
  cases criterion with
  | value content => rfl
  | text shown => rfl
  | index number =>
    change Attempt.recover attempt .noSuchElement _ = _
    congr 1
    funext failure
    rw [Picker.writeIndex_eq_pure hwritable, pure_bind, Criterion.inWords, ← String.append_assoc]
    rfl

/-- Failures are reported as the criterion says, provided that the report can be written or that it is
not called for. -/
theorem perform_reported {criterion : Criterion} {attempt : Attempt Box Unit} {box : Box}
    (hreport : criterion.IsWritable ∨ ∀ failure, (attempt.perform box).1 = .error failure →
      failure.kind.isA .noSuchElement = false) :
    (reported attempt criterion).perform box =
      ((attempt.perform box).1.mapError criterion.report, (attempt.perform box).2) := by
  rcases hreport with hwritable | hother
  · rw [reported_eq hwritable, perform_recover_throw]
    rfl
  · obtain ⟨handle, hhandle⟩ : ∃ handle,
        reported attempt criterion = Attempt.recover attempt .noSuchElement handle := by
      cases criterion <;> exact ⟨_, rfl⟩
    rw [hhandle, perform_recover]
    generalize attempt.perform box = result at hother ⊢
    rcases result with ⟨failure | value, later⟩
    · have hkind := hother failure rfl
      have hreport : criterion.report failure = failure := if_neg (by simp [hkind])
      simp only [hkind, Bool.false_eq_true, if_false]
      exact congrArg (fun told ↦ (Except.error told, later)) hreport.symm
    · rfl

/-- Selecting does what the picker does, with another report. -/
theorem perform_select (control : Control) (criterion : Criterion) (box : Box) :
    (control.select criterion).perform box =
      (((control.picker.select criterion).perform box).1.mapError criterion.report,
        ((control.picker.select criterion).perform box).2) := by
  rw [select_eq]
  apply perform_reported
  cases criterion with
  | value content => exact .inl trivial
  | text shown => exact .inl trivial
  | index number =>
    -- To select by an index, it is written first of all.
    by_cases hplain : (Criterion.index number).IsPlain
    · exact .inl hplain
    · right
      intro failure hfailure
      rw [Picker.select, Picker.selectByIndex, Picker.writeIndex_eq_throw hplain] at hfailure
      cases hfailure
      rfl

/-- A picker for one choice refuses before it asks anything. -/
theorem perform_picker_deselect_of_single {picker : Picker} (hsingle : picker.multiple = false)
    (criterion : Criterion) (box : Box) :
    (picker.deselect criterion).perform box =
      (.error (.of .unsupported "You may only deselect options of a multi-select"), box) := by
  obtain ⟨multiple⟩ := picker
  cases hsingle
  cases criterion <;> rfl

/-- Deselecting does what the picker does, with another report, if the index can be written when it
is needed. -/
theorem perform_reported_deselect {control : Control} {criterion : Criterion}
    (hwritable : control.picker.multiple = true → criterion.IsWritable) (box : Box) :
    (reported (control.picker.deselect criterion) criterion).perform box =
      (((control.picker.deselect criterion).perform box).1.mapError criterion.report,
        ((control.picker.deselect criterion).perform box).2) := by
  apply perform_reported
  cases hmultiple : control.picker.multiple with
  | true => exact .inl (hwritable hmultiple)
  | false =>
    right
    intro failure hfailure
    rw [perform_picker_deselect_of_single hmultiple] at hfailure
    cases hfailure
    rfl

theorem perform_requireMultiple_of_letsIn {box : Box} {action : String} {next : Attempt Box Unit}
    (hmultiple : box.isMultiple = true) (hasked : (box.plan .readMultiple).outcome = .ok ()) :
    (requireMultiple action >>= fun _ ↦ next).perform box =
      next.perform (box.noting .readMultiple) := by
  rw [perform_bind, (asks_requireMultiple action).perform_eq, hasked, if_pos hmultiple]
  rfl

theorem map_mapError {α β : Type} (change : α → β) (report : Failure → Failure)
    (outcome : Except Failure α) :
    (outcome.mapError report).map change = (outcome.map change).mapError report := by
  cases outcome <;> rfl

section

variable {control : Control} {request : Request} (hreported : request.IsReported)

include hreported

/-- A request comes to what is done for it, except that its failures are reported. -/
theorem perform_respond {box : Box} (hletsIn : request.LetsIn box)
    (hwritable : control.picker.multiple = true → request.IsWritable) :
    (control.respond request).perform box =
      (((control.unreported request).perform box).1.mapError request.report,
        ((control.unreported request).perform box).2) := by
  cases request with
  | isMultiple | choices | selectedChoices | deselectAll => exact hreported.elim
  | firstSelected =>
    rw [respond, unreported, perform_map, perform_map, firstSelected, perform_recover_throw,
      ← map_mapError]
    rfl
  | select criterion =>
    rw [respond, unreported, perform_map, perform_map, perform_select, ← map_mapError]
    rfl
  | deselect criterion =>
    rw [respond, unreported, perform_map, perform_map, deselect_eq,
      perform_requireMultiple_of_letsIn hletsIn.1 hletsIn.2, perform_reported_deselect hwritable,
      perform_requireMultiple_of_letsIn hletsIn.1 hletsIn.2, ← map_mapError]
    rfl

theorem interruptible_unreported (control : Control) :
    Box.Interruptible (control.unreported request) := by
  have hinherited := Box.isInherited_interruptible
  cases request with
  | isMultiple | choices | selectedChoices | deselectAll => exact hreported.elim
  | firstSelected => exact hinherited.map (Picker.inherits_firstSelected hinherited) _
  | select criterion => exact hinherited.map (Picker.interruptible_select _ criterion) _
  | deselect criterion =>
    have hguard := (asks_requireMultiple "deselect options").interruptible
    exact hinherited.map (hguard.bind fun _ ↦ Picker.interruptible_deselect _ criterion) _

/-- That some element was not found is never reported in these words. -/
theorem kind_report_ne (failure : Failure) : (request.report failure).kind ≠ .noSuchElement := by
  have hkind {told : Failure} (htold : told.kind ≠ .noSuchElement) :
      (if failure.kind.isA .noSuchElement then told else failure).kind ≠ .noSuchElement := by
    by_cases hmissing : failure.kind.isA .noSuchElement = true
    · rwa [if_pos hmissing]
    · rw [if_neg hmissing]
      intro heq
      exact hmissing (by rw [heq, Kind.isA_self])
  cases request with
  | isMultiple | choices | selectedChoices | deselectAll => exact hreported.elim
  | firstSelected | select criterion | deselect criterion => exact hkind nofun

end

/-- A request to a box with faults comes to what is done for it, except that its failures are
reported; it is the request without faults up to the first call that a fault strikes; and it is never
told in so many words that some element was not found. -/
structure IsForthright (control : Control) (request : Request) (box : Box) : Prop where
  observe_eq : box.observe (control.respond request) =
    ((box.observe (control.unreported request)).1.mapError request.report,
      (box.observe (control.unreported request)).2)
  isCutShort : box.IsCutShort request.report (control.respond request)
  kind_ne : ∀ failure, (box.observe (control.respond request)).1 = .error failure →
    failure.kind ≠ .noSuchElement

/-- Requests are forthright as long as what they report can be written. -/
theorem isForthright_of_isWritable {control : Control} {request : Request} {box : Box}
    (hreported : request.IsReported) (hletsIn : request.LetsIn box)
    (hwritable : control.picker.multiple = true → request.IsWritable) :
    control.IsForthright request box := by
  have hstart : ∀ start ∈ [box.unasked, box.unasked.stilled], (control.respond request).perform start =
      (((control.unreported request).perform start).1.mapError request.report,
        ((control.unreported request).perform start).2) := by
    intro start hmem
    apply perform_respond hreported _ hwritable
    rcases List.mem_pair.1 hmem with rfl | rfl
    · cases request <;> exact hletsIn
    · cases request <;> first | exact ⟨hletsIn.1, rfl⟩ | trivial
  have hobserve : box.observe (control.respond request) =
      ((box.observe (control.unreported request)).1.mapError request.report,
        (box.observe (control.unreported request)).2) := by
    have hunasked := hstart box.unasked (by simp)
    unfold Box.unasked at hunasked
    unfold Box.observe
    rw [hunasked]
  refine ⟨hobserve, (interruptible_unreported hreported control).isCutShort hstart, ?_⟩
  intro failure hfailure
  rw [hobserve] at hfailure
  cases hraised : (box.observe (control.unreported request)).1 with
  | ok answer =>
    rw [hraised] at hfailure
    cases hfailure
  | error raised =>
    rw [hraised] at hfailure
    cases hfailure
    exact kind_report_ne hreported raised

end Control

/-- A multiple box in which no query finds anything. -/
def blind : Box :=
  { colours with
    faults := ⟨none, some ⟨.of .noSuchElement "boom", 0, none⟩⟩
    choices := [] }

namespace Control

/-- An index with too many digits stands in the way of the report that it is not there. -/
theorem observe_deselect_blind {control : Control} (hmultiple : control.picker.multiple = true)
    {number : Int} (hplain : ¬(Criterion.index number).IsPlain) :
    (blind.observe (control.respond (.deselect (.index number)))).1 =
      .error (.of .invalidValue Decimal.tooLongToWrite) := by
  obtain ⟨⟨multiple⟩⟩ := control
  cases hmultiple
  let asked := blind.unasked.noting .readMultiple
  have hpicker : ((Picker.mk true).deselect (.index number)).perform asked =
      (.error (.of .noSuchElement "boom"), asked.noting (.find .everyChoice)) := rfl
  have hguard : (deselect ⟨⟨true⟩⟩ (.index number)).perform blind.unasked =
      (reportMissingIndex number ((Picker.mk true).deselect (.index number))).perform asked := by
    rw [deselect_eq, perform_requireMultiple_of_letsIn rfl rfl]
    rfl
  have hreport : (reportMissingIndex number ((Picker.mk true).deselect (.index number))).perform asked =
      (.error (.of .invalidValue Decimal.tooLongToWrite), asked.noting (.find .everyChoice)) := by
    rw [reportMissingIndex, perform_recover, hpicker]
    simp only [Picker.writeIndex_eq_throw hplain]
    rfl
  have hperform : (respond ⟨⟨true⟩⟩ (.deselect (.index number))).perform blind.unasked =
      (.error (.of .invalidValue Decimal.tooLongToWrite), asked.noting (.find .everyChoice)) := by
    rw [respond, perform_map, hguard, hreport]
    rfl
  have hcalls : (asked.noting (.find .everyChoice)).calls =
      [BoxCall.readMultiple, .find .everyChoice].reverse := rfl
  rw [Box.observe_of_perform hperform hcalls]

theorem observe_unreported_deselect_blind {control : Control}
    (hmultiple : control.picker.multiple = true) (number : Int) :
    (blind.observe (control.unreported (.deselect (.index number)))).1 =
      .error (.of .noSuchElement "boom") := by
  obtain ⟨⟨multiple⟩⟩ := control
  cases hmultiple
  rfl

/-- An index that cannot be written hides that no choices are there. -/
theorem not_isForthright_blind {control : Control} (hmultiple : control.picker.multiple = true)
    {number : Int} (hplain : ¬(Criterion.index number).IsPlain) :
    ¬control.IsForthright (.deselect (.index number)) blind := by
  intro hforthright
  have hobserve := congrArg Prod.fst hforthright.observe_eq
  rw [observe_deselect_blind hmultiple hplain, observe_unreported_deselect_blind hmultiple] at hobserve
  cases hobserve

/-- Faults stop a request that selects, deselects or looks for what is selected, and are reported,
whatever the box is like and whatever faults are planned, provided that the box lets the request in:
unless the index of a choice to be deselected has too many digits and the picker takes the box for
multiple. -/
theorem isForthright_iff (control : Control) {request : Request} (hreported : request.IsReported) :
    (∀ box, request.LetsIn box → control.IsForthright request box) ↔
      (control.picker.multiple = true → request.IsWritable) := by
  constructor
  · intro hforthright hmultiple
    cases request with
    | deselect criterion =>
      cases criterion with
      | index number =>
        by_contra hplain
        exact not_isForthright_blind hmultiple hplain (hforthright blind ⟨rfl, rfl⟩)
      | value content => trivial
      | text shown => trivial
    | _ => trivial
  · exact fun hwritable box hletsIn ↦ isForthright_of_isWritable hreported hletsIn hwritable

end Control

/-- Two choices with the same text are selected, but the second one cannot be asked whether it is. -/
def flaky : Box :=
  { colours with
    choices := [
      ⟨"c0", "Blue", "Blue", none, .position, true, true, [], .quiet⟩,
      ⟨"c1", "Blue", "Blue", none, .position, true, true, [],
        { ChoiceFaults.quiet with isSelected := some ⟨.of .optionNotFound "gone", 0, none⟩ }⟩] }

theorem isForthright_flaky :
    let request : Request := .deselect (.text "Blue")
    request.IsReported ∧ request.LetsIn flaky ∧ Control.IsForthright ⟨⟨true⟩⟩ request flaky ∧
      (flaky.observe (Control.respond ⟨⟨true⟩⟩ request)).1 =
        .error ((Failure.of .optionNotFound "gone").reportedAs .optionNotFound
          "Cannot locate option with visible text: Blue") ∧
      (flaky.observe (Control.respond ⟨⟨true⟩⟩ request)).2.1.filterMap BoxCall.click? = [0] := by
  intro request
  have hreported : request.IsReported := trivial
  have hletsIn : request.LetsIn flaky := ⟨rfl, rfl⟩
  have hforthright :=
    (Control.isForthright_iff ⟨⟨true⟩⟩ hreported).2 (fun _ ↦ trivial) flaky hletsIn
  exact ⟨hreported, hletsIn, hforthright, by decide +kernel, by decide +kernel⟩

/-- An index can be written if it has no more digits than the limit. -/
theorem isPlain_index_iff (number : Int) :
    (Criterion.index number).IsPlain ↔ number.natAbs < 10 ^ Decimal.integerDigitLimit :=
  Nat.length_toDigits_le_iff (by decide) (by decide)

/-- The least index with too many digits. -/
def hugeIndex : Int :=
  (10 ^ Decimal.integerDigitLimit : Nat)

theorem not_isPlain_hugeIndex : ¬(Criterion.index hugeIndex).IsPlain := by
  rw [isPlain_index_iff, hugeIndex, Int.natAbs_natCast]
  exact lt_irrefl _

/-- Where no query finds anything, it cannot be reported that such an index is missing. -/
theorem not_isForthright_hugeIndex :
    let request : Request := .deselect (.index hugeIndex)
    (Control.make.perform blind).1 = .ok ⟨⟨true⟩⟩ ∧ request.LetsIn blind ∧
      (blind.observe (Control.respond ⟨⟨true⟩⟩ request)).1 =
        .error (.of .invalidValue Decimal.tooLongToWrite) ∧
      ¬Control.IsForthright ⟨⟨true⟩⟩ request blind := by
  refine ⟨?_, ⟨rfl, rfl⟩, Control.observe_deselect_blind rfl not_isPlain_hugeIndex,
    Control.not_isForthright_blind rfl not_isPlain_hugeIndex⟩
  have htag : blind.tag.toLower = "select" := isReady_colours.tag_eq
  unfold Control.make Picker.make
  rw [perform_map, perform_bind, perform_get]
  dsimp only
  rw [if_neg (not_not.2 htag)]
  rfl

end BrowserControl.Select
