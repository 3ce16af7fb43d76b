import BrowserControl.Proofs.Select.Matching
import BrowserControl.Select.Control

/-!
# A Multiple Box as a Set of Positions

To its callers, a multiple box is a set of positions (`Request.expected`): a request to select adds the
positions of the choices that its criterion matches, a request to deselect takes them away, either
reports that no choice fits if there is none, and reading tells what is in the set.  Whatever is
requested of a control for a box that is ready, and in whatever order, every answer is the expected
one, and the selected choices are always exactly those in the set (`Control.realizes_runAll`).
-/

namespace BrowserControl.Select

open Attempt

/-- What callers can request of a control. -/
inductive Request where
  | isMultiple
  | choices
  | selectedChoices
  | firstSelected
  | select (criterion : Criterion)
  | deselect (criterion : Criterion)
  | deselectAll
  deriving DecidableEq, Repr

/-- What callers are told. -/
inductive Answer where
  | truth (value : Bool)
  | list (positions : List Nat)
  | choice (position : Nat)
  | done
  deriving DecidableEq, Repr

namespace Control

def select (control : Control) : Criterion → Attempt Box Unit
  | .value content => control.selectByValue content
  | .index number => selectByIndex number
  | .text shown => control.selectByText shown

def deselect (control : Control) : Criterion → Attempt Box Unit
  | .value content => control.deselectByValue content
  | .index number => control.deselectByIndex number
  | .text shown => control.deselectByText shown

def respond (control : Control) : Request → Attempt Box Answer
  | .isMultiple => .truth <$> isMultiple
  | .choices => .list <$> choices
  | .selectedChoices => .list <$> selectedChoices
  | .firstSelected => .choice <$> firstSelected
  | .select criterion => (fun _ ↦ .done) <$> control.select criterion
  | .deselect criterion => (fun _ ↦ .done) <$> control.deselect criterion
  | .deselectAll => (fun _ ↦ .done) <$> control.deselectAll

/-- Do one thing after the other, whether or not some fail: the outcome of each, and the box it leaves
behind. -/
def runAll (control : Control) : List Request → Box → List (Except Failure Answer × Box)
  | [], _ => []
  | request :: rest, box =>
    let made := (control.respond request).perform box
    made :: control.runAll rest made.2

end Control

namespace Request

/-- The criterion of a request, if it has one, is plain. -/
def IsPlain : Request → Prop
  | select criterion | deselect criterion => criterion.IsPlain
  | _ => True

instance : (request : Request) → Decidable request.IsPlain
  | select criterion | deselect criterion => inferInstanceAs (Decidable criterion.IsPlain)
  | isMultiple | choices | selectedChoices | firstSelected | deselectAll => .isTrue trivial

/-- What is answered to a request while some positions are selected, and which are selected then. -/
def expected (box : Box) (selection : Finset Nat) : Request → Except Kind Answer × Finset Nat
  | isMultiple => (.ok (.truth true), selection)
  | choices => (.ok (.list (List.range box.choices.length)), selection)
  | selectedChoices =>
    (.ok (.list ((List.range box.choices.length).filter (· ∈ selection))), selection)
  | firstSelected =>
    match (List.range box.choices.length).find? (· ∈ selection) with
    | some position => (.ok (.choice position), selection)
    | none => (.error .noSelection, selection)
  | select criterion =>
    if criterion.selectable box = ∅ then (.error .optionNotFound, selection)
    else (.ok .done, selection ∪ criterion.selectable box)
  | deselect criterion =>
    if criterion.fitting box = ∅ then (.error .optionNotFound, selection)
    else (.ok .done, selection \ criterion.fitting box)
  | deselectAll => (.ok .done, ∅)

/-- What is answered to one request after the other, and which positions are selected after each. -/
def expectedAll (box : Box) : List Request → Finset Nat → List (Except Kind Answer × Finset Nat)
  | [], _ => []
  | request :: rest, selection =>
    let told := request.expected box selection
    told :: expectedAll box rest told.2

end Request

/-- What was made of a request is what was expected: the answer, or the kind of failure, is the same,
and the box shows exactly the expected selection. -/
def Box.Realizes (box : Box) (made : Except Failure Answer × Box)
    (expected : Except Kind Answer × Finset Nat) : Prop :=
  made.1.mapError Failure.kind = expected.1 ∧ ∃ calls, made.2 = box.showing expected.2 calls

/-- Whatever was asked before, an attempt on the box while it shows a selection is answered as
expected, and leaves the box showing the expected selection. -/
def Box.Meets (box : Box) (attempt : Attempt Box Answer) (selection : Finset Nat)
    (expected : Except Kind Answer × Finset Nat) : Prop :=
  ∃ outcome : Except Failure Answer, outcome.mapError Failure.kind = expected.1 ∧
    box.Leads attempt selection outcome expected.2

/-- What leads from one selection to the next answers as the set does. -/
theorem Box.Leads.meets {α : Type} {box : Box} {attempt : Attempt Box α}
    {selection next : Finset Nat} {value : α}
    (hleads : box.Leads attempt selection (.ok value) next) (answer : α → Answer) :
    box.Meets (answer <$> attempt) selection (.ok (answer value), next) :=
  ⟨.ok (answer value), rfl, hleads.map answer⟩

/-- What picks the matching choices answers as the set does. -/
theorem Box.Picks.meets {box : Box} {attempt : Attempt Box Unit} {kind : Kind} {wanted : Bool}
    {matched : Finset Nat} (hpicks : box.Picks attempt kind wanted matched)
    (selection : Finset Nat) :
    box.Meets ((fun _ ↦ .done) <$> attempt) selection
      (if matched = ∅ then (.error kind, selection)
        else (.ok .done, Picker.adjusted wanted matched selection)) := by
  by_cases hempty : matched = ∅
  · rw [if_pos hempty]
    obtain ⟨failure, hkind, hleads⟩ := hpicks.leads_of_eq_empty selection hempty
    exact ⟨.error failure, congrArg Except.error hkind, hleads.map _⟩
  · rw [if_neg hempty]
    have hnonempty := Finset.nonempty_iff_ne_empty.2 hempty
    exact (hpicks.leads_of_nonempty selection hnonempty).meets _

/-! ## Reading -/

namespace Picker

variable {box : Box} {selection : Finset Nat} {found : List Nat} (hquiet : box.IsQuiet)

include hquiet

theorem leads_choices :
    box.Leads choices selection (.ok (List.range box.choices.length)) selection := by
  rw [← Box.positions_everyChoice]
  exact Box.leads_find hquiet rfl

theorem leads_selectedOf (hfound : ∀ position ∈ found, position < box.choices.length) :
    box.Leads (selectedOf found) selection (.ok (found.filter (· ∈ selection))) selection := by
  induction found with
  | nil => exact .pure [] selection
  | cons position rest ih =>
    have hrest := ih fun other hother ↦ hfound other (List.mem_cons_of_mem _ hother)
    have hchoice := List.getElem?_eq_getElem (hfound position List.mem_cons_self)
    unfold selectedOf
    apply Box.Leads.bind (Box.leads_isSelected hquiet hchoice)
    apply Box.Leads.bind hrest
    rw [List.filter_cons]
    exact .pure _ selection

theorem leads_firstSelectedOf (hfound : ∀ position ∈ found, position < box.choices.length) :
    box.Leads (firstSelectedOf found) selection
      (match found.find? (· ∈ selection) with
        | some position => .ok position
        | none => .error (.of .noSuchElement "No options are selected")) selection := by
  induction found with
  | nil => exact .throw _ selection
  | cons position rest ih =>
    have hrest := ih fun other hother ↦ hfound other (List.mem_cons_of_mem _ hother)
    have hchoice := List.getElem?_eq_getElem (hfound position List.mem_cons_self)
    unfold firstSelectedOf
    apply Box.Leads.bind (Box.leads_isSelected hquiet hchoice)
    by_cases hselected : position ∈ selection
    · simpa [hselected] using Box.Leads.pure position selection
    · simpa [hselected] using hrest

end Picker

/-! ## Controls -/

namespace Control

variable {box : Box} {selection : Finset Nat} {attempt : Attempt Box Unit} {wanted : Bool}
  {matched : Finset Nat}

/-- Failures to find a choice are reported in other words. -/
theorem picks_recover {handle : Failure → Attempt Box Unit} {text : String}
    (hpicks : box.Picks attempt .noSuchElement wanted matched)
    (hhandle : ∀ failure, handle failure = throw (failure.reportedAs .optionNotFound text)) :
    box.Picks (Attempt.recover attempt .noSuchElement handle) .optionNotFound wanted matched where
  leads_of_nonempty selection hnonempty :=
    (hpicks.leads_of_nonempty selection hnonempty).recover_ok
  leads_of_eq_empty selection hempty := by
    obtain ⟨failure, hkind, hleads⟩ := hpicks.leads_of_eq_empty selection hempty
    refine ⟨failure.reportedAs .optionNotFound text, rfl, ?_⟩
    apply Box.Leads.recover_error (by rw [hkind, Kind.isA_self]) hleads
    rw [hhandle]
    exact .throw _ selection

/-- Reporting a choice as missing changes the failure and not the picks. -/
theorem picks_reportMissing (criterion : String)
    (hpicks : box.Picks attempt .noSuchElement wanted matched) :
    box.Picks (reportMissing criterion attempt) .optionNotFound wanted matched :=
  picks_recover hpicks fun _ ↦ rfl

theorem picks_reportMissingIndex {number : Int} (hplain : (Criterion.index number).IsPlain)
    (hpicks : box.Picks attempt .noSuchElement wanted matched) :
    box.Picks (reportMissingIndex number attempt) .optionNotFound wanted matched := by
  apply picks_recover hpicks
  intro failure
  rw [Picker.writeIndex_eq_pure hplain, pure_bind]

section

variable (hquiet : box.IsQuiet)

include hquiet

/-- A control can be made for every box without faults that has the tag of one. -/
theorem perform_make (htag : box.tag.toLower = "select") :
    make.perform box =
      (.ok ⟨⟨box.multiple.any fun value ↦ value ≠ "" ∧ value ≠ "false"⟩⟩,
        { box with calls := .readMultiple :: box.calls }) := by
  unfold make Picker.make
  rw [perform_map, perform_bind, perform_get]
  dsimp only
  rw [if_neg (not_not.2 htag), perform_bind, Box.perform_readMultiple hquiet]
  rfl

theorem perform_isMultiple :
    isMultiple.perform box =
      (.ok box.isMultiple, { box with calls := .readMultiple :: box.calls }) := by
  unfold isMultiple
  rw [perform_bind, Box.perform_readMultiple hquiet]
  rfl

theorem perform_requireMultiple (action : String) :
    (requireMultiple action).perform box =
      (if box.isMultiple then .ok ()
        else .error (.of .notMultiple ("You may only " ++ action ++ " of a multi-select")),
        { box with calls := .readMultiple :: box.calls }) := by
  unfold requireMultiple
  rw [perform_bind, perform_isMultiple hquiet]
  cases box.isMultiple <;> rfl

theorem clicks_requireMultiple (hmultiple : box.isMultiple = true) (action : String)
    (selection : Finset Nat) : box.Clicks (requireMultiple action) selection (.ok ()) [] := by
  intro calls
  have hshown : (box.showing selection calls).isMultiple = true := hmultiple
  refine ⟨[.readMultiple], rfl, ?_⟩
  rw [perform_requireMultiple (Box.isQuiet_showing selection calls hquiet), if_pos hshown]
  rfl

end

section

variable (hready : box.IsReady)

include hready

theorem leads_make : box.Leads make selection (.ok ⟨⟨true⟩⟩) selection := by
  obtain ⟨value, hmultiple, hnonempty, hvalue⟩ := hready.multiple_eq
  intro calls
  have hmultiple : ((box.showing selection calls).multiple.any fun value ↦
      value ≠ "" ∧ value ≠ "false") = true := by
    simp [Box.showing, hmultiple, hnonempty, hvalue]
  rw [perform_make (Box.isQuiet_showing selection calls hready.isQuiet) hready.tag_eq, hmultiple]
  exact ⟨_, rfl⟩

theorem leads_isMultiple : box.Leads isMultiple selection (.ok true) selection := by
  intro calls
  have hshown : (box.showing selection calls).isMultiple = true := hready.isMultiple
  rw [perform_isMultiple (Box.isQuiet_showing selection calls hready.isQuiet), hshown]
  exact ⟨_, rfl⟩

theorem leads_requireMultiple (action : String) :
    box.Leads (requireMultiple action) selection (.ok ()) selection :=
  (clicks_requireMultiple hready.isQuiet hready.isMultiple action selection).leads_of_nil

theorem leads_firstSelected :
    box.Leads firstSelected selection
      (match (List.range box.choices.length).find? (· ∈ selection) with
        | some position => .ok position
        | none =>
          .error ((Failure.of .noSuchElement "No options are selected").reportedAs .noSelection
            "No options are selected")) selection := by
  have hpicker : box.Leads Picker.firstSelected selection _ selection :=
    (Picker.leads_choices hready.isQuiet).bind
      (Picker.leads_firstSelectedOf hready.isQuiet fun _ ↦ List.mem_range.1)
  unfold firstSelected
  cases hfirst : (List.range box.choices.length).find? (· ∈ selection) with
  | some position =>
    rw [hfirst] at hpicker
    exact hpicker.recover_ok
  | none =>
    rw [hfirst] at hpicker
    exact hpicker.recover_error rfl (.throw _ selection)

/-- Selecting picks what can be selected by the criterion. -/
theorem picks_select {criterion : Criterion} (hplain : criterion.IsPlain) :
    box.Picks (select ⟨⟨true⟩⟩ criterion) .optionNotFound true (criterion.selectable box) := by
  cases criterion with
  | value content => exact picks_reportMissing _ (Picker.picks_selectByValue hready.isOperable hplain)
  | index number =>
    exact picks_reportMissingIndex hplain (Picker.picks_selectByIndex hready hplain)
  | text shown => exact picks_reportMissing _ (Picker.picks_selectByText hready.isOperable hplain)

/-- Deselecting picks what fits the criterion. -/
theorem picks_deselect {criterion : Criterion} (hplain : criterion.IsPlain) :
    box.Picks (deselect ⟨⟨true⟩⟩ criterion) .optionNotFound false (criterion.fitting box) := by
  have hmultiple (selection : Finset Nat) :
      box.Leads (requireMultiple "deselect options") selection (.ok ()) selection :=
    leads_requireMultiple hready _
  cases criterion with
  | value content =>
    exact .bind hmultiple (picks_reportMissing _ (Picker.picks_deselectByValue hready.isOperable hplain))
  | index number =>
    exact .bind hmultiple
      (picks_reportMissingIndex hplain (Picker.picks_deselectByIndex hready hplain))
  | text shown =>
    exact .bind hmultiple (picks_reportMissing _ (Picker.picks_deselectByText hready.isOperable hplain))

theorem leads_deselectAll : box.Leads (deselectAll ⟨⟨true⟩⟩) selection (.ok ()) ∅ := by
  unfold deselectAll
  apply Box.Leads.bind (leads_requireMultiple hready _)
  unfold Picker.deselectAll Picker.requireMultiple
  simp only [if_true, pure_bind]
  apply Box.Leads.bind (Picker.leads_choices hready.isQuiet)
  have hforAll : box.Leads (Picker.forAll Picker.unsetSelected (List.range box.choices.length))
      selection (.ok ()) _ :=
    Picker.leads_forAll (Picker.adjusts_unsetSelected hready.isOperable) fun _ ↦ List.mem_range.1
  -- What is left after that is outside of the box, and does not show.
  intro calls
  obtain ⟨later, hperform⟩ := hforAll calls
  refine ⟨later, hperform.trans (congrArg _ (box.showing_congr _ later ?_))⟩
  intro position hposition
  simp [Picker.adjusted, hposition]

/-- One request is answered as expected, and changes the selection as expected. -/
theorem meets_respond {request : Request} (hplain : request.IsPlain) (selection : Finset Nat) :
    box.Meets (respond ⟨⟨true⟩⟩ request) selection (request.expected box selection) := by
  cases request with
  | isMultiple => exact (leads_isMultiple hready).meets .truth
  | choices => exact (Picker.leads_choices hready.isQuiet).meets .list
  | selectedChoices =>
    have hselected : box.Leads selectedChoices selection _ selection :=
      (Picker.leads_choices hready.isQuiet).bind
        (Picker.leads_selectedOf hready.isQuiet fun _ ↦ List.mem_range.1)
    exact hselected.meets .list
  | firstSelected =>
    have hfirst : box.Leads firstSelected selection _ selection := leads_firstSelected hready
    rw [Request.expected]
    cases hfound : (List.range box.choices.length).find? (· ∈ selection) with
    | some position =>
      rw [hfound] at hfirst
      exact hfirst.meets .choice
    | none =>
      rw [hfound] at hfirst
      exact ⟨.error _, rfl, hfirst.map Answer.choice⟩
  | select criterion => exact (picks_select hready hplain).meets selection
  | deselect criterion => exact (picks_deselect hready hplain).meets selection
  | deselectAll => exact (leads_deselectAll hready).meets fun _ ↦ .done

/-- From a box that shows a selection, everything that is made of requests is as expected. -/
theorem realizes_runAll_showing {requests : List Request}
    (hplain : ∀ request ∈ requests, request.IsPlain) (selection : Finset Nat)
    (calls : List BoxCall) :
    List.Forall₂ box.Realizes (runAll ⟨⟨true⟩⟩ requests (box.showing selection calls))
      (Request.expectedAll box requests selection) := by
  induction requests generalizing selection calls with
  | nil => exact .nil
  | cons request rest ih =>
    obtain ⟨outcome, hkind, hleads⟩ :=
      meets_respond hready (hplain request List.mem_cons_self) selection
    obtain ⟨later, hperform⟩ := hleads calls
    rw [runAll, Request.expectedAll, hperform]
    apply List.Forall₂.cons
    · exact ⟨hkind, later, rfl⟩
    · exact ih (fun other hother ↦ hplain other (List.mem_cons_of_mem _ hother)) _ later

end

/-- A control for a multiple box on which every choice can be selected and deselected can be made, and
whatever is requested of it, one thing after the other, the box is a set of positions to it. -/
theorem realizes_runAll (hready : box.IsReady) :
    ∃ control later, make.perform box = (.ok control, later) ∧
      ∀ requests : List Request, (∀ request ∈ requests, request.IsPlain) →
        List.Forall₂ box.Realizes (control.runAll requests later)
          (Request.expectedAll box requests box.selection) := by
  have hleads : box.Leads make box.selection (.ok ⟨⟨true⟩⟩) box.selection := leads_make hready
  obtain ⟨calls, hmake⟩ := hleads box.calls
  rw [Box.showing_selection] at hmake
  exact ⟨_, _, hmake, fun requests hplain ↦ realizes_runAll_showing hready hplain _ calls⟩

end Control

/-- A box with three colours, of which the last one is selected. -/
def colours : Box where
  tag := "SELECT"
  multiple := some "multiple"
  faults := .quiet
  choices := [
    ⟨"c0", "Dark  red", "Dark  red ", some "r", .position, false, true, [], .quiet⟩,
    ⟨"c1", "Light green", " Light\n green", some "g", .position, false, true, [], .quiet⟩,
    ⟨"c2", "Blue", "Blue", some "b", .stated (some "2"), true, true, [], .quiet⟩]
  calls := []

def choosing : List Request :=
  [.select (.text "Dark  red"), .select (.text "Light green"), .select (.text "Grey"),
    .deselect (.text "Dark  red"), .deselect (.index 2), .select (.value "g"), .firstSelected,
    .deselectAll, .firstSelected]

theorem isReady_colours : colours.IsReady where
  isQuiet := ⟨rfl, by simp [colours]⟩
  tag_eq := by
    apply String.toList_inj.1
    rw [String.toLower, String.toList_map]
    rfl
  multiple_eq := ⟨"multiple", rfl, by decide, by decide⟩
  enabled := by decide
  visible := by decide
  index_eq := by
    intro position choice hchoice
    have hposition : position < 3 := (List.getElem?_eq_some_iff.1 hchoice).1
    interval_cases position <;> cases hchoice <;> rfl

theorem runAll_colours :
    ∃ control later, Control.make.perform colours = (.ok control, later) ∧
      List.Forall₂ colours.Realizes (control.runAll choosing later) [
        (.ok .done, {0, 2}), (.ok .done, {0, 1, 2}), (.error .optionNotFound, {0, 1, 2}),
        (.error .optionNotFound, {0, 1, 2}), (.ok .done, {0, 1}), (.ok .done, {0, 1}),
        (.ok (.choice 0), {0, 1}), (.ok .done, ∅), (.error .noSelection, ∅)] := by
  obtain ⟨control, later, hmake, hrun⟩ := Control.realizes_runAll isReady_colours
  refine ⟨control, later, hmake, ?_⟩
  have hplain : ∀ request ∈ choosing, request.IsPlain := by decide
  convert hrun choosing hplain using 1
  decide +kernel

end BrowserControl.Select
