import BrowserControl.Proofs.Select.Quiet

/-!
# Select Boxes With Faults

Whatever faults are planned, everything that is asked of a select box or of one of its choices goes
the same way: the call is recorded and its plan counts down (`Box.noting`), and unless the fault
strikes there is an answer.  Only a click changes more than that, if it does not fail
(`Box.undergo`).
-/

namespace BrowserControl.Select

open Attempt

def Choice.stilled (choice : Choice) : Choice :=
  { choice with faults := .quiet }

namespace Box

def stilled (box : Box) : Box :=
  { box with faults := .quiet, choices := box.choices.map Choice.stilled }

def plan (box : Box) : BoxCall → Plan
  | .readMultiple => box.faults.readMultiple
  | .find _ => box.faults.find
  | .text position => box.choices[position]?.bind fun choice ↦ choice.faults.text
  | .index position => box.choices[position]?.bind fun choice ↦ choice.faults.index
  | .isSelected position => box.choices[position]?.bind fun choice ↦ choice.faults.isSelected
  | .isEnabled position => box.choices[position]?.bind fun choice ↦ choice.faults.isEnabled
  | .style position _ => box.choices[position]?.bind fun choice ↦ choice.faults.style
  | .click position _ _ => box.choices[position]?.bind fun choice ↦ choice.faults.click

def replan (call : BoxCall) (plan : Plan) (box : Box) : Box :=
  match call with
  | .readMultiple => { box with faults := { box.faults with readMultiple := plan } }
  | .find _ => { box with faults := { box.faults with find := plan } }
  | .text position => box.changeChoice position fun choice ↦
    { choice with faults := { choice.faults with text := plan } }
  | .index position => box.changeChoice position fun choice ↦
    { choice with faults := { choice.faults with index := plan } }
  | .isSelected position => box.changeChoice position fun choice ↦
    { choice with faults := { choice.faults with isSelected := plan } }
  | .isEnabled position => box.changeChoice position fun choice ↦
    { choice with faults := { choice.faults with isEnabled := plan } }
  | .style position _ => box.changeChoice position fun choice ↦
    { choice with faults := { choice.faults with style := plan } }
  | .click position _ _ => box.changeChoice position fun choice ↦
    { choice with faults := { choice.faults with click := plan } }

/-- The box after a call has been recorded and its plan has counted down. -/
def noting (call : BoxCall) (box : Box) : Box :=
  { box with calls := call :: box.calls }.replan call (box.plan call).next

/-- A click on the choice at a position, with what the choice is like. -/
def clickAt (box : Box) (position : Nat) : BoxCall :=
  .click position (box.choices[position]?.any Choice.selected)
    (box.choices[position]?.any Choice.enabled)

/-- The box after a call that no fault strikes. -/
def undergo (call : BoxCall) (box : Box) : Box :=
  match call with
  | .click position _ _ => (box.noting call).clicked position
  | _ => box.noting call

variable (box : Box) (call : BoxCall) (position : Nat)

/-! ## Changing plans -/

theorem changeChoice_of_eq {change : Choice → Choice}
    (hchange : ∀ choice, box.choices[position]? = some choice → change choice = choice) :
    box.changeChoice position change = box := by
  have hchoices : box.choices.modify position change = box.choices := by
    ext1 other
    rw [List.getElem?_modify]
    by_cases hother : position = other
    · subst hother
      cases hchoice : box.choices[position]? with
      | none => rfl
      | some choice => simp [hchange choice hchoice]
    · simp [hother]
  exact congrArg (fun choices ↦ { box with choices }) hchoices

/-- Putting back what is planned changes nothing. -/
theorem replan_plan : box.replan call (box.plan call) = box := by
  cases call with
  | readMultiple => rfl
  | find query => rfl
  | _ =>
    apply changeChoice_of_eq
    intro choice hchoice
    simp [plan, hchoice]

/-- A call is recorded, its plan counts down, and what comes next is done unless the fault strikes. -/
theorem perform_noting {α : Type} {plan : Box → Plan} {replace : Plan → Box → Box}
    (hplan : ∀ box : Box, plan box = box.plan call)
    (hreplace : ∀ remaining (box : Box), replace remaining box = box.replan call remaining)
    (next : Attempt Box α) :
    (do record call; strike plan replace; next).perform box =
      match (box.plan call).outcome with
      | .ok _ => next.perform (box.noting call)
      | .error failure => (.error failure, box.noting call) := by
  let recorded : Box := { box with calls := call :: box.calls }
  have hkept : recorded.plan call = box.plan call := by cases call <;> rfl
  have hsame : replace (plan recorded) recorded = recorded := by
    rw [hplan, hreplace, replan_plan]
  have hstrike : (strike plan replace).perform recorded =
      ((box.plan call).outcome, box.noting call) := by
    rw [perform_strike plan replace recorded hsame, hplan, hreplace, hkept]
    rfl
  unfold record
  rw [perform_bind, perform_modify]
  simp only [perform_bind]
  rw [hstrike]
  cases (box.plan call).outcome <;> rfl

/-! ## What faults do not touch -/

theorem getElem?_choices_stilled :
    box.stilled.choices[position]? = box.choices[position]?.map Choice.stilled :=
  List.getElem?_map

theorem stilled_changeChoice {change : Choice → Choice}
    (hchange : ∀ choice, (change choice).stilled = choice.stilled) :
    (box.changeChoice position change).stilled = box.stilled := by
  refine congrArg (fun choices ↦ { box with faults := .quiet, choices }) ?_
  ext1 other
  rw [List.getElem?_map, List.getElem?_map, changeChoice, List.getElem?_modify]
  cases box.choices[other]? with
  | none => rfl
  | some choice => by_cases hother : position = other <;> simp [hother, hchange]

/-- Plans are all that is changed with a plan. -/
theorem stilled_replan (plan : Plan) : (box.replan call plan).stilled = box.stilled := by
  cases call with
  | readMultiple => rfl
  | find query => rfl
  | _ => exact box.stilled_changeChoice _ fun choice ↦ rfl

theorem stilled_noting :
    (box.noting call).stilled = { box.stilled with calls := call :: box.calls } :=
  stilled_replan _ call _

/-- A click does the same whatever faults are still to come. -/
theorem stilled_clicked : (box.clicked position).stilled = box.stilled.clicked position := by
  have hmultiple : box.stilled.isMultiple = box.isMultiple := rfl
  unfold clicked
  rw [hmultiple]
  split
  · refine congrArg (fun choices ↦ { box with faults := .quiet, choices }) ?_
    ext1 other
    rw [changeChoice, List.getElem?_map, List.getElem?_modify, List.getElem?_modify,
      getElem?_choices_stilled]
    cases box.choices[other]? with
    | none => rfl
    | some choice => by_cases hother : position = other <;> simp [hother, Choice.stilled]
  · refine congrArg (fun choices ↦ { box with faults := .quiet, choices }) ?_
    ext1 other
    rw [List.getElem?_map, List.getElem?_mapIdx, List.getElem?_mapIdx, getElem?_choices_stilled,
      Option.map_map, Option.map_map]
    rfl

theorem bind_choices_stilled {planned : ChoiceFaults → Plan} (hquiet : planned .quiet = none) :
    (box.stilled.choices[position]?.bind fun choice ↦ planned choice.faults) = none := by
  rw [getElem?_choices_stilled]
  cases box.choices[position]? with
  | none => rfl
  | some choice => exact hquiet

/-- Nothing is planned in a box that has been stilled. -/
theorem plan_stilled : box.stilled.plan call = none := by
  cases call with
  | readMultiple => rfl
  | find query => rfl
  | _ => exact box.bind_choices_stilled _ rfl

/-- Without faults, a call is recorded and nothing else happens. -/
theorem noting_stilled : box.stilled.noting call = (box.noting call).stilled := by
  let recorded : Box := { box.stilled with calls := call :: box.calls }
  have hplan : recorded.plan call = none := by
    rw [← box.plan_stilled call]
    cases call <;> rfl
  have hsame : recorded.replan call none = recorded := by
    rw [← hplan, replan_plan]
  rw [stilled_noting, noting, plan_stilled]
  exact hsame

theorem multiple_noting : (box.noting call).multiple = box.multiple :=
  calc
    (box.noting call).multiple = (box.noting call).stilled.multiple := rfl
    _ = box.multiple := by rw [stilled_noting]; rfl

theorem calls_noting : (box.noting call).calls = call :: box.calls :=
  calc
    (box.noting call).calls = (box.noting call).stilled.calls := rfl
    _ = call :: box.calls := by rw [stilled_noting]

section

variable {β : Type} {view : Choice → β} (hview : ∀ choice, view choice.stilled = view choice)

include hview

/-- What does not depend on the faults of a choice is the same without them. -/
theorem map_choices_stilled :
    box.stilled.choices[position]?.map view = box.choices[position]?.map view := by
  have hcomp : view ∘ Choice.stilled = view := funext hview
  rw [getElem?_choices_stilled, Option.map_map, hcomp]

/-- It is also the same after a call. -/
theorem map_choices_noting :
    (box.noting call).choices[position]?.map view = box.choices[position]?.map view :=
  calc
    (box.noting call).choices[position]?.map view =
        (box.noting call).stilled.choices[position]?.map view :=
      (map_choices_stilled _ position hview).symm
    _ = box.stilled.choices[position]?.map view := by rw [stilled_noting]
    _ = box.choices[position]?.map view := map_choices_stilled box position hview

end

/-- After a call, a choice is as it would have been answered before. -/
theorem any_noting {view : Choice → Bool} (hview : ∀ choice, view choice.stilled = view choice) :
    (box.noting call).choices[position]?.any view =
      (box.choices[position]?.map view).getD false :=
  calc
    (box.noting call).choices[position]?.any view =
        ((box.noting call).choices[position]?.map view).getD false := by
      cases (box.noting call).choices[position]? <;> rfl
    _ = (box.choices[position]?.map view).getD false := by
      rw [map_choices_noting box call position hview]

/-- Faults do not change which choices a query finds. -/
theorem positions_stilled (query : Query) : box.stilled.positions query = box.positions query := by
  unfold positions
  rw [stilled, List.length_map]
  apply List.filter_congr
  intro position _
  rw [List.getElem?_map, Option.any_map]
  cases query <;> rfl

theorem selection_stilled : box.stilled.selection = box.selection := by
  unfold selection selectedPositions
  rw [stilled, List.length_map]
  congr 1
  apply List.filter_congr
  intro position _
  rw [List.getElem?_map, Option.any_map]
  rfl

theorem selection_noting : (box.noting call).selection = box.selection := by
  rw [← selection_stilled, stilled_noting, ← selection_stilled box]
  rfl

/-! ## Questions -/

/-- An attempt makes a single call, which is no click, and if no fault strikes it comes to what the
box is like apart from its faults. -/
structure Asks {α : Type} (attempt : Attempt Box α) (call : BoxCall) (answer : Box → Except Failure α) :
    Prop where
  click?_eq : call.click? = none
  answer_stilled : ∀ box : Box, answer box.stilled = answer box
  perform_eq : ∀ box : Box, attempt.perform box =
    ((box.plan call).outcome.bind fun _ ↦ answer box, box.noting call)

/-- What is made of an answer without further calls is an answer again. -/
theorem Asks.bind_ofExcept {α β : Type} {attempt : Attempt Box α} {call : BoxCall}
    {answer : Box → Except Failure α} (hasks : Asks attempt call answer)
    (check : α → Except Failure β) :
    Asks (attempt >>= fun value ↦ Attempt.ofExcept (check value)) call fun box ↦
      (answer box).bind check where
  click?_eq := hasks.click?_eq
  answer_stilled box := by rw [hasks.answer_stilled]
  perform_eq box := by
    rw [perform_bind, hasks.perform_eq]
    cases (box.plan call).outcome with
    | error failure => rfl
    | ok _ =>
      cases answer box with
      | error failure => rfl
      | ok value => exact perform_ofExcept (check value) _

theorem asks_readMultiple : Asks readMultiple .readMultiple fun box ↦ .ok box.multiple where
  click?_eq := rfl
  answer_stilled _ := rfl
  perform_eq box := by
    have hplan (box : Box) : box.faults.readMultiple = box.plan .readMultiple := rfl
    have hreplace (remaining : Plan) (box : Box) :
        { box with faults := { box.faults with readMultiple := remaining } } =
          box.replan .readMultiple remaining := rfl
    unfold readMultiple
    rw [perform_noting box .readMultiple hplan hreplace]
    cases (box.plan .readMultiple).outcome <;> rfl

/-- A search is one call, and its answer is that of the page. -/
theorem asks_find (query : Query) :
    Asks (find query) (.find query) fun box ↦
      if query.isUnderstood then .ok (box.positions query)
      else .error (.of .invalidSelector ("invalid selector: " ++ query.selector)) where
  click?_eq := rfl
  answer_stilled box := by rw [positions_stilled]
  perform_eq box := by
    have hplan (box : Box) : box.faults.find = box.plan (.find query) := rfl
    have hreplace (remaining : Plan) (box : Box) :
        { box with faults := { box.faults with find := remaining } } =
          box.replan (.find query) remaining := rfl
    have hpositions : (box.noting (.find query)).positions query = box.positions query := by
      rw [← positions_stilled, stilled_noting, ← positions_stilled box]
      rfl
    unfold find
    rw [perform_noting box (.find query) hplan hreplace, ← hpositions]
    cases (box.plan (.find query)).outcome with
    | error failure => rfl
    | ok _ => cases query.isUnderstood <;> rfl

section

variable {position}

section

variable {α : Type} {call : Nat → BoxCall} {plan : ChoiceFaults → Plan}
  {replace : Plan → ChoiceFaults → ChoiceFaults} {answer : Choice → α} {absent : α}
  (hplan : ∀ box : Box, (box.choices[position]?.bind fun choice ↦ plan choice.faults) =
    box.plan (call position))
  (hreplace : ∀ remaining (box : Box), (box.changeChoice position fun choice ↦
    { choice with faults := replace remaining choice.faults }) =
      box.replan (call position) remaining)
  (hanswer : ∀ choice, answer choice.stilled = answer choice)

include hplan hreplace hanswer

theorem perform_ask_noting :
    (ask position call plan replace answer absent).perform box =
      ((box.plan (call position)).outcome.bind fun _ ↦
        .ok ((box.choices[position]?.map answer).getD absent), box.noting (call position)) := by
  unfold ask
  rw [perform_noting box (call position) hplan hreplace,
    ← map_choices_noting box (call position) position hanswer]
  cases (box.plan (call position)).outcome <;> rfl

theorem asks_ask (hcall : (call position).click? = none) :
    Asks (ask position call plan replace answer absent) (call position) fun box ↦
      .ok ((box.choices[position]?.map answer).getD absent) where
  click?_eq := hcall
  answer_stilled box := by rw [map_choices_stilled box position hanswer]
  perform_eq box := perform_ask_noting box hplan hreplace hanswer

end

theorem asks_text : Asks (text position) (.text position) fun box ↦
    .ok ((box.choices[position]?.map Choice.text).getD "") :=
  asks_ask (fun _ ↦ rfl) (fun _ _ ↦ rfl) (fun _ ↦ rfl) rfl

theorem asks_index : Asks (index position) (.index position) fun box ↦
    .ok ((box.choices[position]?.map (Choice.indexAt position)).getD none) :=
  asks_ask (fun _ ↦ rfl) (fun _ _ ↦ rfl) (fun _ ↦ rfl) rfl

theorem asks_isSelected : Asks (isSelected position) (.isSelected position) fun box ↦
    .ok ((box.choices[position]?.map Choice.selected).getD false) :=
  asks_ask (fun _ ↦ rfl) (fun _ _ ↦ rfl) (fun _ ↦ rfl) rfl

theorem asks_isEnabled : Asks (isEnabled position) (.isEnabled position) fun box ↦
    .ok ((box.choices[position]?.map Choice.enabled).getD false) :=
  asks_ask (fun _ ↦ rfl) (fun _ _ ↦ rfl) (fun _ ↦ rfl) rfl

theorem asks_style (property : String) :
    Asks (style position property) (.style position property) fun box ↦
      .ok ((box.choices[position]?.map (Choice.styleOf property)).getD "") :=
  asks_ask (fun _ ↦ rfl) (fun _ _ ↦ rfl) (fun _ ↦ rfl) rfl

end

/-! ## Clicks -/

/-- A click is recorded with what the choice is like at the time, and takes place unless a fault
strikes. -/
theorem perform_click :
    (click position).perform box =
      match (box.plan (box.clickAt position)).outcome with
      | .ok _ => (.ok (), box.undergo (box.clickAt position))
      | .error failure => (.error failure, box.noting (box.clickAt position)) := by
  let call (other : Nat) : BoxCall :=
    .click other (box.choices[position]?.any Choice.selected)
      (box.choices[position]?.any Choice.enabled)
  have hask : (ask position call ChoiceFaults.click
      (fun plan faults ↦ { faults with click := plan }) (fun _ ↦ ()) ()).perform box =
        ((box.plan (box.clickAt position)).outcome.bind fun _ ↦
          .ok ((box.choices[position]?.map fun _ ↦ ()).getD ()), box.noting (box.clickAt position)) :=
    perform_ask_noting box (fun _ ↦ rfl) (fun _ _ ↦ rfl) (fun _ ↦ rfl)
  unfold click
  rw [perform_bind, perform_get]
  simp only [perform_bind]
  rw [hask]
  cases (box.plan (box.clickAt position)).outcome <;> rfl

theorem undergo_of_click?_eq_none (hcall : call.click? = none) :
    box.undergo call = box.noting call := by
  cases call with
  | click position selected enabled => cases hcall
  | _ => rfl

/-- A call leaves the same box, up to faults, as it does without any. -/
theorem stilled_undergo : (box.undergo call).stilled = box.stilled.undergo call := by
  cases call with
  | click position selected enabled =>
    unfold undergo
    rw [stilled_clicked, noting_stilled]
  | _ => exact (box.noting_stilled _).symm

theorem clickAt_stilled : box.stilled.clickAt position = box.clickAt position := by
  unfold clickAt
  rw [getElem?_choices_stilled, Option.any_map, Option.any_map]
  rfl

theorem multiple_clicked : (box.clicked position).multiple = box.multiple := by
  unfold clicked
  split <;> rfl

theorem calls_clicked : (box.clicked position).calls = box.calls := by
  unfold clicked
  split <;> rfl

theorem selection_subset_range : box.selection ⊆ Finset.range box.choices.length := by
  intro position hposition
  rw [selection, List.mem_toFinset] at hposition
  exact Finset.mem_range.2 (List.mem_range.1 (List.mem_of_mem_filter hposition))

/-- A click selects what it would select of the choices there are. -/
theorem selection_clicked :
    (box.clicked position).selection =
      box.selectionAfterClick position box.selection ∩ Finset.range box.choices.length :=
  calc
    (box.clicked position).selection =
        ((box.showing box.selection box.calls).clicked position).selection := by
      rw [showing_selection]
    _ = box.selectionAfterClick position box.selection ∩ Finset.range box.choices.length := by
      rw [clicked_showing, selection_showing]

end Box

end BrowserControl.Select
