import BrowserControl.Select.Box
import Mathlib.Data.Finset.Basic
import Mathlib.Data.Finset.Range

/-!
# Select Boxes Without Faults

Without faults, everything that can be asked of a select box is answered, and what changes is the
record of calls and, with a click, which choices are selected.  So the box can be followed through any
attempt by the set of the positions that are selected: it is always the box that it was, showing
some selection (`Box.showing`).  Which selection that is follows from the clicks alone
(`Box.Clicks`).
-/

namespace BrowserControl.Select

open Attempt

def ChoiceFaults.quiet : ChoiceFaults :=
  ⟨none, none, none, none, none, none⟩

def BoxFaults.quiet : BoxFaults :=
  ⟨none, none⟩

/-- The index of a choice at a position. -/
def Choice.indexAt (position : Nat) (choice : Choice) : Option String :=
  match choice.index with
  | .position => some (toString position)
  | .stated index => index

def Choice.styleOf (property : String) (choice : Choice) : String :=
  (choice.style.lookup property).getD ((Box.standardStyle.lookup property).getD "")

/-- The position of the choice that a call clicks, if it is a click. -/
def BoxCall.click? : BoxCall → Option Nat
  | click position _ _ => some position
  | _ => none

namespace Box

structure IsQuiet (box : Box) : Prop where
  faults_eq : box.faults = .quiet
  choices_quiet : ∀ choice ∈ box.choices, choice.faults = .quiet

/-- What is recorded does not matter. -/
theorem IsQuiet.withCalls {box : Box} (hquiet : box.IsQuiet) (calls : List BoxCall) :
    ({ box with calls } : Box).IsQuiet :=
  ⟨hquiet.faults_eq, hquiet.choices_quiet⟩

/-! ## Selections -/

def selection (box : Box) : Finset Nat :=
  box.selectedPositions.toFinset

/-- The box with exactly the choices at some positions selected, and with some record of calls. -/
def showing (selection : Finset Nat) (calls : List BoxCall) (box : Box) : Box :=
  { box with
    choices := box.choices.mapIdx fun position choice ↦
      { choice with selected := decide (position ∈ selection) }
    calls }

variable (box : Box) (selection : Finset Nat) (calls : List BoxCall) (position : Nat)

@[simp]
theorem length_choices_showing :
    (box.showing selection calls).choices.length = box.choices.length := by
  simp [showing]

theorem getElem?_choices_showing :
    (box.showing selection calls).choices[position]? =
      box.choices[position]?.map fun choice ↦
        { choice with selected := decide (position ∈ selection) } := by
  simp [showing]

/-- What is selected does not change which choices a query finds. -/
theorem positions_showing (query : Query) :
    (box.showing selection calls).positions query = box.positions query := by
  unfold positions
  rw [length_choices_showing]
  apply List.filter_congr
  intro position _
  rw [getElem?_choices_showing, Option.any_map]
  cases query <;> rfl

theorem mem_selectedPositions :
    position ∈ box.selectedPositions ↔ box.choices[position]?.any Choice.selected = true := by
  unfold selectedPositions
  rw [List.mem_filter, List.mem_range, and_iff_right_iff_imp]
  intro hselected
  by_contra hlength
  simp [List.getElem?_eq_none (Nat.le_of_not_lt hlength)] at hselected

/-- What is selected in a box that shows a selection. -/
theorem selection_showing :
    (box.showing selection calls).selection = selection ∩ Finset.range box.choices.length := by
  ext position
  rw [Box.selection, List.mem_toFinset, mem_selectedPositions, getElem?_choices_showing,
    Finset.mem_inter, Finset.mem_range]
  by_cases hlength : position < box.choices.length
  · simp [hlength]
  · simp [hlength]

/-- Every box shows its own selection. -/
theorem showing_selection : box.showing box.selection box.calls = box := by
  have hchoices : (box.showing box.selection box.calls).choices = box.choices := by
    ext1 position
    rw [getElem?_choices_showing]
    cases hchoice : box.choices[position]? with
    | none => rfl
    | some choice =>
      have hselected : position ∈ box.selection ↔ choice.selected = true := by
        rw [Box.selection, List.mem_toFinset, mem_selectedPositions, hchoice]
        rfl
      simp [hselected]
  exact congrArg (fun choices ↦ { box with choices }) hchoices

/-- Only positions within the box matter for what it shows. -/
theorem showing_congr {other : Finset Nat}
    (hsame : ∀ position < box.choices.length, position ∈ selection ↔ position ∈ other) :
    box.showing selection calls = box.showing other calls := by
  have hchoices : (box.showing selection calls).choices = (box.showing other calls).choices := by
    ext1 position
    rw [getElem?_choices_showing, getElem?_choices_showing]
    by_cases hlength : position < box.choices.length
    · simp only [hsame position hlength]
    · rw [List.getElem?_eq_none (Nat.le_of_not_lt hlength)]
      rfl
  exact congrArg (fun choices ↦ { box with choices, calls }) hchoices

variable {box} in
theorem isQuiet_showing (hquiet : box.IsQuiet) : (box.showing selection calls).IsQuiet := by
  refine ⟨hquiet.faults_eq, fun choice hchoice ↦ ?_⟩
  obtain ⟨position, hposition⟩ := List.mem_iff_getElem?.1 hchoice
  rw [getElem?_choices_showing] at hposition
  obtain ⟨found, hfound, rfl⟩ := Option.map_eq_some_iff.1 hposition
  exact hquiet.choices_quiet found (List.mem_of_getElem? hfound)

/-- What is selected after a click on the choice at a position. -/
def selectionAfterClick (box : Box) (position : Nat) (selection : Finset Nat) : Finset Nat :=
  if box.isMultiple then
    if position ∈ selection then selection.erase position else insert position selection
  else {position}

/-- A click on a box that shows a selection shows the selection after the click. -/
theorem clicked_showing :
    clicked position (box.showing selection calls) =
      box.showing (box.selectionAfterClick position selection) calls := by
  have hmultiple : (box.showing selection calls).isMultiple = box.isMultiple := rfl
  unfold clicked selectionAfterClick
  rw [hmultiple]
  split
  · refine congrArg (fun choices ↦ { box with choices, calls }) ?_
    ext1 other
    rw [List.getElem?_modify, getElem?_choices_showing, List.getElem?_mapIdx]
    cases box.choices[other]? with
    | none => simp
    | some choice =>
      by_cases hother : position = other
      · subst hother
        by_cases hselected : position ∈ selection <;> simp [hselected]
      · by_cases hselected : position ∈ selection <;> simp [hselected, hother, Ne.symm hother]
  · refine congrArg (fun choices ↦ { box with choices, calls }) ?_
    ext1 other
    rw [List.getElem?_mapIdx, getElem?_choices_showing, List.getElem?_mapIdx, Option.map_map]
    simp only [Function.comp_def, Finset.mem_singleton, beq_eq_decide]

/-! ## Attempts on a box that shows a selection -/

/-- Whatever was asked before, an attempt on the box while it shows a selection comes to an outcome,
and leaves the box showing another selection. -/
def Leads {α : Type} (box : Box) (attempt : Attempt Box α) (selection : Finset Nat)
    (outcome : Except Failure α) (next : Finset Nat) : Prop :=
  ∀ calls, ∃ later,
    attempt.perform (box.showing selection calls) = (outcome, box.showing next later)

namespace Leads

variable {box : Box} {α β : Type} {first : Attempt Box α} {value : α} {failure : Failure}
  {selection middle last : Finset Nat} {kind : Kind} {handle : Failure → Attempt Box α}

theorem pure (value : α) (selection : Finset Nat) :
    box.Leads (Pure.pure value) selection (.ok value) selection :=
  fun calls ↦ ⟨calls, rfl⟩

theorem throw (failure : Failure) (selection : Finset Nat) :
    box.Leads (MonadExcept.throw failure : Attempt Box α) selection (.error failure) selection :=
  fun calls ↦ ⟨calls, rfl⟩

theorem bind {next : α → Attempt Box β} {outcome : Except Failure β}
    (hfirst : box.Leads first selection (.ok value) middle)
    (hnext : box.Leads (next value) middle outcome last) :
    box.Leads (first >>= next) selection outcome last := by
  intro calls
  obtain ⟨between, hperform⟩ := hfirst calls
  rw [perform_bind, hperform]
  exact hnext between

theorem map {outcome : Except Failure α} (change : α → β)
    (hfirst : box.Leads first selection outcome last) :
    box.Leads (change <$> first) selection (outcome.map change) last := by
  intro calls
  obtain ⟨later, hperform⟩ := hfirst calls
  exact ⟨later, by rw [perform_map, hperform]⟩

theorem recover_ok (hfirst : box.Leads first selection (.ok value) middle) :
    box.Leads (Attempt.recover first kind handle) selection (.ok value) middle := by
  intro calls
  obtain ⟨later, hperform⟩ := hfirst calls
  exact ⟨later, by rw [perform_recover, hperform]⟩

/-- A handler leads on from the selection at which the attempt failed. -/
theorem recover_error {outcome : Except Failure α} (hexpected : failure.kind.isA kind = true)
    (hfirst : box.Leads first selection (.error failure) middle)
    (hhandle : box.Leads (handle failure) middle outcome last) :
    box.Leads (Attempt.recover first kind handle) selection outcome last := by
  intro calls
  obtain ⟨between, hperform⟩ := hfirst calls
  rw [perform_recover, hperform]
  simpa only [hexpected, if_true] using hhandle between

end Leads

/-- What is selected after clicks on the choices at some positions, one after the other. -/
def selectionAfter (box : Box) (clicked : List Nat) (selection : Finset Nat) : Finset Nat :=
  clicked.foldl (fun selection position ↦ box.selectionAfterClick position selection) selection

@[simp]
theorem selectionAfter_nil : box.selectionAfter [] selection = selection :=
  rfl

@[simp]
theorem selectionAfter_singleton :
    box.selectionAfter [position] selection = box.selectionAfterClick position selection :=
  rfl

/-- Clicks are made one after the other. -/
theorem selectionAfter_append (clicked further : List Nat) :
    box.selectionAfter (clicked ++ further) selection =
      box.selectionAfter further (box.selectionAfter clicked selection) :=
  List.foldl_append

/-- Whatever was asked before, an attempt on the box while it shows a selection comes to an outcome
and clicks the choices at some positions, in this order; nothing else changes the selection. -/
def Clicks {α : Type} (box : Box) (attempt : Attempt Box α) (selection : Finset Nat)
    (outcome : Except Failure α) (clicked : List Nat) : Prop :=
  ∀ calls, ∃ asked : List BoxCall, asked.filterMap BoxCall.click? = clicked ∧
    attempt.perform (box.showing selection calls) =
      (outcome, box.showing (box.selectionAfter clicked selection) (asked.reverse ++ calls))

namespace Clicks

variable {box : Box} {α β : Type} {first : Attempt Box α} {value : α} {failure : Failure}
  {selection : Finset Nat} {clicked further : List Nat} {kind : Kind}
  {handle : Failure → Attempt Box α}

/-- Which selection comes out depends on the clicks alone. -/
theorem leads {outcome : Except Failure α} (hclicks : box.Clicks first selection outcome clicked) :
    box.Leads first selection outcome (box.selectionAfter clicked selection) := by
  intro calls
  obtain ⟨asked, -, hperform⟩ := hclicks calls
  exact ⟨_, hperform⟩

/-- What clicks nothing leaves the selection as it is. -/
theorem leads_of_nil {outcome : Except Failure α} (hclicks : box.Clicks first selection outcome []) :
    box.Leads first selection outcome selection :=
  hclicks.leads

theorem pure (value : α) (selection : Finset Nat) :
    box.Clicks (Pure.pure value) selection (.ok value) [] :=
  fun _ ↦ ⟨[], rfl, rfl⟩

theorem throw (failure : Failure) (selection : Finset Nat) :
    box.Clicks (MonadExcept.throw failure : Attempt Box α) selection (.error failure) [] :=
  fun _ ↦ ⟨[], rfl, rfl⟩

/-- The clicks of a sequence are those of its parts in order. -/
theorem bind {next : α → Attempt Box β} {outcome : Except Failure β}
    (hfirst : box.Clicks first selection (.ok value) clicked)
    (hnext : box.Clicks (next value) (box.selectionAfter clicked selection) outcome further) :
    box.Clicks (first >>= next) selection outcome (clicked ++ further) := by
  intro calls
  obtain ⟨asked, hasked, hperform⟩ := hfirst calls
  obtain ⟨later, hlater, hperformNext⟩ := hnext (asked.reverse ++ calls)
  refine ⟨asked ++ later, by rw [List.filterMap_append, hasked, hlater], ?_⟩
  rw [perform_bind, hperform, selectionAfter_append, List.reverse_append, List.append_assoc]
  exact hperformNext

/-- What goes before and clicks nothing does not matter. -/
theorem bind_of_nil {next : α → Attempt Box β} {outcome : Except Failure β}
    (hfirst : box.Clicks first selection (.ok value) [])
    (hnext : box.Clicks (next value) selection outcome clicked) :
    box.Clicks (first >>= next) selection outcome clicked :=
  hfirst.bind hnext

/-- After a failure nothing more is clicked. -/
theorem bind_error {next : α → Attempt Box β}
    (hfirst : box.Clicks first selection (.error failure) clicked) :
    box.Clicks (first >>= next) selection (.error failure) clicked := by
  intro calls
  obtain ⟨asked, hasked, hperform⟩ := hfirst calls
  exact ⟨asked, hasked, by rw [perform_bind, hperform]⟩

theorem map {outcome : Except Failure α} (change : α → β)
    (hfirst : box.Clicks first selection outcome clicked) :
    box.Clicks (change <$> first) selection (outcome.map change) clicked := by
  intro calls
  obtain ⟨asked, hasked, hperform⟩ := hfirst calls
  exact ⟨asked, hasked, by rw [perform_map, hperform]⟩

theorem recover_ok (hfirst : box.Clicks first selection (.ok value) clicked) :
    box.Clicks (Attempt.recover first kind handle) selection (.ok value) clicked := by
  intro calls
  obtain ⟨asked, hasked, hperform⟩ := hfirst calls
  exact ⟨asked, hasked, by rw [perform_recover, hperform]⟩

theorem recover_error {outcome : Except Failure α} (hexpected : failure.kind.isA kind = true)
    (hfirst : box.Clicks first selection (.error failure) clicked)
    (hhandle : box.Clicks (handle failure) (box.selectionAfter clicked selection) outcome further) :
    box.Clicks (Attempt.recover first kind handle) selection outcome (clicked ++ further) := by
  intro calls
  obtain ⟨asked, hasked, hperform⟩ := hfirst calls
  obtain ⟨later, hlater, hperformHandle⟩ := hhandle (asked.reverse ++ calls)
  refine ⟨asked ++ later, by rw [List.filterMap_append, hasked, hlater], ?_⟩
  rw [perform_recover, hperform, selectionAfter_append, List.reverse_append, List.append_assoc]
  simpa only [hexpected, if_true] using hperformHandle

/-- A failure of another kind passes through with its clicks. -/
theorem recover_of_unexpected (hexpected : failure.kind.isA kind = false)
    (hfirst : box.Clicks first selection (.error failure) clicked) :
    box.Clicks (Attempt.recover first kind handle) selection (.error failure) clicked := by
  intro calls
  obtain ⟨asked, hasked, hperform⟩ := hfirst calls
  refine ⟨asked, hasked, ?_⟩
  rw [perform_recover, hperform]
  simp only [hexpected, Bool.false_eq_true, if_false]

/-- What callers see of it when the box shows its own selection. -/
theorem exists_observe {outcome : Except Failure α}
    (hclicks : box.Clicks first box.selection outcome clicked) :
    ∃ asked : List BoxCall, asked.filterMap BoxCall.click? = clicked ∧
      box.observe first =
        (outcome, asked, box.showing (box.selectionAfter clicked box.selection) asked.reverse) := by
  obtain ⟨asked, hasked, hperform⟩ := hclicks []
  have hcleared : { box with calls := [] } = box.showing box.selection [] :=
    (showing_selection { box with calls := [] }).symm
  refine ⟨asked, hasked, ?_⟩
  unfold observe
  rw [hcleared, hperform]
  simp [showing]

end Clicks

/-! ## Questions and clicks -/

variable {box} in
/-- A call is recorded, and goes on, if no fault is planned for it. -/
theorem perform_call {α : Type} {call : BoxCall} {plan : Box → Plan}
    (hplan : plan { box with calls := call :: box.calls } = none) (replace : Plan → Box → Box)
    (next : Attempt Box α) :
    (do record call; strike plan replace; next).perform box =
      next.perform { box with calls := call :: box.calls } := by
  unfold record
  rw [perform_bind, perform_modify]
  simp only [perform_bind, perform_strike_of_eq_none hplan]

section

variable {box} {selection} (hquiet : box.IsQuiet)

include hquiet

/-- A question to a choice is answered and recorded if no fault is planned for it. -/
theorem perform_ask {α : Type} {call : Nat → BoxCall} {plan : ChoiceFaults → Plan}
    (replace : Plan → ChoiceFaults → ChoiceFaults) (answer : Choice → α) (absent : α)
    (hplan : plan .quiet = none) :
    (ask position call plan replace answer absent).perform box =
      (.ok ((box.choices[position]?.map answer).getD absent),
        { box with calls := call position :: box.calls }) := by
  have hnone : (box.choices[position]?.bind fun choice ↦ plan choice.faults) = none := by
    cases hchoice : box.choices[position]? with
    | none => rfl
    | some choice =>
      rw [Option.bind_some, hquiet.choices_quiet choice (List.mem_of_getElem? hchoice), hplan]
  unfold ask
  rw [perform_call hnone]
  rfl

/-- A search without faults gives what the page has, or refuses the selector. -/
theorem perform_find (query : Query) :
    (find query).perform box =
      (if query.isUnderstood then .ok (box.positions query)
        else .error (.of .invalidSelector ("invalid selector: " ++ query.selector)),
        { box with calls := .find query :: box.calls }) := by
  have hplan : box.faults.find = none := by
    rw [hquiet.faults_eq]
    rfl
  unfold find
  rw [perform_call hplan]
  cases query.isUnderstood <;> rfl

theorem perform_readMultiple :
    readMultiple.perform box =
      (.ok box.multiple, { box with calls := .readMultiple :: box.calls }) := by
  have hplan : box.faults.readMultiple = none := by
    rw [hquiet.faults_eq]
    rfl
  unfold readMultiple
  rw [perform_call hplan]
  rfl

theorem clicks_find {query : Query} (hunderstood : query.isUnderstood = true) :
    box.Clicks (find query) selection (.ok (box.positions query)) [] := by
  refine fun calls ↦ ⟨[.find query], rfl, ?_⟩
  rw [perform_find (isQuiet_showing selection calls hquiet), if_pos hunderstood,
    positions_showing]
  rfl

theorem clicks_find_of_not_understood {query : Query} (hunderstood : query.isUnderstood = false) :
    box.Clicks (find query) selection
      (.error (.of .invalidSelector ("invalid selector: " ++ query.selector))) [] := by
  refine fun calls ↦ ⟨[.find query], rfl, ?_⟩
  rw [perform_find (isQuiet_showing selection calls hquiet), if_neg (by simp [hunderstood])]
  rfl

theorem leads_find {query : Query} (hunderstood : query.isUnderstood = true) :
    box.Leads (find query) selection (.ok (box.positions query)) selection :=
  (clicks_find hquiet hunderstood).leads_of_nil

variable {position} {choice : Choice} (hchoice : box.choices[position]? = some choice)

include hchoice

/-- A question about a choice clicks nothing. -/
theorem clicks_ask {α : Type} {call : Nat → BoxCall} {plan : ChoiceFaults → Plan}
    {replace : Plan → ChoiceFaults → ChoiceFaults} {answer : Choice → α} {absent : α}
    (hcall : (call position).click? = none) (hplan : plan .quiet = none) :
    box.Clicks (ask position call plan replace answer absent) selection
      (.ok (answer { choice with selected := decide (position ∈ selection) })) [] := by
  refine fun calls ↦ ⟨[call position], List.filterMap_cons_none hcall, ?_⟩
  rw [perform_ask position (isQuiet_showing selection calls hquiet) replace answer absent hplan,
    getElem?_choices_showing, hchoice]
  rfl

theorem clicks_text : box.Clicks (text position) selection (.ok choice.text) [] :=
  clicks_ask hquiet hchoice rfl rfl

theorem clicks_index :
    box.Clicks (index position) selection (.ok (choice.indexAt position)) [] :=
  clicks_ask hquiet hchoice rfl rfl

theorem clicks_isSelected :
    box.Clicks (isSelected position) selection (.ok (decide (position ∈ selection))) [] :=
  clicks_ask hquiet hchoice rfl rfl

theorem clicks_isEnabled :
    box.Clicks (isEnabled position) selection (.ok choice.enabled) [] :=
  clicks_ask hquiet hchoice rfl rfl

theorem clicks_style (property : String) :
    box.Clicks (style position property) selection (.ok (choice.styleOf property)) [] :=
  clicks_ask hquiet hchoice rfl rfl

theorem clicks_click : box.Clicks (click position) selection (.ok ()) [position] := by
  intro calls
  have hshown := getElem?_choices_showing box selection calls position
  rw [hchoice, Option.map_some] at hshown
  refine ⟨[.click position (decide (position ∈ selection)) choice.enabled], rfl, ?_⟩
  unfold click
  rw [perform_bind, perform_get]
  simp only [perform_bind]
  rw [perform_ask position (isQuiet_showing selection calls hquiet) _ _ _ rfl]
  simp only [hshown]
  have hclicked := clicked_showing box selection
    (.click position (decide (position ∈ selection)) choice.enabled :: calls) position
  exact congrArg (Prod.mk _) hclicked

theorem leads_text : box.Leads (text position) selection (.ok choice.text) selection :=
  (clicks_text hquiet hchoice).leads_of_nil

theorem leads_index :
    box.Leads (index position) selection (.ok (choice.indexAt position)) selection :=
  (clicks_index hquiet hchoice).leads_of_nil

theorem leads_isSelected :
    box.Leads (isSelected position) selection (.ok (decide (position ∈ selection))) selection :=
  (clicks_isSelected hquiet hchoice).leads_of_nil

end

end Box

end BrowserControl.Select
