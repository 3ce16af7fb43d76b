import BrowserControl.Proofs.Select.Parts

/-!
# Clicks Go One Way

A click turns a choice of a multiple box round, whatever was meant by it.  So it matters that a request
clicks only what is to be turned: a request to select clicks only choices that are not selected and
are enabled, one to deselect clicks only choices that are selected, and only on a multiple box, and
nothing else clicks at all.  This holds of every call in every run of requests, whatever faults strike
in the middle of it, and whatever becomes of the box between two requests (`Control.keepsDirection`).

The picker alone does not see to all of this: what it goes by may be out of date, and the control has
to ask the box first.
-/

namespace BrowserControl.Select

open Attempt

/-- Which way choices are turned, if they are turned at all. -/
inductive Direction where
  | neither
  | on
  | off
  deriving DecidableEq, Repr

namespace Direction

/-- Whether a choice that is like this may be clicked. -/
def PermitsClick (selected enabled : Bool) : Direction → Prop
  | neither => False
  | on => selected = false ∧ enabled = true
  | off => selected = true

/-- Whether a call is no click, or a click on a choice that may be clicked. -/
def Permits (direction : Direction) : BoxCall → Prop
  | .click _ selected enabled => direction.PermitsClick selected enabled
  | _ => True

/-- Whether choices have changed in this direction only.  On a single box, a choice that is selected takes
the place of the others. -/
def Admits (multiple : Bool) (before after : Finset Nat) : Direction → Prop
  | neither => after = before
  | on => multiple = true → before ⊆ after
  | off => after ⊆ before

variable (direction : Direction)

theorem permits_of_click?_eq_none {call : BoxCall} (hcall : call.click? = none) :
    direction.Permits call := by
  cases call with
  | click position selected enabled => cases hcall
  | _ => trivial

theorem admits_refl (multiple : Bool) (selection : Finset Nat) :
    direction.Admits multiple selection selection := by
  cases direction with
  | neither => rfl
  | on => exact fun _ ↦ subset_rfl
  | off => exact subset_rfl

variable {direction} {multiple : Bool} {first second third : Finset Nat}

/-- Changes in one direction add up to a change in that direction. -/
theorem Admits.trans (hfirst : direction.Admits multiple first second)
    (hsecond : direction.Admits multiple second third) :
    direction.Admits multiple first third := by
  cases direction with
  | neither => exact Eq.trans hsecond hfirst
  | on => exact fun hmultiple ↦ (hfirst hmultiple).trans (hsecond hmultiple)
  | off => exact hsecond.trans hfirst

end Direction

namespace Box

/-- From one state of a box to a later one, all clicks have gone one way, and so have the choices. -/
structure Turns (direction : Direction) (found left : Box) : Prop where
  multiple_eq : left.multiple = found.multiple
  exists_calls : ∃ asked : List BoxCall, left.calls = asked.reverse ++ found.calls ∧
    ∀ call ∈ asked, direction.Permits call
  admits : direction.Admits found.isMultiple found.selection left.selection

namespace Turns

variable {direction : Direction} {found middle left : Box}

theorem isMultiple_eq (hturns : Turns direction found left) : left.isMultiple = found.isMultiple := by
  unfold isMultiple
  rw [hturns.multiple_eq]

theorem refl (direction : Direction) (box : Box) : Turns direction box box where
  multiple_eq := rfl
  exists_calls := ⟨[], rfl, by simp⟩
  admits := direction.admits_refl _ _

theorem trans (hfirst : Turns direction found middle) (hsecond : Turns direction middle left) :
    Turns direction found left where
  multiple_eq := hsecond.multiple_eq.trans hfirst.multiple_eq
  exists_calls := by
    obtain ⟨asked, hcalls, hasked⟩ := hfirst.exists_calls
    obtain ⟨later, hmore, hlater⟩ := hsecond.exists_calls
    refine ⟨asked ++ later, ?_, ?_⟩
    · rw [hmore, hcalls, List.reverse_append, List.append_assoc]
    · intro call hcall
      exact (List.mem_append.1 hcall).elim (hasked call) (hlater call)
  admits := by
    have hadmits := hsecond.admits
    rw [hfirst.isMultiple_eq] at hadmits
    exact hfirst.admits.trans hadmits

end Turns

theorem composes_turns (direction : Direction) : Composes (Turns direction) :=
  ⟨Turns.refl direction, Turns.trans⟩

/-- A call that is recorded is all that happens, unless it is a click that takes place. -/
theorem turns_noting {direction : Direction} {call : BoxCall} (hcall : direction.Permits call)
    (box : Box) : Turns direction box (box.noting call) where
  multiple_eq := box.multiple_noting call
  exists_calls := ⟨[call], box.calls_noting call, by simpa using hcall⟩
  admits := by
    rw [selection_noting]
    exact direction.admits_refl _ _

/-- Asking for something turns nothing. -/
theorem Asks.moves {α : Type} {attempt : Attempt Box α} {call : BoxCall}
    {answer : Box → Except Failure α} (hasks : Asks attempt call answer) (direction : Direction) :
    attempt.Moves (Turns direction) := by
  intro box
  rw [hasks.perform_eq]
  exact turns_noting (direction.permits_of_click?_eq_none hasks.click?_eq) box

/-- What is done with the answer to a question starts from the box after the question. -/
theorem Asks.turns_bind {α β : Type} {direction : Direction} {box : Box} {attempt : Attempt Box α}
    {call : BoxCall} {answer : Box → Except Failure α} {next : α → Attempt Box β}
    (hasks : Asks attempt call answer)
    (hnext : ∀ value, answer box = .ok value →
      Turns direction (box.noting call) ((next value).perform (box.noting call)).2) :
    Turns direction box ((attempt >>= next).perform box).2 := by
  have hasked : Turns direction box (box.noting call) :=
    turns_noting (direction.permits_of_click?_eq_none hasks.click?_eq) box
  rw [perform_bind, hasks.perform_eq]
  cases (box.plan call).outcome with
  | error failure => exact hasked
  | ok _ =>
    rw [Except.bind]
    cases hanswer : answer box with
    | error failure => exact hasked
    | ok value => exact hasked.trans (hnext value hanswer)

/-- All questions turn nothing, so what is put together from parts turns choices as the parts do. -/
theorem isInherited_turns (direction : Direction) :
    IsInherited fun _ attempt ↦ attempt.Moves (Turns direction) where
  pure := moves_pure (composes_turns direction)
  throw := moves_throw (composes_turns direction)
  bind := Moves.bind (composes_turns direction)
  asks hasks := hasks.moves direction

/-! ## Single choices -/

variable {direction : Direction} {box : Box} {position : Nat}

theorem any_selected_eq (box : Box) (position : Nat) :
    box.choices[position]?.any Choice.selected = decide (position ∈ box.selection) := by
  rw [selection, Bool.eq_iff_iff, decide_eq_true_iff, List.mem_toFinset, mem_selectedPositions]

/-- A click in the direction changes the selection in the direction. -/
theorem admits_clicked {enabled : Bool}
    (hclick : direction.PermitsClick (decide (position ∈ box.selection)) enabled) :
    direction.Admits box.isMultiple box.selection (box.clicked position).selection := by
  rw [selection_clicked, selectionAfterClick]
  cases direction with
  | neither => exact hclick.elim
  | on =>
    intro hmultiple
    have hposition : position ∉ box.selection := of_decide_eq_false hclick.1
    rw [if_pos hmultiple, if_neg hposition]
    exact Finset.subset_inter (Finset.subset_insert _ _) box.selection_subset_range
  | off =>
    have hposition : position ∈ box.selection := of_decide_eq_true hclick
    apply Finset.inter_subset_left.trans
    rw [if_pos hposition]
    split
    · exact Finset.erase_subset position box.selection
    · exact Finset.singleton_subset_iff.2 hposition

/-- A click on a choice that may be clicked is recorded as such, and turns choices that way. -/
theorem turns_perform_click
    (hclick : direction.PermitsClick (box.choices[position]?.any Choice.selected)
      (box.choices[position]?.any Choice.enabled)) :
    Turns direction box ((click position).perform box).2 := by
  have hcall : direction.Permits (box.clickAt position) := hclick
  have hnoting : Turns direction box (box.noting (box.clickAt position)) := turns_noting hcall box
  rw [perform_click]
  cases (box.plan (box.clickAt position)).outcome with
  | error failure => exact hnoting
  | ok _ =>
    rw [any_selected_eq, ← selection_noting box (box.clickAt position)] at hclick
    refine hnoting.trans ⟨multiple_clicked _ position, ⟨[], ?_, by simp⟩, admits_clicked hclick⟩
    exact calls_clicked _ position

end Box

namespace Picker

open Box

/-- A choice is clicked to have it selected only after it has turned out not to be selected, and to be
enabled. -/
theorem moves_setSelected (position : Nat) : (setSelected position).Moves (Turns .on) := by
  intro box
  refine asks_isSelected.turns_bind fun selected hselected ↦ ?_
  cases selected with
  | true => exact .refl .on _
  | false =>
    refine asks_isEnabled.turns_bind fun enabled henabled ↦ ?_
    cases enabled with
    | false => exact .refl .on _
    | true =>
      apply turns_perform_click
      rw [any_noting _ _ _ fun _ ↦ rfl, any_noting _ _ _ fun _ ↦ rfl,
        map_choices_noting _ _ _ fun _ ↦ rfl]
      exact ⟨Except.ok.inj hselected, Except.ok.inj henabled⟩

/-- A choice is clicked to have it not selected only after it has turned out to be selected. -/
theorem moves_unsetSelected (position : Nat) : (unsetSelected position).Moves (Turns .off) := by
  intro box
  refine asks_isSelected.turns_bind fun selected hselected ↦ ?_
  cases selected with
  | false => exact .refl .off _
  | true =>
    apply turns_perform_click
    rw [any_noting _ _ _ fun _ ↦ rfl]
    exact Except.ok.inj hselected

end Picker

/-! ## Requests -/

/-- Which way choices of a box are turned on a request. -/
def Request.direction (box : Box) : Request → Direction
  | isMultiple | choices | selectedChoices | firstSelected => .neither
  | select _ => .on
  | deselect _ | deselectAll => if box.isMultiple then .off else .neither

namespace Control

open Box

variable {direction : Direction} (control : Control)

theorem moves_writeIndex_throw (number : Int) (report : String → Failure) :
    (do throw (report (← Picker.writeIndex number)) : Attempt Box Unit).Moves (Turns direction) :=
  (Picker.inherits_writeIndex (isInherited_turns direction) number).bind
    (composes_turns direction) fun _ ↦ moves_throw (composes_turns direction) _

/-- A report is made after the clicks and turns nothing. -/
theorem moves_reportMissing {attempt : Attempt Box Unit} (hattempt : attempt.Moves (Turns direction))
    (criterion : String) : (reportMissing criterion attempt).Moves (Turns direction) :=
  hattempt.recover (composes_turns direction) fun _ ↦ moves_throw (composes_turns direction) _

theorem moves_reportMissingIndex {attempt : Attempt Box Unit}
    (hattempt : attempt.Moves (Turns direction)) (number : Int) :
    (reportMissingIndex number attempt).Moves (Turns direction) :=
  hattempt.recover (composes_turns direction) fun failure ↦
    moves_writeIndex_throw number fun decimal ↦
      failure.reportedAs .optionNotFound ("Cannot locate option with index: " ++ decimal)

/-- Selecting only selects. -/
theorem moves_select (criterion : Criterion) : (control.select criterion).Moves (Turns .on) := by
  have hinherited := isInherited_turns .on
  have hset := Picker.moves_setSelected
  cases criterion with
  | value content =>
    exact moves_reportMissing (Picker.inherits_selectByValue hinherited hset _ content) _
  | index number =>
    exact moves_reportMissingIndex (Picker.inherits_selectByIndex hinherited hset number) number
  | text shown =>
    exact moves_reportMissing (Picker.inherits_selectByText hinherited hset _ shown) _

/-- Nothing is deselected before the box has said that it is multiple. -/
theorem turns_requireMultiple_bind {action : String} {next : Attempt Box Unit}
    (hnext : next.Moves (Turns .off)) (box : Box) :
    Turns (if box.isMultiple then .off else .neither) box
      ((do requireMultiple action; next).perform box).2 := by
  refine (asks_requireMultiple action).turns_bind fun _ hanswer ↦ ?_
  cases hmultiple : box.isMultiple with
  | true => exact hnext _
  | false =>
    rw [hmultiple] at hanswer
    cases hanswer

/-- Deselecting only deselects, and turns nothing in a box that takes one choice. -/
theorem turns_deselect (criterion : Criterion) (box : Box) :
    Turns (if box.isMultiple then .off else .neither) box
      ((control.deselect criterion).perform box).2 := by
  have hinherited := isInherited_turns .off
  have hunset := Picker.moves_unsetSelected
  cases criterion with
  | value content =>
    exact turns_requireMultiple_bind
      (moves_reportMissing (Picker.inherits_deselectByValue hinherited hunset _ content) _) box
  | index number =>
    exact turns_requireMultiple_bind
      (moves_reportMissingIndex (Picker.inherits_deselectByIndex hinherited hunset _ number) number)
      box
  | text shown =>
    exact turns_requireMultiple_bind
      (moves_reportMissing (Picker.inherits_deselectByText hinherited hunset _ shown) _) box

theorem moves_firstSelected : firstSelected.Moves (Turns direction) :=
  (Picker.inherits_firstSelected (isInherited_turns direction)).recover
    (composes_turns direction) fun _ ↦ moves_throw (composes_turns direction) _

/-- A request turns choices in its own direction, wherever it stops. -/
theorem turns_respond (request : Request) (box : Box) :
    Turns (request.direction box) box ((control.respond request).perform box).2 := by
  have hinherited := isInherited_turns .neither
  cases request with
  | isMultiple => exact ((asks_isMultiple.moves .neither).map _) box
  | choices => exact (Moves.map (Picker.inherits_choices hinherited) _) box
  | selectedChoices => exact (Moves.map (Picker.inherits_selectedChoices hinherited) _) box
  | firstSelected => exact (moves_firstSelected.map _) box
  | select criterion => exact ((control.moves_select criterion).map _) box
  | deselect criterion =>
    rw [respond, perform_map]
    exact control.turns_deselect criterion box
  | deselectAll =>
    rw [respond, perform_map]
    exact turns_requireMultiple_bind
      (Picker.inherits_deselectAll (isInherited_turns .off) Picker.moves_unsetSelected _) box

/-- One request after the other, each turning choices in its own direction.  Before each of them the
box may become any other one. -/
def KeepsDirection (control : Control) : List ((Box → Box) × Request) → Box → Prop
  | [], _ => True
  | (change, request) :: rest, box =>
    let found := change box
    let left := ((control.respond request).perform found).2
    Turns (request.direction found) found left ∧ control.KeepsDirection rest left

/-- Runs keep their directions from whatever box they begin with. -/
theorem keepsDirection_of_box (run : List ((Box → Box) × Request)) (box : Box) :
    control.KeepsDirection run box := by
  induction run generalizing box with
  | nil => trivial
  | cons entry rest ih =>
    obtain ⟨change, request⟩ := entry
    exact ⟨control.turns_respond request (change box), ih _⟩

theorem moves_make : make.Moves (Turns direction) := by
  have hcomposes := composes_turns direction
  have hpicker : Picker.make.Moves (Turns direction) := by
    refine (moves_get hcomposes).bind hcomposes fun box ↦ ?_
    by_cases htag : box.tag.toLower ≠ "select"
    · simp only [if_pos htag]
      exact moves_throw hcomposes _
    · simp only [if_neg htag]
      exact (asks_readMultiple.moves direction).bind hcomposes fun _ ↦ moves_pure hcomposes _
  exact hpicker.map Control.mk

/-- Clicks go one way.  Making a control clicks nothing.  In every run of requests, whatever faults are
planned and whatever becomes of the box in between, a request to select clicks only choices that are
enabled and not selected at that moment, a request to deselect clicks only choices that are selected
at that moment, and only if the box was multiple when the request was made, and reading clicks nothing.
So no request to deselect has anything selected, nor the other way round on a multiple box. -/
theorem keepsDirection (run : List ((Box → Box) × Request)) (built : Box) :
    Turns .neither built (make.perform built).2 ∧
      control.KeepsDirection run (make.perform built).2 :=
  ⟨moves_make built, control.keepsDirection_of_box run _⟩

end Control

end BrowserControl.Select
