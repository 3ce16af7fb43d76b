import BrowserControl.Proofs.Select.Faults
import BrowserControl.Proofs.Select.Refinement

/-!
# What the Whole Has From Its Parts

Everything that is done to a select box is put together from questions and clicks.  So a property of
attempts that questions have, and that the whole has whenever its parts have it (`Box.IsInherited`),
belongs to all that reads.  It belongs to selecting by any criterion if it belongs to having a single
choice selected, and to deselecting if it belongs to having a single choice not selected.
-/

namespace BrowserControl.Select

open Attempt

namespace Control

theorem asks_isMultiple : Box.Asks isMultiple .readMultiple fun box ↦ .ok box.isMultiple :=
  Box.asks_readMultiple.bind_ofExcept fun multiple ↦ .ok (multiple.any (· ≠ "false"))

/-- The control asks the box whether it is multiple, and goes by the answer. -/
theorem asks_requireMultiple (action : String) :
    Box.Asks (requireMultiple action) .readMultiple fun box ↦
      if box.isMultiple then .ok ()
      else .error (.of .notMultiple ("You may only " ++ action ++ " of a multi-select")) := by
  have hasks := asks_isMultiple.bind_ofExcept fun multiple ↦
    if multiple then .ok ()
    else .error (.of .notMultiple ("You may only " ++ action ++ " of a multi-select"))
  have hguard : requireMultiple action = isMultiple >>= fun multiple ↦ Attempt.ofExcept
      (if multiple then .ok ()
      else .error (.of .notMultiple ("You may only " ++ action ++ " of a multi-select"))) := by
    unfold requireMultiple
    congr 1
    funext multiple
    cases multiple <;> rfl
  rw [hguard]
  exact hasks

end Control

/-- Questions have a property of attempts, and the whole has it if its parts have it. -/
structure Box.IsInherited (property : ∀ α : Type, Attempt Box α → Prop) : Prop where
  pure {α : Type} (value : α) : property α (pure value)
  throw {α : Type} (failure : Failure) : property α (throw failure)
  bind {α β : Type} {first : Attempt Box α} {next : α → Attempt Box β} :
    property α first → (∀ value, property β (next value)) → property β (first >>= next)
  asks {α : Type} {attempt : Attempt Box α} {call : BoxCall} {answer : Box → Except Failure α} :
    Box.Asks attempt call answer → property α attempt

variable {property : ∀ α : Type, Attempt Box α → Prop} (hinherited : Box.IsInherited property)

include hinherited

theorem Box.IsInherited.map {α β : Type} {attempt : Attempt Box α} (hattempt : property α attempt)
    (change : α → β) : property β (change <$> attempt) := by
  rw [map_eq_pure_bind]
  exact hinherited.bind hattempt fun value ↦ hinherited.pure (change value)

namespace Picker

/-! ## Reading -/

theorem inherits_choices : property _ choices :=
  hinherited.asks (Box.asks_find .everyChoice)

theorem inherits_selectedOf (found : List Nat) : property _ (selectedOf found) := by
  induction found with
  | nil => exact hinherited.pure []
  | cons position rest ih =>
    refine hinherited.bind (hinherited.asks Box.asks_isSelected) fun selected ↦ ?_
    exact hinherited.bind ih fun others ↦ hinherited.pure _

theorem inherits_selectedChoices : property _ selectedChoices :=
  hinherited.bind (inherits_choices hinherited) (inherits_selectedOf hinherited)

theorem inherits_firstSelectedOf (found : List Nat) : property _ (firstSelectedOf found) := by
  induction found with
  | nil => exact hinherited.throw _
  | cons position rest ih =>
    refine hinherited.bind (hinherited.asks Box.asks_isSelected) fun selected ↦ ?_
    cases selected with
    | true => exact hinherited.pure position
    | false => exact ih

theorem inherits_firstSelected : property _ firstSelected :=
  hinherited.bind (inherits_choices hinherited) (inherits_firstSelectedOf hinherited)

theorem inherits_isVisibleBy (position : Nat) (properties : List String) :
    property _ (isVisibleBy position properties) := by
  induction properties with
  | nil => exact hinherited.pure true
  | cons name rest ih =>
    refine hinherited.bind (hinherited.asks (Box.asks_style name)) fun value ↦ ?_
    by_cases hvalue : value ∈ invisibleValues
    · rw [if_pos hvalue]
      exact hinherited.pure false
    · rw [if_neg hvalue]
      exact ih

theorem inherits_requireVisible (shown : String) (position : Nat) :
    property _ (requireVisible shown position) := by
  refine hinherited.bind (inherits_isVisibleBy hinherited position _) fun visible ↦ ?_
  cases visible with
  | true => exact hinherited.pure ()
  | false => exact hinherited.throw _

theorem inherits_writeIndex (number : Int) : property _ (writeIndex number) := by
  unfold writeIndex
  cases Decimal.writeInteger? number with
  | some decimal => exact hinherited.pure decimal
  | none => exact hinherited.throw _

theorem inherits_noSuchIndex (number : Int) : property _ (noSuchIndex number) :=
  hinherited.bind (inherits_writeIndex hinherited number) fun _ ↦ hinherited.throw _

theorem inherits_candidates (shown : String) : property _ (candidates shown) := by
  unfold candidates
  split
  · exact inherits_choices hinherited
  · exact hinherited.asks (Box.asks_find _)

theorem inherits_requireMultiple (picker : Picker) (action : String) :
    property _ (picker.requireMultiple action) := by
  unfold requireMultiple
  cases picker.multiple with
  | true => exact hinherited.pure ()
  | false => exact hinherited.throw _

/-! ## Choices that are found -/

section

variable {act : Nat → Attempt Box Unit} (hact : ∀ position, property _ (act position))

include hact

theorem inherits_eachPicked (picker : Picker) (found : List Nat) :
    property _ (eachPicked picker act found) := by
  induction found with
  | nil => exact hinherited.pure ()
  | cons position rest ih =>
    refine hinherited.bind (hact position) fun _ ↦ ?_
    cases picker.multiple with
    | true => exact ih
    | false => exact hinherited.pure ()

theorem inherits_forAll (found : List Nat) : property _ (forAll act found) := by
  induction found with
  | nil => exact hinherited.pure ()
  | cons position rest ih => exact hinherited.bind (hact position) fun _ ↦ ih

end

/-! ## Selecting -/

section

variable (hset : ∀ position, property _ (setSelected position))

include hset

theorem inherits_selectVisible (shown : String) (position : Nat) :
    property _ (selectVisible shown position) :=
  hinherited.bind (inherits_requireVisible hinherited shown position) fun _ ↦ hset position

theorem inherits_selectIndexOf (number : Int) (decimal : String) (found : List Nat) :
    property _ (selectIndexOf number decimal found) := by
  induction found with
  | nil => exact inherits_noSuchIndex hinherited number
  | cons position rest ih =>
    refine hinherited.bind (hinherited.asks Box.asks_index) fun index ↦ ?_
    by_cases hindex : index = some decimal
    · rw [if_pos hindex]
      exact hset position
    · rw [if_neg hindex]
      exact ih

theorem inherits_selectExact (picker : Picker) (shown : String) (found : List Nat) :
    property _ (selectExact picker shown found) := by
  induction found with
  | nil => exact hinherited.pure false
  | cons position rest ih =>
    refine hinherited.bind (hinherited.asks Box.asks_text) fun text ↦ ?_
    by_cases htext : text = shown
    · rw [if_pos htext]
      refine hinherited.bind (inherits_selectVisible hinherited hset shown position) fun _ ↦ ?_
      cases picker.multiple with
      | true => exact hinherited.map ih _
      | false => exact hinherited.pure true
    · rw [if_neg htext]
      exact ih

theorem inherits_selectByValue (picker : Picker) (content : String) :
    property _ (picker.selectByValue content) := by
  refine hinherited.bind (hinherited.asks (Box.asks_find _)) fun found ↦ ?_
  cases found with
  | nil => exact hinherited.throw _
  | cons first rest => exact inherits_eachPicked hinherited hset picker (first :: rest)

theorem inherits_selectByIndex (number : Int) : property _ (selectByIndex number) := by
  refine hinherited.bind (inherits_writeIndex hinherited number) fun decimal ↦ ?_
  exact hinherited.bind (inherits_choices hinherited)
    (inherits_selectIndexOf hinherited hset number decimal)

theorem inherits_selectByText (picker : Picker) (shown : String) :
    property _ (picker.selectByText shown) := by
  refine hinherited.bind (hinherited.asks (Box.asks_find _)) fun found ↦ ?_
  cases found with
  | cons first rest =>
    exact inherits_eachPicked hinherited (inherits_selectVisible hinherited hset shown) picker
      (first :: rest)
  | nil =>
    by_cases hspace : ' ' ∈ shown.toList
    · simp only [hspace, if_true]
      refine hinherited.bind (inherits_candidates hinherited shown) fun offered ↦ ?_
      refine hinherited.bind (inherits_selectExact hinherited hset picker shown offered) fun any ↦ ?_
      cases any with
      | true => exact hinherited.pure ()
      | false => exact hinherited.throw _
    · simp only [hspace, if_false]
      exact hinherited.throw _

end

/-! ## Deselecting -/

section

variable (hunset : ∀ position, property _ (unsetSelected position))

include hunset

theorem inherits_deselectVisible (shown : String) (position : Nat) :
    property _ (deselectVisible shown position) :=
  hinherited.bind (inherits_requireVisible hinherited shown position) fun _ ↦ hunset position

theorem inherits_deselectIndexOf (number : Int) (found : List Nat) :
    property _ (deselectIndexOf number found) := by
  induction found with
  | nil => exact inherits_noSuchIndex hinherited number
  | cons position rest ih =>
    refine hinherited.bind (hinherited.asks Box.asks_index) fun index ↦ ?_
    refine hinherited.bind (inherits_writeIndex hinherited number) fun decimal ↦ ?_
    by_cases hindex : index = some decimal
    · rw [if_pos hindex]
      exact hunset position
    · rw [if_neg hindex]
      exact ih

theorem inherits_deselectAll (picker : Picker) : property _ picker.deselectAll := by
  refine hinherited.bind (inherits_requireMultiple hinherited picker _) fun _ ↦ ?_
  exact hinherited.bind (inherits_choices hinherited) (inherits_forAll hinherited hunset)

theorem inherits_deselectByValue (picker : Picker) (content : String) :
    property _ (picker.deselectByValue content) := by
  refine hinherited.bind (inherits_requireMultiple hinherited picker _) fun _ ↦ ?_
  refine hinherited.bind (hinherited.asks (Box.asks_find _)) fun found ↦ ?_
  cases found with
  | nil => exact hinherited.throw _
  | cons first rest => exact inherits_forAll hinherited hunset (first :: rest)

theorem inherits_deselectByIndex (picker : Picker) (number : Int) :
    property _ (picker.deselectByIndex number) := by
  refine hinherited.bind (inherits_requireMultiple hinherited picker _) fun _ ↦ ?_
  exact hinherited.bind (inherits_choices hinherited)
    (inherits_deselectIndexOf hinherited hunset number)

theorem inherits_deselectByText (picker : Picker) (shown : String) :
    property _ (picker.deselectByText shown) := by
  refine hinherited.bind (inherits_requireMultiple hinherited picker _) fun _ ↦ ?_
  refine hinherited.bind (hinherited.asks (Box.asks_find _)) fun found ↦ ?_
  cases found with
  | nil => exact hinherited.throw _
  | cons first rest =>
    exact inherits_forAll hinherited (inherits_deselectVisible hinherited hunset shown) (first :: rest)

end

end Picker

end BrowserControl.Select
