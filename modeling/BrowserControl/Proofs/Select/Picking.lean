import BrowserControl.Proofs.Select.Quiet
import BrowserControl.Select.Picker
import Mathlib.Data.Finset.Basic
import Mathlib.Data.Finset.Lattice.Lemmas

/-!
# What Picking Comes To

On a multiple box without faults whose choices are all enabled and visible (`Box.IsOperable`), the loops
of a picker change the set of selected positions, and nothing else: having choices selected adds their
positions, having them not selected takes their positions away, and choices that are as wanted
already stay as they are.  A box is ready if moreover its choices have their positions as their indices
(`Box.IsReady`).
-/

namespace BrowserControl.Select

open Attempt

/-- Whether none of some properties of style makes a choice invisible. -/
def Choice.isVisibleBy (properties : List String) (choice : Choice) : Bool :=
  properties.all fun property ↦ choice.styleOf property ∉ Picker.invisibleValues

def Choice.isVisible (choice : Choice) : Bool :=
  choice.isVisibleBy Picker.visibilityProperties

/-- A multiple box without faults on which every choice can be selected and deselected, whatever the
indices of the choices are. -/
structure Box.IsOperable (box : Box) : Prop where
  isQuiet : box.IsQuiet
  isMultiple : box.isMultiple = true
  enabled : ∀ choice ∈ box.choices, choice.enabled = true
  visible : ∀ choice ∈ box.choices, choice.isVisible = true

/-- A multiple box without faults on which every choice can be selected and deselected. -/
structure Box.IsReady (box : Box) : Prop where
  isQuiet : box.IsQuiet
  tag_eq : box.tag.toLower = "select"
  multiple_eq : ∃ value, box.multiple = some value ∧ value ≠ "" ∧ value ≠ "false"
  enabled : ∀ choice ∈ box.choices, choice.enabled = true
  visible : ∀ choice ∈ box.choices, choice.isVisible = true
  index_eq : ∀ (position : Nat) (choice : Choice), box.choices[position]? = some choice →
    choice.indexAt position = some (toString position)

theorem Box.IsReady.isMultiple {box : Box} (hready : box.IsReady) : box.isMultiple = true := by
  obtain ⟨value, hmultiple, -, hvalue⟩ := hready.multiple_eq
  simp [Box.isMultiple, hmultiple, hvalue]

theorem Box.IsReady.isOperable {box : Box} (hready : box.IsReady) : box.IsOperable :=
  { hready with isMultiple := hready.isMultiple }

namespace Picker

variable {box : Box} {selection : Finset Nat} {position : Nat}

/-! ## Single choices -/

section

variable {choice : Choice} (hquiet : box.IsQuiet) (hchoice : box.choices[position]? = some choice)

include hquiet hchoice

theorem clicks_isVisibleBy (properties : List String) :
    box.Clicks (isVisibleBy position properties) selection (.ok (choice.isVisibleBy properties))
      [] := by
  induction properties with
  | nil => exact .pure _ _
  | cons property rest ih =>
    unfold isVisibleBy
    apply Box.Clicks.bind_of_nil (Box.clicks_style hquiet hchoice property)
    by_cases hvalue : choice.styleOf property ∈ invisibleValues
    · simpa [Choice.isVisibleBy, hvalue] using Box.Clicks.pure false selection
    · simpa [Choice.isVisibleBy, hvalue] using ih

/-- A choice that is not visible is refused. -/
theorem clicks_requireVisible_eq (text : String) :
    box.Clicks (requireVisible text position) selection
      (if choice.isVisible then .ok ()
        else .error (.of .noSuchElement ("Invisible option with text: " ++ text))) [] := by
  unfold requireVisible
  apply Box.Clicks.bind_of_nil (clicks_isVisibleBy hquiet hchoice visibilityProperties)
  change box.Clicks (if choice.isVisible then _ else _) selection _ []
  cases choice.isVisible with
  | true => exact .pure () selection
  | false => exact .throw _ selection

theorem clicks_requireVisible (text : String) (hvisible : choice.isVisible = true) :
    box.Clicks (requireVisible text position) selection (.ok ()) [] := by
  simpa only [hvisible, if_true] using clicks_requireVisible_eq hquiet hchoice text

/-- A choice is clicked exactly if it is enabled and not selected yet; if it is neither, it is refused. -/
theorem clicks_setSelected_eq :
    box.Clicks (setSelected position) selection
      (if position ∈ selection ∨ choice.enabled = true then .ok ()
        else .error (.of .unsupported "You may not select a disabled option"))
      (if position ∉ selection ∧ choice.enabled = true then [position] else []) := by
  unfold setSelected
  apply Box.Clicks.bind_of_nil (Box.clicks_isSelected hquiet hchoice)
  by_cases hselected : position ∈ selection
  · simpa [hselected] using Box.Clicks.pure () selection
  · rw [if_neg (by simpa using hselected)]
    apply Box.Clicks.bind_of_nil (Box.clicks_isEnabled hquiet hchoice)
    cases henabled : choice.enabled with
    | true => simpa [hselected] using Box.clicks_click hquiet hchoice
    | false => simpa [hselected] using Box.Clicks.throw _ selection

/-- An enabled choice is clicked exactly if it is not selected yet. -/
theorem clicks_setSelected (henabled : choice.enabled = true) :
    box.Clicks (setSelected position) selection (.ok ())
      (if position ∈ selection then [] else [position]) := by
  have hset : box.Clicks (setSelected position) selection _ _ := clicks_setSelected_eq hquiet hchoice
  simpa [henabled] using hset

/-- A choice is clicked exactly if it is still selected. -/
theorem clicks_unsetSelected :
    box.Clicks (unsetSelected position) selection (.ok ())
      (if position ∈ selection then [position] else []) := by
  unfold unsetSelected
  apply Box.Clicks.bind_of_nil (Box.clicks_isSelected hquiet hchoice)
  by_cases hselected : position ∈ selection
  · rw [if_pos (decide_eq_true hselected), if_pos hselected]
    exact Box.clicks_click hquiet hchoice
  · rw [if_neg (by simpa using hselected), if_neg hselected]
    exact .pure () selection

/-- An enabled choice is selected afterwards. -/
theorem leads_setSelected (hmultiple : box.isMultiple = true) (henabled : choice.enabled = true) :
    box.Leads (setSelected position) selection (.ok ()) (insert position selection) := by
  have hleads : box.Leads (setSelected position) selection (.ok ()) _ :=
    (clicks_setSelected hquiet hchoice henabled).leads
  by_cases hselected : position ∈ selection
  · rw [Finset.insert_eq_of_mem hselected]
    rwa [if_pos hselected] at hleads
  · rwa [if_neg hselected, Box.selectionAfter_singleton, Box.selectionAfterClick, if_pos hmultiple,
      if_neg hselected] at hleads

theorem leads_unsetSelected (hmultiple : box.isMultiple = true) :
    box.Leads (unsetSelected position) selection (.ok ()) (selection.erase position) := by
  have hleads : box.Leads (unsetSelected position) selection (.ok ()) _ :=
    (clicks_unsetSelected hquiet hchoice).leads
  by_cases hselected : position ∈ selection
  · rwa [if_pos hselected, Box.selectionAfter_singleton, Box.selectionAfterClick, if_pos hmultiple,
      if_pos hselected] at hleads
  · rw [Finset.erase_eq_of_notMem hselected]
    rwa [if_neg hselected] at hleads

end

/-! ## Several choices -/

/-- The selection after the choices at some positions have been selected, or deselected. -/
def adjusted (wanted : Bool) (positions selection : Finset Nat) : Finset Nat :=
  if wanted then selection ∪ positions else selection \ positions

@[simp]
theorem adjusted_empty (wanted : Bool) : adjusted wanted ∅ selection = selection := by
  cases wanted <;> simp [adjusted]

/-- Choices may be adjusted one after the other. -/
theorem adjusted_insert (wanted : Bool) (positions : Finset Nat) :
    adjusted wanted (insert position positions) selection =
      adjusted wanted positions (adjusted wanted {position} selection) := by
  cases wanted with
  | false =>
    ext other
    simp only [adjusted, Bool.false_eq_true, if_false, Finset.mem_sdiff, Finset.mem_insert,
      Finset.mem_singleton]
    tauto
  | true =>
    ext other
    simp only [adjusted, if_true, Finset.mem_union, Finset.mem_insert, Finset.mem_singleton]
    tauto

/-- Done at any position of the box, something selects the choice there, or deselects it. -/
def Adjusts (box : Box) (wanted : Bool) (act : Nat → Attempt Box Unit) : Prop :=
  ∀ position < box.choices.length, ∀ selection,
    box.Leads (act position) selection (.ok ()) (adjusted wanted {position} selection)

/-- Selecting asks for no more than that the choices are enabled. -/
theorem adjusts_setSelected_of_enabled (hquiet : box.IsQuiet) (hmultiple : box.isMultiple = true)
    (henabled : ∀ choice ∈ box.choices, choice.enabled = true) : Adjusts box true setSelected := by
  intro position hposition selection
  have hset : box.Leads (setSelected position) selection (.ok ()) (insert position selection) :=
    leads_setSelected hquiet (List.getElem?_eq_getElem hposition) hmultiple
      (henabled _ (List.getElem_mem hposition))
  rwa [Finset.insert_eq, Finset.union_comm] at hset

section

variable (hoperable : box.IsOperable)

include hoperable

theorem adjusts_setSelected : Adjusts box true setSelected :=
  adjusts_setSelected_of_enabled hoperable.isQuiet hoperable.isMultiple hoperable.enabled

theorem adjusts_unsetSelected : Adjusts box false unsetSelected := by
  intro position hposition selection
  have hunset : box.Leads (unsetSelected position) selection (.ok ()) (selection.erase position) :=
    leads_unsetSelected hoperable.isQuiet (List.getElem?_eq_getElem hposition) hoperable.isMultiple
  rwa [Finset.erase_eq] at hunset

theorem leads_requireVisible_of_lt (text : String) (hposition : position < box.choices.length) :
    box.Leads (requireVisible text position) selection (.ok ()) selection :=
  (clicks_requireVisible hoperable.isQuiet (List.getElem?_eq_getElem hposition) text
    (hoperable.visible _ (List.getElem_mem hposition))).leads_of_nil

theorem adjusts_selectVisible (text : String) : Adjusts box true (selectVisible text) :=
  fun position hposition selection ↦
    (leads_requireVisible_of_lt hoperable text hposition).bind
      (adjusts_setSelected hoperable position hposition selection)

theorem adjusts_deselectVisible (text : String) : Adjusts box false (deselectVisible text) :=
  fun position hposition selection ↦
    (leads_requireVisible_of_lt hoperable text hposition).bind
      (adjusts_unsetSelected hoperable position hposition selection)

end

variable {wanted : Bool} {act : Nat → Attempt Box Unit} {found : List Nat}

/-- Adjusting each of the choices that were found adjusts them all. -/
theorem leads_forAll (hact : Adjusts box wanted act)
    (hfound : ∀ position ∈ found, position < box.choices.length) :
    box.Leads (forAll act found) selection (.ok ()) (adjusted wanted found.toFinset selection) := by
  induction found generalizing selection with
  | nil => simpa [forAll] using Box.Leads.pure () selection
  | cons position rest ih =>
    rw [List.toFinset_cons, adjusted_insert]
    apply Box.Leads.bind (hact position (hfound position List.mem_cons_self) selection)
    exact ih fun other hother ↦ hfound other (List.mem_cons_of_mem _ hother)

/-- With several choices allowed, every choice found is picked. -/
theorem eachPicked_of_multiple {picker : Picker} (hmultiple : picker.multiple = true) :
    eachPicked picker act found = forAll act found := by
  induction found with
  | nil => rfl
  | cons position rest ih => simp only [eachPicked, forAll, hmultiple, if_true, ih]

end Picker

end BrowserControl.Select
