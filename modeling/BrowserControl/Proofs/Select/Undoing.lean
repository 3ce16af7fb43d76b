import BrowserControl.Proofs.Select.Selecting

/-!
# Undoing a Selection by Text

One would expect that what has been selected by a text can be deselected by it.  But the choices are
looked for in different ways.  If no choice has the text with normal spacing, selecting goes on to
look for choices that show exactly this text, as one does whose text in the document has a space in
it that does not break; deselecting does not.  So what was selected by a text is deselected by it
exactly if some choice has the text with normal spacing (`Control.undoes_iff`).  Otherwise
deselecting reports that no choice has the text, although choices with it have just been selected.
-/

namespace BrowserControl.Select

open Attempt

/-- If selecting by a text succeeds, then so does deselecting by it right afterwards, and none of the
choices that were matched is selected any more. -/
def Control.Undoes (control : Control) (box : Box) (shown : String) : Prop :=
  ∀ selected, (control.selectByText shown).perform box = (.ok (), selected) →
    ∃ later, (control.deselectByText shown).perform selected = (.ok (), later) ∧
      ∀ position ∈ (Criterion.text shown).selectable box, position ∉ later.selection

/-- What an attempt comes to on the box as it is. -/
theorem Box.Leads.exists_perform {α : Type} {box : Box} {attempt : Attempt Box α}
    {outcome : Except Failure α} {next : Finset Nat}
    (hleads : box.Leads attempt box.selection outcome next) :
    ∃ calls, attempt.perform box = (outcome, box.showing next calls) := by
  obtain ⟨calls, hperform⟩ := hleads box.calls
  rw [box.showing_selection] at hperform
  exact ⟨calls, hperform⟩

namespace Criterion

variable {box : Box} {shown : String}

/-- If choices have a text with normal spacing, those are the ones that are selected by it. -/
theorem selectable_text_of_nonempty (hfitting : ((text shown).fitting box).Nonempty) :
    (text shown).selectable box = (text shown).fitting box := by
  have hsome : (text shown).fitting box ≠ ∅ := hfitting.ne_empty
  rw [selectable, if_neg (not_and_of_not_left _ hsome)]

theorem nonempty_fitting_text_iff :
    ((text shown).fitting box).Nonempty ↔
      ∃ choice ∈ box.choices, Text.normalSpacing choice.rawText.toList = shown.toList := by
  constructor
  · rintro ⟨position, hposition⟩
    obtain ⟨-, hfits⟩ := Finset.mem_filter.1 hposition
    obtain ⟨choice, hchoice, htext⟩ := (Option.any_eq_true _ _).1 hfits
    exact ⟨choice, List.mem_of_getElem? hchoice, of_decide_eq_true htext⟩
  · rintro ⟨choice, hchoice, htext⟩
    obtain ⟨position, hposition⟩ := List.mem_iff_getElem?.1 hchoice
    have hlength : position < box.choices.length := (List.getElem?_eq_some_iff.1 hposition).1
    refine ⟨position, Finset.mem_filter.2 ⟨Finset.mem_range.2 hlength, ?_⟩⟩
    rw [hposition, Option.any_some]
    exact decide_eq_true htext

end Criterion

namespace Control

variable {box : Box} {control : Control} {shown : String}

section

variable (hoperable : box.IsOperable) (hpicker : control.picker.multiple = true)
  (hplain : (Criterion.text shown).IsPlain)

include hoperable hpicker hplain

theorem picks_selectByText :
    box.Picks (control.selectByText shown) .optionNotFound true
      ((Criterion.text shown).selectable box) := by
  obtain ⟨⟨multiple⟩⟩ := control
  obtain rfl : multiple = true := hpicker
  exact picks_reportMissing _ (Picker.picks_selectByText hoperable hplain)

theorem picks_deselectByText :
    box.Picks (control.deselectByText shown) .optionNotFound false
      ((Criterion.text shown).fitting box) := by
  obtain ⟨⟨multiple⟩⟩ := control
  obtain rfl : multiple = true := hpicker
  have hmultiple (selection : Finset Nat) :
      box.Leads (requireMultiple "deselect options") selection (.ok ()) selection :=
    (clicks_requireMultiple hoperable.isQuiet hoperable.isMultiple _ selection).leads_of_nil
  exact .bind hmultiple (picks_reportMissing _ (Picker.picks_deselectByText hoperable hplain))

/-- Selecting succeeds if it matches choices, and then these are selected. -/
theorem exists_perform_selectByText
    (hsome : ((Criterion.text shown).selectable box).Nonempty) :
    ∃ calls, (control.selectByText shown).perform box =
      (.ok (), box.showing (box.selection ∪ (Criterion.text shown).selectable box) calls) := by
  have hpicks := picks_selectByText hoperable hpicker hplain
  exact (hpicks.leads_of_nonempty box.selection hsome).exists_perform

/-- If choices have the text with normal spacing, selecting by it is undone by deselecting. -/
theorem undoes_of_nonempty (hfitting : ((Criterion.text shown).fitting box).Nonempty) :
    control.Undoes box shown := by
  have hselectable := Criterion.selectable_text_of_nonempty hfitting
  obtain ⟨calls, hselect⟩ :=
    exists_perform_selectByText hoperable hpicker hplain (hselectable ▸ hfitting)
  have hpicks := picks_deselectByText hoperable hpicker hplain
  obtain ⟨further, hdeselect⟩ := hpicks.leads_of_nonempty _ hfitting calls
  intro selected hselected
  rw [hselect] at hselected
  cases hselected
  refine ⟨_, hdeselect, fun position hposition ↦ ?_⟩
  rw [hselectable] at hposition
  simp [Box.selection_showing, Picker.adjusted, hposition]

/-- If choices are matched, but none has the text with normal spacing, deselecting fails. -/
theorem not_undoes_of_eq_empty (hsome : ((Criterion.text shown).selectable box).Nonempty)
    (hfitting : (Criterion.text shown).fitting box = ∅) : ¬control.Undoes box shown := by
  obtain ⟨calls, hselect⟩ := exists_perform_selectByText hoperable hpicker hplain hsome
  have hpicks := picks_deselectByText hoperable hpicker hplain
  obtain ⟨failure, -, hleads⟩ := hpicks.leads_of_eq_empty
    (box.selection ∪ (Criterion.text shown).selectable box) hfitting
  obtain ⟨further, hfails⟩ := hleads calls
  intro hundoes
  obtain ⟨later, hdeselect, -⟩ := hundoes _ hselect
  rw [hfails] at hdeselect
  cases hdeselect

/-- If no choice is matched, selecting fails, and there is nothing to undo. -/
theorem undoes_of_selectable_eq_empty (hnone : (Criterion.text shown).selectable box = ∅) :
    control.Undoes box shown := by
  have hpicks := picks_selectByText hoperable hpicker hplain
  obtain ⟨failure, -, hleads⟩ := hpicks.leads_of_eq_empty box.selection hnone
  obtain ⟨calls, hfails⟩ := hleads.exists_perform
  intro selected hselected
  rw [hfails] at hselected
  cases hselected

end

/-- A picker goes through all choices exactly if the attribute it was made with allows several. -/
theorem multiple_picker_eq {built after : Box} (hmake : make.perform built = (.ok control, after))
    (hmultiple : box.multiple = built.multiple) :
    control.picker.multiple = box.allowsSeveral := by
  rw [Bool.eq_iff_iff, multiple_picker_iff hmake, Box.allowsSeveral, hmultiple]
  simp [Option.any_eq_true]

/-- On a multiple box on which every choice can be selected and deselected, and which has the
attribute `multiple` that it had when the control was made, deselecting by a text undoes selecting
by it exactly if some choice has the text with normal spacing, or none is matched at all. -/
theorem undoes_iff {built after : Box} (hmake : make.perform built = (.ok control, after))
    (hmultiple : box.multiple = built.multiple) (hseveral : box.allowsSeveral = true)
    (hoperable : box.IsOperable) (hplain : (Criterion.text shown).IsPlain) :
    control.Undoes box shown ↔
      (∃ choice ∈ box.choices, Text.normalSpacing choice.rawText.toList = shown.toList) ∨
        (Criterion.text shown).selectable box = ∅ := by
  have hpicker : control.picker.multiple = true :=
    (multiple_picker_eq hmake hmultiple).trans hseveral
  rw [← Criterion.nonempty_fitting_text_iff]
  constructor
  · intro hundoes
    by_contra hneither
    obtain ⟨hfitting, hselectable⟩ := not_or.1 hneither
    exact not_undoes_of_eq_empty hoperable hpicker hplain
      (Finset.nonempty_iff_ne_empty.2 hselectable) (Finset.not_nonempty_iff_eq_empty.1 hfitting)
      hundoes
  · rintro (hfitting | hselectable)
    · exact undoes_of_nonempty hoperable hpicker hplain hfitting
    · exact undoes_of_selectable_eq_empty hoperable hpicker hplain hselectable

end Control

/-- Three teas.  The name of the first one holds a space that does not break, which is shown like
any other space. -/
def teas : Box :=
  { colours with
    choices := [
      ⟨"t0", "Earl Grey", "Earl\u00a0Grey", some "e", .position, false, true, [], .quiet⟩,
      ⟨"t1", "Green tea", " Green  tea\n", some "g", .stated none, false, true, [], .quiet⟩,
      ⟨"t2", "Mint", "Mint", none, .stated (some "0"), true, true, [], .quiet⟩] }

theorem isOperable_teas : teas.IsOperable where
  isQuiet := ⟨rfl, by simp [teas]⟩
  isMultiple := by decide
  enabled := by decide
  visible := by decide

theorem undoes_teas :
    ∃ control after, Control.make.perform teas = (.ok control, after) ∧
      control.Undoes teas "Green tea" ∧ control.Undoes teas "Mint" ∧
      control.Undoes teas "Black tea" := by
  have hmake := Control.perform_make isOperable_teas.isQuiet isReady_colours.tag_eq
  have hundoes (shown : String) (hplain : (Criterion.text shown).IsPlain) :=
    Control.undoes_iff hmake rfl (by decide) isOperable_teas hplain
  refine ⟨_, _, hmake, ?_, ?_, ?_⟩
  · exact (hundoes "Green tea" (by decide)).2 (.inl (by decide +kernel))
  · exact (hundoes "Mint" (by decide)).2 (.inl (by decide +kernel))
  · exact (hundoes "Black tea" (by decide)).2 (.inr (by decide +kernel))

/-- The tea is selected by its name, but it is not found when it is to be deselected by it, and stays
selected. -/
theorem not_undoes_teas :
    ∃ control after selected later, Control.make.perform teas = (.ok control, after) ∧
      (control.selectByText "Earl Grey").perform teas = (.ok (), selected) ∧
      (control.deselectByText "Earl Grey").perform selected =
        (.error (.reportedAs (.of .noSuchElement
          "Could not locate element with visible text: Earl Grey") .optionNotFound
          "Cannot locate option with visible text: Earl Grey"), later) ∧
      later.selectedPositions = [0, 2] ∧ ¬control.Undoes teas "Earl Grey" := by
  have hmake := Control.perform_make isOperable_teas.isQuiet isReady_colours.tag_eq
  have hsome : ((Criterion.text "Earl Grey").selectable teas).Nonempty := ⟨0, by decide +kernel⟩
  have hnone : (Criterion.text "Earl Grey").fitting teas = ∅ := by decide +kernel
  refine ⟨_, _, _, _, hmake, rfl, rfl, by decide +kernel, ?_⟩
  exact Control.not_undoes_of_eq_empty isOperable_teas (by decide) (by decide) hsome hnone

end BrowserControl.Select
