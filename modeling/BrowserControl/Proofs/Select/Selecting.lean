import BrowserControl.Proofs.Select.Multiplicity

/-!
# What Selecting Comes To

On a box without faults, whatever it offers, selecting by a criterion goes through the choices that
match it, in the order of the document (`Criterion.matched`): through all of them if the box is
multiple, unless they are named by index, else only to the first (`Criterion.picked`).  A choice that
is found by a text has to be visible, and one that is not selected yet has to be enabled; the first
that is refused ends the call (`Criterion.refusal?`), but what has been clicked before stays clicked
(`Criterion.clicked`).

No choice is met twice.  So what has been clicked does not matter to the choices that are still to
come, and outcome, clicks and selection can be read off the box as it was before the call
(`Control.selects_select`).
-/

namespace BrowserControl.Select

open Attempt

/-- The outcome if nothing stands in the way, or if something does. -/
def outcomeOf {α : Type} (value : α) : Option Failure → Except Failure α
  | none => .ok value
  | some failure => .error failure

theorem map_outcomeOf {α β : Type} (change : α → β) (value : α) (obstacle : Option Failure) :
    (outcomeOf value obstacle).map change = outcomeOf (change value) obstacle := by
  cases obstacle <;> rfl

namespace Box

/-- The positions at which a box has a choice that passes a test, in the order of the document. -/
def positionsWhere (box : Box) (test : Nat → Choice → Bool) : List Nat :=
  (List.range box.choices.length).filter fun position ↦ box.choices[position]?.any (test position)

/-- Whether the attribute `multiple` is there, and neither empty nor `false`. -/
def allowsSeveral (box : Box) : Bool :=
  box.multiple.any fun value ↦ value ≠ "" ∧ value ≠ "false"

/-- Whether the choice at a position has an index. -/
def hasIndexAt (box : Box) (number : Int) (position : Nat) : Bool :=
  box.choices[position]?.any (·.indexAt position = some (toString number))

/-- Of some choices, those before the first that is refused, as far as they are not selected. -/
def clickedOf (box : Box) (refusal? : Nat → Option Failure) (found : List Nat) : List Nat :=
  (found.takeWhile fun position ↦ (refusal? position).isNone).filter (· ∉ box.selection)

end Box

/-! ## The effect of a criterion -/

/-- Why a choice cannot be selected, if it cannot. -/
def Choice.refusal? (choice : Choice) : Option Failure :=
  if choice.selected ∨ choice.enabled then none
  else some (.of .unsupported "You may not select a disabled option")

namespace Criterion

/-- The choices that match a criterion.  If none has the text, and there is a space in it, these are the
ones that show exactly this text. -/
def matched (box : Box) : Criterion → List Nat
  | value content => box.positionsWhere fun _ choice ↦ choice.value = some content
  | index number =>
    box.positionsWhere fun position choice ↦ choice.indexAt position = some (toString number)
  | text shown =>
    let fitting := box.positionsWhere fun _ choice ↦
      Text.normalSpacing choice.rawText.toList = shown.toList
    if fitting = [] ∧ ' ' ∈ shown.toList then
      box.positionsWhere fun _ choice ↦ showsExactly shown choice
    else fitting

/-- The choices that are gone through: all that match, or the first. -/
def picked (box : Box) (criterion : Criterion) : List Nat :=
  match criterion with
  | index _ => (criterion.matched box).take 1
  | _ => if box.allowsSeveral then criterion.matched box else (criterion.matched box).take 1

/-- Why a choice cannot be selected by a criterion, if it cannot. -/
def refusal? (choice : Choice) : Criterion → Option Failure
  | text shown =>
    if choice.isVisible then choice.refusal?
    else some (.of .noSuchElement ("Invisible option with text: " ++ shown))
  | _ => choice.refusal?

/-- The same for the choice at a position of a box. -/
def refusalAt? (box : Box) (criterion : Criterion) (position : Nat) : Option Failure :=
  box.choices[position]?.bind criterion.refusal?

/-- What is found out if no choice matches. -/
def missing : Criterion → Failure
  | value content => .of .noSuchElement ("Cannot locate option with value: " ++ content)
  | index number => .of .noSuchElement ("Could not locate element with index " ++ toString number)
  | text shown => .of .noSuchElement ("Could not locate element with visible text: " ++ shown)

/-- What stands in the way of a criterion, if anything does. -/
def obstacle? (box : Box) (criterion : Criterion) : Option Failure :=
  if criterion.matched box = [] then some criterion.missing
  else (criterion.picked box).findSome? (criterion.refusalAt? box)

/-- A criterion in words. -/
def inWords : Criterion → String
  | value content => "value: " ++ content
  | index number => "index: " ++ toString number
  | text shown => "visible text: " ++ shown

/-- What callers are told of an obstacle: that no choice fits, if that is what it comes to. -/
def report (criterion : Criterion) (obstacle : Failure) : Failure :=
  if obstacle.kind.isA .noSuchElement then
    obstacle.reportedAs .optionNotFound ("Cannot locate option with " ++ criterion.inWords)
  else obstacle

/-- What selecting by a criterion comes to. -/
def outcome (box : Box) (criterion : Criterion) : Except Failure Unit :=
  outcomeOf () ((criterion.obstacle? box).map criterion.report)

/-- The choices that are clicked to have the choices selected that a criterion picks. -/
def clicked (box : Box) (criterion : Criterion) : List Nat :=
  box.clickedOf (criterion.refusalAt? box) (criterion.picked box)

/-- What is selected afterwards.  On a single box, a choice that is clicked takes the place of what was
selected before. -/
def selectedAfter (box : Box) (criterion : Criterion) : Finset Nat :=
  if box.isMultiple ∨ criterion.clicked box = [] then
    box.selection ∪ (criterion.clicked box).toFinset
  else (criterion.clicked box).toFinset

end Criterion

namespace Box

variable {box : Box}

theorem nodup_positionsWhere (test : Nat → Choice → Bool) : (box.positionsWhere test).Nodup :=
  List.nodup_range.filter _

theorem lt_of_mem_positionsWhere {test : Nat → Choice → Bool} :
    ∀ position ∈ box.positionsWhere test, position < box.choices.length :=
  fun _ hposition ↦ List.mem_range.1 (List.mem_of_mem_filter hposition)

theorem isMultiple_of_allowsSeveral (hseveral : box.allowsSeveral = true) :
    box.isMultiple = true := by
  unfold allowsSeveral at hseveral
  unfold isMultiple
  cases hmultiple : box.multiple with
  | none => simp [hmultiple] at hseveral
  | some value =>
    have hvalue : value ≠ "" ∧ value ≠ "false" := by simpa [hmultiple] using hseveral
    simp [hvalue.2]

theorem mem_selection_iff {position : Nat} {choice : Choice}
    (hchoice : box.choices[position]? = some choice) :
    position ∈ box.selection ↔ choice.selected = true := by
  rw [selection, List.mem_toFinset, mem_selectedPositions, hchoice]
  rfl

end Box

namespace Criterion

variable {box : Box} (criterion : Criterion)

/-- Every criterion comes down to a test of single choices. -/
theorem exists_matched_eq (box : Box) (criterion : Criterion) :
    ∃ test, criterion.matched box = box.positionsWhere test := by
  cases criterion with
  | value content => exact ⟨_, rfl⟩
  | index number => exact ⟨_, rfl⟩
  | text shown =>
    unfold matched
    dsimp only
    split <;> exact ⟨_, rfl⟩

theorem nodup_matched : (criterion.matched box).Nodup := by
  obtain ⟨test, htest⟩ := criterion.exists_matched_eq box
  rw [htest]
  exact Box.nodup_positionsWhere test

theorem lt_of_mem_matched : ∀ position ∈ criterion.matched box, position < box.choices.length := by
  obtain ⟨test, htest⟩ := criterion.exists_matched_eq box
  rw [htest]
  exact Box.lt_of_mem_positionsWhere

end Criterion

namespace Box

variable {box : Box}

/-! ## Going through choices -/

/-- At some positions, a selection is the one that the box has. -/
def Keeps (box : Box) (found : List Nat) (selection : Finset Nat) : Prop :=
  ∀ position ∈ found, position ∈ selection ↔ position ∈ box.selection

/-- The position of a choice that is to be clicked unless it is selected. -/
def unlessSelected (box : Box) (position : Nat) : List Nat :=
  if position ∈ box.selection then [] else [position]

variable {position : Nat} {rest : List Nat} {refusal? : Nat → Option Failure}

/-- A click on a choice of a multiple box does not matter to other choices. -/
theorem Keeps.tail {selection : Finset Nat} (hkeeps : box.Keeps (position :: rest) selection)
    (hmultiple : box.isMultiple = true) (hposition : position ∉ rest) :
    box.Keeps rest (box.selectionAfter (box.unlessSelected position) selection) := by
  intro other hother
  have hne : other ≠ position := fun heq ↦ hposition (heq ▸ hother)
  rw [← hkeeps other (List.mem_cons_of_mem _ hother), unlessSelected]
  by_cases hselected : position ∈ box.selection
  · rw [if_pos hselected, selectionAfter_nil]
  · have hnew : position ∉ selection := (hkeeps position List.mem_cons_self).not.2 hselected
    simp [hselected, selectionAfterClick, hmultiple, hnew, hne]

@[simp]
theorem clickedOf_nil : box.clickedOf refusal? [] = [] :=
  rfl

theorem clickedOf_cons_of_some {failure : Failure} (hrefusal : refusal? position = some failure) :
    box.clickedOf refusal? (position :: rest) = [] := by
  simp [clickedOf, hrefusal]

theorem clickedOf_cons_of_none (hrefusal : refusal? position = none) :
    box.clickedOf refusal? (position :: rest) =
      box.unlessSelected position ++ box.clickedOf refusal? rest := by
  by_cases hselected : position ∈ box.selection <;>
    simp [clickedOf, unlessSelected, hrefusal, hselected]

end Box

namespace Picker

variable {box : Box} {selection : Finset Nat} {act : Nat → Attempt Box Unit}
  {refusal? : Nat → Option Failure} {position : Nat} {found : List Nat}

/-- Something is done with a choice that is selected exactly if it is in the box: it fails if the choice
is refused, and otherwise clicks it unless it is selected. -/
structure Treats (box : Box) (act : Nat → Attempt Box Unit) (refusal? : Nat → Option Failure) :
    Prop where
  clicks_of_some : ∀ position < box.choices.length, ∀ failure, refusal? position = some failure →
    ∀ selection, (position ∈ selection ↔ position ∈ box.selection) →
      box.Clicks (act position) selection (.error failure) []
  clicks_of_none : ∀ position < box.choices.length, refusal? position = none →
    ∀ selection, (position ∈ selection ↔ position ∈ box.selection) →
      box.Clicks (act position) selection (.ok ()) (box.unlessSelected position)

/-- Of the choices that are found, those that a picker goes through. -/
def taken (picker : Picker) (found : List Nat) : List Nat :=
  if picker.multiple then found else found.take 1

section

variable (hquiet : box.IsQuiet)

include hquiet

/-- Selecting a choice clicks it unless it is selected, or refuses it if it is disabled. -/
theorem treats_setSelected :
    Treats box setSelected fun position ↦ box.choices[position]?.bind Choice.refusal? := by
  constructor
  · intro position hposition failure hrefusal selection hkept
    have hchoice := List.getElem?_eq_getElem hposition
    obtain ⟨⟨hselected, henabled⟩, rfl⟩ : (box.choices[position].selected = false ∧
        box.choices[position].enabled = false) ∧ _ = failure := by
      simpa [hchoice, Choice.refusal?] using hrefusal
    have hnew : position ∉ selection := by
      simp [hkept, Box.mem_selection_iff hchoice, hselected]
    have hset : box.Clicks (setSelected position) selection _ _ :=
      clicks_setSelected_eq hquiet hchoice
    simpa [hnew, henabled] using hset
  · intro position hposition hrefusal selection hkept
    have hchoice := List.getElem?_eq_getElem hposition
    have heither : position ∈ box.selection ∨ box.choices[position].enabled = true := by
      simpa [hchoice, Choice.refusal?, Box.mem_selection_iff hchoice, or_iff_not_imp_left]
        using hrefusal
    have hset : box.Clicks (setSelected position) selection _ _ :=
      clicks_setSelected_eq hquiet hchoice
    simp only [hkept, heither, if_true] at hset
    rcases heither with hselected | henabled
    · simpa [Box.unlessSelected, hselected] using hset
    · by_cases hselected : position ∈ box.selection <;>
        simpa [Box.unlessSelected, hselected, henabled] using hset

/-- Selecting by a visible text refuses hidden choices as well. -/
theorem treats_selectVisible (shown : String) :
    Treats box (selectVisible shown) ((Criterion.text shown).refusalAt? box) := by
  have hset := treats_setSelected hquiet
  constructor
  · intro position hposition failure hrefusal selection hkept
    have hchoice := List.getElem?_eq_getElem hposition
    have hvisible : box.Clicks (requireVisible shown position) selection _ [] :=
      clicks_requireVisible_eq hquiet hchoice shown
    rw [Criterion.refusalAt?, hchoice, Option.bind_some, Criterion.refusal?] at hrefusal
    unfold selectVisible
    by_cases hshown : box.choices[position].isVisible = true
    · rw [if_pos hshown] at hvisible hrefusal
      apply hvisible.bind_of_nil
      exact hset.clicks_of_some position hposition failure (by rwa [hchoice]) selection hkept
    · rw [if_neg hshown] at hvisible hrefusal
      cases hrefusal
      exact hvisible.bind_error
  · intro position hposition hrefusal selection hkept
    have hchoice := List.getElem?_eq_getElem hposition
    rw [Criterion.refusalAt?, hchoice, Option.bind_some, Criterion.refusal?] at hrefusal
    by_cases hshown : box.choices[position].isVisible = true
    · rw [if_pos hshown] at hrefusal
      apply (clicks_requireVisible hquiet hchoice shown hshown).bind_of_nil
      exact hset.clicks_of_none position hposition (by rwa [hchoice]) selection hkept
    · rw [if_neg hshown] at hrefusal
      cases hrefusal

end

/-- What comes of doing something with a choice, and then with others. -/
theorem Treats.bind {α : Type} {value : α} {next : Unit → Attempt Box α} {rest : List Nat}
    (htreats : Treats box act refusal?) (hposition : position < box.choices.length)
    (hkeeps : position ∈ selection ↔ position ∈ box.selection)
    (hnext : box.Clicks (next ())
      (box.selectionAfter (box.unlessSelected position) selection)
      (outcomeOf value (rest.findSome? refusal?)) (box.clickedOf refusal? rest)) :
    box.Clicks (act position >>= next) selection
      (outcomeOf value ((position :: rest).findSome? refusal?))
      (box.clickedOf refusal? (position :: rest)) := by
  rw [List.findSome?_cons]
  cases hrefusal : refusal? position with
  | some failure =>
    rw [Box.clickedOf_cons_of_some hrefusal]
    exact (htreats.clicks_of_some position hposition failure hrefusal selection hkeeps).bind_error
  | none =>
    rw [Box.clickedOf_cons_of_none hrefusal]
    exact (htreats.clicks_of_none position hposition hrefusal selection hkeeps).bind hnext

/-- The same for a picker, which goes on to others only if it goes through all choices. -/
theorem Treats.bind_taken {α : Type} {picker : Picker} {value : α} {more : Attempt Box α}
    {rest : List Nat} (htreats : Treats box act refusal?) (hposition : position < box.choices.length)
    (hkeeps : position ∈ selection ↔ position ∈ box.selection)
    (hmore : picker.multiple = true →
      box.Clicks more (box.selectionAfter (box.unlessSelected position) selection)
        (outcomeOf value ((picker.taken rest).findSome? refusal?))
        (box.clickedOf refusal? (picker.taken rest))) :
    box.Clicks (act position >>= fun _ ↦ if picker.multiple then more else pure value) selection
      (outcomeOf value ((picker.taken (position :: rest)).findSome? refusal?))
      (box.clickedOf refusal? (picker.taken (position :: rest))) := by
  cases hpicker : picker.multiple with
  | true =>
    have hothers := hmore hpicker
    simp only [taken, hpicker, if_true] at hothers ⊢
    exact htreats.bind hposition hkeeps hothers
  | false =>
    simp only [taken, hpicker, Bool.false_eq_true, if_false, List.take_succ_cons, List.take_zero]
    exact htreats.bind hposition hkeeps (.pure value _)

section

variable {picker : Picker} (hmultiple : picker.multiple = true → box.isMultiple = true)
  (hnodup : found.Nodup) (hfound : ∀ position ∈ found, position < box.choices.length)
  (hkeeps : box.Keeps found selection)

include hmultiple hnodup hfound hkeeps

/-- The walk over the picked choices clicks until the first refusal. -/
theorem clicks_eachPicked (htreats : Treats box act refusal?) :
    box.Clicks (eachPicked picker act found) selection
      (outcomeOf () ((picker.taken found).findSome? refusal?))
      (box.clickedOf refusal? (picker.taken found)) := by
  induction found generalizing selection with
  | nil =>
    have hnone : picker.taken [] = [] := by simp [taken]
    rw [hnone]
    exact .pure () selection
  | cons position rest ih =>
    obtain ⟨hposition, hrest⟩ := List.nodup_cons.1 hnodup
    have hlt := hfound position List.mem_cons_self
    have hkept := hkeeps position List.mem_cons_self
    unfold eachPicked
    apply htreats.bind_taken hlt hkept
    intro hpicker
    -- The click, if there is one, leaves the choices that are still to come as they are in the box.
    exact ih hrest (fun other hother ↦ hfound other (List.mem_cons_of_mem _ hother))
      (hkeeps.tail (hmultiple hpicker) hposition)

/-- Of the choices that are found, those that show exactly the text are gone through. -/
theorem clicks_selectExact (hquiet : box.IsQuiet) (shown : String) :
    box.Clicks (selectExact picker shown found) selection
      (outcomeOf (!(found.filter (box.isShownAt shown)).isEmpty)
        ((picker.taken (found.filter (box.isShownAt shown))).findSome?
          ((Criterion.text shown).refusalAt? box)))
      (box.clickedOf ((Criterion.text shown).refusalAt? box)
        (picker.taken (found.filter (box.isShownAt shown)))) := by
  induction found generalizing selection with
  | nil =>
    have hnone : picker.taken [] = [] := by simp [taken]
    rw [List.filter_nil, hnone]
    exact .pure false selection
  | cons position rest ih =>
    obtain ⟨hposition, hrest⟩ := List.nodup_cons.1 hnodup
    have hlt := hfound position List.mem_cons_self
    have hkept := hkeeps position List.mem_cons_self
    have hchoice := List.getElem?_eq_getElem hlt
    have hfurther {selection : Finset Nat} := @ih selection hrest
      fun other hother ↦ hfound other (List.mem_cons_of_mem _ hother)
    unfold selectExact
    apply Box.Clicks.bind_of_nil (Box.clicks_text hquiet hchoice)
    by_cases htext : box.choices[position].text = shown
    · have hshows : box.isShownAt shown position = true := by
        simp [Box.isShownAt, hchoice, htext]
      rw [if_pos htext, List.filter_cons_of_pos hshows]
      apply (treats_selectVisible hquiet shown).bind_taken hlt hkept
      intro hpicker
      have hothers := (hfurther (hkeeps.tail (hmultiple hpicker) hposition)).map fun _ ↦ true
      rwa [map_outcomeOf] at hothers
    · have hshows : box.isShownAt shown position = false := by
        simp [Box.isShownAt, hchoice, htext]
      rw [if_neg htext, List.filter_cons_of_neg (by simp [hshows])]
      exact hfurther fun other hother ↦ hkeeps other (List.mem_cons_of_mem _ hother)

end

/-- Of the choices that are found, the first that has an index is gone to, if there is one. -/
theorem clicks_onIndex {number : Int} (hquiet : box.IsQuiet)
    (hplain : (Criterion.index number).IsPlain) (htreats : Treats box act refusal?)
    (hfound : ∀ position ∈ found, position < box.choices.length)
    (hkeeps : box.Keeps found selection) :
    box.Clicks (onIndex number act found) selection
      (outcomeOf () (if found.filter (box.hasIndexAt number) = [] then
          some (Criterion.index number).missing
        else ((found.filter (box.hasIndexAt number)).take 1).findSome? refusal?))
      (box.clickedOf refusal? ((found.filter (box.hasIndexAt number)).take 1)) := by
  induction found with
  | nil =>
    unfold onIndex noSuchIndex
    rw [writeIndex_eq_pure hplain, pure_bind]
    exact .throw _ selection
  | cons position rest ih =>
    have hlt := hfound position List.mem_cons_self
    have hchoice := List.getElem?_eq_getElem hlt
    unfold onIndex
    apply Box.Clicks.bind_of_nil (Box.clicks_index hquiet hchoice)
    by_cases hindex : box.choices[position].indexAt position = some (toString number)
    · have hmatches : box.hasIndexAt number position = true := by
        rw [Box.hasIndexAt, hchoice, Option.any_some, hindex, decide_eq_true_iff]
      rw [if_pos hindex, List.filter_cons_of_pos hmatches, if_neg (List.cons_ne_nil _ _),
        List.take_succ_cons, List.take_zero]
      have hact : box.Clicks (act position >>= fun _ ↦ pure ()) selection
          (outcomeOf () ([position].findSome? refusal?)) (box.clickedOf refusal? [position]) :=
        htreats.bind hlt (hkeeps position List.mem_cons_self) (.pure () _)
      simpa using hact
    · have hmatches : ¬box.hasIndexAt number position = true := by
        rwa [Box.hasIndexAt, hchoice, Option.any_some, decide_eq_true_iff]
      rw [if_neg hindex, List.filter_cons_of_neg hmatches]
      exact ih (fun other hother ↦ hfound other (List.mem_cons_of_mem _ hother))
        fun other hother ↦ hkeeps other (List.mem_cons_of_mem _ hother)

/-! ## Selecting by a criterion -/

variable {criterion : Criterion}

theorem obstacle?_of_matched_eq_nil (hnone : criterion.matched box = []) :
    criterion.obstacle? box = some criterion.missing :=
  if_pos hnone

theorem clicked_of_matched_eq_nil (hnone : criterion.matched box = []) :
    criterion.clicked box = [] := by
  have hpicked : criterion.picked box = [] := by
    cases criterion <;> simp [Criterion.picked, hnone]
  rw [Criterion.clicked, hpicked, Box.clickedOf_nil]

variable {picker : Picker} (hquiet : box.IsQuiet) (hpicker : picker.multiple = box.allowsSeveral)

include hpicker

theorem clicks_eachPicked_matched {first : Nat} {rest : List Nat}
    (htreats : Treats box act (criterion.refusalAt? box))
    (hpicked : criterion.picked box =
      if box.allowsSeveral then criterion.matched box else (criterion.matched box).take 1)
    (hmatched : criterion.matched box = first :: rest) :
    box.Clicks (eachPicked picker act (first :: rest)) box.selection
      (outcomeOf () (criterion.obstacle? box)) (criterion.clicked box) := by
  have htaken : criterion.picked box = picker.taken (first :: rest) := by
    rw [hpicked, hmatched, taken, hpicker]
  rw [Criterion.obstacle?, if_neg (by simp [hmatched]), Criterion.clicked, htaken, ← hmatched]
  apply clicks_eachPicked _ criterion.nodup_matched criterion.lt_of_mem_matched _ htreats
  · exact fun hmultiple ↦ Box.isMultiple_of_allowsSeveral (hpicker ▸ hmultiple)
  · exact fun _ _ ↦ Iff.rfl

include hquiet

/-- Selecting by a plain value is the walk over the choices with this value. -/
theorem clicks_selectByValue {content : String} (hplain : (Criterion.value content).IsPlain) :
    box.Clicks (picker.selectByValue content) box.selection
      (outcomeOf () ((Criterion.value content).obstacle? box))
      ((Criterion.value content).clicked box) := by
  have hmatched : box.positions (.byValue false (Literal.ofText content.toList)) =
      (Criterion.value content).matched box := by
    unfold Box.positions
    simp only [funext (matchesChoice_byValue false hplain)]
    rfl
  unfold selectByValue
  apply (Box.clicks_find hquiet (isUnderstood_byValue false hplain)).bind_of_nil
  rw [hmatched]
  cases hfound : (Criterion.value content).matched box with
  | nil =>
    rw [obstacle?_of_matched_eq_nil hfound, clicked_of_matched_eq_nil hfound]
    exact .throw _ box.selection
  | cons first rest =>
    exact clicks_eachPicked_matched hpicker (treats_setSelected hquiet) rfl hfound

/-- Looking for exactly the text, which is done if no choice has it with normal spacing. -/
theorem clicks_exactly {shown : String} (hplain : (Criterion.text shown).IsPlain)
    (hmatched : (Criterion.text shown).matched box =
      box.positionsWhere fun _ choice ↦ Criterion.showsExactly shown choice) :
    box.Clicks
      (do
        if ← selectExact picker shown (← candidates shown) then pure () else noSuchText shown)
      box.selection (outcomeOf () ((Criterion.text shown).obstacle? box))
      ((Criterion.text shown).clicked box) := by
  obtain ⟨query, hquery, hcandidates⟩ := exists_clicks_candidates_of_isPlain hquiet hplain
  have hshown : (box.positions query).filter (box.isShownAt shown) =
      (Criterion.text shown).matched box := by
    rw [hmatched, Box.positions, List.filter_filter]
    apply List.filter_congr
    intro position _
    cases hchoice : box.choices[position]? with
    | none => simp [Box.isShownAt, hchoice]
    | some choice => simp [Box.isShownAt, hchoice, hquery, Criterion.showsExactly]
  have hnodup : (box.positions query).Nodup := List.nodup_range.filter _
  have hexact : box.Clicks (selectExact picker shown (box.positions query)) box.selection _ _ :=
    clicks_selectExact (fun hmultiple ↦ Box.isMultiple_of_allowsSeveral (hpicker ▸ hmultiple))
      hnodup Box.lt_of_mem_positions (fun _ _ ↦ Iff.rfl) hquiet shown
  have hpicked : picker.taken ((Criterion.text shown).matched box) =
      (Criterion.text shown).picked box := by
    rw [taken, hpicker]
    rfl
  rw [hshown, hpicked] at hexact
  apply (hcandidates box.selection).bind_of_nil
  cases hfound : (Criterion.text shown).matched box with
  | nil =>
    -- No candidate shows the text, so all were passed over.
    have hnone : picker.taken [] = [] := by simp [taken]
    rw [← hpicked, hfound, hnone] at hexact
    rw [obstacle?_of_matched_eq_nil hfound, clicked_of_matched_eq_nil hfound]
    exact hexact.bind_of_nil (.throw _ box.selection)
  | cons first rest =>
    rw [hfound] at hexact
    rw [Criterion.obstacle?, if_neg (by simp [hfound])]
    cases hobstacle : ((Criterion.text shown).picked box).findSome?
        ((Criterion.text shown).refusalAt? box) with
    | none =>
      rw [hobstacle] at hexact
      rw [← List.append_nil ((Criterion.text shown).clicked box)]
      exact hexact.bind (.pure () _)
    | some failure =>
      rw [hobstacle] at hexact
      exact hexact.bind_error

theorem clicks_selectByText {shown : String} (hplain : (Criterion.text shown).IsPlain) :
    box.Clicks (picker.selectByText shown) box.selection
      (outcomeOf () ((Criterion.text shown).obstacle? box))
      ((Criterion.text shown).clicked box) := by
  have hfitting : box.positions (.byText (Literal.ofText shown.toList)) =
      box.positionsWhere fun _ choice ↦
        Text.normalSpacing choice.rawText.toList = shown.toList := by
    unfold Box.positions
    simp only [Query.matchesChoice, Literal.meaning_ofText hplain]
    rfl
  unfold selectByText
  apply Box.Clicks.bind_of_nil (Box.clicks_find hquiet rfl)
  rw [hfitting]
  cases hfound : box.positionsWhere fun _ choice ↦
      Text.normalSpacing choice.rawText.toList = shown.toList with
  | cons first rest =>
    have hmatched : (Criterion.text shown).matched box = first :: rest := by
      simp [Criterion.matched, hfound]
    exact clicks_eachPicked_matched hpicker (treats_selectVisible hquiet shown) rfl hmatched
  | nil =>
    by_cases hspace : ' ' ∈ shown.toList
    · have hmatched : (Criterion.text shown).matched box =
          box.positionsWhere fun _ choice ↦ Criterion.showsExactly shown choice := by
        simp [Criterion.matched, hfound, hspace]
      simp only [hspace, if_true]
      exact clicks_exactly hquiet hpicker hplain hmatched
    · have hmatched : (Criterion.text shown).matched box = [] := by
        simp [Criterion.matched, hfound, hspace]
      simp only [hspace, if_false]
      rw [obstacle?_of_matched_eq_nil hmatched, clicked_of_matched_eq_nil hmatched]
      exact .throw _ box.selection

omit hpicker in
theorem clicks_selectByIndex {number : Int} (hplain : (Criterion.index number).IsPlain) :
    box.Clicks (selectByIndex number) box.selection
      (outcomeOf () ((Criterion.index number).obstacle? box))
      ((Criterion.index number).clicked box) := by
  unfold selectByIndex
  rw [writeIndex_eq_pure hplain, pure_bind]
  apply (Box.clicks_find hquiet rfl).bind_of_nil
  rw [selectIndexOf_eq, Box.positions_everyChoice]
  exact clicks_onIndex hquiet hplain (treats_setSelected hquiet) (fun _ ↦ List.mem_range.1)
    fun _ _ ↦ Iff.rfl

end Picker

/-! ## What is selected afterwards -/

/-- On a multiple box, clicks on different choices that are not selected select them. -/
theorem Box.selectionAfter_eq_union {box : Box} (hmultiple : box.isMultiple = true)
    {clicked : List Nat} {selection : Finset Nat} (hnodup : clicked.Nodup)
    (hnew : ∀ position ∈ clicked, position ∉ selection) :
    box.selectionAfter clicked selection = selection ∪ clicked.toFinset := by
  induction clicked generalizing selection with
  | nil => simp
  | cons position rest ih =>
    obtain ⟨hposition, hrest⟩ := List.nodup_cons.1 hnodup
    have hfirst : box.selectionAfterClick position selection = insert position selection := by
      simp [selectionAfterClick, hmultiple, hnew position List.mem_cons_self]
    have hothers : ∀ other ∈ rest, other ∉ insert position selection := by
      intro other hother
      rw [Finset.mem_insert, not_or]
      exact ⟨fun heq ↦ hposition (heq ▸ hother), hnew other (List.mem_cons_of_mem _ hother)⟩
    rw [selectionAfter, List.foldl_cons, hfirst]
    rw [← selectionAfter, ih hrest hothers, List.toFinset_cons, Finset.insert_union,
      Finset.union_insert]

namespace Criterion

variable (box : Box) (criterion : Criterion)

theorem picked_sublist_matched : (criterion.picked box).Sublist (criterion.matched box) := by
  have hfirst : ((criterion.matched box).take 1).Sublist (criterion.matched box) :=
    List.take_sublist 1 _
  have hall : (if box.allowsSeveral then criterion.matched box
      else (criterion.matched box).take 1).Sublist (criterion.matched box) := by
    split
    · exact .refl _
    · exact hfirst
  cases criterion with
  | index number => exact hfirst
  | value content => exact hall
  | text shown => exact hall

/-- The choices that are clicked are among the picked ones, in the same order. -/
theorem clicked_sublist_picked : (criterion.clicked box).Sublist (criterion.picked box) :=
  List.filter_sublist.trans (List.takeWhile_sublist _)

/-- No choice is clicked twice. -/
theorem nodup_clicked : (criterion.clicked box).Nodup := by
  have hsublist : (criterion.clicked box).Sublist (criterion.matched box) :=
    (criterion.clicked_sublist_picked box).trans (criterion.picked_sublist_matched box)
  exact hsublist.nodup criterion.nodup_matched

/-- A box that takes one choice is clicked once at most. -/
theorem length_clicked_le (hsingle : box.isMultiple = false) :
    (criterion.clicked box).length ≤ 1 := by
  have hseveral : box.allowsSeveral = false := by
    rw [Bool.eq_false_iff] at hsingle ⊢
    exact mt Box.isMultiple_of_allowsSeveral hsingle
  have hfirst : ((criterion.matched box).take 1).length ≤ 1 := List.length_take_le 1 _
  have hpicked : (criterion.picked box).length ≤ 1 := by
    cases criterion <;> simpa only [picked, hseveral, Bool.false_eq_true, if_false] using hfirst
  exact (criterion.clicked_sublist_picked box).length_le.trans hpicked

/-- After the clicks the selection is the one the criterion asks for. -/
theorem selectionAfter_clicked :
    box.selectionAfter (criterion.clicked box) box.selection = criterion.selectedAfter box := by
  have hnew : ∀ position ∈ criterion.clicked box, position ∉ box.selection := by
    intro position hposition
    simpa using List.of_mem_filter hposition
  unfold selectedAfter
  by_cases hmultiple : box.isMultiple = true
  · rw [if_pos (.inl hmultiple)]
    exact Box.selectionAfter_eq_union hmultiple (criterion.nodup_clicked box) hnew
  · have hlength := criterion.length_clicked_le box (by simpa using hmultiple)
    -- A single box forgets its selection with a click, but there is no more than one.
    match hclicked : criterion.clicked box, hlength with
    | [], _ => simp
    | [position], _ => simp [Box.selectionAfterClick, hmultiple]

end Criterion

/-! ## What callers see -/

namespace Control

variable {box : Box} {selection : Finset Nat} {criterion : Criterion}

/-- Obstacles are reported to callers. -/
theorem clicks_reported {attempt : Attempt Box Unit} {handle : Failure → Attempt Box Unit}
    {obstacle : Option Failure} {clicked : List Nat}
    (hattempt : box.Clicks attempt selection (outcomeOf () obstacle) clicked)
    (hhandle : ∀ failure, handle failure = throw (failure.reportedAs .optionNotFound
      ("Cannot locate option with " ++ criterion.inWords))) :
    box.Clicks (Attempt.recover attempt .noSuchElement handle) selection
      (outcomeOf () (obstacle.map criterion.report)) clicked := by
  cases obstacle with
  | none => exact hattempt.recover_ok
  | some failure =>
    rw [Option.map_some, Criterion.report]
    by_cases hexpected : failure.kind.isA .noSuchElement = true
    · rw [if_pos hexpected, ← List.append_nil clicked]
      apply hattempt.recover_error hexpected
      rw [hhandle]
      exact .throw _ _
    · rw [if_neg hexpected]
      exact hattempt.recover_of_unexpected (by simpa using hexpected)

/-- A control selects by the walk, and reports what stopped it. -/
theorem clicks_select {control : Control} (hquiet : box.IsQuiet)
    (hpicker : control.picker.multiple = box.allowsSeveral) (hplain : criterion.IsPlain) :
    box.Clicks (control.select criterion) box.selection (criterion.outcome box)
      (criterion.clicked box) := by
  cases criterion with
  | value content =>
    exact clicks_reported (Picker.clicks_selectByValue hquiet hpicker hplain) fun _ ↦ rfl
  | index number =>
    apply clicks_reported (Picker.clicks_selectByIndex hquiet hplain)
    intro failure
    rw [Picker.writeIndex_eq_pure hplain, pure_bind, Criterion.inWords, ← String.append_assoc]
    rfl
  | text shown =>
    exact clicks_reported (Picker.clicks_selectByText hquiet hpicker hplain) fun _ ↦ rfl

/-- Selecting by a criterion comes to an outcome and clicks some choices, one after the other; then
exactly some choices are selected, and nothing else has changed. -/
def Selects (control : Control) (box : Box) (criterion : Criterion) (outcome : Except Failure Unit)
    (clicked : List Nat) (selected : Finset Nat) : Prop :=
  ∃ asked : List BoxCall, asked.filterMap BoxCall.click? = clicked ∧
    box.observe (control.select criterion) = (outcome, asked, box.showing selected asked.reverse)

/-- What a control does to select by a criterion can be read off the box, as long as the box has the
attribute `multiple` that it had when the control was made. -/
theorem selects_select (criterion : Criterion) {built after box : Box} {control : Control}
    (hmake : make.perform built = (.ok control, after)) (hquiet : box.IsQuiet)
    (hmultiple : box.multiple = built.multiple) (hplain : criterion.IsPlain) :
    control.Selects box criterion (criterion.outcome box) (criterion.clicked box)
      (criterion.selectedAfter box) := by
  have hpicker : control.picker.multiple = box.allowsSeveral := by
    rw [Bool.eq_iff_iff, multiple_picker_iff hmake, Box.allowsSeveral, hmultiple]
    simp [Option.any_eq_true]
  rw [← criterion.selectionAfter_clicked box]
  exact (clicks_select hquiet hpicker hplain).exists_observe

end Control

/-- A box with shades of red.  The second one is selected, the third one is hidden and states an index
of its own, and the second one and the last one are not enabled. -/
def shades : Box :=
  { colours with
    choices := [
      ⟨"c0", "Dark  red", "Dark  red", some "r", .position, false, true, [], .quiet⟩,
      ⟨"c1", "Dark  red", "Dark  red", some "r", .position, true, false, [], .quiet⟩,
      ⟨"c2", "Dark  red", "Dark  red", some "g", .stated (some "-2"), false, true,
        [("display", "none")], .quiet⟩,
      ⟨"c3", "Dark  red", "Dark  red", some "r", .position, false, false, [], .quiet⟩] }

theorem isQuiet_shades : shades.IsQuiet :=
  ⟨rfl, by simp [shades]⟩

theorem selects_shades :
    ∃ control after, Control.make.perform shades = (.ok control, after) ∧
      control.Selects shades (.text "Dark  red")
        (.error (.reportedAs (.of .noSuchElement "Invisible option with text: Dark  red")
          .optionNotFound "Cannot locate option with visible text: Dark  red")) [0] {0, 1} ∧
      control.Selects shades (.value "r")
        (.error (.of .unsupported "You may not select a disabled option")) [0] {0, 1} ∧
      control.Selects shades (.index (-2)) (.ok ()) [2] {1, 2} := by
  have hmake := Control.perform_make isQuiet_shades isReady_colours.tag_eq
  have hselects (criterion : Criterion) (hplain : criterion.IsPlain) :=
    Control.selects_select criterion hmake isQuiet_shades rfl hplain
  refine ⟨_, _, hmake, ?_, ?_, ?_⟩
  · have hafter : (Criterion.text "Dark  red").selectedAfter shades = {0, 1} := by decide +kernel
    rw [← hafter]
    exact hselects _ (by decide)
  · have hafter : (Criterion.value "r").selectedAfter shades = {0, 1} := by decide +kernel
    rw [← hafter]
    exact hselects _ (by decide)
  · have hafter : (Criterion.index (-2)).selectedAfter shades = {1, 2} := by decide +kernel
    rw [← hafter]
    exact hselects _ (by decide)

end BrowserControl.Select
