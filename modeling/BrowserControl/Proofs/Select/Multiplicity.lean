import BrowserControl.Proofs.Select.Refinement

/-!
# Who Decides Whether a Box Is Multiple

A control asks its box with every call whether it is multiple.  Its picker asked once, when it was
made, and goes by that for good; moreover it takes an empty attribute for none.  So a control acts
by what its box says (`Control.Heeds`) as long as the box says that it is single; once it says that
it is multiple, the control does so exactly if the picker was made for a box with an attribute that
is neither empty nor `false` (`Control.heeds_iff`).  Otherwise the picker refuses what the control has
let pass (`Control.refuses_deselect_of_stale`).
-/

namespace BrowserControl

/-! ## Kinds of failures that do not occur -/

namespace Attempt

variable {σ α β : Type}

/-- From states that meet a condition, an attempt leads to such states again, and it does not fail in
a way of some kind. -/
def Avoids (condition : σ → Prop) (kind : Kind) (attempt : Attempt σ α) : Prop :=
  ∀ state, condition state →
    condition (attempt.perform state).2 ∧
      ∀ failure, (attempt.perform state).1 = .error failure → failure.kind ≠ kind

variable {condition : σ → Prop} {kind : Kind}

theorem avoids_pure (value : α) : (pure value : Attempt σ α).Avoids condition kind :=
  fun _ hstate ↦ ⟨hstate, nofun⟩

theorem avoids_get : (get : Attempt σ σ).Avoids condition kind :=
  fun _ hstate ↦ ⟨hstate, nofun⟩

theorem avoids_throw {failure : Failure} (hfailure : failure.kind ≠ kind) :
    (throw failure : Attempt σ α).Avoids condition kind := by
  refine fun _ hstate ↦ ⟨hstate, ?_⟩
  rintro _ ⟨⟩
  exact hfailure

/-- Attempts that avoid a kind of failure do so in sequence. -/
theorem Avoids.bind {first : Attempt σ α} {next : α → Attempt σ β}
    (hfirst : first.Avoids condition kind) (hnext : ∀ value, (next value).Avoids condition kind) :
    (first >>= next).Avoids condition kind := by
  intro state hstate
  obtain ⟨hlater, hfailure⟩ := hfirst state hstate
  rw [perform_bind]
  generalize first.perform state = result at hlater hfailure ⊢
  rcases result with ⟨failure | value, later⟩
  · refine ⟨hlater, ?_⟩
    rintro _ ⟨⟩
    exact hfailure failure rfl
  · exact hnext value later hlater

theorem Avoids.recover {first : Attempt σ α} {expected : Kind} {handle : Failure → Attempt σ α}
    (hfirst : first.Avoids condition kind)
    (hhandle : ∀ failure, (handle failure).Avoids condition kind) :
    (Attempt.recover first expected handle).Avoids condition kind := by
  intro state hstate
  obtain ⟨hlater, hfailure⟩ := hfirst state hstate
  rw [perform_recover]
  generalize first.perform state = result at hlater hfailure ⊢
  rcases result with ⟨failure | value, later⟩
  · by_cases hexpected : failure.kind.isA expected = true
    · simpa only [hexpected, if_true] using hhandle failure later hlater
    · simpa [hexpected] using And.intro hlater (hfailure failure rfl)
  · exact ⟨hlater, nofun⟩

end Attempt

namespace Select

open Attempt

namespace Box

/-- On a box without faults, an attempt never fails since something is not supported. -/
def IsSupported {α : Type} (attempt : Attempt Box α) : Prop :=
  attempt.Avoids IsQuiet .unsupported

theorem isQuiet_clicked {box : Box} (hquiet : box.IsQuiet) (position : Nat) :
    (box.clicked position).IsQuiet := by
  rw [← box.showing_selection, clicked_showing]
  exact isQuiet_showing _ _ hquiet

theorem isSupported_readMultiple : IsSupported readMultiple := by
  intro box hquiet
  rw [perform_readMultiple hquiet]
  exact ⟨hquiet.withCalls _, nofun⟩

theorem isSupported_find (query : Query) : IsSupported (find query) := by
  intro box hquiet
  rw [perform_find hquiet]
  refine ⟨hquiet.withCalls _, ?_⟩
  by_cases hunderstood : query.isUnderstood = true
  · rw [if_pos hunderstood]
    exact nofun
  · rw [if_neg hunderstood]
    rintro _ ⟨⟩
    exact nofun

/-- A question never fails as unsupported. -/
theorem isSupported_ask {α : Type} (position : Nat) {call : Nat → BoxCall}
    {plan : ChoiceFaults → Plan} {replace : Plan → ChoiceFaults → ChoiceFaults}
    {answer : Choice → α} {absent : α} (hplan : plan .quiet = none) :
    IsSupported (ask position call plan replace answer absent) := by
  intro box hquiet
  rw [perform_ask position hquiet replace answer absent hplan]
  exact ⟨hquiet.withCalls _, nofun⟩

theorem isSupported_click (position : Nat) : IsSupported (click position) := by
  refine avoids_get.bind fun box ↦ ?_
  refine (isSupported_ask position rfl).bind fun _ ↦ ?_
  exact fun box hquiet ↦ ⟨isQuiet_clicked hquiet position, nofun⟩

end Box

namespace Picker

theorem isSupported_isVisibleBy (position : Nat) (properties : List String) :
    Box.IsSupported (isVisibleBy position properties) := by
  induction properties with
  | nil => exact avoids_pure true
  | cons property rest ih =>
    refine (Box.isSupported_ask position rfl).bind fun value ↦ ?_
    by_cases hvalue : value ∈ invisibleValues
    · rw [if_pos hvalue]
      exact avoids_pure false
    · rw [if_neg hvalue]
      exact ih

theorem isSupported_requireVisible (text : String) (position : Nat) :
    Box.IsSupported (requireVisible text position) := by
  refine (isSupported_isVisibleBy position visibilityProperties).bind fun visible ↦ ?_
  cases visible with
  | true => exact avoids_pure ()
  | false => exact avoids_throw nofun

theorem isSupported_unsetSelected (position : Nat) : Box.IsSupported (unsetSelected position) := by
  refine (Box.isSupported_ask position rfl).bind fun selected ↦ ?_
  cases selected with
  | true => exact Box.isSupported_click position
  | false => exact avoids_pure ()

theorem isSupported_deselectVisible (text : String) (position : Nat) :
    Box.IsSupported (deselectVisible text position) :=
  (isSupported_requireVisible text position).bind fun _ ↦ isSupported_unsetSelected position

theorem isSupported_forAll {act : Nat → Attempt Box Unit}
    (hact : ∀ position, Box.IsSupported (act position)) (found : List Nat) :
    Box.IsSupported (forAll act found) := by
  induction found with
  | nil => exact avoids_pure ()
  | cons position rest ih => exact (hact position).bind fun _ ↦ ih

theorem isSupported_writeIndex (number : Int) : Box.IsSupported (writeIndex number) := by
  unfold writeIndex
  cases Decimal.writeInteger? number with
  | some decimal => exact avoids_pure decimal
  | none => exact avoids_throw nofun

/-- Deselecting at an index is supported, whatever the index. -/
theorem isSupported_deselectIndexOf (number : Int) (found : List Nat) :
    Box.IsSupported (deselectIndexOf number found) := by
  induction found with
  | nil => exact (isSupported_writeIndex number).bind fun _ ↦ avoids_throw nofun
  | cons position rest ih =>
    refine (Box.isSupported_ask position rfl).bind fun index ↦ ?_
    refine (isSupported_writeIndex number).bind fun decimal ↦ ?_
    by_cases hindex : index = some decimal
    · rw [if_pos hindex]
      exact isSupported_unsetSelected position
    · rw [if_neg hindex]
      exact ih

/-- Going through the choices that are found, or reporting that there are none. -/
theorem isSupported_find_bind {query : Query} {next : List Nat → Attempt Box Unit}
    {act : Nat → Attempt Box Unit} {text : String}
    (hact : ∀ position, Box.IsSupported (act position))
    (hloop : ∀ first rest, next (first :: rest) = forAll act (first :: rest))
    (hmissing : next [] = throw (.of .noSuchElement text)) :
    Box.IsSupported (Box.find query >>= next) := by
  refine (Box.isSupported_find query).bind fun found ↦ ?_
  cases found with
  | nil =>
    rw [hmissing]
    exact avoids_throw nofun
  | cons first rest =>
    rw [hloop]
    exact isSupported_forAll hact _

end Picker

namespace Control

/-- A control whose picker was made for a multiple box deselects without finding that unsupported. -/
theorem isSupported_deselect (criterion : Criterion) :
    Box.IsSupported (deselect ⟨⟨true⟩⟩ criterion) := by
  have hmultiple (action : String) : Box.IsSupported (requireMultiple action) := by
    refine (Box.isSupported_readMultiple.bind fun _ ↦ avoids_pure _).bind fun multiple ↦ ?_
    cases multiple with
    | true => exact avoids_pure ()
    | false => exact avoids_throw nofun
  cases criterion with
  | value content =>
    refine (hmultiple _).bind fun _ ↦ Avoids.recover ?_ fun _ ↦ avoids_throw nofun
    exact Picker.isSupported_find_bind Picker.isSupported_unsetSelected (fun _ _ ↦ rfl) rfl
  | index number =>
    refine (hmultiple _).bind fun _ ↦ Avoids.recover ?_ fun _ ↦ ?_
    · exact (Box.isSupported_find _).bind (Picker.isSupported_deselectIndexOf number)
    · exact (Picker.isSupported_writeIndex number).bind fun _ ↦ avoids_throw nofun
  | text shown =>
    refine (hmultiple _).bind fun _ ↦ Avoids.recover ?_ fun _ ↦ avoids_throw nofun
    exact Picker.isSupported_find_bind (Picker.isSupported_deselectVisible shown) (fun _ _ ↦ rfl) rfl

end Control

/-! ## Clicking what is selected -/

/-- On a multiple box, the choices that are clicked to have none of some selected are those of them
that are selected. -/
theorem Picker.clicks_forAll_unsetSelected {box : Box} (hquiet : box.IsQuiet)
    (hmultiple : box.isMultiple = true) {found : List Nat} (hnodup : found.Nodup)
    (hfound : ∀ position ∈ found, position < box.choices.length) (selection : Finset Nat) :
    box.Clicks (forAll unsetSelected found) selection (.ok ()) (found.filter (· ∈ selection)) := by
  induction found generalizing selection with
  | nil => exact .pure () selection
  | cons position rest ih =>
    obtain ⟨hposition, hrest⟩ := List.nodup_cons.1 hnodup
    have hchoice := List.getElem?_eq_getElem (hfound position List.mem_cons_self)
    have hfirst : box.Clicks (unsetSelected position) selection (.ok ()) _ :=
      clicks_unsetSelected hquiet hchoice
    have hfurther := ih hrest fun other hother ↦ hfound other (List.mem_cons_of_mem _ hother)
    by_cases hselected : position ∈ selection
    · rw [if_pos hselected] at hfirst
      -- The rest does not hold this position, so it does not matter that it is not selected any more.
      have hsame : rest.filter (· ∈ box.selectionAfter [position] selection) =
          rest.filter (· ∈ selection) := by
        apply List.filter_congr
        intro other hother
        have hne : other ≠ position := fun heq ↦ hposition (heq ▸ hother)
        simp [Box.selectionAfterClick, hmultiple, hselected, hne]
      rw [List.filter_cons_of_pos (by simpa using hselected), ← hsame]
      exact hfirst.bind (hfurther _)
    · rw [if_neg hselected] at hfirst
      rw [List.filter_cons_of_neg (by simpa using hselected)]
      exact hfirst.bind_of_nil (hfurther selection)

/-- What is read of a box is what is there, also if the box has faults. -/
theorem Box.eq_multiple_of_read {box later : Box} {value : Option String}
    (hread : readMultiple.perform box = (.ok value, later)) : value = box.multiple := by
  unfold readMultiple at hread
  obtain ⟨_, recorded, hrecord, hread⟩ := bind_eq_ok hread
  cases hrecord
  obtain ⟨_, struck, hstrike, hread⟩ := bind_eq_ok hread
  rw [perform_strike _ _ _ rfl] at hstrike
  have hstruck := congrArg (fun result ↦ result.2.multiple) hstrike
  cases hread
  exact hstruck.symm

/-- A picker keeps the flag that the box had when it was made. -/
theorem Picker.multiple_of_make {built after : Box} {picker : Picker}
    (hmake : make.perform built = (.ok picker, after)) :
    picker.multiple = built.multiple.any fun value ↦ value ≠ "" ∧ value ≠ "false" := by
  unfold make at hmake
  rw [perform_bind, perform_get] at hmake
  dsimp only at hmake
  by_cases htag : built.tag.toLower ≠ "select"
  · rw [if_pos htag] at hmake
    cases hmake
  · rw [if_neg htag] at hmake
    obtain ⟨value, middle, hread, hpure⟩ := bind_eq_ok hmake
    cases hpure
    rw [Box.eq_multiple_of_read hread]

namespace Box

theorem selectedPositions_eq_filter (box : Box) :
    box.selectedPositions = (List.range box.choices.length).filter (· ∈ box.selection) := by
  apply List.filter_congr
  intro position _
  rw [Box.selection, Bool.eq_iff_iff, decide_eq_true_iff, List.mem_toFinset, mem_selectedPositions]

/-! ## Acting by what the box says -/

/-- An attempt is refused in a way of some kind, and nothing is asked but whether the box is multiple. -/
def Refuses (box : Box) (attempt : Attempt Box Unit) (kind : Kind) : Prop :=
  ∃ failure : Failure, failure.kind = kind ∧
    box.observe attempt = (.error failure, [.readMultiple], { box with calls := [.readMultiple] })

end Box

namespace Control

/-- A control acts by what a box says about itself at the time.  If the box says that it is single,
everything that would deselect is refused.  If it says that it is multiple, all choices can be
deselected, which clicks exactly the selected ones; deselecting by a criterion is not unsupported; and
if all choices are enabled, all that have a value are selected by it, not only the first. -/
structure Heeds (control : Control) (box : Box) : Prop where
  answers : (box.observe isMultiple).1 = .ok box.isMultiple
  refuses_deselectAll : box.isMultiple = false → box.Refuses control.deselectAll .notMultiple
  refuses_deselect : box.isMultiple = false →
    ∀ criterion, box.Refuses (control.deselect criterion) .notMultiple
  deselectAll : box.isMultiple = true →
    (box.observe control.deselectAll).1 = .ok () ∧
      (box.observe control.deselectAll).2.1.filterMap BoxCall.click? = box.selectedPositions
  deselect : box.isMultiple = true → ∀ (criterion : Criterion) (failure : Failure),
    (box.observe (control.deselect criterion)).1 = .error failure → failure.kind ≠ .unsupported
  selectByValue : box.isMultiple = true → (∀ choice ∈ box.choices, choice.enabled = true) →
    ∀ content, (Criterion.value content).IsPlain →
      box.Picks (control.selectByValue content) .optionNotFound true
        ((Criterion.value content).fitting box)

section

variable {box : Box} (hquiet : box.IsQuiet)

include hquiet

/-- What is done after the box has been asked is done if the box is multiple. -/
theorem perform_requireMultiple_bind (action : String) (next : Unit → Attempt Box Unit) :
    (requireMultiple action >>= next).perform { box with calls := [] } =
      if box.isMultiple then (next ()).perform { box with calls := [.readMultiple] }
      else (.error (.of .notMultiple ("You may only " ++ action ++ " of a multi-select")),
        { box with calls := [.readMultiple] }) := by
  have hmultiple : ({ box with calls := [] } : Box).isMultiple = box.isMultiple := rfl
  rw [perform_bind, perform_requireMultiple (hquiet.withCalls []), hmultiple]
  cases box.isMultiple <;> rfl

/-- A box that takes one choice refuses whatever would follow the check. -/
theorem refuses_of_single (hsingle : box.isMultiple = false) (action : String)
    (next : Unit → Attempt Box Unit) :
    box.Refuses (requireMultiple action >>= next) .notMultiple := by
  refine ⟨.of .notMultiple ("You may only " ++ action ++ " of a multi-select"), rfl, ?_⟩
  rw [Box.observe, perform_requireMultiple_bind hquiet, hsingle]
  rfl

/-- What fails at once is refused after it has been found out that the box is multiple. -/
theorem refuses_of_fails (hmultiple : box.isMultiple = true) (action : String)
    {next : Attempt Box Unit} {failure : Failure}
    (hnext : ∀ state, next.perform state = (.error failure, state)) :
    box.Refuses (do requireMultiple action; next) failure.kind := by
  refine ⟨failure, rfl, ?_⟩
  rw [Box.observe, perform_requireMultiple_bind hquiet, if_pos hmultiple, hnext]
  rfl

/-- A control whose picker was made for a single box refuses to deselect also when the box is
multiple, but then not since it is single. -/
theorem refuses_deselectAll_of_stale (hmultiple : box.isMultiple = true) :
    box.Refuses (deselectAll ⟨⟨false⟩⟩) .unsupported :=
  refuses_of_fails hquiet hmultiple _ fun _ ↦ rfl

/-- A picker made before the box took several refuses as unsupported. -/
theorem refuses_deselect_of_stale (hmultiple : box.isMultiple = true) (criterion : Criterion) :
    box.Refuses (deselect ⟨⟨false⟩⟩ criterion) .unsupported := by
  cases criterion with
  | value content => exact refuses_of_fails hquiet hmultiple _ fun _ ↦ rfl
  | index number => exact refuses_of_fails hquiet hmultiple _ fun _ ↦ rfl
  | text shown => exact refuses_of_fails hquiet hmultiple _ fun _ ↦ rfl

/-- Deselecting everything clicks the selected choices in order. -/
theorem clicks_deselectAll (hmultiple : box.isMultiple = true) (selection : Finset Nat) :
    box.Clicks (deselectAll ⟨⟨true⟩⟩) selection (.ok ())
      ((List.range box.choices.length).filter (· ∈ selection)) := by
  unfold deselectAll
  apply (clicks_requireMultiple hquiet hmultiple _ selection).bind_of_nil
  have hchoices : box.Clicks Picker.choices selection (.ok (box.positions .everyChoice)) [] :=
    Box.clicks_find hquiet rfl
  rw [Box.positions_everyChoice] at hchoices
  apply hchoices.bind_of_nil
  exact Picker.clicks_forAll_unsetSelected hquiet hmultiple List.nodup_range
    (fun _ ↦ List.mem_range.1) selection

end

/-- The picker of a control goes by the attribute that was there when the control was made. -/
theorem multiple_picker_iff {built after : Box} {control : Control}
    (hmake : make.perform built = (.ok control, after)) :
    control.picker.multiple = true ↔
      ∃ value, built.multiple = some value ∧ value ≠ "" ∧ value ≠ "false" := by
  unfold make at hmake
  rw [map_eq_pure_bind] at hmake
  obtain ⟨picker, later, hpicker, hpure⟩ := bind_eq_ok hmake
  cases hpure
  rw [Picker.multiple_of_make hpicker]
  simp [Option.any_eq_true]

/-- A control that was made for a box acts by what a box without faults says, whatever has become of
the box since, exactly if either that box is single or the attribute that the picker was made with
was neither empty nor `false`. -/
theorem heeds_iff {built after box : Box} {control : Control}
    (hmake : make.perform built = (.ok control, after)) (hquiet : box.IsQuiet) :
    control.Heeds box ↔
      (box.isMultiple = true →
        ∃ value, built.multiple = some value ∧ value ≠ "" ∧ value ≠ "false") := by
  rw [← multiple_picker_iff hmake]
  obtain ⟨⟨multiple⟩⟩ := control
  constructor
  · intro hheeds hmultiple
    by_contra hstale
    obtain rfl : multiple = false := by simpa using hstale
    obtain ⟨failure, -, hrefused⟩ := refuses_deselectAll_of_stale hquiet hmultiple
    have hdone := (hheeds.deselectAll hmultiple).1
    rw [hrefused] at hdone
    cases hdone
  · intro hpicker
    refine ⟨?_, ?_, ?_, ?_, ?_, ?_⟩
    · rw [Box.observe, perform_isMultiple (hquiet.withCalls [])]
      rfl
    · exact fun hsingle ↦ refuses_of_single hquiet hsingle _ _
    · intro hsingle criterion
      cases criterion <;> exact refuses_of_single hquiet hsingle _ _
    · intro hmultiple
      obtain rfl : multiple = true := hpicker hmultiple
      obtain ⟨asked, hasked, hobserve⟩ := (clicks_deselectAll hquiet hmultiple _).exists_observe
      rw [hobserve, box.selectedPositions_eq_filter]
      exact ⟨rfl, hasked⟩
    · intro hmultiple criterion failure hfailure
      obtain rfl : multiple = true := hpicker hmultiple
      exact (isSupported_deselect criterion _ (hquiet.withCalls [])).2 failure hfailure
    · intro hmultiple henabled content hplain
      obtain rfl : multiple = true := hpicker hmultiple
      exact picks_reportMissing _ (Picker.picks_selectByValue_of_enabled hquiet hmultiple henabled hplain)

end Control

/-- The box with colours, saying of itself what it says at some time. -/
def coloursSaying (multiple : Option String) : Box :=
  { colours with multiple }

theorem isQuiet_coloursSaying (multiple : Option String) : (coloursSaying multiple).IsQuiet :=
  ⟨isReady_colours.isQuiet.faults_eq, isReady_colours.isQuiet.choices_quiet⟩

/-- Made while the box was multiple, a control goes along with whatever becomes of it. -/
theorem heeds_coloursSaying :
    ∃ control after, Control.make.perform (coloursSaying (some "multiple")) = (.ok control, after) ∧
      control.Heeds (coloursSaying none) ∧ control.Heeds (coloursSaying (some "")) := by
  have hmake := Control.perform_make (isQuiet_coloursSaying (some "multiple")) isReady_colours.tag_eq
  have hpicker : ∃ value, (coloursSaying (some "multiple")).multiple = some value ∧ value ≠ "" ∧
      value ≠ "false" := ⟨"multiple", rfl, by decide, by decide⟩
  refine ⟨_, _, hmake, ?_, ?_⟩
  · exact (Control.heeds_iff hmake (isQuiet_coloursSaying none)).2 fun _ ↦ hpicker
  · exact (Control.heeds_iff hmake (isQuiet_coloursSaying (some ""))).2 fun _ ↦ hpicker

/-- Made while the box was single, a control lets a request to deselect pass once the box is multiple,
and its picker then refuses it. -/
theorem refuses_turnedMultiple :
    ∃ control after, Control.make.perform (coloursSaying none) = (.ok control, after) ∧
      (coloursSaying (some "multiple")).IsQuiet ∧
      ((coloursSaying (some "multiple")).observe Control.isMultiple).1 = .ok true ∧
      ((coloursSaying (some "multiple")).observe control.deselectAll).1 =
        .error (.of .unsupported "You may only deselect all options of a multi-select") := by
  have hmake := Control.perform_make (isQuiet_coloursSaying none) isReady_colours.tag_eq
  exact ⟨_, _, hmake, isQuiet_coloursSaying _, rfl, rfl⟩

end Select

end BrowserControl
