import BrowserControl.Proofs.Select.Picking
import BrowserControl.Proofs.Text.Pieces
import Mathlib

/-!
# Which Choices Are Matched

Choices are named by value, by index, or by visible text (`Criterion`).  The choices that are deselected
by a criterion are those that fit it (`Criterion.fitting`): those with the value, the one at the
position, or those whose text in the document is the given one with normal spacing.  The same choices
are selected by it, but for one case (`Criterion.selectable`): if no choice has the text, and
there is a space in it, those are selected that show exactly this text and have the longest piece of it
in the document.

On a box that is ready, selecting by a criterion adds the choices it matches to the selection, and
deselecting takes them away; either fails, and changes nothing, exactly if it matches none
(`Box.Picks`).
-/

namespace BrowserControl.Select

open Attempt

/-- What choices are named by. -/
inductive Criterion where
  | value (content : String)
  | index (number : Int)
  | text (shown : String)
  deriving DecidableEq, Repr

/-- The positions at which a box has a choice that passes a test. -/
def Box.passing (box : Box) (test : Nat → Choice → Bool) : Finset Nat :=
  (Finset.range box.choices.length).filter fun position ↦
    box.choices[position]?.any (test position)

namespace Criterion

/-- A value or a text does not hold both kinds of quotes; an index is short enough to be written. -/
def IsPlain : Criterion → Prop
  | value content => '"' ∉ content.toList ∨ '\'' ∉ content.toList
  | index number => Decimal.digitCount number.natAbs ≤ Decimal.integerDigitLimit
  | text shown => '"' ∉ shown.toList ∨ '\'' ∉ shown.toList

instance : (criterion : Criterion) → Decidable criterion.IsPlain
  | value content => inferInstanceAs (Decidable ('"' ∉ content.toList ∨ '\'' ∉ content.toList))
  | index number =>
    inferInstanceAs (Decidable (Decimal.digitCount number.natAbs ≤ Decimal.integerDigitLimit))
  | text shown => inferInstanceAs (Decidable ('"' ∉ shown.toList ∨ '\'' ∉ shown.toList))

def fits (position : Nat) (choice : Choice) : Criterion → Bool
  | value content => choice.value = some content
  | index number => (position : Int) = number
  | text shown => Text.normalSpacing choice.rawText.toList = shown.toList

/-- Whether a choice shows exactly some text, and has the longest piece of it in the document. -/
def showsExactly (shown : String) (choice : Choice) : Bool :=
  choice.text = shown ∧ Text.longestPiece shown.toList <:+: choice.rawText.toList

def fitting (box : Box) (criterion : Criterion) : Finset Nat :=
  box.passing fun position choice ↦ criterion.fits position choice

def selectable (box : Box) (criterion : Criterion) : Finset Nat :=
  match criterion with
  | text shown =>
    if criterion.fitting box = ∅ ∧ ' ' ∈ shown.toList then
      box.passing fun _ choice ↦ showsExactly shown choice
    else criterion.fitting box
  | _ => criterion.fitting box

end Criterion

namespace Box

/-- Whether the choice at a position shows exactly some text. -/
def isShownAt (box : Box) (shown : String) (position : Nat) : Bool :=
  box.choices[position]?.any (·.text = shown)

/-- What a query finds, as a set, are the choices that match it. -/
theorem toFinset_positions (box : Box) (query : Query) :
    (box.positions query).toFinset = box.passing fun _ ↦ query.matchesChoice := by
  ext position
  simp [positions, passing]

theorem lt_of_mem_positions {box : Box} {query : Query} :
    ∀ position ∈ box.positions query, position < box.choices.length := by
  intro position hposition
  exact List.mem_range.1 (List.mem_of_mem_filter hposition)

theorem positions_everyChoice (box : Box) :
    box.positions .everyChoice = List.range box.choices.length := by
  unfold positions
  rw [List.filter_eq_self]
  intro position hposition
  simp [List.getElem?_eq_getElem (List.mem_range.1 hposition), Query.matchesChoice]

/-- An attempt to select or to deselect matches some choices: unless there are none, it succeeds and
does with them what is wanted; if there are none, it fails in a given way and changes nothing. -/
structure Picks (box : Box) (attempt : Attempt Box Unit) (kind : Kind) (wanted : Bool)
    (matched : Finset Nat) : Prop where
  leads_of_nonempty : ∀ selection, matched.Nonempty →
    box.Leads attempt selection (.ok ()) (Picker.adjusted wanted matched selection)
  leads_of_eq_empty : ∀ selection, matched = ∅ →
    ∃ failure : Failure, failure.kind = kind ∧
      box.Leads attempt selection (.error failure) selection

theorem picks_throw (box : Box) (failure : Failure) (wanted : Bool) :
    box.Picks (throw failure) failure.kind wanted ∅ where
  leads_of_nonempty _ hnonempty := absurd hnonempty Finset.not_nonempty_empty
  leads_of_eq_empty selection _ := ⟨failure, rfl, .throw failure selection⟩

/-- What is asked before, and changes nothing, does not matter. -/
theorem Picks.bind {α : Type} {box : Box} {first : Attempt Box α} {value : α}
    {next : α → Attempt Box Unit} {kind : Kind} {wanted : Bool} {matched : Finset Nat}
    (hfirst : ∀ selection, box.Leads first selection (.ok value) selection)
    (hnext : box.Picks (next value) kind wanted matched) :
    box.Picks (first >>= next) kind wanted matched where
  leads_of_nonempty selection hnonempty :=
    (hfirst selection).bind (hnext.leads_of_nonempty selection hnonempty)
  leads_of_eq_empty selection hempty := by
    obtain ⟨failure, hkind, hleads⟩ := hnext.leads_of_eq_empty selection hempty
    exact ⟨failure, hkind, (hfirst selection).bind hleads⟩

end Box

namespace Picker

variable {box : Box} {selection : Finset Nat} {wanted : Bool} {act : Nat → Attempt Box Unit}
  {query : Query} {next : List Nat → Attempt Box Unit} {matched : Finset Nat}

/-- Finding choices, and then going through all of them. -/
theorem picks_find (hquiet : box.IsQuiet) (hunderstood : query.isUnderstood = true)
    (hact : Adjusts box wanted act)
    (hloop : ∀ first rest, next (first :: rest) = forAll act (first :: rest))
    (hmatched : box.positions query ≠ [] → matched = (box.positions query).toFinset)
    (hmissing : box.positions query = [] → box.Picks (next []) .noSuchElement wanted matched) :
    box.Picks (Box.find query >>= next) .noSuchElement wanted matched := by
  apply Box.Picks.bind fun selection ↦ Box.leads_find hquiet hunderstood
  cases hpositions : box.positions query with
  | nil => exact hmissing hpositions
  | cons first rest =>
    have hsome : box.positions query ≠ [] := by simp [hpositions]
    have heq := hmatched hsome
    rw [hpositions] at heq
    have hlt : ∀ position ∈ first :: rest, position < box.choices.length := by
      rw [← hpositions]
      exact Box.lt_of_mem_positions
    rw [hloop, heq]
    constructor
    · intro selection _
      exact leads_forAll hact hlt
    · intro selection hempty
      simp at hempty

/-- The same where finding none is reported right away. -/
theorem picks_find_or_throw {text : String} (hquiet : box.IsQuiet)
    (hunderstood : query.isUnderstood = true) (hact : Adjusts box wanted act)
    (hloop : ∀ first rest, next (first :: rest) = forAll act (first :: rest))
    (hmissing : next [] = throw (.of .noSuchElement text)) :
    box.Picks (Box.find query >>= next) .noSuchElement wanted (box.positions query).toFinset := by
  apply picks_find hquiet hunderstood hact hloop
  · intro _
    rfl
  · intro hnone
    rw [hnone, hmissing]
    exact box.picks_throw _ wanted

/-! ## By value -/

theorem isUnderstood_byValue {content : String} (spaced : Bool)
    (hplain : (Criterion.value content).IsPlain) :
    (Query.byValue spaced (Literal.ofText content.toList)).isUnderstood = true := by
  unfold Criterion.IsPlain at hplain
  unfold Literal.ofText
  rcases hplain with hdouble | hsingle
  · rw [if_neg hdouble]
    rfl
  · rw [if_neg hsingle]
    split <;> rfl

/-- A plain value is matched by the choices that have exactly this value. -/
theorem matchesChoice_byValue {content : String} (spaced : Bool)
    (hplain : (Criterion.value content).IsPlain) (choice : Choice) :
    (Query.byValue spaced (Literal.ofText content.toList)).matchesChoice choice =
      decide (choice.value = some content) := by
  have hvalue : choice.value.map String.toList = some content.toList ↔
      choice.value = some content := by
    cases choice.value <;> simp [String.toList_inj]
  simp only [Query.matchesChoice, Literal.meaning_ofText hplain, hvalue]

/-- A search by a plain value finds the choices that fit the criterion. -/
theorem toFinset_positions_byValue (box : Box) {content : String} (spaced : Bool)
    (hplain : (Criterion.value content).IsPlain) :
    (box.positions (.byValue spaced (Literal.ofText content.toList))).toFinset =
      (Criterion.value content).fitting box := by
  rw [Box.toFinset_positions]
  unfold Criterion.fitting
  congr 1
  funext position choice
  exact matchesChoice_byValue spaced hplain choice

/-- Selecting by value asks for no more of a multiple box than that its choices are enabled. -/
theorem picks_selectByValue_of_enabled (hquiet : box.IsQuiet) (hmultiple : box.isMultiple = true)
    (henabled : ∀ choice ∈ box.choices, choice.enabled = true) {content : String}
    (hplain : (Criterion.value content).IsPlain) :
    box.Picks (selectByValue ⟨true⟩ content) .noSuchElement true
      ((Criterion.value content).fitting box) := by
  rw [← toFinset_positions_byValue box false hplain]
  unfold selectByValue
  exact picks_find_or_throw hquiet (isUnderstood_byValue false hplain)
    (adjusts_setSelected_of_enabled hquiet hmultiple henabled)
    (fun _ _ ↦ eachPicked_of_multiple rfl) rfl

section

variable (hoperable : box.IsOperable)

include hoperable

/-- Selecting by a plain value picks the choices that fit. -/
theorem picks_selectByValue {content : String} (hplain : (Criterion.value content).IsPlain) :
    box.Picks (selectByValue ⟨true⟩ content) .noSuchElement true
      ((Criterion.value content).fitting box) :=
  picks_selectByValue_of_enabled hoperable.isQuiet hoperable.isMultiple hoperable.enabled hplain

theorem picks_deselectByValue {content : String} (hplain : (Criterion.value content).IsPlain) :
    box.Picks (deselectByValue ⟨true⟩ content) .noSuchElement false
      ((Criterion.value content).fitting box) := by
  rw [← toFinset_positions_byValue box true hplain]
  unfold deselectByValue requireMultiple
  rw [if_pos rfl, pure_bind]
  exact picks_find_or_throw hoperable.isQuiet (isUnderstood_byValue true hplain)
    (adjusts_unsetSelected hoperable) (fun _ _ ↦ rfl) rfl

end

/-! ## By text -/

/-- The choices that are found by a text are those that have the text its literal says. -/
theorem toFinset_positions_byText (box : Box) {shown said : String}
    (hsaid : (Literal.ofText shown.toList).meaning = said.toList) :
    (box.positions (.byText (Literal.ofText shown.toList))).toFinset =
      (Criterion.text said).fitting box := by
  rw [Box.toFinset_positions]
  unfold Criterion.fitting
  congr 1
  funext position choice
  simp only [Query.matchesChoice, Criterion.fits, hsaid]

/-- The candidates for a text are the choices whose text in the document has its longest piece. -/
theorem exists_clicks_candidates_of_isPlain (hquiet : box.IsQuiet) {shown : String}
    (hplain : (Criterion.text shown).IsPlain) :
    ∃ query, (∀ choice, query.matchesChoice choice =
        decide (Text.longestPiece shown.toList <:+: choice.rawText.toList)) ∧
      ∀ selection, box.Clicks (candidates shown) selection (.ok (box.positions query)) [] := by
  unfold candidates
  cases hpiece : Text.longestPiece shown.toList with
  | nil => exact ⟨.everyChoice, fun _ ↦ by simp [Query.matchesChoice],
      fun _ ↦ Box.clicks_find hquiet rfl⟩
  | cons first rest =>
    have hmeaning : (Literal.ofText (first :: rest)).meaning = first :: rest := by
      rw [← hpiece]
      exact Literal.meaning_ofText (hplain.imp (mt Text.mem_of_mem_longestPiece)
        (mt Text.mem_of_mem_longestPiece))
    refine ⟨.byPart (Literal.ofText (first :: rest)), fun choice ↦ ?_,
      fun _ ↦ Box.clicks_find hquiet rfl⟩
    rw [Query.matchesChoice, hmeaning, Bool.eq_iff_iff, Text.occursIn_iff, decide_eq_true_iff]

/-- Of some choices, those that show exactly the text are selected. -/
theorem leads_selectExact (hoperable : box.IsOperable) (shown : String) {found : List Nat}
    (hfound : ∀ position ∈ found, position < box.choices.length) :
    box.Leads (selectExact ⟨true⟩ shown found) selection (.ok (found.any (box.isShownAt shown)))
      (adjusted true (found.filter (box.isShownAt shown)).toFinset selection) := by
  induction found generalizing selection with
  | nil => simpa [selectExact] using Box.Leads.pure false selection
  | cons position rest ih =>
    have hposition := hfound position List.mem_cons_self
    have hchoice := List.getElem?_eq_getElem hposition
    have hrest (selection : Finset Nat) :
        box.Leads (selectExact ⟨true⟩ shown rest) selection
          (.ok (rest.any (box.isShownAt shown)))
          (adjusted true (rest.filter (box.isShownAt shown)).toFinset selection) :=
      ih fun other hother ↦ hfound other (List.mem_cons_of_mem _ hother)
    unfold selectExact
    apply Box.Leads.bind (Box.leads_text hoperable.isQuiet hchoice)
    by_cases htext : box.choices[position].text = shown
    · have hshows : box.isShownAt shown position = true := by
        simp [Box.isShownAt, hchoice, htext]
      rw [if_pos htext, List.any_cons, List.filter_cons_of_pos hshows, List.toFinset_cons,
        adjusted_insert, hshows]
      apply Box.Leads.bind (adjusts_selectVisible hoperable shown position hposition selection)
      exact (hrest _).map _
    · have hshows : box.isShownAt shown position = false := by
        simp [Box.isShownAt, hchoice, htext]
      rw [if_neg htext, List.any_cons, List.filter_cons_of_neg (by simp [hshows]), hshows]
      exact hrest selection

section

variable (hoperable : box.IsOperable) {shown : String} (hplain : (Criterion.text shown).IsPlain)

include hoperable hplain

/-- Looking for exactly the text, which is done if no choice has it with normal spacing. -/
theorem picks_exactly :
    box.Picks
      (do
        if ← selectExact ⟨true⟩ shown (← candidates shown) then pure () else noSuchText shown)
      .noSuchElement true (box.passing fun _ choice ↦ Criterion.showsExactly shown choice) := by
  obtain ⟨query, hquery, hcandidates⟩ := exists_clicks_candidates_of_isPlain hoperable.isQuiet hplain
  have hmatched : (box.passing fun _ choice ↦ Criterion.showsExactly shown choice) =
      ((box.positions query).filter (box.isShownAt shown)).toFinset := by
    rw [List.toFinset_filter, Box.toFinset_positions, Box.passing, Box.passing,
      Finset.filter_filter]
    apply Finset.filter_congr
    intro position _
    cases hchoice : box.choices[position]? with
    | none => simp
    | some choice => simp [Box.isShownAt, hchoice, hquery, Criterion.showsExactly, and_comm]
  rw [hmatched]
  have hexact (selection : Finset Nat) :
      box.Leads (selectExact ⟨true⟩ shown (box.positions query)) selection
        (.ok ((box.positions query).any (box.isShownAt shown)))
        (adjusted true ((box.positions query).filter (box.isShownAt shown)).toFinset selection) :=
    leads_selectExact hoperable shown Box.lt_of_mem_positions
  constructor
  · intro selection hnonempty
    obtain ⟨position, hposition⟩ := hnonempty
    have hany : (box.positions query).any (box.isShownAt shown) = true :=
      List.any_eq_true.2 ⟨position, List.mem_filter.1 (List.mem_toFinset.1 hposition)⟩
    apply Box.Leads.bind (hcandidates selection).leads_of_nil
    apply Box.Leads.bind (hexact selection)
    rw [if_pos hany]
    exact .pure () _
  · intro selection hempty
    have hany : (box.positions query).any (box.isShownAt shown) ≠ true := by
      simpa [List.filter_eq_nil_iff] using hempty
    refine ⟨.of .noSuchElement ("Could not locate element with visible text: " ++ shown), rfl, ?_⟩
    apply Box.Leads.bind (hcandidates selection).leads_of_nil
    -- Going through the candidates changes nothing, since none of them shows the text.
    have hfailed := hexact selection
    rw [hempty, adjusted_empty] at hfailed
    apply Box.Leads.bind hfailed
    rw [if_neg hany]
    exact .throw _ selection

/-- Selecting by a text picks the choices that can be selected by it. -/
theorem picks_selectByText :
    box.Picks (selectByText ⟨true⟩ shown) .noSuchElement true
      ((Criterion.text shown).selectable box) := by
  have hfitting := toFinset_positions_byText box (Literal.meaning_ofText hplain)
  unfold selectByText
  apply picks_find hoperable.isQuiet rfl (adjusts_selectVisible hoperable shown)
  · intro first rest
    exact eachPicked_of_multiple rfl
  · intro hsome
    have hnonempty : (Criterion.text shown).fitting box ≠ ∅ := by
      rwa [← hfitting, Ne, List.toFinset_eq_empty_iff]
    rw [hfitting, Criterion.selectable, if_neg (not_and_of_not_left _ hnonempty)]
  · intro hnone
    have hempty : (Criterion.text shown).fitting box = ∅ := by
      rw [← hfitting, hnone, List.toFinset_nil]
    by_cases hspace : ' ' ∈ shown.toList
    · rw [Criterion.selectable, if_pos hspace, if_pos ⟨hempty, hspace⟩]
      exact picks_exactly hoperable hplain
    · rw [Criterion.selectable, if_neg (not_and_of_not_right _ hspace), if_neg hspace, hempty]
      exact box.picks_throw _ _

/-- Deselecting by a text picks the choices whose raw text fits. -/
theorem picks_deselectByText :
    box.Picks (deselectByText ⟨true⟩ shown) .noSuchElement false
      ((Criterion.text shown).fitting box) := by
  rw [← toFinset_positions_byText box (Literal.meaning_ofText hplain)]
  unfold deselectByText requireMultiple
  rw [if_pos rfl, pure_bind]
  exact picks_find_or_throw hoperable.isQuiet rfl (adjusts_deselectVisible hoperable shown)
    (fun _ _ ↦ rfl) rfl

end

/-! ## By index -/

/-- Do something with the first of some choices that has an index. -/
def onIndex (number : Int) (act : Nat → Attempt Box Unit) : List Nat → Attempt Box Unit
  | [] => noSuchIndex number
  | position :: rest => do
    if (← Box.index position) = some (toString number) then act position
    else onIndex number act rest

section

variable {number : Int}

theorem writeIndex_eq_pure (hplain : (Criterion.index number).IsPlain) :
    writeIndex number = pure (toString number) := by
  unfold Criterion.IsPlain at hplain
  rw [writeIndex, Decimal.writeInteger?, if_pos hplain]

/-- An index with too many digits cannot be written. -/
theorem writeIndex_eq_throw (hplain : ¬(Criterion.index number).IsPlain) :
    writeIndex number = throw (.of .invalidValue Decimal.tooLongToWrite) := by
  unfold Criterion.IsPlain at hplain
  rw [writeIndex, Decimal.writeInteger?, if_neg hplain]

theorem selectIndexOf_eq (found : List Nat) :
    selectIndexOf number (toString number) found = onIndex number setSelected found := by
  induction found with
  | nil => rfl
  | cons position rest ih => rw [selectIndexOf, onIndex, ih]

theorem deselectIndexOf_eq (hplain : (Criterion.index number).IsPlain) (found : List Nat) :
    deselectIndexOf number found = onIndex number unsetSelected found := by
  induction found with
  | nil => rfl
  | cons position rest ih =>
    rw [deselectIndexOf, onIndex, ih, writeIndex_eq_pure hplain]
    simp only [pure_bind]

/-- Decimals are equal if their numbers are. -/
theorem toString_natCast_eq_iff {position : Nat} :
    toString position = toString number ↔ (position : Int) = number := by
  constructor
  · intro h
    exact Int.repr_inj.1 h
  · rintro rfl
    rfl

/-- On a box that is ready, the choice with an index is the one at that position. -/
theorem picks_onIndex (hready : box.IsReady) (hact : Adjusts box wanted act) {found : List Nat}
    (hplain : (Criterion.index number).IsPlain)
    (hfound : ∀ position ∈ found, position < box.choices.length) :
    box.Picks (onIndex number act found) .noSuchElement wanted
      (found.toFinset.filter fun position : Nat ↦ (position : Int) = number) := by
  induction found with
  | nil =>
    unfold onIndex noSuchIndex
    rw [writeIndex_eq_pure hplain, pure_bind]
    exact box.picks_throw _ _
  | cons position rest ih =>
    have hposition := hfound position List.mem_cons_self
    have hindex (selection : Finset Nat) :
        box.Leads (Box.index position) selection (.ok (some (toString position))) selection := by
      have hchoice := List.getElem?_eq_getElem hposition
      rw [← hready.index_eq position _ hchoice]
      exact Box.leads_index hready.isQuiet hchoice
    apply Box.Picks.bind hindex
    by_cases hnumber : (position : Int) = number
    · -- No other position has this number, so the loop may stop here.
      have hmatched : {other ∈ (position :: rest).toFinset | ((other : Nat) : Int) = number} =
          {position} := by
        ext other
        simp only [List.toFinset_cons, Finset.mem_filter, Finset.mem_insert, List.mem_toFinset,
          Finset.mem_singleton]
        omega
      rw [if_pos (congrArg some (toString_natCast_eq_iff.2 hnumber)), hmatched]
      constructor
      · intro selection _
        exact hact position hposition selection
      · intro selection hempty
        exact absurd hempty (Finset.singleton_ne_empty position)
    · have hother : some (toString position) ≠ some (toString number) :=
        fun heq ↦ hnumber (toString_natCast_eq_iff.1 (Option.some.inj heq))
      rw [if_neg hother, List.toFinset_cons, Finset.filter_insert, if_neg hnumber]
      exact ih fun other hother ↦ hfound other (List.mem_cons_of_mem _ hother)

theorem filter_positions_eq_fitting (box : Box) (number : Int) :
    ((box.positions .everyChoice).toFinset.filter fun position : Nat ↦ (position : Int) = number) =
      (Criterion.index number).fitting box := by
  rw [Box.toFinset_positions, Box.passing, Finset.filter_filter]
  apply Finset.filter_congr
  intro position hposition
  have hchoice := List.getElem?_eq_getElem (Finset.mem_range.1 hposition)
  simp [hchoice, Query.matchesChoice, Criterion.fits]

/-- Selecting by an index picks the choice at that index, if there is one. -/
theorem picks_selectByIndex (hready : box.IsReady) (hplain : (Criterion.index number).IsPlain) :
    box.Picks (selectByIndex number) .noSuchElement true ((Criterion.index number).fitting box) := by
  rw [← filter_positions_eq_fitting]
  unfold selectByIndex
  rw [writeIndex_eq_pure hplain, pure_bind]
  apply Box.Picks.bind fun selection ↦ Box.leads_find hready.isQuiet rfl
  rw [selectIndexOf_eq]
  exact picks_onIndex hready (adjusts_setSelected hready.isOperable) hplain Box.lt_of_mem_positions

theorem picks_deselectByIndex (hready : box.IsReady) (hplain : (Criterion.index number).IsPlain) :
    box.Picks (deselectByIndex ⟨true⟩ number) .noSuchElement false
      ((Criterion.index number).fitting box) := by
  rw [← filter_positions_eq_fitting]
  unfold deselectByIndex requireMultiple
  rw [if_pos rfl, pure_bind]
  apply Box.Picks.bind fun selection ↦ Box.leads_find hready.isQuiet rfl
  rw [deselectIndexOf_eq hplain]
  exact picks_onIndex hready (adjusts_unsetSelected hready.isOperable) hplain Box.lt_of_mem_positions

end

end Picker

end BrowserControl.Select
