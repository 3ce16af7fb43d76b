import BrowserControl.Proofs.Select.Refinement

/-!
# Criteria as Data

A value or a text that names choices is written into a query as a literal, and it should not matter
which quotes are in it: the choices that are clicked are among those that have the value or the text,
and nothing is reported to be missing unless there are none (`Criterion.IsTakenLiterally`).  Where
this holds, and where it does not, comes down to what the literal says (`Literal.meaning_ofText_eq`):
the text itself, but for one more double quote after a text that holds both kinds of quotes and ends
with a double quote.  Values have no such literals at all, since nothing can be concatenated where
values are compared.  So values are taken literally exactly if they do not hold both kinds of quotes,
and texts with normal spacing exactly if they do not, or do not end with a double quote
(`Criterion.isTakenLiterally_iff`).
-/

namespace BrowserControl.Select

open Attempt

/-! ## What literals say -/

namespace Literal

theorem flatMap_content_ofPieces (pieces : List (List Char)) :
    (ofPieces pieces).flatMap Quotation.content = Text.joinWith '"' pieces := by
  induction pieces using ofPieces.induct with
  | case1 => rfl
  | case2 piece => simp [ofPieces, Text.joinWith]
  | case3 piece others hothers ih =>
    obtain ⟨second, rest, rfl⟩ := List.exists_cons_of_ne_nil hothers
    simp only [ofPieces, Text.joinWith, List.flatMap_cons, ih, quotedQuote]
    rfl

/-- A literal means its text, with one double quote too many if both quotes occur and the text ends
in a double one. -/
theorem meaning_ofText_eq (text : List Char) :
    (ofText text).meaning =
      text ++ if '"' ∈ text ∧ '\'' ∈ text ∧ text.getLast? = some '"' then ['"'] else [] := by
  by_cases hplain : '"' ∉ text ∨ '\'' ∉ text
  · rw [meaning_ofText hplain, if_neg (by tauto), List.append_nil]
  · obtain ⟨hdouble, hsingle⟩ : '"' ∈ text ∧ '\'' ∈ text := by tauto
    unfold ofText
    rw [if_pos hdouble, if_pos hsingle, meaning, List.flatMap_append, flatMap_content_ofPieces,
      Text.joinWith_splitAt]
    by_cases hlast : text.getLast? = some '"'
    · simp [hlast, hdouble, hsingle, quotedQuote]
    · simp [hlast]

end Literal

/-- Values with both kinds of quotes make queries that are not understood. -/
theorem Query.isUnderstood_byValue_eq_false {content : String} (spaced : Bool)
    (hplain : ¬(Criterion.value content).IsPlain) :
    (byValue spaced (Literal.ofText content.toList)).isUnderstood = false := by
  obtain ⟨hdouble, hsingle⟩ : '"' ∈ content.toList ∧ '\'' ∈ content.toList := by
    simpa [Criterion.IsPlain] using hplain
  rw [Literal.ofText, if_pos hdouble, if_pos hsingle]
  rfl

/-! ## Clicks on some choices only -/

namespace Box

/-- Whatever is selected, an attempt comes to an outcome and clicks no choices but those at some
positions. -/
def ClicksWithin {α : Type} (box : Box) (attempt : Attempt Box α) (outcome : Except Failure α)
    (allowed : Finset Nat) : Prop :=
  ∀ selection, ∃ clicked : List Nat, (∀ position ∈ clicked, position ∈ allowed) ∧
    box.Clicks attempt selection outcome clicked

namespace ClicksWithin

variable {box : Box} {α β : Type} {first : Attempt Box α} {value : α} {failure : Failure}
  {allowed : Finset Nat} {kind : Kind} {handle : Failure → Attempt Box α}

/-- What clicks nothing may be done in any case. -/
theorem of_clicks_nil {outcome : Except Failure α}
    (hclicks : ∀ selection, box.Clicks first selection outcome []) (allowed : Finset Nat) :
    box.ClicksWithin first outcome allowed :=
  fun selection ↦ ⟨[], nofun, hclicks selection⟩

theorem bind {next : α → Attempt Box β} {outcome : Except Failure β}
    (hfirst : box.ClicksWithin first (.ok value) allowed)
    (hnext : box.ClicksWithin (next value) outcome allowed) :
    box.ClicksWithin (first >>= next) outcome allowed := by
  intro selection
  obtain ⟨clicked, hclicked, hclicks⟩ := hfirst selection
  obtain ⟨further, hfurther, hclicksNext⟩ := hnext (box.selectionAfter clicked selection)
  refine ⟨clicked ++ further, fun position hposition ↦ ?_, hclicks.bind hclicksNext⟩
  rcases List.mem_append.1 hposition with hposition | hposition
  · exact hclicked position hposition
  · exact hfurther position hposition

theorem recover_ok (hfirst : box.ClicksWithin first (.ok value) allowed) :
    box.ClicksWithin (Attempt.recover first kind handle) (.ok value) allowed := by
  intro selection
  obtain ⟨clicked, hclicked, hclicks⟩ := hfirst selection
  exact ⟨clicked, hclicked, hclicks.recover_ok⟩

theorem mono {outcome : Except Failure α} {more : Finset Nat}
    (hfirst : box.ClicksWithin first outcome allowed) (hsubset : allowed ⊆ more) :
    box.ClicksWithin first outcome more := by
  intro selection
  obtain ⟨clicked, hclicked, hclicks⟩ := hfirst selection
  exact ⟨clicked, fun position hposition ↦ hsubset (hclicked position hposition), hclicks⟩

end ClicksWithin

/-- An attempt picks among some choices: unless there are none, it succeeds and clicks no others; if
there are none, it fails in a way of some kind and clicks nothing. -/
structure PicksAmong (box : Box) (attempt : Attempt Box Unit) (kind : Kind)
    (matched : Finset Nat) : Prop where
  within_of_nonempty : matched.Nonempty → box.ClicksWithin attempt (.ok ()) matched
  fails_of_eq_empty : matched = ∅ → ∃ failure : Failure, failure.kind = kind ∧
    ∀ selection, box.Clicks attempt selection (.error failure) []

/-- What goes before and clicks nothing does not matter. -/
theorem PicksAmong.bind {α : Type} {box : Box} {first : Attempt Box α} {value : α}
    {next : α → Attempt Box Unit} {kind : Kind} {matched : Finset Nat}
    (hfirst : ∀ selection, box.Clicks first selection (.ok value) [])
    (hnext : box.PicksAmong (next value) kind matched) :
    box.PicksAmong (first >>= next) kind matched where
  within_of_nonempty hnonempty :=
    (ClicksWithin.of_clicks_nil hfirst matched).bind (hnext.within_of_nonempty hnonempty)
  fails_of_eq_empty hempty := by
    obtain ⟨failure, hkind, hclicks⟩ := hnext.fails_of_eq_empty hempty
    exact ⟨failure, hkind, fun selection ↦ (hfirst selection).bind_of_nil (hclicks selection)⟩

/-- A box without faults whose choices are all enabled and visible, and show their text as it stands in
the document. -/
structure IsLegible (box : Box) : Prop where
  isQuiet : box.IsQuiet
  enabled : ∀ choice ∈ box.choices, choice.enabled = true
  visible : ∀ choice ∈ box.choices, choice.isVisible = true
  text_eq : ∀ choice ∈ box.choices, choice.text = choice.rawText

/-- A choice that shows exactly a text with normal spacing would fit it. -/
theorem IsLegible.text_ne_of_fitting_eq_empty {box : Box} (hlegible : box.IsLegible)
    {shown : String} (hspacing : Text.normalSpacing shown.toList = shown.toList)
    (hnone : (Criterion.text shown).fitting box = ∅) :
    ∀ choice ∈ box.choices, choice.text ≠ shown := by
  rintro choice hchoice rfl
  obtain ⟨position, hposition⟩ := List.mem_iff_getElem?.1 hchoice
  refine Finset.notMem_empty position (hnone ▸ ?_)
  rw [Criterion.fitting, Box.passing, Finset.mem_filter, Finset.mem_range]
  refine ⟨(List.getElem?_eq_some_iff.1 hposition).1, ?_⟩
  simp [hposition, Criterion.fits, ← hlegible.text_eq choice hchoice, hspacing]

end Box

namespace Picker

variable {box : Box} {picker : Picker} {act : Nat → Attempt Box Unit} {found : List Nat}
  {query : Query} {next : List Nat → Attempt Box Unit}

/-- Done at any position of the box, something succeeds and clicks at most the choice there. -/
def Touches (box : Box) (act : Nat → Attempt Box Unit) : Prop :=
  ∀ position < box.choices.length, box.ClicksWithin (act position) (.ok ()) {position}

section

variable (hlegible : box.IsLegible)

include hlegible

theorem touches_setSelected : Touches box setSelected := by
  intro position hposition selection
  refine ⟨_, ?_, clicks_setSelected hlegible.isQuiet (List.getElem?_eq_getElem hposition)
    (hlegible.enabled _ (List.getElem_mem hposition))⟩
  split <;> simp

theorem touches_unsetSelected : Touches box unsetSelected := by
  intro position hposition selection
  refine ⟨_, ?_, clicks_unsetSelected hlegible.isQuiet (List.getElem?_eq_getElem hposition)⟩
  split <;> simp

theorem touches_requireVisible (text : String) : Touches box (requireVisible text) :=
  fun _ hposition ↦ .of_clicks_nil (fun _ ↦
    clicks_requireVisible hlegible.isQuiet (List.getElem?_eq_getElem hposition) text
      (hlegible.visible _ (List.getElem_mem hposition))) _

theorem touches_selectVisible (text : String) : Touches box (selectVisible text) :=
  fun position hposition ↦ (touches_requireVisible hlegible text position hposition).bind
    (touches_setSelected hlegible position hposition)

theorem touches_deselectVisible (text : String) : Touches box (deselectVisible text) :=
  fun position hposition ↦ (touches_requireVisible hlegible text position hposition).bind
    (touches_unsetSelected hlegible position hposition)

end

theorem clicksWithin_forAll (hact : Touches box act)
    (hfound : ∀ position ∈ found, position < box.choices.length) :
    box.ClicksWithin (forAll act found) (.ok ()) found.toFinset := by
  induction found with
  | nil => exact .of_clicks_nil (fun selection ↦ .pure () selection) _
  | cons position rest ih =>
    have hfirst := hact position (hfound position List.mem_cons_self)
    have hrest := ih fun other hother ↦ hfound other (List.mem_cons_of_mem _ hother)
    exact (hfirst.mono (by simp)).bind (hrest.mono (by simp [Finset.subset_insert]))

/-- Whether all choices that are found are picked, or only the first, no others are clicked. -/
theorem clicksWithin_eachPicked (picker : Picker) (hact : Touches box act)
    (hfound : ∀ position ∈ found, position < box.choices.length) :
    box.ClicksWithin (eachPicked picker act found) (.ok ()) found.toFinset := by
  cases hmultiple : picker.multiple with
  | true =>
    rw [eachPicked_of_multiple hmultiple]
    exact clicksWithin_forAll hact hfound
  | false =>
    cases found with
    | nil => exact .of_clicks_nil (fun selection ↦ .pure () selection) _
    | cons position rest =>
      have hfirst := hact position (hfound position List.mem_cons_self)
      simp only [eachPicked, hmultiple, Bool.false_eq_true, if_false]
      exact (hfirst.mono (by simp)).bind (.of_clicks_nil (fun selection ↦ .pure () selection) _)

/-- Finding choices, and then going through those that are found. -/
theorem picksAmong_find (hquiet : box.IsQuiet) (hunderstood : query.isUnderstood = true)
    (hloop : ∀ first rest, (∀ position ∈ first :: rest, position < box.choices.length) →
      box.ClicksWithin (next (first :: rest)) (.ok ()) (first :: rest).toFinset)
    (hmissing : box.positions query = [] → ∃ failure : Failure, failure.kind = .noSuchElement ∧
      ∀ selection, box.Clicks (next []) selection (.error failure) []) :
    box.PicksAmong (Box.find query >>= next) .noSuchElement (box.positions query).toFinset := by
  apply Box.PicksAmong.bind fun selection ↦ Box.clicks_find hquiet hunderstood
  have hlt : ∀ position ∈ box.positions query, position < box.choices.length :=
    Box.lt_of_mem_positions
  cases hpositions : box.positions query with
  | nil => exact ⟨fun hnonempty ↦ absurd hnonempty (by simp), fun _ ↦ hmissing hpositions⟩
  | cons first rest =>
    rw [hpositions] at hlt
    exact ⟨fun _ ↦ hloop first rest hlt, fun hempty ↦ absurd hempty (by simp)⟩

section

variable (hlegible : box.IsLegible) (picker : Picker)

include hlegible

/-- Selecting by a plain value clicks no choice that does not fit. -/
theorem picksAmong_selectByValue {content : String} (hplain : (Criterion.value content).IsPlain) :
    box.PicksAmong (picker.selectByValue content) .noSuchElement
      ((Criterion.value content).fitting box) := by
  rw [← toFinset_positions_byValue box false hplain]
  refine picksAmong_find hlegible.isQuiet (isUnderstood_byValue false hplain) ?_ ?_
  · exact fun _ _ ↦ clicksWithin_eachPicked picker (touches_setSelected hlegible)
  · exact fun _ ↦ ⟨_, rfl, fun selection ↦ .throw _ selection⟩

theorem picksAmong_deselectByValue {content : String} (hplain : (Criterion.value content).IsPlain) :
    box.PicksAmong (deselectByValue ⟨true⟩ content) .noSuchElement
      ((Criterion.value content).fitting box) := by
  rw [← toFinset_positions_byValue box true hplain]
  refine picksAmong_find hlegible.isQuiet (isUnderstood_byValue true hplain) ?_ ?_
  · exact fun _ _ ↦ clicksWithin_forAll (touches_unsetSelected hlegible)
  · exact fun _ ↦ ⟨_, rfl, fun selection ↦ .throw _ selection⟩

/-- Looking for exactly a text among choices that do not show it clicks nothing. -/
theorem clicks_selectExact_of_not_shown {shown : String} {found : List Nat}
    (hfound : ∀ position ∈ found, position < box.choices.length)
    (hshown : ∀ choice ∈ box.choices, choice.text ≠ shown) (selection : Finset Nat) :
    box.Clicks (selectExact picker shown found) selection (.ok false) [] := by
  induction found with
  | nil => exact .pure false selection
  | cons position rest ih =>
    have hposition := hfound position List.mem_cons_self
    have hother := hshown _ (List.getElem_mem hposition)
    unfold selectExact
    apply (Box.clicks_text hlegible.isQuiet (List.getElem?_eq_getElem hposition)).bind_of_nil
    rw [if_neg hother]
    exact ih fun other hother ↦ hfound other (List.mem_cons_of_mem _ hother)

/-- Whatever is looked for, the candidates for a text are choices of the box. -/
theorem exists_clicks_candidates (shown : String) :
    ∃ found, (∀ position ∈ found, position < box.choices.length) ∧
      ∀ selection, box.Clicks (candidates shown) selection (.ok found) [] := by
  unfold candidates
  cases Text.longestPiece shown.toList with
  | nil => exact ⟨_, Box.lt_of_mem_positions, fun _ ↦ Box.clicks_find hlegible.isQuiet rfl⟩
  | cons first rest => exact ⟨_, Box.lt_of_mem_positions, fun _ ↦ Box.clicks_find hlegible.isQuiet rfl⟩

/-- Nor does selecting by a text that the literal means and spacing leaves alone. -/
theorem picksAmong_selectByText {shown : String}
    (hmeaning : (Literal.ofText shown.toList).meaning = shown.toList)
    (hspacing : Text.normalSpacing shown.toList = shown.toList) :
    box.PicksAmong (picker.selectByText shown) .noSuchElement ((Criterion.text shown).fitting box) := by
  have hfitting := toFinset_positions_byText box hmeaning
  rw [← hfitting]
  refine picksAmong_find hlegible.isQuiet rfl ?_ fun hnone ↦ ?_
  · exact fun _ _ ↦ clicksWithin_eachPicked picker (touches_selectVisible hlegible shown)
  · have hshown : ∀ choice ∈ box.choices, choice.text ≠ shown :=
      hlegible.text_ne_of_fitting_eq_empty hspacing (by rw [← hfitting, hnone, List.toFinset_nil])
    refine ⟨.of .noSuchElement ("Could not locate element with visible text: " ++ shown), rfl,
      fun selection ↦ ?_⟩
    by_cases hspace : ' ' ∈ shown.toList
    · obtain ⟨found, hfound, hcandidates⟩ := exists_clicks_candidates hlegible shown
      simp only [hspace, if_true]
      apply (hcandidates selection).bind_of_nil
      apply (clicks_selectExact_of_not_shown hlegible picker hfound hshown selection).bind_of_nil
      exact .throw _ selection
    · simp only [hspace, if_false]
      exact .throw _ selection

/-- What is deselected by a text is what the literal of the text says. -/
theorem picksAmong_deselectByText {shown said : String}
    (hsaid : (Literal.ofText shown.toList).meaning = said.toList) :
    box.PicksAmong (deselectByText ⟨true⟩ shown) .noSuchElement
      ((Criterion.text said).fitting box) := by
  rw [← toFinset_positions_byText box hsaid]
  refine picksAmong_find hlegible.isQuiet rfl ?_ ?_
  · exact fun _ _ ↦ clicksWithin_forAll (touches_deselectVisible hlegible shown)
  · exact fun _ ↦ ⟨_, rfl, fun selection ↦ .throw _ selection⟩

end

end Picker

/-! ## Which criteria are taken literally -/

theorem Control.picksAmong_reportMissing {box : Box} {attempt : Attempt Box Unit}
    {matched : Finset Nat} (hpicks : box.PicksAmong attempt .noSuchElement matched)
    (criterion : String) :
    box.PicksAmong (reportMissing criterion attempt) .optionNotFound matched where
  within_of_nonempty hnonempty := (hpicks.within_of_nonempty hnonempty).recover_ok
  fails_of_eq_empty hempty := by
    obtain ⟨failure, hkind, hclicks⟩ := hpicks.fails_of_eq_empty hempty
    refine ⟨failure.reportedAs .optionNotFound ("Cannot locate option with " ++ criterion), rfl,
      fun selection ↦ ?_⟩
    exact (hclicks selection).recover_error (by rw [hkind, Kind.isA_self]) (.throw _ selection)

/-- On a multiple box, what is done to deselect is done after the box has been asked. -/
theorem Control.picksAmong_deselecting {box : Box} (hquiet : box.IsQuiet)
    (hmultiple : box.isMultiple = true) {attempt : Attempt Box Unit} {matched : Finset Nat}
    (hpicks : box.PicksAmong attempt .noSuchElement matched) (action criterion : String) :
    box.PicksAmong (do requireMultiple action; reportMissing criterion attempt) .optionNotFound
      matched :=
  .bind (clicks_requireMultiple hquiet hmultiple action) (picksAmong_reportMissing hpicks criterion)

/-- On every box without faults whose choices are enabled, visible and show their text as it stands in
the document, any control selects by a criterion among the choices that fit it, and so does any control
deselect, if its picker was made for a multiple box and the box is multiple. -/
def Criterion.IsTakenLiterally (criterion : Criterion) : Prop :=
  ∀ (control : Control) (box : Box), box.IsLegible →
    box.PicksAmong (control.select criterion) .optionNotFound (criterion.fitting box) ∧
      (control.picker.multiple = true → box.isMultiple = true →
        box.PicksAmong (control.deselect criterion) .optionNotFound (criterion.fitting box))

/-- A multiple box with a single choice, which has some text as its value and shows it. -/
def labelled (content : String) : Box where
  tag := "select"
  multiple := some "multiple"
  faults := .quiet
  choices := [⟨"only", content, content, some content, .position, false, true, [], .quiet⟩]
  calls := []

theorem isLegible_labelled (content : String) : (labelled content).IsLegible where
  isQuiet := ⟨rfl, by simp [labelled]⟩
  enabled := by simp [labelled]
  visible := by
    intro choice hchoice
    obtain rfl := List.mem_singleton.1 hchoice
    rfl
  text_eq := by simp [labelled]

/-- The choice is there if it fits, and there is no other one. -/
theorem nonempty_fitting_labelled_iff {content : String} {criterion : Criterion} :
    (criterion.fitting (labelled content)).Nonempty ↔
      criterion.fits 0 ⟨"only", content, content, some content, .position, false, true, [], .quiet⟩ =
        true := by
  unfold Criterion.fitting Box.passing
  rw [Finset.filter_nonempty_iff]
  simp [labelled]

/-- An attempt that succeeds does not fail. -/
theorem Box.Clicks.not_error {α : Type} {box : Box} {attempt : Attempt Box α}
    {selection : Finset Nat} {value : α} {failure : Failure} {clicked other : List Nat}
    (hclicks : box.Clicks attempt selection (.ok value) clicked) :
    ¬box.Clicks attempt selection (.error failure) other := by
  intro hfails
  obtain ⟨_, -, hperform⟩ := hclicks []
  obtain ⟨_, -, hperformOther⟩ := hfails []
  rw [hperform] at hperformOther
  cases hperformOther

namespace Criterion

/-- A plain value is taken as it stands. -/
theorem isTakenLiterally_value {content : String} (hplain : (value content).IsPlain) :
    (value content).IsTakenLiterally := by
  refine fun control box hlegible ↦ ⟨?_, fun hpicker hmultiple ↦ ?_⟩
  · exact Control.picksAmong_reportMissing
      (Picker.picksAmong_selectByValue hlegible control.picker hplain) _
  · obtain ⟨⟨_⟩⟩ := control
    obtain rfl := hpicker
    exact Control.picksAmong_deselecting hlegible.isQuiet hmultiple
      (Picker.picksAmong_deselectByValue hlegible hplain) _ _

theorem isTakenLiterally_text {content : String}
    (hmeaning : (Literal.ofText content.toList).meaning = content.toList)
    (hspacing : Text.normalSpacing content.toList = content.toList) :
    (text content).IsTakenLiterally := by
  refine fun control box hlegible ↦ ⟨?_, fun hpicker hmultiple ↦ ?_⟩
  · exact Control.picksAmong_reportMissing
      (Picker.picksAmong_selectByText hlegible control.picker hmeaning hspacing) _
  · obtain ⟨⟨_⟩⟩ := control
    obtain rfl := hpicker
    exact Control.picksAmong_deselecting hlegible.isQuiet hmultiple
      (Picker.picksAmong_deselectByText hlegible hmeaning) _ _

end Criterion

/-- A value with both kinds of quotes is refused as a selector, whether or not a choice has it. -/
theorem Control.clicks_selectByValue_of_not_plain {box : Box} (hquiet : box.IsQuiet)
    (control : Control) {content : String} (hplain : ¬(Criterion.value content).IsPlain)
    (selection : Finset Nat) :
    ∃ failure : Failure, failure.kind = .invalidSelector ∧
      box.Clicks (control.selectByValue content) selection (.error failure) [] := by
  refine ⟨_, ?_, Box.Clicks.recover_of_unexpected ?_ (Box.Clicks.bind_error
    (Box.clicks_find_of_not_understood hquiet (Query.isUnderstood_byValue_eq_false false hplain)))⟩
  · rfl
  · rfl

namespace Criterion

theorem not_isTakenLiterally_value {content : String} (hplain : ¬(value content).IsPlain) :
    ¬(value content).IsTakenLiterally := by
  intro hliteral
  have hthere : ((value content).fitting (labelled content)).Nonempty :=
    nonempty_fitting_labelled_iff.2 (by simp [fits])
  have hpicks := (hliteral ⟨⟨true⟩⟩ (labelled content) (isLegible_labelled content)).1
  obtain ⟨_, -, hdone⟩ := hpicks.within_of_nonempty hthere ∅
  obtain ⟨failure, -, hfails⟩ := Control.clicks_selectByValue_of_not_plain
    (isLegible_labelled content).isQuiet ⟨⟨true⟩⟩ hplain ∅
  exact hdone.not_error hfails

/-- A choice is not deselected by its text if the literal of the text says another one. -/
theorem not_isTakenLiterally_text {content said : String}
    (hsaid : (Literal.ofText content.toList).meaning = said.toList) (hne : said ≠ content)
    (hspacing : Text.normalSpacing content.toList = content.toList) :
    ¬(text content).IsTakenLiterally := by
  intro hliteral
  have hlegible := isLegible_labelled content
  have hthere : ((text content).fitting (labelled content)).Nonempty :=
    nonempty_fitting_labelled_iff.2 (by simpa [fits] using hspacing)
  have hpicks := (hliteral ⟨⟨true⟩⟩ (labelled content) hlegible).2 rfl rfl
  obtain ⟨_, -, hdone⟩ := hpicks.within_of_nonempty hthere ∅
  have hother : (text said).fitting (labelled content) = ∅ := by
    rw [← Finset.not_nonempty_iff_eq_empty, nonempty_fitting_labelled_iff]
    simpa [fits, hspacing, String.toList_inj] using hne.symm
  have hmisses : (labelled content).PicksAmong (Control.deselect ⟨⟨true⟩⟩ (text content))
      .optionNotFound ((text said).fitting (labelled content)) :=
    Control.picksAmong_deselecting hlegible.isQuiet rfl
      (Picker.picksAmong_deselectByText hlegible hsaid) _ _
  obtain ⟨failure, -, hfails⟩ := hmisses.fails_of_eq_empty hother
  exact hdone.not_error (hfails ∅)

/-- Values are taken literally exactly if they do not hold both kinds of quotes.  Texts with normal
spacing are taken literally also if they do, unless they end with a double quote. -/
theorem isTakenLiterally_iff (content : String) :
    ((value content).IsTakenLiterally ↔ (value content).IsPlain) ∧
      (Text.normalSpacing content.toList = content.toList →
        ((text content).IsTakenLiterally ↔
          (text content).IsPlain ∨ content.toList.getLast? ≠ some '"')) := by
  constructor
  · exact ⟨not_imp_not.1 not_isTakenLiterally_value, isTakenLiterally_value⟩
  · intro hspacing
    have hspelt : (text content).IsPlain ∨ content.toList.getLast? ≠ some '"' ↔
        ¬('"' ∈ content.toList ∧ '\'' ∈ content.toList ∧ content.toList.getLast? = some '"') := by
      unfold IsPlain
      tauto
    have hmeaning := Literal.meaning_ofText_eq content.toList
    rw [hspelt]
    constructor
    · intro hliteral hmisspelt
      rw [if_pos hmisspelt, ← String.toList_push] at hmeaning
      refine not_isTakenLiterally_text hmeaning (fun heq ↦ ?_) hspacing hliteral
      have hlength := congrArg String.length heq
      simp at hlength
    · intro hplain
      rw [if_neg hplain, List.append_nil] at hmeaning
      exact isTakenLiterally_text hmeaning hspacing

end Criterion

/-- Quotes in the middle of a text do no harm, but they do in a value. -/
theorem isTakenLiterally_pipe :
    (Criterion.text "3\" pipe 'L'").IsTakenLiterally ∧
      ¬(Criterion.value "3\" pipe 'L'").IsTakenLiterally := by
  obtain ⟨hvalue, htext⟩ := Criterion.isTakenLiterally_iff "3\" pipe 'L'"
  exact ⟨(htext (by decide +kernel)).2 (.inr (by decide +kernel)), mt hvalue.1 (by decide +kernel)⟩

/-- The choice of another text is clicked where none has the text, and a choice is not found by its
value. -/
theorem observe_labelled_quotes :
    (Criterion.text "'L' 3\"").fitting (labelled "'L' 3\"\"") = ∅ ∧
      ((labelled "'L' 3\"\"").observe (Control.selectByText ⟨⟨true⟩⟩ "'L' 3\"")).1 = .ok () ∧
      ((labelled "'L' 3\"\"").observe (Control.selectByText ⟨⟨true⟩⟩ "'L' 3\"")).2.1.filterMap
        BoxCall.click? = [0] ∧
      ((labelled "'L' 3\"").observe (Control.selectByValue ⟨⟨true⟩⟩ "'L' 3\"")).1.mapError
        Failure.kind = .error .invalidSelector := by
  refine ⟨by decide +kernel, rfl, rfl, rfl⟩

end BrowserControl.Select
