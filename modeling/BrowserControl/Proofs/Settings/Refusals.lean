import BrowserControl.Proofs.Json.Nesting
import BrowserControl.Proofs.Settings.Usability

/-!
# Refused Settings

A file is refused for what it holds, and whoever loads settings has to be prepared for invalid values.
Almost every refusal is of that kind: octets that are no text, a text that is no document, a number that
is too long, a value that does not suit its key.  Two are not.  That a document is an object is taken for
granted when its members are asked for, and brackets that are nested too deep stop the reader rather than
being found invalid (`blamesValue_load_iff`).
-/

namespace BrowserControl

/-- An attempt fails only for an invalid value, or for something that is a special case of one. -/
abbrev BlamesValue {α : Type} (outcome : Except Failure α) : Prop :=
  FailsOnly (·.kind.isA .invalidValue = true) outcome

theorem blamesValue_of {α : Type} (text : String) :
    BlamesValue (.error (.of .invalidValue text) : Except Failure α) :=
  FailsOnly.error_iff.2 (Kind.isA_self _)

/-! ## Documents -/

namespace Json

/-- Of the problems with a text, only nesting is not an invalid value. -/
theorem Problem.isA_invalidValue_failure_iff (text : List Char) (problem : Problem) :
    (problem.failure text).kind.isA .invalidValue = true ↔ ¬problem.IsNesting := by
  cases problem with
  | malformed complaint offset => exact iff_of_true rfl id
  | integerTooLong digits => exact iff_of_true rfl id
  | nestedTooDeep bracket => exact iff_of_false Bool.false_ne_true (not_not_intro trivial)

/-- A text is refused for nesting if it is nested too deep. -/
theorem isFlat_read?_iff (text : List Char) : IsFlat (read? text) ↔ ¬IsNestedTooDeep text := by
  rw [← exists_read?_eq_nestedTooDeep_iff]
  constructor
  · rintro hflat ⟨bracket, hread⟩
    exact hflat _ hread trivial
  · intro hnested problem hread hnesting
    cases problem with
    | nestedTooDeep bracket => exact hnested ⟨bracket, hread⟩
    | malformed complaint offset => exact hnesting
    | integerTooLong digits => exact hnesting

/-- All other refusals of a text blame its value. -/
theorem blamesValue_parse_iff (text : List Char) :
    BlamesValue (parse text) ↔ ¬IsNestedTooDeep text := by
  rw [← isFlat_read?_iff]
  refine FailsOnly.mapError_iff.trans ?_
  apply forall₂_congr
  intro problem _
  exact problem.isA_invalidValue_failure_iff text

end Json

namespace Settings

/-! ## Checks -/

/-- A check of seconds blames the value. -/
theorem blamesValue_checkSeconds (key : String) (value : Json.Value) :
    BlamesValue (checkSeconds key value) := by
  unfold checkSeconds
  split
  · split
    · exact blamesValue_of _
    · exact FailsOnly.ok _
  · split
    · exact blamesValue_of _
    · exact FailsOnly.ok _
  · exact blamesValue_of _

theorem blamesValue_checkNonzero (key : String) (seconds : Seconds Float) :
    BlamesValue (checkNonzero key seconds) := by
  unfold checkNonzero
  extract_lets isZero
  split
  · exact blamesValue_of _
  · exact FailsOnly.ok _

theorem blamesValue_checkLevel (key : String) (value : Json.Value) :
    BlamesValue (checkLevel key value) := by
  unfold checkLevel
  split
  · exact FailsOnly.ok _
  · exact blamesValue_of _

/-- Whatever the values are, the checks refuse them as invalid values. -/
theorem blamesValue_ofValues (timeout pause level : Json.Value) :
    BlamesValue (ofValues timeout pause level) := by
  refine FailsOnly.bind_iff.2 ⟨blamesValue_checkSeconds _ _, fun newWindowTimeout _ ↦ ?_⟩
  refine FailsOnly.bind_iff.2 ⟨blamesValue_checkSeconds _ _, fun pollFrequency _ ↦ ?_⟩
  refine FailsOnly.bind_iff.2 ⟨blamesValue_checkNonzero _ _, fun _ _ ↦ ?_⟩
  refine FailsOnly.bind_iff.2 ⟨blamesValue_checkLevel _ _, fun logLevel _ ↦ ?_⟩
  exact FailsOnly.ok _

/-- A document is refused for an invalid value, if at all, exactly if it is an object. -/
theorem blamesValue_ofValue_iff (value : Json.Value) :
    BlamesValue (ofValue value) ↔ ∃ members, value = .object members := by
  cases value with
  | object members => exact iff_of_true (blamesValue_ofValues _ _ _) ⟨members, rfl⟩
  | null | bool _ | int _ | float _ | text _ | array _ =>
    refine iff_of_false ?_ nofun
    intro hblames
    exact absurd (FailsOnly.error_iff.1 hblames) Bool.false_ne_true

/-! ## Files -/

/-- A text is refused for an invalid value, if at all, exactly if it is not nested too deep and the
document in it, if there is one, is an object. -/
theorem blamesValue_ofText_iff (text : List Char) :
    BlamesValue (ofText text) ↔
      ¬Json.IsNestedTooDeep (Text.unifyLineEndings text) ∧
        ∀ value, Json.parse (Text.unifyLineEndings text) = .ok value →
          ∃ members, value = .object members := by
  refine FailsOnly.bind_iff.trans ?_
  apply and_congr
  · exact Json.blamesValue_parse_iff _
  · exact forall₂_congr fun value _ ↦ blamesValue_ofValue_iff value

/-- A file is refused for an invalid value, if at all, exactly if it holds no text, or a text with
neither brackets nested too deep nor a document other than an object. -/
theorem blamesValue_load_iff (octets : List UInt8) :
    BlamesValue (load (.file octets)) ↔
      ∀ text, Text.Utf8.decode octets = .ok text →
        ¬Json.IsNestedTooDeep (Text.unifyLineEndings text) ∧
          ∀ value, Json.parse (Text.unifyLineEndings text) = .ok value →
            ∃ members, value = .object members := by
  unfold load ofOctets
  simp only [← blamesValue_ofText_iff]
  cases Text.Utf8.decode octets with
  | ok text =>
    constructor
    · rintro hblames _ ⟨⟩
      exact hblames
    · intro htext
      exact htext text rfl
  | error problem => exact iff_of_true (FailsOnly.error_iff.2 rfl) nofun

/-- A file that holds an empty list is refused for the lack of members, and one with a bracket more than
may be open for its nesting. -/
theorem not_blamesValue_load :
    ¬BlamesValue (load (.ofText "[]")) ∧
      ¬BlamesValue (load (.ofText (String.ofList (List.replicate (Json.nestingLimit + 1) '[')))) := by
  decide +kernel

end Settings

end BrowserControl
