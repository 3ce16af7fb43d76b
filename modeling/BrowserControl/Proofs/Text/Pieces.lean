import BrowserControl.Text.Split
import Mathlib.Data.List.Infix

/-!
# Pieces of Texts

What it means that a text occurs in another one, and which of the pieces between spaces the longest
one is: longer than every piece before it, and no shorter than any piece after it.
-/

namespace BrowserControl.Text

/-- A part occurs in a text if the text has it in one piece. -/
theorem occursIn_iff {part text : List Char} : occursIn part text = true ↔ part <:+: text := by
  induction text with
  | nil => rw [occursIn, List.isEmpty_iff, List.infix_nil]
  | cons character rest ih =>
    rw [occursIn, Bool.or_eq_true, ih, List.isPrefixOf_iff_prefix, List.infix_cons_iff]

/-- A character between separators is one of the text. -/
theorem mem_of_mem_splitWhere {isSeparator : Char → Bool} {text piece : List Char}
    {character : Char} (hpiece : piece ∈ splitWhere isSeparator text)
    (hcharacter : character ∈ piece) : character ∈ text := by
  induction text generalizing piece with
  | nil => simp_all [splitWhere]
  | cons head rest ih =>
    rw [splitWhere] at hpiece
    cases hpieces : splitWhere isSeparator rest with
    | nil => exact absurd hpieces (splitWhere_ne_nil _ rest)
    | cons first others =>
      rw [hpieces] at ih hpiece
      by_cases hseparator : isSeparator head = true
      · simp only [hseparator, if_true] at hpiece
        rcases List.mem_cons.1 hpiece with rfl | hpiece
        · simp at hcharacter
        · exact List.mem_cons_of_mem _ (ih hpiece hcharacter)
      · simp only [hseparator] at hpiece
        rcases List.mem_cons.1 hpiece with rfl | hpiece
        · rcases List.mem_cons.1 hcharacter with rfl | hcharacter
          · exact List.mem_cons_self
          · exact List.mem_cons_of_mem _ (ih List.mem_cons_self hcharacter)
        · exact List.mem_cons_of_mem _ (ih (List.mem_cons_of_mem _ hpiece) hcharacter)

/-! ## The longest piece -/

/-- A piece is the first of the longest among some pieces. -/
def IsFirstLongest (piece : List Char) (pieces : List (List Char)) : Prop :=
  ∃ before after, pieces = before ++ piece :: after ∧
    (∀ earlier ∈ before, earlier.length < piece.length) ∧
    ∀ later ∈ after, later.length ≤ piece.length

theorem IsFirstLongest.mem {piece : List Char} {pieces : List (List Char)}
    (hlongest : IsFirstLongest piece pieces) : piece ∈ pieces := by
  obtain ⟨before, after, rfl, -, -⟩ := hlongest
  exact List.mem_append_right before List.mem_cons_self

/-- Going through pieces with the longest one so far ends with that one, unless there is a longer
one among them. -/
theorem foldl_longer (pieces : List (List Char)) (longest : List Char) :
    let found := pieces.foldl
      (fun longest piece ↦ if longest.length < piece.length then piece else longest) longest
    found = longest ∧ (∀ piece ∈ pieces, piece.length ≤ longest.length) ∨
      longest.length < found.length ∧ IsFirstLongest found pieces := by
  induction pieces generalizing longest with
  | nil => simp
  | cons first rest ih =>
    rw [List.foldl_cons]
    by_cases hlonger : longest.length < first.length
    · rw [if_pos hlonger]
      refine .inr ?_
      rcases ih first with ⟨hfound, hshorter⟩ | ⟨hlength, before, after, hrest, hbefore, hafter⟩
      · rw [hfound]
        exact ⟨hlonger, [], rest, rfl, by simp, hshorter⟩
      · refine ⟨hlonger.trans hlength, first :: before, after, by rw [List.cons_append, ← hrest],
          ?_, hafter⟩
        simpa using ⟨hlength, hbefore⟩
    · rw [if_neg hlonger]
      have hfirst : first.length ≤ longest.length := Nat.le_of_not_lt hlonger
      rcases ih longest with ⟨hfound, hshorter⟩ | ⟨hlength, before, after, hrest, hbefore, hafter⟩
      · exact .inl ⟨hfound, by simpa using ⟨hfirst, hshorter⟩⟩
      · refine .inr ⟨hlength, first :: before, after, by rw [List.cons_append, ← hrest], ?_, hafter⟩
        simpa using ⟨hfirst.trans_lt hlength, hbefore⟩

/-- The longest piece is longer than those before it and no shorter than those after. -/
theorem isFirstLongest_longestPiece (text : List Char) :
    IsFirstLongest (longestPiece text) (splitAt ' ' text) := by
  rcases foldl_longer (splitAt ' ' text) [] with ⟨hfound, hshorter⟩ | ⟨-, hlongest⟩
  · cases hpieces : splitAt ' ' text with
    | nil => exact absurd hpieces (splitWhere_ne_nil _ text)
    | cons first rest =>
      rw [hpieces] at hshorter
      have hpiece : longestPiece text = [] := hfound
      have hfirst : first = [] := List.eq_nil_of_length_eq_zero
        (Nat.le_zero.1 (hshorter first List.mem_cons_self))
      rw [hpiece, hfirst]
      exact ⟨[], rest, rfl, by simp, fun later hlater ↦ hshorter later (List.mem_cons_of_mem _ hlater)⟩
  · exact hlongest

theorem mem_of_mem_longestPiece {text : List Char} {character : Char}
    (hcharacter : character ∈ longestPiece text) : character ∈ text :=
  mem_of_mem_splitWhere (isFirstLongest_longestPiece text).mem hcharacter

end BrowserControl.Text
