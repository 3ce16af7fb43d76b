import BrowserControl.Locating.Comparison
import BrowserControl.Proofs.Duplicates
import BrowserControl.Proofs.Text.Unquoting

/-!
# Telling Locators Apart

The source text of a locator says everything about it: since every text in it is quoted, the place
where a member of a chain ends can be told without knowing what comes after it
(`Locator.sourceCharacters_append_inj`).  So two locators are equal exactly if they have the same
source text, and whatever is found by comparing locators can be found by comparing these texts
(`Locator.compare_eq`).
-/

namespace BrowserControl

namespace Locator

/-! ## Source texts -/

theorem sourceCharacters_plain (strategy value : String) :
    sourceCharacters (plain strategy value) =
      "Locator(by=".toList ++ Text.quotedCharacters (Text.CodePoint.ofString strategy) ++
        ", value=".toList ++ Text.quotedCharacters (Text.CodePoint.ofString value) ++ [')'] :=
  rfl

theorem sourceCharacters_chain (members : List Locator) :
    sourceCharacters (chain members) = "ChainedLocator(".toList ++ sourceMembers members ++ [')'] :=
  rfl

/-- The first character of a source text tells plain locators and chains apart. -/
theorem head?_sourceCharacters_append (locator : Locator) (rest : List Char) :
    (sourceCharacters locator ++ rest).head? =
      match locator with
      | plain _ _ => some 'L'
      | chain _ => some 'C' := by
  have hplain : "Locator(by=".toList = 'L' :: "ocator(by=".toList := by decide
  have hchain : "ChainedLocator(".toList = 'C' :: "hainedLocator(".toList := by decide
  cases locator with
  | plain strategy value => simp only [sourceCharacters_plain, hplain, List.cons_append, List.head?]
  | chain members => simp only [sourceCharacters_chain, hchain, List.cons_append, List.head?]

def sourceAfter : List Locator → List Char
  | [] => []
  | member :: rest => ", ".toList ++ sourceMembers (member :: rest)

theorem sourceMembers_cons (member : Locator) (rest : List Locator) :
    sourceMembers (member :: rest) = sourceCharacters member ++ sourceAfter rest := by
  cases rest with
  | nil => rw [sourceMembers, sourceAfter, List.append_nil]
  | cons next others => rw [sourceMembers, sourceAfter, List.append_assoc]

/-- A source text does not begin with a bracket. -/
theorem sourceCharacters_append_ne (locator : Locator) (rest rest' : List Char) :
    sourceCharacters locator ++ rest ≠ ')' :: rest' := by
  intro hsame
  have hhead := head?_sourceCharacters_append locator rest
  rw [hsame] at hhead
  cases locator <;> simp at hhead

/-- It makes no difference whether the members of a chain are the first ones. -/
theorem sourceAfter_append_eq {left right : List Locator} {rest rest' : List Char}
    (hsame : sourceMembers left ++ ')' :: rest = sourceMembers right ++ ')' :: rest') :
    sourceAfter left ++ ')' :: rest = sourceAfter right ++ ')' :: rest' := by
  cases left with
  | nil =>
    cases right with
    | nil => exact hsame
    | cons member' others' =>
      rw [sourceMembers_cons, List.append_assoc] at hsame
      exact absurd hsame.symm (sourceCharacters_append_ne member' _ rest)
  | cons member others =>
    cases right with
    | nil =>
      rw [sourceMembers_cons, List.append_assoc] at hsame
      exact absurd hsame (sourceCharacters_append_ne member _ rest')
    | cons member' others' =>
      rw [sourceAfter, sourceAfter, List.append_assoc, List.append_assoc, hsame]

mutual

/-- Where the source text of a locator ends can be told without knowing what comes after it. -/
theorem sourceCharacters_append_inj (left right : Locator) {rest rest' : List Char}
    (hsame : sourceCharacters left ++ rest = sourceCharacters right ++ rest') :
    left = right ∧ rest = rest' := by
  have hhead := congrArg List.head? hsame
  rw [head?_sourceCharacters_append, head?_sourceCharacters_append] at hhead
  cases left with
  | plain strategy value =>
    cases right with
    | chain members' => simp at hhead
    | plain strategy' value' =>
      simp only [sourceCharacters_plain, List.append_assoc] at hsame
      obtain ⟨hstrategy, hsame⟩ := Text.quotedCharacters_append_inj (List.append_cancel_left hsame)
      obtain ⟨hvalue, hsame⟩ := Text.quotedCharacters_append_inj (List.append_cancel_left hsame)
      refine ⟨?_, List.append_cancel_left hsame⟩
      rw [Text.CodePoint.ofString_injective _ _ hstrategy,
        Text.CodePoint.ofString_injective _ _ hvalue]
  | chain members =>
    cases right with
    | plain strategy' value' => simp at hhead
    | chain members' =>
      simp only [sourceCharacters_chain, List.append_assoc] at hsame
      -- The first members follow the bracket without a comma; with one, they are like all others.
      obtain ⟨hmembers, hrest⟩ := sourceAfter_append_inj members members'
        (sourceAfter_append_eq (List.append_cancel_left hsame))
      exact ⟨congrArg chain hmembers, hrest⟩

/-- After a member of a chain comes either a comma or the bracket that ends the chain. -/
theorem sourceAfter_append_inj (left right : List Locator) {rest rest' : List Char}
    (hsame : sourceAfter left ++ ')' :: rest = sourceAfter right ++ ')' :: rest') :
    left = right ∧ rest = rest' := by
  have hcomma : ", ".toList = [',', ' '] := by decide
  cases left with
  | nil =>
    cases right with
    | nil => exact ⟨rfl, (List.cons.inj hsame).2⟩
    | cons member' others' => simp [sourceAfter, hcomma] at hsame
  | cons member others =>
    cases right with
    | nil => simp [sourceAfter, hcomma] at hsame
    | cons member' others' =>
      rw [sourceAfter, sourceAfter, List.append_assoc, List.append_assoc] at hsame
      have hmembers := List.append_cancel_left hsame
      rw [sourceMembers_cons, sourceMembers_cons, List.append_assoc, List.append_assoc] at hmembers
      obtain ⟨rfl, hafter⟩ := sourceCharacters_append_inj member member' hmembers
      obtain ⟨rfl, hrest⟩ := sourceAfter_append_inj others others' hafter
      exact ⟨rfl, hrest⟩

end

/-- Locators are equal exactly if they have the same source text. -/
theorem sourceText_inj {left right : Locator} :
    left.sourceText = right.sourceText ↔ left = right := by
  constructor
  · intro hsame
    have hcharacters : sourceCharacters left ++ [] = sourceCharacters right ++ [] := by
      rw [String.ofList_injective hsame]
    exact (sourceCharacters_append_inj left right hcharacters).1
  · rintro rfl
    rfl

/-! ## Comparisons -/

/-- The first equal locator is the first with the same source text. -/
theorem firstEqual_eq (locators : List Locator) (locator : Locator) :
    firstEqual locators locator = (locators.map sourceText).findIdx (· = locator.sourceText) := by
  unfold firstEqual
  rw [List.findIdx_map]
  congr 1
  funext other
  rw [Function.comp_apply, Bool.eq_iff_iff, beq_iff_eq, decide_eq_true_iff, sourceText_inj]

/-- The first locator of a list that equals one of it is that one. -/
theorem getD_firstEqual {locators : List Locator} {locator : Locator}
    (hlocator : locator ∈ locators) (absent : Locator) :
    locators.getD (firstEqual locators locator) absent = locator := by
  have hlength : firstEqual locators locator < locators.length :=
    List.findIdx_lt_length_of_exists ⟨locator, hlocator, beq_self_eq_true locator⟩
  have hequal : (locators[firstEqual locators locator] == locator) = true := by
    unfold firstEqual at hlength ⊢
    exact List.findIdx_getElem (w := hlength)
  rw [List.getD_eq_getElem?_getD, List.getElem?_eq_getElem hlength, Option.getD_some]
  exact eq_of_beq hequal

/-- There are as many different locators as different source texts. -/
theorem length_eraseDups_eq_card_sourceText (locators : List Locator) :
    locators.eraseDups.length = (locators.map sourceText).toFinset.card := by
  have himage : (locators.map sourceText).toFinset = locators.toFinset.image sourceText := by
    ext text
    simp
  rw [himage, Finset.card_image_of_injective _ fun _ _ ↦ sourceText_inj.1,
    length_eraseDups_eq_card]

/-- A comparison finds what a comparison of the source texts would find. -/
theorem compare_eq (locators : List Locator) :
    compare locators = {
      classes := locators.map fun locator ↦
        (locators.map sourceText).findIdx (· = locator.sourceText)
      distinct := (locators.map sourceText).toFinset.card
      hashesAgree := true
      inequalityNegates := true } := by
  unfold compare
  congr 1
  · exact List.map_congr_left fun locator _ ↦ firstEqual_eq locators locator
  · exact length_eraseDups_eq_card_sourceText locators
  · rw [List.all_eq_true]
    intro locator hlocator
    rw [getD_firstEqual hlocator, beq_self_eq_true]
  · simp [bne]

mutual

/-- The way in which chains are nested in a locator, without its texts. -/
def shape : Locator → Locator
  | plain _ _ => plain "" ""
  | chain members => chain (memberShapes members)

def memberShapes : List Locator → List Locator
  | [] => []
  | member :: rest => member.shape :: memberShapes rest

end

/-- Locators are values that a text tells apart.  They are equal exactly if they have the same text;
equal ones have equal hashes and the same shape, so that a chain equals neither a plain locator nor a
chain of another shape; and a comparison of several locators is a comparison of their texts, with as
many different locators as texts. -/
structure IsFaithful (text : Locator → String) : Prop where
  beq_iff : ∀ left right : Locator, (left == right) = true ↔ text left = text right
  hash_eq : ∀ left right : Locator, (left == right) = true → hash left = hash right
  equivalence : Equivalence fun left right : Locator ↦ (left == right) = true
  beq_of_shape_ne : ∀ left right : Locator, left.shape ≠ right.shape → (left == right) = false
  compare_eq : ∀ locators, compare locators = {
    classes := locators.map fun locator ↦ (locators.map text).findIdx (· = text locator)
    distinct := (locators.map text).toFinset.card
    hashesAgree := true
    inequalityNegates := true }

theorem isFaithful_sourceText : IsFaithful sourceText where
  beq_iff left right := by rw [beq_iff_eq, sourceText_inj]
  hash_eq left right hequal := by rw [eq_of_beq hequal]
  equivalence :=
    ⟨fun locator ↦ beq_self_eq_true locator, fun hequal ↦ by rwa [BEq.comm],
      fun hequal hequal' ↦ by rwa [eq_of_beq hequal]⟩
  beq_of_shape_ne left right hshape := by
    rw [beq_eq_false_iff_ne]
    rintro rfl
    exact hshape rfl
  compare_eq := compare_eq

/-- The description for readers is not faithful. -/
example : ¬IsFaithful describe := fun hfaithful ↦
  absurd ((hfaithful.beq_iff (plain "id" "menu") (plain "ID" "menu")).2 (by decide)) (by decide)

end Locator

end BrowserControl
