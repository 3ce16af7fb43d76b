import BrowserControl.Locating.Search
import BrowserControl.Proofs.Locating.Quiet
import Mathlib.Data.List.Perm.Basic
import Mathlib.Data.List.Perm.Lattice

/-!
# Descending Along Labels

Without faults, what a search comes to depends only on the plain locators in a locator, from left to
right, and not on how chains are nested, as long as none of them is empty.  Looking for all elements
goes down along their labels in every possible way (`gives_findElements`), and looking for one
goes down to the first element on every level (`finds_findElement`).

A search for all elements asks the questions of the descent in an order that does depend on the
nesting: a flat chain goes level by level, while a nested one finishes with one element before it turns
to the next.  A search for one element asks them in the same order.
-/

namespace BrowserControl

open Attempt
open scoped List

/-! ## Locators -/

def Label.locator (label : Label) : Locator :=
  .plain label.strategy label.value

namespace Locator

mutual

/-- The labels of the plain locators in a locator, from left to right. -/
def labels : Locator → List Label
  | plain strategy value => [⟨strategy, value⟩]
  | chain members => memberLabels members

def memberLabels : List Locator → List Label
  | [] => []
  | member :: rest => member.labels ++ memberLabels rest

end

mutual

/-- No chain in a locator is empty. -/
def IsSolid : Locator → Prop
  | plain _ _ => True
  | chain members => members ≠ [] ∧ AllSolid members

def AllSolid : List Locator → Prop
  | [] => True
  | member :: rest => member.IsSolid ∧ AllSolid rest

end

/-- The chain of the plain locators in a locator. -/
def flatten (locator : Locator) : Locator :=
  chain (locator.labels.map Label.locator)

theorem memberLabels_map_locator (labels : List Label) :
    memberLabels (labels.map Label.locator) = labels := by
  induction labels with
  | nil => rfl
  | cons label rest ih => rw [List.map_cons, memberLabels, ih]; rfl

theorem allSolid_map_locator (labels : List Label) : AllSolid (labels.map Label.locator) := by
  induction labels with
  | nil => trivial
  | cons label rest ih => exact ⟨trivial, ih⟩

/-- Flattening a locator keeps its labels. -/
@[simp]
theorem labels_flatten (locator : Locator) : locator.flatten.labels = locator.labels :=
  memberLabels_map_locator locator.labels

theorem labels_ne_nil {locator : Locator} (hsolid : locator.IsSolid) : locator.labels ≠ [] := by
  cases locator with
  | plain strategy value => exact List.cons_ne_nil _ _
  | chain members =>
    rw [IsSolid] at hsolid
    cases members with
    | nil => exact absurd rfl hsolid.1
    | cons first rest =>
      have hfirst := labels_ne_nil hsolid.2.1
      rw [labels, memberLabels]
      exact List.append_ne_nil_of_left_ne_nil hfirst _

/-- A chain without empty members has none after flattening. -/
theorem isSolid_flatten {locator : Locator} (hsolid : locator.IsSolid) :
    locator.flatten.IsSolid := by
  refine ⟨?_, allSolid_map_locator _⟩
  rw [Ne, List.map_eq_nil_iff]
  exact labels_ne_nil hsolid

end Locator

/-! ## Descents -/

namespace Element

/-- The elements that are reached by going down along labels, in every possible way. -/
def along : List Label → Element → List Element
  | [], element => [element]
  | label :: rest, element => (element.labelled label).flatMap (along rest)

/-- The questions that going down along labels in every possible way takes. -/
def questionsAlong : List Label → Element → List Question
  | [], _ => []
  | label :: rest, element =>
    .findElements element label :: (element.labelled label).flatMap (questionsAlong rest)

/-- The element that is reached by going down along labels to the first element each time. -/
def firstAlong : List Label → Element → Option Element
  | [], element => some element
  | label :: rest, element => (element.labelled label).head?.bind (firstAlong rest)

/-- The questions that going down along labels to the first element each time takes. -/
def firstQuestions : List Label → Element → List Question
  | [], _ => []
  | label :: rest, element =>
    .findElement element label :: (element.labelled label).head?.elim [] (firstQuestions rest)

variable (labels further : List Label) (element : Element)

theorem along_append :
    element.along (labels ++ further) = (element.along labels).flatMap (along further) := by
  induction labels generalizing element with
  | nil => simp [along]
  | cons label rest ih =>
    simp only [List.cons_append, along, List.flatMap_assoc, funext ih]

/-- The questions of a descent in two parts: those of the first part, and those of the second
from every element reached by the first. -/
theorem questionsAlong_append_perm :
    (element.questionsAlong (labels ++ further)).Perm
      (element.questionsAlong labels ++
        (element.along labels).flatMap (questionsAlong further)) := by
  induction labels generalizing element with
  | nil => simp [along, questionsAlong]
  | cons label rest ih =>
    simp only [List.cons_append, along, questionsAlong, List.flatMap_assoc]
    refine .cons _ ?_
    calc
      (element.labelled label).flatMap (questionsAlong (rest ++ further)) ~
          (element.labelled label).flatMap fun found ↦
            found.questionsAlong rest ++ (found.along rest).flatMap (questionsAlong further) :=
        List.Perm.flatMap_left _ fun found _ ↦ ih found
      _ ~ (element.labelled label).flatMap (questionsAlong rest) ++
            (element.labelled label).flatMap fun found ↦
              (found.along rest).flatMap (questionsAlong further) :=
        (List.flatMap_append_perm _ _ _).symm

/-- The first element is found by following first elements. -/
theorem firstAlong_append :
    element.firstAlong (labels ++ further) =
      (element.firstAlong labels).bind (firstAlong further) := by
  induction labels generalizing element with
  | nil => rfl
  | cons label rest ih =>
    simp only [List.cons_append, firstAlong]
    cases (element.labelled label).head? with
    | none => rfl
    | some found => exact ih found

theorem firstQuestions_append :
    element.firstQuestions (labels ++ further) =
      element.firstQuestions labels ++
        (element.firstAlong labels).elim [] (firstQuestions further) := by
  induction labels generalizing element with
  | nil => rfl
  | cons label rest ih =>
    simp only [List.cons_append, firstAlong, firstQuestions]
    cases (element.labelled label).head? with
    | none => rfl
    | some found => exact congrArg _ (ih found)

end Element

/-! ## Searches without faults -/

namespace Page

/-- Without faults, an attempt yields a value and asks some questions, in whatever order. -/
def Gives {α : Type} (value : α) (questions : List Question) (attempt : Attempt Page α) : Prop :=
  ∀ page : Page, page.IsQuiet →
    ∃ asked, attempt.perform page = (.ok value, page.asking asked) ∧ asked.Perm questions

/-- Without faults, an attempt finds an element or reports that there is none, and asks some
questions in this order. -/
def Finds (found : Option Element) (questions : List Question) (attempt : Attempt Page Element) :
    Prop :=
  ∀ page : Page, page.IsQuiet →
    ∃ outcome, attempt.perform page = (outcome, page.asking questions) ∧
      outcome.mapError Failure.kind = found.elim (.error .noSuchElement) .ok

section

variable {α β : Type} {value : α} {questions : List Question}

theorem Gives.of_perm {attempt : Attempt Page α} {others : List Question}
    (hattempt : Gives value questions attempt) (hperm : questions.Perm others) :
    Gives value others attempt := by
  intro page hquiet
  obtain ⟨asked, hperform, hasked⟩ := hattempt page hquiet
  exact ⟨asked, hperform, hasked.trans hperm⟩

theorem gives_pure (value : α) : Gives value [] (pure value) :=
  fun _ _ ↦ ⟨[], rfl, .nil⟩

theorem Gives.bind {value' : β} {questions' : List Question} {first : Attempt Page α}
    {next : α → Attempt Page β} (hfirst : Gives value questions first)
    (hnext : Gives value' questions' (next value)) :
    Gives value' (questions ++ questions') (first >>= next) := by
  intro page hquiet
  obtain ⟨asked, hperform, hasked⟩ := hfirst page hquiet
  obtain ⟨asked', hperform', hasked'⟩ := hnext _ (hquiet.asking asked)
  refine ⟨asked ++ asked', ?_, hasked.append hasked'⟩
  rw [perform_bind, hperform]
  simp only [hperform', asking_asking]

/-- Asking for all entries asks for each of them. -/
theorem gives_mapM {results : α → β} {questions : α → List Question}
    {attempt : α → Attempt Page β} (entries : List α)
    (hattempt : ∀ entry ∈ entries, Gives (results entry) (questions entry) (attempt entry)) :
    Gives (entries.map results) (entries.flatMap questions) (entries.mapM attempt) := by
  induction entries with
  | nil =>
    rw [List.mapM_nil]
    exact gives_pure []
  | cons entry rest ih =>
    have hrest := ih fun other hother ↦ hattempt other (List.mem_cons_of_mem entry hother)
    rw [List.mapM_cons, List.map_cons, List.flatMap_cons]
    refine (hattempt entry List.mem_cons_self).bind ?_
    exact Gives.of_perm (hrest.bind (gives_pure _)) (by simp)

/-- The next search begins at the element that the one before has found, if it has. -/
theorem Finds.bind {found : Option Element} {results : Element → Option Element}
    {furtherQuestions : Element → List Question} {first : Attempt Page Element}
    {next : Element → Attempt Page Element} (hfirst : Finds found questions first)
    (hnext : ∀ element, Finds (results element) (furtherQuestions element) (next element)) :
    Finds (found.bind results) (questions ++ found.elim [] furtherQuestions) (first >>= next) := by
  intro page hquiet
  obtain ⟨outcome, hperform, houtcome⟩ := hfirst page hquiet
  rw [perform_bind, hperform]
  cases outcome with
  | error failure =>
    cases found with
    | none => exact ⟨.error failure, by simp, houtcome⟩
    | some element => cases houtcome
  | ok element =>
    cases found with
    | none => cases houtcome
    | some other =>
      cases houtcome
      obtain ⟨outcome', hperform', houtcome'⟩ := hnext element _ (hquiet.asking questions)
      refine ⟨outcome', ?_, houtcome'⟩
      simp only [hperform', asking_asking]
      rfl

/-- That there is no such element may be reported in other words. -/
theorem Finds.recover {found : Option Element} {attempt : Attempt Page Element}
    {report : Failure → Failure} (hattempt : Finds found questions attempt)
    (hreport : ∀ failure, (report failure).kind = .noSuchElement) :
    Finds found questions
      (Attempt.recover attempt .noSuchElement fun failure ↦ throw (report failure)) := by
  intro page hquiet
  obtain ⟨outcome, hperform, houtcome⟩ := hattempt page hquiet
  rw [perform_recover, hperform]
  cases outcome with
  | ok element => exact ⟨.ok element, rfl, houtcome⟩
  | error failure =>
    cases found with
    | some element => cases houtcome
    | none =>
      have hkind : failure.kind = .noSuchElement := Except.error.inj houtcome
      refine ⟨.error (report failure), ?_, ?_⟩
      · simp [hkind]
      · exact congrArg Except.error (hreport failure)

theorem observe_eq {attempt : Attempt Page α} {page : Page} {outcome : Except Failure α}
    (hperform : attempt.perform { page with asked := [] } =
      (outcome, Page.asking questions { page with asked := [] })) :
    (observe attempt page).1 = outcome ∧ (observe attempt page).2.1 = questions := by
  unfold observe
  rw [hperform]
  simp [asking]

end

end Page

namespace Locator

open Element

mutual

/-- Looking for all elements goes down along the labels in every possible way. -/
theorem gives_findElements (locator : Locator) (hsolid : locator.IsSolid) (element : Element) :
    Page.Gives (element.along locator.labels) (element.questionsAlong locator.labels)
      (locator.findElements element) := by
  cases locator with
  | plain strategy value =>
    intro page hquiet
    refine ⟨[.findElements element ⟨strategy, value⟩], ?_, ?_⟩
    · rw [findElements, perform_findElements_of_quiet hquiet]
      simp [labels, along]
    · simp [labels, questionsAlong]
  | chain members =>
    rw [IsSolid] at hsolid
    cases members with
    | nil => exact absurd rfl hsolid.1
    | cons first rest =>
      have hfirst := gives_findElements first hsolid.2.1 element
      have hrest := gives_followElements rest hsolid.2.2 (element.along first.labels)
      rw [findElements, labels, memberLabels, along_append]
      exact (hfirst.bind hrest).of_perm (questionsAlong_append_perm _ _ element).symm

/-- A chain gives all elements that its labels lead to. -/
theorem gives_followElements (members : List Locator) (hsolid : AllSolid members)
    (elements : List Element) :
    Page.Gives (elements.flatMap (along (memberLabels members)))
      (elements.flatMap (questionsAlong (memberLabels members)))
      (followElements members elements) := by
  cases members with
  | nil =>
    rw [followElements]
    have halong : elements.flatMap (along (memberLabels [])) = elements := by
      simp [memberLabels, along]
    have hquestions : elements.flatMap (questionsAlong (memberLabels [])) = [] := by
      simp [memberLabels, questionsAlong]
    rw [halong, hquestions]
    exact Page.gives_pure elements
  | cons member rest =>
    by_cases hnone : elements = []
    · subst hnone
      rw [followElements]
      · exact Page.gives_pure []
      · simp
    · have hmember := Page.gives_mapM elements fun entry _ ↦
        gives_findElements member hsolid.1 entry
      have hrest := gives_followElements rest hsolid.2 (elements.map (along member.labels)).flatten
      have hlabels : along (memberLabels (member :: rest)) =
          fun entry ↦ (entry.along member.labels).flatMap (along (memberLabels rest)) := by
        funext entry
        rw [memberLabels, along_append]
      have hquestions : (elements.flatMap (questionsAlong (memberLabels (member :: rest)))).Perm
          (elements.flatMap (questionsAlong member.labels) ++
            (elements.flatMap (along member.labels)).flatMap
              (questionsAlong (memberLabels rest))) := by
        rw [List.flatMap_assoc]
        refine .trans (.flatMap_left _ fun entry _ ↦ ?_) (List.flatMap_append_perm _ _ _).symm
        rw [memberLabels]
        exact questionsAlong_append_perm _ _ entry
      rw [followElements, hlabels, ← List.flatMap_assoc]
      · exact Page.Gives.of_perm (hmember.bind hrest) hquestions.symm
      · exact hnone

end

mutual

/-- Looking for one element goes down along the labels to the first element each time. -/
theorem finds_findElement (locator : Locator) (hsolid : locator.IsSolid) (element : Element) :
    Page.Finds (element.firstAlong locator.labels) (element.firstQuestions locator.labels)
      (locator.findElement element) := by
  cases locator with
  | plain strategy value =>
    intro page hquiet
    rw [findElement, perform_findElement_of_quiet hquiet]
    refine ⟨_, Prod.ext rfl ?_, ?_⟩
    · cases hfound : element.labelled ⟨strategy, value⟩ <;> simp [labels, firstQuestions, hfound]
    · cases hfound : element.labelled ⟨strategy, value⟩ <;> simp [labels, firstAlong, hfound] <;> rfl
  | chain members =>
    rw [IsSolid] at hsolid
    cases members with
    | nil => exact absurd rfl hsolid.1
    | cons first rest =>
      rw [findElement, labels, memberLabels, firstAlong_append, firstQuestions_append]
      exact (finds_findElement first hsolid.2.1 element).bind
        (finds_followElement _ rest hsolid.2.2)

/-- A chain finds the first element that its labels lead to by way of first elements. -/
theorem finds_followElement (whole : Locator) (members : List Locator) (hsolid : AllSolid members)
    (element : Element) :
    Page.Finds (element.firstAlong (memberLabels members))
      (element.firstQuestions (memberLabels members)) (followElement whole members element) := by
  cases members with
  | nil =>
    intro page _
    exact ⟨.ok element, rfl, rfl⟩
  | cons member rest =>
    rw [followElement, memberLabels, firstAlong_append, firstQuestions_append]
    have hmember := (finds_findElement member hsolid.1 element).recover fun failure ↦
      Failure.kind_reportedAs failure .noSuchElement
        ("Cannot locate an element using " ++ whole.describe)
    exact hmember.bind (finds_followElement whole rest hsolid.2)

end

/-! ## Nested chains -/

/-- From an element, two locators find the same elements the same number of times in the same order,
with the same questions in some order; and they find the same single element or report that there is
none, with the same questions in the same order. -/
structure SearchAlike (left right : Locator) (element : Element) (page : Page) : Prop where
  exists_findElements_eq : ∃ found,
    (Page.observe (left.findElements element) page).1 = .ok found ∧
      (Page.observe (right.findElements element) page).1 = .ok found
  findElements_perm :
    (Page.observe (left.findElements element) page).2.1.Perm
      (Page.observe (right.findElements element) page).2.1
  findElement_eq_ok_iff : ∀ found,
    (Page.observe (left.findElement element) page).1 = .ok found ↔
      (Page.observe (right.findElement element) page).1 = .ok found
  findElement_eq_error_iff :
    (∃ failure, (Page.observe (left.findElement element) page).1 = .error failure ∧
        failure.kind = .noSuchElement) ↔
      ∃ failure, (Page.observe (right.findElement element) page).1 = .error failure ∧
        failure.kind = .noSuchElement
  findElement_questions_eq :
    (Page.observe (left.findElement element) page).2.1 =
      (Page.observe (right.findElement element) page).2.1

theorem mapError_eq_ok_iff {α ε ε' : Type} {change : ε → ε'} {outcome : Except ε α} {value : α} :
    outcome.mapError change = .ok value ↔ outcome = .ok value := by
  cases outcome <;> simp [Except.mapError]

theorem mapError_eq_error_iff {α ε ε' : Type} {change : ε → ε'} {outcome : Except ε α}
    {changed : ε'} :
    outcome.mapError change = .error changed ↔
      ∃ failure, outcome = .error failure ∧ change failure = changed := by
  cases outcome <;> simp [Except.mapError]

/-- Locators without empty chains that have the same labels search alike. -/
theorem searchAlike_of_labels_eq {left right : Locator} {page : Page} (hquiet : page.IsQuiet)
    (hleft : left.IsSolid) (hright : right.IsSolid) (hlabels : left.labels = right.labels)
    (element : Element) : SearchAlike left right element page := by
  have hblank : Page.IsQuiet { page with asked := [] } := hquiet
  obtain ⟨asked, hgives, hasked⟩ := gives_findElements left hleft element _ hblank
  obtain ⟨asked', hgives', hasked'⟩ := gives_findElements right hright element _ hblank
  obtain ⟨outcome, hfinds, houtcome⟩ := finds_findElement left hleft element _ hblank
  obtain ⟨outcome', hfinds', houtcome'⟩ := finds_findElement right hright element _ hblank
  obtain ⟨hall, hallAsked⟩ := Page.observe_eq hgives
  obtain ⟨hall', hallAsked'⟩ := Page.observe_eq hgives'
  obtain ⟨hone, honeAsked⟩ := Page.observe_eq hfinds
  obtain ⟨hone', honeAsked'⟩ := Page.observe_eq hfinds'
  have hkinds : outcome.mapError Failure.kind = outcome'.mapError Failure.kind := by
    rw [houtcome, houtcome', hlabels]
  refine ⟨⟨_, hall, ?_⟩, ?_, fun found ↦ ?_, ?_, ?_⟩
  · rw [hall', hlabels]
  · rw [hallAsked, hallAsked']
    rw [hlabels] at hasked
    exact hasked.trans hasked'.symm
  · rw [hone, hone', ← mapError_eq_ok_iff, hkinds, mapError_eq_ok_iff]
  · rw [hone, hone', ← mapError_eq_error_iff, hkinds, mapError_eq_error_iff]
  · rw [honeAsked, honeAsked', hlabels]

/-- Nesting chains in a chain makes no difference to what is found. -/
theorem searchAlike_flatten {page : Page} (hquiet : page.IsQuiet) {members : List Locator}
    (hsolid : AllSolid members) (element : Element) :
    SearchAlike (chain members) (chain members).flatten element page := by
  by_cases hempty : members = []
  · -- An empty chain is the chain of its plain locators.
    subst hempty
    exact ⟨⟨[], rfl, rfl⟩, .refl _, fun _ ↦ Iff.rfl, Iff.rfl, rfl⟩
  · have hchain : (chain members).IsSolid := ⟨hempty, hsolid⟩
    exact searchAlike_of_labels_eq hquiet hchain (isSolid_flatten hchain)
      (labels_flatten (chain members)).symm element

end Locator

/-- A list with an item in it that holds a list of its own. -/
def outline : Node :=
  let node (name tag : String) (children : List Node) : Node :=
    .mk name [⟨"tag name", tag⟩] true .quiet children
  node "page" "body"
    [node "outer" "ul" [node "first" "li" [node "inner" "ul" [node "second" "li" []]]]]

theorem isFaultless_outline : outline.IsFaultless := by
  simp [outline, Node.IsFaultless, Node.AllFaultless]

/-- Items in lists in items in lists, looked for by a chain in a chain in a chain. -/
def innerItems : Locator :=
  .chain [.plain "tag name" "ul",
    .chain [.plain "tag name" "li", .chain [.plain "tag name" "ul"]], .plain "tag name" "li"]

theorem searchAlike_innerItems :
    innerItems.flatten =
        .chain [.plain "tag name" "ul", .plain "tag name" "li", .plain "tag name" "ul",
          .plain "tag name" "li"] ∧
      Locator.SearchAlike innerItems innerItems.flatten ⟨[], outline⟩ (Page.fresh outline) ∧
      (Page.observe (innerItems.findElements ⟨[], outline⟩) (Page.fresh outline)).1.map
        (List.map fun element ↦ element.node.name) = .ok ["second"] := by
  refine ⟨rfl, Locator.searchAlike_flatten (Page.isQuiet_fresh isFaultless_outline) ?_ _, rfl⟩
  simp [Locator.AllSolid, Locator.IsSolid]

end BrowserControl
