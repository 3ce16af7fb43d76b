import BrowserControl.Proofs.Locating.Descent

/-!
# Looking for One and Looking for All

A search for one element goes on from a single element on every level, and a search for all from
every element found so far.  Without faults they agree nevertheless: what the first finds is the
first of what the second finds (`head?_findElements`).  This holds of every locator, also where
chains in it are empty and nothing is found, and it is kept from one member of a chain to the next.

The converse does not hold, since a search for one element does not go back: it finds nothing if the
first element on some level leads nowhere, whatever the others lead to.
-/

namespace BrowserControl

open Attempt

namespace Page

section

variable {questions further : List Question} {first : Attempt Page Element}
  {next : Element → Attempt Page Element}

/-- Where there is no element to go on from, nothing else is asked. -/
theorem Finds.bind_of_none (hfirst : Finds none questions first) :
    Finds none questions (first >>= next) := by
  intro page hquiet
  obtain ⟨outcome, hperform, houtcome⟩ := hfirst page hquiet
  rw [perform_bind, hperform]
  cases outcome with
  | error failure => exact ⟨.error failure, rfl, houtcome⟩
  | ok element => cases houtcome

theorem Finds.bind_of_some {found : Element} {last : Option Element}
    (hfirst : Finds (some found) questions first) (hnext : Finds last further (next found)) :
    Finds last (questions ++ further) (first >>= next) := by
  intro page hquiet
  obtain ⟨outcome, hperform, houtcome⟩ := hfirst page hquiet
  rw [perform_bind, hperform]
  cases outcome with
  | error failure => cases houtcome
  | ok element =>
    cases houtcome
    obtain ⟨outcome', hperform', houtcome'⟩ := hnext _ (hquiet.asking questions)
    refine ⟨outcome', ?_, houtcome'⟩
    simp only [hperform', asking_asking]

end

/-- Without faults, a search finds no other element than the first one of a list. -/
def FindsFirst (found : List Element) (search : Attempt Page Element) : Prop :=
  ∃ first questions, Finds first questions search ∧
    ∀ element, first = some element → found.head? = some element

end Page

namespace Locator

open Page

mutual

/-- A search for one element finds the first one of those that a search for all gives. -/
theorem exists_findsFirst (locator : Locator) (element : Element) :
    ∃ found questions, Gives found questions (locator.findElements element) ∧
      FindsFirst found (locator.findElement element) := by
  cases locator with
  | plain strategy value =>
    have hsolid : (plain strategy value).IsSolid := trivial
    have hone := finds_findElement (plain strategy value) hsolid element
    refine ⟨_, _, gives_findElements (plain strategy value) hsolid element, _, _, hone, ?_⟩
    intro first hfirst
    cases hfound : element.labelled ⟨strategy, value⟩ with
    | nil => simp [labels, Element.firstAlong, hfound] at hfirst
    | cons other rest => simpa [labels, Element.firstAlong, Element.along, hfound] using hfirst
  | chain members =>
    cases members with
    | nil =>
      rw [findElements, findElement]
      refine ⟨[], [], gives_pure [], none, [], ?_, nofun⟩
      exact fun page _ ↦ ⟨_, perform_throw _ page, rfl⟩
    | cons member rest =>
      obtain ⟨found, questions, hall, first, asked, hone, hhead⟩ := exists_findsFirst member element
      obtain ⟨found', questions', hall', hfollow⟩ := exists_findsFirst_follow rest found
      rw [findElements, findElement]
      refine ⟨found', questions ++ questions', hall.bind hall', ?_⟩
      cases first with
      | none => exact ⟨none, asked, hone.bind_of_none, nofun⟩
      | some first =>
        obtain ⟨last, asked', hlast, hhead'⟩ :=
          hfollow (chain (member :: rest)) first (hhead first rfl)
        exact ⟨last, asked ++ asked', hone.bind_of_some hlast, hhead'⟩

/-- Following a chain from the first of some elements finds the first one of those that following it
from all of them gives. -/
theorem exists_findsFirst_follow (members : List Locator) (elements : List Element) :
    ∃ found questions, Gives found questions (followElements members elements) ∧
      ∀ whole element, elements.head? = some element →
        FindsFirst found (followElement whole members element) := by
  cases members with
  | nil =>
    rw [followElements]
    refine ⟨elements, [], gives_pure elements, fun whole element hhead ↦ ?_⟩
    rw [followElement]
    refine ⟨some element, [], fun page _ ↦ ⟨.ok element, rfl, rfl⟩, ?_⟩
    rintro _ ⟨⟩
    exact hhead
  | cons member rest =>
    by_cases hnone : elements = []
    · subst hnone
      rw [followElements]
      · exact ⟨[], [], gives_pure [], nofun⟩
      · simp
    choose results questions hall hone using fun entry ↦ exists_findsFirst member entry
    obtain ⟨found, questions', hall', hfollow⟩ :=
      exists_findsFirst_follow rest (elements.map results).flatten
    have hmember := gives_mapM elements fun entry _ ↦ hall entry
    rw [followElements]
    · refine ⟨found, _, hmember.bind hall', fun whole element hhead ↦ ?_⟩
      obtain ⟨first, asked, hfirst, hfirstHead⟩ := hone element
      have hrecover := hfirst.recover fun failure ↦
        Failure.kind_reportedAs failure .noSuchElement
          ("Cannot locate an element using " ++ whole.describe)
      rw [followElement]
      cases first with
      | none => exact ⟨none, asked, hrecover.bind_of_none, nofun⟩
      | some first =>
        obtain ⟨tail, rfl⟩ := List.head?_eq_some_iff.1 hhead
        have hflatten : ((element :: tail).map results).flatten.head? = some first := by
          rw [List.map_cons, List.flatten_cons, List.head?_append, hfirstHead first rfl]
          rfl
        obtain ⟨last, asked', hlast, hlastHead⟩ := hfollow whole first hflatten
        exact ⟨last, asked ++ asked', hrecover.bind_of_some hlast, hlastHead⟩
    · exact hnone

end

/-- Without faults a search for all elements gives a list, and if a search for one finds an element,
it is the first one of that list.  So if the list is empty, the search for one reports that there is
no such element. -/
theorem head?_findElements (locator : Locator) (element : Element) {page page' : Page}
    (hquiet : page.IsQuiet) (hquiet' : page'.IsQuiet) :
    ∃ found, (Page.observe (locator.findElements element) page).1 = .ok found ∧
      (∀ first, (Page.observe (locator.findElement element) page').1 = .ok first →
        found.head? = some first) ∧
      (found = [] → ∃ failure,
        (Page.observe (locator.findElement element) page').1 = .error failure ∧
          failure.kind = .noSuchElement) := by
  obtain ⟨found, questions, hall, first, asked, hone, hhead⟩ := exists_findsFirst locator element
  have hblank : IsQuiet { page with asked := [] } := hquiet
  have hblank' : IsQuiet { page' with asked := [] } := hquiet'
  obtain ⟨_, hgives, -⟩ := hall _ hblank
  obtain ⟨outcome, hfinds, houtcome⟩ := hone _ hblank'
  rw [(observe_eq hgives).1, (observe_eq hfinds).1]
  refine ⟨found, rfl, fun other hother ↦ ?_, fun hnone ↦ ?_⟩
  · subst hother
    cases first with
    | none => cases houtcome
    | some first =>
      cases houtcome
      exact hhead other rfl
  · cases first with
    | none => exact mapError_eq_error_iff.1 houtcome
    | some first =>
      rw [hnone] at hhead
      cases hhead first rfl

/-- Lists with an item in them, of which one is inside the other. -/
theorem head?_findElements_items :
    let root : Element := ⟨[], outline⟩
    let items : Locator := .chain [.plain "tag name" "ul", .plain "tag name" "li"]
    let nothing : Locator := .chain [.plain "tag name" "ul", .chain []]
    (∃ found first, (Page.observe (items.findElements root) (Page.fresh outline)).1 = .ok found ∧
        found.map (fun element ↦ element.node.name) = ["first", "second", "second"] ∧
        (Page.observe (items.findElement root) (Page.fresh outline)).1 = .ok first ∧
        found.head? = some first) ∧
      (Page.observe (nothing.findElements root) (Page.fresh outline)).1 = .ok [] ∧
      ∃ failure, (Page.observe (nothing.findElement root) (Page.fresh outline)).1 = .error failure ∧
        failure.kind = .noSuchElement := by
  intro root items nothing
  have hquiet : (Page.fresh outline).IsQuiet := Page.isQuiet_fresh isFaultless_outline
  constructor
  · obtain ⟨found, hfound, hhead, -⟩ := head?_findElements items root hquiet hquiet
    have hone : (Page.observe (items.findElement root) (Page.fresh outline)).1 = .ok _ := rfl
    refine ⟨found, _, hfound, ?_, hone, hhead _ hone⟩
    cases hfound
    rfl
  · obtain ⟨found, hfound, -, hnone⟩ := head?_findElements nothing root hquiet hquiet
    cases hfound
    exact ⟨rfl, hnone rfl⟩

end Locator

end BrowserControl
