import BrowserControl.Locating.Retriever
import BrowserControl.Proofs.Locating.Interruption

/-!
# Stacks of Displayed Retrievers

A displayed retriever adds one question to a look-up, and puts it to the element that has been found.  A
stack of them searches once, from the innermost starting point, and then puts this question once for
every layer, as long as the answers let the element through.  An element that is not displayed does
not come past the first layer, and a fault that strikes at a question comes out of all the layers
around it as it is.  A search that fails does not get as far as any of them.

So a stack differs from the search in nothing but the questions at the end and what these come to
(`Retriever.vets_layered`).  That holds of every schedule of faults, since each layer only goes on
from what the layers inside it have left behind (`Retriever.perform_displayed_of_ok`).
-/

namespace BrowserControl

open Attempt

/-! ## What a search asks -/

/-- Between two states of a page elements were looked for, and none was asked whether it is
displayed. -/
def Page.OnlySearched (page later : Page) : Prop :=
  ∃ questions, later = page.putting questions ∧ ∀ element, .isDisplayed element ∉ questions

namespace Page

theorem composes_onlySearched : Composes OnlySearched where
  refl page := ⟨[], rfl, fun _ ↦ List.not_mem_nil⟩
  trans := by
    rintro first _ _ ⟨questions, rfl, hquestions⟩ ⟨further, rfl, hfurther⟩
    refine ⟨questions ++ further, (first.putting_append questions further).symm, fun element ↦ ?_⟩
    rw [List.mem_append]
    exact not_or_intro (hquestions element) (hfurther element)

end Page

theorem Element.moves_findElement (element : Element) (label : Label) :
    (element.findElement label).Moves Page.OnlySearched := by
  intro page
  obtain ⟨answer, hperform⟩ := element.exists_perform_findElement label
  rw [hperform page]
  exact ⟨[.findElement element label], rfl, fun _ ↦ by simp⟩

namespace Locator

open Page

mutual

/-- A search asks for elements and not whether they are displayed. -/
theorem moves_findElement (locator : Locator) (element : Element) :
    (locator.findElement element).Moves OnlySearched := by
  cases locator with
  | plain strategy value =>
    rw [findElement]
    exact element.moves_findElement _
  | chain members =>
    cases members with
    | nil =>
      rw [findElement]
      exact moves_throw composes_onlySearched _
    | cons first rest =>
      rw [findElement]
      exact (moves_findElement first element).bind composes_onlySearched
        (moves_followElement (chain (first :: rest)) rest)

theorem moves_followElement (whole : Locator) (members : List Locator) (element : Element) :
    (followElement whole members element).Moves OnlySearched := by
  cases members with
  | nil =>
    rw [followElement]
    exact moves_pure composes_onlySearched element
  | cons member rest =>
    rw [followElement]
    refine Moves.bind composes_onlySearched ?_ (moves_followElement whole rest)
    exact (moves_findElement member element).recover composes_onlySearched fun _ ↦
      moves_throw composes_onlySearched _

end

theorem isDisplayed_notMem_of_observe {locator : Locator} {root : Element} {page later : Page}
    {outcome : Except Failure Element} {questions : List Question}
    (hobserve : observe (locator.findElement root) page = (outcome, questions, later))
    (element : Element) : .isDisplayed element ∉ questions := by
  obtain ⟨asked, hasked, hsearched⟩ := moves_findElement locator root { page with asked := [] }
  have hquestions : questions = asked := by
    have hreverse : ((locator.findElement root).perform { page with asked := [] }).2.asked.reverse =
        questions := congrArg (·.2.1) hobserve
    rw [← hreverse, hasked]
    simp [putting]
  rw [hquestions]
  exact hsearched element

end Locator

/-! ## Layers -/

namespace Element

def looks (element : Element) (times : Nat) : List Question :=
  List.replicate times (.isDisplayed element)

theorem looks_succ (element : Element) (times : Nat) :
    element.looks (times + 1) = element.looks times ++ [.isDisplayed element] :=
  List.replicate_succ'

def notVisible (locator : Locator) : Failure :=
  .of .elementNotVisible ("Not visible: " ++ locator.describe)

end Element

namespace Retriever

open Page

variable {locator : Locator} {inner : Retriever} {page middle : Page}

/-- What comes out of a layer as a failure comes out of the layer around it. -/
theorem perform_displayed_of_error {failure : Failure}
    (hinner : (inner.findElement locator).perform page = (.error failure, middle)) :
    ((displayed inner).findElement locator).perform page = (.error failure, middle) := by
  rw [findElement, perform_bind, hinner]

/-- An element that comes out of a layer is asked once more by the layer around it. -/
theorem perform_displayed_of_ok {found : Element}
    (hinner : (inner.findElement locator).perform page = (.ok found, middle)) :
    ((displayed inner).findElement locator).perform page =
      ((Schedule.plan middle.faults (.isDisplayed found)).outcome.bind fun _ ↦
        if found.node.displayed then .ok found else .error (Element.notVisible locator),
        middle.putting [.isDisplayed found]) := by
  rw [findElement, perform_bind, hinner]
  simp only [perform_bind, Element.perform_isDisplayed]
  cases (Schedule.plan middle.faults (.isDisplayed found)).outcome with
  | error failure => rfl
  | ok _ =>
    cases hdisplayed : found.node.displayed with
    | true => simp [Except.map, Except.bind]
    | false => simp [Except.map, Except.bind, Element.notVisible]

variable {root found : Element} {layers : Nat}

/-- Layers pass the failure of a search on and ask nothing. -/
theorem perform_stacked_of_error {failure : Failure}
    (hsearch : (locator.findElement root).perform page = (.error failure, middle)) (layers : Nat) :
    ((stacked root layers).findElement locator).perform page = (.error failure, middle) := by
  induction layers with
  | zero => exact hsearch
  | succ layers ih => exact perform_displayed_of_error ih

section

variable (hsearch : (locator.findElement root).perform page = (.ok found, middle))

include hsearch

/-- A displayed element comes past any number of layers at whose questions no fault strikes. -/
theorem perform_stacked_of_pass (hdisplayed : layers ≠ 0 → found.node.displayed = true)
    (hpass : Schedule.LetsPass middle.faults (found.looks layers)) :
    ((stacked root layers).findElement locator).perform page =
      (.ok found, middle.putting (found.looks layers)) := by
  induction layers with
  | zero => exact hsearch
  | succ layers ih =>
    rw [Element.looks_succ, Schedule.letsPass_append] at hpass
    have hshown := hdisplayed layers.succ_ne_zero
    have hinner := ih (fun _ ↦ hshown) hpass.1
    have houtcome : (Schedule.plan (middle.putting (found.looks layers)).faults
        (.isDisplayed found)).outcome = .ok () := hpass.2.1
    rw [stacked, perform_displayed_of_ok hinner, houtcome, hshown, Element.looks_succ,
      putting_append]
    rfl

/-- An element that is not displayed is held back by the innermost layer. -/
theorem perform_stacked_of_hidden (hhidden : found.node.displayed = false)
    (hpass : Schedule.LetsPass middle.faults (found.looks 1)) (further : Nat) :
    ((stacked root (further + 1)).findElement locator).perform page =
      (.error (Element.notVisible locator), middle.putting (found.looks 1)) := by
  induction further with
  | zero =>
    have houtcome : (Schedule.plan middle.faults (.isDisplayed found)).outcome = .ok () := hpass.1
    have hinner : ((stacked root 0).findElement locator).perform page = (.ok found, middle) := hsearch
    rw [stacked, perform_displayed_of_ok hinner, houtcome, hhidden]
    rfl
  | succ further ih => exact perform_displayed_of_error ih

/-- A fault that strikes at a question comes out of the layer that puts it, and of all layers around
that one. -/
theorem perform_stacked_of_strike {earlier : Nat} {failure : Failure} (hearlier : earlier < layers)
    (hdisplayed : earlier ≠ 0 → found.node.displayed = true)
    (hpass : Schedule.LetsPass middle.faults (found.looks earlier))
    (hstrikes : (Schedule.plan (Schedule.after middle.faults (found.looks earlier))
      (.isDisplayed found)).outcome = .error failure) :
    ((stacked root layers).findElement locator).perform page =
      (.error failure, middle.putting (found.looks (earlier + 1))) := by
  induction layers with
  | zero => exact absurd hearlier earlier.not_lt_zero
  | succ layers ih =>
    rcases Nat.lt_succ_iff_lt_or_eq.1 hearlier with hinside | rfl
    · exact perform_displayed_of_error (ih hinside)
    · have hinner := perform_stacked_of_pass hsearch hdisplayed hpass
      have houtcome : (Schedule.plan (middle.putting (found.looks earlier)).faults
          (.isDisplayed found)).outcome = .error failure := hstrikes
      rw [stacked, perform_displayed_of_ok hinner, houtcome, Element.looks_succ, putting_append]
      rfl

end

end Retriever

/-! ## Stacks -/

theorem Page.observe_eq_iff {α : Type} {attempt : Attempt Page α} {page later : Page}
    {outcome : Except Failure α} {questions : List Question} :
    observe attempt page = (outcome, questions, later) ↔
      attempt.perform { page with asked := [] } = (outcome, later) ∧
        later.asked.reverse = questions := by
  unfold observe
  rcases attempt.perform { page with asked := [] } with ⟨found, changed⟩
  simp only [Prod.mk.injEq]
  constructor
  · rintro ⟨rfl, rfl, rfl⟩
    exact ⟨⟨rfl, rfl⟩, rfl⟩
  · rintro ⟨⟨rfl, rfl⟩, rfl⟩
    exact ⟨rfl, rfl, rfl⟩

/-- What there is to observe when a number of layers ask whether an element is displayed, after a
search has asked some questions and found it.  They hand it out if it is displayed and no fault strikes
at any of their questions; they refuse it after the first question if it is not displayed and no fault
strikes there; and a fault that strikes at a question they come to is what comes out, after that
question. -/
structure Element.IsVetted (found : Element) (layers : Nat) (locator : Locator)
    (questions : List Question) (middle : Page)
    (observed : Except Failure Element × List Question × Page) : Prop where
  of_displayed : found.node.displayed = true →
    Schedule.LetsPass middle.faults (found.looks layers) →
      observed = (.ok found, questions ++ found.looks layers, middle.putting (found.looks layers))
  of_hidden : found.node.displayed = false →
    Schedule.LetsPass middle.faults (found.looks 1) →
      observed = (.error (notVisible locator), questions ++ found.looks 1,
        middle.putting (found.looks 1))
  of_strike : ∀ earlier failure, earlier < layers →
    (earlier ≠ 0 → found.node.displayed = true) →
    Schedule.LetsPass middle.faults (found.looks earlier) →
    (Schedule.plan (Schedule.after middle.faults (found.looks earlier))
      (.isDisplayed found)).outcome = .error failure →
      observed = (.error failure, questions ++ found.looks (earlier + 1),
        middle.putting (found.looks (earlier + 1)))

namespace Retriever

open Page

/-- Looking an element up by a retriever is searching for it from an element, and then vetting what
has been found in a number of layers.  The search asks no element whether it is displayed, and if it
fails nothing else is asked. -/
structure Vets (retriever : Retriever) (layers : Nat) (root : Element) (locator : Locator)
    (page : Page) : Prop where
  driver_eq : retriever.driver = root
  of_error : ∀ failure questions later,
    observe (locator.findElement root) page = (.error failure, questions, later) →
      (∀ element, .isDisplayed element ∉ questions) ∧
        observe (retriever.findElement locator) page = (.error failure, questions, later)
  of_ok : ∀ found questions middle,
    observe (locator.findElement root) page = (.ok found, questions, middle) →
      (∀ element, .isDisplayed element ∉ questions) ∧
        found.IsVetted layers locator questions middle
          (observe (retriever.findElement locator) page)

/-- Every stack of layers vets what the driver finds. -/
theorem vets_stacked (root : Element) (further : Nat) (locator : Locator) (page : Page) :
    (stacked root (further + 1)).Vets (further + 1) root locator page where
  driver_eq := driver_stacked root (further + 1)
  of_error failure questions later hobserve := by
    obtain ⟨hsearch, hquestions⟩ := observe_eq_iff.1 hobserve
    exact ⟨Locator.isDisplayed_notMem_of_observe hobserve,
      observe_eq_iff.2 ⟨perform_stacked_of_error hsearch (further + 1), hquestions⟩⟩
  of_ok found questions middle hobserve := by
    obtain ⟨hsearch, hquestions⟩ := observe_eq_iff.1 hobserve
    have hasked (times : Nat) : (middle.putting (found.looks times)).asked.reverse =
        questions ++ found.looks times := by
      simp [putting, hquestions]
    exact ⟨Locator.isDisplayed_notMem_of_observe hobserve,
      { of_displayed := fun hdisplayed hpass ↦ observe_eq_iff.2
          ⟨perform_stacked_of_pass hsearch (fun _ ↦ hdisplayed) hpass, hasked (further + 1)⟩
        of_hidden := fun hhidden hpass ↦ observe_eq_iff.2
          ⟨perform_stacked_of_hidden hsearch hhidden hpass further, hasked 1⟩
        of_strike := fun earlier failure hearlier hdisplayed hpass hstrikes ↦ observe_eq_iff.2
          ⟨perform_stacked_of_strike hsearch hearlier hdisplayed hpass hstrikes,
            hasked (earlier + 1)⟩ }⟩

/-- A stack of displayed retrievers searches from the element that it was put around, by itself or in
a basic retriever, and vets what is found once for every layer. -/
theorem vets_layered (root : Element) (further : Nat) (locator : Locator) (page : Page) :
    (layered (.bare root) further).Vets (further + 1) root locator page ∧
      (layered (.retriever (.basic root)) further).Vets (further + 1) root locator page := by
  have hbare : layered (.bare root) further = stacked root (further + 1) :=
    layered_eq_stacked rfl further
  have hbasic : layered (.retriever (.basic root)) further = stacked root (further + 1) :=
    layered_eq_stacked rfl further
  rw [hbare, hbasic]
  exact ⟨vets_stacked root further locator page, vets_stacked root further locator page⟩

/-- Of three layers around a page, the second one finds that the button has gone stale. -/
example :
    let stale : Failure := .of .staleElement "stale element reference"
    let button : Node := .mk "button" [⟨"id", "submit"⟩] true
      { ElementFaults.quiet with isDisplayed := some ⟨stale, 1, none⟩ } []
    let form : Node := .mk "form" [⟨"tag name", "form"⟩] true .quiet [button]
    let retriever : Retriever := layered (.bare ⟨[], form⟩) 2
    let (outcome, asked, _) := observe (retriever.findElement (.plain "id" "submit")) (fresh form)
    outcome = .error stale ∧ asked.length = 3 :=
  ⟨rfl, rfl⟩

end Retriever

end BrowserControl
