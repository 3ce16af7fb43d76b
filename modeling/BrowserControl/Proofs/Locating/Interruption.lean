import BrowserControl.Proofs.Locating.Origins
import BrowserControl.Proofs.Locating.Quiet
import Mathlib.Logic.Function.Basic

/-!
# Searches That Are Cut Short

What a search asks, and what it comes to, is settled by the elements alone; a fault can do no more
than end the search at a question.  So whatever faults are scheduled, a search puts the questions that
it puts without faults, one after the other, up to the first one whose fault strikes, and fails
there.  If no fault strikes, it comes to the same as without faults (`Locator.isCutShort_search`).

This is kept by every way to build searches (`Page.Interruptible`): a search that goes on does so
from the answer that it would have got anyway, and a failure that is reported in other words is
still a failure.
-/

namespace BrowserControl

open Attempt

/-! ## Schedules -/

/-- The faults that are planned for the elements of a page, by their paths. -/
abbrev Schedule :=
  List Nat → ElementFaults

namespace Schedule

def plan (schedule : Schedule) : Question → Plan
  | .findElement element _ => (schedule element.path).findElement
  | .findElements element _ => (schedule element.path).findElements
  | .isDisplayed element => (schedule element.path).isDisplayed

def next (schedule : Schedule) (question : Question) : Schedule :=
  match question with
  | .findElement element _ => Function.update schedule element.path
    { schedule element.path with findElement := (schedule element.path).findElement.next }
  | .findElements element _ => Function.update schedule element.path
    { schedule element.path with findElements := (schedule element.path).findElements.next }
  | .isDisplayed element => Function.update schedule element.path
    { schedule element.path with isDisplayed := (schedule element.path).isDisplayed.next }

/-- What remains of a schedule after some questions have been put, one after the other. -/
def after (schedule : Schedule) (questions : List Question) : Schedule :=
  questions.foldl next schedule

/-- No fault strikes while some questions are put, one after the other. -/
def LetsPass (schedule : Schedule) : List Question → Prop
  | [] => True
  | question :: rest =>
    (plan schedule question).outcome = .ok () ∧ LetsPass (next schedule question) rest

variable (schedule : Schedule) (questions further : List Question)

/-- Questions use up a schedule one after the other. -/
theorem after_append :
    after schedule (questions ++ further) = after (after schedule questions) further :=
  List.foldl_append

theorem letsPass_append :
    LetsPass schedule (questions ++ further) ↔
      LetsPass schedule questions ∧ LetsPass (after schedule questions) further := by
  induction questions generalizing schedule with
  | nil => simp [LetsPass, after]
  | cons question rest ih => simp only [List.cons_append, LetsPass, ih, and_assoc, after, List.foldl]

/-- Where no faults are planned, none strikes. -/
theorem letsPass_quiet : LetsPass (fun _ ↦ .quiet) questions := by
  have hnext (question : Question) : next (fun _ ↦ .quiet) question = fun _ ↦ .quiet := by
    cases question <;> exact Function.update_eq_self _ _
  induction questions with
  | nil => trivial
  | cons question rest ih =>
    refine ⟨?_, by rwa [hnext]⟩
    cases question <;> rfl

end Schedule

namespace Page

/-- The page after some questions have been put, one after the other. -/
def putting (page : Page) (questions : List Question) : Page :=
  ⟨Schedule.after page.faults questions, questions.reverse ++ page.asked⟩

theorem putting_append (page : Page) (questions further : List Question) :
    page.putting (questions ++ further) = (page.putting questions).putting further := by
  simp [putting, Schedule.after_append]

theorem replaceFaults_eq_update (page : Page) (path : List Nat)
    (change : ElementFaults → ElementFaults) :
    page.replaceFaults path change =
      { page with faults := Function.update page.faults path (change (page.faults path)) } := by
  unfold replaceFaults
  congr 1
  funext other
  rw [Function.update_apply]

def stilled (page : Page) : Page :=
  { page with faults := fun _ ↦ .quiet }

/-! ## Attempts that faults cut short -/

/-- At one of some questions a fault strikes, and at none before it.  An attempt puts them up to that
one, and what comes out of it is a report on the fault. -/
def StopsAmong {α : Type} (page : Page) (reporting : Failure → Failure → Prop)
    (attempt : Attempt Page α) (questions : List Question) : Prop :=
  ∃ before question after failure reported, questions = before ++ question :: after ∧
    Schedule.LetsPass page.faults before ∧
    (Schedule.plan (Schedule.after page.faults before) question).outcome = .error failure ∧
    reporting failure reported ∧
    attempt.perform page = (.error reported, page.putting (before ++ [question]))

/-- Whatever faults are scheduled, an attempt puts the same questions one after the other and comes
to the same outcome, unless a fault strikes at one of the questions. -/
def Interruptible {α : Type} (reporting : Failure → Failure → Prop) (attempt : Attempt Page α) :
    Prop :=
  ∃ questions outcome, ∀ page : Page,
    Schedule.LetsPass page.faults questions ∧
        attempt.perform page = (outcome, page.putting questions) ∨
      page.StopsAmong reporting attempt questions

section

variable {α β : Type} {reporting : Failure → Failure → Prop} {page : Page}
  {questions further : List Question}

/-- What is stopped does not go on. -/
theorem StopsAmong.bind {first : Attempt Page α} (hstops : page.StopsAmong reporting first questions)
    (next : α → Attempt Page β) (further : List Question) :
    page.StopsAmong reporting (first >>= next) (questions ++ further) := by
  obtain ⟨before, question, after, failure, reported, rfl, hpass, hstrikes, hreported, hperform⟩ :=
    hstops
  refine ⟨before, question, after ++ further, failure, reported, ?_, hpass, hstrikes, hreported, ?_⟩
  · rw [List.append_assoc, List.cons_append]
  · rw [perform_bind, hperform]

/-- What has gone on after its first questions may be stopped at a later one. -/
theorem StopsAmong.bind_of_pass {first : Attempt Page α} {next : α → Attempt Page β} {value : α}
    (hpass : Schedule.LetsPass page.faults questions)
    (hfirst : first.perform page = (.ok value, page.putting questions))
    (hstops : (page.putting questions).StopsAmong reporting (next value) further) :
    page.StopsAmong reporting (first >>= next) (questions ++ further) := by
  obtain ⟨before, question, after, failure, reported, rfl, hbefore, hstrikes, hreported, hperform⟩ :=
    hstops
  refine ⟨questions ++ before, question, after, failure, reported, ?_, ?_, ?_, hreported, ?_⟩
  · rw [List.append_assoc]
  · exact (Schedule.letsPass_append _ questions before).2 ⟨hpass, hbefore⟩
  · rw [Schedule.after_append]
    exact hstrikes
  · rw [perform_bind, hfirst, List.append_assoc, putting_append]
    exact hperform

theorem interruptible_ofExcept (outcome : Except Failure α) :
    Interruptible reporting (Attempt.ofExcept outcome) :=
  ⟨[], outcome, fun page ↦ .inl ⟨trivial, perform_ofExcept outcome page⟩⟩

theorem interruptible_pure (value : α) : Interruptible reporting (pure value) :=
  interruptible_ofExcept (.ok value)

theorem interruptible_throw (failure : Failure) :
    Interruptible reporting (throw failure : Attempt Page α) :=
  interruptible_ofExcept (.error failure)

/-- A sequence can be interrupted wherever one of its parts can. -/
theorem Interruptible.bind {first : Attempt Page α} {next : α → Attempt Page β}
    (hfirst : Interruptible reporting first)
    (hnext : ∀ value, Interruptible reporting (next value)) :
    Interruptible reporting (first >>= next) := by
  obtain ⟨questions, outcome, hfirst⟩ := hfirst
  cases outcome with
  | error failure =>
    refine ⟨questions, .error failure, fun page ↦ ?_⟩
    rcases hfirst page with ⟨hpass, hperform⟩ | hstops
    · exact .inl ⟨hpass, by rw [perform_bind, hperform]⟩
    · have hbind := hstops.bind next []
      rw [List.append_nil] at hbind
      exact .inr hbind
  | ok value =>
    obtain ⟨further, outcome, hnext⟩ := hnext value
    refine ⟨questions ++ further, outcome, fun page ↦ ?_⟩
    rcases hfirst page with ⟨hpass, hperform⟩ | hstops
    · rcases hnext (page.putting questions) with ⟨hpass', hperform'⟩ | hstops
      · refine .inl ⟨(Schedule.letsPass_append _ questions further).2 ⟨hpass, hpass'⟩, ?_⟩
        rw [perform_bind, hperform, putting_append]
        exact hperform'
      · exact .inr (.bind_of_pass hpass hperform hstops)
    · exact .inr (hstops.bind next further)

theorem interruptible_mapM {attempt : α → Attempt Page β}
    (hattempt : ∀ entry, Interruptible reporting (attempt entry)) (entries : List α) :
    Interruptible reporting (entries.mapM attempt) := by
  induction entries with
  | nil =>
    rw [List.mapM_nil]
    exact interruptible_pure []
  | cons entry rest ih =>
    rw [List.mapM_cons]
    exact (hattempt entry).bind fun _ ↦ ih.bind fun _ ↦ interruptible_pure _

/-- Failures of some kind may be reported in other words, as long as that is still a report on the
fault. -/
theorem Interruptible.recover {attempt : Attempt Page α} {kind : Kind} {report : Failure → Failure}
    (hattempt : Interruptible reporting attempt)
    (hreport : ∀ failure reported, reporting failure reported → reported.kind.isA kind = true →
      reporting failure (report reported)) :
    Interruptible reporting (Attempt.recover attempt kind fun failure ↦ throw (report failure)) := by
  obtain ⟨questions, outcome, hattempt⟩ := hattempt
  -- What comes out in place of a failure depends on nothing but the failure.
  let reword (failure : Failure) : Failure :=
    if failure.kind.isA kind then report failure else failure
  have hrecover (page : Page) : (Attempt.recover attempt kind fun failure ↦
      throw (report failure)).perform page =
        ((attempt.perform page).1.mapError reword, (attempt.perform page).2) :=
    perform_recover_throw attempt kind report page
  refine ⟨questions, outcome.mapError reword, fun page ↦ ?_⟩
  rcases hattempt page with ⟨hpass, hperform⟩ | hstops
  · exact .inl ⟨hpass, by rw [hrecover, hperform]⟩
  · obtain ⟨before, question, after, failure, reported, hquestions, hpass, hstrikes, hreported,
      hperform⟩ := hstops
    refine .inr ⟨before, question, after, failure, reword reported, hquestions, hpass, hstrikes, ?_,
      by rw [hrecover, hperform]; rfl⟩
    by_cases hkind : reported.kind.isA kind = true
    · simpa only [reword, hkind, if_true] using hreport failure reported hreported hkind
    · simpa only [reword, hkind, Bool.false_eq_true, if_false] using hreported

/-- A question to the element at a path is noted, and goes by what is planned for it. -/
theorem perform_question {question : Question} {path : List Nat} {plan : ElementFaults → Plan}
    {replace : Plan → ElementFaults → ElementFaults}
    (hplan : ∀ schedule, Schedule.plan schedule question = plan (schedule path))
    (hnext : ∀ schedule, Schedule.next schedule question =
      Function.update schedule path (replace (plan (schedule path)).next (schedule path)))
    (hreplace : ∀ faults, replace (plan faults) faults = faults) (answer : Except Failure α)
    (page : Page) :
    (do
      ask question
      strike (fun page ↦ plan (page.faults path)) fun remaining ↦
        replaceFaults path (replace remaining)
      Attempt.ofExcept answer).perform page =
      ((Schedule.plan page.faults question).outcome.bind fun _ ↦ answer,
        page.putting [question]) := by
  have hask : (ask question).perform page =
      (.ok (), { page with asked := question :: page.asked }) := rfl
  have hstrike := perform_strike (fun page ↦ plan (page.faults path))
    (fun remaining ↦ replaceFaults path (replace remaining))
    { page with asked := question :: page.asked }
    (by rw [replaceFaults_eq_update, hreplace, Function.update_eq_self])
  rw [replaceFaults_eq_update, ← hnext, ← hplan] at hstrike
  rw [perform_bind, hask]
  simp only [perform_bind, hstrike]
  cases (Schedule.plan page.faults question).outcome with
  | ok _ => exact perform_ofExcept answer _
  | error failure => rfl

/-- What a question comes to is settled by the answer to it, and by what is planned for it. -/
theorem interruptible_of_perform {attempt : Attempt Page α} {question : Question}
    (hself : ∀ failure, reporting failure failure) (answer : Except Failure α)
    (hperform : ∀ page, attempt.perform page =
      ((Schedule.plan page.faults question).outcome.bind fun _ ↦ answer,
        page.putting [question])) :
    Interruptible reporting attempt := by
  refine ⟨[question], answer, fun page ↦ ?_⟩
  have hperform := hperform page
  cases houtcome : (Schedule.plan page.faults question).outcome with
  | ok _ =>
    rw [houtcome] at hperform
    exact .inl ⟨⟨houtcome, trivial⟩, hperform⟩
  | error failure =>
    rw [houtcome] at hperform
    exact .inr ⟨[], question, [], failure, failure, rfl, trivial, houtcome, hself failure, hperform⟩

end

/-- An attempt on a page compared with the same attempt without faults.  Either no fault strikes at
the questions that are put there, and outcome and questions are the same; or the questions are the
same up to the first one at which a fault strikes, no more are put, and what comes out is a report on
the fault. -/
def IsCutShort {α : Type} (page : Page) (reporting : Failure → Failure → Prop)
    (attempt : Attempt Page α) : Prop :=
  let (expected, questions, _) := observe attempt page.stilled
  let (outcome, asked, _) := observe attempt page
  Schedule.LetsPass page.faults questions ∧ outcome = expected ∧ asked = questions ∨
    ∃ before question after failure reported, questions = before ++ question :: after ∧
      Schedule.LetsPass page.faults before ∧
      (Schedule.plan (Schedule.after page.faults before) question).outcome = .error failure ∧
      reporting failure reported ∧ outcome = .error reported ∧ asked = before ++ [question]

theorem observe_of_putting {α : Type} {attempt : Attempt Page α} {page : Page}
    {outcome : Except Failure α} {questions : List Question}
    (hperform : attempt.perform { page with asked := [] } =
      (outcome, Page.putting { page with asked := [] } questions)) :
    observe attempt page = (outcome, questions, Page.putting { page with asked := [] } questions) := by
  unfold observe
  rw [hperform]
  simp [putting]

/-- What can be interrupted is cut short by the first question that fails. -/
theorem Interruptible.isCutShort {α : Type} {reporting : Failure → Failure → Prop}
    {attempt : Attempt Page α} (hattempt : Interruptible reporting attempt) (page : Page) :
    page.IsCutShort reporting attempt := by
  obtain ⟨questions, outcome, hattempt⟩ := hattempt
  have hstilled : attempt.perform { page.stilled with asked := [] } =
      (outcome, Page.putting { page.stilled with asked := [] } questions) := by
    rcases hattempt { page.stilled with asked := [] } with ⟨-, hperform⟩ | hstops
    · exact hperform
    · obtain ⟨before, question, after, failure, reported, rfl, -, hstrikes, -⟩ := hstops
      have hpass := Schedule.letsPass_quiet (before ++ [question])
      rw [Schedule.letsPass_append] at hpass
      cases hpass.2.1.symm.trans hstrikes
  unfold IsCutShort
  rw [observe_of_putting hstilled]
  rcases hattempt { page with asked := [] } with ⟨hpass, hperform⟩ | hstops
  · rw [observe_of_putting hperform]
    exact .inl ⟨hpass, rfl, rfl⟩
  · obtain ⟨before, question, after, failure, reported, hquestions, hpass, hstrikes, hreported,
      hperform⟩ := hstops
    rw [observe_of_putting hperform]
    exact .inr ⟨before, question, after, failure, reported, hquestions, hpass, hstrikes, hreported,
      rfl, rfl⟩

end Page

/-! ## Searches -/

namespace Element

variable (element : Element) (label : Label)

/-- A search is one question, and its answer is that of the page or the planned failure. -/
theorem perform_findElements (page : Page) :
    (element.findElements label).perform page =
      ((Schedule.plan page.faults (.findElements element label)).outcome.map fun _ ↦
        element.labelled label, page.putting [.findElements element label]) :=
  Page.perform_question (fun _ ↦ rfl) (fun _ ↦ rfl) (fun _ ↦ rfl) (.ok (element.labelled label)) page

/-- A search for one element is answered with the first one, or with a failure that says which label
nothing has. -/
theorem exists_perform_findElement :
    ∃ answer, ∀ page, (element.findElement label).perform page =
      ((Schedule.plan page.faults (.findElement element label)).outcome.bind fun _ ↦ answer,
        page.putting [.findElement element label]) := by
  have hanswer : ∃ answer, element.findElement label = (do
      Page.ask (.findElement element label)
      strike (fun page ↦ (page.faults element.path).findElement) fun plan ↦
        Page.replaceFaults element.path fun faults ↦ { faults with findElement := plan }
      Attempt.ofExcept answer) := by
    unfold findElement
    cases element.labelled label with
    | nil => exact ⟨.error _, rfl⟩
    | cons found _ => exact ⟨.ok found, rfl⟩
  obtain ⟨answer, hanswer⟩ := hanswer
  rw [hanswer]
  exact ⟨answer, Page.perform_question (fun _ ↦ rfl) (fun _ ↦ rfl) (fun _ ↦ rfl) answer⟩

theorem perform_isDisplayed (page : Page) :
    element.isDisplayed.perform page =
      ((Schedule.plan page.faults (.isDisplayed element)).outcome.map fun _ ↦
        element.node.displayed, page.putting [.isDisplayed element]) :=
  Page.perform_question (fun _ ↦ rfl) (fun _ ↦ rfl) (fun _ ↦ rfl) (.ok element.node.displayed) page

variable {reporting : Failure → Failure → Prop} (hself : ∀ failure, reporting failure failure)

include hself

theorem interruptible_findElements :
    Page.Interruptible reporting (element.findElements label) :=
  Page.interruptible_of_perform hself (.ok (element.labelled label))
    (element.perform_findElements label)

theorem interruptible_findElement :
    Page.Interruptible reporting (element.findElement label) := by
  obtain ⟨answer, hperform⟩ := element.exists_perform_findElement label
  exact Page.interruptible_of_perform hself answer hperform

end Element

namespace Locator

open Page

mutual

theorem interruptible_findElements (locator : Locator) (element : Element) :
    Interruptible Eq (locator.findElements element) := by
  cases locator with
  | plain strategy value =>
    rw [findElements]
    exact element.interruptible_findElements _ fun _ ↦ rfl
  | chain members =>
    cases members with
    | nil =>
      rw [findElements]
      exact interruptible_pure []
    | cons first rest =>
      rw [findElements]
      exact (interruptible_findElements first element).bind (interruptible_followElements rest)

/-- Following a chain passes failures on as they are. -/
theorem interruptible_followElements (members : List Locator) (elements : List Element) :
    Interruptible Eq (followElements members elements) := by
  cases members with
  | nil =>
    rw [followElements]
    exact interruptible_pure elements
  | cons member rest =>
    cases elements with
    | nil =>
      rw [followElements]
      · exact interruptible_pure []
      · simp
    | cons element others =>
      rw [followElements]
      · exact (interruptible_mapM (interruptible_findElements member) _).bind fun _ ↦
          interruptible_followElements rest _
      · simp

end

/-- What comes out for a failure that was met inside some chains. -/
def IsReportOn (origin failure : Failure) : Prop :=
  ∃ chains, Reports chains origin failure

theorem IsReportOn.refl (origin : Failure) : IsReportOn origin origin :=
  ⟨[], reports_iff.2 (reported_nil origin).symm⟩

/-- A chain around the others reports on the same failure. -/
theorem IsReportOn.reportedAs {origin failure : Failure} (hreport : IsReportOn origin failure)
    (hmissing : failure.kind.isA .noSuchElement = true) (whole : Locator) :
    IsReportOn origin (failure.reportedAs .noSuchElement
      ("Cannot locate an element using " ++ whole.describe)) := by
  obtain ⟨chains, hreports⟩ := hreport
  obtain rfl := reports_iff.1 hreports
  rw [isA_kind_reported] at hmissing
  exact ⟨whole :: chains, reports_iff.2 (reported_cons whole chains hmissing).symm⟩

mutual

/-- Looking for a single element reports a missing one, and only that. -/
theorem interruptible_findElement (locator : Locator) (element : Element) :
    Interruptible IsReportOn (locator.findElement element) := by
  cases locator with
  | plain strategy value =>
    rw [findElement]
    exact element.interruptible_findElement _ IsReportOn.refl
  | chain members =>
    cases members with
    | nil =>
      rw [findElement]
      exact interruptible_throw _
    | cons first rest =>
      rw [findElement]
      exact (interruptible_findElement first element).bind
        (interruptible_followElement (chain (first :: rest)) rest)

theorem interruptible_followElement (whole : Locator) (members : List Locator)
    (element : Element) : Interruptible IsReportOn (followElement whole members element) := by
  cases members with
  | nil =>
    rw [followElement]
    exact interruptible_pure element
  | cons member rest =>
    rw [followElement]
    have hmember := (interruptible_findElement member element).recover
      fun _ _ hreport hmissing ↦ hreport.reportedAs hmissing whole
    exact hmember.bind (interruptible_followElement whole rest)

end

/-- Faults cut a search short and do nothing else: whatever faults are scheduled, a search for all
elements, or for one, is the search without faults up to the first question at which a fault
strikes.  From a search for all elements the failure of that fault comes out as it is, and nothing of
what was found; from a search for one it comes out as the chains around it report it. -/
theorem isCutShort_search (locator : Locator) (element : Element) (page : Page) :
    page.IsCutShort Eq (locator.findElements element) ∧
      page.IsCutShort IsReportOn (locator.findElement element) :=
  ⟨(interruptible_findElements locator element).isCutShort page,
    (interruptible_findElement locator element).isCutShort page⟩

/-- Of two items the first one is stale.  The second one is not asked for its links any more. -/
example :
    let stale : Failure := .of .staleElement "stale element reference"
    let item (name : String) (faults : ElementFaults) : Node :=
      .mk name [⟨"tag name", "li"⟩] true faults []
    let list : Node := .mk "list" [⟨"tag name", "ul"⟩] true .quiet
      [item "first" { ElementFaults.quiet with findElements := some ⟨stale, 0, none⟩ },
        item "second" .quiet]
    let links : Locator := .chain [.plain "tag name" "li", .plain "tag name" "a"]
    let (outcome, asked, _) := observe (links.findElements ⟨[], list⟩) (fresh list)
    outcome = .error stale ∧ asked.length = 2 :=
  ⟨rfl, rfl⟩

end Locator

end BrowserControl
