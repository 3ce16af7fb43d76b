import BrowserControl.Locating.Search

/-!
# Where a Search Fails

A search for one element goes through the parts of a locator one after the other, and if it fails
it does so in a single place: at a plain locator whose question is not answered with an element,
or at an empty chain.  What comes out is not always the failure that was met there.  Each chain
around the place decides by itself whether to report in its own words: it does if the place does not
belong to its first member and no element has been found, and then keeps what it met as the cause.

So the reasons that come out name these chains, from the outermost to the innermost, and end with
the reason that was met in the first place (`findElement_eq_error_iff`).  No other failure is
reported in other words.
-/

namespace BrowserControl.Locator

open Attempt

/-! ## Places -/

/-- The chains around a place whose first member the place does not belong to, outermost first.  A
place is given by the position of a member on every level. -/
def chainsAround : List Nat → Locator → List Locator
  | [], _ => []
  | _ :: _, plain _ _ => []
  | position :: place, chain members =>
    match members[position]? with
    | none => []
    | some member =>
      (if position = 0 then [] else [chain members]) ++ chainsAround place member

/-- Searches for some locators, one after the other, go from an element to the one that is found
last, and from one state of the page to another. -/
inductive Passes : List Locator → Element → Page → Element → Page → Prop
  | nil (element : Element) (page : Page) : Passes [] element page element page
  | cons {member : Locator} {rest : List Locator} {element found last : Element}
      {page middle later : Page}
      (hfound : (member.findElement element).perform page = (.ok found, middle))
      (hrest : Passes rest found middle last later) :
    Passes (member :: rest) element page last later

/-- A search from an element fails in a place, where it meets a failure, and leaves a page behind.
It comes to a member of a chain by way of the members before it. -/
inductive FailsAt : Locator → Element → Page → List Nat → Failure → Page → Prop
  | plain {strategy value : String} {element : Element} {page later : Page} {origin : Failure}
      (hasked : (element.findElement ⟨strategy, value⟩).perform page = (.error origin, later)) :
    FailsAt (.plain strategy value) element page [] origin later
  | empty (element : Element) (page : Page) :
    FailsAt (.chain []) element page []
      (.of .noSuchElement "No locators were specified in this chain") page
  | member {earlier rest : List Locator} {member : Locator} {element found : Element}
      {page middle later : Page} {place : List Nat} {origin : Failure}
      (hpasses : Passes earlier element page found middle)
      (hfails : FailsAt member found middle place origin later) :
    FailsAt (.chain (earlier ++ member :: rest)) element page (earlier.length :: place) origin later

/-! ## Reports -/

/-- What a chain says when no element has been found after its first member. -/
def complaint (locator : Locator) : Reason :=
  ⟨.noSuchElement, some ("Cannot locate an element using " ++ locator.describe)⟩

/-- The failure that is reported for one that was met inside some chains, outermost first. -/
def reported (chains : List Locator) (origin : Failure) : Failure :=
  if origin.kind.isA .noSuchElement then
    chains.foldr
      (fun chain failure ↦ failure.reportedAs .noSuchElement
        ("Cannot locate an element using " ++ chain.describe))
      origin
  else origin

/-- A failure reports what was met inside some chains: every chain complains of the next one, and
the innermost of what was met, unless that is not about an element. -/
structure Reports (chains : List Locator) (origin failure : Failure) : Prop where
  reasons_eq : origin.kind.isA .noSuchElement = true →
    failure.reason :: failure.causes = chains.map complaint ++ origin.reason :: origin.causes
  eq_of_other : origin.kind.isA .noSuchElement = false → failure = origin

section

variable {origin : Failure}

theorem reported_nil (origin : Failure) : reported [] origin = origin := by
  unfold reported
  split
  · rfl
  · rfl

/-- Only the lack of an element is reported by the chains. -/
theorem reported_of_other (chains : List Locator)
    (hother : origin.kind.isA .noSuchElement = false) : reported chains origin = origin := by
  unfold reported
  rw [hother]
  rfl

/-- A chain around the others reports what they report. -/
theorem reported_cons (chain : Locator) (chains : List Locator)
    (hmissing : origin.kind.isA .noSuchElement = true) :
    reported (chain :: chains) origin =
      (reported chains origin).reportedAs .noSuchElement
        ("Cannot locate an element using " ++ chain.describe) := by
  unfold reported
  rw [if_pos hmissing, if_pos hmissing, List.foldr_cons]

/-- What is reported is about a missing element exactly if what was met is. -/
theorem isA_kind_reported (chains : List Locator) :
    (reported chains origin).kind.isA .noSuchElement = origin.kind.isA .noSuchElement := by
  cases hkind : origin.kind.isA .noSuchElement with
  | false => rw [reported_of_other chains hkind, hkind]
  | true =>
    cases chains with
    | nil => rw [reported_nil, hkind]
    | cons chain chains =>
      rw [reported_cons chain chains hkind, Failure.kind_reportedAs, Kind.isA_self]

/-- A missing element is reported by every chain, from the outermost to the innermost. -/
theorem reasons_reported (chains : List Locator)
    (hmissing : origin.kind.isA .noSuchElement = true) :
    (reported chains origin).reason :: (reported chains origin).causes =
      chains.map complaint ++ origin.reason :: origin.causes := by
  induction chains with
  | nil => rw [reported_nil]; rfl
  | cons chain chains ih =>
    rw [reported_cons chain chains hmissing, List.map_cons, List.cons_append, ← ih]
    rfl

/-- The report is determined by the chains and the origin. -/
theorem reports_iff {chains : List Locator} {failure : Failure} :
    Reports chains origin failure ↔ failure = reported chains origin := by
  constructor
  · rintro ⟨hreasons, hother⟩
    cases hkind : origin.kind.isA .noSuchElement with
    | false => rw [hother hkind, reported_of_other chains hkind]
    | true =>
      have hsame := (hreasons hkind).trans (reasons_reported chains hkind).symm
      obtain ⟨hreason, hcauses⟩ := List.cons.inj hsame
      cases failure
      generalize reported chains origin = other at hreason hcauses ⊢
      cases other
      rw [Failure.mk.injEq]
      exact ⟨hreason, hcauses⟩
  · rintro rfl
    exact ⟨reasons_reported chains, reported_of_other chains⟩

end

/-! ## Failing searches -/

/-- Following a chain comes past the members that lead on to an element. -/
theorem Passes.perform_followElement {earlier : List Locator} {element found : Element}
    {page middle : Page} (hpasses : Passes earlier element page found middle) (whole : Locator)
    (rest : List Locator) :
    (followElement whole (earlier ++ rest) element).perform page =
      (followElement whole rest found).perform middle := by
  induction hpasses with
  | nil => rfl
  | cons hfound _ ih =>
    rw [List.cons_append, followElement, perform_bind, perform_recover, hfound]
    exact ih

/-- Past its first member, a chain reports in its own words that there is no element. -/
theorem perform_followElement_of_fails {whole member : Locator} {rest chains : List Locator}
    {element : Element} {page later : Page} {origin : Failure}
    (hfails :
      (member.findElement element).perform page = (.error (reported chains origin), later)) :
    (followElement whole (member :: rest) element).perform page =
      (.error (reported (whole :: chains) origin), later) := by
  rw [followElement, perform_bind, perform_recover, hfails]
  cases hkind : origin.kind.isA .noSuchElement with
  | false =>
    rw [reported_of_other chains hkind, reported_of_other (whole :: chains) hkind]
    simp [hkind]
  | true =>
    rw [reported_cons whole chains hkind]
    simp [isA_kind_reported, hkind]

/-- A search that fails in a place reports what it met there on behalf of the chains around it. -/
theorem FailsAt.perform_findElement {locator : Locator} {element : Element} {page later : Page}
    {place : List Nat} {origin : Failure}
    (hfails : FailsAt locator element page place origin later) :
    (locator.findElement element).perform page =
      (.error (reported (chainsAround place locator) origin), later) := by
  induction hfails with
  | plain hasked => rw [findElement, hasked, chainsAround, reported_nil]
  | empty element page =>
    rw [findElement, chainsAround, reported_nil]
    exact perform_throw _ page
  | @member earlier rest member element found page middle later place origin hpasses hfails ih =>
    have hmember : (earlier ++ member :: rest)[earlier.length]? = some member := by simp
    simp only [chainsAround, hmember]
    cases hpasses with
    | nil =>
      rw [List.nil_append, findElement, perform_bind, ih]
      rfl
    | cons hfound hrest =>
      rw [List.cons_append, findElement, perform_bind, hfound]
      simp only [hrest.perform_followElement, perform_followElement_of_fails ih]
      rfl

mutual

/-- A search that fails does so in some place. -/
theorem exists_failsAt (locator : Locator) {element : Element} {page later : Page}
    {failure : Failure}
    (hfails : (locator.findElement element).perform page = (.error failure, later)) :
    ∃ place origin, FailsAt locator element page place origin later := by
  cases locator with
  | plain strategy value =>
    rw [findElement] at hfails
    exact ⟨[], failure, .plain hfails⟩
  | chain members =>
    cases members with
    | nil =>
      rw [findElement] at hfails
      cases hfails
      exact ⟨[], _, .empty element page⟩
    | cons first rest =>
      rw [findElement, perform_bind] at hfails
      rcases hfirst : (first.findElement element).perform page with ⟨reason | found, middle⟩
      · simp only [hfirst] at hfails
        cases hfails
        obtain ⟨place, origin, hplace⟩ := exists_failsAt first hfirst
        exact ⟨_, origin, .member (.nil element page) hplace⟩
      · simp only [hfirst] at hfails
        obtain ⟨earlier, member, later', found', middle', place, origin, hrest, hpasses, hplace⟩ :=
          exists_failsAt_followElement rest hfails
        rw [hrest]
        exact ⟨_, origin, .member (.cons hfirst hpasses) hplace⟩

/-- Following a chain fails at one of its members, after the members before it have led there. -/
theorem exists_failsAt_followElement (members : List Locator) {whole : Locator} {element : Element}
    {page later : Page} {failure : Failure}
    (hfails : (followElement whole members element).perform page = (.error failure, later)) :
    ∃ earlier member rest found middle place origin, members = earlier ++ member :: rest ∧
      Passes earlier element page found middle ∧
        FailsAt member found middle place origin later := by
  cases members with
  | nil =>
    rw [followElement] at hfails
    cases hfails
  | cons member rest =>
    rw [followElement, perform_bind, perform_recover] at hfails
    rcases hmember : (member.findElement element).perform page with ⟨reason | found, middle⟩
    · obtain ⟨place, origin, hplace⟩ := exists_failsAt member hmember
      refine ⟨[], member, rest, element, page, place, origin, rfl, .nil element page, ?_⟩
      have hlater : later = middle := by
        rw [hmember] at hfails
        by_cases hkind : reason.kind.isA .noSuchElement = true
        · simp only [hkind, if_true, perform_throw] at hfails
          exact (Prod.mk.inj hfails).2.symm
        · simp only [hkind] at hfails
          exact (Prod.mk.inj hfails).2.symm
      rw [hlater]
      exact hplace
    · simp only [hmember] at hfails
      obtain ⟨earlier, other, rest', found', middle', place, origin, hrest, hpasses, hplace⟩ :=
        exists_failsAt_followElement rest hfails
      rw [hrest]
      exact ⟨member :: earlier, other, rest', found', middle', place, origin, rfl,
        .cons hmember hpasses, hplace⟩

end

/-- Two ways past members of a chain, each to one that cannot be searched for from there, are the
same way. -/
theorem Passes.eq_of_fails {earlier earlier' rest rest' : List Locator} {member member' : Locator}
    {element found found' : Element} {page middle middle' later later' : Page}
    {failure failure' : Failure} (hpasses : Passes earlier element page found middle)
    (hpasses' : Passes earlier' element page found' middle')
    (hfails : (member.findElement found).perform middle = (.error failure, later))
    (hfails' : (member'.findElement found').perform middle' = (.error failure', later'))
    (hmembers : earlier ++ member :: rest = earlier' ++ member' :: rest') :
    earlier = earlier' ∧ member = member' ∧ found = found' ∧ middle = middle' := by
  induction hpasses generalizing earlier' with
  | nil element page =>
    cases hpasses' with
    | nil => exact ⟨rfl, (List.cons.inj hmembers).1, rfl, rfl⟩
    | cons hfound _ =>
      obtain ⟨rfl, -⟩ := List.cons.inj hmembers
      rw [hfails] at hfound
      cases hfound
  | cons hfound _ ih =>
    cases hpasses' with
    | nil =>
      obtain ⟨rfl, -⟩ := List.cons.inj hmembers
      rw [hfails'] at hfound
      cases hfound
    | cons hfound' hrest' =>
      obtain ⟨rfl, hlast⟩ := List.cons.inj hmembers
      rw [hfound] at hfound'
      cases hfound'
      obtain ⟨rfl, hsame⟩ := ih hrest' hfails hlast
      exact ⟨rfl, hsame⟩

/-- A search fails in one place only. -/
theorem FailsAt.unique {locator : Locator} {element : Element} {page later later' : Page}
    {place place' : List Nat} {origin origin' : Failure}
    (hfails : FailsAt locator element page place origin later)
    (hfails' : FailsAt locator element page place' origin' later') :
    place' = place ∧ origin' = origin := by
  induction hfails generalizing place' origin' later' with
  | plain hasked =>
    cases hfails' with
    | plain hasked' =>
      rw [hasked] at hasked'
      cases hasked'
      exact ⟨rfl, rfl⟩
  | empty element page =>
    generalize hempty : chain [] = locator at hfails'
    cases hfails' with
    | plain => cases hempty
    | empty => exact ⟨rfl, rfl⟩
    | member => simp at hempty
  | @member earlier rest member element found page middle later place origin hpasses hfails ih =>
    generalize hchain : chain (earlier ++ member :: rest) = locator at hfails'
    cases hfails' with
    | plain => cases hchain
    | empty => simp at hchain
    | member hpasses' hplace' =>
      obtain ⟨rfl, rfl, rfl, rfl⟩ := hpasses.eq_of_fails hpasses' hfails.perform_findElement
        hplace'.perform_findElement (Locator.chain.inj hchain)
      obtain ⟨rfl, rfl⟩ := ih hplace'
      exact ⟨rfl, rfl⟩

/-- A search fails exactly if it fails in some place, and then in no other.  If what it meets there
is that there is no element, the failure that comes out names the chains whose first member the
place does not belong to, each as the cause of the one around it, and ends with what was met;
anything else comes out as it is. -/
theorem findElement_eq_error_iff (locator : Locator) (element : Element) (page later : Page)
    (failure : Failure) :
    (locator.findElement element).perform page = (.error failure, later) ↔
      ∃ place origin, FailsAt locator element page place origin later ∧
        (∀ other met last, FailsAt locator element page other met last →
          other = place ∧ met = origin) ∧
        Reports (chainsAround place locator) origin failure := by
  constructor
  · intro hfails
    obtain ⟨place, origin, hplace⟩ := exists_failsAt locator hfails
    have hreported := hplace.perform_findElement
    rw [hfails] at hreported
    refine ⟨place, origin, hplace, fun _ _ _ hother ↦ hplace.unique hother, reports_iff.2 ?_⟩
    exact Except.error.inj (congrArg Prod.fst hreported)
  · rintro ⟨place, origin, hplace, -, hreports⟩
    rw [reports_iff.1 hreports]
    exact hplace.perform_findElement

/-- The first member of the inner chain finds nothing: the outer chain reports, the inner does not.
-/
example :
    let node (name : String) (children : List Node) : Node :=
      .mk name [⟨"id", name⟩] true ⟨none, none, none⟩ children
    let page := node "page" [node "menu" []]
    let locator := chain [plain "id" "menu", chain [plain "id" "entry", plain "id" "link"]]
    ((locator.findElement ⟨[], page⟩).perform (Page.fresh page)).1 =
      .error ⟨locator.complaint, [⟨.noSuchElement, some "no such element: id=entry"⟩]⟩ := by
  rfl

/-- A complaint names the whole chain, with the members of inner chains between braces of their own
and a strategy without a suffix as it is. -/
example :
    let locator :=
      chain [plain "id" "menu", chain [plain "css selector" "li", plain "role" "link"]]
    locator.complaint.text = some
      ("Cannot locate an element using " ++
        "By.chained(\x7bBy.ID: menu,By.chained(\x7bBy.CSS_SELECTOR: li,By.role: link\x7d)\x7d)") := by
  rfl

end BrowserControl.Locator
