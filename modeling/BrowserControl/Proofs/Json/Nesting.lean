import BrowserControl.Json.Reader

/-!
# Nesting

A text may be refused since its brackets are nested too deep.  No token is to blame for that, and the
reader does not count what is closed again: it complains exactly at a bracket that is opened where a
value is welcome while as many are open as may be (`exists_read?_eq_nestedTooDeep_iff`).  How many are open
is the difference between the brackets that have been opened and closed so far, whatever they
contain (`Reading.depth_add_countP`).
-/

namespace BrowserControl

/-- An attempt either succeeds or fails for a reason of a certain sort. -/
def FailsOnly {ε α : Type} (sort : ε → Prop) (outcome : Except ε α) : Prop :=
  ∀ reason, outcome = .error reason → sort reason

namespace FailsOnly

variable {ε ε' α β : Type} {sort : ε → Prop} {outcome : Except ε α}

theorem ok (value : α) : FailsOnly sort (.ok value) :=
  nofun

theorem error_iff {reason : ε} :
    FailsOnly sort (.error reason : Except ε α) ↔ sort reason := by
  constructor
  · intro hfails
    exact hfails reason rfl
  · rintro hsort _ ⟨⟩
    exact hsort

instance [DecidablePred sort] : Decidable (FailsOnly sort outcome) :=
  match outcome with
  | .ok value => isTrue (ok value)
  | .error _ => decidable_of_iff _ error_iff.symm

theorem map (hfails : FailsOnly sort outcome) (change : α → β) :
    FailsOnly sort (change <$> outcome) := by
  cases outcome with
  | ok value => exact ok _
  | error reason => exact error_iff.2 (error_iff.1 hfails)

/-- Both parts of an attempt in two parts have to fail for a reason of the sort, the second one after
each success of the first. -/
theorem bind_iff {next : α → Except ε β} :
    FailsOnly sort (outcome >>= next) ↔
      FailsOnly sort outcome ∧ ∀ value, outcome = .ok value → FailsOnly sort (next value) := by
  cases outcome with
  | ok value =>
    constructor
    · intro hfails
      refine ⟨ok value, ?_⟩
      rintro _ ⟨⟩
      exact hfails
    · rintro ⟨-, hnext⟩
      exact hnext value rfl
  | error reason =>
    constructor
    · intro hfails
      exact ⟨error_iff.2 (error_iff.1 hfails), nofun⟩
    · rintro ⟨hfails, -⟩
      exact error_iff.2 (error_iff.1 hfails)

theorem mapError_iff {sort : ε' → Prop} {report : ε → ε'} :
    FailsOnly sort (outcome.mapError report) ↔ FailsOnly (sort ∘ report) outcome := by
  cases outcome with
  | ok value => exact ⟨fun _ ↦ ok value, fun _ ↦ ok value⟩
  | error reason =>
    constructor
    · intro hfails
      exact error_iff.2 (hfails (report reason) rfl)
    · intro hfails
      exact error_iff.2 (hfails reason rfl)

end FailsOnly

namespace Json

/-! ## Tokens -/

/-- The problem is that brackets are nested too deep. -/
def Problem.IsNesting : Problem → Prop
  | nestedTooDeep _ => True
  | _ => False

/-- If an attempt to read something fails, nesting is not the problem. -/
abbrev IsFlat {α : Type} (outcome : Except Problem α) : Prop :=
  FailsOnly (¬·.IsNesting) outcome

theorem isFlat_malformed {α : Type} (complaint : Complaint) (offset : Nat) :
    IsFlat (.error (.malformed complaint offset) : Except Problem α) :=
  FailsOnly.error_iff.2 id

theorem isFlat_numericEscape (offset : Nat) (characters : List Char) :
    IsFlat (numericEscape offset characters) := by
  unfold numericEscape
  repeat' split
  all_goals first | exact isFlat_malformed _ _ | exact FailsOnly.ok _

theorem isFlat_escape (start offset : Nat) (characters : List Char) :
    IsFlat (escape start offset characters) := by
  unfold escape
  split
  · exact isFlat_malformed _ _
  · exact (isFlat_numericEscape _ _).map _
  · split
    · exact FailsOnly.ok _
    · exact isFlat_malformed _ _

/-- Whatever is wrong with a text, it is not nesting. -/
theorem isFlat_readText (start skip offset : Nat) (characters : List Char) :
    IsFlat (readText start skip offset characters) := by
  fun_induction readText start skip offset characters with
  | case1 => exact isFlat_malformed _ _
  | case2 skip offset character rest ih => exact ih
  | case3 => exact FailsOnly.ok _
  | case4 offset rest problem hescape =>
    rintro _ ⟨⟩
    exact isFlat_escape start offset rest problem hescape
  | case5 offset rest _ codePoint length hescape ih => exact ih.map _
  | case6 => exact isFlat_malformed _ _
  | case7 offset character rest _ _ _ ih => exact ih.map _

def Token.IsFlat (token : Token) : Prop :=
  ∀ problem, token = .bad problem → ¬problem.IsNesting

theorem Numeral.isFlat_token (numeral : Numeral) : numeral.token.IsFlat := by
  unfold Numeral.token
  intro problem hproblem
  split at hproblem
  · split at hproblem
    · cases hproblem
    · cases hproblem
      exact id
  · cases hproblem

theorem isFlat_wordOrNumber (offset : Nat) (characters : List Char) :
    (wordOrNumber offset characters).1.IsFlat := by
  unfold wordOrNumber
  split
  · exact nofun
  · split
    · exact Numeral.isFlat_token _
    · rintro _ ⟨⟩
      exact id

/-- No single token is nested too deep. -/
theorem isFlat_token (offset : Nat) (character : Char) (rest : List Char) :
    (token offset character rest).1.IsFlat := by
  unfold token
  -- Six characters are tokens by themselves.
  iterate 6
    split
    · exact nofun
  split
  · split
    · exact nofun
    · next problem hread =>
      rintro _ ⟨⟩
      exact isFlat_readText _ _ _ _ problem hread
  · exact isFlat_wordOrNumber _ _

/-- What holds of every token that can be cut off holds of all tokens of a text. -/
theorem forall_mem_lexemes {property : Token → Prop}
    (htoken : ∀ offset character rest, property (token offset character rest).1)
    (skip offset : Nat) (text : List Char) :
    ∀ lexeme ∈ lexemes skip offset text, property lexeme.token := by
  fun_induction lexemes skip offset text with
  | case1 => nofun
  | case2 skip offset character rest ih => exact ih
  | case3 offset character rest hblank ih => exact ih
  | case4 offset character rest hblank problem length hcut =>
    have hfirst := htoken offset character rest
    rw [hcut] at hfirst
    simpa using hfirst
  | case5 offset character rest hblank first length hgood hcut ih =>
    have hfirst := htoken offset character rest
    rw [hcut] at hfirst
    exact List.forall_mem_cons.2 ⟨hfirst, ih⟩

theorem isFlat_of_mem_lexemes (skip offset : Nat) (text : List Char) :
    ∀ lexeme ∈ lexemes skip offset text, lexeme.token.IsFlat :=
  forall_mem_lexemes isFlat_token skip offset text

/-! ## Brackets that are open -/

namespace Token

def opens : Token → Bool
  | opening _ => true
  | _ => false

def closes : Token → Bool
  | closing _ => true
  | _ => false

end Token

namespace Reading

/-- A value is what is welcome next. -/
def WelcomesValue (reading : Reading) : Prop :=
  reading.expectation = .value ∨ reading.expectation = .firstItem

/-- How many brackets are open; the one of an object is kept as a frame only while a value is read. -/
def depth (reading : Reading) : Nat :=
  match reading.expectation with
  | .firstKey | .key _ | .colon _ _ => reading.frames.length + 1
  | .value | .firstItem | .separator _ => reading.frames.length

/-- A first item is awaited only inside a bracket. -/
def IsInside (reading : Reading) : Prop :=
  reading.expectation = .firstItem → reading.frames ≠ []

/-- A bracket counts from the token that opens it to the one that closes it: how deep the reader is
after a token follows from how deep it was before. -/
structure Follows (depth : Nat) (token : Token) (later : Reading) : Prop where
  isInside : later.IsInside
  depth_eq : later.depth + (if token.closes then 1 else 0) = depth + if token.opens then 1 else 0

variable {reading later : Reading} {frames : List Frame} {offset : Nat} {token : Token}

/-- Where a value may begin, the depth is the number of open frames. -/
theorem depth_of_welcomesValue (hwelcomes : reading.WelcomesValue) :
    reading.depth = reading.frames.length := by
  unfold depth
  rcases hwelcomes with hexpectation | hexpectation <;> rw [hexpectation]

/-- An opening bracket goes one deeper. -/
theorem follows_opened {bracket : Bracket} (hopened : opened frames bracket = .ok later) :
    Follows frames.length (.opening bracket) later := by
  unfold opened at hopened
  split at hopened
  · cases hopened
  · cases bracket with
    | array =>
      cases hopened
      exact ⟨fun _ ↦ List.cons_ne_nil _ _, rfl⟩
    | object =>
      cases hopened
      exact ⟨nofun, rfl⟩

/-- A value leaves the depth, unless it opens a bracket. -/
theorem follows_acceptValue (haccept : acceptValue frames offset token = .ok later) :
    Follows frames.length token later := by
  cases token with
  | opening bracket => exact follows_opened haccept
  | text value | single value =>
    cases haccept
    exact ⟨nofun, rfl⟩
  | closing bracket | comma | colon | bad problem => cases haccept

theorem follows_acceptKey {members : Members Value}
    (haccept : acceptKey frames members offset token = .ok later) :
    Follows (frames.length + 1) token later := by
  unfold acceptKey at haccept
  split at haccept
  · cases haccept
    exact ⟨nofun, rfl⟩
  · cases haccept
  · cases haccept

theorem follows_acceptSeparator {value : Value}
    (haccept : acceptSeparator frames value offset token = .ok later) :
    Follows frames.length token later := by
  unfold acceptSeparator at haccept
  split at haccept
  case h_5 | h_6 => cases haccept
  all_goals
    cases haccept
    exact ⟨nofun, rfl⟩

/-- Where a first item is awaited, every token but the one that ends the list is taken as where a value
is. -/
theorem step_firstItem (htoken : token ≠ .closing .array) :
    step ⟨frames, .firstItem⟩ ⟨offset, token⟩ = acceptValue frames offset token := by
  cases token with
  | closing bracket =>
    cases bracket with
    | array => exact absurd rfl htoken
    | object => rfl
  | _ => rfl

theorem step_firstKey (htoken : token ≠ .closing .object) :
    step ⟨frames, .firstKey⟩ ⟨offset, token⟩ = acceptKey frames [] offset token := by
  cases token with
  | closing bracket =>
    cases bracket with
    | array => rfl
    | object => exact absurd rfl htoken
  | _ => rfl

/-- Every step changes the depth by the bracket it reads. -/
theorem follows_step {lexeme : Lexeme} (hinside : reading.IsInside)
    (hstep : reading.step lexeme = .ok later) : Follows reading.depth lexeme.token later := by
  obtain ⟨frames, expectation⟩ := reading
  obtain ⟨offset, token⟩ := lexeme
  cases expectation with
  | value => exact follows_acceptValue hstep
  | firstItem =>
    by_cases htoken : token = .closing .array
    · subst htoken
      obtain ⟨frame, outer, rfl⟩ := List.exists_cons_of_ne_nil (hinside rfl)
      cases hstep
      exact ⟨nofun, rfl⟩
    · rw [step_firstItem htoken] at hstep
      exact follows_acceptValue hstep
  | firstKey =>
    by_cases htoken : token = .closing .object
    · subst htoken
      cases hstep
      exact ⟨nofun, rfl⟩
    · rw [step_firstKey htoken] at hstep
      exact follows_acceptKey hstep
  | key members => exact follows_acceptKey hstep
  | colon members key =>
    cases token with
    | colon =>
      cases hstep
      exact ⟨nofun, rfl⟩
    | _ => cases hstep
  | separator value => exact follows_acceptSeparator hstep

/-- So the depth of a run is the difference of the brackets it has read. -/
theorem follows_run {before : List Lexeme} (hinside : reading.IsInside)
    (hbefore : before.foldlM step reading = .ok later) :
    later.depth + before.countP (·.token.closes) =
      reading.depth + before.countP (·.token.opens) := by
  induction before generalizing reading with
  | nil =>
    cases hbefore
    rfl
  | cons lexeme rest ih =>
    rw [List.foldlM_cons] at hbefore
    cases hstep : reading.step lexeme with
    | error problem =>
      rw [hstep] at hbefore
      cases hbefore
    | ok middle =>
      rw [hstep] at hbefore
      have hfollows := follows_step hinside hstep
      have hrest := ih hfollows.isInside hbefore
      have hfirst := hfollows.depth_eq
      rw [List.countP_cons, List.countP_cons]
      omega

/-- How many brackets are open after some tokens. -/
theorem depth_add_countP {before : List Lexeme} (hbefore : before.foldlM step start = .ok reading) :
    reading.depth + before.countP (·.token.closes) = before.countP (·.token.opens) := by
  have hrun := follows_run (show start.IsInside from nofun) hbefore
  rwa [show start.depth = 0 from rfl, Nat.zero_add] at hrun

/-! ## Complaints about nesting -/

theorem isFlat_acceptKey (members : Members Value) :
    Json.IsFlat (acceptKey frames members offset token) := by
  unfold acceptKey
  split
  · exact FailsOnly.ok _
  · exact isFlat_malformed _ _
  · exact isFlat_malformed _ _

theorem isFlat_acceptSeparator (value : Value) :
    Json.IsFlat (acceptSeparator frames value offset token) := by
  unfold acceptSeparator
  split
  case h_5 | h_6 => exact isFlat_malformed _ _
  all_goals exact FailsOnly.ok _

theorem isFlat_finish (reading : Reading) (offset : Nat) :
    Json.IsFlat (reading.finish offset) := by
  unfold finish
  split
  · exact FailsOnly.ok _
  all_goals exact isFlat_malformed _ _

/-- Only an opening bracket at the limit is too deep. -/
theorem acceptValue_eq_nestedTooDeep_iff {bracket : Bracket} (hflat : token.IsFlat) :
    acceptValue frames offset token = .error (.nestedTooDeep bracket) ↔
      token = .opening bracket ∧ nestingLimit ≤ frames.length := by
  cases token with
  | opening other =>
    by_cases hlimit : nestingLimit ≤ frames.length
    · simp [acceptValue, opened, hlimit]
    · cases other <;> simp [acceptValue, opened, hlimit]
  | bad problem =>
    constructor
    · intro hproblem
      cases hproblem
      exact absurd trivial (hflat _ rfl)
    · nofun
  | closing _ | comma | colon | text _ | single _ => simp [acceptValue]

/-- Nesting is complained about exactly at a bracket that is opened where a value is welcome while as
many brackets are open as may be. -/
theorem step_eq_nestedTooDeep_iff {lexeme : Lexeme} {bracket : Bracket}
    (hflat : lexeme.token.IsFlat) :
    reading.step lexeme = .error (.nestedTooDeep bracket) ↔
      reading.WelcomesValue ∧ lexeme.token = .opening bracket ∧ nestingLimit ≤ reading.depth := by
  obtain ⟨frames, expectation⟩ := reading
  obtain ⟨offset, token⟩ := lexeme
  have hwelcome : ∀ ready, WelcomesValue ⟨frames, ready⟩ →
      (acceptValue frames offset token = .error (.nestedTooDeep bracket) ↔
        WelcomesValue ⟨frames, ready⟩ ∧ token = .opening bracket ∧
          nestingLimit ≤ depth ⟨frames, ready⟩) := by
    intro ready hwelcomes
    rw [depth_of_welcomesValue hwelcomes, acceptValue_eq_nestedTooDeep_iff hflat,
      and_iff_right hwelcomes]
  have hunwelcome : ∀ {ready} {outcome : Except Problem Reading}, Json.IsFlat outcome →
      ready ≠ .value → ready ≠ .firstItem →
      (outcome = .error (.nestedTooDeep bracket) ↔
        WelcomesValue ⟨frames, ready⟩ ∧ token = .opening bracket ∧
          nestingLimit ≤ depth ⟨frames, ready⟩) := by
    intro ready outcome houtcome hvalue hitem
    constructor
    · intro hproblem
      exact absurd trivial (houtcome _ hproblem)
    · rintro ⟨hwelcomes | hwelcomes, -⟩
      · exact absurd hwelcomes hvalue
      · exact absurd hwelcomes hitem
  cases expectation with
  | value => exact hwelcome _ (.inl rfl)
  | firstItem =>
    by_cases htoken : token = .closing .array
    · subst htoken
      constructor <;> nofun
    · rw [step_firstItem htoken]
      exact hwelcome _ (.inr rfl)
  | firstKey =>
    by_cases htoken : token = .closing .object
    · subst htoken
      exact hunwelcome (FailsOnly.ok _) nofun nofun
    · rw [step_firstKey htoken]
      exact hunwelcome (isFlat_acceptKey _) nofun nofun
  | key members => exact hunwelcome (isFlat_acceptKey _) nofun nofun
  | colon members key =>
    cases token with
    | colon => exact hunwelcome (FailsOnly.ok _) nofun nofun
    | _ => exact hunwelcome (isFlat_malformed _ _) nofun nofun
  | separator value => exact hunwelcome (isFlat_acceptSeparator _) nofun nofun

end Reading

/-- A run of steps fails exactly if some step fails after those before it have not. -/
theorem foldlM_eq_error_iff {σ ι ε : Type} {step : σ → ι → Except ε σ} {items : List ι} {start : σ}
    {problem : ε} :
    items.foldlM step start = .error problem ↔
      ∃ before item later middle, items = before ++ item :: later ∧
        before.foldlM step start = .ok middle ∧ step middle item = .error problem := by
  constructor
  · intro hproblem
    induction items generalizing start with
    | nil => cases hproblem
    | cons first rest ih =>
      rw [List.foldlM_cons] at hproblem
      cases hstep : step start first with
      | error other =>
        rw [hstep] at hproblem
        cases hproblem
        exact ⟨[], first, rest, start, rfl, rfl, hstep⟩
      | ok next =>
        rw [hstep] at hproblem
        obtain ⟨before, item, later, middle, rfl, hbefore, hitem⟩ := ih hproblem
        refine ⟨first :: before, item, later, middle, rfl, ?_, hitem⟩
        rw [List.foldlM_cons, hstep]
        exact hbefore
  · rintro ⟨before, item, later, middle, rfl, hbefore, hitem⟩
    rw [List.foldlM_append, hbefore]
    show (item :: later).foldlM step middle = .error problem
    rw [List.foldlM_cons, hitem]
    rfl

/-- At some place, a bracket is opened where a value is welcome, although the difference between the
brackets that have been opened and closed before is the limit; up to there, the text can be read. -/
def IsNestedTooDeep (text : List Char) : Prop :=
  text.head? ≠ some '\ufeff' ∧ ∃ before lexeme later reading,
    lexemes 0 0 text = before ++ lexeme :: later ∧
    before.foldlM Reading.step Reading.start = .ok reading ∧ reading.WelcomesValue ∧
    lexeme.token.opens = true ∧
    before.countP (·.token.closes) + nestingLimit ≤ before.countP (·.token.opens)

theorem read?_of_head? {text : List Char} (hmark : text.head? ≠ some '\ufeff') :
    read? text =
      (lexemes 0 0 text).foldlM Reading.step Reading.start >>= Reading.finish text.length := by
  unfold read?
  rw [if_neg hmark]

/-- Where the reader stops for nesting. -/
theorem read?_eq_nestedTooDeep_iff {text : List Char} {bracket : Bracket}
    (hmark : text.head? ≠ some '\ufeff') :
    read? text = .error (.nestedTooDeep bracket) ↔
      (lexemes 0 0 text).foldlM Reading.step Reading.start = .error (.nestedTooDeep bracket) := by
  rw [read?_of_head? hmark]
  cases hreading : (lexemes 0 0 text).foldlM Reading.step Reading.start with
  | error problem =>
    constructor <;>
    · rintro ⟨⟩
      rfl
  | ok reading =>
    constructor
    · intro hproblem
      exact absurd trivial (reading.isFlat_finish text.length _ hproblem)
    · nofun

theorem Token.opens_iff {token : Token} : token.opens = true ↔ ∃ bracket, token = .opening bracket := by
  cases token <;> simp [Token.opens]

/-- A text is refused for its nesting exactly if it is nested too deep. -/
theorem exists_read?_eq_nestedTooDeep_iff (text : List Char) :
    (∃ bracket, read? text = .error (.nestedTooDeep bracket)) ↔ IsNestedTooDeep text := by
  by_cases hmark : text.head? = some '\ufeff'
  · have hread : read? text = .error (.malformed .byteOrderMark 0) := if_pos hmark
    constructor
    · rintro ⟨bracket, hproblem⟩
      rw [hread] at hproblem
      cases hproblem
    · rintro ⟨hnone, -⟩
      exact absurd hmark hnone
  · have hlimit : ∀ {before : List Lexeme} {reading : Reading},
        before.foldlM Reading.step Reading.start = .ok reading →
        (nestingLimit ≤ reading.depth ↔
          before.countP (·.token.closes) + nestingLimit ≤ before.countP (·.token.opens)) := by
      intro before reading hbefore
      have hdepth := Reading.depth_add_countP hbefore
      omega
    have hflat : ∀ {before lexeme later}, lexemes 0 0 text = before ++ lexeme :: later →
        lexeme.token.IsFlat := fun hsplit ↦
      isFlat_of_mem_lexemes 0 0 text _ (hsplit ▸ List.mem_append_right _ List.mem_cons_self)
    simp only [read?_eq_nestedTooDeep_iff hmark, foldlM_eq_error_iff]
    constructor
    · rintro ⟨bracket, before, lexeme, later, reading, hsplit, hbefore, hstep⟩
      obtain ⟨hwelcomes, htoken, hdepth⟩ := (Reading.step_eq_nestedTooDeep_iff (hflat hsplit)).1 hstep
      exact ⟨hmark, before, lexeme, later, reading, hsplit, hbefore, hwelcomes,
        Token.opens_iff.2 ⟨bracket, htoken⟩, (hlimit hbefore).1 hdepth⟩
    · rintro ⟨-, before, lexeme, later, reading, hsplit, hbefore, hwelcomes, hopens, hcount⟩
      obtain ⟨bracket, htoken⟩ := Token.opens_iff.1 hopens
      exact ⟨bracket, before, lexeme, later, reading, hsplit, hbefore,
        (Reading.step_eq_nestedTooDeep_iff (hflat hsplit)).2
          ⟨hwelcomes, htoken, (hlimit hbefore).2 hcount⟩⟩

end Json

end BrowserControl
