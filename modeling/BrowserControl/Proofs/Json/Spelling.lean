import BrowserControl.Proofs.Json.Nesting

/-!
# What a Document Spells Out

Every value can be spelled out in tokens: a list or an object between its brackets, with commas between
the items or members, and every key before a colon and its value.  What is read from a text is
the value that the tokens of the text spell out (`lexemes_of_read?_eq_ok`).  In particular the
members of an object are all members that are written between its brackets, in their order, and
what is written inside one of them belongs to its value.

While the reader is under way, what it keeps spells out the tokens that it has taken
(`Reading.spells_run`).
-/

namespace BrowserControl.Json

/-! ## Spelling values -/

namespace Value

mutual

/-- The tokens that spell a value out. -/
def tokens : Value → List Token
  | text value => [.text value]
  | array items =>
    .opening .array :: ([Token.comma].intercalate (itemTokens items) ++ [.closing .array])
  | object members =>
    .opening .object :: ([Token.comma].intercalate (memberTokens members) ++ [.closing .object])
  | value => [.single value]

def itemTokens : List Value → List (List Token)
  | [] => []
  | first :: rest => tokens first :: itemTokens rest

def memberTokens : List (List Text.CodePoint × Value) → List (List Token)
  | [] => []
  | (key, value) :: rest => (.text key :: .colon :: tokens value) :: memberTokens rest

end

theorem itemTokens_append (items further : List Value) :
    itemTokens (items ++ further) = itemTokens items ++ itemTokens further := by
  induction items with
  | nil => rfl
  | cons first rest ih => exact congrArg (first.tokens :: ·) ih

theorem memberTokens_append (members further : Members Value) :
    memberTokens (members ++ further) = memberTokens members ++ memberTokens further := by
  induction members with
  | nil => rfl
  | cons first rest ih => exact congrArg ((.text first.1 :: .colon :: first.2.tokens) :: ·) ih

end Value

def followed (entries : List (List Token)) : List Token :=
  entries.flatMap (· ++ [.comma])

theorem followed_append_singleton (entries : List (List Token)) (last : List Token) :
    followed (entries ++ [last]) = followed entries ++ (last ++ [.comma]) := by
  rw [followed, List.flatMap_append, List.flatMap_singleton, ← followed]

/-- Commas between entries are commas after all of them but the last. -/
theorem intercalate_append_singleton (entries : List (List Token)) (last : List Token) :
    [Token.comma].intercalate (entries ++ [last]) = followed entries ++ last := by
  induction entries with
  | nil => simp [followed]
  | cons first rest ih =>
    rw [List.cons_append, List.intercalate_cons_of_ne_nil (by simp), ih]
    simp [followed]

/-! ## Spelling what has been read so far -/

/-- The tokens that have been taken for an open bracket, up to the value that is read inside it. -/
def Frame.tokens : Frame → List Token
  | array items => .opening .array :: followed (Value.itemTokens items.reverse)
  | object members key =>
    .opening .object :: (followed (Value.memberTokens members.reverse) ++ [.text key, .colon])

/-- The tokens that have been taken inside the innermost frame. -/
def Expectation.tokens : Expectation → List Token
  | value | firstItem => []
  | firstKey => [.opening .object]
  | key members => .opening .object :: followed (Value.memberTokens members.reverse)
  | colon members name =>
    .opening .object :: (followed (Value.memberTokens members.reverse) ++ [.text name])
  | separator last => last.tokens

/-- A value that takes one token is spelled by that token. -/
def Token.IsPlain (token : Token) : Prop :=
  ∀ value, token = .single value → value.tokens = [token]

namespace Reading

/-- The tokens that have been taken. -/
def tokens (reading : Reading) : List Token :=
  reading.frames.reverse.flatMap Frame.tokens ++ reading.expectation.tokens

variable {reading later : Reading} {frames : List Frame} {offset : Nat} {token : Token}

theorem tokens_cons (frame : Frame) (outer : List Frame) (expectation : Expectation) :
    tokens ⟨frame :: outer, expectation⟩ =
      outer.reverse.flatMap Frame.tokens ++ (frame.tokens ++ expectation.tokens) := by
  simp [tokens]

/-- What is kept after a token spells out one token more; and a first item is awaited only right
after its bracket. -/
structure Spells (taken : List Token) (later : Reading) : Prop where
  isStarted : later.expectation = .firstItem → ∃ outer, later.frames = .array [] :: outer
  tokens_eq : later.tokens = taken

/-- An opening bracket is spelled by the frame it opens. -/
theorem spells_opened {bracket : Bracket} (hopened : opened frames bracket = .ok later) :
    Spells (frames.reverse.flatMap Frame.tokens ++ [.opening bracket]) later := by
  unfold opened at hopened
  split at hopened
  · cases hopened
  · cases bracket with
    | array =>
      cases hopened
      refine ⟨fun _ ↦ ⟨frames, rfl⟩, ?_⟩
      rw [tokens_cons]
      rfl
    | object =>
      cases hopened
      exact ⟨nofun, rfl⟩

/-- A value that is accepted is spelled where it stands. -/
theorem spells_acceptValue (hplain : token.IsPlain)
    (haccept : acceptValue frames offset token = .ok later) :
    Spells (frames.reverse.flatMap Frame.tokens ++ [token]) later := by
  cases token with
  | opening bracket => exact spells_opened haccept
  | text value =>
    cases haccept
    exact ⟨nofun, rfl⟩
  | single value =>
    cases haccept
    refine ⟨nofun, ?_⟩
    rw [← hplain value rfl]
    rfl
  | closing bracket | comma | colon | bad problem => cases haccept

theorem spells_acceptKey {members : Members Value}
    (haccept : acceptKey frames members offset token = .ok later) :
    Spells (frames.reverse.flatMap Frame.tokens ++
      .opening .object :: (followed (Value.memberTokens members.reverse) ++ [token])) later := by
  unfold acceptKey at haccept
  split at haccept
  · cases haccept
    exact ⟨nofun, rfl⟩
  · cases haccept
  · cases haccept

theorem spells_acceptSeparator {value : Value}
    (haccept : acceptSeparator frames value offset token = .ok later) :
    Spells (frames.reverse.flatMap Frame.tokens ++ (value.tokens ++ [token])) later := by
  unfold acceptSeparator at haccept
  split at haccept
  case h_5 | h_6 => cases haccept
  all_goals
    cases haccept
    refine ⟨nofun, ?_⟩
    simp [tokens, Frame.tokens, Expectation.tokens, Value.tokens, Value.itemTokens_append,
      Value.memberTokens_append, Value.itemTokens, Value.memberTokens, followed_append_singleton,
      intercalate_append_singleton]

/-- Every step spells one token more. -/
theorem spells_step {lexeme : Lexeme}
    (hstarted : reading.expectation = .firstItem → ∃ outer, reading.frames = .array [] :: outer)
    (hplain : lexeme.token.IsPlain) (hstep : reading.step lexeme = .ok later) :
    Spells (reading.tokens ++ [lexeme.token]) later := by
  obtain ⟨frames, expectation⟩ := reading
  obtain ⟨offset, token⟩ := lexeme
  rw [tokens, List.append_assoc]
  cases expectation with
  | value => exact spells_acceptValue hplain hstep
  | firstItem =>
    by_cases htoken : token = .closing .array
    · subst htoken
      obtain ⟨outer, rfl⟩ := hstarted rfl
      cases hstep
      refine ⟨nofun, ?_⟩
      simp [tokens, Frame.tokens, Expectation.tokens, Value.tokens, Value.itemTokens, followed]
    · rw [step_firstItem htoken] at hstep
      exact spells_acceptValue hplain hstep
  | firstKey =>
    by_cases htoken : token = .closing .object
    · subst htoken
      cases hstep
      exact ⟨nofun, rfl⟩
    · rw [step_firstKey htoken] at hstep
      exact spells_acceptKey hstep
  | key members => exact spells_acceptKey hstep
  | colon members key =>
    cases token with
    | colon =>
      cases hstep
      refine ⟨nofun, ?_⟩
      simp [tokens, Frame.tokens, Expectation.tokens]
    | _ => cases hstep
  | separator value => exact spells_acceptSeparator hstep

/-- What is kept while reading spells out the tokens that have been taken. -/
theorem spells_run {taken : List Lexeme} {before : List Token} (hbefore : Spells before reading)
    (hplain : ∀ lexeme ∈ taken, lexeme.token.IsPlain)
    (htaken : taken.foldlM step reading = .ok later) :
    Spells (before ++ taken.map Lexeme.token) later := by
  induction taken generalizing reading before with
  | nil =>
    cases htaken
    rwa [List.map_nil, List.append_nil]
  | cons lexeme rest ih =>
    rw [List.foldlM_cons] at htaken
    cases hstep : reading.step lexeme with
    | error problem =>
      rw [hstep] at htaken
      cases htaken
    | ok middle =>
      rw [hstep] at htaken
      obtain ⟨hfirst, hrest⟩ := List.forall_mem_cons.1 hplain
      have hmiddle := spells_step hbefore.isStarted hfirst hstep
      rw [hbefore.tokens_eq] at hmiddle
      have hlater := ih hmiddle hrest htaken
      rwa [List.append_assoc] at hlater

end Reading

/-! ## Reading -/

theorem Numeral.isPlain_token (numeral : Numeral) : numeral.token.IsPlain := by
  unfold Numeral.token
  split
  · split
    · rintro _ ⟨⟩
      rfl
    · nofun
  · rintro _ ⟨⟩
    rfl

theorem isPlain_wordOrNumber (offset : Nat) (characters : List Char) :
    (wordOrNumber offset characters).1.IsPlain := by
  have hwords : ∀ word ∈ words, word.2.tokens = [.single word.2] := by
    simp [words, Value.tokens]
  unfold wordOrNumber
  split
  · next word value hword =>
    rintro _ ⟨⟩
    exact hwords _ (List.mem_of_find?_eq_some hword)
  · split
    · exact Numeral.isPlain_token _
    · nofun

theorem isPlain_token (offset : Nat) (character : Char) (rest : List Char) :
    (token offset character rest).1.IsPlain := by
  unfold token
  -- Six characters are tokens by themselves.
  iterate 6
    split
    · exact nofun
  split
  · split
    · exact nofun
    · exact nofun
  · exact isPlain_wordOrNumber _ _

/-- What is read from a text is what its tokens spell out. -/
theorem lexemes_of_read?_eq_ok {text : List Char} {value : Value} (hread : read? text = .ok value) :
    (lexemes 0 0 text).map Lexeme.token = value.tokens := by
  by_cases hmark : text.head? = some '\ufeff'
  · have hbad : read? text = .error (.malformed .byteOrderMark 0) := if_pos hmark
    rw [hbad] at hread
    cases hread
  · rw [read?_of_head? hmark] at hread
    cases hrun : (lexemes 0 0 text).foldlM Reading.step Reading.start with
    | error problem =>
      rw [hrun] at hread
      cases hread
    | ok reading =>
      rw [hrun] at hread
      have hstart : Reading.Spells [] Reading.start := ⟨nofun, rfl⟩
      have hspells := Reading.spells_run hstart (forall_mem_lexemes isPlain_token 0 0 text) hrun
      obtain ⟨frames, expectation⟩ := reading
      have hfinish : Reading.finish text.length ⟨frames, expectation⟩ = .ok value := hread
      unfold Reading.finish at hfinish
      split at hfinish
      · next last hlast hframes =>
        cases hfinish
        cases hlast
        cases hframes
        exact hspells.tokens_eq.symm
      all_goals cases hfinish

end BrowserControl.Json
