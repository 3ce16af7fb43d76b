import BrowserControl.Proofs.Json.Settling
import BrowserControl.Proofs.Json.Spelling
import BrowserControl.Proofs.Settings.Usability

/-!
# Settings Are Decided by Three Values

Of a file that holds an object only three values matter: for every key what the last member with it
says, or a standard value if there is none (`Bindings.ofMembers_eq_last`).  Neither members with other
keys nor the order of members make a difference, and members inside the values of others bind nothing.

Six demands are made on the three values.  Settings are made if all are met, and otherwise the first
one that is not met, in a fixed order, says what a file is refused for.  Each check makes one or two of
them (`judges_checkSeconds`, `judges_checkNonzero`, `judges_checkLevel`), and checks that follow one
another make theirs one after the other (`Judges.bind`).
-/

namespace BrowserControl.Settings

/-! ## Demands -/

/-- What can be demanded of a value. -/
inductive Demand where
  | isNumber
  | isNotNegative
  | isNotZero
  | isText
  deriving DecidableEq, Repr

namespace Demand

/-- Whether a value meets a demand.  Only numbers can be below zero or equal to it. -/
def isMet : Demand → Json.Value → Bool
  | isNumber, .int _ | isNumber, .float _ => true
  | isNumber, _ => false
  | isNotNegative, .int number => !decide (number < 0)
  | isNotNegative, .float number => !decide (number < 0)
  | isNotNegative, _ => true
  | isNotZero, .int number => !(number == 0)
  | isNotZero, .float number => !(number == 0)
  | isNotZero, _ => true
  | isText, .text _ => true
  | isText, _ => false

/-- What is said of the value of a key that does not meet a demand. -/
def complaint (name : String) (value : Json.Value) : Demand → String
  | isNumber => name ++ " must be a number of seconds, got " ++ value.display
  | isNotNegative => name ++ " can't be negative, got " ++ value.display
  | isNotZero => name ++ " must be greater than 0"
  | isText => name ++ " must be a level name, got " ++ value.display

end Demand

/-- What is demanded of the values of the keys, in the order in which it is checked. -/
def demands : List (Key × Demand) := [
  (.newWindowTimeout, .isNumber),
  (.newWindowTimeout, .isNotNegative),
  (.pollFrequency, .isNumber),
  (.pollFrequency, .isNotNegative),
  (.pollFrequency, .isNotZero),
  (.logLevel, .isText)]

namespace Bindings

/-- The first of some demands that the values do not meet. -/
def unmet? (bindings : Bindings) (entries : List (Key × Demand)) : Option (Key × Demand) :=
  entries.find? fun entry ↦ !entry.2.isMet (bindings entry.1)

/-- The failure that reports a demand that is not met. -/
def refusal (bindings : Bindings) (entry : Key × Demand) : Failure :=
  .of .invalidValue (entry.2.complaint entry.1.name (bindings entry.1))

/-- For every key what the last member with it says, or the standard value if no member has it. -/
def last (members : Json.Members Json.Value) : Bindings :=
  fun key ↦ (members.get? key.name).getD key.standard

/-- Whatever is bound one after the other, the last value under the name of a key is the one that
remains. -/
theorem foldl_put_apply (members : Json.Members Json.Value) (bindings : Bindings) (key : Key) :
    members.foldl (fun bindings member ↦ bindings.put member.1 member.2) bindings key =
      (members.reverse.lookup (Text.CodePoint.ofString key.name)).getD (bindings key) := by
  rw [List.foldl_eq_foldr_reverse]
  induction members.reverse with
  | nil => rfl
  | cons latest earlier ih =>
    obtain ⟨name, value⟩ := latest
    rw [List.foldr_cons, put, ih, Json.Members.lookup_cons]
    by_cases hname : name = Text.CodePoint.ofString key.name
    · rw [if_pos hname, if_pos hname.symm, Option.getD_some]
    · rw [if_neg hname, if_neg fun hsame ↦ hname hsame.symm]

/-- Updating the standard bindings with the members of an object, each key once, comes to the same as
looking for the last member with every key. -/
theorem ofMembers_eq_last (members : Json.Members Json.Value) : ofMembers members = last members := by
  funext key
  rw [ofMembers, foldl_put_apply, Json.Members.lookup_reverse_settled]
  rfl

end Bindings

/-! ## Checks -/

section

variable {α β : Type} {bindings : Bindings} {entries further : List (Key × Demand)}

/-- An outcome is a success if the values meet some demands, and otherwise the refusal for the first
demand that they do not meet. -/
def Judges (bindings : Bindings) (entries : List (Key × Demand)) (outcome : Except Failure α) :
    Prop :=
  match bindings.unmet? entries with
  | none => ∃ value, outcome = .ok value
  | some entry => outcome = .error (bindings.refusal entry)

@[simp]
theorem judges_nil {outcome : Except Failure α} :
    Judges bindings [] outcome ↔ ∃ value, outcome = .ok value :=
  Iff.rfl

/-- The first demand that is not met decides. -/
@[simp]
theorem judges_cons {entry : Key × Demand} {outcome : Except Failure α} :
    Judges bindings (entry :: entries) outcome ↔
      if entry.2.isMet (bindings entry.1) then Judges bindings entries outcome
      else outcome = .error (bindings.refusal entry) := by
  unfold Judges Bindings.unmet?
  rw [List.find?_cons]
  cases entry.2.isMet (bindings entry.1) <;> rfl

/-- The demands of the second check come after those of the first. -/
theorem Judges.bind {first : Except Failure α} {next : α → Except Failure β}
    (hfirst : Judges bindings entries first)
    (hnext : ∀ value, first = .ok value → Judges bindings further (next value)) :
    Judges bindings (entries ++ further) (first >>= next) := by
  induction entries with
  | nil =>
    obtain ⟨value, rfl⟩ := judges_nil.1 hfirst
    exact hnext value rfl
  | cons entry entries ih =>
    rw [List.cons_append, judges_cons]
    rw [judges_cons] at hfirst
    split at hfirst
    · next hmet =>
      rw [if_pos hmet]
      exact ih hfirst
    · next hunmet =>
      rw [if_neg hunmet, hfirst]
      rfl

variable (bindings) (key : Key)

/-- A number of seconds is asked for first, and then its sign is looked at. -/
theorem judges_checkSeconds :
    Judges bindings [(key, .isNumber), (key, .isNotNegative)]
      (checkSeconds key.name (bindings key)) := by
  cases hvalue : bindings key with
  | int number =>
    by_cases hnumber : number < 0
    · simp [Bindings.refusal, Demand.isMet, Demand.complaint, checkSeconds, hvalue, hnumber]
    · simp [Demand.isMet, checkSeconds, hvalue, hnumber]
  | float number =>
    by_cases hnumber : number < 0
    · simp [Bindings.refusal, Demand.isMet, Demand.complaint, checkSeconds, hvalue, hnumber]
    · simp [Demand.isMet, checkSeconds, hvalue, hnumber]
  | null | bool _ | text _ | array _ | object _ =>
    simp [Bindings.refusal, Demand.isMet, Demand.complaint, checkSeconds, hvalue]

def secondsOf? : Json.Value → Option (Seconds Float)
  | .int number => some (.whole number)
  | .float number => some (.measured number)
  | _ => none

theorem secondsOf?_of_checkSeconds {name : String} {value : Json.Value} {seconds : Seconds Float}
    (hcheck : checkSeconds name value = .ok seconds) : secondsOf? value = some seconds := by
  unfold checkSeconds at hcheck
  split at hcheck
  · split at hcheck
    · cases hcheck
    · cases hcheck
      rfl
  · split at hcheck
    · cases hcheck
    · cases hcheck
      rfl
  · cases hcheck

/-- The check for zero judges by that demand alone. -/
theorem judges_checkNonzero {seconds : Seconds Float}
    (hseconds : secondsOf? (bindings key) = some seconds) :
    Judges bindings [(key, .isNotZero)] (checkNonzero key.name seconds) := by
  cases hvalue : bindings key with
  | int number =>
    rw [hvalue] at hseconds
    cases hseconds
    by_cases hnumber : number = 0
    · simp [Bindings.refusal, Demand.isMet, Demand.complaint, checkNonzero, hvalue, hnumber]
    · simp [Demand.isMet, checkNonzero, hvalue, hnumber]
  | float number =>
    rw [hvalue] at hseconds
    cases hseconds
    cases hnumber : number == 0 with
    | true =>
      simp [Bindings.refusal, Demand.isMet, Demand.complaint, checkNonzero, hvalue, hnumber]
    | false => simp [Demand.isMet, checkNonzero, hvalue, hnumber]
  | null | bool _ | text _ | array _ | object _ =>
    rw [hvalue] at hseconds
    cases hseconds

theorem judges_checkLevel :
    Judges bindings [(key, .isText)] (checkLevel key.name (bindings key)) := by
  cases hvalue : bindings key with
  | text level => simp [Demand.isMet, checkLevel, hvalue]
  | null | bool _ | int _ | float _ | array _ | object _ =>
    simp [Bindings.refusal, Demand.isMet, Demand.complaint, checkLevel, hvalue]

theorem eq_text_of_checkLevel {name : String} {value : Json.Value} {level : List Text.CodePoint}
    (hcheck : checkLevel name value = .ok level) : value = .text level := by
  unfold checkLevel at hcheck
  split at hcheck
  · cases hcheck
    rfl
  · cases hcheck

/-- The checks make all demands in their order. -/
theorem judges_ofValues :
    Judges bindings demands
      (ofValues (bindings .newWindowTimeout) (bindings .pollFrequency) (bindings .logLevel)) := by
  refine Judges.bind (judges_checkSeconds bindings .newWindowTimeout) fun newWindowTimeout _ ↦ ?_
  refine Judges.bind (judges_checkSeconds bindings .pollFrequency) fun pollFrequency hpoll ↦ ?_
  refine Judges.bind (judges_checkNonzero bindings .pollFrequency (secondsOf?_of_checkSeconds hpoll))
    fun _ _ ↦ ?_
  refine Judges.bind (judges_checkLevel bindings .logLevel) fun logLevel _ ↦ ?_
  exact ⟨_, rfl⟩

end

/-! ## Decisions -/

/-- Settings hold the values that are bound. -/
structure IsMadeOf (settings : Settings Float) (bindings : Bindings) : Prop where
  newWindowTimeout : secondsOf? (bindings .newWindowTimeout) = some settings.newWindowTimeout
  pollFrequency : secondsOf? (bindings .pollFrequency) = some settings.pollFrequency
  logLevel : bindings .logLevel = .text settings.logLevel

namespace Bindings

/-- What comes of settings is decided by the values of the keys.  They are made exactly if all demands
are met, and then hold these values; otherwise the first demand that is not met is what they are
refused for. -/
structure Decides (bindings : Bindings) (outcome : Except Failure (Settings Float)) : Prop where
  exists_ok_iff : (∃ settings, outcome = .ok settings) ↔
    ∀ entry ∈ demands, entry.2.isMet (bindings entry.1) = true
  of_ok : ∀ settings, outcome = .ok settings → settings.IsMadeOf bindings
  of_unmet : ∀ entry, bindings.unmet? demands = some entry → outcome = .error (bindings.refusal entry)

/-- The demands decide, in their order, what comes of three values. -/
theorem decides_ofValues (bindings : Bindings) :
    bindings.Decides
      (ofValues (bindings .newWindowTimeout) (bindings .pollFrequency) (bindings .logLevel)) where
  exists_ok_iff := by
    have hjudges := judges_ofValues bindings
    have hmet : bindings.unmet? demands = none ↔
        ∀ entry ∈ demands, entry.2.isMet (bindings entry.1) = true := by
      simp [unmet?]
    rw [← hmet]
    unfold Judges at hjudges
    cases hunmet : bindings.unmet? demands with
    | none =>
      rw [hunmet] at hjudges
      exact iff_of_true hjudges rfl
    | some entry =>
      rw [hunmet] at hjudges
      refine iff_of_false ?_ (Option.some_ne_none entry)
      rintro ⟨settings, hok⟩
      cases hjudges.symm.trans hok
  of_ok settings hok := by
    obtain ⟨newWindowTimeout, htimeout, hrest⟩ := exists_of_bind_eq_ok hok
    obtain ⟨pollFrequency, hpoll, hrest⟩ := exists_of_bind_eq_ok hrest
    obtain ⟨_, -, hrest⟩ := exists_of_bind_eq_ok hrest
    obtain ⟨logLevel, hlevel, hsettings⟩ := exists_of_bind_eq_ok hrest
    obtain rfl := Except.ok.inj hsettings
    exact
      { newWindowTimeout := secondsOf?_of_checkSeconds htimeout
        pollFrequency := secondsOf?_of_checkSeconds hpoll
        logLevel := eq_text_of_checkLevel hlevel }
  of_unmet entry hunmet := by
    have hjudges := judges_ofValues bindings
    unfold Judges at hjudges
    rwa [hunmet] at hjudges

/-- Under every key there is the same value, once repeated keys inside the values are settled. -/
def Agree (bindings other : Bindings) : Prop :=
  ∀ key, (bindings key).settled = (other key).settled

end Bindings

theorem checkSeconds_settled (name : String) (value : Json.Value) :
    checkSeconds name value.settled = checkSeconds name value := by
  have hdisplay := value.display_settled
  cases value with
  | array items | object members =>
    rw [Json.Value.settled] at hdisplay ⊢
    simp only [checkSeconds, hdisplay]
  | null | bool _ | int _ | float _ | text _ => rfl

theorem checkLevel_settled (name : String) (value : Json.Value) :
    checkLevel name value.settled = checkLevel name value := by
  have hdisplay := value.display_settled
  cases value with
  | array items | object members =>
    rw [Json.Value.settled] at hdisplay ⊢
    simp only [checkLevel, hdisplay]
  | null | bool _ | int _ | float _ | text _ => rfl

/-- Objects among the values are refused alike, settled or not. -/
theorem ofValues_settled (timeout pause level : Json.Value) :
    ofValues timeout.settled pause.settled level.settled = ofValues timeout pause level := by
  unfold ofValues
  simp only [checkSeconds_settled, checkLevel_settled]

/-! ## Files -/

/-- A file holds an object with some members: its octets are those of a text, and the text can be read
as a document. -/
def Holds (octets : List UInt8) (members : Json.Members Json.Value) : Prop :=
  ∃ text, Text.Utf8.decode octets = .ok text ∧
    Json.parse (Text.unifyLineEndings text) = .ok (.object members)

/-- The text of a file spells an object out, with all its members in their order. -/
def Spells (octets : List UInt8) (members : Json.Members Json.Value) : Prop :=
  ∃ text, Text.Utf8.decode octets = .ok text ∧
    (Json.lexemes 0 0 (Text.unifyLineEndings text)).map Json.Lexeme.token =
      (Json.Value.object members).tokens

section

variable {octets : List UInt8} {members : Json.Members Json.Value}

theorem Holds.spells (hholds : Holds octets members) : Spells octets members := by
  obtain ⟨text, htext, hparse⟩ := hholds
  refine ⟨text, htext, Json.lexemes_of_read?_eq_ok ?_⟩
  unfold Json.parse at hparse
  cases hread : Json.read? (Text.unifyLineEndings text) with
  | error problem =>
    rw [hread] at hparse
    cases hparse
  | ok value =>
    rw [hread] at hparse
    exact congrArg Except.ok (Except.ok.inj hparse)

/-- A file that holds members is judged by the last value of each key. -/
theorem Holds.load_eq (hholds : Holds octets members) :
    load (.file octets) = ofValues (Bindings.last members .newWindowTimeout)
      (Bindings.last members .pollFrequency) (Bindings.last members .logLevel) := by
  obtain ⟨text, htext, hparse⟩ := hholds
  rw [load, ofOctets, htext]
  change (Json.parse (Text.unifyLineEndings text) >>= ofValue) = _
  rw [hparse, ← Bindings.ofMembers_eq_last]
  rfl

/-- What comes of loading settings from a file that holds an object is decided by what the last member
with each key says in the text, and by the standard values of the other keys; another file that says
the same comes to the same. -/
theorem decides_load (hholds : Holds octets members) :
    Spells octets members ∧ (Bindings.last members).Decides (load (.file octets)) ∧
      ∀ other otherMembers, Holds other otherMembers →
        (Bindings.last otherMembers).Agree (Bindings.last members) →
          load (.file other) = load (.file octets) := by
  refine ⟨hholds.spells, ?_, ?_⟩
  · rw [hholds.load_eq]
    exact Bindings.decides_ofValues _
  · intro other otherMembers hother hagree
    rw [hother.load_eq, hholds.load_eq, ← ofValues_settled, hagree, hagree, hagree, ofValues_settled]

end

/-- An object in which keys are repeated, also inside a value, and a value has a member with the name of
another key. -/
def crowded : Json.Members Json.Value := [
  (Text.CodePoint.ofString "log_level", .int 7),
  (Text.CodePoint.ofString "window",
    .object [(Text.CodePoint.ofString "new_window_timeout", .int (-1))]),
  (Text.CodePoint.ofString "poll_frequency", .int 0),
  (Text.CodePoint.ofString "log_level",
    .object [(Text.CodePoint.ofString "a", .int 1), (Text.CodePoint.ofString "a", .int 2)]),
  (Text.CodePoint.ofString "poll_frequency", .int (-2))]

/-- An object with the last values of the crowded one, in another order. -/
def sparse : Json.Members Json.Value := [
  (Text.CodePoint.ofString "poll_frequency", .int (-2)),
  (Text.CodePoint.ofString "log_level", .object [(Text.CodePoint.ofString "a", .int 2)])]

def crowdedDocument : String :=
  "\x7b\"log_level\": 7, \"window\": \x7b\"new_window_timeout\": -1\x7d, \"poll_frequency\": 0, " ++
    "\"log_level\": \x7b\"a\": 1, \"a\": 2\x7d, \"poll_frequency\": -2\x7d"

def sparseDocument : String :=
  "\x7b\"poll_frequency\": -2, \"log_level\": \x7b\"a\": 2\x7d\x7d"

set_option maxRecDepth 4000 in
theorem holds_crowdedDocument : Holds crowdedDocument.toUTF8.data.toList crowded :=
  ⟨crowdedDocument.toList, by decide +kernel, rfl⟩

set_option maxRecDepth 4000 in
theorem holds_sparseDocument : Holds sparseDocument.toUTF8.data.toList sparse :=
  ⟨sparseDocument.toList, by decide +kernel, rfl⟩

/-- Two values of both objects are mistakes, and both files are refused for the earlier one: neither
the time to wait in another value nor the pause of zero, which is replaced, matters. -/
theorem decides_load_crowdedDocument :
    Holds crowdedDocument.toUTF8.data.toList crowded ∧
      Holds sparseDocument.toUTF8.data.toList sparse ∧
      (Bindings.last sparse).Agree (Bindings.last crowded) ∧
      load (.ofText crowdedDocument) =
        .error (.of .invalidValue "poll_frequency can't be negative, got -2") ∧
      load (.ofText sparseDocument) = load (.ofText crowdedDocument) := by
  have hagree : (Bindings.last sparse).Agree (Bindings.last crowded) := by
    intro key
    cases key <;> rfl
  obtain ⟨-, hdecides, hsame⟩ := decides_load holds_crowdedDocument
  refine ⟨holds_crowdedDocument, holds_sparseDocument, hagree, ?_,
    hsame _ _ holds_sparseDocument hagree⟩
  have hrefused := hdecides.of_unmet (.pollFrequency, .isNotNegative) (by decide +kernel)
  exact hrefused.trans (by rfl)

end BrowserControl.Settings
