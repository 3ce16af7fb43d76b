import BrowserControl.Failure

/-!
# Attempts

An operation on a browser reads and changes a state, and yields a value or a failure.  A failure does not
undo anything: what was changed before it stays changed, also when the failure is handled.  `perform` runs an
attempt from a state and gives both its outcome and the state it leaves behind; the lemmas below
describe every way to build attempts by what `perform` makes of it.
-/

namespace BrowserControl

/-- An operation on states of type `σ` that yields a value of type `α` or fails. -/
abbrev Attempt (σ α : Type) :=
  ExceptT Failure (StateM σ) α

namespace Attempt

variable {σ ρ α β : Type}

/-- The outcome of an attempt, and the state that it leaves behind. -/
def perform (attempt : Attempt σ α) (state : σ) : Except Failure α × σ :=
  attempt.run.run state

@[simp]
theorem perform_pure (value : α) (state : σ) :
    perform (pure value) state = (.ok value, state) :=
  rfl

@[simp]
theorem perform_throw (failure : Failure) (state : σ) :
    perform (throw failure : Attempt σ α) state = (.error failure, state) :=
  rfl

@[simp]
theorem perform_get (state : σ) : perform get state = (.ok state, state) :=
  rfl

@[simp]
theorem perform_modify (change : σ → σ) (state : σ) :
    perform (modify change) state = (.ok PUnit.unit, change state) :=
  rfl

/-- What comes second starts where what comes first left the state, or not at all. -/
theorem perform_bind (first : Attempt σ α) (next : α → Attempt σ β) (state : σ) :
    perform (first >>= next) state =
      match perform first state with
      | (.ok value, later) => perform (next value) later
      | (.error failure, later) => (.error failure, later) := by
  change perform (ExceptT.bind first next) state = _
  unfold perform ExceptT.bind ExceptT.mk ExceptT.run
  simp only [StateT.run_bind]
  rcases houtcome : (first : StateM σ (Except Failure α)) state with ⟨result, later⟩
  cases result <;> simp [StateT.run, houtcome, ExceptT.bindCont] <;> rfl

/-- An attempt in two parts succeeds only if both parts do. -/
theorem bind_eq_ok {first : Attempt σ α} {next : α → Attempt σ β} {state later : σ} {value : β}
    (hbind : perform (first >>= next) state = (.ok value, later)) :
    ∃ found middle, perform first state = (.ok found, middle) ∧
      perform (next found) middle = (.ok value, later) := by
  rw [perform_bind] at hbind
  generalize perform first state = result at hbind
  rcases result with ⟨failure | found, middle⟩
  · cases hbind
  · exact ⟨found, middle, rfl, hbind⟩

/-- Changing a value changes neither the failures nor the states of an attempt. -/
theorem perform_map (change : α → β) (attempt : Attempt σ α) (state : σ) :
    perform (change <$> attempt) state =
      ((perform attempt state).1.map change, (perform attempt state).2) := by
  rw [map_eq_pure_bind, perform_bind]
  rcases perform attempt state with ⟨outcome, later⟩
  cases outcome <;> rfl

/-- A handler starts from the state in which the attempt failed: nothing is undone. -/
theorem perform_tryCatch (attempt : Attempt σ α) (handle : Failure → Attempt σ α) (state : σ) :
    perform (tryCatch attempt handle) state =
      match perform attempt state with
      | (.ok value, later) => (.ok value, later)
      | (.error failure, later) => perform (handle failure) later := by
  change perform (ExceptT.tryCatch attempt handle) state = _
  unfold perform ExceptT.tryCatch ExceptT.mk ExceptT.run
  simp only [StateT.run_bind]
  rcases houtcome : (attempt : StateM σ (Except Failure α)) state with ⟨result, later⟩
  cases result <;> simp [StateT.run, houtcome] <;> rfl

/-- Run an attempt, and another one in place of a failure of a kind that is prepared for. -/
def recover (attempt : Attempt σ α) (kind : Kind) (handle : Failure → Attempt σ α) :
    Attempt σ α :=
  tryCatch attempt fun failure ↦ if failure.kind.isA kind then handle failure else throw failure

/-- Only a failure of the kind in question reaches the handler. -/
theorem perform_recover (attempt : Attempt σ α) (kind : Kind) (handle : Failure → Attempt σ α)
    (state : σ) :
    perform (recover attempt kind handle) state =
      match perform attempt state with
      | (.ok value, later) => (.ok value, later)
      | (.error failure, later) =>
        if failure.kind.isA kind then perform (handle failure) later
        else (.error failure, later) := by
  unfold recover
  rw [perform_tryCatch]
  rcases perform attempt state with ⟨outcome, later⟩
  cases outcome with
  | ok value => rfl
  | error failure => by_cases hexpected : failure.kind.isA kind <;> simp [hexpected]

/-- Failures that are prepared for are reported in other words, and all others come out as they are. -/
theorem perform_recover_throw (attempt : Attempt σ α) (kind : Kind) (report : Failure → Failure)
    (state : σ) :
    perform (recover attempt kind fun failure ↦ throw (report failure)) state =
      ((perform attempt state).1.mapError fun failure ↦
        if failure.kind.isA kind then report failure else failure, (perform attempt state).2) := by
  rw [perform_recover]
  rcases perform attempt state with ⟨failure | value, later⟩
  · change _ = (Except.error (if failure.kind.isA kind then report failure else failure), later)
    by_cases hexpected : failure.kind.isA kind <;> simp [hexpected]
  · rfl

def ofExcept : Except Failure α → Attempt σ α
  | .ok value => pure value
  | .error failure => throw failure

@[simp]
theorem perform_ofExcept (outcome : Except Failure α) (state : σ) :
    perform (ofExcept outcome) state = (outcome, state) := by
  cases outcome <;> rfl

/-- The same attempt on a part of a larger state; nothing else of the larger state changes. -/
def onPart (part : σ → ρ) (replace : ρ → σ → σ) (attempt : Attempt ρ α) : Attempt σ α :=
  fun state ↦
    let (outcome, changed) := perform attempt (part state)
    (outcome, replace changed state)

/-- An attempt at a part leaves the rest of the state to the replacement. -/
@[simp]
theorem perform_onPart (part : σ → ρ) (replace : ρ → σ → σ) (attempt : Attempt ρ α) (state : σ) :
    perform (onPart part replace attempt) state =
      ((perform attempt (part state)).1, replace (perform attempt (part state)).2 state) :=
  rfl

/-! ## What holds of every run -/

/-- A relation between states that can be followed from one attempt to the next. -/
structure Composes (relation : σ → σ → Prop) : Prop where
  refl : ∀ state, relation state state
  trans : ∀ {first second third}, relation first second → relation second third →
    relation first third

/-- Whatever comes of the attempt, the state it leaves behind is related to the one it found. -/
def Moves (relation : σ → σ → Prop) (attempt : Attempt σ α) : Prop :=
  ∀ state, relation state (attempt.perform state).2

/-- Every value that the attempt yields has a property. -/
def Yields (property : α → Prop) (attempt : Attempt σ α) : Prop :=
  ∀ state value, (attempt.perform state).1 = .ok value → property value

section

variable {relation : σ → σ → Prop}

theorem Moves.map {attempt : Attempt σ α} (hattempt : attempt.Moves relation) (change : α → β) :
    (change <$> attempt).Moves relation := by
  intro state
  rw [perform_map]
  exact hattempt state

variable (hrelation : Composes relation)

include hrelation

/-- An outcome that is already there moves nothing. -/
theorem moves_ofExcept (outcome : Except Failure α) :
    (ofExcept outcome : Attempt σ α).Moves relation := by
  intro state
  rw [perform_ofExcept]
  exact hrelation.refl state

theorem moves_pure (value : α) : (pure value : Attempt σ α).Moves relation :=
  moves_ofExcept hrelation (.ok value)

theorem moves_throw (failure : Failure) : (throw failure : Attempt σ α).Moves relation :=
  moves_ofExcept hrelation (.error failure)

theorem moves_get : (get : Attempt σ σ).Moves relation :=
  hrelation.refl

/-- Moves compose, whichever way the first attempt ends. -/
theorem Moves.bind {first : Attempt σ α} {next : α → Attempt σ β}
    (hfirst : first.Moves relation) (hnext : ∀ value, (next value).Moves relation) :
    (first >>= next).Moves relation := by
  intro state
  have hstate := hfirst state
  rw [perform_bind]
  generalize first.perform state = result at hstate ⊢
  rcases result with ⟨failure | value, later⟩
  · exact hstate
  · exact hrelation.trans hstate (hnext value later)

/-- Recovering moves the state twice at most, by the attempt and by its handler. -/
theorem Moves.recover {attempt : Attempt σ α} {kind : Kind} {handle : Failure → Attempt σ α}
    (hattempt : attempt.Moves relation) (hhandle : ∀ failure, (handle failure).Moves relation) :
    (Attempt.recover attempt kind handle).Moves relation := by
  intro state
  have hstate := hattempt state
  rw [perform_recover]
  generalize attempt.perform state = result at hstate ⊢
  rcases result with ⟨failure | value, later⟩
  · by_cases hexpected : failure.kind.isA kind = true
    · simpa [hexpected] using hrelation.trans hstate (hhandle failure later)
    · simpa [hexpected] using hstate
  · exact hstate

end

section

variable {property : α → Prop}

theorem yields_pure {value : α} (hvalue : property value) :
    (pure value : Attempt σ α).Yields property := by
  intro state other houtcome
  cases houtcome
  exact hvalue

theorem yields_throw (failure : Failure) : (throw failure : Attempt σ α).Yields property := by
  intro state value houtcome
  cases houtcome

/-- What the last attempt yields does not depend on how its argument was found. -/
theorem yields_bind_of_next {first : Attempt σ β} {next : β → Attempt σ α}
    (hnext : ∀ value, (next value).Yields property) : (first >>= next).Yields property := by
  intro state value houtcome
  rw [perform_bind] at houtcome
  generalize first.perform state = result at houtcome
  rcases result with ⟨failure | found, later⟩
  · cases houtcome
  · exact hnext found later value houtcome

/-- A property of the values on the way carries one of the values at the end. -/
theorem Yields.bind {middle : β → Prop} {first : Attempt σ β} {next : β → Attempt σ α}
    (hfirst : first.Yields middle)
    (hnext : ∀ value, middle value → (next value).Yields property) :
    (first >>= next).Yields property := by
  intro state value houtcome
  have hmiddle := hfirst state
  rw [perform_bind] at houtcome
  generalize first.perform state = result at hmiddle houtcome
  rcases result with ⟨failure | found, later⟩
  · cases houtcome
  · exact hnext found (hmiddle found rfl) later value houtcome

theorem Yields.onPart {attempt : Attempt ρ α} (hattempt : attempt.Yields property) (part : σ → ρ)
    (replace : ρ → σ → σ) : (Attempt.onPart part replace attempt).Yields property :=
  fun state value houtcome ↦ hattempt (part state) value houtcome

/-- A value of a recovered attempt comes from the attempt or from its handler. -/
theorem Yields.recover {attempt : Attempt σ α} {kind : Kind} {handle : Failure → Attempt σ α}
    (hattempt : attempt.Yields property) (hhandle : ∀ failure, (handle failure).Yields property) :
    (Attempt.recover attempt kind handle).Yields property := by
  intro state value houtcome
  have hvalue := hattempt state
  rw [perform_recover] at houtcome
  generalize attempt.perform state = result at hvalue houtcome
  rcases result with ⟨failure | found, later⟩
  · by_cases hexpected : failure.kind.isA kind = true
    · simp only [hexpected, if_true] at houtcome
      exact hhandle failure later value houtcome
    · simp [hexpected] at houtcome
  · exact hvalue value houtcome

end

end Attempt

end BrowserControl
