import BrowserControl.Attempt

/-!
# Faults

A simulated browser can be told to fail.  A fault is planned for one method of one object: it lets the method
go on normally a number of times, then fails it, every time or a limited number of times.  Whenever the
method runs, its plan is consulted, and the plan counts down.
-/

namespace BrowserControl

/-- A planned failure: how often the method still goes on normally, and how often it then fails; no limit
means for ever. -/
structure Fault where
  failure : Failure
  skip : Nat
  times : Option Nat
  deriving Repr

namespace Fault

/-- Whether the fault strikes when its method runs, and what remains of the plan. -/
def consult (fault : Fault) : Option Failure × Fault :=
  match fault.skip, fault.times with
  | skip + 1, _ => (none, { fault with skip })
  | 0, some 0 => (none, fault)
  | 0, some (times + 1) => (some fault.failure, { fault with times := some times })
  | 0, none => (some fault.failure, fault)

end Fault

/-- What is planned for a method; most methods have no fault. -/
abbrev Plan :=
  Option Fault

namespace Plan

def outcome (plan : Plan) : Except Failure Unit :=
  match plan.bind fun fault ↦ fault.consult.1 with
  | none => .ok ()
  | some failure => .error failure

def next (plan : Plan) : Plan :=
  plan.map fun fault ↦ fault.consult.2

@[simp]
theorem outcome_none : outcome none = .ok () :=
  rfl

@[simp]
theorem next_none : next none = none :=
  rfl

end Plan

/-- Consult the plan kept at a place in the state, and fail if its fault strikes. -/
def strike {σ : Type} (plan : σ → Plan) (replace : Plan → σ → σ) : Attempt σ Unit := do
  match plan (← get) with
  | none => pure ()
  | some fault =>
    modify (replace fault.consult.2)
    match fault.consult.1 with
    | none => pure ()
    | some failure => throw failure

/-- Consulting a plan changes nothing but the plan, which is put back where it was. -/
theorem perform_strike {σ : Type} (plan : σ → Plan) (replace : Plan → σ → σ) (state : σ)
    (hreplace : replace (plan state) state = state) :
    (strike plan replace).perform state =
      ((plan state).outcome, replace (plan state).next state) := by
  unfold strike
  rw [Attempt.perform_bind, Attempt.perform_get]
  cases hplan : plan state with
  | none =>
    rw [hplan] at hreplace
    simp [hplan, hreplace]
  | some fault =>
    simp only [hplan, Attempt.perform_bind, Attempt.perform_modify, Plan.outcome, Plan.next,
      Option.bind_some, Option.map_some]
    cases fault.consult.1 with
    | none => rfl
    | some failure => rfl

/-- Where nothing is planned, nothing happens. -/
theorem perform_strike_of_eq_none {σ : Type} {plan : σ → Plan} {state : σ}
    (hplan : plan state = none) (replace : Plan → σ → σ) :
    (strike plan replace).perform state = (.ok (), state) := by
  unfold strike
  rw [Attempt.perform_bind, Attempt.perform_get]
  simp [hplan]

end BrowserControl
