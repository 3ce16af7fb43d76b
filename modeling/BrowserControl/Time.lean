import BrowserControl.Decimal.Shortest
import BrowserControl.Failure

/-!
# Time Scales

Points in time and spans of time are measured in seconds on a scale.  Running programs measure in binary64
numbers; laws about waiting are stated on exact rational numbers, where sums do not round.  A scale can add
and compare, knows half a second, takes whole numbers as far as it reaches, and can be written.

Spans of time that callers and settings give are either whole numbers, of any size, or numbers of the scale
already (`Seconds`).
-/

namespace BrowserControl

/-- A scale on which time is measured in seconds.  `pollLimit` bounds how often it makes sense to look again
while waiting for a given span with a given pause after each look. -/
class TimeScale (τ : Type) extends Zero τ, Add τ, LT τ, LE τ where
  decidableLT : DecidableLT τ
  decidableLE : DecidableLE τ
  half : τ
  ofInt? : Int → Option τ
  write : τ → String
  pollLimit : (span pause : τ) → Nat

namespace TimeScale

instance (priority := low) {τ : Type} [scale : TimeScale τ] : DecidableLT τ :=
  scale.decidableLT

instance (priority := low) {τ : Type} [scale : TimeScale τ] : DecidableLE τ :=
  scale.decidableLE

/-- Binary64 seconds.  Their sums round, so no count of pauses is certain to pass a deadline; the limit is one
that no run reaches. -/
instance : TimeScale Float where
  decidableLT := inferInstance
  decidableLE := inferInstance
  half := 0.5
  ofInt? := Decimal.ofInt?
  write := Decimal.writeFloat Decimal.standardLayout
  pollLimit _ _ := 0x4000000000000000

/-- Exact seconds.  The look after the last pause inside the span is the last but one. -/
instance : TimeScale Rat where
  toZero := ⟨Rat.ofInt 0⟩
  decidableLT := inferInstance
  decidableLE := inferInstance
  half := mkRat 1 2
  ofInt? integer := some (Rat.ofInt integer)
  write := toString
  pollLimit span pause := (span / pause).floor.toNat + 2

end TimeScale

/-- What a scale needs for waits to look at all: no time is a number of seconds, and whoever waits looks at least
once. -/
class LawfulTimeScale (τ : Type) [TimeScale τ] : Prop where
  exists_ofInt?_zero : ∃ span : τ, TimeScale.ofInt? 0 = some span
  pollLimit_pos : ∀ span pause : τ, 0 < TimeScale.pollLimit span pause

instance : LawfulTimeScale Float where
  exists_ofInt?_zero := ⟨Decimal.ofPattern false 0, rfl⟩
  pollLimit_pos _ _ := Nat.zero_lt_succ _

instance : LawfulTimeScale Rat where
  exists_ofInt?_zero := ⟨Rat.ofInt 0, rfl⟩
  pollLimit_pos _ _ := Nat.succ_pos _

/-- A span of time as it is given: a whole number of any size, or a number of the scale. -/
inductive Seconds (τ : Type) where
  | whole (number : Int)
  | measured (span : τ)
  deriving Repr

namespace Seconds

variable {τ : Type} [TimeScale τ]

def isPositive : Seconds τ → Bool
  | whole number => 0 < number
  | measured span => (0 : τ) < span

/-- The span on the scale; a whole number may be beyond it. -/
def onScale : Seconds τ → Except Failure τ
  | whole number =>
    match TimeScale.ofInt? number with
    | some span => .ok span
    | none => .error (.of .outOfRange "int too large to convert to float")
  | measured span => .ok span

def write : Seconds τ → String
  | whole number => toString number
  | measured span => TimeScale.write span

end Seconds

end BrowserControl
