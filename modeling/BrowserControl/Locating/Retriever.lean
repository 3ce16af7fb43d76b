import BrowserControl.Locating.Search

/-!
# Retrievers

A retriever looks elements up from a fixed starting point.  The basic one only looks them up; a displayed
one, put around another retriever, gives out an element only if it is displayed.

Displayed retrievers are stacked one around the other.  The innermost of them may be put around the
starting point itself, which is the same as putting it around a basic retriever (`layered_eq_stacked`).
-/

namespace BrowserControl

/-- Looks elements up on behalf of a caller. -/
inductive Retriever where
  | basic (driver : Element)
  | displayed (inner : Retriever)

namespace Retriever

def driver : Retriever → Element
  | basic driver => driver
  | displayed inner => inner.driver

def findElement : Retriever → Locator → Attempt Page Element
  | basic driver, locator => locator.findElement driver
  | displayed inner, locator => do
    let element ← inner.findElement locator
    if ← element.isDisplayed then pure element
    else throw (.of .elementNotVisible ("Not visible: " ++ locator.describe))

/-- A number of displayed retrievers around a basic one. -/
def stacked (driver : Element) : Nat → Retriever
  | 0 => basic driver
  | layers + 1 => displayed (stacked driver layers)

/-- Layers around a driver all ask that driver. -/
@[simp]
theorem driver_stacked (driver : Element) (layers : Nat) :
    (stacked driver layers).driver = driver := by
  induction layers with
  | zero => rfl
  | succ layers ih => simpa [stacked, Retriever.driver] using ih

/-- What a displayed retriever can be put around: a retriever, or an element by itself. -/
inductive Base where
  | bare (driver : Element)
  | retriever (inner : Retriever)

/-- The retriever in a base; an element by itself is put into a basic one. -/
def Base.toRetriever : Base → Retriever
  | bare driver => .basic driver
  | retriever inner => inner

def displaying (base : Base) : Retriever :=
  displayed base.toRetriever

/-- A displayed retriever around a base, and a number of further ones around it. -/
def layered (base : Base) : (further : Nat) → Retriever
  | 0 => displaying base
  | further + 1 => displaying (.retriever (layered base further))

/-- Layers around an element, or around a basic retriever, make the same stack. -/
theorem layered_eq_stacked {base : Base} {driver : Element} (hbase : base.toRetriever = basic driver)
    (further : Nat) : layered base further = stacked driver (further + 1) := by
  induction further with
  | zero => exact congrArg displayed hbase
  | succ further ih => exact congrArg displayed ih

end Retriever

end BrowserControl
