import BrowserControl.Locating.Locator

/-!
# Comparing Locators

Locators are values: they can be compared, told apart and collected in sets.  A comparison of several
locators gives, for each, the first one it equals, and says how many different ones there are, whether equal
ones have equal hashes, and whether inequality is the opposite of equality.
-/

namespace BrowserControl.Locator

/-- What a comparison of several locators finds. -/
structure Comparison where
  classes : List Nat
  distinct : Nat
  hashesAgree : Bool
  inequalityNegates : Bool
  deriving DecidableEq, Repr

/-- The position of the first locator that equals the given one. -/
def firstEqual (locators : List Locator) (locator : Locator) : Nat :=
  locators.findIdx (· == locator)

def compare (locators : List Locator) : Comparison where
  classes := locators.map (firstEqual locators)
  distinct := locators.eraseDups.length
  hashesAgree := locators.all fun locator ↦
    hash locator == hash (locators.getD (firstEqual locators locator) locator)
  inequalityNegates := locators.all fun left ↦ locators.all fun right ↦
    (left != right) == !(left == right)

end BrowserControl.Locator
