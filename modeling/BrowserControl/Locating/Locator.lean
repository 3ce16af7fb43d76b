import BrowserControl.Failure
import BrowserControl.Text.Quoted
import BrowserControl.Text.Uppercase

/-!
# Locators

A plain locator names a strategy and a value, such as the strategy `css selector` and a selector.  A chain
of locators looks for each of its members inside what the member before it has found; its members
may be chains themselves.

Strategies that browsers know have a suffix, in capitals with underscores, by which locators can be built
(`Locator.ofSuffix`) and by which they are described.  A locator is described in two ways: `describe` is meant
for readers, and `sourceText`, which quotes every text, for telling any two locators apart.
-/

namespace BrowserControl

/-- Says how to find elements below an element. -/
inductive Locator where
  | plain (strategy value : String)
  | chain (members : List Locator)
  deriving Repr

namespace Locator

/-! ## Equality -/

mutual

def decideEq : (left right : Locator) → Decidable (left = right)
  | plain strategy value, plain strategy' value' =>
    if hsame : strategy = strategy' ∧ value = value' then
      isTrue (by rw [hsame.1, hsame.2])
    else
      isFalse (by simpa using hsame)
  | chain members, chain members' =>
    match decideEqMembers members members' with
    | isTrue hsame => isTrue (by rw [hsame])
    | isFalse hne => isFalse (by simpa using hne)
  | plain _ _, chain _ => isFalse nofun
  | chain _, plain _ _ => isFalse nofun

def decideEqMembers : (left right : List Locator) → Decidable (left = right)
  | [], [] => isTrue rfl
  | [], _ :: _ => isFalse nofun
  | _ :: _, [] => isFalse nofun
  | first :: rest, first' :: rest' =>
    match decideEq first first', decideEqMembers rest rest' with
    | isTrue hfirst, isTrue hrest => isTrue (by rw [hfirst, hrest])
    | isFalse hne, _ => isFalse (by simp [hne])
    | _, isFalse hne => isFalse (by simp [hne])

end

instance : DecidableEq Locator :=
  decideEq

mutual

def hashCode : Locator → UInt64
  | plain strategy value => mixHash 3 (mixHash (hash strategy) (hash value))
  | chain members => mixHash 5 (hashMembers members)

def hashMembers : List Locator → UInt64
  | [] => 7
  | first :: rest => mixHash (hashCode first) (hashMembers rest)

end

instance : Hashable Locator :=
  ⟨hashCode⟩

/-! ## Suffixes -/

/-- The suffixes and the strategies they stand for. -/
def suffixes : List (String × String) := [
  ("ID", "id"),
  ("NAME", "name"),
  ("XPATH", "xpath"),
  ("LINK_TEXT", "link text"),
  ("PARTIAL_LINK_TEXT", "partial link text"),
  ("TAG_NAME", "tag name"),
  ("CLASS_NAME", "class name"),
  ("CSS_SELECTOR", "css selector")]

def suffixOf? (strategy : String) : Option String :=
  (suffixes.find? fun entry ↦ entry.2 = strategy).map Prod.fst

/-- The plain locator whose strategy has a suffix, given in any letter case. -/
def ofSuffix (suffix value : String) : Except Failure Locator :=
  let capitals := Text.upperCase suffix
  match suffixes.lookup capitals with
  | some strategy => .ok (plain strategy value)
  | none => .error (.of .invalidValue ("Invalid by_suffix: " ++ capitals))

/-! ## Descriptions -/

mutual

/-- A locator as shown to readers; a strategy without a suffix is shown as it is. -/
def describe : Locator → String
  | plain strategy value => "By." ++ (suffixOf? strategy).getD strategy ++ ": " ++ value
  | chain members => "By.chained(\x7b" ++ ",".intercalate (describeMembers members) ++ "\x7d)"

def describeMembers : List Locator → List String
  | [] => []
  | first :: rest => describe first :: describeMembers rest

end

mutual

/-- The characters of a locator written out with every text quoted. -/
def sourceCharacters : Locator → List Char
  | plain strategy value =>
    "Locator(by=".toList ++ Text.quotedCharacters (Text.CodePoint.ofString strategy) ++
      ", value=".toList ++ Text.quotedCharacters (Text.CodePoint.ofString value) ++ [')']
  | chain members => "ChainedLocator(".toList ++ sourceMembers members ++ [')']

def sourceMembers : List Locator → List Char
  | [] => []
  | [member] => sourceCharacters member
  | member :: next :: rest => sourceCharacters member ++ ", ".toList ++ sourceMembers (next :: rest)

end

def sourceText (locator : Locator) : String :=
  String.ofList (sourceCharacters locator)

/-- Each member of a chain is described as it would be alone. -/
@[simp]
theorem describeMembers_eq_map (members : List Locator) :
    describeMembers members = members.map describe := by
  induction members with
  | nil => rfl
  | cons first rest ih => simp [describeMembers, ih]

end Locator

end BrowserControl
