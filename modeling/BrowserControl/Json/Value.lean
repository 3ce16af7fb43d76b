import BrowserControl.Decimal.Shortest
import BrowserControl.Text.Quoted

/-!
# Values of Structured Documents

A document holds a value: a text, a number, a truth value, nothing, or a list or an object of values.
Integers are kept apart from other numbers and have any size.

Objects are lists of members as they are written, so a key may be there more than once.  What the object says
of a key is what its last member with that key says (`Members.get?`); an object is shown with each key once, in
the place of its first member, which tells the same of every key (`Members.lookup_settled`).
-/

namespace BrowserControl.Json

/-- A value of a document. -/
inductive Value where
  | null
  | bool (value : Bool)
  | int (value : Int)
  | float (value : Float)
  | text (value : List Text.CodePoint)
  | array (items : List Value)
  | object (members : List (List Text.CodePoint × Value))

abbrev Members (α : Type) :=
  List (List Text.CodePoint × α)

namespace Members

variable {α : Type}

/-- The members with a key bound to a value; a key keeps its place, and a new one comes last. -/
def put (key : List Text.CodePoint) (value : α) : Members α → Members α
  | [] => [(key, value)]
  | (other, old) :: rest =>
    if other = key then (key, value) :: rest else (other, old) :: put key value rest

/-- The members that remain when each is put after the ones before it. -/
def settled (members : Members α) : Members α :=
  members.foldl (fun earlier member ↦ put member.1 member.2 earlier) []

/-- What the last member with a key says. -/
def get? (key : String) (members : Members α) : Option α :=
  members.reverse.lookup (Text.CodePoint.ofString key)

theorem lookup_cons (key other : List Text.CodePoint) (value : α) (rest : Members α) :
    List.lookup other ((key, value) :: rest) =
      if other = key then some value else rest.lookup other := by
  change (match other == key with
    | true => some value
    | false => rest.lookup other) = _
  cases hsame : other == key with
  | true => simp [eq_of_beq hsame]
  | false => simp [ne_of_beq_false hsame]

/-- A member that has been put is the one found under its key. -/
theorem lookup_put (key other : List Text.CodePoint) (value : α) (members : Members α) :
    (put key value members).lookup other =
      if other = key then some value else members.lookup other := by
  induction members with
  | nil => exact lookup_cons key other value []
  | cons first rest ih =>
    obtain ⟨firstKey, firstValue⟩ := first
    unfold put
    split
    · next hknown => grind [lookup_cons]
    · next hnew => grind [lookup_cons]

/-- In a settled object the last of the members with a key counts. -/
theorem lookup_settled (key : List Text.CodePoint) (members : Members α) :
    members.settled.lookup key = members.reverse.lookup key := by
  unfold settled
  rw [List.foldl_eq_foldr_reverse]
  induction members.reverse with
  | nil => rfl
  | cons last earlier ih =>
    obtain ⟨lastKey, lastValue⟩ := last
    simp only [List.foldr_cons, lookup_put, lookup_cons, ih]

end Members

namespace Value

def typeName : Value → String
  | null => "NoneType"
  | bool _ => "bool"
  | int _ => "int"
  | float _ => "float"
  | text _ => "str"
  | array _ => "list"
  | object _ => "dict"

mutual

/-- A value as shown in reports. -/
def display : Value → String
  | null => "None"
  | bool true => "True"
  | bool false => "False"
  | int value => toString value
  | float value => Decimal.writeFloat Decimal.standardLayout value
  | text value => Text.quotedCodePoints value
  | array items => "[" ++ ", ".intercalate (displayItems items) ++ "]"
  | object members =>
    "\x7b" ++ ", ".intercalate ((displayMembers members).settled.map fun (key, shown) ↦
      Text.quotedCodePoints key ++ ": " ++ shown) ++ "\x7d"

def displayItems : List Value → List String
  | [] => []
  | first :: rest => display first :: displayItems rest

def displayMembers : List (List Text.CodePoint × Value) → Members String
  | [] => []
  | (key, value) :: rest => (key, display value) :: displayMembers rest

end

end Value

end BrowserControl.Json
