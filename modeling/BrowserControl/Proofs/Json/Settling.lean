import BrowserControl.Json.Value
import Mathlib.Data.List.Nodup

/-!
# Objects with Repeated Keys

Settling an object leaves every key once, in the place of its first member and with the value of its
last.  What has been settled has no repeated keys, and settling it again changes nothing
(`Members.settled_settled`), so that every key reads the same from either end.

Values are settled together with all that is inside them.  They look the same afterwards
(`Value.display_settled`): what is shown of a value tells no more than what it settles to.
-/

namespace BrowserControl.Json

namespace Members

variable {α β : Type}

def keys (members : Members α) : List (List Text.CodePoint) :=
  members.map Prod.fst

/-- A key that is known keeps its place. -/
theorem keys_put_of_mem {key : List Text.CodePoint} {members : Members α}
    (hkey : key ∈ members.keys) (value : α) : (put key value members).keys = members.keys := by
  induction members with
  | nil => exact absurd hkey List.not_mem_nil
  | cons first rest ih =>
    obtain ⟨other, old⟩ := first
    unfold put
    split
    · next hsame => exact congrArg (· :: keys rest) hsame.symm
    · next hother =>
      have hrest : key ∈ keys rest := (List.mem_cons.1 hkey).resolve_left fun hsame ↦ hother hsame.symm
      exact congrArg (other :: ·) (ih hrest)

/-- A new key comes last. -/
theorem put_of_notMem {key : List Text.CodePoint} {members : Members α}
    (hkey : key ∉ members.keys) (value : α) : put key value members = members ++ [(key, value)] := by
  induction members with
  | nil => rfl
  | cons first rest ih =>
    obtain ⟨other, old⟩ := first
    obtain ⟨hother, hrest⟩ := not_or.1 (mt List.mem_cons.2 hkey)
    rw [put, if_neg fun hsame ↦ hother hsame.symm, ih hrest, List.cons_append]

theorem nodup_keys_put {members : Members α} (hnodup : members.keys.Nodup)
    (key : List Text.CodePoint) (value : α) : (put key value members).keys.Nodup := by
  by_cases hkey : key ∈ members.keys
  · rwa [keys_put_of_mem hkey]
  · have hconcat : (put key value members).keys = members.keys.concat key := by
      rw [put_of_notMem hkey, keys, List.map_append, List.concat_eq_append]
      rfl
    rw [hconcat, List.nodup_concat]
    exact ⟨hkey, hnodup⟩

/-- In a settled object every key occurs once. -/
theorem nodup_keys_settled (members : Members α) : members.settled.keys.Nodup := by
  unfold settled
  rw [List.foldl_eq_foldr_reverse]
  induction members.reverse with
  | nil => exact List.nodup_nil
  | cons last earlier ih => exact nodup_keys_put ih last.1 last.2

/-- Members that have different keys are put one after the other. -/
theorem foldl_put_eq_append {later : Members α} (earlier : Members α)
    (hnodup : (earlier ++ later).keys.Nodup) :
    later.foldl (fun earlier member ↦ put member.1 member.2 earlier) earlier = earlier ++ later := by
  induction later generalizing earlier with
  | nil => exact (List.append_nil earlier).symm
  | cons first rest ih =>
    have hfirst : first.1 ∉ earlier.keys := by
      rw [keys, List.map_append, List.map_cons] at hnodup
      exact fun hmem ↦ (List.nodup_append.1 hnodup).2.2 _ hmem _ List.mem_cons_self rfl
    have happend : earlier ++ first :: rest = (earlier ++ [first]) ++ rest := by simp
    rw [happend] at hnodup ⊢
    rw [List.foldl_cons, put_of_notMem hfirst]
    exact ih _ hnodup

/-- Settling twice is settling once. -/
theorem settled_settled (members : Members α) : members.settled.settled = members.settled :=
  foldl_put_eq_append [] (nodup_keys_settled members)

/-- In settled members a key is found once, from whichever end it is looked for. -/
theorem lookup_reverse_settled (key : List Text.CodePoint) (members : Members α) :
    members.settled.reverse.lookup key = members.reverse.lookup key := by
  rw [← lookup_settled, settled_settled, lookup_settled]

/-- The members with other values under the same keys. -/
def mapValues (change : α → β) (members : Members α) : Members β :=
  members.map fun member ↦ (member.1, change member.2)

theorem put_mapValues (change : α → β) (key : List Text.CodePoint) (value : α) (members : Members α) :
    put key (change value) (members.mapValues change) = (put key value members).mapValues change := by
  induction members with
  | nil => rfl
  | cons first rest ih =>
    obtain ⟨other, old⟩ := first
    by_cases hsame : other = key
    · simp [put, mapValues, hsame]
    · simpa [put, mapValues, hsame] using ih

/-- Settling looks at the keys alone. -/
theorem settled_mapValues (change : α → β) (members : Members α) :
    (members.mapValues change).settled = members.settled.mapValues change := by
  unfold settled
  rw [List.foldl_eq_foldr_reverse, List.foldl_eq_foldr_reverse, mapValues, ← List.map_reverse]
  induction members.reverse with
  | nil => rfl
  | cons last earlier ih =>
    rw [List.map_cons, List.foldr_cons, List.foldr_cons, ih]
    exact put_mapValues change last.1 last.2 _

end Members

namespace Value

mutual

def settled : Value → Value
  | array items => array (settledItems items)
  | object members => object (settledMembers members).settled
  | value => value

def settledItems : List Value → List Value
  | [] => []
  | first :: rest => settled first :: settledItems rest

def settledMembers : List (List Text.CodePoint × Value) → Members Value
  | [] => []
  | (key, value) :: rest => (key, settled value) :: settledMembers rest

end

theorem displayMembers_eq_mapValues (members : Members Value) :
    displayMembers members = members.mapValues display := by
  induction members with
  | nil => rfl
  | cons first rest ih => exact congrArg ((first.1, first.2.display) :: ·) ih

mutual

/-- A value looks the same after it has been settled. -/
theorem display_settled (value : Value) : value.settled.display = value.display := by
  cases value with
  | array items => rw [settled, display, display, displayItems_settledItems]
  | object members =>
    have hsettled : (displayMembers (settledMembers members).settled).settled =
        (displayMembers members).settled := by
      rw [displayMembers_eq_mapValues, Members.settled_mapValues, Members.settled_settled,
        ← Members.settled_mapValues, ← displayMembers_eq_mapValues,
        displayMembers_settledMembers]
    rw [settled, display, display, hsettled]
  | null | bool _ | int _ | float _ | text _ => rfl

/-- The display of items settles them by itself. -/
theorem displayItems_settledItems (items : List Value) :
    displayItems (settledItems items) = displayItems items := by
  cases items with
  | nil => rfl
  | cons first rest =>
    rw [settledItems, displayItems, displayItems, display_settled first,
      displayItems_settledItems rest]

theorem displayMembers_settledMembers (members : List (List Text.CodePoint × Value)) :
    displayMembers (settledMembers members) = displayMembers members := by
  cases members with
  | nil => rfl
  | cons first rest =>
    obtain ⟨key, value⟩ := first
    rw [settledMembers, displayMembers, displayMembers, display_settled value,
      displayMembers_settledMembers rest]

end

end Value

end BrowserControl.Json
