import Mathlib.Data.Finset.Card

/-!
# Lists Without Duplicates

Windows are compared, and locators are counted, after their duplicates have been erased.  What is left
then has the same entries, each of them once.
-/

namespace BrowserControl

theorem nodup_eraseDups {α : Type} [BEq α] [LawfulBEq α] (entries : List α) :
    entries.eraseDups.Nodup := by
  cases entries with
  | nil => exact List.nodup_nil
  | cons first rest =>
    rw [List.eraseDups_cons, List.nodup_cons]
    exact ⟨by simp, nodup_eraseDups (rest.filter fun other ↦ !other == first)⟩
termination_by entries.length
decreasing_by exact Nat.lt_succ_of_le (List.length_filter_le _ _)

theorem toFinset_eraseDups {α : Type} [DecidableEq α] (entries : List α) :
    entries.eraseDups.toFinset = entries.toFinset := by
  ext entry
  rw [List.mem_toFinset, List.mem_toFinset, List.mem_eraseDups]

theorem length_eraseDups_eq_card {α : Type} [DecidableEq α] (entries : List α) :
    entries.eraseDups.length = entries.toFinset.card := by
  rw [← List.toFinset_card_of_nodup (nodup_eraseDups entries), toFinset_eraseDups]

end BrowserControl
