import Mathlib.Data.List.Destutter
import Mathlib.Data.List.Lex
import Mathlib.Data.List.Sort
import Mathlib.Data.Prod.Lex
import Mathlib.Tactic

/-!
# Canonical lists

Sorting and dropping repeats turns a list into the one sorted list of its
entries, so canonical lists are equal exactly when their entries are.
-/

namespace Dsql

section Repeats

variable {α : Type} [DecidableEq α]

/-- Dropping an entry that repeats the one before it loses no entry. -/
theorem mem_destutter'_ne
    (items : List α)
    (first item : α) :
    item ∈ items.destutter' (· ≠ ·) first ↔ item = first ∨ item ∈ items := by
  induction items generalizing first with
  | nil => rw [List.destutter'_nil, List.mem_cons]
  | cons next rest ih =>
      by_cases hnext : first ≠ next
      · rw [List.destutter'_cons_pos _ hnext, List.mem_cons, List.mem_cons, ih]
      · rw [List.destutter'_cons_neg _ hnext, ih, List.mem_cons,
          not_not.mp hnext]
        constructor
        · rintro (hitem | hitem)
          · exact .inl hitem
          · exact .inr (.inr hitem)
        · rintro (hitem | hitem | hitem)
          · exact .inl hitem
          · exact .inl hitem
          · exact .inr hitem

theorem mem_destutter_ne (items : List α) (item : α) :
    item ∈ items.destutter (· ≠ ·) ↔ item ∈ items := by
  cases items with
  | nil => rfl
  | cons first rest =>
      rw [List.destutter_cons', mem_destutter'_ne, List.mem_cons]

end Repeats

section Canonical

variable {α : Type} [LinearOrder α]

/-- Sorted, and without the entries that repeat the one before them. -/
def canonicalList (items : List α) : List α :=
  (items.insertionSort (· ≤ ·)).destutter (· ≠ ·)

theorem mem_canonicalList {items : List α} {item : α} :
    item ∈ canonicalList items ↔ item ∈ items := by
  unfold canonicalList
  rw [mem_destutter_ne, List.mem_insertionSort]

theorem canonicalList_sortedLT (items : List α) :
    (canonicalList items).SortedLT := by
  have hsorted : (canonicalList items).Pairwise (· ≤ ·) :=
    (List.pairwise_insertionSort (· ≤ ·) items).sublist
      (List.destutter_sublist _ _)
  have hne : (canonicalList items).IsChain (· ≠ ·) :=
    List.isChain_destutter _ _
  refine List.IsChain.sortedLT ?_
  rw [List.isChain_iff_getElem] at hne ⊢
  have hle := List.isChain_iff_getElem.mp hsorted.isChain
  exact fun index hindex => lt_of_le_of_ne (hle index hindex) (hne index hindex)

/-- Canonical lists tell entries apart, but not their order or number. -/
theorem canonicalList_eq_iff {left right : List α} :
    canonicalList left = canonicalList right ↔
      ∀ item, item ∈ left ↔ item ∈ right := by
  constructor
  · intro h item
    rw [← mem_canonicalList, h, mem_canonicalList]
  · intro h
    refine (canonicalList_sortedLT left).eq_of_mem_iff
      (canonicalList_sortedLT right) ?_
    intro item
    rw [mem_canonicalList, mem_canonicalList, h]

theorem canonicalList_idem (items : List α) :
    canonicalList (canonicalList items) = canonicalList items :=
  canonicalList_eq_iff.mpr (fun _ => mem_canonicalList)

end Canonical

end Dsql
