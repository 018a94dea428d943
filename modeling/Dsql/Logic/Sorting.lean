import Mathlib.Data.List.Sort
import Mathlib.Data.Prod.Lex
import Mathlib.Tactic

/-!
# Stable sorting by a key

A stable sort forgets the order in which entries of different keys arrive.
Entries of one key keep their order, so a list that ends with a permuted part
sorts to the same list as long as the permuted entries have distinct keys.
-/

namespace Dsql

section SortBy

variable {α β κ : Type} [LinearOrder κ]

/-- A stable sort: entries with equal keys stay in their order. -/
def sortBy (key : α → κ) (items : List α) : List α :=
  items.insertionSort (fun left right => key left ≤ key right)

theorem sortBy_perm (key : α → κ) (items : List α) :
    (sortBy key items).Perm items :=
  List.perm_insertionSort _ items

theorem sortBy_pairwise (key : α → κ) (items : List α) :
    (sortBy key items).Pairwise (fun left right => key left ≤ key right) := by
  have htotal : Std.Total (fun left right : α => key left ≤ key right) :=
    ⟨fun left right => le_total (key left) (key right)⟩
  have htrans : IsTrans α (fun left right : α => key left ≤ key right) :=
    ⟨fun _ _ _ hleft hright => le_trans hleft hright⟩
  exact List.pairwise_insertionSort _ items

/-- Entries that their keys tell apart are sorted without regard to the order
in which they arrive. -/
theorem sortBy_eq_of_perm
    (key : α → κ)
    {items shuffled : List α}
    (hperm : items.Perm shuffled)
    (hdistinct :
      ∀ left ∈ items, ∀ right ∈ items, key left = key right → left = right) :
    sortBy key items = sortBy key shuffled := by
  have hsorted : (sortBy key items).Perm (sortBy key shuffled) :=
    ((sortBy_perm key items).trans hperm).trans (sortBy_perm key shuffled).symm
  refine hsorted.eq_of_pairwise ?_ (sortBy_pairwise key items)
    (sortBy_pairwise key shuffled)
  intro left right hleft hright hle hge
  have hleft : left ∈ items := (sortBy_perm key items).mem_iff.mp hleft
  have hright : right ∈ items :=
    hperm.mem_iff.mpr ((sortBy_perm key shuffled).mem_iff.mp hright)
  exact hdistinct left hleft right hright (le_antisymm hle hge)

/-- A key that tells all entries apart makes sorting a function of the
multiset of the entries. -/
theorem sortBy_eq_of_perm_of_injective
    {key : α → κ}
    (hkey : Function.Injective key)
    {items shuffled : List α}
    (hperm : items.Perm shuffled) :
    sortBy key items = sortBy key shuffled :=
  sortBy_eq_of_perm key hperm (fun _ _ _ _ heq => hkey heq)

end SortBy

example : sortBy (fun n : Nat => n / 10) [23, 5, 27, 1] = [5, 1, 23, 27] := by
  decide

end Dsql
