import Mathlib.Data.List.Sort
import Mathlib.Tactic

/-!
# Sorting by comparisons

A comparison orders items up to ties.  Comparisons are read through functions
and combined lexicographically; a sort by one leaves every part of a sorted
list as it is.
-/

namespace Dsql

/-- A total preorder, as a function to `Ordering`. -/
@[ext]
structure Comparison (α : Type) where
  compare : α → α → Ordering
  trans : Std.TransCmp compare

namespace Comparison

variable {α β : Type}

instance (order : Comparison α) : Std.TransCmp order.compare := order.trans

/-- All items are ties. -/
def trivial : Comparison α where
  compare _ _ := .eq
  trans := { eq_swap := rfl, isLE_trans := fun _ _ => rfl }

/-- Items in the order of their images. -/
def on (order : Comparison β) (f : α → β) : Comparison α where
  compare left right := order.compare (f left) (f right)
  trans :=
    { eq_swap := Std.OrientedCmp.eq_swap
      isLE_trans := Std.TransCmp.isLE_trans }

/-- The opposite order. -/
def reverse (order : Comparison α) : Comparison α where
  compare left right := order.compare right left
  trans :=
    { eq_swap := Std.OrientedCmp.eq_swap
      isLE_trans := fun hleft hright => Std.TransCmp.isLE_trans hright hleft }

/-- The second comparison decides the ties of the first. -/
def lex (first second : Comparison α) : Comparison α where
  compare := compareLex first.compare second.compare
  trans := inferInstance

def lexAll (orders : List (Comparison α)) : Comparison α :=
  orders.foldr lex trivial

@[simp] theorem lexAll_nil : lexAll ([] : List (Comparison α)) = trivial := rfl

@[simp] theorem lexAll_cons
    (order : Comparison α)
    (orders : List (Comparison α)) :
    lexAll (order :: orders) = order.lex (lexAll orders) := rfl

@[simp] theorem trivial_lex (order : Comparison α) :
    trivial.lex order = order := rfl

@[simp] theorem lex_trivial (order : Comparison α) :
    order.lex trivial = order := by
  ext left right
  show (order.compare left right).then .eq = order.compare left right
  cases order.compare left right <;> rfl

/-- Orders one after the other associate. -/
theorem lex_assoc (first second third : Comparison α) :
    (first.lex second).lex third = first.lex (second.lex third) := by
  ext left right
  show ((first.compare left right).then (second.compare left right)).then
      (third.compare left right) = (first.compare left right).then
        ((second.compare left right).then (third.compare left right))
  cases first.compare left right <;> rfl

/-- Lists of orders one after the other. -/
theorem lexAll_append (first second : List (Comparison α)) :
    lexAll (first ++ second) = (lexAll first).lex (lexAll second) := by
  induction first with
  | nil => rfl
  | cons order orders ih =>
      rw [List.cons_append, lexAll_cons, ih, lexAll_cons, lex_assoc]

@[simp] theorem trivial_on (f : α → β) :
    (trivial : Comparison β).on f = trivial := rfl

@[simp] theorem lex_on (first second : Comparison β) (f : α → β) :
    (first.lex second).on f = (first.on f).lex (second.on f) := rfl

/-- Images that are all the same are ties. -/
theorem on_const (order : Comparison β) (value : β) :
    order.on (fun _ : α => value) = trivial := by
  ext left right
  exact Std.ReflCmp.compare_self

/-- Comparing values by a function compares by each order. -/
theorem lexAll_on (orders : List (Comparison β)) (f : α → β) :
    (lexAll orders).on f = lexAll (orders.map (fun order => order.on f)) := by
  induction orders with
  | nil => rfl
  | cons order orders ih =>
      rw [lexAll_cons, lex_on, ih, List.map_cons, lexAll_cons]

@[simp] theorem compare_self (order : Comparison α) (item : α) :
    order.compare item item = .eq :=
  Std.ReflCmp.compare_self

/-! ## Sorting -/

def le (order : Comparison α) (left right : α) : Prop :=
  (order.compare left right).isLE

instance (order : Comparison α) : DecidableRel order.le :=
  fun _ _ => inferInstanceAs (Decidable (_ = true))

/-- A stable sort: ties stay in their order. -/
def sort (order : Comparison α) (items : List α) : List α :=
  items.insertionSort order.le

variable (order : Comparison α)

/-- Sorting keeps the items. -/
theorem sort_perm (items : List α) : (order.sort items).Perm items :=
  List.perm_insertionSort _ items

/-- Sorted items are in order. -/
theorem sort_pairwise (items : List α) :
    (order.sort items).Pairwise order.le := by
  have htotal : Std.Total order.le := by
    refine ⟨fun left right => ?_⟩
    unfold le
    have hswap : order.compare right left = (order.compare left right).swap :=
      Std.OrientedCmp.eq_swap
    rw [hswap]
    cases order.compare left right with
    | lt => exact .inl rfl
    | eq => exact .inl rfl
    | gt => exact .inr rfl
  have htrans : IsTrans α order.le :=
    ⟨fun _ _ _ hleft hright => Std.TransCmp.isLE_trans hleft hright⟩
  exact List.pairwise_insertionSort _ items

/-- Items in order stay as they are. -/
theorem sort_of_pairwise
    {items : List α}
    (h : items.Pairwise order.le) : order.sort items = items :=
  List.Pairwise.insertionSort_eq h

/-- Sorting what sorted items were replaced by changes nothing. -/
theorem sort_flatMap
    {items : List α}
    (h : items.Pairwise order.le)
    {replace : α → List β}
    {key : β → α}
    (hkey : ∀ item, ∀ part ∈ replace item, key part = item) :
    (order.on key).sort (items.flatMap replace) = items.flatMap replace := by
  refine (order.on key).sort_of_pairwise (List.pairwise_flatMap.mpr ⟨?_, ?_⟩)
  · intro item _
    refine List.pairwise_of_forall_mem_list ?_
    intro left hleft right hright
    show (order.compare (key left) (key right)).isLE
    rw [hkey item left hleft, hkey item right hright, compare_self]
    rfl
  · refine h.imp ?_
    intro first second hle left hleft right hright
    show (order.compare (key left) (key right)).isLE
    rw [hkey first left hleft, hkey second right hright]
    exact hle

/-- Sorting by a value sorts the values. -/
theorem map_sort (order : Comparison β) (f : α → β) (items : List α) :
    ((order.on f).sort items).map f = order.sort (items.map f) :=
  List.map_insertionSort _ _ f items (fun _ _ _ _ => Iff.rfl)

@[simp] theorem sort_trivial (items : List α) :
    (trivial : Comparison α).sort items = items :=
  trivial.sort_of_pairwise (List.pairwise_of_forall (fun _ _ => rfl))

end Comparison

end Dsql
