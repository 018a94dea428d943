import Mathlib.Data.List.Basic
import Mathlib.Tactic

/-!
# Sequences measured in a unit

Symbols take up a positive number of units, so a position in units is a
boundary between symbols or falls inside one.  A second measure of the same
symbols can be floored into the first.
-/

namespace Dsql

namespace Measured

section Weight

variable {α : Type} (size : α → Nat)

def weight (items : List α) : Nat :=
  (items.map size).sum

@[simp] theorem weight_nil : weight size [] = 0 :=
  rfl

@[simp] theorem weight_cons (item : α) (rest : List α) :
    weight size (item :: rest) = size item + weight size rest := by
  simp [weight]

@[simp] theorem weight_append (front back : List α) :
    weight size (front ++ back) = weight size front + weight size back := by
  simp [weight]

theorem weight_pos
    (hsize : ∀ item, 0 < size item)
    {items : List α}
    (h : items ≠ []) :
    0 < weight size items := by
  cases items with
  | nil => exact absurd rfl h
  | cons item rest =>
      have := hsize item
      rw [weight_cons]
      omega

/-- Splits at a position that is a boundary. -/
def splitAt : List α → Nat → Option (List α × List α)
  | items, 0 => some ([], items)
  | [], _ + 1 => none
  | item :: rest, position + 1 =>
      if size item ≤ position + 1 then
        (splitAt rest (position + 1 - size item)).map (fun parts =>
          (item :: parts.1, parts.2))
      else
        none

theorem splitAt_sound
    (items : List α)
    {position : Nat}
    {front back : List α}
    (h : splitAt size items position = some (front, back)) :
    items = front ++ back ∧ weight size front = position := by
  induction items generalizing position front with
  | nil =>
      cases position with
      | zero =>
          cases h
          exact ⟨rfl, rfl⟩
      | succ position => cases h
  | cons item rest ih =>
      cases position with
      | zero =>
          cases h
          exact ⟨rfl, rfl⟩
      | succ position =>
          unfold splitAt at h
          split at h
          · obtain ⟨parts, hparts, heq⟩ := Option.map_eq_some_iff.mp h
            cases heq
            obtain ⟨hitems, hweight⟩ := ih hparts
            refine ⟨by rw [hitems]; rfl, ?_⟩
            rw [weight_cons, hweight]
            omega
          · cases h

theorem splitAt_append
    (hsize : ∀ item, 0 < size item)
    (front back : List α) :
    splitAt size (front ++ back) (weight size front) = some (front, back) := by
  induction front with
  | nil =>
      cases back with
      | nil => rfl
      | cons item rest => rfl
  | cons item rest ih =>
      have hpos := hsize item
      obtain ⟨position, hposition⟩ : ∃ position,
          weight size (item :: rest) = position + 1 :=
        Nat.exists_eq_succ_of_ne_zero (by rw [weight_cons]; omega)
      rw [hposition]
      rw [weight_cons] at hposition
      have hrest : position + 1 - size item = weight size rest := by omega
      rw [List.cons_append, splitAt, if_pos (by omega), hrest, ih]
      rfl

/-- Two splits at one position are the same. -/
theorem append_unique
    (hsize : ∀ item, 0 < size item)
    {front back front' back' : List α}
    (happend : front ++ back = front' ++ back')
    (hweight : weight size front = weight size front') :
    front = front' ∧ back = back' := by
  have h := splitAt_append size hsize front back
  rw [happend, hweight, splitAt_append size hsize front' back'] at h
  cases h
  exact ⟨rfl, rfl⟩

/-- A boundary at or after the end of a front splits what follows the
front. -/
theorem exists_append_of_le
    (hsize : ∀ item, 0 < size item)
    {first rest front back : List α}
    (happend : first ++ rest = front ++ back)
    (hle : weight size first ≤ weight size front) :
    ∃ middle, front = first ++ middle ∧ rest = middle ++ back := by
  rcases List.append_eq_append_iff.mp happend with ⟨middle, hfront, hrest⟩ |
    ⟨middle, hfirst, hback⟩
  · exact ⟨middle, hfront, hrest⟩
  · cases middle with
    | nil => exact ⟨[], by rw [hfirst]; simp, by rw [hback]; rfl⟩
    | cons item middle =>
        have hpos := hsize item
        rw [hfirst, weight_append, weight_cons] at hle
        omega

/-- The symbols between two boundaries. -/
def slice (items : List α) (start stop : Nat) : Option (List α) :=
  (splitAt size items stop).bind (fun outer =>
    (splitAt size outer.1 start).map Prod.snd)

theorem slice_append
    (hsize : ∀ item, 0 < size item)
    (front middle back : List α) :
    slice size (front ++ (middle ++ back)) (weight size front)
      (weight size front + weight size middle) = some middle := by
  have houter := splitAt_append size hsize (front ++ middle) back
  rw [List.append_assoc, weight_append] at houter
  rw [slice, houter, Option.bind_some, splitAt_append size hsize]
  rfl

theorem slice_eq_none
    {items : List α}
    {start stop : Nat}
    (hstart : ∀ front back, items = front ++ back → weight size front ≠ start) :
    slice size items start stop = none := by
  unfold slice
  cases houter : splitAt size items stop with
  | none => rfl
  | some outer =>
      cases hinner : splitAt size outer.1 start with
      | none => simp [hinner]
      | some inner =>
          obtain ⟨hitems, -⟩ := splitAt_sound size items houter
          obtain ⟨hfront, hweight⟩ := splitAt_sound size outer.1 hinner
          rw [hfront, List.append_assoc] at hitems
          exact absurd hweight (hstart _ _ hitems)

end Weight

section Floor

variable {α : Type} (size other : α → Nat)

/-- The boundary, in `size` units, at or before a position in `other`
units. -/
def floor : List α → Nat → Nat
  | [], _ => 0
  | item :: rest, position =>
      if other item ≤ position then
        size item + floor rest (position - other item)
      else
        0

theorem floor_prefix
    (items : List α)
    (position : Nat) :
    ∃ front back, items = front ++ back ∧
      floor size other items position = weight size front ∧
      weight other front ≤ position := by
  induction items generalizing position with
  | nil => exact ⟨[], [], rfl, rfl, Nat.zero_le _⟩
  | cons item rest ih =>
      unfold floor
      split
      · rename_i hle
        obtain ⟨front, back, hitems, hfloor, hweight⟩ := ih (position - other item)
        refine ⟨item :: front, back, by rw [hitems]; rfl, ?_, ?_⟩
        · rw [hfloor, weight_cons]
        · rw [weight_cons]
          omega
      · exact ⟨[], item :: rest, rfl, rfl, Nat.zero_le _⟩

/-- A boundary of both measures is not moved. -/
theorem floor_append
    (hother : ∀ item, 0 < other item)
    (front back : List α) :
    floor size other (front ++ back) (weight other front) = weight size front := by
  induction front with
  | nil =>
      cases back with
      | nil => rfl
      | cons item rest =>
          have := hother item
          rw [List.nil_append, floor, if_neg (by simp only [weight_nil]; omega)]
          rfl
  | cons item rest ih =>
      have hsub : weight other (item :: rest) - other item = weight other rest := by
        rw [weight_cons]
        omega
      rw [List.cons_append, floor, if_pos (by rw [weight_cons]; omega), hsub, ih,
        weight_cons]

end Floor

end Measured

end Dsql
