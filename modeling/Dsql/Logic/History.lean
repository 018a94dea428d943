import Mathlib.Data.List.Basic

/-!
# Histories

A history lists its steps from the newest one on, so that every step stands in
front of what came before it.
-/

namespace Dsql

/-- A property of every step together with the steps before it. -/
def Throughout {α : Type} (holds : α → List α → Prop) : List α → Prop
  | [] => True
  | step :: earlier => holds step earlier ∧ Throughout holds earlier

namespace Throughout

variable {α : Type} {holds : α → List α → Prop}

/-- What the start has and every step keeps, every history has. -/
theorem invariant
    (keeps : List α → Prop)
    (hstart : keeps [])
    (hstep : ∀ step earlier, keeps earlier → holds step earlier →
      keeps (step :: earlier))
    {history : List α}
    (h : Throughout holds history) : keeps history := by
  induction history with
  | nil => exact hstart
  | cons step earlier ih => exact hstep step earlier (ih h.2) h.1

/-- A property of every step that follows from what the history before it
keeps. -/
theorem of_invariant
    (keeps : List α → Prop)
    {promised : α → List α → Prop}
    (hstart : keeps [])
    (hstep : ∀ step earlier, keeps earlier → holds step earlier →
      keeps (step :: earlier))
    (hpromised : ∀ step earlier, keeps earlier → holds step earlier →
      promised step earlier)
    {history : List α}
    (h : Throughout holds history) : Throughout promised history := by
  induction history with
  | nil => trivial
  | cons step earlier ih =>
      exact ⟨hpromised step earlier (invariant keeps hstart hstep h.2) h.1,
        ih h.2⟩

theorem mono
    {weaker : α → List α → Prop}
    (himp : ∀ step earlier, holds step earlier → weaker step earlier)
    {history : List α}
    (h : Throughout holds history) : Throughout weaker history := by
  induction history with
  | nil => trivial
  | cons step earlier ih => exact ⟨himp step earlier h.1, ih h.2⟩

end Throughout

end Dsql
