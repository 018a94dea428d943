import Mathlib.Data.List.Nodup

/-!
# The candidates of a name

A name denotes its candidate when it has exactly one.  A list without
repetitions has none, exactly one, or two that differ.
-/

namespace Dsql.Candidates

variable {α : Type} {candidates : List α} {candidate : α}

/-- The candidate that stands alone. -/
def only : List α → Option α
  | [candidate] => some candidate
  | _ => none

/-- What stands alone is all there is. -/
theorem only_eq_some (h : only candidates = some candidate) :
    candidates = [candidate] := by
  unfold only at h
  split at h
  · cases h
    rfl
  · cases h

/-- The image of what stands alone stands alone. -/
theorem only_map {β : Type} (f : α → β) (candidates : List α) :
    only (candidates.map f) = (only candidates).map f := by
  match candidates with
  | [] | [_] | _ :: _ :: _ => rfl

/-- Without repetitions, what stands alone is the only member. -/
theorem only_eq_some_iff (hnodup : candidates.Nodup) :
    only candidates = some candidate ↔
      candidate ∈ candidates ∧ ∀ other ∈ candidates, other = candidate := by
  constructor
  · intro h
    rw [only_eq_some h]
    exact ⟨List.mem_singleton_self _, fun other => List.mem_singleton.mp⟩
  · rintro ⟨hmem, hunique⟩
    match candidates with
    | [] => cases hmem
    | [first] =>
        rw [hunique first (List.mem_singleton_self _)]
        rfl
    | first :: second :: rest =>
        have hfirst := hunique first (List.mem_cons_self ..)
        have hsecond := hunique second (.tail _ (List.mem_cons_self ..))
        refine absurd ?_ (List.nodup_cons.mp hnodup).1
        rw [hfirst, ← hsecond]
        exact List.mem_cons_self ..

/-- Without repetitions, several candidates are two that differ. -/
theorem one_lt_length_iff (hnodup : candidates.Nodup) :
    1 < candidates.length ↔
      ∃ left ∈ candidates, ∃ right ∈ candidates, left ≠ right := by
  match candidates with
  | [] => simp
  | [first] => simp
  | first :: second :: rest =>
      refine iff_of_true (by simp) ⟨first, List.mem_cons_self ..,
        second, .tail _ (List.mem_cons_self ..), ?_⟩
      rintro rfl
      exact (List.nodup_cons.mp hnodup).1 (List.mem_cons_self ..)

/-- Candidates in another order have the same one alone. -/
theorem only_perm {others : List α} (h : candidates.Perm others) :
    only candidates = only others := by
  match candidates, h with
  | [], h =>
      rw [List.nil_perm.mp h]
  | [first], h =>
      rw [List.singleton_perm.mp h]
  | first :: second :: rest, h =>
      have hlength := h.length_eq
      match others with
      | [] | [_] => simp at hlength
      | _ :: _ :: _ => rfl

end Dsql.Candidates
