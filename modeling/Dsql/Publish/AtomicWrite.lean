import Dsql.Publish.Publication

/-!
# Atomic writes

An atomic write changes its target or nothing.  The change is visible from the
rename on: only a failure to sync the directory is reported after it.
-/

namespace Dsql

namespace Publication

open Program

variable {B : Type}

/-- What is asserted about the files and the history of a state. -/
abbrev Assertion (B : Type) : Type :=
  FileStore BuildFile B → PublicationHistory B → Prop

def onCore (assertion : Assertion B) (state : PublicationState B) : Prop :=
  assertion state.files state.history

/-- A step that fails before the rename, which leaves `before` in place, or
the failure to sync the directory after it. -/
def writeFailure
    (plan : PublishOp → Fault)
    (target : WriteTarget)
    (before after : Assertion B) : Assertion B :=
  fun files history =>
    (before files history ∧
      ∃ step, step ≠ .syncParent ∧ step ≠ .discard ∧
        plan (.write target step) = .failure) ∨
    (after files history ∧ plan (.write target .syncParent) = .failure)

/-- A crash before the rename, or one after it. -/
def writeCrash
    (plan : PublishOp → Fault)
    (target : WriteTarget)
    (before after : Assertion B) : Assertion B :=
  fun files history =>
    (before files history ∧
      ∃ step, step ≠ .syncParent ∧ plan (.write target step) ≠ .none) ∨
    (after files history ∧ plan (.write target .syncParent) ≠ .none)

section Rules

variable {plan : PublishOp → Fault}
variable {target : WriteTarget}
variable {file : BuildFile}
variable {content : B}
variable {record : PublicationHistory B → PublicationHistory B}
variable {before after : Assertion B}

/-- A step before the rename does not touch the build tree. -/
theorem meets_writeStep
    {path : BuildPath}
    {step : WriteStep}
    {effect : PublicationState B → PublicationState B}
    (hdiscard : step ≠ .discard)
    (hsync : step ≠ .syncParent)
    (hfiles : ∀ state, (effect state).files = state.files)
    (hhistory : ∀ state, (effect state).history = state.history) :
    Meets plan (onCore before) (writeStep target path step effect)
      (fun _ => onCore before)
      (fun _ => onCore (writeFailure plan target before after))
      (onCore (writeCrash plan target before after)) := by
  refine meets_perform ?_ ?_ ?_
  · intro state hstate
    unfold onCore at hstate ⊢
    rw [hfiles, hhistory]
    exact hstate
  · intro hfault state hstate
    exact .inl ⟨hstate, step, hsync, hdiscard, hfault⟩
  · intro hfault state hstate
    exact .inl ⟨hstate, step, hsync, by simp [hfault]⟩

/-- The rename writes the target, and only a crash before it prevents that. -/
theorem meets_rename
    {unique : Nat}
    (hrename : ∀ files history, before files history →
      after (files.write file content) (record history)) :
    Meets plan (onCore before)
      (writeStep target (.file file) .rename
        (renameOver file content unique record))
      (fun _ => onCore after)
      (fun _ => onCore (writeFailure plan target before after))
      (onCore (writeCrash plan target before after)) := by
  refine meets_perform ?_ ?_ ?_
  · intro state hstate
    exact hrename _ _ hstate
  · intro hfault state hstate
    exact .inl ⟨hstate, .rename, by decide, by decide, hfault⟩
  · intro hfault state hstate
    exact .inl ⟨hstate, .rename, by decide, by simp [hfault]⟩

theorem meets_syncParent :
    Meets plan (onCore after) (writeStep target (.file file) .syncParent id)
      (fun _ => onCore after)
      (fun _ => onCore (writeFailure plan target before after))
      (onCore (writeCrash plan target before after)) := by
  refine meets_perform ?_ ?_ ?_
  · intro state hstate
    exact hstate
  · intro hfault state hstate
    exact .inr ⟨hstate, hfault⟩
  · intro hfault state hstate
    exact .inr ⟨hstate, by simp [hfault]⟩

/-- Removing the temporary file of a failed write changes nothing else. -/
theorem meets_discard
    {unique : Nat}
    {error : GenerateError} :
    Meets plan (onCore (writeFailure plan target before after))
      ((do
        ignoringErrors
          (writeStep target (.file file) .discard (dropTemp file unique))
        throw error) : Publish B Unit)
      (fun _ => onCore after)
      (fun _ => onCore (writeFailure plan target before after))
      (onCore (writeCrash plan target before after)) := by
  have hcrash : ∀ state : PublicationState B,
      onCore (writeFailure plan target before after) state →
        onCore (writeCrash plan target before after) state := by
    rintro state (⟨hbefore, step, hsync, -, hfault⟩ | ⟨hafter, hfault⟩)
    · exact .inl ⟨hbefore, step, hsync, by simp [hfault]⟩
    · exact .inr ⟨hafter, by simp [hfault]⟩
  refine meets_bind
    (fun _ => onCore (writeFailure plan target before after)) ?_
    (fun _ => meets_throw (fun _ h => h))
  refine meets_onError
    (fun _ => onCore (writeFailure plan target before after)) ?_
    (fun _ => meets_pure (fun _ h => h))
  exact meets_perform (fun _ h => h) (fun _ _ h => h)
    (fun _ state h => hcrash state h)

/-- An atomic write either happens as a whole or leaves its target alone. -/
theorem meets_atomicWrite
    (before after : Assertion B)
    (hrename : ∀ files history, before files history →
      after (files.write file content) (record history)) :
    Meets plan (onCore before) (atomicWrite target file content record)
      (fun _ => onCore after)
      (fun _ => onCore (writeFailure plan target before after))
      (onCore (writeCrash plan target before after)) := by
  refine meets_bind (fun _ => onCore before) ?_ fun _ => ?_
  · exact meets_writeStep (by decide) (by decide) (fun _ => rfl)
      (fun _ => rfl)
  refine meets_bind (fun _ => onCore before)
    (meets_inspect (fun _ h => h)) fun unique => ?_
  refine meets_bind (fun _ => onCore before)
    (meets_modify (fun _ h => h)) fun _ => ?_
  refine meets_onError
    (fun _ => onCore (writeFailure plan target before after)) ?_
    (fun _ => meets_discard)
  refine meets_bind (fun _ => onCore before)
    (meets_writeStep (by decide) (by decide) (fun _ => rfl) (fun _ => rfl))
    fun _ => ?_
  refine meets_bind (fun _ => onCore before)
    (meets_writeStep (by decide) (by decide) (fun _ => rfl) (fun _ => rfl))
    fun _ => ?_
  refine meets_bind (fun _ => onCore before)
    (meets_writeStep (by decide) (by decide) (fun _ => rfl) (fun _ => rfl))
    fun _ => ?_
  refine meets_bind (fun _ => onCore before)
    (meets_writeStep (by decide) (by decide) (fun _ => rfl) (fun _ => rfl))
    fun _ => ?_
  refine meets_bind (fun _ => onCore after)
    (meets_rename hrename) fun _ => meets_syncParent

end Rules

end Publication

end Dsql
