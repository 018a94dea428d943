import Dsql.Publish.AtomicWrite

/-!
# The phases of a publication

How far one publication gets, compared with the state it starts from: before
it takes an id, with an id, with the immutable manifest of that id, or with the
pointer moved to it.  Until the pointer moves, a publication only adds files.
-/

namespace Dsql

namespace Publication

open Program

variable {B : Type}

/-- Beside the match lock, `files` differs from `start` only at fresh files
that `start` does not have. -/
def Grown
    (fresh : BuildFile → Prop)
    (start files : FileStore BuildFile B) : Prop :=
  ∀ file, file ≠ .matchLock → files.read file ≠ start.read file →
    fresh file ∧ start.read file = none

def isArtifactFile : BuildFile → Prop
  | .artifact .. => True
  | _ => False

section Grown

variable {fresh : BuildFile → Prop}
variable {start files : FileStore BuildFile B}

theorem Grown.refl : Grown fresh start start :=
  fun _ _ h => absurd rfl h

theorem Grown.mono
    {wider : BuildFile → Prop}
    (h : Grown fresh start files)
    (hwider : ∀ file, fresh file → wider file) :
    Grown wider start files :=
  fun file hfile hne =>
    ⟨hwider file (h file hfile hne).1, (h file hfile hne).2⟩

/-- What was there stays. -/
theorem Grown.kept
    {file : BuildFile}
    {content : B}
    (h : Grown fresh start files)
    (hfile : file ≠ .matchLock)
    (hread : start.read file = some content) :
    files.read file = some content := by
  by_contra hne
  have hnone := (h file hfile (by rw [hread]; exact hne)).2
  rw [hread] at hnone
  cases hnone

theorem Grown.same
    {file : BuildFile}
    (h : Grown fresh start files)
    (hfile : file ≠ .matchLock)
    (hfresh : ¬ fresh file) :
    files.read file = start.read file := by
  by_contra hne
  exact hfresh (h file hfile hne).1

/-- A file that is absent now was absent at the start. -/
theorem Grown.absent
    {file : BuildFile}
    (h : Grown fresh start files)
    (hfile : file ≠ .matchLock)
    (hread : files.read file = none) :
    start.read file = none := by
  cases hstart : start.read file with
  | none => rfl
  | some content =>
      have hkept := h.kept hfile hstart
      rw [hread] at hkept
      cases hkept

theorem Grown.write
    {file : BuildFile}
    {content : B}
    (h : Grown fresh start files)
    (hfile : file ≠ .matchLock)
    (hfresh : fresh file)
    (hread : files.read file = none) :
    Grown fresh start (files.write file content) := by
  intro other hother hne
  by_cases heq : other = file
  · subst heq
    exact ⟨hfresh, h.absent hfile hread⟩
  · rw [FileStore.read_write_of_ne _ _ heq] at hne
    exact h other hother hne

theorem Grown.writeMatchLock
    {content : B}
    (h : Grown fresh start files) :
    Grown fresh start (files.write .matchLock content) := by
  intro other hother hne
  rw [FileStore.read_write_of_ne _ _ hother] at hne
  exact h other hother hne

theorem Grown.removeMatchLock
    (h : Grown fresh start files) :
    Grown fresh start (files.remove .matchLock) := by
  intro other hother hne
  rw [FileStore.read_remove_of_ne _ hother] at hne
  exact h other hother hne

end Grown

theorem mem_generationIds
    (files : FileStore BuildFile B)
    (generation : Nat) :
    generation ∈ generationIds files ↔
      (files.read (.manifest generation)).isSome = true := by
  rw [← FileStore.mem_paths_iff]
  simp only [generationIds, List.mem_filterMap]
  constructor
  · rintro ⟨path, hpath, hid⟩
    cases path with
    | manifest found =>
        have hfound : found = generation := by simpa [manifestId] using hid
        rwa [← hfound]
    | _ => cases hid
  · intro h
    exact ⟨_, h, rfl⟩

section Reconcile

variable [DecidableEq B]
variable (codec : PublicationCodec B)

/-- Whether reconciling rewrites or removes the lock on disk. -/
def changesMatchLock
    (mode : MatchLockMode)
    (desired : FilterMatchLock)
    (existing : Option B) : Bool :=
  mode = .update && desired.version = filterMatchLockVersion &&
    (existing.bind (newerMatchLockVersion codec)).isNone &&
    (if desired.isEmpty then
        existing.isSome
      else
        match codec.lockToYaml desired with
        | .ok serialized => existing ≠ some serialized
        | .error _ => false)

/-- A failure to sync the directory of a lock that was just changed. -/
def MatchLockSyncFails (plan : PublishOp → Fault) : Prop :=
  plan .syncMatchLockDir = .failure ∨
    plan (.write .matchLock .syncParent) = .failure

variable {codec}
variable {plan : PublishOp → Fault}
variable {start : FileStore BuildFile B}
variable {history : PublicationHistory B}

/-- Only the lock may differ from the start. -/
def OnlyLock
    (start : FileStore BuildFile B)
    (history : PublicationHistory B) : Assertion B :=
  fun files now => Grown (fun _ => False) start files ∧ now = history

/-- The lock is as it was at the start, with the rest of the tree. -/
def Unchanged
    (start : FileStore BuildFile B)
    (history : PublicationHistory B) : Assertion B :=
  fun files now =>
    OnlyLock start history files now ∧
      files.read .matchLock = start.read .matchLock

/-- The lock may differ only when reconciling changes it. -/
def Reconciled
    (codec : PublicationCodec B)
    (mode : MatchLockMode)
    (desired : FilterMatchLock)
    (start : FileStore BuildFile B)
    (history : PublicationHistory B) : Assertion B :=
  fun files now =>
    OnlyLock start history files now ∧
      (changesMatchLock codec mode desired (start.read .matchLock) = false →
        files.read .matchLock = start.read .matchLock)

/-- How reconciling fails: the lock is as it was unless it was changed and its
directory could not be synced. -/
def ReconcileFailed
    (codec : PublicationCodec B)
    (plan : PublishOp → Fault)
    (mode : MatchLockMode)
    (desired : FilterMatchLock)
    (start : FileStore BuildFile B)
    (history : PublicationHistory B) : Assertion B :=
  fun files now =>
    OnlyLock start history files now ∧
      (files.read .matchLock = start.read .matchLock ∨
        (changesMatchLock codec mode desired (start.read .matchLock) = true ∧
          MatchLockSyncFails plan))

omit [DecidableEq B] in
theorem unchanged_start : Unchanged start history start history :=
  ⟨⟨Grown.refl, rfl⟩, rfl⟩

theorem Unchanged.failed
    {files : FileStore BuildFile B}
    {now : PublicationHistory B}
    {mode : MatchLockMode}
    {desired : FilterMatchLock}
    (h : Unchanged start history files now) :
    ReconcileFailed codec plan mode desired start history files now :=
  ⟨h.1, .inl h.2⟩

theorem meets_updateMatchLock
    {desired : FilterMatchLock}
    (hversion : desired.version = filterMatchLockVersion)
    (hnewer : (start.read .matchLock).bind
      (newerMatchLockVersion codec) = none) :
    Meets plan (onCore (Unchanged start history))
      (updateMatchLock codec desired (start.read .matchLock))
      (fun _ => onCore (Reconciled codec .update desired start history))
      (fun _ => onCore
        (ReconcileFailed codec plan .update desired start history))
      (onCore (OnlyLock start history)) := by
  unfold updateMatchLock
  cases hempty : desired.isEmpty with
  | true =>
      simp only [if_true]
      cases hread : start.read .matchLock with
      | none => exact meets_pure (fun _ h => ⟨h.1, fun _ => h.2⟩)
      | some existing =>
          have hchanges : changesMatchLock codec .update desired
              (start.read .matchLock) = true := by
            rw [hread] at hnewer ⊢
            simp [changesMatchLock, hversion, hnewer, hempty]
          refine meets_bind
            (fun _ => onCore (OnlyLock start history)) ?_ fun _ => ?_
          · refine meets_perform ?_ ?_ ?_
            · intro state h
              exact ⟨h.1.1.removeMatchLock, h.1.2⟩
            · intro _ state h
              exact h.failed
            · intro _ state h
              exact h.1
          refine meets_bind
            (fun _ => onCore (OnlyLock start history)) ?_ fun _ => ?_
          · refine meets_perform (fun _ h => h) ?_ (fun _ _ h => h)
            intro hfault state h
            exact ⟨h, .inr ⟨hchanges, .inl hfault⟩⟩
          · refine meets_pure (fun _ h => ⟨h, fun hnot => ?_⟩)
            rw [hchanges] at hnot
            cases hnot
  | false =>
      simp only [Bool.false_eq_true, if_false]
      cases hyaml : codec.lockToYaml desired with
      | error message => exact meets_throw (fun _ h => h.failed)
      | ok serialized =>
          simp only
          split
          · exact meets_pure (fun _ h => ⟨h.1, fun _ => h.2⟩)
          · next hne =>
              have hchanges : changesMatchLock codec .update desired
                  (start.read .matchLock) = true := by
                simp [changesMatchLock, hversion, hnewer, hempty, hyaml, hne]
              refine meets_bind
                (fun _ => onCore (OnlyLock start history)) ?_
                fun _ => meets_pure (fun _ h => ⟨h, fun hnot => ?_⟩)
              · refine meets_consequence
                  (meets_atomicWrite (Unchanged start history)
                    (OnlyLock start history)
                    (fun _ _ h => ⟨h.1.1.writeMatchLock, h.1.2⟩))
                  (fun _ h => h) (fun _ _ h => h) ?_ ?_
                · rintro _ state (⟨h, -⟩ | ⟨h, hfault⟩)
                  · exact h.failed
                  · exact ⟨h, .inr ⟨hchanges, .inr hfault⟩⟩
                · rintro state (⟨h, -⟩ | ⟨h, -⟩)
                  · exact h.1
                  · exact h
              · rw [hchanges] at hnot
                cases hnot

theorem meets_requireMatchLock
    {desired : FilterMatchLock}
    {existing : Option B} :
    Meets plan (onCore (Unchanged start history))
      (requireMatchLock codec desired existing)
      (fun _ => onCore (Unchanged start history))
      (fun _ => onCore
        (ReconcileFailed codec plan .locked desired start history))
      (onCore (OnlyLock start history)) := by
  unfold requireMatchLock
  split
  · split
    · exact meets_pure (fun _ h => h)
    · exact meets_throw (fun _ h => h.failed)
  · split
    · exact meets_throw (fun _ h => h.failed)
    · split
      · exact meets_throw (fun _ h => h.failed)
      · split
        · exact meets_throw (fun _ h => h.failed)
        · split
          · exact meets_pure (fun _ h => h)
          · exact meets_throw (fun _ h => h.failed)

/-- Reconciling touches nothing but the lock, and that only when it changes
it. -/
theorem meets_reconcileMatchLock
    {desired : FilterMatchLock}
    {mode : MatchLockMode} :
    Meets plan (fun state => state.files = start ∧ state.history = history)
      (reconcileMatchLock codec desired mode)
      (fun _ => onCore (Reconciled codec mode desired start history))
      (fun _ => onCore
        (ReconcileFailed codec plan mode desired start history))
      (onCore (OnlyLock start history)) := by
  have hstart : ∀ state : PublicationState B,
      state.files = start ∧ state.history = history →
        onCore (Unchanged start history) state := by
    rintro state ⟨rfl, rfl⟩
    exact unchanged_start
  unfold reconcileMatchLock
  split
  · next hversion =>
      refine meets_bind
        (fun existing state =>
          existing = start.read .matchLock ∧
            onCore (Unchanged start history) state) ?_ fun existing => ?_
      · refine meets_observe ?_ ?_ ?_
        · rintro state ⟨rfl, rfl⟩
          exact ⟨rfl, unchanged_start⟩
        · intro _ state h
          exact (hstart state h).failed
        · intro _ state h
          exact (hstart state h).1
      · intro state hstate
        obtain ⟨rfl, hcore⟩ := hstate
        revert state
        show Meets plan (onCore (Unchanged start history)) _ _ _ _
        split
        · exact meets_throw (fun _ h => h.failed)
        · next hnewer =>
            cases mode with
            | update => exact meets_updateMatchLock hversion hnewer
            | locked =>
                exact meets_consequence meets_requireMatchLock
                  (fun _ h => h) (fun _ _ h => ⟨h.1, fun _ => h.2⟩)
                  (fun _ _ h => h) (fun _ h => h)
  · exact meets_throw (fun state h => (hstart state h).failed)

end Reconcile

section Allocate

variable {codec : PublicationCodec B}
variable {plan : PublishOp → Fault}

/-- The id after the greatest one with a manifest on disk. -/
def IsNext (start : FileStore BuildFile B) (generation : Nat) : Prop :=
  (∀ id, (start.read (.manifest id)).isSome = true → id < generation) ∧
    (generation = 1 ∨
      (start.read (.manifest (generation - 1))).isSome = true)

theorem foldr_max_le (ids : List Nat) {id : Nat} (h : id ∈ ids) :
    id ≤ ids.foldr max 0 := by
  induction ids with
  | nil => cases h
  | cons head rest ih =>
      rcases List.mem_cons.mp h with rfl | hrest
      · exact le_max_left _ _
      · exact le_trans (ih hrest) (le_max_right _ _)

theorem foldr_max_mem (ids : List Nat) :
    ids.foldr max 0 = 0 ∨ ids.foldr max 0 ∈ ids := by
  induction ids with
  | nil => exact .inl rfl
  | cons head rest ih =>
      rw [List.foldr_cons]
      rcases le_total head (rest.foldr max 0) with hle | hle
      · rw [max_eq_right hle]
        exact ih.imp_right (List.mem_cons_of_mem _)
      · rw [max_eq_left hle]
        exact .inr List.mem_cons_self

/-- The next id depends on the manifests alone when the pointer's is one of
them. -/
theorem isNext_nextGeneration
    {start files : FileStore BuildFile B}
    {predecessor : Option Nat}
    (hsame : ∀ id, files.read (.manifest id) = start.read (.manifest id))
    (hpredecessor : ∀ id ∈ predecessor,
      (start.read (.manifest id)).isSome = true) :
    IsNext start (nextGeneration (generationIds files) predecessor) := by
  have hmem : ∀ id, id ∈ generationIds files ++ predecessor.toList ↔
      (start.read (.manifest id)).isSome = true := by
    intro id
    rw [List.mem_append, mem_generationIds, hsame, Option.mem_toList]
    exact ⟨fun h => h.elim (fun h => h) (hpredecessor id), .inl⟩
  unfold nextGeneration
  constructor
  · intro id hid
    exact Nat.lt_succ_of_le (foldr_max_le _ ((hmem id).mpr hid))
  · rcases foldr_max_mem (generationIds files ++ predecessor.toList) with
      hzero | hfound
    · exact .inl (by rw [hzero])
    · exact .inr ((hmem _).mp hfound)

/-- Why no id is handed out. -/
def AllocationFails
    (plan : PublishOp → Fault)
    (start : FileStore BuildFile B) : Prop :=
  plan .scanManifests = .failure ∨
    ∃ generation, IsNext start generation ∧ 2 ^ 64 ≤ generation

def allocatedHistory
    (history : PublicationHistory B)
    (generation : Nat) : PublicationHistory B :=
  { history with allocated := generation :: history.allocated }

variable [DecidableEq B]
variable {mode : MatchLockMode}
variable {desired : FilterMatchLock}
variable {start : FileStore BuildFile B}
variable {history : PublicationHistory B}

theorem meets_allocateGeneration
    {predecessor : Option Nat}
    (hpredecessor : ∀ id ∈ predecessor,
      (start.read (.manifest id)).isSome = true) :
    Meets plan (onCore (Reconciled codec mode desired start history))
      (allocateGeneration predecessor)
      (fun generation state =>
        IsNext start generation ∧
          onCore (Reconciled codec mode desired start
            (allocatedHistory history generation)) state)
      (fun _ state =>
        onCore (Reconciled codec mode desired start history) state ∧
          AllocationFails plan start)
      (onCore (Reconciled codec mode desired start history)) := by
  refine meets_bind
    (fun ids state =>
      IsNext start (nextGeneration ids predecessor) ∧
        onCore (Reconciled codec mode desired start history) state)
    ?_ fun ids => ?_
  · refine meets_observe ?_ ?_ (fun _ _ h => h)
    · intro state h
      refine ⟨isNext_nextGeneration (fun id => ?_) hpredecessor, h⟩
      exact h.1.1.same (by simp) (fun hfalse => hfalse)
    · intro hfault state h
      exact ⟨h, .inl hfault⟩
  · simp only
    split
    · refine meets_bind
        (fun _ state =>
          IsNext start (nextGeneration ids predecessor) ∧
            onCore (Reconciled codec mode desired start
              (allocatedHistory history (nextGeneration ids predecessor)))
              state) ?_ fun _ => meets_pure (fun _ h => h)
      refine meets_modify ?_
      rintro state ⟨hnext, ⟨hgrown, rfl⟩, hlock⟩
      exact ⟨hnext, ⟨hgrown, rfl⟩, hlock⟩
    · next hrange =>
        refine meets_throw ?_
        rintro state ⟨hnext, h⟩
        exact ⟨h, .inr ⟨_, hnext, by omega⟩⟩

end Allocate

end Publication

end Dsql
