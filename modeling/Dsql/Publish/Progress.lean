import Dsql.Publish.PruneSpec

/-!
# How far a publication gets

Whether it returns, fails or crashes, a publication leaves one of four trees:
without an id, with an id whose manifest is not written, with that manifest,
or with the pointer moved to it.
-/

namespace Dsql

namespace Publication

variable {B : Type}

section Conditions

variable (codec : PublicationCodec B)
variable (plan : PublishOp → Fault)
variable (snapshot : GenerationSnapshot B)
variable (start : FileStore BuildFile B)

/-- What stops a publication between its id and the manifest of that id. -/
def StopsBeforeManifest : Prop :=
  ArtifactFault plan start (· ≠ .none) snapshot.artifacts ∨
    AddressTaken start snapshot.artifacts ∨
    ManifestRefused start codec snapshot ∨
    plan .checkManifest = .crash ∨
    ∃ step, step ≠ .syncParent ∧ plan (.write .manifest step) ≠ .none

/-- What makes a publication fail after it has reconciled the lock and before
it renames the pointer. -/
def FailsAfterLock : Prop :=
  AllocationFails plan start ∨
    ArtifactFault plan start (· = .failure) snapshot.artifacts ∨
    AddressTaken start snapshot.artifacts ∨
    ManifestRefused start codec snapshot ∨
    (∃ step, step ≠ .discard ∧ plan (.write .manifest step) = .failure) ∨
    ∃ step, step ≠ .syncParent ∧ step ≠ .discard ∧
      plan (.write .pointer step) = .failure

end Conditions

variable [DecidableEq B]

/-- How far a publication gets. -/
inductive Progress
    (codec : PublicationCodec B)
    (plan : PublishOp → Fault)
    (mode : MatchLockMode)
    (snapshot : GenerationSnapshot B)
    (start : FileStore BuildFile B)
    (history : PublicationHistory B) : Assertion B
  | idle {files now} :
      OnlyLock start history files now →
      Progress codec plan mode snapshot start history files now
  | allocated {generation files now} :
      IsNext start generation →
      Grown isArtifactFile start files →
      now = allocatedHistory history generation →
      StopsBeforeManifest codec plan snapshot start →
      Progress codec plan mode snapshot start history files now
  | minted {generation serialized files now} :
      IsNext start generation →
      Minted codec mode snapshot start history generation serialized files
        now →
      Progress codec plan mode snapshot start history files now
  | committed {generation serialized files now} :
      IsNext start generation →
      Committed codec mode snapshot start history generation serialized files
        now →
      Progress codec plan mode snapshot start history files now

section Outcomes

variable {codec : PublicationCodec B}
variable {plan : PublishOp → Fault}
variable {mode : MatchLockMode}
variable {snapshot : GenerationSnapshot B}
variable {start files : FileStore BuildFile B}
variable {history now : PublicationHistory B}

theorem Writing.progress
    {generation : Nat}
    {written : List (SnapshotArtifact B)}
    (h : Writing codec mode snapshot.filterMatchLock start
      (allocatedHistory history generation) written files now)
    (hnext : IsNext start generation)
    (hstops : StopsBeforeManifest codec plan snapshot start) :
    Progress codec plan mode snapshot start history files now := by
  refine .allocated hnext (h.stage.grown.mono ?_) h.stage.history_eq hstops
  rintro file ⟨artifact, -, rfl⟩
  trivial

theorem PublishDone.progress
    {published : PublishedGeneration B}
    (h : PublishDone codec plan mode snapshot start history published files
      now) :
    Progress codec plan mode snapshot start history files now :=
  .committed h.1 h.2.1

theorem PublishCrashed.progress
    (h : PublishCrashed codec plan mode snapshot start history files now) :
    Progress codec plan mode snapshot start history files now := by
  cases h with
  | idle h => exact .idle h
  | writing hnext h hreason =>
      refine h.progress hnext ?_
      rcases hreason with hfault | hfault | hfault
      · exact .inl hfault
      · exact .inr (.inr (.inr (.inl hfault)))
      · exact .inr (.inr (.inr (.inr hfault)))
  | minted hnext h => exact .minted hnext h
  | committed hnext h => exact .committed hnext h

theorem PublishFailed.progress
    (h : PublishFailed codec plan mode snapshot start history files now) :
    Progress codec plan mode snapshot start history files now := by
  cases h with
  | unlocked hfiles hhistory =>
      exact .idle ⟨hfiles ▸ Grown.refl, hhistory⟩
  | reconciling h => exact .idle h.1
  | allocating h _ => exact .idle h.1
  | writing hnext h hreason =>
      refine h.progress hnext ?_
      rcases hreason with ⟨index, artifact, hget, hfault⟩ | htaken
      · refine .inl ⟨index, artifact, hget, ?_⟩
        rcases hfault with hfault | ⟨hread, step, hfault⟩
        · exact .inl (by simp [hfault])
        · exact .inr ⟨hread, step, by simp [hfault]⟩
      · exact .inr (.inl htaken)
  | refusing hnext h hreason =>
      refine h.progress hnext ?_
      rcases hreason with hrefused | ⟨step, hsync, -, hfault⟩
      · exact .inr (.inr (.inl hrefused))
      · exact .inr (.inr (.inr (.inr ⟨step, hsync, by simp [hfault]⟩)))
  | minted hnext h _ => exact .minted hnext h
  | committed hnext h _ => exact .committed hnext h

/-- A failed publication whose faults spare the pointer and a changed lock
leaves both as they were. -/
theorem PublishFailed.unchanged
    (h : PublishFailed codec plan mode snapshot start history files now)
    (hpointer : plan (.write .pointer .syncParent) ≠ .failure)
    (hlock : changesMatchLock codec mode snapshot.filterMatchLock
        (start.read .matchLock) = true →
      ¬ MatchLockSyncFails plan ∧
        ¬ FailsAfterLock codec plan snapshot start) :
    files.read .pointer = start.read .pointer ∧
      files.read .matchLock = start.read .matchLock := by
  have hsame : FailsAfterLock codec plan snapshot start →
      changesMatchLock codec mode snapshot.filterMatchLock
        (start.read .matchLock) = false := by
    intro hfails
    by_contra hchanges
    exact (hlock (by simpa using hchanges)).2 hfails
  cases h with
  | unlocked hfiles _ =>
      subst hfiles
      exact ⟨rfl, rfl⟩
  | reconciling h =>
      refine ⟨h.1.1.same (by simp) (fun hfalse => hfalse), ?_⟩
      rcases h.2 with hread | ⟨hchanges, hfails⟩
      · exact hread
      · exact absurd hfails (hlock hchanges).1
  | allocating h hfails =>
      exact ⟨h.1.1.same (by simp) (fun hfalse => hfalse),
        h.2 (hsame (.inl hfails))⟩
  | writing hnext h hreason =>
      refine ⟨h.stage.grown.same (by simp) ?_, h.stage.lock (hsame ?_)⟩
      · rintro ⟨artifact, -, hfile⟩
        simp [SnapshotArtifact.file] at hfile
      · rcases hreason with hfault | htaken
        · exact .inr (.inl hfault)
        · exact .inr (.inr (.inl htaken))
  | refusing hnext h hreason =>
      refine ⟨h.stage.grown.same (by simp) ?_, h.stage.lock (hsame ?_)⟩
      · rintro ⟨artifact, -, hfile⟩
        simp [SnapshotArtifact.file] at hfile
      · rcases hreason with hrefused | ⟨step, -, hdiscard, hfault⟩
        · exact .inr (.inr (.inr (.inl hrefused)))
        · exact .inr (.inr (.inr (.inr (.inl ⟨step, hdiscard, hfault⟩))))
  | minted hnext h hreason =>
      refine ⟨h.stage.grown.same (by simp) ?_, h.stage.lock (hsame ?_)⟩
      · rintro (⟨artifact, -, hfile⟩ | hfile)
        · simp [SnapshotArtifact.file] at hfile
        · cases hfile
      · rcases hreason with hfault | hfault
        · exact .inr (.inr (.inr (.inr (.inl ⟨_, by decide, hfault⟩))))
        · exact .inr (.inr (.inr (.inr (.inr hfault))))
  | committed hnext h hfault => exact absurd hfault hpointer

end Outcomes

end Publication

end Dsql
