import Dsql.Publish.Phases

/-!
# What a publication does

The triple of a whole publication: the phase in which it returns, fails or
crashes, with the reason for which it stops there.
-/

namespace Dsql

namespace Publication

open Program

variable {B : Type} [DecidableEq B]

/-- Every artifact of a list is on disk with its own bytes. -/
def Placed
    (artifacts : List (SnapshotArtifact B))
    (files : FileStore BuildFile B) : Prop :=
  ∀ artifact ∈ artifacts,
    files.read artifact.file = some artifact.serialized

def isFileOf
    (artifacts : List (SnapshotArtifact B))
    (file : BuildFile) : Prop :=
  ∃ artifact ∈ artifacts, artifact.file = file

/-- What holds around every phase: the files to which the start may have
grown, the lock and the history. -/
structure Stage
    (codec : PublicationCodec B)
    (mode : MatchLockMode)
    (desired : FilterMatchLock)
    (start : FileStore BuildFile B)
    (fresh : BuildFile → Prop)
    (history : PublicationHistory B)
    (files : FileStore BuildFile B)
    (now : PublicationHistory B) : Prop where
  grown : Grown fresh start files
  history_eq : now = history
  lock : changesMatchLock codec mode desired (start.read .matchLock) = false →
    files.read .matchLock = start.read .matchLock

/-- The artifacts `done` are placed. -/
structure Writing
    (codec : PublicationCodec B)
    (mode : MatchLockMode)
    (desired : FilterMatchLock)
    (start : FileStore BuildFile B)
    (history : PublicationHistory B)
    (done : List (SnapshotArtifact B))
    (files : FileStore BuildFile B)
    (now : PublicationHistory B) : Prop where
  stage : Stage codec mode desired start (isFileOf done) history files now
  placed : Placed done files

def mintedHistory
    (history : PublicationHistory B)
    (generation : Nat) : PublicationHistory B :=
  recordMinted generation (allocatedHistory history generation)

/-- The artifacts and the immutable manifest are in place. -/
structure Minted
    (codec : PublicationCodec B)
    (mode : MatchLockMode)
    (snapshot : GenerationSnapshot B)
    (start : FileStore BuildFile B)
    (history : PublicationHistory B)
    (generation : Nat)
    (serialized : B)
    (files : FileStore BuildFile B)
    (now : PublicationHistory B) : Prop where
  stage : Stage codec mode snapshot.filterMatchLock start
    (fun file => isFileOf snapshot.artifacts file ∨
      file = .manifest generation)
    (mintedHistory history generation) files now
  placed : Placed snapshot.artifacts files
  encoded :
    codec.encodeManifest (manifestFor snapshot generation) = .ok serialized
  manifest : files.read (.manifest generation) = some serialized

/-- The pointer names the new generation. -/
def Committed
    (codec : PublicationCodec B)
    (mode : MatchLockMode)
    (snapshot : GenerationSnapshot B)
    (start : FileStore BuildFile B)
    (history : PublicationHistory B)
    (generation : Nat)
    (serialized : B) : Assertion B :=
  fun files now =>
    ∃ before beforeHistory,
      Minted codec mode snapshot start history generation serialized before
        beforeHistory ∧
      files = before.write .pointer serialized ∧
      now = recordCommit ⟨generation, snapshot⟩ beforeHistory

section Reasons

variable (plan : PublishOp → Fault)
variable (start : FileStore BuildFile B)

/-- A fault at the read or the write of an artifact. -/
def ArtifactFault
    (isFault : Fault → Prop)
    (artifacts : List (SnapshotArtifact B)) : Prop :=
  ∃ (index : Nat) (artifact : SnapshotArtifact B),
    artifacts[index]? = some artifact ∧
      (isFault (plan (.readArtifact index)) ∨
        (start.read artifact.file = none ∧
          ∃ step, isFault (plan (.write (.artifact index) step))))

/-- An address holds other bytes, on disk or within the snapshot. -/
def AddressTaken (artifacts : List (SnapshotArtifact B)) : Prop :=
  ∃ artifact ∈ artifacts,
    (∃ bytes, start.read artifact.file = some bytes ∧
      bytes ≠ artifact.serialized) ∨
    ∃ other ∈ artifacts, other.file = artifact.file ∧
      other.serialized ≠ artifact.serialized

/-- The manifest of the next generation does not serialize. -/
def ManifestRefused
    (codec : PublicationCodec B)
    (snapshot : GenerationSnapshot B) : Prop :=
  ∃ generation message, IsNext start generation ∧
    codec.encodeManifest (manifestFor snapshot generation) = .error message

end Reasons

section Artifacts

variable {codec : PublicationCodec B}
variable {plan : PublishOp → Fault}
variable {mode : MatchLockMode}
variable {desired : FilterMatchLock}
variable {start : FileStore BuildFile B}
variable {history : PublicationHistory B}

omit [DecidableEq B] in
theorem artifact_file_ne
    (artifact : SnapshotArtifact B) :
    artifact.file ≠ .matchLock := by
  simp [SnapshotArtifact.file]

/-- Bytes at an address are those of the start or of an artifact written by
this publication. -/
theorem Writing.addressed
    {done : List (SnapshotArtifact B)}
    {artifact : SnapshotArtifact B}
    {files : FileStore BuildFile B}
    {now : PublicationHistory B}
    {bytes : B}
    (h : Writing codec mode desired start history done files now)
    (hread : files.read artifact.file = some bytes) :
    start.read artifact.file = some bytes ∨
      ∃ other ∈ done, other.file = artifact.file ∧
        other.serialized = bytes := by
  by_cases hsame : files.read artifact.file = start.read artifact.file
  · exact .inl (hsame ▸ hread)
  · obtain ⟨⟨other, hother, hfile⟩, -⟩ :=
      h.stage.grown artifact.file (artifact_file_ne artifact) hsame
    have hplaced := h.placed other hother
    rw [hfile, hread, Option.some.injEq] at hplaced
    exact .inr ⟨other, hother, hfile, hplaced.symm⟩

/-- Bytes that are already there need no write. -/
theorem Writing.skip
    {done : List (SnapshotArtifact B)}
    {artifact : SnapshotArtifact B}
    {files : FileStore BuildFile B}
    {now : PublicationHistory B}
    (h : Writing codec mode desired start history done files now)
    (hread : files.read artifact.file = some artifact.serialized) :
    Writing codec mode desired start history (done ++ [artifact]) files
      now := by
  refine ⟨⟨h.stage.grown.mono ?_, h.stage.history_eq, h.stage.lock⟩, ?_⟩
  · rintro file ⟨other, hother, hfile⟩
    exact ⟨other, List.mem_append_left _ hother, hfile⟩
  · intro other hother
    rcases List.mem_append.mp hother with hdone | hlast
    · exact h.placed other hdone
    · rw [List.mem_singleton.mp hlast]
      exact hread

theorem Writing.place
    {done : List (SnapshotArtifact B)}
    {artifact : SnapshotArtifact B}
    {files : FileStore BuildFile B}
    {now : PublicationHistory B}
    (h : Writing codec mode desired start history done files now)
    (hread : files.read artifact.file = none) :
    Writing codec mode desired start history (done ++ [artifact])
      (files.write artifact.file artifact.serialized) now := by
  have hmono : Grown (isFileOf (done ++ [artifact])) start files :=
    h.stage.grown.mono (fun file hfile => by
      obtain ⟨other, hother, heq⟩ := hfile
      exact ⟨other, List.mem_append_left _ hother, heq⟩)
  refine ⟨⟨hmono.write (artifact_file_ne artifact)
    ⟨artifact, by simp, rfl⟩ hread, h.stage.history_eq, ?_⟩, ?_⟩
  · intro hlock
    rw [FileStore.read_write_of_ne _ _ (artifact_file_ne artifact).symm]
    exact h.stage.lock hlock
  · intro other hother
    by_cases hfile : other.file = artifact.file
    · rcases List.mem_append.mp hother with hdone | hlast
      · have hplaced := h.placed other hdone
        rw [hfile, hread] at hplaced
        cases hplaced
      · rw [List.mem_singleton.mp hlast]
        exact FileStore.read_write_self _ _ _
    · rw [FileStore.read_write_of_ne _ _ hfile]
      rcases List.mem_append.mp hother with hdone | hlast
      · exact h.placed other hdone
      · exact absurd (by rw [List.mem_singleton.mp hlast]) hfile

omit [DecidableEq B] in
/-- A fault at the next artifact is a fault among all. -/
theorem artifactFault_at
    {isFault : Fault → Prop}
    {done rest : List (SnapshotArtifact B)}
    {artifact : SnapshotArtifact B}
    (h : isFault (plan (.readArtifact done.length)) ∨
      (start.read artifact.file = none ∧
        ∃ step, isFault (plan (.write (.artifact done.length) step)))) :
    ArtifactFault plan start isFault (done ++ artifact :: rest) :=
  ⟨done.length, artifact, by simp, h⟩

/-- Writing the artifacts adds exactly those that are absent. -/
theorem meets_writeArtifacts
    (done rest : List (SnapshotArtifact B)) :
    Meets plan
      (onCore (Writing codec mode desired start history done))
      (writeArtifacts done.length rest)
      (fun _ => onCore
        (Writing codec mode desired start history (done ++ rest)))
      (fun _ => onCore (fun files now =>
        (∃ written, Writing codec mode desired start history written files
          now) ∧
        (ArtifactFault plan start (· = .failure) (done ++ rest) ∨
          AddressTaken start (done ++ rest))))
      (onCore (fun files now =>
        (∃ written, Writing codec mode desired start history written files
          now) ∧
        ArtifactFault plan start (· ≠ .none) (done ++ rest))) := by
  induction rest generalizing done with
  | nil =>
      rw [List.append_nil]
      exact meets_pure (fun _ h => h)
  | cons artifact rest ih =>
      have hlength : done.length + 1 = (done ++ [artifact]).length := by simp
      have hlist : done ++ artifact :: rest =
          (done ++ [artifact]) ++ rest := by simp
      refine meets_bind
        (fun existing state =>
          existing = state.files.read artifact.file ∧
            onCore (Writing codec mode desired start history done) state)
        ?_ fun existing => ?_
      · refine meets_observe (fun _ h => ⟨rfl, h⟩) ?_ ?_
        · intro hfault state h
          exact ⟨⟨done, h⟩, .inl (artifactFault_at (.inl hfault))⟩
        · intro hfault state h
          exact ⟨⟨done, h⟩, artifactFault_at (.inl (by simp [hfault]))⟩
      · cases existing with
        | some bytes =>
            simp only
            split
            · next hbytes =>
                rw [hlength, hlist]
                refine meets_consequence (ih (done ++ [artifact])) ?_
                  (fun _ _ h => h) (fun _ _ h => h) (fun _ h => h)
                rintro state ⟨hread, h⟩
                exact h.skip (hbytes ▸ hread.symm)
            · next hbytes =>
                refine meets_throw ?_
                rintro state ⟨hread, h⟩
                refine ⟨⟨done, h⟩, .inr ⟨artifact, by simp, ?_⟩⟩
                rcases h.addressed hread.symm with
                  hstart | ⟨other, hother, hfile, hserialized⟩
                · exact .inl ⟨bytes, hstart, hbytes⟩
                · exact .inr ⟨other, List.mem_append_left _ hother, hfile,
                    hserialized ▸ hbytes⟩
        | none =>
            simp only
            refine meets_bind
              (fun _ => onCore
                (Writing codec mode desired start history
                  (done ++ [artifact]))) ?_ fun _ => ?_
            · refine meets_consequence
                (meets_atomicWrite
                  (fun files now =>
                    files.read artifact.file = none ∧
                      Writing codec mode desired start history done files now)
                  (fun files now =>
                    start.read artifact.file = none ∧
                      Writing codec mode desired start history
                        (done ++ [artifact]) files now)
                  (fun _ _ h =>
                    ⟨h.2.stage.grown.absent (artifact_file_ne artifact) h.1,
                      h.2.place h.1⟩))
                ?_ (fun _ _ h => h.2) ?_ ?_
              · rintro state ⟨hread, h⟩
                exact ⟨hread.symm, h⟩
              · rintro _ state
                  (⟨⟨hread, h⟩, step, -, -, hfault⟩ | ⟨⟨hread, h⟩, hfault⟩)
                · exact ⟨⟨_, h⟩, .inl (artifactFault_at (.inr
                    ⟨h.stage.grown.absent (artifact_file_ne artifact) hread,
                      step, hfault⟩))⟩
                · exact ⟨⟨_, h⟩, .inl (artifactFault_at (.inr
                    ⟨hread, .syncParent, hfault⟩))⟩
              · rintro state
                  (⟨⟨hread, h⟩, step, -, hfault⟩ | ⟨⟨hread, h⟩, hfault⟩)
                · exact ⟨⟨_, h⟩, artifactFault_at (.inr
                    ⟨h.stage.grown.absent (artifact_file_ne artifact) hread,
                      step, hfault⟩)⟩
                · exact ⟨⟨_, h⟩, artifactFault_at (.inr
                    ⟨hread, .syncParent, hfault⟩)⟩
            · rw [hlength, hlist]
              exact meets_bind _ (ih (done ++ [artifact]))
                (fun _ => meets_pure (fun _ h => h))

end Artifacts

section Whole

variable {codec : PublicationCodec B}
variable {plan : PublishOp → Fault}
variable {mode : MatchLockMode}
variable {snapshot : GenerationSnapshot B}
variable {start : FileStore BuildFile B}
variable {history : PublicationHistory B}

/-- No manifest of the next id is there before it is minted. -/
theorem Writing.manifest_absent
    {generation : Nat}
    {files : FileStore BuildFile B}
    {now : PublicationHistory B}
    (h : Writing codec mode snapshot.filterMatchLock start
      (allocatedHistory history generation) snapshot.artifacts files now)
    (hnext : IsNext start generation) :
    files.read (.manifest generation) = none := by
  rw [h.stage.grown.same (by simp)]
  · cases hread : start.read (.manifest generation) with
    | none => rfl
    | some bytes =>
        exact absurd (hnext.1 generation (by simp [hread]))
          (Nat.lt_irrefl _)
  · rintro ⟨artifact, -, hfile⟩
    simp [SnapshotArtifact.file] at hfile

/-- The minted files are the artifacts and one new manifest. -/
theorem Writing.mint
    {generation : Nat}
    {serialized : B}
    {files : FileStore BuildFile B}
    {now : PublicationHistory B}
    (h : Writing codec mode snapshot.filterMatchLock start
      (allocatedHistory history generation) snapshot.artifacts files now)
    (hnext : IsNext start generation)
    (hencoded :
      codec.encodeManifest (manifestFor snapshot generation) =
        .ok serialized) :
    Minted codec mode snapshot start history generation serialized
      (files.write (.manifest generation) serialized)
      (recordMinted generation now) := by
  have habsent := h.manifest_absent hnext
  have hmono : Grown
      (fun file => isFileOf snapshot.artifacts file ∨
        file = .manifest generation) start files :=
    h.stage.grown.mono (fun _ hfile => .inl hfile)
  refine ⟨⟨hmono.write (by simp) (.inr rfl) habsent, ?_, ?_⟩, ?_, hencoded,
    FileStore.read_write_self _ _ _⟩
  · rw [h.stage.history_eq]
    rfl
  · intro hlock
    rw [FileStore.read_write_of_ne _ _ (by simp)]
    exact h.stage.lock hlock
  · intro artifact hartifact
    rw [FileStore.read_write_of_ne _ _ (by simp [SnapshotArtifact.file])]
    exact h.placed artifact hartifact

/-- Where and why a publication fails. -/
inductive PublishFailed
    (codec : PublicationCodec B)
    (plan : PublishOp → Fault)
    (mode : MatchLockMode)
    (snapshot : GenerationSnapshot B)
    (start : FileStore BuildFile B)
    (history : PublicationHistory B) : Assertion B
  | unlocked {files now} :
      files = start → now = history →
      PublishFailed codec plan mode snapshot start history files now
  | reconciling {files now} :
      ReconcileFailed codec plan mode snapshot.filterMatchLock start history
        files now →
      PublishFailed codec plan mode snapshot start history files now
  | allocating {files now} :
      Reconciled codec mode snapshot.filterMatchLock start history files
        now →
      AllocationFails plan start →
      PublishFailed codec plan mode snapshot start history files now
  | writing {generation written files now} :
      IsNext start generation →
      Writing codec mode snapshot.filterMatchLock start
        (allocatedHistory history generation) written files now →
      ArtifactFault plan start (· = .failure) snapshot.artifacts ∨
        AddressTaken start snapshot.artifacts →
      PublishFailed codec plan mode snapshot start history files now
  | refusing {generation files now} :
      IsNext start generation →
      Writing codec mode snapshot.filterMatchLock start
        (allocatedHistory history generation) snapshot.artifacts files now →
      ManifestRefused start codec snapshot ∨
        (∃ step, step ≠ .syncParent ∧ step ≠ .discard ∧
          plan (.write .manifest step) = .failure) →
      PublishFailed codec plan mode snapshot start history files now
  | minted {generation serialized files now} :
      IsNext start generation →
      Minted codec mode snapshot start history generation serialized files
        now →
      plan (.write .manifest .syncParent) = .failure ∨
        (∃ step, step ≠ .syncParent ∧ step ≠ .discard ∧
          plan (.write .pointer step) = .failure) →
      PublishFailed codec plan mode snapshot start history files now
  | committed {generation serialized files now} :
      IsNext start generation →
      Committed codec mode snapshot start history generation serialized files
        now →
      plan (.write .pointer .syncParent) = .failure →
      PublishFailed codec plan mode snapshot start history files now

/-- Where a publication crashes; the reasons are for crashes between the id
and its manifest. -/
inductive PublishCrashed
    (codec : PublicationCodec B)
    (plan : PublishOp → Fault)
    (mode : MatchLockMode)
    (snapshot : GenerationSnapshot B)
    (start : FileStore BuildFile B)
    (history : PublicationHistory B) : Assertion B
  | idle {files now} :
      OnlyLock start history files now →
      PublishCrashed codec plan mode snapshot start history files now
  | writing {generation written files now} :
      IsNext start generation →
      Writing codec mode snapshot.filterMatchLock start
        (allocatedHistory history generation) written files now →
      ArtifactFault plan start (· ≠ .none) snapshot.artifacts ∨
        plan .checkManifest = .crash ∨
        (∃ step, step ≠ .syncParent ∧
          plan (.write .manifest step) ≠ .none) →
      PublishCrashed codec plan mode snapshot start history files now
  | minted {generation serialized files now} :
      IsNext start generation →
      Minted codec mode snapshot start history generation serialized files
        now →
      PublishCrashed codec plan mode snapshot start history files now
  | committed {generation serialized files now} :
      IsNext start generation →
      Committed codec mode snapshot start history generation serialized files
        now →
      PublishCrashed codec plan mode snapshot start history files now

theorem meets_writeManifest
    {generation : Nat}
    (hnext : IsNext start generation) :
    Meets plan
      (onCore (Writing codec mode snapshot.filterMatchLock start
        (allocatedHistory history generation) snapshot.artifacts))
      (writeManifest codec snapshot generation)
      (fun serialized => onCore
        (Minted codec mode snapshot start history generation serialized))
      (fun _ => onCore (PublishFailed codec plan mode snapshot start history))
      (onCore (PublishCrashed codec plan mode snapshot start history)) := by
  unfold writeManifest
  cases hencoded :
      codec.encodeManifest (manifestFor snapshot generation) with
  | error message =>
      exact meets_throw (fun _ h =>
        .refusing hnext h (.inl ⟨generation, message, hnext, hencoded⟩))
  | ok serialized =>
      refine meets_bind
        (fun found state =>
          found = false ∧
            onCore (Writing codec mode snapshot.filterMatchLock start
              (allocatedHistory history generation) snapshot.artifacts)
              state) ?_ fun found => ?_
      · refine meets_onError
          (fun _ => onCore (Writing codec mode snapshot.filterMatchLock start
            (allocatedHistory history generation) snapshot.artifacts)) ?_
          (fun _ => meets_pure (fun _ h => ⟨rfl, h⟩))
        refine meets_observe ?_ (fun _ _ h => h) ?_
        · intro state h
          refine ⟨?_, h⟩
          have habsent := h.manifest_absent hnext
          simp [habsent]
        · intro hfault state h
          exact .writing hnext h (.inr (.inl hfault))
      · cases found with
        | true =>
            rintro state ⟨hfalse, -⟩
            cases hfalse
        | false =>
            simp only [Bool.false_eq_true, if_false]
            refine meets_bind
              (fun _ => onCore
                (Minted codec mode snapshot start history generation
                  serialized)) ?_ (fun _ => meets_pure (fun _ h => h))
            refine meets_consequence
              (meets_atomicWrite
                (Writing codec mode snapshot.filterMatchLock start
                  (allocatedHistory history generation) snapshot.artifacts)
                (Minted codec mode snapshot start history generation
                  serialized)
                (fun _ _ h => h.mint hnext hencoded))
              (fun _ h => h.2) (fun _ _ h => h) ?_ ?_
            · rintro _ state (⟨h, hfault⟩ | ⟨h, hfault⟩)
              · exact .refusing hnext h (.inr hfault)
              · exact .minted hnext h (.inl hfault)
            · rintro state (⟨h, step, hstep, hfault⟩ | ⟨h, hfault⟩)
              · exact .writing hnext h (.inr (.inr ⟨step, hstep, hfault⟩))
              · exact .minted hnext h

theorem meets_commitPointer
    {generation : Nat}
    {serialized : B}
    (hnext : IsNext start generation) :
    Meets plan
      (onCore (Minted codec mode snapshot start history generation
        serialized))
      (atomicWrite .pointer .pointer serialized
        (recordCommit ⟨generation, snapshot⟩))
      (fun _ => onCore
        (Committed codec mode snapshot start history generation serialized))
      (fun _ => onCore (PublishFailed codec plan mode snapshot start history))
      (onCore (PublishCrashed codec plan mode snapshot start history)) := by
  refine meets_consequence
    (meets_atomicWrite
      (Minted codec mode snapshot start history generation serialized)
      (Committed codec mode snapshot start history generation serialized)
      (fun files now h => ⟨files, now, h, rfl, rfl⟩))
    (fun _ h => h) (fun _ _ h => h) ?_ ?_
  · rintro _ state (⟨h, hfault⟩ | ⟨h, hfault⟩)
    · exact .minted hnext h (.inr hfault)
    · exact .committed hnext h hfault
  · rintro state (⟨h, -⟩ | ⟨h, -⟩)
    · exact .minted hnext h
    · exact .committed hnext h

/-- The generation that the pointer of a tree names. -/
def pointed
    (codec : PublicationCodec B)
    (files : FileStore BuildFile B) : Option Nat :=
  (files.read .pointer).bind (pointedGeneration codec)

/-- What a publication has done when it returns. -/
def PublishDone
    (codec : PublicationCodec B)
    (plan : PublishOp → Fault)
    (mode : MatchLockMode)
    (snapshot : GenerationSnapshot B)
    (start : FileStore BuildFile B)
    (history : PublicationHistory B)
    (published : PublishedGeneration B) : Assertion B :=
  fun files now =>
    IsNext start published.generationId ∧
      Committed codec mode snapshot start history published.generationId
        published.manifestJson files now ∧
      (plan .readPointer ≠ .failure →
        published.predecessor = pointed codec start)

omit [DecidableEq B] in
/-- Reading the pointer never fails; an unreadable pointer names nothing. -/
theorem meets_pointerGeneration
    {assertion : Assertion B}
    {onFail : GenerateError → PublicationState B → Prop}
    (hpointer : ∀ files now, assertion files now →
      files.read .pointer = start.read .pointer) :
    Meets plan (onCore assertion) (pointerGeneration codec)
      (fun predecessor state =>
        (predecessor = pointed codec start ∨
          predecessor = none ∧ plan .readPointer = .failure) ∧
          onCore assertion state)
      onFail
      (onCore assertion) := by
  refine meets_onError
    (fun _ state => plan .readPointer = .failure ∧ onCore assertion state)
    ?_ (fun _ => meets_pure (fun _ h => ⟨.inr ⟨rfl, h.1⟩, h.2⟩))
  refine meets_observe ?_ (fun hfault _ h => ⟨hfault, h⟩) (fun _ _ h => h)
  intro state h
  exact ⟨.inl (by rw [hpointer _ _ h]; rfl), h⟩

/-- The triple of a publication under the lock. -/
theorem meets_publishBody
    (hpointer : ∀ id ∈ pointed codec start,
      (start.read (.manifest id)).isSome = true) :
    Meets plan (fun state => state.files = start ∧ state.history = history)
      (publishBody codec snapshot mode)
      (fun published => onCore
        (PublishDone codec plan mode snapshot start history published))
      (fun _ => onCore (PublishFailed codec plan mode snapshot start history))
      (onCore (PublishCrashed codec plan mode snapshot start history)) := by
  refine meets_bind
    (fun _ => onCore
      (Reconciled codec mode snapshot.filterMatchLock start history)) ?_
    fun matchLock => ?_
  · exact meets_consequence meets_reconcileMatchLock (fun _ h => h)
      (fun _ _ h => h) (fun _ _ h => .reconciling h) (fun _ h => .idle h)
  refine meets_bind
    (fun predecessor state =>
      (predecessor = pointed codec start ∨
        predecessor = none ∧ plan .readPointer = .failure) ∧
        onCore (Reconciled codec mode snapshot.filterMatchLock start history)
          state) ?_ fun predecessor => ?_
  · refine meets_consequence
      (meets_pointerGeneration (fun files now h => ?_))
      (fun _ h => h) (fun _ _ h => h) (fun _ _ h => h) (fun _ h => ?_)
    · exact h.1.1.same (by simp) (fun hfalse => hfalse)
    · exact .idle h.1
  refine meets_assuming fun hpredecessor => ?_
  refine meets_bind
    (fun generation state =>
      IsNext start generation ∧
        onCore (Reconciled codec mode snapshot.filterMatchLock start
          (allocatedHistory history generation)) state) ?_ fun generation => ?_
  · refine meets_consequence (meets_allocateGeneration ?_)
      (fun _ h => h) (fun _ _ h => h)
      (fun _ _ h => .allocating h.1 h.2) (fun _ h => .idle h.1)
    rcases hpredecessor with rfl | ⟨rfl, -⟩
    · exact hpointer
    · simp
  refine meets_assuming fun hnext => ?_
  refine meets_bind
    (fun _ => onCore
      (Writing codec mode snapshot.filterMatchLock start
        (allocatedHistory history generation) snapshot.artifacts)) ?_
    fun written => ?_
  · refine meets_consequence (meets_writeArtifacts [] snapshot.artifacts)
      ?_ (fun _ _ h => h) ?_ ?_
    · intro state h
      exact ⟨⟨h.1.1.mono (fun _ hfalse => hfalse.elim), h.1.2, h.2⟩,
        fun _ hnil => by cases hnil⟩
    · rintro _ state ⟨⟨done, h⟩, hreason⟩
      exact .writing hnext h hreason
    · rintro state ⟨⟨done, h⟩, hreason⟩
      exact .writing hnext h (.inl hreason)
  refine meets_bind _ (meets_writeManifest hnext) fun serialized => ?_
  refine meets_bind _ (meets_commitPointer hnext) fun _ => ?_
  refine meets_pure fun state h => ⟨hnext, h, fun hread => ?_⟩
  rcases hpredecessor with hread' | ⟨-, hfault⟩
  · exact hread'
  · exact absurd hfault hread

theorem meets_publish
    (hpointer : ∀ id ∈ pointed codec start,
      (start.read (.manifest id)).isSome = true) :
    Meets plan (fun state => state.files = start ∧ state.history = history)
      (publish codec snapshot mode)
      (fun published => onCore
        (PublishDone codec plan mode snapshot start history published))
      (fun _ => onCore (PublishFailed codec plan mode snapshot start history))
      (onCore (PublishCrashed codec plan mode snapshot start history)) := by
  have hlock : ∀ (op : PublishOp) (error : GenerateError),
      Meets plan (fun state => state.files = start ∧ state.history = history)
        (perform op error id : Publish B Unit)
        (fun _ state => state.files = start ∧ state.history = history)
        (fun _ => onCore
          (PublishFailed codec plan mode snapshot start history))
        (onCore (PublishCrashed codec plan mode snapshot start history)) := by
    intro op error
    refine meets_perform (fun _ h => h) ?_ ?_
    · rintro _ state ⟨hfiles, hhistory⟩
      exact .unlocked hfiles hhistory
    · rintro _ state ⟨hfiles, hhistory⟩
      exact .idle ⟨hfiles ▸ Grown.refl, hhistory⟩
  exact meets_bind _ (hlock _ _) fun _ =>
    meets_bind _ (hlock _ _) fun _ =>
      meets_bind _ (hlock _ _) fun _ =>
        meets_bind _ (hlock _ _) fun _ => meets_publishBody hpointer

end Whole

end Publication

end Dsql
