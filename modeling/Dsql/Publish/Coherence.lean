import Dsql.Publish.Progress

/-!
# Coherent build trees

The pointer of a coherent tree names the latest generation of its history, and
what that generation published is in place.  Publications and prunes keep it
so, however they end.
-/

namespace Dsql

namespace Publication

variable {B : Type}

/-- The manifest of a commit and every artifact that it lists are on disk with
the published bytes. -/
structure InPlace
    (codec : PublicationCodec B)
    (files : FileStore BuildFile B)
    (commit : Commit B)
    (serialized : B) : Prop where
  encoded :
    codec.encodeManifest (manifestFor commit.snapshot commit.generation) =
      .ok serialized
  manifest : files.read (.manifest commit.generation) = some serialized
  placed : Placed commit.snapshot.artifacts files

/-- The files that a commit consists of. -/
def Commit.references (commit : Commit B) (file : BuildFile) : Prop :=
  file = .manifest commit.generation ∨
    isFileOf commit.snapshot.artifacts file

/-- The pointer is absent or names the latest commit, which is in place. -/
def PointerSound
    (codec : PublicationCodec B)
    (files : FileStore BuildFile B) : List (Commit B) → Prop
  | [] => files.read .pointer = none
  | commit :: _ =>
      ∃ serialized, files.read .pointer = some serialized ∧
        InPlace codec files commit serialized

/-- The invariant of a build tree and its history. -/
structure Coherent
    (codec : PublicationCodec B)
    (published : GenerationSnapshot B → Prop)
    (files : FileStore BuildFile B)
    (history : PublicationHistory B) : Prop where
  descending : history.lineage.Pairwise (fun newer older =>
    older.generation < newer.generation)
  pointer : PointerSound codec files history.lineage
  snapshots : ∀ commit ∈ history.lineage, published commit.snapshot

def latestGeneration (history : PublicationHistory B) : Option Nat :=
  history.lineage.head?.map Commit.generation

section Coherence

variable {codec : PublicationCodec B}
variable {published : GenerationSnapshot B → Prop}
variable {start files : FileStore BuildFile B}
variable {history now : PublicationHistory B}

/-- The pointer of a coherent tree names the latest generation. -/
theorem Coherent.pointed_eq
    (h : Coherent codec published files history) :
    pointed codec files = latestGeneration history := by
  have hpointer := h.pointer
  unfold pointed latestGeneration
  cases hlineage : history.lineage with
  | nil =>
      rw [hlineage] at hpointer
      have hnone : files.read .pointer = none := hpointer
      rw [hnone]
      rfl
  | cons commit older =>
      rw [hlineage] at hpointer
      obtain ⟨serialized, hread, hplace⟩ := hpointer
      have hdecode := codec.decode_encode _ _ hplace.encoded
      rw [hread]
      simp [pointedGeneration, hdecode, manifestFor]

/-- The manifest of the latest generation is on disk. -/
theorem Coherent.latest_manifest
    (h : Coherent codec published files history) :
    ∀ id ∈ latestGeneration history,
      (files.read (.manifest id)).isSome = true := by
  have hpointer := h.pointer
  unfold latestGeneration
  cases hlineage : history.lineage with
  | nil => simp
  | cons commit older =>
      rw [hlineage] at hpointer
      obtain ⟨serialized, -, hplace⟩ := hpointer
      intro id hid
      have heq : commit.generation = id := by simpa using hid
      rw [← heq, hplace.manifest]
      rfl

/-- The generations of the lineage do not exceed the latest. -/
theorem Coherent.le_latest
    (h : Coherent codec published files history)
    {commit : Commit B}
    (hcommit : commit ∈ history.lineage) :
    ∃ latest ∈ latestGeneration history, commit.generation ≤ latest := by
  have hdescending := h.descending
  unfold latestGeneration
  cases hlineage : history.lineage with
  | nil =>
      rw [hlineage] at hcommit
      cases hcommit
  | cons head older =>
      rw [hlineage] at hcommit hdescending
      refine ⟨head.generation, rfl, ?_⟩
      rcases List.mem_cons.mp hcommit with rfl | holder
      · exact Nat.le_refl _
      · exact Nat.le_of_lt ((List.pairwise_cons.mp hdescending).1 _ holder)

/-- A commit stays in place where its files stay. -/
theorem InPlace.congr
    {commit : Commit B}
    {serialized : B}
    (h : InPlace codec start commit serialized)
    (hsame : ∀ file, Commit.references commit file →
      files.read file = start.read file) :
    InPlace codec files commit serialized :=
  ⟨h.encoded, (hsame _ (.inl rfl)).trans h.manifest,
    fun artifact hartifact =>
      (hsame _ (.inr ⟨artifact, hartifact, rfl⟩)).trans
        (h.placed artifact hartifact)⟩

theorem InPlace.grown
    {fresh : BuildFile → Prop}
    {commit : Commit B}
    {serialized : B}
    (h : InPlace codec start commit serialized)
    (hgrown : Grown fresh start files) :
    InPlace codec files commit serialized :=
  ⟨h.encoded, hgrown.kept (by simp) h.manifest,
    fun artifact hartifact =>
      hgrown.kept (artifact_file_ne artifact) (h.placed artifact hartifact)⟩

/-- The manifest of a snapshot lists each of its artifacts. -/
theorem manifestFor_paths
    {snapshot : GenerationSnapshot B}
    {artifact : SnapshotArtifact B}
    (generation : Nat)
    (h : artifact ∈ snapshot.artifacts) :
    artifact.relativePath ∈ (manifestFor snapshot generation).paths := by
  have hentry : manifestEntry artifact ∈
      (manifestFor snapshot generation).operations ++
        (manifestFor snapshot generation).fragments := by
    cases hfamily : artifact.family with
    | operation =>
        refine List.mem_append_left _ (List.mem_map.mpr ⟨artifact, ?_, rfl⟩)
        simp [h, hfamily]
    | fragment =>
        refine List.mem_append_right _
          (List.mem_map.mpr ⟨artifact, ?_, rfl⟩)
        simp [h, hfamily]
  exact List.mem_map.mpr ⟨_, hentry, rfl⟩

/-- Whatever a commit in place consists of is retained with its
generation. -/
theorem InPlace.retained
    {commit : Commit B}
    {serialized : B}
    {generations : List Nat}
    {file : BuildFile}
    (h : InPlace codec start commit serialized)
    (hmem : commit.generation ∈ generations)
    (hfile : Commit.references commit file) :
    Retained codec start generations file := by
  refine .inr (.inr ⟨commit.generation, hmem, ?_⟩)
  rcases hfile with rfl | ⟨artifact, hartifact, rfl⟩
  · exact .inl rfl
  · exact .inr ⟨serialized, _, _, _, h.manifest,
      codec.decode_encode _ _ h.encoded, rfl,
      manifestFor_paths commit.generation hartifact⟩

/-- Fresh files do not disturb a coherent tree. -/
theorem Coherent.grown
    {fresh : BuildFile → Prop}
    (h : Coherent codec published start history)
    (hgrown : Grown fresh start files)
    (hfresh : ¬ fresh .pointer)
    (hlineage : now.lineage = history.lineage) :
    Coherent codec published files now := by
  refine ⟨hlineage ▸ h.descending, ?_, hlineage ▸ h.snapshots⟩
  have hpointer := h.pointer
  have hsame := hgrown.same (by simp) hfresh
  rw [hlineage]
  cases hhistory : history.lineage with
  | nil =>
      rw [hhistory] at hpointer
      exact hsame.trans hpointer
  | cons commit older =>
      rw [hhistory] at hpointer
      obtain ⟨serialized, hread, hplace⟩ := hpointer
      exact ⟨serialized, hsame.trans hread, hplace.grown hgrown⟩

/-- A commit in place stays so when its generation is among the retained
ones. -/
theorem InPlace.pruned
    {commit : Commit B}
    {serialized : B}
    {handle : PublishedGeneration B}
    (h : InPlace codec start commit serialized)
    (hpruned : Pruned codec start history handle files now)
    (hmem : pointed codec start = some handle.generationId →
      commit.generation ∈ prunedGenerations handle)
    {file : BuildFile}
    (hfile : Commit.references commit file) :
    files.read file = start.read file := by
  rcases hpruned.2 file with hsame | ⟨-, hcurrent, hnot⟩
  · exact hsame
  · exact absurd (h.retained (hmem hcurrent) hfile) hnot

/-- A prune keeps a coherent tree so. -/
theorem Coherent.pruned
    {handle : PublishedGeneration B}
    (h : Coherent codec published start history)
    (hpruned : Pruned codec start history handle files now) :
    Coherent codec published files now := by
  have hnow : now = history := hpruned.1
  subst hnow
  refine ⟨h.descending, ?_, h.snapshots⟩
  have hpointer := h.pointer
  have hlatest := h.pointed_eq
  have hsame := hpruned.kept (.inl rfl)
  cases hhistory : now.lineage with
  | nil =>
      rw [hhistory] at hpointer
      exact hsame.trans hpointer
  | cons commit older =>
      rw [hhistory] at hpointer
      obtain ⟨serialized, hread, hplace⟩ := hpointer
      have hmem : pointed codec start = some handle.generationId →
          commit.generation ∈ prunedGenerations handle := by
        intro hcurrent
        rw [hlatest, latestGeneration, hhistory] at hcurrent
        have heq : commit.generation = handle.generationId := by
          simpa using hcurrent
        rw [heq]
        exact List.mem_cons_self
      exact ⟨serialized, hsame.trans hread,
        hplace.congr (fun _ hfile => hplace.pruned hpruned hmem hfile)⟩

variable [DecidableEq B]
variable {plan : PublishOp → Fault}
variable {mode : MatchLockMode}
variable {snapshot : GenerationSnapshot B}

/-- A commit is the latest of the lineage. -/
theorem Committed.lineage_eq
    {generation : Nat}
    {serialized : B}
    (h : Committed codec mode snapshot start history generation serialized
      files now) :
    now.lineage = ⟨generation, snapshot⟩ :: history.lineage := by
  obtain ⟨before, beforeHistory, hminted, -, rfl⟩ := h
  have hlineage : beforeHistory.lineage = history.lineage := by
    rw [hminted.stage.history_eq]
    rfl
  rw [← hlineage]
  rfl

/-- Moving the pointer to a minted generation keeps the tree coherent. -/
theorem Coherent.commit
    {generation : Nat}
    {serialized : B}
    (h : Coherent codec published start history)
    (hnext : IsNext start generation)
    (hsnapshot : published snapshot)
    (hcommitted : Committed codec mode snapshot start history generation
      serialized files now) :
    Coherent codec published files now := by
  have hcons := hcommitted.lineage_eq
  obtain ⟨before, beforeHistory, hminted, rfl, rfl⟩ := hcommitted
  refine ⟨?_, ?_, ?_⟩
  · rw [hcons]
    refine List.pairwise_cons.mpr ⟨fun commit hcommit => ?_, h.descending⟩
    obtain ⟨latest, hlatest, hle⟩ := h.le_latest hcommit
    exact Nat.lt_of_le_of_lt hle
      (hnext.1 latest (h.latest_manifest latest hlatest))
  · rw [hcons]
    refine ⟨serialized, FileStore.read_write_self _ _ _, hminted.encoded,
      ?_, ?_⟩
    · rw [FileStore.read_write_of_ne _ _ (by simp)]
      exact hminted.manifest
    · intro artifact hartifact
      rw [FileStore.read_write_of_ne _ _ (by simp [SnapshotArtifact.file])]
      exact hminted.placed artifact hartifact
  · rw [hcons]
    intro commit hcommit
    rcases List.mem_cons.mp hcommit with rfl | holder
    · exact hsnapshot
    · exact h.snapshots commit holder

/-- A commit in place stays so through a publication. -/
theorem InPlace.progress
    {commit : Commit B}
    {serialized : B}
    (h : InPlace codec start commit serialized)
    (hprogress : Progress codec plan mode snapshot start history files now) :
    InPlace codec files commit serialized := by
  cases hprogress with
  | idle hidle => exact h.grown hidle.1
  | allocated _ hgrown _ _ => exact h.grown hgrown
  | minted _ hminted => exact h.grown hminted.stage.grown
  | committed _ hcommitted =>
      obtain ⟨before, beforeHistory, hminted, rfl, rfl⟩ := hcommitted
      refine (h.grown hminted.stage.grown).congr fun file hfile => ?_
      refine FileStore.read_write_of_ne _ _ ?_
      rintro rfl
      rcases hfile with hmanifest | ⟨artifact, -, hartifact⟩
      · cases hmanifest
      · simp [SnapshotArtifact.file] at hartifact

/-- The lineage after a publication, which only a new latest commit
changes. -/
theorem Progress.lineage
    (h : Progress codec plan mode snapshot start history files now) :
    now.lineage = history.lineage ∨
      ∃ generation, now.lineage = ⟨generation, snapshot⟩ :: history.lineage := by
  cases h with
  | idle h => exact .inl (by rw [h.2])
  | allocated _ _ h _ => exact .inl (by rw [h]; rfl)
  | minted _ h => exact .inl (by rw [h.stage.history_eq]; rfl)
  | committed _ h => exact .inr ⟨_, h.lineage_eq⟩

/-- A publication keeps a coherent tree so, however far it gets. -/
theorem Coherent.progress
    (h : Coherent codec published start history)
    (hsnapshot : published snapshot)
    (hprogress : Progress codec plan mode snapshot start history files now) :
    Coherent codec published files now := by
  cases hprogress with
  | idle hidle => exact h.grown hidle.1 (fun hfalse => hfalse) (by rw [hidle.2])
  | allocated _ hgrown hnow _ =>
      exact h.grown hgrown (fun hfalse => hfalse) (by rw [hnow]; rfl)
  | minted _ hminted =>
      refine h.grown hminted.stage.grown ?_
        (by rw [hminted.stage.history_eq]; rfl)
      rintro (⟨artifact, -, hfile⟩ | hfile)
      · simp [SnapshotArtifact.file] at hfile
      · cases hfile
  | committed hnext hcommitted => exact h.commit hnext hsnapshot hcommitted

end Coherence

end Publication

end Dsql
