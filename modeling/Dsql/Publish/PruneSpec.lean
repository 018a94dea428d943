import Dsql.Publish.PublishSpec

/-!
# What pruning does

Pruning only removes files, and only while the pointer names its generation.
What that generation and its recorded predecessor list stays.
-/

namespace Dsql

namespace Publication

open Program

variable {B : Type}

/-- A file that the manifest of a generation stands in or lists. -/
def ListedBy
    (codec : PublicationCodec B)
    (files : FileStore BuildFile B)
    (generation : Nat)
    (file : BuildFile) : Prop :=
  file = .manifest generation ∨
    ∃ bytes manifest family name,
      files.read (.manifest generation) = some bytes ∧
        codec.decodeManifest bytes = .ok manifest ∧
        file = .artifact family name ∧
        family.directory ++ "/" ++ name ∈ manifest.paths

/-- The pointer, the lock and everything that the given generations list. -/
def Retained
    (codec : PublicationCodec B)
    (files : FileStore BuildFile B)
    (generations : List Nat)
    (file : BuildFile) : Prop :=
  file = .pointer ∨ file = .matchLock ∨
    ∃ generation ∈ generations, ListedBy codec files generation file

def prunedGenerations (published : PublishedGeneration B) : List Nat :=
  published.generationId :: published.predecessor.toList

/-- Files are gone only under a pointer that names the generation, and only
those that are not retained. -/
def Pruned
    (codec : PublicationCodec B)
    (start : FileStore BuildFile B)
    (history : PublicationHistory B)
    (published : PublishedGeneration B) : Assertion B :=
  fun files now =>
    now = history ∧
      ∀ file, files.read file = start.read file ∨
        (files.read file = none ∧
          pointed codec start = some published.generationId ∧
          ¬ Retained codec start (prunedGenerations published) file)

section Rules

variable {codec : PublicationCodec B}
variable {plan : PublishOp → Fault}
variable {start : FileStore BuildFile B}
variable {history : PublicationHistory B}
variable {published : PublishedGeneration B}

theorem pruned_start : Pruned codec start history published start history :=
  ⟨rfl, fun _ => .inl rfl⟩

theorem Pruned.remove
    {file : BuildFile}
    {files : FileStore BuildFile B}
    {now : PublicationHistory B}
    (h : Pruned codec start history published files now)
    (hcurrent : pointed codec start = some published.generationId)
    (hfile : ¬ Retained codec start (prunedGenerations published) file) :
    Pruned codec start history published (files.remove file) now := by
  refine ⟨h.1, fun other => ?_⟩
  by_cases heq : other = file
  · subst heq
    exact .inr ⟨FileStore.read_remove_self _ _, hcurrent, hfile⟩
  · rw [FileStore.read_remove_of_ne _ heq]
    exact h.2 other

/-- A retained file is as it was. -/
theorem Pruned.kept
    {file : BuildFile}
    {files : FileStore BuildFile B}
    {now : PublicationHistory B}
    (h : Pruned codec start history published files now)
    (hfile : Retained codec start (prunedGenerations published) file) :
    files.read file = start.read file := by
  rcases h.2 file with hsame | ⟨-, -, hnot⟩
  · exact hsame
  · exact absurd hfile hnot

/-- While nothing above the pruned generation is on disk, the greatest id
stays. -/
theorem Pruned.manifest_kept
    {id : Nat}
    {files : FileStore BuildFile B}
    {now : PublicationHistory B}
    (h : Pruned codec start history published files now)
    (hlatest : pointed codec start = some published.generationId →
      ∀ id, (start.read (.manifest id)).isSome = true →
        id ≤ published.generationId)
    (hpointed : ∀ id ∈ pointed codec start,
      (start.read (.manifest id)).isSome = true)
    (hid : (start.read (.manifest id)).isSome = true) :
    ∃ later, id ≤ later ∧
      (files.read (.manifest later)).isSome = true := by
  rcases h.2 (.manifest id) with hsame | ⟨-, hcurrent, -⟩
  · exact ⟨id, Nat.le_refl id, hsame ▸ hid⟩
  · refine ⟨published.generationId, hlatest hcurrent id hid, ?_⟩
    rw [h.kept (.inr (.inr ⟨_, List.mem_cons_self, .inl rfl⟩))]
    exact hpointed _ hcurrent

theorem meets_removeFile
    {op : PublishOp}
    {file : BuildFile}
    {onFail : GenerateError → PublicationState B → Prop}
    (hcurrent : pointed codec start = some published.generationId)
    (hfile : ¬ Retained codec start (prunedGenerations published) file) :
    Meets plan (onCore (Pruned codec start history published))
      (removeFile op file)
      (fun _ => onCore (Pruned codec start history published))
      onFail
      (onCore (Pruned codec start history published)) := by
  refine meets_onError
    (fun _ => onCore (Pruned codec start history published)) ?_
    (fun _ => meets_pure (fun _ h => h))
  exact meets_perform (fun _ h => h.remove hcurrent hfile) (fun _ _ h => h)
    (fun _ _ h => h)

theorem meets_pruneManifests
    {onFail : GenerateError → PublicationState B → Prop}
    (hcurrent : pointed codec start = some published.generationId)
    (ids : List Nat) :
    Meets plan (onCore (Pruned codec start history published))
      (pruneManifests (prunedGenerations published) ids)
      (fun _ => onCore (Pruned codec start history published))
      onFail
      (onCore (Pruned codec start history published)) := by
  induction ids with
  | nil => exact meets_pure (fun _ h => h)
  | cons id rest ih =>
      refine meets_bind
        (fun _ => onCore (Pruned codec start history published)) ?_
        (fun _ => ih)
      unfold pruneManifest
      split
      · exact meets_pure (fun _ h => h)
      · next hid =>
          refine meets_removeFile hcurrent ?_
          rintro (hfile | hfile | ⟨generation, hmem, hfile⟩)
          · cases hfile
          · cases hfile
          · rcases hfile with hfile | ⟨_, _, _, _, -, -, hfile, -⟩
            · cases hfile
              exact hid (List.contains_iff_mem.mpr hmem)
            · cases hfile

/-- The paths `retained` cover every artifact that the retained generations
list. -/
def Covers
    (codec : PublicationCodec B)
    (start : FileStore BuildFile B)
    (generations : List Nat)
    (retained : List String) : Prop :=
  ∀ generation ∈ generations, ∀ bytes manifest,
    start.read (.manifest generation) = some bytes →
      codec.decodeManifest bytes = .ok manifest →
        ∀ path ∈ manifest.paths, path ∈ retained

theorem meets_pruneEntries
    {retained : List String}
    {family : ArtifactFamily}
    {onFail : GenerateError → PublicationState B → Prop}
    (hcurrent : pointed codec start = some published.generationId)
    (hcovers : Covers codec start (prunedGenerations published) retained)
    (names : List String) :
    Meets plan (onCore (Pruned codec start history published))
      (pruneEntries retained family names)
      (fun _ => onCore (Pruned codec start history published))
      onFail
      (onCore (Pruned codec start history published)) := by
  induction names with
  | nil => exact meets_pure (fun _ h => h)
  | cons name rest ih =>
      refine meets_bind
        (fun _ => onCore (Pruned codec start history published)) ?_
        (fun _ => ih)
      refine meets_bind
        (fun _ => onCore (Pruned codec start history published)) ?_
        fun readable => ?_
      · refine meets_onError
          (fun _ => onCore (Pruned codec start history published)) ?_
          (fun _ => meets_pure (fun _ h => h))
        exact meets_observe (fun _ h => h) (fun _ _ h => h) (fun _ _ h => h)
      split
      · exact meets_pure (fun _ h => h)
      · next hname =>
          refine meets_removeFile hcurrent ?_
          rintro (hfile | hfile | ⟨generation, hmem, hfile⟩)
          · cases hfile
          · cases hfile
          · rcases hfile with
              hfile | ⟨bytes, manifest, _, _, hread, hdecode, hfile, hpath⟩
            · cases hfile
            · cases hfile
              have hretained :=
                hcovers generation hmem bytes manifest hread hdecode _ hpath
              exact hname (by simp [hretained])

theorem meets_pruneFamily
    {retained : List String}
    {family : ArtifactFamily}
    {onFail : GenerateError → PublicationState B → Prop}
    (hcurrent : pointed codec start = some published.generationId)
    (hcovers : Covers codec start (prunedGenerations published) retained) :
    Meets plan (onCore (Pruned codec start history published))
      (pruneFamily retained family)
      (fun _ => onCore (Pruned codec start history published))
      onFail
      (onCore (Pruned codec start history published)) := by
  refine meets_bind
    (fun _ => onCore (Pruned codec start history published)) ?_
    (fun names => meets_pruneEntries hcurrent hcovers names)
  refine meets_onError
    (fun _ => onCore (Pruned codec start history published)) ?_
    (fun _ => meets_pure (fun _ h => h))
  exact meets_observe (fun _ h => h) (fun _ _ h => h) (fun _ _ h => h)

theorem meets_retainManifest
    {generation : Nat}
    (hmem : generation ∈ prunedGenerations published) :
    Meets plan (onCore (Pruned codec start history published))
      (retainManifest codec generation)
      (fun paths state =>
        Covers codec start [generation] paths ∧
          onCore (Pruned codec start history published) state)
      (fun _ => onCore (Pruned codec start history published))
      (onCore (Pruned codec start history published)) := by
  refine meets_bind
    (fun raw state =>
      raw = start.read (.manifest generation) ∧
        onCore (Pruned codec start history published) state) ?_
    fun raw => meets_assuming fun hraw => ?_
  · refine meets_observe ?_ (fun _ _ h => h) (fun _ _ h => h)
    intro state h
    exact ⟨h.kept (.inr (.inr ⟨generation, hmem, .inl rfl⟩)), h⟩
  · split
    · exact meets_throw (fun _ h => h)
    · next bytes =>
        split
        · exact meets_throw (fun _ h => h)
        · next manifest hdecode =>
            refine meets_pure (fun _ h => ⟨?_, h⟩)
            intro other hother otherBytes otherManifest hread hother' path
              hpath
            rw [List.mem_singleton.mp hother, ← hraw,
              Option.some.injEq] at hread
            subst hread
            rw [hdecode, Except.ok.injEq] at hother'
            exact hother' ▸ hpath

theorem Covers.append
    {generation : Nat}
    {generations : List Nat}
    {own others : List String}
    (hown : Covers codec start [generation] own)
    (hothers : Covers codec start generations others) :
    Covers codec start (generation :: generations) (own ++ others) := by
  intro found hfound bytes manifest hread hdecode path hpath
  rcases List.mem_cons.mp hfound with rfl | hrest
  · exact List.mem_append_left _
      (hown found (by simp) bytes manifest hread hdecode path hpath)
  · exact List.mem_append_right _
      (hothers found hrest bytes manifest hread hdecode path hpath)

theorem meets_pruneBody :
    Meets plan (fun state => state.files = start ∧ state.history = history)
      (pruneBody codec published)
      (fun _ => onCore (Pruned codec start history published))
      (fun _ => onCore (Pruned codec start history published))
      (onCore (Pruned codec start history published)) := by
  have hstart : ∀ state : PublicationState B,
      state.files = start ∧ state.history = history →
        onCore (Pruned codec start history published) state := by
    rintro state ⟨rfl, rfl⟩
    exact pruned_start
  refine meets_bind
    (fun current state =>
      (current = pointed codec start ∨ current = none) ∧
        onCore (Pruned codec start history published) state) ?_
    fun current => meets_assuming fun hpointed => ?_
  · refine meets_consequence
      (meets_pointerGeneration (fun files now h => ?_))
      hstart (fun _ _ h => ⟨h.1.imp_right And.left, h.2⟩)
      (fun _ _ h => h) (fun _ h => h)
    exact h.kept (.inl rfl)
  split
  · next hcurrent =>
      have hpublished :
          pointed codec start = some published.generationId := by
        rcases hpointed with hpointed | hnone
        · rw [← hpointed, hcurrent]
        · rw [hnone] at hcurrent
          cases hcurrent
      refine meets_bind _ (meets_retainManifest List.mem_cons_self)
        fun own => meets_assuming fun hown => ?_
      refine meets_bind
        (fun previous state =>
          Covers codec start published.predecessor.toList previous ∧
            onCore (Pruned codec start history published) state) ?_
        fun previous => meets_assuming fun hprevious => ?_
      · cases hpredecessor : published.predecessor with
        | none =>
            exact meets_pure (fun _ h => ⟨fun _ hnil => (by cases hnil), h⟩)
        | some predecessor =>
            exact meets_retainManifest (by
              simp [prunedGenerations, hpredecessor])
      have hcovers := hown.append hprevious
      refine meets_bind
        (fun _ => onCore (Pruned codec start history published)) ?_
        fun ids => ?_
      · exact meets_observe (fun _ h => h) (fun _ _ h => h) (fun _ _ h => h)
      refine meets_bind _ (meets_pruneManifests hpublished ids) fun _ => ?_
      refine meets_bind _ (meets_pruneFamily hpublished hcovers) fun _ => ?_
      exact meets_pruneFamily hpublished hcovers
  · exact meets_pure (fun _ h => h)

/-- Pruning never reports an error. -/
theorem meets_prune :
    Meets plan (fun state => state.files = start ∧ state.history = history)
      (prune codec published)
      (fun _ => onCore (Pruned codec start history published))
      (fun _ _ => False)
      (onCore (Pruned codec start history published)) := by
  have hstart : ∀ state : PublicationState B,
      state.files = start ∧ state.history = history →
        onCore (Pruned codec start history published) state := by
    rintro state ⟨rfl, rfl⟩
    exact pruned_start
  have hlock : ∀ (op : PublishOp) (error : GenerateError),
      Meets plan (fun state => state.files = start ∧ state.history = history)
        (perform op error id : Publish B Unit)
        (fun _ state => state.files = start ∧ state.history = history)
        (fun _ => onCore (Pruned codec start history published))
        (onCore (Pruned codec start history published)) := by
    intro op error
    exact meets_perform (fun _ h => h) (fun _ state h => hstart state h)
      (fun _ state h => hstart state h)
  refine meets_onError
    (fun _ => onCore (Pruned codec start history published)) ?_
    (fun _ => meets_pure (fun _ h => h))
  exact meets_bind _ (hlock _ _) fun _ =>
    meets_bind _ (hlock _ _) fun _ =>
      meets_bind _ (hlock _ _) fun _ =>
        meets_bind _ (hlock _ _) fun _ => meets_pruneBody

end Rules

end Publication

end Dsql
