import Dsql.Publish.Coherence

/-!
# Safety of publication

The runs of several writers on one build directory: publications and delayed
prunes in any order, each with its own faults.  A state between two operations
of a call is the state after a crash there.
-/

namespace Dsql

namespace Publication

open Program

variable {B : Type} [DecidableEq B]

inductive PublicationCall (B : Type) where
  | publish (snapshot : GenerationSnapshot B) (mode : MatchLockMode)
  | prune (published : PublishedGeneration B)

/-- One call of a run, with the state before it and its faults. -/
structure PublicationEvent (B : Type) where
  before : PublicationState B
  call : PublicationCall B
  plan : PublishOp → Fault

namespace PublicationEvent

variable (codec : PublicationCodec B) (event : PublicationEvent B)

/-- The result of a call: the outcome, with the published generation when a
publication returned one, and the state after it. -/
def result :
    Outcome GenerateError (Option (PublishedGeneration B)) ×
      PublicationState B :=
  match event.call with
  | .publish snapshot mode =>
      match publish codec snapshot mode event.plan event.before with
      | (.done published, state) => (.done (some published), state)
      | (.failed error, state) => (.failed error, state)
      | (.crashed, state) => (.crashed, state)
  | .prune published =>
      match prune codec published event.plan event.before with
      | (.done _, state) => (.done none, state)
      | (.failed error, state) => (.failed error, state)
      | (.crashed, state) => (.crashed, state)

def after : PublicationState B := (event.result codec).2

/-- The generation that a publication returned. -/
def handle : Option (PublishedGeneration B) :=
  match (event.result codec).1 with
  | .done published => published
  | _ => none

end PublicationEvent

/-- A fresh build directory beside a lock file with any content. -/
def initialState (lock : Option B) : PublicationState B :=
  { files :=
      match lock with
      | none => FileStore.empty
      | some bytes => FileStore.empty.write .matchLock bytes
    temps := []
    nextTemp := 0
    history := ⟨[], [], []⟩ }

/-- A call that a writer can make: pruning needs a generation that an earlier
publication returned. -/
def Allowed
    (codec : PublicationCodec B)
    (events : List (PublicationEvent B)) :
    PublicationCall B → Prop
  | .publish .. => True
  | .prune published =>
      ∃ event ∈ events, event.handle codec = some published

/-- The runs from a fresh build directory, the latest call first. -/
inductive Run (codec : PublicationCodec B) :
    List (PublicationEvent B) → PublicationState B → Prop
  | start (lock : Option B) : Run codec [] (initialState lock)
  | step
      {events : List (PublicationEvent B)}
      {state : PublicationState B}
      (run : Run codec events state)
      (call : PublicationCall B)
      (plan : PublishOp → Fault)
      (allowed : Allowed codec events call) :
      Run codec (⟨state, call, plan⟩ :: events)
        (PublicationEvent.after codec ⟨state, call, plan⟩)

section Events

variable (codec : PublicationCodec B)
variable (event : PublicationEvent B)

/-- The publication reads its pointer. -/
def ReadsPointer : Prop :=
  match event.call with
  | .publish .. => event.plan .readPointer ≠ .failure
  | .prune _ => True

/-- The publication does not fail after it has changed the lock or moved the
pointer. -/
def FailsClean : Prop :=
  match event.call with
  | .publish snapshot mode =>
      event.plan (.write .pointer .syncParent) ≠ .failure ∧
        (changesMatchLock codec mode snapshot.filterMatchLock
            (event.before.files.read .matchLock) = true →
          ¬ MatchLockSyncFails event.plan ∧
            ¬ FailsAfterLock codec event.plan snapshot event.before.files)
  | .prune _ => True

/-- The publication writes the manifest of the id that it takes. -/
def ReachesManifest : Prop :=
  match event.call with
  | .publish snapshot _ =>
      ¬ StopsBeforeManifest codec event.plan snapshot event.before.files
  | .prune _ => True

/-- While the prune applies, no manifest above its generation is on disk. -/
def PrunesLatest : Prop :=
  match event.call with
  | .publish .. => True
  | .prune published =>
      pointed codec event.before.files = some published.generationId →
        ∀ id, (event.before.files.read (.manifest id)).isSome = true →
          id ≤ published.generationId

/-- A publication that fails leaves the pointer and the lock as they were. -/
def KeepsOnError : Prop :=
  ∀ snapshot mode error,
    event.call = .publish snapshot mode →
      (event.result codec).1 = .failed error →
        (event.after codec).files.read .pointer =
            event.before.files.read .pointer ∧
          (event.after codec).files.read .matchLock =
            event.before.files.read .matchLock

/-- A prune leaves what the current generation and its predecessor consist
of. -/
def PruneKeeps : Prop :=
  ∀ published, event.call = .prune published →
    ∀ commit ∈ event.before.history.lineage.take 2,
      ∀ file, Commit.references commit file →
        (event.after codec).files.read file = event.before.files.read file

end Events

/-- Some publication of the run had this snapshot. -/
def PublishedIn
    (events : List (PublicationEvent B))
    (snapshot : GenerationSnapshot B) : Prop :=
  ∃ event ∈ events, ∃ mode, event.call = .publish snapshot mode

/-- A pointer that is present names a generation whose manifest and artifacts
are on disk with the published bytes. -/
def PointerInPlace
    (codec : PublicationCodec B)
    (events : List (PublicationEvent B))
    (state : PublicationState B) : Prop :=
  ∀ serialized, state.files.read .pointer = some serialized →
    ∃ commit, PublishedIn events commit.snapshot ∧
      InPlace codec state.files commit serialized

/-- The safety of a run and the state it reaches. -/
structure SafeRun
    (codec : PublicationCodec B)
    (events : List (PublicationEvent B))
    (state : PublicationState B) : Prop where
  pointer : PointerInPlace codec events state
  failures : ∀ event ∈ events, KeepsOnError codec event
  prunes : ∀ event ∈ events, PruneKeeps codec event
  ids : state.history.allocated.Nodup

section Steps

variable {codec : PublicationCodec B}
variable (event : PublicationEvent B)
variable {published : GenerationSnapshot B → Prop}
variable {snapshot : GenerationSnapshot B}
variable {mode : MatchLockMode}

/-- The triple of a publication, read off the result of its event. -/
theorem publish_outcome
    (hcoherent : Coherent codec published event.before.files
      event.before.history)
    (hcall : event.call = .publish snapshot mode) :
    match event.result codec with
    | (.done handle, after) =>
        ∃ generation, handle = some generation ∧
          PublishDone codec event.plan mode snapshot event.before.files
            event.before.history generation after.files after.history
    | (.failed _, after) =>
        PublishFailed codec event.plan mode snapshot event.before.files
          event.before.history after.files after.history
    | (.crashed, after) =>
        PublishCrashed codec event.plan mode snapshot event.before.files
          event.before.history after.files after.history := by
  have hpointer : ∀ id ∈ pointed codec event.before.files,
      (event.before.files.read (.manifest id)).isSome = true := by
    rw [hcoherent.pointed_eq]
    exact hcoherent.latest_manifest
  have hmeets : Meets event.plan
      (fun state => state.files = event.before.files ∧
        state.history = event.before.history)
      (publish codec snapshot mode) _ _ _ :=
    meets_publish hpointer
  have houtcome := hmeets event.before ⟨rfl, rfl⟩
  unfold PublicationEvent.result
  rw [hcall]
  simp only
  rcases hresult : publish codec snapshot mode event.plan event.before with
    ⟨outcome, after⟩
  rw [hresult] at houtcome
  cases outcome with
  | done generation => exact ⟨generation, rfl, houtcome⟩
  | failed error => exact houtcome
  | crashed => exact houtcome

/-- How far the publication of an event gets. -/
theorem publish_progress
    (hcoherent : Coherent codec published event.before.files
      event.before.history)
    (hcall : event.call = .publish snapshot mode) :
    Progress codec event.plan mode snapshot event.before.files
      event.before.history (event.after codec).files
      (event.after codec).history := by
  have houtcome := publish_outcome event hcoherent hcall
  unfold PublicationEvent.after
  rcases hresult : event.result codec with ⟨outcome, after⟩
  rw [hresult] at houtcome
  cases outcome with
  | done handle =>
      obtain ⟨generation, -, hdone⟩ := houtcome
      exact hdone.progress
  | failed error => exact PublishFailed.progress houtcome
  | crashed => exact PublishCrashed.progress houtcome

/-- A publication that returns a handle is done with its generation. -/
theorem publish_handle
    {handle : PublishedGeneration B}
    (hcoherent : Coherent codec published event.before.files
      event.before.history)
    (hcall : event.call = .publish snapshot mode)
    (hhandle : event.handle codec = some handle) :
    PublishDone codec event.plan mode snapshot event.before.files
      event.before.history handle (event.after codec).files
      (event.after codec).history := by
  have houtcome := publish_outcome event hcoherent hcall
  unfold PublicationEvent.handle at hhandle
  unfold PublicationEvent.after
  rcases hresult : event.result codec with ⟨outcome, after⟩
  rw [hresult] at houtcome hhandle
  cases outcome with
  | done returned =>
      obtain ⟨generation, hreturned, hdone⟩ := houtcome
      have heq : returned = some handle := hhandle
      rw [heq, Option.some.injEq] at hreturned
      exact hreturned ▸ hdone
  | failed error => cases hhandle
  | crashed => cases hhandle

/-- The prune of an event only removes what is not retained, and returns no
handle. -/
theorem prune_effect
    {handle : PublishedGeneration B}
    (hcall : event.call = .prune handle) :
    Pruned codec event.before.files event.before.history handle
        (event.after codec).files (event.after codec).history ∧
      event.handle codec = none := by
  have hmeets : Meets event.plan
      (fun state => state.files = event.before.files ∧
        state.history = event.before.history)
      (prune codec handle) _ _ _ :=
    meets_prune
  have houtcome := hmeets event.before ⟨rfl, rfl⟩
  unfold PublicationEvent.handle PublicationEvent.after
    PublicationEvent.result
  rw [hcall]
  simp only
  rcases hresult : prune codec handle event.plan event.before with
    ⟨outcome, after⟩
  rw [hresult] at houtcome
  cases outcome with
  | done _ => exact ⟨houtcome, rfl⟩
  | failed error => exact houtcome.elim
  | crashed => exact ⟨houtcome, rfl⟩

theorem keepsOnError
    (hcoherent : Coherent codec published event.before.files
      event.before.history)
    (hclean : FailsClean codec event) :
    KeepsOnError codec event := by
  intro snapshot mode error hcall herror
  have houtcome := publish_outcome event hcoherent hcall
  unfold FailsClean at hclean
  rw [hcall] at hclean
  unfold PublicationEvent.after
  rcases hresult : event.result codec with ⟨outcome, after⟩
  rw [hresult] at houtcome herror
  have hfailed : outcome = .failed error := herror
  subst hfailed
  exact PublishFailed.unchanged houtcome hclean.1 hclean.2

end Steps

section Runs

variable {codec : PublicationCodec B}
variable {events : List (PublicationEvent B)}
variable {state : PublicationState B}

/-- A run stays coherent. -/
theorem Run.coherent (h : Run codec events state) :
    Coherent codec (PublishedIn events) state.files state.history := by
  induction h with
  | start lock =>
      refine ⟨List.Pairwise.nil, ?_, fun _ hnil => by cases hnil⟩
      cases lock with
      | none => rfl
      | some bytes =>
          exact FileStore.read_write_of_ne _ _ (by simp)
  | @step events state run call plan allowed ih =>
      have hwider : Coherent codec
          (PublishedIn (⟨state, call, plan⟩ :: events)) state.files
          state.history := by
        refine ⟨ih.descending, ih.pointer, fun commit hcommit => ?_⟩
        obtain ⟨event, hevent, hsnapshot⟩ := ih.snapshots commit hcommit
        exact ⟨event, List.mem_cons_of_mem _ hevent, hsnapshot⟩
      cases call with
      | publish snapshot mode =>
          exact hwider.progress ⟨_, List.mem_cons_self, mode, rfl⟩
            (publish_progress ⟨state, _, plan⟩ hwider rfl)
      | prune handle =>
          exact hwider.pruned (prune_effect ⟨state, _, plan⟩ rfl).1

/-- The run before an event. -/
theorem Run.before
    {event : PublicationEvent B}
    (h : Run codec events state)
    (hevent : event ∈ events) :
    ∃ earlier, (∀ other ∈ earlier, other ∈ events) ∧
      Run codec earlier event.before ∧ Allowed codec earlier event.call := by
  induction h with
  | start lock => cases hevent
  | @step events state run call plan allowed ih =>
      rcases List.mem_cons.mp hevent with rfl | hearlier
      · exact ⟨events, fun other hother => List.mem_cons_of_mem _ hother, run,
          allowed⟩
      · obtain ⟨earlier, hsubset, hrun, hallowed⟩ := ih hearlier
        exact ⟨earlier,
          fun other hother => List.mem_cons_of_mem _ (hsubset other hother),
          hrun, hallowed⟩

/-- A handle and the place of its generation in the lineage. -/
def HandleInLineage
    (lineage : List (Commit B))
    (handle : PublishedGeneration B) : Prop :=
  ∃ newer commit older, lineage = newer ++ commit :: older ∧
    commit.generation = handle.generationId ∧
    handle.predecessor = older.head?.map Commit.generation

omit [DecidableEq B] in
theorem HandleInLineage.cons
    {lineage : List (Commit B)}
    {handle : PublishedGeneration B}
    (latest : Commit B)
    (h : HandleInLineage lineage handle) :
    HandleInLineage (latest :: lineage) handle := by
  obtain ⟨newer, commit, older, rfl, hrest⟩ := h
  exact ⟨latest :: newer, commit, older, rfl, hrest⟩

omit [DecidableEq B] in
/-- The handle of a generation that is still the latest names the commit
before it. -/
theorem HandleInLineage.latest
    {history : PublicationHistory B}
    {handle : PublishedGeneration B}
    (h : HandleInLineage history.lineage handle)
    (hdescending : history.lineage.Pairwise (fun newer older =>
      older.generation < newer.generation))
    (hlatest : latestGeneration history = some handle.generationId) :
    ∀ commit ∈ history.lineage.take 2,
      commit.generation ∈ prunedGenerations handle := by
  obtain ⟨newer, commit, older, hlineage, hgeneration, hpredecessor⟩ := h
  rw [hlineage] at hdescending ⊢
  unfold latestGeneration at hlatest
  rw [hlineage] at hlatest
  cases newer with
  | cons head rest =>
      have hhead : head.generation = handle.generationId := by
        simpa using hlatest
      have hlower := (List.pairwise_cons.mp hdescending).1 commit (by simp)
      omega
  | nil =>
      intro other hother
      unfold prunedGenerations
      cases older with
      | nil =>
          have heq : other = commit := by simpa using hother
          rw [heq, hgeneration]
          exact List.mem_cons_self
      | cons previous rest =>
          have heq : other = commit ∨ other = previous := by
            simpa using hother
          rcases heq with rfl | rfl
          · rw [hgeneration]
            exact List.mem_cons_self
          · rw [hpredecessor]
            simp

/-- The handles that a run has returned, when its publications read their
pointers. -/
theorem Run.handles
    (h : Run codec events state)
    (hreads : ∀ event ∈ events, ReadsPointer event) :
    ∀ event ∈ events, ∀ handle, event.handle codec = some handle →
      HandleInLineage state.history.lineage handle := by
  induction h with
  | start lock =>
      intro event hevent
      cases hevent
  | @step events state run call plan allowed ih =>
      have hcoherent := run.coherent
      have hearlier := ih (fun event hevent =>
        hreads event (List.mem_cons_of_mem _ hevent))
      have hread := hreads _ List.mem_cons_self
      intro event hevent handle hhandle
      cases call with
      | prune pruned =>
          obtain ⟨hpruned, hnone⟩ :
              Pruned codec state.files state.history pruned _ _ ∧ _ :=
            prune_effect ⟨state, .prune pruned, plan⟩ rfl
          rcases List.mem_cons.mp hevent with rfl | hold
          · rw [hnone] at hhandle
            cases hhandle
          · rw [hpruned.1]
            exact hearlier event hold handle hhandle
      | publish snapshot mode =>
          rcases List.mem_cons.mp hevent with rfl | hold
          · obtain ⟨hnext, hcommitted, hpredecessor⟩ :=
              publish_handle _ hcoherent rfl hhandle
            refine ⟨[], _, _, hcommitted.lineage_eq, rfl, ?_⟩
            rw [hpredecessor hread, hcoherent.pointed_eq]
            rfl
          · have hprogress :=
              publish_progress ⟨state, .publish snapshot mode, plan⟩
                hcoherent rfl
            have hplace := hearlier event hold handle hhandle
            rcases hprogress.lineage with hsame | ⟨generation, hcons⟩
            · rw [hsame]
              exact hplace
            · rw [hcons]
              exact hplace.cons _

/-- The latest commit and the one before it are in place. -/
theorem Run.latestInPlace
    (h : Run codec events state)
    (hreads : ∀ event ∈ events, ReadsPointer event) :
    ∀ commit ∈ state.history.lineage.take 2,
      ∃ serialized, InPlace codec state.files commit serialized := by
  induction h with
  | start lock =>
      intro commit hcommit
      cases hcommit
  | @step events state run call plan allowed ih =>
      have hcoherent := run.coherent
      have hafter := (run.step call plan allowed).coherent
      have hearlier : ∀ event ∈ events, ReadsPointer event := fun event hevent =>
        hreads event (List.mem_cons_of_mem _ hevent)
      have hplaces := ih hearlier
      intro commit hcommit
      cases call with
      | publish snapshot mode =>
          have hprogress :=
            publish_progress ⟨state, .publish snapshot mode, plan⟩
              hcoherent rfl
          rcases hprogress.lineage with hsame | ⟨generation, hcons⟩
          · rw [hsame] at hcommit
            obtain ⟨serialized, hplace⟩ := hplaces commit hcommit
            exact ⟨serialized, hplace.progress hprogress⟩
          · rw [hcons, List.take_succ_cons] at hcommit
            rcases List.mem_cons.mp hcommit with rfl | hprevious
            · have hpointer := hafter.pointer
              rw [hcons] at hpointer
              obtain ⟨serialized, -, hplace⟩ := hpointer
              exact ⟨serialized, hplace⟩
            · obtain ⟨serialized, hplace⟩ := hplaces commit
                (List.take_subset_take_left _ (by decide) hprevious)
              exact ⟨serialized, hplace.progress hprogress⟩
      | prune handle =>
          obtain ⟨hpruned, -⟩ :
              Pruned codec state.files state.history handle _ _ ∧ _ :=
            prune_effect ⟨state, .prune handle, plan⟩ rfl
          rw [hpruned.1] at hcommit
          obtain ⟨event, hevent, hhandle⟩ := allowed
          have hlineage := run.handles hearlier event hevent handle hhandle
          obtain ⟨serialized, hplace⟩ := hplaces commit hcommit
          refine ⟨serialized, hplace.congr fun file hfile =>
            hplace.pruned hpruned (fun hcurrent => ?_) hfile⟩
          rw [hcoherent.pointed_eq] at hcurrent
          exact hlineage.latest hcoherent.descending hcurrent commit hcommit

/-- A prune spares the current generation and its predecessor when every
publication has read its pointer. -/
theorem Run.pruneKeeps
    {event : PublicationEvent B}
    (h : Run codec events state)
    (hreads : ∀ event ∈ events, ReadsPointer event)
    (hevent : event ∈ events) :
    PruneKeeps codec event := by
  intro handle hcall commit hcommit file hfile
  obtain ⟨earlier, hsubset, hrun, hallowed⟩ := h.before hevent
  have hearlier : ∀ other ∈ earlier, ReadsPointer other := fun other hother =>
    hreads other (hsubset other hother)
  have hcoherent := hrun.coherent
  rw [hcall] at hallowed
  obtain ⟨source, hsource, hhandle⟩ := hallowed
  have hlineage := hrun.handles hearlier source hsource handle hhandle
  obtain ⟨serialized, hplace⟩ := hrun.latestInPlace hearlier commit hcommit
  refine hplace.pruned (prune_effect event hcall).1 (fun hcurrent => ?_) hfile
  rw [hcoherent.pointed_eq] at hcurrent
  exact hlineage.latest hcoherent.descending hcurrent commit hcommit

end Runs

section Ids

variable {codec : PublicationCodec B}
variable {plan : PublishOp → Fault}
variable {mode : MatchLockMode}
variable {snapshot : GenerationSnapshot B}
variable {start files : FileStore BuildFile B}
variable {history now : PublicationHistory B}

/-- Every id of a list is at most one whose manifest is on disk. -/
def Remembered
    (files : FileStore BuildFile B)
    (ids : List Nat) : Prop :=
  ∀ id ∈ ids, ∃ later, id ≤ later ∧
    (files.read (.manifest later)).isSome = true

omit [DecidableEq B] in
/-- The next id is not among remembered ones, and is remembered itself once
its manifest is on disk. -/
theorem Remembered.cons
    {ids : List Nat}
    {generation : Nat}
    (h : Remembered start ids)
    (hnodup : ids.Nodup)
    (hnext : IsNext start generation)
    (hkept : ∀ id, (start.read (.manifest id)).isSome = true →
      (files.read (.manifest id)).isSome = true)
    (hmanifest : (files.read (.manifest generation)).isSome = true) :
    Remembered files (generation :: ids) ∧ (generation :: ids).Nodup := by
  constructor
  · intro id hid
    rcases List.mem_cons.mp hid with rfl | hold
    · exact ⟨id, Nat.le_refl id, hmanifest⟩
    · obtain ⟨later, hle, hlater⟩ := h id hold
      exact ⟨later, hle, hkept later hlater⟩
  · refine List.nodup_cons.mpr ⟨fun hmem => ?_, hnodup⟩
    obtain ⟨later, hle, hlater⟩ := h generation hmem
    have hlt := hnext.1 later hlater
    omega

omit [DecidableEq B] in
theorem Remembered.kept
    {ids : List Nat}
    (h : Remembered start ids)
    (hkept : ∀ id, (start.read (.manifest id)).isSome = true →
      ∃ later, id ≤ later ∧
        (files.read (.manifest later)).isSome = true) :
    Remembered files ids := by
  intro id hid
  obtain ⟨later, hle, hlater⟩ := h id hid
  obtain ⟨last, hlast, hread⟩ := hkept later hlater
  exact ⟨last, Nat.le_trans hle hlast, hread⟩

/-- A publication removes no manifest. -/
theorem Progress.manifest_kept
    (h : Progress codec plan mode snapshot start history files now)
    (id : Nat)
    (hid : (start.read (.manifest id)).isSome = true) :
    (files.read (.manifest id)).isSome = true := by
  obtain ⟨bytes, hbytes⟩ := Option.isSome_iff_exists.mp hid
  have hread : files.read (.manifest id) = some bytes := by
    cases h with
    | idle h => exact h.1.kept (by simp) hbytes
    | allocated _ h _ _ => exact h.kept (by simp) hbytes
    | minted _ h => exact h.stage.grown.kept (by simp) hbytes
    | committed _ h =>
        obtain ⟨before, beforeHistory, hminted, rfl, -⟩ := h
        rw [FileStore.read_write_of_ne _ _ (by simp)]
        exact hminted.stage.grown.kept (by simp) hbytes
  rw [hread]
  rfl

/-- The ids of a publication: none, one without a manifest, or one whose
manifest is on disk. -/
theorem Progress.ids
    (h : Progress codec plan mode snapshot start history files now) :
    (now.minted = history.minted ∧
      (now.allocated = history.allocated ∨
        StopsBeforeManifest codec plan snapshot start)) ∨
    ∃ generation, IsNext start generation ∧
      (files.read (.manifest generation)).isSome = true ∧
      now.minted = generation :: history.minted ∧
      now.allocated = generation :: history.allocated := by
  cases h with
  | idle h => exact .inl ⟨by rw [h.2], .inl (by rw [h.2])⟩
  | allocated _ _ h hstops => exact .inl ⟨by rw [h]; rfl, .inr hstops⟩
  | @minted generation _ _ _ hnext h =>
      refine .inr ⟨generation, hnext, by rw [h.manifest]; rfl, ?_, ?_⟩
      · rw [h.stage.history_eq]
        rfl
      · rw [h.stage.history_eq]
        rfl
  | @committed generation _ _ _ hnext h =>
      obtain ⟨before, beforeHistory, hminted, rfl, rfl⟩ := h
      refine .inr ⟨generation, hnext, ?_, ?_, ?_⟩
      · rw [FileStore.read_write_of_ne _ _ (by simp), hminted.manifest]
        rfl
      · rw [hminted.stage.history_eq]
        rfl
      · rw [hminted.stage.history_eq]
        rfl

/-- The ids with a manifest are distinct when no prune removes one above its
own generation, and so are all ids when every publication that takes one
writes its manifest. -/
theorem Run.ids
    {events : List (PublicationEvent B)}
    {state : PublicationState B}
    (h : Run codec events state)
    (hlatest : ∀ event ∈ events, PrunesLatest codec event) :
    (Remembered state.files state.history.minted ∧
      state.history.minted.Nodup) ∧
    ((∀ event ∈ events, ReachesManifest codec event) →
      Remembered state.files state.history.allocated ∧
        state.history.allocated.Nodup) := by
  induction h with
  | start lock =>
      have hnil : Remembered (initialState lock).files [] :=
        fun _ hid => by cases hid
      exact ⟨⟨hnil, List.nodup_nil⟩, fun _ => ⟨hnil, List.nodup_nil⟩⟩
  | @step events state run call plan allowed ih =>
      obtain ⟨⟨hminted, hmintedNodup⟩, hallocated⟩ :=
        ih (fun event hevent => hlatest event (List.mem_cons_of_mem _ hevent))
      have hcoherent := run.coherent
      have hreached :
          (∀ event ∈ (⟨state, call, plan⟩ : PublicationEvent B) :: events,
            ReachesManifest codec event) →
          ReachesManifest codec ⟨state, call, plan⟩ ∧
            Remembered state.files state.history.allocated ∧
            state.history.allocated.Nodup := fun hreaches =>
        ⟨hreaches _ List.mem_cons_self, hallocated (fun event hevent =>
          hreaches event (List.mem_cons_of_mem _ hevent))⟩
      cases call with
      | publish snapshot mode =>
          have hprogress :=
            publish_progress ⟨state, .publish snapshot mode, plan⟩
              hcoherent rfl
          have hkept := hprogress.manifest_kept
          have hweaker : ∀ id, (state.files.read (.manifest id)).isSome = true →
              ∃ later, id ≤ later ∧ ((PublicationEvent.after codec
                ⟨state, .publish snapshot mode, plan⟩).files.read
                  (.manifest later)).isSome = true := fun id hid =>
            ⟨id, Nat.le_refl id, hkept id hid⟩
          rcases hprogress.ids with
            ⟨hmintedEq, hreason⟩ | ⟨generation, hnext, hmanifest, hcons, hall⟩
          · rw [hmintedEq]
            refine ⟨⟨hminted.kept hweaker, hmintedNodup⟩, fun hreaches => ?_⟩
            obtain ⟨hnever, hremembered, hnodup⟩ := hreached hreaches
            rcases hreason with hsame | hstops
            · rw [hsame]
              exact ⟨hremembered.kept hweaker, hnodup⟩
            · exact absurd hstops hnever
          · rw [hcons, hall]
            refine ⟨hminted.cons hmintedNodup hnext hkept hmanifest,
              fun hreaches => ?_⟩
            obtain ⟨-, hremembered, hnodup⟩ := hreached hreaches
            exact hremembered.cons hnodup hnext hkept hmanifest
      | prune handle =>
          obtain ⟨hpruned, -⟩ :
              Pruned codec state.files state.history handle _ _ ∧ _ :=
            prune_effect ⟨state, .prune handle, plan⟩ rfl
          have hpointed : ∀ id ∈ pointed codec state.files,
              (state.files.read (.manifest id)).isSome = true := by
            rw [hcoherent.pointed_eq]
            exact hcoherent.latest_manifest
          have hkept : ∀ id, (state.files.read (.manifest id)).isSome = true →
              ∃ later, id ≤ later ∧ ((PublicationEvent.after codec
                ⟨state, .prune handle, plan⟩).files.read
                  (.manifest later)).isSome = true := fun id hid =>
            hpruned.manifest_kept (hlatest _ List.mem_cons_self) hpointed hid
          rw [hpruned.1]
          refine ⟨⟨hminted.kept hkept, hmintedNodup⟩, fun hreaches => ?_⟩
          obtain ⟨-, hremembered, hnodup⟩ := hreached hreaches
          exact ⟨hremembered.kept hkept, hnodup⟩

end Ids

/-- The pointer of every reachable state is sound.  Failures are clean, prunes
spare the predecessor and ids are fresh under their own conditions. -/
theorem publication_safe
    {codec : PublicationCodec B}
    {events : List (PublicationEvent B)}
    {state : PublicationState B}
    (h : Run codec events state) :
    PointerInPlace codec events state ∧
      (∀ event ∈ events, FailsClean codec event → KeepsOnError codec event) ∧
      ((∀ event ∈ events, ReadsPointer event) →
        ∀ event ∈ events, PruneKeeps codec event) ∧
      ((∀ event ∈ events, PrunesLatest codec event) →
        state.history.minted.Nodup ∧
          ((∀ event ∈ events, ReachesManifest codec event) →
            state.history.allocated.Nodup)) := by
  refine ⟨?_, ?_, fun hreads event hevent => h.pruneKeeps hreads hevent, ?_⟩
  · intro serialized hread
    have hcoherent := h.coherent
    have hpointer := hcoherent.pointer
    cases hlineage : state.history.lineage with
    | nil =>
        rw [hlineage] at hpointer
        have hnone : state.files.read .pointer = none := hpointer
        rw [hnone] at hread
        cases hread
    | cons commit older =>
        rw [hlineage] at hpointer
        obtain ⟨bytes, hbytes, hplace⟩ := hpointer
        rw [hbytes, Option.some.injEq] at hread
        exact ⟨commit, hcoherent.snapshots commit (by simp [hlineage]),
          hread ▸ hplace⟩
  · intro event hevent hclean
    obtain ⟨earlier, -, hrun, -⟩ := h.before hevent
    exact keepsOnError event hrun.coherent hclean
  · intro hlatest
    obtain ⟨⟨-, hminted⟩, hallocated⟩ := h.ids hlatest
    exact ⟨hminted, fun hreaches => (hallocated hreaches).2⟩

/-! ## A run that keeps every guarantee -/

/-- Bytes as the values that they serialize. -/
inductive PlainBytes where
  | manifest (manifest : BuildManifest)
  | lock (lock : FilterMatchLock)
  | artifact (text : String)
deriving DecidableEq

/-- A codec that keeps the values themselves. -/
def plainCodec : PublicationCodec PlainBytes where
  encodeManifest manifest := .ok (.manifest manifest)
  decodeManifest
    | .manifest manifest => .ok manifest
    | _ => .error "not a manifest"
  lockVersion
    | .lock lock => some lock.version
    | _ => none
  lockToYaml lock := .ok (.lock lock)
  lockUtf8 _ := .error "not text"
  lockFromYaml _ := .error "not a lock"
  sha256Hex _ := ""
  decode_encode _ _ h := by
    cases h
    rfl

def emptySnapshot : GenerationSnapshot PlainBytes :=
  ⟨[], FilterMatchLock.empty⟩

/-- The snapshot of a project with one filter. -/
def filteredSnapshot : GenerationSnapshot PlainBytes :=
  ⟨[], ⟨filterMatchLockVersion, [⟨"app", "app", "tenant", [], []⟩]⟩⟩

def faultAt (op : PublishOp) : PublishOp → Fault :=
  fun other => if other = op then .failure else .none

/-- A project with one filter and one operation of a given text. -/
def operationSnapshot (text hash : String) : GenerationSnapshot PlainBytes :=
  ⟨[{ id := "app/Posts"
      family := .operation
      kind := .query
      scope := "app"
      name := "Posts"
      serialized := .artifact text
      hash := hash
      source := "posts.dsql" }],
    filteredSnapshot.filterMatchLock⟩

def firstOperation : PublicationEvent PlainBytes :=
  ⟨initialState none, .publish (operationSnapshot "one" "a1") .update,
    fun _ => .none⟩

/-- The pointer of generation 2 cannot be renamed, so its manifest and its
artifact strand. -/
def strandedOperation : PublicationEvent PlainBytes :=
  ⟨firstOperation.after plainCodec,
    .publish (operationSnapshot "two" "b2") .update,
    faultAt (.write .pointer .rename)⟩

def thirdOperation : PublicationEvent PlainBytes :=
  ⟨strandedOperation.after plainCodec,
    .publish (operationSnapshot "three" "c3") .update, fun _ => .none⟩

/-- The handle of generation 3, whose predecessor is generation 1. -/
def thirdGeneration : PublishedGeneration PlainBytes :=
  { generationId := 3
    manifestJson := .manifest
      (manifestFor (operationSnapshot "three" "c3") 3)
    written := [.artifact .operation "Posts.c3.json", .manifest 3]
    filterMatchLockHash := some ""
    predecessor := some 1 }

/-- The prune of generation 3 sweeps what generation 2 left behind. -/
def sweepingPrune : PublicationEvent PlainBytes :=
  ⟨thirdOperation.after plainCodec, .prune thirdGeneration, fun _ => .none⟩

/-- The four calls, the latest first. -/
def sweepingRun : List (PublicationEvent PlainBytes) :=
  [sweepingPrune, thirdOperation, strandedOperation, firstOperation]

theorem run_sweepingRun :
    Run plainCodec sweepingRun (sweepingPrune.after plainCodec) := by
  have hfirst :
      Run plainCodec [firstOperation] (firstOperation.after plainCodec) :=
    .step (.start none) _ _ trivial
  have hstranded :
      Run plainCodec [strandedOperation, firstOperation]
        (strandedOperation.after plainCodec) :=
    .step hfirst (.publish (operationSnapshot "two" "b2") .update) _ trivial
  have hthird :
      Run plainCodec [thirdOperation, strandedOperation, firstOperation]
        (thirdOperation.after plainCodec) :=
    .step hstranded (.publish (operationSnapshot "three" "c3") .update) _
      trivial
  exact .step hthird (.prune thirdGeneration) _
    ⟨thirdOperation, List.mem_cons_self, by decide⟩

/-- A publication of one operation without faults before its manifest reaches
the manifest, wherever its address is free. -/
theorem reachesManifest_operation
    {event : PublicationEvent PlainBytes}
    {text hash : String}
    {mode : MatchLockMode}
    (hcall : event.call = .publish (operationSnapshot text hash) mode)
    (hfree : ∀ artifact ∈ (operationSnapshot text hash).artifacts,
      event.before.files.read artifact.file = none)
    (hplan : ∀ op, event.plan op ≠ .none → op = .write .pointer .rename) :
    ReachesManifest plainCodec event := by
  unfold ReachesManifest
  rw [hcall]
  have hclear : ∀ op, op ≠ .write .pointer .rename →
      event.plan op = .none := fun op hop => by
    by_contra hfault
    exact hop (hplan op hfault)
  rintro (⟨index, artifact, -, hfault | ⟨-, step, hfault⟩⟩ | htaken |
    ⟨generation, message, -, hencode⟩ | hfault | ⟨step, -, hfault⟩)
  · exact hfault (hclear _ (by simp))
  · exact hfault (hclear _ (by simp))
  · obtain ⟨artifact, hmem, ⟨bytes, hread, -⟩ | ⟨other, hother, -, hne⟩⟩ :=
      htaken
    · rw [hfree artifact hmem] at hread
      cases hread
    · rw [List.mem_singleton.mp hmem, List.mem_singleton.mp hother] at hne
      exact hne rfl
  · cases hencode
  · rw [hclear _ (by simp)] at hfault
    cases hfault
  · exact hfault (hclear _ (by simp))

/-- After the failed publication and the prune the pointer names generation 3,
the predecessor is untouched and no id has been handed out twice, although
generation 2 is gone from the disk. -/
theorem publication_safe_sweepingRun :
    PointerInPlace plainCodec sweepingRun
        (sweepingPrune.after plainCodec) ∧
      KeepsOnError plainCodec strandedOperation ∧
      PruneKeeps plainCodec sweepingPrune ∧
      (sweepingPrune.after plainCodec).history.allocated.Nodup ∧
      pointed plainCodec (sweepingPrune.after plainCodec).files = some 3 ∧
      (strandedOperation.result plainCodec).1 =
        .failed (.write (.file .pointer)) ∧
      (sweepingPrune.after plainCodec).files.read
        (.artifact .operation "Posts.a1.json") = some (.artifact "one") ∧
      (sweepingPrune.after plainCodec).files.read
        (.artifact .operation "Posts.b2.json") = none ∧
      (sweepingPrune.after plainCodec).history.allocated = [3, 2, 1] := by
  obtain ⟨hpointer, hfailures, hprunes, hids⟩ :=
    publication_safe run_sweepingRun
  have hquiet : ∀ op, (fun _ => Fault.none : PublishOp → Fault) op ≠ .none →
      op = .write .pointer .rename := fun _ hfault => absurd rfl hfault
  have hreads : ∀ event ∈ sweepingRun, ReadsPointer event := by
    intro event hevent
    simp only [sweepingRun, List.mem_cons, List.not_mem_nil, or_false]
      at hevent
    rcases hevent with rfl | rfl | rfl | rfl
    · trivial
    all_goals exact fun hfault => by cases hfault
  have hlatest : ∀ event ∈ sweepingRun, PrunesLatest plainCodec event := by
    intro event hevent
    simp only [sweepingRun, List.mem_cons, List.not_mem_nil, or_false]
      at hevent
    rcases hevent with rfl | rfl | rfl | rfl
    · intro _ id hid
      have hbound : ∀ id ∈ generationIds sweepingPrune.before.files,
          id ≤ 3 := by decide
      exact hbound id ((mem_generationIds _ _).mpr hid)
    all_goals trivial
  have hreaches : ∀ event ∈ sweepingRun,
      ReachesManifest plainCodec event := by
    intro event hevent
    simp only [sweepingRun, List.mem_cons, List.not_mem_nil, or_false]
      at hevent
    rcases hevent with rfl | rfl | rfl | rfl
    · trivial
    · exact reachesManifest_operation rfl (by decide) hquiet
    · refine reachesManifest_operation rfl (by decide) (fun op hfault => ?_)
      by_contra hop
      exact hfault (if_neg hop)
    · exact reachesManifest_operation rfl (by decide) hquiet
  refine ⟨hpointer, hfailures _ (by simp [sweepingRun]) ?_,
    hprunes hreads _ (by simp [sweepingRun]), (hids hlatest).2 hreaches,
    by decide +kernel, by decide, by decide +kernel, by decide +kernel,
    by decide +kernel⟩
  exact ⟨by decide, fun hchanges => absurd hchanges (by decide)⟩

/-! ## A run that loses every guarantee but the first -/

/-- The handle of an empty generation without a predecessor. -/
def emptyGeneration (generation : Nat) : PublishedGeneration PlainBytes :=
  { generationId := generation
    manifestJson := .manifest (manifestFor emptySnapshot generation)
    written := [.manifest generation]
    filterMatchLockHash := none
    predecessor := none }

def firstPublish : PublicationEvent PlainBytes :=
  ⟨initialState none, .publish emptySnapshot .update, fun _ => .none⟩

/-- The pointer of generation 2 cannot be renamed, so its manifest strands. -/
def strandedPublish : PublicationEvent PlainBytes :=
  ⟨firstPublish.after plainCodec, .publish filteredSnapshot .update,
    faultAt (.write .pointer .rename)⟩

/-- The delayed prune of generation 1 removes the stranded manifest. -/
def delayedPrune : PublicationEvent PlainBytes :=
  ⟨strandedPublish.after plainCodec, .prune (emptyGeneration 1),
    fun _ => .none⟩

/-- Generation 2 again, with a pointer that cannot be read. -/
def secondPublish : PublicationEvent PlainBytes :=
  ⟨delayedPrune.after plainCodec, .publish emptySnapshot .update,
    faultAt .readPointer⟩

/-- The prune of generation 2 knows of no predecessor. -/
def blindPrune : PublicationEvent PlainBytes :=
  ⟨secondPublish.after plainCodec, .prune (emptyGeneration 2),
    fun _ => .none⟩

/-- The five calls, the latest first. -/
def reusingRun : List (PublicationEvent PlainBytes) :=
  [blindPrune, secondPublish, delayedPrune, strandedPublish, firstPublish]

theorem run_firstPublish :
    Run plainCodec [firstPublish] (firstPublish.after plainCodec) :=
  .step (.start none) _ _ trivial

/-- An id is minted twice, a failed publication leaves a changed lock, and a
prune removes the manifest of the predecessor. -/
theorem publication_unsafe_reusingRun :
    Run plainCodec reusingRun (blindPrune.after plainCodec) ∧
      ¬ KeepsOnError plainCodec strandedPublish ∧
      ¬ PruneKeeps plainCodec blindPrune ∧
      ¬ (blindPrune.after plainCodec).history.minted.Nodup ∧
      ¬ SafeRun plainCodec reusingRun (blindPrune.after plainCodec) := by
  refine ⟨?_, ?_, ?_, by decide, ?_⟩
  · have hstranded :
        Run plainCodec [strandedPublish, firstPublish]
          (strandedPublish.after plainCodec) :=
      .step run_firstPublish (.publish filteredSnapshot .update) _ trivial
    have hdelayed :
        Run plainCodec [delayedPrune, strandedPublish, firstPublish]
          (delayedPrune.after plainCodec) :=
      .step hstranded (.prune (emptyGeneration 1)) _
        ⟨firstPublish, by simp, by decide⟩
    have hsecond :
        Run plainCodec
          [secondPublish, delayedPrune, strandedPublish, firstPublish]
          (secondPublish.after plainCodec) :=
      .step hdelayed (.publish emptySnapshot .update) _ trivial
    exact .step hsecond (.prune (emptyGeneration 2)) _
      ⟨secondPublish, List.mem_cons_self, by decide⟩
  · intro hkeeps
    have hlock := (hkeeps filteredSnapshot .update _ rfl rfl).2
    revert hlock
    decide
  · intro hkeeps
    have hmanifest := hkeeps _ rfl ⟨1, emptySnapshot⟩ (by decide)
      (.manifest 1) (.inl rfl)
    revert hmanifest
    decide
  · intro hsafe
    have hids := hsafe.ids
    revert hids
    decide

end Publication

end Dsql
