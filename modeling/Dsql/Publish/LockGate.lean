import Dsql.Logic.Fallible
import Dsql.Publish.AtomicWrite
import Dsql.Publish.CanonicalLock

/-!
# The locked mode

Locked mode accepts the file whose canonical form is the lock of the project
and never writes; what an update leaves behind is accepted.
-/

namespace Dsql

/-- How texts are stored: a file is a text when some text is stored so. -/
structure TextEncoding (B : Type) where
  encode : String → B
  decode : B → Except String String
  decode_eq : ∀ bytes text, decode bytes = .ok text ↔ bytes = encode text

namespace Publication

open Program

variable {B : Type}

/-- The match-lock functions over a YAML library. -/
def lockCodec
    (yaml : YamlLibrary)
    (encoding : TextEncoding B)
    (codec : PublicationCodec B) : PublicationCodec B :=
  { codec with
    lockVersion := fun bytes =>
      (encoding.decode bytes >>= yaml.parseVersion).toOption
    lockToYaml := fun lock => encoding.encode <$> lock.toYaml yaml
    lockUtf8 := encoding.decode
    lockFromYaml := FilterMatchLock.fromYaml yaml }

/-- The files that locked mode takes for a lock: none for a project without
filters, otherwise a document with the same contents. -/
def LockAccepted
    (yaml : YamlLibrary)
    (encoding : TextEncoding B)
    (desired : FilterMatchLock)
    (existing : Option B) : Prop :=
  (desired.filters = [] ∧ existing = none) ∨
    (desired.filters ≠ [] ∧
      ∃ bytes text current,
        existing = some bytes ∧ encoding.decode bytes = .ok text ∧
          yaml.parse text = .ok current ∧ current.SameContents desired)

section Required

variable {codec : PublicationCodec B}
variable {desired : FilterMatchLock}
variable {plan : PublishOp → Fault}
variable {state : PublicationState B}

/-- Requiring a lock touches nothing. -/
theorem meets_requireMatchLock_same
    (start : PublicationState B)
    (existing : Option B) :
    Meets plan (fun state => state = start)
      (requireMatchLock codec desired existing)
      (fun _ state => state = start) (fun _ state => state = start)
      (fun state => state = start) := by
  unfold requireMatchLock
  split
  · split
    · exact meets_pure (fun _ h => h)
    · exact meets_throw (fun _ h => h)
  · split
    · exact meets_throw (fun _ h => h)
    · split
      · exact meets_throw (fun _ h => h)
      · split
        · exact meets_throw (fun _ h => h)
        · split
          · exact meets_pure (fun _ h => h)
          · exact meets_throw (fun _ h => h)

/-- Whether a file is a lock that reads as what is desired. -/
def ReadsAs
    (codec : PublicationCodec B)
    (desired : FilterMatchLock)
    (existing : Option B) : Prop :=
  ∃ bytes text, existing = some bytes ∧ codec.lockUtf8 bytes = .ok text ∧
    codec.lockFromYaml text = .ok desired

/-- A lock that is required to be absent. -/
theorem requireMatchLock_empty
    (hempty : desired.filters = [])
    (existing : Option B) :
    (∃ status,
      (requireMatchLock codec desired existing plan state).1 =
        .done status) ↔ existing = none := by
  have hisEmpty : desired.isEmpty = true := List.isEmpty_iff.mpr hempty
  cases existing with
  | none =>
      have hrun : requireMatchLock codec desired none =
          pure ⟨false, none⟩ := by
        unfold requireMatchLock
        rw [if_pos hisEmpty]
      rw [hrun]
      exact iff_of_true ⟨_, rfl⟩ rfl
  | some bytes =>
      have hrun : ∃ error, requireMatchLock codec desired (some bytes) =
          throw error := by
        unfold requireMatchLock
        rw [if_pos hisEmpty]
        exact ⟨_, rfl⟩
      obtain ⟨error, hrun⟩ := hrun
      rw [hrun]
      refine iff_of_false ?_ nofun
      rintro ⟨status, hstatus⟩
      cases hstatus

/-- A lock that must say what is desired. -/
theorem requireMatchLock_present
    (hnonempty : desired.filters ≠ [])
    (existing : Option B) :
    (∃ status,
      (requireMatchLock codec desired existing plan state).1 =
        .done status) ↔ ReadsAs codec desired existing := by
  have hisEmpty : ¬desired.isEmpty = true :=
    fun h => hnonempty (List.isEmpty_iff.mp h)
  have hthrow : ∀ error : GenerateError,
      ¬∃ status,
        (throw error plan state : Outcome GenerateError MatchLockStatus ×
          PublicationState B).1 = .done status := by
    rintro error ⟨status, hstatus⟩
    cases hstatus
  cases existing with
  | none =>
      have hrun : ∃ error, requireMatchLock codec desired none =
          throw error := by
        unfold requireMatchLock
        rw [if_neg hisEmpty]
        exact ⟨_, rfl⟩
      obtain ⟨error, hrun⟩ := hrun
      rw [hrun]
      refine iff_of_false (hthrow error) ?_
      rintro ⟨bytes, text, hnone, -⟩
      cases hnone
  | some bytes =>
      cases hutf8 : codec.lockUtf8 bytes with
      | error message =>
          have hrun : ∃ error, requireMatchLock codec desired (some bytes) =
              throw error := by
            unfold requireMatchLock
            rw [if_neg hisEmpty]
            simp only [hutf8]
            exact ⟨_, rfl⟩
          obtain ⟨error, hrun⟩ := hrun
          rw [hrun]
          refine iff_of_false (hthrow error) ?_
          rintro ⟨found, text, hfound, hdecoded, -⟩
          cases hfound
          rw [hutf8] at hdecoded
          cases hdecoded
      | ok text =>
          have hreads : ReadsAs codec desired (some bytes) ↔
              codec.lockFromYaml text = .ok desired := by
            constructor
            · rintro ⟨found, decoded, hfound, hdecoded, hparse⟩
              cases hfound
              rw [hutf8] at hdecoded
              cases hdecoded
              exact hparse
            · exact fun hparse => ⟨bytes, text, rfl, hutf8, hparse⟩
          rw [hreads]
          cases hparse : codec.lockFromYaml text with
          | error message =>
              have hrun : ∃ error,
                  requireMatchLock codec desired (some bytes) =
                    throw error := by
                unfold requireMatchLock
                rw [if_neg hisEmpty]
                simp only [hutf8, hparse]
                exact ⟨_, rfl⟩
              obtain ⟨error, hrun⟩ := hrun
              rw [hrun]
              exact iff_of_false (hthrow error) nofun
          | ok current =>
              by_cases hsame : current = desired
              · have hrun : requireMatchLock codec desired (some bytes) =
                    pure ⟨false, some (codec.sha256Hex bytes)⟩ := by
                  unfold requireMatchLock
                  rw [if_neg hisEmpty]
                  simp only [hutf8, hparse, if_pos hsame]
                rw [hrun, hsame]
                exact iff_of_true ⟨_, rfl⟩ rfl
              · have hrun : ∃ error,
                    requireMatchLock codec desired (some bytes) =
                      throw error := by
                  unfold requireMatchLock
                  rw [if_neg hisEmpty]
                  simp only [hutf8, hparse, if_neg hsame]
                  exact ⟨_, rfl⟩
                obtain ⟨error, hrun⟩ := hrun
                rw [hrun]
                refine iff_of_false (hthrow error) ?_
                intro h
                exact hsame (Except.ok.inj h)

/-- A required lock is there and reads as what is desired. -/
theorem requireMatchLock_done
    (existing : Option B) :
    (∃ status,
      (requireMatchLock codec desired existing plan state).1 =
        .done status) ↔
      (desired.filters = [] ∧ existing = none) ∨
        (desired.filters ≠ [] ∧ ReadsAs codec desired existing) := by
  by_cases hempty : desired.filters = []
  · rw [requireMatchLock_empty hempty]
    constructor
    · exact fun h => .inl ⟨hempty, h⟩
    · rintro (⟨-, h⟩ | ⟨hnonempty, -⟩)
      · exact h
      · exact absurd hempty hnonempty
  · rw [requireMatchLock_present hempty]
    constructor
    · exact fun h => .inr ⟨hempty, h⟩
    · rintro (⟨hnil, -⟩ | ⟨-, h⟩)
      · exact absurd hnil hempty
      · exact h

end Required

variable [DecidableEq B]

section Runs

variable {codec : PublicationCodec B}
variable {desired : FilterMatchLock}
variable {plan : PublishOp → Fault}
variable {state : PublicationState B}

/-- Locked mode leaves every file as it is, whatever fails. -/
theorem reconcileMatchLock_locked_state
    (codec : PublicationCodec B)
    (desired : FilterMatchLock)
    (plan : PublishOp → Fault)
    (state : PublicationState B) :
    (reconcileMatchLock codec desired .locked plan state).2 = state := by
  have hmeets : Meets plan (fun after => after = state)
      (reconcileMatchLock codec desired .locked)
      (fun _ after => after = state) (fun _ after => after = state)
      (fun after => after = state) := by
    unfold reconcileMatchLock
    split
    · refine meets_bind (fun _ after => after = state)
        (meets_observe (fun _ h => h) (fun _ _ h => h) (fun _ _ h => h))
        fun existing => ?_
      split
      · exact meets_throw (fun _ h => h)
      · exact meets_requireMatchLock_same state existing
    · exact meets_throw (fun _ h => h)
  exact hmeets.state rfl

/-- Reconciling reads the lock and goes on with what it read. -/
theorem reconcileMatchLock_run
    (mode : MatchLockMode)
    (hversion : desired.version = filterMatchLockVersion)
    (hread : plan .readMatchLock = .none)
    (hnewer : (state.files.read .matchLock).bind
      (newerMatchLockVersion codec) = none) :
    reconcileMatchLock codec desired mode plan state =
      match mode with
      | .update =>
          updateMatchLock codec desired (state.files.read .matchLock) plan state
      | .locked =>
          requireMatchLock codec desired (state.files.read .matchLock) plan
            state := by
  unfold reconcileMatchLock readFile
  rw [if_pos hversion, bind_run (observe_run hread state), hnewer]
  cases mode with
  | update => rfl
  | locked => rfl

theorem reconcileMatchLock_newer
    (mode : MatchLockMode)
    (hversion : desired.version = filterMatchLockVersion)
    (hread : plan .readMatchLock = .none)
    {version : Nat}
    (hnewer : (state.files.read .matchLock).bind
      (newerMatchLockVersion codec) = some version)
    (status : MatchLockStatus) :
    (reconcileMatchLock codec desired mode plan state).1 ≠ .done status := by
  unfold reconcileMatchLock readFile
  rw [if_pos hversion, bind_run (observe_run hread state), hnewer]
  intro h
  cases h

/-- The lock on disk after an update that succeeded. -/
def Settled
    (codec : PublicationCodec B)
    (desired : FilterMatchLock)
    (status : MatchLockStatus)
    (files : FileStore BuildFile B) : Prop :=
  (desired.filters = [] ∧ files.read .matchLock = none ∧
    status.contentHash = none) ∨
  (desired.filters ≠ [] ∧ ∃ serialized,
    codec.lockToYaml desired = .ok serialized ∧
      files.read .matchLock = some serialized ∧
      status.contentHash = some (codec.sha256Hex serialized))

theorem meets_updateMatchLock_settled
    (existing : Option B) :
    Meets plan (fun state => state.files.read .matchLock = existing)
      (updateMatchLock codec desired existing)
      (fun status state => Settled codec desired status state.files)
      (fun _ _ => True) (fun _ => True) := by
  unfold updateMatchLock FilterMatchLock.isEmpty
  by_cases hempty : desired.filters = []
  · rw [if_pos (List.isEmpty_iff.mpr hempty)]
    cases existing with
    | none => exact meets_pure (fun _ h => .inl ⟨hempty, h, rfl⟩)
    | some bytes =>
        refine meets_bind (fun _ state => state.files.read .matchLock = none)
          (meets_perform ?_ (fun _ _ _ => trivial) (fun _ _ _ => trivial))
          fun _ => ?_
        · intro state _
          exact FileStore.read_remove_self _ _
        refine meets_bind (fun _ state => state.files.read .matchLock = none)
          (meets_perform (fun _ h => h) (fun _ _ _ => trivial)
            (fun _ _ _ => trivial)) fun _ => ?_
        exact meets_pure (fun _ h => .inl ⟨hempty, h, rfl⟩)
  · rw [if_neg (fun hnil => hempty (List.isEmpty_iff.mp hnil))]
    cases hyaml : codec.lockToYaml desired with
    | error message => exact meets_throw (fun _ _ => trivial)
    | ok serialized =>
        simp only
        split
        · next hsame =>
            refine meets_pure (fun state h => .inr ⟨hempty, serialized, hyaml,
              ?_, rfl⟩)
            rw [h, hsame]
        · refine meets_bind
            (fun _ state => state.files.read .matchLock = some serialized)
            ?_ fun _ => meets_pure (fun _ h =>
              .inr ⟨hempty, serialized, hyaml, h, rfl⟩)
          exact meets_consequence
            (meets_atomicWrite (fun _ _ => True)
              (fun files _ => files.read .matchLock = some serialized)
              (fun files _ _ => FileStore.read_write_self files _ _))
            (fun _ _ => trivial) (fun _ _ h => h) (fun _ _ _ => trivial)
            (fun _ _ => trivial)

theorem reconcileMatchLock_settled
    {status : MatchLockStatus}
    {after : PublicationState B}
    (h : reconcileMatchLock codec desired .update plan state =
      (.done status, after)) :
    Settled codec desired status after.files := by
  have hmeets : Meets plan (fun _ => True)
      (reconcileMatchLock codec desired .update)
      (fun status state => Settled codec desired status state.files)
      (fun _ _ => True) (fun _ => True) := by
    unfold reconcileMatchLock
    split
    · refine meets_bind
        (fun existing state => state.files.read .matchLock = existing)
        (meets_observe (fun _ _ => rfl) (fun _ _ _ => trivial)
          (fun _ _ _ => trivial)) fun existing => ?_
      split
      · exact meets_throw (fun _ _ => trivial)
      · exact meets_updateMatchLock_settled existing
    · exact meets_throw (fun _ _ => trivial)
  have hafter := hmeets state trivial
  rw [h] at hafter
  exact hafter

end Runs

section Documents

variable {yaml : YamlLibrary} {encoding : TextEncoding B}
  {codec : PublicationCodec B} {desired : FilterMatchLock}
  {plan : PublishOp → Fault} {state : PublicationState B}

omit [DecidableEq B] in
/-- A document of the current version is not newer than it. -/
theorem newerMatchLockVersion_current
    (hyaml : yaml.Laws)
    {bytes : B}
    {text : String}
    {current : FilterMatchLock}
    (hdecode : encoding.decode bytes = .ok text)
    (hparse : yaml.parse text = .ok current)
    (hversion : current.version = filterMatchLockVersion) :
    newerMatchLockVersion (lockCodec yaml encoding codec) bytes = none := by
  have hbind : (lockCodec yaml encoding codec).lockVersion bytes =
      (yaml.parseVersion text).toOption := by
    unfold lockCodec
    simp only [hdecode]
    rfl
  unfold newerMatchLockVersion
  rw [hbind]
  cases hfound : yaml.parseVersion text with
  | error message => rfl
  | ok version =>
      have hcurrent := hyaml.version text current version hparse hfound
      rw [hcurrent, hversion]
      rfl

theorem fromYaml_eq
    (hcanonical : desired.canonicalize = desired)
    (text : String) :
    FilterMatchLock.fromYaml yaml text = .ok desired ↔
      ∃ current, yaml.parse text = .ok current ∧
        current.SameContents desired := by
  unfold FilterMatchLock.fromYaml
  cases hparse : yaml.parse text with
  | error message =>
      refine iff_of_false ?_ ?_
      · intro h
        cases h
      · rintro ⟨current, h, -⟩
        cases h
  | ok current =>
      have hok : (do
          let lock ← (Except.ok current : Except String FilterMatchLock)
          Except.ok lock.canonicalize) = Except.ok current.canonicalize := rfl
      rw [hok, Except.ok.injEq]
      constructor
      · intro h
        refine ⟨current, rfl, FilterMatchLock.canonicalize_eq_iff.mp ?_⟩
        rw [h, hcanonical]
      · rintro ⟨found, hfound, hsame⟩
        cases hfound
        rw [FilterMatchLock.canonicalize_eq_iff.mpr hsame, hcanonical]

/-- Locked mode accepts exactly the files that stand for the lock. -/
theorem reconcileMatchLock_locked_done
    (hyaml : yaml.Laws)
    (hcanonical : desired.canonicalize = desired)
    (hversion : desired.version = filterMatchLockVersion)
    (hread : plan .readMatchLock = .none) :
    (∃ status,
      (reconcileMatchLock (lockCodec yaml encoding codec) desired .locked plan
        state).1 = .done status) ↔
      LockAccepted yaml encoding desired (state.files.read .matchLock) := by
  have hrequired : ∀ existing : Option B,
      ((desired.filters = [] ∧ existing = none) ∨
        (desired.filters ≠ [] ∧
          ReadsAs (lockCodec yaml encoding codec) desired existing)) ↔
        LockAccepted yaml encoding desired existing := by
    intro existing
    refine or_congr Iff.rfl (and_congr Iff.rfl ?_)
    constructor
    · rintro ⟨bytes, text, hexisting, hutf8, hdocument⟩
      obtain ⟨current, hparse, hsame⟩ := (fromYaml_eq hcanonical text).mp
        hdocument
      exact ⟨bytes, text, current, hexisting, hutf8, hparse, hsame⟩
    · rintro ⟨bytes, text, current, hexisting, hutf8, hparse, hsame⟩
      exact ⟨bytes, text, hexisting, hutf8,
        (fromYaml_eq hcanonical text).mpr ⟨current, hparse, hsame⟩⟩
  cases hnewer : (state.files.read .matchLock).bind
      (newerMatchLockVersion (lockCodec yaml encoding codec)) with
  | none =>
      rw [reconcileMatchLock_run .locked hversion hread hnewer,
        requireMatchLock_done]
      exact hrequired _
  | some version =>
      refine iff_of_false ?_ ?_
      · rintro ⟨status, hstatus⟩
        exact reconcileMatchLock_newer .locked hversion hread hnewer status
          hstatus
      · rintro (⟨-, hnone⟩ | ⟨-, bytes, text, current, hexisting, hdecode,
          hparse, hsame⟩)
        · rw [hnone] at hnewer
          cases hnewer
        · have hcurrent : newerMatchLockVersion
              (lockCodec yaml encoding codec) bytes = none :=
            newerMatchLockVersion_current hyaml hdecode hparse
              (hsame.version.trans hversion)
          rw [hexisting, Option.bind_some, hcurrent] at hnewer
          cases hnewer

omit [DecidableEq B] in
/-- What an update leaves on disk stands for the lock. -/
theorem lockAccepted_of_settled
    (hyaml : yaml.Laws)
    {status : MatchLockStatus}
    {files : FileStore BuildFile B}
    (h : Settled (lockCodec yaml encoding codec) desired status files) :
    LockAccepted yaml encoding desired (files.read .matchLock) := by
  rcases h with ⟨hempty, hfile, -⟩ | ⟨hnonempty, serialized, hprint, hfile, -⟩
  · exact .inl ⟨hempty, hfile⟩
  · have hmap : encoding.encode <$> desired.toYaml yaml = .ok serialized :=
      hprint
    obtain ⟨text, htext, rfl⟩ := except_map_ok hmap
    have hparse := FilterMatchLock.parse_toYaml hyaml htext
    refine .inr ⟨hnonempty, _, text, _, hfile,
      (encoding.decode_eq _ _).mpr rfl, hparse, ?_⟩
    exact FilterMatchLock.canonicalize_eq_iff.mp desired.canonicalize_idem

/-- The lock of some project. -/
def IsAssembled (desired : FilterMatchLock) : Prop :=
  ∃ catalog resolution targetFields compiled imports,
    desired = assembleFilterMatchLock catalog resolution targetFields compiled
      imports

/-- Locks have one canonical form for all their orders and repeats, which is
what their documents read back as.  Locked mode never writes and accepts
exactly the files whose lock has the contents of the project's, so with its
matches; what an update leaves is accepted. -/
theorem match_lock_canonical
    (yaml : YamlLibrary)
    (hyaml : yaml.Laws)
    (encoding : TextEncoding B)
    (codec : PublicationCodec B) :
    (∀ (lock : FilterMatchLock) text, lock.toYaml yaml = .ok text →
      FilterMatchLock.fromYaml yaml text = .ok lock.canonicalize) ∧
    (∀ lock : FilterMatchLock,
      lock.canonicalize.canonicalize = lock.canonicalize) ∧
    (∀ left right : FilterMatchLock,
      left.canonicalize = right.canonicalize ↔ left.SameContents right) ∧
    (∀ version filters shuffled, filters.Perm shuffled →
      (FilterMatchLock.mk version filters).canonicalize =
        (FilterMatchLock.mk version shuffled).canonicalize) ∧
    ∀ desired, IsAssembled desired →
      ∀ (plan : PublishOp → Fault) (state : PublicationState B),
        (reconcileMatchLock (lockCodec yaml encoding codec) desired .locked
          plan state).2 = state ∧
        (plan .readMatchLock = .none →
          ((∃ status,
            (reconcileMatchLock (lockCodec yaml encoding codec) desired
              .locked plan state).1 = .done status) ↔
            LockAccepted yaml encoding desired
              (state.files.read .matchLock))) ∧
        (∀ current : FilterMatchLock, current.SameContents desired →
          ∀ definition matched,
            current.Denotes definition matched ↔
              desired.Denotes definition matched) ∧
        ∀ status after,
          reconcileMatchLock (lockCodec yaml encoding codec) desired .update
              plan state = (.done status, after) →
          ∀ later : PublishOp → Fault, later .readMatchLock = .none →
            ∃ found,
              (reconcileMatchLock (lockCodec yaml encoding codec) desired
                .locked later after).1 = .done found := by
  refine ⟨fun lock text h => FilterMatchLock.fromYaml_toYaml hyaml h,
    FilterMatchLock.canonicalize_idem,
    fun _ _ => FilterMatchLock.canonicalize_eq_iff, ?_, ?_⟩
  · intro version filters shuffled hperm
    refine FilterMatchLock.canonicalize_eq_iff.mpr ⟨rfl, ?_, ?_⟩
    · exact fun filter hfilter => ⟨filter, hperm.mem_iff.mp hfilter,
        LockedFilter.canonicalize_eq_iff.mp rfl⟩
    · exact fun filter hfilter => ⟨filter, hperm.mem_iff.mpr hfilter,
        LockedFilter.canonicalize_eq_iff.mp rfl⟩
  · rintro _ ⟨catalog, resolution, targetFields, compiled, imports, rfl⟩
      plan state
    obtain ⟨hcanonical, hversion⟩ := assembleFilterMatchLock_canonical
      catalog resolution targetFields compiled imports
    refine ⟨reconcileMatchLock_locked_state _ _ plan state,
      reconcileMatchLock_locked_done hyaml hcanonical hversion,
      fun current hsame => hsame.denotes, ?_⟩
    intro status after hupdate later hread
    exact (reconcileMatchLock_locked_done hyaml hcanonical hversion
      hread).mpr (lockAccepted_of_settled hyaml
        (reconcileMatchLock_settled hupdate))

end Documents

/-! ## A project with one filter -/

section Sample

def sampleEncoding : TextEncoding String where
  encode text := text
  decode bytes := .ok bytes
  decode_eq bytes text := by
    rw [Except.ok.injEq]

def samplePublication : PublicationCodec String where
  encodeManifest _ := .error "no manifest"
  decodeManifest _ := .error "no manifest"
  lockVersion _ := none
  lockToYaml _ := .error "no lock"
  lockUtf8 bytes := .ok bytes
  lockFromYaml _ := .error "no lock"
  sha256Hex bytes := bytes
  decode_encode _ _ h := by cases h

def postsCatalog : Catalog where
  defaultSchema := "public"
  tables := [⟨⟨0⟩, "public", "posts", true, [], [], [], [], []⟩]
  types := []
  columns := []
  relations := []

def postsIndex : PolicyIndex where
  entries := [⟨⟨0⟩, "backend", .filter, "Same", [⟨0⟩], true, false⟩]
  entities_nodup := List.nodup_singleton _

def postsCompiled : CompiledPolicyIndex where
  entries :=
    [⟨⟨0⟩, ⟨"backend", "Same"⟩, true, [], [⟨⟨0⟩, none, none, [], []⟩]⟩]

def postsLock : FilterMatchLock where
  version := 1
  filters := [⟨"backend", "backend", "Same", [], [⟨"public.posts", []⟩]⟩]

theorem postsLock_assembled : IsAssembled postsLock :=
  ⟨postsCatalog, postsIndex, fun _ => [], postsCompiled, ⟨[]⟩,
    by decide +kernel⟩

def postsText : String :=
  "---
version: 1
filters:
  - scope: backend
" ++
    "    defined_in: backend
    name: Same
    matches:
" ++
    "      - target: public.posts
"

def emptyText : String := "---
version: 1
"

/-- A YAML library at two documents. -/
def sampleYaml : YamlLibrary where
  print lock :=
    if lock = postsLock then .ok postsText else .error "unknown lock"
  parse text :=
    if text = postsText then
      .ok postsLock
    else if text = emptyText then
      .ok FilterMatchLock.empty
    else
      .error "unknown document"
  parseVersion text :=
    if text = postsText ∨ text = emptyText then
      .ok 1
    else
      .error "unknown document"

theorem sampleYaml_laws : sampleYaml.Laws := by
  have hprint : ∀ lock text, sampleYaml.print lock = .ok text →
      lock = postsLock ∧ text = postsText := by
    intro lock text h
    unfold sampleYaml at h
    simp only at h
    split at h
    · next hlock =>
        cases h
        exact ⟨hlock, rfl⟩
    · cases h
  have hparse : sampleYaml.parse postsText = .ok postsLock := by
    unfold sampleYaml
    simp only
    rw [if_pos trivial]
  refine ⟨?_, ?_, ?_⟩
  · intro lock text h
    obtain ⟨rfl, rfl⟩ := hprint lock text h
    exact hparse
  · intro lock text h
    obtain ⟨rfl, rfl⟩ := hprint lock text h
    have htrim : trimLineEnds postsText = postsText := by decide +kernel
    rw [htrim]
  · intro text lock version hdocument hversion
    unfold sampleYaml at hdocument hversion
    simp only at hdocument hversion
    split at hversion
    · cases hversion
      split at hdocument
      · cases hdocument
        rfl
      · split at hdocument
        · cases hdocument
          rfl
        · cases hdocument
    · cases hversion

def emptyBuild : PublicationState String where
  files := ⟨[]⟩
  temps := []
  nextTemp := 0
  history := ⟨[], [], []⟩

/-- The lock of the project is accepted once it was written. -/
theorem posts_lock_accepted :
    ∃ status after,
      reconcileMatchLock
          (lockCodec sampleYaml sampleEncoding samplePublication) postsLock
          .update (fun _ => .none) emptyBuild = (.done status, after) ∧
      ∃ found,
        (reconcileMatchLock
          (lockCodec sampleYaml sampleEncoding samplePublication) postsLock
          .locked (fun _ => .none) after).1 = .done found := by
  refine ⟨_, _, rfl, ?_⟩
  exact ((match_lock_canonical sampleYaml sampleYaml_laws sampleEncoding
    samplePublication).2.2.2.2 postsLock postsLock_assembled (fun _ => .none)
      emptyBuild).2.2.2 _ _ rfl (fun _ => .none) rfl

/-- A document without filters records the matches of a project without
filters, but such a project has no lock file. -/
theorem empty_document_refused :
    ¬∀ (yaml : YamlLibrary), yaml.Laws →
      ∀ (desired current : FilterMatchLock) (text : String)
        (state : PublicationState String),
        IsAssembled desired → yaml.parse text = .ok current →
        state.files.read .matchLock = some text →
        ((∃ status,
          (reconcileMatchLock
            (lockCodec yaml sampleEncoding samplePublication) desired .locked
            (fun _ => .none) state).1 = .done status) ↔
          ∀ definition matched,
            current.Denotes definition matched ↔
              desired.Denotes definition matched) := by
  intro h
  have hempty : IsAssembled FilterMatchLock.empty :=
    ⟨postsCatalog, ⟨[], List.nodup_nil⟩, fun _ => [], ⟨[]⟩, ⟨[]⟩, rfl⟩
  obtain ⟨status, hstatus⟩ := (h sampleYaml sampleYaml_laws
    FilterMatchLock.empty FilterMatchLock.empty emptyText
    { emptyBuild with files := emptyBuild.files.write .matchLock emptyText }
    hempty rfl rfl).mpr (fun _ _ => Iff.rfl)
  cases hstatus

end Sample

end Publication

end Dsql
