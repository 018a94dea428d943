import Dsql.Logic.Faults
import Dsql.Logic.FileStore
import Dsql.Metadata
import Dsql.Publish.MatchLock
import Mathlib.Tactic

/-!
# Publication

Transactional publication of a generation snapshot: content-addressed artifact
files, an immutable manifest for each generation and the pointer
`manifest.json`, renamed into place last.  Every body runs under the
publication lock, so two bodies never overlap; each of their file-system
operations can fail or crash.

The contents of temporary files are left out, since nothing reads them: a
temporary file is a name until it is renamed over its target.
-/

namespace Dsql

inductive ArtifactFamily where
  | operation
  | fragment
deriving DecidableEq, Repr

def ArtifactFamily.directory : ArtifactFamily → String
  | .operation => "operations"
  | .fragment => "fragments"

/-- The files of a build directory, and the match lock beside it. -/
inductive BuildFile where
  | pointer
  | matchLock
  | manifest (generation : Nat)
  | artifact (family : ArtifactFamily) (name : String)
deriving DecidableEq, Repr

/-- The path of a build file that errors name. -/
inductive BuildPath where
  | buildDir
  | lockFile
  | file (file : BuildFile)
  | parent (file : BuildFile)
deriving DecidableEq, Repr

structure SnapshotArtifact (B : Type) where
  id : String
  family : ArtifactFamily
  kind : DefinitionKind
  scope : String
  name : String
  serialized : B
  hash : String
  source : String
deriving DecidableEq

def artifactFileStem (name : String) : String :=
  let stem := String.ofList (name.toList.map (fun char =>
    if char.isAlphanum || char == '-' || char == '_' then char else '_'))
  if stem.isEmpty then "operation" else stem

/-- The content-addressed name of an artifact inside its directory. -/
def artifactAddressName (name hash : String) : String :=
  artifactFileStem name ++ "." ++ String.ofList (hash.toList.take 16) ++
    ".json"

namespace SnapshotArtifact

variable {B : Type}

def file (artifact : SnapshotArtifact B) : BuildFile :=
  .artifact artifact.family (artifactAddressName artifact.name artifact.hash)

/-- The path of an artifact relative to the build directory, as manifests
list it. -/
def relativePath (artifact : SnapshotArtifact B) : String :=
  artifact.family.directory ++ "/" ++
    artifactAddressName artifact.name artifact.hash

end SnapshotArtifact

/-- The assembled tree of one generation, sorted by artifact id. -/
structure GenerationSnapshot (B : Type) where
  artifacts : List (SnapshotArtifact B)
  filterMatchLock : FilterMatchLock
deriving DecidableEq

structure ManifestEntry where
  name : String
  kind : DefinitionKind
  path : String
  hash : String
  source : String
deriving DecidableEq, Repr

def buildManifestVersion : Nat := 7

structure BuildManifest where
  version : Nat
  generationId : Nat
  operations : List ManifestEntry
  fragments : List ManifestEntry
deriving DecidableEq, Repr

/-- Every path that a manifest lists. -/
def BuildManifest.paths (manifest : BuildManifest) : List String :=
  (manifest.operations ++ manifest.fragments).map ManifestEntry.path

def manifestEntry {B : Type} (artifact : SnapshotArtifact B) : ManifestEntry :=
  { name := artifact.name
    kind := artifact.kind
    path := artifact.relativePath
    hash := artifact.hash
    source := artifact.source }

/-- The manifest of a snapshot at a generation. -/
def manifestFor
    {B : Type}
    (snapshot : GenerationSnapshot B)
    (generationId : Nat) : BuildManifest :=
  { version := buildManifestVersion
    generationId := generationId
    operations :=
      (snapshot.artifacts.filter (fun artifact =>
        artifact.family = .operation)).map manifestEntry
    fragments :=
      (snapshot.artifacts.filter (fun artifact =>
        artifact.family = .fragment)).map manifestEntry }

/-- The serializers that publication calls.  A manifest that serializes reads
back as itself. -/
structure PublicationCodec (B : Type) where
  encodeManifest : BuildManifest → Except String B
  decodeManifest : B → Except String BuildManifest
  lockVersion : B → Option Nat
  lockToYaml : FilterMatchLock → Except String B
  lockUtf8 : B → Except String String
  lockFromYaml : String → Except String FilterMatchLock
  sha256Hex : B → String
  decode_encode : ∀ manifest bytes,
    encodeManifest manifest = .ok bytes →
      decodeManifest bytes = .ok manifest

inductive GenerateError where
  | write (path : BuildPath)
  | read (path : BuildPath)
  | publicationLocked
  | matchLock (message : String)
  | serialize (name message : String)
  | addressCollision (path id : String)
  | assembly (name message : String)
  | internal (message : String)
deriving DecidableEq, Repr

/-- A committed generation, with what its pruning needs. -/
structure PublishedGeneration (B : Type) where
  generationId : Nat
  manifestJson : B
  written : List BuildFile
  filterMatchLockHash : Option String
  /-- The generation that the pointer named before this commit. -/
  predecessor : Option Nat
deriving DecidableEq

/-- The target of an atomic write within one call. -/
inductive WriteTarget where
  | matchLock
  | artifact (index : Nat)
  | manifest
  | pointer
deriving DecidableEq, Repr

inductive WriteStep where
  | createParent
  | create
  | write
  | flush
  | sync
  | rename
  | syncParent
  | discard
deriving DecidableEq, Repr

/-- The file-system operations of one call. -/
inductive PublishOp where
  | createBuildDir
  | openLock
  | tryLock
  | awaitLock
  | readMatchLock
  | removeMatchLock
  | syncMatchLockDir
  | readPointer
  | scanManifests
  | readArtifact (index : Nat)
  | checkManifest
  | write (target : WriteTarget) (step : WriteStep)
  | readManifest (generation : Nat)
  | removeManifest (generation : Nat)
  | scanFamily (family : ArtifactFamily)
  | readEntry (family : ArtifactFamily) (name : String)
  | removeArtifact (family : ArtifactFamily) (name : String)
deriving DecidableEq, Repr

/-- A renaming of the pointer. -/
structure Commit (B : Type) where
  generation : Nat
  snapshot : GenerationSnapshot B
deriving DecidableEq

/-- What happened so far; no program reads it. -/
structure PublicationHistory (B : Type) where
  /-- The ids handed out, the latest first. -/
  allocated : List Nat
  /-- The ids whose immutable manifest was written, the latest first. -/
  minted : List Nat
  /-- The generations that the pointer named, the latest first. -/
  lineage : List (Commit B)
deriving DecidableEq

structure PublicationState (B : Type) where
  files : FileStore BuildFile B
  temps : List (BuildFile × Nat)
  nextTemp : Nat
  history : PublicationHistory B
deriving DecidableEq

/-- A publication program. -/
abbrev Publish (B α : Type) : Type :=
  Program PublishOp (PublicationState B) GenerateError α

open Program

namespace Publication

variable {B : Type} [DecidableEq B]

/-- Errors of this step are ignored. -/
def ignoringErrors (program : Publish B Unit) : Publish B Unit :=
  onError program (fun _ => pure ())

def onFiles
    (effect : FileStore BuildFile B → FileStore BuildFile B)
    (state : PublicationState B) : PublicationState B :=
  { state with files := effect state.files }

def readFile (op : PublishOp) (file : BuildFile) : Publish B (Option B) :=
  observe op (.read (.file file)) (fun state => state.files.read file)

section AtomicWrite

variable (target : WriteTarget) (file : BuildFile)

/-- The temporary file takes its place under the final name; `record` notes
it in the history. -/
def renameOver
    (content : B)
    (unique : Nat)
    (record : PublicationHistory B → PublicationHistory B)
    (state : PublicationState B) : PublicationState B :=
  { state with
    files := state.files.write file content
    temps := state.temps.filter (· ≠ (file, unique))
    history := record state.history }

def addTemp (unique : Nat) (state : PublicationState B) :
    PublicationState B :=
  { state with temps := (file, unique) :: state.temps }

def dropTemp (unique : Nat) (state : PublicationState B) :
    PublicationState B :=
  { state with temps := state.temps.filter (· ≠ (file, unique)) }

/-- A step of an atomic write, named by its target. -/
def writeStep
    (path : BuildPath)
    (step : WriteStep)
    (effect : PublicationState B → PublicationState B) : Publish B Unit :=
  perform (.write target step) (.write path) effect

/-- A unique temporary file, written, synced and renamed over the target; it
is removed when any of this fails. -/
def atomicWrite
    (content : B)
    (record : PublicationHistory B → PublicationHistory B) :
    Publish B Unit := do
  writeStep target (.parent file) .createParent id
  let unique ← inspect PublicationState.nextTemp
  modify (fun state => { state with nextTemp := state.nextTemp + 1 })
  onError
    (do
      writeStep target (.file file) .create (addTemp file unique)
      writeStep target (.file file) .write id
      writeStep target (.file file) .flush id
      writeStep target (.file file) .sync id
      writeStep target (.file file) .rename (renameOver file content unique record)
      writeStep target (.file file) .syncParent id)
    (fun error => do
      ignoringErrors (writeStep target (.file file) .discard (dropTemp file unique))
      throw error)

end AtomicWrite

variable (codec : PublicationCodec B)

/-- The publication lock around a body. -/
def withPublicationLock {α : Type} (body : Publish B α) : Publish B α := do
  perform .createBuildDir (.write .buildDir) id
  perform .openLock (.write .lockFile) id
  perform .tryLock (.write .lockFile) id
  perform .awaitLock .publicationLocked id
  body

/-- The generation that the bytes of a pointer name. -/
def pointedGeneration (bytes : B) : Option Nat :=
  match codec.decodeManifest bytes with
  | .ok manifest =>
      if manifest.version = buildManifestVersion then
        some manifest.generationId
      else
        none
  | .error _ => none

/-- The pointer's generation; a missing or malformed pointer, or one that
cannot be read, counts as no current generation. -/
def pointerGeneration : Publish B (Option Nat) :=
  onError
    (observe .readPointer (.read (.file .pointer)) (fun state =>
      (state.files.read .pointer).bind (pointedGeneration codec)))
    (fun _ => pure none)

def manifestId : BuildFile → Option Nat
  | .manifest generation => some generation
  | _ => none

/-- Every id with an immutable manifest on disk, committed or stranded. -/
def generationIds (files : FileStore BuildFile B) : List Nat :=
  files.paths.filterMap manifestId

def generationIdsOnDisk : Publish B (List Nat) :=
  observe .scanManifests (.write .buildDir) (fun state =>
    generationIds state.files)

def newerMatchLockVersion (bytes : B) : Option Nat :=
  (codec.lockVersion bytes).filter (fun version =>
    filterMatchLockVersion < version)

/-- The canonical lock replaces what is on disk, which an empty lock leaves
absent. -/
def updateMatchLock
    (desired : FilterMatchLock)
    (existing : Option B) : Publish B MatchLockStatus :=
  if desired.isEmpty then
    match existing with
    | none => pure ⟨false, none⟩
    | some _ => do
        perform .removeMatchLock (.write (.file .matchLock))
          (onFiles (fun files => files.remove .matchLock))
        perform .syncMatchLockDir (.write (.file .matchLock)) id
        pure ⟨true, none⟩
  else
    match codec.lockToYaml desired with
    | .error message => throw (.serialize "dsql.lock" message)
    | .ok serialized =>
        if existing = some serialized then
          pure ⟨false, some (codec.sha256Hex serialized)⟩
        else do
          atomicWrite .matchLock .matchLock serialized id
          pure ⟨true, some (codec.sha256Hex serialized)⟩

/-- The lock on disk must already say what is desired. -/
def requireMatchLock
    (desired : FilterMatchLock)
    (existing : Option B) : Publish B MatchLockStatus :=
  if desired.isEmpty then
    match existing with
    | none => pure ⟨false, none⟩
    | some _ =>
        throw (.matchLock (staleMatchLockMessage none desired
          ("the lock file should be absent because the project has no " ++
            "effective filters")))
  else
    match existing with
    | none =>
        throw (.matchLock (staleMatchLockMessage none desired
          "the lock file is missing"))
    | some existing =>
        match codec.lockUtf8 existing with
        | .error error =>
            throw (.matchLock ("the lock is not UTF-8: " ++ error ++
              "\nrun `dsql lock` to replace it"))
        | .ok raw =>
            match codec.lockFromYaml raw with
            | .error error =>
                throw (.matchLock ("the lock is malformed: " ++ error ++
                  "\nrun `dsql lock` to replace it"))
            | .ok current =>
                if current = desired then
                  pure ⟨false, some (codec.sha256Hex existing)⟩
                else
                  throw (.matchLock (staleMatchLockMessage (some current)
                    desired "the accepted filter matches are stale"))

def reconcileMatchLock
    (desired : FilterMatchLock)
    (mode : MatchLockMode) : Publish B MatchLockStatus :=
  if desired.version = filterMatchLockVersion then do
    let existing ← readFile .readMatchLock .matchLock
    match existing.bind (newerMatchLockVersion codec) with
    | some version =>
        throw (.matchLock ("version " ++ toString version ++
          " is newer than supported version " ++
          toString filterMatchLockVersion ++ "; refusing to overwrite it"))
    | none =>
        match mode with
        | .update => updateMatchLock codec desired existing
        | .locked => requireMatchLock codec desired existing
  else
    throw (.internal
      ("assembled filter match lock has unsupported version " ++
        toString desired.version))

def recordAllocated
    (generation : Nat)
    (state : PublicationState B) : PublicationState B :=
  { state with
    history :=
      { state.history with
        allocated := generation :: state.history.allocated } }

/-- The id after the greatest one on disk or in the pointer. -/
def nextGeneration (ids : List Nat) (predecessor : Option Nat) : Nat :=
  (ids ++ predecessor.toList).foldr max 0 + 1

/-- The next generation id, within the range of a 64-bit counter. -/
def allocateGeneration (predecessor : Option Nat) : Publish B Nat := do
  let ids ← generationIdsOnDisk
  let generation := nextGeneration ids predecessor
  if generation < 2 ^ 64 then
    modify (recordAllocated generation)
    pure generation
  else
    throw (.assembly "manifest.json" "generation counter overflow")

/-- The artifacts of a snapshot from `index` on.  An address with the same
bytes is left alone, one with other bytes is a collision. -/
def writeArtifacts
    (index : Nat) : List (SnapshotArtifact B) → Publish B (List BuildFile)
  | [] => pure []
  | artifact :: rest => do
      let existing ←
        observe (.readArtifact index) (.write (.file artifact.file))
          (fun state => state.files.read artifact.file)
      match existing with
      | some bytes =>
          if bytes = artifact.serialized then
            writeArtifacts (index + 1) rest
          else
            throw (.addressCollision artifact.relativePath artifact.id)
      | none => do
          atomicWrite (.artifact index) artifact.file artifact.serialized id
          let written ← writeArtifacts (index + 1) rest
          pure (artifact.file :: written)

def recordMinted
    (generation : Nat)
    (history : PublicationHistory B) : PublicationHistory B :=
  { history with minted := generation :: history.minted }

def recordCommit
    (commit : Commit B)
    (history : PublicationHistory B) : PublicationHistory B :=
  { history with lineage := commit :: history.lineage }

/-- A failed existence check counts as an absent file. -/
def fileExists (op : PublishOp) (file : BuildFile) : Publish B Bool :=
  onError
    (observe op (.read (.file file)) (fun state =>
      (state.files.read file).isSome))
    (fun _ => pure false)

/-- The immutable manifest of a generation. -/
def writeManifest
    (snapshot : GenerationSnapshot B)
    (generation : Nat) : Publish B B :=
  match codec.encodeManifest (manifestFor snapshot generation) with
  | .error message => throw (.serialize "manifest.json" message)
  | .ok serialized => do
      let found ← fileExists .checkManifest (.manifest generation)
      if found then
        throw (.addressCollision
          ("manifest." ++ toString generation ++ ".json")
          ("generation " ++ toString generation))
      else do
        atomicWrite .manifest (.manifest generation) serialized
          (recordMinted generation)
        pure serialized

/-- The body of a publication. -/
def publishBody
    (snapshot : GenerationSnapshot B)
    (mode : MatchLockMode) : Publish B (PublishedGeneration B) := do
  let matchLock ← reconcileMatchLock codec snapshot.filterMatchLock mode
  let predecessor ← pointerGeneration codec
  let generation ← allocateGeneration predecessor
  let written ← writeArtifacts 0 snapshot.artifacts
  let serialized ← writeManifest codec snapshot generation
  atomicWrite .pointer .pointer serialized
    (recordCommit ⟨generation, snapshot⟩)
  pure
    { generationId := generation
      manifestJson := serialized
      written := written ++ [.manifest generation]
      filterMatchLockHash := matchLock.contentHash
      predecessor := predecessor }

/-- Publishes a snapshot under the lock. -/
def publish
    (snapshot : GenerationSnapshot B)
    (mode : MatchLockMode) : Publish B (PublishedGeneration B) :=
  withPublicationLock (publishBody codec snapshot mode)

/-- The paths that a retained manifest lists.  A manifest that cannot be read
aborts pruning. -/
def retainManifest (generation : Nat) : Publish B (List String) := do
  let raw ←
    observe (.readManifest generation)
      (.write (.file (.manifest generation)))
      (fun state => state.files.read (.manifest generation))
  match raw with
  | none => throw (.write (.file (.manifest generation)))
  | some bytes =>
      match codec.decodeManifest bytes with
      | .error message =>
          throw (.serialize
            ("manifest." ++ toString generation ++ ".json") message)
      | .ok manifest => pure manifest.paths

def removeFile (op : PublishOp) (file : BuildFile) : Publish B Unit :=
  ignoringErrors
    (perform op (.write (.file file))
      (onFiles (fun files => files.remove file)))

def pruneManifest (retained : List Nat) (id : Nat) : Publish B Unit :=
  if retained.contains id then
    pure ()
  else
    removeFile (.removeManifest id) (.manifest id)

/-- Removes the manifests of every id but the retained ones. -/
def pruneManifests
    (retained : List Nat) : List Nat → Publish B Unit
  | [] => pure ()
  | id :: rest => do
      pruneManifest retained id
      pruneManifests retained rest

def familyEntry (family : ArtifactFamily) : BuildFile → Option String
  | .artifact owner name => if owner = family then some name else none
  | _ => none

/-- The entries of an artifact directory. -/
def familyEntries
    (family : ArtifactFamily)
    (files : FileStore BuildFile B) : List String :=
  files.paths.filterMap (familyEntry family)

/-- An entry that no retained manifest lists goes; a hidden entry, or one that
cannot be read, is left alone. -/
def pruneEntry
    (retained : List String)
    (family : ArtifactFamily)
    (name : String) : Publish B Unit := do
  let readable ←
    onError
      (observe (.readEntry family name)
        (.read (.file (.artifact family name))) (fun _ => true))
      (fun _ => pure false)
  if !readable || name.startsWith "." ||
      retained.contains (family.directory ++ "/" ++ name) then
    pure ()
  else
    removeFile (.removeArtifact family name) (.artifact family name)

def pruneEntries
    (retained : List String)
    (family : ArtifactFamily) : List String → Publish B Unit
  | [] => pure ()
  | name :: rest => do
      pruneEntry retained family name
      pruneEntries retained family rest

/-- A directory that cannot be listed is skipped. -/
def pruneFamily
    (retained : List String)
    (family : ArtifactFamily) : Publish B Unit := do
  let names ←
    onError
      (observe (.scanFamily family) (.write .buildDir) (fun state =>
        familyEntries family state.files))
      (fun _ => pure [])
  pruneEntries retained family names

def retainPredecessor : Option Nat → Publish B (List String)
  | none => pure []
  | some predecessor => retainManifest codec predecessor

def pruneBody (published : PublishedGeneration B) : Publish B Unit := do
  let current ← pointerGeneration codec
  if current = some published.generationId then do
    let own ← retainManifest codec published.generationId
    let previous ← retainPredecessor codec published.predecessor
    let ids ← generationIdsOnDisk
    pruneManifests (published.generationId :: published.predecessor.toList)
      ids
    pruneFamily (own ++ previous) .operation
    pruneFamily (own ++ previous) .fragment
  else
    pure ()

/-- Best-effort maintenance after a commit; every error is only logged. -/
def prune (published : PublishedGeneration B) : Publish B Unit :=
  ignoringErrors (withPublicationLock (pruneBody codec published))

end Publication

end Dsql
