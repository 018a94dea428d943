import Dsql.Daemon.Documents

/-!
# Daemon sessions

A session keeps the documents of its project resident.  A batch of changed
paths is classified against the disk and the resident documents before
anything is applied; a batch that changes nothing repeats the last outcome.
What the compile proper answers is part of the request that runs it.
-/

namespace Dsql

namespace Daemon

/-- Codes of errors, with the path that they name. -/
inductive WireErrorKind where
  | invalidRequestMethod
  | invalidPath (path : String)
  | ioPath (path : String)
  | projectLoadFailed (path : Option FilePath)
  /-- A kind that only a compile outcome has. -/
  | compile (label : String)
deriving DecidableEq, Repr

/-- An error as the client sees it. -/
structure WireError where
  kind : WireErrorKind
  message : String
deriving DecidableEq, Repr

/-- A generation, and whether it is new. -/
structure CompileResult where
  generationId : Nat
  changed : Bool
deriving DecidableEq, Repr

/-- A compile outcome with the match lock of the generation that was
committed. -/
inductive Outcome where
  | success (result : CompileResult) (matchLock : Option String)
  | error (error : WireError) (published : Option (Option String))
deriving DecidableEq, Repr

/-- What a request is answered with. -/
inductive WireResponse where
  | success (result : CompileResult)
  | error (error : WireError)
deriving DecidableEq, Repr

/-- The answer of an outcome; a replay reports no change. -/
def renderOutcome (outcome : Outcome) (replay : Bool) : WireResponse :=
  match outcome with
  | .success result _ =>
      .success (if replay then { result with changed := false } else result)
  | .error error _ => .error error

/-- The requests that compile. -/
inductive Request where
  | compile
  | filesChanged (paths : Option (List String))

/-- What the daemon keeps between requests. -/
structure Session where
  base : FilePath
  excludeRoots : List ReservedRoot
  config : Config
  /-- Nothing after a failed reload. -/
  resident : Option (List Document)
  last : Option Outcome
  filterMatchLock : Option String

/-- How a changed file relates to the project. -/
inductive Relevance where
  | relevant
  | irrelevant
  | ambiguous
deriving DecidableEq, Repr

/-- A file against its resident text. -/
inductive FileChange where
  | unchanged
  | fresh (content : String)

/-- What a batch of paths makes the daemon do. -/
inductive BatchPlan where
  | noOp
  | incremental
      (upserts : List (FilePath × String))
      (lock : Option (Option String))
  | matchLockChanged (lock : Option String)
  | fullReload (lock : Option (Option String))

/-! ## Paths of a batch -/

/-- Parent segments take back the segment before them. -/
def normalizeSegments : List String → List String → Option (List String)
  | normalized, [] => some normalized
  | normalized, segment :: rest =>
      if segment = ".." then
        if normalized.isEmpty then
          none
        else
          normalizeSegments normalized.dropLast rest
      else
        normalizeSegments (normalized ++ [segment]) rest

/-- A path of a batch as the names below the project base. -/
def normalize (base : FilePath) (raw : String) : Except String TreePath :=
  match Text.dropPrefix "/" raw with
  | some text =>
      let path := Text.split '/' text
      if startsWith path base then
        match normalizeSegments []
            ((components path).drop (components base).length) with
        | some normalized => .ok normalized
        | none => .error (raw ++ " escapes the project")
      else
        .error (raw ++ " is outside the project")
  | none =>
      match normalizeSegments [] (components (Text.split '/' raw)) with
      | some normalized => .ok normalized
      | none => .error (raw ++ " escapes the project")

/-- A relative path is compared as a text with slashes, also for the
backslashes of its names. -/
def textSegments (relative : TreePath) : List String :=
  relative.flatMap (Text.split '\\')

/-- The path is the root or lies below it. -/
def pathIsWithin (relative root : TreePath) : Bool :=
  root.isPrefixOf (textSegments relative)

namespace Session

/-- The path belongs to a root that the project writes. -/
def isReserved (session : Session) (relative : TreePath) : Bool :=
  (session.excludeRoots ++ session.config.outputs ++
    [["dsql", "build"]]).any (pathIsWithin relative)

/-- The resident documents. -/
def documents (session : Session) : List Document :=
  session.resident.getD []

/-- Whether a full reload reads a path for more than its documents. -/
def isProjectInput (relative : TreePath) : Bool :=
  textSegments relative = ["dsql", "dsql.toml"] ||
    pathIsWithin relative ["dsql", "schema"] ||
    pathIsWithin relative ["dsql", "overlays"] ||
    textSegments relative = ["dsql"] || textSegments relative = []

/-- A resident document comes from the path. -/
def holdsFile (session : Session) (path : FilePath) : Bool :=
  session.documents.any (fun document => document.path = path)

/-- Whether the file itself or anything below it is resident. -/
def hasFilesUnder (session : Session) (path : FilePath) : Bool :=
  session.documents.any (fun document => path.isPrefixOf document.path)

/-- Whether a resident file below a directory is no longer on disk. -/
def lostFilesUnder
    (session : Session)
    (disk : Disk)
    (directory : FilePath) : Bool :=
  session.documents.any (fun document =>
    directory.isPrefixOf document.path && document.path ≠ directory &&
      !((metadata disk document.path).bind FileTree.asFile).isSome)

variable (library : ProjectLibrary)

/-- A file is relevant when it is resident or when one scope owns its path. -/
def relevance (session : Session) (path : FilePath) : Relevance :=
  if session.resident.isNone || session.holdsFile path then
    .relevant
  else
    match ownershipOf library.glob
        (scopeDocumentAssignments session.base session.config) path with
    | .unique _ => .relevant
    | .implicitDefault => .irrelevant
    | .ambiguous _ => .ambiguous
    | .unmatched => .irrelevant

/-- The bytes of a relevant file against the resident ones. -/
def classifyFile
    (session : Session)
    (path : FilePath)
    (content : FileContent) : Except String FileChange :=
  match content.asText with
  | none => .error ("failed to read " ++ pathText path)
  | some text =>
      if session.documents.any (fun document =>
          document.path = path &&
            library.contentHash document.text = library.contentHash text) then
        .ok .unchanged
      else
        .ok (.fresh text)

/-- Why the scan of a directory stops early. -/
inductive ScanStop where
  | failed (message : String)
  | ambiguous

/-- The upsert of one file, if any. -/
def scanFile
    (session : Session)
    (path : FilePath)
    (content : FileContent) : Except ScanStop (List (FilePath × String)) :=
  match session.relevance library path with
  | .irrelevant => .ok []
  | .ambiguous => .error .ambiguous
  | .relevant =>
      match session.classifyFile library path content with
      | .error message => .error (.failed message)
      | .ok .unchanged => .ok []
      | .ok (.fresh text) => .ok [(path, text)]

/-- The changed files of a directory: its own files in their order, then those
of its directories from the last one on. -/
def scanDirectory
    (session : Session) :
    TreePath → FileTree FileContent →
      Except ScanStop (List (FilePath × String))
  | _, .file _ => .ok []
  | relative, .directory listable names entry =>
      if listable then do
        let files ← names.mapM (fun name =>
          if session.isReserved (relative ++ [name]) then
            .ok []
          else
            match entry name with
            | .file content =>
                session.scanFile library
                  (session.base ++ relative ++ [name]) content
            | .directory .. => .ok [])
        let others ← names.reverse.mapM (fun name =>
          if session.isReserved (relative ++ [name]) then
            .ok []
          else
            scanDirectory session (relative ++ [name]) (entry name))
        .ok (files.flatten ++ others.flatten)
      else
        .error (.failed ("failed to scan " ++
          pathText (session.base ++ relative)))

/-! ## Classification -/

/-- What the paths of a batch ask for so far. -/
structure Batch where
  upserts : List (FilePath × String)
  reload : Bool
  lockChange : Option (Option String)

/-- Nothing has been classified. -/
def Batch.empty : Batch := ⟨[], false, none⟩

/-- A reload wins over changes, and these over a changed lock. -/
def Batch.plan (batch : Batch) : BatchPlan :=
  if batch.reload then
    .fullReload batch.lockChange
  else if !batch.upserts.isEmpty then
    .incremental batch.upserts batch.lockChange
  else
    match batch.lockChange with
    | some lock => .matchLockChanged lock
    | none => .noOp

/-- The error of a path that cannot be read. -/
def ioError (raw message : String) : WireError :=
  ⟨.ioPath raw, message⟩

/-- The match lock on disk, which is no document. -/
def classifyMatchLock
    (session : Session)
    (disk : Disk)
    (raw : String)
    (path : FilePath)
    (batch : Batch) : Except WireError Batch :=
  match (metadata disk path).map FileTree.asFile with
  | some (some .unreadable) | some none =>
      .error (ioError raw ("failed to read " ++ pathText path))
  | some (some content) =>
      let observed := some (library.digest content)
      .ok (if observed = session.filterMatchLock then
        batch
      else
        { batch with lockChange := some observed })
  | none =>
      .ok (if none = session.filterMatchLock then
        batch
      else
        { batch with lockChange := some none })

/-- A directory that has lost resident documents reloads; otherwise its files
are classified. -/
def classifyDirectory
    (session : Session)
    (disk : Disk)
    (raw : String)
    (relative : TreePath)
    (tree : FileTree FileContent)
    (batch : Batch) : Except WireError Batch :=
  if session.lostFilesUnder disk (session.base ++ relative) then
    .ok { batch with reload := true }
  else
    match session.scanDirectory library relative tree with
    | .ok changed => .ok { batch with upserts := batch.upserts ++ changed }
    | .error .ambiguous => .ok { batch with reload := true }
    | .error (.failed message) => .error (ioError raw message)

/-- A file is read, and compared with its resident text. -/
def classifyFilePath
    (session : Session)
    (raw : String)
    (path : FilePath)
    (content : FileContent)
    (batch : Batch) : Except WireError Batch :=
  match session.scanFile library path content with
  | .ok changed => .ok { batch with upserts := batch.upserts ++ changed }
  | .error .ambiguous => .ok { batch with reload := true }
  | .error (.failed message) => .error (ioError raw message)

/-- Classifies a path within the project. -/
def classifyRelative
    (session : Session)
    (disk : Disk)
    (raw : String)
    (relative : TreePath)
    (batch : Batch) : Except WireError Batch :=
  let path := session.base ++ relative
  if textSegments relative = ["dsql", "dsql.lock"] then
    session.classifyMatchLock library disk raw path batch
  else if session.isReserved relative then
    .ok batch
  else if isProjectInput relative then
    .ok { batch with reload := true }
  else
    match metadata disk path with
    | some (.directory listable names entry) =>
        session.classifyDirectory library disk raw relative
          (.directory listable names entry) batch
    | some (.file content) =>
        session.classifyFilePath library raw path content batch
    | none =>
        .ok (if session.hasFilesUnder path then
          { batch with reload := true }
        else
          batch)

/-- Classifies paths one after the other; an error ends the batch. -/
def classifyPaths
    (session : Session)
    (disk : Disk) : List String → Batch → Except WireError Batch
  | [], batch => .ok batch
  | raw :: rest, batch =>
      match normalize session.base raw with
      | .error problem => .error ⟨.invalidPath raw, problem⟩
      | .ok relative => do
          let batch ←
            session.classifyRelative library disk raw relative batch
          classifyPaths session disk rest batch

/-- The plan of a batch; without resident documents everything is loaded. -/
def classifyBatch
    (session : Session)
    (disk : Disk)
    (paths : Option (List String)) : Except WireError BatchPlan :=
  match paths with
  | none =>
      .error ⟨.invalidRequestMethod, "filesChanged requires params.paths"⟩
  | some paths =>
      if session.resident.isNone then
        .ok (.fullReload none)
      else
        (session.classifyPaths library disk paths .empty).map Batch.plan

/-! ## Application -/

/-- The text of the first document at a path is replaced. -/
def setText (path : FilePath) (text : String) :
    List Document → List Document
  | [] => []
  | document :: rest =>
      if document.path = path then
        { document with text := text } :: rest
      else
        document :: setText path text rest

/-- A resident file gets the text; a new one joins the scope that owns it. -/
def upsert
    (session : Session)
    (documents : List Document)
    (change : FilePath × String) : List Document :=
  if documents.any (fun document => document.path = change.1) then
    setText change.1 change.2 documents
  else
    match ownershipOf library.glob
        (scopeDocumentAssignments session.base session.config) change.1 with
    | .unique assignment =>
        documents ++
          [⟨change.1, change.2, assignment.scope, assignment.kind⟩]
    | _ => documents

/-- The session with a lock that has been read. -/
def withLock
    (session : Session)
    (lock : Option (Option String)) : Session :=
  match lock with
  | some lock => { session with filterMatchLock := lock }
  | none => session

/-- The reload of a session, which keeps nothing when it fails. -/
def reload
    (session : Session)
    (disk : Disk) : Except ProjectError Session := do
  let loaded ←
    loadProject library disk session.base session.excludeRoots
  .ok
    { session with
      config := loaded.config
      resident := some loaded.documents }

/-- A plan applied to the session; a failed reload leaves the session with
its match lock. -/
def apply
    (session : Session)
    (disk : Disk) : BatchPlan → Except (Session × ProjectError) Session
  | .noOp => .ok session
  | .matchLockChanged lock => .ok (session.withLock (some lock))
  | .incremental upserts lock =>
      let session := session.withLock lock
      match session.resident with
      | none =>
          .error (session,
            .project "incremental batch has no resident bowl")
      | some documents =>
          .ok
            { session with
              resident :=
                some (upserts.foldl (session.upsert library) documents) }
  | .fullReload lock =>
      let session := session.withLock lock
      match session.reload library disk with
      | .ok reloaded => .ok reloaded
      | .error error => .error (session, error)

/-- The session after a compile outcome. -/
def record (session : Session) (outcome : Outcome) : Session :=
  let session :=
    match outcome with
    | .success _ matchLock => { session with filterMatchLock := matchLock }
    | .error _ (some matchLock) => { session with filterMatchLock := matchLock }
    | .error _ none => session
  { session with last := some outcome }

/-- The answer to a request, with whether it repeats an earlier outcome. -/
structure Answer where
  response : WireResponse
  replay : Bool
  session : Session

/-- The answer of a load that fails. -/
def loadFailed (error : ProjectError) : WireResponse :=
  .error ⟨.projectLoadFailed error.path, error.message⟩

/-- A plan is applied and compiled to the given outcome. -/
def compileNow
    (session : Session)
    (disk : Disk)
    (attempt : Outcome)
    (plan : BatchPlan) : Answer :=
  match session.apply library disk plan with
  | .error (session, error) =>
      ⟨loadFailed error, false, { session with resident := none }⟩
  | .ok session =>
      ⟨renderOutcome attempt false, false, session.record attempt⟩

/-- Applies a plan and compiles, or replays the last outcome. -/
def compilePlan
    (session : Session)
    (disk : Disk)
    (attempt : Outcome)
    (plan : BatchPlan) : Answer :=
  match plan, session.resident, session.last with
  | .noOp, some _, some outcome => ⟨renderOutcome outcome true, true, session⟩
  | _, _, _ => session.compileNow library disk attempt plan

/-- A batch is classified; a compile forces a full pass. -/
def requestPlan
    (session : Session)
    (disk : Disk) : Request → Except WireError BatchPlan
  | .compile => .ok (.fullReload none)
  | .filesChanged paths => session.classifyBatch library disk paths

/-- A request to a session, with the outcome of the compile that it may
run. -/
def compile
    (session : Session)
    (disk : Disk)
    (request : Request)
    (attempt : Outcome) : Answer :=
  match session.requestPlan library disk request with
  | .error error => ⟨.error error, false, session⟩
  | .ok plan => session.compilePlan library disk attempt plan

end Session

end Daemon

end Dsql
