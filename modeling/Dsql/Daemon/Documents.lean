import Dsql.Daemon.Project

/-!
# Loading documents

The full load of a project: every document of every scope with its text.  The
configuration and the catalog are read by other parts of the project, which are
the fields of `ProjectLibrary`.
-/

namespace Dsql

/-- A source that is resident in the daemon. -/
structure Document where
  path : FilePath
  text : String
  scope : String
  kind : Daemon.SourceKind
deriving DecidableEq, Repr

/-- Failures of loading a project. -/
inductive ProjectError where
  | read (path : FilePath)
  | parse (path : FilePath)
  | duplicateDocumentAssignment
      (path : FilePath)
      (first second : Daemon.SourceAssignment)
  | invalidGeneratorOutput (output : List String) (problem : String)
  /-- Any other failure to read the configuration or the catalog. -/
  | project (message : String)

namespace Daemon

/-- An absolute path as text. -/
def pathText (path : FilePath) : String :=
  "/" ++ String.intercalate "/" path

/-- The resolver name of a kind. -/
def SourceKind.resolver : SourceKind → String
  | .dsql => "dsql"
  | .embedded resolver => resolver

end Daemon

namespace ProjectError

/-- The file that an error is about. -/
def path : ProjectError → Option FilePath
  | .read path | .parse path => some path
  | _ => none

/-- The text of a failure. -/
def message : ProjectError → String
  | .read path => "failed to read " ++ Daemon.pathText path
  | .parse path =>
      "failed to parse " ++ Daemon.pathText path ++
        ": invalid document pattern"
  | .duplicateDocumentAssignment path first second =>
      "document " ++ Daemon.pathText path ++ " is assigned to resolver `" ++
        first.kind.resolver ++ "` in scope `" ++ first.scope ++
        "` and resolver `" ++ second.kind.resolver ++ "` in scope `" ++
        second.scope ++ "`"
  | .invalidGeneratorOutput output problem =>
      "generator output `" ++ String.intercalate "/" output ++ "` " ++ problem
  | .project message => message

end ProjectError

/-- What the daemon calls from other parts and other crates. -/
structure ProjectLibrary where
  glob : Daemon.GlobLibrary
  /-- The configuration of the project at a base, as it is written. -/
  readConfig : Disk → FilePath → Except ProjectError Daemon.Config
  loadCatalog : Disk → FilePath → Daemon.Config → Except ProjectError Unit
  extractionRegistry : Daemon.Config → Except ProjectError Unit
  contentHash : String → Nat
  /-- The digest of the bytes of a file. -/
  digest : FileContent → String

namespace Daemon

/-- What follows the last dot of a name that does not only start with one. -/
def extension (name : String) : Option String :=
  match Text.split '.' name with
  | [_] => none
  | ["", _] => none
  | parts => parts.getLast?

/-- The file is a document by its extension. -/
def hasDsqlExtension (path : FilePath) : Bool :=
  path.getLast?.bind extension = some "dsql"

/-- A directory is listed under its text without one trailing slash. -/
def listedPath (path : FilePath) : FilePath :=
  if path.getLast? = some "" then path.dropLast else path

/-- A failed read of a tree, as a failure of the project. -/
def readError {α : Type} (result : Except TreePath α) :
    Except ProjectError α :=
  result.mapError ProjectError.read

/-- The files below a directory; reserved directories are not scanned. -/
def collectDir
    (disk : Disk)
    (dsqlOnly : Bool)
    (reserved : List FilePath)
    (path : FilePath) : Except ProjectError (List FilePath) :=
  match metadata disk path with
  | some (.directory listable names entry) =>
      readError (FileTree.walk
        (fun path => !isReservedPath reserved path)
        (fun path => !dsqlOnly || hasDsqlExtension path)
        (listedPath path) (.directory listable names entry))
  | _ => .ok []

/-- The files that a pattern matches below its literal prefix. -/
def collectPattern
    (disk : Disk)
    (reserved : List FilePath)
    (isMatch : FilePath → Bool)
    (start : FilePath) : Except ProjectError (List FilePath) :=
  match metadata disk start with
  | none => .ok []
  | some tree =>
      readError (FileTree.walk
        (fun path => !isReservedPath reserved path)
        (fun path => !isReservedPath reserved path && isMatch path)
        start tree)

/-- The files of one configured path: a pattern, a file or a directory. -/
def collectConfiguredPath
    (glob : GlobLibrary)
    (disk : Disk)
    (reserved : List FilePath)
    (path : FilePath) : Except ProjectError (List FilePath) :=
  if isPattern path then
    match glob.compile path with
    | none => .error (.parse path)
    | some isMatch => collectPattern disk reserved isMatch (staticPrefix path)
  else
    match metadata disk path with
    | some (.file _) => .ok [path]
    | _ => collectDir disk false reserved path

/-- A discovered source with its assignment. -/
structure OwnedSource where
  path : FilePath
  assignment : SourceAssignment

/-- The first of the paths with the same components. -/
def distinctPaths : List FilePath → List FilePath
  | [] => []
  | path :: rest =>
      path :: (distinctPaths rest).filter (fun other =>
        components other ≠ components path)

/-- The files of a group after the sources so far; a file with two
assignments is an error. -/
def assignFiles
    (assignment : SourceAssignment) :
    List FilePath → List OwnedSource → Except ProjectError (List OwnedSource)
  | [], owned => .ok owned
  | path :: rest, owned =>
      match owned.find? (fun source =>
          components source.path = components path) with
      | some first =>
          .error (.duplicateDocumentAssignment path first.assignment assignment)
      | none => assignFiles assignment rest (owned ++ [⟨path, assignment⟩])

/-- The files that the patterns of a group match. -/
def collectDocumentGroup
    (glob : GlobLibrary)
    (disk : Disk)
    (base : FilePath)
    (reserved : List FilePath)
    (scope : String)
    (document : DocumentConfig)
    (owned : List OwnedSource) : Except ProjectError (List OwnedSource) := do
  let files ← document.paths.mapM (fun configured =>
    collectConfiguredPath glob disk reserved (joinPath base configured))
  assignFiles ⟨scope, .fromResolver document.resolver⟩
    ((distinctPaths files.flatten).filter (fun path =>
      !isReservedPath reserved path)) owned

/-- The groups of one scope or of all scopes, one after the other. -/
def collectDocumentGroups
    (glob : GlobLibrary)
    (disk : Disk)
    (base : FilePath)
    (reserved : List FilePath) :
    List (String × DocumentConfig) → List OwnedSource →
      Except ProjectError (List OwnedSource)
  | [], owned => .ok owned
  | (scope, document) :: rest, owned => do
      let owned ←
        collectDocumentGroup glob disk base reserved scope document owned
      collectDocumentGroups glob disk base reserved rest owned

/-- The groups of the configuration with their scopes. -/
def configuredGroups (config : Config) : List (String × DocumentConfig) :=
  config.documentScopes.flatMap (fun scope =>
    scope.2.map (fun document => (scope.1, document)))

/-- Every source of a project with its assignment. -/
def ownedSources
    (glob : GlobLibrary)
    (disk : Disk)
    (base : FilePath)
    (config : Config)
    (reserved : List FilePath) : Except ProjectError (List OwnedSource) :=
  if config.usesImplicitDocuments then do
    let files ← collectDir disk true reserved (projectRoot base)
    .ok ((distinctPaths files).map (fun path => ⟨path, ⟨"default", .dsql⟩⟩))
  else
    collectDocumentGroups glob disk base reserved (configuredGroups config) []

/-- Reads the file of a document. -/
def readDocument
    (disk : Disk)
    (source : OwnedSource) : Except ProjectError Document :=
  match (metadata disk source.path).bind FileTree.asFile with
  | some (.text text) =>
      .ok ⟨source.path, text, source.assignment.scope, source.assignment.kind⟩
  | _ => .error (.read source.path)

/-- Every document with its owning scope; reserved roots hold none. -/
def loadProjectDocuments
    (glob : GlobLibrary)
    (disk : Disk)
    (base : FilePath)
    (config : Config)
    (excludeRoots : List ReservedRoot) :
    Except ProjectError (List Document) := do
  let owned ← ownedSources glob disk base config
    (reservedPaths base config excludeRoots)
  owned.mapM (readDocument disk)

/-- A reserved root is a directory below the project base; the segments that
remain name it.  An absolute root is refused before its segments are
normalized. -/
def validateReservedRoot
    (config : Config)
    (output : List String) : Except ProjectError ReservedRoot :=
  let reject (problem : String) : Except ProjectError ReservedRoot :=
    .error (.invalidGeneratorOutput output problem)
  let normalized := components output
  if output.head? = some "" then
    reject "must be a project-base-relative directory"
  else if output.contains ".." then
    reject "must not traverse out of the project"
  else if normalized.isEmpty then
    reject "must not be the project base itself"
  else if !isOutsideProject normalized then
    reject "must be disjoint from the project's own dsql/ tree"
  else if !holdsNoDocuments config normalized then
    reject "must not contain a configured document root"
  else
    .ok normalized

/-- What a valid root is and is not. -/
theorem validateReservedRoot_eq_ok
    {config : Config}
    {output : List String}
    {root : ReservedRoot}
    (h : validateReservedRoot config output = .ok root) :
    root = components output ∧ output.contains ".." = false ∧
      isReservable config (components output) = true := by
  unfold validateReservedRoot at h
  simp only at h
  split at h
  · cases h
  · split at h
    · cases h
    · next hdots =>
        split at h
        · cases h
        · split at h
          · cases h
          · next hproject =>
              split at h
              · cases h
              · next hdocuments =>
                  cases h
                  simp only [Bool.not_eq_true', Bool.not_eq_false]
                    at hproject hdocuments
                  unfold isReservable
                  exact ⟨rfl, Bool.eq_false_of_not_eq_true hdots,
                    Bool.and_eq_true_iff.mpr ⟨hproject, hdocuments⟩⟩

/-- The configuration with its outputs validated. -/
def loadConfig
    (library : ProjectLibrary)
    (disk : Disk)
    (base : FilePath) : Except ProjectError Config := do
  let config ← library.readConfig disk base
  let outputs ← config.outputs.mapM (validateReservedRoot config)
  .ok { config with outputs := outputs }

/-- A project with its documents. -/
structure LoadedProject where
  config : Config
  documents : List Document

/-- The full load of the project at a base.  Consumer exclusions must be valid
against the loaded configuration too. -/
def loadProject
    (library : ProjectLibrary)
    (disk : Disk)
    (base : FilePath)
    (excludeRoots : List ReservedRoot) :
    Except ProjectError LoadedProject := do
  let config ← loadConfig library disk base
  let _ ← excludeRoots.mapM (validateReservedRoot config)
  library.loadCatalog disk base config
  let documents ←
    loadProjectDocuments library.glob disk base config excludeRoots
  library.extractionRegistry config
  .ok ⟨config, documents⟩

end Daemon

end Dsql
