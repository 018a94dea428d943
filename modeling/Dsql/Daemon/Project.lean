import Dsql.Logic.FileTree
import Dsql.Logic.Text
import Mathlib.Data.List.Dedup

/-!
# Projects on disk

Paths, the configured document groups of a project and which scope owns a path.
A path is the list of the segments between the slashes of its absolute text, so
two texts of one path differ as lists; `components` forgets the difference.
Pattern matching is the one of the glob crate.
-/

namespace Dsql

/-- The segments of an absolute path text after its first slash. -/
abbrev FilePath : Type := List String

/-- What a file holds: a text, bytes that are no text, or nothing that can be
read. -/
inductive FileContent where
  | text (value : String)
  | binary (identity : Nat)
  | unreadable
deriving DecidableEq, Repr

/-- The text of a file that can be read as text. -/
def FileContent.asText : FileContent → Option String
  | .text value => some value
  | _ => none

/-- A segment that names an entry of a directory. -/
def IsName (segment : String) : Prop :=
  segment ≠ "" ∧ segment ≠ "." ∧ segment ≠ ".."

/-- A file system whose entries have names. -/
structure Disk where
  tree : FileTree FileContent
  named : ∀ path found, tree.lookup path = some found →
    ∀ segment ∈ path, IsName segment

namespace Daemon

/-- Empty segments and dots do not count when paths are compared. -/
def components (path : FilePath) : FilePath :=
  path.filter (fun segment => segment ≠ "" && segment ≠ ".")

/-- Paths are compared by their components. -/
def startsWith (path start : FilePath) : Bool :=
  (components start).isPrefixOf (components path)

/-- The entry that the operating system finds: every segment is looked up in a
directory. -/
def resolve (disk : Disk) : TreePath → FilePath → Option TreePath
  | current, [] => some current
  | current, segment :: rest =>
      if disk.tree.isDirectoryAt current then
        if segment = "" ∨ segment = "." then
          resolve disk current rest
        else if segment = ".." then
          resolve disk current.dropLast rest
        else
          resolve disk (current ++ [segment]) rest
      else
        none

/-- What stands at a path, behind all links. -/
def metadata (disk : Disk) (path : FilePath) :
    Option (FileTree FileContent) :=
  (resolve disk [] path).bind (fun found => disk.tree.lookup found)

/-- A configured path below the project base; an absolute one replaces it. -/
def joinPath (base : FilePath) (text : String) : FilePath :=
  match Text.dropPrefix "/" text with
  | some rest => Text.split '/' rest
  | none => base ++ Text.split '/' text

/-! ## Configuration -/

/-- How the source of a document is read. -/
inductive SourceKind where
  | dsql
  | embedded (resolver : String)
deriving DecidableEq, Repr

/-- The kind that a resolver name stands for. -/
def SourceKind.fromResolver (resolver : String) : SourceKind :=
  if resolver = "dsql" then .dsql else .embedded resolver

/-- Patterns of documents with their resolver. -/
structure DocumentConfig where
  resolver : String
  paths : List String

/-- A directory below the project base that holds generated files, normalized
to the names on the way to it. -/
abbrev ReservedRoot : Type := List String

/-- What the configuration says of documents and outputs. -/
structure Config where
  documents : List DocumentConfig
  resolution : List (String × List DocumentConfig)
  /-- Generator outputs as the segments of their texts; loading the project
  normalizes them. -/
  outputs : List ReservedRoot

namespace Config

/-- Without any documents the project directory is searched. -/
def usesImplicitDocuments (config : Config) : Bool :=
  config.resolution.isEmpty && config.documents.isEmpty

/-- The effective document groups; named scopes take precedence. -/
def documentScopes (config : Config) : List (String × List DocumentConfig) :=
  if config.resolution.isEmpty then
    [("default", config.documents)]
  else
    config.resolution

end Config

/-- The glob crate: a pattern that parses is a matcher of paths. -/
structure GlobLibrary where
  compile : FilePath → Option (FilePath → Bool)

/-- The segment holds a wildcard. -/
def hasWildcard (segment : String) : Bool :=
  segment.toList.any (fun char => char = '*' || char = '?' || char = '[')

/-- Some segment holds a wildcard. -/
def isPattern (path : FilePath) : Bool :=
  path.any hasWildcard

/-- The literal components in front of the first wildcard. -/
def staticPrefix (path : FilePath) : FilePath :=
  (components path).takeWhile (fun segment => !hasWildcard segment)

/-- Whether a configured path covers a path, without a look at the disk. -/
def configuredPathMatches
    (glob : GlobLibrary)
    (configured path : FilePath) : Bool :=
  if isPattern configured then
    (glob.compile configured).any (fun isMatch => isMatch path)
  else
    startsWith path configured

/-! ## Ownership -/

/-- Patterns of a scope with the kind of their documents. -/
structure ScopeDocument where
  kind : SourceKind
  paths : List FilePath

/-- The scope and the kind that a pattern gives a document. -/
structure SourceAssignment where
  scope : String
  kind : SourceKind
deriving DecidableEq, Repr

/-- Which scopes claim a path. -/
inductive ScopeOwnership where
  | implicitDefault
  | unique (assignment : SourceAssignment)
  | unmatched
  | ambiguous (assignments : List SourceAssignment)
deriving DecidableEq, Repr

/-- The assignments whose paths cover a path, one for each group. -/
def coveringAssignments
    (glob : GlobLibrary)
    (documents : List (String × List ScopeDocument))
    (path : FilePath) : List SourceAssignment :=
  documents.flatMap (fun scope =>
    (scope.2.filter (fun document =>
      document.paths.any (fun configured =>
        configuredPathMatches glob configured path))).map
          (fun document => ⟨scope.1, document.kind⟩))

/-- The scopes whose patterns match a path. -/
def ownershipOf
    (glob : GlobLibrary)
    (documents : List (String × List ScopeDocument))
    (path : FilePath) : ScopeOwnership :=
  if documents.isEmpty then
    .implicitDefault
  else
    match (coveringAssignments glob documents path).dedup with
    | [] => .unmatched
    | [assignment] => .unique assignment
    | assignments => .ambiguous assignments

/-- The directory of the project's own documents. -/
def projectRoot (base : FilePath) : FilePath :=
  base ++ ["dsql"]

/-- The pattern of a project without configured documents. -/
def implicitPattern (base : FilePath) : FilePath :=
  projectRoot base ++ ["**", "*.dsql"]

/-- The document groups with their paths below the project base. -/
def scopeDocumentAssignments
    (base : FilePath)
    (config : Config) : List (String × List ScopeDocument) :=
  if config.usesImplicitDocuments then
    [("default", [⟨.dsql, [implicitPattern base]⟩])]
  else
    config.documentScopes.map (fun scope =>
      (scope.1, scope.2.map (fun document =>
        ⟨.fromResolver document.resolver, document.paths.map (joinPath base)⟩)))

/-! ## Reserved roots -/

/-- A normalized root is disjoint from the directory of the project. -/
def isOutsideProject (root : ReservedRoot) : Bool :=
  [["dsql", "dsql.toml"], ["dsql"]].all (fun reserved =>
    !root.isPrefixOf reserved && !reserved.isPrefixOf root)

/-- A normalized root contains no configured document root. -/
def holdsNoDocuments (config : Config) (root : ReservedRoot) : Bool :=
  config.documentScopes.all (fun scope =>
    scope.2.all (fun document =>
      document.paths.all (fun configured =>
        let start := (Text.split '/' configured).takeWhile
          (fun segment => !hasWildcard segment)
        !(start ≠ [] && start ≠ [""] && root.isPrefixOf start))))

/-- Whether a normalized root may be reserved. -/
def isReservable (config : Config) (root : ReservedRoot) : Bool :=
  isOutsideProject root && holdsNoDocuments config root

/-- The directories that hold no documents. -/
def reservedPaths
    (base : FilePath)
    (config : Config)
    (excludeRoots : List ReservedRoot) : List FilePath :=
  (projectRoot base ++ ["build"]) ::
    (config.outputs ++ excludeRoots).map (fun root => base ++ root)

/-- The path lies within a reserved root. -/
def isReservedPath (reserved : List FilePath) (path : FilePath) : Bool :=
  reserved.any (startsWith path)

end Daemon

end Dsql
