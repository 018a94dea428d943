import Dsql.Render.Paths

/-!
# Reconciling renderer output

The desired files are written by their paths, which follows symbolic links.
Then every owned root is walked without following links, and what is not a
desired path is removed.  A run keeps the file system it has reached when it
stops with a failure.
-/

namespace Dsql
namespace Render

open LinkedFiles

abbrev Files : Type := LinkedFiles ByteArray

abbrev Disk : Type → Type := EStateM Failure Files

/-- An operation of the system that changes the file system or fails. -/
def change (operation : Files → Option Files) : Disk Unit := fun files =>
  match operation files with
  | none => .error .disk files
  | some after => .ok () after

structure DesiredFile where
  path : String
  contents : String

structure Options where
  /-- The project base with its own `.` and `..` resolved. -/
  projectBase : Location
  ownedRoots : List String
  files : List DesiredFile

/-- The place of a path below the project base. -/
def resolvePath (projectBase : Location) (path : List Char) : Location :=
  projectBase ++ segments path

/-- A key of a map gets a value at its first place. -/
def setEntry
    {K V : Type}
    [DecidableEq K]
    (key : K)
    (value : V) : List (K × V) → List (K × V)
  | [] => [(key, value)]
  | entry :: rest =>
      if entry.1 = key then
        (key, value) :: rest
      else
        entry :: setEntry key value rest

/-- A map of entries: the last value of a key at the place of its first. -/
def mapOf {K V : Type} [DecidableEq K] (entries : List (K × V)) :
    List (K × V) :=
  entries.foldl (fun map entry => setEntry entry.1 entry.2 map) []

def validatedRoots (options : Options) : Except Failure (List (List Char)) :=
  (options.ownedRoots.mapM (fun root =>
    assertProjectRelativePath "owned root" root.toList)).map List.eraseDups

def validatedFile
    (options : Options)
    (ownedRoots : List (List Char))
    (file : DesiredFile) : Except Failure (Location × String) := do
  let path ← assertProjectRelativePath "file" file.path.toList
  if isUnderAny path ownedRoots then
    .ok (resolvePath options.projectBase path, file.contents)
  else
    .error (.outsideRoots (String.ofList path))

/-- The owned roots and the desired files, by their places. -/
structure Desired where
  roots : List Location
  files : List (Location × String)

def validated (options : Options) : Except Failure Desired := do
  let ownedRoots ← validatedRoots options
  let files ← options.files.mapM (validatedFile options ownedRoots)
  .ok ⟨ownedRoots.map (resolvePath options.projectBase), mapOf files⟩

section Reconcile

/- `limit` is the number of links the system follows on one path, and
`decode` reads bytes as UTF-8 text. -/
variable (limit : Nat) (decode : ByteArray → String)

/-- Every directory on the way to a path is there afterwards. -/
def makeDirectories (path : Location) : Disk Unit :=
  path.inits.forM (fun front => do
    let files ← get
    match files.stat limit front with
    | some (_, .directory) => pure ()
    | some _ => throw .disk
    | none => change (makeDirectory limit front))

def writeFileIfChanged (path : Location) (contents : String) : Disk Unit := do
  let files ← get
  let current ←
    (match files.stat limit path with
    | none => pure false
    | some (_, .file bytes) => pure (decode bytes == contents)
    | some _ => throw .disk)
  if current then
    pure ()
  else
    makeDirectories limit path.dropLast
    change (writeFile limit path contents.toUTF8)

def listDirectory (path : Location) : Disk (List (String × Bool)) := do
  let files ← get
  match readDirectory limit path files with
  | none => throw .disk
  | some names => pure names

/-- What is below a directory and not retained is removed, and directories
that are empty then.  `depth` bounds how deep the walk goes. -/
def reconcileOwnedDirectory
    (retainedFiles : List Location) : Nat → Location → Disk Unit
  | 0, _ => throw .tooDeep
  | depth + 1, directory => do
      let files ← get
      if (files.stat limit directory).isNone then
        pure ()
      else
        match files.lstat limit directory with
        | some (_, .directory) => do
            let entries ← listDirectory limit directory
            entries.forM (fun entry => do
              let path := directory ++ [entry.1]
              if entry.2 then
                reconcileOwnedDirectory retainedFiles depth path
                let rest ← listDirectory limit path
                if rest.isEmpty then
                  change (removeDirectory limit path)
                else
                  pure ()
              else if retainedFiles.contains path then
                pure ()
              else
                change (removeFile limit path))
        | _ => throw (.rootNotDirectory directory)

/-- No entry lies deeper than this. -/
def height (files : Files) : Nat :=
  (files.store.paths.map List.length).foldr max 0

def reconcileRoot (retainedFiles : List Location) (root : Location) :
    Disk Unit := do
  let files ← get
  reconcileOwnedDirectory limit retainedFiles (height files + 1) root

def reconcileDsqlOutputs (options : Options) : Disk Unit := do
  let desired ← (match validated options with
    | .error failure => throw failure
    | .ok desired => pure desired)
  desired.files.forM (fun file => writeFileIfChanged limit decode file.1 file.2)
  desired.roots.forM (reconcileRoot limit (desired.files.map Prod.fst))

end Reconcile

end Render
end Dsql
