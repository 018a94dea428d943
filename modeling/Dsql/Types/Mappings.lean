import Dsql.Types.Build
import Mathlib.Tactic

/-!
# Authored type mappings

Project configuration may map a provider type to public scalar semantics.  The
declarations are collected first and then resolved along the domains of the
table, so a domain sees the mapped capabilities of its base before its own
declaration is applied.
-/

namespace Dsql
namespace Types

inductive CatalogTypeWire where
  | uuid | text | timestamptz | integer | bigInteger | numeric | float | boolean
  | json
deriving DecidableEq, Repr

inductive CatalogTypeLiteral where
  | string | number | boolean
deriving DecidableEq, Repr

inductive CatalogTypeOperator where
  | eq | ne | gt | ge | lt | le | like
deriving DecidableEq, Repr

/-- One nominal mapping of the project configuration. -/
structure CatalogTypeConfig where
  pg : String
  name : String
  wire : CatalogTypeWire
  literal : CatalogTypeLiteral
  pattern : Option String
  operators : Option (List CatalogTypeOperator)
  orderable : Option Bool
deriving DecidableEq, Repr

/-- A configuration error; the document is always the project
configuration. -/
structure CatalogTypeError where
  itemPath : String
  message : String
deriving DecidableEq, Repr

def mappingError {α : Type} (index : Nat) (field message : String) :
    Except CatalogTypeError α :=
  .error ⟨"catalog.types[" ++ toString index ++ "]." ++ field, message⟩

def CatalogTypeWire.accepts : CatalogTypeWire → WireEncoding → Bool
  | .uuid, .uuid => true
  | .text, .text => true
  | .text, .textCast => true
  | .timestamptz, .timestamptz => true
  | .integer, .integer => true
  | .bigInteger, .bigInteger => true
  | .numeric, .numeric => true
  | .float, .float => true
  | .boolean, .boolean => true
  | .json, .json => true
  | _, _ => false

def CatalogTypeWire.asStr : CatalogTypeWire → String
  | .uuid => "uuid"
  | .text => "text"
  | .timestamptz => "timestamptz"
  | .integer => "integer"
  | .bigInteger => "big_integer"
  | .numeric => "numeric"
  | .float => "float"
  | .boolean => "boolean"
  | .json => "json"

def wireAsStr : WireEncoding → String
  | .uuid => "uuid"
  | .text => "text"
  | .timestamptz => "timestamptz"
  | .integer => "integer"
  | .bigInteger => "big_integer"
  | .numeric => "numeric"
  | .float => "float"
  | .boolean => "boolean"
  | .json => "json"
  | .textCast => "text_cast"
  | .unsupported => "unsupported"

def CatalogTypeLiteral.accepts : CatalogTypeLiteral → CatalogTypeWire → Bool
  | .string, .uuid => true
  | .string, .text => true
  | .string, .timestamptz => true
  | .string, .bigInteger => true
  | .string, .json => true
  | .number, .integer => true
  | .number, .numeric => true
  | .number, .float => true
  | .boolean, .boolean => true
  | _, _ => false

def CatalogTypeLiteral.asStr : CatalogTypeLiteral → String
  | .string => "string"
  | .number => "number"
  | .boolean => "boolean"

def CatalogTypeLiteral.literalKind : CatalogTypeLiteral → LiteralKind
  | .string => .string
  | .number => .number
  | .boolean => .boolean

def CatalogTypeOperator.asStr : CatalogTypeOperator → String
  | .eq => "eq"
  | .ne => "ne"
  | .gt => "gt"
  | .ge => "ge"
  | .lt => "lt"
  | .le => "le"
  | .like => "like"

def CatalogTypeOperator.comparison : CatalogTypeOperator → ComparisonOp
  | .eq => .eq
  | .ne => .ne
  | .gt => .gt
  | .ge => .ge
  | .lt => .lt
  | .le => .le
  | .like => .like

/-! ## Checking a declaration -/

def nameCharacter (character : Char) : Bool :=
  character.isAlphanum || character == '_'

def lowerAscii (text : String) : List Char :=
  text.toList.map Char.toLower

def collidesWithBuiltin (name : String) : Bool :=
  allDataTypes.any (fun dataType =>
    (TypeCapabilities.builtin dataType).aliases.any (fun known =>
      lowerAscii known == lowerAscii name))

def startsUpper (name : String) : Bool :=
  match name.toList with
  | [] => false
  | first :: rest => first.isUpper && rest.all nameCharacter

def validateName
    (declaration : CatalogTypeConfig)
    (index : Nat) : Except CatalogTypeError Unit :=
  if !startsUpper declaration.name then
    mappingError index "name" "must match `[A-Z][A-Za-z0-9_]*`"
  else if collidesWithBuiltin declaration.name then
    mappingError index "name"
      ("nominal name `" ++ declaration.name ++
        "` collides with a compiler-owned type")
  else
    .ok ()

/-- A qualified provider name: exactly two nonempty parts. -/
def parseProviderKey (raw : String) : Option TypeKey :=
  match raw.toList.splitOn '.' with
  | [schema, name] =>
      if schema.isEmpty || name.isEmpty then
        none
      else
        some ⟨String.ofList schema, String.ofList name⟩
  | _ => none

def typeByKey (types : List CatalogType) (key : TypeKey) : Option Nat :=
  types.findIdx? (fun known => known.key == key)

/-- The native enum a type resolves to; the bound exceeds the height of every
unfolding of the table. -/
def resolvedEnum (types : List CatalogType) (id : Nat) : Option (TypeId × CatalogEnum) :=
  (enumTypeForType types (types.length + 1) ⟨id⟩).join

theorem resolvedEnum_of_unfolds
    {types : List CatalogType}
    {id : Nat}
    {tree : TypeTree}
    (h : Unfolds types ⟨id⟩ tree) :
    resolvedEnum types id = tree.enumType := by
  have hfuel : tree.height < types.length + 1 :=
    Nat.lt_succ_of_lt h.height_lt_length
  rw [resolvedEnum, enumTypeForType_of_unfolds h hfuel]
  rfl

def typeKeyAt (types : List CatalogType) (id : Nat) : TypeKey :=
  match types[id]? with
  | none => ⟨"", ""⟩
  | some known => known.key

def isArrayShape (types : List CatalogType) (id : Nat) : Bool :=
  match types[id]? with
  | none => false
  | some known =>
      match known.shape with
      | .array _ => true
      | .scalar => false
      | .enum => false
      | .domain _ => false

/-- The provider type that a declaration maps. -/
def resolveTarget
    (types : List CatalogType)
    (declaration : CatalogTypeConfig)
    (index : Nat) : Except CatalogTypeError Nat :=
  match parseProviderKey declaration.pg with
  | none => mappingError index "pg" "must be exactly `schema.type`"
  | some key =>
      match typeByKey types key with
      | none =>
          mappingError index "pg"
            ("provider type `" ++ declaration.pg ++ "` was not found")
      | some id =>
          if isArrayShape types id then
            mappingError index "pg"
              "array types inherit their element mapping and cannot be declared directly"
          else
            match resolvedEnum types id with
            | some found =>
                mappingError index "pg"
                  ("provider type `" ++ declaration.pg ++
                    "` resolves to native enum `" ++
                    (typeKeyAt types found.1.index).schema ++ "." ++
                    (typeKeyAt types found.1.index).name ++
                    "`; native enums cannot be declared through catalog.types")
            | none => .ok id

/-! ## Collecting declarations -/

structure Mapping where
  id : Nat
  index : Nat
  config : CatalogTypeConfig
deriving DecidableEq, Repr

structure Collected where
  names : List (String × Nat)
  mappings : List Mapping

section Apply

variable (validatePortablePattern : String → Except String Unit)

def validatePattern
    (declaration : CatalogTypeConfig)
    (index : Nat) : Except CatalogTypeError Unit :=
  match declaration.pattern with
  | none => .ok ()
  | some pattern =>
      match validatePortablePattern pattern with
      | .ok _ => .ok ()
      | .error message => mappingError index "pattern" message

def claimName
    (collected : Collected)
    (name : String)
    (index : Nat) : Except CatalogTypeError Collected :=
  match collected.names.find? (fun known => known.1 == name) with
  | some known =>
      mappingError index "name"
        ("nominal name `" ++ name ++ "` is also declared by catalog.types[" ++
          toString known.2 ++ "]")
  | none => .ok { collected with names := (name, index) :: collected.names }

def claimTarget
    (collected : Collected)
    (id index : Nat)
    (declaration : CatalogTypeConfig) : Except CatalogTypeError Collected :=
  match collected.mappings.find? (fun known => known.id == id) with
  | some known =>
      mappingError index "pg"
        ("provider type `" ++ declaration.pg ++
          "` is already declared by catalog.types[" ++ toString known.index ++ "]")
  | none =>
      .ok { collected with mappings := ⟨id, index, declaration⟩ :: collected.mappings }

def collectDeclaration
    (types : List CatalogType)
    (collected : Collected)
    (entry : CatalogTypeConfig × Nat) : Except CatalogTypeError Collected := do
  validateName entry.1 entry.2
  validatePattern validatePortablePattern entry.1 entry.2
  let collected ← claimName collected entry.1.name entry.2
  let id ← resolveTarget types entry.1 entry.2
  claimTarget collected id entry.2 entry.1

/-! ## Resolving capabilities -/

/-- Checks requested operators after those already accepted. -/
def requestOperators
    (capabilities : TypeCapabilities)
    (index : Nat) :
    List ComparisonOp → List CatalogTypeOperator →
      Except CatalogTypeError (List ComparisonOp)
  | requested, [] => .ok requested
  | requested, configured :: rest =>
      if requested.contains configured.comparison then
        mappingError index "operators"
          ("operator `" ++ configured.asStr ++ "` is duplicated")
      else if !capabilities.supports configured.comparison then
        mappingError index "operators"
          ("provider type does not support operator `" ++ configured.asStr ++ "`")
      else
        requestOperators capabilities index (requested ++ [configured.comparison])
          rest

/-- The operators a declaration asks for, when it lists any. -/
def requestedOperators
    (capabilities : TypeCapabilities)
    (mapping : Mapping) : Except CatalogTypeError (Option (List ComparisonOp)) :=
  match mapping.config.operators with
  | none => .ok none
  | some operators => do
      let requested ← requestOperators capabilities mapping.index [] operators
      .ok (some requested)

def applyMapping
    (capabilities : TypeCapabilities)
    (mapping : Mapping) : Except CatalogTypeError TypeCapabilities :=
  let declaration := mapping.config
  if !declaration.wire.accepts capabilities.wire then
    mappingError mapping.index "wire"
      ("wire `" ++ declaration.wire.asStr ++
        "` is incompatible with provider encoding `" ++
        wireAsStr capabilities.wire ++ "`")
  else if !declaration.literal.accepts declaration.wire then
    mappingError mapping.index "literal"
      ("literal `" ++ declaration.literal.asStr ++
        "` is incompatible with wire `" ++ declaration.wire.asStr ++ "`")
  else if declaration.pattern.isSome &&
      (declaration.wire != .text || declaration.literal != .string) then
    mappingError mapping.index "pattern"
      "patterns require `wire = \"text\"` and `literal = \"string\"`"
  else if declaration.orderable = some true then
    mappingError mapping.index "orderable" "may only be omitted or set to false"
  else do
    let operators ← requestedOperators capabilities mapping
    .ok (capabilities.applyMapping declaration.name declaration.literal.literalKind
      declaration.pattern operators declaration.orderable)

def cyclicError : CatalogTypeError :=
  ⟨"catalog.types", "catalog type structure is cyclic"⟩

def planCapabilities
    (types : List CatalogType)
    (index : Nat) : Except CatalogTypeError (Option Nat) :=
  match types[index]? with
  | none =>
      .error ⟨"catalog.types",
        "catalog type index " ++ toString index ++ " is missing"⟩
  | some known =>
      match known.shape with
      | .domain base => .ok (some base.index)
      | .scalar => .ok none
      | .array _ => .ok none
      | .enum => .ok none

def inheritFrom
    (capabilities : TypeCapabilities) : Option TypeCapabilities → TypeCapabilities
  | none => capabilities
  | some base => capabilities.inheritMappedDomain base

def buildCapabilities
    (types : List CatalogType)
    (mappings : List Mapping)
    (index : Nat)
    (base : Option TypeCapabilities) : Except CatalogTypeError TypeCapabilities :=
  match types[index]? with
  | none =>
      .error ⟨"catalog.types",
        "catalog type index " ++ toString index ++ " is missing"⟩
  | some known =>
      let capabilities := inheritFrom known.capabilities base
      match mappings.find? (fun mapping => mapping.id == index) with
      | none => .ok capabilities
      | some mapping => applyMapping capabilities mapping

def capabilityResolver
    (types : List CatalogType)
    (mappings : List Mapping) : Resolver CatalogTypeError TypeCapabilities where
  size := types.length
  plan := planCapabilities types
  build := buildCapabilities types mappings
  cyclic _ := cyclicError
  invalid index :=
    ⟨"catalog.types", "catalog type index " ++ toString index ++ " is invalid"⟩

/-- Writes the resolved capabilities back into the table. -/
def setCapabilities
    (entry : CatalogType × Mark TypeCapabilities)
    (index : Nat) : Except CatalogTypeError CatalogType :=
  match entry.2.value? with
  | none =>
      .error ⟨"catalog.types",
        "catalog type at index " ++ toString index ++ " did not resolve"⟩
  | some capabilities => .ok { entry.1 with capabilities := capabilities }

def applyCatalogTypes
    (types : List CatalogType)
    (declarations : List CatalogTypeConfig) :
    Except CatalogTypeError (List CatalogType) := do
  let collected ←
    declarations.zipIdx.foldlM
      (collectDeclaration validatePortablePattern types) ⟨[], []⟩
  let marks ← (capabilityResolver types collected.mappings).resolveAll
  (types.zip marks).zipIdx.mapM (fun entry => setCapabilities entry.1 entry.2)

end Apply

end Types
end Dsql
