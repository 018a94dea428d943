import Dsql.Logic.Fallible
import Dsql.Logic.Resolver
import Dsql.Logic.Text
import Dsql.Types.Shapes
import Mathlib.Tactic

/-!
# Building the type table from provider metadata

Every metadata type is resolved once.  Resolution of a domain or an array
first resolves the type it refers to, and a reference to a type in progress is
reported as a cycle.
-/

namespace Dsql
namespace Types

inductive TypeStructureKind where
  | scalar | domain | array | enum
deriving DecidableEq, Repr

def TypeStructureKind.asRef : TypeStructureKind → String
  | .scalar => "scalar"
  | .domain => "domain"
  | .array => "array"
  | .enum => "enum"

structure TypeStructureMetadata where
  kind : TypeStructureKind
  relatedType : Option TypeKey
  enumeration : Option CatalogEnum
deriving DecidableEq, Repr

structure TypeMetadata where
  internalType : String
  readableType : String
  schema : String
  structured : TypeStructureMetadata
  provider : Option ProviderTypeFacts
  operations : List String
deriving DecidableEq, Repr

def TypeMetadata.key (metadata : TypeMetadata) : TypeKey :=
  ⟨metadata.schema, metadata.internalType⟩

structure ColumnMetadata where
  name : String
  providerType : TypeKey
  dataType : DataType
deriving DecidableEq, Repr

structure TableMetadata where
  schema : String
  name : String
  columns : List ColumnMetadata
deriving DecidableEq, Repr

structure SchemaMetadata where
  name : String
  tables : List TableMetadata
deriving DecidableEq, Repr

structure DatabaseMetadata where
  schemas : List SchemaMetadata
  types : List TypeMetadata
deriving DecidableEq, Repr

inductive CatalogBuildError where
  | duplicateType (schema name : String)
  | conflictingFixtureType (schema name first second : String)
  | missingType (schema table column typeSchema typeName : String)
  | typeMismatch (schema table column typeSchema typeName declared resolved : String)
  | missingRelatedType (schema name relation targetSchema targetName : String)
  | invalidTypeStructure (schema name message : String)
  | staleNativeEnum (schema name : String)
  | cyclicTypeStructure (schema name : String)
deriving DecidableEq, Repr

def invalidTypeStructure {α : Type} (key : TypeKey) (message : String) :
    Except CatalogBuildError α :=
  .error (.invalidTypeStructure key.schema key.name message)

def effectiveTableSchema (schema : SchemaMetadata) (table : TableMetadata) : String :=
  if table.schema.isEmpty then schema.name else table.schema

/-! ## Resolving one type -/

section Resolution

variable (metadata : List TypeMetadata)

def typeIdOf (key : TypeKey) : Option Nat :=
  metadata.findIdx? (fun definition => definition.key == key)

/-- The type that a domain or an array refers to. -/
def relatedTypeId
    (definition : TypeMetadata)
    (relation : String) : Except CatalogBuildError Nat :=
  match definition.structured.relatedType with
  | none =>
      invalidTypeStructure definition.key
        ("a " ++ definition.structured.kind.asRef ++ " type requires a related type")
  | some related =>
      match typeIdOf metadata related with
      | none =>
          .error (.missingRelatedType definition.key.schema definition.key.name
            relation related.schema related.name)
      | some id => .ok id

def nativeEnumProvider (definition : TypeMetadata) : Option ProviderTypeFacts :=
  definition.provider.filter (fun provider => provider.kind == "e")

/-- What is checked before the related type is resolved. -/
def planType (index : Nat) : Except CatalogBuildError (Option Nat) :=
  match metadata[index]? with
  | none => .ok none
  | some definition =>
      if (nativeEnumProvider definition).isSome &&
          definition.structured.kind != .enum then
        .error (.staleNativeEnum definition.key.schema definition.key.name)
      else
        match definition.structured.kind with
        | .scalar => .ok none
        | .enum => .ok none
        | .domain =>
            if definition.structured.enumeration.isSome then
              invalidTypeStructure definition.key
                "a domain type cannot carry enum metadata"
            else do
              let base ← relatedTypeId metadata definition "base"
              .ok (some base)
        | .array =>
            if definition.structured.enumeration.isSome then
              invalidTypeStructure definition.key
                "an array type cannot carry enum metadata"
            else do
              let element ← relatedTypeId metadata definition "element"
              .ok (some element)

def buildScalar (definition : TypeMetadata) : Except CatalogBuildError CatalogType :=
  if definition.structured.relatedType.isSome then
    invalidTypeStructure definition.key
      "a scalar type cannot reference a related type"
  else if definition.structured.enumeration.isSome then
    invalidTypeStructure definition.key "a scalar type cannot carry enum metadata"
  else
    let dataType := dataTypeFromDatabaseName definition.internalType
    .ok
      { key := definition.key
        dataType := dataType
        shape := .scalar
        enumeration := none
        readableType := definition.readableType
        provider := definition.provider
        capabilities :=
          match definition.provider with
          | none => .builtin dataType
          | some provider =>
              .provider dataType definition.readableType provider
                definition.operations }

/-- Checks the variants after those already seen. -/
def checkVariants
    (key : TypeKey) :
    List String → List String → List CatalogEnumVariant →
      Except CatalogBuildError Unit
  | _, _, [] => .ok ()
  | variants, values, variant :: rest =>
      if variants.contains variant.variant then
        invalidTypeStructure key
          ("duplicate enum variant " ++ Text.debugText variant.variant)
      else if values.contains variant.databaseValue then
        invalidTypeStructure key
          ("duplicate enum database value " ++ Text.debugText variant.databaseValue)
      else if variant.variant ≠ variant.databaseValue then
        invalidTypeStructure key
          "native enum variants must equal their database values"
      else
        checkVariants key (variant.variant :: variants)
          (variant.databaseValue :: values) rest

def buildEnum (definition : TypeMetadata) : Except CatalogBuildError CatalogType :=
  if definition.structured.relatedType.isSome then
    invalidTypeStructure definition.key "an enum type cannot reference a related type"
  else
    match nativeEnumProvider definition with
    | none =>
        invalidTypeStructure definition.key
          "only provider-declared native enums are supported"
    | some provider =>
        match definition.structured.enumeration with
        | none =>
            invalidTypeStructure definition.key "a native enum requires enum metadata"
        | some enumeration =>
            if enumeration.variants.isEmpty then
              invalidTypeStructure definition.key
                "native enum types require at least one variant"
            else do
              checkVariants definition.key [] [] enumeration.variants
              .ok
                { key := definition.key
                  dataType := .unknown
                  shape := .enum
                  enumeration := some enumeration
                  readableType := definition.readableType
                  provider := definition.provider
                  capabilities :=
                    .provider .unknown definition.readableType provider
                      definition.operations }

def domainType
    (definition : TypeMetadata)
    (base : Nat)
    (baseType : CatalogType) : CatalogType where
  key := definition.key
  dataType := baseType.dataType
  shape := .domain ⟨base⟩
  enumeration := none
  readableType := definition.readableType
  provider := definition.provider
  capabilities :=
    .domain baseType.capabilities definition.readableType definition.provider
      definition.operations

def arrayType (definition : TypeMetadata) (element : Nat) : CatalogType where
  key := definition.key
  dataType := .unknown
  shape := .array ⟨element⟩
  enumeration := none
  readableType := definition.readableType
  provider := definition.provider
  capabilities :=
    .array definition.readableType definition.provider definition.operations

/-- What is built once the related type is resolved. -/
def buildType
    (index : Nat)
    (related : Option CatalogType) : Except CatalogBuildError CatalogType :=
  match metadata[index]? with
  | none => .error (.invalidTypeStructure "" "" "resolution produced no catalog type")
  | some definition =>
      match definition.structured.kind with
      | .scalar => buildScalar definition
      | .enum => buildEnum definition
      | .domain =>
          match related with
          | none => invalidTypeStructure definition.key "base type did not resolve"
          | some baseType => do
              let base ← relatedTypeId metadata definition "base"
              .ok (domainType definition base baseType)
      | .array => do
          let element ← relatedTypeId metadata definition "element"
          .ok (arrayType definition element)

def keyAt (index : Nat) : TypeKey :=
  match metadata[index]? with
  | none => ⟨"", ""⟩
  | some definition => definition.key

def typeResolver : Resolver CatalogBuildError CatalogType where
  size := metadata.length
  plan := planType metadata
  build := buildType metadata
  cyclic index :=
    .cyclicTypeStructure (keyAt metadata index).schema (keyAt metadata index).name
  invalid index :=
    .invalidTypeStructure (keyAt metadata index).schema (keyAt metadata index).name
      "resolution produced no catalog type"

end Resolution

/-! ## The whole table -/

/-- Adds the types of columns that no earlier column has; a fixture without
type metadata takes its types from its columns. -/
def addFixtureType
    (types : List CatalogType)
    (column : ColumnMetadata) : Except CatalogBuildError (List CatalogType) :=
  match types.find? (fun known => known.key == column.providerType) with
  | none => .ok (types ++ [.builtin column.providerType column.dataType])
  | some known =>
      if known.dataType ≠ column.dataType then
        .error (.conflictingFixtureType column.providerType.schema
          column.providerType.name known.dataType.asStr column.dataType.asStr)
      else
        .ok types

def fixtureTypes (metadata : DatabaseMetadata) :
    Except CatalogBuildError (List CatalogType) :=
  (metadata.schemas.flatMap (fun schema =>
    schema.tables.flatMap (fun table => table.columns))).foldlM addFixtureType []

def checkDuplicate
    (seen : List TypeKey)
    (definition : TypeMetadata) : Except CatalogBuildError (List TypeKey) :=
  if seen.contains definition.key then
    .error (.duplicateType definition.key.schema definition.key.name)
  else
    .ok (seen ++ [definition.key])

/-- Collects the resolved types; an entry without one is an error. -/
def collectTypes
    (metadata : List TypeMetadata)
    (marks : List (Mark CatalogType)) :
    Except CatalogBuildError (List CatalogType) :=
  marks.zipIdx.mapM (fun mark =>
    match mark.1.value? with
    | some catalogType => .ok catalogType
    | none =>
        invalidTypeStructure (keyAt metadata mark.2)
          "resolution produced no catalog type")

def checkColumn
    (types : List CatalogType)
    (schema : String)
    (table : TableMetadata)
    (column : ColumnMetadata) : Except CatalogBuildError Unit :=
  match types.find? (fun known => known.key == column.providerType) with
  | none =>
      .error (.missingType schema table.name column.name column.providerType.schema
        column.providerType.name)
  | some resolved =>
      if resolved.dataType ≠ column.dataType then
        .error (.typeMismatch schema table.name column.name
          column.providerType.schema column.providerType.name
          column.dataType.asStr resolved.dataType.asStr)
      else
        .ok ()

def checkColumns
    (metadata : DatabaseMetadata)
    (types : List CatalogType) : Except CatalogBuildError Unit :=
  metadata.schemas.forM (fun schema =>
    schema.tables.forM (fun table =>
      table.columns.forM
        (checkColumn types (effectiveTableSchema schema table) table)))

def buildCatalogTypes (metadata : DatabaseMetadata) :
    Except CatalogBuildError (List CatalogType) :=
  if metadata.types.isEmpty then
    fixtureTypes metadata
  else do
    let _ ← metadata.types.foldlM checkDuplicate []
    let marks ← (typeResolver metadata.types).resolveAll
    let types ← collectTypes metadata.types marks
    checkColumns metadata types
    .ok types

/-! ## Loaded tables are acyclic -/

theorem fixtureTypes_scalar
    (columns : List ColumnMetadata)
    {types loaded : List CatalogType}
    (hscalar : ∀ known ∈ types, known.shape = .scalar)
    (hrun : columns.foldlM addFixtureType types = .ok loaded) :
    ∀ known ∈ loaded, known.shape = .scalar := by
  induction columns generalizing types with
  | nil =>
      cases hrun
      exact hscalar
  | cons column rest ih =>
      rw [List.foldlM_cons] at hrun
      obtain ⟨middle, hstep, hrest⟩ := except_bind_ok hrun
      refine ih ?_ hrest
      unfold addFixtureType at hstep
      split at hstep
      · cases hstep
        intro known hknown
        obtain hknown | hknown := List.mem_append.mp hknown
        · exact hscalar known hknown
        · rw [List.mem_singleton] at hknown
          rw [hknown]
          rfl
      · split at hstep
        · cases hstep
        · cases hstep
          exact hscalar

theorem buildScalar_shape
    {definition : TypeMetadata}
    {built : CatalogType}
    (h : buildScalar definition = .ok built) :
    built.shape = .scalar := by
  unfold buildScalar at h
  split_ifs at h
  · cases h
  · cases h
  · cases h
    rfl

theorem buildEnum_shape
    {definition : TypeMetadata}
    {built : CatalogType}
    (h : buildEnum definition = .ok built) :
    built.shape = .enum := by
  unfold buildEnum at h
  split at h
  · cases h
  · split at h
    · cases h
    · split at h
      · cases h
      · split at h
        · cases h
        · obtain ⟨_, -, h⟩ := except_bind_ok h
          cases h
          rfl

/-- A successful build names in its shape the entry that was planned. -/
theorem buildType_shape
    {metadata : List TypeMetadata}
    {index : Nat}
    {planned : Option Nat}
    {related : Option CatalogType}
    {built : CatalogType}
    (hplan : planType metadata index = .ok planned)
    (hbuild : buildType metadata index related = .ok built) :
    (planned = none → built.shape = .scalar ∨ built.shape = .enum) ∧
      ∀ next, planned = some next →
        built.shape = .domain ⟨next⟩ ∨ built.shape = .array ⟨next⟩ := by
  unfold planType at hplan
  unfold buildType at hbuild
  cases hdefinition : metadata[index]? with
  | none =>
      rw [hdefinition] at hbuild
      cases hbuild
  | some definition =>
      rw [hdefinition] at hplan hbuild
      simp only at hplan hbuild
      split at hplan
      · cases hplan
      · cases hkind : definition.structured.kind with
        | scalar =>
            simp only [hkind] at hplan hbuild
            cases hplan
            exact ⟨fun _ => .inl (buildScalar_shape hbuild), fun _ h => nomatch h⟩
        | enum =>
            simp only [hkind] at hplan hbuild
            cases hplan
            exact ⟨fun _ => .inr (buildEnum_shape hbuild), fun _ h => nomatch h⟩
        | domain =>
            simp only [hkind] at hplan hbuild
            split at hplan
            · cases hplan
            · obtain ⟨next, hnext, hplan⟩ := except_bind_ok hplan
              cases hplan
              split at hbuild
              · cases hbuild
              · obtain ⟨base, hbase, hbuild⟩ := except_bind_ok hbuild
                rw [hnext] at hbase
                cases hbase
                cases hbuild
                constructor
                · intro h
                  cases h
                · intro named h
                  cases h
                  exact .inl rfl
        | array =>
            simp only [hkind] at hplan hbuild
            split at hplan
            · cases hplan
            · obtain ⟨next, hnext, hplan⟩ := except_bind_ok hplan
              cases hplan
              obtain ⟨element, helement, hbuild⟩ := except_bind_ok hbuild
              rw [hnext] at helement
              cases helement
              cases hbuild
              constructor
              · intro h
                cases h
              · intro named h
                cases h
                exact .inr rfl

theorem collectTypes_getElem?
    {metadata : List TypeMetadata}
    {marks : List (Mark CatalogType)}
    {types : List CatalogType}
    (h : collectTypes metadata marks = .ok types)
    {index : Nat}
    {value : CatalogType}
    (hmark : marks[index]? = some (.resolved value)) :
    types[index]? = some value := by
  have hentry : marks.zipIdx[index]? = some (.resolved value, index) := by
    rw [List.getElem?_zipIdx, hmark]
    simp
  obtain ⟨found, hfound, hposition⟩ := mapM_ok_getElem? marks.zipIdx h hentry
  cases hfound
  exact hposition

/-- A value of plain recursion unfolds along the references it followed. -/
theorem unfolds_of_denotes
    {metadata : List TypeMetadata}
    {types : List CatalogType}
    (htypes : ∀ (index depth : Nat) (value : CatalogType),
      (typeResolver metadata).Denotes depth index value →
        types[index]? = some value)
    {index depth : Nat}
    {value : CatalogType}
    (h : (typeResolver metadata).Denotes depth index value) :
    ∃ tree, Unfolds types ⟨index⟩ tree := by
  induction h with
  | @leaf index value hlt hplan hbuild =>
      have htype := htypes index 0 value (.leaf hlt hplan hbuild)
      have hbuild : buildType metadata index none = .ok value := hbuild
      obtain hshape | hshape := (buildType_shape hplan hbuild).1 rfl
      · exact ⟨_, @Unfolds.scalar types ⟨index⟩ value htype hshape⟩
      · exact ⟨_, @Unfolds.enum types ⟨index⟩ value htype hshape⟩
  | @step depth index next related value hlt hplan hrelated hbuild ih =>
      have htype := htypes index (depth + 1) value (.step hlt hplan hrelated hbuild)
      obtain ⟨tree, htree⟩ := ih
      have hbuild : buildType metadata index (some related) = .ok value := hbuild
      obtain hshape | hshape := (buildType_shape hplan hbuild).2 next rfl
      · exact ⟨_, @Unfolds.domain types ⟨index⟩ ⟨next⟩ value tree htype hshape htree⟩
      · exact ⟨_, @Unfolds.array types ⟨index⟩ ⟨next⟩ value tree htype hshape htree⟩

/-- A loaded table holds scalars only, or the value of every definition by
plain recursion. -/
theorem buildCatalogTypes_denotes
    {metadata : DatabaseMetadata}
    {types : List CatalogType}
    (h : buildCatalogTypes metadata = .ok types) :
    (∀ known ∈ types, known.shape = .scalar) ∨
      (∀ (index depth : Nat) (value : CatalogType),
        (typeResolver metadata.types).Denotes depth index value →
          types[index]? = some value) ∧
      ∀ index < types.length, ∃ (depth : Nat) (value : CatalogType),
        (typeResolver metadata.types).Denotes depth index value := by
  unfold buildCatalogTypes at h
  split at h
  · exact .inl (fixtureTypes_scalar _
      (fun _ hmem => absurd hmem List.not_mem_nil) h)
  · right
    obtain ⟨seen, -, h⟩ := except_bind_ok h
    obtain ⟨marks, hmarks, h⟩ := except_bind_ok h
    obtain ⟨collected, hcollected, h⟩ := except_bind_ok h
    obtain ⟨_, -, h⟩ := except_bind_ok h
    cases h
    obtain ⟨hlength, hall⟩ := Resolver.resolveAll_sound hmarks
    constructor
    · intro index depth value hdenotes
      obtain ⟨other, found, hmark, hfound⟩ := hall index hdenotes.lt_size
      rw [(hdenotes.unique hfound).2]
      exact collectTypes_getElem? hcollected hmark
    · intro index hindex
      have hcollectedLength := mapM_ok_length marks.zipIdx hcollected
      rw [List.length_zipIdx, hlength] at hcollectedLength
      obtain ⟨depth, value, -, hdenotes⟩ := hall index (hcollectedLength ▸ hindex)
      exact ⟨depth, value, hdenotes⟩

theorem buildCatalogTypes_acyclic
    {metadata : DatabaseMetadata}
    {types : List CatalogType}
    (h : buildCatalogTypes metadata = .ok types) :
    Acyclic types := by
  intro id hid
  obtain hscalar | ⟨htypes, hdenotes⟩ := buildCatalogTypes_denotes h
  · obtain ⟨known, hknown⟩ : ∃ known, types[id.index]? = some known :=
      ⟨_, List.getElem?_eq_getElem hid⟩
    exact ⟨_, .scalar hknown (hscalar known (List.mem_of_getElem? hknown))⟩
  · obtain ⟨depth, value, hvalue⟩ := hdenotes id.index hid
    exact unfolds_of_denotes htypes hvalue

/-- Resolution ends, and the loops of the consumers end on every entry of a
loaded table with the shape that full unfolding gives. -/
theorem buildCatalogTypes_unfolds
    (metadata : DatabaseMetadata)
    {types : List CatalogType}
    (h : buildCatalogTypes metadata = .ok types) :
    (∀ fuel, metadata.types.length < fuel →
      (typeResolver metadata.types).resolveAllWith fuel =
        (typeResolver metadata.types).resolveAll) ∧
    (∀ id : TypeId, types.length ≤ id.index → ∀ fuel,
      valueShapeForType types (fuel + 1) id = some none ∧
        enumTypeForType types (fuel + 1) id = some none) ∧
    ∀ id : TypeId, id.index < types.length →
      ∃ tree, Unfolds types id tree ∧
        (∀ other, Unfolds types id other → other = tree) ∧
        ∀ fuel, tree.height < fuel →
          valueShapeForType types fuel id = some (some (tree.valueShape id)) ∧
            enumTypeForType types fuel id = some tree.enumType := by
  refine ⟨fun fuel hfuel => Resolver.resolveAllWith_eq hfuel, ?_, ?_⟩
  · intro id hid fuel
    have hnone : types[id.index]? = none := List.getElem?_eq_none hid
    constructor
    · simp only [valueShapeForType, valueShape, hnone]
    · simp only [enumTypeForType, hnone]
  · intro id hid
    obtain ⟨tree, htree⟩ := buildCatalogTypes_acyclic h id hid
    refine ⟨tree, htree, fun other hother => hother.unique htree, ?_⟩
    intro fuel hfuel
    exact ⟨valueShape_of_unfolds htree hfuel id,
      enumTypeForType_of_unfolds htree hfuel⟩

/-- An array of a domain over an integer type, declared in reverse order. -/
def tagMetadata : DatabaseMetadata where
  schemas := [⟨"public", [⟨"", "posts", [⟨"tags", ⟨"public", "_tag"⟩, .unknown⟩]⟩]⟩]
  types :=
    [⟨"_tag", "tag[]", "public", ⟨.array, some ⟨"public", "tag"⟩, none⟩, none, []⟩,
      ⟨"tag", "tag", "public", ⟨.domain, some ⟨"pg_catalog", "int8"⟩, none⟩, none, []⟩,
      ⟨"int8", "bigint", "pg_catalog", ⟨.scalar, none, none⟩, none, []⟩]

def tagTypes : List CatalogType :=
  match buildCatalogTypes tagMetadata with
  | .ok types => types
  | .error _ => []

theorem tagMetadata_builds : buildCatalogTypes tagMetadata = .ok tagTypes := by
  decide +kernel

theorem buildCatalogTypes_unfolds_tags :
    buildCatalogTypes tagMetadata = .ok tagTypes ∧
      ∃ tree, Unfolds tagTypes ⟨0⟩ tree ∧
        valueShapeForType tagTypes (tree.height + 1) ⟨0⟩ =
          some (some (tree.valueShape ⟨0⟩)) := by
  refine ⟨tagMetadata_builds, ?_⟩
  obtain ⟨-, -, hall⟩ := buildCatalogTypes_unfolds tagMetadata tagMetadata_builds
  have hlength : 0 < tagTypes.length := by decide +kernel
  obtain ⟨tree, htree, -, hshape⟩ := hall ⟨0⟩ hlength
  exact ⟨tree, htree, (hshape (tree.height + 1) (Nat.lt_succ_self _)).1⟩

example : valueShapeForType tagTypes 4 ⟨0⟩ = some (some (.databaseArray ⟨1⟩)) := by
  decide +kernel

end Types
end Dsql
