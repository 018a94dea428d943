import Dsql.Results.Plans
import Mathlib.Tactic

/-!
# Published result shapes

The metadata assembler lists every field of a result with its path, its kind
and the contract of its value.
-/

namespace Dsql
namespace Results

open Dsql.Types

/-- Whether a result field holds a value, an object or rows. -/
inductive ResultFieldKind where
  | scalar | object | array
deriving DecidableEq, Repr

/-- Shape of the values of a result field. -/
inductive ResultValueShape where
  | scalar | databaseArray | object
deriving DecidableEq, Repr

/-- One value of a closed set, with its texts. -/
structure ClosedValueMetadata where
  value : String
  label : Option String
  description : Option String
deriving DecidableEq, Repr

/-- The values that an enumeration is closed over; none for an open type. -/
structure ClosedValueSetMetadata where
  description : Option String
  values : List ClosedValueMetadata
deriving DecidableEq, Repr

/-- What is published of the type of a result field. -/
structure ResultValueTypeMetadata where
  shape : ResultValueShape
  name : String
  display : Option String
  /-- Representation of the scalar or of an element of the array. -/
  wire : WireMetadata
  closedValues : ClosedValueSetMetadata
deriving DecidableEq, Repr

/-- What is published of one field of a result. -/
structure ResultField where
  path : String
  name : String
  parentPath : String
  kind : ResultFieldKind
  valueType : ResultValueTypeMetadata
  nullable : Bool
  access : String
deriving DecidableEq, Repr

/-- Failures of the assembly. -/
inductive GenerateError where
  | assembly (name message : String)
deriving DecidableEq, Repr

/-! ## Value types -/

/-- The set of a type that is not closed. -/
def openClosedValues : ClosedValueSetMetadata :=
  ⟨none, []⟩

/-- Wire format of a logical type. -/
def wireMetadataForDataType (dataType : DataType) : WireMetadata :=
  ⟨(TypeCapabilities.builtin dataType).wire, none⟩

/-- Wire format of a catalog type; a value cast to text names its provider
type. -/
def wireMetadataForCatalogType (dataType : Types.CatalogType) : WireMetadata where
  encoding := dataType.capabilities.wire
  providerType :=
    if dataType.capabilities.wire = .textCast then
      some ⟨dataType.key.schema, dataType.key.name⟩
    else
      none

/-- Type of objects and of rows. -/
def objectResultValueType : ResultValueTypeMetadata where
  shape := .object
  name := "object"
  display := none
  wire := wireMetadataForDataType .unknown
  closedValues := openClosedValues

/-- Result type of a logical type. -/
def resultValueTypeForDataType (dataType : DataType) : ResultValueTypeMetadata where
  shape := .scalar
  name := dataType.asStr
  display := none
  wire := wireMetadataForDataType dataType
  closedValues := openClosedValues

section Assembly

variable (catalog : Catalog)

/-- The variants of a type that unfolds to an enumeration. -/
def catalogClosedValues (declared : DeclaredType) : ClosedValueSetMetadata :=
  match catalog.enumTypeForType declared.id with
  | none => openClosedValues
  | some (_, enumeration) =>
      { description := enumeration.description
        values := enumeration.variants.map (fun item =>
          ⟨item.variant, item.label, item.description⟩) }

/-- Result type of a catalog type, by its value shape. -/
def resultValueTypeForCatalogType (declared : DeclaredType) :
    ResultValueTypeMetadata :=
  match catalog.valueShapeForType declared.id with
  | some (.scalar leaf) =>
      { shape := .scalar
        name := leaf.dataType.capabilities.name
        display := some declared.dataType.readableType
        wire := wireMetadataForCatalogType declared.dataType
        closedValues := catalogClosedValues catalog leaf }
  | some (.databaseArray element) =>
      { shape := .databaseArray
        name := element.dataType.capabilities.name
        display := some declared.dataType.readableType
        wire := wireMetadataForCatalogType element.dataType
        closedValues := catalogClosedValues catalog element }
  | none => resultValueTypeForDataType .unknown

/-- Result type of a column. -/
def resultValueTypeForColumn (column : ColumnId) : Option ResultValueTypeMetadata :=
  (catalog.typeForColumn column).map (resultValueTypeForCatalogType catalog)

/-- A minimum or maximum keeps the type of its operand. -/
def aggregateResultCatalogType (field : AggregateProjection) : Option DeclaredType :=
  match field.function with
  | .min | .max => field.operand.bind catalog.typeForColumn
  | .count | .exists | .sum | .avg => none

/-- Result type of an aggregate. -/
def aggregateResultValueType (field : AggregateProjection) :
    ResultValueTypeMetadata :=
  match aggregateResultCatalogType catalog field with
  | none => resultValueTypeForDataType field.dataType
  | some declared => resultValueTypeForCatalogType catalog declared

/-! ## Access and presence -/

/-- What the fields of a selection inherit, and the policies on them. -/
structure ResultAccessContext where
  inheritedNullable : Bool
  inheritedAccess : PolicyAccess
  policyNullableFields : List PolicyFieldTarget
  policyFieldAccess : List PolicyFieldAccess
deriving DecidableEq, Repr

/-- A collection is an object or an array. -/
def collectionResultKind
    (result : CollectionResultPlan)
    (cardinality : SelectionCardinality) : ResultFieldKind :=
  match result with
  | .aggregate plan =>
      match plan.mode with
      | .ungrouped => .object
      | .grouped => .array
  | .rows _ =>
      match cardinality with
      | .collection => .array
      | .atMostOne => .object

/-- A single row is null where it is missing or hidden by a policy. -/
def collectionResultNullable
    (source : CollectionSource)
    (result : CollectionResultPlan) : Bool :=
  match result with
  | .aggregate _ => false
  | .rows _ =>
      source.shape.cardinality == .atMostOne &&
        (source.shape.nullable || source.policyFilter.isSome)

/-- Access to the rows of a source. -/
def collectionPolicyAccess (source : CollectionSource) : PolicyAccess :=
  match source.policyFilter with
  | none => .unconditional
  | some filter => .forGuard filter

/-- Access to the fields that a source guards. -/
def actualFieldAccess (source : CollectionSource) : List PolicyFieldAccess :=
  source.fieldFilters.map (fun filter =>
    ⟨filter.target, .forGuard filter.filter⟩)

/-- All guards on one target together. -/
def policyAccessForTarget
    (fields : List PolicyFieldAccess)
    (target : PolicyFieldTarget) : PolicyAccess :=
  (fields.filter (fun field => field.target == target)).foldl
    (fun access field => access.combine field.access) .unconditional

/-- Name of an access in the metadata. -/
def accessLabel : PolicyAccess → String
  | .unconditional => "unconditional"
  | .contextOnly => "context_only"
  | .rowDependent => "row_dependent"

/-- Path of a field below its parent. -/
def joinPath (parent name : String) : String :=
  if parent.isEmpty then name else parent ++ "." ++ name

/-! ## Fields -/

/-- The field of a group key. -/
def groupKeyResultField
    (parentPath : String)
    (access : ResultAccessContext)
    (key : AggregateGroupProjection) : ResultField where
  path := joinPath parentPath key.outputName
  name := key.outputName
  parentPath := parentPath
  kind := .scalar
  valueType :=
    (resultValueTypeForColumn catalog key.column).getD
      (resultValueTypeForDataType key.dataType)
  nullable :=
    access.inheritedNullable || key.nullable ||
      access.policyNullableFields.contains (.column key.column)
  access :=
    accessLabel (access.inheritedAccess.combine
      (policyAccessForTarget access.policyFieldAccess (.column key.column)))

/-- The field of an aggregate. -/
def aggregateResultField
    (parentPath : String)
    (access : ResultAccessContext)
    (field : AggregateProjection) : ResultField where
  path := joinPath parentPath field.outputName
  name := field.outputName
  parentPath := parentPath
  kind := .scalar
  valueType := aggregateResultValueType catalog field
  nullable := access.inheritedNullable || field.nullable
  access :=
    accessLabel (access.inheritedAccess.combine
      (match field.operand with
      | none => .unconditional
      | some column =>
          policyAccessForTarget access.policyFieldAccess (.column column)))

/-- The field of a projected column. -/
def projectionResultField
    (parentPath : String)
    (access : ResultAccessContext)
    (projection : Projection) : Except GenerateError ResultField :=
  match catalog.columnById projection.column with
  | none => .error (.assembly "" "missing projected column")
  | some column =>
      .ok
        { path := joinPath parentPath projection.outputName
          name := projection.outputName
          parentPath := parentPath
          kind := .scalar
          valueType :=
            (resultValueTypeForColumn catalog projection.column).getD
              (resultValueTypeForDataType
                (catalog.dataTypeForColumn projection.column))
          nullable :=
            access.inheritedNullable || !column.notNull ||
              access.policyNullableFields.contains (.column projection.column)
          access :=
            accessLabel (access.inheritedAccess.combine
              (policyAccessForTarget access.policyFieldAccess
                (.column projection.column))) }

/-- The field of a collection itself. -/
def collectionResultField
    (parentPath name : String)
    (kind : ResultFieldKind)
    (access : ResultAccessContext) : ResultField where
  path := joinPath parentPath name
  name := name
  parentPath := parentPath
  kind := kind
  valueType := objectResultValueType
  nullable := access.inheritedNullable
  access := accessLabel access.inheritedAccess

/-- Rights inside the object of a collection. -/
def CollectionSource.ownAccess (source : CollectionSource) : ResultAccessContext where
  inheritedNullable := false
  inheritedAccess := .unconditional
  policyNullableFields := source.policyNullableFields
  policyFieldAccess := actualFieldAccess source

/-- A masked to-many relation is an empty array and a masked aggregate keeps
its shape; only a singular row becomes absent. -/
def relationPolicyNullable
    (access : ResultAccessContext)
    (relation : RelationId)
    (source : CollectionSource)
    (result : CollectionResultPlan) : Bool :=
  match result with
  | .aggregate _ => false
  | .rows _ =>
      access.policyNullableFields.contains (.relation relation) &&
        source.shape.cardinality == .atMostOne

/-- What a relation hands down to its result. -/
def relationInherited
    (access : ResultAccessContext)
    (relation : RelationId)
    (source : CollectionSource)
    (result : CollectionResultPlan) : Bool × PolicyAccess :=
  let nullable :=
    collectionResultNullable source result ||
      relationPolicyNullable access relation source result
  (access.inheritedNullable || nullable,
    (access.inheritedAccess.combine
      (policyAccessForTarget access.policyFieldAccess (.relation relation))).combine
      (collectionPolicyAccess source))

mutual

/-- The fields below a collection. -/
def collectCollectionChildren (parentPath : String) :
    CollectionResultPlan → ResultAccessContext →
      Except GenerateError (List ResultField)
  | .rows items, access => collectResultItemFields parentPath items access
  | .aggregate plan, access =>
      .ok (plan.groupKeys.map (groupKeyResultField catalog parentPath access) ++
        plan.fields.map (aggregateResultField catalog parentPath access))

/-- The fields of the items of a selection, with all below them. -/
def collectResultItemFields (parentPath : String) :
    List SelectionPlanItem → ResultAccessContext →
      Except GenerateError (List ResultField)
  | [], _ => .ok []
  | .projection projection :: items, access => do
      let field ← projectionResultField catalog parentPath access projection
      let fields ← collectResultItemFields parentPath items access
      .ok (field :: fields)
  | .relation outputName flattened relation (.mk source result) :: items, access => do
      let inherited := relationInherited access relation source result
      let own ←
        (if flattened then
          collectCollectionChildren parentPath result
            ⟨inherited.1, inherited.2, source.policyNullableFields,
              actualFieldAccess source⟩
        else do
          let children ←
            collectCollectionChildren (joinPath parentPath outputName) result
              source.ownAccess
          .ok (collectionResultField parentPath outputName
            (collectionResultKind result source.shape.cardinality)
            ⟨inherited.1, inherited.2, [], []⟩ :: children))
      let fields ← collectResultItemFields parentPath items access
      .ok (own ++ fields)

end

/-- The fields of a root, with all below it. -/
def collectRootResultFields (plan : QueryRootPlan) :
    Except GenerateError (List ResultField) :=
  match plan.collection with
  | .mk source result =>
      let nullable := collectionResultNullable source result
      let access := collectionPolicyAccess source
      if plan.flattened then
        collectCollectionChildren catalog "" result
          ⟨nullable, access, source.policyNullableFields, actualFieldAccess source⟩
      else do
        let children ←
          collectCollectionChildren catalog (joinPath "" plan.outputName) result
            source.ownAccess
        .ok (collectionResultField "" plan.outputName
          (collectionResultKind result source.shape.cardinality)
          ⟨nullable, access, [], []⟩ :: children)

/-- The result fields of a query, in order. -/
def resultShape (plan : QueryPlan) : Except GenerateError (List ResultField) := do
  let fields ← plan.roots.mapM (collectRootResultFields catalog)
  .ok fields.flatten

end Assembly

end Results
end Dsql
