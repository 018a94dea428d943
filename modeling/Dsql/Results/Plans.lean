import Dsql.Plan.Clauses
import Dsql.Types.Build
import Mathlib.Tactic

/-!
# Result plans

What a planned query returns: rows of selected items or aggregates, nested
along relations.  The clauses of a collection decide which rows there are and
not what a row looks like.
-/

namespace Dsql
namespace Results

open Dsql.Types

/-! ## The typed catalog -/

/-- What the result of a query needs of a column. -/
structure Column where
  typeId : TypeId
  notNull : Bool
deriving DecidableEq, Repr

/-- A type with its position in the type table. -/
structure DeclaredType where
  id : TypeId
  dataType : Types.CatalogType
deriving DecidableEq, Repr

/-- A catalog whose columns are typed by entries of the type table and whose
types unfold. -/
structure Catalog where
  types : List Types.CatalogType
  columns : List Column
  typed : ∀ column ∈ columns, column.typeId.index < types.length
  acyclic : Acyclic types

/-- Effective public value shape after domain wrappers are resolved. -/
inductive ValueShape where
  | scalar (leaf : DeclaredType)
  | databaseArray (element : DeclaredType)
deriving DecidableEq, Repr

namespace Catalog

/-- The catalog over a loaded type table. -/
def loaded
    {metadata : DatabaseMetadata}
    {types : List Types.CatalogType}
    (h : buildCatalogTypes metadata = .ok types)
    (columns : List Column)
    (typed : ∀ column ∈ columns, column.typeId.index < types.length) :
    Catalog where
  types := types
  columns := columns
  typed := typed
  acyclic := buildCatalogTypes_acyclic h

variable (catalog : Catalog)

/-- Looks a column up. -/
def columnById (id : ColumnId) : Option Column :=
  catalog.columns[id.index]?

/-- Looks a type up. -/
def typeById (id : TypeId) : Option DeclaredType :=
  (catalog.types[id.index]?).map (fun dataType => ⟨id, dataType⟩)

/-- The declared type of a column. -/
def typeForColumn (id : ColumnId) : Option DeclaredType :=
  match catalog.columnById id with
  | none => none
  | some column => catalog.typeById column.typeId

/-- The loops follow at most one reference per entry of the table, so the
bound is never reached. -/
def valueShapeForType (id : TypeId) : Option ValueShape :=
  match Types.valueShapeForType catalog.types (catalog.types.length + 1) id with
  | some (some (.scalar leaf)) => (catalog.typeById leaf).map .scalar
  | some (some (.databaseArray element)) =>
      (catalog.typeById element).map .databaseArray
  | some none => none
  | none => none

/-- The enumeration that a type unfolds to. -/
def enumTypeForType (id : TypeId) : Option (TypeId × CatalogEnum) :=
  (Types.enumTypeForType catalog.types (catalog.types.length + 1) id).join

/-- The logical type of a column; the source reads both tables without a
check. -/
def dataTypeForColumn (id : ColumnId) : DataType :=
  match catalog.typeForColumn id with
  | none => .unknown
  | some declared =>
      if declared.dataType.capabilities.wire == .textCast then
        .text
      else
        declared.dataType.dataType

variable {catalog : Catalog}

/-- The bound is never reached: both loops over the domains of a type end. -/
theorem loops_end (id : TypeId) :
    ∃ shape enumeration,
      Types.valueShapeForType catalog.types (catalog.types.length + 1) id =
          some shape ∧
        Types.enumTypeForType catalog.types (catalog.types.length + 1) id =
          some enumeration := by
  rcases Nat.lt_or_ge id.index catalog.types.length with hlt | hge
  · obtain ⟨tree, htree⟩ := catalog.acyclic id hlt
    have hfuel : tree.height < catalog.types.length + 1 :=
      Nat.lt_succ_of_lt htree.height_lt_length
    exact ⟨_, _, valueShape_of_unfolds htree hfuel id,
      enumTypeForType_of_unfolds htree hfuel⟩
  · have hnone : catalog.types[id.index]? = none := List.getElem?_eq_none hge
    refine ⟨none, none, ?_, ?_⟩
    · simp only [Types.valueShapeForType, Types.valueShape, hnone]
    · simp only [Types.enumTypeForType, hnone]

/-- The columns of a checked catalog have types. -/
theorem typeForColumn_of_columnById
    {id : ColumnId}
    {column : Column}
    (h : catalog.columnById id = some column) :
    ∃ declared, catalog.typeForColumn id = some declared := by
  have hlt := catalog.typed column (List.mem_of_getElem? h)
  refine ⟨⟨column.typeId, catalog.types[column.typeId.index]⟩, ?_⟩
  simp only [typeForColumn, h, typeById, List.getElem?_eq_getElem hlt, Option.map_some]

end Catalog

/-! ## Plans -/

/-- Whether a selection has rows or at most one row. -/
inductive SelectionCardinality where
  | collection
  | atMostOne
deriving DecidableEq, Repr

/-- Cardinality of a selection, and whether its row may be missing. -/
structure ResolvedSelectionShape where
  cardinality : SelectionCardinality
  nullable : Bool
deriving DecidableEq, Repr

/-- Whether an aggregate has group keys. -/
inductive AggregateMode where
  | ungrouped
  | grouped
deriving DecidableEq, Repr

/-- A group key with its output name. -/
structure AggregateGroupProjection where
  column : ColumnId
  outputName : String
  dataType : DataType
  nullable : Bool
deriving DecidableEq, Repr

/-- An aggregate with its output name. -/
structure AggregateProjection where
  function : AggregateFunction
  operand : Option ColumnId
  outputName : String
  dataType : DataType
  nullable : Bool
deriving DecidableEq, Repr

/-- An aggregate is grouped when it is written with group keys. -/
structure AggregatePlan where
  mode : AggregateMode
  groupKeys : List AggregateGroupProjection
  fields : List AggregateProjection
  ungrouped : mode = .ungrouped → groupKeys = []
deriving DecidableEq, Repr

/-- A projected column with its output name. -/
structure Projection where
  column : ColumnId
  outputName : String
deriving DecidableEq, Repr

/-- The access that a policy leaves to a field. -/
structure PolicyFieldAccess where
  target : PolicyFieldTarget
  access : PolicyAccess
deriving DecidableEq, Repr

/-- The source of a collection with its clauses and policies. -/
structure CollectionSource where
  table : TableId
  shape : ResolvedSelectionShape
  clauses : SelectionClauses
  policyFilter : Option FilterExpr
  fieldFilters : List (PolicyFieldFilter FilterExpr)
  policyNullableFields : List PolicyFieldTarget

mutual

/-- A source with what is taken from its rows. -/
inductive CollectionPlan where
  | mk (source : CollectionSource) (result : CollectionResultPlan)

/-- Rows with their items, or an aggregate over them. -/
inductive CollectionResultPlan where
  | rows (items : List SelectionPlanItem)
  | aggregate (plan : AggregatePlan)

/-- An item of a selection: a column or a related collection. -/
inductive SelectionPlanItem where
  | projection (projection : Projection)
  | relation (outputName : String) (flattened : Bool) (relation : RelationId)
      (collection : CollectionPlan)

end

/-- The source of a collection. -/
def CollectionPlan.source : CollectionPlan → CollectionSource
  | .mk source _ => source

/-- What is taken from the rows of a collection. -/
def CollectionPlan.result : CollectionPlan → CollectionResultPlan
  | .mk _ result => result

/-- A root of a query under its output name. -/
structure QueryRootPlan where
  outputName : String
  flattened : Bool
  collection : CollectionPlan

/-- The roots of a query. -/
structure QueryPlan where
  roots : List QueryRootPlan

mutual

/-- The columns that a flattened collection adds to its parent. -/
def collectCollectionOutputNames : CollectionResultPlan → List String
  | .rows items => collectItemOutputNames items
  | .aggregate plan => plan.fields.map AggregateProjection.outputName

/-- The names that items export; flattened relations export those below. -/
def collectItemOutputNames : List SelectionPlanItem → List String
  | [] => []
  | .projection projection :: items =>
      projection.outputName :: collectItemOutputNames items
  | .relation outputName flattened _ (.mk _ result) :: items =>
      (if flattened then collectCollectionOutputNames result else [outputName]) ++
        collectItemOutputNames items

end

/-- The collection has rows. -/
def CollectionResultPlan.isRows : CollectionResultPlan → Bool
  | .rows _ => true
  | .aggregate _ => false

/-- The collection has groups. -/
def CollectionResultPlan.isGrouped : CollectionResultPlan → Bool
  | .rows _ => false
  | .aggregate plan => plan.mode == .grouped

mutual

/-- No grouped aggregate is flattened: its output is an array. -/
def CollectionResultPlan.flattensRows : CollectionResultPlan → Bool
  | .rows items => itemsFlattenRows items
  | .aggregate _ => true

/-- No item flattens groups, at any depth. -/
def itemsFlattenRows : List SelectionPlanItem → Bool
  | [] => true
  | .projection _ :: items => itemsFlattenRows items
  | .relation _ flattened _ (.mk _ result) :: items =>
      !(flattened && result.isGrouped) && result.flattensRows &&
        itemsFlattenRows items

end

/-- No root and no item flattens groups. -/
def QueryPlan.flattensRows (plan : QueryPlan) : Bool :=
  plan.roots.all (fun root =>
    !(root.flattened && root.collection.result.isGrouped) &&
      root.collection.result.flattensRows)

end Results
end Dsql
