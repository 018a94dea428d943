import Dsql.Results.Plans
import Mathlib.Tactic

/-!
# Result columns of a rendered statement

The select lists that SQL generation builds.  A select exports named columns;
a nested collection is a lateral source whose columns its parent refers to.
Sources are numbered in the order in which they are joined instead of being
named by their generated aliases.
-/

namespace Dsql
namespace Results

open Dsql.Types

/-- The alias of an exported column: a public name, or the generated alias of
a nested result. -/
inductive ColumnName where
  | output (name : String)
  | result
deriving DecidableEq, Repr

/-- Expressions of the generated statement. -/
inductive SqlExpr where
  /-- A stored column; its guard may put a null in its place. -/
  | column (column : ColumnId)
  | aggregate (function : AggregateFunction) (operand : Option ColumnId)
  | reference (source : Nat) (name : ColumnName)
  | castText (operand : SqlExpr)
  | castTextArray (operand : SqlExpr)
  | buildObject (fields : List (String × SqlExpr))
  /-- The collected rows, an empty array where there are none. -/
  | aggArray (row : SqlExpr)
  | toJson (operand : SqlExpr)

/-- A select over its lateral sources, with the columns that it exports. -/
inductive SelectStatement where
  | mk (sources : List SelectStatement) (exported : List (ColumnName × SqlExpr))

/-- Failures of the generation. -/
inductive SqlGenerationError where
  | missingColumn (id : Nat)
  | missingAggregateOperand
  | emptyQueryPlan
deriving DecidableEq, Repr

section Generation

variable (catalog : Catalog)

/-! ## Scalars -/

/-- The encodings under which a scalar crosses the boundary as text. -/
def textualWire : WireEncoding → Bool
  | .bigInteger | .numeric | .textCast => true
  | .uuid | .text | .timestamptz | .integer | .float | .boolean | .json
  | .unsupported => false

/-- A scalar that travels as text is cast. -/
def publicScalarExpression (expression : SqlExpr) (wire : WireEncoding) : SqlExpr :=
  if textualWire wire then .castText expression else expression

/-- The public form of a value of a catalog type. -/
def publicCatalogExpression
    (expression : SqlExpr)
    (declared : DeclaredType) : SqlExpr :=
  match catalog.valueShapeForType declared.id with
  | some (.scalar _) =>
      publicScalarExpression expression declared.dataType.capabilities.wire
  | some (.databaseArray element) =>
      if textualWire element.dataType.capabilities.wire then
        .castTextArray expression
      else
        expression
  | none => expression

/-- The public form of a column. -/
def publicColumnExpression (expression : SqlExpr) (column : ColumnId) : SqlExpr :=
  match catalog.typeForColumn column with
  | some declared => publicCatalogExpression catalog expression declared
  | none => expression

/-- Wire encoding of an aggregate. -/
def aggregateWire (field : AggregateProjection) : WireEncoding :=
  match field.function, field.operand.bind catalog.typeForColumn with
  | .min, some declared | .max, some declared => declared.dataType.capabilities.wire
  | _, _ => (TypeCapabilities.builtin field.dataType).wire

/-- The public form of an aggregate. -/
def publicAggregateExpression
    (expression : SqlExpr)
    (field : AggregateProjection) : SqlExpr :=
  match field.function, field.operand.bind catalog.typeForColumn with
  | .min, some declared | .max, some declared =>
      publicCatalogExpression catalog expression declared
  | _, _ => publicScalarExpression expression (aggregateWire catalog field)

/-- A column of the source, behind its guard where it has one. -/
def maskedColumnExpression (column : ColumnId) : Except SqlGenerationError SqlExpr :=
  match catalog.columnById column with
  | none => .error (.missingColumn column.index)
  | some _ => .ok (.column column)

/-- The operand of an aggregate. -/
def aggregateOperand :
    Option ColumnId → Except SqlGenerationError (Option SqlExpr)
  | none => .ok none
  | some column => do
      let expression ← maskedColumnExpression catalog column
      .ok (some expression)

/-- An aggregate; all but counts need an operand. -/
def aggregateExpression (field : AggregateProjection) :
    Except SqlGenerationError SqlExpr := do
  let operand ← aggregateOperand catalog field.operand
  match field.function, operand with
  | .count, _ | .exists, _ => .ok (.aggregate field.function field.operand)
  | _, some _ => .ok (.aggregate field.function field.operand)
  | _, none => .error .missingAggregateOperand

/-- An aggregate under its output name. -/
def aggregateField (field : AggregateProjection) :
    Except SqlGenerationError (String × SqlExpr) := do
  let expression ← aggregateExpression catalog field
  .ok (field.outputName, publicAggregateExpression catalog expression field)

/-- A group key under its output name. -/
def groupKeyField (key : AggregateGroupProjection) :
    Except SqlGenerationError (String × SqlExpr) := do
  let expression ← maskedColumnExpression catalog key.column
  .ok (key.outputName, publicColumnExpression catalog expression key.column)

/-! ## Collections -/

/-- How the result of a selection is exported. -/
structure SelectionGenerationContext where
  nested : Bool
  publicResultAlias : Option String
  flattened : Bool
deriving DecidableEq, Repr

/-- The column that holds the result of a selection. -/
def SelectionGenerationContext.resultName
    (generation : SelectionGenerationContext) : ColumnName :=
  match generation.publicResultAlias with
  | some name => .output name
  | none => .result

/-- A flattened result exports its fields; at the root nothing else would
turn them into JSON. -/
def exportFields
    (generation : SelectionGenerationContext)
    (fields : List (String × SqlExpr)) : List (ColumnName × SqlExpr) :=
  fields.map (fun field =>
    (.output field.1, if generation.nested then field.2 else .toJson field.2))

/-- Groups are collected in an outer select over the grouped one. -/
def generateGroupedAggregate
    (aggregate : AggregatePlan)
    (name : ColumnName) : Except SqlGenerationError SelectStatement := do
  let keys ← aggregate.groupKeys.mapM (groupKeyField catalog)
  let fields ← aggregate.fields.mapM (aggregateField catalog)
  let names :=
    aggregate.groupKeys.map AggregateGroupProjection.outputName ++
      aggregate.fields.map AggregateProjection.outputName
  .ok (.mk
    [.mk [] ((keys ++ fields).map (fun field => (.output field.1, field.2)))]
    [(name, .aggArray (.buildObject
      (names.map (fun output => (output, .reference 0 (.output output))))))])

/-- The statement of an aggregate. -/
def generateAggregate
    (aggregate : AggregatePlan)
    (generation : SelectionGenerationContext) :
    Except SqlGenerationError SelectStatement :=
  match aggregate.mode with
  | .grouped => generateGroupedAggregate catalog aggregate generation.resultName
  | .ungrouped => do
      let fields ← aggregate.fields.mapM (aggregateField catalog)
      .ok (.mk []
        (if generation.flattened then
          exportFields generation fields
        else
          [(generation.resultName, .buildObject fields)]))

/-- The fields of a row; `next` is the number of the next nested source. -/
def selectionFieldExpressions (next : Nat) :
    List SelectionPlanItem → Except SqlGenerationError (List (String × SqlExpr))
  | [] => .ok []
  | .projection projection :: items => do
      let expression ← maskedColumnExpression catalog projection.column
      let fields ← selectionFieldExpressions next items
      .ok ((projection.outputName,
        publicColumnExpression catalog expression projection.column) :: fields)
  | .relation outputName flattened _ (.mk _ result) :: items => do
      let fields ← selectionFieldExpressions (next + 1) items
      if flattened then
        .ok ((collectCollectionOutputNames result).map (fun name =>
          (name, .reference next (.output name))) ++ fields)
      else
        .ok ((outputName, .reference next .result) :: fields)

/-- Rows become an array of objects, a single row an object. -/
def rowExpression
    (source : CollectionSource)
    (fields : List (String × SqlExpr)) : SqlExpr :=
  match source.shape.cardinality with
  | .collection => .aggArray (.buildObject fields)
  | .atMostOne => .buildObject fields

/-- A flattened selection exports its fields one by one. -/
def rowExports
    (source : CollectionSource)
    (generation : SelectionGenerationContext)
    (fields : List (String × SqlExpr)) : List (ColumnName × SqlExpr) :=
  if generation.flattened then
    exportFields generation fields
  else
    [(generation.resultName, rowExpression source fields)]

mutual

/-- The statement of a collection, with one lateral source for each relation. -/
def generateCollection :
    CollectionPlan → SelectionGenerationContext →
      Except SqlGenerationError SelectStatement
  | .mk source (.rows items), generation => do
      let sources ← generateChildren items
      let fields ← selectionFieldExpressions catalog 0 items
      .ok (.mk sources (rowExports source generation fields))
  | .mk _ (.aggregate plan), generation => generateAggregate catalog plan generation

/-- The lateral sources of a row. -/
def generateChildren :
    List SelectionPlanItem → Except SqlGenerationError (List SelectStatement)
  | [] => .ok []
  | .projection _ :: items => generateChildren items
  | .relation _ flattened _ collection :: items => do
      let child ← generateCollection collection ⟨true, none, flattened⟩
      let children ← generateChildren items
      .ok (child :: children)

end

/-! ## The statement -/

/-- Adjacent repetitions become one. -/
def dedupAdjacent : List String → List String
  | [] => []
  | [name] => [name]
  | name :: next :: names =>
      if name = next then
        dedupAdjacent (next :: names)
      else
        name :: dedupAdjacent (next :: names)

/-- The output names of a root, without adjacent repetitions. -/
def rootOutputNames (plan : QueryRootPlan) : List String :=
  dedupAdjacent
    (if plan.flattened then
      collectCollectionOutputNames plan.collection.result
    else
      [plan.outputName])

/-- The named columns of a source. -/
def referenceColumns (source : Nat) (names : List String) :
    List (ColumnName × SqlExpr) :=
  names.map (fun name => (.output name, .reference source (.output name)))

/-- A row beside which the root is joined, so that an absent row is still
returned. -/
def singularRootEnvelope
    (names : List String)
    (root : SelectStatement) : SelectStatement :=
  .mk [root] (referenceColumns 0 names)

/-- The statement of a root; a single row is put in an envelope. -/
def generateRootQuery (plan : QueryRootPlan) :
    Except SqlGenerationError (SelectStatement × List String) := do
  let root ← generateCollection catalog plan.collection
    ⟨false, some plan.outputName, plan.flattened⟩
  let names := rootOutputNames plan
  match plan.collection.result, plan.collection.source.shape.cardinality with
  | .rows _, .atMostOne => .ok (singularRootEnvelope names root, names)
  | _, _ => .ok (root, names)

/-- Several roots are joined as sources of one select. -/
def combineRootQueries (roots : List (SelectStatement × List String)) :
    Except SqlGenerationError SelectStatement :=
  if roots.isEmpty then
    .error .emptyQueryPlan
  else
    .ok (.mk (roots.map Prod.fst)
      (roots.zipIdx.flatMap (fun root => referenceColumns root.2 root.1.2)))

/-- The statement of a query. -/
def generateQuery (plan : QueryPlan) : Except SqlGenerationError SelectStatement := do
  let roots ← plan.roots.mapM (generateRootQuery catalog)
  match roots with
  | [(query, _)] => .ok query
  | roots => combineRootQueries roots

end Generation

/-! ## What the database returns -/

/-- How one scalar appears in JSON: in the form that its own type has there,
as a string, or as an array of strings. -/
inductive Representation where
  | native
  | text
  | textArray
deriving DecidableEq, Repr

/-- The JSON that arrives, by shape. -/
inductive JsonShape where
  | scalar (representation : Representation)
  | object (fields : List (String × JsonShape))
  | array (element : JsonShape)

/-- The type of an expression, as far as its conversion to JSON depends on
it. -/
inductive SqlType where
  | native
  | text
  | textArray
  | json (shape : JsonShape)

/-- The JSON that a value of a type becomes. -/
def SqlType.toJson : SqlType → JsonShape
  | .native => .scalar .native
  | .text => .scalar .text
  | .textArray => .scalar .textArray
  | .json shape => shape

/-- A reference to a column that is not there or not alone is rejected. -/
def resolveColumn
    (columns : List (ColumnName × SqlType))
    (name : ColumnName) : Option SqlType :=
  match columns.filter (fun column => column.1 == name) with
  | [(_, type)] => some type
  | _ => none

mutual

/-- Type of an expression over the columns of the sources. -/
def typeOf (sources : List (List (ColumnName × SqlType))) :
    SqlExpr → Option SqlType
  | .column _ => some .native
  | .aggregate _ _ => some .native
  | .reference source name =>
      match sources[source]? with
      | none => none
      | some columns => resolveColumn columns name
  | .castText operand => (typeOf sources operand).map (fun _ => .text)
  | .castTextArray operand => (typeOf sources operand).map (fun _ => .textArray)
  | .buildObject fields =>
      (typesOf sources fields).map (fun shapes => .json (.object shapes))
  | .aggArray row =>
      (typeOf sources row).map (fun type => .json (.array type.toJson))
  | .toJson operand => (typeOf sources operand).map (fun type => .json type.toJson)

/-- The shapes of the fields of an object. -/
def typesOf (sources : List (List (ColumnName × SqlType))) :
    List (String × SqlExpr) → Option (List (String × JsonShape))
  | [] => some []
  | (name, expression) :: fields =>
      match typeOf sources expression, typesOf sources fields with
      | some type, some shapes => some ((name, type.toJson) :: shapes)
      | _, _ => none

end

/-- The columns that a select exports, with their types. -/
def exportedTypes (sources : List (List (ColumnName × SqlType))) :
    List (ColumnName × SqlExpr) → Option (List (ColumnName × SqlType))
  | [] => some []
  | (name, expression) :: exported =>
      match typeOf sources expression, exportedTypes sources exported with
      | some type, some columns => some ((name, type) :: columns)
      | _, _ => none

mutual

/-- The columns of a statement with their types; a rejected statement has
none. -/
def SelectStatement.columns :
    SelectStatement → Option (List (ColumnName × SqlType))
  | .mk sources exported =>
      match sourceColumns sources with
      | none => none
      | some types => exportedTypes types exported

/-- The columns of each source. -/
def sourceColumns :
    List SelectStatement → Option (List (List (ColumnName × SqlType)))
  | [] => some []
  | source :: sources =>
      match source.columns, sourceColumns sources with
      | some columns, some others => some (columns :: others)
      | _, _ => none

end

end Results
end Dsql
