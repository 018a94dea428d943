import Dsql.Sql.Filter
import Dsql.Sql.Meaning

/-!
# What a plan answers

The documents that a plan stands for, by its collections: the rows that are
admitted, in their order and within their bounds, each beside the rows that its
relations answer with.  Nothing here mentions statements.
-/

namespace Dsql

namespace Postgres

open Logic Results

/-- Where a collection stands: the row source above it with the relation that
leads here, and the outermost row source. -/
structure SelectionPosition where
  parent : Option (Dsql.SqlRowView × Relation)
  root : Option Dsql.SqlRowView

def SelectionPosition.top : SelectionPosition := ⟨none, none⟩

def SelectionPosition.below
    (view root : Dsql.SqlRowView)
    (relation : Relation) : SelectionPosition :=
  ⟨some (view, relation), some root⟩

/-- The scope of the `where` of a collection. -/
def SelectionPosition.scope
    (position : SelectionPosition)
    (view : Dsql.SqlRowView) : Dsql.FilterSqlScope :=
  { current := view
    root := position.root.getD view
    predicateSource := view
    parent := position.parent.map Prod.fst }

/-- The conditions that admit a row: the correlation with the row above it and
the guard of the relation there, its row policy and its `where`. -/
def admittingConditions
    (catalog : Catalog)
    (source : CollectionSource)
    (context : SelectionContext)
    (position : SelectionPosition) : List SqlExpr :=
  let view := readableView catalog context source.fieldFilters
  let depth := context.level + 1
  position.parent.elim [] (fun above =>
      Dsql.relationCondition above.1.context context above.2) ++
    (position.parent.elim [] (fun above =>
        (above.1.guard (.relation above.2.id) depth).toList) ++
      filterConditions catalog (.raw context) depth source.policyFilter ++
      filterConditions catalog (position.scope view) depth
        source.clauses.filter)

end Postgres

/-- A collection that orders and limits its rows before anything else reads
them. -/
def Results.CollectionSource.separate
    (source : Results.CollectionSource)
    (options : Postgres.PostgresSqlOptions) : Bool :=
  source.shape.cardinality == .collection &&
    Postgres.shouldUseSourceSubquery source.clauses options

namespace Postgres

open Logic Results

/-- Fields as columns of their own or as one object. -/
def objectOrColumns
    {S : Type}
    (name : Option String)
    (flattened : Bool)
    (fields : List (String × Doc S)) : Outputs S :=
  if flattened then
    fields.map (fun field => (some field.1, field.2))
  else
    [(name, .object fields)]

/-- Named columns of a row. -/
def namedColumns
    {S : Type}
    (names : List String)
    (outputs : Outputs S) : List (String × Doc S) :=
  names.map (fun name => (name, outputs.value (some name)))

/-- A row of nulls where there is no row. -/
def orNulls {S : Type} : List (Outputs S) → List (Outputs S)
  | [] => [[]]
  | rows => rows

/-- Aggregates summarize all rows; without aggregates every row is one. -/
def summaries
    {α : Type}
    (fields : List AggregateProjection)
    (rows : List α) : List (List α) :=
  if fields.isEmpty then rows.map (fun row => [row]) else [rows]

/-- Every combination of the rows of several roots. -/
def crossRows {S : Type} :
    List (List String × List (Outputs S)) → List (Outputs S)
  | [] => [[]]
  | (names, answers) :: roots =>
      answers.flatMap (fun outputs => (crossRows roots).map (fun rest =>
        objectOrColumns none true (namedColumns names outputs) ++ rest))

namespace Server

variable {S : Type} [DecidableEq S] (server : Server S) (binding : Binding S)

/-! ## Rows of one source -/

section Rows

variable (env : Env S) (view : Dsql.SqlRowView)

/-- The value of a column under its guard. -/
def columnValue (column : ColumnId) (row : Row S) : Datum S :=
  (server.bound binding).eval ((view.context, row) :: env)
    (view.maskedColumnExpression (view.context.level + 1) column)

/-- Rows in the order of one field that an input selects. -/
def selectedOrder
    (fields : List DynamicInputFieldPlan)
    (selected : String × DynamicOrderDirection) : Comparison (Row S) :=
  match fields.find? (fun field => field.key == selected.1) with
  | none => .trivial
  | some field =>
      if field.directions.contains selected.2 then
        (server.order selected.2).on
          (server.columnValue binding env view field.column)
      else
        .trivial

def rowOrder : OrderByPlan → Comparison (Row S)
  | .column column .asc =>
      (server.order .asc).on (server.columnValue binding env view column)
  | .column column .desc =>
      (server.order .desc).on (server.columnValue binding env view column)
  | .column column (.variant path variants _) =>
      server.directed (server.selectedText variants path)
        (server.columnValue binding env view column)
  | .dynamic path _ fields =>
      .lexAll ((server.ordering path).map
        (server.selectedOrder binding env view fields))

/-- The order that the clauses of a collection name. -/
def writtenOrder (clauses : SelectionClauses) : Comparison (Row S) :=
  .lexAll (clauses.orderBy.map (server.rowOrder binding env view))

/-- An aggregate of rows. -/
def aggregateDatum
    (field : AggregateProjection)
    (rows : List (Row S)) : Datum S :=
  match field.function, field.operand with
  | .exists, _ => .bool !rows.isEmpty
  | _, none => .scalar (server.engine.count rows.length)
  | function, some column =>
      server.engine.aggregateValue function
        (rows.map (server.columnValue binding env view column))

def aggregateFields
    (fields : List AggregateProjection)
    (rows : List (Row S)) : List (String × Doc S) :=
  fields.map (fun field =>
    (field.outputName, .datum (server.publicAggregate field.function
      field.operand (server.aggregateDatum binding env view field rows))))

/-- The keys of a group, as its first row has them. -/
def keyFields
    (keys : List AggregateGroupProjection)
    (group : List (Row S)) : List (String × Doc S) :=
  keys.map (fun key =>
    (key.outputName, .datum (server.publicColumn key.column
      (group.head?.elim .null (server.columnValue binding env view key.column)))))

def groupsOf
    (aggregate : AggregatePlan)
    (rows : List (Row S)) : List (List (Row S)) :=
  if aggregate.groupKeys.isEmpty then
    summaries aggregate.fields rows
  else
    groupsBy (fun row => aggregate.groupKeys.map (fun key =>
      server.columnValue binding env view key.column row)) rows

/-- The columns of a group. -/
def groupOutputs
    (aggregate : AggregatePlan)
    (group : List (Row S)) : Outputs S :=
  objectOrColumns none true
    (server.keyFields binding env view aggregate.groupKeys group ++
      server.aggregateFields binding env view aggregate.fields group)

def aggregateNames (aggregate : AggregatePlan) : List String :=
  aggregate.groupKeys.map (·.outputName) ++ aggregate.fields.map (·.outputName)

def aggregateAnswers
    (aggregate : AggregatePlan)
    (name : Option String)
    (flattened : Bool)
    (rows : List (Row S)) : List (Outputs S) :=
  match aggregate.mode with
  | .ungrouped =>
      (summaries aggregate.fields rows).map (fun group =>
        objectOrColumns name flattened
          (server.aggregateFields binding env view aggregate.fields group))
  | .grouped =>
      [[(name, .array ((server.groupsOf binding env view aggregate rows).map
        (fun group => .object (namedColumns (aggregateNames aggregate)
          (server.groupOutputs binding env view aggregate group)))))]]

/-- The fields of a row beside the rows of its relations. -/
def rowFields :
    List SelectionPlanItem → Row S → List (Outputs S) → List (String × Doc S)
  | [], _, _ => []
  | .projection projection :: items, row, related =>
      (projection.outputName, .datum (server.publicColumn projection.column
        (server.columnValue binding env view projection.column row))) ::
        rowFields items row related
  | .relation outputName flattened _ collection :: items, row, related =>
      (if flattened then
        namedColumns (collectCollectionOutputNames collection.result)
          (related.headD [])
      else
        [(outputName, (related.headD []).value none)]) ++
        rowFields items row related.tail

end Rows

/-! ## Bounds -/

section Bounds

variable {α : Type} (clauses : SelectionClauses)

/-- The limit under a guard. -/
def limit (guard : Option Nat) : Option Nat :=
  match clauses.limit, guard with
  | some (.parameter parameter), some guard =>
      some (server.least guard (server.inputs.value parameter.path))
  | some (.parameter parameter), none =>
      server.natural (server.inputs.value parameter.path)
  | _, some limit => some limit
  | some (.literal limit), none => some limit
  | none, none => none

def offset : Nat :=
  match clauses.offset with
  | some (.literal offset) => offset
  | some (.parameter parameter) =>
      (server.natural (server.inputs.value parameter.path)).getD 0
  | none => 0

def bounded (guard : Option Nat) (rows : List α) : List α :=
  takeAtMost (server.limit clauses guard) (rows.drop (server.offset clauses))

end Bounds

/-! ## Collections -/

section Rows

variable (options : PostgresSqlOptions) (source : CollectionSource)
  (env : Env S) (view : Dsql.SqlRowView)

/-- The rows that relations are joined to. -/
def chosenRows (rows : List (Row S)) : List (Row S) :=
  if source.separate options then
    server.bounded source.clauses (effectiveLimit source.clauses options)
      ((server.writtenOrder binding env view source.clauses).sort rows)
  else
    rows

/-- Rows beside the rows of their relations, in the written order. -/
def joinedRows
    (rows : List (Row S))
    (related : Row S → List (List (Outputs S))) :
    List (Row S × List (Outputs S)) :=
  ((server.writtenOrder binding env view source.clauses).on Prod.fst).sort
    ((server.chosenRows binding options source env view rows).flatMap (fun row =>
      (related row).map (fun joined => (row, joined))))

/-- The bounds of a collection that has not applied them to its rows. -/
def outerBounds {α : Type} (answers : List α) : List α :=
  if source.separate options then answers
  else server.bounded source.clauses none answers

def rowAnswers
    (items : List SelectionPlanItem)
    (name : Option String)
    (flattened : Bool)
    (rows : List (Row S))
    (related : Row S → List (List (Outputs S))) : List (Outputs S) :=
  let joined := server.joinedRows binding options source env view rows related
  let fields := fun item : Row S × List (Outputs S) =>
    server.rowFields binding env view items item.1 item.2
  if flattened ∨ source.shape.cardinality = .atMostOne then
    (server.outerBounds options source joined).map (fun item =>
      objectOrColumns name flattened (fields item))
  else
    server.outerBounds options source
      [[(name, .array (joined.map (fun item => .object (fields item))))]]

end Rows

section Collections

variable (catalog : Catalog) (options : PostgresSqlOptions)

def admittedRows
    (env : Env S)
    (source : CollectionSource)
    (context : SelectionContext)
    (position : SelectionPosition) : List (Row S) :=
  (server.bound binding).rowsWhere env context source.table
    (admittingConditions catalog source context position)

mutual

/-- The rows of the result of a collection. -/
def collectionAnswers
    (env : Env S)
    (path : List AliasSegment)
    (position : SelectionPosition)
    (name : Option String)
    (flattened : Bool) : CollectionPlan → List (Outputs S)
  | .mk source (.aggregate aggregate) =>
      let context : SelectionContext := ⟨⟨path⟩, env.length⟩
      server.aggregateAnswers binding env
        (readableView catalog context source.fieldFilters) aggregate name
        flattened (server.admittedRows binding catalog env source context position)
  | .mk source (.rows items) =>
      let context : SelectionContext := ⟨⟨path⟩, env.length⟩
      let view := readableView catalog context source.fieldFilters
      server.rowAnswers binding options source env view items name flattened
        (server.admittedRows binding catalog env source context position)
        (fun row => relatedAnswers ((context, row) :: env) path view
          (position.root.getD view) [] items)

/-- What the relations of a row answer: every combination of their rows. -/
def relatedAnswers
    (env : Env S)
    (path : List AliasSegment)
    (view root : Dsql.SqlRowView)
    (before : List SelectionPlanItem) :
    List SelectionPlanItem → List (List (Outputs S))
  | [] => [[]]
  | .projection projection :: items =>
      relatedAnswers env path view root (before ++ [.projection projection])
        items
  | .relation outputName flattened relationId collection :: items =>
      match catalog.relationById relationId with
      | none => []
      | some relation =>
          (orNulls (collectionAnswers env
            (relationInstancePath before collection.source.table outputName
              path)
            (.below view root relation) none flattened collection)).flatMap
            (fun outputs =>
              (relatedAnswers env path view root
                (before ++
                  [.relation outputName flattened relationId collection])
                items).map (fun joined => outputs :: joined))

end

/-! ## Queries -/

/-- A singular root answers with one row in any case. -/
def rootAnswers (plan : QueryRootPlan) : List (Outputs S) :=
  let answers := server.collectionAnswers binding catalog options []
    [.selection plan.collection.source.table plan.outputName 0] .top
    (some plan.outputName) plan.flattened plan.collection
  if plan.collection.result.isRows ∧
      plan.collection.source.shape.cardinality = .atMostOne then
    (orNulls answers).map (fun outputs =>
      objectOrColumns none true (namedColumns (rootOutputNames plan) outputs))
  else
    answers

def planAnswers (plan : QueryPlan) : List (Outputs S) :=
  match plan.roots with
  | [root] => server.rootAnswers binding catalog options root
  | roots => crossRows (roots.map (fun root =>
      (rootOutputNames root, server.rootAnswers binding catalog options root)))

end Collections

end Server

end Postgres

end Dsql
