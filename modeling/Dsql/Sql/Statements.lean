import Dsql.Results.Plans
import Dsql.Sql.Rendering

/-!
# Rendering of plans

The statement of a planned query: a `select` for every collection, with its
relations joined laterally, and around several roots one that joins them.
-/

namespace Dsql

namespace Postgres

open SqlTemplateContext Results

/-- The configured cap of every collection. -/
structure PostgresSqlOptions where
  collectionLimit : Option Nat

/-- Where a collection stands: the row source above it with the relation that
leads here, the outermost one, and how its result is named. -/
structure SelectionGenerationContext where
  parent : Option (SqlRowView × Relation)
  root : Option SqlRowView
  publicResultAlias : Option String
  flattened : Bool

/-! ## Limits and orders -/

def sqlValueU64 : Option SqlValue → Option Nat
  | some (.literal value) => some value
  | _ => none

def effectiveLimit
    (clauses : SelectionClauses)
    (options : PostgresSqlOptions) : Option Nat :=
  match sqlValueU64 clauses.limit, options.collectionLimit with
  | some source, some guard => some (min source guard)
  | some source, none => some source
  | none, some guard => some guard
  | none, none => none

def shouldUseSourceSubquery
    (clauses : SelectionClauses)
    (options : PostgresSqlOptions) : Bool :=
  (effectiveLimit clauses options).isSome || clauses.offset.isSome ||
    !clauses.orderBy.isEmpty

section Clauses

variable (catalog : Catalog) (context : SqlRowView)

def directionVariant
    (path : InputPath)
    (variants : List SqlVariantCase)
    (nullable : Bool) : Rendering Unit :=
  if nullable then nullableVariant path variants else variant path variants

/-- The terms of a column whose direction an input selects: one for each
direction, of which one is null. -/
def directionTerms (path : InputPath) (expression : Sql) : List Sql :=
  [.node (.orderBy .asc) [.node (.directionCase path .asc) [expression]],
    .node (.orderBy .desc) [.node (.directionCase path .desc) [expression]]]

def dynamicOrder
    (path : InputPath)
    (fields : List DynamicInputFieldPlan) : Rendering (List Sql) := do
  let fields ← generatedDynamicOrderFields catalog context fields
  let marker ← dynamicSite path .order fields
  return [.node (.orderBy .asc) [marker]]

/-- The terms of an `order by` in a query.  A column without a guard gets its
direction in the text. -/
def orderTerms : OrderByPlan → Rendering (List Sql)
  | .column columnId .asc => do
      let expression ← maskedColumnExpression catalog context columnId
      return [.node (.orderBy .asc) [expression]]
  | .column columnId .desc => do
      let expression ← maskedColumnExpression catalog context columnId
      return [.node (.orderBy .desc) [expression]]
  | .column columnId (.variant path variants nullable) =>
      if !nullable &&
          (context.policyFieldFilter (.column columnId)).isNone then do
        let expression ← rawColumn catalog context columnId
        replaceOrderDirection context.context columnId path variants
        return [.node (.orderVariant path) [expression]]
      else do
        let expression ← maskedColumnExpression catalog context columnId
        directionVariant path variants nullable
        return directionTerms path expression
  | .dynamic path _ fields => dynamicOrder catalog context path fields

/-- The terms of the `order by` inside of an aggregated array. -/
def aggregatedOrderTerms : OrderByPlan → Rendering (List Sql)
  | .column columnId .asc => do
      let expression ← maskedColumnExpression catalog context columnId
      return [.node (.orderBy .asc) [expression]]
  | .column columnId .desc => do
      let expression ← maskedColumnExpression catalog context columnId
      return [.node (.orderBy .desc) [expression]]
  | .column columnId (.variant path variants nullable) => do
      let expression ← maskedColumnExpression catalog context columnId
      directionVariant path variants nullable
      return directionTerms path expression
  | .dynamic path _ fields => dynamicOrder catalog context path fields

/-- The limit of a query under an override. -/
def limitClause
    (clauses : SelectionClauses)
    (limitOverride : Option Nat) : Rendering (List Sql) :=
  match clauses.limit, limitOverride with
  | some (.parameter parameter), some guard => do
      let placeholder ← SqlTemplateContext.parameter parameter
      return [.node .limit [.node (.least guard) [placeholder]]]
  | some (.parameter parameter), none => do
      let placeholder ← SqlTemplateContext.parameter parameter
      return [.node .limit [placeholder]]
  | _, some limit => return [.node .limit [.node (.number limit) []]]
  | some (.literal limit), none =>
      return [.node .limit [.node (.number limit) []]]
  | none, none => return []

def offsetClause (clauses : SelectionClauses) : Rendering (List Sql) :=
  match clauses.offset with
  | some (.literal offset) =>
      return [.node .offset [.node (.number offset) []]]
  | some (.parameter parameter) => do
      let placeholder ← SqlTemplateContext.parameter parameter
      return [.node .offset [placeholder]]
  | none => return []

def applyOrderLimitOffset
    (clauses : SelectionClauses)
    (limitOverride : Option Nat) : Rendering (List Sql) := do
  let orders ← clauses.orderBy.mapM (orderTerms catalog context)
  let limit ← limitClause clauses limitOverride
  let offset ← offsetClause clauses
  return orders.flatten ++ limit ++ offset

/-- The array of the rows of a collection, in the written order. -/
def orderedJsonAgg
    (object : Sql)
    (clauses : SelectionClauses) : Rendering Sql := do
  let orders ← clauses.orderBy.mapM (aggregatedOrderTerms catalog context)
  return .node .jsonAgg (object :: orders.flatten)

end Clauses

/-! ## Selected fields -/

/-- How often a relation of a table occurs under one name. -/
def occurrences
    (before : List SelectionPlanItem)
    (table : TableId)
    (outputName : String) : Nat :=
  before.countP (fun
    | .projection _ => false
    | .relation otherName _ _ collection =>
        collection.source.table == table && otherName == outputName)

def relationInstancePath
    (before : List SelectionPlanItem)
    (table : TableId)
    (outputName : String)
    (parentPath : List AliasSegment) : List AliasSegment :=
  parentPath ++
    [.selection table outputName (occurrences before table outputName)]

section Fields

variable (catalog : Catalog) (context : SqlRowView)
  (path : List AliasSegment)

/-- The fields of the items behind those before them. -/
def selectionFieldExpressions
    (before : List SelectionPlanItem) :
    List SelectionPlanItem → Rendering (List (String × Sql))
  | [] => return []
  | .projection projection :: items => do
      let expression ←
        maskedColumnExpression catalog context projection.column
      let fields ← selectionFieldExpressions
        (before ++ [.projection projection]) items
      return (projection.outputName,
        .node (.publicColumn projection.column) [expression]) :: fields
  | .relation outputName flattened relation collection :: items => do
      let related ← table catalog collection.source.table
      let source : Alias :=
        ⟨relationInstancePath before related.id outputName path⟩
      let fields ← selectionFieldExpressions
        (before ++ [.relation outputName flattened relation collection]) items
      return (if flattened then
          (collectCollectionOutputNames collection.result).map (fun name =>
            (name, Sql.node (.output (.related source) (some name)) []))
        else
          [(outputName, .node (.output (.related source) none) [])]) ++ fields

def aggregateField (field : AggregateProjection) :
    Rendering (String × Sql) := do
  let value ← aggregateValueExpression catalog context field.function
    field.operand
  return (field.outputName,
    .node (.publicAggregate field.function field.operand) [value])

end Fields

def jsonBuildObject (fields : List (String × Sql)) : Sql :=
  .node (.jsonBuildObject (fields.map Prod.fst)) (fields.map Prod.snd)

/-- Fields as columns of their own; those of a root are encoded. -/
def exportedFields
    (encoded : Bool)
    (fields : List (String × Sql)) : List Sql :=
  fields.map (fun field =>
    .node (.field (some field.1))
      [if encoded then .node .jsonWire [field.2] else field.2])

/-! ## Collections -/

/-- The guard of the relation that leads to a collection. -/
def parentFilter
    (generation : SelectionGenerationContext) : Rendering (List Sql) :=
  match generation.parent with
  | none => return []
  | some (parent, relation) => relationFilter parent relation

/-- The correlation with the row of the parent. -/
def parentCondition
    (catalog : Catalog)
    (context : Alias)
    (generation : SelectionGenerationContext) : Rendering (List Sql) :=
  match generation.parent with
  | none => return []
  | some (parent, relation) =>
      relationCondition catalog parent.context context relation

/-- The scope of the `where` of a collection. -/
def collectionScope
    (view root : SqlRowView)
    (generation : SelectionGenerationContext) : FilterSqlScope :=
  { current := view
    root := root
    predicateSource := view
    parent := generation.parent.map Prod.fst }

/-- The conditions of a collection: the guard of its relation, its row policy
and its `where`. -/
def collectionFilters
    (catalog : Catalog)
    (source : CollectionSource)
    (context : Alias)
    (view root : SqlRowView)
    (generation : SelectionGenerationContext) : Rendering (List Sql) := do
  let relation ← parentFilter generation
  let policy ← optionalFilter catalog (.raw context) source.policyFilter
  let query ← optionalFilter catalog (collectionScope view root generation)
    source.clauses.filter
  return relation ++ policy ++ query

def conditions (filters : List Sql) : List Sql :=
  filters.map (fun filter => .node .condition [filter])

section Groups

variable (catalog : Catalog) (context : SqlRowView)

/-- A group key is selected and grouped by. -/
def groupKey (key : AggregateGroupProjection) : Rendering (List Sql) := do
  let grouped ← maskedColumnExpression catalog context key.column
  return [.node (.field (some key.outputName))
      [.node (.publicColumn key.column) [grouped]],
    .node .groupBy [grouped]]

/-- A grouped query inside of the one that aggregates its groups. -/
def generateGroupedAggregate
    (clauses : List Sql)
    (aggregate : AggregatePlan)
    (publicResultAlias : Option String) : Rendering Sql := do
  let keys ← aggregate.groupKeys.mapM (groupKey catalog context)
  let fields ← aggregate.fields.mapM (aggregateField catalog context)
  let names := aggregate.groupKeys.map (·.outputName) ++
    aggregate.fields.map (·.outputName)
  let grouped := .node .select (clauses ++ keys.flatten ++
    exportedFields false fields)
  let object := jsonBuildObject (names.map (fun name =>
    (name, Sql.node (.output (.groups context.context) (some name)) [])))
  return .node .select
    [.node (.fromGroups context.context) [grouped],
      .node (.field publicResultAlias)
        [.node .coalesceEmpty [.node .jsonAgg [object]]]]

end Groups

/-- What a row source selects: its fields as columns of their own, or one
object. -/
def objectOrFields
    (generation : SelectionGenerationContext)
    (fields : List (String × Sql)) : List Sql :=
  if generation.flattened then
    exportedFields generation.parent.isNone fields
  else
    [.node (.field generation.publicResultAlias) [jsonBuildObject fields]]

def generateAggregate
    (catalog : Catalog)
    (source : CollectionSource)
    (aggregate : AggregatePlan)
    (path : List AliasSegment)
    (generation : SelectionGenerationContext) : Rendering Sql := do
  let current ← table catalog source.table
  let context : Alias := ⟨path⟩
  let view := readable catalog context source.fieldFilters
  let correlation ← parentCondition catalog context generation
  let filters ← collectionFilters catalog source context view
    (generation.root.getD view) generation
  let clauses := .node (.fromTable current.id context) [] ::
    conditions (correlation ++ filters)
  match aggregate.mode with
  | .grouped =>
      generateGroupedAggregate catalog view clauses aggregate
        generation.publicResultAlias
  | .ungrouped => do
      let fields ← aggregate.fields.mapM (aggregateField catalog view)
      return .node .select (clauses ++ objectOrFields generation fields)

/-- The row source of a collection: its table, or a subquery that orders and
limits the rows before anything else reads them. -/
def rowSource
    (catalog : Catalog)
    (options : PostgresSqlOptions)
    (source : CollectionSource)
    (current : Table)
    (view : SqlRowView)
    (correlation filters : List Sql) : Rendering (List Sql) :=
  let clauses := .node (.fromTable current.id view.context) [] ::
    conditions (correlation ++ filters)
  if source.shape.cardinality = .collection ∧
      shouldUseSourceSubquery source.clauses options then do
    let bounds ← applyOrderLimitOffset catalog view source.clauses
      (effectiveLimit source.clauses options)
    return [.node (.fromSubquery view.context)
      [.node .select (clauses ++ bounds)]]
  else do
    let bounds ← applyOrderLimitOffset catalog view source.clauses none
    return clauses ++ bounds

/-- What rows select: their fields, one object, or the array of the
objects. -/
def rowOutput
    (catalog : Catalog)
    (source : CollectionSource)
    (view : SqlRowView)
    (generation : SelectionGenerationContext)
    (fields : List (String × Sql)) : Rendering (List Sql) :=
  if generation.flattened ∨ source.shape.cardinality = .atMostOne then
    return objectOrFields generation fields
  else do
    let array ← orderedJsonAgg catalog view (jsonBuildObject fields)
      source.clauses
    return [.node (.field generation.publicResultAlias)
      [.node .coalesceEmpty [array]]]

section Collections

variable (catalog : Catalog) (options : PostgresSqlOptions)

mutual

@[grind =]
def generateCollection
    (path : List AliasSegment)
    (generation : SelectionGenerationContext) :
    CollectionPlan → Rendering Sql
  | .mk source (.aggregate aggregate) =>
      generateAggregate catalog source aggregate path generation
  | .mk source (.rows items) => do
      let current ← table catalog source.table
      let context : Alias := ⟨path⟩
      let view := readable catalog context source.fieldFilters
      let root := generation.root.getD view
      let correlation ← parentCondition catalog context generation
      let filters ←
        collectionFilters catalog source context view root generation
      let rows ←
        rowSource catalog options source current view correlation filters
      let children ← generateChildren path view root [] items
      let fields ← selectionFieldExpressions catalog view path [] items
      let output ← rowOutput catalog source view generation fields
      return .node .select (rows ++ children ++ output)

/-- The lateral joins of the relations behind the items before them. -/
@[grind =]
def generateChildren
    (path : List AliasSegment)
    (view root : SqlRowView)
    (before : List SelectionPlanItem) :
    List SelectionPlanItem → Rendering (List Sql)
  | [] => return []
  | .projection projection :: items =>
      generateChildren path view root (before ++ [.projection projection])
        items
  | .relation outputName flattened relationId collection :: items => do
      let related ← table catalog collection.source.table
      let relationPath :=
        relationInstancePath before related.id outputName path
      let relation ← catalogRelation catalog relationId
      let child ← generateCollection relationPath
        { parent := some (view, relation)
          root := some root
          publicResultAlias := none
          flattened := flattened } collection
      let children ← generateChildren path view root
        (before ++ [.relation outputName flattened relationId collection])
        items
      return .node (.lateral ⟨relationPath⟩) [child] :: children

end

/-! ## Queries -/

def rootOutputNames (plan : QueryRootPlan) : List String :=
  (if plan.flattened then collectCollectionOutputNames plan.collection.result
    else [plan.outputName]).destutter (· ≠ ·)

/-- The columns of a root query, selected from around it. -/
def rootFields (index : Nat) (outputNames : List String) : List Sql :=
  outputNames.map (fun name =>
    .node (.field (some name)) [.node (.output (.root index) (some name)) []])

/-- A singular root answers with one row in any case. -/
def singularRootEnvelope (outputNames : List String) (query : Sql) : Sql :=
  .node .select
    (rootFields 0 outputNames ++ [.node .singleton [query]])

def generateRootQuery (plan : QueryRootPlan) :
    Rendering (Sql × List String) := do
  let root ← table catalog plan.collection.source.table
  let query ← generateCollection catalog options
    [.selection root.id plan.outputName 0]
    { parent := none
      root := none
      publicResultAlias := some plan.outputName
      flattened := plan.flattened } plan.collection
  let outputNames := rootOutputNames plan
  if plan.collection.result.isRows ∧
      plan.collection.source.shape.cardinality = .atMostOne then
    return (singularRootEnvelope outputNames query, outputNames)
  else
    return (query, outputNames)

/-- Several roots are joined, each under an alias of its own. -/
def combineRootQueries (roots : List (Sql × List String)) : Rendering Sql :=
  if roots.isEmpty then
    throw .emptyQueryPlan
  else
    return .node .select (roots.zipIdx.flatMap (fun root =>
      rootFields root.2 root.1.2 ++ [.node (.root root.2) [root.1.1]]))

def generateStatement (plan : QueryPlan) : Rendering Sql := do
  let roots ← plan.roots.mapM (generateRootQuery catalog options)
  match roots with
  | [(query, _)] => return query
  | roots => combineRootQueries roots

end Collections

structure GeneratedSql where
  statement : Sql
  template : SqlTemplateContext

def finalizeSqlTemplate
    (statement : Sql)
    (template : SqlTemplateContext) : Sql :=
  statement.replaceDirections template.replacements

def generatePostgresSql
    (catalog : Catalog)
    (options : PostgresSqlOptions)
    (plan : QueryPlan) : Except SqlGenerationError GeneratedSql := do
  let (statement, template) ←
    (generateStatement catalog options plan).run .new
  return ⟨finalizeSqlTemplate statement template, template⟩

end Postgres

end Dsql
