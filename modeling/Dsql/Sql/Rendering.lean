import Dsql.Sql.Template

/-!
# Rendering of filters

SQL generation renders a filter while it hands out parameter numbers.  A guard
of a row source is rendered anew at every place that reads its field.
-/

namespace Dsql

namespace Postgres

open SqlTemplateContext

/-- A row source with the rendering of the guards of its fields. -/
structure SqlRowView where
  context : Alias
  guards : List (PolicyFieldTarget × Rendering Sql)

namespace SqlRowView

def raw (context : Alias) : SqlRowView := ⟨context, []⟩

def policyFieldFilter
    (view : SqlRowView)
    (target : PolicyFieldTarget) : Option (Rendering Sql) :=
  (view.guards.find? (fun guard => guard.1 == target)).map Prod.snd

end SqlRowView

structure FilterSqlScope where
  current : SqlRowView
  root : SqlRowView
  predicateSource : SqlRowView
  parent : Option SqlRowView

namespace FilterSqlScope

def raw (context : Alias) : FilterSqlScope :=
  { current := .raw context
    root := .raw context
    predicateSource := .raw context
    parent := none }

def filterColumnSource
    (scope : FilterSqlScope) : FilterColumnScope → SqlRowView
  | .current => scope.current
  | .root => scope.root
  | .predicateSource => scope.predicateSource
  | .parent => scope.parent.getD scope.current

end FilterSqlScope

/-! ## Columns -/

section Columns

variable (catalog : Catalog) (source : SqlRowView)

def rawColumn (columnId : ColumnId) : Rendering Sql := do
  let column ← column catalog columnId
  return .node (.column source.context column.id) []

def maskedColumnExpression (columnId : ColumnId) : Rendering Sql := do
  let raw ← rawColumn catalog source columnId
  match source.policyFieldFilter (.column columnId) with
  | none => return raw
  | some guard => do
      let guard ← guard
      return .node .caseWhen [guard, raw]

/-- The expression of a field of a dynamic input, rendered outside the
statement. -/
def dynamicFieldExpression (columnId : ColumnId) : Rendering Sql :=
  maskedColumnExpression catalog source columnId

def textCast (columnId : ColumnId) : Option TypeKey :=
  match catalog.typeForColumn columnId with
  | none => none
  | some dataType =>
      if dataType.capabilities.wire == .textCast then
        some dataType.key
      else
        none

/-- The texts of an operator: a null test has one for each case. -/
def dynamicOperatorTexts
    (textCast : Option TypeKey)
    (expression : Sql) : DynamicPredicateOperator → List Sql
  | .isNull =>
      [.node (.dynamicNullTest false) [expression],
        .node (.dynamicNullTest true) [expression]]
  | operator => [.node (.dynamicOperator operator textCast) [expression]]

def generatedDynamicPredicateField
    (field : DynamicInputFieldPlan) :
    Rendering GeneratedDynamicInputSiteField := do
  let expression ← dynamicFieldExpression catalog source field.column
  return {
    key := field.key
    dataType := field.dataType
    operators := field.operators.map (fun operator =>
      ⟨operator,
        dynamicOperatorTexts (textCast catalog field.column) expression
          operator⟩)
    directions := [] }

def generatedDynamicPredicateFields
    (fields : List DynamicInputFieldPlan) :
    Rendering (List GeneratedDynamicInputSiteField) :=
  fields.mapM (generatedDynamicPredicateField catalog source)

def generatedDynamicOrderField
    (field : DynamicInputFieldPlan) :
    Rendering GeneratedDynamicInputSiteField := do
  let expression ← dynamicFieldExpression catalog source field.column
  return {
    key := field.key
    dataType := field.dataType
    operators := []
    directions := field.directions.map (fun direction =>
      (direction, .node (.dynamicDirection direction) [expression])) }

def generatedDynamicOrderFields
    (fields : List DynamicInputFieldPlan) :
    Rendering (List GeneratedDynamicInputSiteField) :=
  fields.mapM (generatedDynamicOrderField catalog source)

def aggregateValueExpression
    (function : AggregateFunction)
    (operand : Option ColumnId) : Rendering Sql := do
  let operand ← operand.mapM (maskedColumnExpression catalog source)
  match function, operand with
  | .count, none => return .node .countRows []
  | .count, some operand => return .node (.function .count) [operand]
  | .exists, _ => return .node .anyRows []
  | _, none => throw .missingAggregateOperand
  | function, some operand => return .node (.function function) [operand]

end Columns

/-- The equalities that correlate a related row with its source row. -/
def relationCondition
    (catalog : Catalog)
    (parent child : Alias)
    (relation : Relation) : Rendering (List Sql) :=
  (relation.localColumns.zip relation.targetColumns).mapM (fun columns => do
    let childColumn ← column catalog columns.2
    let parentColumn ← column catalog columns.1
    return .node (.binary .eq)
      [.node (.column child childColumn.id) [],
        .node (.column parent parentColumn.id) []])

/-- The guard of a relation on its source row. -/
def relationFilter
    (source : SqlRowView)
    (relation : Relation) : Rendering (List Sql) :=
  match source.policyFieldFilter (.relation relation.id) with
  | none => return []
  | some guard => do
      let guard ← guard
      return [guard]

/-! ## Filters with a presence -/

structure ConditionalFilter where
  present : Option Sql
  value : Sql

namespace ConditionalFilter

def valueOrAbsent (value present : Sql) : Sql :=
  .node (.binary .or) [value, .node .not [present]]

def valueIfPresent (value present : Sql) : Sql :=
  .node (.binary .and) [value, present]

def filterExpr (rendered : ConditionalFilter) : Sql :=
  match rendered.present with
  | none => rendered.value
  | some present => valueOrAbsent rendered.value present

def absent : ConditionalFilter :=
  ⟨some (.node (.keyword "FALSE") []), .node (.keyword "TRUE") []⟩

def optional (inner : ConditionalFilter) (placeholder : Sql) :
    ConditionalFilter :=
  let guard := .node .isPresent [placeholder]
  ⟨match inner.present with
    | some present => some (.node (.binary .and) [guard, present])
    | none => some guard,
    inner.value⟩

def negated (operand : ConditionalFilter) : ConditionalFilter :=
  ⟨operand.present, .node .not [operand.value]⟩

/-- A conjunction holds without its absent parts, a disjunction needs a part
that is present. -/
def combine (left : ConditionalFilter) (and : Bool)
    (right : ConditionalFilter) : ConditionalFilter :=
  let op : SqlConstruct := .binary (if and then .and else .or)
  let part := if and then valueOrAbsent else valueIfPresent
  match left.present, right.present with
  | none, none => ⟨none, .node op [left.value, right.value]⟩
  | none, some present =>
      ⟨none, .node op [left.value, part right.value present]⟩
  | some present, none =>
      ⟨none, .node op [part left.value present, right.value]⟩
  | some leftPresent, some rightPresent =>
      ⟨some (.node (.binary .or) [leftPresent, rightPresent]),
        .node op [part left.value leftPresent, part right.value rightPresent]⟩

end ConditionalFilter

/-! ## Comparisons -/

/-- Which side of a comparison is tested when the other one is a literal
null. -/
inductive NullOperand where
  | left
  | right
deriving DecidableEq, Repr

def nullComparisonOperand (left right : FilterExpr) : Option NullOperand :=
  match left, right with
  | .literal .null, _ => some .right
  | _, .literal .null => some .left
  | _, _ => none

section Comparisons

variable (catalog : Catalog) (scope : FilterSqlScope)

/-- A null test; `rendered` renders its operand.  The guard of a column stands
beside the test. -/
def nullTestExpr
    (operand : FilterExpr)
    (rendered : Rendering Sql)
    (negated : Bool) : Rendering Sql :=
  match operand with
  | .column columnScope columnId => do
      let source := scope.filterColumnSource columnScope
      let raw ← rawColumn catalog source columnId
      let test : Sql := .node (.isNull negated) [raw]
      match source.policyFieldFilter (.column columnId) with
      | none => return test
      | some guard => do
          let guard ← guard
          return .node (.binary .and) [guard, test]
  | _ => do
      let operand ← rendered
      return .node (.isNull negated) [operand]

def comparisonExpr
    (left : FilterExpr)
    (op : FilterOp)
    (right : FilterExpr)
    (renderedLeft renderedRight : Rendering Sql) : Rendering Sql :=
  match if op = .eq ∨ op = .ne then nullComparisonOperand left right
    else none with
  | some .left => nullTestExpr catalog scope left renderedLeft (op == .ne)
  | some .right => nullTestExpr catalog scope right renderedRight (op == .ne)
  | none => do
      let left ← renderedLeft
      let right ← renderedRight
      return .node (.binary op) [left, right]

def variantExpr
    (left : FilterExpr)
    (path : InputPath)
    (variants : List SqlVariantCase)
    (right : FilterExpr)
    (renderedLeft renderedRight : Rendering Sql) : Rendering Sql := do
  variant path variants
  match nullComparisonOperand left right with
  | some .left => do
      let operand ← renderedLeft
      return .node (.variantNull path) [operand]
  | some .right => do
      let operand ← renderedRight
      return .node (.variantNull path) [operand]
  | none => do
      let left ← renderedLeft
      let right ← renderedRight
      return .node (.variant path) [left, right]

/-- Membership in a list; the operand of an empty list is rendered and
dropped. -/
def memberListExpr
    (operand : Sql)
    (items : List Sql)
    (negated : Bool) : Sql :=
  match items with
  | [] => .node (.keyword (if negated then "TRUE" else "FALSE")) []
  | items => .node (.inList negated) (operand :: items)

end Comparisons

def existsContext (table : TableId) : Alias := ⟨[.label table]⟩

def aggregateContext
    (table : TableId)
    (function : AggregateFunction) : Alias :=
  ⟨[.label table, .function function]⟩

/-- The scope of the body of an `exists`. -/
def bodyScope
    (scope : FilterSqlScope)
    (kind : ExistsKind)
    (view source : SqlRowView) : FilterSqlScope :=
  match kind with
  | .explicit =>
      { current := view
        root := scope.root
        predicateSource := view
        parent := some source }
  | .relationshipPredicate =>
      { current := view
        root := scope.root
        predicateSource := scope.predicateSource
        parent := scope.parent }

/-- The correlation with the source row and the guard of the relation there. -/
def relationConditions
    (catalog : Catalog)
    (source : SqlRowView)
    (child : Alias)
    (relationId : RelationId) : Rendering (List Sql) := do
  let relation ← catalogRelation catalog relationId
  let conditions ← relationCondition catalog source.context child relation
  let guard ← relationFilter source relation
  return conditions ++ guard

def optionalRelationConditions
    (catalog : Catalog)
    (source : SqlRowView)
    (child : Alias)
    (relation : Option RelationId) : Rendering (List Sql) :=
  match relation with
  | none => return []
  | some relation => relationConditions catalog source child relation

/-- A related subquery. -/
def relatedQuery
    (context : Alias)
    (table : TableId)
    (output : List Sql)
    (conditions : List Sql) : Sql :=
  .node .select (output ++ .node (.fromTable table context) [] ::
    conditions.map (fun condition => .node .condition [condition]))

/-! ## Filters -/

section Filters

variable (catalog : Catalog)

mutual

@[grind =]
def conditionalFilterExpr
    (scope : FilterSqlScope) : FilterExpr → Rendering ConditionalFilter
  | .absent => return .absent
  | .optional parameter operand => do
      let inner ← conditionalFilterExpr scope operand
      let placeholder ← SqlTemplateContext.parameter parameter
      return inner.optional placeholder
  | .binary left op right =>
      if op = .and ∨ op = .or then do
        let left ← conditionalFilterExpr scope left
        let right ← conditionalFilterExpr scope right
        return left.combine (op == .and) right
      else do
        let value ← comparisonExpr catalog scope left op right
          (ConditionalFilter.filterExpr <$> conditionalFilterExpr scope left)
          (ConditionalFilter.filterExpr <$> conditionalFilterExpr scope right)
        return ⟨none, value⟩
  | .not operand => do
      let operand ← conditionalFilterExpr scope operand
      return operand.negated
  | .column columnScope columnId => do
      let value ← maskedColumnExpression catalog
        (scope.filterColumnSource columnScope) columnId
      return ⟨none, value⟩
  | .parameter parameter => do
      let value ← SqlTemplateContext.parameter parameter
      return ⟨none, value⟩
  | .dynamicPredicate path _ fields => do
      let fields ← generatedDynamicPredicateFields catalog scope.current fields
      let marker ← dynamicSite path .predicate fields
      return ⟨none, marker⟩
  | .literal value => return ⟨none, .node (.literal value) []⟩
  | .nullTest operand negated => do
      let value ← nullTestExpr catalog scope operand
        (ConditionalFilter.filterExpr <$> conditionalFilterExpr scope operand)
        negated
      return ⟨none, value⟩
  | .membership operand (.list items) negated => do
      let operand ← conditionalFilterExpr scope operand
      let items ← filterItems scope items
      return ⟨none, memberListExpr operand.filterExpr items negated⟩
  | .membership operand (.parameter parameter) negated => do
      let operand ← conditionalFilterExpr scope operand
      let collection ← SqlTemplateContext.parameter parameter
      return ⟨none, .node (.anyOf negated) [operand.filterExpr, collection]⟩
  | .variantBinary left path variants right => do
      let value ← variantExpr left path variants right
        (ConditionalFilter.filterExpr <$> conditionalFilterExpr scope left)
        (ConditionalFilter.filterExpr <$> conditionalFilterExpr scope right)
      return ⟨none, value⟩
  | .exists relation tableId kind sourceScope policyFilter fieldFilters
      filter => do
      let related ← table catalog tableId
      let context := existsContext related.id
      let source := scope.filterColumnSource sourceScope
      let view : SqlRowView := ⟨context, fieldGuards context fieldFilters⟩
      let correlation ←
        optionalRelationConditions catalog source context relation
      let policy ← optionalFilter (.raw context) policyFilter
      let body ← optionalFilter (bodyScope scope kind view source) filter
      return ⟨none, .node .exists
        [relatedQuery context related.id [.node (.number 1) []]
          (correlation ++ policy ++ body)]⟩
  | .relationAggregate relation tableId function operand policyFilter
      fieldFilters => do
      let related ← table catalog tableId
      let context := aggregateContext related.id function
      let view : SqlRowView := ⟨context, fieldGuards context fieldFilters⟩
      let correlation ←
        relationConditions catalog scope.current context relation
      let policy ← optionalFilter (.raw context) policyFilter
      if function = .exists then
        return ⟨none, .node .exists
          [relatedQuery context related.id [.node (.number 1) []]
            (correlation ++ policy)]⟩
      else do
        let value ← aggregateValueExpression catalog view function operand
        return ⟨none, .node .scalar
          [relatedQuery context related.id [value] (correlation ++ policy)]⟩

@[grind =]
def filterItems
    (scope : FilterSqlScope) : List FilterExpr → Rendering (List Sql)
  | [] => return []
  | item :: items => do
      let item ← conditionalFilterExpr scope item
      let items ← filterItems scope items
      return item.filterExpr :: items

/-- The condition that an optional filter adds to a `where`. -/
@[grind =]
def optionalFilter
    (scope : FilterSqlScope) : Option FilterExpr → Rendering (List Sql)
  | none => return []
  | some filter => do
      let condition ← conditionalFilterExpr scope filter
      return [condition.filterExpr]

/-- The guards of a row source, rendered over the source without guards. -/
@[grind =]
def fieldGuards
    (context : Alias) :
    List (PolicyFieldFilter FilterExpr) →
      List (PolicyFieldTarget × Rendering Sql)
  | [] => []
  | ⟨target, filter, requirements⟩ :: fields =>
      (target, do
        requirePolicyContext requirements
        let guard ← conditionalFilterExpr (.raw context) filter
        return guard.filterExpr) ::
        fieldGuards context fields

end

def filterExpr
    (scope : FilterSqlScope)
    (filter : FilterExpr) : Rendering Sql :=
  ConditionalFilter.filterExpr <$> conditionalFilterExpr catalog scope filter

/-- A row source as its queries read it. -/
def readable
    (context : Alias)
    (fieldFilters : List (PolicyFieldFilter FilterExpr)) : SqlRowView :=
  ⟨context, fieldGuards catalog context fieldFilters⟩

end Filters

end Postgres

end Dsql
