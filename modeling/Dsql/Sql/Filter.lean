import Dsql.Sql.Syntax

/-!
# Lowering of filters

A planned filter becomes an SQL expression.  A filter with nullable inputs is
lowered to a value beside the condition of its presence; connectives combine
both.  Field guards stand where the guarded field is read, relation guards and
row filters in the `where` of the row source they belong to.
-/

namespace Dsql

/-- A row source as a filter reads it: with the guards of its fields, each to
be rendered inside a given number of row sources. -/
structure SqlRowView where
  context : SelectionContext
  guards : List (PolicyFieldTarget × (Nat → SqlExpr))

namespace SqlRowView

/-- A view without guards. -/
def raw (context : SelectionContext) : SqlRowView :=
  ⟨context, []⟩

/-- The rendered guard of a field. -/
def guard
    (view : SqlRowView)
    (target : PolicyFieldTarget)
    (depth : Nat) : Option SqlExpr :=
  (view.guards.find? (fun entry => entry.1 == target)).map
    (fun entry => entry.2 depth)

/-- A column, behind its guard where it has one. -/
def maskedColumnExpression
    (view : SqlRowView)
    (depth : Nat)
    (column : ColumnId) : SqlExpr :=
  match view.guard (.column column) depth with
  | none => .column view.context column
  | some guard => .caseWhen guard (.column view.context column)

end SqlRowView

/-- The row sources a filter can name. -/
structure FilterSqlScope where
  current : SqlRowView
  root : SqlRowView
  predicateSource : SqlRowView
  parent : Option SqlRowView

namespace FilterSqlScope

/-- The scope of a policy expression: one source, with no guards. -/
def raw (context : SelectionContext) : FilterSqlScope :=
  { current := .raw context
    root := .raw context
    predicateSource := .raw context
    parent := none }

/-- The view that a column is read through. -/
def columnSource (scope : FilterSqlScope) : FilterColumnScope → SqlRowView
  | .current => scope.current
  | .root => scope.root
  | .predicateSource => scope.predicateSource
  | .parent => scope.parent.getD scope.current

end FilterSqlScope

/-- A lowered filter with the condition of its presence. -/
structure ConditionalFilter where
  present : Option SqlExpr
  value : SqlExpr

namespace ConditionalFilter

/-- A condition that is always present. -/
def always (value : SqlExpr) : ConditionalFilter :=
  ⟨none, value⟩

/-- An absent condition counts as true. -/
def valueOrAbsent (value present : SqlExpr) : SqlExpr :=
  .binary value .or (.not present)

/-- An absent condition counts as false. -/
def valueIfPresent (value present : SqlExpr) : SqlExpr :=
  .binary value .and present

/-- The expression of a lowered filter: true where it is absent. -/
def filterExpr (filter : ConditionalFilter) : SqlExpr :=
  match filter.present with
  | none => filter.value
  | some present => valueOrAbsent filter.value present

/-- The expression of a lowered filter below a disjunction. -/
def alternativeExpr (filter : ConditionalFilter) : SqlExpr :=
  match filter.present with
  | none => filter.value
  | some present => valueIfPresent filter.value present

/-- The presence of a combination, if it has one. -/
def eitherPresent (left right : ConditionalFilter) : Option SqlExpr :=
  match left.present, right.present with
  | some left, some right => some (.binary left .or right)
  | _, _ => none

/-- The conjunction is present where either side is. -/
def combineAnd (left right : ConditionalFilter) : ConditionalFilter :=
  ⟨left.eitherPresent right, .binary left.filterExpr .and right.filterExpr⟩

/-- The disjunction is present where either side is. -/
def combineOr (left right : ConditionalFilter) : ConditionalFilter :=
  ⟨left.eitherPresent right,
    .binary left.alternativeExpr .or right.alternativeExpr⟩

/-- A negation leaves the presence as it is. -/
def negated (filter : ConditionalFilter) : ConditionalFilter :=
  ⟨filter.present, .not filter.value⟩

/-- A filter that the presence of a parameter controls. -/
def optional
    (parameter : SqlParameter)
    (filter : ConditionalFilter) : ConditionalFilter :=
  ⟨some
    (match filter.present with
      | none => .isPresent parameter
      | some present => .binary (.isPresent parameter) .and present),
    filter.value⟩

/-- A condition that is never present. -/
def absent : ConditionalFilter :=
  ⟨some (.literal (.bool false)), .literal (.bool true)⟩

end ConditionalFilter

/-- The operand that a comparison with a literal null tests, with its
expression. -/
def nullComparisonOperand
    (left right : FilterExpr)
    (loweredLeft loweredRight : SqlExpr) : Option (FilterExpr × SqlExpr) :=
  match left, right with
  | .literal .null, right => some (right, loweredRight)
  | left, .literal .null => some (left, loweredLeft)
  | _, _ => none

/-- A null test.  The guard of a column stands beside its test; `lowered` is
the expression of any other operand. -/
def nullTestExpr
    (scope : FilterSqlScope)
    (depth : Nat)
    (operand : FilterExpr)
    (lowered : SqlExpr)
    (negated : Bool) : SqlExpr :=
  match operand with
  | .column columnScope column =>
      let source := scope.columnSource columnScope
      let test : SqlExpr := .isNull (.column source.context column) negated
      match source.guard (.column column) depth with
      | none => test
      | some guard => .binary guard .and test
  | _ => .isNull lowered negated

/-- A comparison of lowered operands. -/
def comparisonExpr
    (scope : FilterSqlScope)
    (depth : Nat)
    (left : FilterExpr)
    (op : FilterOp)
    (right : FilterExpr)
    (loweredLeft loweredRight : SqlExpr) : SqlExpr :=
  if op = .eq ∨ op = .ne then
    match nullComparisonOperand left right loweredLeft loweredRight with
    | some tested =>
        nullTestExpr scope depth tested.1 tested.2 (op == .ne)
    | none => .binary loweredLeft op loweredRight
  else
    .binary loweredLeft op loweredRight

/-- A comparison whose operator an input decides. -/
def variantExpr
    (left : FilterExpr)
    (path : InputPath)
    (variants : List SqlVariantCase)
    (right : FilterExpr)
    (loweredLeft loweredRight : SqlExpr) : SqlExpr :=
  match nullComparisonOperand left right loweredLeft loweredRight with
  | some tested => .variantNull tested.2 path variants
  | none => .variant loweredLeft path variants loweredRight

/-- Membership in a list; the empty list is decided without its operand. -/
def memberListExpr
    (operand : SqlExpr)
    (items : List SqlExpr)
    (negated : Bool) : SqlExpr :=
  match items with
  | [] => .literal (.bool negated)
  | items => .inList operand items negated

/-- The equalities that correlate a related row with its source row. -/
def relationCondition
    (parent child : SelectionContext)
    (relation : Relation) : List SqlExpr :=
  (relation.localColumns.zip relation.targetColumns).map (fun columns =>
    .binary (.column child columns.2) .eq (.column parent columns.1))

/-- The correlation of a relation and its guard on the source row. -/
def relationConditions
    (catalog : Catalog)
    (source : SqlRowView)
    (child : SelectionContext)
    (depth : Nat)
    (relation : RelationId) : List SqlExpr :=
  match catalog.relationById relation with
  | none => [.error]
  | some relation =>
      relationCondition source.context child relation ++
        (source.guard (.relation relation.id) depth).toList

/-- The rows of an `exists` over a table. -/
def existsContext (table : TableId) (depth : Nat) : SelectionContext :=
  ⟨⟨[.label table]⟩, depth⟩

/-- The rows of an aggregate over a table. -/
def aggregateContext
    (table : TableId)
    (function : AggregateFunction)
    (depth : Nat) : SelectionContext :=
  ⟨⟨[.label table, .function function]⟩, depth⟩

/-- The fields of a predicate site, with their guards. -/
def generatedDynamicPredicateFields
    (source : SqlRowView)
    (depth : Nat)
    (fields : List DynamicInputFieldPlan) : List (DynamicSiteField SqlExpr) :=
  fields.map (fun field =>
    { key := field.key
      operators := field.operators
      expression := source.maskedColumnExpression depth field.column })

/-- The scope of the body of an `exists`. -/
def bodyScope
    (scope : FilterSqlScope)
    (kind : ExistsKind)
    (view source : SqlRowView) : FilterSqlScope :=
  match kind with
  | .explicit =>
      { current := view
        root := scope.root
        predicateSource := view
        parent := some source }
  | .relationshipPredicate =>
      { current := view
        root := scope.root
        predicateSource := scope.predicateSource
        parent := scope.parent }

/-- An aggregate over related rows as a scalar. -/
def relationAggregateExpr
    (context : SelectionContext)
    (table : TableId)
    (conditions : List SqlExpr)
    (function : AggregateFunction)
    (operand : Option SqlExpr) : SqlExpr :=
  match function, operand with
  | .exists, _ => .exists context table conditions
  | .count, none => .countRows context table conditions
  | function, some operand =>
      .aggregate context table conditions function operand
  | _, none => .error

section Lowering

variable (catalog : Catalog)

mutual

/-- `depth` is the number of row sources around the filter. -/
@[grind =]
def conditionalFilterExpr
    (scope : FilterSqlScope)
    (depth : Nat) : FilterExpr → ConditionalFilter
  | .absent => .absent
  | .optional parameter operand =>
      (conditionalFilterExpr scope depth operand).optional parameter
  | .binary left op right =>
      let loweredLeft := conditionalFilterExpr scope depth left
      let loweredRight := conditionalFilterExpr scope depth right
      match op with
      | .and => loweredLeft.combineAnd loweredRight
      | .or => loweredLeft.combineOr loweredRight
      | op =>
          .always (comparisonExpr scope depth left op right
            loweredLeft.filterExpr loweredRight.filterExpr)
  | .not operand => (conditionalFilterExpr scope depth operand).negated
  | .column columnScope column =>
      .always ((scope.columnSource columnScope).maskedColumnExpression depth
        column)
  | .parameter parameter => .always (.parameter parameter)
  | .dynamicPredicate path _ fields =>
      .always (.dynamicSite path
        (generatedDynamicPredicateFields scope.current depth fields))
  | .literal value => .always (.literal value)
  | .nullTest operand negated =>
      .always (nullTestExpr scope depth operand
        (conditionalFilterExpr scope depth operand).filterExpr negated)
  | .membership operand (.list items) negated =>
      .always (memberListExpr
        (conditionalFilterExpr scope depth operand).filterExpr
        (filterItems scope depth items) negated)
  | .membership operand (.parameter parameter) negated =>
      .always (.anyOf (conditionalFilterExpr scope depth operand).filterExpr
        parameter negated)
  | .variantBinary left path variants right =>
      .always (variantExpr left path variants right
        (conditionalFilterExpr scope depth left).filterExpr
        (conditionalFilterExpr scope depth right).filterExpr)
  | .exists relation table kind sourceScope policyFilter fieldFilters
      filter =>
      let context := existsContext table depth
      let source := scope.columnSource sourceScope
      .always (.exists context table
        ((match relation with
            | none => []
            | some relation =>
                relationConditions catalog source context (depth + 1)
                  relation) ++
          filterConditions (.raw context) (depth + 1) policyFilter ++
          filterConditions
            (bodyScope scope kind ⟨context, fieldGuards context fieldFilters⟩
              source)
            (depth + 1) filter))
  | .relationAggregate relation table function operand policyFilter
      fieldFilters =>
      let context := aggregateContext table function depth
      let view : SqlRowView := ⟨context, fieldGuards context fieldFilters⟩
      .always (relationAggregateExpr context table
        (relationConditions catalog scope.current context (depth + 1)
            relation ++
          filterConditions (.raw context) (depth + 1) policyFilter)
        function
        (operand.map (view.maskedColumnExpression (depth + 1))))

/-- The items of a list, one by one. -/
@[grind =]
def filterItems
    (scope : FilterSqlScope)
    (depth : Nat) : List FilterExpr → List SqlExpr
  | [] => []
  | item :: items =>
      (conditionalFilterExpr scope depth item).filterExpr ::
        filterItems scope depth items

/-- The condition that an optional filter adds to a `where`. -/
@[grind =]
def filterConditions
    (scope : FilterSqlScope)
    (depth : Nat) : Option FilterExpr → List SqlExpr
  | none => []
  | some filter => [(conditionalFilterExpr scope depth filter).filterExpr]

/-- The guards of a row source, rendered without guards themselves. -/
@[grind =]
def fieldGuards
    (context : SelectionContext) :
    List (PolicyFieldFilter FilterExpr) →
      List (PolicyFieldTarget × (Nat → SqlExpr))
  | [] => []
  | ⟨target, filter, _⟩ :: fields =>
      (target, fun depth =>
        (conditionalFilterExpr (.raw context) depth filter).filterExpr) ::
        fieldGuards context fields

end

/-- The expression of a filter. -/
def filterExpr
    (scope : FilterSqlScope)
    (depth : Nat)
    (filter : FilterExpr) : SqlExpr :=
  (conditionalFilterExpr catalog scope depth filter).filterExpr

/-- A row source as its queries read it. -/
def readableView
    (context : SelectionContext)
    (fieldFilters : List (PolicyFieldFilter FilterExpr)) : SqlRowView :=
  ⟨context, fieldGuards catalog context fieldFilters⟩

/-- The `where` of an `exists`. -/
def existsConditions
    (scope : FilterSqlScope)
    (depth : Nat)
    (relation : Option RelationId)
    (table : TableId)
    (kind : ExistsKind)
    (sourceScope : FilterColumnScope)
    (policyFilter : Option FilterExpr)
    (fieldFilters : List (PolicyFieldFilter FilterExpr))
    (filter : Option FilterExpr) : List SqlExpr :=
  let context := existsContext table depth
  let source := scope.columnSource sourceScope
  (match relation with
    | none => []
    | some relation =>
        relationConditions catalog source context (depth + 1) relation) ++
    filterConditions catalog (.raw context) (depth + 1) policyFilter ++
    filterConditions catalog
      (bodyScope scope kind (readableView catalog context fieldFilters)
        source)
      (depth + 1) filter

/-- The `where` of a relation aggregate. -/
def aggregateConditions
    (scope : FilterSqlScope)
    (depth : Nat)
    (relation : RelationId)
    (table : TableId)
    (function : AggregateFunction)
    (policyFilter : Option FilterExpr) : List SqlExpr :=
  let context := aggregateContext table function depth
  relationConditions catalog scope.current context (depth + 1) relation ++
    filterConditions catalog (.raw context) (depth + 1) policyFilter

theorem conditionalFilterExpr_exists
    (scope : FilterSqlScope)
    (depth : Nat)
    (relation : Option RelationId)
    (table : TableId)
    (kind : ExistsKind)
    (sourceScope : FilterColumnScope)
    (policyFilter : Option FilterExpr)
    (fieldFilters : List (PolicyFieldFilter FilterExpr))
    (filter : Option FilterExpr) :
    conditionalFilterExpr catalog scope depth
        (.exists relation table kind sourceScope policyFilter fieldFilters
          filter) =
      .always (.exists (existsContext table depth) table
        (existsConditions catalog scope depth relation table kind
          sourceScope policyFilter fieldFilters filter)) := by
  simp only [conditionalFilterExpr, existsConditions, readableView]

end Lowering

end Dsql
