import Dsql.Plan.SourcePolicies
import Dsql.Resolution

/-!
# Filter planning

A clause expression becomes a filter tree.  Planning answers `none` for what
it does not support; a nullable input wraps the predicate atom it controls.
-/

namespace Dsql

/-- Wraps an atom so that the first parameter ends up outermost. -/
def wrapOptionalAtom
    (filter : FilterExpr)
    (parameters : List SqlParameter) : FilterExpr :=
  parameters.foldr FilterExpr.optional filter

/-- The filter of a fixed default; collections stand for no single value. -/
def inputDefaultFilter : InputDefault → Option FilterExpr
  | .string value => some (.literal (.string value))
  | .number raw => some (.literal (.number raw))
  | .boolean value => some (.literal (.bool value))
  | .null => some .absent
  | .collection _ | .emptyObject => none

def isComparisonOperator : BinaryOp → Bool
  | .comparison _ | .variable _ => true
  | _ => false

def isNullLiteral : FilterExpr → Bool
  | .literal .null => true
  | _ => false

/-- The SQL text of an operator in a variant; against a literal null the
equality operators become `is` tests. -/
def operatorVariantText
    (comparesNull : Bool)
    (op : FilterOp) : Option String :=
  if comparesNull then
    match op with
    | .eq => some "is"
    | .ne => some "is not"
    | op => op.postgresText
  else
    op.postgresText

def operatorVariants
    (reference : VariableRef)
    (comparesNull : Bool) : List SqlVariantCase :=
  (reference.operators.getD []).filterMap (fun op => do
    let value ← (FilterOp.ofComparison op).dsqlLabel
    let text ← operatorVariantText comparesNull (.ofComparison op)
    some ⟨value, text⟩)

/-- The path or fixed default of a variable that stands for a value. -/
def whereVariableValue
    (selectionPath : List String)
    (variableScope : VariablePathScope)
    (fieldPath : InputPath)
    (op : BinaryOp)
    (reference : VariableRef) : VariableValue :=
  variableValue selectionPath
    { role := .whereValue
      inferredPath := fieldPath
      anonymousKey :=
        if reference.name.isNone then predicateAnonymousKey op else none }
    variableScope reference.sigil reference.name

/-- Where a filter is planned: the definition, the selection and the spreads
around it. -/
structure FilterSite where
  planner : Planner
  definitionScope : String
  selectionPath : List String
  variableScope : VariablePathScope

namespace Planner

variable (planner : Planner)

def binding (path : InputPath) : Option VariableBinding :=
  planner.bindings.find? (fun binding => binding.path == path)

def variableIsNullable (path : InputPath) : Bool :=
  (planner.binding path).any VariableBinding.nullable

def bindingTextCast (binding : VariableBinding) : Option TypeKey :=
  binding.providerType.filter (fun key =>
    (planner.catalog.typeByKey key).any (fun catalogType =>
      catalogType.capabilities.wire == .textCast))

def sqlParameter (path : InputPath) : SqlParameter :=
  { path := path
    textCast := (planner.binding path).bind planner.bindingTextCast
    collection := (planner.binding path).any VariableBinding.collection }

/-- Makes a filter depend on the presence of a nullable input. -/
def optionalFilter
    (path : InputPath)
    (filter : FilterExpr) : FilterExpr :=
  if planner.variableIsNullable path then
    .optional (planner.sqlParameter path) filter
  else
    filter

def publicFilterValue : VariableValue → Option FilterExpr
  | .value path => some (.parameter (planner.sqlParameter path))
  | .default .null => some .absent
  | .default value => inputDefaultFilter value

/-- Strips the presence wrappers of an operand. -/
@[grind =]
def stripOptional : FilterExpr → FilterExpr × List SqlParameter
  | .optional parameter operand =>
      let inner := stripOptional operand
      (inner.1, parameter :: inner.2)
  | operand => (operand, [])

/-- An operand of a predicate atom with the parameters that control the atom.
A nested predicate keeps its own wrappers. -/
def predicateAtomOperand
    (operand : FilterExpr) : FilterExpr × List SqlParameter :=
  let stripped := stripOptional operand
  match stripped.1 with
  | .parameter parameter =>
      if planner.variableIsNullable parameter.path &&
          !stripped.2.any (fun existing =>
            existing.path == parameter.path) then
        (.parameter parameter, stripped.2 ++ [parameter])
      else
        (.parameter parameter, stripped.2)
  | inner =>
      if stripped.2.isEmpty then (inner, [])
      else (wrapOptionalAtom inner stripped.2, [])

/-- Parameters of the right operand that the left does not name already. -/
def mergeOptionalParameters
    (left right : List SqlParameter) : List SqlParameter :=
  right.foldl
    (fun parameters parameter =>
      if parameters.any (fun existing => existing.path == parameter.path) then
        parameters
      else
        parameters ++ [parameter])
    left

end Planner

namespace FilterSite

variable (site : FilterSite)

/-- A concrete comparison, or a variant when the operator is an input. -/
def comparisonAtom
    (left : FilterExpr)
    (op : BinaryOp)
    (right : FilterExpr)
    (inferredPath : InputPath) : Option FilterExpr :=
  match op with
  | .variable operator =>
      some (.variantBinary left
        (variablePath site.selectionPath
          ⟨.comparisonOperator, inferredPath, none⟩ site.variableScope
          operator.sigil operator.name)
        (operatorVariants operator
          (isNullLiteral left || isNullLiteral right))
        right)
  | .comparison op => some (.binary left (.ofComparison op) right)
  | .isIn | .notIn | .and | .or => none

def isAbsent : FilterExpr → Bool
  | .absent => true
  | _ => false

def binaryOrVariant
    (left : FilterExpr)
    (op : BinaryOp)
    (right : FilterExpr)
    (inferredPath : InputPath) : Option FilterExpr :=
  match op with
  | .and => some (.binary left .and right)
  | .or => some (.binary left .or right)
  | op =>
      if isAbsent left || isAbsent right then
        some .absent
      else
        let leftOperand := site.planner.predicateAtomOperand left
        let rightOperand := site.planner.predicateAtomOperand right
        (site.comparisonAtom leftOperand.1 op rightOperand.1
          inferredPath).map (fun atom =>
            wrapOptionalAtom atom
              (Planner.mergeOptionalParameters leftOperand.2 rightOperand.2))

/-- The display path of a fully resolved predicate path. -/
def predicatePath
    (context : ClauseContext)
    (path : ScopedPath) : Option InputPath :=
  (resolvePath site.planner.catalog context path).displayPath

/-- The path that variables beside an operand are named by. -/
def predicateValuePath (context : ClauseContext) : Expr → Option InputPath
  | .path path => site.predicatePath context path
  | .aggregate source function operand =>
      (resolvePredicateAggregate site.planner.catalog context source function
        operand).displayPath site.planner.catalog
  | _ => none

/-- A path of one segment.  `outer` marks an operand beside a relation path,
whose current row is the source of the predicate. -/
def planFilterPath
    (context : ClauseContext)
    (outer : Bool)
    (path : ScopedPath) : Option FilterExpr :=
  match path.segments with
  | [_] =>
      (resolvePath site.planner.catalog context path).terminal.columnId.map
        (.column
          (match path.anchor with
            | .current => if outer then .predicateSource else .current
            | .root => .root
            | .parent => .parent))
  | _ => none

/-- The terminal column of a path of any length. -/
def planPredicateOperandPath
    (context : ClauseContext)
    (outer : Bool) : Expr → Option FilterExpr
  | .path path =>
      (resolvePath site.planner.catalog context path).terminal.columnId.map
        (.column
          (match path.anchor with
            | .current =>
                if outer && path.segments.length == 1 then
                  .predicateSource
                else
                  .current
            | .root => .root
            | .parent => .parent))
  | _ => none

def planPredicateAggregate
    (context : ClauseContext)
    (source : ScopedPath)
    (function : String)
    (operand : Option ScopedPath) : Option FilterExpr :=
  let aggregate := resolvePredicateAggregate site.planner.catalog context
    source function operand
  if aggregate.isValid then
    match aggregate.relation, aggregate.function with
    | some relation, some function =>
        let policies := site.planner.planSourcePolicies relation.table [] []
          site.selectionPath site.variableScope site.definitionScope
        some (.relationAggregate relation.relation relation.table function
          aggregate.operand policies.rowFilter policies.fieldFilters)
    | _, _ => none
  else
    none

/-- One relation step around a filter about the related row. -/
def relationStepFilter
    (step : ResolvedRelationStep)
    (filter : FilterExpr) : FilterExpr :=
  let policies := site.planner.planSourcePolicies step.table [] [] []
    .operation site.definitionScope
  .exists (some step.relation) step.table .relationshipPredicate .current
    policies.rowFilter policies.fieldFilters (some filter)

/-- Turns the relation steps of a path into nested `exists` filters. -/
def wrapRelationPredicate
    (context : ClauseContext)
    (path : ScopedPath)
    (filter : FilterExpr) : FilterExpr :=
  if path.segments.length < 2 then
    filter
  else
    (resolvePath site.planner.catalog context path).relations.foldr
      site.relationStepFilter filter

/-- A comparison of a relation path from the current row. -/
def relationPredicateFilter
    (context : ClauseContext)
    (path : ScopedPath)
    (op : BinaryOp)
    (right : FilterExpr)
    (inferredPath : InputPath) : Option FilterExpr :=
  if path.anchor = .current ∧ 2 ≤ path.segments.length then
    let resolved := resolvePath site.planner.catalog context path
    if resolved.relations.isEmpty then
      none
    else
      match resolved.terminal with
      | .column _ _ column _ =>
          (site.binaryOrVariant (.column .current column) op right
            inferredPath).map (site.wrapRelationPredicate context path)
      | _ => none
  else
    none

/-- A variable standing alone as a predicate. -/
def planBooleanVariable (reference : VariableRef) : Option FilterExpr :=
  match variableValue site.selectionPath ⟨.whereValue, ["value"], none⟩
      site.variableScope reference.sigil reference.name with
  | .value path =>
      some (site.planner.optionalFilter path
        (.parameter (site.planner.sqlParameter path)))
  | value => site.planner.publicFilterValue value

/-- A value variable beside an operand of path `fieldPath`. -/
def planValueVariable
    (fieldPath : InputPath)
    (op : BinaryOp)
    (reference : VariableRef) : Option FilterExpr :=
  site.planner.publicFilterValue
    (whereVariableValue site.selectionPath site.variableScope fieldPath op
      reference)

/-- A collection input or the items of its default.  `none` inside marks a
default of null, which makes a membership test absent. -/
def planCollectionValue :
    VariableValue → Option (Option (FilterCollection FilterExpr))
  | .value path =>
      some (some (.parameter (site.planner.sqlParameter path)))
  | .default (.collection defaults) =>
      (defaults.mapM inputDefaultFilter).map (fun items =>
        some (.list items))
  | .default .null => some none
  | .default _ => none

/-- The collection of a membership test: listed items or a variable. -/
def planCollection
    (fieldPath : InputPath)
    (op : BinaryOp)
    (items : Option (List FilterExpr)) :
    Expr → Option (Option (FilterCollection FilterExpr))
  | .list _ => items.map (fun items => some (.list items))
  | .variable reference =>
      site.planCollectionValue
        (whereVariableValue site.selectionPath site.variableScope fieldPath op
          reference)
  | _ => none

/-- A membership test; `items` are the planned items of a listed collection. -/
def planMembership
    (context : ClauseContext)
    (outer : Bool)
    (op : BinaryOp)
    (lhs rhs : Expr)
    (items : Option (List FilterExpr)) : Option FilterExpr :=
  match lhs with
  | .path path => do
      let fieldPath ← site.predicatePath context path
      let operand ← site.planPredicateOperandPath context outer lhs
      let collection ← site.planCollection fieldPath op items rhs
      match collection with
      | none => some .absent
      | some collection =>
          let membership := site.wrapRelationPredicate context path
            (.membership operand collection (op == .notIn))
          match collection with
          | .parameter parameter =>
              some (site.planner.optionalFilter parameter.path membership)
          | .list _ => some membership
  | _ => none

/-- An operand of a comparison with an aggregate; `outer` is the operand
planned beside the aggregate. -/
def planAggregateComparisonOperand
    (context : ClauseContext)
    (fieldPath : InputPath)
    (op : BinaryOp)
    (outer : Option FilterExpr) : Expr → Option FilterExpr
  | .aggregate source function operand =>
      site.planPredicateAggregate context source function operand
  | .variable reference => site.planValueVariable fieldPath op reference
  | _ => outer

/-- The planned operands of a comparison: each as it stands, and each as it is
read beside a relation path or an aggregate. -/
structure PlannedOperands where
  left : Option FilterExpr
  right : Option FilterExpr
  leftOuter : Option FilterExpr
  rightOuter : Option FilterExpr

/-- An operand beside a path of the current row: a variable is named by the
path, other operands are planned as `planned`. -/
def namedOperand
    (fieldPath : InputPath)
    (op : BinaryOp)
    (operand : Expr)
    (planned : Option FilterExpr) : Option FilterExpr :=
  match operand with
  | .variable reference => site.planValueVariable fieldPath op reference
  | _ => planned

/-- A relation comparison with an input depends on it as a whole. -/
def optionalRelation (right filter : FilterExpr) : FilterExpr :=
  match right with
  | .parameter parameter =>
      site.planner.optionalFilter parameter.path filter
  | _ => filter

/-- A comparison whose left operand is a relation path from the current row.
`none` outside means that the operands are planned as they stand; `none`
inside that the comparison is not supported. -/
def planRelationComparison
    (context : ClauseContext)
    (op : BinaryOp)
    (lhs rhs : Expr)
    (operands : PlannedOperands) : Option (Option FilterExpr) :=
  match lhs with
  | .path path =>
      if isComparisonOperator op then
        match site.predicatePath context path with
        | none => none
        | some fieldPath =>
            match site.namedOperand fieldPath op rhs operands.rightOuter with
            | none => some none
            | some right =>
                if isAbsent right then
                  some (some .absent)
                else
                  (site.relationPredicateFilter context path op right
                    fieldPath).map (fun filter =>
                      some (site.optionalRelation right filter))
      else
        none
  | _ => none

/-- Operands planned as they stand. -/
def planPlainComparison
    (context : ClauseContext)
    (outer : Bool)
    (op : BinaryOp)
    (lhs rhs : Expr)
    (operands : PlannedOperands) : Option FilterExpr :=
  match lhs, rhs, site.predicateValuePath context lhs with
  | .path path, .variable reference, some fieldPath => do
      let left ← site.planFilterPath context outer path
      let right ← site.planValueVariable fieldPath op reference
      site.binaryOrVariant left op right fieldPath
  | _, _, leftPath => do
      let left ← operands.left
      let right ← operands.right
      site.binaryOrVariant left op right
        ((leftPath.or (site.predicateValuePath context rhs)).getD
          ["operator"])

/-- A comparison or connective of planned operands. -/
def planBinary
    (context : ClauseContext)
    (outer : Bool)
    (op : BinaryOp)
    (lhs rhs : Expr)
    (operands : PlannedOperands) : Option FilterExpr :=
  let plain :=
    match site.planRelationComparison context op lhs rhs operands with
    | some result => result
    | none => site.planPlainComparison context outer op lhs rhs operands
  if lhs.isAggregate || rhs.isAggregate then
    match op with
    | .variable _ => none
    | .comparison _ =>
        match site.predicateValuePath context
            (if lhs.isAggregate then lhs else rhs) with
        | some fieldPath => do
            let left ← site.planAggregateComparisonOperand context fieldPath
              op operands.leftOuter lhs
            let right ← site.planAggregateComparisonOperand context fieldPath
              op operands.rightOuter rhs
            site.binaryOrVariant left op right fieldPath
        | none => plain
    | _ => plain
  else
    plain

/-- An `exists` over a resolved source with its planned body. -/
def planExists
    (context : ClauseContext)
    (source : ExistsSource)
    (filters : List (FilterAssignmentExpr Expr))
    (body : ResolvedExistenceSource → Option FilterExpr) :
    Option FilterExpr :=
  (resolveExistence site.planner.catalog context source).source.map
    (fun resolved =>
      let policies := site.planner.planSourcePolicies resolved.tableId []
        filters site.selectionPath site.variableScope site.definitionScope
      .exists resolved.relationId resolved.tableId .explicit .current
        policies.rowFilter policies.fieldFilters (body resolved))

/-- A list literal on the right of a membership test. -/
def listItems : Expr → List Expr
  | .list items => items
  | _ => []

mutual

@[grind =]
def planFilterExpr
    (context : ClauseContext)
    (outer : Bool) : Expr → Option FilterExpr
  | .error => none
  | .predicateRef _ => none
  | .dynamicPredicate reference surface =>
      some (.dynamicPredicate
        (variablePath site.selectionPath ⟨.dynamicPredicate, ["search"], none⟩
          site.variableScope reference.sigil reference.name)
        surface [])
  | .variable reference => site.planBooleanVariable reference
  | .path path => site.planFilterPath context outer path
  | .unary _ operand =>
      (planFilterExpr context outer operand).map .not
  | .nullTest operand negated =>
      match operand with
      | .path path =>
          (site.planPredicateOperandPath context outer (.path path)).map
            (fun planned =>
              site.wrapRelationPredicate context path
                (.nullTest planned negated))
      | _ => none
  | .list _ => none
  | .exists source filters predicate =>
      site.planExists context source filters (fun resolved =>
        planFilterBody (context.nested resolved.tableId) predicate)
  | .literal value => some (.literal (.ofLiteral value))
  | .aggregate source function operand =>
      if (resolvePredicateAggregate site.planner.catalog context source
          function operand).function = some .exists then
        site.planPredicateAggregate context source function operand
      else
        none
  | .binary op lhs rhs =>
      match op with
      | .isIn | .notIn =>
          site.planMembership context outer op lhs rhs
            (match rhs with
              | .list items => planFilterItems context outer items
              | _ => none)
      | op =>
          site.planBinary context outer op lhs rhs
            { left := planFilterExpr context outer lhs
              right := planFilterExpr context outer rhs
              leftOuter := planFilterExpr context true lhs
              rightOuter := planFilterExpr context true rhs }

@[grind =]
def planFilterItems
    (context : ClauseContext)
    (outer : Bool) : List Expr → Option (List FilterExpr)
  | [] => some []
  | item :: items =>
      match planFilterExpr context outer item,
          planFilterItems context outer items with
      | some item, some items => some (item :: items)
      | _, _ => none

/-- The body of an `exists`; a body that is not supported is no body. -/
@[grind =]
def planFilterBody (context : ClauseContext) : Option Expr → Option FilterExpr
  | none => none
  | some body => planFilterExpr context false body

end

end FilterSite

end Dsql
