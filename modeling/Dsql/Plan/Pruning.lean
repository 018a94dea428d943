import Dsql.Plan.Filter

/-!
# Pruning a filter tree

A null input removes every predicate atom that it supplies an operand to, and
the connectives that lose all their operands with them.  Pruning deletes these
parts of the written tree; what remains is planned as if every input were
required.
-/

namespace Dsql

/-- The planner of the same definition with every input required. -/
def Planner.required (planner : Planner) : Planner :=
  { planner with
    bindings := planner.bindings.map (fun binding =>
      { binding with nullable := false }) }

def FilterSite.required (site : FilterSite) : FilterSite :=
  { site with planner := site.planner.required }

namespace Planner

variable (planner : Planner)

@[simp] theorem catalog_required :
    planner.required.catalog = planner.catalog := rfl

theorem binding_required (path : InputPath) :
    planner.required.binding path =
      (planner.binding path).map (fun binding =>
        { binding with nullable := false }) := by
  simp only [binding, required, List.find?_map]
  rfl

@[simp] theorem variableIsNullable_required (path : InputPath) :
    planner.required.variableIsNullable path = false := by
  unfold variableIsNullable
  rw [binding_required]
  cases planner.binding path <;> rfl

@[simp] theorem sqlParameter_required (path : InputPath) :
    planner.required.sqlParameter path = planner.sqlParameter path := by
  unfold sqlParameter
  rw [binding_required]
  cases planner.binding path <;> rfl

@[simp] theorem sqlParameter_path (path : InputPath) :
    (planner.sqlParameter path).path = path := rfl

@[simp] theorem optionalFilter_required
    (path : InputPath)
    (filter : FilterExpr) :
    planner.required.optionalFilter path filter = filter := by
  simp [optionalFilter]

@[simp] theorem publicFilterValue_required (value : VariableValue) :
    planner.required.publicFilterValue value =
      planner.publicFilterValue value := by
  cases value with
  | value path =>
      simp [publicFilterValue]
  | default value =>
      cases value <;> simp [publicFilterValue]

theorem planAssignmentExpr_required
    (definitionScope filterName : String)
    (selectionPath : List String)
    (variableScope : VariablePathScope)
    (condition : Expr) :
    planner.required.planAssignmentExpr definitionScope filterName
        selectionPath variableScope condition =
      planner.planAssignmentExpr definitionScope filterName selectionPath
        variableScope condition := by
  induction condition with
  | binary op lhs rhs ihlhs ihrhs =>
      simp only [planAssignmentExpr, ihlhs, ihrhs]
  | unary op operand ih =>
      simp only [planAssignmentExpr, ih]
  | nullTest operand negated ih =>
      simp only [planAssignmentExpr, ih]
  | literal value =>
      cases value <;> rfl
  | _ => rfl

theorem planAssignment_required
    (assignment : FilterAssignmentExpr Expr)
    (selectionPath : List String)
    (variableScope : VariablePathScope)
    (definitionScope : String) :
    planner.required.planAssignment assignment selectionPath variableScope
        definitionScope =
      planner.planAssignment assignment selectionPath variableScope
        definitionScope := by
  unfold planAssignment
  simp only [planAssignmentExpr_required]
  rfl

/-- Policies of a source do not depend on which inputs are nullable. -/
@[simp] theorem planSourcePolicies_required
    (table : TableId)
    (source explicit : List (FilterAssignmentExpr Expr))
    (selectionPath : List String)
    (variableScope : VariablePathScope)
    (definitionScope : String) :
    planner.required.planSourcePolicies table source explicit selectionPath
        variableScope definitionScope =
      planner.planSourcePolicies table source explicit selectionPath
        variableScope definitionScope := by
  have hassignments :
      planner.required.sourceAssignments source explicit selectionPath
          variableScope definitionScope =
        planner.sourceAssignments source explicit selectionPath variableScope
          definitionScope := by
    unfold sourceAssignments planAssignments
    simp only [planAssignment_required]
    rfl
  unfold planSourcePolicies
  rw [hassignments]
  rfl

end Planner

namespace FilterSite

variable (site : FilterSite)

section Required

variable (context : ClauseContext)

@[simp] theorem predicatePath_required (path : ScopedPath) :
    site.required.predicatePath context path =
      site.predicatePath context path := rfl

@[simp] theorem predicateValuePath_required (expr : Expr) :
    site.required.predicateValuePath context expr =
      site.predicateValuePath context expr := by
  cases expr <;> rfl

@[simp] theorem planFilterPath_required
    (outer : Bool)
    (path : ScopedPath) :
    site.required.planFilterPath context outer path =
      site.planFilterPath context outer path := rfl

@[simp] theorem planPredicateOperandPath_required
    (outer : Bool)
    (expr : Expr) :
    site.required.planPredicateOperandPath context outer expr =
      site.planPredicateOperandPath context outer expr := by
  cases expr <;> rfl

@[simp] theorem planPredicateAggregate_required
    (source : ScopedPath)
    (function : String)
    (operand : Option ScopedPath) :
    site.required.planPredicateAggregate context source function operand =
      site.planPredicateAggregate context source function operand := by
  simp [planPredicateAggregate, required]

@[simp] theorem relationStepFilter_required
    (step : ResolvedRelationStep)
    (filter : FilterExpr) :
    site.required.relationStepFilter step filter =
      site.relationStepFilter step filter := by
  simp [relationStepFilter, required]

@[simp] theorem wrapRelationPredicate_required
    (path : ScopedPath)
    (filter : FilterExpr) :
    site.required.wrapRelationPredicate context path filter =
      site.wrapRelationPredicate context path filter := by
  have hstep :
      site.required.relationStepFilter = site.relationStepFilter := by
    funext step inner
    exact site.relationStepFilter_required step inner
  unfold wrapRelationPredicate
  rw [hstep]
  rfl

@[simp] theorem comparisonAtom_required
    (left : FilterExpr)
    (op : BinaryOp)
    (right : FilterExpr)
    (inferredPath : InputPath) :
    site.required.comparisonAtom left op right inferredPath =
      site.comparisonAtom left op right inferredPath := by
  cases op <;> rfl

@[simp] theorem planValueVariable_required
    (fieldPath : InputPath)
    (op : BinaryOp)
    (reference : VariableRef) :
    site.required.planValueVariable fieldPath op reference =
      site.planValueVariable fieldPath op reference := by
  simp [planValueVariable, required]

@[simp] theorem planCollectionValue_required (value : VariableValue) :
    site.required.planCollectionValue value =
      site.planCollectionValue value := by
  cases value with
  | value path =>
      simp [planCollectionValue, required]
  | default value =>
      cases value <;> rfl

end Required

section Comparisons

variable (context : ClauseContext)

/-- The operands of a comparison as the planner computes them. -/
def plannedOperands
    (outer : Bool)
    (lhs rhs : Expr) : PlannedOperands :=
  { left := site.planFilterExpr context outer lhs
    right := site.planFilterExpr context outer rhs
    leftOuter := site.planFilterExpr context true lhs
    rightOuter := site.planFilterExpr context true rhs }

/-- Comparisons are planned from their operands. -/
theorem planFilterExpr_comparison
    {outer : Bool}
    {op : BinaryOp}
    {lhs rhs : Expr}
    (hop : isComparisonOperator op = true) :
    site.planFilterExpr context outer (.binary op lhs rhs) =
      site.planBinary context outer op lhs rhs
        (site.plannedOperands context outer lhs rhs) := by
  cases op <;>
    first
    | rfl
    | simp [isComparisonOperator] at hop

/-- The comparison planned from its left path or from plain operands. -/
def planOperands
    (outer : Bool)
    (op : BinaryOp)
    (lhs rhs : Expr) : Option FilterExpr :=
  match site.planRelationComparison context op lhs rhs
      (site.plannedOperands context outer lhs rhs) with
  | some result => result
  | none =>
      site.planPlainComparison context outer op lhs rhs
        (site.plannedOperands context outer lhs rhs)

/-- Without an aggregate the operands are planned as they stand. -/
theorem planBinary_plain
    {outer : Bool}
    {op : BinaryOp}
    {lhs rhs : Expr}
    (hagg : (lhs.isAggregate || rhs.isAggregate) = false) :
    site.planBinary context outer op lhs rhs
        (site.plannedOperands context outer lhs rhs) =
      site.planOperands context outer op lhs rhs := by
  simp only [planBinary, hagg, Bool.false_eq_true, if_false]
  rfl

/-- A comparison is absent with an operand, or an atom under the presence of
the inputs of both. -/
theorem binaryOrVariant_comparison
    {op : BinaryOp}
    (hop : isComparisonOperator op = true)
    (left right : FilterExpr)
    (path : InputPath) :
    site.binaryOrVariant left op right path =
      if isAbsent left || isAbsent right then
        some .absent
      else
        (site.comparisonAtom (site.planner.predicateAtomOperand left).1 op
          (site.planner.predicateAtomOperand right).1 path).map
            (fun atom =>
              wrapOptionalAtom atom
                (Planner.mergeOptionalParameters
                  (site.planner.predicateAtomOperand left).2
                  (site.planner.predicateAtomOperand right).2)) := by
  cases op <;> first | rfl | simp [isComparisonOperator] at hop

end Comparisons

/-- The value a variable standing alone as a predicate reads. -/
def booleanVariableValue (reference : VariableRef) : VariableValue :=
  variableValue site.selectionPath ⟨.whereValue, ["value"], none⟩
    site.variableScope reference.sigil reference.name

/-- The value a variable operand reads beside an operand of path
`fieldPath`. -/
def operandVariableValue
    (fieldPath : Option InputPath)
    (op : BinaryOp)
    (reference : VariableRef) : VariableValue :=
  match fieldPath with
  | some fieldPath =>
      whereVariableValue site.selectionPath site.variableScope fieldPath op
        reference
  | none => site.booleanVariableValue reference

section Prune

-- Which inputs are there in one execution.
variable (present : SqlParameter → Bool)

/-- Whether a variable reads a nullable input that is null. -/
def valueIsAbsent : VariableValue → Bool
  | .value path =>
      site.planner.variableIsNullable path &&
        !present (site.planner.sqlParameter path)
  | .default .null => true
  | .default _ => false

def operandIsAbsent
    (fieldPath : Option InputPath)
    (op : BinaryOp) : Expr → Bool
  | .variable reference =>
      site.valueIsAbsent present
        (site.operandVariableValue fieldPath op reference)
  | _ => false

/-- The path that names a left variable operand: only an aggregate beside it
does. -/
def leftOperandPath (context : ClauseContext) : Expr → Option InputPath
  | .aggregate source function operand =>
      site.predicateValuePath context (.aggregate source function operand)
  | _ => none

/-- Whether an atom has a nullable operand that is null. -/
def atomIsAbsent
    (context : ClauseContext)
    (op : BinaryOp)
    (lhs rhs : Expr) : Bool :=
  site.operandIsAbsent present (site.leftOperandPath context rhs) op lhs ||
    site.operandIsAbsent present (site.predicateValuePath context lhs) op rhs

/-- A connective of what remains of its operands. -/
def joinTrees (op : BinaryOp) : Option Expr → Option Expr → Option Expr
  | some lhs, some rhs => some (.binary op lhs rhs)
  | lhs, rhs => lhs.or rhs

/-- The context of the body of an `exists`. -/
def bodyContext
    (context : ClauseContext)
    (source : ExistsSource) : ClauseContext :=
  match (resolveExistence site.planner.catalog context source).source with
  | some resolved => context.nested resolved.tableId
  | none => context

mutual

/-- What remains of a filter tree: atoms with an absent operand go, and so do
connectives left without operands. -/
@[grind =]
def prune (context : ClauseContext) : Expr → Option Expr
  | .binary .and lhs rhs =>
      joinTrees .and (prune context lhs) (prune context rhs)
  | .binary .or lhs rhs =>
      joinTrees .or (prune context lhs) (prune context rhs)
  | .binary op lhs rhs =>
      if site.atomIsAbsent present context op lhs rhs then none
      else some (.binary op lhs rhs)
  | .unary op operand => (prune context operand).map (.unary op)
  | .variable reference =>
      if site.valueIsAbsent present (site.booleanVariableValue reference) then
        none
      else
        some (.variable reference)
  | .exists source filters body =>
      some (.exists source filters
        (pruneBody (site.bodyContext context source) body))
  | expr => some expr

@[grind =]
def pruneBody (context : ClauseContext) : Option Expr → Option Expr
  | none => none
  | some body => prune context body

end

end Prune

mutual

/-- Whether the predicate of every `exists` in an expression has a plan. -/
@[grind =]
def plansBodies (context : ClauseContext) : Expr → Bool
  | .binary _ lhs rhs => plansBodies context lhs && plansBodies context rhs
  | .unary _ operand => plansBodies context operand
  | .exists source _ body =>
      plansBody (site.bodyContext context source) body
  | _ => true

@[grind =]
def plansBody (context : ClauseContext) : Option Expr → Bool
  | none => true
  | some body =>
      (site.planFilterExpr context false body).isSome &&
        plansBodies context body

end

end FilterSite

namespace Expr

/-- The operands of a predicate atom: fields, constants, inputs and
aggregates. -/
def isOperand : Expr → Bool
  | .path _ | .literal _ | .variable _ | .aggregate .. => true
  | _ => false

def isLiteral : Expr → Bool
  | .literal _ => true
  | _ => false

mutual

/-- A filter tree: connectives over predicate atoms, with a filter tree below
every `exists`.  Listed collections hold literals, and a bare field is no
predicate. -/
@[grind =]
def isFilterTree : Expr → Bool
  | .binary .and lhs rhs | .binary .or lhs rhs =>
      isFilterTree lhs && isFilterTree rhs
  | .binary .isIn _ (.list items) | .binary .notIn _ (.list items) =>
      items.all isLiteral
  | .binary .isIn _ _ | .binary .notIn _ _ => true
  | .binary _ lhs rhs => isOperand lhs && isOperand rhs
  | .unary _ operand => isFilterTree operand
  | .exists _ _ body => isFilterBody body
  | .path _ => false
  | _ => true

@[grind =]
def isFilterBody : Option Expr → Bool
  | none => true
  | some body => isFilterTree body

end

end Expr

end Dsql
