import Dsql.Check.Clause
import Dsql.Plan.Supported

/-!
# Accepted predicates

What the checks of a `where` clause leave to planning.  An accepted predicate
is a filter tree whose names resolve.  It has a plan unless a comparison
follows relations on a side or from an anchor that planning does not read, an
operator variable stands beside an aggregate, or a variable has a default of
the wrong shape.
-/

namespace Dsql

namespace Expr

mutual

/-- Comparisons stand between operands. -/
@[grind =]
def comparesOperands : Expr → Bool
  | .binary .and lhs rhs | .binary .or lhs rhs =>
      comparesOperands lhs && comparesOperands rhs
  | .binary .isIn _ _ | .binary .notIn _ _ => true
  | .binary _ lhs rhs => isOperand lhs && isOperand rhs
  | .unary _ operand => comparesOperands operand
  | .exists _ _ body => bodyComparesOperands body
  | _ => true

@[grind =]
def bodyComparesOperands : Option Expr → Bool
  | none => true
  | some body => comparesOperands body

end

end Expr

namespace ClauseCheck

variable {check : ClauseCheck} {context : Option ClauseContext}

/-! ## What the checks of an operand settle -/

/-- An accepted path has the type of a column. -/
theorem pathValueType_of_checkPath
    {booleanPosition : Bool}
    {path : ScopedPath}
    (h : check.checkPath context booleanPosition path = []) :
    ∃ valueType, check.pathValueType context path = some valueType := by
  cases hvalue : check.pathValueType context path with
  | none => simp [checkPath, hvalue] at h
  | some valueType => exact ⟨valueType, rfl⟩

/-- A bare path is no predicate. -/
theorem checkPath_ne_nil (path : ScopedPath) :
    check.checkPath context true path ≠ [] := by
  cases hvalue : check.pathValueType context path <;>
    simp [checkPath, hvalue]

theorem problems_of_checkAggregate
    {booleanPosition : Bool}
    {context : ClauseContext}
    {source : ScopedPath}
    {function : String}
    {operand : Option ScopedPath}
    (h : check.checkAggregate (some context) booleanPosition source function
      operand = []) :
    (resolvePredicateAggregate check.catalog context source function
      operand).problems = [] := by
  simp only [checkAggregate, aggregate, Option.map_some,
    List.append_eq_nil_iff, List.map_eq_nil_iff] at h
  exact h.1

/-- A valid aggregate that stands for a predicate is an `exists`. -/
theorem function_of_checkAggregate
    {context : ClauseContext}
    {source : ScopedPath}
    {function : String}
    {operand : Option ScopedPath}
    (hvalid : (resolvePredicateAggregate check.catalog context source function
      operand).isValid = true)
    (h : check.checkAggregate (some context) true source function operand =
      []) :
    (resolvePredicateAggregate check.catalog context source function
      operand).function = some .exists := by
  simp only [ResolvedPredicateAggregate.isValid, Bool.and_eq_true] at hvalid
  obtain ⟨known, hknown⟩ := Option.isSome_iff_exists.mp hvalid.1.2
  simp only [checkAggregate, aggregate, Option.map_some,
    List.append_eq_nil_iff, if_true, hknown] at h
  cases known <;> first | exact hknown | cases h.2

/-- An accepted membership test has a path of a column on its left. -/
theorem path_of_checkMembership
    {lhs rhs : Expr}
    (htypes : check.checkMembershipTypes context lhs rhs = [])
    (hlhs : check.checkPredicateExpr context false lhs = []) :
    ∃ path valueType, lhs = .path path ∧
      check.pathValueType context path = some valueType := by
  cases lhs with
  | path path =>
      obtain ⟨valueType, hvalue⟩ := pathValueType_of_checkPath hlhs
      exact ⟨path, valueType, rfl, hvalue⟩
  | _ => cases htypes

/-- The items of an accepted membership test are literals. -/
theorem literals_of_checkMembership
    {lhs : Expr}
    {items : List Expr}
    (hunmapped :
      check.checkUnmappedComparisonOperand context lhs (.list items) = [])
    (htypes : check.checkMembershipTypes context lhs (.list items) = [])
    (hlhs : check.checkPredicateExpr context false lhs = []) :
    items.all Expr.isLiteral = true := by
  obtain ⟨path, valueType, rfl, hvalue⟩ :=
    path_of_checkMembership htypes hlhs
  have hwire : valueType.capabilities.wire ≠ .unsupported := by
    intro hwire
    simp [checkUnmappedComparisonOperand, readsInputType, hvalue,
      checkUnmappedValueType, hwire] at hunmapped
  simp only [checkMembershipTypes, exprSemantics, hvalue, Option.map_some,
    if_neg hwire, List.flatMap_eq_nil_iff] at htypes
  rw [List.all_eq_true]
  intro item hitem
  have hcheck := htypes item hitem
  cases item with
  | literal value => rfl
  | _ => cases hcheck

/-- An accepted predicate is a filter tree. -/
theorem isFilterTree_of_checkPredicateExpr
    {expr : Expr}
    (hcompares : expr.comparesOperands = true)
    (h : check.checkPredicateExpr context true expr = []) :
    expr.isFilterTree = true := by
  induction expr generalizing context with
  | binary op lhs rhs ihlhs ihrhs =>
      simp only [checkPredicateExpr, List.append_eq_nil_iff] at h
      obtain ⟨⟨⟨hunmapped, hop⟩, hlhs⟩, hrhs⟩ := h
      cases op with
      | and | or =>
          simp only [Expr.comparesOperands, Bool.and_eq_true] at hcompares
          simp only [Expr.isFilterTree, Bool.and_eq_true]
          exact ⟨ihlhs hcompares.1 hlhs, ihrhs hcompares.2 hrhs⟩
      | comparison op | «variable» operator => exact hcompares
      | isIn | notIn =>
          cases rhs with
          | list items =>
              exact literals_of_checkMembership hunmapped hop hlhs
          | _ => rfl
  | unary op operand ih => exact ih hcompares h
  | exists_ source filters predicate _ ih =>
      cases predicate with
      | none => rfl
      | some body =>
          simp only [checkPredicateExpr, checkPredicateBody,
            List.append_eq_nil_iff] at h
          exact ih body rfl hcompares h.2
  | path path => exact absurd h (checkPath_ne_nil path)
  | _ => rfl

/-! ## Aggregates beside a relation path -/

section Aggregates

variable
  {path source : ScopedPath}
  {function : String}
  {operand : Option ScopedPath}

/-- An accepted aggregate behind a relation path is compared by an operator
variable. -/
theorem operator_of_checkOperator_aggregate
    {op : BinaryOp}
    (hop : isComparisonOperator op = true)
    (hlong : path.segments.length ≠ 1)
    (hpath : check.checkPath context false path = [])
    (h : check.checkOperator context op (.path path)
      (.aggregate source function operand) = []) :
    ∃ operator, op = .variable operator := by
  obtain ⟨valueType, hvalue⟩ := pathValueType_of_checkPath hpath
  cases op with
  | «variable» operator => exact ⟨operator, rfl⟩
  | comparison op =>
      simp only [checkOperator, List.append_eq_nil_iff] at h
      simp [checkAggregateComparisonPath, hlong, hvalue] at h
  | and | or | isIn | notIn => cases hop

/-- No comparison of an aggregate with a relation path behind it is
accepted. -/
theorem checkOperator_aggregate_ne_nil
    {op : BinaryOp}
    (hop : isComparisonOperator op = true)
    (hlong : path.segments.length ≠ 1)
    (hpath : check.checkPath context false path = []) :
    check.checkOperator context op (.aggregate source function operand)
      (.path path) ≠ [] := by
  obtain ⟨valueType, hvalue⟩ := pathValueType_of_checkPath hpath
  cases op with
  | «variable» operator => simp [checkOperator, checkOperatorVariable]
  | comparison op =>
      simp [checkOperator, checkAggregateComparisonPath, hlong, hvalue]
  | and | or | isIn | notIn => cases hop

end Aggregates

end ClauseCheck

/-- Every existence source without a problem is resolved. -/
theorem resolveExistence_isSome
    {catalog : Catalog}
    {context : ClauseContext}
    {source : ExistsSource}
    (h : (resolveExistence catalog context source).problems = []) :
    (resolveExistence catalog context source).source.isSome = true := by
  revert h
  unfold resolveExistence
  split
  · split <;> simp
  · simp
  · split <;> simp

theorem resolveAggregateValue_isValid
    {catalog : Catalog}
    {table : TableId}
    {relation : ResolvedRelationStep}
    {problems : List AggregateProblemKind}
    {function : String}
    {operand : Option ScopedPath}
    (h : (resolveAggregateValue catalog table relation problems function
      operand).problems = []) :
    (resolveAggregateValue catalog table relation problems function
      operand).isValid = true := by
  unfold ResolvedPredicateAggregate.isValid
  rw [h]
  revert h
  cases hfunction : AggregateFunction.ofLabel function with
  | none => simp [resolveAggregateValue, hfunction]
  | some known =>
      cases operand with
      | none =>
          cases known <;> simp [resolveAggregateValue, hfunction]
      | some operand =>
          cases hcolumn : resolveValueOperand catalog table operand with
          | none =>
              cases known <;>
                simp [resolveAggregateValue, hfunction, hcolumn]
          | some column =>
              cases hresult : column.type.capabilities.aggregates.result known
                  column.type.logicalDataType <;>
                cases known <;>
                  simp [resolveAggregateValue, hfunction, hcolumn, hresult]

/-- An aggregate without a problem is resolved. -/
theorem resolvePredicateAggregate_isValid
    {catalog : Catalog}
    {context : ClauseContext}
    {source : ScopedPath}
    {function : String}
    {operand : Option ScopedPath}
    (h : (resolvePredicateAggregate catalog context source function
      operand).problems = []) :
    (resolvePredicateAggregate catalog context source function
      operand).isValid = true := by
  revert h
  unfold resolvePredicateAggregate
  split
  · split
    · exact resolveAggregateValue_isValid
    · simp
  · simp

namespace FilterSite

variable (site : FilterSite)

/-! ## What planning reads of an accepted predicate -/

/-- An operand on the right of a comparison, or beside an aggregate. -/
def readsOperand
    (fieldPath : Option InputPath)
    (op : BinaryOp) : Expr → Bool
  | .path path => path.segments.length == 1
  | .variable reference =>
      (site.operandVariableValue fieldPath op reference).isSingle
  | _ => true

/-- An operand on the left of a comparison without aggregates. -/
def readsLeft
    (context : ClauseContext)
    (op : BinaryOp)
    (lhs rhs : Expr) : Bool :=
  match lhs with
  | .path path =>
      path.segments.length == 1 || path.anchor == .current ||
        site.operandIsNull (site.predicatePath context path) op rhs
  | lhs => site.readsOperand none op lhs

def readsComparison
    (context : ClauseContext)
    (op : BinaryOp)
    (lhs rhs : Expr) : Bool :=
  site.readsOperand (site.predicateValuePath context lhs) op rhs &&
    (if lhs.isAggregate || rhs.isAggregate then
      (match op with
        | .comparison _ => true
        | _ => false) &&
        site.readsOperand (site.leftOperandPath context rhs) op lhs
    else
      site.readsLeft context op lhs rhs)

def readsMembership
    (context : ClauseContext)
    (op : BinaryOp)
    (lhs : Expr) : Expr → Bool
  | .list _ => true
  | .variable reference =>
      (site.operandVariableValue (site.predicateValuePath context lhs) op
        reference).isCollection
  | _ => false

mutual

/-- Whether planning reads the comparisons and the variables of a predicate;
names are taken to resolve. -/
@[grind =]
def reads (context : ClauseContext) : Expr → Bool
  | .binary .and lhs rhs | .binary .or lhs rhs =>
      reads context lhs && reads context rhs
  | .binary .isIn lhs rhs => site.readsMembership context .isIn lhs rhs
  | .binary .notIn lhs rhs => site.readsMembership context .notIn lhs rhs
  | .binary op lhs rhs => site.readsComparison context op lhs rhs
  | .unary _ operand => reads context operand
  | .exists source _ body => readsBody (site.bodyContext context source) body
  | .variable reference => (site.booleanVariableValue reference).isSingle
  | .error => false
  | _ => true

@[grind =]
def readsBody (context : ClauseContext) : Option Expr → Bool
  | none => true
  | some body => reads context body

end

section Accepted

variable {site} {check : ClauseCheck} {context : ClauseContext}

theorem predicatePath_of_checkPath
    (hcatalog : check.catalog = site.planner.catalog)
    {booleanPosition : Bool}
    {path : ScopedPath}
    (h : check.checkPath (some context) booleanPosition path = []) :
    (site.predicatePath context path).isSome = true := by
  obtain ⟨valueType, hvalue⟩ := ClauseCheck.pathValueType_of_checkPath h
  rw [predicatePath, displayPath_isSome, ← hcatalog]
  simp only [ClauseCheck.pathValueType] at hvalue
  cases hterminal : (resolvePath check.catalog context path).terminal with
  | column display table column valueType => rfl
  | failed | outOfScope => simp [hterminal] at hvalue

/-- An accepted operand is supported where planning reads it. -/
theorem supportsOperand_of_checkPredicateExpr
    (hcatalog : check.catalog = site.planner.catalog)
    {operand : Expr}
    (hoperand : operand.isOperand = true)
    (h : check.checkPredicateExpr (some context) false operand = [])
    (fieldPath : Option InputPath)
    (op : BinaryOp) :
    site.supportsOperand context fieldPath op operand =
      site.readsOperand fieldPath op operand := by
  cases operand with
  | path path =>
      simp only [supportsOperand, readsOperand,
        predicatePath_of_checkPath hcatalog h, Bool.and_true]
  | aggregate source function argument =>
      simp only [supportsOperand, readsOperand]
      rw [← hcatalog]
      exact resolvePredicateAggregate_isValid
        (ClauseCheck.problems_of_checkAggregate h)
  | literal value => rfl
  | «variable» reference => rfl
  | _ => cases hoperand

theorem supportsComparison_of_checkPredicateExpr
    (hcatalog : check.catalog = site.planner.catalog)
    {op : BinaryOp}
    {lhs rhs : Expr}
    (hlhs : lhs.isOperand = true)
    (hrhs : rhs.isOperand = true)
    (hcheckLhs : check.checkPredicateExpr (some context) false lhs = [])
    (hcheckRhs : check.checkPredicateExpr (some context) false rhs = []) :
    site.supportsComparison context op lhs rhs =
      site.readsComparison context op lhs rhs := by
  have hleft : site.supportsLeft context op lhs rhs =
      site.readsLeft context op lhs rhs := by
    cases lhs with
    | path path =>
        simp only [supportsLeft, readsLeft,
          predicatePath_of_checkPath hcatalog hcheckLhs, Bool.true_and]
    | _ =>
        exact supportsOperand_of_checkPredicateExpr hcatalog hlhs hcheckLhs
          none op
  have hright := supportsOperand_of_checkPredicateExpr hcatalog hrhs
    hcheckRhs (site.predicateValuePath context lhs) op
  have haggregate := supportsOperand_of_checkPredicateExpr hcatalog hlhs
    hcheckLhs (site.leftOperandPath context rhs) op
  cases op <;>
    simp only [supportsComparison, readsComparison, hleft, hright, haggregate]

theorem supportsMembership_of_checkPredicateExpr
    (hcatalog : check.catalog = site.planner.catalog)
    {op : BinaryOp}
    {lhs rhs : Expr}
    (htypes : check.checkMembershipTypes (some context) lhs rhs = [])
    (hlhs : check.checkPredicateExpr (some context) false lhs = []) :
    site.supportsMembership context op lhs rhs =
      site.readsMembership context op lhs rhs := by
  obtain ⟨path, valueType, rfl, -⟩ :=
    ClauseCheck.path_of_checkMembership htypes hlhs
  obtain ⟨fieldPath, hpath⟩ := Option.isSome_iff_exists.mp
    (predicatePath_of_checkPath hcatalog hlhs)
  simp only [supportsMembership, readsMembership, predicateValuePath, hpath]
  cases rhs <;> rfl

/-- An accepted predicate is supported exactly when planning reads its
comparisons and its variables. -/
theorem supports_of_checkPredicateExpr
    (hcatalog : check.catalog = site.planner.catalog)
    {expr : Expr}
    (hcompares : expr.comparesOperands = true)
    (h : check.checkPredicateExpr (some context) true expr = []) :
    site.supports context expr = site.reads context expr := by
  induction expr generalizing context with
  | binary op lhs rhs ihlhs ihrhs =>
      simp only [ClauseCheck.checkPredicateExpr, List.append_eq_nil_iff] at h
      obtain ⟨⟨⟨-, hop⟩, hlhs⟩, hrhs⟩ := h
      cases op with
      | and | or =>
          simp only [Expr.comparesOperands, Bool.and_eq_true] at hcompares
          simp only [supports, reads, ihlhs hcompares.1 hlhs,
            ihrhs hcompares.2 hrhs]
      | comparison op | «variable» operator =>
          simp only [Expr.comparesOperands, Bool.and_eq_true] at hcompares
          exact supportsComparison_of_checkPredicateExpr hcatalog hcompares.1
            hcompares.2 hlhs hrhs
      | isIn | notIn =>
          exact supportsMembership_of_checkPredicateExpr hcatalog hop hlhs
  | unary op operand ih => exact ih hcompares h
  | nullTest operand negated ih =>
      cases operand with
      | path path => exact predicatePath_of_checkPath hcatalog h
      | _ => cases h
  | exists_ source filters predicate _ ih =>
      simp only [ClauseCheck.checkPredicateExpr, List.append_eq_nil_iff] at h
      obtain ⟨hsource, hbody⟩ := h
      have hsome := resolveExistence_isSome (List.map_eq_nil_iff.mp hsource)
      obtain ⟨resolved, hresolved⟩ := Option.isSome_iff_exists.mp hsome
      have hcontext : site.bodyContext context source =
          context.nested resolved.tableId := by
        rw [bodyContext, ← hcatalog, hresolved]
      simp only [supports, reads, ← hcatalog, hresolved, Option.isSome_some,
        Bool.true_and, hcontext]
      cases predicate with
      | none => rfl
      | some body =>
          simp only [ClauseCheck.existsContext, Option.bind_some, hresolved,
            Option.map_some] at hbody
          exact ih body rfl hcompares hbody
  | list items =>
      simp [ClauseCheck.checkPredicateExpr] at h
  | path path => exact absurd h (ClauseCheck.checkPath_ne_nil path)
  | predicateRef name => cases h
  | aggregate source function operand =>
      have hvalid := resolvePredicateAggregate_isValid
        (ClauseCheck.problems_of_checkAggregate h)
      simp only [supports, reads, ← hcatalog, hvalid, Bool.and_true,
        ClauseCheck.function_of_checkAggregate hvalid h, beq_self_eq_true]
  | _ => rfl

/-- An accepted `where` is a filter tree, and planning supports it exactly
when it reads its comparisons and its variables. -/
theorem supports_of_checkWhere
    (hcatalog : check.catalog = site.planner.catalog)
    {expr : Expr}
    (hcompares : expr.comparesOperands = true)
    (h : check.checkWhere context expr = []) :
    expr.isFilterTree = true ∧
      site.supports context expr = site.reads context expr := by
  have hcheck := (List.append_eq_nil_iff.mp h).2
  exact ⟨ClauseCheck.isFilterTree_of_checkPredicateExpr hcompares hcheck,
    supports_of_checkPredicateExpr hcatalog hcompares hcheck⟩

end Accepted

end FilterSite

end Dsql
