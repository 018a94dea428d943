import Dsql.Plan.PruningExactness

/-!
# Predicates that planning supports

Which filter trees have a plan, read off the tree, the names it resolves and
the defaults its variables fall back to.  A comparison reads a relation path
on its left only, and from the current row only; an operator variable does not
stand beside an aggregate.
-/

namespace Dsql

/-- A default that stands for one value. -/
def InputDefault.isSingle : InputDefault → Bool
  | .collection _ | .emptyObject => false
  | _ => true

namespace VariableValue

/-- An input, or a default that stands for one value. -/
def isSingle : VariableValue → Bool
  | .value _ => true
  | .default fixed => fixed.isSingle

/-- An input, a default of null or a default that lists single values. -/
def isCollection : VariableValue → Bool
  | .value _ => true
  | .default .null => true
  | .default (.collection items) => items.all InputDefault.isSingle
  | .default _ => false

def isNull : VariableValue → Bool
  | .default .null => true
  | _ => false

end VariableValue

namespace FilterSite

variable (site : FilterSite)

section Atoms

variable (context : ClauseContext)

/-- An operand beside one of path `fieldPath`: a path is a single segment. -/
def supportsOperand
    (fieldPath : Option InputPath)
    (op : BinaryOp) : Expr → Bool
  | .path path =>
      path.segments.length == 1 && (site.predicatePath context path).isSome
  | .literal _ => true
  | .variable reference =>
      (site.operandVariableValue fieldPath op reference).isSingle
  | .aggregate source function operand =>
      (resolvePredicateAggregate site.planner.catalog context source function
        operand).isValid
  | _ => false

/-- A variable operand that a spread fixes to null. -/
def operandIsNull
    (fieldPath : Option InputPath)
    (op : BinaryOp) : Expr → Bool
  | .variable reference =>
      (site.operandVariableValue fieldPath op reference).isNull
  | _ => false

/-- The left operand of a comparison without aggregates: a path may follow
relations from the current row, or stand beside an operand that is null. -/
def supportsLeft (op : BinaryOp) (lhs rhs : Expr) : Bool :=
  match lhs with
  | .path path =>
      (site.predicatePath context path).isSome &&
        (path.segments.length == 1 || path.anchor == .current ||
          site.operandIsNull (site.predicatePath context path) op rhs)
  | lhs => site.supportsOperand context none op lhs

def supportsComparison (op : BinaryOp) (lhs rhs : Expr) : Bool :=
  site.supportsOperand context (site.predicateValuePath context lhs) op rhs &&
    (if lhs.isAggregate || rhs.isAggregate then
      (match op with
        | .comparison _ => true
        | _ => false) &&
        site.supportsOperand context (site.leftOperandPath context rhs) op lhs
    else
      site.supportsLeft context op lhs rhs)

/-- Membership of a path in listed items or in a variable. -/
def supportsMembership (op : BinaryOp) (lhs rhs : Expr) : Bool :=
  match lhs with
  | .path path =>
      match site.predicatePath context path, rhs with
      | some _, .list _ => true
      | some fieldPath, .variable reference =>
          (site.operandVariableValue (some fieldPath) op
            reference).isCollection
      | _, _ => false
  | _ => false

end Atoms

mutual

/-- Whether a filter tree has a plan, and so has every body of an `exists` in
it. -/
@[grind =]
def supports (context : ClauseContext) : Expr → Bool
  | .binary .and lhs rhs | .binary .or lhs rhs =>
      supports context lhs && supports context rhs
  | .binary .isIn lhs rhs => site.supportsMembership context .isIn lhs rhs
  | .binary .notIn lhs rhs => site.supportsMembership context .notIn lhs rhs
  | .binary op lhs rhs => site.supportsComparison context op lhs rhs
  | .unary _ operand => supports context operand
  | .nullTest (.path path) _ => (site.predicatePath context path).isSome
  | .exists source _ body =>
      (resolveExistence site.planner.catalog context source).source.isSome &&
        supportsBody (site.bodyContext context source) body
  | .literal _ | .dynamicPredicate _ _ => true
  | .variable reference => (site.booleanVariableValue reference).isSingle
  | .aggregate source function operand =>
      let aggregate := resolvePredicateAggregate site.planner.catalog context
        source function operand
      aggregate.function == some .exists && aggregate.isValid
  | _ => false

@[grind =]
def supportsBody (context : ClauseContext) : Option Expr → Bool
  | none => true
  | some body => supports context body

end

/-! ## Operands that have a plan -/

theorem displayPath_isSome (path : ResolvedPath) :
    path.displayPath.isSome = path.terminal.columnId.isSome := by
  unfold ResolvedPath.displayPath
  cases path.terminal <;> rfl

theorem publicFilterValue_isSome (value : VariableValue) :
    (site.planner.publicFilterValue value).isSome = value.isSingle := by
  cases value with
  | value path => rfl
  | default value => cases value <;> rfl

/-- A boolean variable is planned as a single value. -/
theorem planBooleanVariable_isSome (reference : VariableRef) :
    (site.planBooleanVariable reference).isSome =
      (site.booleanVariableValue reference).isSingle := by
  rw [planBooleanVariable_eq]
  cases site.booleanVariableValue reference with
  | value path => rfl
  | default value => exact site.publicFilterValue_isSome (.default value)

section Operands

variable (context : ClauseContext) (outer : Bool)

/-- A path is planned where it ends at a column. -/
theorem predicatePath_isSome (path : ScopedPath) :
    (site.predicatePath context path).isSome =
      (resolvePath site.planner.catalog context path).terminal.columnId.isSome :=
  displayPath_isSome _

/-- A bare path is planned where it has one segment. -/
theorem planFilterPath_isSome (path : ScopedPath) :
    (site.planFilterPath context outer path).isSome =
      (path.segments.length == 1 &&
        (site.predicatePath context path).isSome) := by
  rw [predicatePath_isSome]
  unfold planFilterPath
  split
  · next heq => simp [heq]
  · next hne =>
      cases hsegments : path.segments with
      | nil => rfl
      | cons segment rest =>
          cases rest with
          | nil => exact absurd hsegments (hne segment)
          | cons next rest => rfl

theorem planPredicateOperandPath_isSome (path : ScopedPath) :
    (site.planPredicateOperandPath context outer (.path path)).isSome =
      (site.predicatePath context path).isSome := by
  rw [predicatePath_isSome]
  simp [planPredicateOperandPath]

/-- An aggregate is planned where it resolves. -/
theorem planPredicateAggregate_isSome
    (source : ScopedPath)
    (function : String)
    (operand : Option ScopedPath) :
    (site.planPredicateAggregate context source function operand).isSome =
      (resolvePredicateAggregate site.planner.catalog context source function
        operand).isValid := by
  unfold planPredicateAggregate
  simp only
  generalize resolvePredicateAggregate site.planner.catalog context source
    function operand = aggregate
  cases hvalid : aggregate.isValid with
  | false => rfl
  | true =>
      have hparts := hvalid
      simp only [ResolvedPredicateAggregate.isValid, Bool.and_eq_true,
        Option.isSome_iff_exists] at hparts
      obtain ⟨⟨⟨-, relation, hrelation⟩, function, hfunction⟩, -⟩ := hparts
      simp [hrelation, hfunction]

/-- An operand other than a variable or an aggregate, planned as it stands. -/
theorem planFilterExpr_operand_isSome
    {operand : Expr}
    (hoperand : operand.isOperand = true)
    (haggregate : operand.isAggregate = false)
    (op : BinaryOp) :
    (site.planFilterExpr context outer operand).isSome =
      site.supportsOperand context none op operand := by
  cases operand with
  | path path => exact site.planFilterPath_isSome context outer path
  | literal value => rfl
  | «variable» reference => exact site.planBooleanVariable_isSome reference
  | aggregate source function argument => cases haggregate
  | _ => cases hoperand

/-- A value variable is planned as a single value. -/
theorem planValueVariable_isSome
    (fieldPath : InputPath)
    (op : BinaryOp)
    (reference : VariableRef) :
    (site.planValueVariable fieldPath op reference).isSome =
      (site.operandVariableValue (some fieldPath) op reference).isSingle :=
  site.publicFilterValue_isSome _

end Operands

/-! ## Comparisons that have a plan -/

section Comparisons

variable (context : ClauseContext) {outer : Bool} {op : BinaryOp}

/-- A comparison along relations is planned. -/
theorem relationPredicateFilter_isSome
    (path : ScopedPath)
    (right : FilterExpr)
    (fieldPath : InputPath)
    (hop : isComparisonOperator op = true)
    (hpath : (site.predicatePath context path).isSome = true) :
    (site.relationPredicateFilter context path op right fieldPath).isSome =
      (path.anchor == .current && decide (2 ≤ path.segments.length)) := by
  unfold relationPredicateFilter
  split
  · next hlong =>
      obtain ⟨hanchor, hlong⟩ := hlong
      have hresolve : resolvePath site.planner.catalog context path =
          resolveSegments site.planner.catalog context.table []
            path.segments := by
        rw [resolvePath, hanchor]
        rfl
      rw [predicatePath_isSome, hresolve, Option.isSome_iff_exists] at hpath
      obtain ⟨column, hcolumn⟩ := hpath
      have hrelations := resolveSegments_relations_ne_nil hlong hcolumn
      simp only [hresolve, List.isEmpty_iff, hrelations, if_false]
      cases hterminal : (resolveSegments site.planner.catalog context.table []
          path.segments).terminal with
      | column display table found valueType =>
          simp [hanchor, hlong, binaryOrVariant_isSome site hop]
      | failed | outOfScope =>
          rw [hterminal] at hcolumn
          cases hcolumn
  · next hshort =>
      by_cases hanchor : path.anchor = .current
      · simp only [hanchor, true_and] at hshort
        simp [hshort]
      · simp [hanchor]

/-- The operand beside a path that resolves. -/
theorem namedOperand_isSome
    {operand : Expr}
    (hoperand : operand.isOperand = true)
    (haggregate : operand.isAggregate = false)
    (fieldPath : InputPath) :
    (site.namedOperand fieldPath op operand
        (site.planFilterExpr context outer operand)).isSome =
      site.supportsOperand context (some fieldPath) op operand := by
  cases operand with
  | path path => exact site.planFilterPath_isSome context outer path
  | literal value => rfl
  | «variable» reference =>
      exact site.planValueVariable_isSome fieldPath op reference
  | aggregate source function argument => cases haggregate
  | _ => cases hoperand

/-- Only a variable that is fixed to null is planned as absent. -/
theorem namedOperand_isAbsent
    {operand : Expr}
    {filter : FilterExpr}
    {fieldPath : InputPath}
    (hoperand : operand.isOperand = true)
    (haggregate : operand.isAggregate = false)
    (h : site.namedOperand fieldPath op operand
      (site.planFilterExpr context outer operand) = some filter) :
    isAbsent filter = site.operandIsNull (some fieldPath) op operand := by
  cases operand with
  | path path =>
      have hpath : site.planFilterPath context outer path = some filter := h
      unfold planFilterPath at hpath
      split at hpath
      · obtain ⟨column, -, rfl⟩ := Option.map_eq_some_iff.mp hpath
        rfl
      · cases hpath
  | literal value =>
      cases h
      rfl
  | «variable» reference =>
      have hvalue : site.planner.publicFilterValue
          (site.operandVariableValue (some fieldPath) op reference) =
            some filter := h
      simp only [operandIsNull]
      generalize site.operandVariableValue (some fieldPath) op reference =
        value at hvalue ⊢
      cases value with
      | value path =>
          cases hvalue
          rfl
      | default fixed =>
          cases fixed <;> cases hvalue <;> rfl
  | aggregate source function argument => cases haggregate
  | _ => cases hoperand

/-- A comparison is planned when its operands are. -/
theorem binaryOrVariant_bind_isSome
    (left right : Option FilterExpr)
    (fieldPath : InputPath)
    (hop : isComparisonOperator op = true) :
    (do
      let left ← left
      let right ← right
      site.binaryOrVariant left op right fieldPath).isSome =
        (left.isSome && right.isSome) := by
  cases left with
  | none => rfl
  | some left =>
      cases right with
      | none => rfl
      | some right => exact binaryOrVariant_isSome site hop

/-- A comparison of a path is planned with its other side. -/
theorem planPlainComparison_path_isSome
    {path : ScopedPath}
    {rhs : Expr}
    {fieldPath : InputPath}
    (hop : isComparisonOperator op = true)
    (hpath : site.predicatePath context path = some fieldPath)
    (hrhs : rhs.isOperand = true)
    (haggregate : rhs.isAggregate = false) :
    (site.planPlainComparison context outer op (.path path) rhs
        (site.plannedOperands context outer (.path path) rhs)).isSome =
      (path.segments.length == 1 &&
        site.supportsOperand context (some fieldPath) op rhs) := by
  have hleft : (site.planFilterPath context outer path).isSome =
      (path.segments.length == 1) := by
    rw [planFilterPath_isSome, hpath]
    exact Bool.and_true _
  rw [← hleft, ← site.namedOperand_isSome context hrhs haggregate fieldPath]
  cases rhs with
  | «variable» reference =>
      simp only [planPlainComparison, predicateValuePath, hpath]
      exact site.binaryOrVariant_bind_isSome _ _ fieldPath hop
  | path other =>
      exact site.binaryOrVariant_bind_isSome _ _ _ hop
  | literal value =>
      exact site.binaryOrVariant_bind_isSome _ _ _ hop
  | aggregate source function argument => cases haggregate
  | _ => cases hrhs

theorem segments_ne_nil
    {path : ScopedPath}
    {fieldPath : InputPath}
    (hpath : site.predicatePath context path = some fieldPath) :
    1 ≤ path.segments.length := by
  by_contra hempty
  have hnil : path.segments = [] := List.length_eq_zero_iff.mp (by omega)
  simp only [predicatePath, resolvePath, hnil] at hpath
  split at hpath <;> cases hpath

/-- A path compared with an operand that is no aggregate. -/
theorem planOperands_path_isSome
    {path : ScopedPath}
    {rhs : Expr}
    (hop : isComparisonOperator op = true)
    (hrhs : rhs.isOperand = true)
    (haggregate : rhs.isAggregate = false) :
    (site.planOperands context outer op (.path path) rhs).isSome =
      (site.supportsOperand context (site.predicatePath context path) op rhs &&
        site.supportsLeft context op (.path path) rhs) := by
  cases hpath : site.predicatePath context path with
  | none =>
      -- a path that does not resolve has no plan on its own either
      have hnone : site.planFilterPath context outer path = none := by
        rw [← Option.isNone_iff_eq_none, ← Option.not_isSome,
          planFilterPath_isSome, hpath]
        simp
      have hrelation : site.planRelationComparison context op (.path path) rhs
          (site.plannedOperands context outer (.path path) rhs) = none := by
        refine site.planRelationComparison_not_path context ?_
        intro other fieldPath heq
        cases heq
        simp [hpath]
      have hleft : (site.plannedOperands context outer (.path path) rhs).left =
          none := hnone
      rw [planOperands, hrelation]
      simp only
      rw [planPlainComparison_unnamed _ _
        (fun other reference fieldPath heq _ => by
          cases heq
          simp [predicateValuePath, hpath]), hleft]
      simp [supportsLeft, hpath]
  | some fieldPath =>
      have hright : (site.namedOperand fieldPath op rhs
          (site.planFilterExpr context true rhs)).isSome =
            site.supportsOperand context (some fieldPath) op rhs :=
        site.namedOperand_isSome context hrhs haggregate fieldPath
      rw [planOperands, planRelationComparison_path _ _ hop hpath, ← hright]
      cases hnamed : site.namedOperand fieldPath op rhs
          (site.planFilterExpr context true rhs) with
      | none => simp [plannedOperands, hnamed]
      | some right =>
          have habsent := site.namedOperand_isAbsent context hrhs haggregate
            hnamed
          simp only [plannedOperands, hnamed, supportsLeft, hpath]
          cases hskip : isAbsent right with
          | true =>
              rw [hskip] at habsent
              simp [← habsent]
          | false =>
              rw [hskip] at habsent
              have hrelation := site.relationPredicateFilter_isSome context path
                right fieldPath hop (by rw [hpath]; rfl)
              have hplain : (site.planPlainComparison context outer op
                  (.path path) rhs
                  (site.plannedOperands context outer (.path path) rhs)).isSome =
                    (path.segments.length == 1 &&
                      site.supportsOperand context (some fieldPath) op rhs) :=
                site.planPlainComparison_path_isSome context hop hpath hrhs
                  haggregate
              rw [hnamed] at hright
              rw [← hright] at hplain
              have hlength := site.segments_ne_nil context hpath
              simp only [Bool.false_eq_true, if_false, ← habsent,
                Option.isSome_some, Bool.true_and, Bool.or_false]
              cases hplan : site.relationPredicateFilter context path op right
                  fieldPath with
              | some filter =>
                  rw [hplan] at hrelation
                  obtain ⟨hanchor, -⟩ := Bool.and_eq_true_iff.mp hrelation.symm
                  simp [eq_of_beq hanchor]
              | none =>
                  rw [hplan] at hrelation
                  refine hplain.trans ?_
                  by_cases hanchor : path.anchor = .current
                  · simp [hanchor] at hrelation
                    simp [hanchor]
                    omega
                  · simp [hanchor]

/-- An operand beside an aggregate of path `fieldPath`. -/
theorem planAggregateComparisonOperand_isSome
    {operand : Expr}
    (hoperand : operand.isOperand = true)
    (fieldPath : InputPath) :
    (site.planAggregateComparisonOperand context fieldPath op
        (site.planFilterExpr context true operand) operand).isSome =
      site.supportsOperand context (some fieldPath) op operand := by
  cases operand with
  | path path => exact site.planFilterPath_isSome context true path
  | literal value => rfl
  | «variable» reference =>
      exact site.planValueVariable_isSome fieldPath op reference
  | aggregate source function argument =>
      exact site.planPredicateAggregate_isSome context source function argument
  | _ => cases hoperand

/-- Only a variable is named by the operand beside it. -/
theorem supportsOperand_unnamed
    {operand : Expr}
    (hvariable : ∀ reference, operand ≠ .variable reference)
    (fieldPath other : Option InputPath) :
    site.supportsOperand context fieldPath op operand =
      site.supportsOperand context other op operand := by
  cases operand with
  | «variable» reference => exact absurd rfl (hvariable reference)
  | _ => rfl

/-- An aggregate without a display path is not supported. -/
theorem supportsOperand_aggregate_unnamed
    {operand : Expr}
    (haggregate : operand.isAggregate = true)
    (hpath : site.predicateValuePath context operand = none)
    (fieldPath : Option InputPath) :
    site.supportsOperand context fieldPath op operand = false := by
  cases operand with
  | aggregate source function argument =>
      have hplan := site.planPredicateAggregate_unnamed context hpath
      rw [← Option.isNone_iff_eq_none, ← Option.not_isSome,
        planPredicateAggregate_isSome] at hplan
      simpa [supportsOperand] using hplan
  | _ => cases haggregate

/-- Operands planned as they stand have no plan when one of them has none. -/
theorem planOperands_unnamed
    {lhs rhs : Expr}
    (hop : isComparisonOperator op = true)
    (haggregate : (lhs.isAggregate || rhs.isAggregate) = true)
    (hpath : site.predicateValuePath context
      (if lhs.isAggregate then lhs else rhs) = none) :
    site.planOperands context outer op lhs rhs = none := by
  cases hlhs : lhs.isAggregate with
  | true =>
      rw [hlhs, if_pos rfl] at hpath
      have hleft : site.planFilterExpr context outer lhs = none :=
        site.planFilterExpr_aggregate_unnamed context outer hlhs hpath
      cases lhs with
      | aggregate source function argument =>
          simp only [planOperands, planRelationComparison, plannedOperands]
          rw [planPlainComparison_unnamed _ _ (fun _ _ _ heq => by cases heq)]
          simp [hleft]
      | _ => cases hlhs
  | false =>
      rw [hlhs] at hpath haggregate
      simp only [Bool.false_or, Bool.false_eq_true, if_false] at haggregate hpath
      have hright (outer : Bool) : site.planFilterExpr context outer rhs = none :=
        site.planFilterExpr_aggregate_unnamed context outer haggregate hpath
      cases rhs with
      | aggregate source function argument =>
          have hplain : site.planPlainComparison context outer op lhs
              (.aggregate source function argument)
              (site.plannedOperands context outer lhs
                (.aggregate source function argument)) = none := by
            rw [planPlainComparison_unnamed _ _
              (fun _ _ _ _ heq => by cases heq)]
            simp only [plannedOperands, hright, Option.bind_eq_bind,
              Option.bind_none]
            cases site.planFilterExpr context outer lhs <;> rfl
          by_cases hnamed : ∃ path fieldPath, lhs = .path path ∧
              site.predicatePath context path = some fieldPath
          · obtain ⟨path, fieldPath, rfl, hresolved⟩ := hnamed
            rw [planOperands, planRelationComparison_path _ _ hop hresolved]
            simp [plannedOperands, namedOperand, hright]
          · have hrelation : site.planRelationComparison context op lhs
                (.aggregate source function argument)
                (site.plannedOperands context outer lhs
                  (.aggregate source function argument)) = none := by
              refine site.planRelationComparison_not_path context ?_
              intro path fieldPath heq hresolved
              exact hnamed ⟨path, fieldPath, heq, hresolved⟩
            rw [planOperands, hrelation]
            exact hplain
      | _ => cases haggregate

/-- A comparison with an aggregate. -/
theorem planBinary_aggregate_isSome
    {lhs rhs : Expr}
    (hop : isComparisonOperator op = true)
    (hlhs : lhs.isOperand = true)
    (hrhs : rhs.isOperand = true)
    (haggregate : (lhs.isAggregate || rhs.isAggregate) = true) :
    (site.planBinary context outer op lhs rhs
        (site.plannedOperands context outer lhs rhs)).isSome =
      site.supportsComparison context op lhs rhs := by
  cases op with
  | «variable» operator =>
      simp [planBinary, supportsComparison, haggregate]
  | comparison op =>
      simp only [supportsComparison, haggregate, if_true, Bool.true_and]
      cases hpath : site.predicateValuePath context
          (if lhs.isAggregate then lhs else rhs) with
      | none =>
          rw [planBinary_unnamed _ _ haggregate hpath,
            site.planOperands_unnamed context hop haggregate hpath]
          cases hleft : lhs.isAggregate with
          | true =>
              rw [hleft, if_pos rfl] at hpath
              rw [site.supportsOperand_aggregate_unnamed context hleft hpath,
                Bool.and_false]
              rfl
          | false =>
              rw [hleft] at hpath haggregate
              simp only [Bool.false_or, Bool.false_eq_true, if_false]
                at haggregate hpath
              rw [site.supportsOperand_aggregate_unnamed context haggregate
                hpath, Bool.false_and]
              rfl
      | some fieldPath =>
          have hright : site.supportsOperand context
              (site.predicateValuePath context lhs) (.comparison op) rhs =
                site.supportsOperand context (some fieldPath) (.comparison op)
                  rhs := by
            cases hleft : lhs.isAggregate with
            | true =>
                rw [hleft, if_pos rfl] at hpath
                rw [hpath]
            | false =>
                rw [hleft, Bool.false_or] at haggregate
                refine site.supportsOperand_unnamed context ?_ _ _
                rintro reference rfl
                cases haggregate
          have hleft : site.supportsOperand context
              (site.leftOperandPath context rhs) (.comparison op) lhs =
                site.supportsOperand context (some fieldPath) (.comparison op)
                  lhs := by
            cases lhs with
            | «variable» reference =>
                cases rhs with
                | aggregate source function argument =>
                    have hnamed : site.predicateValuePath context
                        (.aggregate source function argument) =
                          some fieldPath := hpath
                    rw [leftOperandPath, hnamed]
                | _ => cases haggregate
            | _ => rfl
          rw [planBinary_aggregate _ _ haggregate hpath,
            site.binaryOrVariant_bind_isSome _ _ fieldPath hop,
            site.planAggregateComparisonOperand_isSome context hlhs,
            site.planAggregateComparisonOperand_isSome context hrhs, hright,
            hleft, Bool.and_comm]
  | isIn | notIn | and | or => cases hop

/-- A comparison is planned exactly when it is supported. -/
theorem planComparison_isSome
    {lhs rhs : Expr}
    (hop : isComparisonOperator op = true)
    (hlhs : lhs.isOperand = true)
    (hrhs : rhs.isOperand = true) :
    (site.planFilterExpr context outer (.binary op lhs rhs)).isSome =
      site.supportsComparison context op lhs rhs := by
  rw [planFilterExpr_comparison _ _ hop]
  cases haggregate : (lhs.isAggregate || rhs.isAggregate) with
  | true => exact site.planBinary_aggregate_isSome context hop hlhs hrhs haggregate
  | false =>
      rw [planBinary_plain _ _ haggregate]
      simp only [supportsComparison, haggregate, Bool.false_eq_true, if_false]
      obtain ⟨hleft, hright⟩ := Bool.or_eq_false_iff.mp haggregate
      have hplain
          (hnamed : site.predicateValuePath context lhs = none)
          (hpath : ∀ path, lhs ≠ .path path)
          (hsupports : site.supportsLeft context op lhs rhs =
            site.supportsOperand context none op lhs) :
          (site.planOperands context outer op lhs rhs).isSome =
            (site.supportsOperand context
              (site.predicateValuePath context lhs) op rhs &&
                site.supportsLeft context op lhs rhs) := by
        have hrelation : site.planRelationComparison context op lhs rhs
            (site.plannedOperands context outer lhs rhs) = none :=
          site.planRelationComparison_not_path context
            (fun path _ heq => absurd heq (hpath path))
        rw [planOperands, hrelation]
        simp only
        rw [planPlainComparison_unnamed _ _
          (fun path _ _ heq => absurd heq (hpath path)),
          site.binaryOrVariant_bind_isSome _ _ _ hop, hnamed, hsupports]
        simp only [plannedOperands]
        rw [site.planFilterExpr_operand_isSome context outer hlhs hleft op,
          site.planFilterExpr_operand_isSome context outer hrhs hright op,
          Bool.and_comm]
      cases lhs with
      | path path => exact site.planOperands_path_isSome context hop hrhs hright
      | literal value => exact hplain rfl (fun _ heq => by cases heq) rfl
      | «variable» reference => exact hplain rfl (fun _ heq => by cases heq) rfl
      | aggregate source function argument => cases hleft
      | _ => cases hlhs

end Comparisons

/-! ## Membership that has a plan -/

section Memberships

variable {context : ClauseContext} {outer : Bool}

/-- The planned items of a listed collection. -/
def listedItems
    (context : ClauseContext)
    (outer : Bool)
    (collection : Expr) : Option (List FilterExpr) :=
  match collection with
  | .list items => site.planFilterItems context outer items
  | _ => none

theorem planFilterExpr_membership
    {op : BinaryOp}
    {lhs rhs : Expr}
    (hop : op = .isIn ∨ op = .notIn) :
    site.planFilterExpr context outer (.binary op lhs rhs) =
      site.planMembership context outer op lhs rhs
        (site.listedItems context outer rhs) := by
  rcases hop with rfl | rfl <;> cases rhs <;> rfl

/-- Literals are always planned. -/
theorem planFilterItems_isSome
    {items : List Expr}
    (h : items.all Expr.isLiteral = true) :
    (site.planFilterItems context outer items).isSome = true := by
  induction items with
  | nil => rfl
  | cons item items ih =>
      simp only [List.all_cons, Bool.and_eq_true] at h
      obtain ⟨planned, hplanned⟩ := Option.isSome_iff_exists.mp (ih h.2)
      cases item with
      | literal value => simp [planFilterItems, planFilterExpr, hplanned]
      | _ => simp [Expr.isLiteral] at h

theorem inputDefaultFilter_isSome (value : InputDefault) :
    (inputDefaultFilter value).isSome = value.isSingle := by
  cases value <;> rfl

theorem planCollectionValue_isSome (value : VariableValue) :
    (site.planCollectionValue value).isSome = value.isCollection := by
  cases value with
  | value path => rfl
  | default fixed =>
      cases fixed with
      | collection items =>
          simp only [planCollectionValue, VariableValue.isCollection,
            Option.isSome_map]
          induction items with
          | nil => rfl
          | cons item items ih =>
              rw [List.mapM_cons, List.all_cons, ← ih,
                ← inputDefaultFilter_isSome]
              cases inputDefaultFilter item with
              | none => rfl
              | some filter =>
                  cases items.mapM inputDefaultFilter <;> rfl
      | string value | number value | boolean value | null | emptyObject => rfl

/-- A membership is planned with its sides. -/
theorem planMembershipExpr_isSome
    {op : BinaryOp}
    {lhs rhs : Expr}
    (hop : op = .isIn ∨ op = .notIn)
    (hrhs : ∀ items, rhs = .list items →
      items.all Expr.isLiteral = true) :
    (site.planFilterExpr context outer (.binary op lhs rhs)).isSome =
      site.supportsMembership context op lhs rhs := by
  rw [planFilterExpr_membership site hop]
  cases lhs with
  | path path =>
      have hoperand := site.planPredicateOperandPath_isSome context outer path
      cases hpath : site.predicatePath context path with
      | none => simp [planMembership, supportsMembership, hpath]
      | some fieldPath =>
          rw [hpath] at hoperand
          obtain ⟨operand, hoperand⟩ := Option.isSome_iff_exists.mp hoperand
          have hcollection :
              (site.planMembership context outer op (.path path) rhs
                (site.listedItems context outer rhs)).isSome =
              (site.planCollection fieldPath op
                (site.listedItems context outer rhs) rhs).isSome := by
            simp only [planMembership, hpath, hoperand, Option.bind_eq_bind,
              Option.bind_some]
            cases site.planCollection fieldPath op
                (site.listedItems context outer rhs) rhs with
            | none => rfl
            | some collection =>
                cases collection with
                | none => rfl
                | some collection => cases collection <;> rfl
          rw [hcollection]
          simp only [supportsMembership, hpath]
          cases rhs with
          | list items =>
              simpa [planCollection, listedItems] using
                site.planFilterItems_isSome (hrhs items rfl)
          | «variable» reference =>
              exact site.planCollectionValue_isSome _
          | _ => rfl
  | _ => rfl

end Memberships

/-! ## Trees that have a plan -/

section Connectives

variable (context : ClauseContext) (outer : Bool)

/-- A connective of operands that are no bare fields. -/
theorem planFilterExpr_connective
    (site : FilterSite)
    {op : BinaryOp}
    {lhs rhs : Expr}
    (hop : op = .and ∨ op = .or)
    (hlhs : ∀ path, lhs ≠ .path path) :
    site.planFilterExpr context outer (.binary op lhs rhs) =
      (do
        let left ← site.planFilterExpr context outer lhs
        let right ← site.planFilterExpr context outer rhs
        site.binaryOrVariant left op right
          (((site.predicateValuePath context lhs).or
            (site.predicateValuePath context rhs)).getD ["operator"])) := by
  have hplain :
      site.planFilterExpr context outer (.binary op lhs rhs) =
        site.planPlainComparison context outer op lhs rhs
          (site.plannedOperands context outer lhs rhs) := by
    have hrelation :
        site.planRelationComparison context op lhs rhs
          (site.plannedOperands context outer lhs rhs) = none :=
      site.planRelationComparison_not_path context
        (fun path _ heq => absurd heq (hlhs path))
    have hbinary :
        site.planFilterExpr context outer (.binary op lhs rhs) =
          site.planBinary context outer op lhs rhs
            (site.plannedOperands context outer lhs rhs) := by
      rcases hop with rfl | rfl <;> rfl
    rw [hbinary]
    unfold planBinary
    rw [hrelation]
    rcases hop with rfl | rfl <;> simp
  rw [hplain, planPlainComparison_unnamed _ _
    (fun path _ _ heq => absurd heq (hlhs path))]
  rfl

theorem planFilterExpr_and
    (site : FilterSite)
    {lhs rhs : Expr}
    (hlhs : ∀ path, lhs ≠ .path path) :
    site.planFilterExpr context outer (.binary .and lhs rhs) =
      (do
        let left ← site.planFilterExpr context outer lhs
        let right ← site.planFilterExpr context outer rhs
        some (.binary left .and right)) :=
  planFilterExpr_connective context outer site (.inl rfl) hlhs

theorem planFilterExpr_or
    (site : FilterSite)
    {lhs rhs : Expr}
    (hlhs : ∀ path, lhs ≠ .path path) :
    site.planFilterExpr context outer (.binary .or lhs rhs) =
      (do
        let left ← site.planFilterExpr context outer lhs
        let right ← site.planFilterExpr context outer rhs
        some (.binary left .or right)) :=
  planFilterExpr_connective context outer site (.inr rfl) hlhs

end Connectives

section Trees

variable {context : ClauseContext} {outer : Bool}

theorem isFilterTree_not_path
    {tree : Expr}
    (htree : tree.isFilterTree = true)
    (path : ScopedPath) :
    tree ≠ .path path := by
  rintro rfl
  simp [Expr.isFilterTree] at htree

/-- Operands have no bodies. -/
theorem plansBodies_operand
    {operand : Expr}
    (hoperand : operand.isOperand = true) :
    site.plansBodies context operand = true := by
  cases operand <;> first | rfl | cases hoperand

/-- Supported membership has no `exists` in it. -/
theorem supportsMembership_plansBodies
    (op : BinaryOp)
    (lhs rhs : Expr) :
    (site.supportsMembership context op lhs rhs &&
        (site.plansBodies context lhs && site.plansBodies context rhs)) =
      site.supportsMembership context op lhs rhs := by
  cases lhs with
  | path path =>
      simp only [supportsMembership]
      cases site.predicatePath context path with
      | none => rfl
      | some fieldPath => cases rhs <;> simp [plansBodies]
  | _ => rfl

/-- A connective has a plan when its operands have one. -/
theorem planConnective_isSome
    {op : BinaryOp}
    {lhs rhs : Expr}
    (hop : op = .and ∨ op = .or)
    (hlhs : ∀ path, lhs ≠ .path path) :
    (site.planFilterExpr context outer (.binary op lhs rhs)).isSome =
      ((site.planFilterExpr context outer lhs).isSome &&
        (site.planFilterExpr context outer rhs).isSome) := by
  rw [planFilterExpr_connective context outer site hop hlhs]
  cases site.planFilterExpr context outer lhs with
  | none => rfl
  | some left =>
      cases site.planFilterExpr context outer rhs with
      | none => rfl
      | some right => rcases hop with rfl | rfl <;> rfl

/-- A filter tree is planned, and so are the bodies in it, exactly when it is
supported. -/
theorem planFilterExpr_isSome
    {tree : Expr}
    (htree : tree.isFilterTree = true) :
    ((site.planFilterExpr context outer tree).isSome &&
      site.plansBodies context tree) = site.supports context tree := by
  induction tree generalizing context outer with
  | binary op lhs rhs ihlhs ihrhs =>
      have hconnective (op : BinaryOp) (hop : op = .and ∨ op = .or)
          (hlhs : lhs.isFilterTree = true) (hrhs : rhs.isFilterTree = true) :
          ((site.planFilterExpr context outer (.binary op lhs rhs)).isSome &&
              site.plansBodies context (.binary op lhs rhs)) =
            (site.supports context lhs && site.supports context rhs) := by
        rw [site.planConnective_isSome hop (isFilterTree_not_path hlhs),
          plansBodies, ← @ihlhs context outer hlhs,
          ← @ihrhs context outer hrhs, Bool.and_assoc, Bool.and_assoc,
          Bool.and_left_comm (site.planFilterExpr context outer rhs).isSome]
      have hcomparison (op : BinaryOp) (hop : isComparisonOperator op = true)
          (hlhs : lhs.isOperand = true) (hrhs : rhs.isOperand = true) :
          ((site.planFilterExpr context outer (.binary op lhs rhs)).isSome &&
              site.plansBodies context (.binary op lhs rhs)) =
            site.supportsComparison context op lhs rhs := by
        rw [site.planComparison_isSome context hop hlhs hrhs, plansBodies,
          site.plansBodies_operand hlhs, site.plansBodies_operand hrhs]
        simp
      cases op with
      | and =>
          simp only [Expr.isFilterTree, Bool.and_eq_true] at htree
          exact hconnective .and (.inl rfl) htree.1 htree.2
      | or =>
          simp only [Expr.isFilterTree, Bool.and_eq_true] at htree
          exact hconnective .or (.inr rfl) htree.1 htree.2
      | comparison op =>
          simp only [Expr.isFilterTree, Bool.and_eq_true] at htree
          exact hcomparison (.comparison op) rfl htree.1 htree.2
      | «variable» operator =>
          simp only [Expr.isFilterTree, Bool.and_eq_true] at htree
          exact hcomparison (.variable operator) rfl htree.1 htree.2
      | isIn =>
          rw [site.planMembershipExpr_isSome (.inl rfl) (fun items heq => by
            subst heq
            simpa only [Expr.isFilterTree] using htree)]
          exact site.supportsMembership_plansBodies .isIn lhs rhs
      | notIn =>
          rw [site.planMembershipExpr_isSome (.inr rfl) (fun items heq => by
            subst heq
            simpa only [Expr.isFilterTree] using htree)]
          exact site.supportsMembership_plansBodies .notIn lhs rhs
  | unary op operand ih =>
      simp only [planFilterExpr, plansBodies, supports, Option.isSome_map]
      exact ih htree
  | nullTest operand negated ih =>
      cases operand with
      | path path =>
          simp only [planFilterExpr, plansBodies, supports, Option.isSome_map,
            planPredicateOperandPath_isSome, Bool.and_true]
      | _ => rfl
  | exists_ source filters predicate _ ih =>
      simp only [planFilterExpr, planExists, plansBodies, supports,
        Option.isSome_map]
      cases predicate with
      | none => rfl
      | some body =>
          have hbody : body.isFilterTree = true := by
            simpa [Expr.isFilterTree, Expr.isFilterBody] using htree
          rw [plansBody, supportsBody, ih body rfl hbody]
  | literal value => rfl
  | path path => simp [Expr.isFilterTree] at htree
  | variable_ reference =>
      simp only [planFilterExpr, plansBodies, supports,
        planBooleanVariable_isSome, Bool.and_true]
  | dynamicPredicate reference surface => rfl
  | aggregate source function operand =>
      simp only [planFilterExpr, plansBodies, supports, Bool.and_true]
      split
      · next hexists =>
          rw [planPredicateAggregate_isSome, hexists]
          simp
      · next hexists => simp [hexists]
  | list items | predicateRef name | error => rfl

end Trees

end FilterSite

end Dsql
