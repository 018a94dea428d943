import Dsql.Plan.PrunedAtoms

/-!
# Comparisons and membership under nullable inputs

The planner reads a comparison in several ways, by the forms of its operands.
In each of them the filter is absent exactly when a nullable operand is null,
and denotes the atom planned with required inputs otherwise.
-/

namespace Dsql

open Logic

namespace Session

variable
  {S : Type} [DecidableEq S] (session : Session S) (catalog : Catalog)

theorem rowsWhere_congr
    {env env' : Env S}
    {source source' : SelectionContext}
    (table : TableId)
    {conditions conditions' : List SqlExpr}
    (h : ∀ row, session.evalAll ((source, row) :: env) conditions =
      session.evalAll ((source', row) :: env') conditions') :
    session.rowsWhere env source table conditions =
      session.rowsWhere env' source' table conditions' := by
  unfold rowsWhere
  simp only [h]

/-- Two `exists` filters that differ in bodies admitting the same rows denote
the same truth value. -/
theorem reading_exists_congr
    {relation : Option RelationId}
    {table : TableId}
    {kind : ExistsKind}
    {sourceScope : FilterColumnScope}
    {policyFilter : Option FilterExpr}
    {fieldFilters : List (PolicyFieldFilter FilterExpr)}
    {body body' : Option FilterExpr}
    (h : ∀ scope depth env,
      admitted (body.bind (session.reading catalog scope depth env)) =
        admitted (body'.bind (session.reading catalog scope depth env)))
    (scope : FilterSqlScope)
    (depth : Nat)
    (env : Env S) :
    ∃ value,
      session.reading catalog scope depth env
          (.exists relation table kind sourceScope policyFilter fieldFilters
            body) = some value ∧
        session.reading catalog scope depth env
          (.exists relation table kind sourceScope policyFilter fieldFilters
            body') = some value := by
  have hfilter := session.reading_of_always catalog scope depth env
    (conditionalFilterExpr_exists catalog scope depth relation table kind
      sourceScope policyFilter fieldFilters body)
  have hplanned := session.reading_of_always catalog scope depth env
    (conditionalFilterExpr_exists catalog scope depth relation table kind
      sourceScope policyFilter fieldFilters body')
  have hrows :
      session.rowsWhere env (existsContext table depth) table
          (existsConditions catalog scope depth relation table kind
            sourceScope policyFilter fieldFilters body') =
        session.rowsWhere env (existsContext table depth) table
          (existsConditions catalog scope depth relation table kind
            sourceScope policyFilter fieldFilters body) := by
    refine session.rowsWhere_congr table (fun row => ?_)
    simp only [existsConditions, evalAll_append, evalAll_filterConditions]
    rw [h]
  refine ⟨_, hfilter, ?_⟩
  rw [hplanned, eval_exists, eval_exists, hrows]

/-- Relation steps around filters that denote the same. -/
theorem denotes_wrapRelationPredicate
    (site : FilterSite)
    (context : ClauseContext)
    (path : ScopedPath)
    {filter planned : FilterExpr}
    (h : ∀ scope depth env, ∃ value,
      session.reading catalog scope depth env filter = some value ∧
        session.reading catalog scope depth env planned = some value)
    (scope : FilterSqlScope)
    (depth : Nat)
    (env : Env S) :
    ∃ value,
      session.reading catalog scope depth env
          (site.wrapRelationPredicate context path filter) = some value ∧
        session.reading catalog scope depth env
          (site.wrapRelationPredicate context path planned) =
            some value := by
  unfold FilterSite.wrapRelationPredicate
  split
  · exact h scope depth env
  · generalize (resolvePath site.planner.catalog context path).relations =
      relations
    induction relations generalizing scope depth env with
    | nil => exact h scope depth env
    | cons step relations ih =>
        refine session.reading_exists_congr catalog ?_ scope depth env
        intro scope depth env
        obtain ⟨value, hfilter, hplanned⟩ := ih scope depth env
        simp only [Option.bind_some]
        rw [hfilter, hplanned]

end Session

namespace FilterSite

variable
  (site : FilterSite)
  (present : SqlParameter → Bool)
  (context : ClauseContext)

/-- A public value planned where it is written. -/
theorem publicFilterValue_plan
    {value : VariableValue}
    {filter : FilterExpr}
    (h : site.planner.publicFilterValue value = some filter) :
    ValuePlan site.planner present filter
      (site.valueIsAbsent present value) := by
  cases value with
  | value path =>
      simp only [Planner.publicFilterValue, Option.some.injEq] at h
      subst h
      exact .parameter path
  | default value =>
      cases value with
      | null =>
          simp only [Planner.publicFilterValue, Option.some.injEq] at h
          subst h
          exact .absent
      | string value | number value | boolean value =>
          simp only [Planner.publicFilterValue, inputDefaultFilter,
            Option.some.injEq] at h
          subst h
          exact .plain _ rfl
      | collection items | emptyObject =>
          simp [Planner.publicFilterValue, inputDefaultFilter] at h

theorem planFilterPath_plain
    {outer : Bool}
    {path : ScopedPath}
    {filter : FilterExpr}
    (h : site.planFilterPath context outer path = some filter) :
    filter.isPlainOperand = true := by
  unfold planFilterPath at h
  split at h
  · obtain ⟨column, _, hfilter⟩ := Option.map_eq_some_iff.mp h
    subst hfilter
    rfl
  · simp at h

theorem planPredicateAggregate_plain
    {source : ScopedPath}
    {function : String}
    {operand : Option ScopedPath}
    {filter : FilterExpr}
    (h : site.planPredicateAggregate context source function operand =
      some filter) :
    filter.isPlainOperand = true := by
  unfold planPredicateAggregate at h
  simp only at h
  split at h
  · split at h
    · simp only [Option.some.injEq] at h
      subst h
      rfl
    · simp at h
  · simp at h

/-- Operands other than variables are planned alike under both planners, and
no input stands for them. -/
theorem planFilterExpr_plain
    {outer : Bool}
    {operand : Expr}
    {filter : FilterExpr}
    (hoperand : operand.isOperand = true)
    (hvariable : ∀ reference, operand ≠ .variable reference)
    (h : site.planFilterExpr context outer operand = some filter) :
    site.required.planFilterExpr context outer operand = some filter ∧
      filter.isPlainOperand = true := by
  cases operand with
  | path path =>
      simp only [planFilterExpr, planFilterPath_required] at h ⊢
      exact ⟨h, site.planFilterPath_plain context h⟩
  | literal value =>
      simp only [planFilterExpr, Option.some.injEq] at h ⊢
      subst h
      exact ⟨rfl, rfl⟩
  | «variable» reference =>
      exact absurd rfl (hvariable reference)
  | aggregate source function argument =>
      simp only [planFilterExpr] at h ⊢
      split at h
      · next hexists =>
          have hcatalog :
              site.required.planner.catalog = site.planner.catalog := rfl
          rw [hcatalog, if_pos hexists, planPredicateAggregate_required]
          exact ⟨h, site.planPredicateAggregate_plain context h⟩
      · simp at h
  | _ => simp [Expr.isOperand] at hoperand

theorem planBooleanVariable_eq (reference : VariableRef) :
    site.planBooleanVariable reference =
      match site.booleanVariableValue reference with
      | .value path =>
          some (site.planner.optionalFilter path
            (.parameter (site.planner.sqlParameter path)))
      | value => site.planner.publicFilterValue value := rfl

/-- A variable planned as it stands is optional when its input is nullable. -/
theorem planBooleanVariable_operandPlan
    {reference : VariableRef}
    {filter : FilterExpr}
    (h : site.planBooleanVariable reference = some filter) :
    ∃ required,
      site.required.planBooleanVariable reference = some required ∧
        OperandPlan site.planner present filter required
          (site.valueIsAbsent present
            (site.booleanVariableValue reference)) := by
  have hvalue :
      site.required.booleanVariableValue reference =
        site.booleanVariableValue reference := rfl
  rw [planBooleanVariable_eq] at h
  rw [planBooleanVariable_eq, hvalue]
  cases hread : site.booleanVariableValue reference with
  | value path =>
      rw [hread] at h
      simp only [Option.some.injEq] at h
      subst h
      refine ⟨.parameter (site.planner.sqlParameter path),
        by simp [required], ?_⟩
      unfold Planner.optionalFilter
      split
      · next hnullable =>
          have habsent : site.valueIsAbsent present (.value path) =
              !present (site.planner.sqlParameter path) := by
            simp [valueIsAbsent, hnullable]
          rw [habsent]
          exact .optional path hnullable
      · exact .value (.parameter path)
  | default value =>
      rw [hread] at h
      refine ⟨filter, ?_, .value (site.publicFilterValue_plan present h)⟩
      simpa [required] using h

/-- An operand planned as it stands. -/
theorem planFilterExpr_operandPlan
    (op : BinaryOp)
    {outer : Bool}
    {operand : Expr}
    {filter : FilterExpr}
    (hoperand : operand.isOperand = true)
    (h : site.planFilterExpr context outer operand = some filter) :
    ∃ required,
      site.required.planFilterExpr context outer operand = some required ∧
        OperandPlan site.planner present filter required
          (site.operandIsAbsent present none op operand) := by
  by_cases hvariable : ∃ reference, operand = .variable reference
  · obtain ⟨reference, rfl⟩ := hvariable
    exact site.planBooleanVariable_operandPlan present h
  · have hother : ∀ reference, operand ≠ .variable reference :=
      fun reference heq => hvariable ⟨reference, heq⟩
    obtain ⟨hrequired, hplain⟩ :=
      site.planFilterExpr_plain context hoperand hother h
    have habsent : site.operandIsAbsent present none op operand = false := by
      cases operand <;> first | rfl | exact absurd rfl (hother _)
    rw [habsent]
    exact ⟨filter, hrequired, .value (.plain filter hplain)⟩

theorem planValueVariable_plan
    {fieldPath : InputPath}
    {op : BinaryOp}
    {reference : VariableRef}
    {filter : FilterExpr}
    (h : site.planValueVariable fieldPath op reference = some filter) :
    ValuePlan site.planner present filter
      (site.operandIsAbsent present (some fieldPath) op
        (.variable reference)) :=
  site.publicFilterValue_plan present h

/-- An operand beside a path is planned alike under both planners. -/
theorem namedOperand_plan
    {outer : Bool}
    {fieldPath : InputPath}
    {op : BinaryOp}
    {operand : Expr}
    {filter : FilterExpr}
    (hoperand : operand.isOperand = true)
    (h : site.namedOperand fieldPath op operand
      (site.planFilterExpr context outer operand) = some filter) :
    site.required.namedOperand fieldPath op operand
        (site.required.planFilterExpr context outer operand) = some filter ∧
      ValuePlan site.planner present filter
        (site.operandIsAbsent present (some fieldPath) op operand) := by
  by_cases hvariable : ∃ reference, operand = .variable reference
  · obtain ⟨reference, rfl⟩ := hvariable
    have hvalue :
        site.planValueVariable fieldPath op reference = some filter := h
    refine ⟨?_, site.planValueVariable_plan present hvalue⟩
    simpa [namedOperand] using hvalue
  · have hother : ∀ reference, operand ≠ .variable reference :=
      fun reference heq => hvariable ⟨reference, heq⟩
    have hnamed (site : FilterSite) (planned : Option FilterExpr) :
        site.namedOperand fieldPath op operand planned = planned := by
      cases operand <;> first | rfl | exact absurd rfl (hother _)
    have habsent :
        site.operandIsAbsent present (some fieldPath) op operand = false := by
      cases operand <;> first | rfl | exact absurd rfl (hother _)
    rw [hnamed] at h
    obtain ⟨hrequired, hplain⟩ :=
      site.planFilterExpr_plain context hoperand hother h
    rw [hnamed, habsent]
    exact ⟨hrequired, .plain filter hplain⟩

theorem binaryOrVariant_isSome
    {left right : FilterExpr}
    {op : BinaryOp}
    {path : InputPath}
    (hop : isComparisonOperator op = true) :
    (site.binaryOrVariant left op right path).isSome = true := by
  cases op with
  | comparison op =>
      simp only [binaryOrVariant, comparisonAtom]
      split <;> simp
  | «variable» operator =>
      simp only [binaryOrVariant, comparisonAtom]
      split <;> simp
  | isIn | notIn | and | or =>
      simp [isComparisonOperator] at hop

end FilterSite

end Dsql
