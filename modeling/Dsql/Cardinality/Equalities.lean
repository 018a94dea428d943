import Dsql.Cardinality.Proofs
import Dsql.Plan.PruningExactness

/-!
# Planned equalities

An equality of a column with an input or a constant is planned as a comparison
of the column with an operand that stands for the value.  Where such an atom is
there, the rows that it admits have the value in the column.
-/

namespace Dsql

namespace FilterSite

/-! ## Planned equalities -/

section Equalities

variable (site : FilterSite) (context : ClauseContext)

/-- A value beside a column of the current row. -/
def plannedFixedValue
    (fieldPath : InputPath)
    (op : BinaryOp) : Expr → Option FilterExpr
  | .variable reference => site.planValueVariable fieldPath op reference
  | .literal value => some (.literal (.ofLiteral value))
  | _ => none

/-- A value in front of an operator. -/
def plannedFrontValue : Expr → Option FilterExpr
  | .variable reference => site.planBooleanVariable reference
  | .literal value => some (.literal (.ofLiteral value))
  | _ => none

variable {context}

theorem resolvePath_direct
    {name : TableRef}
    {column : Column}
    (h : site.planner.catalog.checkFieldRef context.table ⟨name, none⟩ =
      .column column) :
    resolvePath site.planner.catalog context
        ⟨.current, [⟨name, none⟩]⟩ =
      ⟨[], .column (FieldRef.displayText ⟨name, none⟩) context.table column.id
        (ResolvedValueType.forColumn site.planner.catalog column.id)⟩ := by
  simp [resolvePath, ClauseContext.anchorTable, resolveSegments,
    resolveTerminal, PathSegment.reference, h]

variable {name : TableRef} {column : Column}
  (hcolumn : site.planner.catalog.checkFieldRef context.table ⟨name, none⟩ =
    .column column)

include hcolumn

theorem predicatePath_direct :
    site.predicatePath context ⟨.current, [⟨name, none⟩]⟩ =
      some [FieldRef.displayText ⟨name, none⟩] := by
  simp [predicatePath, site.resolvePath_direct hcolumn,
    ResolvedPath.displayPath]

theorem planFilterPath_direct :
    site.planFilterPath context false ⟨.current, [⟨name, none⟩]⟩ =
      some (.column .current column.id) := by
  simp [planFilterPath, site.resolvePath_direct hcolumn,
    PathTerminal.columnId]

/-- A column in front of a value is compared with the value as it is named
beside the column. -/
theorem planFilterExpr_columnFirst
    {op : BinaryOp}
    {rhs : Expr}
    {filter : FilterExpr}
    (hop : isComparisonOperator op = true)
    (hvalue : ∃ identity position,
      Cardinality.fixedValueIdentity position rhs = some identity)
    (h : site.planFilterExpr context false
      (.binary op (.path ⟨.current, [⟨name, none⟩]⟩) rhs) = some filter) :
    ∃ right,
      site.plannedFixedValue [FieldRef.displayText ⟨name, none⟩] op rhs =
          some right ∧
        site.binaryOrVariant (.column .current column.id) op right
          [FieldRef.displayText ⟨name, none⟩] = some filter := by
  obtain ⟨identity, position, hidentity⟩ := hvalue
  have hagg : (Expr.isAggregate (.path ⟨.current, [⟨name, none⟩]⟩) ||
      rhs.isAggregate) = false := by
    cases rhs <;> simp_all [Expr.isAggregate, Cardinality.fixedValueIdentity]
  have habsent (right : FilterExpr)
      (hright : isAbsent right = true) :
      site.binaryOrVariant (.column .current column.id) op right
        [FieldRef.displayText ⟨name, none⟩] = some .absent := by
    cases op <;> simp_all [binaryOrVariant, isComparisonOperator]
  rw [planFilterExpr_comparison _ _ hop, planBinary_plain _ _ hagg] at h
  have hpath := site.predicatePath_direct hcolumn
  have hleft := site.planFilterPath_direct hcolumn
  cases rhs with
  | «variable» reference =>
      cases hright : site.planValueVariable
          [FieldRef.displayText ⟨name, none⟩] op reference with
      | none =>
          simp [planOperands, planRelationComparison, hop, hpath,
            namedOperand, hright] at h
      | some right =>
          refine ⟨right, hright, ?_⟩
          cases hskip : isAbsent right with
          | true =>
              simp [planOperands, planRelationComparison, hop, hpath,
                namedOperand, hright, hskip] at h
              rw [habsent right hskip, h]
          | false =>
              simpa [planOperands, planRelationComparison, hop, hpath,
                namedOperand, hright, hskip, relationPredicateFilter,
                planPlainComparison, predicateValuePath, hleft] using h
  | literal value =>
      refine ⟨.literal (.ofLiteral value), rfl, ?_⟩
      simpa [planOperands, planRelationComparison, hop, hpath, namedOperand,
        plannedOperands, planFilterExpr, isAbsent, relationPredicateFilter,
        planPlainComparison, predicateValuePath, hleft] using h
  | _ => simp [Cardinality.fixedValueIdentity] at hidentity

/-- A value in front of a column is planned as it stands alone. -/
theorem planFilterExpr_columnLast
    {op : BinaryOp}
    {lhs : Expr}
    {filter : FilterExpr}
    (hop : isComparisonOperator op = true)
    (hvalue : ∃ identity position,
      Cardinality.fixedValueIdentity position lhs = some identity)
    (h : site.planFilterExpr context false
      (.binary op lhs (.path ⟨.current, [⟨name, none⟩]⟩)) = some filter) :
    ∃ left, site.plannedFrontValue lhs = some left ∧
      site.binaryOrVariant left op (.column .current column.id)
        [FieldRef.displayText ⟨name, none⟩] = some filter := by
  obtain ⟨identity, position, hidentity⟩ := hvalue
  have hagg : (lhs.isAggregate ||
      Expr.isAggregate (.path ⟨.current, [⟨name, none⟩]⟩)) = false := by
    cases lhs <;> simp_all [Expr.isAggregate, Cardinality.fixedValueIdentity]
  rw [planFilterExpr_comparison _ _ hop, planBinary_plain _ _ hagg] at h
  have hpath := site.predicatePath_direct hcolumn
  have hright := site.planFilterPath_direct hcolumn
  cases lhs with
  | «variable» reference =>
      cases hleft : site.planBooleanVariable reference with
      | none =>
          simp [planOperands, planRelationComparison, planPlainComparison,
            plannedOperands, planFilterExpr, predicateValuePath, hleft] at h
      | some left =>
          refine ⟨left, hleft, ?_⟩
          simpa [planOperands, planRelationComparison, planPlainComparison,
            plannedOperands, planFilterExpr, predicateValuePath, hleft,
            hright, hpath] using h
  | literal value =>
      refine ⟨.literal (.ofLiteral value), rfl, ?_⟩
      simpa [planOperands, planRelationComparison, planPlainComparison,
        plannedOperands, planFilterExpr, predicateValuePath, hright,
        hpath] using h
  | _ => simp [Cardinality.fixedValueIdentity] at hidentity

end Equalities

end FilterSite

/-! ## Values -/

namespace Session

variable {S : Type} [DecidableEq S] (session : Session S)

/-- What a planned operand stands for, whatever rows are in scope. -/
def inputDatum : FilterExpr → Datum S
  | .literal value => session.engine.literal value
  | .parameter parameter => session.inputs.value parameter.path
  | _ => .null

/-- What a variable stands for. -/
def variableDatum : VariableValue → Datum S
  | .value path => session.inputs.value path
  | .default value =>
      (inputDefaultFilter value).elim .null session.inputDatum

end Session

/-- Operands that stand for a value: inputs and constants. -/
def FilterExpr.isInput : FilterExpr → Bool
  | .parameter _ => true
  | .literal value => value != .null
  | _ => false

/-- A default is planned as the constant it is; a null one drops the atom. -/
theorem Planner.publicFilterValue_default
    {S : Type}
    (planner : Planner)
    (session : Session S)
    {value : InputDefault}
    {operand : FilterExpr}
    (h : planner.publicFilterValue (.default value) = some operand) :
    operand = .absent ∨
      ((planner.predicateAtomOperand operand).1.isInput = true ∧
        session.inputDatum (planner.predicateAtomOperand operand).1 =
          session.variableDatum (.default value)) := by
  cases value with
  | null =>
      simp only [publicFilterValue, Option.some.injEq] at h
      exact .inl h.symm
  | string value | number value | boolean value =>
      simp only [publicFilterValue, inputDefaultFilter,
        Option.some.injEq] at h
      subst h
      right
      rw [predicateAtomOperand_plain _ rfl]
      exact ⟨rfl, rfl⟩
  | _ => simp [publicFilterValue, inputDefaultFilter] at h

namespace FilterSite

variable {S : Type} [DecidableEq S] (session : Session S) (site : FilterSite)

omit [DecidableEq S] in
/-- The operand that an atom keeps of a planned variable. -/
theorem planValueVariable_input
    {fieldPath : InputPath}
    {op : BinaryOp}
    {reference : VariableRef}
    {operand : FilterExpr}
    (h : site.planValueVariable fieldPath op reference = some operand) :
    operand = .absent ∨
      ((site.planner.predicateAtomOperand operand).1.isInput = true ∧
        session.inputDatum (site.planner.predicateAtomOperand operand).1 =
          session.variableDatum (whereVariableValue site.selectionPath
            site.variableScope fieldPath op reference)) := by
  unfold planValueVariable at h
  cases hvalue : whereVariableValue site.selectionPath site.variableScope
      fieldPath op reference with
  | value path =>
      rw [hvalue] at h
      simp only [Planner.publicFilterValue, Option.some.injEq] at h
      subst h
      right
      rw [Planner.predicateAtomOperand_parameter]
      exact ⟨rfl, rfl⟩
  | default value =>
      rw [hvalue] at h
      exact site.planner.publicFilterValue_default session h

omit [DecidableEq S] in
theorem planBooleanVariable_input
    {reference : VariableRef}
    {operand : FilterExpr}
    (h : site.planBooleanVariable reference = some operand) :
    operand = .absent ∨
      ((site.planner.predicateAtomOperand operand).1.isInput = true ∧
        session.inputDatum (site.planner.predicateAtomOperand operand).1 =
          session.variableDatum (site.booleanVariableValue reference)) := by
  rw [planBooleanVariable_eq] at h
  cases hvalue : site.booleanVariableValue reference with
  | value path =>
      rw [hvalue] at h
      simp only [Option.some.injEq] at h
      subst h
      right
      unfold Planner.optionalFilter
      split
      · rw [Planner.predicateAtomOperand_optional]
        exact ⟨rfl, rfl⟩
      · rw [Planner.predicateAtomOperand_parameter]
        exact ⟨rfl, rfl⟩
  | default value =>
      rw [hvalue] at h
      exact site.planner.publicFilterValue_default session h

end FilterSite

/-! ## Equalities that hold -/

theorem Engine.compare_eq_tt
    {S : Type} [DecidableEq S]
    (engine : Engine S)
    {left right : Datum S}
    (h : engine.compare .eq left right = .tt) :
    left = right ∧ left ≠ .null := by
  have hleft : left ≠ .null := by
    rintro rfl
    cases right <;> simp [Engine.compare] at h
  have hright : right ≠ .null := by
    rintro rfl
    cases left <;> simp [Engine.compare] at h
  refine ⟨?_, hleft⟩
  by_contra hne
  have hdiffer : (left == right) = false := by simpa using hne
  cases left <;> cases right <;>
    simp_all [Engine.compare, Logic.Truth.ofBool]

/-- Every variant of an operator that can only be an equality is one. -/
theorem operatorVariants_equality
    {operator : VariableRef}
    (h : Cardinality.isEqualityOperator (.variable operator) = true)
    {case : SqlVariantCase}
    (hcase : case ∈ operatorVariants operator false) :
    FilterOp.ofText case.text = some .eq := by
  unfold operatorVariants at hcase
  obtain ⟨op, hop, hplan⟩ := List.mem_filterMap.mp hcase
  unfold Cardinality.isEqualityOperator at h
  cases hoperators : operator.operators with
  | none => simp [hoperators] at h
  | some operators =>
      simp only [hoperators, Option.any_some, Bool.and_eq_true,
        List.all_eq_true] at h
      have heq : op = .eq := by
        have := h.2 op (by simpa [hoperators] using hop)
        simpa using this
      subst heq
      simp only [FilterOp.ofComparison] at hplan
      cases hplan
      decide

namespace Session

variable {S : Type} [DecidableEq S] (session : Session S)
  (catalog : Catalog)

/-- A masked column with a value reads the column. -/
theorem eval_maskedColumnExpression
    (env : Env S)
    (view : SqlRowView)
    (depth : Nat)
    (column : ColumnId)
    (h : session.eval env (view.maskedColumnExpression depth column) ≠
      .null) :
    session.eval env (view.maskedColumnExpression depth column) =
      session.column env view.context column := by
  unfold SqlRowView.maskedColumnExpression at h ⊢
  cases hguard : view.guard (.column column) depth with
  | none => simp [eval]
  | some guard =>
      simp only [hguard, eval] at h ⊢
      split at h
      · next htrue => rw [if_pos htrue]
      · exact absurd rfl h

/-- In every execution the column of an admitted row has the value. -/
def Fixes
    (filter : FilterExpr)
    (column : ColumnId)
    (value : Datum S) : Prop :=
  ∀ scope depth env,
    Logic.admitted (session.reading catalog scope depth env filter) = .tt →
      session.column env scope.current.context column = value ∧
        value ≠ .null

/-- The lowered operand of an input evaluates to what it stands for. -/
theorem eval_input
    {operand : FilterExpr}
    (h : operand.isInput = true)
    (scope : FilterSqlScope)
    (depth : Nat)
    (env : Env S) :
    session.eval env
        (conditionalFilterExpr catalog scope depth operand).filterExpr =
      session.inputDatum operand := by
  cases operand <;>
    simp_all [FilterExpr.isInput, conditionalFilterExpr, inputDatum,
      ConditionalFilter.filterExpr, ConditionalFilter.always, eval]

theorem nullComparisonOperand_input
    {operand : FilterExpr}
    (h : operand.isInput = true)
    (column : ColumnId)
    (left right : SqlExpr) :
    nullComparisonOperand (.column .current column) operand left right =
        none ∧
      nullComparisonOperand operand (.column .current column) left right =
        none := by
  cases operand with
  | literal value =>
      cases value <;>
        simp_all [FilterExpr.isInput, nullComparisonOperand]
  | _ => simp_all [FilterExpr.isInput, nullComparisonOperand]

theorem isNullLiteral_input
    {operand : FilterExpr}
    (h : operand.isInput = true) :
    isNullLiteral operand = false := by
  cases operand with
  | literal value =>
      cases value <;> simp_all [FilterExpr.isInput, isNullLiteral]
  | _ => rfl

/-- A comparison atom compares what its lowered operands evaluate to. -/
theorem reading_equalityAtom
    {site : FilterSite}
    {op : BinaryOp}
    {left right atom : FilterExpr}
    {path : InputPath}
    (hop : Cardinality.isEqualityOperator op = true)
    (hnull : isNullLiteral left = false ∧ isNullLiteral right = false)
    (hcompare : ∀ loweredLeft loweredRight,
      nullComparisonOperand left right loweredLeft loweredRight = none)
    (hatom : site.comparisonAtom left op right path = some atom)
    (scope : FilterSqlScope)
    (depth : Nat)
    (env : Env S)
    (h : Logic.admitted (session.reading catalog scope depth env atom) =
      .tt) :
    session.engine.compare .eq
      (session.eval env
        (conditionalFilterExpr catalog scope depth left).filterExpr)
      (session.eval env
        (conditionalFilterExpr catalog scope depth right).filterExpr) =
      .tt := by
  cases op with
  | comparison op =>
      cases op with
      | eq =>
          simp only [FilterSite.comparisonAtom, FilterOp.ofComparison,
            Option.some.injEq] at hatom
          subst hatom
          simpa [reading, conditionalFilterExpr, comparisonExpr, hcompare,
            eval, Engine.binary] using h
      | _ => simp [Cardinality.isEqualityOperator] at hop
  | «variable» operator =>
      simp only [FilterSite.comparisonAtom, hnull.1, hnull.2, Bool.or_false,
        Option.some.injEq] at hatom
      subst hatom
      have hvariant := @operatorVariants_equality operator hop
      generalize operatorVariants operator false = variants at h hvariant
      simp only [reading, conditionalFilterExpr, variantExpr, hcompare,
        guarded_always, Logic.Guarded.read_always, Logic.admitted_some,
        eval] at h
      unfold Engine.variant at h
      cases hfind : variants.find? (fun variant =>
          variant.value == session.inputs.selected
            (variablePath site.selectionPath
              ⟨.comparisonOperator, path, none⟩ site.variableScope
              operator.sigil operator.name)) with
      | none => simp [hfind] at h
      | some variant =>
          have htext := hvariant (List.mem_of_find?_eq_some hfind)
          simpa [hfind, htext] using h
  | _ => simp [Cardinality.isEqualityOperator] at hop

end Session

namespace FilterSite

variable {S : Type} [DecidableEq S] (session : Session S)
  (catalog : Catalog) (site : FilterSite)

/-- A planned comparison is absent or an atom of the kept operands under the
presence of their inputs. -/
theorem binaryOrVariant_atom
    {op : BinaryOp}
    {left right filter : FilterExpr}
    {path : InputPath}
    (hop : isComparisonOperator op = true)
    (h : site.binaryOrVariant left op right path = some filter) :
    filter = .absent ∨
      (isAbsent left = false ∧ isAbsent right = false ∧
        ∃ atom parameters,
          site.comparisonAtom (site.planner.predicateAtomOperand left).1 op
              (site.planner.predicateAtomOperand right).1 path = some atom ∧
            filter = wrapOptionalAtom atom parameters) := by
  rw [site.binaryOrVariant_comparison hop] at h
  split at h
  · exact .inl (by simpa using h.symm)
  · next hskip =>
      simp only [Bool.not_eq_true, Bool.or_eq_false_iff] at hskip
      obtain ⟨atom, hatom, hfilter⟩ := Option.map_eq_some_iff.mp h
      exact .inr ⟨hskip.1, hskip.2, atom, _, hatom, hfilter.symm⟩

/-- A filter that is there denotes its atom. -/
theorem reading_atom
    {atom : FilterExpr}
    {parameters : List SqlParameter}
    {scope : FilterSqlScope}
    {depth : Nat}
    {env : Env S}
    (hpresent : session.reading catalog scope depth env
      (wrapOptionalAtom atom parameters) ≠ none) :
    session.reading catalog scope depth env
        (wrapOptionalAtom atom parameters) =
      session.reading catalog scope depth env atom := by
  rw [Session.reading_wrapOptionalAtom] at hpresent ⊢
  split at hpresent
  · exact absurd rfl hpresent
  · next hparameters => rw [if_neg hparameters]

/-- A comparison of a column with an input whose value is there fixes the
column, in either order. -/
theorem fixes_binaryOrVariant
    {op : BinaryOp}
    {left right filter operand : FilterExpr}
    {path : InputPath}
    {column : ColumnId}
    (hop : Cardinality.isEqualityOperator op = true)
    (hinput : (site.planner.predicateAtomOperand operand).1.isInput = true)
    (hsides :
      (left = .column .current column ∧ right = operand) ∨
        (left = operand ∧ right = .column .current column))
    (hpresent : ∀ scope depth env,
      session.reading catalog scope depth env filter ≠ none)
    (h : site.binaryOrVariant left op right path = some filter) :
    session.Fixes catalog filter column
      (session.inputDatum
        (site.planner.predicateAtomOperand operand).1) := by
  have hcomparison : isComparisonOperator op = true := by
    cases op <;> simp_all [Cardinality.isEqualityOperator,
      isComparisonOperator]
  have hcolumn : site.planner.predicateAtomOperand
      (.column .current column) = (.column .current column, []) :=
    Planner.predicateAtomOperand_plain _ rfl
  intro scope depth env hadmitted
  rcases site.binaryOrVariant_atom hcomparison h with
    rfl | ⟨-, -, atom, parameters, hatom, rfl⟩
  · exact absurd (Session.reading_absent _ _ _ _ _)
      (hpresent scope depth env)
  rw [reading_atom session catalog (hpresent scope depth env)]
    at hadmitted
  have hvalue := session.eval_input catalog hinput scope depth env
  have hmasked : (conditionalFilterExpr catalog scope depth
      (.column .current column)).filterExpr =
        scope.current.maskedColumnExpression depth column := by
    simp [conditionalFilterExpr, ConditionalFilter.filterExpr,
      ConditionalFilter.always, FilterSqlScope.columnSource]
  have hplain : isNullLiteral (.column .current column) = false := rfl
  have hliteral := Session.isNullLiteral_input hinput
  rcases hsides with ⟨rfl, rfl⟩ | ⟨rfl, rfl⟩
  · rw [hcolumn] at hatom
    have hequal := session.reading_equalityAtom catalog hop
      ⟨hplain, hliteral⟩
      (fun left right =>
        (Session.nullComparisonOperand_input hinput column left right).1)
      hatom scope depth env hadmitted
    rw [hvalue, hmasked] at hequal
    obtain ⟨heq, hne⟩ := Engine.compare_eq_tt _ hequal
    rw [session.eval_maskedColumnExpression env _ _ _ hne] at heq hne
    exact ⟨heq, heq ▸ hne⟩
  · rw [hcolumn] at hatom
    have hequal := session.reading_equalityAtom catalog hop
      ⟨hliteral, hplain⟩
      (fun left right =>
        (Session.nullComparisonOperand_input hinput column left right).2)
      hatom scope depth env hadmitted
    rw [hvalue, hmasked] at hequal
    obtain ⟨heq, hne⟩ := Engine.compare_eq_tt _ hequal
    have hread : session.eval env
        (scope.current.maskedColumnExpression depth column) ≠ .null :=
      heq ▸ hne
    rw [session.eval_maskedColumnExpression env _ _ _ hread] at heq
    exact ⟨heq.symm, hne⟩

end FilterSite

end Dsql
