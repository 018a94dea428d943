import Dsql.Capabilities
import Dsql.Sql.RelationPaths

/-!
# Null tests of guarded fields

A query can ask in several spellings whether a field is null: a field of its
own row, or one that a path over relations ends at.  Each spelling is planned
and lowered on its own way.  Where the guard of the field denies access, the
policy specification wants no spelling to match the row; the module states
what each of them answers there.
-/

namespace Dsql

open Logic

/-- A written null test of a field. -/
inductive NullTest where
  | test (negated : Bool)
  | comparison (negated nullFirst : Bool)
  | selected (operator : VariableRef) (nullFirst : Bool)

namespace NullTest

/-- A comparison with `null` on either side. -/
def comparedWithNull
    (op : BinaryOp)
    (nullFirst : Bool)
    (path : ScopedPath) : Expr :=
  if nullFirst then
    .binary op (.literal .null) (.path path)
  else
    .binary op (.path path) (.literal .null)

def expr (path : ScopedPath) : NullTest → Expr
  | .test negated => .nullTest (.path path) negated
  | .comparison negated nullFirst =>
      comparedWithNull (.comparison (if negated then .ne else .eq)) nullFirst
        path
  | .selected operator nullFirst =>
      comparedWithNull (.variable operator) nullFirst path

/-- The filter of a null test of a planned field. -/
def planned
    (operatorPath : VariableRef → InputPath)
    (field : FilterExpr) : NullTest → FilterExpr
  | .test negated => .nullTest field negated
  | .comparison negated nullFirst =>
      let op : FilterOp := if negated then .ne else .eq
      if nullFirst then
        .binary (.literal .null) op field
      else
        .binary field op (.literal .null)
  | .selected operator nullFirst =>
      let variants := operatorVariants operator true
      if nullFirst then
        .variantBinary (.literal .null) (operatorPath operator) variants field
      else
        .variantBinary field (operatorPath operator) variants
          (.literal .null)

end NullTest

/-- The path of the input that selects the operator beside a field. -/
def FilterSite.operatorPath
    (site : FilterSite)
    (context : ClauseContext)
    (path : ScopedPath)
    (operator : VariableRef) : InputPath :=
  variablePath site.selectionPath
    ⟨.comparisonOperator,
      (site.predicatePath context path).getD ["operator"], none⟩
    site.variableScope operator.sigil operator.name

namespace FilterSite

variable (site : FilterSite) (context : ClauseContext)

theorem planFilterPath_segments
    {outer : Bool}
    {path : ScopedPath}
    {filter : FilterExpr}
    (h : site.planFilterPath context outer path = some filter) :
    ∃ segment, path.segments = [segment] := by
  unfold planFilterPath at h
  split at h
  · next segment hsegments => exact ⟨segment, hsegments⟩
  · cases h

/-- A field stands for the same column as an operand of a predicate. -/
theorem planPredicateOperandPath_of_planFilterPath
    {outer : Bool}
    {path : ScopedPath}
    {filter : FilterExpr}
    (h : site.planFilterPath context outer path = some filter) :
    site.planPredicateOperandPath context outer (.path path) =
      some filter := by
  obtain ⟨segment, hsegments⟩ := site.planFilterPath_segments context h
  rw [← h]
  cases path with
  | mk anchor segments =>
      subst hsegments
      cases anchor <;> simp [planFilterPath, planPredicateOperandPath]

theorem wrapRelationPredicate_of_planFilterPath
    {outer : Bool}
    {path : ScopedPath}
    {field : FilterExpr}
    (h : site.planFilterPath context outer path = some field)
    (filter : FilterExpr) :
    site.wrapRelationPredicate context path filter = filter := by
  obtain ⟨segment, hsegments⟩ := site.planFilterPath_segments context h
  unfold wrapRelationPredicate
  rw [hsegments]
  rfl

/-- A field is no relation path. -/
theorem relationPredicateFilter_of_planFilterPath
    {outer : Bool}
    {path : ScopedPath}
    {field : FilterExpr}
    (h : site.planFilterPath context outer path = some field)
    (op : BinaryOp)
    (right : FilterExpr)
    (fieldPath : InputPath) :
    site.relationPredicateFilter context path op right fieldPath = none := by
  obtain ⟨segment, hsegments⟩ := site.planFilterPath_segments context h
  unfold relationPredicateFilter
  rw [if_neg]
  rw [hsegments]
  rintro ⟨-, hlength⟩
  simp at hlength

/-- A comparison with `null` has no aggregate beside it. -/
theorem planFilterExpr_eq_planOperands
    (outer : Bool)
    (path : ScopedPath)
    {op : BinaryOp}
    (hop : isComparisonOperator op = true)
    (nullFirst : Bool) :
    site.planFilterExpr context outer
        (NullTest.comparedWithNull op nullFirst path) =
      if nullFirst then
        site.planOperands context outer op (.literal .null) (.path path)
      else
        site.planOperands context outer op (.path path) (.literal .null) := by
  unfold NullTest.comparedWithNull
  cases nullFirst <;>
    exact (site.planFilterExpr_comparison context hop).trans
      (site.planBinary_plain context rfl)

/-- A comparison of a field with `null` is planned from its operands. -/
theorem planFilterExpr_comparedWithNull
    {outer : Bool}
    {path : ScopedPath}
    {scope : FilterColumnScope}
    {column : ColumnId}
    (h : site.planFilterPath context outer path =
      some (.column scope column))
    {op : BinaryOp}
    (hop : isComparisonOperator op = true)
    (nullFirst : Bool) :
    site.planFilterExpr context outer
        (NullTest.comparedWithNull op nullFirst path) =
      if nullFirst then
        site.binaryOrVariant (.literal .null) op (.column scope column)
          ((site.predicatePath context path).getD ["operator"])
      else
        site.binaryOrVariant (.column scope column) op (.literal .null)
          ((site.predicatePath context path).getD ["operator"]) := by
  have hrelation := site.relationPredicateFilter_of_planFilterPath context h
  rw [site.planFilterExpr_eq_planOperands context outer path hop]
  cases nullFirst with
  | true =>
      simp [planOperands, planRelationComparison, planPlainComparison,
        plannedOperands, planFilterExpr, predicateValuePath, h,
        FilterLiteral.ofLiteral]
  | false =>
      cases hpath : site.predicatePath context path <;>
        simp [planOperands, planRelationComparison, planPlainComparison,
          plannedOperands, planFilterExpr, predicateValuePath, hop, h, hpath,
          hrelation, namedOperand, isAbsent, FilterLiteral.ofLiteral]

/-- Every spelling has a plan. -/
theorem planFilterExpr_nullTest
    {outer : Bool}
    {path : ScopedPath}
    {scope : FilterColumnScope}
    {column : ColumnId}
    (h : site.planFilterPath context outer path =
      some (.column scope column))
    (test : NullTest) :
    site.planFilterExpr context outer (test.expr path) =
      some (test.planned (site.operatorPath context path)
        (.column scope column)) := by
  cases test with
  | test negated =>
      have hoperand :=
        site.planPredicateOperandPath_of_planFilterPath context h
      have hwrap := site.wrapRelationPredicate_of_planFilterPath context h
      simp [NullTest.expr, NullTest.planned, planFilterExpr, hoperand, hwrap]
  | comparison negated nullFirst =>
      unfold NullTest.expr
      rw [site.planFilterExpr_comparedWithNull context h rfl]
      cases negated <;> cases nullFirst <;> rfl
  | selected operator nullFirst =>
      unfold NullTest.expr
      rw [site.planFilterExpr_comparedWithNull context h rfl]
      cases nullFirst <;> rfl

/-- The relations that a path crosses on the way to its column. -/
def crossedRelations (path : ScopedPath) : List ResolvedRelationStep :=
  if path.segments.length < 2 then
    []
  else
    (resolvePath site.planner.catalog context path).relations

theorem wrapRelationPredicate_eq
    (path : ScopedPath)
    (filter : FilterExpr) :
    site.wrapRelationPredicate context path filter =
      (site.crossedRelations context path).foldr site.relationStepFilter
        filter := by
  unfold wrapRelationPredicate crossedRelations
  split <;> rfl

theorem crossedRelations_of_planFilterPath
    {outer : Bool}
    {path : ScopedPath}
    {field : FilterExpr}
    (h : site.planFilterPath context outer path = some field) :
    path.segments.length < 2 ∧ site.crossedRelations context path = [] := by
  obtain ⟨segment, hsegments⟩ := site.planFilterPath_segments context h
  unfold crossedRelations
  rw [hsegments]
  exact ⟨by simp, rfl⟩

/-- A path of several segments that ends at a column crosses a relation. -/
theorem crossedRelations_ne_nil
    {path : ScopedPath}
    (hlong : 2 ≤ path.segments.length)
    {column : ColumnId}
    (h : (resolvePath site.planner.catalog context path).terminal.columnId =
      some column) :
    site.crossedRelations context path ≠ [] := by
  unfold crossedRelations
  rw [if_neg (Nat.not_lt.mpr hlong)]
  unfold resolvePath at h ⊢
  cases htable : context.anchorTable path.anchor with
  | none =>
      rw [htable] at h
      cases h
  | some table =>
      rw [htable] at h
      exact resolveSegments_relations_ne_nil hlong h

theorem planPredicateOperandPath_eq_some
    {outer : Bool}
    {path : ScopedPath}
    {field : FilterExpr}
    (h : site.planPredicateOperandPath context outer (.path path) =
      some field) :
    ∃ scope column, field = .column scope column ∧
      (resolvePath site.planner.catalog context path).terminal.columnId =
        some column := by
  obtain ⟨column, hcolumn, rfl⟩ := Option.map_eq_some_iff.mp h
  exact ⟨_, column, rfl, hcolumn⟩

/-- The field, with the relations before it, that a written null test reads. -/
structure ReadsField
    (outer : Bool)
    (path : ScopedPath)
    (scope : FilterColumnScope)
    (column : ColumnId) : Prop where
  operand : site.planPredicateOperandPath context outer (.path path) =
    some (.column scope column)
  crossed : site.crossedRelations context path = [] ↔
    path.segments.length < 2

theorem readsField_of_operand
    {outer : Bool}
    {path : ScopedPath}
    {scope : FilterColumnScope}
    {column : ColumnId}
    (h : site.planPredicateOperandPath context outer (.path path) =
      some (.column scope column)) :
    site.ReadsField context outer path scope column := by
  refine ⟨h, ?_, fun hshort => if_pos hshort⟩
  intro hcrossed
  by_contra hlong
  obtain ⟨_, _, -, hcolumn⟩ := site.planPredicateOperandPath_eq_some context h
  exact site.crossedRelations_ne_nil context (Nat.not_lt.mp hlong) hcolumn
    hcrossed

/-- A comparison with `null` is planned for a field, or for a relation path of
the current row on its left. -/
theorem planFilterExpr_comparedWithNull_cases
    {outer : Bool}
    {path : ScopedPath}
    {filter : FilterExpr}
    {op : BinaryOp}
    (hop : isComparisonOperator op = true)
    {nullFirst : Bool}
    (h : site.planFilterExpr context outer
      (NullTest.comparedWithNull op nullFirst path) = some filter) :
    (∃ field, site.planFilterPath context outer path = some field) ∨
      nullFirst = false ∧ ∃ fieldPath,
        site.predicatePath context path = some fieldPath ∧
          site.relationPredicateFilter context path op (.literal .null)
            fieldPath = some filter := by
  rw [site.planFilterExpr_eq_planOperands context outer path hop] at h
  cases hplan : site.planFilterPath context outer path with
  | some field => exact .inl ⟨field, rfl⟩
  | none =>
      refine .inr ?_
      cases nullFirst with
      | true =>
          simp [planOperands, planRelationComparison, planPlainComparison,
            plannedOperands, planFilterExpr, predicateValuePath, hplan] at h
      | false =>
          cases hpath : site.predicatePath context path with
          | none =>
              simp [planOperands, planRelationComparison, planPlainComparison,
                plannedOperands, planFilterExpr, predicateValuePath, hplan,
                hpath] at h
          | some fieldPath =>
              refine ⟨rfl, fieldPath, rfl, ?_⟩
              cases hrelation : site.relationPredicateFilter context path op
                  (.literal .null) fieldPath with
              | none =>
                  simp [planOperands, planRelationComparison,
                    planPlainComparison, plannedOperands, planFilterExpr,
                    predicateValuePath, hop, hplan, hpath, namedOperand,
                    isAbsent, FilterLiteral.ofLiteral, hrelation] at h
              | some found =>
                  simpa [planOperands, planRelationComparison, hop, hpath,
                    plannedOperands, planFilterExpr, namedOperand, isAbsent,
                    FilterLiteral.ofLiteral, hrelation, optionalRelation]
                    using h

theorem relationPredicateFilter_eq_some
    {path : ScopedPath}
    {op : BinaryOp}
    {right filter : FilterExpr}
    {fieldPath : InputPath}
    (h : site.relationPredicateFilter context path op right fieldPath =
      some filter) :
    ∃ column, (∀ outer,
        site.planPredicateOperandPath context outer (.path path) =
          some (.column .current column)) ∧
      (site.binaryOrVariant (.column .current column) op right fieldPath).map
        (site.wrapRelationPredicate context path) = some filter := by
  unfold relationPredicateFilter at h
  split at h
  case isFalse => cases h
  case isTrue hcondition =>
    dsimp only at h
    split at h
    case isTrue => cases h
    case isFalse =>
      split at h
      case h_1 display table column valueType hterminal =>
        refine ⟨column, fun outer => ?_, h⟩
        obtain ⟨anchor, segments⟩ := path
        obtain ⟨rfl, hlong⟩ := hcondition
        simp only [planPredicateOperandPath, hterminal, PathTerminal.columnId,
          Option.map_some]
        have hlength : (segments.length == 1) = false :=
          beq_eq_false_iff_ne.mpr (Nat.ne_of_gt hlong)
        rw [hlength, Bool.and_false]
        rfl
      case h_2 => cases h

/-- What is planned for a null test in any spelling: the test of a field,
below the relations that lead to it. -/
theorem planFilterExpr_nullTest_eq_some
    {outer : Bool}
    {path : ScopedPath}
    {test : NullTest}
    {filter : FilterExpr}
    (h : site.planFilterExpr context outer (test.expr path) = some filter) :
    ∃ scope column, site.ReadsField context outer path scope column ∧
      filter = (site.crossedRelations context path).foldr
        site.relationStepFilter
        (test.planned (site.operatorPath context path)
          (.column scope column)) := by
  have hfield : ∀ field, site.planFilterPath context outer path = some field →
      ∃ scope column, site.ReadsField context outer path scope column ∧
        filter = (site.crossedRelations context path).foldr
          site.relationStepFilter
          (test.planned (site.operatorPath context path)
            (.column scope column)) := by
    intro field hplanned
    have hoperand :=
      site.planPredicateOperandPath_of_planFilterPath context hplanned
    obtain ⟨scope, column, rfl, -⟩ :=
      site.planPredicateOperandPath_eq_some context hoperand
    refine ⟨scope, column, site.readsField_of_operand context hoperand, ?_⟩
    rw [(site.crossedRelations_of_planFilterPath context hplanned).2]
    rw [site.planFilterExpr_nullTest context hplanned test] at h
    exact (Option.some.inj h).symm
  have hrelation : ∀ op fieldPath,
      site.predicatePath context path = some fieldPath →
      site.relationPredicateFilter context path op (.literal .null) fieldPath =
        some filter →
      (∀ column, site.binaryOrVariant (.column .current column) op
          (.literal .null) fieldPath =
        some (test.planned (site.operatorPath context path)
          (.column .current column))) →
      ∃ scope column, site.ReadsField context outer path scope column ∧
        filter = (site.crossedRelations context path).foldr
          site.relationStepFilter
          (test.planned (site.operatorPath context path)
            (.column scope column)) := by
    intro op fieldPath hpath hfilter hbinary
    obtain ⟨column, hoperand, hwrapped⟩ :=
      site.relationPredicateFilter_eq_some context hfilter
    rw [hbinary, Option.map_some, Option.some.injEq,
      wrapRelationPredicate_eq] at hwrapped
    exact ⟨.current, column, site.readsField_of_operand context (hoperand _),
      hwrapped.symm⟩
  cases test with
  | test negated =>
      rw [NullTest.expr, planFilterExpr] at h
      obtain ⟨field, hoperand, rfl⟩ := Option.map_eq_some_iff.mp h
      obtain ⟨scope, column, rfl, -⟩ :=
        site.planPredicateOperandPath_eq_some context hoperand
      exact ⟨scope, column, site.readsField_of_operand context hoperand,
        site.wrapRelationPredicate_eq context path _⟩
  | comparison negated nullFirst =>
      rcases site.planFilterExpr_comparedWithNull_cases context rfl h with
        ⟨field, hplanned⟩ | ⟨rfl, fieldPath, hpath, hfilter⟩
      · exact hfield field hplanned
      · refine hrelation _ fieldPath hpath hfilter fun column => ?_
        cases negated <;> rfl
  | selected operator nullFirst =>
      rcases site.planFilterExpr_comparedWithNull_cases context rfl h with
        ⟨field, hplanned⟩ | ⟨rfl, fieldPath, hpath, hfilter⟩
      · exact hfield field hplanned
      · refine hrelation _ fieldPath hpath hfilter fun column => ?_
        unfold operatorPath
        rw [hpath]
        rfl

end FilterSite

/-- As many negations around a predicate. -/
def Expr.negated (count : Nat) (expr : Expr) : Expr :=
  (Expr.unary .not)^[count] expr

theorem planFilterExpr_negated
    (site : FilterSite)
    (context : ClauseContext)
    (outer : Bool)
    (count : Nat)
    (expr : Expr) :
    site.planFilterExpr context outer (expr.negated count) =
      (site.planFilterExpr context outer expr).map
        (FilterExpr.not^[count]) := by
  induction count with
  | zero => exact Option.map_id'.symm
  | succ count ih =>
      unfold Expr.negated at ih ⊢
      rw [Function.iterate_succ_apply', FilterSite.planFilterExpr, ih,
        Option.map_map, Function.iterate_succ']

/-- Negations around a filter that is always present stand around its
value. -/
theorem filterExpr_negated
    (catalog : Catalog)
    (scope : FilterSqlScope)
    (depth : Nat)
    (count : Nat)
    {filter : FilterExpr}
    {value : SqlExpr}
    (h : conditionalFilterExpr catalog scope depth filter =
      .always value) :
    filterExpr catalog scope depth (FilterExpr.not^[count] filter) =
      SqlExpr.not^[count] value := by
  have hlowered : conditionalFilterExpr catalog scope depth
      (FilterExpr.not^[count] filter) = .always (SqlExpr.not^[count] value) := by
    induction count with
    | zero => exact h
    | succ count ih =>
        rw [Function.iterate_succ_apply', Function.iterate_succ_apply',
          conditionalFilterExpr, ih]
        rfl
  unfold filterExpr
  rw [hlowered]
  rfl

/-- The test that the input `is_null: wanted` of a dynamic predicate selects
for one of its fields. -/
def dynamicNullTest
    (source : SqlRowView)
    (depth : Nat)
    (field : DynamicInputFieldPlan)
    (wanted : Bool) : SqlExpr :=
  .isNull (source.maskedColumnExpression depth field.column) (!wanted)

/-- A null test in any spelling. -/
inductive NullProbe where
  | written (test : NullTest) (outer : Bool) (path : ScopedPath)
  | dynamic (field : DynamicInputFieldPlan) (wanted : Bool)

namespace NullProbe

variable (site : FilterSite) (context : ClauseContext)

/-- The relations between the row of a probe and the field it asks about. -/
def steps : NullProbe → List ResolvedRelationStep
  | .written _ _ path => site.crossedRelations context path
  | .dynamic _ _ => []

/-- The column that a probe asks about, at the row its relations lead to. -/
def field : NullProbe → Option (FilterColumnScope × ColumnId)
  | .written _ outer path =>
      match site.planPredicateOperandPath context outer (.path path) with
      | some (.column columnScope column) => some (columnScope, column)
      | _ => none
  | .dynamic field _ => some (.current, field.column)

/-- A probe under negations, as it stands in the `where` of its source. -/
def lowered
    (scope : FilterSqlScope)
    (depth : Nat)
    (negations : Nat) : NullProbe → Option SqlExpr
  | .written test outer path =>
      (site.planFilterExpr context outer
        ((test.expr path).negated negations)).map
          (filterExpr site.planner.catalog scope depth)
  | .dynamic field wanted =>
      some (SqlExpr.not^[negations]
        (dynamicNullTest scope.current depth field wanted))

end NullProbe

/-- What the guard of a field says at a place; a field without a guard is
readable. -/
def Session.guardAt
    {S : Type} [DecidableEq S]
    (session : Session S)
    (place : Place S)
    (field : FilterColumnScope × ColumnId) : Truth :=
  match (place.scope.columnSource field.1).guard (.column field.2)
      place.depth with
  | some guard => (session.eval place.env guard).truth
  | none => .tt

/-- Whether the stored value of a field is null. -/
def Session.storesNull
    {S : Type} [DecidableEq S]
    (session : Session S)
    (place : Place S)
    (field : FilterColumnScope × ColumnId) : Bool :=
  (session.eval place.env
    (.column (place.scope.columnSource field.1).context field.2)).isNull

/-- The rows that the row sources of a chain of relations range over. -/
def Session.Enters
    {S : Type} [DecidableEq S]
    (session : Session S)
    (site : FilterSite) :
    List ResolvedRelationStep → Place S → Place S → Prop
  | [], place, last => last = place
  | step :: steps, place, last =>
      ∃ row ∈ session.database step.table,
        session.evalAll (place.enter site step row).env
            (existsConditions site.planner.catalog place.scope place.depth
              (some step.relation) step.table .relationshipPredicate .current
              (site.stepPolicies step).rowFilter
              (site.stepPolicies step).fieldFilters none) = .tt ∧
          Enters session site steps (place.enter site step row) last

namespace NullProbe

/-- When a probe does not match a row for which the guard denies the field.  A
written test conceals the field unless a negation turns its refusal into a
match, which only an unknown guard on the row itself prevents; a selected
operator and a dynamic input read the mask, and conceal it only from a test
that the mask fails. -/
def Conceals
    {S : Type} [DecidableEq S]
    (session : Session S)
    (site : FilterSite)
    (context : ClauseContext)
    (place : Place S)
    (field : FilterColumnScope × ColumnId)
    (negations : Nat) : NullProbe → Prop
  | .written (.test negated) _ path
  | .written (.comparison negated _) _ path =>
      Even negations ∨
        (path.segments.length < 2 ∧ session.guardAt place field = .unknown ∧
          session.storesNull place field ≠ negated)
  | .written (.selected operator _) _ path =>
      let chosen :=
        session.inputs.selected (site.operatorPath context path operator)
      let operators := operator.operators.getD []
      if Even negations then
        ¬(chosen = "==" ∧ ComparisonOp.eq ∈ operators)
      else if path.segments.length < 2 then
        ¬(chosen = "!=" ∧ ComparisonOp.ne ∈ operators)
      else
        chosen = "==" ∧ ComparisonOp.eq ∈ operators
  | .dynamic _ wanted => wanted = !decide (Even negations)

end NullProbe

/-- The choice that an allowed operator gives against `null`. -/
def nullOperatorCase : ComparisonOp → SqlVariantCase
  | .eq => ⟨"==", "is"⟩
  | .ne => ⟨"!=", "is not"⟩
  | .gt => ⟨">", ">"⟩
  | .ge => ⟨">=", ">="⟩
  | .lt => ⟨"<", "<"⟩
  | .le => ⟨"<=", "<="⟩
  | .like => ⟨"like", "like"⟩

theorem operatorVariants_null (operator : VariableRef) :
    operatorVariants operator true =
      (operator.operators.getD []).map nullOperatorCase := by
  unfold operatorVariants
  rw [← List.filterMap_eq_map]
  congr 1
  funext op
  cases op <;> rfl

/-- What the selected operator answers about a mask. -/
theorem variantNull_mask
    {S : Type}
    (selected : String)
    (operators : List ComparisonOp) :
    Engine.variantNull selected (operators.map nullOperatorCase)
        (Datum.null : Datum S) =
      if selected = "==" ∧ ComparisonOp.eq ∈ operators then
        .tt
      else if selected = "!=" ∧ ComparisonOp.ne ∈ operators then
        .ff
      else
        .unknown := by
  induction operators with
  | nil => simp [Engine.variantNull]
  | cons op operators ih =>
      by_cases hchosen : (nullOperatorCase op).value = selected
      · subst hchosen
        cases op <;> simp [Engine.variantNull, nullOperatorCase, Datum.isNull]
      · have hskip : Engine.variantNull selected
            ((op :: operators).map nullOperatorCase) (Datum.null : Datum S) =
            Engine.variantNull selected (operators.map nullOperatorCase)
              (Datum.null : Datum S) := by
          simp [Engine.variantNull, hchosen]
        rw [hskip, ih]
        have heq : selected = "==" → op ≠ .eq := by
          rintro rfl rfl
          exact hchosen rfl
        have hne : selected = "!=" → op ≠ .ne := by
          rintro rfl rfl
          exact hchosen rfl
        by_cases hfirst : selected = "=="
        · simp [hfirst, (heq hfirst).symm]
        · by_cases hsecond : selected = "!="
          · simp [hsecond, (hne hsecond).symm]
          · simp [hfirst, hsecond]

namespace Session

variable
  {S : Type} [DecidableEq S] (session : Session S) (env : Env S)
  (catalog : Catalog) (scope : FilterSqlScope) (depth : Nat)

theorem truth_negated (count : Nat) (value : SqlExpr) :
    (session.eval env (SqlExpr.not^[count] value)).truth =
      if Even count then
        (session.eval env value).truth
      else
        (session.eval env value).truth.not := by
  induction count with
  | zero => simp
  | succ count ih =>
      rw [Function.iterate_succ_apply', truth_not, ih]
      by_cases heven : Even count <;> simp [heven, Nat.even_add_one]

/-- A written null test is lowered to the guard beside the test of the stored
value. -/
theorem lowered_nullTest
    {columnScope : FilterColumnScope}
    {column : ColumnId}
    {guard : SqlExpr}
    (hguard : (scope.columnSource columnScope).guard (.column column) depth =
      some guard)
    (operatorPath : VariableRef → InputPath)
    (negated nullFirst : Bool) :
    let value : SqlExpr := .binary guard .and
      (.isNull (.column (scope.columnSource columnScope).context column)
        negated)
    conditionalFilterExpr catalog scope depth
        ((NullTest.test negated).planned operatorPath
          (.column columnScope column)) = .always value ∧
      conditionalFilterExpr catalog scope depth
        ((NullTest.comparison negated nullFirst).planned operatorPath
          (.column columnScope column)) = .always value := by
  refine ⟨?_, ?_⟩
  · simp [NullTest.planned, conditionalFilterExpr, nullTestExpr, hguard]
  · cases negated <;> cases nullFirst <;>
      simp [NullTest.planned, conditionalFilterExpr, comparisonExpr,
        nullComparisonOperand, nullTestExpr, hguard,
        show (FilterOp.eq == FilterOp.ne) = false from rfl]

theorem lowered_selected
    {columnScope : FilterColumnScope}
    {column : ColumnId}
    (operatorPath : VariableRef → InputPath)
    (operator : VariableRef)
    (nullFirst : Bool) :
    conditionalFilterExpr catalog scope depth
        ((NullTest.selected operator nullFirst).planned operatorPath
          (.column columnScope column)) =
      .always (.variantNull
        ((scope.columnSource columnScope).maskedColumnExpression depth column)
        (operatorPath operator) (operatorVariants operator true)) := by
  cases nullFirst <;>
    simp [NullTest.planned, conditionalFilterExpr, variantExpr,
      nullComparisonOperand, ConditionalFilter.always,
      ConditionalFilter.filterExpr]

/-- A field that its guard denies reads as null. -/
theorem eval_mask
    (place : Place S)
    {field : FilterColumnScope × ColumnId}
    (hdenied : session.guardAt place field ≠ .tt) :
    session.eval place.env
        ((place.scope.columnSource field.1).maskedColumnExpression place.depth
          field.2) = .null := by
  unfold guardAt at hdenied
  unfold SqlRowView.maskedColumnExpression
  split at hdenied
  case h_1 guard hguard =>
    rw [hguard]
    simp [eval, hdenied]
  case h_2 => exact absurd rfl hdenied

theorem truth_dynamicNullTest
    (place : Place S)
    (field : DynamicInputFieldPlan)
    (hdenied : session.guardAt place (.current, field.column) ≠ .tt)
    (wanted : Bool) :
    (session.eval place.env (dynamicNullTest place.scope.current place.depth
      field wanted)).truth = .ofBool wanted := by
  have hmask := session.eval_mask place hdenied
  unfold dynamicNullTest
  simp only [FilterSqlScope.columnSource] at hmask
  simp [eval, hmask, Datum.isNull]

/-- What a written null test answers about a field that its guard denies. -/
def deniedTest
    (place : Place S)
    (operatorPath : VariableRef → InputPath)
    (field : FilterColumnScope × ColumnId) : NullTest → Truth
  | .test negated | .comparison negated _ =>
      (session.guardAt place field).and
        (.ofBool (session.storesNull place field != negated))
  | .selected operator _ =>
      let chosen := session.inputs.selected (operatorPath operator)
      let operators := operator.operators.getD []
      if chosen = "==" ∧ ComparisonOp.eq ∈ operators then .tt
      else if chosen = "!=" ∧ ComparisonOp.ne ∈ operators then .ff
      else .unknown

theorem lowered_planned
    (place : Place S)
    (operatorPath : VariableRef → InputPath)
    {field : FilterColumnScope × ColumnId}
    (hdenied : session.guardAt place field ≠ .tt)
    (test : NullTest) :
    ∃ value, conditionalFilterExpr catalog place.scope place.depth
        (test.planned operatorPath (.column field.1 field.2)) =
          .always value ∧
      (session.eval place.env value).truth =
        session.deniedTest place operatorPath field test := by
  have hmask := session.eval_mask place hdenied
  have hguarded : ∃ guard,
      (place.scope.columnSource field.1).guard (.column field.2) place.depth =
          some guard ∧
        session.guardAt place field =
          (session.eval place.env guard).truth := by
    unfold guardAt at hdenied ⊢
    split at hdenied
    case h_1 guard hguard => exact ⟨guard, hguard, rfl⟩
    case h_2 => exact absurd rfl hdenied
  obtain ⟨guard, hguard, hat⟩ := hguarded
  have hwritten (negated nullFirst : Bool) :=
    lowered_nullTest catalog place.scope place.depth hguard operatorPath
      negated nullFirst
  have htruth (negated : Bool) : (session.eval place.env
      (.binary guard .and
        (.isNull (.column (place.scope.columnSource field.1).context field.2)
          negated))).truth =
      (session.guardAt place field).and
        (.ofBool (session.storesNull place field != negated)) := by
    rw [truth_and, hat]
    simp [eval, storesNull]
  cases test with
  | test negated => exact ⟨_, (hwritten negated false).1, htruth negated⟩
  | comparison negated nullFirst =>
      exact ⟨_, (hwritten negated nullFirst).2, htruth negated⟩
  | selected operator nullFirst =>
      refine ⟨_, lowered_selected catalog place.scope place.depth operatorPath
        operator nullFirst, ?_⟩
      simp only [eval, Datum.truth_ofTruth, hmask, operatorVariants_null,
        variantNull_mask, deniedTest]

/-- A written test never matches a field that its guard denies. -/
theorem deniedTest_test_ne
    {place : Place S}
    {field : FilterColumnScope × ColumnId}
    (hdenied : session.guardAt place field ≠ .tt)
    (operatorPath : VariableRef → InputPath)
    (negated : Bool) :
    session.deniedTest place operatorPath field (.test negated) ≠ .tt := by
  rw [deniedTest]
  intro htrue
  exact hdenied ((Truth.and_eq_tt _ _).mp htrue).1

/-- A selected `==` matches the mask, and no other operator does. -/
theorem deniedTest_selected_eq_tt
    (place : Place S)
    (operatorPath : VariableRef → InputPath)
    (field : FilterColumnScope × ColumnId)
    (operator : VariableRef)
    (nullFirst : Bool) :
    session.deniedTest place operatorPath field (.selected operator nullFirst) =
        .tt ↔
      session.inputs.selected (operatorPath operator) = "==" ∧
        ComparisonOp.eq ∈ operator.operators.getD [] := by
  rw [deniedTest]
  by_cases hchosen : session.inputs.selected (operatorPath operator) = "==" ∧
      ComparisonOp.eq ∈ operator.operators.getD []
  · simp only [hchosen, and_self, if_true]
  · by_cases hrefused : session.inputs.selected (operatorPath operator) =
        "!=" ∧ ComparisonOp.ne ∈ operator.operators.getD []
    · simp [hrefused]
    · simp [hchosen, hrefused]

/-- A selected `!=` refuses the mask, and no other operator does. -/
theorem deniedTest_selected_eq_ff
    (place : Place S)
    (operatorPath : VariableRef → InputPath)
    (field : FilterColumnScope × ColumnId)
    (operator : VariableRef)
    (nullFirst : Bool) :
    session.deniedTest place operatorPath field (.selected operator nullFirst) =
        .ff ↔
      session.inputs.selected (operatorPath operator) = "!=" ∧
        ComparisonOp.ne ∈ operator.operators.getD [] := by
  rw [deniedTest]
  by_cases hselected : session.inputs.selected (operatorPath operator) = "=="
  · by_cases hallowed : ComparisonOp.eq ∈ operator.operators.getD [] <;>
      simp [hselected, hallowed]
  · by_cases hchosen : session.inputs.selected (operatorPath operator) = "!=" ∧
        ComparisonOp.ne ∈ operator.operators.getD []
    · simp [hchosen]
    · simp [hselected, hchosen]

/-! ## Along the relations of a path -/

theorem existsConditions_some
    (relation : Option RelationId)
    (table : TableId)
    (kind : ExistsKind)
    (sourceScope : FilterColumnScope)
    (policyFilter : Option FilterExpr)
    (fieldFilters : List (PolicyFieldFilter FilterExpr))
    (filter : FilterExpr) :
    existsConditions catalog scope depth relation table kind sourceScope
        policyFilter fieldFilters (some filter) =
      existsConditions catalog scope depth relation table kind sourceScope
          policyFilter fieldFilters none ++
        [filterExpr catalog
          (bodyScope scope kind
            (readableView catalog (existsContext table depth) fieldFilters)
            (scope.columnSource sourceScope))
          (depth + 1) filter] := by
  simp [existsConditions, filterConditions, filterExpr]

omit [DecidableEq S] in
theorem conditionalFilterExpr_relationStep
    (site : FilterSite)
    (place : Place S)
    (step : ResolvedRelationStep)
    (filter : FilterExpr) :
    conditionalFilterExpr site.planner.catalog place.scope place.depth
        (site.relationStepFilter step filter) =
      .always (.exists (existsContext step.table place.depth) step.table
        (existsConditions site.planner.catalog place.scope place.depth
          (some step.relation) step.table .relationshipPredicate .current
          (site.stepPolicies step).rowFilter
          (site.stepPolicies step).fieldFilters (some filter))) :=
  conditionalFilterExpr_exists _ _ _ _ _ _ _ _ _ _

/-- Nested `exists` filters hold exactly when their body holds at a row that
the row sources range over. -/
theorem truth_relationSteps
    (site : FilterSite)
    (steps : List ResolvedRelationStep)
    (place : Place S)
    (filter : FilterExpr) :
    (session.eval place.env (filterExpr site.planner.catalog place.scope
        place.depth (steps.foldr site.relationStepFilter filter))).truth =
          .tt ↔
      ∃ last, session.Enters site steps place last ∧
        (session.eval last.env (filterExpr site.planner.catalog last.scope
          last.depth filter)).truth = .tt := by
  induction steps generalizing place with
  | nil => simp [Enters]
  | cons step steps ih =>
      rw [List.foldr_cons, filterExpr, conditionalFilterExpr_relationStep,
        existsConditions_some]
      have hrow (row : Row S) := ih (place.enter site step row)
      simp only [ConditionalFilter.filterExpr, ConditionalFilter.always, eval,
        Datum.truth_bool, Truth.ofBool_eq_tt, List.any_eq_true, beq_iff_eq,
        evalAll_append, evalAll_cons, evalAll_nil, Truth.and_eq_tt, and_true]
      constructor
      · rintro ⟨row, hmem, hconditions, hfilter⟩
        obtain ⟨last, henters, hlast⟩ := (hrow row).mp hfilter
        exact ⟨last, ⟨row, hmem, hconditions, henters⟩, hlast⟩
      · rintro ⟨last, ⟨row, hmem, hconditions, henters⟩, hlast⟩
        exact ⟨row, hmem, hconditions, (hrow row).mpr ⟨last, henters, hlast⟩⟩

/-- A chain of relations makes a filter true or false, never unknown. -/
theorem lowered_relationSteps
    (site : FilterSite)
    {steps : List ResolvedRelationStep}
    (hsteps : steps ≠ [])
    (place : Place S)
    (filter : FilterExpr) :
    ∃ value passes,
      conditionalFilterExpr site.planner.catalog place.scope place.depth
          (steps.foldr site.relationStepFilter filter) = .always value ∧
        (session.eval place.env value).truth = .ofBool passes ∧
        (passes = true ↔ ∃ last, session.Enters site steps place last ∧
          (session.eval last.env (filterExpr site.planner.catalog last.scope
            last.depth filter)).truth = .tt) := by
  have htruth := session.truth_relationSteps site steps place filter
  cases steps with
  | nil => exact absurd rfl hsteps
  | cons step steps =>
      have hlowered := conditionalFilterExpr_relationStep site place step
        (steps.foldr site.relationStepFilter filter)
      rw [List.foldr_cons, filterExpr, hlowered] at htruth
      refine ⟨_, _, hlowered, by simp only [eval, Datum.truth_bool]; rfl, ?_⟩
      rw [← htruth]
      simp only [ConditionalFilter.filterExpr, ConditionalFilter.always, eval,
        Datum.truth_bool, Truth.ofBool_eq_tt]

/-- A null test over relations is TRUE or FALSE, by the test at the rows that
they lead to. -/
theorem lowered_deniedPath
    (site : FilterSite)
    {steps : List ResolvedRelationStep}
    (hsteps : steps ≠ [])
    (place : Place S)
    (operatorPath : VariableRef → InputPath)
    {field : FilterColumnScope × ColumnId}
    (hdenied : ∀ last, session.Enters site steps place last →
      session.guardAt last field ≠ .tt)
    (test : NullTest) :
    ∃ value passes,
      conditionalFilterExpr site.planner.catalog place.scope place.depth
          (steps.foldr site.relationStepFilter
            (test.planned operatorPath (.column field.1 field.2))) =
          .always value ∧
        (session.eval place.env value).truth = .ofBool passes ∧
        (passes = true ↔ ∃ last, session.Enters site steps place last ∧
          session.deniedTest last operatorPath field test = .tt) := by
  obtain ⟨value, passes, hvalue, htruth, hpasses⟩ :=
    session.lowered_relationSteps site hsteps place
      (test.planned operatorPath (.column field.1 field.2))
  refine ⟨value, passes, hvalue, htruth, ?_⟩
  rw [hpasses]
  refine exists_congr fun last => and_congr_right fun henters => ?_
  obtain ⟨inner, hinner, hanswer⟩ := session.lowered_planned
    site.planner.catalog last operatorPath (hdenied last henters) test
  rw [← hanswer, filterExpr, hinner]
  rfl

end Session

/-- Beside a guard that denies access, a stored value passes no test; its
negation fails only where guard and test leave it undetermined. -/
theorem guarded_test_conceals
    {guard : Truth}
    (hdenied : guard ≠ .tt)
    (passes : Bool)
    (negations : Nat) :
    (if Even negations then
        guard.and (.ofBool passes)
      else
        (guard.and (.ofBool passes)).not) ≠ .tt ↔
      Even negations ∨ (guard = .unknown ∧ passes = true) := by
  by_cases heven : Even negations <;> cases guard <;> cases passes <;>
    simp_all [Truth.not, Truth.and, Truth.ofBool]

/-- A table `accounts` of people with a manager each. -/
def accountCatalog : Catalog :=
  let column (index : Nat) (name : String) : Column :=
    { id := ⟨index⟩
      table := ⟨0⟩
      name := name
      visible := true
      type := ⟨⟨"pg_catalog", "text"⟩, .text, "text", none,
        builtinCapabilities .text⟩
      notNull := false }
  { defaultSchema := "public"
    tables :=
      [{ id := ⟨0⟩
         schema := "public"
         name := "accounts"
         visible := true
         columns := [⟨0⟩, ⟨1⟩, ⟨2⟩]
         primaryKey := []
         uniqueConstraints := []
         indexes := []
         relations := [⟨0⟩] }]
    types := []
    columns := [column 0 "email", column 1 "id", column 2 "manager_id"]
    relations :=
      [{ id := ⟨0⟩
         name := "manager"
         selector := "manager_id"
         visible := true
         fromTable := ⟨0⟩
         toTable := ⟨0⟩
         localColumns := [⟨2⟩]
         targetColumns := [⟨1⟩]
         cardinality := .singular
         nullable := true }] }

/-- `filter Private on accounts: apply, email where false`. -/
def privateEmails : CompiledPolicyTarget :=
  { table := ⟨0⟩
    enforcement := none
    rowRule := none
    fieldRules := [⟨[.column ⟨0⟩], .literal (.bool false)⟩]
    context := [] }

def accountSite : FilterSite :=
  { planner :=
      { catalog := accountCatalog
        imports := ⟨[]⟩
        scope := "app"
        policyIndex :=
          ⟨[{ entity := ⟨0⟩, scope := "app", kind := .filter
              name := "Private", matchedTables := [⟨0⟩]
              defaultActive := true, alwaysEnforced := false }],
            List.nodup_singleton _⟩
        compiledPolicies :=
          ⟨[⟨⟨0⟩, ⟨"app", "Private"⟩, true, [], [privateEmails]⟩]⟩
        compiled_matched := by
          intro found hfound table guards hguards
          obtain rfl := List.mem_singleton.mp hfound
          by_cases h : table = ⟨0⟩
          · exact List.mem_singleton.mpr h
          · simp [CompiledPolicyIndex.target, CompiledPolicyIndex.entry,
              privateEmails, Ne.symm h] at hguards
        bindings := []
        contexts := fun _ _ => .unknown
        operationAssignments := [] }
    definitionScope := "app"
    selectionPath := ["accounts"]
    variableScope := .operation }

/-- The row source `accounts`, whose column `email` nobody may read. -/
def hiddenAccounts : SqlRowView :=
  readableView accountCatalog ⟨⟨[.label ⟨0⟩]⟩, 0⟩
    [⟨.column ⟨0⟩, .literal (.bool false), []⟩]

def hiddenScope : FilterSqlScope :=
  ⟨hiddenAccounts, hiddenAccounts, hiddenAccounts, none⟩

def managedAccount : Row String := fun column =>
  match column.index with
  | 0 => .scalar "ann@example.org"
  | 1 => .scalar "1"
  | _ => .scalar "2"

def managerAccount : Row String := fun column =>
  match column.index with
  | 0 => .scalar "bob@example.org"
  | 1 => .scalar "2"
  | _ => .null

def accountSession : Session String :=
  { engine :=
      { string := id
        number := id
        holds := fun _ _ _ => false
        count := fun _ => ""
        aggregate := fun _ _ => .null }
    inputs :=
      { value := fun _ => .null
        collection := fun _ => none
        selected := fun _ => "=="
        dynamic := fun _ _ => .unknown }
    database := fun _ => [managedAccount, managerAccount]
    binding := intended }

/-- The selection `accounts` at the account with a manager. -/
def accountPlace : Place String where
  scope := hiddenScope
  depth := 1
  env := [(hiddenAccounts.context, managedAccount)]

def ownEmail : ScopedPath :=
  ⟨.current, [⟨⟨none, "email"⟩, none⟩]⟩

def managerEmail : ScopedPath :=
  ⟨.current, [⟨⟨none, "manager"⟩, none⟩, ⟨⟨none, "email"⟩, none⟩]⟩

theorem managerEmail_denied
    (last : Place String)
    (h : accountSession.Enters accountSite
      (accountSite.crossedRelations ⟨⟨0⟩, ⟨0⟩, none⟩ managerEmail)
      accountPlace last) :
    accountSession.guardAt last (.current, ⟨0⟩) ≠ .tt := by
  obtain ⟨row, hrow, -, rfl⟩ := h
  rcases List.mem_cons.mp hrow with rfl | hmanager
  · decide
  · obtain rfl := List.mem_singleton.mp hmanager
    decide

/-- The guard denies the field, and `where not (path is null)` matches. -/
def TestReveals (path : ScopedPath) : Prop :=
  (∀ last,
    accountSession.Enters accountSite
      (accountSite.crossedRelations ⟨⟨0⟩, ⟨0⟩, none⟩ path) accountPlace
      last →
    accountSession.guardAt last (.current, ⟨0⟩) ≠ .tt) ∧
  ∃ lowered,
    (NullProbe.written (.test false) false path).lowered accountSite
        ⟨⟨0⟩, ⟨0⟩, none⟩ hiddenScope 1 1 = some lowered ∧
      (accountSession.eval accountPlace.env lowered).truth = .tt

end Dsql
