import Dsql.Plan.Pruning
import Dsql.Sql.Presence

/-!
# Atoms under nullable inputs

An atom planned with nullable inputs is wrapped in the presence of the inputs
that control it.  After lowering it denotes nothing when one of them is null
and otherwise the same truth value as the atom planned with required inputs.
-/

namespace Dsql

open Logic

/-- Operands that no input stands for. -/
def FilterExpr.isPlainOperand : FilterExpr → Bool
  | .absent | .optional .. | .parameter _ => false
  | _ => true

/-- A value operand planned with nullable inputs, beside whether it is
absent. -/
inductive ValuePlan
    (planner : Planner)
    (present : SqlParameter → Bool) : FilterExpr → Bool → Prop where
  | absent : ValuePlan planner present .absent true
  | parameter (path : InputPath) :
      ValuePlan planner present (.parameter (planner.sqlParameter path))
        (planner.variableIsNullable path &&
          !present (planner.sqlParameter path))
  | plain (filter : FilterExpr) (h : filter.isPlainOperand = true) :
      ValuePlan planner present filter false

/-- An operand planned with nullable inputs beside the same operand planned
with required ones. -/
inductive OperandPlan
    (planner : Planner)
    (present : SqlParameter → Bool) :
    FilterExpr → FilterExpr → Bool → Prop where
  | value {filter : FilterExpr} {absent : Bool}
      (h : ValuePlan planner present filter absent) :
      OperandPlan planner present filter filter absent
  | optional (path : InputPath)
      (h : planner.variableIsNullable path = true) :
      OperandPlan planner present
        (.optional (planner.sqlParameter path)
          (.parameter (planner.sqlParameter path)))
        (.parameter (planner.sqlParameter path))
        (!present (planner.sqlParameter path))

namespace Planner

variable (planner : Planner) (present : SqlParameter → Bool)

/-- The parameters that control an atom are named by their paths. -/
def Named (parameters : List SqlParameter) : Prop :=
  ∀ parameter ∈ parameters,
    parameter = planner.sqlParameter parameter.path

theorem stripOptional_plain
    {filter : FilterExpr}
    (h : filter.isPlainOperand = true) :
    stripOptional filter = (filter, []) := by
  cases filter <;> simp_all [FilterExpr.isPlainOperand, stripOptional]

theorem predicateAtomOperand_plain
    {filter : FilterExpr}
    (h : filter.isPlainOperand = true) :
    planner.predicateAtomOperand filter = (filter, []) := by
  unfold predicateAtomOperand
  rw [stripOptional_plain h]
  cases filter <;> simp_all [FilterExpr.isPlainOperand]

theorem predicateAtomOperand_parameter (path : InputPath) :
    planner.predicateAtomOperand (.parameter (planner.sqlParameter path)) =
      (.parameter (planner.sqlParameter path),
        if planner.variableIsNullable path then
          [planner.sqlParameter path]
        else
          []) := by
  cases h : planner.variableIsNullable path <;>
    simp [predicateAtomOperand, stripOptional, h]

theorem predicateAtomOperand_optional (path : InputPath) :
    planner.predicateAtomOperand
        (.optional (planner.sqlParameter path)
          (.parameter (planner.sqlParameter path))) =
      (.parameter (planner.sqlParameter path),
        [planner.sqlParameter path]) := by
  simp [predicateAtomOperand, stripOptional]

/-- The operand of an atom is the required operand, and the atom is controlled
by parameters one of which is missing exactly when the operand is absent. -/
theorem predicateAtomOperand_operandPlan
    {filter required : FilterExpr}
    {absent : Bool}
    (h : OperandPlan planner present filter required absent)
    (hfilter : filter ≠ .absent) :
    (planner.predicateAtomOperand filter).1 = required ∧
      planner.Named (planner.predicateAtomOperand filter).2 ∧
      (planner.predicateAtomOperand filter).2.any
        (fun parameter => !present parameter) = absent := by
  cases h with
  | value hvalue =>
      cases hvalue with
      | absent => exact absurd rfl hfilter
      | parameter path =>
          rw [predicateAtomOperand_parameter]
          cases hnullable : planner.variableIsNullable path <;>
            simp [Named]
      | plain _ hplain =>
          rw [predicateAtomOperand_plain planner hplain]
          simp [Named]
  | optional path hnullable =>
      rw [predicateAtomOperand_optional]
      simp [Named]

/-- With required inputs no parameter controls an atom. -/
theorem predicateAtomOperand_required
    {filter required : FilterExpr}
    {absent : Bool}
    (h : OperandPlan planner present filter required absent) :
    planner.required.predicateAtomOperand required = (required, []) := by
  have hparameter (path : InputPath) :
      planner.required.predicateAtomOperand
          (.parameter (planner.sqlParameter path)) =
        (.parameter (planner.sqlParameter path), []) := by
    have hrequired := planner.required.predicateAtomOperand_parameter path
    simpa using hrequired
  cases h with
  | value hvalue =>
      cases hvalue with
      | absent => rfl
      | parameter path => exact hparameter path
      | plain _ hplain => exact predicateAtomOperand_plain _ hplain
  | optional path hnullable => exact hparameter path

theorem operandPlan_isAbsent
    {filter required : FilterExpr}
    {absent : Bool}
    (h : OperandPlan planner present filter required absent) :
    FilterSite.isAbsent required = FilterSite.isAbsent filter ∧
      (FilterSite.isAbsent filter = true → absent = true) := by
  cases h with
  | value hvalue =>
      cases hvalue with
      | absent => simp
      | parameter path => simp [FilterSite.isAbsent]
      | plain _ hplain =>
          cases filter <;>
            simp_all [FilterExpr.isPlainOperand, FilterSite.isAbsent]
  | optional path hnullable => simp [FilterSite.isAbsent]

/-- Merging controlling parameters drops repetitions only. -/
theorem mergeOptionalParameters_any
    {left right : List SqlParameter}
    (hleft : planner.Named left)
    (hright : planner.Named right)
    (test : SqlParameter → Bool) :
    (mergeOptionalParameters left right).any test =
      (left.any test || right.any test) := by
  unfold mergeOptionalParameters
  induction right generalizing left with
  | nil => simp
  | cons parameter right ih =>
      have hnamed := hright parameter (by simp)
      have hrest : planner.Named right := fun other hother =>
        hright other (List.mem_cons_of_mem _ hother)
      rw [List.foldl_cons]
      split
      · next hany =>
          rw [ih hleft hrest, List.any_cons]
          obtain ⟨existing, hmem, hpath⟩ := List.any_eq_true.mp hany
          have hexisting := hleft existing hmem
          have hsame : existing = parameter := by
            rw [hexisting, hnamed, eq_of_beq hpath]
          cases htest : test parameter with
          | false => simp
          | true =>
              have hleftAny : left.any test = true :=
                List.any_eq_true.mpr
                  ⟨existing, hmem, by rw [hsame, htest]⟩
              simp [hleftAny]
      · have happend : planner.Named (left ++ [parameter]) := by
          intro other hother
          rcases List.mem_append.mp hother with hmem | hmem
          · exact hleft other hmem
          · rw [List.mem_singleton.mp hmem]
            exact hnamed
        rw [ih happend hrest]
        simp [Bool.or_assoc]

end Planner

namespace Session

variable
  {S : Type} [DecidableEq S] (session : Session S) (catalog : Catalog)

/-- An optional atom denotes nothing when one of its parameters is missing. -/
theorem reading_wrapOptionalAtom
    (scope : FilterSqlScope)
    (depth : Nat)
    (env : Env S)
    (atom : FilterExpr)
    (parameters : List SqlParameter) :
    session.reading catalog scope depth env
        (wrapOptionalAtom atom parameters) =
      if parameters.any (fun parameter =>
          !session.inputs.isPresent parameter) then
        none
      else
        session.reading catalog scope depth env atom := by
  induction parameters with
  | nil =>
      simp [wrapOptionalAtom]
  | cons parameter parameters ih =>
      have hwrap :
          wrapOptionalAtom atom (parameter :: parameters) =
            .optional parameter (wrapOptionalAtom atom parameters) := rfl
      rw [hwrap, reading_optional, ih]
      cases hpresent : session.inputs.isPresent parameter <;> simp [hpresent]

/-- What a filter planned with nullable inputs denotes, against its plan with
required inputs: nothing if it is absent, else the same truth value. -/
def Denotes
    (absent : Bool)
    (filter : FilterExpr)
    (required : Option FilterExpr) : Prop :=
  if absent then
    ∀ scope depth env,
      session.reading catalog scope depth env filter = none
  else
    ∃ planned, required = some planned ∧
      ∀ scope depth env, ∃ value,
        session.reading catalog scope depth env filter = some value ∧
          session.reading catalog scope depth env planned = some value

/-- A filter that is lowered unconditionally denotes the same under both
plans. -/
theorem denotes_refl
    {filter : FilterExpr}
    (h : ∀ scope depth, ∃ value,
      conditionalFilterExpr catalog scope depth filter = .always value) :
    session.Denotes catalog false filter (some filter) := by
  refine ⟨filter, rfl, fun scope depth env => ?_⟩
  obtain ⟨value, hvalue⟩ := h scope depth
  have hreading := session.reading_of_always catalog scope depth env hvalue
  exact ⟨_, hreading, hreading⟩

theorem comparisonAtom_always
    {site : FilterSite}
    {left right atom : FilterExpr}
    {op : BinaryOp}
    {path : InputPath}
    (h : site.comparisonAtom left op right path = some atom)
    (scope : FilterSqlScope)
    (depth : Nat) :
    ∃ value,
      conditionalFilterExpr catalog scope depth atom = .always value := by
  cases op with
  | «variable» operator =>
      simp only [FilterSite.comparisonAtom, Option.some.injEq] at h
      subst h
      exact ⟨_, by simp [conditionalFilterExpr]; rfl⟩
  | comparison op =>
      simp only [FilterSite.comparisonAtom, Option.some.injEq] at h
      subst h
      cases op <;>
        exact ⟨_, by simp [conditionalFilterExpr, FilterOp.ofComparison]; rfl⟩
  | isIn | notIn | and | or =>
      simp [FilterSite.comparisonAtom] at h

/-- A comparison is absent when one of its operands is. -/
theorem binaryOrVariant_denotes
    {site : FilterSite}
    {left left' right right' filter : FilterExpr}
    {leftAbsent rightAbsent : Bool}
    {op : BinaryOp}
    {path : InputPath}
    (hop : isComparisonOperator op = true)
    (hleft : OperandPlan site.planner session.inputs.isPresent left left'
      leftAbsent)
    (hright : OperandPlan site.planner session.inputs.isPresent right right'
      rightAbsent)
    (h : site.binaryOrVariant left op right path = some filter) :
    session.Denotes catalog (leftAbsent || rightAbsent) filter
      (site.required.binaryOrVariant left' op right' path) := by
  rw [site.binaryOrVariant_comparison hop] at h
  have hleftAbsent := Planner.operandPlan_isAbsent _ _ hleft
  have hrightAbsent := Planner.operandPlan_isAbsent _ _ hright
  cases hskip :
      (FilterSite.isAbsent left || FilterSite.isAbsent right) with
  | true =>
      rw [hskip] at h
      simp only [if_true, Option.some.injEq] at h
      subst h
      have habsent : (leftAbsent || rightAbsent) = true := by
        rcases Bool.or_eq_true _ _ |>.mp hskip with hl | hr
        · simp [hleftAbsent.2 hl]
        · simp [hrightAbsent.2 hr]
      rw [habsent]
      intro scope depth env
      simp
  | false =>
      rw [hskip] at h
      simp only [Bool.false_eq_true, if_false] at h
      have hskip' := Bool.or_eq_false_iff.mp hskip
      have hl : left ≠ .absent := by
        rintro rfl
        simp [FilterSite.isAbsent] at hskip'
      have hr : right ≠ .absent := by
        rintro rfl
        simp [FilterSite.isAbsent] at hskip'
      obtain ⟨hl1, hlnamed, hlany⟩ :=
        site.planner.predicateAtomOperand_operandPlan _ hleft hl
      obtain ⟨hr1, hrnamed, hrany⟩ :=
        site.planner.predicateAtomOperand_operandPlan _ hright hr
      rw [hl1, hr1] at h
      obtain ⟨atom, hatom, hfilter⟩ := Option.map_eq_some_iff.mp h
      subst hfilter
      have hmerge := site.planner.mergeOptionalParameters_any hlnamed hrnamed
        (fun parameter => !session.inputs.isPresent parameter)
      rw [hlany, hrany] at hmerge
      have halways := comparisonAtom_always catalog hatom
      cases habsent : (leftAbsent || rightAbsent) with
      | true =>
          rw [habsent] at hmerge
          intro scope depth env
          rw [reading_wrapOptionalAtom, hmerge]
          rfl
      | false =>
          rw [habsent] at hmerge
          refine ⟨atom, ?_, fun scope depth env => ?_⟩
          · rw [site.required.binaryOrVariant_comparison hop, hleftAbsent.1,
              hrightAbsent.1, hskip]
            have hl2 : site.required.planner.predicateAtomOperand left' =
                (left', []) :=
              site.planner.predicateAtomOperand_required _ hleft
            have hr2 : site.required.planner.predicateAtomOperand right' =
                (right', []) :=
              site.planner.predicateAtomOperand_required _ hright
            rw [hl2, hr2]
            simp [hatom, Planner.mergeOptionalParameters, wrapOptionalAtom]
          · obtain ⟨value, hvalue⟩ := halways scope depth
            have hreading :=
              session.reading_of_always catalog scope depth env hvalue
            refine ⟨_, ?_, hreading⟩
            rw [reading_wrapOptionalAtom, hmerge]
            exact hreading

end Session

end Dsql
