import Dsql.Plan.PrunedComparisons

/-!
# Filter trees under nullable inputs

Planning followed by conditional lowering denotes the pruned tree: the truth
value of what remains after every atom with a null operand is deleted, and
nothing when no atom remains.
-/

namespace Dsql

open Logic

namespace FilterSite

variable
  {S : Type} [DecidableEq S] (session : Session S)
  (catalog : Catalog)
  (site : FilterSite)
  (context : ClauseContext)

theorem relationPredicateFilter_required_isSome
    (path : ScopedPath)
    {op : BinaryOp}
    (right : FilterExpr)
    (fieldPath : InputPath)
    (hop : isComparisonOperator op = true) :
    (site.required.relationPredicateFilter context path op right
        fieldPath).isSome =
      (site.relationPredicateFilter context path op right
        fieldPath).isSome := by
  have hcatalog :
      site.required.planner.catalog = site.planner.catalog := rfl
  unfold relationPredicateFilter
  simp only [hcatalog]
  split
  · split
    · rfl
    · split
      · simp [binaryOrVariant_isSome _ hop]
      · rfl
  · rfl

/-- A relation comparison whose operand is there denotes the comparison with
required inputs. -/
theorem relationPredicateFilter_reading
    {path : ScopedPath}
    {op : BinaryOp}
    {right filter : FilterExpr}
    {fieldPath : InputPath}
    (hop : isComparisonOperator op = true)
    (hright : ValuePlan site.planner session.inputs.isPresent right false)
    (h : site.relationPredicateFilter context path op right fieldPath =
      some filter) :
    ∃ planned,
      site.required.relationPredicateFilter context path op right fieldPath =
        some planned ∧
      ∀ scope depth env, ∃ value,
        session.reading catalog scope depth env filter = some value ∧
          session.reading catalog scope depth env planned = some value := by
  have hcatalog :
      site.required.planner.catalog = site.planner.catalog := rfl
  unfold relationPredicateFilter at h ⊢
  simp only [hcatalog] at h ⊢
  split at h
  · next hpath =>
      rw [if_pos hpath]
      split at h
      · simp at h
      · next hrelations =>
          rw [if_neg hrelations]
          split at h
          · next display table column valueType hterminal =>
              obtain ⟨atom, hatom, hfilter⟩ := Option.map_eq_some_iff.mp h
              subst hfilter
              have hleft : OperandPlan site.planner session.inputs.isPresent
                  (.column .current column) (.column .current column)
                  false := .value (.plain _ rfl)
              have hdenotes := session.binaryOrVariant_denotes catalog hop
                hleft (.value hright) hatom
              obtain ⟨planned, hplanned, hreading⟩ := hdenotes
              refine ⟨site.required.wrapRelationPredicate context path
                planned, ?_, ?_⟩
              · simp [hplanned]
              · simp only [wrapRelationPredicate_required]
                exact session.denotes_wrapRelationPredicate catalog site context
                  path hreading
          · simp at h
  · simp at h

theorem planRelationComparison_path
    {path : ScopedPath}
    {op : BinaryOp}
    {rhs : Expr}
    {operands : PlannedOperands}
    {fieldPath : InputPath}
    (hop : isComparisonOperator op = true)
    (hpath : site.predicatePath context path = some fieldPath) :
    site.planRelationComparison context op (.path path) rhs operands =
      match site.namedOperand fieldPath op rhs operands.rightOuter with
      | none => some none
      | some right =>
          if isAbsent right then
            some (some .absent)
          else
            (site.relationPredicateFilter context path op right
              fieldPath).map (fun filter =>
                some (site.optionalRelation right filter)) := by
  cases hnamed : site.namedOperand fieldPath op rhs operands.rightOuter <;>
    simp [planRelationComparison, hop, hpath, hnamed]

/-- A comparison from a relation path, planned by its steps. -/
theorem planRelationComparison_denotes
    {path : ScopedPath}
    {op : BinaryOp}
    {rhs : Expr}
    {fieldPath : InputPath}
    {operands required : PlannedOperands}
    {filter : FilterExpr}
    (hop : isComparisonOperator op = true)
    (hrhs : rhs.isOperand = true)
    (hpath : site.predicatePath context path = some fieldPath)
    (hright : operands.rightOuter = site.planFilterExpr context true rhs)
    (hrequired : required.rightOuter =
      site.required.planFilterExpr context true rhs)
    (h : site.planRelationComparison context op (.path path) rhs operands =
      some (some filter)) :
    ∃ result,
      site.required.planRelationComparison context op (.path path) rhs
          required = some result ∧
        session.Denotes catalog
          (site.operandIsAbsent session.inputs.isPresent (some fieldPath) op
            rhs)
          filter result := by
  have hpath' : site.required.predicatePath context path = some fieldPath := hpath
  rw [planRelationComparison_path _ _ hop hpath, hright] at h
  rw [planRelationComparison_path _ _ hop hpath', hrequired]
  cases hnamed : site.namedOperand fieldPath op rhs
      (site.planFilterExpr context true rhs) with
  | none => simp [hnamed] at h
  | some right =>
      rw [hnamed] at h
      obtain ⟨hnamed', hvalue⟩ := site.namedOperand_plan
        session.inputs.isPresent context hrhs hnamed
      rw [hnamed']
      simp only at h ⊢
      split at h
      · next habsent =>
          rw [if_pos habsent]
          simp only [Option.some.injEq] at h
          subst h
          have hflag := (Planner.operandPlan_isAbsent _ _
            (.value hvalue)).2 habsent
          rw [hflag]
          refine ⟨_, rfl, fun scope depth env => ?_⟩
          simp
      · next habsent =>
          rw [if_neg habsent]
          obtain ⟨inner, hinner, hfilter⟩ := Option.map_eq_some_iff.mp h
          simp only [Option.some.injEq] at hfilter
          have hsome := site.relationPredicateFilter_required_isSome context
            path right fieldPath hop
          rw [hinner] at hsome
          obtain ⟨inner', hinner'⟩ := Option.isSome_iff_exists.mp hsome
          rw [hinner']
          refine ⟨_, rfl, ?_⟩
          cases hflag : site.operandIsAbsent session.inputs.isPresent
              (some fieldPath) op rhs with
          | true =>
              rw [hflag] at hvalue
              intro scope depth env
              -- Only a null parameter is absent here.
              generalize htrue : true = absent at hvalue
              cases hvalue with
              | absent => simp [isAbsent] at habsent
              | parameter valuePath =>
                  have hand := Bool.and_eq_true _ _ |>.mp htrue.symm
                  have hmissing : session.inputs.isPresent
                      (site.planner.sqlParameter valuePath) = false := by
                    simpa using hand.2
                  rw [← hfilter]
                  simp [optionalRelation, Planner.optionalFilter, hand.1, hmissing]
              | plain _ _ => cases htrue
          | false =>
              rw [hflag] at hvalue
              obtain ⟨planned, hplanned, hreading⟩ :=
                site.relationPredicateFilter_reading session catalog context
                  hop hvalue hinner
              rw [hinner'] at hplanned
              cases hplanned
              refine ⟨_, rfl, fun scope depth env => ?_⟩
              obtain ⟨value, hvalueInner, hvaluePlanned⟩ :=
                hreading scope depth env
              refine ⟨value, ?_, ?_⟩
              · rw [← hfilter]
                generalize hfalse : false = absent at hvalue
                cases hvalue with
                | absent => cases hfalse
                | parameter valuePath =>
                    cases hnullable :
                        site.planner.variableIsNullable valuePath with
                    | false =>
                        simp [optionalRelation, Planner.optionalFilter,
                          hnullable, hvalueInner]
                    | true =>
                        have hpresent : session.inputs.isPresent
                            (site.planner.sqlParameter valuePath) = true := by
                          simpa [hnullable] using hfalse
                        simp [optionalRelation, Planner.optionalFilter,
                          hnullable, hpresent, hvalueInner]
                | plain _ hplain =>
                    cases right <;>
                      simp_all [FilterExpr.isPlainOperand, optionalRelation]
              · cases right <;>
                  simp [hvaluePlanned, FilterSite.required, optionalRelation]

theorem planRelationComparison_not_path
    {op : BinaryOp}
    {lhs rhs : Expr}
    {operands : PlannedOperands}
    (hlhs : ∀ path fieldPath, lhs = .path path →
      site.predicatePath context path ≠ some fieldPath) :
    site.planRelationComparison context op lhs rhs operands = none := by
  unfold planRelationComparison
  split
  · next path =>
      split
      · cases hpath : site.predicatePath context path with
        | none => rfl
        | some fieldPath => exact absurd hpath (hlhs path fieldPath rfl)
      · rfl
  · rfl

/-- The planner that requires its inputs falls back to plain operands where
the other one does. -/
theorem planRelationComparison_required_none
    {op : BinaryOp}
    {lhs rhs : Expr}
    {operands required : PlannedOperands}
    (hop : isComparisonOperator op = true)
    (hrhs : rhs.isOperand = true)
    (hright : operands.rightOuter = site.planFilterExpr context true rhs)
    (hrequired : required.rightOuter =
      site.required.planFilterExpr context true rhs)
    (h : site.planRelationComparison context op lhs rhs operands = none) :
    site.required.planRelationComparison context op lhs rhs required =
      none := by
  by_cases hlhs : ∃ path fieldPath, lhs = .path path ∧
      site.predicatePath context path = some fieldPath
  · obtain ⟨path, fieldPath, rfl, hpath⟩ := hlhs
    have hpath' : site.required.predicatePath context path =
        some fieldPath := hpath
    rw [planRelationComparison_path _ _ hop hpath, hright] at h
    rw [planRelationComparison_path _ _ hop hpath', hrequired]
    cases hnamed : site.namedOperand fieldPath op rhs
        (site.planFilterExpr context true rhs) with
    | none => simp [hnamed] at h
    | some right =>
        rw [hnamed] at h
        obtain ⟨hnamed', _⟩ := site.namedOperand_plan
          (fun _ => true) context hrhs hnamed
        rw [hnamed']
        simp only at h ⊢
        split at h
        · simp at h
        · next habsent =>
            rw [if_neg habsent]
            have hsome := site.relationPredicateFilter_required_isSome
              context path right fieldPath hop
            simp only [Option.map_eq_none_iff] at h ⊢
            rw [h] at hsome
            simpa using hsome
  · refine site.required.planRelationComparison_not_path context ?_
    intro path fieldPath heq hpath
    exact hlhs ⟨path, fieldPath, heq, hpath⟩

/-- Operands planned as they stand. -/
theorem planPlainComparison_unnamed
    {outer : Bool}
    {op : BinaryOp}
    {lhs rhs : Expr}
    {operands : PlannedOperands}
    (hunnamed : ∀ path reference fieldPath, lhs = .path path →
      rhs = .variable reference →
      site.predicateValuePath context lhs ≠ some fieldPath) :
    site.planPlainComparison context outer op lhs rhs operands =
      (do
        let left ← operands.left
        let right ← operands.right
        site.binaryOrVariant left op right
          (((site.predicateValuePath context lhs).or
            (site.predicateValuePath context rhs)).getD ["operator"])) := by
  unfold planPlainComparison
  split
  · next path reference fieldPath hpath =>
      exact absurd hpath (hunnamed path reference fieldPath rfl rfl)
  · rfl

/-- Operands planned as they stand, apart from a variable beside a path. -/
theorem planPlainComparison_denotes
    {outer : Bool}
    {op : BinaryOp}
    {lhs rhs : Expr}
    {operands required : PlannedOperands}
    {filter : FilterExpr}
    (hop : isComparisonOperator op = true)
    (hlhs : lhs.isOperand = true)
    (hrhs : rhs.isOperand = true)
    (hlhsPath : lhs.isAggregate = true →
      site.predicateValuePath context lhs = none)
    (hrhsPath : rhs.isAggregate = true →
      site.predicateValuePath context rhs = none)
    (hleft : operands.left = site.planFilterExpr context outer lhs)
    (hright : operands.right = site.planFilterExpr context outer rhs)
    (hleft' : required.left = site.required.planFilterExpr context outer lhs)
    (hright' : required.right =
      site.required.planFilterExpr context outer rhs)
    (h : site.planPlainComparison context outer op lhs rhs operands =
      some filter) :
    session.Denotes catalog
      (site.atomIsAbsent session.inputs.isPresent context op lhs rhs) filter
      (site.required.planPlainComparison context outer op lhs rhs
        required) := by
  have hleftPath : site.leftOperandPath context rhs = none := by
    cases rhs <;> first | rfl | exact hrhsPath rfl
  by_cases hnamed : ∃ path reference fieldPath, lhs = .path path ∧
      rhs = .variable reference ∧
      site.predicateValuePath context lhs = some fieldPath
  · obtain ⟨path, reference, fieldPath, rfl, rfl, hpath⟩ := hnamed
    have hpath' : site.required.predicateValuePath context (.path path) =
        some fieldPath := by simpa using hpath
    simp only [planPlainComparison, hpath] at h
    simp only [planPlainComparison, hpath']
    cases hl : site.planFilterPath context outer path with
    | none => simp [hl] at h
    | some left =>
        cases hr : site.planValueVariable fieldPath op reference with
        | none => simp [hl, hr] at h
        | some right =>
            simp only [hl, hr, Option.bind_eq_bind, Option.bind_some] at h
            have hleftPlan : OperandPlan site.planner
                session.inputs.isPresent left left false :=
              .value (.plain left (site.planFilterPath_plain context hl))
            have hrightPlan := site.planValueVariable_plan
              session.inputs.isPresent hr
            have hdenotes := session.binaryOrVariant_denotes catalog hop
              hleftPlan (.value hrightPlan) h
            have habsent :
                site.atomIsAbsent session.inputs.isPresent context op
                    (.path path) (.variable reference) =
                  (false || site.operandIsAbsent session.inputs.isPresent
                    (some fieldPath) op (.variable reference)) := by
              simp [atomIsAbsent, operandIsAbsent, hpath]
            rw [habsent]
            simpa [hl, hr] using hdenotes
  · have hsite : ∀ path reference fieldPath, lhs = .path path →
        rhs = .variable reference →
        site.predicateValuePath context lhs ≠ some fieldPath :=
      fun path reference fieldPath hl hr hpath =>
        hnamed ⟨path, reference, fieldPath, hl, hr, hpath⟩
    rw [planPlainComparison_unnamed _ _ hsite, hleft, hright] at h
    rw [planPlainComparison_unnamed _ _ (by simpa using hsite), hleft',
      hright']
    cases hl : site.planFilterExpr context outer lhs with
    | none => simp [hl] at h
    | some left =>
        cases hr : site.planFilterExpr context outer rhs with
        | none => simp [hl, hr] at h
        | some right =>
            simp only [hl, hr, Option.bind_eq_bind, Option.bind_some] at h
            obtain ⟨left', hl', hleftPlan⟩ := site.planFilterExpr_operandPlan
              session.inputs.isPresent context op hlhs hl
            obtain ⟨right', hr', hrightPlan⟩ :=
              site.planFilterExpr_operandPlan session.inputs.isPresent
                context op hrhs hr
            have hdenotes := session.binaryOrVariant_denotes catalog hop
              hleftPlan hrightPlan h
            have hrightAbsent :
                site.operandIsAbsent session.inputs.isPresent
                    (site.predicateValuePath context lhs) op rhs =
                  site.operandIsAbsent session.inputs.isPresent none op
                    rhs := by
              cases rhs with
              | «variable» reference =>
                  cases lhs with
                  | path path =>
                      cases hpath : site.predicateValuePath context
                          (.path path) with
                      | none => rfl
                      | some fieldPath =>
                          exact absurd hpath
                            (hsite path reference fieldPath rfl rfl)
                  | aggregate source function operand =>
                      rw [hlhsPath rfl]
                  | _ => rfl
              | _ => rfl
            unfold atomIsAbsent
            rw [hleftPath, hrightAbsent]
            simpa [hl', hr'] using hdenotes

end FilterSite

end Dsql
