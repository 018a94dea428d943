import Dsql.Plan.PrunedTrees

/-!
# Structural pruning is exact

The induction over a filter tree.  Every atom denotes nothing when one of its
nullable operands is null; connectives join what their operands denote; the
body of an `exists` is a filter tree of its own.
-/

namespace Dsql

open Logic

namespace FilterSite

variable
  {S : Type} [DecidableEq S] (session : Session S)
  (catalog : Catalog)
  (site : FilterSite)

section Atoms

variable (context : ClauseContext)

omit [DecidableEq S] in
/-- An operand of a comparison with an aggregate. -/
theorem planAggregateComparisonOperand_plan
    {fieldPath : InputPath}
    {op : BinaryOp}
    {operand : Expr}
    {filter : FilterExpr}
    (hoperand : operand.isOperand = true)
    (h : site.planAggregateComparisonOperand context fieldPath op
      (site.planFilterExpr context true operand) operand = some filter) :
    site.required.planAggregateComparisonOperand context fieldPath op
        (site.required.planFilterExpr context true operand) operand =
          some filter ∧
      ValuePlan site.planner session.inputs.isPresent filter
        (site.operandIsAbsent session.inputs.isPresent (some fieldPath) op
          operand) := by
  cases operand with
  | aggregate source function argument =>
      have hplan : site.planPredicateAggregate context source function
          argument = some filter := h
      refine ⟨?_, .plain filter
        (site.planPredicateAggregate_plain context hplan)⟩
      simpa [planAggregateComparisonOperand] using hplan
  | «variable» reference =>
      have hplan : site.planValueVariable fieldPath op reference =
          some filter := h
      refine ⟨?_, site.planValueVariable_plan _ hplan⟩
      simpa [planAggregateComparisonOperand] using hplan
  | path path =>
      have hplan : site.planFilterExpr context true (.path path) =
          some filter := h
      obtain ⟨hrequired, hplain⟩ := site.planFilterExpr_plain context
        hoperand (fun _ heq => by cases heq) hplan
      exact ⟨hrequired, .plain filter hplain⟩
  | literal value =>
      have hplan : site.planFilterExpr context true (.literal value) =
          some filter := h
      obtain ⟨hrequired, hplain⟩ := site.planFilterExpr_plain context
        hoperand (fun _ heq => by cases heq) hplan
      exact ⟨hrequired, .plain filter hplain⟩
  | _ => simp [Expr.isOperand] at hoperand

theorem planOperands_denotes
    {outer : Bool}
    {op : BinaryOp}
    {lhs rhs : Expr}
    {filter : FilterExpr}
    (hop : isComparisonOperator op = true)
    (hlhs : lhs.isOperand = true)
    (hrhs : rhs.isOperand = true)
    (hlhsPath : lhs.isAggregate = true →
      site.predicateValuePath context lhs = none)
    (hrhsPath : rhs.isAggregate = true →
      site.predicateValuePath context rhs = none)
    (h : site.planOperands context outer op lhs rhs = some filter) :
    session.Denotes catalog
      (site.atomIsAbsent session.inputs.isPresent context op lhs rhs) filter
      (site.required.planOperands context outer op lhs rhs) := by
  unfold planOperands at h ⊢
  cases hrelation : site.planRelationComparison context op lhs rhs
      (site.plannedOperands context outer lhs rhs) with
  | none =>
      rw [hrelation] at h
      have hrequired :
          site.required.planRelationComparison context op lhs rhs
            (site.required.plannedOperands context outer lhs rhs) = none :=
        site.planRelationComparison_required_none context hop hrhs rfl rfl
          hrelation
      rw [hrequired]
      exact site.planPlainComparison_denotes session catalog context hop
        hlhs hrhs hlhsPath hrhsPath rfl rfl rfl rfl h
  | some result =>
      rw [hrelation] at h
      simp only at h
      subst h
      by_cases hpath : ∃ path fieldPath, lhs = .path path ∧
          site.predicatePath context path = some fieldPath
      · obtain ⟨path, fieldPath, rfl, hpath⟩ := hpath
        have hright :
            (site.required.plannedOperands context outer (.path path)
              rhs).rightOuter =
              site.required.planFilterExpr context true rhs := rfl
        obtain ⟨result, hrequired, hdenotes⟩ :=
          site.planRelationComparison_denotes session catalog context hop
            hrhs hpath rfl hright hrelation
        rw [hrequired]
        have habsent :
            site.atomIsAbsent session.inputs.isPresent context op
                (.path path) rhs =
              site.operandIsAbsent session.inputs.isPresent
                (some fieldPath) op rhs := by
          have hvalue : site.predicateValuePath context (.path path) =
              some fieldPath := hpath
          simp [atomIsAbsent, operandIsAbsent, hvalue]
        rw [habsent]
        exact hdenotes
      · have hnone :
            site.planRelationComparison context op lhs rhs
              (site.plannedOperands context outer lhs rhs) = none :=
          site.planRelationComparison_not_path context
            (fun path fieldPath heq heq' =>
              hpath ⟨path, fieldPath, heq, heq'⟩)
        rw [hnone] at hrelation
        cases hrelation

/-- The aggregate of a comparison that names its variables. -/
theorem planBinary_aggregate
    {outer : Bool}
    {op : ComparisonOp}
    {lhs rhs : Expr}
    {fieldPath : InputPath}
    (hagg : (lhs.isAggregate || rhs.isAggregate) = true)
    (hpath : site.predicateValuePath context
      (if lhs.isAggregate then lhs else rhs) = some fieldPath) :
    site.planBinary context outer (.comparison op) lhs rhs
        (site.plannedOperands context outer lhs rhs) =
      (do
        let left ← site.planAggregateComparisonOperand context fieldPath
          (.comparison op) (site.planFilterExpr context true lhs) lhs
        let right ← site.planAggregateComparisonOperand context fieldPath
          (.comparison op) (site.planFilterExpr context true rhs) rhs
        site.binaryOrVariant left (.comparison op) right fieldPath) := by
  simp only [planBinary, hagg, if_true, hpath, plannedOperands]

theorem planBinary_unnamed
    {outer : Bool}
    {op : ComparisonOp}
    {lhs rhs : Expr}
    (hagg : (lhs.isAggregate || rhs.isAggregate) = true)
    (hpath : site.predicateValuePath context
      (if lhs.isAggregate then lhs else rhs) = none) :
    site.planBinary context outer (.comparison op) lhs rhs
        (site.plannedOperands context outer lhs rhs) =
      site.planOperands context outer (.comparison op) lhs rhs := by
  simp only [planBinary, hagg, if_true, hpath]
  rfl

theorem planPredicateAggregate_unnamed
    {source : ScopedPath}
    {function : String}
    {operand : Option ScopedPath}
    (hpath : site.predicateValuePath context
      (.aggregate source function operand) = none) :
    site.planPredicateAggregate context source function operand = none := by
  unfold planPredicateAggregate
  unfold predicateValuePath ResolvedPredicateAggregate.displayPath at hpath
  simp only at hpath ⊢
  generalize resolvePredicateAggregate site.planner.catalog context source
    function operand = aggregate at hpath ⊢
  obtain ⟨relation, function, operand, dataType, nullable, problems⟩ :=
    aggregate
  cases relation with
  | none => simp
  | some relation =>
      cases function with
      | none => simp
      | some function => simp at hpath

/-- An aggregate without a name has no plan of its own. -/
theorem planFilterExpr_aggregate_unnamed
    (outer : Bool)
    {operand : Expr}
    (hagg : operand.isAggregate = true)
    (hpath : site.predicateValuePath context operand = none) :
    site.planFilterExpr context outer operand = none := by
  cases operand with
  | aggregate source function argument =>
      simp only [planFilterExpr]
      split
      · exact site.planPredicateAggregate_unnamed context hpath
      · rfl
  | _ => cases hagg

/-- A comparison is absent exactly when one of its nullable operands is
null. -/
theorem planComparison_denotes
    {outer : Bool}
    {op : BinaryOp}
    {lhs rhs : Expr}
    {filter : FilterExpr}
    (hop : isComparisonOperator op = true)
    (hlhs : lhs.isOperand = true)
    (hrhs : rhs.isOperand = true)
    (h : site.planFilterExpr context outer (.binary op lhs rhs) =
      some filter) :
    session.Denotes catalog
      (site.atomIsAbsent session.inputs.isPresent context op lhs rhs) filter
      (site.required.planFilterExpr context outer (.binary op lhs rhs)) := by
  rw [planFilterExpr_comparison _ _ hop] at h ⊢
  cases hagg : (lhs.isAggregate || rhs.isAggregate) with
  | false =>
      rw [planBinary_plain _ _ hagg] at h ⊢
      have hnone := Bool.or_eq_false_iff.mp hagg
      exact site.planOperands_denotes session catalog context hop hlhs hrhs
        (fun heq => by rw [hnone.1] at heq; cases heq)
        (fun heq => by rw [hnone.2] at heq; cases heq) h
  | true =>
      cases op with
      | «variable» operator =>
          simp [planBinary, hagg] at h
      | comparison op =>
          cases hpath : site.predicateValuePath context
              (if lhs.isAggregate then lhs else rhs) with
          | none =>
              rw [planBinary_unnamed _ _ hagg hpath] at h
              rw [planBinary_unnamed _ _ hagg (by simpa using hpath)]
              refine site.planOperands_denotes session catalog context hop
                hlhs hrhs (fun hl => by simpa [hl] using hpath) ?_ h
              intro hr
              cases hl : lhs.isAggregate with
              | false => simpa [hl] using hpath
              | true =>
                  -- An unnamed left aggregate leaves nothing planned.
                  have hunnamed := site.planFilterExpr_aggregate_unnamed
                    context outer hl (by simpa [hl] using hpath)
                  exfalso
                  cases lhs with
                  | aggregate source function argument =>
                      simp [planOperands, planRelationComparison,
                        planPlainComparison, plannedOperands,
                        hunnamed] at h
                  | _ => cases hl
          | some fieldPath =>
              rw [planBinary_aggregate _ _ hagg hpath] at h
              rw [planBinary_aggregate _ _ hagg (by simpa using hpath)]
              cases hl : site.planAggregateComparisonOperand context
                  fieldPath (.comparison op)
                  (site.planFilterExpr context true lhs) lhs with
              | none => simp [hl] at h
              | some left =>
                  cases hr : site.planAggregateComparisonOperand context
                      fieldPath (.comparison op)
                      (site.planFilterExpr context true rhs) rhs with
                  | none => simp [hl, hr] at h
                  | some right =>
                      simp only [hl, hr, Option.bind_eq_bind,
                        Option.bind_some] at h
                      obtain ⟨hl', hleft⟩ :=
                        site.planAggregateComparisonOperand_plan session
                          context hlhs hl
                      obtain ⟨hr', hright⟩ :=
                        site.planAggregateComparisonOperand_plan session
                          context hrhs hr
                      have hdenotes := session.binaryOrVariant_denotes
                        catalog hop (.value hleft) (.value hright) h
                      have habsent :
                          site.atomIsAbsent session.inputs.isPresent context
                              (.comparison op) lhs rhs =
                            (site.operandIsAbsent session.inputs.isPresent
                                (some fieldPath) (.comparison op) lhs ||
                              site.operandIsAbsent session.inputs.isPresent
                                (some fieldPath) (.comparison op) rhs) := by
                        unfold atomIsAbsent
                        congr 1
                        · cases lhs with
                          | «variable» reference =>
                              cases rhs with
                              | aggregate source function argument =>
                                  have hpath' : site.predicateValuePath
                                      context (.aggregate source function
                                        argument) = some fieldPath := hpath
                                  simp only [leftOperandPath, hpath']
                              | _ => cases hagg
                          | _ => rfl
                        · cases rhs with
                          | «variable» reference =>
                              cases lhs with
                              | aggregate source function argument =>
                                  have hpath' : site.predicateValuePath
                                      context (.aggregate source function
                                        argument) = some fieldPath := hpath
                                  rw [hpath']
                              | _ => cases hagg
                          | _ => rfl
                      rw [habsent]
                      simpa [hl', hr'] using hdenotes
      | isIn | notIn | and | or => simp [isComparisonOperator] at hop

theorem planFilterItems_literals
    {outer : Bool}
    {items : List Expr}
    (h : items.all Expr.isLiteral = true) :
    site.required.planFilterItems context outer items =
      site.planFilterItems context outer items := by
  induction items with
  | nil => rfl
  | cons item items ih =>
      simp only [List.all_cons, Bool.and_eq_true] at h
      cases item with
      | literal value => simp only [planFilterItems, planFilterExpr, ih h.2]
      | _ => simp [Expr.isLiteral] at h

/-- Membership in a collection that a wrapped relation path reads. -/
theorem reading_membership
    (path : ScopedPath)
    (operand : FilterExpr)
    (collection : FilterCollection FilterExpr)
    (negated : Bool)
    (scope : FilterSqlScope)
    (depth : Nat)
    (env : Env S) :
    ∃ value,
      session.reading catalog scope depth env
        (site.wrapRelationPredicate context path
          (.membership operand collection negated)) = some value := by
  have hatom : ∀ scope depth env, ∃ value,
      session.reading catalog scope depth env
          (.membership operand collection negated) = some value ∧
        session.reading catalog scope depth env
          (.membership operand collection negated) = some value := by
    intro scope depth env
    cases collection <;>
      simp [Session.reading, conditionalFilterExpr]
  obtain ⟨value, hvalue, _⟩ := session.denotes_wrapRelationPredicate catalog
    site context path hatom scope depth env
  exact ⟨value, hvalue⟩

/-- A membership test is absent exactly when its collection input is null. -/
theorem planMembership_denotes
    {outer : Bool}
    {op : BinaryOp}
    {lhs rhs : Expr}
    {items : Option (List FilterExpr)}
    {filter : FilterExpr}
    (h : site.planMembership context outer op lhs rhs items = some filter) :
    session.Denotes catalog
      (site.atomIsAbsent session.inputs.isPresent context op lhs rhs) filter
      (site.required.planMembership context outer op lhs rhs items) := by
  cases lhs with
  | path path =>
      simp only [planMembership] at h ⊢
      rw [predicatePath_required, planPredicateOperandPath_required]
      cases hpath : site.predicatePath context path with
      | none => simp [hpath] at h
      | some fieldPath =>
          have habsent :
              site.atomIsAbsent session.inputs.isPresent context op
                  (.path path) rhs =
                site.operandIsAbsent session.inputs.isPresent
                  (some fieldPath) op rhs := by
            have hvalue : site.predicateValuePath context (.path path) =
                some fieldPath := hpath
            simp [atomIsAbsent, operandIsAbsent, hvalue]
          rw [habsent]
          cases hoperand : site.planPredicateOperandPath context outer
              (.path path) with
          | none => simp [hpath, hoperand] at h
          | some operand =>
              simp only [hpath, hoperand, Option.bind_eq_bind,
                Option.bind_some] at h ⊢
              have hreading (collection : FilterCollection FilterExpr) :=
                site.reading_membership session catalog context path operand
                  collection (op == .notIn)
              -- A listed collection does not depend on an input.
              have hlisted (listed : List FilterExpr)
                  (hfilter : filter = site.wrapRelationPredicate context path
                    (.membership operand (.list listed) (op == .notIn))) :
                  session.Denotes catalog false filter
                    (some (site.required.wrapRelationPredicate context path
                      (.membership operand (.list listed)
                        (op == .notIn)))) := by
                subst hfilter
                refine ⟨_, rfl, fun scope depth env => ?_⟩
                obtain ⟨value, hvalue⟩ := hreading (.list listed) scope depth
                  env
                exact ⟨value, hvalue, by simpa using hvalue⟩
              cases rhs with
              | list written =>
                  cases items with
                  | none => simp [planCollection] at h
                  | some listed =>
                      simp only [planCollection, Option.map_some,
                        Option.bind_some, Option.some.injEq] at h ⊢
                      exact hlisted listed h.symm
              | «variable» reference =>
                  have hcollection (site : FilterSite) :
                      site.planCollection fieldPath op items
                          (.variable reference) =
                        site.planCollectionValue
                          (whereVariableValue site.selectionPath
                            site.variableScope fieldPath op reference) := rfl
                  have habsent :
                      site.operandIsAbsent session.inputs.isPresent
                          (some fieldPath) op (.variable reference) =
                        site.valueIsAbsent session.inputs.isPresent
                          (whereVariableValue site.selectionPath
                            site.variableScope fieldPath op reference) := rfl
                  have hvalue :
                      whereVariableValue site.required.selectionPath
                          site.required.variableScope fieldPath op
                          reference =
                        whereVariableValue site.selectionPath
                          site.variableScope fieldPath op reference := rfl
                  rw [hcollection] at h
                  rw [habsent, hcollection, hvalue,
                    planCollectionValue_required]
                  cases hread : whereVariableValue site.selectionPath
                      site.variableScope fieldPath op reference with
                  | value valuePath =>
                      simp only [hread, planCollectionValue,
                        Option.bind_some, Option.some.injEq] at h ⊢
                      subst h
                      cases hflag : site.valueIsAbsent
                          session.inputs.isPresent (.value valuePath) with
                      | true =>
                          have hand := Bool.and_eq_true _ _ |>.mp hflag
                          have hmissing : session.inputs.isPresent
                              (site.planner.sqlParameter valuePath) =
                                false := by
                            simpa using hand.2
                          intro scope depth env
                          simp [Planner.optionalFilter, hand.1, hmissing]
                      | false =>
                          refine ⟨_, rfl, fun scope depth env => ?_⟩
                          obtain ⟨value, hvalue⟩ := hreading
                            (.parameter (site.planner.sqlParameter valuePath))
                            scope depth env
                          refine ⟨value, ?_, ?_⟩
                          · cases hnullable :
                              site.planner.variableIsNullable valuePath with
                            | false =>
                                simpa [Planner.optionalFilter, hnullable]
                                  using hvalue
                            | true =>
                                have hpresent : session.inputs.isPresent
                                    (site.planner.sqlParameter valuePath) =
                                      true := by
                                  simpa [valueIsAbsent, hnullable] using hflag
                                simpa [Planner.optionalFilter, hnullable,
                                  hpresent] using hvalue
                          · have hoptional (inner : FilterExpr) :
                                site.required.planner.optionalFilter
                                  valuePath inner = inner :=
                              site.planner.optionalFilter_required valuePath
                                inner
                            simpa [hoptional] using hvalue
                  | default value =>
                      rw [hread] at h
                      cases value with
                      | null =>
                          simp only [planCollectionValue, Option.bind_some,
                            Option.some.injEq] at h
                          subst h
                          intro scope depth env
                          simp
                      | collection defaults =>
                          cases hdefaults :
                              defaults.mapM inputDefaultFilter with
                          | none => simp [planCollectionValue, hdefaults] at h
                          | some listed =>
                              simp only [planCollectionValue, hdefaults,
                                Option.map_some, Option.bind_some,
                                Option.some.injEq] at h ⊢
                              exact hlisted listed h.symm
                      | string value | number value | boolean value |
                        emptyObject =>
                          simp [planCollectionValue] at h
              | _ => simp [planCollection] at h
  | _ => simp [planMembership] at h

end Atoms

end FilterSite

end Dsql
