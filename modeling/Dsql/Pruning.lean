import Dsql.Check.Clause
import Dsql.Plan.Supported

/-!
# The truth value of a pruned filter

For every assignment of the inputs and every row, the SQL expression of a
planned filter tree has the truth value of the pruned tree in three-valued
logic.
-/

namespace Dsql

open Logic

/-- The truth value of a tree of connectives over atoms. -/
def Expr.treeTruth (atom : Expr → Truth) : Expr → Truth
  | .binary .and lhs rhs => (treeTruth atom lhs).and (treeTruth atom rhs)
  | .binary .or lhs rhs => (treeTruth atom lhs).or (treeTruth atom rhs)
  | .unary _ operand => (treeTruth atom operand).not
  | expr => atom expr

namespace FilterSite

variable
  {S : Type} [DecidableEq S] (session : Session S)
  (catalog : Catalog)
  (site : FilterSite)

/-- The truth value of one atom, planned with required inputs. -/
def atomTruth
    (context : ClauseContext)
    (outer : Bool)
    (scope : FilterSqlScope)
    (depth : Nat)
    (env : Env S)
    (atom : Expr) : Truth :=
  match site.required.planFilterExpr context outer atom with
  | some filter =>
      (session.eval env (filterExpr catalog scope depth filter)).truth
  | none => .unknown

/-- A planned filter denotes what remains of its tree, which has a plan with
required inputs. -/
def DenotesPruned
    (context : ClauseContext)
    (outer : Bool)
    (filter : FilterExpr) : Option Expr → Prop
  | none =>
      ∀ scope depth env,
        session.reading catalog scope depth env filter = none
  | some kept =>
      ∃ planned,
        site.required.planFilterExpr context outer kept = some planned ∧
        ∀ scope depth env,
          session.reading catalog scope depth env filter =
              some (kept.treeTruth (site.atomTruth session catalog context
                outer scope depth env)) ∧
            session.reading catalog scope depth env planned =
              some (kept.treeTruth (site.atomTruth session catalog context
                outer scope depth env))

/-- An atom stays or goes as a whole. -/
theorem denotesPruned_of_denotes
    {context : ClauseContext}
    {outer absent : Bool}
    {atom : Expr}
    {filter : FilterExpr}
    (hatom : ∀ value, atom.treeTruth value = value atom)
    (h : session.Denotes catalog absent filter
      (site.required.planFilterExpr context outer atom)) :
    site.DenotesPruned session catalog context outer filter
      (if absent then none else some atom) := by
  cases absent with
  | true => exact h
  | false =>
      obtain ⟨planned, hplanned, hreading⟩ := h
      refine ⟨planned, hplanned, fun scope depth env => ?_⟩
      obtain ⟨value, hfilter, hvalue⟩ := hreading scope depth env
      have htruth :
          atom.treeTruth (site.atomTruth session catalog context outer scope
            depth env) = value := by
        rw [hatom]
        unfold atomTruth
        rw [hplanned]
        simp only
        rw [session.truth_filterExpr, hvalue]
        rfl
      rw [htruth]
      exact ⟨hfilter, hvalue⟩

section Trees

variable {context : ClauseContext} {outer : Bool}

/-- Pruning leaves no bare field behind. -/
theorem prune_not_path
    {present : SqlParameter → Bool}
    {tree kept : Expr}
    (htree : tree.isFilterTree = true)
    (h : site.prune present context tree = some kept)
    (path : ScopedPath) :
    kept ≠ .path path := by
  induction tree generalizing kept with
  | binary op lhs rhs ihlhs ihrhs =>
      have hjoin (op : BinaryOp) (hlhs : lhs.isFilterTree = true)
          (hrhs : rhs.isFilterTree = true)
          (h : joinTrees op (site.prune present context lhs)
            (site.prune present context rhs) = some kept) :
          kept ≠ .path path := by
        cases hl : site.prune present context lhs with
        | none =>
            rw [hl] at h
            exact ihrhs hrhs (by simpa [joinTrees] using h)
        | some left =>
            cases hr : site.prune present context rhs with
            | none =>
                rw [hl, hr] at h
                exact ihlhs hlhs (by rw [hl]; simpa [joinTrees] using h)
            | some right =>
                rw [hl, hr] at h
                simp only [joinTrees, Option.some.injEq] at h
                subst h
                simp
      cases op with
      | and =>
          simp only [Expr.isFilterTree, Bool.and_eq_true] at htree
          exact hjoin .and htree.1 htree.2 (by simpa only [prune] using h)
      | or =>
          simp only [Expr.isFilterTree, Bool.and_eq_true] at htree
          exact hjoin .or htree.1 htree.2 (by simpa only [prune] using h)
      | comparison _ | isIn | notIn | «variable» _ =>
          simp only [prune] at h
          split at h
          · cases h
          · cases h
            simp
  | unary op operand ih =>
      simp only [prune, Option.map_eq_some_iff] at h
      obtain ⟨inner, _, rfl⟩ := h
      simp
  | variable_ reference =>
      simp only [prune] at h
      split at h
      · cases h
      · cases h
        simp
  | path written =>
      simp [Expr.isFilterTree] at htree
  | exists_ source filters predicate =>
      simp only [prune, Option.some.injEq] at h
      subst h
      simp
  | _ =>
      simp only [prune, Option.some.injEq] at h
      subst h
      simp

/-- A conjunction denotes the conjunction of what remains of its operands. -/
theorem denotesPruned_and
    {left right : FilterExpr}
    {lhs rhs : Option Expr}
    (hleft : site.DenotesPruned session catalog context outer left lhs)
    (hright : site.DenotesPruned session catalog context outer right rhs)
    (hlhs : ∀ kept path, lhs = some kept → kept ≠ .path path) :
    site.DenotesPruned session catalog context outer
      (.binary left .and right) (joinTrees .and lhs rhs) := by
  cases lhs with
  | none =>
      cases rhs with
      | none =>
          intro scope depth env
          rw [session.reading_and, hleft, hright]
          rfl
      | some right' =>
          obtain ⟨planned, hplanned, hreading⟩ := hright
          refine ⟨planned, hplanned, fun scope depth env => ?_⟩
          obtain ⟨hfilter, hkept⟩ := hreading scope depth env
          refine ⟨?_, hkept⟩
          rw [session.reading_and, hleft, hfilter]
          rfl
  | some left' =>
      obtain ⟨planned, hplanned, hreading⟩ := hleft
      cases rhs with
      | none =>
          refine ⟨planned, hplanned, fun scope depth env => ?_⟩
          obtain ⟨hfilter, hkept⟩ := hreading scope depth env
          refine ⟨?_, hkept⟩
          rw [session.reading_and, hfilter, hright]
          rfl
      | some right' =>
          obtain ⟨planned', hplanned', hreading'⟩ := hright
          refine ⟨.binary planned .and planned', ?_,
            fun scope depth env => ?_⟩
          · rw [planFilterExpr_and context outer site.required
              (fun path => hlhs left' path rfl), hplanned, hplanned']
            rfl
          · obtain ⟨hfilter, hkept⟩ := hreading scope depth env
            obtain ⟨hfilter', hkept'⟩ := hreading' scope depth env
            constructor
            · rw [session.reading_and, hfilter, hfilter']
              rfl
            · rw [session.reading_and, hkept, hkept']
              rfl

/-- A disjunction denotes the disjunction of what remains of its operands. -/
theorem denotesPruned_or
    {left right : FilterExpr}
    {lhs rhs : Option Expr}
    (hleft : site.DenotesPruned session catalog context outer left lhs)
    (hright : site.DenotesPruned session catalog context outer right rhs)
    (hlhs : ∀ kept path, lhs = some kept → kept ≠ .path path) :
    site.DenotesPruned session catalog context outer
      (.binary left .or right) (joinTrees .or lhs rhs) := by
  cases lhs with
  | none =>
      cases rhs with
      | none =>
          intro scope depth env
          rw [session.reading_or, hleft, hright]
          rfl
      | some right' =>
          obtain ⟨planned, hplanned, hreading⟩ := hright
          refine ⟨planned, hplanned, fun scope depth env => ?_⟩
          obtain ⟨hfilter, hkept⟩ := hreading scope depth env
          refine ⟨?_, hkept⟩
          rw [session.reading_or, hleft, hfilter]
          rfl
  | some left' =>
      obtain ⟨planned, hplanned, hreading⟩ := hleft
      cases rhs with
      | none =>
          refine ⟨planned, hplanned, fun scope depth env => ?_⟩
          obtain ⟨hfilter, hkept⟩ := hreading scope depth env
          refine ⟨?_, hkept⟩
          rw [session.reading_or, hfilter, hright]
          rfl
      | some right' =>
          obtain ⟨planned', hplanned', hreading'⟩ := hright
          refine ⟨.binary planned .or planned', ?_,
            fun scope depth env => ?_⟩
          · rw [planFilterExpr_or context outer site.required
              (fun path => hlhs left' path rfl), hplanned, hplanned']
            rfl
          · obtain ⟨hfilter, hkept⟩ := hreading scope depth env
            obtain ⟨hfilter', hkept'⟩ := hreading' scope depth env
            constructor
            · rw [session.reading_or, hfilter, hfilter']
              rfl
            · rw [session.reading_or, hkept, hkept']
              rfl

/-- A negation denotes the negation of what remains of its operand. -/
theorem denotesPruned_not
    {operand : FilterExpr}
    {op : UnaryOp}
    {tree : Option Expr}
    (h : site.DenotesPruned session catalog context outer operand tree) :
    site.DenotesPruned session catalog context outer (.not operand)
      (tree.map (.unary op)) := by
  cases tree with
  | none =>
      intro scope depth env
      rw [session.reading_not, h]
      rfl
  | some kept =>
      obtain ⟨planned, hplanned, hreading⟩ := h
      refine ⟨.not planned, ?_, fun scope depth env => ?_⟩
      · simp only [planFilterExpr, hplanned, Option.map_some]
      · obtain ⟨hfilter, hkept⟩ := hreading scope depth env
        constructor
        · rw [session.reading_not, hfilter]
          rfl
        · rw [session.reading_not, hkept]
          rfl

/-- The body of an `exists` admits the rows that its pruned body admits. -/
theorem admitted_of_denotesPruned
    {filter : FilterExpr}
    {tree : Option Expr}
    (h : site.DenotesPruned session catalog context false filter tree)
    (scope : FilterSqlScope)
    (depth : Nat)
    (env : Env S) :
    admitted (session.reading catalog scope depth env filter) =
      admitted ((site.required.planFilterBody context tree).bind
        (session.reading catalog scope depth env)) := by
  cases tree with
  | none =>
      rw [h]
      rfl
  | some kept =>
      obtain ⟨planned, hplanned, hreading⟩ := h
      obtain ⟨hfilter, hkept⟩ := hreading scope depth env
      simp only [planFilterBody, hplanned, Option.bind_some]
      rw [hfilter, hkept]

/-- A filter without inputs denotes itself. -/
theorem denotesPruned_refl
    {atom : Expr}
    {filter : FilterExpr}
    (hatom : ∀ value, atom.treeTruth value = value atom)
    (hplan : site.required.planFilterExpr context outer atom = some filter)
    (h : ∀ scope depth env, ∃ value,
      session.reading catalog scope depth env filter = some value ∧
        session.reading catalog scope depth env filter = some value) :
    site.DenotesPruned session catalog context outer filter (some atom) :=
  have hdenotes : session.Denotes catalog false filter
      (site.required.planFilterExpr context outer atom) :=
    ⟨filter, hplan, h⟩
  site.denotesPruned_of_denotes session catalog hatom hdenotes

theorem planBooleanVariable_denotes
    {reference : VariableRef}
    {filter : FilterExpr}
    (h : site.planBooleanVariable reference = some filter) :
    session.Denotes catalog
      (site.valueIsAbsent session.inputs.isPresent
        (site.booleanVariableValue reference))
      filter (site.required.planBooleanVariable reference) := by
  have hvalue :
      site.required.booleanVariableValue reference =
        site.booleanVariableValue reference := rfl
  rw [planBooleanVariable_eq] at h
  rw [planBooleanVariable_eq, hvalue]
  cases hread : site.booleanVariableValue reference with
  | value path =>
      rw [hread] at h
      simp only [Option.some.injEq] at h
      subst h
      have hrequired (inner : FilterExpr) :
          site.required.planner.optionalFilter path inner = inner :=
        site.planner.optionalFilter_required path inner
      have hparameter :
          site.required.planner.sqlParameter path =
            site.planner.sqlParameter path :=
        site.planner.sqlParameter_required path
      simp only [hrequired, hparameter]
      have hdenotes : session.Denotes catalog false
          (.parameter (site.planner.sqlParameter path))
          (some (.parameter (site.planner.sqlParameter path))) :=
        session.denotes_refl catalog (fun scope depth =>
          ⟨_, by simp only [conditionalFilterExpr]; rfl⟩)
      cases hnullable : site.planner.variableIsNullable path with
      | false =>
          simpa [valueIsAbsent, Planner.optionalFilter, hnullable]
            using hdenotes
      | true =>
          cases hpresent : session.inputs.isPresent
              (site.planner.sqlParameter path) with
          | true =>
              obtain ⟨planned, hplanned, hreading⟩ := hdenotes
              have habsent : site.valueIsAbsent session.inputs.isPresent
                  (.value path) = false := by
                simp [valueIsAbsent, hpresent]
              rw [habsent]
              refine ⟨planned, hplanned, fun scope depth env => ?_⟩
              simpa [Planner.optionalFilter, hnullable, hpresent]
                using hreading scope depth env
          | false =>
              have habsent : site.valueIsAbsent session.inputs.isPresent
                  (.value path) = true := by
                simp [valueIsAbsent, hnullable, hpresent]
              rw [habsent]
              intro scope depth env
              simp [Planner.optionalFilter, hnullable, hpresent]
  | default value =>
      rw [hread] at h
      have hrequired : site.required.planner.publicFilterValue
          (.default value) = some filter := by
        simpa [required] using h
      simp only [hrequired]
      cases value with
      | null =>
          simp only [Planner.publicFilterValue, Option.some.injEq] at h
          subst h
          intro scope depth env
          simp
      | string value | number value | boolean value =>
          simp only [Planner.publicFilterValue, inputDefaultFilter,
            Option.some.injEq] at h
          subst h
          exact session.denotes_refl catalog (fun scope depth =>
            ⟨_, by simp only [conditionalFilterExpr]; rfl⟩)
      | collection items | emptyObject =>
          simp [Planner.publicFilterValue, inputDefaultFilter] at h

theorem planMembershipExpr_denotes
    {op : BinaryOp}
    {lhs rhs : Expr}
    {filter : FilterExpr}
    (hop : op = .isIn ∨ op = .notIn)
    (hrhs : ∀ items, rhs = .list items →
      items.all Expr.isLiteral = true)
    (h : site.planFilterExpr context outer (.binary op lhs rhs) =
      some filter) :
    session.Denotes catalog
      (site.atomIsAbsent session.inputs.isPresent context op lhs rhs) filter
      (site.required.planFilterExpr context outer (.binary op lhs rhs)) := by
  have hitems :
      site.required.listedItems context outer rhs =
        site.listedItems context outer rhs := by
    cases rhs with
    | list items =>
        exact site.planFilterItems_literals context (hrhs items rfl)
    | _ => rfl
  rw [planFilterExpr_membership site hop] at h
  rw [planFilterExpr_membership site.required hop, hitems]
  exact site.planMembership_denotes session catalog context h

/-- An `exists` over a resolved source. -/
def existsFilter
    (resolved : ResolvedExistenceSource)
    (filters : List (FilterAssignmentExpr Expr))
    (body : Option FilterExpr) : FilterExpr :=
  let policies := site.planner.planSourcePolicies resolved.tableId [] filters
    site.selectionPath site.variableScope site.definitionScope
  .exists resolved.relationId resolved.tableId .explicit .current
    policies.rowFilter policies.fieldFilters body

theorem existsFilter_required
    (resolved : ResolvedExistenceSource)
    (filters : List (FilterAssignmentExpr Expr))
    (body : Option FilterExpr) :
    site.required.existsFilter resolved filters body =
      site.existsFilter resolved filters body := by
  simp [existsFilter, required]

theorem planFilterExpr_exists
    {source : ExistsSource}
    {filters : List (FilterAssignmentExpr Expr)}
    {resolved : ResolvedExistenceSource}
    (body : Option Expr)
    (hresolved : (resolveExistence site.planner.catalog context
      source).source = some resolved) :
    site.planFilterExpr context outer (.exists source filters body) =
      some (site.existsFilter resolved filters
        (site.planFilterBody (context.nested resolved.tableId) body)) := by
  simp only [planFilterExpr, planExists, hresolved, Option.map_some]
  rfl

/-- An `exists` whose body is pruned to one that admits the same rows. -/
theorem denotesPruned_exists
    {source : ExistsSource}
    {filters : List (FilterAssignmentExpr Expr)}
    {resolved : ResolvedExistenceSource}
    {body : Option FilterExpr}
    {kept : Option Expr}
    (hresolved : (resolveExistence site.planner.catalog context
      source).source = some resolved)
    (hbody : ∀ scope depth env,
      admitted (body.bind (session.reading catalog scope depth env)) =
        admitted ((site.required.planFilterBody
          (context.nested resolved.tableId) kept).bind
            (session.reading catalog scope depth env))) :
    site.DenotesPruned session catalog context outer
      (site.existsFilter resolved filters body)
      (some (.exists source filters kept)) := by
  have hplan : site.required.planFilterExpr context outer
      (.exists source filters kept) =
        some (site.existsFilter resolved filters
          (site.required.planFilterBody (context.nested resolved.tableId)
            kept)) := by
    rw [← existsFilter_required]
    exact site.required.planFilterExpr_exists kept hresolved
  have hdenotes : session.Denotes catalog false
      (site.existsFilter resolved filters body)
      (site.required.planFilterExpr context outer
        (.exists source filters kept)) := by
    rw [hplan]
    exact ⟨_, rfl, session.reading_exists_congr catalog hbody⟩
  exact site.denotesPruned_of_denotes session catalog (fun _ => rfl) hdenotes

/-- Every planned filter tree denotes its pruned tree. -/
theorem planFilterExpr_denotesPruned
    {tree : Expr}
    {filter : FilterExpr}
    (htree : tree.isFilterTree = true)
    (hbodies : site.plansBodies context tree = true)
    (h : site.planFilterExpr context outer tree = some filter) :
    site.DenotesPruned session catalog context outer filter
      (site.prune session.inputs.isPresent context tree) := by
  induction tree generalizing context outer filter with
  | binary op lhs rhs ihlhs ihrhs =>
      simp only [plansBodies, Bool.and_eq_true] at hbodies
      cases op with
      | and =>
          simp only [Expr.isFilterTree, Bool.and_eq_true] at htree
          rw [planFilterExpr_and context outer site
            (isFilterTree_not_path htree.1)] at h
          cases hl : site.planFilterExpr context outer lhs with
          | none => simp [hl] at h
          | some left =>
              cases hr : site.planFilterExpr context outer rhs with
              | none => simp [hl, hr] at h
              | some right =>
                  simp only [hl, hr, Option.bind_eq_bind, Option.bind_some,
                    Option.some.injEq] at h
                  subst h
                  simp only [prune]
                  exact site.denotesPruned_and session catalog
                    (ihlhs htree.1 hbodies.1 hl)
                    (ihrhs htree.2 hbodies.2 hr)
                    (fun kept path hkept =>
                      site.prune_not_path htree.1 hkept path)
      | or =>
          simp only [Expr.isFilterTree, Bool.and_eq_true] at htree
          rw [planFilterExpr_or context outer site
            (isFilterTree_not_path htree.1)] at h
          cases hl : site.planFilterExpr context outer lhs with
          | none => simp [hl] at h
          | some left =>
              cases hr : site.planFilterExpr context outer rhs with
              | none => simp [hl, hr] at h
              | some right =>
                  simp only [hl, hr, Option.bind_eq_bind, Option.bind_some,
                    Option.some.injEq] at h
                  subst h
                  simp only [prune]
                  exact site.denotesPruned_or session catalog
                    (ihlhs htree.1 hbodies.1 hl)
                    (ihrhs htree.2 hbodies.2 hr)
                    (fun kept path hkept =>
                      site.prune_not_path htree.1 hkept path)
      | comparison op =>
          simp only [Expr.isFilterTree, Bool.and_eq_true] at htree
          simp only [prune]
          exact site.denotesPruned_of_denotes session catalog
            (fun _ => rfl)
            (site.planComparison_denotes session catalog context rfl
              htree.1 htree.2 h)
      | «variable» operator =>
          simp only [Expr.isFilterTree, Bool.and_eq_true] at htree
          simp only [prune]
          exact site.denotesPruned_of_denotes session catalog
            (fun _ => rfl)
            (site.planComparison_denotes session catalog context rfl
              htree.1 htree.2 h)
      | isIn =>
          simp only [prune]
          exact site.denotesPruned_of_denotes session catalog
            (fun _ => rfl)
            (site.planMembershipExpr_denotes session catalog (.inl rfl)
              (fun items heq => by
                subst heq
                simpa only [Expr.isFilterTree] using htree) h)
      | notIn =>
          simp only [prune]
          exact site.denotesPruned_of_denotes session catalog
            (fun _ => rfl)
            (site.planMembershipExpr_denotes session catalog (.inr rfl)
              (fun items heq => by
                subst heq
                simpa only [Expr.isFilterTree] using htree) h)
  | unary op operand ih =>
      simp only [planFilterExpr, Option.map_eq_some_iff] at h
      obtain ⟨inner, hinner, rfl⟩ := h
      simp only [Expr.isFilterTree] at htree
      simp only [plansBodies] at hbodies
      simp only [prune]
      exact site.denotesPruned_not session catalog
        (ih htree hbodies hinner)
  | nullTest operand negated ih =>
      simp only [prune]
      cases operand with
      | path path =>
          simp only [planFilterExpr, Option.map_eq_some_iff] at h
          obtain ⟨planned, hplanned, rfl⟩ := h
          refine site.denotesPruned_refl session catalog (fun _ => rfl)
            ?_ ?_
          · simp only [planFilterExpr, planPredicateOperandPath_required,
              wrapRelationPredicate_required, hplanned, Option.map_some]
          · refine session.denotes_wrapRelationPredicate catalog site context
              path ?_
            intro scope depth env
            simp [Session.reading, conditionalFilterExpr]
      | _ => simp [planFilterExpr] at h
  | exists_ source filters predicate _ ih =>
      simp only [plansBodies] at hbodies
      simp only [prune]
      simp only [planFilterExpr, planExists, Option.map_eq_some_iff] at h
      obtain ⟨resolved, hresolved, rfl⟩ := h
      have hcontext :
          site.bodyContext context source =
            context.nested resolved.tableId := by
        simp [bodyContext, hresolved]
      rw [hcontext] at hbodies ⊢
      refine site.denotesPruned_exists session catalog hresolved ?_
      intro scope depth env
      cases predicate with
      | none => rfl
      | some body =>
          simp only [plansBody, Bool.and_eq_true] at hbodies
          obtain ⟨inner, hinner⟩ := Option.isSome_iff_exists.mp hbodies.1
          have htreeBody : body.isFilterTree = true := by
            simpa [Expr.isFilterTree, Expr.isFilterBody] using htree
          have hpruned := ih body rfl htreeBody hbodies.2 hinner
          have hadmitted := site.admitted_of_denotesPruned session catalog
            hpruned scope depth env
          simpa [planFilterBody, pruneBody, hinner] using hadmitted
  | literal value =>
      simp only [prune]
      simp only [planFilterExpr, Option.some.injEq] at h
      subst h
      refine site.denotesPruned_refl session catalog (fun _ => rfl) rfl ?_
      intro scope depth env
      simp [Session.reading, conditionalFilterExpr]
  | path path =>
      simp [Expr.isFilterTree] at htree
  | variable_ reference =>
      simp only [prune]
      exact site.denotesPruned_of_denotes session catalog (fun _ => rfl)
        (site.planBooleanVariable_denotes session catalog h)
  | dynamicPredicate reference surface =>
      simp only [prune]
      simp only [planFilterExpr, Option.some.injEq] at h
      subst h
      refine site.denotesPruned_refl session catalog (fun _ => rfl) rfl ?_
      intro scope depth env
      simp [Session.reading, conditionalFilterExpr]
  | aggregate source function operand =>
      simp only [prune]
      obtain ⟨hrequired, hplain⟩ := site.planFilterExpr_plain context
        (by rfl) (fun _ heq => by cases heq) h
      refine site.denotesPruned_refl session catalog (fun _ => rfl)
        hrequired ?_
      intro scope depth env
      simp only [planFilterExpr, planPredicateAggregate] at h
      split at h
      · split at h
        · split at h
          · simp only [Option.some.injEq] at h
            subst h
            simp [Session.reading, conditionalFilterExpr]
          · simp at h
        · simp at h
      · simp at h
  | list items | predicateRef name | error =>
      simp [planFilterExpr] at h

end Trees

/-- Structural pruning is exact: the SQL expression of a planned filter tree
is true when nothing remains of the tree, and otherwise has the truth value of
what remains, whose atoms all have plans with required inputs. -/
theorem pruning_exact
    (context : ClauseContext)
    (outer : Bool)
    (tree : Expr)
    (filter : FilterExpr)
    (htree : tree.isFilterTree = true)
    (hbodies : site.plansBodies context tree = true)
    (hplan : site.planFilterExpr context outer tree = some filter)
    (scope : FilterSqlScope)
    (depth : Nat)
    (env : Env S) :
    match site.prune session.inputs.isPresent context tree with
    | none =>
        (session.eval env (filterExpr catalog scope depth filter)).truth =
          .tt
    | some kept =>
        (site.required.planFilterExpr context outer kept).isSome = true ∧
          (session.eval env
              (filterExpr catalog scope depth filter)).truth =
            kept.treeTruth (site.atomTruth session catalog context outer
              scope depth env) := by
  have hdenotes := site.planFilterExpr_denotesPruned session catalog htree
    hbodies hplan
  rw [session.truth_filterExpr]
  cases hprune : site.prune session.inputs.isPresent context tree with
  | none =>
      rw [hprune] at hdenotes
      simp only
      rw [hdenotes]
      rfl
  | some kept =>
      rw [hprune] at hdenotes
      obtain ⟨planned, hplanned, hreading⟩ := hdenotes
      obtain ⟨hfilter, _⟩ := hreading scope depth env
      simp only
      rw [hplanned, hfilter]
      exact ⟨rfl, rfl⟩

/-- The predicate of an `exists` in a tree, with the context it is read in. -/
inductive BodyIn : ClauseContext → Expr → ClauseContext → Expr → Prop
  | lhs {context inner : ClauseContext} {op : BinaryOp} {lhs rhs body : Expr} :
      BodyIn context lhs inner body →
      BodyIn context (.binary op lhs rhs) inner body
  | rhs {context inner : ClauseContext} {op : BinaryOp} {lhs rhs body : Expr} :
      BodyIn context rhs inner body →
      BodyIn context (.binary op lhs rhs) inner body
  | operand {context inner : ClauseContext} {op : UnaryOp}
      {operand body : Expr} :
      BodyIn context operand inner body →
      BodyIn context (.unary op operand) inner body
  | here {context : ClauseContext} {source : ExistsSource}
      {filters : List (FilterAssignmentExpr Expr)} {body : Expr} :
      BodyIn context (.exists source filters (some body))
        (site.bodyContext context source) body
  | deeper {context inner : ClauseContext} {source : ExistsSource}
      {filters : List (FilterAssignmentExpr Expr)} {predicate body : Expr} :
      BodyIn (site.bodyContext context source) predicate inner body →
      BodyIn context (.exists source filters (some predicate)) inner body

/-- A tree has an SQL expression, and for every assignment of the inputs and
every row its truth value is that of the pruned tree. -/
def PrunesExactly
    (context : ClauseContext)
    (outer : Bool)
    (tree : Expr) : Prop :=
  ∃ filter, site.planFilterExpr context outer tree = some filter ∧
    ∀ (S : Type) [DecidableEq S] (session : Session S) (catalog : Catalog)
      (scope : FilterSqlScope) (depth : Nat) (env : Env S),
      match site.prune session.inputs.isPresent context tree with
      | none =>
          (session.eval env (filterExpr catalog scope depth filter)).truth =
            .tt
      | some kept =>
          (site.required.planFilterExpr context outer kept).isSome = true ∧
            (session.eval env
                (filterExpr catalog scope depth filter)).truth =
              kept.treeTruth (site.atomTruth session catalog context outer
                scope depth env)

section Throughout

variable {site : FilterSite} {context inner : ClauseContext} {tree body : Expr}

/-- The bodies of a tree are planned when all its bodies are. -/
theorem plansBodies_of_bodyIn
    (h : ∀ inner body, site.BodyIn context tree inner body →
      (site.planFilterExpr inner false body).isSome = true) :
    site.plansBodies context tree = true := by
  induction tree generalizing context with
  | binary op lhs rhs ihlhs ihrhs =>
      rw [plansBodies, Bool.and_eq_true]
      exact ⟨ihlhs (fun inner body hbody => h inner body (.lhs hbody)),
        ihrhs (fun inner body hbody => h inner body (.rhs hbody))⟩
  | unary op operand ih =>
      exact ih (fun inner body hbody => h inner body (.operand hbody))
  | exists_ source filters predicate _ ih =>
      cases predicate with
      | none => rfl
      | some predicate =>
          rw [plansBodies, plansBody, Bool.and_eq_true]
          exact ⟨h _ _ .here, ih predicate rfl
            (fun inner body hbody => h inner body (.deeper hbody))⟩
  | _ => rfl

theorem not_bodyIn_operand
    (hoperand : tree.isOperand = true) :
    ¬site.BodyIn context tree inner body := by
  rintro (hbody | hbody | hbody | _ | hbody) <;> cases hoperand

/-- The bodies of a supported filter tree are supported filter trees. -/
theorem BodyIn.supported
    (h : site.BodyIn context tree inner body)
    (htree : tree.isFilterTree = true)
    (hsupports : site.supports context tree = true) :
    body.isFilterTree = true ∧ site.supports inner body = true := by
  induction h with
  | @lhs context inner op lhs rhs body hbody ih =>
      cases op with
      | and | or =>
          simp only [Expr.isFilterTree, Bool.and_eq_true] at htree
          simp only [supports, Bool.and_eq_true] at hsupports
          exact ih htree.1 hsupports.1
      | comparison op | «variable» operator =>
          simp only [Expr.isFilterTree, Bool.and_eq_true] at htree
          exact absurd hbody (not_bodyIn_operand htree.1)
      | isIn | notIn =>
          cases lhs with
          | path path => cases hbody
          | _ => cases hsupports
  | @rhs context inner op lhs rhs body hbody ih =>
      cases op with
      | and | or =>
          simp only [Expr.isFilterTree, Bool.and_eq_true] at htree
          simp only [supports, Bool.and_eq_true] at hsupports
          exact ih htree.2 hsupports.2
      | comparison op | «variable» operator =>
          simp only [Expr.isFilterTree, Bool.and_eq_true] at htree
          exact absurd hbody (not_bodyIn_operand htree.2)
      | isIn | notIn =>
          simp only [supports, supportsMembership] at hsupports
          cases rhs with
          | list items => cases hbody
          | «variable» reference => cases hbody
          | _ =>
              split at hsupports
              · split at hsupports <;> simp_all
              · cases hsupports
  | operand hbody ih => exact ih htree hsupports
  | @here context source filters body =>
      simp only [supports, supportsBody, Bool.and_eq_true] at hsupports
      exact ⟨by simpa [Expr.isFilterTree, Expr.isFilterBody] using htree,
        hsupports.2⟩
  | @deeper context inner source filters predicate body hbody ih =>
      simp only [supports, supportsBody, Bool.and_eq_true] at hsupports
      exact ih (by simpa [Expr.isFilterTree, Expr.isFilterBody] using htree)
        hsupports.2

/-- A supported filter tree prunes exactly. -/
theorem prunesExactly_of_supports
    {outer : Bool}
    (htree : tree.isFilterTree = true)
    (hsupports : site.supports context tree = true) :
    site.PrunesExactly context outer tree := by
  have hplan := @planFilterExpr_isSome site context outer tree htree
  rw [hsupports, Bool.and_eq_true] at hplan
  obtain ⟨filter, hfilter⟩ := Option.isSome_iff_exists.mp hplan.1
  exact ⟨filter, hfilter, fun S _ session catalog scope depth env =>
    pruning_exact session catalog site context outer tree filter htree hplan.2
      hfilter scope depth env⟩

end Throughout

end FilterSite

/-- A table `employees` whose rows name the row of their `boss`. -/
def employeeCatalog : Catalog :=
  let column (id : Nat) (name : String) : Column :=
    { id := ⟨id⟩
      table := ⟨0⟩
      name := name
      visible := true
      type := ⟨⟨"pg_catalog", "text"⟩, .text, "text", none,
        builtinCapabilities .text⟩
      notNull := false }
  { defaultSchema := "public"
    tables :=
      [{ id := ⟨0⟩
         schema := "public"
         name := "employees"
         visible := true
         columns := [⟨0⟩, ⟨1⟩, ⟨2⟩]
         primaryKey := [⟨0⟩]
         uniqueConstraints := []
         indexes := []
         relations := [⟨0⟩] }]
    types := []
    columns := [column 0 "id", column 1 "boss_id", column 2 "name"]
    relations :=
      [{ id := ⟨0⟩
         name := "boss"
         selector := "boss_id"
         visible := true
         fromTable := ⟨0⟩
         toTable := ⟨0⟩
         localColumns := [⟨1⟩]
         targetColumns := [⟨0⟩]
         cardinality := .singular
         nullable := true }] }

/-- A definition over `employees` with one nullable input, `%name`. -/
def employeeSite : FilterSite :=
  { planner :=
      { catalog := employeeCatalog
        imports := ⟨[]⟩
        scope := "app"
        policyIndex := ⟨[], List.nodup_nil⟩
        compiledPolicies := ⟨[]⟩
        compiled_matched := nothing_compiled
        bindings :=
          [{ path := ["params", "name"]
             role := .whereValue
             dataType := .text
             wire := .json
             providerType := none
             collection := false
             nullable := true }]
        contexts := fun _ _ => .unknown
        operationAssignments := [] }
    definitionScope := "app"
    selectionPath := ["employees"]
    variableScope := .operation }

/-- The column `name` of the current row. -/
def ownName : Expr :=
  .path ⟨.current, [⟨⟨none, "name"⟩, none⟩]⟩

/-- The path `.boss.name`. -/
def bossName : Expr :=
  .path ⟨.current, [⟨⟨none, "boss"⟩, none⟩, ⟨⟨none, "name"⟩, none⟩]⟩

/-- An execution over texts that are equal when they are written alike. -/
def textSession : Session String :=
  { engine :=
      { string := id
        number := id
        holds := fun _ _ _ => false
        count := fun _ => ""
        aggregate := fun _ _ => .null }
    inputs :=
      { value := fun _ => .null
        collection := fun _ => none
        selected := fun _ => ""
        dynamic := fun _ _ => .unknown }
    database := fun _ => []
    binding := innermost }

/-- The check of a clause of `employees`. -/
def employeeCheck : ClauseCheck :=
  ⟨employeeCatalog, .query, false, "employees"⟩

end Dsql
