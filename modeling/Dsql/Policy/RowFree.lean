import Dsql.Policy.Validation

/-!
# Enforcement reads no rows

The checks keep paths and traversals out of the condition of an `apply` and
out of every condition it references, so what it compiles to reads trusted
context and literals only.
-/

namespace Dsql

open PolicyCompiler

/-- Whether an expression can only compile to a filter that reads no rows,
given which references do. -/
def RowFree (free : String → Prop) : Expr → Prop
  | .predicateRef name => free name
  | .path path => path.segments = []
  | .exists .. => False
  | .binary _ lhs rhs => RowFree free lhs ∧ RowFree free rhs
  | .unary _ operand | .nullTest operand _ => RowFree free operand
  | .list _ | .literal _ | .variable _ | .dynamicPredicate .. |
    .aggregate .. | .error => True

namespace PolicyEnvironment

variable (environment : PolicyEnvironment)

theorem compilePath_nil
    {row : Option PolicyRowContext}
    {path : ScopedPath}
    {state after : PolicyCompilerState}
    {compiled : CompiledPath}
    (hpath : path.segments = []) :
    environment.compilePath row path state ≠ .ok compiled after := by
  intro h
  unfold compilePath at h
  rw [hpath] at h
  cases hrow : row.bind (fun row => row.anchorTable path.anchor) with
  | none =>
      rw [hrow] at h
      cases h
  | some table =>
      rw [hrow] at h
      cases h

theorem compileLiteral_ok
    {value : LiteralValue}
    {expected : Option PolicyExpectedType}
    {state after : PolicyCompilerState}
    {filter : FilterExpr}
    (h : compileLiteral value expected state = .ok filter after) :
    filterObservesRows filter = false := by
  unfold compileLiteral at h
  split at h
  · cases h
    rfl
  · split at h
    · cases h
    · cases h
      rfl

theorem bind_compilePath_nil
    {α : Type}
    {row : Option PolicyRowContext}
    {path : ScopedPath}
    {next : CompiledPath → PolicyCompiler α}
    {state after : PolicyCompilerState}
    {result : α}
    (hpath : path.segments = []) :
    (environment.compilePath row path >>= next) state ≠ .ok result after := by
  intro h
  obtain ⟨compiled, between, hcompiled, -⟩ := estate_bind_ok h
  exact environment.compilePath_nil hpath hcompiled

/-- References that read no rows are what the environment resolves. -/
def ReferencesRowFree (free : String → Prop) : Prop :=
  ∀ name, free name → ∀ row state filter after,
    environment.reference name row state = .ok filter after →
      filterObservesRows filter = false

/-- A row-free expression compiles to a filter that reads no rows. -/
theorem compileExpr_rowFree
    {free : String → Prop}
    (hreferences : environment.ReferencesRowFree free)
    (expr : Expr)
    (hfree : RowFree free expr)
    {row : Option PolicyRowContext}
    {expected : Option PolicyExpectedType}
    {state after : PolicyCompilerState}
    {filter : FilterExpr}
    (h : environment.compileExpr expr row expected state = .ok filter after) :
    filterObservesRows filter = false := by
  induction expr generalizing row expected state after filter with
  | binary op lhs rhs ihleft ihright =>
      obtain ⟨hleft, hright⟩ := hfree
      generalize hexpr : Expr.binary op lhs rhs = expr at h
      unfold compileExpr at h
      -- A comparison or membership with a path does not compile here: its
      -- path names nothing.
      split at h <;> cases hexpr
      case h_13.refl | h_14.refl =>
        obtain ⟨left, between, hlhs, h⟩ := estate_bind_ok h
        obtain ⟨right, last, hrhs, h⟩ := estate_bind_ok h
        cases h
        rw [filterObservesRows, ihleft hleft hlhs, ihright hright hrhs]
        rfl
      case h_21.refl =>
        obtain ⟨left, between, hlhs, h⟩ := estate_bind_ok h
        obtain ⟨operator, middle, -, h⟩ := estate_bind_ok h
        obtain ⟨right, last, hrhs, h⟩ := estate_bind_ok h
        cases h
        rw [filterObservesRows, ihleft hleft hlhs, ihright hright hrhs]
        rfl
      all_goals
        first
          | exact absurd h (environment.bind_compilePath_nil hleft)
          | exact absurd h (environment.bind_compilePath_nil hright)
  | unary op operand ih =>
      unfold compileExpr at h
      obtain ⟨compiled, between, hoperand, h⟩ := estate_bind_ok h
      cases h
      rw [filterObservesRows]
      exact ih hfree hoperand
  | nullTest operand negated ih =>
      generalize hexpr : Expr.nullTest operand negated = expr at h
      unfold compileExpr at h
      split at h <;> cases hexpr
      · exact absurd h (environment.bind_compilePath_nil hfree)
      · obtain ⟨compiled, between, hoperand, h⟩ := estate_bind_ok h
        cases h
        rw [filterObservesRows]
        exact ih hfree hoperand
  | list items ih =>
      unfold compileExpr at h
      cases h
  | exists_ source filters predicate ihfilters ihpredicate =>
      exact hfree.elim
  | literal value =>
      unfold compileExpr at h
      exact compileLiteral_ok h
  | path path =>
      unfold compileExpr at h
      obtain ⟨compiled, between, hpath, h⟩ := estate_bind_ok h
      exact absurd hpath (environment.compilePath_nil hfree)
  | variable_ reference =>
      unfold compileExpr at h
      obtain ⟨parameter, between, hparameter, h⟩ := estate_bind_ok h
      cases h
      rfl
  | dynamicPredicate reference surface =>
      unfold compileExpr at h
      cases h
  | predicateRef name =>
      unfold compileExpr at h
      exact hreferences name hfree row state filter after h
  | aggregate source function operand =>
      unfold compileExpr at h
      cases h
  | error =>
      unfold compileExpr at h
      cases h

end PolicyEnvironment

namespace PolicyProject

variable {project : PolicyProject}

/-- Where rows cannot be read: in the condition of an `apply`, and in a
declaration without a target. -/
def NoRows
    (site : PolicySite)
    (contextOnly : Bool)
    (row : Option PolicyRowContext) : Prop :=
  contextOnly = true ∨ (row = none ∧ site.declaration.target = none)

theorem NoRows.path
    {site : PolicySite}
    {contextOnly : Bool}
    {row : Option PolicyRowContext}
    {path : ScopedPath}
    (hrows : NoRows site contextOnly row)
    (h : project.validateExpr site (.path path) contextOnly row = []) :
    path.segments = [] := by
  rw [validateExpr] at h
  rcases hrows with rfl | ⟨rfl, htarget⟩
  · cases h
  · cases contextOnly with
    | true => cases h
    | false =>
        rw [if_neg Bool.false_ne_true] at h
        unfold validatePath at h
        split at h
        · assumption
        · rw [PolicyDecl.hasShapeTarget, htarget] at h
          cases h

theorem NoRows.exists_
    {site : PolicySite}
    {contextOnly : Bool}
    {row : Option PolicyRowContext}
    (hrows : NoRows site contextOnly row)
    (source : ExistsSource)
    (filters : List (FilterAssignmentExpr Expr))
    (predicate : Option Expr) :
    project.validateExpr site (.exists source filters predicate) contextOnly
      row ≠ [] := by
  intro h
  rw [validateExpr] at h
  have hsource := (List.append_eq_nil_iff.mp
    (List.append_eq_nil_iff.mp h).1).2
  unfold validateExistsSource at hsource
  rcases hrows with rfl | ⟨rfl, -⟩
  · cases hsource
  · cases contextOnly <;> cases hsource

/-- What the checks accept where rows cannot be read is row-free. -/
theorem rowFree_of_validated
    {site : PolicySite}
    {contextOnly : Bool}
    {row : Option PolicyRowContext}
    (hrows : NoRows site contextOnly row)
    (expr : Expr)
    (h : project.validateExpr site expr contextOnly row = []) :
    RowFree (fun name => project.validateCondition site name contextOnly = [])
      expr := by
  induction expr with
  | binary op lhs rhs ihleft ihright =>
      rw [validateExpr] at h
      obtain ⟨hleft, hright⟩ := List.append_eq_nil_iff.mp h
      exact ⟨ihleft hleft, ihright hright⟩
  | unary op operand ih =>
      rw [validateExpr] at h
      exact ih h
  | nullTest operand negated ih =>
      rw [validateExpr] at h
      exact ih h
  | exists_ source filters predicate =>
      exact absurd h (hrows.exists_ source filters predicate)
  | path path => exact hrows.path h
  | predicateRef name =>
      rw [validateExpr] at h
      exact h
  | list | literal | variable_ | dynamicPredicate | aggregate | error =>
      exact trivial

theorem messages_of_accepted
    {site : PolicySite}
    (h : Accepted (project.checkPolicyDefinition site)) :
    project.ruleProblems site = [] := by
  have hmessages := ((accepted_append _ _).mp h).2
  rw [List.map_append] at hmessages
  have hrules := ((accepted_append _ _).mp hmessages).2
  cases hproblems : project.ruleProblems site with
  | nil => rfl
  | cons message rest =>
      rw [hproblems, List.map_cons, accepted_cons] at hrules
      cases hrules.1

theorem validateRowRule
    {site : PolicySite}
    (h : Accepted (project.checkPolicyDefinition site))
    {rule : Expr}
    (hrule : rule ∈ site.declaration.rowRules) :
    project.validateExpr site rule false
      ((project.entry site).matchedTables.head?.map .ofRoot) = [] := by
  have hproblems := messages_of_accepted h
  unfold ruleProblems at hproblems
  have hrows := (List.append_eq_nil_iff.mp
    (List.append_eq_nil_iff.mp hproblems).1).1
  rw [List.flatMap_eq_nil_iff] at hrows
  exact (List.append_eq_nil_iff.mp (hrows rule hrule)).2

theorem validateApply
    {site : PolicySite}
    (h : Accepted (project.checkPolicyDefinition site))
    {condition : Expr}
    (hcondition : site.declaration.applyCondition = some condition) :
    project.validateExpr site condition true none = [] := by
  have hproblems := messages_of_accepted h
  unfold ruleProblems at hproblems
  have happly := (List.append_eq_nil_iff.mp hproblems).2
  rw [hcondition] at happly
  rw [List.flatMap_eq_nil_iff] at happly
  exact (List.append_eq_nil_iff.mp
    (happly condition (List.mem_singleton_self _))).2

/-- A condition that an `apply` may reference has no target. -/
theorem validateCondition_target
    {site condition : PolicySite}
    {name : String}
    (h : project.validateCondition site name true = [])
    (hnamed : project.conditionsNamed site name = [condition]) :
    condition.declaration.target = none := by
  unfold validateCondition at h
  split at h
  · cases h
  · rw [hnamed] at h
    have htarget := (List.append_eq_nil_iff.mp h).1
    cases hcondition : condition.declaration.target with
    | none => rfl
    | some target =>
        rw [hcondition] at htarget
        cases htarget

/-- The rule of a condition that an `apply` may reference reads no rows. -/
theorem compileCondition_rowFree
    (haccepted : project.AcceptsPolicies)
    {site condition : PolicySite}
    {name : String}
    (hname : project.validateCondition site name true = [])
    (hnamed : project.conditionsNamed site name = [condition])
    {rule : Expr}
    (hrule : condition.declaration.rowRules.head? = some rule)
    {reference : String → Option PolicyRowContext → PolicyCompiler FilterExpr}
    {row : Option PolicyRowContext}
    {expected : Option PolicyExpectedType}
    {state after : PolicyCompilerState}
    {filter : FilterExpr}
    (h : PolicyEnvironment.compileExpr
      { catalog := project.catalog
        contexts := project.contextCandidates condition
        reference := reference } rule row expected state = .ok filter after) :
    filterObservesRows filter = false := by
  have hmem : condition ∈ project.conditionsNamed site name := by
    rw [hnamed]
    exact List.mem_singleton_self _
  obtain ⟨hsite, hkind⟩ := project.mem_conditionsNamed hmem
  have htarget := validateCondition_target hname hnamed
  have hvalid := validateRowRule (haccepted condition hsite)
    (List.mem_of_mem_head? hrule)
  have hrow : (project.entry condition).matchedTables.head?.map
      PolicyRowContext.ofRoot = none := by
    unfold entry resolveEntry resolveTarget
    rw [htarget]
    rfl
  rw [hrow] at hvalid
  have hfree := rowFree_of_validated (.inr ⟨rfl, htarget⟩) rule hvalid
  refine PolicyEnvironment.compileExpr_rowFree _ ?_ rule hfree h
  -- A condition references no condition.
  intro other hother
  unfold validateCondition at hother
  rw [if_pos hkind] at hother
  cases hother

/-- The references that an `apply` may make read no rows. -/
theorem compileReference_rowFree
    (haccepted : project.AcceptsPolicies)
    (site : PolicySite)
    (depth : Nat)
    {name : String}
    (hname : project.validateCondition site name true = [])
    {row : Option PolicyRowContext}
    {state after : PolicyCompilerState}
    {filter : FilterExpr}
    (h : project.compileReference site depth name row state =
      .ok filter after) :
    filterObservesRows filter = false := by
  cases depth with
  | zero => cases h
  | succ depth =>
      rw [compileReference] at h
      cases hnamed : project.conditionsNamed site name with
      | nil =>
          rw [hnamed] at h
          cases h
      | cons condition others =>
          rw [hnamed] at h
          cases others with
          | cons other others => cases h
          | nil =>
              obtain ⟨⟨⟩, between, -, hrun⟩ := estate_bind_ok h
              cases hrule : condition.declaration.rowRules.head? with
              | none =>
                  rw [hrule] at hrun
                  cases hrun
              | some rule =>
                  rw [hrule] at hrun
                  exact compileCondition_rowFree haccepted hname hnamed hrule
                    hrun

/-- In an accepted project the enforcement of a filter reads no rows. -/
theorem compileRule_apply_rowFree
    (haccepted : project.AcceptsPolicies)
    {site : PolicySite}
    (hsite : site ∈ project.sites)
    {condition : Expr}
    (hcondition : site.declaration.applyCondition = some condition)
    {table : TableId}
    {state after : PolicyCompilerState}
    {filter : FilterExpr}
    (h : project.compileRule site table condition state = .ok filter after) :
    filterObservesRows filter = false := by
  have hvalid := validateApply (haccepted site hsite) hcondition
  have hfree := rowFree_of_validated (.inl rfl) condition hvalid
  refine PolicyEnvironment.compileExpr_rowFree _ ?_ condition hfree h
  intro name hname row state filter after hreference
  exact compileReference_rowFree haccepted site _ hname hreference

theorem compileTarget_ok
    {site : PolicySite}
    {table : TableId}
    {state after : PolicyCompilerState}
    {target : CompiledPolicyTarget}
    (h : project.compileTarget site table state = .ok target after) :
    target.table = table ∧ ∃ before between,
      project.compileOptionalRule site table
        site.declaration.applyCondition before = .ok target.enforcement
          between := by
  obtain ⟨enforcement, between, henforcement, h⟩ := estate_bind_ok h
  obtain ⟨rowRule, middle, -, h⟩ := estate_bind_ok h
  obtain ⟨fieldRules, last, -, h⟩ := estate_bind_ok h
  obtain ⟨current, same, -, h⟩ := estate_bind_ok h
  cases h
  exact ⟨rfl, _, _, henforcement⟩

theorem compiledTarget_eq_some
    {site : PolicySite}
    {table : TableId}
    {target : CompiledPolicyTarget}
    {state : PolicyCompilerState}
    (h : project.compiledTarget site table = some (target, state)) :
    project.compileTarget site table .start = .ok target state := by
  unfold compiledTarget at h
  split at h
  · split at h
    · cases h
    · cases h
      assumption
  · cases h

theorem mem_compilePolicy_targets
    {site : PolicySite}
    {target : CompiledPolicyTarget}
    (h : target ∈ (project.compilePolicy site).targets) :
    target.table ∈ (project.entry site).matchedTables ∧ ∃ state,
      project.compileTarget site target.table .start = .ok target state := by
  obtain ⟨⟨found, state⟩, hfound, rfl⟩ := List.mem_map.mp h
  obtain ⟨table, htable, hcompiled⟩ := List.mem_filterMap.mp hfound
  have htarget := compiledTarget_eq_some hcompiled
  have hsame := (compileTarget_ok htarget).1
  dsimp only
  rw [hsame]
  exact ⟨htable, state, htarget⟩

/-- What forces a filter in an accepted project reads no rows. -/
theorem enforcement_rowFree
    (haccepted : project.AcceptsPolicies)
    {site : PolicySite}
    (hsite : site ∈ project.sites)
    {target : CompiledPolicyTarget}
    (htarget : target ∈ (project.compilePolicy site).targets)
    {enforcement : FilterExpr}
    (henforcement : target.enforcement = some enforcement) :
    filterObservesRows enforcement = false := by
  obtain ⟨-, state, hcompiled⟩ := mem_compilePolicy_targets htarget
  obtain ⟨-, before, between, hrule⟩ := compileTarget_ok hcompiled
  rw [henforcement] at hrule
  cases hcondition : site.declaration.applyCondition with
  | none =>
      rw [hcondition] at hrule
      cases hrule
  | some condition =>
      rw [hcondition] at hrule
      exact compileRule_apply_rowFree haccepted hsite hcondition
        (attempt_ok hrule)

end PolicyProject

end Dsql
