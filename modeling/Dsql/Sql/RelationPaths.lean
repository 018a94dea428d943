import Dsql.Plan.PrunedComparisons
import Dsql.Sql.Captures

/-!
# Relation paths

A path over relations leads from a row to related rows, one row source a step.
The module says which rows a chain of relations reaches from a place in a
query, and that the nested `exists` filters around a predicate hold exactly
when the predicate holds at a row that the chain reaches, where every column
reference reads the row source that it was generated for.
-/

namespace Dsql

open Logic

/-- A place in a query: the row sources a filter can name, and the rows they
stand at. -/
structure Place (S : Type) where
  scope : FilterSqlScope
  depth : Nat
  env : Env S

/-- The alias of an `exists` over a table. -/
def tableAlias (table : TableId) : Alias :=
  ⟨[.label table]⟩

/-- The policies of the row source that a step opens. -/
def FilterSite.stepPolicies
    (site : FilterSite)
    (step : ResolvedRelationStep) : SourcePolicyPlan :=
  site.planner.planSourcePolicies step.table [] [] [] .operation
    site.definitionScope

namespace Place

variable {S : Type} (place : Place S)

/-- The row sources that a filter can name lie outside of the place. -/
def Inside : Prop :=
  ∀ columnScope,
    (place.scope.columnSource columnScope).context.level < place.depth

/-- The place whose current row is the one that an anchor denotes. -/
def anchored (anchor : PathAnchor) : Place S :=
  let source :=
    match anchor with
    | .current => place.scope.current
    | .root => place.scope.root
    | .parent => place.scope.parent.getD place.scope.current
  { place with scope := { place.scope with current := source } }

@[simp] theorem anchored_current : place.anchored .current = place := rfl

/-- The place at a row of the table that a step leads to. -/
def enter
    (site : FilterSite)
    (step : ResolvedRelationStep)
    (row : Row S) : Place S :=
  let context := existsContext step.table place.depth
  { scope :=
      { place.scope with
        current :=
          readableView site.planner.catalog context
            (site.stepPolicies step).fieldFilters }
    depth := place.depth + 1
    env := (context, row) :: place.env }

section Enter

variable (site : FilterSite) (step : ResolvedRelationStep) (row : Row S)

@[simp] theorem enter_root :
    (place.enter site step row).scope.root = place.scope.root := rfl

@[simp] theorem enter_parent :
    (place.enter site step row).scope.parent = place.scope.parent := rfl

end Enter

section Inside

variable {place} (h : place.Inside)

include h

theorem Inside.current : place.scope.current.context.level < place.depth :=
  h .current

theorem Inside.enter
    (site : FilterSite)
    (step : ResolvedRelationStep)
    (row : Row S) : (place.enter site step row).Inside := by
  have hnew : (place.enter site step row).scope.current.context.level <
      (place.enter site step row).depth := Nat.lt_succ_self _
  intro columnScope
  have hold := h columnScope
  cases columnScope with
  | current => exact hnew
  | root => exact Nat.lt_succ_of_lt hold
  | predicateSource => exact Nat.lt_succ_of_lt hold
  | parent =>
      cases hscope : place.scope.parent with
      | none =>
          simpa [FilterSqlScope.columnSource, Place.enter, hscope] using hnew
      | some parent =>
          simp only [FilterSqlScope.columnSource, hscope,
            Option.getD_some] at hold
          simpa [FilterSqlScope.columnSource, Place.enter, hscope] using
            Nat.lt_succ_of_lt hold

end Inside

end Place

namespace Session

variable {S : Type} [DecidableEq S] (session : Session S)

/-- A stored value of the current row. -/
def valueAt (place : Place S) (column : ColumnId) : Datum S :=
  session.column place.env place.scope.current.context column

/-- The condition that a filter denotes at a place. -/
def readingAt
    (site : FilterSite)
    (place : Place S)
    (filter : FilterExpr) : Option Truth :=
  session.reading site.planner.catalog place.scope place.depth place.env
    filter

/-- The rows of a relation are those whose columns equal the columns of the
current row. -/
def Correlated
    (place : Place S)
    (relation : Relation)
    (row : Row S) : Prop :=
  ∀ columns ∈ relation.localColumns.zip relation.targetColumns,
    session.engine.compare .eq (row columns.2)
      (session.valueAt place columns.1) = .tt

/-- One step of a path: to a correlated row that the policies of both ends
admit. -/
def Follows
    (site : FilterSite)
    (step : ResolvedRelationStep)
    (place next : Place S) : Prop :=
  ∃ row ∈ session.database step.table,
    next = place.enter site step row ∧
      ∃ relation,
        site.planner.catalog.relationById step.relation = some relation ∧
          session.Correlated place relation row ∧
          (∀ guard ∈ place.scope.current.guard (.relation relation.id)
              next.depth,
            (session.eval next.env guard).truth = .tt) ∧
          admitted ((site.stepPolicies step).rowFilter.bind
            (session.reading site.planner.catalog
              (.raw next.scope.current.context) next.depth next.env)) = .tt

/-- The places that a chain of relations reaches. -/
def Reaches
    (site : FilterSite) :
    List ResolvedRelationStep → Place S → Place S → Prop
  | [], place, last => last = place
  | step :: steps, place, last =>
      ∃ next, session.Follows site step place next ∧
        Reaches site steps next last

section Intended

variable (hbinding : session.binding = intended)

include hbinding

omit [DecidableEq S] in
@[simp] theorem column_head
    (env : Env S)
    (source : SelectionContext)
    (row : Row S)
    (column : ColumnId) :
    session.column ((source, row) :: env) source column = row column := by
  simp [Session.column, hbinding]

omit [DecidableEq S] in
theorem column_tail
    (env : Env S)
    {source outer : SelectionContext}
    (hlevel : outer.level < source.level)
    (row : Row S)
    (column : ColumnId) :
    session.column ((source, row) :: env) outer column =
      session.column env outer column := by
  unfold Session.column
  rw [hbinding, intended_tail env source row hlevel]

omit [DecidableEq S] in
@[simp] theorem valueAt_enter
    (site : FilterSite)
    (step : ResolvedRelationStep)
    (place : Place S)
    (row : Row S)
    (column : ColumnId) :
    session.valueAt (place.enter site step row) column = row column :=
  session.column_head hbinding _ _ _ _

/-- The equalities of a relation hold for its rows. -/
theorem evalAll_relationCondition
    (site : FilterSite)
    (step : ResolvedRelationStep)
    (place : Place S)
    (row : Row S)
    (relation : Relation)
    (hinside : place.Inside) :
    session.evalAll (place.enter site step row).env
        (relationCondition place.scope.current.context
          (existsContext step.table place.depth) relation) = .tt ↔
      session.Correlated place relation row := by
  unfold relationCondition Correlated
  induction relation.localColumns.zip relation.targetColumns with
  | nil => simp
  | cons columns rest ih =>
      have htarget := session.valueAt_enter hbinding site step place row
        columns.2
      have hlocal : session.column (place.enter site step row).env
          place.scope.current.context columns.1 =
          session.valueAt place columns.1 :=
        session.column_tail hbinding _ hinside.current _ _
      have hhead : (session.eval (place.enter site step row).env
          (.binary (.column (existsContext step.table place.depth) columns.2)
            .eq (.column place.scope.current.context columns.1))).truth =
          session.engine.compare .eq (row columns.2)
            (session.valueAt place columns.1) := by
        simp only [eval, Datum.truth_ofTruth, Engine.binary]
        rw [hlocal]
        exact congrArg (fun value => session.engine.compare .eq value _)
          htarget
      simp only [List.map_cons, evalAll_cons, Truth.and_eq_tt, hhead,
        List.forall_mem_cons, ih]

/-- The `exists` of one step holds exactly when its body holds at a row that
the step leads to. -/
theorem readingAt_relationStepFilter
    (site : FilterSite)
    (step : ResolvedRelationStep)
    (place : Place S)
    (filter : FilterExpr)
    (hinside : place.Inside) :
    admitted (session.readingAt site place
        (site.relationStepFilter step filter)) = .tt ↔
      ∃ next, session.Follows site step place next ∧
        admitted (session.readingAt site next filter) = .tt := by
  have hreading := session.reading_of_always site.planner.catalog place.scope
    place.depth place.env
    (conditionalFilterExpr_exists site.planner.catalog place.scope
      place.depth (some step.relation) step.table .relationshipPredicate
      .current (site.stepPolicies step).rowFilter
      (site.stepPolicies step).fieldFilters (some filter))
  have hrow (row : Row S) :
      session.evalAll (place.enter site step row).env
          (existsConditions site.planner.catalog place.scope place.depth
            (some step.relation) step.table .relationshipPredicate .current
            (site.stepPolicies step).rowFilter
            (site.stepPolicies step).fieldFilters (some filter)) = .tt ↔
        (∃ relation,
          site.planner.catalog.relationById step.relation = some relation ∧
            session.Correlated place relation row ∧
            (∀ guard ∈ place.scope.current.guard (.relation relation.id)
                (place.depth + 1),
              (session.eval (place.enter site step row).env guard).truth =
                .tt) ∧
            admitted ((site.stepPolicies step).rowFilter.bind
              (session.reading site.planner.catalog
                (.raw (existsContext step.table place.depth))
                (place.depth + 1) (place.enter site step row).env)) = .tt) ∧
          admitted (session.readingAt site (place.enter site step row)
            filter) = .tt := by
    have hcorrelated (relation : Relation) :=
      session.evalAll_relationCondition hbinding site step place row relation
        hinside
    simp only [existsConditions, FilterSqlScope.columnSource, evalAll_append,
      evalAll_filterConditions, Truth.and_eq_tt, Option.bind_some]
    have hbody : session.reading site.planner.catalog
        (bodyScope place.scope .relationshipPredicate
          (readableView site.planner.catalog
            (existsContext step.table place.depth)
            (site.stepPolicies step).fieldFilters) place.scope.current)
        (place.depth + 1) (place.enter site step row).env filter =
        session.readingAt site (place.enter site step row) filter := rfl
    rw [hbody]
    cases hrelation : site.planner.catalog.relationById step.relation with
    | none =>
        simp [relationConditions, hrelation, eval]
    | some relation =>
        simp only [relationConditions, hrelation, evalAll_append,
          Truth.and_eq_tt, hcorrelated, Option.some.injEq,
          exists_eq_left']
        cases place.scope.current.guard (.relation relation.id)
            (place.depth + 1) <;>
          simp [and_assoc]
  have hstep : site.relationStepFilter step filter =
      .exists (some step.relation) step.table .relationshipPredicate .current
        (site.stepPolicies step).rowFilter
        (site.stepPolicies step).fieldFilters (some filter) := rfl
  have hexists : admitted (session.readingAt site place
      (site.relationStepFilter step filter)) = .tt ↔
      ∃ row ∈ session.database step.table,
        session.evalAll (place.enter site step row).env
          (existsConditions site.planner.catalog place.scope place.depth
            (some step.relation) step.table .relationshipPredicate .current
            (site.stepPolicies step).rowFilter
            (site.stepPolicies step).fieldFilters (some filter)) = .tt := by
    unfold readingAt
    rw [hstep, hreading]
    simp [eval, Place.enter]
  rw [hexists]
  constructor
  · rintro ⟨row, hmem, hconditions⟩
    obtain ⟨hfollows, hfilter⟩ := (hrow row).mp hconditions
    exact ⟨place.enter site step row, ⟨row, hmem, rfl, hfollows⟩, hfilter⟩
  · rintro ⟨next, ⟨row, hmem, hnext, hfollows⟩, hfilter⟩
    subst hnext
    exact ⟨row, hmem, (hrow row).mpr ⟨hfollows, hfilter⟩⟩

/-- Nested `exists` filters hold exactly when their body holds at a row that
the chain of relations reaches. -/
theorem readingAt_relationSteps
    (site : FilterSite)
    (steps : List ResolvedRelationStep)
    (place : Place S)
    (filter : FilterExpr)
    (hinside : place.Inside) :
    admitted (session.readingAt site place
        (steps.foldr site.relationStepFilter filter)) = .tt ↔
      ∃ last, session.Reaches site steps place last ∧
        admitted (session.readingAt site last filter) = .tt := by
  induction steps generalizing place with
  | nil => simp [Reaches]
  | cons step steps ih =>
      rw [List.foldr_cons, session.readingAt_relationStepFilter hbinding site
        step place _ hinside]
      constructor
      · rintro ⟨next, hfollows, hrest⟩
        have hnext := hfollows
        obtain ⟨row, -, rfl, -⟩ := hnext
        obtain ⟨last, hreaches, hfilter⟩ := (ih _ (hinside.enter site step row)).mp hrest
        exact ⟨last, ⟨_, hfollows, hreaches⟩, hfilter⟩
      · rintro ⟨last, ⟨next, hfollows, hreaches⟩, hfilter⟩
        have hnext := hfollows
        obtain ⟨row, -, rfl, -⟩ := hnext
        exact ⟨_, hfollows, (ih _ (hinside.enter site step row)).mpr ⟨last, hreaches, hfilter⟩⟩

/-- Where a path has come to, outer row sources read as at its start. -/
theorem outer_of_reaches
    (site : FilterSite)
    {steps : List ResolvedRelationStep}
    {place last : Place S}
    (h : session.Reaches site steps place last) :
    last.scope.root = place.scope.root ∧
      last.scope.parent = place.scope.parent ∧
      ∀ outer : SelectionContext, outer.level < place.depth →
        ∀ column, session.column last.env outer column =
          session.column place.env outer column := by
  induction steps generalizing place with
  | nil =>
      obtain rfl := h
      simp
  | cons step steps ih =>
      obtain ⟨next, ⟨row, -, rfl, -⟩, hrest⟩ := h
      obtain ⟨hroot, hparent, houter⟩ := ih hrest
      refine ⟨hroot, hparent, fun outer hlevel column => ?_⟩
      rw [houter outer (Nat.lt_succ_of_lt hlevel) column]
      exact session.column_tail hbinding _ hlevel row column

end Intended

end Session

end Dsql
