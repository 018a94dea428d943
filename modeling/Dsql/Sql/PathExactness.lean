import Dsql.Pruning
import Dsql.Sql.AnchoredPaths

/-!
# Exactness of planned relation paths

Predicates that are not planned from their anchored row differ from what they
ask: the module gives a database and a place where they do, for every catalog
and every resolved path.
-/

namespace Dsql

open Logic

/-- The steps of a resolved path name relations of the catalog. -/
theorem checkFieldRef_relationById
    {catalog : Catalog}
    {table : TableId}
    {reference : FieldRef}
    {field : RelationField}
    (h : catalog.checkFieldRef table reference = .relation field) :
    catalog.relationById field.relation.id = some field.relation := by
  have hfields {source : TableId}
      (hmem : field ∈ catalog.relationFieldsForTable source) :
      catalog.relationById field.relation.id = some field.relation := by
    unfold Catalog.relationFieldsForTable at hmem
    split at hmem
    · simp at hmem
    · next found =>
        obtain ⟨relation, hrelation, hfield⟩ := List.mem_filterMap.mp hmem
        obtain ⟨id, -, hfound⟩ := List.mem_filterMap.mp hrelation
        have hid := Catalog.relationById_id hfound
        have hsame : field.relation = relation := by
          split at hfield
          · split at hfield
            · split at hfield
              · obtain rfl := Option.some.inj hfield
                rfl
              · cases hfield
            · cases hfield
          · cases hfield
        rw [hsame, hid, hfound]
  unfold Catalog.checkFieldRef at h
  split at h
  · cases h
  · next source hsource =>
      simp only at h
      split at h
      · cases h
      · split at h
        · cases h
        · next relation hcandidates =>
            obtain rfl := FieldCheckResult.relation.inj h
            have hmem := List.mem_singleton_self relation
            rw [← hcandidates] at hmem
            exact hfields (List.mem_of_mem_filter hmem)
        · cases h

theorem resolveSegments_relationById
    {catalog : Catalog}
    (segments : List PathSegment) :
    ∀ (table : TableId) (relations : List ResolvedRelationStep),
      (∀ step ∈ relations,
        (catalog.relationById step.relation).isSome = true) →
      ∀ step ∈ (resolveSegments catalog table relations segments).relations,
        (catalog.relationById step.relation).isSome = true := by
  intro table relations hrelations
  fun_induction resolveSegments catalog table relations segments with
  | case1 | case2 | case4 => exact hrelations
  | case3 table relations segment rest hrest field hfield ih =>
      apply ih
      intro step hstep
      rcases List.mem_append.mp hstep with hmem | hmem
      · exact hrelations step hmem
      · obtain rfl := List.mem_singleton.mp hmem
        simp [checkFieldRef_relationById hfield]

theorem LeadsTo.relationById
    {catalog : Catalog}
    {context : ClauseContext}
    {path : ScopedPath}
    {steps : List ResolvedRelationStep}
    {column : ColumnId}
    (h : LeadsTo catalog context path steps column) :
    ∀ step ∈ steps, (catalog.relationById step.relation).isSome = true := by
  rw [← h.relations]
  unfold resolvePath
  split
  · simp
  · exact resolveSegments_relationById path.segments _ [] (by simp)

/-- A site without policies, spreads and nullable inputs. -/
def FilterSite.plain (catalog : Catalog) : FilterSite :=
  { planner :=
      { catalog := catalog
        imports := ⟨[]⟩
        scope := ""
        policyIndex := ⟨[], List.nodup_nil⟩
        compiledPolicies := ⟨[]⟩
        compiled_matched := nothing_compiled
        bindings := []
        contexts := fun _ _ => .unknown
        operationAssignments := [] }
    definitionScope := ""
    selectionPath := []
    variableScope := .operation }

namespace FilterSite

variable (catalog : Catalog)

@[simp] theorem plain_catalog : (plain catalog).planner.catalog = catalog := rfl

@[simp] theorem plain_fieldFilters (step : ResolvedRelationStep) :
    ((plain catalog).stepPolicies step).fieldFilters = [] := rfl

@[simp] theorem plain_rowFilter (step : ResolvedRelationStep) :
    ((plain catalog).stepPolicies step).rowFilter = none := rfl

@[simp] theorem plain_variableIsNullable (path : InputPath) :
    (plain catalog).planner.variableIsNullable path = false := rfl

end FilterSite

/-- The row source of the clause and the row source that anchors name. -/
def clauseSource : SelectionContext :=
  ⟨⟨[.selection ⟨0⟩ "clause" 0]⟩, 1⟩

def anchorSource : SelectionContext :=
  ⟨⟨[.selection ⟨0⟩ "anchor" 0]⟩, 0⟩

theorem clauseSource_ne (table : TableId) :
    clauseSource.tableAlias ≠ tableAlias table := by
  simp [clauseSource, tableAlias]

theorem anchorSource_ne (table : TableId) :
    anchorSource.tableAlias ≠ tableAlias table := by
  simp [anchorSource, tableAlias]

section Uncaptured

variable (catalog : Catalog)

/-- The references of one step read its row source and the one before it. -/
theorem isUncaptured_relationConditions
    {source : SqlRowView}
    {child : SelectionContext}
    {sources : List SelectionContext}
    (hfound : source.context.isFound (child :: sources) = true)
    (depth : Nat)
    (hguards : ∀ entry ∈ source.guards,
      (entry.2 depth).isUncaptured (child :: sources) = true)
    (relation : RelationId) :
    (relationConditions catalog source child depth relation).all
      (SqlExpr.isUncaptured (child :: sources)) = true := by
  unfold relationConditions
  cases catalog.relationById relation with
  | none => simp [SqlExpr.isUncaptured]
  | some relation =>
      simp only [relationCondition, List.all_append, List.all_map,
        Bool.and_eq_true, List.all_eq_true, Function.comp_apply,
        SqlExpr.isUncaptured, SelectionContext.isFound_head, hfound,
        Bool.and_self, implies_true, true_and, Option.mem_toList]
      intro guard hguard
      obtain ⟨entry, hentry, rfl⟩ := Option.map_eq_some_iff.mp hguard
      exact hguards entry (List.mem_of_find?_eq_some hentry)

/-- The filters around a predicate capture no reference along a path without
repetitions, if the predicate has none at its end. -/
theorem isUncaptured_relationSteps
    {steps : List ResolvedRelationStep}
    (hchain : steps.IsChain (fun step next => step.table ≠ next.table))
    {scope : FilterSqlScope}
    {depth : Nat}
    {sources : List SelectionContext}
    (hfound : scope.current.context.isFound sources = true)
    (hlevel : scope.current.context.level < depth)
    (hapart : ∀ step ∈ steps.head?,
      scope.current.context.tableAlias ≠ tableAlias step.table)
    (hguards : ∀ entry ∈ scope.current.guards, ∀ depth sources,
      (entry.2 depth).isUncaptured sources = true)
    {filter : FilterExpr}
    (hfilter : ∀ current depth' inner,
      (∀ outer : SelectionContext,
        (∀ table, outer.tableAlias ≠ tableAlias table) →
          outer.level < depth → outer.isFound sources = true →
            outer.isFound inner = true) →
      (filterExpr catalog { scope with current := current } depth'
        filter).isUncaptured inner = true) :
    (filterExpr catalog scope depth (steps.foldr
      (FilterSite.plain catalog).relationStepFilter filter)).isUncaptured
        sources = true := by
  induction steps generalizing scope depth sources with
  | nil => exact hfilter scope.current depth sources (fun _ _ _ h => h)
  | cons step steps ih =>
      have hchild : scope.current.context.isFound
          (existsContext step.table depth :: sources) = true :=
        SelectionContext.isFound_cons hfound (hapart step rfl) hlevel
      have hrest : (filterExpr catalog
          (bodyScope scope .relationshipPredicate
            (readableView catalog (existsContext step.table depth) [])
            scope.current)
          (depth + 1) (steps.foldr
            (FilterSite.plain catalog).relationStepFilter
            filter)).isUncaptured
              (existsContext step.table depth :: sources) = true := by
        refine ih hchain.tail SelectionContext.isFound_head
          (Nat.lt_succ_self depth) ?_ (by simp [bodyScope, readableView,
            fieldGuards]) ?_
        · intro next hnext
          cases steps with
          | nil => cases hnext
          | cons other steps =>
              obtain rfl := Option.some.inj hnext
              have hne := (List.isChain_cons_cons.mp hchain).1
              simpa [bodyScope, readableView, existsContext,
                tableAlias] using hne
        · intro current depth' inner hinner
          refine hfilter current depth' inner ?_
          intro outer halias hinside houter
          exact hinner outer halias (Nat.lt_succ_of_lt hinside)
            (SelectionContext.isFound_cons houter (halias step.table) hinside)
      have hconditions := isUncaptured_relationConditions catalog hchild
        (depth + 1) (fun entry hentry => hguards entry hentry _ _)
        step.relation
      have hlowered : filterExpr catalog scope depth
          ((FilterSite.plain catalog).relationStepFilter step
            (steps.foldr (FilterSite.plain catalog).relationStepFilter
              filter)) =
          .exists (existsContext step.table depth) step.table
            (existsConditions catalog scope depth (some step.relation)
              step.table .relationshipPredicate .current none [] (some
                (steps.foldr (FilterSite.plain catalog).relationStepFilter
                  filter))) := by
        have hexists := conditionalFilterExpr_exists catalog scope depth
          (some step.relation) step.table .relationshipPredicate .current
          none [] (some (steps.foldr
            (FilterSite.plain catalog).relationStepFilter filter))
        unfold filterExpr
        exact congrArg ConditionalFilter.filterExpr hexists
      rw [List.foldr_cons, hlowered]
      simp only [SqlExpr.isUncaptured, SqlExpr.allUncaptured_eq_all,
        existsConditions, filterConditions, List.append_nil, List.all_append,
        List.all_cons, List.all_nil, Bool.and_true, Bool.and_eq_true]
      exact ⟨hconditions, hrest⟩

/-- A filter whose references read the row source of one column scope. -/
def OnlyReads (columnScope : FilterColumnScope) (filter : FilterExpr) : Prop :=
  ∀ (scope : FilterSqlScope) depth inner,
    scope.columnSource columnScope = .raw anchorSource →
      anchorSource.isFound inner = true →
        (filterExpr catalog scope depth filter).isUncaptured inner = true

section OnlyReads

variable (columnScope : FilterColumnScope) (column : ColumnId)

theorem onlyReads_column :
    OnlyReads catalog columnScope (.column columnScope column) := by
  intro scope depth inner hsource hfound
  simp [filterExpr, conditionalFilterExpr, ConditionalFilter.filterExpr,
    ConditionalFilter.always, hsource, SqlRowView.maskedColumnExpression,
    SqlRowView.guard, SqlRowView.raw, SqlExpr.isUncaptured, hfound]

theorem onlyReads_nullTest (negated : Bool) :
    OnlyReads catalog columnScope
      (.nullTest (.column columnScope column) negated) := by
  intro scope depth inner hsource hfound
  simp [filterExpr, conditionalFilterExpr, ConditionalFilter.filterExpr,
    ConditionalFilter.always, nullTestExpr, hsource, SqlRowView.guard,
    SqlRowView.raw, SqlExpr.isUncaptured, hfound]

theorem onlyReads_memberOf (parameter : SqlParameter) (negated : Bool) :
    OnlyReads catalog columnScope
      (.membership (.column columnScope column) (.parameter parameter)
        negated) := by
  intro scope depth inner hsource hfound
  have hcolumn := onlyReads_column catalog columnScope column scope depth
    inner hsource hfound
  unfold filterExpr at hcolumn
  simpa [filterExpr, conditionalFilterExpr, ConditionalFilter.filterExpr,
    ConditionalFilter.always, SqlExpr.isUncaptured] using hcolumn

theorem onlyReads_membership (items : List LiteralValue) (negated : Bool) :
    OnlyReads catalog columnScope
      (.membership (.column columnScope column)
        (.list (items.map (fun item => .literal (.ofLiteral item))))
        negated) := by
  intro scope depth inner hsource hfound
  have hcolumn := onlyReads_column catalog columnScope column scope depth
    inner hsource hfound
  have hlowered : filterExpr catalog scope depth
      (.membership (.column columnScope column)
        (.list (items.map (fun item => .literal (.ofLiteral item))))
        negated) =
      memberListExpr
        (filterExpr catalog scope depth (.column columnScope column))
        (items.map (fun item => .literal (.ofLiteral item))) negated := by
    simp [filterExpr, conditionalFilterExpr, filterItems_literals,
      ConditionalFilter.filterExpr, ConditionalFilter.always]
  rw [hlowered]
  cases items with
  | nil => rfl
  | cons item items =>
      simp [memberListExpr, SqlExpr.isUncaptured, hcolumn]

end OnlyReads

end Uncaptured

/-- A clause below another row source.  Every column of its row holds
`current`, every column of the row above holds `above`. -/
def nestedPlace
    {S : Type}
    (guards : List (PolicyFieldTarget × (Nat → SqlExpr)))
    (current above : Datum S) : Place S where
  scope :=
    { current := ⟨clauseSource, guards⟩
      root := .raw anchorSource
      predicateSource := ⟨clauseSource, guards⟩
      parent := some (.raw anchorSource) }
  depth := 2
  env := [(clauseSource, fun _ => current), (anchorSource, fun _ => above)]

/-- Tables that hold one row, with one value in every column. -/
def uniformSession
    {S : Type}
    (engine : Engine S)
    (collection : List (Datum S))
    (value : Datum S) : Session S :=
  { engine := engine
    inputs :=
      { value := fun _ => .null
        collection := fun _ => some collection
        selected := fun _ => "=="
        dynamic := fun _ _ => .unknown }
    database := fun _ => [fun _ => value]
    binding := intended }

namespace Session

variable {S : Type} [DecidableEq S] (session : Session S)

section Plain

variable (catalog : Catalog)

/-- Among uniform tables a path from a uniform row reaches its end. -/
theorem exists_reaches_plain
    (hbinding : session.binding = intended)
    {value : Datum S}
    (hvalue : value ≠ .null)
    (hdatabase : ∀ table, session.database table = [fun _ => value])
    {steps : List ResolvedRelationStep}
    (hknown : ∀ step ∈ steps,
      (catalog.relationById step.relation).isSome = true)
    (place : Place S)
    (hplace : ∀ column, session.valueAt place column = value)
    (hguards : place.scope.current.guards = []) :
    ∃ last, session.Reaches (.plain catalog) steps place last := by
  induction steps generalizing place with
  | nil => exact ⟨place, rfl⟩
  | cons step steps ih =>
      obtain ⟨relation, hrelation⟩ :=
        Option.isSome_iff_exists.mp (hknown step (by simp))
      have hself : session.engine.compare .eq value value = .tt := by
        simp [session.engine.compare_eq hvalue hvalue]
      let next := place.enter (.plain catalog) step (fun _ => value)
      have hfollows : session.Follows (.plain catalog) step place next := by
        refine ⟨fun _ => value, by simp [hdatabase], rfl, relation, hrelation,
          ?_, ?_, ?_⟩
        · intro columns hcolumns
          rw [hplace]
          exact hself
        · simp [SqlRowView.guard, hguards]
        · simp
      obtain ⟨last, hlast⟩ := ih
        (fun other hother => hknown other (List.mem_cons_of_mem _ hother))
        next
        (session.valueAt_enter hbinding _ _ _ _)
        (by simp [next, Place.enter, readableView, fieldGuards])
      exact ⟨last, next, hfollows, hlast⟩

/-- A path of at least one step ends at a uniform row without guards. -/
theorem uniform_of_reaches
    (hbinding : session.binding = intended)
    {value : Datum S}
    (hdatabase : ∀ table, session.database table = [fun _ => value])
    {steps : List ResolvedRelationStep}
    (hsteps : steps ≠ [])
    {place last : Place S}
    (h : session.Reaches (.plain catalog) steps place last) :
    (∀ column, session.valueAt last column = value) ∧
      last.scope.current.guards = [] := by
  induction steps generalizing place with
  | nil => exact absurd rfl hsteps
  | cons step steps ih =>
      obtain ⟨next, ⟨row, hrow, hnext, -⟩, hrest⟩ := h
      subst hnext
      cases steps with
      | nil =>
          obtain rfl := hrest
          rw [hdatabase, List.mem_singleton] at hrow
          subst hrow
          exact ⟨session.valueAt_enter hbinding _ _ _ _,
            by simp [Place.enter, readableView, fieldGuards]⟩
      | cons other steps => exact ih (by simp) hrest

/-- No path leads through a relation that its source row denies. -/
theorem not_reaches_guarded
    {step : ResolvedRelationStep}
    {steps : List ResolvedRelationStep}
    {place last : Place S}
    (hguarded : ∀ depth,
      place.scope.current.guard (.relation step.relation) depth =
        some (.literal (.bool false))) :
    ¬session.Reaches (.plain catalog) (step :: steps) place last := by
  rintro ⟨next, ⟨row, -, -, relation, hrelation, -, hguard, -⟩, -⟩
  have hid := Catalog.relationById_id hrelation
  have hdenied := hguard (.literal (.bool false))
    (by simp [hid, hguarded])
  simp [Engine.literal] at hdenied

end Plain

/-- A null test of a column without guards. -/
theorem readingAt_nullTest
    (site : FilterSite)
    (place : Place S)
    (columnScope : FilterColumnScope)
    (hguards : (place.scope.columnSource columnScope).guards = [])
    (column : ColumnId)
    (negated : Bool) :
    session.readingAt site place
        (.nullTest (.column columnScope column) negated) =
      some (.ofBool
        ((session.column place.env
          (place.scope.columnSource columnScope).context column).isNull !=
            negated)) := by
  have hlowered : conditionalFilterExpr site.planner.catalog place.scope
      place.depth (.nullTest (.column columnScope column) negated) =
      .always (nullTestExpr place.scope place.depth
        (.column columnScope column)
        (filterExpr site.planner.catalog place.scope place.depth
          (.column columnScope column)) negated) := by
    rw [conditionalFilterExpr]
    rfl
  unfold readingAt
  rw [session.reading_of_always _ _ _ _ hlowered]
  simp [nullTestExpr, SqlRowView.guard, hguards, eval]

/-- A column without guards reads as stored. -/
theorem eval_filterExpr_column
    (site : FilterSite)
    (place : Place S)
    (hguards : place.scope.current.guards = [])
    (column : ColumnId) :
    session.eval place.env (filterExpr site.planner.catalog place.scope
        place.depth (.column .current column)) =
      session.valueAt place column := by
  simp [filterExpr, conditionalFilterExpr, ConditionalFilter.filterExpr,
    ConditionalFilter.always, FilterSqlScope.columnSource,
    SqlRowView.maskedColumnExpression, SqlRowView.guard, hguards, eval,
    valueAt]

theorem readingAt_memberOf
    (site : FilterSite)
    (place : Place S)
    (hguards : place.scope.current.guards = [])
    (column : ColumnId)
    (parameter : SqlParameter)
    (negated : Bool) :
    session.readingAt site place
        (.membership (.column .current column) (.parameter parameter)
          negated) =
      some (Engine.negateIf negated
        (session.engine.memberOf (session.valueAt place column)
          (session.inputs.collection parameter.path))) := by
  have hlowered : conditionalFilterExpr site.planner.catalog place.scope
      place.depth (.membership (.column .current column)
        (.parameter parameter) negated) =
      .always (.anyOf (filterExpr site.planner.catalog place.scope place.depth
        (.column .current column)) parameter negated) := by
    rw [conditionalFilterExpr]
    rfl
  unfold readingAt
  rw [session.reading_of_always _ _ _ _ hlowered,
    ← session.eval_filterExpr_column site place hguards column]
  simp [eval]

end Session

/-- The values that literals stand for, beside one that no literal names. -/
def writtenEngine : Engine (Option String) where
  string := some
  number := some
  holds := fun _ _ _ => false
  count := fun _ => none
  aggregate := fun _ _ => .null

theorem literal_ne_unwritten (item : LiteralValue) :
    writtenEngine.literal (.ofLiteral item) ≠ .scalar none := by
  cases item <;> simp [Engine.literal, FilterLiteral.ofLiteral, writtenEngine]

/-- What a predicate that reads its anchored row asks at a plain site. -/
theorem PathPredicate.ReadsAnchoredRow.admitted_iff
    {catalog : Catalog}
    {context : ClauseContext}
    {path : ScopedPath}
    {steps : List ResolvedRelationStep}
    {column : ColumnId}
    {predicate : PathPredicate}
    (h : predicate.ReadsAnchoredRow catalog context path steps column)
    {S : Type} [DecidableEq S]
    {session : Session S}
    (hbinding : session.binding = intended)
    {place : Place S}
    (hinside : place.Inside)
    (huncaptured : (predicate.conditions (.plain catalog) context false place
      path).all (SqlExpr.isUncaptured place.env.sources) = true)
    (hsupported : predicate.Supported (.plain catalog) context false path) :
    admitted (((FilterSite.plain catalog).planFilterExpr context false
        (predicate.expr path)).bind
          (session.readingAt (.plain catalog) place)) = .tt ↔
      session.Asks (.plain catalog) context false place path steps column
        predicate := by
  have hreads := h S session (.plain catalog) false place rfl hinside
    huncaptured hsupported
  rwa [session.evalAll_conditions _ _ _ _ huncaptured,
    Session.meant_of_intended hbinding] at hreads

section Unanchored

variable
  {catalog : Catalog} {context : ClauseContext} {path : ScopedPath}
  {steps : List ResolvedRelationStep} {column : ColumnId}
  (hpath : LeadsTo catalog context path steps column)
  (hchain : steps.IsChain (fun step next => step.table ≠ next.table))

section Nested

variable {S : Type} (guards : List (PolicyFieldTarget × (Nat → SqlExpr)))
  (current above : Datum S)

theorem anchored_nestedPlace
    {anchor : PathAnchor}
    (hanchor : anchor ≠ .current) :
    ((nestedPlace guards current above).anchored anchor).scope.current =
      .raw anchorSource := by
  cases anchor <;> first | rfl | contradiction

theorem inside_nestedPlace : (nestedPlace guards current above).Inside := by
  intro columnScope
  cases columnScope <;>
    simp [nestedPlace, FilterSqlScope.columnSource, SqlRowView.raw,
      clauseSource, anchorSource]

include hchain

/-- Around a predicate that reads the anchored row no reference is captured. -/
theorem isUncaptured_nestedPlace
    {anchor : PathAnchor}
    (hanchor : anchor ≠ .current)
    (hguards : ∀ entry ∈ guards, ∀ depth sources,
      (entry.2 depth).isUncaptured sources = true)
    {filter : FilterExpr}
    (hfilter : OnlyReads catalog anchor.columnScope filter) :
    (filterConditions catalog (nestedPlace guards current above).scope
        (nestedPlace guards current above).depth
        (some (steps.foldr (FilterSite.plain catalog).relationStepFilter
          filter))).all
      (SqlExpr.isUncaptured (nestedPlace guards current above).env.sources) =
        true := by
  have hsteps := isUncaptured_relationSteps catalog hchain
    (show clauseSource.isFound [clauseSource, anchorSource] = true by decide)
    (show clauseSource.level < 2 by decide)
    (fun step _ => clauseSource_ne step.table) hguards
    (fun view depth inner hinner => hfilter
      { (nestedPlace guards current above).scope with current := view } depth
      inner
      (by cases anchor <;> first | rfl | contradiction)
      (hinner anchorSource anchorSource_ne (by decide) (by decide)))
  simpa [filterConditions, filterExpr, nestedPlace, Env.sources] using hsteps

end Nested

/-- A path that does not start at its anchored row does not see the end of
the path. -/
theorem exists_end_unanchored
    (hanchor : path.anchor ≠ .current)
    {S : Type} [DecidableEq S]
    (engine : Engine S)
    (collection : List (Datum S))
    {value : Datum S}
    (hvalue : value ≠ .null)
    (hknown : ∀ step ∈ steps,
      (catalog.relationById step.relation).isSome = true)
    (hsteps : steps ≠ [])
    (guards : List (PolicyFieldTarget × (Nat → SqlExpr)))
    (current : Datum S) :
    ∃ last,
      (uniformSession engine collection value).Reaches (.plain catalog) steps
          ((nestedPlace guards current value).anchored path.anchor) last ∧
        (∀ column, (uniformSession engine collection value).valueAt last
          column = value) ∧
        last.scope.current.guards = [] := by
  have hsource := anchored_nestedPlace guards current value hanchor
  obtain ⟨last, hlast⟩ :=
    (uniformSession engine collection value).exists_reaches_plain catalog
      rfl hvalue (fun _ => rfl) hknown
      ((nestedPlace guards current value).anchored path.anchor)
      (fun column => by
        unfold Session.valueAt
        rw [hsource]
        rfl)
      (by rw [hsource]; rfl)
  obtain ⟨hvalues, hguards⟩ :=
    (uniformSession engine collection value).uniform_of_reaches catalog rfl
      (fun _ => rfl) hsteps hlast
  exact ⟨last, hlast, hvalues, hguards⟩

section Comparison

variable
  (path) (op : BinaryOp) {other : ComparedOperand} (pathFirst : Bool)
  (hrelated : other.isRelated = false)

include hrelated

/-- At a plain site operands have plans that no input removes. -/
theorem comparedOperand_plain
    (hother : other.Resolves catalog context) :
    ∃ operand,
      PathPredicate.comparedOperand (.plain catalog) context false path op
          other pathFirst = some operand ∧
        FilterSite.isAbsent operand = false := by
  cases other with
  | literal value =>
      exact ⟨.literal (.ofLiteral value), by cases pathFirst <;> rfl, rfl⟩
  | «variable» reference =>
      cases pathFirst <;> exact ⟨_, rfl, rfl⟩
  | field anchor segment =>
      obtain ⟨column, hcolumn⟩ := Option.isSome_iff_exists.mp hother
      cases anchor <;> cases pathFirst <;>
        exact ⟨_,
          by simp only [PathPredicate.comparedOperand, ComparedOperand.expr,
            FilterSite.namedOperand, FilterSite.planFilterExpr,
            FilterSite.planFilterPath, FilterSite.plain_catalog, hcolumn,
            Option.map_some, if_true, Bool.false_eq_true, if_false]
             rfl,
          rfl⟩
  | related => simp [ComparedOperand.isRelated] at hrelated

theorem isAbsent_comparison_plain
    (catalog : Catalog)
    (context : ClauseContext)
    (hop : isComparisonOperator op = true)
    (present : SqlParameter → Bool) :
    (PathPredicate.comparison op hop other pathFirst).isAbsent
      (.plain catalog) context path present = false := by
  cases other with
  | «variable» reference => cases pathFirst <;> rfl
  | literal | field => rfl
  | related => simp [ComparedOperand.isRelated] at hrelated

end Comparison

include hpath hchain

/-- Tables without rows. -/
def emptySession : Session (Option String) :=
  { uniformSession writtenEngine [] .null with database := fun _ => [] }

omit hchain in
/-- Among tables without rows no path leads anywhere. -/
theorem not_reaches_empty (start last : Place (Option String)) :
    ¬emptySession.Reaches (.plain catalog) steps start last := by
  have hpath : LeadsTo (FilterSite.plain catalog).planner.catalog context path
      steps column := hpath
  have hsteps := hpath.steps_ne_nil
  cases steps with
  | nil => exact absurd rfl hsteps
  | cons step steps =>
      rintro ⟨next, ⟨row, hrow, -⟩, -⟩
      cases hrow

omit hchain in
/-- A comparison that is not planned admits every row. -/
theorem not_reads_comparison
    {op : BinaryOp}
    (hop : isComparisonOperator op = true)
    {other : ComparedOperand}
    (hother : other.Resolves catalog context)
    {pathFirst : Bool}
    (h : ¬(PathPredicate.comparison op hop other pathFirst).Anchored path) :
    ¬(PathPredicate.comparison op hop other pathFirst).ReadsAnchoredRow
      catalog context path steps column := by
  intro hreads
  have hpath : LeadsTo (FilterSite.plain catalog).planner.catalog context path
      steps column := hpath
  let place : Place (Option String) := nestedPlace [] .null .null
  have hinside : place.Inside := inside_nestedPlace [] .null .null
  have hplan : (FilterSite.plain catalog).planFilterExpr context false
      ((PathPredicate.comparison op hop other pathFirst).expr path) =
        none := by
    cases pathFirst with
    | false => exact hpath.planFilterExpr_pathSecond false hop other
    | true =>
        have hfirst := hpath.planFilterExpr_pathFirst false hop other
        have hexpr :
            (PathPredicate.comparison op hop other true).expr path =
              .binary op (.path path) other.expr := rfl
        rw [hexpr, hfirst]
        cases hrelated : other.isRelated with
        | true =>
            cases other with
            | related other long =>
                have hnone : PathPredicate.comparedOperand (.plain catalog)
                    context false path op (.related other long) true =
                      none := by
                  have hfilter : (FilterSite.plain catalog).planFilterPath
                      context true other = none := by
                    unfold FilterSite.planFilterPath
                    split
                    · next hsegments => simp [hsegments] at long
                    · rfl
                  simp [PathPredicate.comparedOperand, ComparedOperand.expr,
                    FilterSite.namedOperand, FilterSite.planFilterExpr,
                    hfilter]
                rw [hnone]
                rfl
            | literal | «variable» | field =>
                simp [ComparedOperand.isRelated] at hrelated
        | false =>
            have hanchor : path.anchor ≠ .current :=
              fun hanchor => h ⟨hanchor, rfl, hrelated⟩
            obtain ⟨operand, hoperand, hpresent⟩ :=
              comparedOperand_plain path op true hrelated hother
            rw [hoperand]
            simp [hpresent, hanchor]
  have hbinding : emptySession.binding = intended := rfl
  have huncaptured : ((PathPredicate.comparison op hop other
      pathFirst).conditions (.plain catalog) context false place path).all
        (SqlExpr.isUncaptured place.env.sources) = true := by
    unfold PathPredicate.conditions
    rw [hplan]
    simp [filterConditions]
  cases hrelated : other.isRelated with
  | true =>
      cases other with
      | related other long =>
          have hasks := (hreads.admitted_iff hbinding hinside huncaptured
            (Or.inl rfl)).mp (by rw [hplan]; rfl)
          obtain ⟨last, hlast, -⟩ := hasks
          exact not_reaches_empty hpath _ _ hlast
      | literal | «variable» | field =>
          simp [ComparedOperand.isRelated] at hrelated
  | false =>
      obtain ⟨operand, hoperand, -⟩ :=
        comparedOperand_plain path op pathFirst hrelated hother
      have hasks := (hreads.admitted_iff hbinding hinside huncaptured
        (Or.inr (by rw [hoperand]; rfl))).mp (by rw [hplan]; rfl)
      have habsent := isAbsent_comparison_plain path op pathFirst hrelated
        catalog context hop emptySession.inputs.isPresent
      have hend : ∃ last, emptySession.Reaches (.plain catalog) steps
          (place.anchored path.anchor) last := by
        cases other with
        | related => simp [ComparedOperand.isRelated] at hrelated
        | literal | «variable» | field =>
            rcases hasks with hmissing | ⟨last, hlast, -⟩
            · rw [habsent] at hmissing
              cases hmissing
            · exact ⟨last, hlast⟩
      obtain ⟨last, hlast⟩ := hend
      exact not_reaches_empty hpath _ _ hlast

omit hchain in
/-- A comparison with an aggregate by an operator variable is not planned and
admits every row. -/
theorem not_reads_aggregated
    (operator : VariableRef)
    (source : ScopedPath)
    (function : String)
    (operand : Option ScopedPath) :
    ¬(PathPredicate.aggregated operator source function operand).ReadsAnchoredRow
      catalog context path steps column := by
  intro hreads
  have hplan : (FilterSite.plain catalog).planFilterExpr context false
      ((PathPredicate.aggregated operator source function operand).expr
        path) = none := by
    simp [PathPredicate.expr, FilterSite.planFilterExpr, FilterSite.planBinary,
      Expr.isAggregate]
  let place : Place (Option String) := nestedPlace [] .null .null
  have huncaptured : ((PathPredicate.aggregated operator source function
      operand).conditions (.plain catalog) context false place path).all
        (SqlExpr.isUncaptured place.env.sources) = true := by
    unfold PathPredicate.conditions
    rw [hplan]
    simp [filterConditions]
  have hbinding : emptySession.binding = intended := rfl
  have hinside : place.Inside := inside_nestedPlace [] .null .null
  have hasks := (hreads.admitted_iff hbinding hinside huncaptured trivial).mp
    (by rw [hplan]; rfl)
  obtain ⟨last, hlast, -⟩ := hasks
  exact not_reaches_empty hpath _ _ hlast

/-- A row source whose relation is denied stands in for the anchored row. -/
theorem not_reads_guarded
    (hanchor : path.anchor ≠ .current)
    {predicate : PathPredicate}
    (collection : List (Datum (Option String)))
    (value : Datum (Option String))
    (hvalue : value ≠ .null)
    (hsupported : predicate.Supported (.plain catalog) context false path)
    {filter : FilterExpr}
    (hplan : (FilterSite.plain catalog).planFilterExpr context false
      (predicate.expr path) =
        some (steps.foldr (FilterSite.plain catalog).relationStepFilter
          filter))
    (hreadsOnly : OnlyReads catalog path.anchor.columnScope filter)
    (hasks : ∀ place last : Place (Option String),
      (uniformSession writtenEngine collection value).Reaches
          (.plain catalog) steps (place.anchored path.anchor) last →
        (∀ column,
          (uniformSession writtenEngine collection value).valueAt last
            column = value) →
        last.scope.current.guards = [] →
        (uniformSession writtenEngine collection value).Asks (.plain catalog)
          context false place path steps column predicate) :
    ¬predicate.ReadsAnchoredRow catalog context path steps column := by
  intro hreads
  have hpath : LeadsTo (FilterSite.plain catalog).planner.catalog context path
      steps column := hpath
  have hsteps := hpath.steps_ne_nil
  obtain ⟨step, rest, hcons⟩ := List.exists_cons_of_ne_nil hsteps
  let guards : List (PolicyFieldTarget × (Nat → SqlExpr)) :=
    [(.relation step.relation, fun _ => .literal (.bool false))]
  let session := uniformSession writtenEngine collection value
  let place := nestedPlace guards value value
  have hinside : place.Inside := inside_nestedPlace guards value value
  have huncaptured : (predicate.conditions (.plain catalog) context false
      place path).all (SqlExpr.isUncaptured place.env.sources) = true := by
    unfold PathPredicate.conditions
    rw [hplan]
    refine isUncaptured_nestedPlace hchain guards value value hanchor ?_
      hreadsOnly
    simp [guards, SqlExpr.isUncaptured]
  obtain ⟨last, hlast, hvalues, hunguarded⟩ :=
    exists_end_unanchored hanchor writtenEngine collection hvalue
      hpath.relationById hsteps guards value
  have hbinding : session.binding = intended := rfl
  have hfilter := (hreads.admitted_iff hbinding hinside huncaptured
    hsupported).mpr (hasks place last hlast hvalues hunguarded)
  rw [hplan, Option.bind_some, session.readingAt_relationSteps rfl
    (.plain catalog) steps place filter hinside] at hfilter
  obtain ⟨other, hother, -⟩ := hfilter
  rw [hcons] at hother
  exact session.not_reaches_guarded catalog
    (by simp [place, nestedPlace, guards, SqlRowView.guard]) hother

section Forms

variable (hanchor : path.anchor ≠ .current)

include hanchor

theorem not_reads_nullTest (negated : Bool) :
    ¬(PathPredicate.nullTest negated).ReadsAnchoredRow catalog context path
      steps column := by
  have hplain : LeadsTo (FilterSite.plain catalog).planner.catalog context
      path steps column := hpath
  have hplan := hplain.planFilterExpr_nullTest false negated
  cases negated with
  | true =>
      refine not_reads_guarded hpath hchain hanchor [] (.scalar none)
        (by simp) trivial hplan (onlyReads_nullTest catalog _ column true) ?_
      intro place last hlast hvalues hguards
      refine Or.inr ⟨last, hlast, _, rfl, ?_⟩
      have hreading := (uniformSession writtenEngine []
        (.scalar none)).readingAt_nullTest (.plain catalog) last .current
          hguards column true
      have hvalue := hvalues column
      unfold Session.valueAt at hvalue
      rw [hreading]
      simp [FilterSqlScope.columnSource, hvalue, Datum.isNull]
  | false =>
      intro hreads
      let session := uniformSession writtenEngine [] (.scalar none)
      let place : Place (Option String) :=
        nestedPlace [] (.scalar none) .null
      have hsteps := hplain.steps_ne_nil
      have hinside : place.Inside := inside_nestedPlace [] _ _
      obtain ⟨last, hlast⟩ := session.exists_reaches_plain catalog rfl
        (by simp) (fun _ => rfl) hpath.relationById place (fun _ => rfl) rfl
      obtain ⟨hroot, hparent, houter⟩ :=
        session.outer_of_reaches rfl (.plain catalog) hlast
      have hsource : last.scope.columnSource path.anchor.columnScope =
          .raw anchorSource := by
        cases hscope : path.anchor with
        | current => exact absurd hscope hanchor
        | root => exact hroot
        | parent =>
            simp only [PathAnchor.columnScope, FilterSqlScope.columnSource,
              hparent]
            rfl
      have hnull : session.column last.env anchorSource column = .null :=
        houter anchorSource (by decide) column
      have hreading := session.readingAt_nullTest (.plain catalog) last
        path.anchor.columnScope (by rw [hsource]; rfl) column false
      have hmatches : admitted
          (((FilterSite.plain catalog).planFilterExpr context false
            ((PathPredicate.nullTest false).expr path)).bind
              (session.readingAt (.plain catalog) place)) = .tt := by
        have hexpr : (PathPredicate.nullTest false).expr path =
            .nullTest (.path path) false := rfl
        rw [hexpr, hplan, Option.bind_some,
          session.readingAt_relationSteps rfl (.plain catalog) steps place _
            hinside]
        refine ⟨last, hlast, ?_⟩
        rw [hreading, hsource]
        simp [SqlRowView.raw, hnull, Datum.isNull]
      have huncaptured : ((PathPredicate.nullTest false).conditions
          (.plain catalog) context false place path).all
            (SqlExpr.isUncaptured place.env.sources) = true := by
        have hexpr : (PathPredicate.nullTest false).expr path =
            .nullTest (.path path) false := rfl
        unfold PathPredicate.conditions
        rw [hexpr, hplan]
        exact isUncaptured_nestedPlace hchain [] _ _ hanchor (by simp)
          (onlyReads_nullTest catalog _ column false)
      have hbinding : session.binding = intended := rfl
      have hasks := (hreads.admitted_iff hbinding hinside huncaptured
        trivial).mp hmatches
      rcases hasks with habsent | ⟨final, hfinal, atom, hatom, hholds⟩
      · cases habsent
      · obtain ⟨hvalues, hguards⟩ := session.uniform_of_reaches catalog rfl
          (fun _ => rfl) hsteps hfinal
        have hvalue := hvalues column
        unfold Session.valueAt at hvalue
        have hfinalReading := session.readingAt_nullTest (.plain catalog)
          final .current hguards column false
        obtain rfl := Option.some.inj hatom
        rw [hfinalReading] at hholds
        simp [FilterSqlScope.columnSource, hvalue, Datum.isNull] at hholds

theorem not_reads_membership
    {negated : Bool}
    {items : List LiteralValue}
    (hdecided : ¬if negated then
        .null ∈ items
      else
        ∀ item ∈ items, item = .null) :
    ¬(PathPredicate.membership negated items).ReadsAnchoredRow catalog context
      path steps column := by
  have hplain : LeadsTo (FilterSite.plain catalog).planner.catalog context
      path steps column := hpath
  have hplan := hplain.planFilterExpr_membership false negated items
  -- A value that the list admits.
  obtain ⟨value, hvalue, hholds⟩ :
      ∃ value : Datum (Option String), value ≠ .null ∧
        Engine.negateIf negated (writtenEngine.member value
          (items.map (fun item =>
            writtenEngine.literal (.ofLiteral item)))) = .tt := by
    cases negated with
    | false =>
        obtain ⟨item, hitem, hnull⟩ : ∃ item ∈ items, item ≠ .null := by
          simpa using hdecided
        have hvalue : writtenEngine.literal (.ofLiteral item) ≠ .null :=
          fun heq => hnull ((literal_ofLiteral_null _ item).mp heq)
        exact ⟨_, hvalue, writtenEngine.member_eq_tt hvalue
          (List.mem_map.mpr ⟨item, hitem, rfl⟩)⟩
    | true =>
        have hnull : .null ∉ items := by simpa using hdecided
        refine ⟨.scalar none, by simp, ?_⟩
        have hvalues : ∀ value ∈ items.map (fun item =>
            writtenEngine.literal (.ofLiteral item)),
            value ≠ .null ∧ value ≠ .scalar none := by
          intro value hmem
          obtain ⟨item, hitem, rfl⟩ := List.mem_map.mp hmem
          refine ⟨fun heq => ?_, literal_ne_unwritten item⟩
          have hwritten := (literal_ofLiteral_null _ item).mp heq
          exact hnull (hwritten ▸ hitem)
        rw [writtenEngine.member_eq_ff (.scalar none) (by simp) hvalues]
        rfl
  refine not_reads_guarded hpath hchain hanchor [] value hvalue trivial
    hplan (onlyReads_membership catalog _ column items negated) ?_
  intro place last hlast hvalues hguards
  refine Or.inr ⟨last, hlast, _, rfl, ?_⟩
  rw [Session.readingAt_membership, Session.eval_filterExpr_column _ _ _
    hguards, hvalues]
  exact hholds

theorem not_reads_memberOf (negated : Bool) (reference : VariableRef) :
    ¬(PathPredicate.memberOf negated reference).ReadsAnchoredRow catalog
      context path steps column := by
  have hplain : LeadsTo (FilterSite.plain catalog).planner.catalog context
      path steps column := hpath
  have hplan := hplain.planFilterExpr_memberOf false negated reference
  let collection : List (Datum (Option String)) :=
    if negated then [] else [.scalar none]
  refine not_reads_guarded hpath hchain hanchor collection (.scalar none)
    (by simp) rfl hplan
    (onlyReads_memberOf catalog _ column _ negated) ?_
  intro place last hlast hvalues hguards
  refine Or.inr ⟨last, hlast, _, rfl, ?_⟩
  rw [Session.readingAt_memberOf _ _ _ hguards, hvalues]
  cases negated <;> rfl

end Forms

end Unanchored

/-- The paths `.boss.name`, `~.boss.name` and `.boss.boss.name`. -/
def bossPath (anchor : PathAnchor) : ScopedPath :=
  ⟨anchor, [⟨⟨none, "boss"⟩, none⟩, ⟨⟨none, "name"⟩, none⟩]⟩

def bossBossPath : ScopedPath :=
  ⟨.current, [⟨⟨none, "boss"⟩, none⟩, ⟨⟨none, "boss"⟩, none⟩,
    ⟨⟨none, "name"⟩, none⟩]⟩

def bossStep : ResolvedRelationStep :=
  ⟨"boss", ⟨0⟩, ⟨0⟩⟩

def employeeContext : ClauseContext := ⟨⟨0⟩, ⟨0⟩, none⟩

theorem bossPath_leadsTo (anchor : PathAnchor) (h : anchor ≠ .parent) :
    LeadsTo employeeCatalog employeeContext (bossPath anchor) [bossStep]
      ⟨2⟩ := by
  cases anchor with
  | current | root => exact ⟨by decide, rfl, rfl⟩
  | parent => exact absurd rfl h

/-- The test `== "Bob"` of a path. -/
def isBob : PathPredicate :=
  .comparison (.comparison .eq) rfl (.literal (.string "Bob")) true

def employee (id boss name : Datum String) : Row String := fun column =>
  match column.index with
  | 0 => id
  | 1 => boss
  | _ => name

/-- The first employee works for the second, who has no name and works for the
third. -/
def cid : Row String := employee (.scalar "3") (.scalar "2") (.scalar "Cid")

def unnamed : Row String := employee (.scalar "2") (.scalar "1") .null

def bob : Row String := employee (.scalar "1") .null (.scalar "Bob")

def employeeSession : Session String :=
  { accountSession with database := fun _ => [cid, unnamed, bob] }

/-- The selection `employees` at one of them. -/
def employeePlace (row : Row String) : Place String where
  scope := .raw clauseSource
  depth := 1
  env := [(clauseSource, row)]

/-- The conditions of a predicate hold at an employee, by SQL's rule. -/
def Admits
    (row : Row String)
    (path : ScopedPath)
    (predicate : PathPredicate) : Prop :=
  employeeSession.written.evalAll (employeePlace row).env
    (predicate.conditions (.plain employeeCatalog) employeeContext false
      (employeePlace row) path) = .tt

/-- What a predicate on the name at the end of a path asks at an employee. -/
def IsAsked
    (row : Row String)
    (path : ScopedPath)
    (steps : List ResolvedRelationStep)
    (predicate : PathPredicate) : Prop :=
  employeeSession.meant.Asks (.plain employeeCatalog) employeeContext false
    (employeePlace row) path steps ⟨2⟩ predicate

/-- One step to the boss of an employee. -/
theorem follows_boss
    {place : Place String}
    {row : Row String}
    (hguards : place.scope.current.guards = [])
    (hmem : row ∈ employeeSession.database ⟨0⟩)
    (hequal : employeeSession.engine.compare .eq (row ⟨0⟩)
      (employeeSession.meant.valueAt place ⟨1⟩) = .tt) :
    employeeSession.meant.Follows (.plain employeeCatalog) bossStep place
      (place.enter (.plain employeeCatalog) bossStep row) := by
  refine ⟨row, hmem, rfl, _, rfl, ?_, ?_, rfl⟩
  · intro columns hcolumns
    obtain rfl := List.mem_singleton.mp hcolumns
    exact hequal
  · simp [SqlRowView.guard, hguards]

end Dsql
