import Dsql.Sql.FieldMeaning

/-!
# The meaning of rendered aggregates

An aggregate reads the rows of its group, which are the admitted rows or those
of one key.
-/

namespace Dsql

namespace Postgres

open Logic Results

/-! ## Admitted rows -/

section Admitted

variable {S : Type} [DecidableEq S] {server : Server S} {reading : Reading S}

theorem results_select
    {parts : List Sql}
    {meanings : List (SqlMeaning S)}
    (h : parts.map (server.meaning reading) = meanings)
    (scope : Scope S) :
    (server.meaning reading (.node .select parts)).results scope =
      SqlMeaning.select meanings scope := by
  rw [Server.meaning_node]
  show SqlMeaning.select (parts.map (server.meaning reading)) scope = _
  rw [h]

theorem meaning_fromTable (table : TableId) (name : Alias) :
    server.meaning reading (.node (.fromTable table name) []) =
      .source (fun scope => (server.database table).map (scope.enter name)) :=
  Server.meaning_node server reading _ _

/-- Conditions keep the rows that are admitted. -/
theorem filter_admitted
    {filters : List Sql}
    {exprs : List SqlExpr}
    {scope : Scope S}
    (h : List.Forall₂ (fun sql expr =>
      server.Means reading sql expr (scope.rows.length + 1)) filters exprs)
    (name : Alias)
    (table : TableId) :
    ((server.database table).map (scope.enter name)).filter (fun row =>
        (filters.map (conditionHolds server reading)).all
          (fun condition => condition row)) =
      (server.session.rowsWhere scope.rows ⟨name, scope.rows.length⟩ table
        exprs).map (scope.enter name) := by
  rw [List.filter_map]
  refine congrArg (List.map _) (List.filter_congr fun row _ => ?_)
  exact all_conditionHolds h (List.length_cons)

end Admitted

/-! ## Aggregated fields -/

section Fields

variable {S : Type} [DecidableEq S]

/-- A value that reads the rows of a group. -/
structure AggregateReads
    (server : Server S)
    (reading : Reading S)
    (context : SelectionContext)
    (sql : Sql)
    (value : Env S → List (Row S) → Datum S) : Prop where
  aggregated : (server.meaning reading sql).aggregated = true
  value : ∀ (env : Env S) rows (place : Row S → Scope S) scope,
    env.length = context.level →
      (∀ row, (place row).rows = (context, row) :: env) →
        (server.meaning reading sql).read (rows.map place) scope =
          .datum (value env rows)

variable {server : Server S} {cases : OfferedCases} (catalog : Catalog)
  {view : SqlRowView} {lowered : Dsql.SqlRowView}

theorem aggregateReads_function
    {reading : Reading S}
    {sql : Sql}
    {column : ColumnId}
    (h : server.Means reading sql
      (lowered.maskedColumnExpression (lowered.context.level + 1) column)
      (lowered.context.level + 1))
    (function : AggregateFunction) :
    AggregateReads server reading lowered.context
      (.node (.function function) [sql])
      (fun env rows => server.engine.aggregateValue function
        (rows.map (server.columnValue innermost env lowered column))) := by
  refine ⟨by rw [Server.meaning_node]; rfl, ?_⟩
  intro env rows place scope hdepth hrows
  have hvalues : (rows.map place).map (server.meaning reading sql).datum =
      rows.map (server.columnValue innermost env lowered column) := by
    rw [List.map_map]
    exact List.map_congr_left fun row _ =>
      ReadsRow.of_means h (place row) env row hdepth (hrows row)
  rw [Server.meaning_node, List.map_singleton]
  show Doc.datum (server.engine.aggregateValue function
    ((rows.map place).map (server.meaning reading sql).datum)) = _
  rw [hvalues]

theorem aggregateReads_countRows
    (reading : Reading S)
    (context : SelectionContext) :
    AggregateReads server reading context (.node .countRows [])
      (fun _ rows => .scalar (server.engine.count rows.length)) := by
  refine ⟨by rw [Server.meaning_node]; rfl, ?_⟩
  intro env rows place scope hdepth hrows
  rw [Server.meaning_node]
  show Doc.datum (.scalar (server.engine.count (rows.map place).length)) = _
  rw [List.length_map]

theorem aggregateReads_anyRows
    (reading : Reading S)
    (context : SelectionContext) :
    AggregateReads server reading context (.node .anyRows [])
      (fun _ rows => .bool !rows.isEmpty) := by
  refine ⟨by rw [Server.meaning_node]; rfl, ?_⟩
  intro env rows place scope hdepth hrows
  rw [Server.meaning_node]
  show Doc.datum (.bool !(rows.map place).isEmpty) = _
  rw [List.isEmpty_map]

/-- An aggregate means the aggregate of the rows of its group. -/
theorem aggregateValueExpression_means
    (h : view.Means server cases lowered)
    (field : AggregateProjection) :
    Yields cases
      (aggregateValueExpression catalog view field.function field.operand)
      (fun final sql => ∀ reading, ReadsAs server final true reading →
        AggregateReads server reading lowered.context sql
          (fun env rows =>
            server.aggregateDatum innermost env lowered field rows)) := by
  obtain ⟨function, operand, outputName, dataType, nullable⟩ := field
  unfold aggregateValueExpression
  cases operand with
  | none =>
      show Yields cases (pure none >>= _) _
      rw [pure_bind]
      cases function with
      | count =>
          exact Yields.done (fun final reading hreads =>
            aggregateReads_countRows reading lowered.context)
      | «exists» =>
          exact Yields.done (fun final reading hreads =>
            aggregateReads_anyRows reading lowered.context)
      | _ => exact Yields.fails _
  | some columnId =>
      have hcolumn := maskedColumnExpression_means catalog
        (lowered.context.level + 1) h columnId
      show Yields cases ((maskedColumnExpression catalog view columnId >>=
        fun operand => pure (some operand)) >>= _) _
      rw [bind_assoc]
      cases function with
      | «exists» =>
          refine Yields.map hcolumn ?_
          intro final expression hexpression reading hreads
          exact aggregateReads_anyRows reading lowered.context
      | _ =>
          refine Yields.map hcolumn ?_
          intro final expression hexpression reading hreads
          exact aggregateReads_function
            (hexpression reading hreads.static) _

/-- A named aggregate under its public encoding. -/
structure AggregateFieldMeans
    (server : Server S)
    (reading : Reading S)
    (lowered : Dsql.SqlRowView)
    (field : AggregateProjection)
    (named : String × Sql) : Prop where
  name : named.1 = field.outputName
  reads : AggregateReads server reading lowered.context named.2
    (fun env rows => server.publicAggregate field.function field.operand
      (server.aggregateDatum innermost env lowered field rows))

theorem aggregateField_means
    (h : view.Means server cases lowered)
    (field : AggregateProjection) :
    Yields cases (aggregateField catalog view field)
      (fun final named => ∀ reading, ReadsAs server final true reading →
        AggregateFieldMeans server reading lowered field named) := by
  unfold aggregateField
  refine Yields.map (aggregateValueExpression_means catalog h field) ?_
  intro final sql hsql reading hreads
  obtain ⟨haggregated, hvalue⟩ := hsql reading hreads
  refine ⟨rfl, ?_, ?_⟩
  · rw [Server.meaning_node, List.map_singleton]
    show [server.meaning reading sql].any SqlMeaning.aggregated = true
    rw [List.any_cons, haggregated]
    rfl
  · intro env rows place scope hdepth hrows
    rw [Server.meaning_node, List.map_singleton]
    show Doc.datum (server.publicAggregate field.function field.operand
      ((server.meaning reading sql).read (rows.map place) scope).toDatum) = _
    rw [hvalue env rows place scope hdepth hrows]
    rfl

section Lists

variable {reading : Reading S} {fields : List AggregateProjection}
  {named : List (String × Sql)}

theorem readFields_aggregates
    (h : List.Forall₂ (AggregateFieldMeans server reading lowered) fields named)
    {env : Env S}
    (rows : List (Row S))
    {place : Row S → Scope S}
    (scope : Scope S)
    (hdepth : env.length = lowered.context.level)
    (hrows : ∀ row, (place row).rows = (lowered.context, row) :: env) :
    readFields server reading named (rows.map place) scope =
      server.aggregateFields innermost env lowered fields rows := by
  unfold readFields Server.aggregateFields
  induction h with
  | nil => rfl
  | cons hfield _ ih =>
      rw [List.map_cons, List.map_cons, ih, hfield.name,
        hfield.reads.value env rows place scope hdepth hrows]

theorem any_aggregated_aggregates
    (h : List.Forall₂ (AggregateFieldMeans server reading lowered) fields
      named) :
    named.any (fun field => (server.meaning reading field.2).aggregated) =
      !fields.isEmpty := by
  cases h with
  | nil => rfl
  | cons hfield _ =>
      rw [List.any_cons, hfield.reads.aggregated]
      rfl

end Lists

end Fields

/-! ## Summaries -/

section Summaries

variable {S : Type} [DecidableEq S] (server : Server S)
  (cases : OfferedCases)

/-- A query that answers the same in every scope with the same rows. -/
def YieldsAnswers
    (rendering : Rendering Sql)
    (depth : Nat)
    (answers : Env S → List (Outputs S)) : Prop :=
  Yields cases rendering (fun final sql => ∀ reading,
    ReadsAs server final true reading →
      ∀ scope : Scope S, scope.rows.length = depth →
        ((server.meaning reading sql).results scope).map ResultRow.outputs =
          answers scope.rows)

variable {server cases} {reading : Reading S} {lowered : Dsql.SqlRowView}

/-- The `select` of aggregates answers with the summaries of its rows. -/
theorem select_summaries
    {select : SqlMeaning.SelectParts S}
    (hkeys : select.keys = [])
    (hlimits : select.limits = [])
    (hoffsets : select.offsets = [])
    {fields : List AggregateProjection}
    (haggregated : select.columns.any (fun column => column.2.aggregated) =
      !fields.isEmpty)
    {scope : Scope S}
    {rows : List (Row S)}
    {place : Row S → Scope S}
    (hrows : select.rows scope = rows.map place)
    {answer : List (Row S) → Outputs S}
    (hanswer : ∀ group inner, select.outputs (group.map place) inner =
      answer group)
    (hempty : fields = [] → ∀ group, answer group = answer []) :
    (SqlMeaning.select select.parts scope).map ResultRow.outputs =
      (summaries fields rows).map answer := by
  rw [select.select_parts hkeys, select.cut_of_nil hlimits hoffsets,
    haggregated, hrows]
  unfold summaries
  cases fields with
  | cons field fields =>
      show [select.outputs (rows.map place) scope] = [answer rows]
      rw [hanswer]
  | nil =>
      show (((Comparison.lexAll select.orders).sort (rows.map place)).map
        _).map ResultRow.outputs = (rows.map (fun row => [row])).map answer
      have hconst : ∀ inner, select.outputs [] inner = answer [] :=
        fun inner => hanswer [] inner
      rw [List.map_map, List.map_map]
      have hleft : ResultRow.outputs ∘ (fun row : Scope S =>
          (⟨row, select.outputs [] row⟩ : ResultRow S)) =
            fun _ => answer [] := funext hconst
      have hright : answer ∘ (fun row : Row S => [row]) =
          fun _ => answer [] := funext fun row => hempty rfl [row]
      rw [hleft, hright, List.map_const', List.map_const',
        (Comparison.sort_perm _ _).length_eq, List.length_map]

/-- The `select` of a table with conditions. -/
def filteredParts
    (server : Server S)
    (reading : Reading S)
    (table : TableId)
    (name : Alias)
    (filters : List Sql)
    (keys : List ((Option String × SqlMeaning S) × (Scope S → Datum S)))
    (columns : List (Option String × SqlMeaning S)) :
    SqlMeaning.SelectParts S where
  source scope := (server.database table).map (scope.enter name)
  conditions := filters.map (conditionHolds server reading)
  keys := keys
  columns := columns

variable (table : TableId) (name : Alias)
  (keys : List ((Option String × SqlMeaning S) × (Scope S → Datum S)))
  (columns : List (Option String × SqlMeaning S))

theorem rows_filteredParts
    {filters : List Sql}
    {exprs : List SqlExpr}
    {scope : Scope S}
    (h : List.Forall₂ (fun sql expr =>
      server.Means reading sql expr (scope.rows.length + 1)) filters exprs) :
    (filteredParts server reading table name filters keys columns).rows scope =
      (server.session.rowsWhere scope.rows ⟨name, scope.rows.length⟩ table
        exprs).map (scope.enter name) := by
  unfold SqlMeaning.SelectParts.rows
  rw [← filter_admitted h name table]
  refine congrArg (List.filter _) ?_
  exact List.flatMap_singleton' _

theorem map_filteredParts
    (filters : List Sql)
    {outputs : List Sql}
    (h : outputs.map (server.meaning reading) =
      keys.flatMap SqlMeaning.SelectParts.keyParts ++
        columns.map (fun column => .field column.1 column.2)) :
    ((Sql.node (.fromTable table name) [] :: conditions filters) ++
        outputs).map (server.meaning reading) =
      (filteredParts server reading table name filters keys columns).parts := by
  rw [List.map_append, List.map_cons, map_conditions, meaning_fromTable, h]
  simp [SqlMeaning.SelectParts.parts, filteredParts]

theorem ungrouped_answers
    {filters : List Sql}
    {exprs : List SqlExpr}
    {scope : Scope S}
    (hfilters : List.Forall₂ (fun sql expr =>
      server.Means reading sql expr (scope.rows.length + 1)) filters exprs)
    (hcontext : lowered.context = ⟨name, scope.rows.length⟩)
    {fields : List AggregateProjection}
    {named : List (String × Sql)}
    (hfields : List.Forall₂ (AggregateFieldMeans server reading lowered) fields
      named)
    (generation : SelectionGenerationContext) :
    ((server.meaning reading (.node .select
        ((Sql.node (.fromTable table name) [] :: conditions filters) ++
          objectOrFields generation named))).results scope).map
            ResultRow.outputs =
      (summaries fields (server.session.rowsWhere scope.rows
        ⟨name, scope.rows.length⟩ table exprs)).map (fun group =>
          objectOrColumns generation.publicResultAlias generation.flattened
            (server.aggregateFields innermost scope.rows lowered fields group)) := by
  have hparts := map_filteredParts table name [] _ filters
    (map_objectOrFields server reading generation named)
  rw [results_select hparts]
  refine select_summaries rfl rfl rfl ?_
    (rows_filteredParts table name [] _ hfilters) ?_ ?_
  · exact (aggregated_outputColumns server reading _ _ named).trans
      (any_aggregated_aggregates hfields)
  · intro group inner
    have hrows : ∀ row, (scope.enter name row).rows =
        (lowered.context, row) :: scope.rows := by
      intro row
      rw [hcontext]
      rfl
    rw [← readFields_aggregates hfields group inner (by rw [hcontext]) hrows]
    exact read_outputColumns server reading _ _ named _ inner
  · rintro rfl group
    rfl

/-! ## Groups -/

/-- A column that rows are grouped by, with the value that groups them. -/
structure KeyMeans
    (server : Server S)
    (lowered : Dsql.SqlRowView)
    (key : AggregateGroupProjection)
    (entry : (Option String × SqlMeaning S) × (Scope S → Datum S)) :
    Prop where
  name : entry.1.1 = some key.outputName
  column : ∀ (env : Env S) row (scope : Scope S) group,
    env.length = lowered.context.level →
      scope.rows = (lowered.context, row) :: env →
        entry.1.2.read group scope = .datum (server.publicColumn key.column
          (server.columnValue innermost env lowered key.column row))
  value : ReadsRow lowered.context entry.2
    (fun env => server.columnValue innermost env lowered key.column)

section Keys

variable (catalog : Catalog) {view : SqlRowView}

theorem groupKey_means
    (h : view.Means server cases lowered)
    (key : AggregateGroupProjection) :
    Yields cases (groupKey catalog view key)
      (fun final terms => ∀ reading, ReadsAs server final true reading →
        ∃ entry : (Option String × SqlMeaning S) × (Scope S → Datum S),
          terms.map (server.meaning reading) =
              SqlMeaning.SelectParts.keyParts entry ∧
            KeyMeans server lowered key entry) := by
  unfold groupKey
  refine Yields.map (maskedColumnExpression_means catalog
    (lowered.context.level + 1) h key.column) ?_
  intro final grouped hgrouped reading hreads
  have hmeans := hgrouped reading hreads.static
  refine ⟨((some key.outputName,
      server.meaning reading (.node (.publicColumn key.column) [grouped])),
    (server.meaning reading grouped).datum), ?_, rfl, ?_, ?_⟩
  · rw [List.map_cons, List.map_singleton, Server.meaning_node,
      Server.meaning_node server reading .groupBy]
    rfl
  · intro env row scope group hdepth hrows
    exact publicColumn_read hmeans hdepth hrows group
  · exact ReadsRow.of_means hmeans

theorem groupKeys_means
    (h : view.Means server cases lowered)
    (groupKeys : List AggregateGroupProjection) :
    Yields cases (groupKeys.mapM (groupKey catalog view))
      (fun final terms => ∀ reading, ReadsAs server final true reading →
        ∃ entries, terms.flatten.map (server.meaning reading) =
            entries.flatMap SqlMeaning.SelectParts.keyParts ∧
          List.Forall₂ (KeyMeans server lowered) groupKeys entries) := by
  refine (Yields.mapM groupKeys
    (fun key _ => groupKey_means catalog h key)).imp ?_
  intro final terms hterms reading hreads
  induction hterms with
  | nil => exact ⟨[], rfl, .nil⟩
  | cons hterm _ ih =>
      obtain ⟨entry, hentry, hmeans⟩ := hterm reading hreads
      obtain ⟨entries, hentries, hkeys⟩ := ih
      refine ⟨entry :: entries, ?_, .cons hmeans hkeys⟩
      rw [List.flatten_cons, List.map_append, hentry, hentries,
        List.flatMap_cons]

end Keys

section Groups

variable {groupKeys : List AggregateGroupProjection}
  {entries : List ((Option String × SqlMeaning S) × (Scope S → Datum S))}
  {env : Env S} {place : Row S → Scope S}

/-- Rows have the keys of their group. -/
theorem keys_value
    (h : List.Forall₂ (KeyMeans server lowered) groupKeys entries)
    (hdepth : env.length = lowered.context.level)
    (hrows : ∀ row, (place row).rows = (lowered.context, row) :: env)
    (row : Row S) :
    entries.map (fun entry => entry.2 (place row)) =
      groupKeys.map (fun key => server.columnValue innermost env lowered key.column row) := by
  induction h with
  | nil => rfl
  | cons hkey _ ih =>
      rw [List.map_cons, List.map_cons, ih,
        hkey.value (place row) env row hdepth (hrows row)]

theorem keys_columns
    (h : List.Forall₂ (KeyMeans server lowered) groupKeys entries)
    (hdepth : env.length = lowered.context.level)
    (hrows : ∀ row, (place row).rows = (lowered.context, row) :: env)
    (first : Row S)
    (rest : List (Row S))
    (group : List (Scope S)) :
    (entries.map Prod.fst).map (fun column =>
        (column.1, column.2.read group (place first))) =
      (server.keyFields innermost env lowered groupKeys (first :: rest)).map
        (fun field => (some field.1, field.2)) := by
  unfold Server.keyFields
  induction h with
  | nil => rfl
  | cons hkey _ ih =>
      rw [List.map_cons, List.map_cons, List.map_cons, List.map_cons, ih,
        hkey.name, hkey.column env first (place first) group hdepth
          (hrows first)]
      rfl

variable {fields : List AggregateProjection} {named : List (String × Sql)}

/-- The columns of a group, read at its first row. -/
theorem outputs_group
    {filters : List Sql}
    (hkeys : List.Forall₂ (KeyMeans server lowered) groupKeys entries)
    (hfields : List.Forall₂ (AggregateFieldMeans server reading lowered) fields
      named)
    (hdepth : env.length = lowered.context.level)
    (hrows : ∀ row, (place row).rows = (lowered.context, row) :: env)
    (first : Row S)
    (rest : List (Row S)) :
    (filteredParts server reading table name filters entries
        (named.map (fun field =>
          (some field.1, server.meaning reading field.2)))).outputs
            ((first :: rest).map place) (place first) =
      objectOrColumns none true
        (server.keyFields innermost env lowered groupKeys (first :: rest) ++
          server.aggregateFields innermost env lowered fields (first :: rest)) := by
  have haggregates := readFields_aggregates hfields (first :: rest)
    (place first) hdepth hrows
  have hcolumns := keys_columns hkeys hdepth hrows first rest
    ((first :: rest).map place)
  unfold SqlMeaning.SelectParts.outputs objectOrColumns
  rw [if_pos rfl, List.map_append, List.map_append]
  refine congrArg₂ (· ++ ·) hcolumns ?_
  rw [← haggregates]
  unfold readFields
  rw [List.map_map]
  exact List.map_map

/-- The grouped query answers with one row for each group. -/
theorem groups_answers
    {aggregate : AggregatePlan}
    {filters : List Sql}
    {exprs : List SqlExpr}
    {scope : Scope S}
    (hfilters : List.Forall₂ (fun sql expr =>
      server.Means reading sql expr (scope.rows.length + 1)) filters exprs)
    (hcontext : lowered.context = ⟨name, scope.rows.length⟩)
    {terms : List Sql}
    (hterms : terms.map (server.meaning reading) =
      entries.flatMap SqlMeaning.SelectParts.keyParts)
    (hkeys : List.Forall₂ (KeyMeans server lowered) aggregate.groupKeys entries)
    (hfields : List.Forall₂ (AggregateFieldMeans server reading lowered)
      aggregate.fields named) :
    ((server.meaning reading (.node .select
        ((Sql.node (.fromTable table name) [] :: conditions filters) ++ terms ++
          exportedFields false named))).results scope).map ResultRow.outputs =
      (server.groupsOf innermost scope.rows lowered aggregate
        (server.session.rowsWhere scope.rows ⟨name, scope.rows.length⟩ table
          exprs)).map (server.groupOutputs innermost scope.rows lowered aggregate) := by
  have hrows : ∀ row, (scope.enter name row).rows =
      (lowered.context, row) :: scope.rows := by
    intro row
    rw [hcontext]
    rfl
  have hdepth : scope.rows.length = lowered.context.level := by rw [hcontext]
  have houtputs : (terms ++ exportedFields false named).map
      (server.meaning reading) =
        entries.flatMap SqlMeaning.SelectParts.keyParts ++
          (named.map (fun field =>
            (some field.1, server.meaning reading field.2))).map
              (fun column => .field column.1 column.2) := by
    rw [List.map_append, hterms, map_exportedFields, List.map_map]
    rfl
  have hparts := map_filteredParts table name entries _ filters houtputs
  rw [List.append_assoc, results_select hparts]
  unfold Server.groupsOf
  cases hempty : aggregate.groupKeys with
  | nil =>
      rw [hempty] at hkeys
      cases hkeys
      refine select_summaries rfl rfl rfl ?_
        (rows_filteredParts table name [] _ hfilters) ?_ ?_
      · refine Eq.trans ?_ (any_aggregated_aggregates hfields)
        exact List.any_map
      · intro group inner
        unfold SqlMeaning.SelectParts.outputs Server.groupOutputs
          objectOrColumns
        rw [hempty, ← readFields_aggregates hfields group inner hdepth hrows,
          if_pos rfl]
        show _ = (readFields server reading named (group.map _) inner).map _
        unfold readFields
        rw [List.map_map]
        exact List.map_map
      · intro hnone group
        unfold Server.groupOutputs
        rw [hempty, hnone]
        rfl
  | cons key keys =>
      have hentries : entries ≠ [] := by
        rintro rfl
        rw [hempty] at hkeys
        cases hkeys
      rw [SqlMeaning.SelectParts.select_groups _ hentries rfl rfl,
        rows_filteredParts table name entries _ hfilters, groupsBy_map,
        List.map_map, List.map_map]
      have hkey : (fun row => entries.map (fun entry => entry.2 row)) ∘
          scope.enter name = fun row => aggregate.groupKeys.map (fun key =>
            server.columnValue innermost scope.rows lowered key.column row) :=
        funext (keys_value hkeys hdepth hrows)
      show (groupsBy ((fun row => entries.map (fun entry => entry.2 row)) ∘
        scope.enter name) _).map _ = _
      rw [hkey, ← hempty, if_neg (by simp [hempty])]
      refine List.map_congr_left fun group hgroup => ?_
      obtain ⟨first, rest, rfl⟩ :=
        List.exists_cons_of_ne_nil (ne_nil_of_mem_groupsBy hgroup)
      exact outputs_group table name hkeys hfields hdepth hrows first rest

end Groups

/-- The columns of a derived row as the fields of an object. -/
theorem readFields_names
    (table : DerivedTable)
    (names : List String)
    (scope : Scope S)
    (outputs : Outputs S) :
    readFields server reading
        (names.map (fun name => (name, Sql.node (.output table (some name)) [])))
        [] (scope.join table outputs) =
      namedColumns names outputs := by
  unfold readFields namedColumns
  rw [List.map_map]
  refine List.map_congr_left fun name _ => ?_
  rw [Function.comp_apply, Server.meaning_node]
  exact congrArg (Prod.mk name) (Scope.output_join scope table outputs _)

/-- The array of the groups of a query. -/
def groupArray (context : Alias) (names : List String) : Sql :=
  .node .coalesceEmpty [.node .jsonAgg
    [jsonBuildObject (names.map (fun name =>
      (name, Sql.node (.output (.groups context) (some name)) [])))]]

variable (server reading) in
theorem array_of_groups
    (grouped : Sql)
    (context : Alias)
    (names : List String)
    (resultName : Option String)
    (scope : Scope S) :
    ((server.meaning reading (.node .select
        [.node (.fromGroups context) [grouped],
          .node (.field resultName) [groupArray context names]])).results
            scope).map ResultRow.outputs =
      [[(resultName, .array
        ((((server.meaning reading grouped).results scope).map
          ResultRow.outputs).map
            (fun outputs => .object (namedColumns names outputs))))]] := by
  have hparts : [.node (.fromGroups context) [grouped],
      .node (.field resultName) [groupArray context names]].map
        (server.meaning reading) =
      SqlMeaning.SelectParts.parts
        { source := SqlMeaning.joinedResults (server.meaning reading grouped)
            (.groups context)
          conditions := []
          columns := [(resultName,
            server.meaning reading (groupArray context names))] } := by
    rw [List.map_cons, List.map_singleton, Server.meaning_node,
      Server.meaning_node server reading (.field resultName)]
    rfl
  rw [results_select hparts, SqlMeaning.SelectParts.select_aggregate _ rfl rfl
    (aggregated_array server reading _ _)]
  unfold groupArray SqlMeaning.SelectParts.rows
  have horders : ([] : List Sql).map (server.meaning reading) =
      ([] : List (Comparison (Scope S))).map SqlMeaning.order := rfl
  rw [read_array server reading horders, Comparison.lexAll_nil,
    Comparison.sort_trivial]
  show [[(resultName, Doc.array (((List.flatMap (fun row => [row])
    (SqlMeaning.joinedResults (server.meaning reading grouped)
      (.groups context) scope)).filter (fun _ => true)).map _))]] = _
  rw [List.flatMap_singleton', List.filter_true]
  unfold SqlMeaning.joinedResults
  rw [List.map_map, List.map_map]
  congr 4
  refine List.map_congr_left fun result _ => ?_
  rw [Function.comp_apply, read_jsonBuildObject, readFields_names]
  rfl

/-! ## Rendered aggregates -/

section Rendered

variable (catalog : Catalog) {view : SqlRowView}

theorem generateGroupedAggregate_means
    (hview : view.Means server cases lowered)
    (filters : List Sql)
    (aggregate : AggregatePlan)
    (hmode : aggregate.mode = .grouped)
    (resultName : Option String)
    (flattened : Bool) :
    Yields cases
      (generateGroupedAggregate catalog view
        (.node (.fromTable table name) [] :: conditions filters) aggregate
        resultName)
      (fun final sql => ∀ reading, ReadsAs server final true reading →
        ∀ (scope : Scope S) exprs,
          lowered.context = ⟨name, scope.rows.length⟩ →
          List.Forall₂ (fun sql expr =>
            server.Means reading sql expr (scope.rows.length + 1)) filters
              exprs →
          ((server.meaning reading sql).results scope).map ResultRow.outputs =
            server.aggregateAnswers innermost scope.rows lowered aggregate resultName
              flattened (server.session.rowsWhere scope.rows
                ⟨name, scope.rows.length⟩ table exprs)) := by
  have hfields := Yields.mapM aggregate.fields (fun field _ =>
    aggregateField_means catalog hview field)
  unfold generateGroupedAggregate
  refine Yields.bind (groupKeys_means catalog hview aggregate.groupKeys)
    fun terms => Yields.map hfields ?_
  intro final named hnamed hterms reading hreads scope exprs hcontext hfilters
  obtain ⟨entries, hentries, hkeys⟩ := hterms reading hreads
  have hfields := hnamed.imp fun field named h => h reading hreads
  have hgroups := groups_answers table name hfilters hcontext hentries hkeys
    hfields
  have harray := array_of_groups server reading
    (.node .select ((Sql.node (.fromTable table name) [] ::
      conditions filters) ++ terms.flatten ++ exportedFields false named))
    view.context (Server.aggregateNames aggregate) resultName scope
  unfold Server.aggregateAnswers
  rw [hmode]
  refine harray.trans ?_
  rw [hgroups, List.map_map]
  rfl

/-- An aggregate answers with the summaries or groups of its rows. -/
theorem generateAggregate_means
    {source : CollectionSource}
    {generation : SelectionGenerationContext}
    {position : SelectionPosition}
    (hsource : SourceFits cases source)
    (hgeneration : generation.Means server cases position)
    (aggregate : AggregatePlan)
    (path : List AliasSegment)
    (depth : Nat) :
    YieldsAnswers server cases
      (generateAggregate catalog source aggregate path generation) depth
      (fun env => server.aggregateAnswers innermost env
        (readableView catalog ⟨⟨path⟩, depth⟩ source.fieldFilters) aggregate
        generation.publicResultAlias generation.flattened
        (server.admittedRows innermost catalog env source ⟨⟨path⟩, depth⟩ position)) := by
  have hview : SqlRowView.Means server cases
      (readable catalog ⟨path⟩ source.fieldFilters)
      (readableView catalog ⟨⟨path⟩, depth⟩ source.fieldFilters) :=
    readable_means catalog hsource.fields ⟨⟨path⟩, depth⟩
  unfold generateAggregate
  refine table_bind catalog fun current hcurrent => ?_
  rw [hcurrent]
  refine Yields.bind (parentCondition_means catalog hgeneration
    ⟨⟨path⟩, depth⟩ (depth + 1)) fun correlation =>
      Yields.bind (collectionFilters_means catalog hsource hgeneration
        ⟨⟨path⟩, depth⟩ hview (depth + 1)) fun filters => ?_
  cases hmode : aggregate.mode with
  | grouped =>
      refine (generateGroupedAggregate_means source.table ⟨path⟩ catalog hview
        (correlation ++ filters) aggregate hmode generation.publicResultAlias
        generation.flattened).imp ?_
      rintro final sql hsql hfilters hcorrelation reading hreads scope rfl
      exact hsql reading hreads scope _ rfl
        (List.rel_append (hcorrelation reading hreads)
          (hfilters reading hreads))
  | ungrouped =>
      have hfields := Yields.mapM aggregate.fields (fun field _ =>
        aggregateField_means catalog hview field)
      refine Yields.map hfields ?_
      rintro final named hnamed hfilters hcorrelation reading hreads scope rfl
      have hfields : List.Forall₂ (AggregateFieldMeans server reading
          (readableView catalog ⟨⟨path⟩, scope.rows.length⟩
            source.fieldFilters)) aggregate.fields named :=
        hnamed.imp fun field named h => h reading hreads
      unfold Server.aggregateAnswers
      rw [hmode]
      exact ungrouped_answers source.table ⟨path⟩
        (List.rel_append (hcorrelation reading hreads)
          (hfilters reading hreads)) rfl hfields generation

end Rendered

end Summaries

end Postgres

end Dsql
