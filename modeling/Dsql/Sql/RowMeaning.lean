import Dsql.Sql.AggregateMeaning

/-!
# The meaning of rendered rows

A collection reads its rows from its table or from a subquery that orders and
limits them first.  Both sort rows beside the rows of their relations in the
written order, in which an array sorts them once more.
-/

namespace Dsql

namespace Postgres

open Logic Results SqlMeaning

section Rows

variable {S : Type} [DecidableEq S] (server : Server S)
  (cases : OfferedCases) (options : PostgresSqlOptions)
  (source : CollectionSource)

/-- The order that is left to the query around a row source. -/
def outerOrder
    (env : Env S)
    (lowered : Dsql.SqlRowView) : Comparison (Row S) :=
  if source.separate options then .trivial
  else server.writtenOrder innermost env lowered source.clauses

/-- A row source hands on the chosen rows, with the orders and bounds that it
has left. -/
structure SourceReads
    (lowered : Dsql.SqlRowView)
    (exprs : List SqlExpr)
    (base : SelectParts S) : Prop where
  keys : base.keys = []
  passing : ∀ scope : Scope S,
    lowered.context.level = scope.rows.length →
      (base.source scope).filter base.passes =
        (server.chosenRows innermost options source scope.rows lowered
          (server.session.rowsWhere scope.rows lowered.context source.table
            exprs)).map (scope.enter lowered.context.tableAlias)
  still : ∀ first second : Scope S, first.rows = second.rows →
    first.rows.length = lowered.context.level + 1 →
      base.passes first = base.passes second
  entered : ∀ scope : Scope S, lowered.context.level = scope.rows.length →
    ∀ inner ∈ base.source scope, inner.rows.length = scope.rows.length + 1
  orders : OrdersRows lowered.context (.lexAll base.orders)
    (fun env => outerOrder server options source env lowered)
  cut : ∀ {α : Type} (scope : Scope S) (items : List α),
    base.cut scope items = server.outerBounds options source items

variable {server cases options source}

/-- Terms and bounds as parts of a `select`. -/
structure BoundsRead
    (server : Server S)
    (reading : Reading S)
    (lowered : Dsql.SqlRowView)
    (clauses : SelectionClauses)
    (guard : Option Nat)
    (bounds : List Sql)
    (orders : List (Comparison (Scope S)))
    (limits offsets : List (Scope S → Option Nat)) : Prop where
  parts : bounds.map (server.meaning reading) =
    orders.map .order ++ limits.map .limitTo ++ offsets.map .offsetBy
  orders : OrdersRows lowered.context (.lexAll orders)
    (fun env => server.writtenOrder innermost env lowered clauses)
  limit : ∀ scope, limits.findSome? (fun limit => limit scope) =
    server.limit clauses guard
  offset : ∀ scope,
    (offsets.findSome? (fun offset => offset scope)).getD 0 =
      server.offset clauses

section Bounds

variable (catalog : Catalog) {view : SqlRowView} {lowered : Dsql.SqlRowView}

variable (server) in
theorem applyOrderLimitOffset_means
    (h : view.Means server cases lowered)
    (clauses : SelectionClauses)
    (horders : ∀ order ∈ clauses.orderBy, OrderFits cases order)
    (guard : Option Nat) :
    Yields cases (applyOrderLimitOffset catalog view clauses guard)
      (fun final bounds => ∀ reading, ReadsAs server final true reading →
        ∃ orders limits offsets, BoundsRead server reading lowered clauses
          guard bounds orders limits offsets) := by
  unfold applyOrderLimitOffset
  refine Yields.bind (orders_means clauses.orderBy (fun order horder =>
    orderTerms_means catalog h order (horders order horder))) fun terms => ?_
  refine Yields.bind (limitClause_means server clauses guard)
    fun limits => ?_
  refine Yields.map (offsetClause_means server clauses) ?_
  intro final offsets hoffsets hlimits hterms reading hreads
  obtain ⟨orders, horders, hsorted⟩ := hterms reading hreads
  obtain ⟨limitParts, hlimitParts, hlimit⟩ := hlimits reading hreads
  obtain ⟨offsetParts, hoffsetParts, hoffset⟩ := hoffsets reading hreads
  refine ⟨orders, limitParts, offsetParts, ?_, hsorted, hlimit, hoffset⟩
  rw [List.map_append, List.map_append, horders, hlimitParts, hoffsetParts]

end Bounds

/-! ## Row sources -/

section Sources

/-- A table with conditions, orders and bounds. -/
def tableParts
    (server : Server S)
    (reading : Reading S)
    (table : TableId)
    (name : Alias)
    (filters : List Sql)
    (orders : List (Comparison (Scope S)))
    (limits offsets : List (Scope S → Option Nat)) : SelectParts S where
  source scope := (server.database table).map (scope.enter name)
  conditions := filters.map (conditionHolds server reading)
  orders := orders
  limits := limits
  offsets := offsets

variable {reading : Reading S} {lowered : Dsql.SqlRowView}
  {filters bounds : List Sql} {exprs : List SqlExpr} {guard : Option Nat}
  {orders : List (Comparison (Scope S))}
  {limits offsets : List (Scope S → Option Nat)}

theorem map_tableParts
    (hbounds : BoundsRead server reading lowered source.clauses guard bounds
      orders limits offsets)
    (table : TableId)
    (name : Alias)
    (filters : List Sql) :
    ((Sql.node (.fromTable table name) [] :: conditions filters) ++ bounds).map
        (server.meaning reading) =
      (tableParts server reading table name filters orders limits
        offsets).rowParts := by
  rw [List.map_append, List.map_cons, map_conditions, meaning_fromTable,
    hbounds.parts]
  simp [SelectParts.rowParts, tableParts]

variable
    (hfilters : List.Forall₂ (fun sql expr => server.Means reading sql expr
      (lowered.context.level + 1)) filters exprs)
    (hbounds : BoundsRead server reading lowered source.clauses guard bounds
      orders limits offsets)

include hfilters in
/-- Rows of the table that pass. -/
theorem passing_tableParts
    {scope : Scope S}
    (hdepth : lowered.context.level = scope.rows.length) :
    ((tableParts server reading source.table lowered.context.tableAlias filters
        orders limits offsets).source scope).filter
        (tableParts server reading source.table lowered.context.tableAlias
          filters orders limits offsets).passes =
      (server.session.rowsWhere scope.rows lowered.context source.table
        exprs).map (scope.enter lowered.context.tableAlias) := by
  rw [hdepth] at hfilters
  have hadmitted := filter_admitted hfilters lowered.context.tableAlias
    source.table
  rw [← hdepth] at hadmitted
  exact hadmitted

include hfilters hbounds in
/-- A table whose bounds are left to the query around it. -/
theorem sourceReads_table
    (hguard : guard = none)
    (hseparate : source.separate options = false) :
    SourceReads server options source lowered exprs
      (tableParts server reading source.table lowered.context.tableAlias
        filters orders limits offsets) := by
  subst hguard
  refine ⟨rfl, ?_, ?_, ?_, ?_, ?_⟩
  · intro scope hdepth
    rw [passing_tableParts hfilters hdepth]
    unfold Server.chosenRows
    rw [hseparate]
    rfl
  · intro first second hsame hlength
    have hfirst := all_conditionHolds hfilters hlength
    have hsecond := all_conditionHolds hfilters (hsame ▸ hlength)
    rw [hsame, ← hsecond] at hfirst
    exact hfirst
  · intro scope hdepth inner hinner
    obtain ⟨row, -, rfl⟩ := List.mem_map.mp hinner
    exact List.length_cons
  · unfold outerOrder
    rw [hseparate]
    exact hbounds.orders
  · intro α scope items
    unfold SelectParts.cut Server.outerBounds
    rw [hseparate]
    show takeAtMost (limits.findSome? (fun limit => limit scope)) (items.drop
      ((offsets.findSome? (fun offset => offset scope)).getD 0)) = _
    rw [hbounds.limit, hbounds.offset]
    rfl

include hfilters hbounds in
/-- The rows of a table in order and within their bounds. -/
theorem results_tableParts
    {scope : Scope S}
    (hdepth : lowered.context.level = scope.rows.length) :
    SqlMeaning.select (tableParts server reading source.table
        lowered.context.tableAlias filters orders limits offsets).parts scope =
      (server.bounded source.clauses guard
        ((server.writtenOrder innermost scope.rows lowered source.clauses).sort
          (server.session.rowsWhere scope.rows lowered.context source.table
            exprs))).map (fun row =>
              ⟨scope.enter lowered.context.tableAlias row, []⟩) := by
  have hrows : (tableParts server reading source.table
      lowered.context.tableAlias filters orders limits offsets).rows scope =
        (server.session.rowsWhere scope.rows lowered.context source.table
          exprs).map (scope.enter lowered.context.tableAlias) := by
    unfold SelectParts.rows
    rw [← passing_tableParts hfilters hdepth]
    exact congrArg (List.filter _) (List.flatMap_singleton' _)
  have hsorted : (Comparison.lexAll orders).on
      (scope.enter lowered.context.tableAlias) =
        server.writtenOrder innermost scope.rows lowered source.clauses := by
    refine hbounds.orders (Row S) _ scope.rows id hdepth.symm ?_
    intro row
    show (⟨lowered.context.tableAlias, scope.rows.length⟩, row) ::
      scope.rows = _
    rw [← hdepth]
    rfl
  rw [SelectParts.select_parts _ rfl, hrows]
  show SelectParts.cut _ scope (((Comparison.lexAll orders).sort
    ((server.session.rowsWhere scope.rows lowered.context source.table
      exprs).map (scope.enter lowered.context.tableAlias))).map _) = _
  rw [← Comparison.map_sort, hsorted, List.map_map, ← SelectParts.map_cut]
  unfold SelectParts.cut Server.bounded
  rw [← hbounds.limit scope, ← hbounds.offset scope]
  rfl

/-- The rows of a subquery. -/
def subqueryParts
    (server : Server S)
    (reading : Reading S)
    (name : Alias)
    (query : Sql) : SelectParts S where
  source scope :=
    ((server.meaning reading query).results scope).map (entered name scope)
  conditions := []

include hfilters hbounds in
/-- A subquery that has ordered and limited the rows. -/
theorem sourceReads_subquery
    (hguard : guard = effectiveLimit source.clauses options)
    (hseparate : source.separate options = true) :
    SourceReads server options source lowered exprs
      (subqueryParts server reading lowered.context.tableAlias
        (.node .select ((Sql.node (.fromTable source.table
          lowered.context.tableAlias) [] :: conditions filters) ++
            bounds))) := by
  subst hguard
  have hparts := map_tableParts hbounds source.table
    lowered.context.tableAlias filters
  have hall : (tableParts server reading source.table
      lowered.context.tableAlias filters orders limits offsets).rowParts =
        (tableParts server reading source.table lowered.context.tableAlias
          filters orders limits offsets).parts := by
    rw [SelectParts.parts_eq _ rfl]
    exact ((List.append_nil _).trans (List.append_nil _)).symm
  have hsource : ∀ scope : Scope S,
      lowered.context.level = scope.rows.length →
        (subqueryParts server reading lowered.context.tableAlias
          (.node .select ((Sql.node (.fromTable source.table
            lowered.context.tableAlias) [] :: conditions filters) ++
              bounds))).source scope =
          (server.chosenRows innermost options source scope.rows lowered
            (server.session.rowsWhere scope.rows lowered.context source.table
              exprs)).map (scope.enter lowered.context.tableAlias) := by
    intro scope hdepth
    show ((server.meaning reading (.node .select _)).results scope).map _ = _
    rw [results_select (hparts.trans hall),
      results_tableParts hfilters hbounds hdepth, List.map_map]
    unfold Server.chosenRows
    rw [hseparate]
    rfl
  refine ⟨rfl, ?_, fun _ _ _ _ => rfl, ?_, ?_, ?_⟩
  · intro scope hdepth
    rw [← hsource scope hdepth]
    exact List.filter_eq_self.mpr (fun _ _ => rfl)
  · intro scope hdepth inner hinner
    rw [hsource scope hdepth] at hinner
    obtain ⟨row, -, rfl⟩ := List.mem_map.mp hinner
    exact List.length_cons
  · unfold outerOrder
    rw [hseparate]
    exact fun _ _ _ _ _ _ => rfl
  · intro α scope items
    unfold Server.outerBounds
    rw [hseparate]
    rfl

end Sources

variable (options) in
/-- A row source reads the rows of its collection. -/
theorem rowSource_means
    (catalog : Catalog)
    {view : SqlRowView}
    {lowered : Dsql.SqlRowView}
    (h : view.Means server cases lowered)
    (horders : ∀ order ∈ source.clauses.orderBy, OrderFits cases order)
    {current : Table}
    (hcurrent : current.id = source.table)
    (correlation filters : List Sql) :
    Yields cases
      (rowSource catalog options source current view correlation filters)
      (fun final rows => ∀ reading, ReadsAs server final true reading →
        ∀ exprs, List.Forall₂ (fun sql expr =>
          server.Means reading sql expr (lowered.context.level + 1))
            (correlation ++ filters) exprs →
        ∃ base : SelectParts S,
          rows.map (server.meaning reading) = base.rowParts ∧
            SourceReads server options source lowered exprs base) := by
  have hbounds := applyOrderLimitOffset_means server catalog h
    source.clauses horders
  unfold rowSource
  rw [hcurrent, h.context]
  split
  next hseparate =>
    have hseparate : source.separate options = true := by
      simpa [CollectionSource.separate] using hseparate
    refine Yields.map (hbounds _) ?_
    intro final bounds hread reading hreads exprs hfilters
    obtain ⟨orders, limits, offsets, hparts⟩ := hread reading hreads
    refine ⟨_, ?_, sourceReads_subquery hfilters hparts rfl hseparate⟩
    rw [List.map_singleton, Server.meaning_node]
    rfl
  next hseparate =>
    have hseparate : source.separate options = false := by
      simpa [CollectionSource.separate] using hseparate
    refine Yields.map (hbounds none) ?_
    intro final bounds hread reading hreads exprs hfilters
    obtain ⟨orders, limits, offsets, hparts⟩ := hread reading hreads
    exact ⟨_, map_tableParts hparts source.table _ _,
      sourceReads_table hfilters hparts rfl hseparate⟩

/-! ## Joined rows -/

section Joined

variable {lowered : Dsql.SqlRowView} {exprs : List SqlExpr}
  {base : SelectParts S} (path : List AliasSegment)
  (items : List SelectionPlanItem) (scope : Scope S)

/-- The scope of a row with the rows of its relations. -/
def placed
    (lowered : Dsql.SqlRowView)
    (item : Row S × List (Outputs S)) : Scope S :=
  (scope.enter lowered.context.tableAlias item.1).joinRelated path [] items
    item.2

variable {scope}

omit [DecidableEq S] in
theorem rows_placed
    (hdepth : lowered.context.level = scope.rows.length)
    (item : Row S × List (Outputs S)) :
    (placed path items scope lowered item).rows =
      (lowered.context, item.1) :: scope.rows := by
  unfold placed
  rw [Scope.rows_joinRelated]
  show (⟨lowered.context.tableAlias, scope.rows.length⟩, item.1) ::
    scope.rows = _
  rw [← hdepth]

/-- A `select` of rows with their relations and columns. -/
def completed
    (base : SelectParts S)
    (joins : List (Scope S → List (Scope S)))
    (columns : List (Option String × SqlMeaning S)) : SelectParts S :=
  { base with joins := joins, columns := columns }

/-- Rows beside the rows of their relations, in no order. -/
def pairedRows
    (rows : List (Row S))
    (related : Row S → List (List (Outputs S))) :
    List (Row S × List (Outputs S)) :=
  rows.flatMap (fun row => (related row).map (fun joined => (row, joined)))

variable {joins : List (Scope S → List (Scope S))}
  {related : Row S → List (List (Outputs S))}
    (hbase : SourceReads server options source lowered exprs base)
    (hdepth : lowered.context.level = scope.rows.length)
    (hjoins : ∀ row, scopes (joins.map .source)
        (scope.enter lowered.context.tableAlias row) =
      (related row).map (fun joined =>
        placed path items scope lowered (row, joined)))

include hbase hdepth hjoins

theorem rows_completed
    (columns : List (Option String × SqlMeaning S))
    (hstill : ∀ inner : Scope S, inner.rows.length = scope.rows.length + 1 →
      ∀ joined ∈ scopes (joins.map .source) inner, joined.rows = inner.rows) :
    (completed base joins columns).rows scope =
      (pairedRows (server.chosenRows innermost options source scope.rows lowered
        (server.session.rowsWhere scope.rows lowered.context source.table
          exprs)) related).map (placed path items scope lowered) := by
  rw [SelectParts.rows_eq]
  · show ((base.source scope).filter base.passes).flatMap
      (scopes (joins.map .source)) = _
    rw [hbase.passing scope hdepth, List.flatMap_map]
    unfold pairedRows
    rw [List.map_flatMap]
    refine List.flatMap_congr fun row _ => ?_
    rw [hjoins row, List.map_map]
    rfl
  · intro inner hinner joined hjoined
    have hlength := hbase.entered scope hdepth inner hinner
    have hsame := hstill inner hlength joined hjoined
    exact hbase.still joined inner hsame (by rw [hsame, hlength, hdepth])

omit hbase hjoins in
omit [DecidableEq S] in
/-- A sort of placed rows is one of the rows. -/
theorem sort_placed
    {order : Comparison (Scope S)}
    {rows : Env S → Comparison (Row S)}
    (h : OrdersRows lowered.context order rows)
    (pairs : List (Row S × List (Outputs S))) :
    order.sort (pairs.map (placed path items scope lowered)) =
      (((rows scope.rows).on Prod.fst).sort pairs).map
        (placed path items scope lowered) := by
  have horder := h _ (placed path items scope lowered) scope.rows Prod.fst
    hdepth.symm (rows_placed path items hdepth)
  rw [← horder, Comparison.map_sort]

end Joined

section Sorted

variable (lowered : Dsql.SqlRowView) (env : Env S) (rows : List (Row S))
  (related : Row S → List (List (Outputs S)))

/-- Rows that were sorted before they were joined stay sorted. -/
theorem sort_outerOrder :
    ((outerOrder server options source env lowered).on Prod.fst).sort
        (pairedRows (server.chosenRows innermost options source env lowered rows)
          related) =
      server.joinedRows innermost options source env lowered rows related := by
  unfold outerOrder Server.joinedRows
  split
  next hseparate =>
    have hsorted : (server.chosenRows innermost options source env lowered rows).Pairwise
        (server.writtenOrder innermost env lowered source.clauses).le := by
      unfold Server.chosenRows Server.bounded
      rw [if_pos hseparate]
      refine (Comparison.sort_pairwise _ rows).sublist ?_
      exact (takeAtMost_sublist _ _).trans (List.drop_sublist _ _)
    rw [Comparison.trivial_on, Comparison.sort_trivial]
    refine (Comparison.sort_flatMap _ hsorted ?_).symm
    intro row pair hpair
    obtain ⟨joined, -, rfl⟩ := List.mem_map.mp hpair
    rfl
  next => rfl

end Sorted

/-! ## Results of rows -/

section Results

/-- What rows select, with the terms that an array is sorted by. -/
inductive OutputReads
    (server : Server S)
    (reading : Reading S)
    (source : CollectionSource)
    (lowered : Dsql.SqlRowView)
    (generation : SelectionGenerationContext)
    (fields : List (String × Sql)) : List Sql → Prop
  | separately
      (h : generation.flattened = true ∨
        source.shape.cardinality = .atMostOne) :
      OutputReads server reading source lowered generation fields
        (objectOrFields generation fields)
  | together
      (h : ¬(generation.flattened = true ∨
        source.shape.cardinality = .atMostOne))
      {terms : List Sql}
      {orders : List (Comparison (Scope S))}
      (hterms : terms.map (server.meaning reading) =
        orders.map SqlMeaning.order)
      (horders : OrdersRows lowered.context (.lexAll orders)
        (fun env => server.writtenOrder innermost env lowered source.clauses)) :
      OutputReads server reading source lowered generation fields
        [.node (.field generation.publicResultAlias)
          [.node .coalesceEmpty
            [.node .jsonAgg (jsonBuildObject fields :: terms)]]]

theorem rowOutput_means
    (catalog : Catalog)
    {view : SqlRowView}
    {lowered : Dsql.SqlRowView}
    (h : view.Means server cases lowered)
    (horders : ∀ order ∈ source.clauses.orderBy, OrderFits cases order)
    (generation : SelectionGenerationContext)
    (fields : List (String × Sql)) :
    Yields cases (rowOutput catalog source view generation fields)
      (fun final output => ∀ reading, ReadsAs server final true reading →
        OutputReads server reading source lowered generation fields
          output) := by
  unfold rowOutput
  split
  next hsingle =>
    exact Yields.done (fun final reading hreads => .separately hsingle)
  next hsingle =>
    have hterms := orders_means source.clauses.orderBy (fun order horder =>
      aggregatedOrderTerms_means server catalog h order
        (horders order horder))
    unfold orderedJsonAgg
    rw [bind_assoc]
    refine Yields.map hterms ?_
    intro final terms hread reading hreads
    obtain ⟨orders, horders, hsorted⟩ := hread reading hreads
    exact .together hsingle horders hsorted

variable {reading : Reading S} {lowered : Dsql.SqlRowView}
  {exprs : List SqlExpr} {base : SelectParts S}
  {generation : SelectionGenerationContext} {path : List AliasSegment}
  {items : List SelectionPlanItem} {fields : List (String × Sql)}
  {rows children output : List Sql} {scope : Scope S}
  {joins : List (Scope S → List (Scope S))}
  {related : Row S → List (List (Outputs S))}

/-- The fields of a row where its relations are joined to it. -/
theorem readFields_placed
    (hfields : FieldsMean server reading lowered path [] items fields)
    (hdepth : lowered.context.level = scope.rows.length)
    (pair : Row S × List (Outputs S)) :
    readFields server reading fields [] (placed path items scope lowered pair) =
      server.rowFields innermost scope.rows lowered items pair.1 pair.2 := by
  refine hfields.values scope.rows pair.1 pair.2 _ hdepth.symm ?_
  show (⟨lowered.context.tableAlias, scope.rows.length⟩, pair.1) ::
    scope.rows = _
  rw [← hdepth]

variable
    (hrows : rows.map (server.meaning reading) = base.rowParts)
    (hbase : SourceReads server options source lowered exprs base)
    (hdepth : lowered.context.level = scope.rows.length)
    (hchildren : children.map (server.meaning reading) =
      joins.map .source)
    (hjoins : ∀ row, scopes (joins.map .source)
        (scope.enter lowered.context.tableAlias row) =
      (related row).map (fun joined =>
        placed path items scope lowered (row, joined)))
    (hstill : ∀ inner : Scope S, inner.rows.length = scope.rows.length + 1 →
      ∀ joined ∈ scopes (joins.map .source) inner, joined.rows = inner.rows)
    (hfields : FieldsMean server reading lowered path [] items fields)

include hrows hbase hdepth hchildren hjoins hstill hfields

/-- A collection answers with its rows, each beside those of its relations. -/
theorem results_rows
    (houtput : OutputReads server reading source lowered generation fields
      output) :
    ((server.meaning reading (.node .select
        (rows ++ children ++ output))).results scope).map ResultRow.outputs =
      server.rowAnswers innermost options source scope.rows lowered items
        generation.publicResultAlias generation.flattened
        (server.session.rowsWhere scope.rows lowered.context source.table
          exprs) related := by
  have hparts : ∀ columns : List (Option String × SqlMeaning S),
      output.map (server.meaning reading) =
        columns.map (fun column => .field column.1 column.2) →
      (rows ++ children ++ output).map (server.meaning reading) =
        (completed base joins columns).parts := by
    intro columns hcolumns
    rw [SelectParts.parts_eq (completed base joins columns) hbase.keys,
      List.map_append, List.map_append, hrows, hchildren, hcolumns]
    rfl
  have hcompleted := fun columns => rows_completed path items hbase hdepth
    hjoins columns hstill
  unfold Server.rowAnswers
  cases houtput with
  | separately hsingle =>
      have hplain : (outputColumns server reading generation.publicResultAlias
          generation.flattened fields).any (fun column => column.2.aggregated) =
            false := by
        rw [aggregated_outputColumns]
        exact List.any_eq_false.mpr (fun field hfield => by
          rw [hfields.plain field hfield]
          exact Bool.false_ne_true)
      have houtputs : ∀ pair : Row S × List (Outputs S),
          (completed base joins (outputColumns server reading
            generation.publicResultAlias generation.flattened fields)).outputs
              [] (placed path items scope lowered pair) =
            objectOrColumns generation.publicResultAlias generation.flattened
              (server.rowFields innermost scope.rows lowered items pair.1 pair.2) := by
        intro pair
        rw [SelectParts.outputs_eq (completed base joins _) hbase.keys,
          ← readFields_placed hfields hdepth pair]
        exact read_outputColumns server reading _ _ fields [] _
      rw [if_pos hsingle, results_select (hparts _
        (map_objectOrFields server reading generation fields)),
        SelectParts.select_rows (completed base joins (outputColumns server
          reading generation.publicResultAlias generation.flattened fields))
          hbase.keys hplain, hcompleted]
      show SelectParts.cut base scope (((Comparison.lexAll base.orders).sort
        _).map _) = _
      rw [sort_placed path items hdepth hbase.orders, sort_outerOrder,
        List.map_map, ← SelectParts.map_cut, hbase.cut]
      exact List.map_congr_left fun pair _ => houtputs pair
  | @together hsingle terms orders hterms horders =>
      have hcolumn : [Sql.node (.field generation.publicResultAlias)
          [.node .coalesceEmpty
            [.node .jsonAgg (jsonBuildObject fields :: terms)]]].map
              (server.meaning reading) =
          [(generation.publicResultAlias, server.meaning reading
            (.node .coalesceEmpty
              [.node .jsonAgg (jsonBuildObject fields :: terms)]))].map
                (fun column => .field column.1 column.2) := by
        rw [List.map_singleton, Server.meaning_node]
        rfl
      rw [if_neg hsingle, results_select (hparts _ hcolumn),
        SelectParts.select_aggregate (completed base joins _) hbase.keys rfl
          (aggregated_array server reading _ _), hcompleted,
        read_array server reading hterms,
        sort_placed path items hdepth horders, List.map_map]
      show SelectParts.cut base scope _ = _
      rw [hbase.cut]
      unfold Server.joinedRows
      congr 5
      refine List.map_congr_left fun pair _ => ?_
      rw [Function.comp_apply, read_jsonBuildObject,
        readFields_placed hfields hdepth]

end Results

end Rows

end Postgres

end Dsql
