import Dsql.Sql.ClauseMeaning

/-!
# The meaning of rendered fields

The relations of a row are joined under aliases that tell its items apart, so
that every field reads the rows of its own relation.
-/

namespace Dsql

namespace Postgres

open Logic Results

/-! ## Joined relations -/

section Joined

variable {S : Type}

@[simp] theorem Scope.join_rows
    (scope : Scope S)
    (table : DerivedTable)
    (outputs : Outputs S) : (scope.join table outputs).rows = scope.rows := rfl

theorem Scope.output_join
    (scope : Scope S)
    (table : DerivedTable)
    (outputs : Outputs S)
    (name : Option String) :
    (scope.join table outputs).output table name = outputs.value name := by
  simp [Scope.output, Scope.join]

theorem Scope.output_join_of_ne
    (scope : Scope S)
    {table other : DerivedTable}
    (h : other ≠ table)
    (outputs : Outputs S)
    (name : Option String) :
    (scope.join other outputs).output table name = scope.output table name := by
  simp [Scope.output, Scope.join, h]

/-- A row with the rows of its relations, under the aliases of the items. -/
def Scope.joinRelated
    (path : List AliasSegment)
    (before : List SelectionPlanItem) :
    List SelectionPlanItem → List (Outputs S) → Scope S → Scope S
  | [], _, scope => scope
  | .projection projection :: items, related, scope =>
      joinRelated path (before ++ [.projection projection]) items related scope
  | .relation outputName flattened relation collection :: items, related,
      scope =>
      joinRelated path
        (before ++ [.relation outputName flattened relation collection]) items
        related.tail
        (scope.join
          (.related ⟨relationInstancePath before collection.source.table
            outputName path⟩)
          (related.headD []))

variable (path : List AliasSegment)

theorem Scope.rows_joinRelated
    (items before : List SelectionPlanItem)
    (related : List (Outputs S))
    (scope : Scope S) :
    (scope.joinRelated path before items related).rows = scope.rows := by
  induction items generalizing before related scope with
  | nil => rfl
  | cons item items ih =>
      cases item with
      | projection projection => exact ih _ related scope
      | relation outputName flattened relation collection =>
          exact ih _ related.tail _

theorem occurrences_append
    (before items : List SelectionPlanItem)
    (table : TableId)
    (outputName : String) :
    occurrences (before ++ items) table outputName =
      occurrences before table outputName +
        occurrences items table outputName :=
  List.countP_append

theorem occurrences_relation
    (outputName : String)
    (flattened : Bool)
    (relation : RelationId)
    (collection : CollectionPlan) :
    occurrences [.relation outputName flattened relation collection]
      collection.source.table outputName = 1 := by
  simp [occurrences]

/-- A relation that was joined is not joined again under its alias. -/
theorem Scope.output_joinRelated
    {earlier : List SelectionPlanItem}
    {table : TableId}
    {outputName : String}
    (items before : List SelectionPlanItem)
    (h : occurrences earlier table outputName <
      occurrences before table outputName)
    (related : List (Outputs S))
    (scope : Scope S)
    (name : Option String) :
    (scope.joinRelated path before items related).output
        (.related ⟨relationInstancePath earlier table outputName path⟩) name =
      scope.output
        (.related ⟨relationInstancePath earlier table outputName path⟩)
        name := by
  induction items generalizing before related scope with
  | nil => rfl
  | cons item items ih =>
      have hlater : occurrences earlier table outputName <
          occurrences (before ++ [item]) table outputName := by
        rw [occurrences_append]
        exact Nat.lt_add_right _ h
      cases item with
      | projection projection => exact ih _ hlater related scope
      | relation otherName flattened relation collection =>
          refine (ih _ hlater related.tail _).trans ?_
          refine scope.output_join_of_ne ?_ _ name
          intro hsame
          simp only [DerivedTable.related.injEq, Alias.mk.injEq,
            relationInstancePath, List.append_cancel_left_eq, List.cons.injEq,
            AliasSegment.selection.injEq, and_true] at hsame
          obtain ⟨htable, hname, hcount⟩ := hsame
          rw [htable, hname] at hcount
          exact absurd hcount (Nat.ne_of_gt h)

/-- Rows that are left-joined. -/
theorem leftJoined_eq
    (query : SqlMeaning S)
    (table : DerivedTable)
    (scope : Scope S) :
    SqlMeaning.leftJoined query table scope =
      (orNulls ((query.results scope).map ResultRow.outputs)).map
        (scope.join table) := by
  unfold SqlMeaning.leftJoined SqlMeaning.joinedResults
  cases query.results scope with
  | nil => rfl
  | cons result results =>
      show _ = ((result :: results).map ResultRow.outputs).map _
      rw [List.map_map]
      rfl

end Joined

/-! ## Fields of a row -/

section Fields

variable {S : Type} [DecidableEq S] {server : Server S}
  {cases : OfferedCases} (catalog : Catalog) {view : SqlRowView}
  {lowered : Dsql.SqlRowView} (path : List AliasSegment)

/-- The fields of items behind others, read where the relations of the items
are joined to a row. -/
structure FieldsMean
    (server : Server S)
    (reading : Reading S)
    (lowered : Dsql.SqlRowView)
    (path : List AliasSegment)
    (before items : List SelectionPlanItem)
    (fields : List (String × Sql)) : Prop where
  plain : ∀ field ∈ fields,
    (server.meaning reading field.2).aggregated = false
  values : ∀ (env : Env S) row related (scope : Scope S),
    env.length = lowered.context.level →
      scope.rows = (lowered.context, row) :: env →
        fields.map (fun field =>
            (field.1, (server.meaning reading field.2).read []
              (scope.joinRelated path before items related))) =
          server.rowFields innermost env lowered items row related

theorem publicColumn_read
    {reading : Reading S}
    {sql : Sql}
    {column : ColumnId}
    (h : server.Means reading sql
      (lowered.maskedColumnExpression (lowered.context.level + 1) column)
      (lowered.context.level + 1))
    {env : Env S}
    {row : Row S}
    {scope : Scope S}
    (hdepth : env.length = lowered.context.level)
    (hrows : scope.rows = (lowered.context, row) :: env)
    (group : List (Scope S)) :
    (server.meaning reading (.node (.publicColumn column) [sql])).read group
        scope =
      .datum (server.publicColumn column
        (server.columnValue innermost env lowered column row)) := by
  have hlength : scope.rows.length = lowered.context.level + 1 := by
    rw [hrows, List.length_cons, hdepth]
  rw [Server.meaning_node, List.map_singleton]
  show Doc.datum (server.publicColumn column
    ((server.meaning reading sql).read group scope).toDatum) = _
  rw [h.value group scope hlength, hrows]
  rfl

/-- By induction over the items, whose relations were joined before. -/
theorem selectionFieldExpressions_means
    (h : view.Means server cases lowered)
    (items before : List SelectionPlanItem) :
    Yields cases
      (selectionFieldExpressions catalog view path before items)
      (fun final fields => ∀ reading, ReadsAs server final true reading →
        FieldsMean server reading lowered path before items fields) := by
  induction items generalizing before with
  | nil =>
      refine Yields.done (fun final reading hreads => ⟨nofun, ?_⟩)
      intro env row related scope hdepth hrows
      rfl
  | cons item items ih =>
      cases item with
      | projection projection =>
          rw [selectionFieldExpressions]
          refine Yields.bind (maskedColumnExpression_means catalog
            (lowered.context.level + 1) h projection.column)
            fun expression => ?_
          refine Yields.map (ih (before ++ [.projection projection])) ?_
          intro final fields hfields hexpression reading hreads
          have hcolumn := hexpression reading hreads.static
          obtain ⟨hplain, hvalues⟩ := hfields reading hreads
          refine ⟨List.forall_mem_cons.mpr ⟨?_, hplain⟩, ?_⟩
          · rw [Server.meaning_node]
            show ([server.meaning reading expression].any _) = false
            rw [List.any_cons, hcolumn.plain]
            rfl
          · intro env row related scope hdepth hrows
            have hplaced : (scope.joinRelated path before
                (.projection projection :: items) related).rows =
                  (lowered.context, row) :: env := by
              rw [Scope.rows_joinRelated, hrows]
            have hrest := hvalues env row related scope hdepth hrows
            rw [List.map_cons, publicColumn_read hcolumn hdepth hplaced,
              Server.rowFields, ← hrest]
            rfl
      | relation outputName flattened relationId collection =>
          rw [selectionFieldExpressions]
          refine table_bind catalog fun related hrelated => ?_
          rw [hrelated]
          refine Yields.map (ih (before ++
            [.relation outputName flattened relationId collection])) ?_
          intro final fields hfields reading hreads
          obtain ⟨hplain, hvalues⟩ := hfields reading hreads
          refine ⟨?_, ?_⟩
          · intro field hfield
            rcases List.mem_append.mp hfield with hown | hother
            · cases flattened with
              | false =>
                  obtain rfl := List.mem_singleton.mp hown
                  rw [Server.meaning_node]
                  rfl
              | true =>
                  obtain ⟨name, -, rfl⟩ := List.mem_map.mp hown
                  rw [Server.meaning_node]
                  rfl
            · exact hplain field hother
          · intro env row joined scope hdepth hrows
            have hoccurs : occurrences before collection.source.table
                outputName < occurrences (before ++
                  [.relation outputName flattened relationId collection])
                  collection.source.table outputName := by
              rw [occurrences_append, occurrences_relation]
              exact Nat.lt_succ_self _
            have houtput : ∀ name group,
                (server.meaning reading (.node (.output (.related
                  ⟨relationInstancePath before collection.source.table
                    outputName path⟩) name) [])).read group
                  (scope.joinRelated path before
                    (.relation outputName flattened relationId collection ::
                      items) joined) = (joined.headD []).value name := by
              intro name group
              rw [Server.meaning_node]
              exact (Scope.output_joinRelated path items _ hoccurs joined.tail
                _ name).trans (Scope.output_join _ _ _ _)
            have hrest := hvalues env row joined.tail
              (scope.join (.related ⟨relationInstancePath before
                collection.source.table outputName path⟩) (joined.headD []))
              hdepth hrows
            rw [List.map_append, Server.rowFields, ← hrest]
            refine congrArg (· ++ _) ?_
            cases flattened with
            | false =>
                simp only [Bool.false_eq_true, if_false, List.map_singleton,
                  houtput]
            | true =>
                simp only [if_true, List.map_map, namedColumns]
                refine List.map_congr_left fun name _ => ?_
                exact congrArg (Prod.mk name) (houtput (some name) [])

end Fields

/-! ## Columns of a result -/

section Columns

variable {S : Type} [DecidableEq S] (server : Server S) (reading : Reading S)

def readFields
    (fields : List (String × Sql))
    (group : List (Scope S))
    (scope : Scope S) : List (String × Doc S) :=
  fields.map (fun field =>
    (field.1, (server.meaning reading field.2).read group scope))

/-- The columns of fields that stand by themselves or in one object. -/
def outputColumns
    (name : Option String)
    (flattened : Bool)
    (fields : List (String × Sql)) : List (Option String × SqlMeaning S) :=
  if flattened then
    fields.map (fun field => (some field.1, server.meaning reading field.2))
  else
    [(name, server.meaning reading (jsonBuildObject fields))]

theorem read_jsonBuildObject
    (fields : List (String × Sql))
    (group : List (Scope S))
    (scope : Scope S) :
    (server.meaning reading (jsonBuildObject fields)).read group scope =
      .object (readFields server reading fields group scope) := by
  unfold jsonBuildObject
  rw [Server.meaning_node]
  show Doc.object ((fields.map Prod.fst).zip
    (((fields.map Prod.snd).map (server.meaning reading)).map
      (fun part => part.read group scope))) = _
  rw [List.map_map, List.map_map, List.zip_map']
  rfl

theorem aggregated_jsonBuildObject (fields : List (String × Sql)) :
    (server.meaning reading (jsonBuildObject fields)).aggregated =
      fields.any (fun field => (server.meaning reading field.2).aggregated) := by
  unfold jsonBuildObject
  rw [Server.meaning_node]
  show ((fields.map Prod.snd).map (server.meaning reading)).any _ = _
  rw [List.map_map, List.any_map]
  rfl

theorem map_exportedFields
    (encoded : Bool)
    (fields : List (String × Sql)) :
    (exportedFields encoded fields).map (server.meaning reading) =
      fields.map (fun field =>
        .field (some field.1) (server.meaning reading field.2)) := by
  unfold exportedFields
  rw [List.map_map]
  refine List.map_congr_left fun field _ => ?_
  rw [Function.comp_apply, Server.meaning_node, List.map_singleton]
  cases encoded with
  | false => rfl
  | true =>
      rw [if_pos rfl, Server.meaning_node]
      rfl

theorem map_objectOrFields
    (generation : SelectionGenerationContext)
    (fields : List (String × Sql)) :
    (objectOrFields generation fields).map (server.meaning reading) =
      (outputColumns server reading generation.publicResultAlias
        generation.flattened fields).map
          (fun column => .field column.1 column.2) := by
  unfold objectOrFields outputColumns
  cases generation.flattened with
  | false =>
      rw [if_neg Bool.false_ne_true, if_neg Bool.false_ne_true,
        List.map_singleton, Server.meaning_node]
      rfl
  | true =>
      rw [if_pos rfl, if_pos rfl, map_exportedFields, List.map_map]
      rfl

theorem read_outputColumns
    (name : Option String)
    (flattened : Bool)
    (fields : List (String × Sql))
    (group : List (Scope S))
    (scope : Scope S) :
    (outputColumns server reading name flattened fields).map (fun column =>
        (column.1, column.2.read group scope)) =
      objectOrColumns name flattened
        (readFields server reading fields group scope) := by
  unfold outputColumns objectOrColumns
  cases flattened with
  | false =>
      rw [if_neg Bool.false_ne_true, if_neg Bool.false_ne_true,
        List.map_singleton, read_jsonBuildObject]
  | true =>
      rw [if_pos rfl, if_pos rfl]
      simp only [readFields, List.map_map]
      rfl

theorem aggregated_outputColumns
    (name : Option String)
    (flattened : Bool)
    (fields : List (String × Sql)) :
    (outputColumns server reading name flattened fields).any
        (fun column => column.2.aggregated) =
      fields.any (fun field => (server.meaning reading field.2).aggregated) := by
  unfold outputColumns
  cases flattened with
  | false =>
      rw [if_neg Bool.false_ne_true, List.any_cons, List.any_nil,
        Bool.or_false, aggregated_jsonBuildObject]
  | true =>
      rw [if_pos rfl, List.any_map]
      rfl

/-! ## Arrays -/

omit [DecidableEq S] in
theorem sorting_orders (orders : List (Comparison (Scope S))) :
    SqlMeaning.sorting (orders.map SqlMeaning.order) = .lexAll orders := by
  unfold SqlMeaning.sorting
  rw [List.filterMap_map]
  exact congrArg Comparison.lexAll List.filterMap_some

/-- An array has an entry for every row, also where there are none. -/
theorem read_array
    {object : Sql}
    {terms : List Sql}
    {orders : List (Comparison (Scope S))}
    (horders : terms.map (server.meaning reading) =
      orders.map SqlMeaning.order)
    (group : List (Scope S))
    (scope : Scope S) :
    (server.meaning reading
        (.node .coalesceEmpty [.node .jsonAgg (object :: terms)])).read group
          scope =
      .array (((Comparison.lexAll orders).sort group).map
        ((server.meaning reading object).read [])) := by
  have harray : server.meaning reading (.node .jsonAgg (object :: terms)) =
      .value true (fun group _ => SqlMeaning.aggregatedArray
        (server.meaning reading object) (orders.map SqlMeaning.order)
          group) := by
    rw [Server.meaning_node, List.map_cons, horders]
    rfl
  rw [Server.meaning_node, List.map_singleton, harray]
  show server.operation reading .coalesceEmpty
    [SqlMeaning.aggregatedArray (server.meaning reading object)
      (orders.map SqlMeaning.order) group] = _
  unfold SqlMeaning.aggregatedArray
  rw [sorting_orders]
  cases group with
  | nil => rfl
  | cons first rest => rfl

theorem aggregated_array (array : Sql) (terms : List Sql) :
    (server.meaning reading
      (.node .coalesceEmpty [.node .jsonAgg (array :: terms)])).aggregated =
        true := by
  rw [Server.meaning_node, List.map_singleton, Server.meaning_node]
  rfl

end Columns

end Postgres

end Dsql
