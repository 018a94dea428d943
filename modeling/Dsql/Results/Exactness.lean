import Dsql.Results.Agreement
import Mathlib.Tactic

/-!
# Statements return what the metadata publishes

The induction follows the plan: the columns of a nested source are known when
its parent refers to them.  A reference that does not resolve to one column is
rejected by the database, so only distinct names are needed for a statement to
be accepted.
-/

namespace Dsql
namespace Results

open Dsql.Types

section Collections

variable {catalog : Catalog}

/-- The columns that the select of a collection promises. -/
def promisedColumns
    (catalog : Catalog)
    (generation : SelectionGenerationContext)
    (source : CollectionSource)
    (result : CollectionResultPlan) : List (ColumnName × JsonShape) :=
  if generation.flattened then
    outputColumns (resultFields catalog result)
  else
    [(generation.resultName,
      collectionShape source result (resultFields catalog result))]

mutual

/-- The parent of a flattened collection names exactly its fields. -/
theorem collectCollectionOutputNames_eq :
    ∀ {result : CollectionResultPlan}, result.isGrouped = false →
      result.flattensRows = true →
      collectCollectionOutputNames result =
        (resultFields catalog result).map Prod.fst
  | .rows items, _, hflat => by
      rw [CollectionResultPlan.flattensRows] at hflat
      rw [collectCollectionOutputNames, resultFields]
      exact collectItemOutputNames_eq hflat
  | .aggregate plan, hgrouped, _ => by
      have hmode : plan.mode = .ungrouped := by
        cases hmode : plan.mode with
        | ungrouped => rfl
        | grouped =>
            rw [CollectionResultPlan.isGrouped, hmode] at hgrouped
            cases hgrouped
      rw [collectCollectionOutputNames, resultFields, plan.ungrouped hmode,
        List.map_nil, List.nil_append, List.map_map]
      rfl

/-- Without flattened groups the exported names are those of the fields. -/
theorem collectItemOutputNames_eq :
    ∀ {items : List SelectionPlanItem}, itemsFlattenRows items = true →
      collectItemOutputNames items = (itemFields catalog items).map Prod.fst
  | [], _ => by
      rw [collectItemOutputNames, itemFields, List.map_nil]
  | .projection projection :: items, hflat => by
      rw [itemsFlattenRows] at hflat
      rw [collectItemOutputNames, itemFields, List.map_cons,
        collectItemOutputNames_eq hflat]
      rfl
  | .relation outputName flattened relation (.mk source result) :: items, hflat => by
      rw [itemsFlattenRows] at hflat
      obtain ⟨hflat, hitems⟩ := Bool.and_eq_true_iff.mp hflat
      obtain ⟨hplain, hresult⟩ := Bool.and_eq_true_iff.mp hflat
      rw [collectItemOutputNames, itemFields, List.map_append,
        collectItemOutputNames_eq hitems]
      congr 1
      cases flattened with
      | false => rfl
      | true =>
          rw [Bool.true_and, Bool.not_eq_true'] at hplain
          exact collectCollectionOutputNames_eq hplain hresult

end

/-- The columns of the nested sources of a row, in the order of its
relations. -/
inductive ChildColumns (catalog : Catalog) :
    List SelectionPlanItem → List (List (ColumnName × SqlType)) → Prop where
  | nil : ChildColumns catalog [] []
  | projection {projection : Projection} {items : List SelectionPlanItem}
      {types : List (List (ColumnName × SqlType))} :
      ChildColumns catalog items types →
      ChildColumns catalog (.projection projection :: items) types
  | relation {outputName : String} {flattened : Bool} {relation : RelationId}
      {source : CollectionSource} {result : CollectionResultPlan}
      {columns : List (ColumnName × SqlType)} {items : List SelectionPlanItem}
      {types : List (List (ColumnName × SqlType))} :
      (flattened = true →
        collectCollectionOutputNames result =
          (resultFields catalog result).map Prod.fst) →
      jsonColumns columns =
        promisedColumns catalog ⟨true, none, flattened⟩ source result →
      ChildColumns catalog items types →
      ChildColumns catalog (.relation outputName flattened relation
        (.mk source result) :: items) (columns :: types)

section Fields

variable {types rest : List (List (ColumnName × SqlType))}
variable {columns : List (ColumnName × SqlType)}

theorem getElem?_of_drop
    {next : Nat}
    (h : types.drop next = columns :: rest) :
    types[next]? = some columns ∧ types.drop (next + 1) = rest := by
  constructor
  · have hhead := congrArg (fun list => list[0]?) h
    simpa only [List.getElem?_drop, Nat.add_zero, List.getElem?_cons_zero] using hhead
  · rw [← List.tail_drop, h, List.tail_cons]

/-- Reading a source back gives the shapes of its columns. -/
theorem typesOf_readBack_eq
    {next : Nat}
    {fields shapes : List (String × JsonShape)}
    (hsource : types[next]? = some columns)
    (hcolumns : jsonColumns columns = outputColumns fields)
    (h : typesOf types (readBack next (fields.map Prod.fst)) = some shapes) :
    shapes = fields :=
  typesOf_readBack hsource hcolumns (List.Subset.refl _) h

/-- Where the fields of a row resolve, they have the promised shapes. -/
theorem typesOf_selectionFields
    {items : List SelectionPlanItem}
    {next : Nat}
    (hchildren : ChildColumns catalog items (types.drop next))
    {fields : List (String × SqlExpr)}
    (h : selectionFieldExpressions catalog next items = .ok fields)
    {shapes : List (String × JsonShape)}
    (hshapes : typesOf types fields = some shapes) :
    shapes = itemFields catalog items := by
  generalize hrest : types.drop next = rest at hchildren
  induction hchildren generalizing next fields shapes with
  | nil =>
      rw [selectionFieldExpressions] at h
      cases h
      cases hshapes
      rw [itemFields]
  | @projection projection items rest _ ih =>
      rw [selectionFieldExpressions] at h
      obtain ⟨expression, hexpression, h⟩ := except_bind_ok h
      obtain ⟨others, hothers, h⟩ := except_bind_ok h
      cases h
      rw [typesOf_cons (typeOf_publicColumnExpression hexpression
        (catalog.dataTypeForColumn projection.column))] at hshapes
      obtain ⟨found, hfound, rfl⟩ := Option.map_eq_some_iff.mp hshapes
      rw [ih hothers hfound hrest, itemFields]
      rfl
  | @relation outputName flattened relation source result columns items rest hnames
      hcolumns _ ih =>
      rw [selectionFieldExpressions] at h
      obtain ⟨others, hothers, h⟩ := except_bind_ok h
      obtain ⟨hsource, hdrop⟩ := getElem?_of_drop hrest
      rw [itemFields]
      cases flattened with
      | true =>
          cases h
          rw [typesOf_append] at hshapes
          obtain ⟨first, hfirst, hshapes⟩ := Option.bind_eq_some_iff.mp hshapes
          obtain ⟨second, hsecond, rfl⟩ := Option.map_eq_some_iff.mp hshapes
          rw [ih hothers hsecond hdrop]
          rw [hnames rfl] at hfirst
          rw [typesOf_readBack_eq hsource hcolumns hfirst]
          rfl
      | false =>
          cases h
          rw [typesOf, typeOf_reference hsource] at hshapes
          split at hshapes
          · rename_i type found htype hfound
            cases hshapes
            have hmem : (ColumnName.result,
                collectionShape source result (resultFields catalog result)) ∈
                  jsonColumns columns := by
              rw [hcolumns]
              exact List.mem_singleton_self _
            rw [resolveColumn_mem htype hmem, ih hothers hfound hdrop]
            rfl
          · cases hshapes

end Fields

mutual

/-- The names under which a statement refers to the columns of a source are
distinct. -/
def CollectionResultPlan.distinctNames : CollectionResultPlan → Bool
  | .rows items => itemsDistinctNames items
  | .aggregate plan =>
      plan.mode == .ungrouped ||
        decide (plan.groupKeys.map AggregateGroupProjection.outputName ++
          plan.fields.map AggregateProjection.outputName).Nodup

/-- Flattened names are distinct within each item. -/
def itemsDistinctNames : List SelectionPlanItem → Bool
  | [] => true
  | .projection _ :: items => itemsDistinctNames items
  | .relation _ flattened _ (.mk _ result) :: items =>
      (!flattened || decide (collectCollectionOutputNames result).Nodup) &&
        result.distinctNames && itemsDistinctNames items

end

/-- The fields of items have types over the columns of their children. -/
theorem typesOf_selectionFields_isSome
    {types : List (List (ColumnName × SqlType))}
    {items : List SelectionPlanItem}
    {next : Nat}
    (hchildren : ChildColumns catalog items (types.drop next))
    (hdistinct : itemsDistinctNames items = true)
    {fields : List (String × SqlExpr)}
    (h : selectionFieldExpressions catalog next items = .ok fields) :
    ∃ shapes, typesOf types fields = some shapes := by
  generalize hrest : types.drop next = rest at hchildren
  induction hchildren generalizing next fields with
  | nil =>
      rw [selectionFieldExpressions] at h
      cases h
      exact ⟨[], rfl⟩
  | @projection projection items rest _ ih =>
      rw [selectionFieldExpressions] at h
      rw [itemsDistinctNames] at hdistinct
      obtain ⟨expression, hexpression, h⟩ := except_bind_ok h
      obtain ⟨others, hothers, h⟩ := except_bind_ok h
      cases h
      obtain ⟨found, hfound⟩ := ih hdistinct hothers hrest
      rw [typesOf_cons (typeOf_publicColumnExpression hexpression
        (catalog.dataTypeForColumn projection.column)), hfound]
      exact ⟨_, rfl⟩
  | @relation outputName flattened relation source result columns items rest hnames
      hcolumns _ ih =>
      rw [selectionFieldExpressions] at h
      rw [itemsDistinctNames] at hdistinct
      obtain ⟨hdistinct, hitems⟩ := Bool.and_eq_true_iff.mp hdistinct
      obtain ⟨hflattened, -⟩ := Bool.and_eq_true_iff.mp hdistinct
      obtain ⟨others, hothers, h⟩ := except_bind_ok h
      obtain ⟨hsource, hdrop⟩ := getElem?_of_drop hrest
      obtain ⟨found, hfound⟩ := ih hitems hothers hdrop
      cases flattened with
      | true =>
          cases h
          have hnodup : (collectCollectionOutputNames result).Nodup :=
            of_decide_eq_true hflattened
          rw [hnames rfl] at hnodup
          obtain ⟨first, hfirst⟩ := typesOf_readBack_isSome hsource hcolumns hnodup
            (List.Subset.refl _)
          rw [← hnames rfl] at hfirst
          refine ⟨first ++ found, ?_⟩
          rw [typesOf_append, hfound]
          exact Option.bind_eq_some_iff.mpr ⟨first, hfirst, rfl⟩
      | false =>
          cases h
          have hone : columns.map Prod.fst = [ColumnName.result] := by
            have h := congrArg (List.map Prod.fst) hcolumns
            rw [jsonColumns, List.map_map] at h
            exact h
          obtain ⟨column, hcolumn, hname⟩ := List.mem_map.mp
            (show ColumnName.result ∈ columns.map Prod.fst from
              hone ▸ List.mem_singleton_self _)
          have hresolved := resolveColumn_of_nodup
            (hone ▸ List.nodup_singleton _ : (columns.map Prod.fst).Nodup) hcolumn
          rw [hname] at hresolved
          refine ⟨(outputName, column.2.toJson) :: found, ?_⟩
          rw [typesOf, typeOf_reference hsource, hresolved, hfound]

/-! ## Selects -/

/-- The columns of a select are the types of its exports. -/
theorem columns_mk
    {sources : List SelectStatement}
    {exported : List (ColumnName × SqlExpr)}
    {columns : List (ColumnName × SqlType)} :
    (SelectStatement.mk sources exported).columns = some columns ↔
      ∃ types, sourceColumns sources = some types ∧
        exportedTypes types exported = some columns := by
  rw [SelectStatement.columns]
  cases sourceColumns sources with
  | none => exact ⟨nofun, nofun⟩
  | some types =>
      constructor
      · intro h
        exact ⟨types, rfl, h⟩
      · rintro ⟨_, ⟨⟩, h⟩
        exact h

theorem exportedTypes_single
    {types : List (List (ColumnName × SqlType))}
    (name : ColumnName)
    (expression : SqlExpr) :
    exportedTypes types [(name, expression)] =
      (typeOf types expression).map (fun type => [(name, type)]) := by
  rw [exportedTypes, exportedTypes]
  cases typeOf types expression with
  | none => rfl
  | some type => rfl

/-- Every column has the type JSON. -/
def AllJson (columns : List (ColumnName × SqlType)) : Prop :=
  ∀ column ∈ columns, column.2 = .json column.2.toJson

theorem AllJson.exportFields
    {types : List (List (ColumnName × SqlType))}
    {generation : SelectionGenerationContext}
    (hnested : generation.nested = false)
    {fields : List (String × SqlExpr)}
    {columns : List (ColumnName × SqlType)}
    (h : exportedTypes types (Results.exportFields generation fields) =
      some columns) :
    AllJson columns := by
  induction fields generalizing columns with
  | nil =>
      cases h
      exact fun column hmem => absurd hmem List.not_mem_nil
  | cons field fields ih =>
      rw [Results.exportFields, List.map_cons, ← Results.exportFields, exportedTypes,
        hnested] at h
      split at h
      · rename_i type others htype hothers
        cases h
        intro column hmem
        rcases List.mem_cons.mp hmem with rfl | hmem
        · rw [if_neg Bool.false_ne_true, typeOf] at htype
          obtain ⟨inner, -, rfl⟩ := Option.map_eq_some_iff.mp htype
          rfl
        · exact ih hothers column hmem
      · cases h

theorem AllJson.single
    {name : ColumnName}
    {shape : JsonShape} :
    AllJson [(name, .json shape)] := by
  intro column hmem
  rw [List.mem_singleton.mp hmem]
  rfl

/-- What is proved of the columns of a collection. -/
structure Promised
    (catalog : Catalog)
    (generation : SelectionGenerationContext)
    (source : CollectionSource)
    (result : CollectionResultPlan)
    (columns : List (ColumnName × SqlType)) : Prop where
  shapes : jsonColumns columns = promisedColumns catalog generation source result
  encoded : generation.nested = false → AllJson columns

/-- A single column of JSON keeps the promise. -/
theorem Promised.single
    {generation : SelectionGenerationContext}
    (hflattened : generation.flattened = false)
    (source : CollectionSource)
    (result : CollectionResultPlan) :
    Promised catalog generation source result
      [(generation.resultName,
        .json (collectionShape source result (resultFields catalog result)))] := by
  refine ⟨?_, fun _ => .single⟩
  rw [promisedColumns, if_neg (by rw [hflattened]; exact Bool.false_ne_true)]
  rfl

/-- Exported fields keep the promise of a flattened selection. -/
theorem Promised.exportFields
    {generation : SelectionGenerationContext}
    {source : CollectionSource}
    {result : CollectionResultPlan}
    (hflattened : generation.flattened = true)
    {types : List (List (ColumnName × SqlType))}
    {fields : List (String × SqlExpr)}
    (hfields : typesOf types fields = some (resultFields catalog result))
    {columns : List (ColumnName × SqlType)}
    (h : exportedTypes types (Results.exportFields generation fields) =
      some columns) :
    Promised catalog generation source result columns := by
  refine ⟨?_, fun hnested => .exportFields hnested h⟩
  have heq := exportedTypes_exportFields types generation fields
  rw [h, hfields] at heq
  rw [promisedColumns, if_pos hflattened]
  exact Option.some.inj heq

theorem exportedTypes_exportFields_some
    {types : List (List (ColumnName × SqlType))}
    {generation : SelectionGenerationContext}
    {fields : List (String × SqlExpr)} :
    (∃ columns, exportedTypes types (exportFields generation fields) = some columns) ↔
      ∃ shapes, typesOf types fields = some shapes := by
  have heq := exportedTypes_exportFields types generation fields
  constructor
  · rintro ⟨columns, h⟩
    rw [h] at heq
    obtain ⟨shapes, hshapes, -⟩ := Option.map_eq_some_iff.mp heq.symm
    exact ⟨shapes, hshapes⟩
  · rintro ⟨shapes, h⟩
    rw [h] at heq
    obtain ⟨columns, hcolumns, -⟩ := Option.map_eq_some_iff.mp heq
    exact ⟨columns, hcolumns⟩

/-! ## Aggregates -/

/-- The columns of a grouped aggregate have their promised shapes. -/
theorem typesOf_grouped
    {plan : AggregatePlan}
    {keys fields : List (String × SqlExpr)}
    (hkeys : plan.groupKeys.mapM (groupKeyField catalog) = .ok keys)
    (hfields : plan.fields.mapM (aggregateField catalog) = .ok fields)
    (types : List (List (ColumnName × SqlType))) :
    typesOf types (keys ++ fields) =
      some (resultFields catalog (.aggregate plan)) := by
  rw [typesOf_append, typesOf_groupKeyFields hkeys, typesOf_aggregateFields hfields,
    resultFields]
  rfl

/-- The inner select of a grouped aggregate exports its keys and fields. -/
theorem grouped_columns
    {plan : AggregatePlan}
    {keys fields : List (String × SqlExpr)}
    (hkeys : plan.groupKeys.mapM (groupKeyField catalog) = .ok keys)
    (hfields : plan.fields.mapM (aggregateField catalog) = .ok fields) :
    ∃ columns, exportedTypes []
        ((keys ++ fields).map (fun field => (ColumnName.output field.1, field.2))) =
          some columns ∧
      jsonColumns columns = outputColumns (resultFields catalog (.aggregate plan)) := by
  have heq := exportedTypes_exportFields [] ⟨true, none, true⟩ (keys ++ fields)
  rw [typesOf_grouped hkeys hfields] at heq
  obtain ⟨columns, hcolumns, hjson⟩ := Option.map_eq_some_iff.mp heq
  exact ⟨columns, hcolumns, hjson⟩

theorem resultFields_aggregate_names
    (plan : AggregatePlan) :
    (resultFields catalog (.aggregate plan)).map Prod.fst =
      plan.groupKeys.map AggregateGroupProjection.outputName ++
        plan.fields.map AggregateProjection.outputName := by
  rw [resultFields, List.map_append, List.map_map, List.map_map]
  rfl

/-- A grouped aggregate has its promised columns. -/
theorem generateGroupedAggregate_columns
    {plan : AggregatePlan}
    (hmode : plan.mode = .grouped)
    {generation : SelectionGenerationContext}
    (hflattened : generation.flattened = false)
    {source : CollectionSource}
    {query : SelectStatement}
    (h : generateGroupedAggregate catalog plan generation.resultName = .ok query) :
    (∀ columns, query.columns = some columns →
      Promised catalog generation source (.aggregate plan) columns) ∧
    ((CollectionResultPlan.aggregate plan).distinctNames = true →
      ∃ columns, query.columns = some columns) := by
  obtain ⟨keys, hkeys, h⟩ := except_bind_ok h
  obtain ⟨fields, hfields, h⟩ := except_bind_ok h
  cases h
  obtain ⟨inner, hinner, hjson⟩ := grouped_columns hkeys hfields
  have hsources : sourceColumns [.mk [] ((keys ++ fields).map (fun field =>
      (ColumnName.output field.1, field.2)))] = some [inner] := by
    rw [sourceColumns, columns_mk.mpr ⟨[], rfl, hinner⟩, sourceColumns]
  have hshape : collectionShape source (.aggregate plan)
      (resultFields catalog (.aggregate plan)) =
        .array (.object (resultFields catalog (.aggregate plan))) := by
    simp only [collectionShape, collectionResultKind, hmode]
  rw [← resultFields_aggregate_names]
  constructor
  · intro columns hcolumns
    obtain ⟨types, htypes, hexported⟩ := columns_mk.mp hcolumns
    rw [hsources] at htypes
    cases htypes
    rw [exportedTypes_single] at hexported
    obtain ⟨type, htype, rfl⟩ := Option.map_eq_some_iff.mp hexported
    rw [typeOf, typeOf] at htype
    obtain ⟨row, hrow, rfl⟩ := Option.map_eq_some_iff.mp htype
    obtain ⟨shapes, hshapes, rfl⟩ := Option.map_eq_some_iff.mp hrow
    have heq := typesOf_readBack_eq rfl hjson hshapes
    rw [heq]
    have hpromised : Promised catalog generation source (.aggregate plan) _ :=
      .single hflattened source (.aggregate plan)
    rw [hshape] at hpromised
    exact hpromised
  · intro hdistinct
    have hnodup : ((resultFields catalog (.aggregate plan)).map Prod.fst).Nodup := by
      rw [resultFields_aggregate_names]
      rw [CollectionResultPlan.distinctNames, hmode] at hdistinct
      exact of_decide_eq_true hdistinct
    have hsource : [inner][0]? = some inner := rfl
    obtain ⟨shapes, hshapes⟩ :=
      typesOf_readBack_isSome hsource hjson hnodup (List.Subset.refl _)
    refine ⟨[(generation.resultName, .json (.array (.object shapes)))], ?_⟩
    refine columns_mk.mpr ⟨[inner], hsources, ?_⟩
    rw [exportedTypes_single, typeOf, typeOf]
    rw [readBack] at hshapes
    rw [hshapes]
    rfl

/-- An aggregate has its promised columns. -/
theorem generateAggregate_columns
    {plan : AggregatePlan}
    {generation : SelectionGenerationContext}
    (hflat : generation.flattened = true →
      (CollectionResultPlan.aggregate plan).isGrouped = false)
    {source : CollectionSource}
    {query : SelectStatement}
    (h : generateAggregate catalog plan generation = .ok query) :
    (∀ columns, query.columns = some columns →
      Promised catalog generation source (.aggregate plan) columns) ∧
    ((CollectionResultPlan.aggregate plan).distinctNames = true →
      ∃ columns, query.columns = some columns) := by
  unfold generateAggregate at h
  cases hmode : plan.mode with
  | grouped =>
      have hflattened : generation.flattened = false := by
        by_contra hflattened
        have hgrouped := hflat (Bool.eq_true_of_not_eq_false hflattened)
        rw [CollectionResultPlan.isGrouped, hmode] at hgrouped
        cases hgrouped
      simp only [hmode] at h
      exact generateGroupedAggregate_columns hmode hflattened h
  | ungrouped =>
      simp only [hmode] at h
      obtain ⟨fields, hfields, h⟩ := except_bind_ok h
      cases h
      have htypes : typesOf [] fields =
          some (resultFields catalog (.aggregate plan)) := by
        rw [typesOf_aggregateFields hfields, resultFields, plan.ungrouped hmode]
        rfl
      cases hflattened : generation.flattened with
      | true =>
          rw [if_pos rfl]
          constructor
          · intro columns hcolumns
            obtain ⟨types, hsources, hexported⟩ := columns_mk.mp hcolumns
            cases hsources
            exact .exportFields hflattened htypes hexported
          · intro _
            obtain ⟨columns, hexported⟩ :=
              exportedTypes_exportFields_some.mpr ⟨_, htypes⟩
            exact ⟨columns, columns_mk.mpr ⟨[], rfl, hexported⟩⟩
      | false =>
          rw [if_neg Bool.false_ne_true]
          have hexported : exportedTypes []
              [(generation.resultName, SqlExpr.buildObject fields)] =
                some [(generation.resultName, .json (collectionShape source
                  (.aggregate plan) (resultFields catalog (.aggregate plan))))] := by
            rw [exportedTypes_single, typeOf, htypes]
            simp only [collectionShape, collectionResultKind, hmode, Option.map_some]
          have hcolumns : (SelectStatement.mk []
              [(generation.resultName, SqlExpr.buildObject fields)]).columns = _ :=
            columns_mk.mpr ⟨[], rfl, hexported⟩
          constructor
          · intro columns hfound
            rw [hcolumns] at hfound
            cases hfound
            exact .single hflattened source _
          · intro _
            exact ⟨_, hcolumns⟩

/-! ## Rows -/

/-- The exports of rows have their promised types. -/
theorem exportedTypes_rowExports
    {types : List (List (ColumnName × SqlType))}
    {items : List SelectionPlanItem}
    (hchildren : ChildColumns catalog items types)
    {fields : List (String × SqlExpr)}
    (hfields : selectionFieldExpressions catalog 0 items = .ok fields)
    {source : CollectionSource}
    {generation : SelectionGenerationContext} :
    (∀ columns, exportedTypes types (rowExports source generation fields) =
        some columns →
      Promised catalog generation source (.rows items) columns) ∧
    (itemsDistinctNames items = true →
      ∃ columns, exportedTypes types (rowExports source generation fields) =
        some columns) := by
  have hchildren' : ChildColumns catalog items (types.drop 0) := hchildren
  have hshape : ∀ shapes, typesOf types fields = some shapes →
      shapes = resultFields catalog (.rows items) := by
    intro shapes hshapes
    rw [resultFields]
    exact typesOf_selectionFields hchildren' hfields hshapes
  unfold rowExports
  cases hflattened : generation.flattened with
  | true =>
      rw [if_pos rfl]
      constructor
      · intro columns hcolumns
        obtain ⟨shapes, hshapes⟩ := exportedTypes_exportFields_some.mp ⟨_, hcolumns⟩
        rw [hshape shapes hshapes] at hshapes
        exact .exportFields hflattened hshapes hcolumns
      · intro hdistinct
        exact exportedTypes_exportFields_some.mpr
          (typesOf_selectionFields_isSome hchildren' hdistinct hfields)
  | false =>
      rw [if_neg Bool.false_ne_true, exportedTypes_single]
      have hrow : ∀ shapes, typesOf types fields = some shapes →
          typeOf types (rowExpression source fields) =
          some (.json (collectionShape source (.rows items)
            (resultFields catalog (.rows items)))) := by
        intro shapes hshapes
        rw [hshape shapes hshapes] at hshapes
        cases hcardinality : source.shape.cardinality with
        | collection =>
            simp only [collectionShape, collectionResultKind, rowExpression,
              hcardinality, typeOf, hshapes, Option.map_some]
            rfl
        | atMostOne =>
            simp only [collectionShape, collectionResultKind, rowExpression,
              hcardinality, typeOf, hshapes, Option.map_some]
      constructor
      · intro columns hcolumns
        obtain ⟨type, htype, rfl⟩ := Option.map_eq_some_iff.mp hcolumns
        have hsome : ∃ shapes, typesOf types fields = some shapes := by
          cases hshapes : typesOf types fields with
          | some shapes => exact ⟨shapes, rfl⟩
          | none =>
              cases hcardinality : source.shape.cardinality with
              | collection =>
                  simp only [rowExpression, hcardinality, typeOf, hshapes,
                    Option.map_none] at htype
                  cases htype
              | atMostOne =>
                  simp only [rowExpression, hcardinality, typeOf, hshapes,
                    Option.map_none] at htype
                  cases htype
        obtain ⟨shapes, hshapes⟩ := hsome
        rw [hrow shapes hshapes] at htype
        cases htype
        exact .single hflattened source (.rows items)
      · intro hdistinct
        obtain ⟨shapes, hshapes⟩ :=
          typesOf_selectionFields_isSome hchildren' hdistinct hfields
        rw [hrow shapes hshapes]
        exact ⟨_, rfl⟩

mutual

/-- The columns of every accepted collection are the promised ones, and
distinct names suffice for it to be accepted. -/
theorem generateCollection_columns :
    ∀ {source : CollectionSource} {result : CollectionResultPlan}
      {generation : SelectionGenerationContext} {query : SelectStatement},
      result.flattensRows = true →
      (generation.flattened = true → result.isGrouped = false) →
      generateCollection catalog (.mk source result) generation = .ok query →
      (∀ columns, query.columns = some columns →
        Promised catalog generation source result columns) ∧
      (result.distinctNames = true → ∃ columns, query.columns = some columns)
  | source, .rows items, generation, query, hrows, _, h => by
      rw [generateCollection] at h
      rw [CollectionResultPlan.flattensRows] at hrows
      obtain ⟨children, hchildren, h⟩ := except_bind_ok h
      obtain ⟨fields, hfields, h⟩ := except_bind_ok h
      cases h
      obtain ⟨htypes, haccepted⟩ := generateChildren_columns hrows hchildren
      constructor
      · intro columns hcolumns
        obtain ⟨types, hsources, hexported⟩ := columns_mk.mp hcolumns
        exact (exportedTypes_rowExports (htypes types hsources) hfields).1 columns
          hexported
      · intro hdistinct
        rw [CollectionResultPlan.distinctNames] at hdistinct
        obtain ⟨types, hsources⟩ := haccepted hdistinct
        obtain ⟨columns, hexported⟩ :=
          (exportedTypes_rowExports (htypes types hsources) hfields).2 hdistinct
        exact ⟨columns, columns_mk.mpr ⟨types, hsources, hexported⟩⟩
  | source, .aggregate plan, generation, query, _, hflat, h => by
      rw [generateCollection] at h
      exact generateAggregate_columns hflat h

/-- The children of items have their promised columns. -/
theorem generateChildren_columns :
    ∀ {items : List SelectionPlanItem} {children : List SelectStatement},
      itemsFlattenRows items = true →
      generateChildren catalog items = .ok children →
      (∀ types, sourceColumns children = some types →
        ChildColumns catalog items types) ∧
      (itemsDistinctNames items = true →
        ∃ types, sourceColumns children = some types)
  | [], children, _, h => by
      rw [generateChildren] at h
      cases h
      refine ⟨?_, fun _ => ⟨[], rfl⟩⟩
      intro types htypes
      cases htypes
      exact .nil
  | .projection projection :: items, children, hrows, h => by
      rw [generateChildren] at h
      rw [itemsFlattenRows] at hrows
      obtain ⟨htypes, haccepted⟩ := generateChildren_columns hrows h
      refine ⟨fun types hsources => .projection (htypes types hsources), ?_⟩
      intro hdistinct
      rw [itemsDistinctNames] at hdistinct
      exact haccepted hdistinct
  | .relation outputName flattened relation (.mk source result) :: items, children,
      hrows, h => by
      rw [generateChildren] at h
      rw [itemsFlattenRows] at hrows
      obtain ⟨hrows, hitems⟩ := Bool.and_eq_true_iff.mp hrows
      obtain ⟨hplain, hresult⟩ := Bool.and_eq_true_iff.mp hrows
      obtain ⟨child, hchild, h⟩ := except_bind_ok h
      obtain ⟨others, hothers, h⟩ := except_bind_ok h
      cases h
      have hflat : flattened = true → result.isGrouped = false := by
        rintro rfl
        rwa [Bool.true_and, Bool.not_eq_true'] at hplain
      obtain ⟨hcolumns, haccepted⟩ := generateCollection_columns hresult hflat hchild
      obtain ⟨htypes, hothersAccepted⟩ := generateChildren_columns hitems hothers
      constructor
      · intro types hsources
        rw [sourceColumns] at hsources
        split at hsources
        · rename_i columns rest hchildColumns hrest
          cases hsources
          refine .relation ?_ (hcolumns columns hchildColumns).shapes (htypes rest hrest)
          intro hflattened
          exact collectCollectionOutputNames_eq (hflat hflattened) hresult
        · cases hsources
      · intro hdistinct
        rw [itemsDistinctNames] at hdistinct
        obtain ⟨hdistinct, hdistinctItems⟩ := Bool.and_eq_true_iff.mp hdistinct
        obtain ⟨-, hdistinctResult⟩ := Bool.and_eq_true_iff.mp hdistinct
        obtain ⟨columns, hchildColumns⟩ := haccepted hdistinctResult
        obtain ⟨rest, hrest⟩ := hothersAccepted hdistinctItems
        exact ⟨columns :: rest, by rw [sourceColumns, hchildColumns, hrest]⟩

end

end Collections

end Results
end Dsql
