import Dsql.Sql.FilterNumbers

/-!
# Numbers in rendered plans

Every number in a statement or in the text of a dynamic input site stands for
the parameter that asked for it.  All of the numbers are written exactly when
no parameter is mentioned in dropped renderings only.
-/

namespace Dsql

namespace Postgres

open Dsql.Numbering Results

section Clauses

variable (catalog : Catalog) {view : SqlRowView} {mentioned : MentionedView}

theorem directionVariant_silent
    (path : InputPath)
    (variants : List SqlVariantCase)
    (nullable : Bool) : Silent (directionVariant path variants nullable) := by
  unfold directionVariant
  split
  · exact variantWithNull_silent path variants (some "null")
  · exact variantWithNull_silent path variants none

/-- A dynamic order mentions the guards of its fields. -/
theorem dynamicOrder_leaves
    (h : view.Mentioned mentioned)
    (path : InputPath)
    (fields : List DynamicInputFieldPlan) :
    Leaves (dynamicOrder catalog view path fields)
      (.concat (fields.map (orderFieldMentions mentioned)))
      Sql.numbersOfAll := by
  have hsite := dynamicFields_leaves (orderField_leaves catalog h) fields path
    .order
  have hterms : Leaves
      ((fields.mapM (generatedDynamicOrderField catalog view) >>= fun fields =>
        SqlTemplateContext.dynamicSite path .order fields) >>= fun marker =>
          pure [Sql.node (.orderBy .asc) [marker]])
      (.concat (fields.map (orderFieldMentions mentioned)))
      Sql.numbersOfAll := by
    refine hsite.map ?_
    intro marker number
    simp
  rw [bind_assoc] at hterms
  exact hterms

/-- A guarded column whose direction an input selects. -/
theorem directionTerms_leaves
    (h : view.Mentioned mentioned)
    (columnId : ColumnId)
    (path : InputPath)
    (variants : List SqlVariantCase)
    (nullable : Bool) :
    Leaves
      (maskedColumnExpression catalog view columnId >>= fun expression =>
        directionVariant path variants nullable >>= fun _ =>
          pure (directionTerms path expression))
      (mentioned (.column columnId)) Sql.numbersOfAll := by
  have hcolumn := maskedColumnExpression_leaves catalog h columnId
  refine Renders.congr (hcolumn.bind fun expression =>
    Silent.bind (directionVariant_silent path variants nullable)
      fun _ => Renders.pure ?_) ?_ ?_
  · intro parameters hwrites
    refine hwrites.congr ?_ (fun _ => Iff.rfl)
    intro number
    simp [directionTerms]
  · simp
  · simp

/-- An order by a column mentions its guard. -/
theorem columnTerm_leaves
    (h : view.Mentioned mentioned)
    (columnId : ColumnId)
    (direction : SortDirection) :
    Leaves
      (maskedColumnExpression catalog view columnId >>= fun expression =>
        pure [Sql.node (.orderBy direction) [expression]])
      (mentioned (.column columnId)) Sql.numbersOfAll := by
  refine (maskedColumnExpression_leaves catalog h columnId).map ?_
  intro expression number
  simp

/-- The terms of an order mention what they read. -/
theorem orderTerms_leaves
    (h : view.Mentioned mentioned)
    (order : OrderByPlan) :
    Leaves (orderTerms catalog view order) (orderMentions mentioned order)
      Sql.numbersOfAll := by
  cases order with
  | column columnId direction =>
      cases direction with
      | asc => exact columnTerm_leaves catalog h columnId .asc
      | desc => exact columnTerm_leaves catalog h columnId .desc
      | «variant» path variants nullable =>
          rw [orderTerms]
          by_cases hplain : (!nullable &&
              (view.policyFieldFilter (.column columnId)).isNone) = true
          · rw [if_pos hplain]
            rw [Bool.and_eq_true, Option.isNone_iff_eq_none] at hplain
            rw [orderMentions, h.unguarded _ hplain.2]
            refine Renders.congr (Leaves.bind
              (rawColumn_leaves catalog view columnId) fun expression =>
                Silent.bind (replaceOrderDirection_silent view.context
                  columnId path variants) fun _ => Renders.pure ?_) ?_ ?_
            · intro parameters hwrites
              refine hwrites.congr ?_ (fun _ => Iff.rfl)
              intro number
              simp
            · simp
            · simp
          · rw [if_neg hplain]
            exact directionTerms_leaves catalog h columnId path variants
              nullable
  | dynamic path surface fields => exact dynamicOrder_leaves catalog h path fields

/-- The same within an aggregated array. -/
theorem aggregatedOrderTerms_leaves
    (h : view.Mentioned mentioned)
    (order : OrderByPlan) :
    Leaves (aggregatedOrderTerms catalog view order)
      (orderMentions mentioned order) Sql.numbersOfAll := by
  cases order with
  | column columnId direction =>
      cases direction with
      | asc => exact columnTerm_leaves catalog h columnId .asc
      | desc => exact columnTerm_leaves catalog h columnId .desc
      | «variant» path variants nullable =>
          exact directionTerms_leaves catalog h columnId path variants nullable
  | dynamic path surface fields => exact dynamicOrder_leaves catalog h path fields

theorem mem_numbersOfAll_flatten (parts : List (List Sql)) (number : Nat) :
    number ∈ Sql.numbersOfAll parts.flatten ↔
      number ∈ parts.flatMap Sql.numbersOfAll := by
  simp only [Sql.numbersOfAll_eq, List.mem_flatMap, List.mem_flatten]
  constructor
  · rintro ⟨part, ⟨group, hgroup, hpart⟩, hnumber⟩
    exact ⟨group, hgroup, part, hpart, hnumber⟩
  · rintro ⟨group, hgroup, part, hpart, hnumber⟩
    exact ⟨part, ⟨group, hgroup, hpart⟩, hnumber⟩

/-- A limit mentions its parameter. -/
theorem limitClause_leaves
    (clauses : SelectionClauses)
    (limitOverride : Option Nat) :
    Leaves (limitClause clauses limitOverride) (valueMentions clauses.limit)
      Sql.numbersOfAll := by
  have hplaceholder : ∀ (parameter : SqlParameter) (term : Sql → Sql),
      (∀ placeholder, (term placeholder).numbers = placeholder.numbers) →
        Leaves (SqlTemplateContext.parameter parameter >>= fun placeholder =>
            pure [term placeholder])
          (.parameter parameter) Sql.numbersOfAll := by
    intro parameter term hterm
    refine (parameter_leaves parameter).map ?_
    intro placeholder number
    simp [hterm]
  unfold limitClause
  cases clauses.limit with
  | none =>
      cases limitOverride with
      | none => exact Leaves.done (by simp)
      | some limit => exact Leaves.done (by simp)
  | some value =>
      cases value with
      | literal limit =>
          cases limitOverride with
          | none => exact Leaves.done (by simp)
          | some limit => exact Leaves.done (by simp)
      | parameter parameter =>
          cases limitOverride with
          | none =>
              exact hplaceholder parameter (fun placeholder =>
                .node .limit [placeholder]) (by simp)
          | some guard =>
              exact hplaceholder parameter (fun placeholder =>
                .node .limit [.node (.least guard) [placeholder]]) (by simp)

/-- An offset mentions its parameter. -/
theorem offsetClause_leaves (clauses : SelectionClauses) :
    Leaves (offsetClause clauses) (valueMentions clauses.offset)
      Sql.numbersOfAll := by
  unfold offsetClause
  cases clauses.offset with
  | none => exact Leaves.done (by simp)
  | some value =>
      cases value with
      | literal offset => exact Leaves.done (by simp)
      | parameter parameter =>
          refine (parameter_leaves parameter).map ?_
          intro placeholder number
          simp

/-- Orders, limits and offsets mention what they read. -/
theorem applyOrderLimitOffset_leaves
    (h : view.Mentioned mentioned)
    (clauses : SelectionClauses)
    (limitOverride : Option Nat) :
    Leaves (applyOrderLimitOffset catalog view clauses limitOverride)
      (boundMentions mentioned clauses) Sql.numbersOfAll := by
  have horders := Leaves.mapM clauses.orderBy
    (fun order _ => orderTerms_leaves catalog h order)
  refine Renders.congr (horders.bind fun orders =>
    Leaves.bind (limitClause_leaves clauses limitOverride) fun limit =>
      Leaves.bind (offsetClause_leaves clauses) fun offset =>
        Renders.pure ?_) ?_ ?_
  · intro parameters hoffset hlimit horders
    refine ((horders.append hlimit).append hoffset).congr ?_
      (fun _ => Iff.rfl)
    intro number
    simp only [Sql.numbersOfAll_append, List.mem_append,
      mem_numbersOfAll_flatten]
  · simp [boundMentions, ordersMentions]
  · simp [boundMentions, ordersMentions]

/-- An ordered array keeps the numbers of its objects. -/
theorem orderedJsonAgg_keeps
    (h : view.Mentioned mentioned)
    (object : Sql)
    (clauses : SelectionClauses) :
    Keeps (orderedJsonAgg catalog view object clauses) object.numbers
      (ordersMentions mentioned clauses) Sql.numbers := by
  have horders := Leaves.mapM clauses.orderBy
    (fun order _ => aggregatedOrderTerms_leaves catalog h order)
  refine Renders.congr (horders.bind fun orders => Renders.pure ?_) ?_ ?_
  · intro parameters horders
    refine ⟨_, horders, ?_⟩
    intro number
    simp only [Sql.numbers_node, Sql.numbersOfAll_cons, List.mem_append,
      mem_numbersOfAll_flatten]
  · simp [ordersMentions]
  · simp [ordersMentions]

end Clauses

/-! ## Selected fields -/

/-- The numbers of some named fields. -/
def namedNumbers (fields : List (String × Sql)) : List Nat :=
  Sql.numbersOfAll (fields.map Prod.snd)

@[simp] theorem numbers_jsonBuildObject (fields : List (String × Sql)) :
    (jsonBuildObject fields).numbers = namedNumbers fields := by
  unfold jsonBuildObject
  rw [Sql.numbers_node]
  rfl

/-- Exported fields have the numbers of the fields. -/
theorem mem_exportedFields
    (encoded : Bool)
    (fields : List (String × Sql))
    (number : Nat) :
    number ∈ Sql.numbersOfAll (exportedFields encoded fields) ↔
      number ∈ namedNumbers fields := by
  unfold exportedFields namedNumbers
  rw [Sql.numbersOfAll_eq, Sql.numbersOfAll_eq, List.flatMap_map,
    List.flatMap_map]
  cases encoded <;> simp

theorem mem_objectOrFields
    (generation : SelectionGenerationContext)
    (fields : List (String × Sql))
    (number : Nat) :
    number ∈ Sql.numbersOfAll (objectOrFields generation fields) ↔
      number ∈ namedNumbers fields := by
  unfold objectOrFields
  split
  · exact mem_exportedFields _ fields number
  · simp

/-- References to columns of a derived table write no number. -/
theorem namedNumbers_outputs (source : DerivedTable) (names : List String) :
    namedNumbers (names.map (fun name =>
      (name, Sql.node (.output source (some name)) []))) = [] := by
  unfold namedNumbers
  rw [Sql.numbersOfAll_eq, List.map_map, List.flatMap_map]
  simp

section Fields

variable (catalog : Catalog) {view : SqlRowView} {mentioned : MentionedView}

/-- The fields of a selection mention the guards of their columns. -/
theorem selectionFieldExpressions_leaves
    (h : view.Mentioned mentioned)
    (path : List AliasSegment)
    (before items : List SelectionPlanItem) :
    Leaves (selectionFieldExpressions catalog view path before items)
      (projectionMentions mentioned items) namedNumbers := by
  induction items generalizing before with
  | nil => exact Leaves.done Sql.numbersOfAll_nil
  | cons item items ih =>
      cases item with
      | projection projection =>
          rw [selectionFieldExpressions, projectionMentions]
          refine (maskedColumnExpression_leaves catalog h
            projection.column).both (ih _) ?_
          intro expression fields number
          simp [namedNumbers]
      | relation outputName flattened relation collection =>
          rw [selectionFieldExpressions, projectionMentions]
          refine Silent.bind (table_silent catalog _) fun related => ?_
          refine (ih _).map ?_
          intro fields number
          cases flattened with
          | true =>
              have houtputs := namedNumbers_outputs
                (.related ⟨relationInstancePath before related.id outputName
                  path⟩)
                (collectCollectionOutputNames collection.result)
              unfold namedNumbers at houtputs ⊢
              rw [if_pos rfl, List.map_append, Sql.numbersOfAll_append,
                houtputs, List.nil_append]
          | false => simp [namedNumbers]

/-- An aggregate mentions the guard of its operand. -/
theorem aggregateField_leaves
    (h : view.Mentioned mentioned)
    (field : AggregateProjection) :
    Leaves (aggregateField catalog view field)
      (aggregateFieldMentions mentioned field)
      (fun field => field.2.numbers) := by
  refine (aggregateValueExpression_leaves catalog h field.function
    field.operand).map ?_
  intro value number
  simp

theorem aggregateFields_leaves
    (h : view.Mentioned mentioned)
    (fields : List AggregateProjection) :
    Leaves (fields.mapM (aggregateField catalog view))
      (.concat (fields.map (aggregateFieldMentions mentioned)))
      namedNumbers := by
  refine (Leaves.mapM fields (fun field _ =>
    aggregateField_leaves catalog h field)).imp ?_
  intro parameters values hwrites
  refine hwrites.congr (fun number => ?_) (fun _ => Iff.rfl)
  unfold namedNumbers
  rw [Sql.numbersOfAll_eq, List.flatMap_map]

end Fields

/-! ## Collections -/

/-- A place in a statement with what its row sources mention. -/
structure SelectionGenerationContext.Mentioned
    (generation : SelectionGenerationContext)
    (context : MentionedContext) : Prop where
  noParent : generation.parent = none → context.parent = none
  parent : ∀ view relation, generation.parent = some (view, relation) →
    ∃ mentioned, context.parent = some (mentioned, relation.id) ∧
      view.Mentioned mentioned
  noRoot : generation.root = none → context.root = none
  root : ∀ view, generation.root = some view →
    ∃ mentioned, context.root = some mentioned ∧ view.Mentioned mentioned
  flattened : generation.flattened = context.flattened

section Collections

variable (catalog : Catalog) {generation : SelectionGenerationContext}
  {context : MentionedContext} {view root : SqlRowView}
  {mentioned rootMentioned : MentionedView}

/-- A child mentions the guard of the relation that leads to it. -/
theorem parentFilter_leaves (h : generation.Mentioned context) :
    Leaves (parentFilter generation) (parentMentions context)
      Sql.numbersOfAll := by
  unfold parentFilter parentMentions
  cases hparent : generation.parent with
  | none =>
      rw [h.noParent hparent]
      exact Leaves.done Sql.numbersOfAll_nil
  | some parent =>
      obtain ⟨source, relation⟩ := parent
      obtain ⟨sourceMentioned, hcontext, hsource⟩ :=
        h.parent source relation hparent
      rw [hcontext]
      exact relationFilter_leaves hsource relation

/-- The condition of the relation mentions nothing. -/
theorem parentCondition_leaves (child : Alias) :
    Leaves (parentCondition catalog child generation) .empty
      Sql.numbersOfAll := by
  unfold parentCondition
  cases generation.parent with
  | none => exact Leaves.done Sql.numbersOfAll_nil
  | some parent =>
      exact relationCondition_leaves catalog parent.1.context child parent.2

/-- The scope of a collection leaves what its views mention. -/
theorem collectionScope_mentioned
    (h : generation.Mentioned context)
    (hview : view.Mentioned mentioned)
    (hroot : root.Mentioned rootMentioned) :
    (collectionScope view root generation).Mentioned
      ⟨mentioned, rootMentioned, mentioned, context.parent.map Prod.fst⟩ := by
  refine ⟨hview, hroot, hview, ?_, ?_⟩
  · intro target htarget
    obtain ⟨⟨source, relation⟩, hparent, rfl⟩ :=
      Option.map_eq_some_iff.mp htarget
    obtain ⟨sourceMentioned, hcontext, hsource⟩ :=
      h.parent source relation hparent
    exact ⟨sourceMentioned, by rw [hcontext]; rfl, hsource⟩
  · intro hnone
    have hparent : generation.parent = none := Option.map_eq_none_iff.mp hnone
    rw [h.noParent hparent]
    rfl

theorem root_mentioned
    (h : generation.Mentioned context)
    (hview : view.Mentioned mentioned) :
    (generation.root.getD view).Mentioned (context.root.getD mentioned) := by
  cases hroot : generation.root with
  | none =>
      rw [h.noRoot hroot]
      exact hview
  | some root =>
      obtain ⟨rootMentioned, hcontext, hrootMentioned⟩ := h.root root hroot
      rw [hcontext]
      exact hrootMentioned

/-- The conditions of a collection mention what they read. -/
theorem collectionFilters_leaves
    (source : CollectionSource)
    (name : Alias)
    (h : generation.Mentioned context)
    (hview : view.Mentioned mentioned)
    (hroot : root.Mentioned rootMentioned) :
    Leaves (collectionFilters catalog source name view root generation)
      (collectionFilterMentions source mentioned rootMentioned context)
      Sql.numbersOfAll := by
  refine Renders.congr (Leaves.bind (parentFilter_leaves h) fun relation =>
    Leaves.bind (optionalFilter_leaves (.raw name) source.policyFilter
      (fun filter _ => conditionalFilterExpr_leaves filter)) fun policy =>
    Leaves.bind (optionalFilter_leaves
      (collectionScope_mentioned h hview hroot) source.clauses.filter
      (fun filter _ => conditionalFilterExpr_leaves filter)) fun query =>
    Renders.pure ?_) ?_ ?_
  · intro parameters hquery hpolicy hrelation
    refine ((hrelation.append hpolicy).append hquery).congr ?_
      (fun _ => Iff.rfl)
    intro number
    simp only [Sql.numbersOfAll_append]
  · simp [collectionFilterMentions]
  · simp [collectionFilterMentions]

theorem mem_conditions (filters : List Sql) (number : Nat) :
    number ∈ Sql.numbersOfAll (conditions filters) ↔
      number ∈ Sql.numbersOfAll filters := by
  unfold conditions
  rw [Sql.numbersOfAll_eq, Sql.numbersOfAll_eq, List.flatMap_map]
  simp

/-- The source of rows keeps the numbers of its conditions. -/
theorem rowSource_keeps
    (options : PostgresSqlOptions)
    (source : CollectionSource)
    (current : Table)
    (hview : view.Mentioned mentioned)
    (correlation filters : List Sql) :
    Keeps
      (rowSource catalog options source current view correlation filters)
      (Sql.numbersOfAll (correlation ++ filters))
      (boundMentions mentioned source.clauses) Sql.numbersOfAll := by
  have hbounds := applyOrderLimitOffset_leaves catalog hview source.clauses
  unfold rowSource
  split
  · refine Renders.congr ((hbounds _).bind fun bounds => Renders.pure ?_) ?_ ?_
    · intro parameters hbounds
      refine ⟨_, hbounds, ?_⟩
      intro number
      simp [mem_conditions, or_assoc]
    · exact List.append_nil _
    · simp
  · refine Renders.congr ((hbounds _).bind fun bounds => Renders.pure ?_) ?_ ?_
    · intro parameters hbounds
      refine ⟨_, hbounds, ?_⟩
      intro number
      simp [mem_conditions, or_assoc]
    · exact List.append_nil _
    · simp

/-- The output of rows keeps the numbers of its fields. -/
theorem rowOutput_keeps
    (source : CollectionSource)
    (h : generation.Mentioned context)
    (hview : view.Mentioned mentioned)
    (fields : List (String × Sql)) :
    Keeps (rowOutput catalog source view generation fields)
      (namedNumbers fields) (outputMentions source mentioned context)
      Sql.numbersOfAll := by
  unfold rowOutput outputMentions
  rw [h.flattened]
  split
  · refine Renders.pure fun parameters => ⟨[], .nil, ?_⟩
    intro number
    simp [mem_objectOrFields]
  · have harray := orderedJsonAgg_keeps catalog hview (jsonBuildObject fields)
      source.clauses
    refine Renders.congr (harray.bind fun array => Renders.pure ?_) ?_ ?_
    · rintro parameters ⟨added, hadded, hnumbers⟩
      refine ⟨added, hadded, ?_⟩
      intro number
      simp [hnumbers]
    · exact List.append_nil _
    · simp

/-- The key is written twice, with the same numbers. -/
theorem groupKey_leaves
    (hview : view.Mentioned mentioned)
    (key : AggregateGroupProjection) :
    Leaves (groupKey catalog view key) (mentioned (.column key.column))
      Sql.numbersOfAll := by
  refine (maskedColumnExpression_leaves catalog hview key.column).map ?_
  intro grouped number
  simp

/-- A grouped aggregate keeps the numbers of its clauses. -/
theorem generateGroupedAggregate_keeps
    (hview : view.Mentioned mentioned)
    (clauses : List Sql)
    (aggregate : AggregatePlan)
    (publicResultAlias : Option String) :
    Keeps
      (generateGroupedAggregate catalog view clauses aggregate
        publicResultAlias)
      (Sql.numbersOfAll clauses)
      (.concat (aggregate.groupKeys.map (fun key =>
          mentioned (.column key.column))) ++
        .concat (aggregate.fields.map (aggregateFieldMentions mentioned)))
      Sql.numbers := by
  have hkeys := Leaves.mapM aggregate.groupKeys
    (fun key _ => groupKey_leaves catalog hview key)
  refine Renders.congr (hkeys.bind fun keys =>
    (aggregateFields_leaves catalog hview aggregate.fields).bind fun fields =>
      Renders.pure ?_) ?_ ?_
  · intro parameters hfields hkeys
    refine ⟨_, hkeys.append hfields, ?_⟩
    intro number
    simp only [Sql.numbers_node, Sql.numbersOfAll_cons, Sql.numbersOfAll_nil,
      Sql.numbersOfAll_append, numbers_jsonBuildObject, namedNumbers_outputs,
      List.append_nil, List.mem_append, mem_exportedFields,
      mem_numbersOfAll_flatten, or_assoc]
  · simp
  · simp

/-- The view of a source mentions the guards of its fields. -/
theorem readable_mentioned
    (name : Alias)
    (fields : List (PolicyFieldFilter FilterExpr)) :
    (readable catalog name fields).Mentioned (fieldMentions fields) :=
  fieldGuards_mentioned name fields
    (fun field _ => conditionalFilterExpr_leaves field.filter)

/-- An aggregate mentions what was planned of it. -/
theorem generateAggregate_leaves
    (source : CollectionSource)
    (aggregate : AggregatePlan)
    (path : List AliasSegment)
    (h : generation.Mentioned context) :
    Leaves (generateAggregate catalog source aggregate path generation)
      (collectionMentions context (.mk source (.aggregate aggregate)))
      Sql.numbers := by
  have hview := readable_mentioned catalog ⟨path⟩ source.fieldFilters
  have hfilters := collectionFilters_leaves catalog source ⟨path⟩ h hview
    (root_mentioned h hview)
  rw [collectionMentions, generateAggregate, groupMentions]
  refine Silent.bind (table_silent catalog source.table) fun current => ?_
  cases aggregate.mode with
  | grouped =>
      refine Renders.congr (Leaves.bind (parentCondition_leaves catalog ⟨path⟩)
        fun correlation => hfilters.bind fun filters =>
          (generateGroupedAggregate_keeps catalog hview _ aggregate _).imp
            ?_) ?_ ?_
      · rintro parameters query ⟨added, hadded, hnumbers⟩ hfilters hcorrelation
        refine ((hcorrelation.append hfilters).append hadded).congr ?_ ?_
        · intro number
          rw [hnumbers]
          simp [mem_conditions, or_assoc]
        · simp [Mentions.empty]
      · simp [Mentions.empty]
      · simp [Mentions.empty]
  | ungrouped =>
      refine Renders.congr (Leaves.bind (parentCondition_leaves catalog ⟨path⟩)
        fun correlation => hfilters.bind fun filters =>
          (aggregateFields_leaves catalog hview aggregate.fields).bind
            fun fields => Renders.pure ?_) ?_ ?_
      · intro parameters hfields hfilters hcorrelation
        refine ((hcorrelation.append hfilters).append hfields).congr ?_ ?_
        · intro number
          simp [mem_conditions, mem_objectOrFields, or_assoc]
        · simp [Mentions.empty]
      · simp [Mentions.empty]
      · simp [Mentions.empty]

end Collections

end Postgres

end Dsql
