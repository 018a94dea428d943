import Dsql.Sql.OrderDirections

/-!
# Directions of plans

The orders of a generated statement are those of the clauses of its plan.
Where these name one direction for each column, the finished statement is the
generated one.
-/

namespace Dsql

open Results

namespace Postgres

/-! ## Orders of plans -/

/-- The order of a column as a plan writes it; an input that may be null
selects among terms of their own. -/
def planColumnOrder (source : Alias) : OrderByPlan → Option ColumnOrder
  | .column column .asc => some ⟨source, column, none⟩
  | .column column (.variant path _ false) => some ⟨source, column, some path⟩
  | .column _ _ | .dynamic _ _ _ => none

mutual

/-- The column orders of a collection and of its relations. -/
def collectionOrders (path : List AliasSegment) :
    CollectionPlan → List ColumnOrder
  | .mk _ (.aggregate _) => []
  | .mk source (.rows items) =>
      source.clauses.orderBy.filterMap (planColumnOrder ⟨path⟩) ++
        relatedOrders path [] items

def relatedOrders
    (path : List AliasSegment)
    (before : List SelectionPlanItem) : List SelectionPlanItem →
      List ColumnOrder
  | [] => []
  | .projection projection :: items =>
      relatedOrders path (before ++ [.projection projection]) items
  | .relation outputName flattened relationId collection :: items =>
      collectionOrders
        (relationInstancePath before collection.source.table outputName path)
        collection ++
      relatedOrders path
        (before ++ [.relation outputName flattened relationId collection])
        items

end

end Postgres

def Results.QueryPlan.columnOrders
    (plan : QueryPlan) : List Postgres.ColumnOrder :=
  plan.roots.flatMap (fun root =>
    Postgres.collectionOrders
      [.selection root.collection.source.table root.outputName 0]
      root.collection)

/-- A column that is ordered twice has the same direction both times: always
the ascending one, or always the one that the same input selects. -/
def Results.QueryPlan.DirectionsAgree (plan : QueryPlan) : Prop :=
  ∀ order ∈ plan.columnOrders, ∀ other ∈ plan.columnOrders,
    order.source = other.source → order.column = other.column →
      order.path = other.path

instance (plan : QueryPlan) : Decidable plan.DirectionsAgree :=
  inferInstanceAs (Decidable (∀ order ∈ plan.columnOrders,
    ∀ other ∈ plan.columnOrders, order.source = other.source →
      order.column = other.column → order.path = other.path))

namespace Postgres

/-! ## Clauses -/

section Clauses

variable {allowed : ColumnOrder → Prop} (catalog : Catalog)
  {view : SqlRowView}

/-- Terms whose orders are allowed. -/
abbrev Terms (allowed : ColumnOrder → Prop) (terms : List Sql) : Prop :=
  ∀ term ∈ terms, term.OrdersWithin allowed

/-- A planned order writes itself alone. -/
theorem orderBy_within
    {columnId : ColumnId}
    {sql : Sql}
    (hsql : ReadsColumn allowed view.context columnId sql)
    {direction : SortDirection}
    (h : direction = .asc → allowed ⟨view.context, columnId, none⟩) :
    (Sql.node (.orderBy direction) [sql]).OrdersWithin allowed := by
  rw [Sql.ordersWithin_node, List.forall_mem_singleton]
  refine ⟨?_, hsql.within⟩
  obtain rfl | ⟨guard, value, rfl, -, -⟩ := hsql
  · cases direction with
    | asc => simpa [Sql.columnOrder] using h rfl
    | desc => simp [Sql.columnOrder]
  · cases direction <;> simp [Sql.columnOrder]

/-- An order by a column writes that order. -/
theorem columnTerm_confined
    (hview : view.Confined allowed)
    (columnId : ColumnId)
    {direction : SortDirection}
    (h : direction = .asc → allowed ⟨view.context, columnId, none⟩) :
    Confined allowed
      (maskedColumnExpression catalog view columnId >>= fun expression =>
        pure [Sql.node (.orderBy direction) [expression]])
      (Terms allowed) :=
  (maskedColumnExpression_confined catalog hview columnId).map
    fun _ hsql => List.forall_mem_singleton.mpr (orderBy_within hsql h)

/-- A dynamic order writes no direction. -/
theorem dynamicOrder_confined
    (hview : view.Confined allowed)
    (path : InputPath)
    (fields : List DynamicInputFieldPlan) :
    Confined allowed (dynamicOrder catalog view path fields)
      (Terms allowed) := by
  unfold dynamicOrder
  refine (Confined.mapM fields fun field _ =>
    generatedDynamicOrderField_confined catalog hview field).bind
      fun rendered _ => ?_
  refine (dynamicSite_confined path .order rendered).map ?_
  rintro _ ⟨index, rfl⟩
  simp [Terms, Sql.columnOrder]

/-- A column whose direction an input selects by two terms. -/
theorem directionTerms_confined
    (hview : view.Confined allowed)
    (columnId : ColumnId)
    (path : InputPath)
    (variants : List SqlVariantCase)
    (nullable : Bool) :
    Confined allowed
      (maskedColumnExpression catalog view columnId >>= fun expression =>
        directionVariant path variants nullable >>= fun _ =>
          pure (directionTerms path expression))
      (Terms allowed) := by
  refine (maskedColumnExpression_confined catalog hview columnId).bind
    fun expression hexpression => ?_
  have hvariant : Confined allowed (directionVariant path variants nullable)
      (fun _ => True) := by
    unfold directionVariant
    split
    · exact variantWithNull_confined path variants (some "null")
    · exact variantWithNull_confined path variants none
  refine hvariant.map fun _ _ => ?_
  simp [Terms, directionTerms, Sql.columnOrder, hexpression.within]

/-- The terms of an order write what was planned. -/
theorem orderTerms_confined
    (hview : view.Confined allowed)
    (order : OrderByPlan)
    (h : ∀ written ∈ planColumnOrder view.context order, allowed written) :
    Confined allowed (orderTerms catalog view order) (Terms allowed) := by
  cases order with
  | column columnId direction =>
      cases direction with
      | asc => exact columnTerm_confined catalog hview columnId fun _ => h _ rfl
      | desc => exact columnTerm_confined catalog hview columnId nofun
      | «variant» path variants nullable =>
          rw [orderTerms]
          split
          next hplain =>
            -- the direction of an unguarded column is replaced in the text
            obtain rfl : nullable = false := by
              simpa using (Bool.and_eq_true_iff.mp hplain).1
            have hallowed := h _ rfl
            refine (rawColumn_confined catalog columnId).bind
              fun expression hexpression => ?_
            obtain rfl := hexpression
            refine (replaceOrderDirection_confined hallowed variants).map ?_
            intro _ _
            simpa [Terms, Sql.columnOrder] using hallowed
          next =>
            exact directionTerms_confined catalog hview columnId path variants
              nullable
  | dynamic path surface fields =>
      exact dynamicOrder_confined catalog hview path fields

/-- The same within an aggregated array. -/
theorem aggregatedOrderTerms_confined
    (hview : view.Confined allowed)
    (order : OrderByPlan)
    (h : ∀ written ∈ planColumnOrder view.context order, allowed written) :
    Confined allowed (aggregatedOrderTerms catalog view order)
      (Terms allowed) := by
  cases order with
  | column columnId direction =>
      cases direction with
      | asc => exact columnTerm_confined catalog hview columnId fun _ => h _ rfl
      | desc => exact columnTerm_confined catalog hview columnId nofun
      | «variant» path variants nullable =>
          exact directionTerms_confined catalog hview columnId path variants
            nullable
  | dynamic path surface fields =>
      exact dynamicOrder_confined catalog hview path fields

/-- A term around a placeholder. -/
theorem placeholderTerm_confined
    (parameter : SqlParameter)
    {term : Sql → Sql}
    (hterm : ∀ placeholder, placeholder.OrdersWithin allowed →
      (term placeholder).OrdersWithin allowed) :
    Confined allowed
      (SqlTemplateContext.parameter parameter >>= fun placeholder =>
        pure [term placeholder])
      (Terms allowed) :=
  (parameter_confined parameter).map fun placeholder hplaceholder =>
    List.forall_mem_singleton.mpr (hterm placeholder hplaceholder)

/-- Limits order nothing. -/
theorem limitClause_confined
    (clauses : SelectionClauses)
    (limitOverride : Option Nat) :
    Confined allowed (limitClause clauses limitOverride) (Terms allowed) := by
  have hnumber (limit : Nat) : Terms allowed
      [.node .limit [.node (.number limit) []]] := by
    simp [Terms, Sql.columnOrder]
  unfold limitClause
  cases clauses.limit with
  | none =>
      cases limitOverride with
      | none => exact Confined.pure (List.forall_mem_nil _)
      | some limit => exact Confined.pure (hnumber limit)
  | some value =>
      cases value with
      | literal limit =>
          cases limitOverride with
          | none => exact Confined.pure (hnumber limit)
          | some guard => exact Confined.pure (hnumber guard)
      | parameter parameter =>
          cases limitOverride with
          | none =>
              refine placeholderTerm_confined parameter
                fun placeholder hplaceholder => ?_
              simp [Sql.columnOrder, hplaceholder]
          | some guard =>
              refine placeholderTerm_confined parameter
                fun placeholder hplaceholder => ?_
              simp [Sql.columnOrder, hplaceholder]

/-- Offsets order nothing. -/
theorem offsetClause_confined (clauses : SelectionClauses) :
    Confined allowed (offsetClause clauses) (Terms allowed) := by
  unfold offsetClause
  cases clauses.offset with
  | none => exact Confined.pure (List.forall_mem_nil _)
  | some value =>
      cases value with
      | literal offset =>
          exact Confined.pure (by simp [Terms, Sql.columnOrder])
      | parameter parameter =>
          refine placeholderTerm_confined parameter
            fun placeholder hplaceholder => ?_
          simp [Sql.columnOrder, hplaceholder]

theorem flatten_terms
    {terms : List (List Sql)}
    (h : ∀ part ∈ terms, Terms allowed part) :
    Terms allowed terms.flatten := by
  intro term hterm
  obtain ⟨part, hpart, hterm⟩ := List.mem_flatten.mp hterm
  exact h part hpart term hterm

/-- The orders of some clauses are allowed. -/
def ClausesAllowed
    (allowed : ColumnOrder → Prop)
    (source : Alias)
    (clauses : SelectionClauses) : Prop :=
  ∀ order ∈ clauses.orderBy, ∀ written ∈ planColumnOrder source order,
    allowed written

variable {clauses : SelectionClauses}

/-- The clauses write the orders that were planned. -/
theorem applyOrderLimitOffset_confined
    (hview : view.Confined allowed)
    (h : ClausesAllowed allowed view.context clauses)
    (limitOverride : Option Nat) :
    Confined allowed
      (applyOrderLimitOffset catalog view clauses limitOverride)
      (Terms allowed) := by
  unfold applyOrderLimitOffset
  refine (Confined.mapM clauses.orderBy fun order horder =>
    orderTerms_confined catalog hview order (h order horder)).bind
      fun orders horders => ?_
  refine (limitClause_confined clauses limitOverride).bind
    fun limit hlimit => ?_
  refine (offsetClause_confined clauses).map fun offset hoffset => ?_
  exact List.forall_mem_append.mpr
    ⟨List.forall_mem_append.mpr ⟨flatten_terms horders, hlimit⟩, hoffset⟩

/-- An ordered array writes the orders that were planned. -/
theorem orderedJsonAgg_confined
    (hview : view.Confined allowed)
    (h : ClausesAllowed allowed view.context clauses)
    {object : Sql}
    (hobject : object.OrdersWithin allowed) :
    Confined allowed (orderedJsonAgg catalog view object clauses)
      (Sql.OrdersWithin allowed) := by
  unfold orderedJsonAgg
  refine (Confined.mapM clauses.orderBy fun order horder =>
    aggregatedOrderTerms_confined catalog hview order (h order horder)).map
      fun orders horders => ?_
  rw [Sql.ordersWithin_node]
  exact ⟨by simp [Sql.columnOrder],
    List.forall_mem_cons.mpr ⟨hobject, flatten_terms horders⟩⟩

end Clauses

/-! ## Selected fields -/

section Fields

variable {allowed : ColumnOrder → Prop} (catalog : Catalog)
  {view : SqlRowView}

/-- Named fields whose orders are allowed. -/
abbrev NamedTerms
    (allowed : ColumnOrder → Prop)
    (fields : List (String × Sql)) : Prop :=
  ∀ field ∈ fields, field.2.OrdersWithin allowed

theorem namedTerms_outputs (source : DerivedTable) (names : List String) :
    NamedTerms allowed (names.map (fun name =>
      (name, Sql.node (.output source (some name)) []))) := by
  simp [Sql.columnOrder]

/-- The fields of a selection order nothing. -/
theorem selectionFieldExpressions_confined
    (hview : view.Confined allowed)
    (path : List AliasSegment)
    (before items : List SelectionPlanItem) :
    Confined allowed (selectionFieldExpressions catalog view path before items)
      (NamedTerms allowed) := by
  induction items generalizing before with
  | nil => exact Confined.pure (List.forall_mem_nil _)
  | cons item items ih =>
      cases item with
      | projection projection =>
          rw [selectionFieldExpressions]
          refine (maskedColumnExpression_confined catalog hview
            projection.column).bind fun expression hexpression => ?_
          refine (ih _).map fun fields hfields => ?_
          refine List.forall_mem_cons.mpr ⟨?_, hfields⟩
          simp [Sql.columnOrder, hexpression.within]
      | relation outputName flattened relation collection =>
          rw [selectionFieldExpressions]
          refine (table_confined catalog _).bind fun related _ => ?_
          refine (ih _).map fun fields hfields => ?_
          refine List.forall_mem_append.mpr ⟨?_, hfields⟩
          split
          · exact namedTerms_outputs _ _
          · simp [Sql.columnOrder]

theorem aggregateField_confined
    (hview : view.Confined allowed)
    (field : AggregateProjection) :
    Confined allowed (aggregateField catalog view field)
      (fun field => field.2.OrdersWithin allowed) :=
  (aggregateValueExpression_confined catalog hview field.function
    field.operand).map fun value hvalue => by
      simp [Sql.columnOrder, hvalue]

/-- Objects order nothing of their own. -/
theorem jsonBuildObject_within
    {fields : List (String × Sql)}
    (h : NamedTerms allowed fields) :
    (jsonBuildObject fields).OrdersWithin allowed := by
  unfold jsonBuildObject
  rw [Sql.ordersWithin_node, List.forall_mem_map]
  exact ⟨by simp [Sql.columnOrder], h⟩

/-- Exported fields order nothing of their own. -/
theorem exportedFields_within
    (encoded : Bool)
    {fields : List (String × Sql)}
    (h : NamedTerms allowed fields) :
    Terms allowed (exportedFields encoded fields) := by
  unfold Terms exportedFields
  rw [List.forall_mem_map]
  intro field hfield
  cases encoded <;> simp [Sql.columnOrder, h field hfield]

/-- A result orders nothing of its own. -/
theorem objectOrFields_within
    (generation : SelectionGenerationContext)
    {fields : List (String × Sql)}
    (h : NamedTerms allowed fields) :
    Terms allowed (objectOrFields generation fields) := by
  unfold objectOrFields
  split
  · exact exportedFields_within _ h
  · simp [Terms, Sql.columnOrder, jsonBuildObject_within h]

end Fields

/-! ## Collections -/

section Collections

variable {allowed : ColumnOrder → Prop} (catalog : Catalog)
  (options : PostgresSqlOptions) {view : SqlRowView}

/-- The row sources around a collection are confined. -/
structure SelectionGenerationContext.Confined
    (allowed : ColumnOrder → Prop)
    (generation : SelectionGenerationContext) : Prop where
  parent : ∀ parent ∈ generation.parent, parent.1.Confined allowed
  root : ∀ root ∈ generation.root, root.Confined allowed

/-- The view of a source is confined. -/
theorem readable_confined
    (context : Alias)
    (fieldFilters : List (PolicyFieldFilter FilterExpr)) :
    (readable catalog context fieldFilters).Confined allowed :=
  fieldGuards_confined context fieldFilters
    (fun field _ => conditionalFilterExpr_confined field.filter)

/-- The guard of the parent's relation orders nothing. -/
theorem parentFilter_confined
    {generation : SelectionGenerationContext}
    (h : generation.Confined allowed) :
    Confined allowed (parentFilter generation) (Terms allowed) := by
  unfold parentFilter
  cases hparent : generation.parent with
  | none => exact Confined.pure (List.forall_mem_nil _)
  | some parent => exact relationFilter_confined (h.parent _ hparent) parent.2

theorem parentCondition_confined
    (context : Alias)
    (generation : SelectionGenerationContext) :
    Confined allowed (parentCondition catalog context generation)
      (Terms allowed) := by
  unfold parentCondition
  cases generation.parent with
  | none => exact Confined.pure (List.forall_mem_nil _)
  | some parent => exact relationCondition_confined catalog _ _ parent.2

/-- The conditions of a collection order nothing. -/
theorem collectionFilters_confined
    (source : CollectionSource)
    (context : Alias)
    {generation : SelectionGenerationContext}
    (h : generation.Confined allowed)
    (hview : view.Confined allowed) :
    Confined allowed (collectionFilters catalog source context view
      (generation.root.getD view) generation) (Terms allowed) := by
  have hroot : (generation.root.getD view).Confined allowed := by
    cases hroot : generation.root with
    | none => exact hview
    | some root => exact h.root root hroot
  have hscope : (collectionScope view (generation.root.getD view)
      generation).Confined allowed := by
    refine ⟨hview, hroot, hview, fun parent hparent => ?_⟩
    obtain ⟨pair, hpair, rfl⟩ := Option.map_eq_some_iff.mp hparent
    exact h.parent pair hpair
  unfold collectionFilters
  refine (parentFilter_confined h).bind fun relation hrelation => ?_
  refine (optionalFilter_confined (.raw context) source.policyFilter
    fun body _ => conditionalFilterExpr_confined body).bind
      fun policy hpolicy => ?_
  refine (optionalFilter_confined hscope source.clauses.filter
    fun body _ => conditionalFilterExpr_confined body).map
      fun query hquery => ?_
  exact List.forall_mem_append.mpr
    ⟨List.forall_mem_append.mpr ⟨hrelation, hpolicy⟩, hquery⟩

theorem conditions_within
    {filters : List Sql}
    (h : Terms allowed filters) : Terms allowed (conditions filters) := by
  unfold Terms conditions
  rw [List.forall_mem_map]
  intro filter hfilter
  simp [Sql.columnOrder, h filter hfilter]

/-- The table of a query with its conditions. -/
theorem tableClauses_within
    (table : TableId)
    (context : Alias)
    {correlation filters : List Sql}
    (hcorrelation : Terms allowed correlation)
    (hfilters : Terms allowed filters) :
    Terms allowed (.node (.fromTable table context) [] ::
      conditions (correlation ++ filters)) :=
  List.forall_mem_cons.mpr ⟨by simp [Sql.columnOrder],
    conditions_within (List.forall_mem_append.mpr ⟨hcorrelation, hfilters⟩)⟩

theorem select_within
    {parts : List Sql}
    (h : Terms allowed parts) :
    (Sql.node .select parts).OrdersWithin allowed :=
  (Sql.ordersWithin_node _ _).mpr ⟨by simp [Sql.columnOrder], h⟩

theorem groupKey_confined
    (hview : view.Confined allowed)
    (key : AggregateGroupProjection) :
    Confined allowed (groupKey catalog view key) (Terms allowed) :=
  (maskedColumnExpression_confined catalog hview key.column).map
    fun grouped hgrouped => by
      simp [Terms, Sql.columnOrder, hgrouped.within]

/-- A grouped aggregate writes the orders of its clauses. -/
theorem generateGroupedAggregate_confined
    (hview : view.Confined allowed)
    {clauses : List Sql}
    (hclauses : Terms allowed clauses)
    (aggregate : AggregatePlan)
    (publicResultAlias : Option String) :
    Confined allowed
      (generateGroupedAggregate catalog view clauses aggregate
        publicResultAlias) (Sql.OrdersWithin allowed) := by
  unfold generateGroupedAggregate
  refine (Confined.mapM aggregate.groupKeys fun key _ =>
    groupKey_confined catalog hview key).bind fun keys hkeys => ?_
  refine (Confined.mapM aggregate.fields fun field _ =>
    aggregateField_confined catalog hview field).map fun fields hfields => ?_
  have hgrouped := select_within (List.forall_mem_append.mpr
    ⟨List.forall_mem_append.mpr ⟨hclauses, flatten_terms hkeys⟩,
      exportedFields_within false hfields⟩)
  have hnames : NamedTerms allowed _ := namedTerms_outputs
    (.groups view.context) (aggregate.groupKeys.map (·.outputName) ++
      aggregate.fields.map (·.outputName))
  refine select_within (List.forall_mem_cons.mpr ⟨?_,
    List.forall_mem_singleton.mpr ?_⟩)
  · rw [Sql.ordersWithin_node, List.forall_mem_singleton]
    exact ⟨by simp [Sql.columnOrder], hgrouped⟩
  · simpa [Sql.columnOrder] using jsonBuildObject_within hnames

/-- An aggregate writes no orders. -/
theorem generateAggregate_confined
    (source : CollectionSource)
    (aggregate : AggregatePlan)
    (path : List AliasSegment)
    {generation : SelectionGenerationContext}
    (h : generation.Confined allowed) :
    Confined allowed
      (generateAggregate catalog source aggregate path generation)
      (Sql.OrdersWithin allowed) := by
  have hview : (readable catalog ⟨path⟩ source.fieldFilters).Confined
      allowed := readable_confined catalog ⟨path⟩ source.fieldFilters
  unfold generateAggregate
  refine (table_confined catalog source.table).bind fun current _ => ?_
  refine (parentCondition_confined catalog ⟨path⟩ generation).bind
    fun correlation hcorrelation => ?_
  refine (collectionFilters_confined catalog source ⟨path⟩ h hview).bind
    fun filters hfilters => ?_
  have hclauses := tableClauses_within current.id ⟨path⟩ hcorrelation
    hfilters
  split
  next =>
    exact generateGroupedAggregate_confined catalog hview hclauses aggregate _
  next =>
    refine (Confined.mapM aggregate.fields fun field _ =>
      aggregateField_confined catalog hview field).map
        fun fields hfields => ?_
    exact select_within (List.forall_mem_append.mpr
      ⟨hclauses, objectOrFields_within generation hfields⟩)

/-- The source of rows writes the orders of its clauses. -/
theorem rowSource_confined
    {source : CollectionSource}
    (current : Table)
    (hview : view.Confined allowed)
    (h : ClausesAllowed allowed view.context source.clauses)
    {correlation filters : List Sql}
    (hcorrelation : Terms allowed correlation)
    (hfilters : Terms allowed filters) :
    Confined allowed
      (rowSource catalog options source current view correlation filters)
      (Terms allowed) := by
  have hclauses := tableClauses_within current.id view.context hcorrelation
    hfilters
  unfold rowSource
  split
  next =>
    refine (applyOrderLimitOffset_confined catalog hview h _).map
      fun bounds hbounds => ?_
    have hselect := select_within
      (List.forall_mem_append.mpr ⟨hclauses, hbounds⟩)
    refine List.forall_mem_singleton.mpr ?_
    rw [Sql.ordersWithin_node, List.forall_mem_singleton]
    exact ⟨by simp [Sql.columnOrder], hselect⟩
  next =>
    exact (applyOrderLimitOffset_confined catalog hview h none).map
      fun bounds hbounds => List.forall_mem_append.mpr ⟨hclauses, hbounds⟩

/-- The output of rows writes the orders of its clauses. -/
theorem rowOutput_confined
    {source : CollectionSource}
    (generation : SelectionGenerationContext)
    (hview : view.Confined allowed)
    (h : ClausesAllowed allowed view.context source.clauses)
    {fields : List (String × Sql)}
    (hfields : NamedTerms allowed fields) :
    Confined allowed (rowOutput catalog source view generation fields)
      (Terms allowed) := by
  unfold rowOutput
  split
  next => exact Confined.pure (objectOrFields_within generation hfields)
  next =>
    refine (orderedJsonAgg_confined catalog hview h
      (jsonBuildObject_within hfields)).map fun array harray => ?_
    simp [Terms, Sql.columnOrder, harray]

mutual

/-- By induction over the plan: the orders of a generated collection are
those of its clauses and of its relations. -/
theorem generateCollection_confined
    (plan : CollectionPlan)
    (path : List AliasSegment)
    {generation : SelectionGenerationContext}
    (hgeneration : generation.Confined allowed)
    (h : ∀ order ∈ collectionOrders path plan, allowed order) :
    Confined allowed (generateCollection catalog options path generation plan)
      (Sql.OrdersWithin allowed) := by
  match plan with
  | .mk source (.aggregate aggregate) =>
      rw [generateCollection]
      exact generateAggregate_confined catalog source aggregate path
        hgeneration
  | .mk source (.rows items) =>
      rw [collectionOrders, List.forall_mem_append] at h
      obtain ⟨hown, hrelated⟩ := h
      have hclauses : ClausesAllowed allowed ⟨path⟩ source.clauses :=
        fun order horder written hwritten =>
          hown written (List.mem_filterMap.mpr ⟨order, horder, hwritten⟩)
      have hview : (readable catalog ⟨path⟩ source.fieldFilters).Confined
          allowed := readable_confined catalog ⟨path⟩ source.fieldFilters
      have hroot : (generation.root.getD (readable catalog ⟨path⟩
          source.fieldFilters)).Confined allowed := by
        cases hroot : generation.root with
        | none => exact hview
        | some root => exact hgeneration.root root hroot
      rw [generateCollection]
      refine (table_confined catalog source.table).bind fun current _ => ?_
      refine (parentCondition_confined catalog ⟨path⟩ generation).bind
        fun correlation hcorrelation => ?_
      refine (collectionFilters_confined catalog source ⟨path⟩ hgeneration
        hview).bind fun filters hfilters => ?_
      refine (rowSource_confined catalog options current hview hclauses
        hcorrelation hfilters).bind fun rows hrows => ?_
      refine (generateChildren_confined items path [] hview hroot
        hrelated).bind fun children hchildren => ?_
      refine (selectionFieldExpressions_confined catalog hview path []
        items).bind fun fields hfields => ?_
      refine (rowOutput_confined catalog generation hview hclauses
        hfields).map fun output houtput => ?_
      exact select_within (List.forall_mem_append.mpr
        ⟨List.forall_mem_append.mpr ⟨hrows, hchildren⟩, houtput⟩)

/-- The children write the orders of their collections. -/
theorem generateChildren_confined
    (items : List SelectionPlanItem)
    (path : List AliasSegment)
    (before : List SelectionPlanItem)
    {view root : SqlRowView}
    (hview : view.Confined allowed)
    (hroot : root.Confined allowed)
    (h : ∀ order ∈ relatedOrders path before items, allowed order) :
    Confined allowed
      (generateChildren catalog options path view root before items)
      (Terms allowed) := by
  match items with
  | [] =>
      rw [generateChildren]
      exact Confined.pure (List.forall_mem_nil _)
  | .projection projection :: items =>
      rw [relatedOrders] at h
      rw [generateChildren]
      exact generateChildren_confined items path _ hview hroot h
  | .relation outputName flattened relationId collection :: items =>
      rw [relatedOrders, List.forall_mem_append] at h
      rw [generateChildren]
      refine (table_confined catalog _).bind fun related hrelated => ?_
      rw [← hrelated] at h
      refine (catalogRelation_confined catalog relationId).bind
        fun relation _ => ?_
      refine Confined.bind (generateCollection_confined collection _ ⟨?_, ?_⟩
        h.1) fun child hchild => ?_
      · rintro _ ⟨⟩
        exact hview
      · rintro _ ⟨⟩
        exact hroot
      refine (generateChildren_confined items path _ hview hroot h.2).map
        fun children hchildren => ?_
      refine List.forall_mem_cons.mpr ⟨?_, hchildren⟩
      simp [Sql.columnOrder, hchild]

end

/-! ## Queries -/

theorem rootFields_within (index : Nat) (names : List String) :
    Terms allowed (rootFields index names) := by
  unfold Terms rootFields
  rw [List.forall_mem_map]
  intro name _
  simp [Sql.columnOrder]

/-- A root writes the orders of its collection. -/
theorem generateRootQuery_confined
    (plan : QueryRootPlan)
    (h : ∀ order ∈ collectionOrders
      [.selection plan.collection.source.table plan.outputName 0]
      plan.collection, allowed order) :
    Confined allowed (generateRootQuery catalog options plan)
      (fun root => root.1.OrdersWithin allowed) := by
  have houtermost : SelectionGenerationContext.Confined allowed
      { parent := none
        root := none
        publicResultAlias := some plan.outputName
        flattened := plan.flattened } := by
    refine ⟨?_, ?_⟩
    · rintro _ ⟨⟩
    · rintro _ ⟨⟩
  unfold generateRootQuery
  refine (table_confined catalog _).bind fun root hroot => ?_
  rw [hroot]
  refine (generateCollection_confined catalog options plan.collection _
    houtermost h).bind fun query hquery => ?_
  split
  next =>
    refine Confined.pure (select_within (List.forall_mem_append.mpr
      ⟨rootFields_within 0 _, ?_⟩))
    simp [Sql.columnOrder, hquery]
  next => exact Confined.pure hquery

/-- Joining roots writes no orders. -/
theorem combineRootQueries_confined
    {roots : List (Sql × List String)}
    (h : ∀ root ∈ roots, root.1.OrdersWithin allowed) :
    Confined allowed (combineRootQueries roots)
      (Sql.OrdersWithin allowed) := by
  unfold combineRootQueries
  split
  next => exact Confined.throw _
  next =>
    refine Confined.pure (select_within fun part hpart => ?_)
    obtain ⟨root, hroot, hpart⟩ := List.mem_flatMap.mp hpart
    have hmember := List.fst_mem_of_mem_zipIdx hroot
    rcases List.mem_append.mp hpart with hfield | hsource
    · exact rootFields_within root.2 root.1.2 part hfield
    · obtain rfl := List.mem_singleton.mp hsource
      simp [Sql.columnOrder, h root.1 hmember]

/-- The statement writes the orders that were planned. -/
theorem generateStatement_confined
    (plan : QueryPlan)
    (h : ∀ order ∈ plan.columnOrders, allowed order) :
    Confined allowed (generateStatement catalog options plan)
      (Sql.OrdersWithin allowed) := by
  unfold generateStatement
  refine (Confined.mapM plan.roots fun root hroot =>
    generateRootQuery_confined catalog options root fun order horder =>
      h order (List.mem_flatMap.mpr ⟨root, hroot, horder⟩)).bind
        fun roots hroots => ?_
  split
  next query names => exact Confined.pure (hroots _ List.mem_cons_self)
  next => exact combineRootQueries_confined hroots

end Collections

/-- Where the directions of a plan agree, none of them is replaced by
another. -/
theorem finalizeSqlTemplate_eq_self
    {catalog : Catalog}
    {options : PostgresSqlOptions}
    {plan : QueryPlan}
    (h : plan.DirectionsAgree)
    {statement : Sql}
    {template : SqlTemplateContext}
    (hrun : (generateStatement catalog options plan).run .new =
      .ok (statement, template)) :
    finalizeSqlTemplate statement template = statement := by
  obtain ⟨hregistered, hwritten⟩ := generateStatement_confined catalog options
    plan (fun order horder => horder) .new statement template hrun
  refine Sql.replaceDirections_eq_self statement ?_
  intro order horder replacement hreplacement happlies
  have hplanned : replacement.order ∈ plan.columnOrders := by
    rcases hregistered replacement hreplacement with hearlier | hplanned
    · cases hearlier
    · exact hplanned
  unfold OrderReplacement.applies at happlies
  rw [Bool.and_eq_true, beq_iff_eq, beq_iff_eq] at happlies
  exact h order (hwritten order horder) replacement.order hplanned
    happlies.1.symm happlies.2.symm

end Postgres

end Dsql
