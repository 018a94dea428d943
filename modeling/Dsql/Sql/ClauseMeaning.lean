import Dsql.Sql.Answers
import Dsql.Sql.FilterPreservation
import Dsql.Sql.Selects

/-!
# The meaning of rendered clauses

Orders are compared through the rows that a scope entered last, so that a
sort of scopes is one of rows.  Limits and offsets are the same in every scope.
-/

namespace Dsql

namespace Postgres

open Logic Results Dsql.Numbering

/-! ## Orders -/

section Orders

variable {S : Type}

/-- Scopes are ordered as the rows that they entered last. -/
def OrdersRows
    (context : SelectionContext)
    (order : Comparison (Scope S))
    (rows : Env S → Comparison (Row S)) : Prop :=
  ∀ (α : Type) (place : α → Scope S) (env : Env S) (row : α → Row S),
    env.length = context.level →
      (∀ item, (place item).rows = (context, row item) :: env) →
        order.on place = (rows env).on row

/-- Orders one after the other. -/
theorem OrdersRows.lexAll
    {context : SelectionContext}
    {orders : List (Comparison (Scope S))}
    {rows : List (Env S → Comparison (Row S))}
    (h : List.Forall₂ (OrdersRows context) orders rows) :
    OrdersRows context (.lexAll orders) (fun env =>
      .lexAll (rows.map (fun rows => rows env))) := by
  intro α place env row hdepth hrows
  rw [Comparison.lexAll_on, Comparison.lexAll_on, List.map_map]
  congr 1
  induction h with
  | nil => rfl
  | cons horder _ ih =>
      rw [List.map_cons, List.map_cons, ih, Function.comp_apply,
        horder α place env row hdepth hrows]

variable {server : Server S} {context : SelectionContext}

/-- Values that are read from the last row. -/
def ReadsRow
    (context : SelectionContext)
    (value : Scope S → Datum S)
    (rowValue : Env S → Row S → Datum S) : Prop :=
  ∀ scope env row, env.length = context.level →
    scope.rows = (context, row) :: env → value scope = rowValue env row

/-- Rows are ordered by a value that is read of them. -/
theorem OrdersRows.on
    {value : Scope S → Datum S}
    {rowValue : Env S → Row S → Datum S}
    (h : ReadsRow context value rowValue)
    (order : Comparison (Datum S)) :
    OrdersRows context (order.on value) (fun env => order.on (rowValue env)) := by
  intro α place env row hdepth hrows
  have hvalue : value ∘ place = rowValue env ∘ row :=
    funext fun item => h (place item) env (row item) hdepth (hrows item)
  show order.on (value ∘ place) = order.on (rowValue env ∘ row)
  rw [hvalue]

/-- The same in a direction that an input decides. -/
theorem OrdersRows.directed
    {value : Scope S → Datum S}
    {rowValue : Env S → Row S → Datum S}
    (h : ReadsRow context value rowValue)
    (text : Option String) :
    OrdersRows context (server.directed text value)
      (fun env => server.directed text (rowValue env)) := by
  unfold Server.directed
  split
  · exact OrdersRows.on h _
  · split
    · exact OrdersRows.on h _
    · exact fun _ _ _ _ _ _ => rfl

/-- Rows by a value that is null under the other direction. -/
def directionOrder
    (server : Server S)
    (text : Option String)
    (value : Scope S → Datum S)
    (direction : SortDirection) : Comparison (Scope S) :=
  (server.order direction.dynamic).on (fun scope =>
    if text = some direction.text then value scope else .null)

/-- The two cases of a direction order by the one that is selected. -/
theorem lexAll_directionOrders
    (text : Option String)
    (value : Scope S → Datum S) :
    Comparison.lexAll [directionOrder server text value .asc,
        directionOrder server text value .desc] =
      server.directed text value := by
  have hdistinct : SortDirection.asc.text ≠ SortDirection.desc.text := by
    decide
  unfold Server.directed directionOrder
  by_cases hasc : text = some SortDirection.asc.text
  · have hdesc : text ≠ some SortDirection.desc.text := by
      rw [hasc]
      exact fun h => hdistinct (Option.some.inj h)
    simp only [if_pos hasc, if_neg hdesc, Comparison.on_const,
      Comparison.lexAll_cons, Comparison.lexAll_nil, Comparison.lex_trivial]
    rfl
  · by_cases hdesc : text = some SortDirection.desc.text
    · simp only [if_neg hasc, if_pos hdesc, Comparison.on_const,
        Comparison.lexAll_cons, Comparison.lexAll_nil, Comparison.lex_trivial,
        Comparison.trivial_lex]
      rfl
    · simp only [if_neg hasc, if_neg hdesc, Comparison.on_const,
        Comparison.lexAll_cons, Comparison.lexAll_nil, Comparison.lex_trivial]

variable [DecidableEq S] {reading : Reading S} {lowered : Dsql.SqlRowView}
  {column : ColumnId} {sql : Sql}

/-- A rendered column is read of the row. -/
theorem ReadsRow.of_means
    (h : server.Means reading sql
      (lowered.maskedColumnExpression (lowered.context.level + 1) column)
      (lowered.context.level + 1)) :
    ReadsRow lowered.context (server.meaning reading sql).datum
      (fun env => server.columnValue innermost env lowered column) := by
  intro scope env row hdepth hrows
  have hlength : scope.rows.length = lowered.context.level + 1 := by
    rw [hrows, List.length_cons, hdepth]
  rw [h.datum hlength, hrows]
  rfl

/-- A term in a direction. -/
theorem meaning_orderBy
    (h : (server.meaning reading sql).comparison = none)
    (direction : SortDirection) :
    server.meaning reading (.node (.orderBy direction) [sql]) =
      .order ((server.order direction.dynamic).on
        (server.meaning reading sql).datum) := by
  rw [Server.meaning_node]
  show SqlMeaning.order ((server.meaning reading sql).comparison.getD _) = _
  rw [h]
  rfl

/-- A case of a direction orders where it is selected. -/
theorem meaning_directionCase
    (path : InputPath)
    (direction : SortDirection) :
    server.meaning reading
        (.node (.orderBy direction)
          [.node (.directionCase path direction) [sql]]) =
      .order (directionOrder server
        (server.selectedText (reading.variants path) path)
        (server.meaning reading sql).datum direction) := by
  have hcase : (server.meaning reading
      (.node (.directionCase path direction) [sql])).datum = fun scope =>
        if server.selectedText (reading.variants path) path =
            some direction.text then
          (server.meaning reading sql).datum scope
        else
          .null := by
    funext scope
    rw [Server.meaning_node]
    exact apply_ite Doc.toDatum _ _ _
  rw [meaning_orderBy (by rw [Server.meaning_node]; rfl), hcase]
  rfl

/-! ## Ordering inputs -/

/-- A field of an ordering input with the terms of its directions. -/
structure OrderFieldMeans
    (server : Server S)
    (reading : Reading S)
    (lowered : Dsql.SqlRowView)
    (field : DynamicInputFieldPlan)
    (rendered : GeneratedDynamicInputSiteField) : Prop where
  key : rendered.key = field.key
  directions : ∃ expression,
    rendered.directions = field.directions.map (fun direction =>
      (direction, Sql.node (.dynamicDirection direction) [expression])) ∧
    server.Means reading expression
      (lowered.maskedColumnExpression (lowered.context.level + 1)
        field.column)
      (lowered.context.level + 1)

/-- A direction has a text exactly where the plan offers it. -/
theorem directionOrder_means
    {field : DynamicInputFieldPlan}
    {rendered : GeneratedDynamicInputSiteField}
    (h : OrderFieldMeans server reading lowered field rendered)
    (direction : DynamicOrderDirection) :
    (field.directions.contains direction = true →
      ∃ text, rendered.directions.find? (fun entry => entry.1 == direction) =
          some (direction, text) ∧
        ∃ order, server.meaning reading text = .order order ∧
          OrdersRows lowered.context order (fun env =>
            (server.order direction).on
              (server.columnValue innermost env lowered field.column))) ∧
    (field.directions.contains direction = false →
      rendered.directions.find? (fun entry => entry.1 == direction) = none) := by
  obtain ⟨expression, hdirections, hmeans⟩ := h.directions
  rw [hdirections, List.find?_map]
  constructor
  · intro hcontains
    have hfound : field.directions.find? (fun other => other == direction) =
        some direction := by
      have hsome : (field.directions.find?
          (fun other => other == direction)).isSome = true :=
        List.find?_isSome.mpr ⟨direction, List.contains_iff_mem.mp hcontains,
          beq_self_eq_true direction⟩
      obtain ⟨found, hfound⟩ := Option.isSome_iff_exists.mp hsome
      have hequal : found = direction := by simpa using List.find?_some hfound
      rw [hfound, hequal]
    refine ⟨.node (.dynamicDirection direction) [expression], ?_, _,
      Server.meaning_node server reading _ _,
      OrdersRows.on (ReadsRow.of_means hmeans) _⟩
    show (field.directions.find? (fun other => other == direction)).map _ = _
    rw [hfound]
    rfl
  · intro hcontains
    show (field.directions.find? (fun other => other == direction)).map _ = _
    rw [List.find?_eq_none.mpr, Option.map_none]
    intro other hother hequal
    rw [eq_of_beq hequal] at hother
    rw [List.contains_iff_mem.mpr hother] at hcontains
    cases hcontains

/-- Rows in the order of a selected field. -/
theorem siteOrder_means
    {fields : List DynamicInputFieldPlan}
    {rendered : List GeneratedDynamicInputSiteField}
    (h : List.Forall₂ (OrderFieldMeans server reading lowered) fields rendered)
    (selected : String × DynamicOrderDirection) :
    OrdersRows lowered.context (server.siteOrder reading rendered selected)
      (fun env => server.selectedOrder innermost env lowered fields selected) := by
  unfold Server.siteOrder Server.selectedOrder
  induction h with
  | nil => exact fun _ _ _ _ _ _ => rfl
  | @cons field rendered _ _ hfield _ ih =>
      cases hkey : field.key == selected.1 with
      | false =>
          have hrendered : (rendered.key == selected.1) = false := by
            rw [hfield.key, hkey]
          simp only [List.find?_cons, hkey, hrendered]
          exact ih
      | true =>
          have hrendered : (rendered.key == selected.1) = true := by
            rw [hfield.key, hkey]
          have hdirection := directionOrder_means hfield selected.2
          simp only [List.find?_cons, hkey, hrendered, Option.bind_some]
          cases hcontains : field.directions.contains selected.2 with
          | true =>
              obtain ⟨text, htext, order, hmeaning, horder⟩ :=
                hdirection.1 hcontains
              rw [htext]
              simp only [if_true, hmeaning]
              exact horder
          | false =>
              rw [hdirection.2 hcontains]
              simp only [Bool.false_eq_true, if_false]
              exact fun _ _ _ _ _ _ => rfl

end Orders

/-! ## Rendered orders -/

section RenderedOrders

variable {S : Type} [DecidableEq S] (server : Server S)
  (cases : OfferedCases)

/-- Order terms that sort scopes as their rows. -/
def YieldsOrder
    (rendering : Rendering (List Sql))
    (context : SelectionContext)
    (rows : Env S → Comparison (Row S)) : Prop :=
  Yields cases rendering (fun final terms => ∀ reading,
    ReadsAs server final true reading →
      ∃ orders, terms.map (server.meaning reading) =
          orders.map SqlMeaning.order ∧
        OrdersRows context (.lexAll orders) rows)

/-- An order whose input offers the same cases everywhere. -/
def OrderFits (cases : OfferedCases) : OrderByPlan → Prop
  | .column _ (.variant path variants _) => variants = cases path
  | _ => True

variable {server cases} (catalog : Catalog) {view : SqlRowView}
  {lowered : Dsql.SqlRowView}

/-- One term in an order of its own. -/
theorem orders_single
    {reading : Reading S}
    {sql : Sql}
    {context : SelectionContext}
    {order : Comparison (Scope S)}
    {rows : Env S → Comparison (Row S)}
    (hsql : server.meaning reading sql = .order order)
    (horder : OrdersRows context order rows) :
    ∃ orders, [sql].map (server.meaning reading) =
        orders.map SqlMeaning.order ∧
      OrdersRows context (.lexAll orders) rows := by
  refine ⟨[order], by rw [List.map_singleton, List.map_singleton, hsql], ?_⟩
  rw [Comparison.lexAll_cons, Comparison.lexAll_nil, Comparison.lex_trivial]
  exact horder

/-- A field of an order site means the planned field. -/
theorem orderField_means
    (h : view.Means server cases lowered)
    (field : DynamicInputFieldPlan) :
    Yields cases (generatedDynamicOrderField catalog view field)
      (fun final rendered =>
        OrderFieldMeans server (.static final) lowered field rendered) := by
  unfold generatedDynamicOrderField dynamicFieldExpression
  refine Yields.map (maskedColumnExpression_means catalog
    (lowered.context.level + 1) h field.column) ?_
  intro final expression hexpression
  exact ⟨rfl, expression, rfl, hexpression _ (readsAs_static server final)⟩

/-- A dynamic order means the order that the input names. -/
theorem dynamicOrder_means
    (h : view.Means server cases lowered)
    (path : InputPath)
    (surface : DynamicInputSurface)
    (fields : List DynamicInputFieldPlan) :
    YieldsOrder server cases (dynamicOrder catalog view path fields)
      lowered.context
      (fun env => server.rowOrder innermost env lowered (.dynamic path surface fields)) := by
  have hall := Yields.mapM fields (fun field _ =>
    orderField_means catalog h field)
  unfold dynamicOrder
  refine Yields.bind hall fun rendered => ?_
  refine Yields.map (dynamicSite_yields path .order rendered) ?_
  rintro final sql ⟨index, rfl, hsite⟩ hrendered reading hreads
  have hmarker : server.meaning reading (.node (.marker index) []) =
      .order (.lexAll ((server.ordering path).map
        (server.siteOrder (.static final) rendered))) := by
    rw [Server.meaning_node, List.map_nil]
    show reading.markers index = _
    rw [hreads.markers rfl]
    show server.markerMeaning final index = _
    rw [Server.markerMeaning, hsite]
    rfl
  have hterm : server.meaning reading
      (.node (.orderBy .asc) [.node (.marker index) []]) =
        .order (.lexAll ((server.ordering path).map
          (server.siteOrder (.static final) rendered))) := by
    rw [Server.meaning_node, List.map_singleton, hmarker]
    rfl
  refine orders_single hterm ?_
  · have hselected : List.Forall₂ (OrdersRows lowered.context)
        ((server.ordering path).map
          (server.siteOrder (.static final) rendered))
        ((server.ordering path).map (fun selected env =>
          server.selectedOrder innermost env lowered fields selected)) := by
      rw [List.forall₂_map_left_iff, List.forall₂_map_right_iff,
        List.forall₂_same]
      exact fun selected _ => siteOrder_means hrendered selected
    have hall := OrdersRows.lexAll hselected
    simp only [List.map_map] at hall
    exact hall

/-- The terms of both directions of a column. -/
theorem directionTerms_means
    {final : SqlTemplateContext}
    {expression : Sql}
    {columnId : ColumnId}
    {path : InputPath}
    {variants : List SqlVariantCase}
    (nullable : Bool)
    (hexpression : ∀ reading, ReadsAs server final false reading →
      server.Means reading expression
        (lowered.maskedColumnExpression (lowered.context.level + 1) columnId)
        (lowered.context.level + 1))
    (hvariants : (Reading.static final : Reading S).variants path = variants)
    {reading : Reading S}
    (hreads : ReadsAs server final true reading) :
    ∃ orders, (directionTerms path expression).map (server.meaning reading) =
        orders.map SqlMeaning.order ∧
      OrdersRows lowered.context (.lexAll orders) (fun env =>
        server.rowOrder innermost env lowered
          (.column columnId (.variant path variants nullable))) := by
  have hrow := ReadsRow.of_means (hexpression reading hreads.static)
  have hdirected : OrdersRows lowered.context
      (server.directed (server.selectedText variants path)
        (server.meaning reading expression).datum)
      (fun env => server.rowOrder innermost env lowered
        (.column columnId (.variant path variants nullable))) :=
    OrdersRows.directed hrow _
  rw [← lexAll_directionOrders] at hdirected
  refine ⟨[_, _], ?_, hdirected⟩
  unfold directionTerms
  rw [List.map_cons, List.map_singleton, meaning_directionCase,
    meaning_directionCase, hreads.variants, hvariants]
  rfl

/-- An order by a column means that order. -/
theorem column_order_means
    (h : view.Means server cases lowered)
    (columnId : ColumnId)
    (direction : SortDirection) :
    YieldsOrder server cases
      (maskedColumnExpression catalog view columnId >>= fun expression =>
        pure [Sql.node (.orderBy direction) [expression]])
      lowered.context (fun env => (server.order direction.dynamic).on
        (server.columnValue innermost env lowered columnId)) := by
  refine Yields.map (maskedColumnExpression_means catalog
    (lowered.context.level + 1) h columnId) ?_
  intro final expression hexpression reading hreads
  have hmeans := hexpression reading hreads.static
  exact orders_single (meaning_orderBy hmeans.unordered direction)
    (OrdersRows.on (ReadsRow.of_means hmeans) _)

omit [DecidableEq S] in
/-- The variant of a direction is the planned one. -/
theorem directionVariant_means
    {path : InputPath}
    {variants : List SqlVariantCase}
    (hcases : variants = cases path)
    (nullable : Bool) :
    Yields cases (directionVariant path variants nullable) (fun final _ =>
      (Reading.static final : Reading S).variants path = variants) := by
  unfold directionVariant
  split
  · exact variantWithNull_yields hcases _
  · exact variantWithNull_yields hcases _

/-- A column in a selected direction, by one term for each direction. -/
theorem directedColumn_means
    (h : view.Means server cases lowered)
    (columnId : ColumnId)
    {path : InputPath}
    {variants : List SqlVariantCase}
    (hcases : variants = cases path)
    (nullable : Bool) :
    YieldsOrder server cases
      (do
        let expression ← maskedColumnExpression catalog view columnId
        directionVariant path variants nullable
        return directionTerms path expression)
      lowered.context (fun env => server.rowOrder innermost env lowered
        (.column columnId (.variant path variants nullable))) := by
  refine Yields.bind (maskedColumnExpression_means catalog
    (lowered.context.level + 1) h columnId) fun expression => ?_
  refine Yields.map (directionVariant_means (S := S) hcases nullable) ?_
  intro final _ hvariants hexpression reading hreads
  exact directionTerms_means nullable hexpression hvariants hreads

variable (server) in
/-- The terms inside of an array sort as the written order. -/
theorem aggregatedOrderTerms_means
    (h : view.Means server cases lowered)
    (order : OrderByPlan)
    (hfits : OrderFits cases order) :
    YieldsOrder server cases (aggregatedOrderTerms catalog view order)
      lowered.context (fun env => server.rowOrder innermost env lowered order) := by
  cases order with
  | column columnId direction =>
      cases direction with
      | asc => exact column_order_means catalog h columnId .asc
      | desc => exact column_order_means catalog h columnId .desc
      | «variant» path variants nullable =>
          exact directedColumn_means catalog h columnId hfits nullable
  | dynamic path surface fields =>
      exact dynamicOrder_means catalog h path surface fields

/-- The terms in a query sort as the written order. -/
theorem orderTerms_means
    (h : view.Means server cases lowered)
    (order : OrderByPlan)
    (hfits : OrderFits cases order) :
    YieldsOrder server cases (orderTerms catalog view order)
      lowered.context (fun env => server.rowOrder innermost env lowered order) := by
  cases order with
  | column columnId direction =>
      cases direction with
      | asc => exact column_order_means catalog h columnId .asc
      | desc => exact column_order_means catalog h columnId .desc
      | «variant» path variants nullable =>
          rw [orderTerms]
          split
          next hplain =>
            -- an unguarded column gets its direction in place
            rw [Bool.and_eq_true, Option.isNone_iff_eq_none] at hplain
            have hcolumn : lowered.maskedColumnExpression
                (lowered.context.level + 1) columnId =
                  .column lowered.context columnId := by
              unfold Dsql.SqlRowView.maskedColumnExpression
              rw [h.unguarded _ hplain.2]
            refine Yields.bind (rawColumn_means catalog
              (lowered.context.level + 1) h columnId) fun expression => ?_
            refine Yields.map
              (replaceOrderDirection_yields (S := S) hfits _ _) ?_
            intro final _ hvariants hexpression reading hreads
            have hmeans := hexpression reading hreads.static
            rw [← hcolumn] at hmeans
            have hterm : server.meaning reading
                (.node (.orderVariant path) [expression]) =
                  .order (server.directed (server.selectedText variants path)
                    (server.meaning reading expression).datum) := by
              rw [Server.meaning_node, ← hvariants, ← hreads.variants]
              rfl
            exact orders_single hterm
              (OrdersRows.directed (ReadsRow.of_means hmeans) _)
          next => exact directedColumn_means catalog h columnId hfits nullable
  | dynamic path surface fields =>
      exact dynamicOrder_means catalog h path surface fields

/-- Several terms decide the ties of those before them. -/
theorem orders_means
    {render : OrderByPlan → Rendering (List Sql)}
    {context : SelectionContext}
    {rows : OrderByPlan → Env S → Comparison (Row S)}
    (orders : List OrderByPlan)
    (h : ∀ order ∈ orders, YieldsOrder server cases (render order) context
      (rows order)) :
    Yields cases (orders.mapM render) (fun final terms => ∀ reading,
      ReadsAs server final true reading →
        ∃ comparisons, terms.flatten.map (server.meaning reading) =
            comparisons.map SqlMeaning.order ∧
          OrdersRows context (.lexAll comparisons) (fun env =>
            .lexAll (orders.map (fun order => rows order env)))) := by
  refine (Yields.mapM orders h).imp ?_
  intro final terms hterms reading hreads
  induction hterms with
  | nil => exact ⟨[], rfl, fun _ _ _ _ _ _ => rfl⟩
  | @cons order term orders terms hterm _ ih =>
      obtain ⟨first, hfirst, hfirstRows⟩ := hterm reading hreads
      obtain ⟨rest, hrest, hrestRows⟩ := ih (fun other hother =>
        h other (List.mem_cons_of_mem order hother))
      refine ⟨first ++ rest, ?_, ?_⟩
      · rw [List.flatten_cons, List.map_append, hfirst, hrest,
          List.map_append]
      · intro α place env row hdepth hrows
        rw [Comparison.lexAll_append, Comparison.lex_on,
          hfirstRows α place env row hdepth hrows,
          hrestRows α place env row hdepth hrows]
        rfl

/-! ## Bounds -/

section Bounds

variable (server)

/-- Parts that limit rows, the same in every scope. -/
def LimitsTo
    (reading : Reading S)
    (limits : List Sql)
    (limit : Option Nat) : Prop :=
  ∃ values : List (Scope S → Option Nat),
    limits.map (server.meaning reading) = values.map SqlMeaning.limitTo ∧
      ∀ scope, values.findSome? (fun value => value scope) = limit

def OffsetsBy
    (reading : Reading S)
    (offsets : List Sql)
    (offset : Nat) : Prop :=
  ∃ values : List (Scope S → Option Nat),
    offsets.map (server.meaning reading) = values.map SqlMeaning.offsetBy ∧
      ∀ scope, (values.findSome? (fun value => value scope)).getD 0 = offset

variable {server} {reading : Reading S} {sql : Sql}

theorem limitsTo_nil : LimitsTo server reading [] none :=
  ⟨[], rfl, fun _ => rfl⟩

theorem limitsTo_single
    {limit : Option Nat}
    (h : ∀ scope,
      server.natural ((server.meaning reading sql).datum scope) = limit) :
    LimitsTo server reading [.node .limit [sql]] limit := by
  refine ⟨[fun _ => limit], ?_, ?_⟩
  · rw [List.map_singleton, Server.meaning_node, List.map_singleton,
      List.map_singleton, ← funext h]
    rfl
  · intro scope
    cases limit <;> rfl

theorem offsetsBy_nil : OffsetsBy server reading [] 0 :=
  ⟨[], rfl, fun _ => rfl⟩

theorem offsetsBy_single
    {offset : Option Nat}
    (h : ∀ scope,
      server.natural ((server.meaning reading sql).datum scope) = offset) :
    OffsetsBy server reading [.node .offset [sql]] (offset.getD 0) := by
  refine ⟨[fun _ => offset], ?_, ?_⟩
  · rw [List.map_singleton, Server.meaning_node, List.map_singleton,
      List.map_singleton, ← funext h]
    rfl
  · intro scope
    cases offset <;> rfl

/-- A number limits by itself. -/
theorem natural_number (number : Nat) (scope : Scope S) :
    server.natural ((server.meaning reading
      (.node (.number number) [])).datum scope) = some number := by
  rw [Server.meaning_node]
  exact server.natural_count number

/-- A parameter limits by its value. -/
theorem natural_parameter
    {parameter : SqlParameter}
    (h : server.MeansParameter reading sql parameter)
    (scope : Scope S) :
    server.natural ((server.meaning reading sql).datum scope) =
      server.natural (server.inputs.value parameter.path) := by
  rw [h]
  rfl

/-- A guarded parameter limits by the lesser number. -/
theorem natural_least
    {parameter : SqlParameter}
    (h : server.MeansParameter reading sql parameter)
    (guard : Nat)
    (scope : Scope S) :
    server.natural ((server.meaning reading
      (.node (.least guard) [sql])).datum scope) =
        some (server.least guard (server.inputs.value parameter.path)) := by
  rw [Server.meaning_node, List.map_singleton, h]
  exact server.natural_count _

variable (server) in
/-- The limit of a statement is the planned one. -/
theorem limitClause_means
    (clauses : SelectionClauses)
    (guard : Option Nat) :
    Yields cases (limitClause clauses guard) (fun final limits => ∀ reading,
      ReadsAs server final true reading →
        LimitsTo server reading limits (server.limit clauses guard)) := by
  obtain ⟨filter, orders, limit, offset⟩ := clauses
  have hnumber : ∀ number, Yields cases
      (pure [Sql.node .limit [.node (.number number) []]])
      (fun final limits => ∀ reading, ReadsAs server final true reading →
        LimitsTo server reading limits (some number)) :=
    fun number => Yields.done (fun _ _ _ =>
      limitsTo_single (natural_number number))
  cases limit with
  | none =>
      cases guard with
      | none => exact Yields.done (fun _ _ _ => limitsTo_nil)
      | some guard => exact hnumber guard
  | some value =>
      cases value with
      | literal number =>
          cases guard with
          | none => exact hnumber number
          | some guard => exact hnumber guard
      | parameter parameter =>
          cases guard with
          | none =>
              refine Yields.map (parameter_yields parameter) ?_
              rintro final sql ⟨number, rfl, hnames⟩ reading hreads
              exact limitsTo_single
                (natural_parameter (meansParameter_of_names hreads hnames))
          | some guard =>
              refine Yields.map (parameter_yields parameter) ?_
              rintro final sql ⟨number, rfl, hnames⟩ reading hreads
              exact limitsTo_single
                (natural_least (meansParameter_of_names hreads hnames) guard)

variable (server) in
/-- The offset of a statement is the planned one. -/
theorem offsetClause_means (clauses : SelectionClauses) :
    Yields cases (offsetClause clauses) (fun final offsets => ∀ reading,
      ReadsAs server final true reading →
        OffsetsBy server reading offsets (server.offset clauses)) := by
  obtain ⟨filter, orders, limit, offset⟩ := clauses
  cases offset with
  | none => exact Yields.done (fun _ _ _ => offsetsBy_nil)
  | some value =>
      cases value with
      | literal number =>
          exact Yields.done (fun _ _ _ =>
            offsetsBy_single (natural_number number))
      | parameter parameter =>
          refine Yields.map (parameter_yields parameter) ?_
          rintro final sql ⟨number, rfl, hnames⟩ reading hreads
          exact offsetsBy_single
            (natural_parameter (meansParameter_of_names hreads hnames))

end Bounds

end RenderedOrders

/-! ## Conditions of a collection -/

section Conditions

variable {S : Type} [DecidableEq S] (server : Server S)
  (cases : OfferedCases)

/-- A condition as a `where` reads it. -/
def conditionHolds
    (reading : Reading S)
    (sql : Sql)
    (scope : Scope S) : Bool :=
  ((server.meaning reading sql).datum scope).truth == .tt

/-- The conditions of a select mean their conditions. -/
theorem map_conditions (reading : Reading S) (filters : List Sql) :
    (conditions filters).map (server.meaning reading) =
      (filters.map (conditionHolds server reading)).map
        SqlMeaning.condition := by
  unfold conditions
  rw [List.map_map, List.map_map]
  refine List.map_congr_left fun sql _ => ?_
  rw [Function.comp_apply, Server.meaning_node]
  rfl

/-- Where a collection stands in the plan and in its rendering. -/
structure SelectionGenerationContext.Means
    (generation : SelectionGenerationContext)
    (position : SelectionPosition) : Prop where
  parent : Option.Rel (fun above lowered =>
      SqlRowView.Means server cases above.1 lowered.1 ∧ above.2 = lowered.2)
    generation.parent position.parent
  root : Option.Rel (SqlRowView.Means server cases)
    generation.root position.root

/-- A source whose filters and orders can be read. -/
structure SourceFits
    (cases : OfferedCases)
    (source : CollectionSource) : Prop where
  policy : OptionalFits cases false source.policyFilter
  fields : FieldsFit cases source.fieldFilters
  filter : OptionalFits cases true source.clauses.filter
  orders : ∀ order ∈ source.clauses.orderBy, OrderFits cases order

variable {server cases}

/-- A row passes where all planned conditions are true. -/
theorem all_conditionHolds
    {reading : Reading S}
    {filters : List Sql}
    {exprs : List SqlExpr}
    {depth : Nat}
    (h : List.Forall₂ (fun sql expr => server.Means reading sql expr depth)
      filters exprs)
    {scope : Scope S}
    (hdepth : scope.rows.length = depth) :
    (filters.map (conditionHolds server reading)).all
        (fun condition => condition scope) =
      (server.session.evalAll scope.rows exprs == .tt) := by
  rw [← Server.Means.all_conditions h hdepth, List.all_map, List.all_map]
  refine List.all_congr rfl fun sql => ?_
  rw [Function.comp_apply, Function.comp_apply, Server.meaning_node]
  rfl

variable (catalog : Catalog) {source : CollectionSource}
  {generation : SelectionGenerationContext} {position : SelectionPosition}

/-- The view of a source means the planned view. -/
theorem readable_means
    (hfields : FieldsFit cases source.fieldFilters)
    (context : SelectionContext) :
    (readable catalog context.tableAlias source.fieldFilters).Means server
      cases (readableView catalog context source.fieldFilters) :=
  fieldGuards_means catalog context source.fieldFilters (fun field hfield =>
    conditionalFilterExpr_means field.filter false
      (fieldsFit_mem hfields field hfield))

variable {view : SqlRowView} {lowered : Dsql.SqlRowView}

theorem root_means
    (hgeneration : generation.Means server cases position)
    (hview : view.Means server cases lowered) :
    (generation.root.getD view).Means server cases
      (position.root.getD lowered) := by
  obtain ⟨parent, root, name, flattened⟩ := generation
  obtain ⟨loweredParent, loweredRoot⟩ := position
  obtain ⟨hparent, hroot⟩ := hgeneration
  cases hroot with
  | none => exact hview
  | some hroot => exact hroot

/-- The scope of a collection means the planned scope. -/
theorem collectionScope_means
    (hgeneration : generation.Means server cases position)
    (hview : view.Means server cases lowered) :
    (collectionScope view (generation.root.getD view) generation).Means server
      cases (position.scope lowered) := by
  have hroot := root_means hgeneration hview
  obtain ⟨parent, root, name, flattened⟩ := generation
  obtain ⟨loweredParent, loweredRoot⟩ := position
  obtain ⟨hparent, -⟩ := hgeneration
  refine ⟨hview, hroot, hview, ?_, ?_⟩
  · cases hparent with
    | none => exact nofun
    | some habove =>
        rintro _ ⟨⟩
        exact ⟨_, rfl, habove.1⟩
  · cases hparent with
    | none => exact fun _ => rfl
    | some => exact nofun

/-- The condition of the parent's relation means the planned one. -/
theorem parentCondition_means
    (hgeneration : generation.Means server cases position)
    (context : SelectionContext)
    (depth : Nat) :
    YieldsConditions server cases true
      (parentCondition catalog context.tableAlias generation)
      (position.parent.elim [] (fun above =>
        Dsql.relationCondition above.1.context context above.2)) depth := by
  obtain ⟨parent, root, name, flattened⟩ := generation
  obtain ⟨loweredParent, loweredRoot⟩ := position
  obtain ⟨hparent, hroot⟩ := hgeneration
  cases hparent with
  | none => exact Yields.done (fun final reading hreads => .nil)
  | @some above loweredAbove habove =>
      obtain ⟨aboveView, relation⟩ := above
      obtain ⟨loweredView, loweredRelation⟩ := loweredAbove
      obtain ⟨hmeans, rfl⟩ := habove
      have hcondition : YieldsConditions server cases false
          (relationCondition catalog loweredView.context.tableAlias
            context.tableAlias relation)
          (Dsql.relationCondition loweredView.context context relation)
          depth :=
        relationCondition_means catalog loweredView.context context relation
          depth
      rw [← hmeans.context] at hcondition
      exact hcondition.static true

/-- The conditions of a collection admit the rows that they should. -/
theorem collectionFilters_means
    (hsource : SourceFits cases source)
    (hgeneration : generation.Means server cases position)
    (context : SelectionContext)
    (hview : view.Means server cases lowered)
    (depth : Nat) :
    YieldsConditions server cases true
      (collectionFilters catalog source context.tableAlias view
        (generation.root.getD view) generation)
      (position.parent.elim [] (fun above =>
          (above.1.guard (.relation above.2.id) depth).toList) ++
        filterConditions catalog (.raw context) depth source.policyFilter ++
        filterConditions catalog (position.scope lowered) depth
          source.clauses.filter) depth := by
  have hpolicy : YieldsConditions server cases false
      (optionalFilter catalog (.raw context.tableAlias) source.policyFilter)
      (filterConditions catalog (.raw context) depth source.policyFilter)
      depth :=
    optionalFilter_means (.raw context) depth source.policyFilter
      (fun body hbody => conditionalFilterExpr_means body false
        (optionalFits_mem hsource.policy body hbody))
  have hfilter : YieldsConditions server cases true
      (optionalFilter catalog
        (collectionScope view (generation.root.getD view) generation)
        source.clauses.filter)
      (filterConditions catalog (position.scope lowered) depth
        source.clauses.filter) depth :=
    optionalFilter_means (collectionScope_means hgeneration hview) depth
      source.clauses.filter
      (fun body hbody => conditionalFilterExpr_means body true
        (optionalFits_mem hsource.filter body hbody))
  have hrelation : YieldsConditions server cases true
      (parentFilter generation)
      (position.parent.elim [] (fun above =>
        (above.1.guard (.relation above.2.id) depth).toList)) depth := by
    obtain ⟨parent, root, name, flattened⟩ := generation
    obtain ⟨loweredParent, loweredRoot⟩ := position
    obtain ⟨hparent, hroot⟩ := hgeneration
    cases hparent with
    | none => exact Yields.done (fun final reading hreads => .nil)
    | @some above loweredAbove habove =>
        obtain ⟨aboveView, relation⟩ := above
        obtain ⟨loweredView, loweredRelation⟩ := loweredAbove
        obtain ⟨hmeans, rfl⟩ := habove
        exact (relationFilter_means hmeans relation depth).static true
  refine Yields.bind hrelation fun relation =>
    Yields.bind (hpolicy.static true) fun policy =>
      Yields.map hfilter ?_
  intro final query hquery hpolicy hrelation reading hreads
  exact List.rel_append (List.rel_append (hrelation reading hreads)
    (hpolicy reading hreads)) (hquery reading hreads)

end Conditions

end Postgres

end Dsql
