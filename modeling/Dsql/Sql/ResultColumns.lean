import Dsql.Logic.Fallible
import Dsql.Results.ClauseTypes
import Dsql.Results.Encoding
import Dsql.Sql.FieldMeaning

/-!
# Result columns of generated statements

What a select joins and exports, as a select list of results: the derived
tables in their order, and the expression behind every name.
-/

namespace Dsql

namespace Postgres

open Results

/-! ## What a select joins and exports -/

/-- The derived table that a construct joins. -/
def joinedTable : SqlConstruct → Option DerivedTable
  | .lateral name => some (.related name)
  | .fromGroups name => some (.groups name)
  | .root index => some (.root index)
  | .singleton => some (.root 0)
  | _ => none

/-- A derived table that a select joins, with the statement behind it. -/
def derivedTable : Sql → Option (DerivedTable × Sql)
  | .node construct [query] =>
      (joinedTable construct).map (fun table => (table, query))
  | _ => none

def fieldName : SqlConstruct → Option (Option String)
  | .field name => some name
  | _ => none

def selectedField : Sql → Option (Option String × Sql)
  | .node construct [value] =>
      (fieldName construct).map (fun name => (name, value))
  | _ => none

namespace Sql

/-- A column as it stands or behind its guard. -/
def readsColumn (column : ColumnId) : Sql → Bool
  | .node (.column _ read) [] => read == column
  | .node .caseWhen [_, .node (.column _ read) []] => read == column
  | _ => false

def readsAggregate
    (function : AggregateFunction)
    (operand : Option ColumnId) : Sql → Bool
  | .node .countRows [] => function == .count && operand.isNone
  | .node .anyRows [] => function == .exists
  | .node (.function applied) [value] =>
      applied == function && operand.any (fun column =>
        value.readsColumn column)
  | _ => false

end Sql

/-- The column that a name in a select stands for. -/
def resultName : Option String → ColumnName
  | some name => .output name
  | none => .result

section Relation

variable (typed : Results.Catalog)

mutual

/-- An expression of a select is encoded beside some derived tables. -/
inductive Encodes (tables : List DerivedTable) :
    Sql → Results.SqlExpr → Prop
  | column
      {column : ColumnId}
      {value : Sql}
      (h : value.readsColumn column = true) :
      Encodes tables (.node (.publicColumn column) [value])
        (publicColumnExpression typed (.column column) column)
  | aggregate
      {field : AggregateProjection}
      {value : Sql}
      (h : value.readsAggregate field.function field.operand = true) :
      Encodes tables
        (.node (.publicAggregate field.function field.operand) [value])
        (publicAggregateExpression typed
          (.aggregate field.function field.operand) field)
  | output
      {table : DerivedTable}
      {name : Option String}
      {index : Nat}
      (h : tables[index]? = some table) :
      Encodes tables (.node (.output table name) [])
        (.reference index (resultName name))
  | object
      {fields : List (String × Sql)}
      {encoded : List (String × Results.SqlExpr)}
      (h : EncodesAll tables fields encoded) :
      Encodes tables (jsonBuildObject fields) (.buildObject encoded)
  | wire
      {value : Sql}
      {encoded : Results.SqlExpr}
      (h : Encodes tables value encoded) :
      Encodes tables (.node .jsonWire [value]) (.toJson encoded)
  | array
      {row : Sql}
      {orders : List Sql}
      {encoded : Results.SqlExpr}
      (h : Encodes tables row encoded) :
      Encodes tables (.node .coalesceEmpty [.node .jsonAgg (row :: orders)])
        (.aggArray encoded)

/-- Named expressions with their encodings. -/
inductive EncodesAll (tables : List DerivedTable) :
    List (String × Sql) → List (String × Results.SqlExpr) → Prop
  | nil : EncodesAll tables [] []
  | cons
      {name : String}
      {value : Sql}
      {encoded : Results.SqlExpr}
      {fields : List (String × Sql)}
      {others : List (String × Results.SqlExpr)}
      (head : Encodes tables value encoded)
      (tail : EncodesAll tables fields others) :
      EncodesAll tables ((name, value) :: fields) ((name, encoded) :: others)

end

/-- An exported column. -/
def Exports
    (tables : List DerivedTable)
    (field : Option String × Sql)
    (exported : ColumnName × Results.SqlExpr) : Prop :=
  resultName field.1 = exported.1 ∧ Encodes typed tables field.2 exported.2

mutual

/-- A statement joins the sources of a select list and exports its columns. -/
inductive Selects : Sql → SelectStatement → Prop
  | select
      {parts : List Sql}
      {sources : List SelectStatement}
      {exported : List (ColumnName × Results.SqlExpr)}
      (distinct : ((parts.filterMap derivedTable).map Prod.fst).Nodup)
      (joined : SelectsAll (parts.filterMap derivedTable) sources)
      (exports : List.Forall₂
        (Exports typed ((parts.filterMap derivedTable).map Prod.fst))
        (parts.filterMap selectedField) exported) :
      Selects (.node .select parts) (.mk sources exported)

inductive SelectsAll : List (DerivedTable × Sql) → List SelectStatement → Prop
  | nil : SelectsAll [] []
  | cons
      {table : DerivedTable}
      {query : Sql}
      {source : SelectStatement}
      {tables : List (DerivedTable × Sql)}
      {sources : List SelectStatement}
      (head : Selects query source)
      (tail : SelectsAll tables sources) :
      SelectsAll ((table, query) :: tables) (source :: sources)

end

end Relation

section Composition

variable {typed : Results.Catalog} {tables : List DerivedTable}

theorem EncodesAll.append
    {first second : List (String × Sql)}
    {encoded others : List (String × Results.SqlExpr)}
    (hfirst : EncodesAll typed tables first encoded)
    (hsecond : EncodesAll typed tables second others) :
    EncodesAll typed tables (first ++ second) (encoded ++ others) := by
  match hfirst with
  | .nil => exact hsecond
  | .cons head tail => exact .cons head (tail.append hsecond)

/-- The outputs of one derived table. -/
theorem encodesAll_outputs
    {table : DerivedTable}
    {index : Nat}
    (h : tables[index]? = some table)
    (names : List String) :
    EncodesAll typed tables
      (names.map (fun name => (name, Sql.node (.output table (some name)) [])))
      (names.map (fun name => (name, .reference index (.output name)))) := by
  induction names with
  | nil => exact .nil
  | cons name names ih => exact .cons (.output h) ih

theorem SelectsAll.append
    {first second : List (DerivedTable × Sql)}
    {sources others : List SelectStatement}
    (hfirst : SelectsAll typed first sources)
    (hsecond : SelectsAll typed second others) :
    SelectsAll typed (first ++ second) (sources ++ others) := by
  match hfirst with
  | .nil => exact hsecond
  | .cons head tail => exact .cons head (tail.append hsecond)

/-- A statement from what its parts join and export. -/
theorem selects_of
    {parts : List Sql}
    (joins : List (DerivedTable × Sql))
    {fields : List (Option String × Sql)}
    {sources : List SelectStatement}
    {exported : List (ColumnName × Results.SqlExpr)}
    (hjoins : parts.filterMap derivedTable = joins)
    (hfields : parts.filterMap selectedField = fields)
    (hdistinct : (joins.map Prod.fst).Nodup)
    (hjoined : SelectsAll typed joins sources)
    (hexports : List.Forall₂ (Exports typed (joins.map Prod.fst)) fields
      exported) :
    Selects typed (.node .select parts) (.mk sources exported) := by
  subst hjoins hfields
  exact .select hdistinct hjoined hexports

end Composition

/-! ## Renderings and what they build -/

section Rules

variable {α β ι : Type}

/-- The value of a rendering that does not fail has a property. -/
def Builds (rendering : Rendering α) (P : α → Prop) : Prop :=
  ∀ before value after, rendering before = .ok (value, after) →
    P value

variable {P : α → Prop} {Q : β → Prop}

/-- Any rendering builds something. -/
theorem Builds.any (rendering : Rendering α) :
    Builds rendering (fun _ => True) := fun _ _ _ _ => trivial

theorem Builds.pure {value : α} (h : P value) :
    Builds (pure value) P := by
  intro before found after hrun
  cases hrun
  exact h

theorem Builds.throw (error : SqlGenerationError) :
    Builds (throw error) P := by
  intro before value after hrun
  cases hrun

/-- One rendering after the other. -/
theorem Builds.bind
    {first : Rendering α}
    {second : α → Rendering β}
    (hfirst : Builds first P)
    (hsecond : ∀ value, P value → Builds (second value) Q) :
    Builds (first >>= second) Q := by
  intro before result after hrun
  have hsteps : (first before >>= fun found => second found.1 found.2) =
      .ok (result, after) := hrun
  obtain ⟨⟨value, middle⟩, hmiddle, hlast⟩ := except_bind_ok hsteps
  exact hsecond value (hfirst before value middle hmiddle) middle result
    after hlast

/-- A rendering whose result is put into a construct. -/
theorem Builds.map
    {rendering : Rendering α}
    {f : α → β}
    (h : Builds rendering P)
    (hvalue : ∀ value, P value → Q (f value)) :
    Builds (rendering >>= fun value => Pure.pure (f value)) Q :=
  h.bind fun value hproperty => .pure (hvalue value hproperty)

/-- What is built may be said less exactly. -/
theorem Builds.imp
    {rendering : Rendering α}
    {R : α → Prop}
    (h : Builds rendering P)
    (himp : ∀ value, P value → R value) :
    Builds rendering R :=
  fun before value after hrun => himp value (h before value after hrun)

/-- Renderings of items build results item by item. -/
theorem Builds.mapM
    {render : ι → Rendering α}
    {R : ι → α → Prop}
    (items : List ι)
    (h : ∀ item ∈ items, Builds (render item) (R item)) :
    Builds (items.mapM render) (List.Forall₂ R items) := by
  induction items with
  | nil => exact Builds.pure .nil
  | cons item items ih =>
      rw [List.mapM_cons]
      refine (h item List.mem_cons_self).bind fun value hvalue => ?_
      exact (ih fun other hother =>
        h other (List.mem_cons_of_mem item hother)).map
          fun values hvalues => .cons hvalue hvalues

/-- Renderings of items, where all build the same. -/
theorem Builds.forall_mem_mapM
    {render : ι → Rendering α}
    (items : List ι)
    (h : ∀ item, Builds (render item) P) :
    Builds (items.mapM render) (fun values =>
      ∀ value ∈ values, P value) := by
  refine (Builds.mapM items fun item _ => h item).imp fun values hvalues => ?_
  induction hvalues with
  | nil => exact List.forall_mem_nil _
  | cons hvalue _ ih => exact List.forall_mem_cons.mpr ⟨hvalue, ih⟩

end Rules

/-! ## Clauses -/

/-- A part of a select that neither joins a derived table nor exports. -/
def Sql.IsClause (part : Sql) : Prop :=
  derivedTable part = none ∧ selectedField part = none

/-- Parts of a select that are clauses. -/
abbrev Clauses (parts : List Sql) : Prop := ∀ part ∈ parts, part.IsClause

/-- Clauses join no tables and select no fields. -/
theorem Clauses.filterMap
    {parts : List Sql}
    (h : Clauses parts) :
    parts.filterMap derivedTable = [] ∧ parts.filterMap selectedField = [] :=
  ⟨List.filterMap_eq_nil_iff.mpr fun part hpart => (h part hpart).1,
    List.filterMap_eq_nil_iff.mpr fun part hpart => (h part hpart).2⟩

/-- Conditions are clauses. -/
theorem clauses_conditions (filters : List Sql) :
    Clauses (conditions filters) := by
  unfold Clauses conditions
  rw [List.forall_mem_map]
  exact fun _ _ => ⟨rfl, rfl⟩

/-- The table of a query with its conditions. -/
theorem clauses_table
    (table : TableId)
    (context : Alias)
    (filters : List Sql) :
    Clauses (.node (.fromTable table context) [] :: conditions filters) :=
  List.forall_mem_cons.mpr ⟨⟨rfl, rfl⟩, clauses_conditions filters⟩

theorem clauses_flatten
    {terms : List (List Sql)}
    (h : ∀ part ∈ terms, Clauses part) : Clauses terms.flatten := by
  intro term hterm
  obtain ⟨part, hpart, hterm⟩ := List.mem_flatten.mp hterm
  exact h part hpart term hterm

section Clauses

variable (catalog : Dsql.Catalog) (view : SqlRowView)

/-- The terms of an order are clauses. -/
theorem orderTerms_builds (order : OrderByPlan) :
    Builds (orderTerms catalog view order) Clauses := by
  have hterm (direction : SortDirection) (expression : Sql) :
      Clauses [.node (.orderBy direction) [expression]] :=
    List.forall_mem_singleton.mpr ⟨rfl, rfl⟩
  have hterms (path : InputPath) (expression : Sql) :
      Clauses (directionTerms path expression) :=
    List.forall_mem_cons.mpr ⟨⟨rfl, rfl⟩,
      List.forall_mem_singleton.mpr ⟨rfl, rfl⟩⟩
  cases order with
  | column columnId direction =>
      cases direction with
      | asc => exact (Builds.any _).map fun expression _ => hterm .asc expression
      | desc =>
          exact (Builds.any _).map fun expression _ => hterm .desc expression
      | «variant» path variants nullable =>
          rw [orderTerms]
          split
          next =>
            refine (Builds.any _).bind fun expression _ => ?_
            refine (Builds.any _).map fun _ _ => ?_
            exact List.forall_mem_singleton.mpr ⟨rfl, rfl⟩
          next =>
            refine (Builds.any _).bind fun expression _ => ?_
            exact (Builds.any _).map fun _ _ => hterms path expression
  | dynamic path surface fields =>
      refine (Builds.any _).bind fun rendered _ => ?_
      exact (Builds.any _).map fun marker _ => hterm .asc marker

/-- A limit is a clause. -/
theorem limitClause_builds
    (clauses : SelectionClauses)
    (limitOverride : Option Nat) :
    Builds (limitClause clauses limitOverride) Clauses := by
  have hlimit (bound : Sql) : Clauses [.node .limit [bound]] :=
    List.forall_mem_singleton.mpr ⟨rfl, rfl⟩
  unfold limitClause
  cases clauses.limit with
  | none =>
      cases limitOverride with
      | none => exact Builds.pure (List.forall_mem_nil _)
      | some limit => exact Builds.pure (hlimit _)
  | some value =>
      cases value with
      | literal limit => cases limitOverride <;> exact Builds.pure (hlimit _)
      | parameter parameter =>
          cases limitOverride <;>
            exact (Builds.any _).map fun placeholder _ => hlimit _

/-- An offset is a clause. -/
theorem offsetClause_builds (clauses : SelectionClauses) :
    Builds (offsetClause clauses) Clauses := by
  have hoffset (bound : Sql) : Clauses [.node .offset [bound]] :=
    List.forall_mem_singleton.mpr ⟨rfl, rfl⟩
  unfold offsetClause
  cases clauses.offset with
  | none => exact Builds.pure (List.forall_mem_nil _)
  | some value =>
      cases value with
      | literal offset => exact Builds.pure (hoffset _)
      | parameter parameter =>
          exact (Builds.any _).map fun placeholder _ => hoffset placeholder

/-- Orders, limits and offsets are clauses. -/
theorem applyOrderLimitOffset_builds
    (clauses : SelectionClauses)
    (limitOverride : Option Nat) :
    Builds (applyOrderLimitOffset catalog view clauses limitOverride)
      Clauses := by
  unfold applyOrderLimitOffset
  refine (Builds.forall_mem_mapM clauses.orderBy
    (orderTerms_builds catalog view)).bind fun orders horders => ?_
  refine (limitClause_builds clauses limitOverride).bind
    fun limit hlimit => ?_
  refine (offsetClause_builds clauses).map fun offset hoffset => ?_
  exact List.forall_mem_append.mpr
    ⟨List.forall_mem_append.mpr ⟨clauses_flatten horders, hlimit⟩, hoffset⟩

/-- The source of rows consists of clauses. -/
theorem rowSource_builds
    (options : PostgresSqlOptions)
    (source : CollectionSource)
    (current : Table)
    (correlation filters : List Sql) :
    Builds (rowSource catalog options source current view correlation filters)
      Clauses := by
  unfold rowSource
  split
  next =>
    exact (Builds.any _).map fun bounds _ =>
      List.forall_mem_singleton.mpr ⟨rfl, rfl⟩
  next =>
    refine (applyOrderLimitOffset_builds catalog view source.clauses none).map
      fun bounds hbounds => ?_
    exact List.forall_mem_append.mpr ⟨clauses_table _ _ _, hbounds⟩

end Clauses

/-! ## Fields -/

section Fields

variable {typed : Results.Catalog} {catalog : Dsql.Catalog}
  {texts : Types.LiteralTexts} {tables : List DerivedTable}
  {view : SqlRowView}

theorem table_builds (catalog : Dsql.Catalog) (id : TableId) :
    Builds (table catalog id) (fun table => table.id = id) := by
  unfold table
  cases hfound : catalog.tableById id with
  | none => exact Builds.throw _
  | some found => exact Builds.pure (Catalog.tableById_id hfound)

/-- A column that is rendered exists. -/
theorem rawColumn_builds (columnId : ColumnId) :
    Builds (rawColumn catalog view columnId) (fun sql =>
      sql = .node (.column view.context columnId) [] ∧
        (catalog.columnById columnId).isSome = true) := by
  unfold rawColumn column
  cases hfound : catalog.columnById columnId with
  | none =>
      intro before value after hrun
      cases hrun
  | some found =>
      refine (Builds.pure (P := (· = found)) rfl).map ?_
      rintro _ rfl
      rw [Catalog.columnById_id hfound]
      exact ⟨rfl, rfl⟩

/-- A column, masked or not, is the column that is encoded. -/
theorem maskedColumnExpression_builds
    (hcatalog : typed.ReadBy texts catalog)
    (columnId : ColumnId) :
    Builds (maskedColumnExpression catalog view columnId) (fun sql =>
      sql.readsColumn columnId = true ∧
        Results.maskedColumnExpression typed columnId =
          .ok (.column columnId)) := by
  unfold maskedColumnExpression
  refine (rawColumn_builds columnId).bind ?_
  rintro _ ⟨rfl, hsome⟩
  rw [← hcatalog.columnById_isSome] at hsome
  obtain ⟨column, hcolumn⟩ := Option.isSome_iff_exists.mp hsome
  have htyped : Results.maskedColumnExpression typed columnId =
      .ok (.column columnId) := by
    rw [Results.maskedColumnExpression, hcolumn]
  cases view.policyFieldFilter (.column columnId) with
  | none => exact Builds.pure ⟨beq_self_eq_true columnId, htyped⟩
  | some guard =>
      exact (Builds.any guard).map fun _ _ =>
        ⟨beq_self_eq_true columnId, htyped⟩

/-- An aggregate is the aggregate that is encoded. -/
theorem aggregateValueExpression_builds
    (hcatalog : typed.ReadBy texts catalog)
    (field : AggregateProjection) :
    Builds (aggregateValueExpression catalog view field.function field.operand)
      (fun sql =>
        sql.readsAggregate field.function field.operand = true ∧
          aggregateExpression typed field =
            .ok (.aggregate field.function field.operand)) := by
  obtain ⟨function, operand, outputName, dataType, nullable⟩ := field
  cases operand with
  | none =>
      refine (Builds.pure (P := (· = none)) rfl).bind ?_
      rintro _ rfl
      cases function with
      | count | «exists» => exact Builds.pure ⟨rfl, rfl⟩
      | min | max | sum | avg => exact Builds.throw _
  | some column =>
      have hoperand : Builds
          ((some column).mapM (maskedColumnExpression catalog view))
          (fun value => ∃ sql, value = some sql ∧
            sql.readsColumn column = true ∧
              aggregateOperand typed (some column) =
                .ok (some (.column column))) := by
        refine (maskedColumnExpression_builds hcatalog column).map ?_
        rintro sql ⟨hreads, htyped⟩
        refine ⟨sql, rfl, hreads, ?_⟩
        rw [aggregateOperand, htyped]
        rfl
      refine hoperand.bind ?_
      rintro _ ⟨sql, rfl, hreads, htyped⟩
      cases function <;>
        refine Builds.pure ⟨?_, ?_⟩ <;>
        first
          | rw [aggregateExpression, htyped]; rfl
          | simp [Sql.readsAggregate, hreads]

/-- A field of a select, encoded as results render it. -/
def EncodesField
    (typed : Results.Catalog)
    (tables : List DerivedTable)
    (rendered : Except Results.SqlGenerationError (String × Results.SqlExpr))
    (field : String × Sql) : Prop :=
  ∃ expression, rendered = .ok (field.1, expression) ∧
    Encodes typed tables field.2 expression

/-- The field of an aggregate is the one that is encoded. -/
theorem aggregateField_builds
    (hcatalog : typed.ReadBy texts catalog)
    (tables : List DerivedTable)
    (field : AggregateProjection) :
    Builds (aggregateField catalog view field)
      (EncodesField typed tables (Results.aggregateField typed field)) := by
  unfold aggregateField
  refine (aggregateValueExpression_builds hcatalog field).map ?_
  rintro sql ⟨hreads, htyped⟩
  refine ⟨_, ?_, .aggregate hreads⟩
  rw [Results.aggregateField, htyped]
  rfl

/-- The fields of some items, in their order. -/
theorem encodesAll_mapM
    {ι : Type}
    {items : List ι}
    {render : ι → Except Results.SqlGenerationError (String × Results.SqlExpr)}
    {fields : List (String × Sql)}
    (h : List.Forall₂ (fun item field =>
      EncodesField typed tables (render item) field) items fields) :
    ∃ encoded, items.mapM render = .ok encoded ∧
      EncodesAll typed tables fields encoded := by
  induction h with
  | nil => exact ⟨[], rfl, .nil⟩
  | cons hfield _ ih =>
      obtain ⟨expression, hrendered, hencodes⟩ := hfield
      obtain ⟨encoded, hothers, hall⟩ := ih
      refine ⟨_ :: encoded, ?_, .cons hencodes hall⟩
      rw [List.mapM_cons, hrendered, hothers]
      rfl

/-- Encoded fields as the columns of a select. -/
theorem EncodesAll.exports
    {fields : List (String × Sql)}
    {encoded : List (String × Results.SqlExpr)}
    (h : EncodesAll typed tables fields encoded)
    (wired : Bool) :
    List.Forall₂ (Exports typed tables)
      ((exportedFields wired fields).filterMap selectedField)
      (encoded.map (fun field =>
        (.output field.1, if wired then .toJson field.2 else field.2))) := by
  match h with
  | .nil => exact .nil
  | .cons head tail =>
      refine .cons ⟨rfl, ?_⟩ (tail.exports wired)
      cases wired with
      | false => exact head
      | true => exact .wire head

theorem exportedFields_joins
    (wired : Bool)
    (fields : List (String × Sql)) :
    (exportedFields wired fields).filterMap derivedTable = [] := by
  unfold exportedFields
  rw [List.filterMap_map]
  exact List.filterMap_eq_nil_iff.mpr fun _ _ => rfl

end Fields

/-! ## Aggregates -/

section Aggregates

variable {typed : Results.Catalog} {catalog : Dsql.Catalog}
  {texts : Types.LiteralTexts} {view : SqlRowView}

/-- The rendering of a group key: a field and what is grouped by. -/
def RendersKey
    (typed : Results.Catalog)
    (key : AggregateGroupProjection)
    (parts : List Sql) : Prop :=
  ∃ value grouped, parts =
      [.node (.field (some key.outputName)) [value],
        .node .groupBy [grouped]] ∧
    EncodesField typed [] (groupKeyField typed key) (key.outputName, value)

/-- A group key is the one that is encoded. -/
theorem groupKey_builds
    (hcatalog : typed.ReadBy texts catalog)
    (key : AggregateGroupProjection) :
    Builds (groupKey catalog view key) (RendersKey typed key) := by
  unfold groupKey
  refine (maskedColumnExpression_builds hcatalog key.column).map ?_
  rintro grouped ⟨hreads, htyped⟩
  refine ⟨_, grouped, rfl, _, ?_, .column hreads⟩
  rw [groupKeyField, htyped]
  rfl

/-- The group keys join nothing and export their fields. -/
theorem RendersKey.flatten
    {keys : List AggregateGroupProjection}
    {rendered : List (List Sql)}
    (h : List.Forall₂ (RendersKey typed) keys rendered) :
    rendered.flatten.filterMap derivedTable = [] ∧
      ∃ encoded, keys.mapM (groupKeyField typed) = .ok encoded ∧
        List.Forall₂ (Exports typed [])
          (rendered.flatten.filterMap selectedField)
          (encoded.map (fun field => (.output field.1, field.2))) := by
  induction h with
  | nil => exact ⟨rfl, [], rfl, .nil⟩
  | @cons key parts keys rendered hkey _ ih =>
      obtain ⟨value, grouped, rfl, expression, hrendered, hencodes⟩ := hkey
      obtain ⟨hjoins, encoded, hothers, hexports⟩ := ih
      refine ⟨hjoins, (key.outputName, expression) :: encoded, ?_,
        .cons ⟨rfl, hencodes⟩ hexports⟩
      rw [List.mapM_cons, hrendered, hothers]
      rfl

/-- A rendering builds the statement of a select list. -/
def BuildsSelect
    (typed : Results.Catalog)
    (rendering : Rendering Sql)
    (rendered : Except Results.SqlGenerationError SelectStatement) : Prop :=
  Builds rendering (fun sql =>
    ∃ statement, rendered = .ok statement ∧ Selects typed sql statement)

/-- A grouped aggregate selects what is encoded of it. -/
theorem generateGroupedAggregate_builds
    (hcatalog : typed.ReadBy texts catalog)
    {clauses : List Sql}
    (hclauses : Clauses clauses)
    (aggregate : AggregatePlan)
    (publicResultAlias : Option String) :
    BuildsSelect typed
      (generateGroupedAggregate catalog view clauses aggregate
        publicResultAlias)
      (Results.generateGroupedAggregate typed aggregate
        (resultName publicResultAlias)) := by
  unfold BuildsSelect generateGroupedAggregate
  refine (Builds.mapM aggregate.groupKeys fun key _ =>
    groupKey_builds hcatalog key).bind fun keys hkeys => ?_
  refine (Builds.mapM aggregate.fields fun field _ =>
    aggregateField_builds hcatalog [] field).map
      fun fields hfields => ?_
  obtain ⟨hjoins, encodedKeys, hkeysTyped, hkeysExport⟩ :=
    RendersKey.flatten hkeys
  obtain ⟨encodedFields, hfieldsTyped, hfieldsEncode⟩ :=
    encodesAll_mapM hfields
  have hgrouped : Selects typed
      (.node .select (clauses ++ keys.flatten ++ exportedFields false fields))
      (.mk [] ((encodedKeys ++ encodedFields).map (fun field =>
        (.output field.1, field.2)))) := by
    refine selects_of []
      (by rw [List.filterMap_append, List.filterMap_append,
        hclauses.filterMap.1, hjoins, exportedFields_joins]; rfl)
      (by rw [List.filterMap_append, List.filterMap_append,
        hclauses.filterMap.2, List.nil_append])
      List.nodup_nil .nil ?_
    rw [List.map_append]
    exact List.rel_append hkeysExport (hfieldsEncode.exports false)
  have hrendered : Results.generateGroupedAggregate typed aggregate
      (resultName publicResultAlias) = .ok (.mk
        [.mk [] ((encodedKeys ++ encodedFields).map (fun field =>
          (.output field.1, field.2)))]
        [(resultName publicResultAlias, .aggArray (.buildObject
          ((aggregate.groupKeys.map AggregateGroupProjection.outputName ++
            aggregate.fields.map AggregateProjection.outputName).map
              (fun output => (output, .reference 0 (.output output))))))]) := by
    rw [Results.generateGroupedAggregate, hkeysTyped, hfieldsTyped]
    rfl
  refine ⟨_, hrendered, .select (List.nodup_singleton _)
    (.cons hgrouped .nil) (.cons ⟨rfl, ?_⟩ .nil)⟩
  exact .array (.object (encodesAll_outputs rfl _))

/-- What a collection is generated for, as far as results depend on it. -/
def SelectionGenerationContext.results
    (generation : SelectionGenerationContext) :
    Results.SelectionGenerationContext :=
  ⟨generation.parent.isSome, generation.publicResultAlias,
    generation.flattened⟩

/-- Fields as columns of their own, or one object. -/
theorem objectOrFields_exports
    {tables : List DerivedTable}
    (generation : SelectionGenerationContext)
    {fields : List (String × Sql)}
    {encoded : List (String × Results.SqlExpr)}
    (h : EncodesAll typed tables fields encoded) :
    (objectOrFields generation fields).filterMap derivedTable = [] ∧
      List.Forall₂ (Exports typed tables)
        ((objectOrFields generation fields).filterMap selectedField)
        (if generation.flattened then exportFields generation.results encoded
        else [(generation.results.resultName, .buildObject encoded)]) := by
  unfold objectOrFields
  cases generation.flattened with
  | false => exact ⟨rfl, .cons ⟨rfl, .object h⟩ .nil⟩
  | true =>
      refine ⟨exportedFields_joins _ fields, ?_⟩
      have hwired : (fun field : String × Results.SqlExpr =>
          (ColumnName.output field.1,
            if generation.parent.isNone then .toJson field.2 else field.2)) =
          fun field => (.output field.1,
            if generation.results.nested then field.2
            else .toJson field.2) := by
        funext field
        unfold SelectionGenerationContext.results
        cases generation.parent <;> rfl
      rw [if_pos rfl, if_pos rfl, exportFields, ← hwired]
      exact h.exports generation.parent.isNone

/-- An aggregate selects what is encoded of it. -/
theorem generateAggregate_builds
    (hcatalog : typed.ReadBy texts catalog)
    (source : CollectionSource)
    (aggregate : AggregatePlan)
    (path : List AliasSegment)
    (generation : SelectionGenerationContext) :
    BuildsSelect typed
      (generateAggregate catalog source aggregate path generation)
      (Results.generateAggregate typed aggregate generation.results) := by
  unfold BuildsSelect generateAggregate Results.generateAggregate
  refine (Builds.any _).bind fun current _ => ?_
  refine (Builds.any _).bind fun correlation _ => ?_
  refine (Builds.any _).bind fun filters _ => ?_
  have hclauses := clauses_table current.id ⟨path⟩ (correlation ++ filters)
  cases aggregate.mode with
  | grouped =>
      exact generateGroupedAggregate_builds hcatalog hclauses aggregate
        generation.publicResultAlias
  | ungrouped =>
      refine (Builds.mapM aggregate.fields fun field _ =>
        aggregateField_builds hcatalog [] field).map
          fun fields hfields => ?_
      obtain ⟨encoded, htyped, hencodes⟩ := encodesAll_mapM hfields
      obtain ⟨hjoins, hexports⟩ := objectOrFields_exports generation hencodes
      obtain ⟨hclauseJoins, hclauseFields⟩ := hclauses.filterMap
      refine ⟨_, by rw [htyped]; rfl, selects_of [] ?_ ?_
        List.nodup_nil .nil hexports⟩
      · rw [List.filterMap_append, hclauseJoins, hjoins]
        rfl
      · rw [List.filterMap_append, hclauseFields, List.nil_append]

end Aggregates

/-! ## Relations -/

/-- The derived tables of the relations behind the items before them. -/
def relatedTables
    (path : List AliasSegment)
    (before : List SelectionPlanItem) : List SelectionPlanItem →
      List DerivedTable
  | [] => []
  | .projection projection :: items =>
      relatedTables path (before ++ [.projection projection]) items
  | .relation outputName flattened relation collection :: items =>
      .related ⟨relationInstancePath before collection.source.table outputName
          path⟩ ::
        relatedTables path
          (before ++ [.relation outputName flattened relation collection])
          items

section Relations

variable {typed : Results.Catalog} {catalog : Dsql.Catalog}
  {texts : Types.LiteralTexts} {view : SqlRowView} {path : List AliasSegment}

/-- A relation that is named already is not named again. -/
theorem not_mem_relatedTables
    {earlier : List SelectionPlanItem}
    {table : TableId}
    {outputName : String}
    (items before : List SelectionPlanItem)
    (h : occurrences earlier table outputName <
      occurrences before table outputName) :
    .related ⟨relationInstancePath earlier table outputName path⟩ ∉
      relatedTables path before items := by
  induction items generalizing before with
  | nil => exact List.not_mem_nil
  | cons item items ih =>
      have hlater : occurrences earlier table outputName <
          occurrences (before ++ [item]) table outputName := by
        rw [occurrences_append]
        exact Nat.lt_add_right _ h
      cases item with
      | projection projection => exact ih _ hlater
      | relation otherName flattened relation collection =>
          rw [relatedTables, List.mem_cons, not_or]
          refine ⟨?_, ih _ hlater⟩
          intro hsame
          simp only [DerivedTable.related.injEq, Alias.mk.injEq,
            relationInstancePath, List.append_cancel_left_eq, List.cons.injEq,
            AliasSegment.selection.injEq, and_true] at hsame
          obtain ⟨htable, hname, hcount⟩ := hsame
          rw [htable, hname] at hcount
          rw [htable, hname] at h
          omega

/-- The derived tables of a selection have distinct names. -/
theorem relatedTables_nodup (before items : List SelectionPlanItem) :
    (relatedTables path before items).Nodup := by
  induction items generalizing before with
  | nil => exact List.nodup_nil
  | cons item items ih =>
      cases item with
      | projection projection => exact ih _
      | relation outputName flattened relation collection =>
          refine List.nodup_cons.mpr ⟨not_mem_relatedTables _ _ ?_, ih _⟩
          rw [occurrences_append, occurrences_relation]
          exact Nat.lt_succ_self _

/-- The fields of a row are encoded beside the derived tables of its
relations; those of earlier items stand in front. -/
theorem selectionFieldExpressions_builds
    (hcatalog : typed.ReadBy texts catalog)
    (earlier : List DerivedTable)
    (before items : List SelectionPlanItem) :
    Builds (selectionFieldExpressions catalog view path before items)
      (fun fields => ∃ encoded,
        Results.selectionFieldExpressions typed earlier.length items =
          .ok encoded ∧
        EncodesAll typed (earlier ++ relatedTables path before items) fields
          encoded) := by
  induction items generalizing before earlier with
  | nil => exact Builds.pure ⟨[], rfl, .nil⟩
  | cons item items ih =>
      cases item with
      | projection projection =>
          rw [selectionFieldExpressions]
          refine (maskedColumnExpression_builds hcatalog
            projection.column).bind ?_
          rintro expression ⟨hreads, htyped⟩
          refine (ih earlier _).map ?_
          rintro fields ⟨encoded, hothers, hencodes⟩
          refine ⟨_, ?_, .cons (.column hreads) hencodes⟩
          rw [Results.selectionFieldExpressions, htyped]
          simp only [hothers]
          rfl
      | relation outputName flattened relation collection =>
          rw [selectionFieldExpressions]
          refine (table_builds catalog collection.source.table).bind ?_
          rintro related hrelated
          let source : DerivedTable := .related
            ⟨relationInstancePath before collection.source.table outputName
              path⟩
          refine (ih (earlier ++ [source]) _).map ?_
          rintro fields ⟨encoded, hothers, hencodes⟩
          rw [List.length_append, List.length_singleton] at hothers
          rw [List.append_assoc, List.singleton_append] at hencodes
          have hsource : (earlier ++ source :: relatedTables path
              (before ++ [.relation outputName flattened relation collection])
              items)[earlier.length]? = some source := by
            simp
          obtain ⟨target, result⟩ := collection
          rw [hrelated]
          cases flattened with
          | true =>
              refine ⟨_, ?_, (encodesAll_outputs hsource _).append hencodes⟩
              rw [Results.selectionFieldExpressions, hothers]
              rfl
          | false =>
              refine ⟨_, ?_, .cons (.output hsource) hencodes⟩
              rw [Results.selectionFieldExpressions, hothers]
              rfl

end Relations

end Postgres

end Dsql
