import Dsql.Sql.Answers
import Dsql.Sql.Captures

/-!
# Plans without captured references

A plan is meant with every column reference at the row source that it was
planned for.  Where no reference in its conditions and guards is captured, SQL's
rule answers with the same rows.
-/

namespace Dsql

open Results

/-- The conditions and the field guards of a row source hold no captured
reference. -/
def Results.CollectionSource.isUncaptured
    (catalog : Dsql.Catalog)
    (source : CollectionSource)
    (sources : List SelectionContext)
    (context : SelectionContext)
    (position : Postgres.SelectionPosition) : Bool :=
  (Postgres.admittingConditions catalog source context position).all
      (SqlExpr.isUncaptured (context :: sources)) &&
    (readableView catalog context source.fieldFilters).guards.all
      (fun guard =>
        (guard.2 (context.level + 1)).isUncaptured (context :: sources))

namespace Postgres

section Plans

variable (catalog : Catalog)

mutual

/-- A collection inside of some row sources, with its relations. -/
def collectionUncaptured
    (sources : List SelectionContext)
    (path : List AliasSegment)
    (position : SelectionPosition) : CollectionPlan → Bool
  | .mk source (.aggregate _) =>
      source.isUncaptured catalog sources ⟨⟨path⟩, sources.length⟩ position
  | .mk source (.rows items) =>
      let context : SelectionContext := ⟨⟨path⟩, sources.length⟩
      let view := readableView catalog context source.fieldFilters
      source.isUncaptured catalog sources context position &&
        relatedUncaptured (context :: sources) path view
          (position.root.getD view) [] items

def relatedUncaptured
    (sources : List SelectionContext)
    (path : List AliasSegment)
    (view root : Dsql.SqlRowView)
    (before : List SelectionPlanItem) : List SelectionPlanItem → Bool
  | [] => true
  | .projection projection :: items =>
      relatedUncaptured sources path view root
        (before ++ [.projection projection]) items
  | .relation outputName flattened relationId collection :: items =>
      (match catalog.relationById relationId with
        | none => true
        | some relation =>
            collectionUncaptured sources
              (relationInstancePath before collection.source.table outputName
                path)
              (.below view root relation) collection) &&
        relatedUncaptured sources path view root
          (before ++ [.relation outputName flattened relationId collection])
          items

end

end Plans

end Postgres

/-- No column reference of the plan is captured. -/
def Results.QueryPlan.isUncaptured
    (catalog : Dsql.Catalog)
    (plan : QueryPlan) : Bool :=
  plan.roots.all (fun root =>
    Postgres.collectionUncaptured catalog []
      [.selection root.collection.source.table root.outputName 0] .top
      root.collection)

namespace Postgres

namespace Server

variable {S : Type} [DecidableEq S] (server : Server S)

/-! ## Rows of one source -/

/-- Both rules read the columns of a row source alike. -/
def ReadsAlike (env : Env S) (view : Dsql.SqlRowView) : Prop :=
  server.columnValue innermost env view = server.columnValue intended env view

section Rows

variable {server} {env : Env S} {view : Dsql.SqlRowView}

/-- Columns are read alike under guards without captured references. -/
theorem readsAlike_of_guards
    (h : view.guards.all (fun guard =>
      (guard.2 (view.context.level + 1)).isUncaptured
        (view.context :: env.sources)) = true) :
    server.ReadsAlike env view := by
  funext column row
  refine server.session.eval_isUncaptured ?_
  have hhead : view.context.isFound (view.context :: env.sources) = true :=
    SelectionContext.isFound_head
  have hsources : Env.sources ((view.context, row) :: env) =
      view.context :: env.sources := rfl
  rw [hsources]
  unfold SqlRowView.maskedColumnExpression
  cases hguard : view.guard (.column column) (view.context.level + 1) with
  | none => simp [SqlExpr.isUncaptured, hhead]
  | some guard =>
      obtain ⟨entry, hentry, rfl⟩ := Option.map_eq_some_iff.mp hguard
      have hfree := List.all_eq_true.mp h entry
        (List.mem_of_find?_eq_some hentry)
      simp [SqlExpr.isUncaptured, hfree]

variable (h : server.ReadsAlike env view)

include h

theorem ReadsAlike.selectedOrder (fields : List DynamicInputFieldPlan) :
    server.selectedOrder innermost env view fields =
      server.selectedOrder intended env view fields := by
  funext selected
  unfold Server.selectedOrder
  rw [h]

theorem ReadsAlike.writtenOrder (clauses : SelectionClauses) :
    server.writtenOrder innermost env view clauses =
      server.writtenOrder intended env view clauses := by
  have horder : server.rowOrder innermost env view =
      server.rowOrder intended env view := by
    funext order
    cases order with
    | column column direction =>
        have hcolumn := congrFun h column
        cases direction <;> simp only [Server.rowOrder, hcolumn]
    | dynamic path surface fields =>
        simp only [Server.rowOrder, h.selectedOrder]
  unfold Server.writtenOrder
  rw [horder]

theorem ReadsAlike.aggregateFields (fields : List AggregateProjection) :
    server.aggregateFields innermost env view fields =
      server.aggregateFields intended env view fields := by
  funext rows
  unfold Server.aggregateFields Server.aggregateDatum
  rw [h]

theorem ReadsAlike.groupOutputs (aggregate : AggregatePlan) :
    server.groupOutputs innermost env view aggregate =
      server.groupOutputs intended env view aggregate := by
  funext group
  unfold Server.groupOutputs Server.keyFields
  rw [h, h.aggregateFields]

theorem ReadsAlike.aggregateAnswers
    (aggregate : AggregatePlan)
    (name : Option String)
    (flattened : Bool)
    (rows : List (Row S)) :
    server.aggregateAnswers innermost env view aggregate name flattened rows =
      server.aggregateAnswers intended env view aggregate name flattened
        rows := by
  unfold Server.aggregateAnswers Server.groupsOf
  rw [h, h.aggregateFields, h.groupOutputs]

theorem ReadsAlike.rowFields
    (items : List SelectionPlanItem)
    (row : Row S)
    (related : List (Outputs S)) :
    server.rowFields innermost env view items row related =
      server.rowFields intended env view items row related := by
  induction items generalizing related with
  | nil => rfl
  | cons item items ih =>
      cases item with
      | projection projection =>
          have hcolumn := congrFun (congrFun h projection.column) row
          simp only [Server.rowFields, ih, hcolumn]
      | relation outputName flattened relationId collection =>
          simp only [Server.rowFields, ih]

theorem ReadsAlike.rowAnswers
    (options : PostgresSqlOptions)
    (source : CollectionSource)
    (items : List SelectionPlanItem)
    (name : Option String)
    (flattened : Bool)
    (rows : List (Row S))
    (related : Row S → List (List (Outputs S))) :
    server.rowAnswers innermost options source env view items name flattened
        rows related =
      server.rowAnswers intended options source env view items name flattened
        rows related := by
  unfold Server.rowAnswers Server.joinedRows Server.chosenRows
  simp only [h.writtenOrder, h.rowFields]

end Rows

/-! ## Collections -/

section Collections

variable (catalog : Catalog) (options : PostgresSqlOptions)

/-- Both rules admit the same rows. -/
theorem admittedRows_alike
    {env : Env S}
    {source : CollectionSource}
    {context : SelectionContext}
    {position : SelectionPosition}
    (h : (admittingConditions catalog source context position).all
      (SqlExpr.isUncaptured (context :: env.sources)) = true) :
    server.admittedRows innermost catalog env source context position =
      server.admittedRows intended catalog env source context position := by
  unfold Server.admittedRows Session.rowsWhere
  refine List.filter_congr (fun row _ => ?_)
  have hconditions := @Session.evalAll_isUncaptured S server.session _
    (admittingConditions catalog source context position)
    ((context, row) :: env) h
  exact congrArg (· == Logic.Truth.tt) hconditions

mutual

/-- By induction over the plan: a collection without captured references
answers alike under both rules. -/
theorem collectionAnswers_alike
    (plan : CollectionPlan)
    {env : Env S}
    (path : List AliasSegment)
    (position : SelectionPosition)
    (name : Option String)
    (flattened : Bool)
    (h : collectionUncaptured catalog env.sources path position plan = true) :
    server.collectionAnswers innermost catalog options env path position name
        flattened plan =
      server.collectionAnswers intended catalog options env path position
        name flattened plan := by
  have hlength : env.sources.length = env.length := List.length_map ..
  match plan with
  | .mk source (.aggregate aggregate) =>
      simp only [collectionUncaptured, CollectionSource.isUncaptured,
        hlength, Bool.and_eq_true] at h
      have hview : server.ReadsAlike env
          (readableView catalog ⟨⟨path⟩, env.length⟩ source.fieldFilters) :=
        readsAlike_of_guards h.2
      simp only [Server.collectionAnswers, hview.aggregateAnswers,
        server.admittedRows_alike catalog h.1]
  | .mk source (.rows items) =>
      simp only [collectionUncaptured, CollectionSource.isUncaptured,
        hlength, Bool.and_eq_true] at h
      obtain ⟨⟨hconditions, hguards⟩, hitems⟩ := h
      have hview : server.ReadsAlike env
          (readableView catalog ⟨⟨path⟩, env.length⟩ source.fieldFilters) :=
        readsAlike_of_guards hguards
      have hrelated (row : Row S) :=
        @relatedAnswers_alike items
          ((⟨⟨path⟩, env.length⟩, row) :: env) path
          (readableView catalog ⟨⟨path⟩, env.length⟩ source.fieldFilters)
          (position.root.getD (readableView catalog ⟨⟨path⟩, env.length⟩
            source.fieldFilters)) [] hitems
      simp only [Server.collectionAnswers, hview.rowAnswers,
        server.admittedRows_alike catalog hconditions, hrelated]

theorem relatedAnswers_alike
    (items : List SelectionPlanItem)
    {env : Env S}
    (path : List AliasSegment)
    (view root : Dsql.SqlRowView)
    (before : List SelectionPlanItem)
    (h : relatedUncaptured catalog env.sources path view root before items =
      true) :
    server.relatedAnswers innermost catalog options env path view root before
        items =
      server.relatedAnswers intended catalog options env path view root
        before items := by
  match items with
  | [] => simp only [Server.relatedAnswers]
  | .projection projection :: items =>
      simp only [relatedUncaptured] at h
      simp only [Server.relatedAnswers]
      exact relatedAnswers_alike items path view root _ h
  | .relation outputName flattened relationId collection :: items =>
      simp only [relatedUncaptured, Bool.and_eq_true] at h
      simp only [Server.relatedAnswers]
      cases hrelation : catalog.relationById relationId with
      | none => rfl
      | some relation =>
          simp only [hrelation] at h
          simp only [collectionAnswers_alike collection _ _ none flattened
              h.1,
            relatedAnswers_alike items path view root _ h.2]

end

/-- A plan without captured references answers alike under both rules. -/
theorem planAnswers_alike
    {plan : QueryPlan}
    (h : plan.isUncaptured catalog = true) :
    server.planAnswers innermost catalog options plan =
      server.planAnswers intended catalog options plan := by
  have hroots : ∀ root ∈ plan.roots,
      server.rootAnswers innermost catalog options root =
        server.rootAnswers intended catalog options root := by
    intro root hroot
    have hcollection := List.all_eq_true.mp h root hroot
    unfold Server.rootAnswers
    rw [@collectionAnswers_alike S _ server catalog options root.collection
      [] _ .top _ _ hcollection]
  unfold Server.planAnswers
  split
  · next root heq =>
      exact hroots root (by rw [heq]; exact List.mem_singleton_self root)
  · refine congrArg crossRows (List.map_congr_left (fun root hroot => ?_))
    rw [hroots root hroot]

end Collections

end Server

end Postgres

end Dsql
