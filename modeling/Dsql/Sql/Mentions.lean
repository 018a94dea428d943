import Dsql.Sql.Statements

/-!
# The parameters that a plan mentions

What the rendering of a plan does with parameters, read off the plan: which
ones it requests, in what order, and which ones it leaves in the statement or
in the texts of a dynamic input site.  Three renderings are dropped: the
operand of a membership in an empty list, a dynamic field without operators or
directions, and the operand of an `exists` aggregate.
-/

namespace Dsql

namespace Postgres

open Results

/-- The paths that a rendering requests, in order, and where it leaves them. -/
structure Mentions where
  requested : List InputPath
  /-- Left in the text of a site. -/
  sited : List InputPath
  /-- Left in the rendered expression. -/
  placed : List InputPath

namespace Mentions

/-- Nothing is requested. -/
def empty : Mentions := ⟨[], [], []⟩

/-- A parameter is requested and left in the expression. -/
def parameter (parameter : SqlParameter) : Mentions :=
  ⟨[parameter.path], [], [parameter.path]⟩

instance : Append Mentions where
  append first second :=
    { requested := first.requested ++ second.requested
      sited := first.sited ++ second.sited
      placed := first.placed ++ second.placed }

/-- The mentions of parts, one after the other. -/
def concat (mentions : List Mentions) : Mentions :=
  mentions.foldr (· ++ ·) .empty

/-- The rendered expression is dropped. -/
def dropped (mentions : Mentions) : Mentions :=
  { mentions with placed := [] }

/-- The rendered expression becomes a text of a site, if any. -/
def inSite (mentions : Mentions) (texts : Bool) : Mentions :=
  { requested := mentions.requested
    sited := mentions.sited ++ if texts then mentions.placed else []
    placed := [] }

section

variable (first second : Mentions)

@[simp] theorem requested_append :
    (first ++ second).requested = first.requested ++ second.requested := rfl

@[simp] theorem sited_append :
    (first ++ second).sited = first.sited ++ second.sited := rfl

@[simp] theorem placed_append :
    (first ++ second).placed = first.placed ++ second.placed := rfl

@[simp] theorem append_empty : first ++ empty = first := by
  show Mentions.mk _ _ _ = first
  simp only [empty, List.append_nil]

@[simp] theorem empty_append : empty ++ first = first := rfl

end

section

variable (mentions : List Mentions)

theorem concat_map_empty {ι : Type} (items : List ι) :
    concat (items.map (fun _ => empty)) = empty := by
  induction items with
  | nil => rfl
  | cons item items ih => exact ih

@[simp] theorem requested_concat :
    (concat mentions).requested = mentions.flatMap requested := by
  induction mentions with
  | nil => rfl
  | cons first mentions ih => exact congrArg (first.requested ++ ·) ih

@[simp] theorem sited_concat :
    (concat mentions).sited = mentions.flatMap sited := by
  induction mentions with
  | nil => rfl
  | cons first mentions ih => exact congrArg (first.sited ++ ·) ih

@[simp] theorem placed_concat :
    (concat mentions).placed = mentions.flatMap placed := by
  induction mentions with
  | nil => rfl
  | cons first mentions ih => exact congrArg (first.placed ++ ·) ih

end

end Mentions

/-- What the guards of a row source mention. -/
abbrev MentionedView : Type := PolicyFieldTarget → Mentions

/-- A view without guards. -/
def MentionedView.raw : MentionedView := fun _ => .empty

/-- What the guards of the rows in scope mention. -/
structure MentionedScope where
  current : MentionedView
  root : MentionedView
  predicateSource : MentionedView
  parent : Option MentionedView

namespace MentionedScope

/-- A scope without guards. -/
def raw : MentionedScope := ⟨.raw, .raw, .raw, none⟩

/-- The view that a column is read through. -/
def columnSource
    (scope : MentionedScope) : FilterColumnScope → MentionedView
  | .current => scope.current
  | .root => scope.root
  | .predicateSource => scope.predicateSource
  | .parent => scope.parent.getD scope.current

/-- The scope of the body of an `exists`. -/
def body
    (scope : MentionedScope)
    (kind : ExistsKind)
    (view source : MentionedView) : MentionedScope :=
  match kind with
  | .explicit => ⟨view, scope.root, view, some source⟩
  | .relationshipPredicate =>
      ⟨view, scope.root, scope.predicateSource, scope.parent⟩

end MentionedScope

/-- A field of a predicate site; its guard is left in the texts. -/
def predicateFieldMentions
    (view : MentionedView)
    (field : DynamicInputFieldPlan) : Mentions :=
  (view (.column field.column)).inSite !field.operators.isEmpty

/-- A field of an order site; its guard is left in the texts. -/
def orderFieldMentions
    (view : MentionedView)
    (field : DynamicInputFieldPlan) : Mentions :=
  (view (.column field.column)).inSite !field.directions.isEmpty

/-- An aggregate mentions the guard of its operand. -/
def aggregateMentions
    (view : MentionedView)
    (function : AggregateFunction)
    (operand : Option ColumnId) : Mentions :=
  match operand with
  | none => .empty
  | some column =>
      if function = .exists then
        (view (.column column)).dropped
      else
        view (.column column)

/-- A relation mentions its guard. -/
def relationMentions (view : MentionedView) : Option RelationId → Mentions
  | none => .empty
  | some relation => view (.relation relation)

mutual

/-- The mentions of a filter, in the order of its rendering. -/
@[grind =]
def filterMentions (scope : MentionedScope) : FilterExpr → Mentions
  | .absent | .literal _ => .empty
  | .optional parameter operand =>
      filterMentions scope operand ++ .parameter parameter
  | .column columnScope column =>
      scope.columnSource columnScope (.column column)
  | .parameter parameter => .parameter parameter
  | .dynamicPredicate _ _ fields =>
      .concat (fields.map (predicateFieldMentions scope.current))
  | .binary left _ right | .variantBinary left _ _ right =>
      filterMentions scope left ++ filterMentions scope right
  | .not operand | .nullTest operand _ => filterMentions scope operand
  | .membership operand (.list items) _ =>
      (if items.isEmpty then (filterMentions scope operand).dropped
        else filterMentions scope operand) ++ itemMentions scope items
  | .membership operand (.parameter parameter) _ =>
      filterMentions scope operand ++ .parameter parameter
  | .exists relation _ kind sourceScope policyFilter fieldFilters filter =>
      let source := scope.columnSource sourceScope
      let view := fieldMentions fieldFilters
      relationMentions source relation ++
        optionalMentions .raw policyFilter ++
        optionalMentions (scope.body kind view source) filter
  | .relationAggregate relation _ function operand policyFilter
      fieldFilters =>
      scope.current (.relation relation) ++
        optionalMentions .raw policyFilter ++
        (if function = .exists then .empty
          else aggregateMentions (fieldMentions fieldFilters) function operand)

/-- The mentions of the items of a list. -/
@[grind =]
def itemMentions (scope : MentionedScope) : List FilterExpr → Mentions
  | [] => .empty
  | item :: items => filterMentions scope item ++ itemMentions scope items

/-- The mentions of a filter that may be missing. -/
@[grind =]
def optionalMentions (scope : MentionedScope) : Option FilterExpr → Mentions
  | none => .empty
  | some filter => filterMentions scope filter

/-- What the guard of a field mentions, with the guards of a row source. -/
@[grind =]
def fieldMentions :
    List (PolicyFieldFilter FilterExpr) → MentionedView
  | [] => .raw
  | ⟨target, filter, _⟩ :: fields => fun field =>
      if target == field then filterMentions .raw filter
      else fieldMentions fields field

end

/-! ## Collections -/

/-- The mention of a limit or an offset. -/
def valueMentions : Option SqlValue → Mentions
  | some (.parameter parameter) => .parameter parameter
  | _ => .empty

/-- The mentions of one order. -/
def orderMentions (view : MentionedView) : OrderByPlan → Mentions
  | .column column _ => view (.column column)
  | .dynamic _ _ fields => .concat (fields.map (orderFieldMentions view))

/-- The mentions of the order clauses. -/
def ordersMentions
    (view : MentionedView)
    (clauses : SelectionClauses) : Mentions :=
  .concat (clauses.orderBy.map (orderMentions view))

/-- The mentions of the clauses that follow the filter. -/
def boundMentions
    (view : MentionedView)
    (clauses : SelectionClauses) : Mentions :=
  ordersMentions view clauses ++ valueMentions clauses.limit ++
    valueMentions clauses.offset

/-- Where a collection stands. -/
structure MentionedContext where
  parent : Option (MentionedView × RelationId)
  root : Option MentionedView
  flattened : Bool

/-- A child mentions the guard of the relation that leads to it. -/
def parentMentions (context : MentionedContext) : Mentions :=
  match context.parent with
  | none => .empty
  | some (parent, relation) => parent (.relation relation)

/-- The mentions of the joined conditions of a collection. -/
def collectionFilterMentions
    (source : CollectionSource)
    (view root : MentionedView)
    (context : MentionedContext) : Mentions :=
  parentMentions context ++ optionalMentions .raw source.policyFilter ++
    optionalMentions ⟨view, root, view, context.parent.map Prod.fst⟩
      source.clauses.filter

/-- The mentions of the group keys of an aggregate. -/
def groupMentions
    (view : MentionedView)
    (aggregate : AggregatePlan) : Mentions :=
  match aggregate.mode with
  | .grouped =>
      .concat (aggregate.groupKeys.map (fun key => view (.column key.column)))
  | .ungrouped => .empty

/-- The mentions of an aggregate under its output name. -/
def aggregateFieldMentions
    (view : MentionedView)
    (field : AggregateProjection) : Mentions :=
  aggregateMentions view field.function field.operand

/-- The mentions of the projected columns. -/
def projectionMentions (view : MentionedView) :
    List SelectionPlanItem → Mentions
  | [] => .empty
  | .projection projection :: items =>
      view (.column projection.column) ++ projectionMentions view items
  | .relation .. :: items => projectionMentions view items

/-- An array is ordered once more. -/
def outputMentions
    (source : CollectionSource)
    (view : MentionedView)
    (context : MentionedContext) : Mentions :=
  if context.flattened ∨ source.shape.cardinality = .atMostOne then
    .empty
  else
    ordersMentions view source.clauses

mutual

/-- The mentions of a collection, with its children. -/
@[grind =]
def collectionMentions (context : MentionedContext) :
    CollectionPlan → Mentions
  | .mk source (.aggregate aggregate) =>
      let view := fieldMentions source.fieldFilters
      collectionFilterMentions source view (context.root.getD view) context ++
        groupMentions view aggregate ++
        .concat (aggregate.fields.map (aggregateFieldMentions view))
  | .mk source (.rows items) =>
      let view := fieldMentions source.fieldFilters
      let root := context.root.getD view
      collectionFilterMentions source view root context ++
        boundMentions view source.clauses ++ childMentions view root items ++
        projectionMentions view items ++ outputMentions source view context

/-- The mentions of the related collections, in order. -/
@[grind =]
def childMentions (view root : MentionedView) :
    List SelectionPlanItem → Mentions
  | [] => .empty
  | .projection _ :: items => childMentions view root items
  | .relation _ flattened relation collection :: items =>
      collectionMentions ⟨some (view, relation), some root, flattened⟩
        collection ++ childMentions view root items

end

/-- The mentions of a root. -/
def rootMentions (plan : QueryRootPlan) : Mentions :=
  collectionMentions ⟨none, none, plan.flattened⟩ plan.collection

/-- The mentions of a query. -/
def planMentions (plan : QueryPlan) : Mentions :=
  .concat (plan.roots.map rootMentions)

end Postgres

end Dsql
