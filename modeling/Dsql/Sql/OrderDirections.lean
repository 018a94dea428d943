import Dsql.Logic.Fallible
import Dsql.Sql.Statements

/-!
# Replaced directions

Where one order of a column has a direction that an input selects, every
ascending order of that column gets the direction in the text of the
statement.  A plan that orders by no column in two directions keeps the
directions that it names.
-/

namespace Dsql

namespace Postgres

/-! ## Orders of statements -/

namespace Sql

theorem ordersOfAll_eq (parts : List Sql) :
    ordersOfAll parts = parts.flatMap orders := by
  induction parts with
  | nil => rfl
  | cons part parts ih =>
      rw [ordersOfAll, ih]
      rfl

section Within

variable {allowed : ColumnOrder → Prop}

/-- Every column order that is written is an allowed one. -/
def OrdersWithin (allowed : ColumnOrder → Prop) (sql : Sql) : Prop :=
  ∀ order ∈ sql.orders, allowed order

/-- A construct adds at most one order to those of its parts. -/
@[simp] theorem ordersWithin_node
    (construct : SqlConstruct)
    (parts : List Sql) :
    (node construct parts).OrdersWithin allowed ↔
      (∀ order ∈ columnOrder construct parts, allowed order) ∧
        ∀ part ∈ parts, part.OrdersWithin allowed := by
  unfold OrdersWithin
  rw [orders, ordersOfAll_eq]
  simp only [List.mem_append, Option.mem_toList, List.mem_flatMap]
  constructor
  · intro h
    exact ⟨fun order horder => h order (.inl horder),
      fun part hpart order horder => h order (.inr ⟨part, hpart, horder⟩)⟩
  · rintro ⟨hown, hparts⟩ order (horder | ⟨part, hpart, horder⟩)
    · exact hown order horder
    · exact hparts part hpart order horder

@[simp] theorem ordersWithin_placeholder
    (number : Nat)
    (textCast : Option TypeKey)
    (collection : Bool) :
    (placeholder number textCast collection).OrdersWithin allowed := by
  unfold OrdersWithin
  rw [orders]
  simp

end Within

section Replacements

variable {replacements : List OrderReplacement}

/-- An order of another direction than its replacements has none of them. -/
def Settled (replacements : List OrderReplacement) (order : ColumnOrder) :
    Prop :=
  ∀ replacement ∈ replacements, replacement.applies order = true →
    order.path = some replacement.path

/-- An order that no replacement finds keeps its direction. -/
theorem replacedConstruct_eq_self
    {construct : SqlConstruct}
    {parts : List Sql}
    (h : ∀ order ∈ columnOrder construct parts,
      Settled replacements order) :
    replacedConstruct replacements construct parts = construct := by
  unfold replacedConstruct
  cases horder : columnOrder construct parts with
  | none => rfl
  | some order =>
      rw [Option.bind_some]
      cases hfound : replacements.find? (·.applies order) with
      | none => rfl
      | some replacement =>
          have happlies : replacement.applies order = true := by
            simpa using List.find?_some hfound
          have hpath := h order horder replacement
            (List.mem_of_find?_eq_some hfound) happlies
          unfold columnOrder at horder
          split at horder
          · cases horder
            cases hpath
          · cases horder
            cases hpath
            rfl
          · cases horder

mutual

/-- Settled directions stay. -/
theorem replaceDirections_eq_self
    (sql : Sql)
    (h : sql.OrdersWithin (Settled replacements)) :
    sql.replaceDirections replacements = sql := by
  match sql with
  | .placeholder number textCast collection => rw [replaceDirections]
  | .node construct parts =>
      rw [ordersWithin_node] at h
      rw [replaceDirections, replacedConstruct_eq_self h.1,
        replaceAllDirections_eq_self parts h.2]

/-- Parts without orders to replace stay as they are. -/
theorem replaceAllDirections_eq_self
    (parts : List Sql)
    (h : ∀ part ∈ parts, part.OrdersWithin (Settled replacements)) :
    replaceAllDirections replacements parts = parts := by
  match parts with
  | [] => rw [replaceAllDirections]
  | part :: parts =>
      rw [replaceAllDirections,
        replaceDirections_eq_self part (h part List.mem_cons_self),
        replaceAllDirections_eq_self parts (fun other hother =>
          h other (List.mem_cons_of_mem part hother))]

end

end Replacements

end Sql

/-! ## Renderings -/

def OrderReplacement.order (replacement : OrderReplacement) : ColumnOrder :=
  ⟨replacement.source, replacement.column, some replacement.path⟩

section Rules

variable {α β : Type} (allowed : ColumnOrder → Prop)

/-- A rendering that registers replacements for allowed orders only and whose
value has a property. -/
def Confined (rendering : Rendering α) (property : α → Prop) : Prop :=
  ∀ before value after, rendering before = .ok (value, after) →
    (∀ replacement ∈ after.replacements,
      replacement ∈ before.replacements ∨ allowed replacement.order) ∧
      property value

variable {allowed} {property : α → Prop} {property' : β → Prop}

theorem Confined.pure {value : α} (h : property value) :
    Confined allowed (pure value) property := by
  intro before found after hrun
  cases hrun
  exact ⟨fun _ => .inl, h⟩

theorem Confined.throw (error : SqlGenerationError) :
    Confined allowed (throw error) property := by
  intro before value after hrun
  cases hrun

/-- One rendering after the other. -/
theorem Confined.bind
    {first : Rendering α}
    {second : α → Rendering β}
    (hfirst : Confined allowed first property)
    (hsecond : ∀ value, property value →
      Confined allowed (second value) property') :
    Confined allowed (first >>= second) property' := by
  intro before result after hrun
  have hsteps : (first before >>= fun found => second found.1 found.2) =
      .ok (result, after) := hrun
  obtain ⟨⟨value, middle⟩, hmiddle, hlast⟩ := except_bind_ok hsteps
  obtain ⟨hregistered, hvalue⟩ := hfirst before value middle hmiddle
  obtain ⟨hothers, hresult⟩ := hsecond value hvalue middle result after hlast
  refine ⟨fun replacement hreplacement => ?_, hresult⟩
  rcases hothers replacement hreplacement with hearlier | hallowed
  · exact hregistered replacement hearlier
  · exact .inr hallowed

/-- A rendering whose result is put into a construct. -/
theorem Confined.map
    {rendering : Rendering α}
    {f : α → β}
    (h : Confined allowed rendering property)
    (hvalue : ∀ value, property value → property' (f value)) :
    Confined allowed (rendering >>= fun value => Pure.pure (f value))
      property' :=
  h.bind fun value hproperty => .pure (hvalue value hproperty)

theorem Confined.imp
    {rendering : Rendering α}
    {property'' : α → Prop}
    (h : Confined allowed rendering property)
    (himp : ∀ value, property value → property'' value) :
    Confined allowed rendering property'' := by
  intro before value after hrun
  obtain ⟨hregistered, hvalue⟩ := h before value after hrun
  exact ⟨hregistered, himp value hvalue⟩

/-- Renderings of items, one after the other. -/
theorem Confined.mapM
    {ι : Type}
    {render : ι → Rendering α}
    (items : List ι)
    (h : ∀ item ∈ items, Confined allowed (render item) property) :
    Confined allowed (items.mapM render)
      (fun values => ∀ value ∈ values, property value) := by
  induction items with
  | nil => exact Confined.pure (List.forall_mem_nil _)
  | cons item items ih =>
      rw [List.mapM_cons]
      refine (h item List.mem_cons_self).bind fun value hvalue => ?_
      refine Confined.map (ih (fun other hother =>
        h other (List.mem_cons_of_mem item hother))) ?_
      intro values hvalues
      exact List.forall_mem_cons.mpr ⟨hvalue, hvalues⟩

/-- A step that registers no replacement. -/
theorem Confined.of_frame
    {rendering : Rendering α}
    (h : ∀ before value after, rendering before = .ok (value, after) →
      after.replacements = before.replacements ∧ property value) :
    Confined allowed rendering property := by
  intro before value after hrun
  obtain ⟨hframe, hvalue⟩ := h before value after hrun
  refine ⟨fun replacement hreplacement => .inl ?_, hvalue⟩
  rwa [hframe] at hreplacement

end Rules

/-! ## Steps -/

section Steps

variable {allowed : ColumnOrder → Prop} (catalog : Catalog)

theorem table_confined (id : TableId) :
    Confined allowed (table catalog id) (fun table => table.id = id) := by
  unfold table
  cases hfound : catalog.tableById id with
  | none => exact Confined.throw _
  | some table => exact Confined.pure (Catalog.tableById_id hfound)

/-- A column that is found has its id. -/
theorem column_confined (id : ColumnId) :
    Confined allowed (column catalog id) (fun column => column.id = id) := by
  unfold column
  cases hfound : catalog.columnById id with
  | none => exact Confined.throw _
  | some column => exact Confined.pure (Catalog.columnById_id hfound)

theorem catalogRelation_confined (id : RelationId) :
    Confined allowed (catalogRelation catalog id) (fun _ => True) := by
  unfold catalogRelation
  cases catalog.relationById id with
  | none => exact Confined.throw _
  | some relation => exact Confined.pure trivial

/-- A parameter orders nothing. -/
theorem parameter_confined (parameter : SqlParameter) :
    Confined allowed (SqlTemplateContext.parameter parameter)
      (Sql.OrdersWithin allowed) := by
  refine Confined.of_frame fun before value after hrun => ?_
  cases hrun
  exact ⟨rfl, Sql.ordersWithin_placeholder _ _ _⟩

theorem requirePolicyContext_confined
    (requirements : List PolicyContextRequirement) :
    Confined allowed (SqlTemplateContext.requirePolicyContext requirements)
      (fun _ => True) := by
  refine Confined.of_frame fun before value after hrun => ?_
  cases hrun
  exact ⟨rfl, trivial⟩

theorem variantWithNull_confined
    (path : InputPath)
    (cases : List SqlVariantCase)
    (nullText : Option String) :
    Confined allowed (SqlTemplateContext.variantWithNull path cases nullText)
      (fun _ => True) := by
  refine Confined.of_frame fun before value after hrun => ⟨?_, trivial⟩
  obtain rfl : (if before.variants.any (fun variant => variant.path == path)
      then before
      else { before with
        variants := before.variants ++ [⟨path, cases, nullText⟩] }) = after :=
    congrArg Prod.snd (Except.ok.inj hrun)
  split
  · rfl
  · rfl

/-- The replacement of an allowed order is registered. -/
theorem replaceOrderDirection_confined
    {source : Alias}
    {column : ColumnId}
    {path : InputPath}
    (h : allowed ⟨source, column, some path⟩)
    (cases : List SqlVariantCase) :
    Confined allowed
      (SqlTemplateContext.replaceOrderDirection source column path cases)
      (fun _ => True) := by
  refine Confined.bind (variantWithNull_confined path cases none) ?_
  intro _ _ before value after hrun
  cases hrun
  refine ⟨fun replacement hreplacement => ?_, trivial⟩
  rcases List.mem_append.mp hreplacement with hearlier | hlast
  · exact .inl hearlier
  · obtain rfl := List.mem_singleton.mp hlast
    exact .inr h

/-- A site leaves a marker without orders. -/
theorem dynamicSite_confined
    (path : InputPath)
    (kind : DynamicInputKind)
    (fields : List GeneratedDynamicInputSiteField) :
    Confined allowed (SqlTemplateContext.dynamicSite path kind fields)
      (fun sql => ∃ index, sql = .node (.marker index) []) := by
  refine Confined.of_frame fun before value after hrun => ?_
  cases hrun
  exact ⟨rfl, _, rfl⟩

end Steps

/-! ## Columns -/

section Columns

variable {allowed : ColumnOrder → Prop} (catalog : Catalog)

/-- The guards of a row source are confined. -/
def SqlRowView.Confined
    (allowed : ColumnOrder → Prop)
    (view : SqlRowView) : Prop :=
  ∀ guard ∈ view.guards,
    Postgres.Confined allowed guard.2 (Sql.OrdersWithin allowed)

theorem SqlRowView.raw_confined (context : Alias) :
    (SqlRowView.raw context).Confined allowed := nofun

/-- The guards of a confined view are confined. -/
theorem SqlRowView.Confined.guard
    {view : SqlRowView}
    (h : view.Confined allowed)
    {target : PolicyFieldTarget}
    {guard : Rendering Sql}
    (hguard : view.policyFieldFilter target = some guard) :
    Postgres.Confined allowed guard (Sql.OrdersWithin allowed) := by
  obtain ⟨entry, hentry, rfl⟩ := Option.map_eq_some_iff.mp hguard
  exact h entry (List.mem_of_find?_eq_some hentry)

variable {view : SqlRowView}

theorem rawColumn_confined (columnId : ColumnId) :
    Confined allowed (rawColumn catalog view columnId)
      (fun sql => sql = .node (.column view.context columnId) []) := by
  unfold rawColumn
  refine (column_confined catalog columnId).map ?_
  intro column hcolumn
  rw [hcolumn]

/-- A column reference under its guard, or the column itself. -/
def ReadsColumn
    (allowed : ColumnOrder → Prop)
    (source : Alias)
    (column : ColumnId)
    (sql : Sql) : Prop :=
  sql = .node (.column source column) [] ∨
    ∃ guard value, sql = .node .caseWhen [guard, value] ∧
      guard.OrdersWithin allowed ∧ value.OrdersWithin allowed

/-- A column, masked or not, is read within the allowed orders. -/
theorem ReadsColumn.within
    {source : Alias}
    {column : ColumnId}
    {sql : Sql}
    (h : ReadsColumn allowed source column sql) :
    sql.OrdersWithin allowed := by
  obtain rfl | ⟨guard, value, rfl, hguard, hvalue⟩ := h
  · simp [Sql.columnOrder]
  · simp [Sql.columnOrder, hguard, hvalue]

/-- A masked column reads its column. -/
theorem maskedColumnExpression_confined
    (h : view.Confined allowed)
    (columnId : ColumnId) :
    Confined allowed (maskedColumnExpression catalog view columnId)
      (ReadsColumn allowed view.context columnId) := by
  unfold maskedColumnExpression
  refine (rawColumn_confined catalog columnId).bind fun raw hraw => ?_
  cases hguard : view.policyFieldFilter (.column columnId) with
  | none => exact Confined.pure (.inl hraw)
  | some guard =>
      refine (h.guard hguard).map ?_
      intro rendered hrendered
      refine .inr ⟨rendered, raw, rfl, hrendered, ?_⟩
      exact ReadsColumn.within (.inl hraw)

theorem generatedDynamicPredicateField_confined
    (h : view.Confined allowed)
    (field : DynamicInputFieldPlan) :
    Confined allowed (generatedDynamicPredicateField catalog view field)
      (fun _ => True) :=
  (maskedColumnExpression_confined catalog h field.column).map
    (fun _ _ => trivial)

theorem generatedDynamicOrderField_confined
    (h : view.Confined allowed)
    (field : DynamicInputFieldPlan) :
    Confined allowed (generatedDynamicOrderField catalog view field)
      (fun _ => True) :=
  (maskedColumnExpression_confined catalog h field.column).map
    (fun _ _ => trivial)

/-- Aggregates order nothing of their own. -/
theorem aggregateValueExpression_confined
    (h : view.Confined allowed)
    (function : AggregateFunction)
    (operand : Option ColumnId) :
    Confined allowed (aggregateValueExpression catalog view function operand)
      (Sql.OrdersWithin allowed) := by
  have hoperand : Confined allowed
      (operand.mapM (maskedColumnExpression catalog view))
      (fun value => ∀ sql ∈ value, sql.OrdersWithin allowed) := by
    cases operand with
    | none => exact Confined.pure nofun
    | some columnId =>
        refine (maskedColumnExpression_confined catalog h columnId).map ?_
        rintro sql hsql _ ⟨⟩
        exact hsql.within
  unfold aggregateValueExpression
  refine hoperand.bind fun value hvalue => ?_
  split
  next => exact Confined.pure (by simp [Sql.columnOrder])
  next operand =>
    have hoperand := hvalue operand rfl
    exact Confined.pure (by simp [Sql.columnOrder, hoperand])
  next => exact Confined.pure (by simp [Sql.columnOrder])
  next => exact Confined.throw _
  next operand _ _ =>
    have hoperand := hvalue operand rfl
    exact Confined.pure (by simp [Sql.columnOrder, hoperand])

theorem relationCondition_confined
    (parent child : Alias)
    (relation : Relation) :
    Confined allowed (relationCondition catalog parent child relation)
      (fun conditions => ∀ sql ∈ conditions, sql.OrdersWithin allowed) := by
  refine Confined.mapM _ fun columns _ => ?_
  refine (column_confined catalog columns.2).bind fun childColumn _ => ?_
  refine (column_confined catalog columns.1).map fun parentColumn _ => ?_
  simp [Sql.columnOrder]

theorem relationFilter_confined
    (h : view.Confined allowed)
    (relation : Relation) :
    Confined allowed (relationFilter view relation)
      (fun conditions => ∀ sql ∈ conditions, sql.OrdersWithin allowed) := by
  unfold relationFilter
  cases hguard : view.policyFieldFilter (.relation relation.id) with
  | none => exact Confined.pure (List.forall_mem_nil _)
  | some guard =>
      exact (h.guard hguard).map fun rendered hrendered =>
        List.forall_mem_singleton.mpr hrendered

/-- The conditions of a relation order nothing of their own. -/
theorem relationConditions_confined
    (h : view.Confined allowed)
    (child : Alias)
    (relationId : RelationId) :
    Confined allowed (relationConditions catalog view child relationId)
      (fun conditions => ∀ sql ∈ conditions, sql.OrdersWithin allowed) := by
  unfold relationConditions
  refine (catalogRelation_confined catalog relationId).bind
    fun relation _ => ?_
  refine (relationCondition_confined catalog view.context child
    relation).bind fun conditions hconditions => ?_
  refine (relationFilter_confined h relation).map fun guard hguard => ?_
  exact List.forall_mem_append.mpr ⟨hconditions, hguard⟩

theorem optionalRelationConditions_confined
    (h : view.Confined allowed)
    (child : Alias)
    (relation : Option RelationId) :
    Confined allowed (optionalRelationConditions catalog view child relation)
      (fun conditions => ∀ sql ∈ conditions, sql.OrdersWithin allowed) := by
  cases relation with
  | none => exact Confined.pure (List.forall_mem_nil _)
  | some relation => exact relationConditions_confined catalog h child relation

end Columns

/-! ## Filters -/

namespace ConditionalFilter

def OrdersWithin
    (allowed : ColumnOrder → Prop)
    (rendered : ConditionalFilter) : Prop :=
  (∀ sql ∈ rendered.present, sql.OrdersWithin allowed) ∧
    rendered.value.OrdersWithin allowed

variable {allowed : ColumnOrder → Prop}

theorem filterExpr_within
    {rendered : ConditionalFilter}
    (h : rendered.OrdersWithin allowed) :
    rendered.filterExpr.OrdersWithin allowed := by
  obtain ⟨present, value⟩ := rendered
  obtain ⟨hpresent, hvalue⟩ := h
  cases present with
  | none => exact hvalue
  | some present =>
      have hpresent := hpresent present rfl
      simp_all [filterExpr, valueOrAbsent, Sql.columnOrder]

/-- Connectives order nothing of their own. -/
theorem combine_within
    {left right : ConditionalFilter}
    (hleft : left.OrdersWithin allowed)
    (hright : right.OrdersWithin allowed)
    (and : Bool) : (left.combine and right).OrdersWithin allowed := by
  obtain ⟨leftPresent, leftValue⟩ := left
  obtain ⟨rightPresent, rightValue⟩ := right
  unfold OrdersWithin at *
  cases leftPresent <;> cases rightPresent <;> cases and <;>
    simp_all [combine, valueOrAbsent, valueIfPresent, Sql.columnOrder]

theorem always_within
    {value : Sql}
    (h : value.OrdersWithin allowed) :
    (ConditionalFilter.mk none value).OrdersWithin allowed :=
  ⟨nofun, h⟩

end ConditionalFilter

section Scopes

variable {allowed : ColumnOrder → Prop} (catalog : Catalog)
  {scope : FilterSqlScope}

structure FilterSqlScope.Confined
    (allowed : ColumnOrder → Prop)
    (scope : FilterSqlScope) : Prop where
  current : scope.current.Confined allowed
  root : scope.root.Confined allowed
  predicateSource : scope.predicateSource.Confined allowed
  parent : ∀ view ∈ scope.parent, view.Confined allowed

namespace FilterSqlScope.Confined

theorem raw (context : Alias) :
    (FilterSqlScope.raw context).Confined allowed where
  current := SqlRowView.raw_confined context
  root := SqlRowView.raw_confined context
  predicateSource := SqlRowView.raw_confined context
  parent := nofun

/-- Every view of a confined scope is confined. -/
theorem columnSource
    (h : scope.Confined allowed)
    (columnScope : FilterColumnScope) :
    (scope.filterColumnSource columnScope).Confined allowed := by
  cases columnScope with
  | current => exact h.current
  | root => exact h.root
  | predicateSource => exact h.predicateSource
  | parent =>
      unfold FilterSqlScope.filterColumnSource
      cases hparent : scope.parent with
      | none => exact h.current
      | some view => exact h.parent view hparent

/-- The scope of an `exists` is confined with its rows. -/
theorem body
    (h : scope.Confined allowed)
    (kind : ExistsKind)
    {view source : SqlRowView}
    (hview : view.Confined allowed)
    (hsource : source.Confined allowed) :
    (bodyScope scope kind view source).Confined allowed := by
  cases kind with
  | explicit =>
      refine ⟨hview, h.root, hview, ?_⟩
      rintro _ ⟨⟩
      exact hsource
  | relationshipPredicate => exact ⟨hview, h.root, h.predicateSource, h.parent⟩

end FilterSqlScope.Confined

/-- Null tests order nothing of their own. -/
theorem nullTestExpr_confined
    (h : scope.Confined allowed)
    (operand : FilterExpr)
    {rendered : Rendering Sql}
    (hrendered : Confined allowed rendered (Sql.OrdersWithin allowed))
    (negated : Bool) :
    Confined allowed (nullTestExpr catalog scope operand rendered negated)
      (Sql.OrdersWithin allowed) := by
  unfold nullTestExpr
  split
  next columnScope columnId =>
    refine (rawColumn_confined catalog columnId).bind fun raw hraw => ?_
    obtain rfl := hraw
    cases hguard :
        (scope.filterColumnSource columnScope).policyFieldFilter
          (.column columnId) with
    | none => exact Confined.pure (by simp [Sql.columnOrder])
    | some guard =>
        refine ((h.columnSource columnScope).guard hguard).map ?_
        intro rendered hguarded
        simp [Sql.columnOrder, hguarded]
  next =>
    refine hrendered.map fun operand hoperand => ?_
    simp [Sql.columnOrder, hoperand]

/-- Comparisons order nothing of their own. -/
theorem comparisonExpr_confined
    (h : scope.Confined allowed)
    (left : FilterExpr)
    (op : FilterOp)
    (right : FilterExpr)
    {renderedLeft renderedRight : Rendering Sql}
    (hleft : Confined allowed renderedLeft (Sql.OrdersWithin allowed))
    (hright : Confined allowed renderedRight (Sql.OrdersWithin allowed)) :
    Confined allowed
      (comparisonExpr catalog scope left op right renderedLeft renderedRight)
      (Sql.OrdersWithin allowed) := by
  unfold comparisonExpr
  split
  next => exact nullTestExpr_confined catalog h left hleft _
  next => exact nullTestExpr_confined catalog h right hright _
  next =>
    refine hleft.bind fun left hleft => hright.map fun right hright => ?_
    simp [Sql.columnOrder, hleft, hright]

/-- Comparisons by variants order nothing of their own. -/
theorem variantExpr_confined
    (left : FilterExpr)
    (path : InputPath)
    (variants : List SqlVariantCase)
    (right : FilterExpr)
    {renderedLeft renderedRight : Rendering Sql}
    (hleft : Confined allowed renderedLeft (Sql.OrdersWithin allowed))
    (hright : Confined allowed renderedRight (Sql.OrdersWithin allowed)) :
    Confined allowed
      (variantExpr left path variants right renderedLeft renderedRight)
      (Sql.OrdersWithin allowed) := by
  unfold variantExpr
  refine Confined.bind (variantWithNull_confined path variants none) ?_
  intro _ _
  split
  next =>
    exact hleft.map fun left hleft => by simp [Sql.columnOrder, hleft]
  next =>
    exact hright.map fun right hright => by simp [Sql.columnOrder, hright]
  next =>
    refine hleft.bind fun left hleft => hright.map fun right hright => ?_
    simp [Sql.columnOrder, hleft, hright]

/-- Memberships order nothing of their own. -/
theorem memberListExpr_within
    {operand : Sql}
    {items : List Sql}
    (hoperand : operand.OrdersWithin allowed)
    (hitems : ∀ item ∈ items, item.OrdersWithin allowed)
    (negated : Bool) :
    (memberListExpr operand items negated).OrdersWithin allowed := by
  unfold memberListExpr
  split
  next => simp [Sql.columnOrder]
  next => simpa [Sql.columnOrder, hoperand] using hitems

/-- A query over related rows orders nothing of its own. -/
theorem relatedQuery_within
    (context : Alias)
    (table : TableId)
    {output conditions : List Sql}
    (houtput : ∀ sql ∈ output, sql.OrdersWithin allowed)
    (hconditions : ∀ sql ∈ conditions, sql.OrdersWithin allowed) :
    (relatedQuery context table output conditions).OrdersWithin allowed := by
  unfold relatedQuery
  rw [Sql.ordersWithin_node, List.forall_mem_append, List.forall_mem_cons,
    List.forall_mem_map]
  refine ⟨by simp [Sql.columnOrder], houtput, by simp [Sql.columnOrder], ?_⟩
  intro condition hcondition
  simp [Sql.columnOrder, hconditions condition hcondition]

end Scopes

section Filters

variable (allowed : ColumnOrder → Prop) (catalog : Catalog)

/-- A filter is confined under every scope. -/
def FilterConfined (filter : FilterExpr) : Prop :=
  ∀ scope, FilterSqlScope.Confined allowed scope →
    Confined allowed (conditionalFilterExpr catalog scope filter)
      (ConditionalFilter.OrdersWithin allowed)

variable {allowed catalog} {scope : FilterSqlScope}

theorem Confined.filterExpr
    {rendering : Rendering ConditionalFilter}
    (h : Confined allowed rendering (ConditionalFilter.OrdersWithin allowed)) :
    Confined allowed (ConditionalFilter.filterExpr <$> rendering)
      (Sql.OrdersWithin allowed) := by
  rw [map_eq_pure_bind]
  exact h.map fun _ => ConditionalFilter.filterExpr_within

/-- A value without a presence. -/
theorem Confined.always
    {rendering : Rendering Sql}
    (h : Confined allowed rendering (Sql.OrdersWithin allowed)) :
    Confined allowed
      (rendering >>= fun value => Pure.pure (ConditionalFilter.mk none value))
      (ConditionalFilter.OrdersWithin allowed) :=
  h.map fun _ => ConditionalFilter.always_within

/-- The items of a list, one by one. -/
theorem filterItems_confined
    (hscope : scope.Confined allowed)
    (items : List FilterExpr)
    (h : ∀ item ∈ items, FilterConfined allowed catalog item) :
    Confined allowed (filterItems catalog scope items)
      (fun items => ∀ item ∈ items, item.OrdersWithin allowed) := by
  induction items with
  | nil =>
      rw [filterItems]
      exact Confined.pure (List.forall_mem_nil _)
  | cons item items ih =>
      rw [filterItems]
      have hhead := h item List.mem_cons_self scope hscope
      have htail := ih (fun other hother =>
        h other (List.mem_cons_of_mem item hother))
      refine hhead.bind fun rendered hrendered => htail.map ?_
      intro others hothers
      exact List.forall_mem_cons.mpr
        ⟨ConditionalFilter.filterExpr_within hrendered, hothers⟩

/-- A body that may be missing. -/
theorem optionalFilter_confined
    (hscope : scope.Confined allowed)
    (filter : Option FilterExpr)
    (h : ∀ body ∈ filter, FilterConfined allowed catalog body) :
    Confined allowed (optionalFilter catalog scope filter)
      (fun conditions => ∀ sql ∈ conditions, sql.OrdersWithin allowed) := by
  cases filter with
  | none =>
      rw [optionalFilter]
      exact Confined.pure (List.forall_mem_nil _)
  | some filter =>
      rw [optionalFilter]
      refine (h filter rfl scope hscope).map fun rendered hrendered => ?_
      exact List.forall_mem_singleton.mpr
        (ConditionalFilter.filterExpr_within hrendered)

/-- The guards of a source are confined with their filters. -/
theorem fieldGuards_confined
    (context : Alias)
    (fields : List (PolicyFieldFilter FilterExpr))
    (h : ∀ field ∈ fields, FilterConfined allowed catalog field.filter) :
    (SqlRowView.mk context (fieldGuards catalog context fields)).Confined
      allowed := by
  induction fields with
  | nil =>
      rw [fieldGuards]
      exact SqlRowView.raw_confined context
  | cons field fields ih =>
      obtain ⟨target, filter, requirements⟩ := field
      have hguard := h ⟨target, filter, requirements⟩ List.mem_cons_self
        (.raw context) (.raw context)
      rw [fieldGuards]
      refine List.forall_mem_cons.mpr ⟨?_, ih (fun other hother =>
        h other (List.mem_cons_of_mem _ hother))⟩
      refine (requirePolicyContext_confined requirements).bind fun _ _ => ?_
      exact hguard.map fun _ => ConditionalFilter.filterExpr_within

/-- By induction over the filter, with its guards and bodies: filters write no
order. -/
theorem conditionalFilterExpr_confined
    (filter : FilterExpr) : FilterConfined allowed catalog filter := by
  induction filter with
  | absent =>
      intro scope hscope
      rw [conditionalFilterExpr]
      exact Confined.pure (by simp [ConditionalFilter.absent,
        ConditionalFilter.OrdersWithin, Sql.columnOrder])
  | optional parameter operand ih =>
      intro scope hscope
      rw [conditionalFilterExpr]
      refine (ih scope hscope).bind fun inner hinner => ?_
      refine (parameter_confined parameter).map fun placeholder hsql => ?_
      obtain ⟨present, value⟩ := inner
      obtain ⟨hpresent, hvalue⟩ := hinner
      cases present with
      | none =>
          simp_all [ConditionalFilter.optional,
            ConditionalFilter.OrdersWithin, Sql.columnOrder]
      | some present =>
          simp_all [ConditionalFilter.optional,
            ConditionalFilter.OrdersWithin, Sql.columnOrder]
  | column columnScope columnId =>
      intro scope hscope
      rw [conditionalFilterExpr]
      exact ((maskedColumnExpression_confined catalog
        (hscope.columnSource columnScope) columnId).imp
          fun _ => ReadsColumn.within).always
  | literal value =>
      intro scope hscope
      rw [conditionalFilterExpr]
      exact Confined.pure (by
        simp [ConditionalFilter.OrdersWithin, Sql.columnOrder])
  | parameter parameter =>
      intro scope hscope
      rw [conditionalFilterExpr]
      exact (parameter_confined parameter).always
  | dynamicPredicate path surface fields =>
      intro scope hscope
      rw [conditionalFilterExpr]
      refine (Confined.mapM fields fun field _ =>
        generatedDynamicPredicateField_confined catalog hscope.current
          field).bind fun rendered _ => ?_
      refine (dynamicSite_confined path .predicate rendered).map ?_
      rintro _ ⟨index, rfl⟩
      simp [ConditionalFilter.OrdersWithin, Sql.columnOrder]
  | binary left op right ihleft ihright =>
      intro scope hscope
      have hleft := ihleft scope hscope
      have hright := ihright scope hscope
      rw [conditionalFilterExpr]
      split
      next =>
        refine hleft.bind fun left hleft => hright.map fun right hright => ?_
        exact ConditionalFilter.combine_within hleft hright _
      next =>
        exact (comparisonExpr_confined catalog hscope left op right
          hleft.filterExpr hright.filterExpr).always
  | not_ operand ih =>
      intro scope hscope
      rw [conditionalFilterExpr]
      refine (ih scope hscope).map fun rendered hrendered => ?_
      exact ⟨hrendered.1, by
        simp [ConditionalFilter.negated, Sql.columnOrder, hrendered.2]⟩
  | nullTest operand negated ih =>
      intro scope hscope
      rw [conditionalFilterExpr]
      exact (nullTestExpr_confined catalog hscope operand
        (ih scope hscope).filterExpr negated).always
  | memberList operand items negated ihoperand ihitems =>
      intro scope hscope
      rw [conditionalFilterExpr]
      refine (ihoperand scope hscope).bind fun rendered hrendered => ?_
      refine (filterItems_confined hscope items ihitems).map ?_
      intro items hitems
      exact ConditionalFilter.always_within (memberListExpr_within
        (ConditionalFilter.filterExpr_within hrendered) hitems negated)
  | memberParameter operand parameter negated ih =>
      intro scope hscope
      rw [conditionalFilterExpr]
      refine (ih scope hscope).bind fun rendered hrendered => ?_
      refine (parameter_confined parameter).map fun placeholder hsql => ?_
      have hoperand := ConditionalFilter.filterExpr_within hrendered
      simp [ConditionalFilter.OrdersWithin, Sql.columnOrder, hoperand, hsql]
  | variantBinary left path variants right ihleft ihright =>
      intro scope hscope
      rw [conditionalFilterExpr]
      exact (variantExpr_confined left path variants right
        (ihleft scope hscope).filterExpr
        (ihright scope hscope).filterExpr).always
  | exists_ relation tableId kind sourceScope policyFilter fieldFilters filter
      ihpolicy ihfields ihfilter =>
      intro scope hscope
      rw [conditionalFilterExpr]
      refine (table_confined catalog tableId).bind fun related _ => ?_
      have hsource := hscope.columnSource sourceScope
      have hview := fieldGuards_confined (existsContext related.id)
        fieldFilters ihfields
      refine (optionalRelationConditions_confined catalog hsource _
        relation).bind fun correlation hcorrelation => ?_
      refine (optionalFilter_confined (.raw _) policyFilter ihpolicy).bind
        fun policy hpolicy => ?_
      refine (optionalFilter_confined (hscope.body kind hview hsource) filter
        ihfilter).map fun body hbody => ?_
      refine ConditionalFilter.always_within ?_
      rw [Sql.ordersWithin_node, List.forall_mem_singleton]
      exact ⟨by simp [Sql.columnOrder], relatedQuery_within _ _
        (by simp [Sql.columnOrder]) (List.forall_mem_append.mpr
          ⟨List.forall_mem_append.mpr ⟨hcorrelation, hpolicy⟩, hbody⟩)⟩
  | relationAggregate relation tableId function operand policyFilter
      fieldFilters ihpolicy ihfields =>
      intro scope hscope
      rw [conditionalFilterExpr]
      refine (table_confined catalog tableId).bind fun related _ => ?_
      have hview := fieldGuards_confined
        (aggregateContext related.id function) fieldFilters ihfields
      refine (relationConditions_confined catalog hscope.current _
        relation).bind fun correlation hcorrelation => ?_
      refine (optionalFilter_confined (.raw _) policyFilter ihpolicy).bind
        fun policy hpolicy => ?_
      have hconditions := List.forall_mem_append.mpr ⟨hcorrelation, hpolicy⟩
      split
      next =>
        refine Confined.pure (ConditionalFilter.always_within ?_)
        rw [Sql.ordersWithin_node, List.forall_mem_singleton]
        exact ⟨by simp [Sql.columnOrder], relatedQuery_within _ _
          (by simp [Sql.columnOrder]) hconditions⟩
      next =>
        refine (aggregateValueExpression_confined catalog hview function
          operand).map fun value hvalue =>
            ConditionalFilter.always_within ?_
        rw [Sql.ordersWithin_node, List.forall_mem_singleton]
        exact ⟨by simp [Sql.columnOrder], relatedQuery_within _ _
          (List.forall_mem_singleton.mpr hvalue) hconditions⟩

end Filters

end Postgres

end Dsql
