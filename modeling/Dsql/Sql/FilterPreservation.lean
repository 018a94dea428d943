import Dsql.Sql.FilterMeaning

/-!
# Rendering keeps the meaning of filters

By induction over a filter, its rendering means its lowered form under every
scope whose guards do.
-/

namespace Dsql

namespace Postgres

section Comparisons

variable {S : Type} [DecidableEq S] {server : Server S}
  {cases : OfferedCases} {sites : Bool} (catalog : Catalog)

/-- The side of a comparison that a null test is about. -/
def NullOperand.pick {α : Type} (left right : α) : NullOperand → α
  | .left => left
  | .right => right

/-- Both sides find the same null tests. -/
theorem nullComparisonOperand_lowered
    (left right : FilterExpr)
    (leftExpr rightExpr : SqlExpr) :
    Dsql.nullComparisonOperand left right leftExpr rightExpr =
      (nullComparisonOperand left right).map
        (NullOperand.pick (left, leftExpr) (right, rightExpr)) := by
  fun_cases nullComparisonOperand left right with
  | case1 => simp [Dsql.nullComparisonOperand, NullOperand.pick]
  | case2 => simp_all [Dsql.nullComparisonOperand, NullOperand.pick]
  | case3 => simp_all [Dsql.nullComparisonOperand]

variable {scope : FilterSqlScope} {loweredScope : Dsql.FilterSqlScope}
  {renderedLeft renderedRight : Rendering Sql}
  {leftExpr rightExpr : SqlExpr} {depth : Nat}

/-- A comparison means its lowering. -/
theorem comparisonExpr_means
    (hscope : scope.Means server cases loweredScope)
    (left : FilterExpr)
    (op : FilterOp)
    (right : FilterExpr)
    (hleft : YieldsExpr server cases sites renderedLeft leftExpr depth)
    (hright : YieldsExpr server cases sites renderedRight rightExpr depth) :
    YieldsExpr server cases sites
      (comparisonExpr catalog scope left op right renderedLeft renderedRight)
      (Dsql.comparisonExpr loweredScope depth left op right leftExpr rightExpr)
      depth := by
  have hboth : YieldsExpr server cases sites
      (renderedLeft >>= fun left => renderedRight >>= fun right =>
        pure (Sql.node (.binary op) [left, right]))
      (.binary leftExpr op rightExpr) depth :=
    Yields.bind hleft fun left => Yields.map hright
      fun final right hright hleft reading hreads =>
        (hleft reading hreads).binary op (hright reading hreads)
  unfold comparisonExpr Dsql.comparisonExpr
  by_cases hequality : op = .eq ∨ op = .ne
  · rw [if_pos hequality, if_pos hequality, nullComparisonOperand_lowered]
    cases nullComparisonOperand left right with
    | none => exact hboth
    | some side =>
        cases side with
        | left => exact nullTestExpr_means catalog depth hscope left hleft _
        | right => exact nullTestExpr_means catalog depth hscope right hright _
  · rw [if_neg hequality, if_neg hequality]
    exact hboth

/-- A comparison by variants means its lowering. -/
theorem variantExpr_means
    (left right : FilterExpr)
    {path : InputPath}
    {variants : List SqlVariantCase}
    (hcases : variants = cases path)
    (hleft : YieldsExpr server cases sites renderedLeft leftExpr depth)
    (hright : YieldsExpr server cases sites renderedRight rightExpr depth) :
    YieldsExpr server cases sites
      (variantExpr left path variants right renderedLeft renderedRight)
      (Dsql.variantExpr left path variants right leftExpr rightExpr)
      depth := by
  have hvariant := variantWithNull_yields (S := S) hcases none
  unfold variantExpr Dsql.variantExpr
  rw [nullComparisonOperand_lowered]
  refine Yields.bind hvariant fun _ => ?_
  cases nullComparisonOperand left right with
  | none =>
      refine Yields.bind hleft fun left => Yields.map hright ?_
      intro final right hright hleft hvariants reading hreads
      exact (hleft reading hreads).variant (hright reading hreads)
        (by rw [hreads.variants, hvariants])
  | some side =>
      cases side with
      | left =>
          refine Yields.map hleft ?_
          intro final operand hoperand hvariants reading hreads
          exact (hoperand reading hreads).variantNull
            (by rw [hreads.variants, hvariants])
      | right =>
          refine Yields.map hright ?_
          intro final operand hoperand hvariants reading hreads
          exact (hoperand reading hreads).variantNull
            (by rw [hreads.variants, hvariants])

end Comparisons

/-! ## Filters with a presence -/

namespace ConditionalFilter.Means

variable {S : Type} [DecidableEq S] {server : Server S} {reading : Reading S}
  {depth : Nat} {rendered other : ConditionalFilter}
  {lowered otherLowered : Dsql.ConditionalFilter}

theorem always
    {sql : Sql}
    {expr : SqlExpr}
    (h : server.Means reading sql expr depth) :
    (ConditionalFilter.mk none sql).Means server reading (.always expr)
      depth :=
  ⟨h, .none⟩

/-- A condition in its place means its lowering. -/
theorem filterExpr
    (h : rendered.Means server reading lowered depth) :
    server.Means reading rendered.filterExpr lowered.filterExpr depth := by
  obtain ⟨present, value⟩ := rendered
  obtain ⟨loweredPresent, loweredValue⟩ := lowered
  obtain ⟨hvalue, hpresent⟩ := h
  cases hpresent with
  | none => exact hvalue
  | some hpresent => exact hvalue.binary .or hpresent.not_

theorem absent :
    ConditionalFilter.absent.Means server reading .absent depth :=
  ⟨Server.Means.keyword true, .some (Server.Means.keyword false)⟩

/-- A negation means its lowering. -/
theorem negated
    (h : rendered.Means server reading lowered depth) :
    rendered.negated.Means server reading lowered.negated depth :=
  ⟨h.value.not_, h.present⟩

/-- An optional condition means its lowering. -/
theorem «optional»
    (h : rendered.Means server reading lowered depth)
    {placeholder : Sql}
    {parameter : SqlParameter}
    (hparameter : server.MeansParameter reading placeholder parameter) :
    (rendered.optional placeholder).Means server reading
      (lowered.optional parameter) depth := by
  obtain ⟨present, value⟩ := rendered
  obtain ⟨loweredPresent, loweredValue⟩ := lowered
  obtain ⟨hvalue, hpresent⟩ := h
  have hguard : server.Means reading (.node .isPresent [placeholder])
      (.isPresent parameter) depth := Server.Means.isPresent hparameter
  refine ⟨hvalue, ?_⟩
  cases hpresent with
  | none => exact .some hguard
  | some hpresent => exact .some (hguard.binary .and hpresent)

/-- A conjunction takes an absent part as true, a disjunction as false. -/
theorem combine
    (h : rendered.Means server reading lowered depth)
    (hother : other.Means server reading otherLowered depth) :
    (rendered.combine true other).Means server reading
        (lowered.combineAnd otherLowered) depth ∧
      (rendered.combine false other).Means server reading
        (lowered.combineOr otherLowered) depth := by
  obtain ⟨present, value⟩ := rendered
  obtain ⟨loweredPresent, loweredValue⟩ := lowered
  obtain ⟨otherPresent, otherValue⟩ := other
  obtain ⟨loweredOther, loweredOtherValue⟩ := otherLowered
  obtain ⟨hvalue, hpresent⟩ := h
  obtain ⟨hotherValue, hotherPresent⟩ := hother
  cases hpresent with
  | none =>
      cases hotherPresent with
      | none =>
          exact ⟨⟨hvalue.binary .and hotherValue, .none⟩,
            ⟨hvalue.binary .or hotherValue, .none⟩⟩
      | some hother =>
          exact ⟨⟨hvalue.binary .and (hotherValue.binary .or hother.not_),
              .none⟩,
            ⟨hvalue.binary .or (hotherValue.binary .and hother), .none⟩⟩
  | some hleft =>
      cases hotherPresent with
      | none =>
          exact ⟨⟨(hvalue.binary .or hleft.not_).binary .and hotherValue,
              .none⟩,
            ⟨(hvalue.binary .and hleft).binary .or hotherValue, .none⟩⟩
      | some hother =>
          have heither := hleft.binary .or hother
          exact ⟨⟨(hvalue.binary .or hleft.not_).binary .and
                (hotherValue.binary .or hother.not_), .some heither⟩,
            ⟨(hvalue.binary .and hleft).binary .or
                (hotherValue.binary .and hother), .some heither⟩⟩

end ConditionalFilter.Means

/-! ## Related rows -/

section Related

variable {S : Type} [DecidableEq S] {server : Server S}
  {cases : OfferedCases} (catalog : Catalog) {view : SqlRowView}
  {lowered : Dsql.SqlRowView}

/-- The condition of a relation means its lowering. -/
theorem relationCondition_means
    (parent child : SelectionContext)
    (relation : Relation)
    (depth : Nat) :
    YieldsConditions server cases false
      (relationCondition catalog parent.tableAlias child.tableAlias relation)
      (Dsql.relationCondition parent child relation) depth := by
  unfold relationCondition Dsql.relationCondition
  have hcolumns : ∀ columns : ColumnId × ColumnId,
      YieldsExpr server cases false
        (do
          let childColumn ← column catalog columns.2
          let parentColumn ← column catalog columns.1
          return Sql.node (.binary .eq)
            [.node (.column child.tableAlias childColumn.id) [],
              .node (.column parent.tableAlias parentColumn.id) []])
        (.binary (.column child columns.2) .eq (.column parent columns.1))
        depth := by
    intro columns
    refine Yields.bind (column_yields catalog columns.2) fun childColumn => ?_
    refine Yields.map (column_yields catalog columns.1) ?_
    intro final parentColumn hparent hchild reading hreads
    rw [hparent, hchild]
    exact (Server.Means.column child.tableAlias child.level _).binary .eq
      (Server.Means.column parent.tableAlias parent.level _)
  refine (Yields.mapM _ fun columns _ => hcolumns columns).imp ?_
  intro final conditions hconditions reading hreads
  rw [List.forall₂_map_right_iff]
  exact (hconditions.imp fun columns sql h => h reading hreads).flip

/-- Conditions one after the other. -/
theorem YieldsConditions.append
    {sites : Bool}
    {first second : Rendering (List Sql)}
    {firstExprs secondExprs : List SqlExpr}
    {depth : Nat}
    (hfirst : YieldsConditions server cases sites first firstExprs depth)
    (hsecond : YieldsConditions server cases sites second secondExprs depth) :
    YieldsConditions server cases sites
      (first >>= fun first => second >>= fun second =>
        pure (first ++ second))
      (firstExprs ++ secondExprs) depth :=
  Yields.bind hfirst fun _ => Yields.map hsecond
    fun _ _ hsecond hfirst reading hreads =>
      List.rel_append (hfirst reading hreads) (hsecond reading hreads)

/-- What holds without sites holds with them. -/
theorem YieldsConditions.static
    {rendering : Rendering (List Sql)}
    {exprs : List SqlExpr}
    {depth : Nat}
    (h : YieldsConditions server cases false rendering exprs depth)
    (sites : Bool) :
    YieldsConditions server cases sites rendering exprs depth := by
  refine h.imp ?_
  intro final conditions hmeans reading hreads
  exact hmeans reading hreads.static

/-- The guard of a relation means its lowering. -/
theorem relationFilter_means
    (h : view.Means server cases lowered)
    (relation : Relation)
    (depth : Nat) :
    YieldsConditions server cases false (relationFilter view relation)
      (lowered.guard (.relation relation.id) depth).toList depth := by
  unfold relationFilter
  cases hguard : view.policyFieldFilter (.relation relation.id) with
  | none =>
      rw [h.unguarded _ hguard]
      exact Yields.done (fun final reading hreads => .nil)
  | some guard =>
      obtain ⟨expr, hexpr, hyields⟩ := h.guarded _ _ hguard depth
      rw [hexpr]
      refine Yields.map hyields ?_
      intro final rendered hrendered reading hreads
      exact .cons (hrendered reading hreads) .nil

/-- The conditions of a relation mean their lowerings. -/
theorem relationConditions_means
    (h : view.Means server cases lowered)
    (child : SelectionContext)
    (relationId : RelationId)
    (depth : Nat) :
    YieldsConditions server cases false
      (relationConditions catalog view child.tableAlias relationId)
      (Dsql.relationConditions catalog lowered child depth relationId)
      depth := by
  unfold relationConditions
  refine catalogRelation_bind catalog fun relation hrelation => ?_
  unfold Dsql.relationConditions
  rw [hrelation, h.context]
  exact (relationCondition_means catalog lowered.context child relation
    depth).append (relationFilter_means h relation depth)

theorem optionalRelationConditions_means
    (h : view.Means server cases lowered)
    (child : SelectionContext)
    (relation : Option RelationId)
    (depth : Nat) :
    YieldsConditions server cases false
      (optionalRelationConditions catalog view child.tableAlias relation)
      (relation.elim []
        (Dsql.relationConditions catalog lowered child depth))
      depth := by
  cases relation with
  | none => exact Yields.done (fun final reading hreads => .nil)
  | some relation => exact relationConditions_means catalog h child relation depth

end Related

/-! ## Filters -/

section Filters

variable {S : Type} [DecidableEq S] (server : Server S)
  (cases : OfferedCases) (catalog : Catalog) (sites : Bool)

/-- A filter keeps its meaning under every scope. -/
def FilterMeans (filter : FilterExpr) : Prop :=
  ∀ scope lowered depth, FilterSqlScope.Means server cases scope lowered →
    YieldsFilter server cases sites
      (conditionalFilterExpr catalog scope filter)
      (Dsql.conditionalFilterExpr catalog lowered depth filter) depth

variable {server cases catalog sites}

/-- A rendered condition in its place. -/
theorem YieldsFilter.filterExpr
    {rendering : Rendering ConditionalFilter}
    {lowered : Dsql.ConditionalFilter}
    {depth : Nat}
    (h : YieldsFilter server cases sites rendering lowered depth) :
    YieldsExpr server cases sites (ConditionalFilter.filterExpr <$> rendering)
      lowered.filterExpr depth := by
  rw [map_eq_pure_bind]
  exact Yields.map h fun _ _ hrendered reading hreads =>
    (hrendered reading hreads).filterExpr

theorem YieldsExpr.always
    {rendering : Rendering Sql}
    {expr : SqlExpr}
    {depth : Nat}
    (h : YieldsExpr server cases sites rendering expr depth) :
    YieldsFilter server cases sites
      (rendering >>= fun value => pure (ConditionalFilter.mk none value))
      (.always expr) depth :=
  Yields.map h fun _ _ hvalue reading hreads =>
    .always (hvalue reading hreads)

section Parts

variable {scope : FilterSqlScope} {lowered : Dsql.FilterSqlScope}

/-- The items of a list mean their lowerings. -/
theorem filterItems_means
    (hscope : scope.Means server cases lowered)
    (depth : Nat)
    (items : List FilterExpr)
    (h : ∀ item ∈ items, FilterMeans server cases catalog sites item) :
    YieldsConditions server cases sites (filterItems catalog scope items)
      (Dsql.filterItems catalog lowered depth items) depth := by
  induction items with
  | nil =>
      rw [filterItems, Dsql.filterItems]
      exact Yields.done (fun final reading hreads => .nil)
  | cons item items ih =>
      rw [filterItems, Dsql.filterItems]
      have hhead := h item List.mem_cons_self scope lowered depth hscope
      have htail := ih (fun other hother =>
        h other (List.mem_cons_of_mem item hother))
      refine Yields.bind hhead fun rendered => Yields.map htail ?_
      intro final others hothers hrendered reading hreads
      exact .cons (hrendered reading hreads).filterExpr (hothers reading hreads)

/-- A body that may be missing means its lowering. -/
theorem optionalFilter_means
    (hscope : scope.Means server cases lowered)
    (depth : Nat)
    (filter : Option FilterExpr)
    (h : ∀ body ∈ filter, FilterMeans server cases catalog sites body) :
    YieldsConditions server cases sites (optionalFilter catalog scope filter)
      (Dsql.filterConditions catalog lowered depth filter) depth := by
  cases filter with
  | none =>
      rw [optionalFilter, Dsql.filterConditions]
      exact Yields.done (fun final reading hreads => .nil)
  | some filter =>
      rw [optionalFilter, Dsql.filterConditions]
      refine Yields.map (h filter rfl scope lowered depth hscope) ?_
      intro final rendered hrendered reading hreads
      exact .cons (hrendered reading hreads).filterExpr .nil

end Parts

/-- The guards of a row source mean the lowered ones. -/
theorem fieldGuards_means
    (catalog : Catalog)
    (context : SelectionContext)
    (fields : List (PolicyFieldFilter FilterExpr))
    (h : ∀ field ∈ fields,
      FilterMeans server cases catalog false field.filter) :
    (SqlRowView.mk context.tableAlias
        (fieldGuards catalog context.tableAlias fields)).Means server cases
      ⟨context, Dsql.fieldGuards catalog context fields⟩ := by
  induction fields with
  | nil =>
      rw [fieldGuards, Dsql.fieldGuards]
      exact SqlRowView.raw_means context
  | cons field fields ih =>
      obtain ⟨target, filter, requirements⟩ := field
      have hrest := ih (fun other hother =>
        h other (List.mem_cons_of_mem _ hother))
      have hguard := h ⟨target, filter, requirements⟩ List.mem_cons_self
      rw [fieldGuards, Dsql.fieldGuards]
      refine ⟨rfl, ?_, ?_⟩
      · intro sought hnone depth
        cases hsame : target == sought with
        | true => simp [SqlRowView.policyFieldFilter, hsame] at hnone
        | false =>
            have hguards := hrest.unguarded sought
              (by simpa [SqlRowView.policyFieldFilter, hsame] using hnone)
              depth
            simpa [Dsql.SqlRowView.guard, hsame] using hguards
      · intro sought guard hsome depth
        cases hsame : target == sought with
        | true =>
            obtain rfl : (do
                SqlTemplateContext.requirePolicyContext requirements
                let guard ←
                  conditionalFilterExpr catalog (.raw context.tableAlias)
                    filter
                return guard.filterExpr) = guard := by
              simpa [SqlRowView.policyFieldFilter, hsame] using hsome
            refine ⟨(Dsql.conditionalFilterExpr catalog (.raw context) depth
              filter).filterExpr, by simp [Dsql.SqlRowView.guard, hsame], ?_⟩
            refine Yields.bind (requirePolicyContext_yields requirements)
              fun _ => ?_
            refine Yields.map (hguard (.raw context.tableAlias) (.raw context)
              depth (.raw context)) ?_
            intro final rendered hrendered _ reading hreads
            exact (hrendered reading hreads).filterExpr
        | false =>
            obtain ⟨expr, hexpr, hyields⟩ := hrest.guarded sought guard
              (by simpa [SqlRowView.policyFieldFilter, hsame] using hsome)
              depth
            exact ⟨expr, by simpa [Dsql.SqlRowView.guard, hsame] using hexpr,
              hyields⟩

/-! ## Dynamic predicates -/

section Dynamic

/-- A field of a site has the value of its lowered form. -/
structure SiteFieldMeans
    (server : Server S)
    (reading : Reading S)
    (field : GeneratedDynamicInputSiteField)
    (lowered : DynamicSiteField SqlExpr)
    (depth : Nat) : Prop where
  key : field.key = lowered.key
  value : ∀ scope : Scope S, scope.rows.length = depth →
    server.siteValue reading field scope =
      server.session.eval scope.rows lowered.expression

/-- The texts of an operator have the value of the field that they test. -/
theorem meaning_dynamicOperatorTexts
    (server : Server S)
    (reading : Reading S)
    (textCast : Option TypeKey)
    (expression : Sql)
    (operator : DynamicPredicateOperator) :
    ∃ text texts,
      dynamicOperatorTexts textCast expression operator = text :: texts ∧
        server.meaning reading text = server.meaning reading expression := by
  cases operator <;>
    exact ⟨_, _, rfl, by rw [Server.meaning_node]; rfl⟩

variable {view : SqlRowView} {lowered : Dsql.SqlRowView}

/-- A field of a predicate site means the planned field. -/
theorem predicateField_means
    (catalog : Catalog)
    (h : view.Means server cases lowered)
    (depth : Nat)
    (field : DynamicInputFieldPlan)
    (hoperators : field.operators ≠ []) :
    Yields cases (generatedDynamicPredicateField catalog view field)
      (fun final rendered => SiteFieldMeans server (.static final) rendered
        ⟨field.key, field.operators,
          lowered.maskedColumnExpression depth field.column⟩ depth) := by
  unfold generatedDynamicPredicateField dynamicFieldExpression
  refine Yields.map (maskedColumnExpression_means catalog depth h
    field.column) ?_
  intro final expression hexpression
  refine ⟨rfl, ?_⟩
  intro scope hdepth
  obtain ⟨operator, operators, hfield⟩ := List.exists_cons_of_ne_nil hoperators
  obtain ⟨text, texts, htexts, htext⟩ := meaning_dynamicOperatorTexts
    server (.static final) (textCast catalog field.column)
    expression operator
  unfold Server.siteValue GeneratedDynamicInputSite.fieldTexts
  simp only [hfield, List.map_cons, List.flatMap_cons, htexts,
    List.cons_append, htext]
  exact (hexpression _ (readsAs_static server final)).datum hdepth

/-- A marker means the dynamic input over the values of its fields. -/
theorem dynamicPredicate_means
    (catalog : Catalog)
    (h : view.Means server cases lowered)
    (depth : Nat)
    (path : InputPath)
    (fields : List DynamicInputFieldPlan)
    (hfields : ∀ field ∈ fields, field.operators ≠ []) :
    YieldsExpr server cases true
      (generatedDynamicPredicateFields catalog view fields >>= fun fields =>
        SqlTemplateContext.dynamicSite path .predicate fields)
      (.dynamicSite path
        (Dsql.generatedDynamicPredicateFields lowered depth fields)) depth := by
  have hall := Yields.mapM fields (fun field hfield =>
    predicateField_means catalog h depth field
      (hfields field hfield))
  refine Yields.bind hall fun rendered => ?_
  refine (dynamicSite_yields path .predicate rendered).imp ?_
  rintro final sql ⟨index, rfl, hsite⟩ hrendered reading hreads
  have hmeaning : server.meaning reading (.node (.marker index) []) =
      server.siteMeaning (.static final) ⟨path, .predicate, rendered⟩ := by
    rw [Server.meaning_node, List.map_nil]
    show reading.markers index = _
    rw [hreads.markers rfl]
    show server.markerMeaning final index = _
    rw [Server.markerMeaning, hsite]
  refine ⟨by rw [hmeaning]; rfl, by rw [hmeaning]; rfl, ?_⟩
  intro group scope hdepth
  rw [hmeaning, Session.eval, Session.evalFields_eq_map]
  have hvalues : rendered.map (fun field =>
      (field.key, server.siteValue (.static final) field scope)) =
        (Dsql.generatedDynamicPredicateFields lowered depth fields).map
          (fun field =>
            (field.key, server.session.eval scope.rows field.expression)) := by
    unfold Dsql.generatedDynamicPredicateFields
    rw [List.map_map]
    rw [← List.forall₂_eq_eq_eq, List.forall₂_map_left_iff,
      List.forall₂_map_right_iff]
    refine (hrendered.imp ?_).flip
    intro field site hmeans
    exact Prod.ext hmeans.key (hmeans.value scope hdepth)
  show Doc.datum (.ofTruth (server.inputs.dynamic path _)) = _
  rw [hvalues]
  rfl

end Dynamic

theorem itemsFit_mem
    {items : List FilterExpr}
    (h : ItemsFit cases sites items) :
    ∀ item ∈ items, FilterFits cases sites item := by
  induction items with
  | nil => nofun
  | cons item items ih =>
      rw [ItemsFit] at h
      exact List.forall_mem_cons.mpr ⟨h.1, ih h.2⟩

theorem optionalFits_mem
    {filter : Option FilterExpr}
    (h : OptionalFits cases sites filter) :
    ∀ body ∈ filter, FilterFits cases sites body := by
  rintro body rfl
  rwa [OptionalFits] at h

theorem fieldsFit_mem
    {fields : List (PolicyFieldFilter FilterExpr)}
    (h : FieldsFit cases fields) :
    ∀ field ∈ fields, FilterFits cases false field.filter := by
  induction fields with
  | nil => nofun
  | cons field fields ih =>
      rw [FieldsFit] at h
      exact List.forall_mem_cons.mpr ⟨h.1, ih h.2⟩

/-- A membership in a list means its lowering. -/
theorem memberListExpr_means
    {reading : Reading S}
    {operand : Sql}
    {operandExpr : SqlExpr}
    {items : List Sql}
    {itemExprs : List SqlExpr}
    {depth : Nat}
    (hoperand : server.Means reading operand operandExpr depth)
    (hitems : List.Forall₂ (fun item expr =>
      server.Means reading item expr depth) items itemExprs)
    (negated : Bool) :
    server.Means reading (memberListExpr operand items negated)
      (Dsql.memberListExpr operandExpr itemExprs negated) depth := by
  cases hitems with
  | nil => exact Server.Means.keyword negated
  | cons hitem hitems => exact hoperand.inList (.cons hitem hitems) negated

/-- An aggregate other than `exists` over the rows that pass conditions. -/
theorem aggregateValue_means
    {view : SqlRowView}
    {lowered : Dsql.SqlRowView}
    (h : view.Means server cases lowered)
    (depth : Nat)
    (function : AggregateFunction)
    (hfunction : function ≠ .exists)
    (operand : Option ColumnId)
    (name : Alias)
    (table : TableId) :
    Yields cases (aggregateValueExpression catalog view function operand)
      (fun final value => ∀ reading, ReadsAs server final false reading →
        ∀ conditions conditionExprs, List.Forall₂ (fun sql expr =>
          server.Means reading sql expr (depth + 1)) conditions
            conditionExprs →
        server.Means reading
          (.node .scalar [relatedQuery name table [value] conditions])
          (relationAggregateExpr ⟨name, depth⟩ table conditionExprs function
            (operand.map (lowered.maskedColumnExpression (depth + 1))))
          depth) := by
  unfold aggregateValueExpression
  cases operand with
  | none =>
      show Yields cases (pure none >>= _) _
      rw [pure_bind]
      cases function with
      | count =>
          refine Yields.done ?_
          intro final reading hreads conditions conditionExprs hconditions
          exact Server.Means.countRows hconditions name table
      | «exists» => exact absurd rfl hfunction
      | _ => exact Yields.fails _
  | some columnId =>
      have hcolumn := maskedColumnExpression_means catalog (depth + 1) h
        columnId
      show Yields cases ((maskedColumnExpression catalog view columnId >>=
        fun operand => pure (some operand)) >>= _) _
      rw [bind_assoc]
      cases function with
      | «exists» => exact absurd rfl hfunction
      | _ =>
          refine Yields.map hcolumn ?_
          intro final operand hoperand reading hreads conditions
            conditionExprs hconditions
          exact Server.Means.aggregate hconditions name table
            (hoperand reading hreads) _

/-- By induction over the filter, with its guards and bodies. -/
theorem conditionalFilterExpr_means
    (filter : FilterExpr) :
    ∀ sites, FilterFits cases sites filter →
      FilterMeans server cases catalog sites filter := by
  induction filter with
  | absent =>
      intro sites hfits scope lowered depth hscope
      rw [conditionalFilterExpr, Dsql.conditionalFilterExpr]
      exact Yields.done (fun final reading hreads => .absent)
  | optional parameter operand ih =>
      intro sites hfits scope lowered depth hscope
      rw [FilterFits] at hfits
      rw [conditionalFilterExpr, Dsql.conditionalFilterExpr]
      refine Yields.bind (ih sites hfits scope lowered depth hscope)
        fun inner => Yields.map (parameter_yields parameter) ?_
      rintro final placeholder ⟨number, rfl, hnames⟩ hinner reading hreads
      exact (hinner reading hreads).optional
        (meansParameter_of_names hreads hnames)
  | column columnScope columnId =>
      intro sites hfits scope lowered depth hscope
      rw [conditionalFilterExpr, Dsql.conditionalFilterExpr]
      exact ((maskedColumnExpression_means catalog depth
        (hscope.columnSource columnScope) columnId).static sites).always
  | literal value =>
      intro sites hfits scope lowered depth hscope
      rw [conditionalFilterExpr, Dsql.conditionalFilterExpr]
      exact Yields.done (fun final reading hreads =>
        .always (Server.Means.literal value))
  | parameter parameter =>
      intro sites hfits scope lowered depth hscope
      rw [conditionalFilterExpr, Dsql.conditionalFilterExpr]
      refine Yields.map (parameter_yields parameter) ?_
      rintro final placeholder ⟨number, rfl, hnames⟩ reading hreads
      exact .always (Server.Means.placeholder
        (meansParameter_of_names hreads hnames))
  | dynamicPredicate path surface fields =>
      intro sites hfits scope lowered depth hscope
      rw [FilterFits] at hfits
      obtain ⟨rfl, hfields⟩ := hfits
      rw [conditionalFilterExpr, Dsql.conditionalFilterExpr]
      have hsite := dynamicPredicate_means catalog
        hscope.current depth path fields hfields
      have halways := hsite.always
      rw [bind_assoc] at halways
      exact halways
  | binary left op right ihleft ihright =>
      intro sites hfits scope lowered depth hscope
      rw [FilterFits] at hfits
      have hleft := ihleft sites hfits.1 scope lowered depth hscope
      have hright := ihright sites hfits.2 scope lowered depth hscope
      have hcomparison := (comparisonExpr_means catalog hscope left op right
        hleft.filterExpr hright.filterExpr).always
      cases op with
      | and =>
          rw [conditionalFilterExpr, Dsql.conditionalFilterExpr]
          exact Yields.bind hleft fun _ => Yields.map hright
            fun _ _ hright hleft reading hreads =>
              ((hleft reading hreads).combine (hright reading hreads)).1
      | or =>
          rw [conditionalFilterExpr, Dsql.conditionalFilterExpr]
          exact Yields.bind hleft fun _ => Yields.map hright
            fun _ _ hright hleft reading hreads =>
              ((hleft reading hreads).combine (hright reading hreads)).2
      | _ =>
          rw [conditionalFilterExpr, if_neg (by decide)]
          simp only [Dsql.conditionalFilterExpr]
          exact hcomparison
  | not_ operand ih =>
      intro sites hfits scope lowered depth hscope
      rw [FilterFits] at hfits
      rw [conditionalFilterExpr, Dsql.conditionalFilterExpr]
      exact Yields.map (ih sites hfits scope lowered depth hscope)
        fun _ _ hoperand reading hreads => (hoperand reading hreads).negated
  | nullTest operand negated ih =>
      intro sites hfits scope lowered depth hscope
      rw [FilterFits] at hfits
      rw [conditionalFilterExpr, Dsql.conditionalFilterExpr]
      exact (nullTestExpr_means catalog depth hscope operand
        (ih sites hfits scope lowered depth hscope).filterExpr negated).always
  | memberList operand items negated ihoperand ihitems =>
      intro sites hfits scope lowered depth hscope
      rw [FilterFits] at hfits
      have hoperand := ihoperand sites hfits.1 scope lowered depth hscope
      have hitems := filterItems_means hscope depth items
        (fun item hitem =>
          ihitems item hitem sites (itemsFit_mem hfits.2 item hitem))
      rw [conditionalFilterExpr, Dsql.conditionalFilterExpr]
      refine Yields.bind hoperand fun operand => Yields.map hitems ?_
      intro final items hitems hoperand reading hreads
      exact .always (memberListExpr_means (hoperand reading hreads).filterExpr
        (hitems reading hreads) negated)
  | memberParameter operand parameter negated ih =>
      intro sites hfits scope lowered depth hscope
      rw [FilterFits] at hfits
      rw [conditionalFilterExpr, Dsql.conditionalFilterExpr]
      refine Yields.bind (ih sites hfits scope lowered depth hscope)
        fun operand => Yields.map (parameter_yields parameter) ?_
      rintro final placeholder ⟨number, rfl, hnames⟩ hoperand reading hreads
      exact .always ((hoperand reading hreads).filterExpr.anyOf
        (meansParameter_of_names hreads hnames) negated)
  | variantBinary left path variants right ihleft ihright =>
      intro sites hfits scope lowered depth hscope
      rw [FilterFits] at hfits
      have hleft := ihleft sites hfits.2.1 scope lowered depth hscope
      have hright := ihright sites hfits.2.2 scope lowered depth hscope
      rw [conditionalFilterExpr, Dsql.conditionalFilterExpr]
      exact (variantExpr_means left right hfits.1 hleft.filterExpr
        hright.filterExpr).always
  | exists_ relation tableId kind sourceScope policyFilter fieldFilters filter
      ihpolicy ihfields ihfilter =>
      intro sites hfits scope lowered depth hscope
      rw [FilterFits] at hfits
      obtain ⟨hpolicy, hfields, hfilter⟩ := hfits
      have hconditions : existsConditions catalog lowered depth relation tableId
          kind sourceScope policyFilter fieldFilters filter =
            relation.elim [] (Dsql.relationConditions catalog
              (lowered.columnSource sourceScope)
              (Dsql.existsContext tableId depth) (depth + 1)) ++
            filterConditions catalog (.raw (Dsql.existsContext tableId depth))
              (depth + 1) policyFilter ++
            filterConditions catalog
              (Dsql.bodyScope lowered kind
                (readableView catalog (Dsql.existsContext tableId depth)
                  fieldFilters) (lowered.columnSource sourceScope))
              (depth + 1) filter := by
        cases relation <;> rfl
      rw [conditionalFilterExpr, Dsql.conditionalFilterExpr_exists, hconditions]
      refine table_bind catalog fun related hrelated => ?_
      rw [hrelated]
      have hsource := hscope.columnSource sourceScope
      have hview := fieldGuards_means catalog
        (Dsql.existsContext tableId depth) fieldFilters
        (fun field hfield =>
          ihfields field hfield false (fieldsFit_mem hfields field hfield))
      have hcorrelation := optionalRelationConditions_means catalog hsource
        (Dsql.existsContext tableId depth) relation (depth + 1)
      have hrow := optionalFilter_means (.raw (Dsql.existsContext tableId depth))
        (depth + 1) policyFilter (fun body hbody =>
          ihpolicy body hbody false (optionalFits_mem hpolicy body hbody))
      have hbody := optionalFilter_means (hscope.body kind hview hsource)
        (depth + 1) filter (fun body hbody =>
          ihfilter body hbody sites (optionalFits_mem hfilter body hbody))
      refine Yields.bind (hcorrelation.static sites) fun correlation =>
        Yields.bind (hrow.static sites) fun policy => Yields.map hbody ?_
      intro final body hbody hrow hcorrelation reading hreads
      exact .always (Server.Means.exists_
        (List.rel_append (List.rel_append (hcorrelation reading hreads)
          (hrow reading hreads)) (hbody reading hreads))
        (existsContext tableId) tableId)
  | relationAggregate relation tableId function operand policyFilter
      fieldFilters ihpolicy ihfields =>
      intro sites hfits scope lowered depth hscope
      rw [FilterFits] at hfits
      obtain ⟨hpolicy, hfields⟩ := hfits
      rw [conditionalFilterExpr, Dsql.conditionalFilterExpr]
      refine table_bind catalog fun related hrelated => ?_
      rw [hrelated]
      have hview := fieldGuards_means catalog
        (Dsql.aggregateContext tableId function depth) fieldFilters
        (fun field hfield =>
          ihfields field hfield false (fieldsFit_mem hfields field hfield))
      have hcorrelation := relationConditions_means catalog hscope.current
        (Dsql.aggregateContext tableId function depth) relation (depth + 1)
      have hrow := optionalFilter_means
        (.raw (Dsql.aggregateContext tableId function depth))
        (depth + 1) policyFilter (fun body hbody =>
          ihpolicy body hbody false (optionalFits_mem hpolicy body hbody))
      refine Yields.bind (hcorrelation.static sites) fun correlation =>
        Yields.bind (hrow.static sites) fun policy => ?_
      by_cases hexists : function = .exists
      · subst hexists
        refine Yields.done ?_
        intro final hrow hcorrelation reading hreads
        exact .always (Server.Means.exists_
          (List.rel_append (hcorrelation reading hreads) (hrow reading hreads))
          (aggregateContext tableId .exists) tableId)
      · rw [if_neg hexists]
        refine Yields.map (aggregateValue_means hview depth function hexists
          operand (aggregateContext tableId function) tableId) ?_
        intro final value hvalue hrow hcorrelation reading hreads
        exact .always (hvalue reading hreads.static _ _
          (List.rel_append (hcorrelation reading hreads)
            (hrow reading hreads)))

end Filters

end Postgres

end Dsql
