import Dsql.Sql.Requests

/-!
# Numbers in rendered filters

What a filter leaves in its rendering is what it mentions, under every scope
whose guards do the same.
-/

namespace Dsql

namespace Postgres

open Dsql.Numbering

section Expressions

variable {α β : Type} {mentions : Mentions} {numbers : α → List Nat}

/-- A value without numbers mentions nothing. -/
theorem Leaves.done
    {value : α}
    (h : numbers value = []) :
    Leaves (pure value) .empty numbers := by
  unfold Leaves
  refine Renders.pure (fun parameters => ?_)
  rw [h]
  exact .nil

theorem Leaves.fails (error : SqlGenerationError) :
    Leaves (throw error : Rendering α) mentions numbers := by
  unfold Leaves
  exact Renders.throw

/-- What is left depends on the paths and not on their order. -/
theorem Leaves.congr
    {rendering : Rendering α}
    {mentions' : Mentions}
    (h : Leaves rendering mentions numbers)
    (hrequested : mentions.requested = mentions'.requested)
    (hsited : ∀ path, path ∈ mentions'.sited ↔ path ∈ mentions.sited)
    (hplaced : ∀ path, path ∈ mentions'.placed ↔ path ∈ mentions.placed) :
    Leaves rendering mentions' numbers := by
  refine Renders.congr (h.imp ?_) hrequested hsited
  intro parameters value hwrites
  exact hwrites.congr (fun _ => Iff.rfl) hplaced

/-- A value made of a rendered one with the same numbers. -/
theorem Leaves.map
    {rendering : Rendering α}
    {make : α → β}
    {others : β → List Nat}
    (h : Leaves rendering mentions numbers)
    (hnumbers : ∀ value number,
      number ∈ others (make value) ↔ number ∈ numbers value) :
    Leaves (rendering >>= fun value => pure (make value)) mentions others := by
  refine Renders.congr (h.bind fun value => Renders.pure ?_) ?_ ?_
  · intro parameters hwrites
    exact hwrites.congr (hnumbers value) (fun _ => Iff.rfl)
  · exact List.append_nil _
  · intro path
    rw [List.append_nil]

/-- A rendered value that is dropped. -/
theorem Leaves.drop
    {rendering : Rendering α}
    {make : α → β}
    {others : β → List Nat}
    (h : Leaves rendering mentions numbers)
    (hnumbers : ∀ value, others (make value) = []) :
    Leaves (rendering >>= fun value => pure (make value)) mentions.dropped
      others := by
  refine Renders.congr (h.bind fun value => Renders.pure ?_) ?_ ?_
  · intro parameters _
    rw [hnumbers]
    exact .nil
  · exact List.append_nil _
  · intro path
    rw [List.append_nil]
    rfl

/-- Two renderings in a row whose values are put together. -/
theorem Leaves.both
    {γ : Type}
    {first : Rendering α}
    {second : Rendering β}
    {others : β → List Nat}
    {numbers' : γ → List Nat}
    {mentions' : Mentions}
    {make : α → β → γ}
    (hfirst : Leaves first mentions numbers)
    (hsecond : Leaves second mentions' others)
    (hnumbers : ∀ value other number, number ∈ numbers' (make value other) ↔
      number ∈ numbers value ∨ number ∈ others other) :
    Leaves
      (first >>= fun value => second >>= fun other => pure (make value other))
      (mentions ++ mentions') numbers' := by
  refine Renders.congr (hfirst.bind fun value =>
    hsecond.bind fun other => Renders.pure ?_) ?_ ?_
  · intro parameters hother hvalue
    refine (hvalue.append hother).congr ?_ (fun _ => Iff.rfl)
    intro number
    rw [hnumbers, List.mem_append]
  · rw [List.append_nil]
    rfl
  · intro path
    rw [List.append_nil]
    rfl

/-- A rendering around what was rendered before it. -/
theorem Leaves.keep
    {first : Rendering α}
    {second : α → Rendering β}
    {others : β → List Nat}
    {mentions' : Mentions}
    (hfirst : Leaves first mentions numbers)
    (hsecond : ∀ value,
      Keeps (second value) (numbers value) mentions' others) :
    Leaves (first >>= second) (mentions ++ mentions') others := by
  refine hfirst.bind fun value => (hsecond value).imp ?_
  rintro parameters result ⟨added, hadded, hnumbers⟩ hvalue
  refine (hvalue.append hadded).congr ?_ (fun _ => Iff.rfl)
  intro number
  rw [hnumbers, List.mem_append]

end Expressions

namespace ConditionalFilter

def numbers (rendered : ConditionalFilter) : List Nat :=
  Sql.numbersOfAll (rendered.value :: rendered.present.toList)

/-- A condition in its place has the numbers of both its parts. -/
theorem mem_filterExpr (rendered : ConditionalFilter) (number : Nat) :
    number ∈ rendered.filterExpr.numbers ↔ number ∈ rendered.numbers := by
  obtain ⟨present, value⟩ := rendered
  cases present with
  | none => simp [filterExpr, numbers]
  | some present => simp [filterExpr, valueOrAbsent, numbers]

/-- An optional condition adds the number of its parameter. -/
theorem mem_optional
    (inner : ConditionalFilter)
    (placeholder : Sql)
    (number : Nat) :
    number ∈ (inner.optional placeholder).numbers ↔
      number ∈ inner.numbers ∨ number ∈ placeholder.numbers := by
  obtain ⟨present, value⟩ := inner
  cases present with
  | none => simp [optional, numbers]
  | some present =>
      simp only [optional, numbers, Option.toList_some, Sql.numbersOfAll_cons,
        Sql.numbersOfAll_nil, Sql.numbers_node, List.append_nil, List.mem_append]
      tauto

/-- A connective has the numbers of both sides. -/
theorem mem_combine
    (left : ConditionalFilter)
    (and : Bool)
    (right : ConditionalFilter)
    (number : Nat) :
    number ∈ (left.combine and right).numbers ↔
      number ∈ left.numbers ∨ number ∈ right.numbers := by
  obtain ⟨leftPresent, leftValue⟩ := left
  obtain ⟨rightPresent, rightValue⟩ := right
  have hpart : ∀ value present : Sql,
      (if and then valueOrAbsent else valueIfPresent) value present =
        .node (.binary (if and then .or else .and))
          [value, if and then .node .not [present] else present] := by
    intro value present
    cases and with
    | true => rfl
    | false => rfl
  have hpresent : ∀ present : Sql,
      (if and = true then .node .not [present] else present : Sql).numbers =
        present.numbers := by
    intro present
    cases and with
    | true => simp
    | false => simp
  cases leftPresent with
  | none =>
      cases rightPresent with
      | none => simp [combine, numbers]
      | some present =>
          simp [combine, numbers, hpart, hpresent]
  | some present =>
      cases rightPresent with
      | none =>
          simp only [combine, numbers, hpart, hpresent, Option.toList_some,
            Option.toList_none, Sql.numbersOfAll_cons, Sql.numbersOfAll_nil,
            Sql.numbers_node, List.append_nil, List.mem_append]
      | some other =>
          simp only [combine, numbers, hpart, hpresent, Option.toList_some,
            Sql.numbersOfAll_cons, Sql.numbersOfAll_nil, Sql.numbers_node,
            List.append_nil, List.mem_append]
          tauto

end ConditionalFilter

/-! ## Row sources -/

/-- The guards of a row source leave what is said of them. -/
structure SqlRowView.Mentioned
    (view : SqlRowView)
    (mentioned : MentionedView) : Prop where
  unguarded : ∀ target, view.policyFieldFilter target = none →
    mentioned target = .empty
  guarded : ∀ target guard, view.policyFieldFilter target = some guard →
    Leaves guard (mentioned target) Sql.numbers

theorem SqlRowView.raw_mentioned (context : Alias) :
    (SqlRowView.raw context).Mentioned .raw :=
  ⟨fun _ _ => rfl, nofun⟩

structure FilterSqlScope.Mentioned
    (scope : FilterSqlScope)
    (mentioned : MentionedScope) : Prop where
  current : scope.current.Mentioned mentioned.current
  root : scope.root.Mentioned mentioned.root
  predicateSource : scope.predicateSource.Mentioned mentioned.predicateSource
  parent : ∀ target, scope.parent = some target →
    ∃ view, mentioned.parent = some view ∧ target.Mentioned view
  noParent : scope.parent = none → mentioned.parent = none

namespace FilterSqlScope.Mentioned

variable {scope : FilterSqlScope} {mentioned : MentionedScope}

theorem raw (context : Alias) : (FilterSqlScope.raw context).Mentioned .raw :=
  ⟨SqlRowView.raw_mentioned context, SqlRowView.raw_mentioned context,
    SqlRowView.raw_mentioned context, nofun, fun _ => rfl⟩

/-- Every view of a scope leaves what its guards mention. -/
theorem columnSource
    (h : scope.Mentioned mentioned)
    (columnScope : FilterColumnScope) :
    (scope.filterColumnSource columnScope).Mentioned
      (mentioned.columnSource columnScope) := by
  cases columnScope with
  | current => exact h.current
  | root => exact h.root
  | predicateSource => exact h.predicateSource
  | parent =>
      unfold filterColumnSource MentionedScope.columnSource
      cases hparent : scope.parent with
      | none =>
          rw [h.noParent hparent]
          exact h.current
      | some parent =>
          obtain ⟨view, hview, hmentioned⟩ := h.parent parent hparent
          rw [hview]
          exact hmentioned

/-- The scope of an `exists` leaves what its rows mention. -/
theorem body
    (h : scope.Mentioned mentioned)
    (kind : ExistsKind)
    {view source : SqlRowView}
    {viewMentions sourceMentions : MentionedView}
    (hview : view.Mentioned viewMentions)
    (hsource : source.Mentioned sourceMentions) :
    (bodyScope scope kind view source).Mentioned
      (mentioned.body kind viewMentions sourceMentions) := by
  cases kind with
  | explicit =>
      refine ⟨hview, h.root, hview, ?_, nofun⟩
      rintro _ ⟨⟩
      exact ⟨sourceMentions, rfl, hsource⟩
  | relationshipPredicate =>
      exact ⟨hview, h.root, h.predicateSource, h.parent, h.noParent⟩

end FilterSqlScope.Mentioned

/-- Only the literal null makes a comparison a null test. -/
theorem nullComparisonOperand_left
    {left right : FilterExpr}
    (h : nullComparisonOperand left right = some .left) :
    right = .literal .null := by
  unfold nullComparisonOperand at h
  split at h
  · cases h
  · rfl
  · cases h

theorem nullComparisonOperand_right
    {left right : FilterExpr}
    (h : nullComparisonOperand left right = some .right) :
    left = .literal .null := by
  unfold nullComparisonOperand at h
  split at h
  · rfl
  · cases h
  · cases h

theorem filterMentions_null (scope : MentionedScope) :
    filterMentions scope (.literal .null) = .empty := by
  rw [filterMentions]

section Columns

variable (catalog : Catalog)

/-- A bare column mentions nothing. -/
theorem rawColumn_leaves (source : SqlRowView) (columnId : ColumnId) :
    Leaves (rawColumn catalog source columnId) .empty Sql.numbers := by
  unfold rawColumn
  exact Silent.bind (column_silent catalog columnId)
    (fun column => Leaves.done (by simp))

variable {source : SqlRowView} {mentioned : MentionedView}

/-- A masked column mentions its guard. -/
theorem maskedColumnExpression_leaves
    (h : source.Mentioned mentioned)
    (columnId : ColumnId) :
    Leaves (maskedColumnExpression catalog source columnId)
      (mentioned (.column columnId)) Sql.numbers := by
  unfold maskedColumnExpression
  cases hguard : source.policyFieldFilter (.column columnId) with
  | none =>
      rw [h.unguarded _ hguard]
      exact (rawColumn_leaves catalog source columnId).map
        (fun _ _ => Iff.rfl)
  | some guard =>
      refine Renders.congr (Leaves.bind
        (rawColumn_leaves catalog source columnId) fun raw =>
          (h.guarded _ _ hguard).bind fun rendered => Renders.pure ?_) ?_ ?_
      · intro parameters hrendered hraw
        refine (hraw.append hrendered).congr ?_ (fun _ => Iff.rfl)
        intro number
        simp [or_comm]
      · simp [Mentions.empty]
      · simp [Mentions.empty]

/-- A null test mentions its operand. -/
theorem nullTestExpr_leaves
    {scope : FilterSqlScope}
    {mentioned : MentionedScope}
    (h : scope.Mentioned mentioned)
    {operand : FilterExpr}
    {rendered : Rendering Sql}
    (hrendered : Leaves rendered (filterMentions mentioned operand)
      Sql.numbers)
    (negated : Bool) :
    Leaves (nullTestExpr catalog scope operand rendered negated)
      (filterMentions mentioned operand) Sql.numbers := by
  have hother : Leaves
      (rendered >>= fun operand =>
        pure (Sql.node (.isNull negated) [operand]))
      (filterMentions mentioned operand) Sql.numbers :=
    hrendered.map (by simp)
  cases operand with
  | column columnScope columnId =>
      have hsource := h.columnSource columnScope
      rw [filterMentions]
      cases hguard : (scope.filterColumnSource columnScope).policyFieldFilter
          (.column columnId) with
      | none =>
          simp only [nullTestExpr, hguard]
          rw [hsource.unguarded _ hguard]
          refine (rawColumn_leaves catalog _ columnId).map ?_
          intro raw number
          simp
      | some guard =>
          simp only [nullTestExpr, hguard]
          refine Renders.congr (Leaves.bind
            (rawColumn_leaves catalog _ columnId) fun raw =>
              (hsource.guarded _ _ hguard).bind fun rendered =>
                Renders.pure ?_) ?_ ?_
          · intro parameters hrendered hraw
            refine (hraw.append hrendered).congr ?_ (fun _ => Iff.rfl)
            intro number
            simp [or_comm]
          · simp [Mentions.empty]
          · simp [Mentions.empty]
  | _ => exact hother

/-- A comparison with a literal null renders its other side only, which
mentions all there is. -/
theorem comparisonExpr_leaves
    {scope : FilterSqlScope}
    {mentioned : MentionedScope}
    (h : scope.Mentioned mentioned)
    {left right : FilterExpr}
    {renderedLeft renderedRight : Rendering Sql}
    (hleft : Leaves renderedLeft (filterMentions mentioned left) Sql.numbers)
    (hright : Leaves renderedRight (filterMentions mentioned right)
      Sql.numbers)
    (op : FilterOp) :
    Leaves (comparisonExpr catalog scope left op right renderedLeft
        renderedRight)
      (filterMentions mentioned left ++ filterMentions mentioned right)
      Sql.numbers := by
  have hboth : Leaves
      (renderedLeft >>= fun left => renderedRight >>= fun right =>
        pure (Sql.node (.binary op) [left, right]))
      (filterMentions mentioned left ++ filterMentions mentioned right)
      Sql.numbers := by
    refine hleft.both hright ?_
    intro left right number
    simp
  unfold comparisonExpr
  by_cases hequality : op = .eq ∨ op = .ne
  · rw [if_pos hequality]
    cases hoperand : nullComparisonOperand left right with
    | none => exact hboth
    | some side =>
        cases side with
        | left =>
            have hnull := nullComparisonOperand_left hoperand
            rw [hnull, filterMentions_null, Mentions.append_empty]
            exact nullTestExpr_leaves catalog h hleft (op == .ne)
        | right =>
            have hnull := nullComparisonOperand_right hoperand
            rw [hnull, filterMentions_null, Mentions.empty_append]
            exact nullTestExpr_leaves catalog h hright (op == .ne)
  · rw [if_neg hequality]
    exact hboth

/-- A comparison by variants mentions both sides. -/
theorem variantExpr_leaves
    {mentioned : MentionedScope}
    {left right : FilterExpr}
    {renderedLeft renderedRight : Rendering Sql}
    (hleft : Leaves renderedLeft (filterMentions mentioned left) Sql.numbers)
    (hright : Leaves renderedRight (filterMentions mentioned right)
      Sql.numbers)
    (path : InputPath)
    (variants : List SqlVariantCase) :
    Leaves (variantExpr left path variants right renderedLeft renderedRight)
      (filterMentions mentioned left ++ filterMentions mentioned right)
      Sql.numbers := by
  refine Silent.bind (variantWithNull_silent path variants none) fun _ => ?_
  cases hoperand : nullComparisonOperand left right with
  | none =>
      refine hleft.both hright ?_
      intro left right number
      simp
  | some side =>
      cases side with
      | left =>
          have hnull := nullComparisonOperand_left hoperand
          rw [hnull, filterMentions_null, Mentions.append_empty]
          refine hleft.map ?_
          intro operand number
          simp
      | right =>
          have hnull := nullComparisonOperand_right hoperand
          rw [hnull, filterMentions_null, Mentions.empty_append]
          refine hright.map ?_
          intro operand number
          simp

/-- An aggregate mentions the guard of its operand. -/
theorem aggregateValueExpression_leaves
    (h : source.Mentioned mentioned)
    (function : AggregateFunction)
    (operand : Option ColumnId) :
    Leaves (aggregateValueExpression catalog source function operand)
      (aggregateMentions mentioned function operand) Sql.numbers := by
  unfold aggregateValueExpression
  cases operand with
  | none =>
      rw [Option.mapM_none, pure_bind]
      cases function with
      | count => exact Leaves.done (by simp)
      | «exists» => exact Leaves.done (by simp)
      | min | max | sum | avg => exact Leaves.fails _
  | some columnId =>
      have hcolumn := maskedColumnExpression_leaves catalog h columnId
      rw [Option.mapM_some, map_eq_pure_bind, bind_assoc]
      simp only [pure_bind]
      cases function with
      | «exists» =>
          refine hcolumn.drop ?_
          intro operand
          simp
      | count | min | max | sum | avg =>
          refine hcolumn.map ?_
          intro operand number
          simp

/-! ## Dynamic fields -/

/-- What is left in the texts of a field, if it has any. -/
def Mentions.kept (mentions : Mentions) (texts : Bool) : Mentions :=
  { mentions with placed := if texts then mentions.placed else [] }

/-- The texts of an operator have the numbers of their field. -/
theorem dynamicOperatorTexts_numbers
    (textCast : Option TypeKey)
    (expression : Sql)
    (operator : DynamicPredicateOperator)
    (number : Nat) :
    number ∈ Sql.numbersOfAll (dynamicOperatorTexts textCast expression operator) ↔
      number ∈ expression.numbers := by
  cases operator <;> simp [dynamicOperatorTexts]

/-- One expression in several texts is written as often, but the same. -/
theorem mem_numbers_texts
    {ι : Type}
    {items : List ι}
    {texts : ι → List Sql}
    {expression : Sql}
    (hitems : items ≠ [])
    (h : ∀ item number,
      number ∈ Sql.numbersOfAll (texts item) ↔ number ∈ expression.numbers)
    (number : Nat) :
    number ∈ Sql.numbersOfAll (items.flatMap texts) ↔
      number ∈ expression.numbers := by
  rw [Sql.numbersOfAll_eq, List.flatMap_assoc, List.mem_flatMap]
  constructor
  · rintro ⟨item, -, hnumber⟩
    rw [← Sql.numbersOfAll_eq] at hnumber
    exact (h item number).mp hnumber
  · intro hnumber
    obtain ⟨item, hitem⟩ := List.exists_mem_of_ne_nil items hitems
    refine ⟨item, hitem, ?_⟩
    rw [← Sql.numbersOfAll_eq]
    exact (h item number).mpr hnumber

/-- A field of a predicate site mentions its guard. -/
theorem predicateField_leaves
    (h : source.Mentioned mentioned)
    (field : DynamicInputFieldPlan) :
    Leaves (generatedDynamicPredicateField catalog source field)
      ((mentioned (.column field.column)).kept !field.operators.isEmpty)
      (fun field => fieldNumbers [field]) := by
  have hcolumn := maskedColumnExpression_leaves catalog h field.column
  unfold generatedDynamicPredicateField dynamicFieldExpression
  cases hoperators : field.operators with
  | nil =>
      refine hcolumn.drop ?_
      intro expression
      rfl
  | cons operator operators =>
      refine hcolumn.map ?_
      intro expression number
      simp only [fieldNumbers, List.flatMap_cons, List.flatMap_nil,
        List.append_nil, GeneratedDynamicInputSite.fieldTexts, List.map_nil,
        List.flatMap_map]
      exact mem_numbers_texts (List.cons_ne_nil operator operators)
        (dynamicOperatorTexts_numbers _ expression) number

/-- A field of an order site mentions its guard. -/
theorem orderField_leaves
    (h : source.Mentioned mentioned)
    (field : DynamicInputFieldPlan) :
    Leaves (generatedDynamicOrderField catalog source field)
      ((mentioned (.column field.column)).kept !field.directions.isEmpty)
      (fun field => fieldNumbers [field]) := by
  have hcolumn := maskedColumnExpression_leaves catalog h field.column
  unfold generatedDynamicOrderField dynamicFieldExpression
  cases hdirections : field.directions with
  | nil =>
      refine hcolumn.drop ?_
      intro expression
      rfl
  | cons direction directions =>
      refine hcolumn.map ?_
      intro expression number
      simp only [fieldNumbers, List.flatMap_cons, List.flatMap_nil,
        List.append_nil, GeneratedDynamicInputSite.fieldTexts, List.nil_append,
        List.map_map]
      rw [← List.flatMap_singleton' (List.map _ _), List.flatMap_map]
      refine mem_numbers_texts (List.cons_ne_nil direction directions) ?_
        number
      intro direction number
      simp

/-- The fields of a dynamic input, as the texts of its site. -/
theorem dynamicFields_leaves
    {render : DynamicInputFieldPlan → Rendering GeneratedDynamicInputSiteField}
    {texts : DynamicInputFieldPlan → Bool}
    (hfield : ∀ field, Leaves (render field)
      ((mentioned (.column field.column)).kept (texts field))
      (fun field => fieldNumbers [field]))
    (fields : List DynamicInputFieldPlan)
    (path : InputPath)
    (kind : DynamicInputKind) :
    Leaves
      (fields.mapM render >>= fun fields =>
        SqlTemplateContext.dynamicSite path kind fields)
      (.concat (fields.map (fun field =>
        (mentioned (.column field.column)).inSite (texts field))))
      Sql.numbers := by
  have hfields := Leaves.mapM fields (fun field _ => hfield field)
  have hall : Leaves (fields.mapM render)
      (.concat (fields.map (fun field =>
        (mentioned (.column field.column)).kept (texts field))))
      fieldNumbers := by
    refine hfields.imp ?_
    intro parameters values hwrites
    refine hwrites.congr (fun number => ?_) (fun _ => Iff.rfl)
    simp only [fieldNumbers, Sql.numbersOfAll_eq, List.flatMap_singleton,
      List.flatMap_assoc]
  refine (dynamicSite_leaves hall path kind).congr ?_ ?_ ?_
  · simp [Mentions.inSite, Mentions.kept, List.flatMap_map]
  · intro path
    simp only [Mentions.inSite, Mentions.kept, Mentions.sited_concat,
      Mentions.placed_concat, List.flatMap_map, List.mem_flatMap,
      List.mem_append, if_true]
    constructor
    · rintro ⟨field, hfield, hsited | hplaced⟩
      · exact .inl ⟨field, hfield, hsited⟩
      · exact .inr ⟨field, hfield, hplaced⟩
    · rintro (⟨field, hfield, hsited⟩ | ⟨field, hfield, hplaced⟩)
      · exact ⟨field, hfield, .inl hsited⟩
      · exact ⟨field, hfield, .inr hplaced⟩
  · intro path
    simp [Mentions.inSite, List.flatMap_map]

/-! ## Related rows -/

/-- The condition of a relation mentions nothing. -/
theorem relationCondition_leaves
    (parent child : Alias)
    (relation : Relation) :
    Leaves (relationCondition catalog parent child relation) .empty
      Sql.numbersOfAll := by
  rw [← Mentions.concat_map_empty
    (relation.localColumns.zip relation.targetColumns),
    funext Sql.numbersOfAll_eq]
  refine Leaves.mapM _ fun columns _ => ?_
  refine Silent.bind (column_silent catalog columns.2) fun childColumn => ?_
  refine Silent.bind (column_silent catalog columns.1) fun parentColumn => ?_
  exact Leaves.done (by simp)

/-- The guard of a relation is mentioned. -/
theorem relationFilter_leaves
    (h : source.Mentioned mentioned)
    (relation : Relation) :
    Leaves (relationFilter source relation)
      (mentioned (.relation relation.id)) Sql.numbersOfAll := by
  unfold relationFilter
  cases hguard : source.policyFieldFilter (.relation relation.id) with
  | none =>
      rw [h.unguarded _ hguard]
      exact Leaves.done Sql.numbersOfAll_nil
  | some guard =>
      refine (h.guarded _ _ hguard).map ?_
      intro rendered number
      simp

theorem relationConditions_leaves
    (h : source.Mentioned mentioned)
    (child : Alias)
    (relationId : RelationId) :
    Leaves (relationConditions catalog source child relationId)
      (mentioned (.relation relationId)) Sql.numbersOfAll := by
  unfold relationConditions catalogRelation
  cases hrelation : catalog.relationById relationId with
  | none =>
      intro before value after hallotted hrun
      cases hrun
  | some relation =>
      rw [← Catalog.relationById_id hrelation, pure_bind]
      have hconditions :=
        relationCondition_leaves catalog source.context child relation
      refine hconditions.both (relationFilter_leaves h relation) ?_
      intro conditions guard number
      rw [Sql.numbersOfAll_append, List.mem_append]

theorem optionalRelationConditions_leaves
    (h : source.Mentioned mentioned)
    (child : Alias)
    (relation : Option RelationId) :
    Leaves (optionalRelationConditions catalog source child relation)
      (relationMentions mentioned relation) Sql.numbersOfAll := by
  cases relation with
  | none => exact Leaves.done Sql.numbersOfAll_nil
  | some relation => exact relationConditions_leaves catalog h child relation

/-- A query over related rows has the numbers of its parts. -/
theorem mem_relatedQuery
    (context : Alias)
    (table : TableId)
    (output conditions : List Sql)
    (number : Nat) :
    number ∈ (relatedQuery context table output conditions).numbers ↔
      number ∈ Sql.numbersOfAll output ∨ number ∈ Sql.numbersOfAll conditions := by
  unfold relatedQuery
  rw [Sql.numbers_node, Sql.numbersOfAll_append, Sql.numbersOfAll_cons,
    List.mem_append, List.mem_append]
  have hconditions : Sql.numbersOfAll (conditions.map (fun condition =>
      .node .condition [condition])) = Sql.numbersOfAll conditions := by
    simp [Sql.numbersOfAll_eq, List.flatMap_map]
  rw [hconditions]
  simp

/-- A membership has the numbers of its operand and its items. -/
theorem mem_memberListExpr
    (operand item : Sql)
    (items : List Sql)
    (negated : Bool)
    (number : Nat) :
    number ∈ (memberListExpr operand (item :: items) negated).numbers ↔
      number ∈ operand.numbers ∨ number ∈ Sql.numbersOfAll (item :: items) := by
  simp [memberListExpr]

end Columns

/-! ## Filters -/

theorem ConditionalFilter.mem_always (value : Sql) (number : Nat) :
    number ∈ (ConditionalFilter.mk none value).numbers ↔
      number ∈ value.numbers := by
  simp [ConditionalFilter.numbers]

theorem Leaves.filterExpr
    {rendering : Rendering ConditionalFilter}
    {mentions : Mentions}
    (h : Leaves rendering mentions ConditionalFilter.numbers) :
    Leaves (ConditionalFilter.filterExpr <$> rendering) mentions
      Sql.numbers := by
  rw [map_eq_pure_bind]
  exact h.map (fun rendered number => rendered.mem_filterExpr number)

/-- A value without a presence. -/
theorem Leaves.always
    {rendering : Rendering Sql}
    {mentions : Mentions}
    (h : Leaves rendering mentions Sql.numbers) :
    Leaves (rendering >>= fun value => pure (ConditionalFilter.mk none value))
      mentions ConditionalFilter.numbers :=
  h.map ConditionalFilter.mem_always

section Filters

variable (catalog : Catalog)

/-- A filter leaves what it mentions under every scope. -/
def FilterLeaves (filter : FilterExpr) : Prop :=
  ∀ scope mentioned, FilterSqlScope.Mentioned scope mentioned →
    Leaves (conditionalFilterExpr catalog scope filter)
      (filterMentions mentioned filter) ConditionalFilter.numbers

variable {catalog}

/-- The items of a list, one by one. -/
theorem filterItems_leaves
    {scope : FilterSqlScope}
    {mentioned : MentionedScope}
    (hscope : scope.Mentioned mentioned)
    (items : List FilterExpr)
    (h : ∀ item ∈ items, FilterLeaves catalog item) :
    Leaves (filterItems catalog scope items) (itemMentions mentioned items)
      Sql.numbersOfAll := by
  induction items with
  | nil =>
      rw [filterItems, itemMentions]
      exact Leaves.done Sql.numbersOfAll_nil
  | cons item items ih =>
      rw [filterItems, itemMentions]
      have hhead := h item List.mem_cons_self scope mentioned hscope
      have htail := ih (fun other hother =>
        h other (List.mem_cons_of_mem item hother))
      refine hhead.both htail ?_
      intro rendered others number
      rw [Sql.numbersOfAll_cons, List.mem_append, rendered.mem_filterExpr]

/-- A body that may be missing. -/
theorem optionalFilter_leaves
    {scope : FilterSqlScope}
    {mentioned : MentionedScope}
    (hscope : scope.Mentioned mentioned)
    (filter : Option FilterExpr)
    (h : ∀ body ∈ filter, FilterLeaves catalog body) :
    Leaves (optionalFilter catalog scope filter)
      (optionalMentions mentioned filter) Sql.numbersOfAll := by
  cases filter with
  | none =>
      rw [optionalFilter, optionalMentions]
      exact Leaves.done Sql.numbersOfAll_nil
  | some filter =>
      rw [optionalFilter, optionalMentions]
      refine (h filter rfl scope mentioned hscope).map ?_
      intro rendered number
      simp [rendered.mem_filterExpr]

/-- The guards of a row source leave what their filters mention. -/
theorem fieldGuards_mentioned
    (context : Alias)
    (fields : List (PolicyFieldFilter FilterExpr))
    (h : ∀ field ∈ fields, FilterLeaves catalog field.filter) :
    (SqlRowView.mk context (fieldGuards catalog context fields)).Mentioned
      (fieldMentions fields) := by
  induction fields with
  | nil =>
      rw [fieldGuards, fieldMentions]
      exact SqlRowView.raw_mentioned context
  | cons field fields ih =>
      obtain ⟨target, filter, requirements⟩ := field
      have hrest := ih (fun other hother =>
        h other (List.mem_cons_of_mem _ hother))
      have hguard := (h ⟨target, filter, requirements⟩ List.mem_cons_self
        (.raw context) .raw (.raw context)).filterExpr
      rw [map_eq_pure_bind] at hguard
      rw [fieldGuards, fieldMentions]
      refine ⟨?_, ?_⟩
      · intro sought hnone
        cases hsame : target == sought with
        | true => simp [SqlRowView.policyFieldFilter, hsame] at hnone
        | false =>
            simp only [Bool.false_eq_true, if_false]
            refine hrest.unguarded sought ?_
            simpa [SqlRowView.policyFieldFilter, hsame] using hnone
      · intro sought guard hsome
        cases hsame : target == sought with
        | true =>
            simp only [if_true]
            obtain rfl : (do
                SqlTemplateContext.requirePolicyContext requirements
                let guard ←
                  conditionalFilterExpr catalog (.raw context) filter
                return guard.filterExpr) = guard := by
              simpa [SqlRowView.policyFieldFilter, hsame] using hsome
            exact Silent.bind (requirePolicyContext_silent requirements)
              (fun _ => hguard)
        | false =>
            simp only [Bool.false_eq_true, if_false]
            refine hrest.guarded sought guard ?_
            simpa [SqlRowView.policyFieldFilter, hsame] using hsome

/-- By induction over the filter, with its guards and bodies. -/
theorem conditionalFilterExpr_leaves
    (filter : FilterExpr) : FilterLeaves catalog filter := by
  induction filter with
  | absent =>
      intro scope mentioned hscope
      rw [conditionalFilterExpr, filterMentions]
      exact Leaves.done (by simp [ConditionalFilter.absent,
        ConditionalFilter.numbers])
  | optional parameter operand ih =>
      intro scope mentioned hscope
      rw [conditionalFilterExpr, filterMentions]
      exact (ih scope mentioned hscope).both (parameter_leaves parameter)
        ConditionalFilter.mem_optional
  | column columnScope columnId =>
      intro scope mentioned hscope
      rw [conditionalFilterExpr, filterMentions]
      exact (maskedColumnExpression_leaves catalog
        (hscope.columnSource columnScope) columnId).always
  | literal value =>
      intro scope mentioned hscope
      rw [conditionalFilterExpr, filterMentions]
      exact Leaves.done (by simp [ConditionalFilter.numbers])
  | parameter parameter =>
      intro scope mentioned hscope
      rw [conditionalFilterExpr, filterMentions]
      exact (parameter_leaves parameter).always
  | dynamicPredicate path surface fields =>
      intro scope mentioned hscope
      rw [conditionalFilterExpr, filterMentions]
      have hsite := dynamicFields_leaves
        (predicateField_leaves catalog hscope.current) fields path .predicate
      have halways := hsite.always
      rw [bind_assoc] at halways
      exact halways
  | binary left op right ihleft ihright =>
      intro scope mentioned hscope
      have hleft := ihleft scope mentioned hscope
      have hright := ihright scope mentioned hscope
      rw [conditionalFilterExpr, filterMentions]
      by_cases hconnective : op = .and ∨ op = .or
      · rw [if_pos hconnective]
        exact hleft.both hright (fun left right =>
          left.mem_combine (op == .and) right)
      · rw [if_neg hconnective]
        exact (comparisonExpr_leaves catalog hscope hleft.filterExpr
          hright.filterExpr op).always
  | not_ operand ih =>
      intro scope mentioned hscope
      rw [conditionalFilterExpr, filterMentions]
      refine (ih scope mentioned hscope).map ?_
      intro rendered number
      simp [ConditionalFilter.negated, ConditionalFilter.numbers]
  | nullTest operand negated ih =>
      intro scope mentioned hscope
      rw [conditionalFilterExpr, filterMentions]
      exact (nullTestExpr_leaves catalog hscope
        (ih scope mentioned hscope).filterExpr negated).always
  | memberList operand items negated ihoperand ihitems =>
      intro scope mentioned hscope
      have hoperand := ihoperand scope mentioned hscope
      rw [conditionalFilterExpr, filterMentions]
      cases items with
      | nil =>
          rw [filterItems, itemMentions, Mentions.append_empty]
          refine hoperand.drop ?_
          intro rendered
          cases negated <;>
            simp [memberListExpr, ConditionalFilter.numbers]
      | cons item items =>
          have hitem := ihitems item List.mem_cons_self scope mentioned hscope
          have hitems := filterItems_leaves hscope items (fun other hother =>
            ihitems other (List.mem_cons_of_mem item hother))
          simp only [filterItems, itemMentions, bind_assoc, pure_bind]
          refine Renders.congr (hoperand.bind fun rendered =>
            hitem.bind fun first => hitems.bind fun others =>
              Renders.pure ?_) ?_ ?_
          · intro parameters hothers hfirst hrendered
            refine (hrendered.append (hfirst.append hothers)).congr ?_
              (fun _ => Iff.rfl)
            intro number
            rw [ConditionalFilter.mem_always, mem_memberListExpr]
            simp [rendered.mem_filterExpr, first.mem_filterExpr]
          · simp
          · simp
  | memberParameter operand parameter negated ih =>
      intro scope mentioned hscope
      rw [conditionalFilterExpr, filterMentions]
      refine (ih scope mentioned hscope).both (parameter_leaves parameter) ?_
      intro rendered placeholder number
      rw [ConditionalFilter.mem_always]
      simp [rendered.mem_filterExpr]
  | variantBinary left path variants right ihleft ihright =>
      intro scope mentioned hscope
      rw [conditionalFilterExpr, filterMentions]
      exact (variantExpr_leaves (ihleft scope mentioned hscope).filterExpr
        (ihright scope mentioned hscope).filterExpr path variants).always
  | exists_ relation tableId kind sourceScope policyFilter fieldFilters filter
      ihpolicy ihfields ihfilter =>
      intro scope mentioned hscope
      rw [conditionalFilterExpr, filterMentions]
      refine Silent.bind (table_silent catalog tableId) fun related => ?_
      have hsource := hscope.columnSource sourceScope
      have hview := fieldGuards_mentioned (existsContext related.id)
        fieldFilters ihfields
      refine Renders.congr (Leaves.bind
        (optionalRelationConditions_leaves catalog hsource _ relation)
        fun correlation => Leaves.bind
          (optionalFilter_leaves (.raw _) policyFilter ihpolicy)
          fun policy => Leaves.bind
            (optionalFilter_leaves (hscope.body kind hview hsource) filter
              ihfilter)
            fun body => Renders.pure ?_) ?_ ?_
      · intro parameters hbody hpolicy hcorrelation
        refine ((hcorrelation.append hpolicy).append hbody).congr ?_
          (fun _ => Iff.rfl)
        intro number
        rw [ConditionalFilter.mem_always, Sql.numbers_node,
          Sql.numbersOfAll_cons, Sql.numbersOfAll_nil, List.append_nil,
          mem_relatedQuery]
        simp
      · simp
      · simp
  | relationAggregate relation tableId function operand policyFilter
      fieldFilters ihpolicy ihfields =>
      intro scope mentioned hscope
      rw [conditionalFilterExpr, filterMentions]
      refine Silent.bind (table_silent catalog tableId) fun related => ?_
      have hview := fieldGuards_mentioned
        (aggregateContext related.id function) fieldFilters ihfields
      have hcorrelation := relationConditions_leaves catalog hscope.current
        (aggregateContext related.id function) relation
      have hpolicy := optionalFilter_leaves
        (.raw (aggregateContext related.id function)) policyFilter ihpolicy
      by_cases hexists : function = .exists
      · subst hexists
        refine Renders.congr (hcorrelation.bind fun correlation =>
          hpolicy.bind fun policy => Renders.pure ?_) ?_ ?_
        · intro parameters hpolicy hcorrelation
          refine (hcorrelation.append hpolicy).congr ?_ (by simp)
          intro number
          rw [ConditionalFilter.mem_always, Sql.numbers_node,
            Sql.numbersOfAll_cons, Sql.numbersOfAll_nil, List.append_nil,
            mem_relatedQuery]
          simp
        · simp
        · simp
      · rw [if_neg hexists]
        have hvalue := aggregateValueExpression_leaves catalog hview function
          operand
        simp only [if_neg hexists]
        refine Renders.congr (hcorrelation.bind fun correlation =>
          hpolicy.bind fun policy => hvalue.bind fun value =>
            Renders.pure ?_) ?_ ?_
        · intro parameters hvalue hpolicy hcorrelation
          refine ((hcorrelation.append hpolicy).append hvalue).congr ?_
            (fun _ => Iff.rfl)
          intro number
          rw [ConditionalFilter.mem_always, Sql.numbers_node,
            Sql.numbersOfAll_cons, Sql.numbersOfAll_nil, List.append_nil,
            mem_relatedQuery]
          simp only [Sql.numbersOfAll_cons, Sql.numbersOfAll_nil,
            Sql.numbersOfAll_append, List.append_nil, List.mem_append]
          tauto
        · simp
        · simp

end Filters

end Postgres

end Dsql
