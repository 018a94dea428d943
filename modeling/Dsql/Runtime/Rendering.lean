import Dsql.Runtime.Pieces

/-!
# Rendering refines pieces

The executor's renderer writes out the pieces of a dynamic input, and every
placeholder that it writes is the position of a parameter that carries the
operand.
-/

namespace Dsql

namespace Execute

open SqlPiece

/-- A parameter carries an operand: its type, and its value up to the equality
by which sites share operands. -/
structure Carries
    (library : ExecutorLibrary)
    (parameter operand : BoundParameter) : Prop where
  dataType : parameter.dataType = operand.dataType
  wire : parameter.wire = operand.wire
  providerType : parameter.providerType = operand.providerType
  collection : parameter.collection = operand.collection
  value : parameter.value = operand.value ∨
    library.sameValue parameter.value operand.value = true

/-- The operands stand at the next positions; those beyond the parameters so
far are new. -/
structure Allocated
    (library : ExecutorLibrary)
    (before : RenderState)
    (operands : List BoundParameter)
    (after : RenderState) : Prop where
  index : after.operandIndex = before.operandIndex + operands.length
  parameters : after.parameters = before.parameters ++
    operands.drop (before.parameters.length - before.operandIndex)
  carried : ∀ offset operand, operands[offset]? = some operand →
    ∃ parameter,
      after.parameters[before.operandIndex + offset]? = some parameter ∧
        Carries library parameter operand

section Allocation

variable {library : ExecutorLibrary}
variable {before middle after : RenderState}

theorem Carries.refl (operand : BoundParameter) :
    Carries library operand operand :=
  ⟨rfl, rfl, rfl, rfl, .inl rfl⟩

theorem allocated_nil (state : RenderState) :
    Allocated library state [] state :=
  ⟨rfl, by simp, fun _ _ h => by simp at h⟩

/-- Operands that stand at a position keep standing there. -/
theorem Allocated.append
    {first second : List BoundParameter}
    (hfirst : Allocated library before first middle)
    (hsecond : Allocated library middle second after) :
    Allocated library before (first ++ second) after := by
  refine ⟨?_, ?_, ?_⟩
  · rw [hsecond.index, hfirst.index, List.length_append]
    omega
  · rw [hsecond.parameters, hfirst.parameters, hfirst.index,
      List.append_assoc, List.drop_append]
    congr 3
    simp only [List.length_append, List.length_drop]
    omega
  · intro offset operand hget
    by_cases hoffset : offset < first.length
    · rw [List.getElem?_append_left hoffset] at hget
      obtain ⟨parameter, hparameter, hcarries⟩ :=
        hfirst.carried offset operand hget
      refine ⟨parameter, ?_, hcarries⟩
      rw [hsecond.parameters, List.getElem?_append_left]
      · exact hparameter
      · exact (List.getElem?_eq_some_iff.mp hparameter).1
    · rw [List.getElem?_append_right (by omega)] at hget
      obtain ⟨parameter, hparameter, hcarries⟩ :=
        hsecond.carried _ operand hget
      refine ⟨parameter, ?_, hcarries⟩
      rw [hfirst.index] at hparameter
      rw [← hparameter]
      congr 1
      omega

/-- The placeholder of one operand. -/
theorem dynamicParameter_allocated
    {operand : BoundParameter}
    {placeholder : String}
    (h : dynamicParameter library operand before =
      .ok (placeholder, after)) :
    placeholder = "$" ++ toString (before.operandIndex + 1) ∧
      Allocated library before [operand] after := by
  unfold dynamicParameter at h
  simp only at h
  split at h
  · next hlast =>
      cases h
      refine ⟨rfl, rfl, by simp [hlast], ?_⟩
      intro offset found hget
      cases offset with
      | succ offset => simp at hget
      | zero =>
          have heq : operand = found := by simpa using hget
          subst heq
          exact ⟨operand, by simp [hlast], .refl operand⟩
  · next hlast =>
      split at h
      · cases h
      · next existing hexisting =>
          split at h
          · next hreusable =>
              cases h
              have hbound := (List.getElem?_eq_some_iff.mp hexisting).1
              refine ⟨rfl, rfl, ?_, ?_⟩
              · rw [List.drop_of_length_le, List.append_nil]
                simp only [List.length_singleton]
                omega
              intro offset found hget
              cases offset with
              | succ offset => simp at hget
              | zero =>
                  have heq : operand = found := by simpa using hget
                  subst heq
                  simp only [reusable, Bool.and_eq_true,
                    decide_eq_true_eq] at hreusable
                  obtain ⟨⟨⟨⟨htype, hwire⟩, hprovider⟩, hcollection⟩, hvalue⟩ :=
                    hreusable
                  exact ⟨existing, hexisting, htype, hwire, hprovider,
                    hcollection, .inr hvalue⟩
          · cases h

end Allocation

/-- A rendering writes out its pieces: `number` is their text at a position
and `operands` what they bind. -/
def Renders
    {α β : Type}
    (library : ExecutorLibrary)
    (number : Nat → β → α)
    (operands : β → List BoundParameter)
    (render : Render α)
    (pieces : Except ExecuteError β) : Prop :=
  ∀ before value after, render before = .ok (value, after) →
    ∃ result, pieces = .ok result ∧
      value = number before.operandIndex result ∧
      Allocated library before (operands result) after

section Rules

variable {α β γ δ : Type}
variable {library : ExecutorLibrary}
variable {number : Nat → β → α}
variable {operands : β → List BoundParameter}

theorem bind_ok
    {render : Render α}
    {next : α → Render γ}
    {before after : RenderState}
    {value : γ}
    (h : (render >>= next) before = .ok (value, after)) :
    ∃ middle state, render before = .ok (middle, state) ∧
      next middle state = .ok (value, after) := by
  have hbind : (render before >>= fun result => next result.1 result.2) =
      .ok (value, after) := h
  cases hrender : render before with
  | error error => rw [hrender] at hbind; cases hbind
  | ok result =>
      rw [hrender] at hbind
      exact ⟨result.1, result.2, rfl, hbind⟩

/-- A value without operands. -/
theorem renders_pure
    {value : α}
    {result : β}
    (hvalue : ∀ start, value = number start result)
    (hoperands : operands result = []) :
    Renders library number operands (pure value) (.ok result) := by
  intro before found after h
  cases h
  refine ⟨result, rfl, hvalue _, ?_⟩
  rw [hoperands]
  exact allocated_nil _

theorem renders_error
    {error : ExecuteError}
    {pieces : Except ExecuteError β} :
    Renders library number operands
      (liftM (Except.error error : Except ExecuteError α) : Render α)
      pieces := by
  intro before value after h
  cases h

/-- A check that both sides make. -/
theorem renders_check
    {check : Except ExecuteError γ}
    {next : γ → Render α}
    {pieces : γ → Except ExecuteError β}
    (h : ∀ found, check = .ok found →
      Renders library number operands (next found) (pieces found)) :
    Renders library number operands (liftM check >>= next)
      (check >>= pieces) := by
  intro before value after hrender
  cases hcheck : check with
  | error error =>
      rw [hcheck] at hrender
      cases hrender
  | ok found =>
      rw [hcheck] at hrender
      exact h found hcheck before value after hrender

theorem renders_map
    {number' : Nat → δ → γ}
    {operands' : δ → List BoundParameter}
    {render : Render α}
    {pieces : Except ExecuteError β}
    {f : α → γ}
    {g : β → δ}
    (h : Renders library number operands render pieces)
    (hnumber : ∀ start result, f (number start result) =
      number' start (g result))
    (hoperands : ∀ result, operands' (g result) = operands result) :
    Renders library number' operands' (f <$> render) (g <$> pieces) := by
  intro before value after hrender
  have hbound : (render >>= fun found => pure (f found)) before =
      .ok (value, after) := hrender
  obtain ⟨middle, state, hmiddle, hpure⟩ := bind_ok hbound
  obtain ⟨result, hpieces, hvalue, hallocated⟩ := h _ _ _ hmiddle
  cases hpure
  refine ⟨g result, by rw [hpieces]; rfl, ?_, ?_⟩
  · rw [hvalue, hnumber]
  · rw [hoperands]
    exact hallocated

/-- Two renderings in a row, whose results are put together. -/
theorem renders_both
    {α₁ α₂ β₁ β₂ : Type}
    {number₁ : Nat → β₁ → α₁}
    {number₂ : Nat → β₂ → α₂}
    {operands₁ : β₁ → List BoundParameter}
    {operands₂ : β₂ → List BoundParameter}
    {first : Render α₁}
    {second : Render α₂}
    {pieces₁ : Except ExecuteError β₁}
    {pieces₂ : Except ExecuteError β₂}
    {join : α₁ → α₂ → α}
    {merge : β₁ → β₂ → β}
    (hfirst : Renders library number₁ operands₁ first pieces₁)
    (hsecond : Renders library number₂ operands₂ second pieces₂)
    (hnumber : ∀ start left right,
      join (number₁ start left)
          (number₂ (start + (operands₁ left).length) right) =
        number start (merge left right))
    (hoperands : ∀ left right,
      operands (merge left right) = operands₁ left ++ operands₂ right) :
    Renders library number operands
      (do
        let left ← first
        let right ← second
        pure (join left right))
      (do
        let left ← pieces₁
        let right ← pieces₂
        .ok (merge left right)) := by
  intro before value after hrender
  obtain ⟨found, state, hfound, hrest⟩ := bind_ok hrender
  obtain ⟨other, last, hother, hpure⟩ := bind_ok hrest
  obtain ⟨left, hleft, hfoundEq, hfoundAllocated⟩ := hfirst _ _ _ hfound
  obtain ⟨right, hright, hotherEq, hotherAllocated⟩ := hsecond _ _ _ hother
  cases hpure
  refine ⟨merge left right, by rw [hleft, hright]; rfl, ?_, ?_⟩
  · rw [hfoundEq, hotherEq, hfoundAllocated.index]
    exact hnumber _ _ _
  · rw [hoperands]
    exact hfoundAllocated.append hotherAllocated

end Rules

section Operators

variable {library : ExecutorLibrary}
variable {input : DynamicInputMetadata}
variable {site : DynamicInputSite}

theorem renders_aroundPlaceholder
    (operator : DynamicPredicateOperatorMetadata)
    (operand : BoundParameter) :
    Renders library SqlPiece.render SqlPiece.operands
      (aroundPlaceholder library operator operand)
      (.ok (aroundOperand operator operand)) := by
  intro before value after h
  obtain ⟨placeholder, state, hplaceholder, hpure⟩ := bind_ok h
  obtain ⟨rfl, hallocated⟩ := dynamicParameter_allocated hplaceholder
  cases hpure
  refine ⟨_, rfl, ?_, hallocated⟩
  simp [aroundOperand, SqlPiece.render, String.append_assoc]

theorem renders_scalar
    (operator : DynamicPredicateOperatorMetadata)
    (fieldKey path : String)
    (operand : Json) :
    Renders library SqlPiece.render SqlPiece.operands
      (renderScalar library input operator fieldKey path operand)
      (scalarPieces library input operator fieldKey path operand) :=
  renders_check fun _ _ => renders_check fun _ _ =>
    renders_aroundPlaceholder operator _

theorem renders_collection
    (operator : DynamicPredicateOperatorMetadata)
    (fieldKey path : String)
    (operand : Json) :
    Renders library SqlPiece.render SqlPiece.operands
      (renderCollection library input operator fieldKey path operand)
      (collectionPieces library input operator fieldKey path operand) := by
  refine renders_check fun _ _ => renders_check fun items _ => ?_
  split
  · exact renders_pure (fun start => by simp [SqlPiece.render]) rfl
  · exact renders_aroundPlaceholder operator _

/-- A text that a check selects. -/
theorem renders_content
    (check : Except ExecuteError String) :
    Renders library SqlPiece.render SqlPiece.operands
      (liftM check : Render String)
      (do
        let content ← check
        .ok [.text content]) := by
  cases check with
  | error error => exact renders_error
  | ok content =>
      exact renders_pure (fun start => by simp [SqlPiece.render]) rfl

/-- One operator, by the kind of its operand. -/
theorem renders_operator
    (field : DynamicInputSiteField)
    (path fieldKey : String)
    (entry : String × Json) :
    Renders library SqlPiece.render SqlPiece.operands
      (renderOperator library input field path fieldKey entry)
      (operatorPieces library input field path fieldKey entry) := by
  unfold renderOperator operatorPieces
  cases field.operators.find? (fun operator => operator.name = entry.1) with
  | none => exact renders_error
  | some operator =>
      by_cases hscalar : operator.valueKind = "scalar"
      · simp only [if_pos hscalar]
        exact renders_scalar operator _ _ _
      by_cases hcollection : operator.valueKind = "collection"
      · simp only [if_neg hscalar, if_pos hcollection]
        exact renders_collection operator _ _ _
      by_cases hboolean : operator.valueKind = "boolean"
      · simp only [if_neg hscalar, if_neg hcollection, if_pos hboolean]
        exact renders_content _
      · simp only [if_neg hscalar, if_neg hcollection, if_neg hboolean]
        exact renders_error

theorem renders_operators
    (field : DynamicInputSiteField)
    (path fieldKey : String)
    (entries : List (String × Json)) :
    Renders library SqlPiece.renderAll SqlPiece.operandsAll
      (renderOperators library input field path fieldKey entries)
      (operatorsPieces library input field path fieldKey entries) := by
  induction entries with
  | nil => exact renders_pure (fun _ => rfl) rfl
  | cons entry rest ih =>
      exact renders_both (renders_operator field path fieldKey entry) ih
        (fun _ _ _ => rfl) (fun _ _ => rfl)

theorem renders_field
    (path fieldKey : String)
    (value : Json) :
    Renders library SqlPiece.renderAll SqlPiece.operandsAll
      (renderField library input site path fieldKey value)
      (fieldPieces library input site path fieldKey value) := by
  refine renders_check fun field _ => ?_
  cases value.asObject with
  | none => exact renders_error
  | some operators => exact renders_operators field path fieldKey _

end Operators

section Predicates

variable {library : ExecutorLibrary}
variable {input : DynamicInputMetadata}
variable {site : DynamicInputSite}

/-- One entry of a predicate object. -/
def renderEntry
    (library : ExecutorLibrary)
    (input : DynamicInputMetadata)
    (site : DynamicInputSite)
    (path : String)
    (entry : String × Json) : Render (List String) :=
  if entry.1 = "and" then
    conjunction <$>
      renderArray library input site (path ++ ".and") entry.2
  else if entry.1 = "or" then
    disjunction <$> renderArray library input site (path ++ ".or") entry.2
  else if entry.1 = "not" then
    negation <$>
      renderDynamicPredicate library input site (path ++ ".not") entry.2
  else
    renderField library input site path entry.1 entry.2

def entryPieces
    (library : ExecutorLibrary)
    (input : DynamicInputMetadata)
    (site : DynamicInputSite)
    (path : String)
    (entry : String × Json) : Except ExecuteError (List (List SqlPiece)) :=
  if entry.1 = "and" then
    conjunctionPieces <$>
      arrayPieces library input site (path ++ ".and") entry.2
  else if entry.1 = "or" then
    disjunctionPieces <$>
      arrayPieces library input site (path ++ ".or") entry.2
  else if entry.1 = "not" then
    negationPieces <$>
      predicatePieces library input site (path ++ ".not") entry.2
  else
    fieldPieces library input site path entry.1 entry.2

theorem renderEntries_eq_map (path : String) (entries : List (String × Json)) :
    renderEntries library input site path entries =
      entries.map (fun entry =>
        (entry.1, renderEntry library input site path entry)) := by
  induction entries with
  | nil => rw [renderEntries]; rfl
  | cons entry rest ih =>
      rw [renderEntries, ih]
      rfl

theorem entriesPieces_eq_map (path : String) (entries : List (String × Json)) :
    entriesPieces library input site path entries =
      entries.map (fun entry =>
        (entry.1, entryPieces library input site path entry)) := by
  induction entries with
  | nil => rw [entriesPieces]; rfl
  | cons entry rest ih =>
      rw [entriesPieces, ih]
      rfl

theorem renders_runEntries
    (path : String)
    (entries : List (String × Json))
    (h : ∀ entry ∈ entries,
      Renders library SqlPiece.renderAll SqlPiece.operandsAll
        (renderEntry library input site path entry)
        (entryPieces library input site path entry)) :
    Renders library SqlPiece.renderAll SqlPiece.operandsAll
      (runEntries (entries.map (fun entry =>
        (entry.1, renderEntry library input site path entry))))
      (collectEntries (entries.map (fun entry =>
        (entry.1, entryPieces library input site path entry)))) := by
  induction entries with
  | nil => exact renders_pure (fun _ => rfl) rfl
  | cons entry rest ih =>
      refine renders_both (h entry List.mem_cons_self)
        (ih (fun other hother => h other (List.mem_cons_of_mem _ hother)))
        (fun start left right => ?_) (fun left right => ?_)
      · rw [SqlPiece.renderAll_append]
      · simp [SqlPiece.operandsAll]

/-- The text of an optional predicate. -/
def renderOption (start : Nat) (pieces : Option (List SqlPiece)) :
    Option String :=
  pieces.map (SqlPiece.render start)

def operandsOption (pieces : Option (List SqlPiece)) : List BoundParameter :=
  (pieces.map SqlPiece.operands).getD []

theorem renders_predicate_of_entries
    (path : String)
    (entries : List (String × Json))
    (h : ∀ entry ∈ entries,
      Renders library SqlPiece.renderAll SqlPiece.operandsAll
        (renderEntry library input site path entry)
        (entryPieces library input site path entry)) :
    Renders library renderOption operandsOption
      (renderDynamicPredicate library input site path (.object entries))
      (predicatePieces library input site path (.object entries)) := by
  rw [renderDynamicPredicate, predicatePieces, renderEntries_eq_map,
    entriesPieces_eq_map, sortByKey_map, sortByKey_map]
  refine renders_map
    (renders_runEntries path (sortByKey entries) (fun entry hentry =>
      h entry (mem_sortByKey.mp hentry)))
    (fun start groups => ?_) (fun groups => ?_)
  · cases groups with
    | nil => rfl
    | cons pieces rest =>
        simp [joined, joinedPieces, renderOption, SqlPiece.renderAll,
          SqlPiece.render_parenthesized]
  · cases groups with
    | nil => rfl
    | cons pieces rest => simp [joinedPieces, operandsOption]

theorem renders_children
    (path : String)
    (items : List Json)
    (h : ∀ item ∈ items, ∀ path,
      Renders library renderOption operandsOption
        (renderDynamicPredicate library input site path item)
        (predicatePieces library input site path item))
    (index : Nat) :
    Renders library SqlPiece.renderAll SqlPiece.operandsAll
      (renderChildren library input site path index items)
      (childrenPieces library input site path index items) := by
  induction items generalizing index with
  | nil => exact renders_pure (fun _ => rfl) rfl
  | cons item rest ih =>
      rw [renderChildren, childrenPieces]
      refine renders_both (h item List.mem_cons_self _)
        (ih (fun other hother => h other (List.mem_cons_of_mem _ hother)) _)
        (fun start child children => ?_) (fun child children => ?_)
      · cases child with
        | none => rfl
        | some pieces => rfl
      · cases child with
        | none => rfl
        | some pieces => rfl

/-- The triple of an entry from the triples of what it contains. -/
theorem renders_entry
    (path : String)
    (entry : String × Json)
    (hpredicate : ∀ path,
      Renders library renderOption operandsOption
        (renderDynamicPredicate library input site path entry.2)
        (predicatePieces library input site path entry.2))
    (harray : ∀ path,
      Renders library SqlPiece.renderAll SqlPiece.operandsAll
        (renderArray library input site path entry.2)
        (arrayPieces library input site path entry.2)) :
    Renders library SqlPiece.renderAll SqlPiece.operandsAll
      (renderEntry library input site path entry)
      (entryPieces library input site path entry) := by
  unfold renderEntry entryPieces
  split
  · refine renders_map (harray _) (fun start groups => ?_) (fun groups => ?_)
    · cases groups with
      | nil => rfl
      | cons pieces rest =>
          simp [conjunction, conjunctionPieces, SqlPiece.renderAll,
            SqlPiece.render_parenthesized]
    · cases groups with
      | nil => rfl
      | cons pieces rest =>
          simp [conjunctionPieces, SqlPiece.operandsAll]
  split
  · refine renders_map (harray _) (fun start groups => ?_) (fun groups => ?_)
    · cases groups with
      | nil => rfl
      | cons pieces rest =>
          simp [disjunction, disjunctionPieces, SqlPiece.renderAll,
            SqlPiece.render_parenthesized]
    · cases groups with
      | nil => rfl
      | cons pieces rest =>
          simp [disjunctionPieces, SqlPiece.operandsAll]
  split
  · refine renders_map (hpredicate _) (fun start child => ?_)
      (fun child => ?_)
    · cases child with
      | none => rfl
      | some pieces =>
          simp [negation, negationPieces, renderOption, SqlPiece.renderAll,
            SqlPiece.render, SqlPiece.render_append, String.append_assoc]
    · cases child with
      | none => rfl
      | some pieces =>
          simp [negationPieces, operandsOption, SqlPiece.operandsAll,
            SqlPiece.operands]
  · exact renders_field path entry.1 entry.2

/-- Rendering a predicate writes out its pieces. -/
theorem renders_predicate (value : Json) :
    (∀ path,
      Renders library renderOption operandsOption
        (renderDynamicPredicate library input site path value)
        (predicatePieces library input site path value)) ∧
    (∀ path,
      Renders library SqlPiece.renderAll SqlPiece.operandsAll
        (renderArray library input site path value)
        (arrayPieces library input site path value)) := by
  induction value using Json.induction with
  | array items ih =>
      refine ⟨fun path => ?_, fun path => ?_⟩
      · rw [renderDynamicPredicate]
        · exact renders_error
        · simp
      · exact renders_children path items
          (fun item hitem => (ih item hitem).1) 0
  | object entries ih =>
      refine ⟨fun path => renders_predicate_of_entries path entries
        (fun entry hentry => renders_entry path entry (ih entry hentry).1
          (ih entry hentry).2), fun path => ?_⟩
      rw [renderArray]
      · exact renders_error
      · simp
  | _ =>
      refine ⟨fun path => ?_, fun path => ?_⟩
      · rw [renderDynamicPredicate]
        · exact renders_error
        · simp
      · rw [renderArray]
        · exact renders_error
        · simp

/-- Rendering a site writes out its pieces. -/
theorem renders_site (value : Json) :
    Renders library SqlPiece.render SqlPiece.operands
      (renderSite library input site value)
      (sitePieces library input site value) := by
  unfold renderSite sitePieces
  by_cases hpredicate : input.kind = "predicate"
  · rw [if_pos hpredicate, if_pos hpredicate]
    show Renders library _ _
      ((fun rendered : Option String => rendered.getD site.identitySql) <$> _)
      ((fun pieces : Option (List SqlPiece) =>
        pieces.getD [.text site.identitySql]) <$> _)
    refine renders_map ((renders_predicate value).1 input.path)
      (fun start pieces => ?_) (fun pieces => ?_)
    · cases pieces with
      | none => simp [renderOption, SqlPiece.render]
      | some pieces => rfl
    · cases pieces with
      | none => rfl
      | some pieces => rfl
  rw [if_neg hpredicate, if_neg hpredicate]
  by_cases horder : input.kind = "order"
  · rw [if_pos horder, if_pos horder]
    refine renders_check fun rendered _ => ?_
    exact renders_pure (fun start => by simp [SqlPiece.render]) rfl
  · rw [if_neg horder, if_neg horder]
    exact renders_error

end Predicates

end Execute

end Dsql
