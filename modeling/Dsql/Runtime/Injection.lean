import Dsql.Runtime.Shape

/-!
# Injection freedom

The SQL of an operation depends on the shape of its dynamic inputs and on the
selected variants alone, and its placeholders stand for the operands.
-/

namespace Dsql

namespace Execute

/-- Two bindings select the same variants and have dynamic inputs of one
shape. -/
def SameShape
    (shape : DynamicInputMetadata → DynamicInputSite → Json → Json)
    (library : ExecutorLibrary)
    (operation : OperationMetadata)
    (left right : ExecutionBindings) : Prop :=
  ∀ values others,
    inputValues library left (declaredFields operation) [] = .ok values →
    inputValues library right (declaredFields operation) [] = .ok others →
      (∀ variant ∈ operation.sql.variants,
        (values.lookup variant.path).bind Json.asString =
          (others.lookup variant.path).bind Json.asString) ∧
      ∀ input ∈ operation.dynamicInputs, ∀ value other,
        dynamicValue input values = .ok value →
        dynamicValue input others = .ok other →
          ∀ site ∈ input.sites, shape input site value = shape input site other

section Variants

variable {fields : List InputField}
variable {values others : InputValues}

/-- The text of a variant depends on the string that selects it. -/
theorem variantText_congr
    {variant : SqlVariantMetadata}
    {value other : Json}
    {content otherContent : String}
    (hvalue : variantText variant value = .ok content)
    (hother : variantText variant other = .ok otherContent)
    (h : value.asString = other.asString) :
    content = otherContent := by
  have hcases : ∀ (value : Json) (content : String),
      variantText variant value = .ok content →
        (value.asString = none ∧ variant.nullText = some content) ∨
        ∃ selected choice, value.asString = some selected ∧
          variant.cases.find? (fun choice => choice.value = selected) =
            some choice ∧ choice.text = content := by
    intro value content hcontent
    unfold variantText at hcontent
    cases value with
    | null =>
        cases hnull : variant.nullText with
        | none => simp [Json.isNull, hnull, invalid] at hcontent
        | some found =>
            have hfound : found = content := by
              simpa [Json.isNull, hnull] using hcontent
            exact .inl ⟨rfl, by rw [hfound]⟩
    | string selected =>
        cases hfind : variant.cases.find? (fun choice =>
            choice.value = selected) with
        | none => simp [Json.isNull, Json.asString, hfind] at hcontent
        | some choice =>
            have hfound : choice.text = content := by
              simpa [Json.isNull, Json.asString, hfind] using hcontent
            exact .inr ⟨selected, choice, rfl, hfind, hfound⟩
    | _ => simp [Json.isNull, Json.asString, invalid] at hcontent
  rcases hcases value content hvalue with
    ⟨hnone, htext⟩ | ⟨selected, choice, hselected, hfind, rfl⟩
  · rcases hcases other otherContent hother with
      ⟨-, hotherText⟩ | ⟨selected, _, hselected, -, -⟩
    · rw [htext, Option.some.injEq] at hotherText
      exact hotherText
    · rw [hnone, hselected] at h
      cases h
  · rcases hcases other otherContent hother with
      ⟨hnone, -⟩ | ⟨otherSelected, otherChoice, hotherSelected, hotherFind, rfl⟩
    · rw [hnone, hselected] at h
      cases h
    · rw [hselected, hotherSelected, Option.some.injEq] at h
      subst h
      rw [hfind, Option.some.injEq] at hotherFind
      rw [hotherFind]

theorem materializedValue_ok
    {path : String}
    {value : Json}
    (h : materializedValue values path = .ok value) :
    values.lookup path = some value := by
  unfold materializedValue at h
  split at h
  · next found hfound =>
      cases h
      exact hfound
  · cases h

theorem applyVariants_congr
    (variants : List SqlVariantMetadata)
    (h : ∀ variant ∈ variants,
      (values.lookup variant.path).bind Json.asString =
        (others.lookup variant.path).bind Json.asString)
    {sql result other : String}
    (hvalues : applyVariants fields values variants sql = .ok result)
    (hothers : applyVariants fields others variants sql = .ok other) :
    result = other := by
  induction variants generalizing sql with
  | nil =>
      cases hvalues
      cases hothers
      rfl
  | cons variant rest ih =>
      obtain ⟨_, -, hvalues⟩ := except_bind_ok hvalues
      obtain ⟨value, hvalue, hvalues⟩ := except_bind_ok hvalues
      obtain ⟨content, hcontent, hvalues⟩ := except_bind_ok hvalues
      obtain ⟨_, -, hothers⟩ := except_bind_ok hothers
      obtain ⟨otherValue, hotherValue, hothers⟩ := except_bind_ok hothers
      obtain ⟨otherContent, hotherContent, hothers⟩ := except_bind_ok hothers
      have hstring := h variant List.mem_cons_self
      rw [materializedValue_ok hvalue, materializedValue_ok hotherValue]
        at hstring
      rw [← variantText_congr hcontent hotherContent hstring] at hothers
      exact ih (fun other hother => h other (List.mem_cons_of_mem _ hother))
        hvalues hothers

end Variants

section Places

variable {library : ExecutorLibrary}

/-- The same sites, with pieces of one template. -/
def SameSites (left right : List PlacedSite) : Prop :=
  List.Forall₂ (fun placed found =>
    placed.site = found.site ∧
      placed.pieces.map SqlPiece.template =
        found.pieces.map SqlPiece.template) left right

/-- Placed sites of one template give one SQL. -/
theorem Places.congr
    {start : Nat}
    {left right : List PlacedSite}
    {sql result other : String}
    (hleft : Places start left sql result)
    (hright : Places start right sql other)
    (h : SameSites left right) :
    result = other := by
  induction hleft generalizing right with
  | nil sql =>
      cases h
      cases hright
      rfl
  | cons before after once found replaced others ih =>
      cases h with
      | cons hfirst hrest =>
          obtain ⟨hsite, htemplate⟩ := hfirst
          cases hright with
          | cons otherBefore otherAfter _ _ otherReplaced otherOthers =>
              rw [← hsite] at otherReplaced
              rw [← otherReplaced, replaced,
                ← (SqlPiece.render_congr htemplate start).1] at otherOthers
              exact ih otherOthers hrest

/-- The sites of an input with values of one shape. -/
theorem InputPlaced.congr
    {values others : InputValues}
    {parameters otherParameters : List BoundParameter}
    {left right : InputPlacement}
    (hleft : InputPlaced library values parameters left)
    (hright : InputPlaced library others otherParameters right)
    (hinput : left.input = right.input)
    (h : ∀ site ∈ left.input.sites,
      siteShape left.input site left.value =
        siteShape left.input site right.value) :
    SameSites left.placed right.placed := by
  have hsites : left.placed.map PlacedSite.site =
      right.placed.map PlacedSite.site := by
    rw [hleft.sites, hright.sites, hinput]
  have hlength : left.placed.length = right.placed.length := by
    simpa using congrArg List.length hsites
  refine List.forall₂_iff_get.mpr ⟨hlength, fun index hindex hother => ?_⟩
  have hsite : (left.placed.get ⟨index, hindex⟩).site =
      (right.placed.get ⟨index, hother⟩).site := by
    have hget := congrArg (fun sites => sites[index]?) hsites
    simpa [hindex, hother] using hget
  refine ⟨hsite, ?_⟩
  have hpieces := hleft.pieces _ (List.get_mem left.placed ⟨index, hindex⟩)
  have hothers := hright.pieces _ (List.get_mem right.placed ⟨index, hother⟩)
  rw [← hinput, ← hsite] at hothers
  refine sitePieces_template (h _ ?_) _ _ hpieces hothers
  rw [← hleft.sites]
  exact List.mem_map_of_mem (List.get_mem left.placed ⟨index, hindex⟩)

theorem InputPlacement.operands_length
    {left right : InputPlacement}
    (h : SameSites left.placed right.placed) :
    left.operands.length = right.operands.length := by
  obtain ⟨input, value, start, placed⟩ := left
  obtain ⟨otherInput, otherValue, otherStart, found⟩ := right
  replace h : SameSites placed found := h
  cases h with
  | nil => rfl
  | cons hfirst hrest => exact (SqlPiece.render_congr hfirst.2 0).2

/-- Inputs with values of one shape give one SQL. -/
theorem PlacesAll.congr
    {values others : InputValues}
    {parameters otherParameters : List BoundParameter}
    {start : Nat}
    {left right : List InputPlacement}
    {sql result other : String}
    (hleft : PlacesAll left sql result)
    (hright : PlacesAll right sql other)
    (hleftStart : Contiguous start left)
    (hrightStart : Contiguous start right)
    (hinputs : left.map InputPlacement.input =
      right.map InputPlacement.input)
    (hleftPlaced : ∀ placement ∈ left,
      InputPlaced library values parameters placement)
    (hrightPlaced : ∀ placement ∈ right,
      InputPlaced library others otherParameters placement)
    (h : ∀ placement ∈ left, ∀ value,
      dynamicValue placement.input others = .ok value →
        ∀ site ∈ placement.input.sites,
          siteShape placement.input site placement.value =
            siteShape placement.input site value) :
    result = other := by
  induction hleft generalizing right start with
  | nil sql =>
      have hnil : right = [] := by simpa using hinputs.symm
      subst hnil
      cases hright
      rfl
  | @cons placement rest sql middle result first othersPlaced ih =>
      cases hright with
      | nil => cases hinputs
      | @cons otherPlacement tail _ otherMiddle _ otherFirst otherRest =>
          rw [List.map_cons, List.map_cons, List.cons.injEq] at hinputs
          obtain ⟨hinput, hrest⟩ := hinputs
          have hplaced := hleftPlaced _ List.mem_cons_self
          have hotherPlaced := hrightPlaced _ List.mem_cons_self
          have hvalue := hotherPlaced.value
          rw [← hinput] at hvalue
          have hsame := hplaced.congr hotherPlaced hinput
            (h _ List.mem_cons_self _ hvalue)
          obtain ⟨hstart, hleftStart⟩ := hleftStart
          obtain ⟨hotherStart, hrightStart⟩ := hrightStart
          rw [hstart] at first
          rw [hotherStart] at otherFirst
          have hmiddle := first.congr otherFirst hsame
          subst hmiddle
          rw [InputPlacement.operands_length hsame] at hleftStart
          exact ih otherRest hleftStart hrightStart hrest
            (fun found hfound => hleftPlaced _ (List.mem_cons_of_mem _ hfound))
            (fun found hfound =>
              hrightPlaced _ (List.mem_cons_of_mem _ hfound))
            (fun found hfound => h _ (List.mem_cons_of_mem _ hfound))

end Places

/-- The SQL is that of every binding of the same shape, and every placeholder
in it stands for the operand written at its place. -/
theorem materialize_injectionFree
    {library : ExecutorLibrary}
    {operation : OperationMetadata}
    {bindings : ExecutionBindings}
    {result : MaterializedOperation}
    (h : materialize library operation bindings = .ok result) :
    (∃ values sql fixed placements,
      Materialized library operation bindings values sql fixed placements
        result) ∧
    ∀ others other,
      materialize library operation others = .ok other →
      SameShape siteShape library operation bindings others →
        result.sql = other.sql := by
  refine ⟨materialize_ok h, fun others other hother hshape => ?_⟩
  obtain ⟨values, sql, fixed, placements, hmaterialized⟩ := materialize_ok h
  obtain ⟨otherValues, otherSql, otherFixed, otherPlacements, hothers⟩ :=
    materialize_ok hother
  obtain ⟨hvariants, hinputs⟩ :=
    hshape _ _ hmaterialized.values_eq hothers.values_eq
  have hsql : sql = otherSql :=
    applyVariants_congr _ hvariants hmaterialized.sql_eq hothers.sql_eq
  subst hsql
  have hfixed : fixed.length = otherFixed.length := by
    rw [mapM_ok_length _ hmaterialized.fixed_eq,
      mapM_ok_length _ hothers.fixed_eq]
  have hcontiguous := hothers.contiguous
  rw [← hfixed] at hcontiguous
  refine hmaterialized.places.congr hothers.places hmaterialized.contiguous
    hcontiguous (by rw [hmaterialized.inputs, hothers.inputs])
    hmaterialized.placed hothers.placed ?_
  intro placement hplacement value hvalue site hsite
  have hmem : placement.input ∈ operation.dynamicInputs := by
    rw [← hmaterialized.inputs]
    exact List.mem_map_of_mem hplacement
  exact hinputs _ hmem _ _ (hmaterialized.placed _ hplacement).value hvalue
    site hsite

/-! ## A filter with two operators -/

/-- A library for inputs of plain text. -/
def plainLibrary : ExecutorLibrary where
  isUuid _ := false
  isRfc3339 _ := false
  isBigDecimal _ := false
  parseF64 _ := none
  compilePattern _ := none
  sameValue _ _ := false

def filterSite : DynamicInputSite :=
  { marker := "@0"
    identitySql := "TRUE"
    fields :=
      [{ key := "name"
         operators :=
          [{ name := "eq"
             valueKind := "scalar"
             beforeValue := some "n = "
             afterValue := none
             cases := [] },
           { name := "is_null"
             valueKind := "boolean"
             beforeValue := none
             afterValue := none
             cases :=
              [⟨"true", "n IS NULL"⟩, ⟨"false", "n IS NOT NULL"⟩] }]
         directions := [] }] }

/-- A query whose rows the caller filters by name. -/
def filterOperation : OperationMetadata :=
  { kind := .query
    sql := ⟨"SELECT @0", [], []⟩
    params := []
    input :=
      [{ path := "input.where"
         dataType := "dynamic_predicate"
         wire := ⟨.json, none⟩
         pattern := none
         collection := none
         closedValues := []
         required := true
         nullable := false
         default := none }]
    context := []
    dynamicInputs :=
      [{ path := "input.where"
         kind := "predicate"
         fields := [⟨"name", "text", ⟨.text, none⟩, none⟩]
         sites := [filterSite] }] }

def filterBindings (operator : String) (operand : Json) :
    ExecutionBindings :=
  { «variables» :=
      .object [("input", .object [("where",
        .object [("name", .object [(operator, operand)])])])]
    context := .object [] }

example :
    ((materialize plainLibrary filterOperation
      (filterBindings "eq" (.string "' OR 1=1"))).toOption.map
        MaterializedOperation.sql) = some "SELECT (n = $1)" := by
  rfl

theorem materialize_injectionFree_filterOperation :
    ∃ result other,
      materialize plainLibrary filterOperation
        (filterBindings "eq" (.string "' OR 1=1")) = .ok result ∧
      materialize plainLibrary filterOperation
        (filterBindings "eq" (.string "x")) = .ok other ∧
      (∃ values sql fixed placements,
        Materialized plainLibrary filterOperation
          (filterBindings "eq" (.string "' OR 1=1")) values sql fixed
          placements result) ∧
      result.sql = other.sql := by
  have hsafe := materialize_injectionFree
    (rfl : materialize plainLibrary filterOperation
      (filterBindings "eq" (.string "' OR 1=1")) = .ok _)
  refine ⟨_, _, rfl, rfl, hsafe.1, hsafe.2 (filterBindings "eq" (.string "x")) _
    rfl ?_⟩
  intro values others hvalues hothers
  refine ⟨fun variant hvariant => (by cases hvariant), ?_⟩
  intro input hinput value other hvalue hother site hsite
  rw [List.mem_singleton.mp hinput] at hvalue hother hsite ⊢
  rw [List.mem_singleton.mp hsite]
  cases hvalues
  cases hothers
  cases hvalue
  cases hother
  rfl

/-- The operand of a boolean operator selects the text, so connectives,
fields, operators and list lengths alone do not determine it. -/
theorem materialize_text_of_boolean :
    ∃ result other,
      materialize plainLibrary filterOperation
        (filterBindings "is_null" (.bool true)) = .ok result ∧
      materialize plainLibrary filterOperation
        (filterBindings "is_null" (.bool false)) = .ok other ∧
      SameShape (fun input _ => bareShape input) plainLibrary filterOperation
        (filterBindings "is_null" (.bool true))
        (filterBindings "is_null" (.bool false)) ∧
      result.sql ≠ other.sql := by
  refine ⟨_, _, rfl, rfl, ?_, by decide⟩
  intro values others hvalues hothers
  refine ⟨fun variant hvariant => (by cases hvariant), ?_⟩
  intro input hinput value other hvalue hother site hsite
  rw [List.mem_singleton.mp hinput] at hvalue hother ⊢
  cases hvalues
  cases hothers
  cases hvalue
  cases hother
  rfl

end Execute

end Dsql
