import Dsql.Runtime.Placeholders

/-!
# Shapes of dynamic inputs

What the SQL of a dynamic input depends on: its connectives, fields, operators
and list lengths, the operands of boolean operators and the directions of an
order, which select among texts of the operation.
-/

namespace Dsql

namespace Execute

/-- A list of a length, or nothing. -/
def lengthShape : Json → Json
  | .array items => .array (items.map (fun _ => .null))
  | _ => .null

section Predicates

variable (operandShape : String → String → Json → Json)

/-- The shape of the operators of a field. -/
def fieldShape (key : String) (value : Json) : Json :=
  match value.asObject with
  | none => .null
  | some operators =>
      .object ((sortByKey operators).map (fun entry =>
        (entry.1, operandShape key entry.1 entry.2)))

mutual

/-- A predicate without its operands, up to what `operandShape` keeps of
them. -/
def predicateShape : Json → Json
  | .object entries => .object (sortByKey (entryShapes entries))
  | _ => .null

/-- The shapes of the entries of a predicate. -/
def entryShapes : List (String × Json) → List (String × Json)
  | [] => []
  | (key, value) :: rest =>
      (key,
        if key = "and" ∨ key = "or" then
          arrayShape value
        else if key = "not" then
          predicateShape value
        else
          fieldShape operandShape key value) :: entryShapes rest

/-- The shapes below a connective. -/
def arrayShape : Json → Json
  | .array items => .array (itemShapes items)
  | _ => .null

/-- The shapes of predicates, one by one. -/
def itemShapes : List Json → List Json
  | [] => []
  | item :: rest => predicateShape item :: itemShapes rest

end

/-- The shape of one entry. -/
def entryShape (entry : String × Json) : Json :=
  if entry.1 = "and" ∨ entry.1 = "or" then
    arrayShape operandShape entry.2
  else if entry.1 = "not" then
    predicateShape operandShape entry.2
  else
    fieldShape operandShape entry.1 entry.2

theorem entryShapes_eq_map (entries : List (String × Json)) :
    entryShapes operandShape entries =
      entries.map (fun entry => (entry.1, entryShape operandShape entry)) := by
  induction entries with
  | nil => rw [entryShapes]; rfl
  | cons entry rest ih =>
      rw [entryShapes, ih]
      rfl

theorem itemShapes_eq_map (items : List Json) :
    itemShapes operandShape items =
      items.map (predicateShape operandShape) := by
  induction items with
  | nil => rw [itemShapes]; rfl
  | cons item rest ih =>
      rw [itemShapes, ih]
      rfl

end Predicates

/-- The entries of an order without their directions. -/
def orderEntryShape : Json → Json
  | .object entries => .object (entries.map (fun entry => (entry.1, .null)))
  | _ => .null

/-- Connectives, fields, operators and list lengths alone. -/
def bareShape (input : DynamicInputMetadata) (value : Json) : Json :=
  if input.kind = "predicate" then
    predicateShape (fun _ _ => lengthShape) value
  else
    match value with
    | .array items => .array (items.map orderEntryShape)
    | _ => .null

/-- What the operator of a site keeps of its operand. -/
def siteOperandShape
    (site : DynamicInputSite)
    (key name : String)
    (operand : Json) : Json :=
  match (site.fields.find? (fun field => field.key = key)).bind (fun field =>
      field.operators.find? (fun operator => operator.name = name)) with
  | none => .null
  | some operator =>
      if operator.valueKind = "boolean" then
        operand
      else if operator.valueKind = "collection" then
        lengthShape operand
      else
        .null

/-- The shape of a dynamic input at a site: with the operands of boolean
operators and the directions of an order. -/
def siteShape
    (input : DynamicInputMetadata)
    (site : DynamicInputSite)
    (value : Json) : Json :=
  if input.kind = "predicate" then
    predicateShape (siteOperandShape site) value
  else
    value

section Templates

variable {library : ExecutorLibrary}
variable {input : DynamicInputMetadata}
variable {site : DynamicInputSite}

/-- Two results, when both are there, have the same template. -/
def SameTemplate (left right : Except ExecuteError (List SqlPiece)) : Prop :=
  ∀ pieces others, left = .ok pieces → right = .ok others →
    pieces.map SqlPiece.template = others.map SqlPiece.template

/-- Groups that succeed differ in their operands alone. -/
def SameTemplates
    (left right : Except ExecuteError (List (List SqlPiece))) : Prop :=
  ∀ groups others, left = .ok groups → right = .ok others →
    groups.map (List.map SqlPiece.template) =
      others.map (List.map SqlPiece.template)

/-- Predicates that succeed differ in their operands alone. -/
def SameOptionTemplate
    (left right : Except ExecuteError (Option (List SqlPiece))) : Prop :=
  ∀ pieces others, left = .ok pieces → right = .ok others →
    pieces.map (List.map SqlPiece.template) =
      others.map (List.map SqlPiece.template)

/-- Joining keeps equal templates equal. -/
theorem join_template
    (separator : String)
    {left right : List (List SqlPiece)}
    (h : left.map (List.map SqlPiece.template) =
      right.map (List.map SqlPiece.template)) :
    (SqlPiece.join separator left).map SqlPiece.template =
      (SqlPiece.join separator right).map SqlPiece.template := by
  induction left generalizing right with
  | nil =>
      have hnil : right = [] := by simpa using h.symm
      rw [hnil]
  | cons pieces rest ih =>
      cases right with
      | nil => cases h
      | cons others tail =>
          rw [List.map_cons, List.map_cons, List.cons.injEq] at h
          obtain ⟨hhead, hrest⟩ := h
          have htail := ih hrest
          cases rest with
          | nil =>
              have hnil : tail = [] := by simpa using hrest.symm
              rw [hnil]
              exact hhead
          | cons next rest =>
              cases tail with
              | nil => cases hrest
              | cons following tail =>
                  have hleft : SqlPiece.join separator
                      (pieces :: next :: rest) = pieces ++ .text separator ::
                        SqlPiece.join separator (next :: rest) := rfl
                  have hright : SqlPiece.join separator
                      (others :: following :: tail) =
                        others ++ .text separator ::
                          SqlPiece.join separator (following :: tail) := rfl
                  rw [hleft, hright, List.map_append, List.map_append,
                    List.map_cons, List.map_cons, hhead, htail]

/-- Parentheses keep equal templates equal. -/
theorem parenthesized_template
    (separator : String)
    {left right : List (List SqlPiece)}
    (h : left.map (List.map SqlPiece.template) =
      right.map (List.map SqlPiece.template)) :
    (SqlPiece.parenthesized left separator).map SqlPiece.template =
      (SqlPiece.parenthesized right separator).map SqlPiece.template := by
  simp only [SqlPiece.parenthesized, List.cons_append, List.map_cons,
    List.map_append, join_template separator h]

theorem aroundOperand_template
    (operator : DynamicPredicateOperatorMetadata)
    (left right : BoundParameter) :
    (aroundOperand operator left).map SqlPiece.template =
      (aroundOperand operator right).map SqlPiece.template :=
  rfl

/-- A scalar operand leaves the template as it is. -/
theorem scalarPieces_template
    (operator : DynamicPredicateOperatorMetadata)
    (fieldKey path otherPath : String)
    (left right : Json) :
    SameTemplate
      (scalarPieces library input operator fieldKey path left)
      (scalarPieces library input operator fieldKey otherPath right) := by
  intro pieces others hpieces hothers
  obtain ⟨field, -, hpieces⟩ := except_bind_ok hpieces
  obtain ⟨-, -, hpieces⟩ := except_bind_ok hpieces
  obtain ⟨other, -, hothers⟩ := except_bind_ok hothers
  obtain ⟨-, -, hothers⟩ := except_bind_ok hothers
  cases hpieces
  cases hothers
  exact aroundOperand_template operator _ _

theorem validateDynamicCollection_ok
    {field : DynamicInputField}
    {value : Json}
    {path : String}
    {items : List Json}
    (h : validateDynamicCollection library field value path = .ok items) :
    value = .array items := by
  unfold validateDynamicCollection at h
  cases value with
  | array found =>
      obtain ⟨-, -, hrest⟩ := except_bind_ok h
      cases hrest
      rfl
  | _ => cases h

/-- Collections of one length have one template. -/
theorem collectionPieces_template
    (operator : DynamicPredicateOperatorMetadata)
    (fieldKey path otherPath : String)
    {left right : Json}
    (h : lengthShape left = lengthShape right) :
    SameTemplate
      (collectionPieces library input operator fieldKey path left)
      (collectionPieces library input operator fieldKey otherPath right) := by
  intro pieces others hpieces hothers
  obtain ⟨field, -, hpieces⟩ := except_bind_ok hpieces
  obtain ⟨items, hitems, hpieces⟩ := except_bind_ok hpieces
  obtain ⟨other, -, hothers⟩ := except_bind_ok hothers
  obtain ⟨otherItems, hotherItems, hothers⟩ := except_bind_ok hothers
  rw [validateDynamicCollection_ok hitems,
    validateDynamicCollection_ok hotherItems] at h
  have hlength : items.length = otherItems.length := by
    have hmap := Json.array.inj h
    simpa using congrArg List.length hmap
  have hempty : items.isEmpty = otherItems.isEmpty := by
    cases items <;> cases otherItems <;> simp_all
  cases hpieces
  cases hothers
  rw [hempty]
  split
  · rfl
  · exact aroundOperand_template operator _ _

/-- Operators of one shape have one template. -/
theorem operatorPieces_template
    {field : DynamicInputSiteField}
    {path otherPath fieldKey : String}
    {left right : String × Json}
    (hfield : site.fields.find? (fun field => field.key = fieldKey) =
      some field)
    (hname : left.1 = right.1)
    (h : siteOperandShape site fieldKey left.1 left.2 =
      siteOperandShape site fieldKey right.1 right.2) :
    SameTemplate
      (operatorPieces library input field path fieldKey left)
      (operatorPieces library input field otherPath fieldKey right) := by
  unfold operatorPieces siteOperandShape at *
  rw [← hname, hfield, Option.bind_some] at h
  rw [← hname]
  cases hoperator :
      field.operators.find? (fun operator => operator.name = left.1) with
  | none =>
      intro pieces others hpieces
      cases hpieces
  | some operator =>
      rw [hoperator] at h
      simp only at h ⊢
      by_cases hscalar : operator.valueKind = "scalar"
      · rw [if_pos hscalar, if_pos hscalar]
        exact scalarPieces_template operator _ _ _ _ _
      rw [if_neg hscalar, if_neg hscalar]
      by_cases hcollection : operator.valueKind = "collection"
      · rw [if_pos hcollection, if_pos hcollection]
        refine collectionPieces_template operator _ _ _ ?_
        simpa [hcollection] using h
      rw [if_neg hcollection, if_neg hcollection]
      by_cases hboolean : operator.valueKind = "boolean"
      · rw [if_pos hboolean, if_pos hboolean]
        rw [if_pos hboolean, if_pos hboolean] at h
        intro pieces others hpieces hothers
        obtain ⟨content, hcontent, hpieces⟩ := except_bind_ok hpieces
        obtain ⟨other, hother, hothers⟩ := except_bind_ok hothers
        cases hpieces
        cases hothers
        rw [h] at hcontent
        have hsame : content = other := by
          unfold renderBoolean at hcontent hother
          cases hbool : right.2.asBool with
          | none => rw [hbool] at hcontent; cases hcontent
          | some value =>
              rw [hbool] at hcontent hother
              simp only at hcontent hother
              cases hfind : operator.cases.find? (fun choice =>
                  choice.value = if value = true then "true" else "false") with
              | none => rw [hfind] at hcontent; cases hcontent
              | some choice =>
                  rw [hfind] at hcontent hother
                  cases hcontent
                  cases hother
                  rfl
        rw [hsame]
      · rw [if_neg hboolean, if_neg hboolean]
        intro pieces others hpieces
        cases hpieces

/-- Fields of one shape have one template. -/
theorem operatorsPieces_template
    {field : DynamicInputSiteField}
    {path otherPath fieldKey : String}
    (hfield : site.fields.find? (fun field => field.key = fieldKey) =
      some field)
    {left right : List (String × Json)}
    (h : left.map (fun entry =>
        (entry.1, siteOperandShape site fieldKey entry.1 entry.2)) =
      right.map (fun entry =>
        (entry.1, siteOperandShape site fieldKey entry.1 entry.2))) :
    SameTemplates
      (operatorsPieces library input field path fieldKey left)
      (operatorsPieces library input field otherPath fieldKey right) := by
  induction left generalizing right with
  | nil =>
      have hnil : right = [] := by simpa using h.symm
      subst hnil
      intro groups others hgroups hothers
      cases hgroups
      cases hothers
      rfl
  | cons entry rest ih =>
      cases right with
      | nil => cases h
      | cons other tail =>
          rw [List.map_cons, List.map_cons, List.cons.injEq,
            Prod.mk.injEq] at h
          obtain ⟨⟨hname, hshape⟩, hrest⟩ := h
          intro groups others hgroups hothers
          obtain ⟨pieces, hpieces, hgroups⟩ := except_bind_ok hgroups
          obtain ⟨last, hlast, hgroups⟩ := except_bind_ok hgroups
          obtain ⟨otherPieces, hotherPieces, hothers⟩ := except_bind_ok hothers
          obtain ⟨otherLast, hotherLast, hothers⟩ := except_bind_ok hothers
          cases hgroups
          cases hothers
          rw [List.map_cons, List.map_cons, ih hrest _ _ hlast hotherLast,
            operatorPieces_template hfield hname hshape _ _ hpieces
              hotherPieces]

/-- The predicates of a key of one shape have one template. -/
theorem fieldPieces_template
    {path otherPath key : String}
    {left right : Json}
    (h : fieldShape (siteOperandShape site) key left =
      fieldShape (siteOperandShape site) key right) :
    SameTemplates
      (fieldPieces library input site path key left)
      (fieldPieces library input site otherPath key right) := by
  intro groups others hgroups hothers
  obtain ⟨field, hfield, hgroups⟩ := except_bind_ok hgroups
  obtain ⟨otherField, hotherField, hothers⟩ := except_bind_ok hothers
  have hfind : ∀ (path : String) (field : DynamicInputSiteField),
      dynamicSiteField input site key path = .ok field →
        site.fields.find? (fun field => field.key = key) = some field := by
    intro path field hfound
    unfold dynamicSiteField at hfound
    split at hfound
    · split at hfound
      · next hsome =>
          cases hfound
          exact hsome
      · cases hfound
    · cases hfound
  have hsame := hfind _ _ hfield
  have hother := hfind _ _ hotherField
  rw [hsame, Option.some.injEq] at hother
  subst hother
  unfold fieldShape at h
  cases hleft : left.asObject with
  | none => rw [hleft] at hgroups; cases hgroups
  | some operators =>
      cases hright : right.asObject with
      | none => rw [hright] at hothers; cases hothers
      | some otherOperators =>
          rw [hleft] at hgroups h
          rw [hright] at hothers h
          exact operatorsPieces_template hsame (Json.object.inj h) _ _ hgroups
            hothers

/-- Entries of one shape, in the given order. -/
theorem collectEntries_template
    {path otherPath : String}
    (left right : List (String × Json))
    (hentries : ∀ entry ∈ left, ∀ other, entry.1 = other.1 →
      entryShape (siteOperandShape site) entry =
        entryShape (siteOperandShape site) other →
      SameTemplates (entryPieces library input site path entry)
        (entryPieces library input site otherPath other))
    (h : left.map (fun entry =>
        (entry.1, entryShape (siteOperandShape site) entry)) =
      right.map (fun entry =>
        (entry.1, entryShape (siteOperandShape site) entry))) :
    SameTemplates
      (collectEntries (left.map (fun entry =>
        (entry.1, entryPieces library input site path entry))))
      (collectEntries (right.map (fun entry =>
        (entry.1, entryPieces library input site otherPath entry)))) := by
  induction left generalizing right with
  | nil =>
      have hnil : right = [] := by simpa using h.symm
      subst hnil
      intro groups others hgroups hothers
      cases hgroups
      cases hothers
      rfl
  | cons entry rest ih =>
      cases right with
      | nil => cases h
      | cons other tail =>
          rw [List.map_cons, List.map_cons, List.cons.injEq,
            Prod.mk.injEq] at h
          obtain ⟨⟨hkey, hshape⟩, hrest⟩ := h
          intro groups others hgroups hothers
          obtain ⟨first, hfirst, hgroups⟩ := except_bind_ok hgroups
          obtain ⟨last, hlast, hgroups⟩ := except_bind_ok hgroups
          obtain ⟨otherFirst, hotherFirst, hothers⟩ := except_bind_ok hothers
          obtain ⟨otherLast, hotherLast, hothers⟩ := except_bind_ok hothers
          cases hgroups
          cases hothers
          have hlater := ih tail (fun entry hentry =>
            hentries entry (List.mem_cons_of_mem _ hentry)) hrest
          rw [List.map_append, List.map_append,
            hentries entry List.mem_cons_self other hkey hshape _ _ hfirst
              hotherFirst, hlater _ _ hlast hotherLast]

/-- Arrays of one shape have one template. -/
theorem childrenPieces_template
    {path otherPath : String}
    (left right : List Json)
    (hitems : ∀ item ∈ left, ∀ other path otherPath,
      predicateShape (siteOperandShape site) item =
        predicateShape (siteOperandShape site) other →
      SameOptionTemplate (predicatePieces library input site path item)
        (predicatePieces library input site otherPath other))
    (h : left.map (predicateShape (siteOperandShape site)) =
      right.map (predicateShape (siteOperandShape site)))
    (index : Nat) :
    SameTemplates (childrenPieces library input site path index left)
      (childrenPieces library input site otherPath index right) := by
  induction left generalizing right index with
  | nil =>
      have hnil : right = [] := by simpa using h.symm
      subst hnil
      intro groups others hgroups hothers
      rw [childrenPieces] at hgroups hothers
      cases hgroups
      cases hothers
      rfl
  | cons item rest ih =>
      cases right with
      | nil => cases h
      | cons other tail =>
          rw [List.map_cons, List.map_cons, List.cons.injEq] at h
          obtain ⟨hshape, hrest⟩ := h
          intro groups others hgroups hothers
          rw [childrenPieces] at hgroups hothers
          obtain ⟨child, hchild, hgroups⟩ := except_bind_ok hgroups
          obtain ⟨children, hchildren, hgroups⟩ := except_bind_ok hgroups
          obtain ⟨otherChild, hotherChild, hothers⟩ := except_bind_ok hothers
          obtain ⟨otherChildren, hotherChildren, hothers⟩ :=
            except_bind_ok hothers
          cases hgroups
          cases hothers
          have hlater := ih tail (fun item hitem =>
            hitems item (List.mem_cons_of_mem _ hitem)) hrest (index + 1)
          have hfirst := hitems item List.mem_cons_self other _ _ hshape _ _
            hchild hotherChild
          rw [List.map_append, List.map_append,
            hlater _ _ hchildren hotherChildren]
          congr 1
          cases child with
          | none =>
              cases otherChild with
              | none => rfl
              | some others => cases hfirst
          | some pieces =>
              cases otherChild with
              | none => cases hfirst
              | some others => simpa using hfirst

/-- One entry, from what it contains. -/
theorem entryPieces_template
    {path otherPath : String}
    {entry other : String × Json}
    (hpredicate : ∀ path otherPath,
      predicateShape (siteOperandShape site) entry.2 =
        predicateShape (siteOperandShape site) other.2 →
      SameOptionTemplate (predicatePieces library input site path entry.2)
        (predicatePieces library input site otherPath other.2))
    (harray : ∀ path otherPath,
      arrayShape (siteOperandShape site) entry.2 =
        arrayShape (siteOperandShape site) other.2 →
      SameTemplates (arrayPieces library input site path entry.2)
        (arrayPieces library input site otherPath other.2))
    (hkey : entry.1 = other.1)
    (h : entryShape (siteOperandShape site) entry =
      entryShape (siteOperandShape site) other) :
    SameTemplates (entryPieces library input site path entry)
      (entryPieces library input site otherPath other) := by
  unfold entryShape at h
  unfold entryPieces
  rw [← hkey] at h ⊢
  by_cases hand : entry.1 = "and"
  · rw [if_pos (.inl hand), if_pos (.inl hand)] at h
    rw [if_pos hand, if_pos hand]
    intro groups others hgroups hothers
    obtain ⟨children, hchildren, rfl⟩ := except_map_ok hgroups
    obtain ⟨otherChildren, hotherChildren, rfl⟩ := except_map_ok hothers
    have hsame := harray _ _ h _ _ hchildren hotherChildren
    have hempty : children.isEmpty = otherChildren.isEmpty := by
      cases children <;> cases otherChildren <;> simp_all
    unfold conjunctionPieces
    rw [hempty]
    split
    · rfl
    · rw [List.map_singleton, List.map_singleton,
        parenthesized_template _ hsame]
  rw [if_neg hand, if_neg hand]
  by_cases hor : entry.1 = "or"
  · rw [if_pos (.inr hor), if_pos (.inr hor)] at h
    rw [if_pos hor, if_pos hor]
    intro groups others hgroups hothers
    obtain ⟨children, hchildren, rfl⟩ := except_map_ok hgroups
    obtain ⟨otherChildren, hotherChildren, rfl⟩ := except_map_ok hothers
    have hsame := harray _ _ h _ _ hchildren hotherChildren
    have hempty : children.isEmpty = otherChildren.isEmpty := by
      cases children <;> cases otherChildren <;> simp_all
    unfold disjunctionPieces
    rw [hempty]
    split
    · rfl
    · rw [List.map_singleton, List.map_singleton,
        parenthesized_template _ hsame]
  have hneither : ¬ (entry.1 = "and" ∨ entry.1 = "or") := by
    rintro (hfound | hfound)
    · exact hand hfound
    · exact hor hfound
  rw [if_neg hneither, if_neg hneither] at h
  rw [if_neg hor, if_neg hor]
  by_cases hnot : entry.1 = "not"
  · rw [if_pos hnot, if_pos hnot] at h ⊢
    intro groups others hgroups hothers
    obtain ⟨child, hchild, rfl⟩ := except_map_ok hgroups
    obtain ⟨otherChild, hotherChild, rfl⟩ := except_map_ok hothers
    have hsame := hpredicate _ _ h _ _ hchild hotherChild
    cases child with
    | none =>
        cases otherChild with
        | none => rfl
        | some others => cases hsame
    | some pieces =>
        cases otherChild with
        | none => cases hsame
        | some others =>
            have htemplate : pieces.map SqlPiece.template =
                others.map SqlPiece.template := by simpa using hsame
            simp [negationPieces, SqlPiece.template, htemplate]
  · rw [if_neg hnot, if_neg hnot] at h ⊢
    exact fieldPieces_template h

/-- Predicates of one shape have one template. -/
theorem predicatePieces_template (left : Json) :
    (∀ right path otherPath,
      predicateShape (siteOperandShape site) left =
        predicateShape (siteOperandShape site) right →
      SameOptionTemplate (predicatePieces library input site path left)
        (predicatePieces library input site otherPath right)) ∧
    (∀ right path otherPath,
      arrayShape (siteOperandShape site) left =
        arrayShape (siteOperandShape site) right →
      SameTemplates (arrayPieces library input site path left)
        (arrayPieces library input site otherPath right)) := by
  induction left using Json.induction with
  | object entries ih =>
      refine ⟨fun right path otherPath h => ?_,
        fun right path otherPath _ groups others hgroups => ?_⟩
      · intro pieces others hpieces hothers
        cases right with
        | object otherEntries =>
            rw [predicateShape, predicateShape, entryShapes_eq_map,
              entryShapes_eq_map, sortByKey_map, sortByKey_map] at h
            rw [predicatePieces, entriesPieces_eq_map, sortByKey_map]
              at hpieces hothers
            obtain ⟨groups, hgroups, hpieces⟩ := except_bind_ok hpieces
            obtain ⟨otherGroups, hotherGroups, hothers⟩ :=
              except_bind_ok hothers
            cases hpieces
            cases hothers
            have hsame := collectEntries_template _ _
              (fun entry hentry other hkey hshape =>
                have hinner := ih entry (mem_sortByKey.mp hentry)
                entryPieces_template (hinner.1 other.2) (hinner.2 other.2)
                  hkey hshape)
              (Json.object.inj h) _ _ hgroups hotherGroups
            have hempty : groups.isEmpty = otherGroups.isEmpty := by
              cases groups <;> cases otherGroups <;> simp_all
            unfold joinedPieces
            rw [hempty]
            split
            · rfl
            · exact congrArg some (parenthesized_template _ hsame)
        | _ =>
            rw [predicatePieces] at hothers
            · cases hothers
            · simp
      · rw [arrayPieces] at hgroups
        · cases hgroups
        · simp
  | array items ih =>
      refine ⟨fun right path otherPath _ pieces others hpieces => ?_,
        fun right path otherPath h groups others hgroups hothers => ?_⟩
      · rw [predicatePieces] at hpieces
        · cases hpieces
        · simp
      · cases right with
        | array otherItems =>
            rw [arrayShape, arrayShape, itemShapes_eq_map,
              itemShapes_eq_map] at h
            rw [arrayPieces] at hgroups hothers
            exact childrenPieces_template items otherItems
              (fun item hitem => (ih item hitem).1) (Json.array.inj h) 0 _ _
              hgroups hothers
        | _ =>
            rw [arrayPieces] at hothers
            · cases hothers
            · simp
  | _ =>
      refine ⟨fun right path otherPath _ pieces others hpieces => ?_,
        fun right path otherPath _ groups others hgroups => ?_⟩
      · rw [predicatePieces] at hpieces
        · cases hpieces
        · simp
      · rw [arrayPieces] at hgroups
        · cases hgroups
        · simp

/-- A site gives values of one shape one template. -/
theorem sitePieces_template
    {left right : Json}
    (h : siteShape input site left = siteShape input site right) :
    SameTemplate (sitePieces library input site left)
      (sitePieces library input site right) := by
  unfold siteShape at h
  unfold sitePieces
  by_cases hpredicate : input.kind = "predicate"
  · rw [if_pos hpredicate, if_pos hpredicate] at h ⊢
    intro pieces others hpieces hothers
    obtain ⟨found, hfound, hpieces⟩ := except_bind_ok hpieces
    obtain ⟨otherFound, hotherFound, hothers⟩ := except_bind_ok hothers
    cases hpieces
    cases hothers
    have hsame := (predicatePieces_template left).1 right _ _ h _ _ hfound
      hotherFound
    cases found with
    | none =>
        cases otherFound with
        | none => rfl
        | some others => cases hsame
    | some pieces =>
        cases otherFound with
        | none => cases hsame
        | some others => simpa using hsame
  · rw [if_neg hpredicate, if_neg hpredicate] at h
    subst h
    intro pieces others hpieces hothers
    rw [hpieces] at hothers
    cases hothers
    rfl

end Templates

end Execute

end Dsql
