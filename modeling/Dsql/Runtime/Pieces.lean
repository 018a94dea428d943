import Dsql.Runtime.Materialize

/-!
# SQL pieces

What a dynamic input contributes to the SQL, without numbers: compiler-owned
texts and the operands between them.  A placeholder is the position that an
operand gets when the pieces are written out.
-/

namespace Dsql

/-- A rendered predicate before its operands are numbered. -/
inductive SqlPiece where
  | text (content : String)
  | operand (parameter : BoundParameter)

namespace SqlPiece

/-- The text of pieces whose operands are numbered from `start` on. -/
def render : Nat → List SqlPiece → String
  | _, [] => ""
  | start, .text content :: rest => content ++ render start rest
  | start, .operand _ :: rest =>
      "$" ++ toString (start + 1) ++ render (start + 1) rest

/-- The operands of pieces, in order. -/
def operands : List SqlPiece → List BoundParameter
  | [] => []
  | .text _ :: rest => operands rest
  | .operand parameter :: rest => parameter :: operands rest

/-- The compiler-owned texts, with a hole for every operand. -/
def template : SqlPiece → Option String
  | .text content => some content
  | .operand _ => none

/-- The texts of several groups of pieces. -/
def renderAll : Nat → List (List SqlPiece) → List String
  | _, [] => []
  | start, pieces :: rest =>
      render start pieces ::
        renderAll (start + (operands pieces).length) rest

/-- The operands of several groups of pieces. -/
def operandsAll (groups : List (List SqlPiece)) : List BoundParameter :=
  groups.flatMap operands

/-- Groups of pieces with a separator between them. -/
def join (separator : String) : List (List SqlPiece) → List SqlPiece
  | [] => []
  | [pieces] => pieces
  | pieces :: rest => pieces ++ .text separator :: join separator rest

/-- Joined groups in parentheses. -/
def parenthesized
    (groups : List (List SqlPiece))
    (separator : String) : List SqlPiece :=
  .text "(" :: join separator groups ++ [.text ")"]

section Lemmas

@[simp] theorem operands_append (left right : List SqlPiece) :
    operands (left ++ right) = operands left ++ operands right := by
  induction left with
  | nil => rfl
  | cons piece rest ih =>
      cases piece with
      | text content => exact ih
      | operand parameter => exact congrArg (parameter :: ·) ih

/-- The second part is numbered after the operands of the first. -/
theorem render_append (start : Nat) (left right : List SqlPiece) :
    render start (left ++ right) =
      render start left ++
        render (start + (operands left).length) right := by
  induction left generalizing start with
  | nil => simp [render, operands]
  | cons piece rest ih =>
      cases piece with
      | text content =>
          simp only [List.cons_append, render, operands, ih,
            String.append_assoc]
      | operand parameter =>
          simp only [List.cons_append, render, operands, ih,
            String.append_assoc, List.length_cons]
          congr 4
          omega

/-- The second groups are numbered after the operands of the first. -/
theorem renderAll_append (start : Nat) (left right : List (List SqlPiece)) :
    renderAll start (left ++ right) =
      renderAll start left ++
        renderAll (start + (operandsAll left).length) right := by
  induction left generalizing start with
  | nil => rfl
  | cons pieces rest ih =>
      simp only [List.cons_append, renderAll, ih, operandsAll,
        List.flatMap_cons, List.length_append]
      rw [Nat.add_assoc]

/-- Separators have no operands. -/
theorem operands_join (separator : String) (groups : List (List SqlPiece)) :
    operands (join separator groups) = operandsAll groups := by
  induction groups with
  | nil => rfl
  | cons pieces rest ih =>
      cases rest with
      | nil => simp [join, operandsAll]
      | cons next rest =>
          simp only [join, operands_append, operands, ih]
          simp [operandsAll]

/-- Joining and rendering can be exchanged. -/
theorem render_join
    (start : Nat)
    (separator : String)
    (groups : List (List SqlPiece)) :
    render start (join separator groups) =
      String.intercalate separator (renderAll start groups) := by
  induction groups generalizing start with
  | nil => rfl
  | cons pieces rest ih =>
      cases rest with
      | nil => simp [join, renderAll]
      | cons next rest =>
          have hjoin : join separator (pieces :: next :: rest) =
              pieces ++ .text separator :: join separator (next :: rest) := rfl
          rw [hjoin, render_append, render, ih]
          simp [renderAll, String.intercalate_cons_cons, String.append_assoc]

@[simp] theorem operands_parenthesized
    (groups : List (List SqlPiece))
    (separator : String) :
    operands (parenthesized groups separator) = operandsAll groups := by
  simp [parenthesized, operands, operands_join]

/-- Joined texts are the text of joined pieces. -/
theorem render_parenthesized
    (start : Nat)
    (groups : List (List SqlPiece))
    (separator : String) :
    render start (parenthesized groups separator) =
      Execute.parenthesizedJoin (renderAll start groups) separator := by
  simp [parenthesized, render, render_append, render_join,
    Execute.parenthesizedJoin, String.append_assoc]

/-- Equal templates have as many operands and write out alike. -/
theorem render_congr
    {left right : List SqlPiece}
    (h : left.map template = right.map template)
    (start : Nat) :
    render start left = render start right ∧
      (operands left).length = (operands right).length := by
  induction left generalizing right start with
  | nil =>
      have hnil : right = [] := by simpa using h.symm
      subst hnil
      exact ⟨rfl, rfl⟩
  | cons piece rest ih =>
      cases right with
      | nil => cases h
      | cons other others =>
          rw [List.map_cons, List.map_cons, List.cons.injEq] at h
          obtain ⟨hpiece, hrest⟩ := h
          cases piece with
          | text content =>
              cases other with
              | text otherContent =>
                  have hcontent : content = otherContent := by
                    simpa [template] using hpiece
                  obtain ⟨hrender, hlength⟩ := ih hrest start
                  exact ⟨by rw [render, render, hcontent, hrender], hlength⟩
              | operand parameter => cases hpiece
          | operand parameter =>
              cases other with
              | text otherContent => cases hpiece
              | operand otherParameter =>
                  obtain ⟨hrender, hlength⟩ := ih hrest (start + 1)
                  exact ⟨by rw [render, render, hrender],
                    congrArg (· + 1) hlength⟩

end Lemmas

end SqlPiece

namespace Execute

variable (library : ExecutorLibrary)
variable (input : DynamicInputMetadata)
variable (site : DynamicInputSite)

/-! ## The pieces of a dynamic input -/

/-- An operand with the texts of its operator around it. -/
def aroundOperand
    (operator : DynamicPredicateOperatorMetadata)
    (operand : BoundParameter) : List SqlPiece :=
  [.text (operator.beforeValue.getD ""), .operand operand,
    .text (operator.afterValue.getD "")]

/-- An operator with a scalar operand. -/
def scalarPieces
    (operator : DynamicPredicateOperatorMetadata)
    (fieldKey path : String)
    (operand : Json) : Except ExecuteError (List SqlPiece) := do
  let field ← dynamicField input fieldKey
  validateDynamicScalar library field operand path
  .ok (aroundOperand operator (operandParameter path field false operand))

/-- An operator with one operand that is an array. -/
def collectionPieces
    (operator : DynamicPredicateOperatorMetadata)
    (fieldKey path : String)
    (operand : Json) : Except ExecuteError (List SqlPiece) := do
  let field ← dynamicField input fieldKey
  let items ← validateDynamicCollection library field operand path
  .ok (if items.isEmpty then
    [.text (if operator.name = "in" then "FALSE" else "TRUE")]
  else
    aroundOperand operator (operandParameter path field true operand))

/-- An operator, by the kind of its operand. -/
def operatorPieces
    (field : DynamicInputSiteField)
    (path fieldKey : String)
    (entry : String × Json) : Except ExecuteError (List SqlPiece) :=
  let operandPath := path ++ "." ++ fieldKey ++ "." ++ entry.1
  match field.operators.find? (fun operator => operator.name = entry.1) with
  | none => invalid operandPath "a declared dynamic predicate operator"
  | some operator =>
      if operator.valueKind = "scalar" then
        scalarPieces library input operator fieldKey operandPath entry.2
      else if operator.valueKind = "collection" then
        collectionPieces library input operator fieldKey operandPath entry.2
      else if operator.valueKind = "boolean" then do
        let content ← renderBoolean operator operandPath entry.2
        .ok [.text content]
      else
        invalidMetadata ("operator `" ++ entry.1 ++
          "` has unknown value kind `" ++ operator.valueKind ++ "`")

/-- The predicates of a field, in order. -/
def operatorsPieces
    (field : DynamicInputSiteField)
    (path fieldKey : String) :
    List (String × Json) → Except ExecuteError (List (List SqlPiece))
  | [] => .ok []
  | entry :: rest => do
      let pieces ← operatorPieces library input field path fieldKey entry
      let others ← operatorsPieces field path fieldKey rest
      .ok (pieces :: others)

/-- The predicates of the field under a key. -/
def fieldPieces
    (path fieldKey : String)
    (value : Json) : Except ExecuteError (List (List SqlPiece)) := do
  let field ← dynamicSiteField input site fieldKey path
  match value.asObject with
  | none => invalid (path ++ "." ++ fieldKey) "a dynamic field-operator object"
  | some operators =>
      operatorsPieces library input field path fieldKey (sortByKey operators)

/-- The conjunction of predicates, where there are any. -/
def joinedPieces (groups : List (List SqlPiece)) : Option (List SqlPiece) :=
  if groups.isEmpty then
    none
  else
    some (SqlPiece.parenthesized groups " AND ")

/-- No children give no predicate. -/
def conjunctionPieces (children : List (List SqlPiece)) :
    List (List SqlPiece) :=
  if children.isEmpty then
    []
  else
    [SqlPiece.parenthesized children " AND "]

/-- No children give a predicate that is false. -/
def disjunctionPieces (children : List (List SqlPiece)) :
    List (List SqlPiece) :=
  if children.isEmpty then
    [[.text "FALSE"]]
  else
    [SqlPiece.parenthesized children " OR "]

/-- A predicate without a text has no negation. -/
def negationPieces (child : Option (List SqlPiece)) : List (List SqlPiece) :=
  child.toList.map (fun child => .text "NOT (" :: child ++ [.text ")"])

/-- The pieces of entries in the given order. -/
def collectEntries :
    List (String × Except ExecuteError (List (List SqlPiece))) →
      Except ExecuteError (List (List SqlPiece))
  | [] => .ok []
  | entry :: rest => do
      let groups ← entry.2
      let others ← collectEntries rest
      .ok (groups ++ others)

mutual

/-- The pieces of a predicate, where it has any. -/
def predicatePieces
    (path : String) : Json → Except ExecuteError (Option (List SqlPiece))
  | .object entries => do
      let groups ← collectEntries (sortByKey (entriesPieces path entries))
      .ok (joinedPieces groups)
  | _ => invalid path "a dynamic predicate object"

/-- The entries of a predicate with their pieces. -/
def entriesPieces
    (path : String) :
    List (String × Json) →
      List (String × Except ExecuteError (List (List SqlPiece)))
  | [] => []
  | (key, value) :: rest =>
      (key,
        if key = "and" then
          conjunctionPieces <$> arrayPieces (path ++ ".and") value
        else if key = "or" then
          disjunctionPieces <$> arrayPieces (path ++ ".or") value
        else if key = "not" then
          negationPieces <$> predicatePieces (path ++ ".not") value
        else
          fieldPieces library input site path key value) ::
        entriesPieces path rest

/-- The predicates below a connective. -/
def arrayPieces
    (path : String) : Json → Except ExecuteError (List (List SqlPiece))
  | .array items => childrenPieces path 0 items
  | _ => invalid path "an array of predicates"

/-- The predicates of an array, one by one. -/
def childrenPieces
    (path : String)
    (index : Nat) :
    List Json → Except ExecuteError (List (List SqlPiece))
  | [] => .ok []
  | item :: rest => do
      let child ←
        predicatePieces (path ++ "[" ++ toString index ++ "]") item
      let children ← childrenPieces path (index + 1) rest
      .ok (child.toList ++ children)

end

/-- The pieces of one site. -/
def sitePieces (value : Json) : Except ExecuteError (List SqlPiece) :=
  if input.kind = "predicate" then do
    let pieces ← predicatePieces library input site input.path value
    .ok (pieces.getD [.text site.identitySql])
  else if input.kind = "order" then do
    let rendered ← renderDynamicOrder input site input.path value
    .ok [.text (rendered.getD site.identitySql)]
  else
    unknownKind input

end Execute

end Dsql
