import Dsql.Results.Encoding
import Dsql.Results.Metadata
import Mathlib.Tactic

/-!
# The shape of a result

The document that a plan promises: nested objects and arrays whose scalars
have the representation that the published value type declares.  The metadata
lists its nodes in order.
-/

namespace Dsql
namespace Results

open Dsql.Types

/-- A string under the textual encodings, an array of strings for a database
array of such elements, and the form of the type itself otherwise. -/
def ResultValueTypeMetadata.representation
    (valueType : ResultValueTypeMetadata) : Representation :=
  if textualWire valueType.wire.encoding then
    match valueType.shape with
    | .scalar => .text
    | .databaseArray => .textArray
    | .object => .native
  else
    .native

/-- What a client expects at a path. -/
inductive ResultNode where
  | scalar (representation : Representation)
  | object
  | array
deriving DecidableEq, Repr

/-- What the metadata promises about one path of the result. -/
def ResultField.node (field : ResultField) : String × ResultNode :=
  (field.path,
    match field.kind with
    | .scalar => .scalar field.valueType.representation
    | .object => .object
    | .array => .array)

/-- What arrives at the top of a shape. -/
def JsonShape.node : JsonShape → ResultNode
  | .scalar representation => .scalar representation
  | .object _ => .object
  | .array _ => .array

mutual

/-- The nodes below a value, those of its elements if it is an array. -/
def JsonShape.nodesBelow (path : String) : JsonShape → List (String × ResultNode)
  | .scalar _ => []
  | .object fields => fieldNodes path fields
  | .array element => element.nodesBelow path

/-- The nodes of an object's fields in order. -/
def fieldNodes (parentPath : String) :
    List (String × JsonShape) → List (String × ResultNode)
  | [] => []
  | (name, shape) :: fields =>
      (joinPath parentPath name, shape.node) ::
        (shape.nodesBelow (joinPath parentPath name) ++ fieldNodes parentPath fields)

end

section Shapes

variable (catalog : Catalog)

/-- The representation that the metadata gives a column. -/
def columnRepresentation (column : ColumnId) (fallback : DataType) : Representation :=
  ((resultValueTypeForColumn catalog column).getD
    (resultValueTypeForDataType fallback)).representation

/-- The promised shape of a group key. -/
def groupKeyShape (key : AggregateGroupProjection) : String × JsonShape :=
  (key.outputName, .scalar (columnRepresentation catalog key.column key.dataType))

/-- The promised shape of an aggregate. -/
def aggregateShape (field : AggregateProjection) : String × JsonShape :=
  (field.outputName,
    .scalar (aggregateResultValueType catalog field).representation)

/-- The promised shape of a projected column. -/
def projectionShape (projection : Projection) : String × JsonShape :=
  (projection.outputName,
    .scalar (columnRepresentation catalog projection.column
      (catalog.dataTypeForColumn projection.column)))

/-- The promised shape of a collection. -/
def collectionShape
    (source : CollectionSource)
    (result : CollectionResultPlan)
    (fields : List (String × JsonShape)) : JsonShape :=
  match collectionResultKind result source.shape.cardinality with
  | .array => .array (.object fields)
  | .object | .scalar => .object fields

mutual

/-- The fields of an object of a collection. -/
def resultFields : CollectionResultPlan → List (String × JsonShape)
  | .rows items => itemFields items
  | .aggregate plan =>
      plan.groupKeys.map (groupKeyShape catalog) ++
        plan.fields.map (aggregateShape catalog)

/-- The promised fields of items; flattened relations give those below. -/
def itemFields : List SelectionPlanItem → List (String × JsonShape)
  | [] => []
  | .projection projection :: items =>
      projectionShape catalog projection :: itemFields items
  | .relation outputName flattened _ (.mk source result) :: items =>
      (if flattened then
        resultFields result
      else
        [(outputName, collectionShape source result (resultFields result))]) ++
        itemFields items

end

/-- The columns of the row that a root returns. -/
def rootFields (plan : QueryRootPlan) : List (String × JsonShape) :=
  match plan.collection with
  | .mk source result =>
      if plan.flattened then
        resultFields catalog result
      else
        [(plan.outputName,
          collectionShape source result (resultFields catalog result))]

/-- The promised fields of a query. -/
def queryFields (plan : QueryPlan) : List (String × JsonShape) :=
  plan.roots.flatMap (rootFields catalog)

end Shapes

/-! ## The metadata lists the nodes -/

section Metadata

variable {catalog : Catalog}

theorem fieldNodes_append
    (parentPath : String)
    (first second : List (String × JsonShape)) :
    fieldNodes parentPath (first ++ second) =
      fieldNodes parentPath first ++ fieldNodes parentPath second := by
  induction first with
  | nil => rfl
  | cons head fields ih =>
      obtain ⟨name, shape⟩ := head
      simp only [List.cons_append, fieldNodes, ih, List.append_assoc]

/-- A list of scalars has one node for each. -/
theorem fieldNodes_map_scalar
    {α : Type}
    (parentPath : String)
    (shape : α → String × JsonShape)
    (field : α → ResultField)
    (items : List α)
    (h : ∀ item ∈ items, ∃ representation,
      (shape item).2 = .scalar representation ∧
        (field item).node =
          (joinPath parentPath (shape item).1, .scalar representation)) :
    (items.map field).map ResultField.node =
      fieldNodes parentPath (items.map shape) := by
  induction items with
  | nil => rfl
  | cons item items ih =>
      obtain ⟨representation, hshape, hnode⟩ := h item List.mem_cons_self
      have hrest := ih (fun other hmem => h other (List.mem_cons_of_mem _ hmem))
      have hitem : shape item = ((shape item).1, .scalar representation) := by
        rw [← hshape]
      simp only [List.map_cons, hnode, hrest]
      rw [hitem]
      rfl

/-- The metadata of a group key has its promised shape. -/
theorem groupKeyResultField_node
    (parentPath : String)
    (access : ResultAccessContext)
    (key : AggregateGroupProjection) :
    (groupKeyResultField catalog parentPath access key).node =
      (joinPath parentPath key.outputName,
        .scalar (columnRepresentation catalog key.column key.dataType)) :=
  rfl

/-- The metadata of an aggregate has its promised shape. -/
theorem aggregateResultField_node
    (parentPath : String)
    (access : ResultAccessContext)
    (field : AggregateProjection) :
    (aggregateResultField catalog parentPath access field).node =
      (joinPath parentPath field.outputName,
        .scalar (aggregateResultValueType catalog field).representation) :=
  rfl

/-- The metadata of a projection has its promised shape. -/
theorem projectionResultField_node
    {parentPath : String}
    {access : ResultAccessContext}
    {projection : Projection}
    {field : ResultField}
    (h : projectionResultField catalog parentPath access projection = .ok field) :
    field.node =
      (joinPath parentPath projection.outputName,
        (projectionShape catalog projection).2.node) := by
  unfold projectionResultField at h
  split at h
  · cases h
  · cases h
    rfl

theorem aggregate_nodes
    (parentPath : String)
    (access : ResultAccessContext)
    (plan : AggregatePlan) :
    (plan.groupKeys.map (groupKeyResultField catalog parentPath access) ++
        plan.fields.map (aggregateResultField catalog parentPath access)).map
        ResultField.node =
      fieldNodes parentPath (resultFields catalog (.aggregate plan)) := by
  rw [List.map_append, resultFields, fieldNodes_append]
  congr 1
  · exact fieldNodes_map_scalar parentPath _ _ _ (fun key _ =>
      ⟨_, rfl, groupKeyResultField_node parentPath access key⟩)
  · exact fieldNodes_map_scalar parentPath _ _ _ (fun field _ =>
      ⟨_, rfl, aggregateResultField_node parentPath access field⟩)

/-- The field of a collection and those below it are the nodes of its
shape. -/
theorem collection_nodes
    (parentPath name : String)
    (access : ResultAccessContext)
    (source : CollectionSource)
    (result : CollectionResultPlan)
    {children : List ResultField}
    (h : children.map ResultField.node =
      fieldNodes (joinPath parentPath name) (resultFields catalog result)) :
    (collectionResultField parentPath name
        (collectionResultKind result source.shape.cardinality) access ::
      children).map ResultField.node =
      fieldNodes parentPath
        [(name, collectionShape source result (resultFields catalog result))] := by
  rw [List.map_cons, h]
  have hkind : collectionResultKind result source.shape.cardinality = .array ∨
      collectionResultKind result source.shape.cardinality = .object := by
    unfold collectionResultKind
    cases result with
    | rows items =>
        cases source.shape.cardinality with
        | collection => exact .inl rfl
        | atMostOne => exact .inr rfl
    | aggregate plan =>
        cases hmode : plan.mode with
        | grouped => exact .inl (by simp only [hmode])
        | ungrouped => exact .inr (by simp only [hmode])
  rcases hkind with hkind | hkind
  · simp only [collectionShape, hkind, fieldNodes, JsonShape.node,
      JsonShape.nodesBelow, List.append_nil]
    rfl
  · simp only [collectionShape, hkind, fieldNodes, JsonShape.node,
      JsonShape.nodesBelow, List.append_nil]
    rfl

mutual

/-- The metadata below a collection has the promised shapes. -/
theorem collectCollectionChildren_nodes
    {parentPath : String} :
    ∀ {result : CollectionResultPlan} {access : ResultAccessContext}
      {fields : List ResultField},
      collectCollectionChildren catalog parentPath result access = .ok fields →
        fields.map ResultField.node =
          fieldNodes parentPath (resultFields catalog result)
  | .rows items, access, fields, h => by
      rw [collectCollectionChildren] at h
      rw [resultFields]
      exact collectResultItemFields_nodes h
  | .aggregate plan, access, fields, h => by
      rw [collectCollectionChildren] at h
      cases h
      exact aggregate_nodes parentPath access plan

theorem collectResultItemFields_nodes
    {parentPath : String} :
    ∀ {items : List SelectionPlanItem} {access : ResultAccessContext}
      {fields : List ResultField},
      collectResultItemFields catalog parentPath items access = .ok fields →
        fields.map ResultField.node =
          fieldNodes parentPath (itemFields catalog items)
  | [], access, fields, h => by
      rw [collectResultItemFields] at h
      cases h
      rfl
  | .projection projection :: items, access, fields, h => by
      rw [collectResultItemFields] at h
      obtain ⟨field, hfield, h⟩ := except_bind_ok h
      obtain ⟨rest, hrest, h⟩ := except_bind_ok h
      cases h
      rw [List.map_cons, projectionResultField_node hfield,
        collectResultItemFields_nodes hrest, itemFields]
      rfl
  | .relation outputName flattened relation (.mk source result) :: items, access,
      fields, h => by
      rw [collectResultItemFields] at h
      obtain ⟨own, hown, h⟩ := except_bind_ok h
      obtain ⟨rest, hrest, h⟩ := except_bind_ok h
      cases h
      rw [List.map_append, collectResultItemFields_nodes hrest, itemFields,
        fieldNodes_append]
      congr 1
      cases flattened with
      | true => exact collectCollectionChildren_nodes hown
      | false =>
          obtain ⟨children, hchildren, hown⟩ := except_bind_ok hown
          cases hown
          exact collection_nodes parentPath outputName _ source result
            (collectCollectionChildren_nodes hchildren)

end

/-- The metadata of a root has the promised shapes. -/
theorem collectRootResultFields_nodes
    {plan : QueryRootPlan}
    {fields : List ResultField}
    (h : collectRootResultFields catalog plan = .ok fields) :
    fields.map ResultField.node = fieldNodes "" (rootFields catalog plan) := by
  obtain ⟨outputName, flattened, ⟨source, result⟩⟩ := plan
  cases flattened with
  | true => exact collectCollectionChildren_nodes h
  | false =>
      obtain ⟨children, hchildren, h⟩ := except_bind_ok h
      cases h
      exact collection_nodes "" outputName _ source result
        (collectCollectionChildren_nodes hchildren)

theorem mapM_rootResultFields_nodes
    {roots : List QueryRootPlan}
    {lists : List (List ResultField)}
    (h : roots.mapM (collectRootResultFields catalog) = .ok lists) :
    lists.flatten.map ResultField.node =
      fieldNodes "" (roots.flatMap (rootFields catalog)) := by
  induction roots generalizing lists with
  | nil =>
      cases h
      rfl
  | cons root roots ih =>
      rw [List.mapM_cons] at h
      obtain ⟨fields, hfields, h⟩ := except_bind_ok h
      obtain ⟨rest, hrest, h⟩ := except_bind_ok h
      cases h
      rw [List.flatten_cons, List.map_append, List.flatMap_cons, fieldNodes_append,
        collectRootResultFields_nodes hfields, ih hrest]

/-- The published fields are the nodes of the promised document. -/
theorem resultShape_nodes
    {plan : QueryPlan}
    {fields : List ResultField}
    (h : resultShape catalog plan = .ok fields) :
    fields.map ResultField.node = fieldNodes "" (queryFields catalog plan) := by
  obtain ⟨lists, hlists, h⟩ := except_bind_ok h
  cases h
  exact mapM_rootResultFields_nodes hlists

end Metadata

end Results
end Dsql
