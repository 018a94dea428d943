import Dsql.Results.Shapes
import Mathlib.Tactic

/-!
# Rendered columns have the published representation

Casts are chosen by the statement generator and encodings by the metadata
assembler.  Both are compared with the document that the plan promises: on one
scalar first, then through nested, flattened and grouped results.
-/

namespace Dsql
namespace Results

open Dsql.Types

/-- The columns of a select with the JSON that they become. -/
def jsonColumns (columns : List (ColumnName × SqlType)) :
    List (ColumnName × JsonShape) :=
  columns.map (fun column => (column.1, column.2.toJson))

/-- Fields as columns under their output names. -/
def outputColumns (fields : List (String × JsonShape)) :
    List (ColumnName × JsonShape) :=
  fields.map (fun field => (.output field.1, field.2))

section Columns

variable {types : List (List (ColumnName × SqlType))}
variable {columns : List (ColumnName × SqlType)}

/-! ## References -/

/-- A resolved column has the shape of every column of its name. -/
theorem resolveColumn_mem
    {name : ColumnName}
    {type : SqlType}
    (h : resolveColumn columns name = some type)
    {shape : JsonShape}
    (hmem : (name, shape) ∈ jsonColumns columns) :
    type.toJson = shape := by
  obtain ⟨column, hcolumn, heq⟩ := List.mem_map.mp hmem
  cases heq
  have hfilter : column ∈ columns.filter (fun other => other.1 == column.1) :=
    List.mem_filter.mpr ⟨hcolumn, beq_self_eq_true _⟩
  unfold resolveColumn at h
  split at h
  · rename_i found _ heq
    rw [heq] at hfilter
    rw [List.mem_singleton.mp hfilter]
    cases h
    rfl
  · cases h

/-- Among distinct names each column is resolved. -/
theorem resolveColumn_of_nodup
    (hnodup : (columns.map Prod.fst).Nodup)
    {column : ColumnName × SqlType}
    (hmem : column ∈ columns) :
    resolveColumn columns column.1 = some column.2 := by
  have hfilter : columns.filter (fun other => other.1 == column.1) = [column] := by
    induction columns with
    | nil => exact absurd hmem List.not_mem_nil
    | cons head columns ih =>
        obtain ⟨hfresh, hnodup⟩ := List.nodup_cons.mp hnodup
        rcases List.mem_cons.mp hmem with rfl | hmem
        · have hnone : columns.filter (fun other => other.1 == column.1) = [] := by
            refine List.filter_eq_nil_iff.mpr ?_
            intro other hother heq
            exact hfresh (List.mem_map.mpr ⟨other, hother, eq_of_beq heq⟩)
          rw [List.filter_cons, if_pos (beq_self_eq_true _), hnone]
        · have hne : ¬ (head.1 == column.1) = true := by
            intro heq
            exact hfresh (eq_of_beq heq ▸ List.mem_map_of_mem hmem)
          rw [List.filter_cons, if_neg hne]
          exact ih hnodup hmem
  unfold resolveColumn
  rw [hfilter]

/-- Only a unique name is resolved. -/
theorem count_of_resolveColumn
    {name : ColumnName}
    {type : SqlType}
    (h : resolveColumn columns name = some type) :
    (columns.map Prod.fst).count name = 1 := by
  rw [List.count, List.countP_map, List.countP_eq_length_filter]
  unfold resolveColumn at h
  split at h
  · rename_i hfilter
    exact congrArg List.length hfilter
  · cases h

/-! ## Lists of fields -/

theorem typesOf_append
    (first second : List (String × SqlExpr)) :
    typesOf types (first ++ second) =
      (typesOf types first).bind (fun shapes =>
        (typesOf types second).map (fun others => shapes ++ others)) := by
  induction first with
  | nil =>
      rw [List.nil_append, typesOf, Option.bind_some]
      exact Option.map_id'.symm
  | cons field fields ih =>
      obtain ⟨name, expression⟩ := field
      rw [List.cons_append, typesOf, typesOf, ih]
      cases typeOf types expression with
      | none => rfl
      | some type =>
          cases typesOf types fields with
          | none => rfl
          | some shapes =>
              cases typesOf types second with
              | none => rfl
              | some others => rfl

/-- Exported fields have the shapes that they have inside an object. -/
theorem exportedTypes_exportFields
    (types : List (List (ColumnName × SqlType)))
    (generation : SelectionGenerationContext)
    (fields : List (String × SqlExpr)) :
    (exportedTypes types (exportFields generation fields)).map jsonColumns =
      (typesOf types fields).map outputColumns := by
  induction fields with
  | nil => rfl
  | cons field fields ih =>
      obtain ⟨name, expression⟩ := field
      have hhead : (typeOf types
          (if generation.nested then expression else .toJson expression)).map
            SqlType.toJson = (typeOf types expression).map SqlType.toJson := by
        cases generation.nested with
        | true => rfl
        | false =>
            simp only [Bool.false_eq_true, if_false, typeOf, Option.map_map]
            rfl
      rw [exportFields, List.map_cons, ← exportFields, exportedTypes, typesOf]
      cases hexpression : typeOf types expression with
      | none =>
          rw [hexpression] at hhead
          rw [Option.map_eq_none_iff.mp hhead]
          rfl
      | some type =>
          rw [hexpression] at hhead
          obtain ⟨found, hfound, hjson⟩ := Option.map_eq_some_iff.mp hhead
          rw [hfound]
          cases hrest : exportedTypes types (exportFields generation fields) with
          | none =>
              rw [hrest] at ih
              rw [Option.map_eq_none_iff.mp ih.symm]
              rfl
          | some others =>
              rw [hrest] at ih
              obtain ⟨shapes, hshapes, heq⟩ := Option.map_eq_some_iff.mp ih.symm
              rw [hshapes]
              simp only [Option.map_some, jsonColumns, List.map_cons, outputColumns,
                hjson]
              exact congrArg some (congrArg _ heq.symm)

/-- The fields that refer to the columns of one source. -/
def readBack (source : Nat) (names : List String) : List (String × SqlExpr) :=
  names.map (fun name => (name, .reference source (.output name)))

theorem referenceColumns_eq
    (source : Nat)
    (names : List String) :
    referenceColumns source names =
      exportFields ⟨true, none, true⟩ (readBack source names) := by
  unfold referenceColumns exportFields readBack
  rw [List.map_map]
  rfl

theorem typeOf_reference
    {source : Nat}
    (hsource : types[source]? = some columns)
    (name : ColumnName) :
    typeOf types (.reference source name) = resolveColumn columns name := by
  rw [typeOf, hsource]

/-- What is read back from a source is what the source exports. -/
theorem typesOf_readBack
    {source : Nat}
    {fields : List (String × JsonShape)}
    (hsource : types[source]? = some columns)
    (hcolumns : jsonColumns columns = outputColumns fields)
    {read : List (String × JsonShape)}
    (hsubset : read ⊆ fields)
    {shapes : List (String × JsonShape)}
    (h : typesOf types (readBack source (read.map Prod.fst)) = some shapes) :
    shapes = read := by
  induction read generalizing shapes with
  | nil =>
      cases h
      rfl
  | cons field read ih =>
      rw [List.map_cons, readBack, List.map_cons, ← readBack, typesOf,
        typeOf_reference hsource] at h
      split at h
      · rename_i type others htype hothers
        cases h
        have hmem : (ColumnName.output field.1, field.2) ∈ jsonColumns columns := by
          rw [hcolumns]
          exact List.mem_map_of_mem (hsubset List.mem_cons_self)
        rw [resolveColumn_mem htype hmem,
          ih (fun other hmem => hsubset (List.mem_cons_of_mem _ hmem)) hothers]
      · cases h

/-- Columns with distinct names can be read back. -/
theorem typesOf_readBack_isSome
    {source : Nat}
    {fields : List (String × JsonShape)}
    (hsource : types[source]? = some columns)
    (hcolumns : jsonColumns columns = outputColumns fields)
    (hnodup : (fields.map Prod.fst).Nodup)
    {names : List String}
    (hsubset : names ⊆ fields.map Prod.fst) :
    ∃ shapes, typesOf types (readBack source names) = some shapes := by
  have hnames : columns.map Prod.fst = (fields.map Prod.fst).map ColumnName.output := by
    have h := congrArg (List.map Prod.fst) hcolumns
    rw [jsonColumns, outputColumns, List.map_map, List.map_map] at h
    rw [List.map_map]
    exact h
  have hcolumnsNodup : (columns.map Prod.fst).Nodup := by
    rw [hnames]
    exact hnodup.map (fun _ _ h => ColumnName.output.inj h)
  induction names with
  | nil => exact ⟨[], rfl⟩
  | cons name names ih =>
      obtain ⟨shapes, hshapes⟩ :=
        ih (fun other hmem => hsubset (List.mem_cons_of_mem _ hmem))
      have hmem : ColumnName.output name ∈ columns.map Prod.fst := by
        rw [hnames]
        exact List.mem_map_of_mem (hsubset List.mem_cons_self)
      obtain ⟨column, hcolumn, hname⟩ := List.mem_map.mp hmem
      have hresolved := resolveColumn_of_nodup hcolumnsNodup hcolumn
      rw [hname] at hresolved
      refine ⟨(name, column.2.toJson) :: shapes, ?_⟩
      rw [readBack, List.map_cons, ← readBack, typesOf, typeOf_reference hsource,
        hresolved, hshapes]

end Columns

/-! ## Scalars -/

section Scalars

variable {catalog : Catalog}
variable {types : List (List (ColumnName × SqlType))}
variable {expression : SqlExpr}

/-- The cast gives the representation of the wire encoding. -/
theorem typeOf_publicScalarExpression
    (h : typeOf types expression = some .native)
    (wire : WireEncoding) :
    (typeOf types (publicScalarExpression expression wire)).map SqlType.toJson =
      some (.scalar (if textualWire wire then .text else .native)) := by
  unfold publicScalarExpression
  cases textualWire wire with
  | true => simp only [if_true, typeOf, h, Option.map_some, SqlType.toJson]
  | false => simp only [Bool.false_eq_true, if_false, h, Option.map_some, SqlType.toJson]

/-- The cast of a column follows the published type of its declared type. -/
theorem typeOf_publicCatalogExpression
    (h : typeOf types expression = some .native)
    (declared : DeclaredType) :
    (typeOf types (publicCatalogExpression catalog expression declared)).map
        SqlType.toJson =
      some (.scalar (resultValueTypeForCatalogType catalog declared).representation) := by
  unfold publicCatalogExpression resultValueTypeForCatalogType
  cases catalog.valueShapeForType declared.id with
  | none =>
      simp only [h, Option.map_some, SqlType.toJson]
      rfl
  | some shape =>
      cases shape with
      | scalar leaf =>
          exact typeOf_publicScalarExpression h _
      | databaseArray element =>
          simp only [ResultValueTypeMetadata.representation, wireMetadataForCatalogType]
          by_cases htextual : textualWire element.dataType.capabilities.wire = true
          · simp only [htextual, if_true, typeOf, h, Option.map_some, SqlType.toJson]
          · simp only [htextual, if_neg, Bool.false_eq_true, not_false_eq_true, h,
              Option.map_some, SqlType.toJson]

/-- The public form of a column has its promised representation. -/
theorem typeOf_publicColumnExpression
    {column : ColumnId}
    (h : maskedColumnExpression catalog column = .ok expression)
    (fallback : DataType) :
    (typeOf types (publicColumnExpression catalog expression column)).map
        SqlType.toJson =
      some (.scalar (columnRepresentation catalog column fallback)) := by
  unfold maskedColumnExpression at h
  split at h
  · cases h
  · rename_i found hfound
    cases h
    obtain ⟨declared, hdeclared⟩ := Catalog.typeForColumn_of_columnById hfound
    simp only [publicColumnExpression, columnRepresentation, resultValueTypeForColumn,
      hdeclared, Option.map_some, Option.getD_some]
    exact typeOf_publicCatalogExpression rfl declared

/-- An aggregate comes in the native form. -/
theorem aggregateExpression_native
    {field : AggregateProjection}
    (h : aggregateExpression catalog field = .ok expression) :
    typeOf types expression = some .native := by
  obtain ⟨operand, -, h⟩ := except_bind_ok h
  split at h
  · cases h
    rfl
  · cases h
    rfl
  · cases h
    rfl
  · cases h

/-- An aggregate without an operand type has the built-in encoding of its
logical type on both sides. -/
theorem typeOf_publicAggregateExpression
    (h : typeOf types expression = some .native)
    (field : AggregateProjection) :
    (typeOf types (publicAggregateExpression catalog expression field)).map
        SqlType.toJson =
      some (.scalar (aggregateResultValueType catalog field).representation) := by
  have hbuiltin : ∀ wire : WireEncoding,
      wire = (TypeCapabilities.builtin field.dataType).wire →
      (typeOf types (publicScalarExpression expression wire)).map SqlType.toJson =
        some (.scalar
          (resultValueTypeForDataType field.dataType).representation) := by
    rintro wire rfl
    exact typeOf_publicScalarExpression h _
  unfold publicAggregateExpression aggregateResultValueType aggregateResultCatalogType
    aggregateWire
  cases hoperand : field.operand.bind catalog.typeForColumn with
  | none =>
      cases field.function with
      | min => exact hbuiltin _ rfl
      | max => exact hbuiltin _ rfl
      | count => exact hbuiltin _ rfl
      | «exists» => exact hbuiltin _ rfl
      | sum => exact hbuiltin _ rfl
      | avg => exact hbuiltin _ rfl
  | some declared =>
      cases field.function with
      | min => exact typeOf_publicCatalogExpression h declared
      | max => exact typeOf_publicCatalogExpression h declared
      | count => exact hbuiltin _ rfl
      | «exists» => exact hbuiltin _ rfl
      | sum => exact hbuiltin _ rfl
      | avg => exact hbuiltin _ rfl

theorem typesOf_cons
    {name : String}
    {shape : JsonShape}
    (h : (typeOf types expression).map SqlType.toJson = some shape)
    (fields : List (String × SqlExpr)) :
    typesOf types ((name, expression) :: fields) =
      (typesOf types fields).map (fun shapes => (name, shape) :: shapes) := by
  obtain ⟨type, htype, rfl⟩ := Option.map_eq_some_iff.mp h
  rw [typesOf, htype]
  cases typesOf types fields with
  | none => rfl
  | some shapes => rfl

/-- Aggregates have their promised shapes. -/
theorem typesOf_aggregateFields
    {plan : List AggregateProjection}
    {fields : List (String × SqlExpr)}
    (h : plan.mapM (aggregateField catalog) = .ok fields) :
    typesOf types fields = some (plan.map (aggregateShape catalog)) := by
  induction plan generalizing fields with
  | nil =>
      cases h
      rfl
  | cons field plan ih =>
      rw [List.mapM_cons] at h
      obtain ⟨first, hfirst, h⟩ := except_bind_ok h
      obtain ⟨rest, hrest, h⟩ := except_bind_ok h
      cases h
      obtain ⟨expression, hexpression, hfirst⟩ := except_bind_ok hfirst
      cases hfirst
      rw [typesOf_cons (typeOf_publicAggregateExpression
        (aggregateExpression_native hexpression) field), ih hrest]
      rfl

/-- Group keys have their promised shapes. -/
theorem typesOf_groupKeyFields
    {plan : List AggregateGroupProjection}
    {fields : List (String × SqlExpr)}
    (h : plan.mapM (groupKeyField catalog) = .ok fields) :
    typesOf types fields = some (plan.map (groupKeyShape catalog)) := by
  induction plan generalizing fields with
  | nil =>
      cases h
      rfl
  | cons key plan ih =>
      rw [List.mapM_cons] at h
      obtain ⟨first, hfirst, h⟩ := except_bind_ok h
      obtain ⟨rest, hrest, h⟩ := except_bind_ok h
      cases h
      obtain ⟨expression, hexpression, hfirst⟩ := except_bind_ok hfirst
      cases hfirst
      rw [typesOf_cons (typeOf_publicColumnExpression hexpression key.dataType),
        ih hrest]
      rfl

end Scalars

end Results
end Dsql
