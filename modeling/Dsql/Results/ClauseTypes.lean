import Dsql.Results.Plans

/-!
# The typed catalog as clauses read it

Clauses read a type without its references: its key, its logical type, the
variants of its enumeration, and what may be done with its values.  They find
a column under its identifier, which the typed catalog has as a position.
-/

namespace Dsql
namespace Types

/-- What the standard library and the pattern matcher decide about a text. -/
structure LiteralTexts where
  /-- The text spells a finite number. -/
  finiteFloat : String → Bool
  matchesPattern : (pattern value : String) → Bool

/-- The least integer that JavaScript keeps exact. -/
def minSafeInteger : Int := -9007199254740991

/-- The greatest integer that JavaScript keeps exact. -/
def maxSafeInteger : Int := 9007199254740991

variable (texts : LiteralTexts)

/-- The text of a literal is valid for its type. -/
def ScalarValidation.validates : ScalarValidation → String → Bool
  | .any, _ => true
  | .integer, value => (parseI64 value).isSome
  | .safeInteger, value =>
      (parseI64 value).any (fun number =>
        minSafeInteger ≤ number && number ≤ maxSafeInteger)
  | .finiteFloat, value => texts.finiteFloat value

/-- A literal is accepted by its kind, its text and the pattern of a domain. -/
def ScalarAcceptance.accepts
    (acceptance : ScalarAcceptance)
    (kind : LiteralKind)
    (value : String) : Bool :=
  acceptance.kinds.contains kind &&
    (acceptance.validation.validates texts value &&
      acceptance.pattern.all (fun pattern =>
        texts.matchesPattern pattern value))

/-- The surface of one scalar with its validation applied. -/
def ScalarAcceptance.read
    (acceptance : ScalarAcceptance) : Dsql.ScalarAcceptance where
  kinds := acceptance.kinds
  valid := fun value =>
    acceptance.validation.validates texts value &&
      acceptance.pattern.all (fun pattern =>
        texts.matchesPattern pattern value)
  description := acceptance.description

/-- The capabilities as clauses read them. -/
def TypeCapabilities.read
    (capabilities : TypeCapabilities) : Dsql.TypeCapabilities where
  wire := capabilities.wire
  operators := capabilities.operators
  literals := capabilities.literals.read texts
  aggregates := capabilities.aggregates

/-- Reading changes nothing in what is accepted. -/
theorem ScalarAcceptance.accepts_read
    (acceptance : ScalarAcceptance)
    (kind : LiteralKind)
    (value : String) :
    (acceptance.read texts).accepts kind value =
      acceptance.accepts texts kind value := rfl

@[simp] theorem TypeCapabilities.supports_read
    (capabilities : TypeCapabilities)
    (op : ComparisonOp) :
    (capabilities.read texts).supports op = capabilities.supports op := rfl

/-- The built-in capabilities of clauses are those of the type table. -/
theorem TypeCapabilities.read_builtin (dataType : DataType) :
    (TypeCapabilities.builtin dataType).read texts =
      builtinCapabilities dataType := by
  have hany (validation : ScalarValidation) (kinds : List LiteralKind)
      (description : String) :
      ScalarAcceptance.read texts ⟨kinds, validation, description, none⟩ =
        ⟨kinds, validation.validates texts, description⟩ := by
    simp only [ScalarAcceptance.read, Option.all_none, Bool.and_true]
  cases dataType <;>
    simp only [TypeCapabilities.read, TypeCapabilities.builtin,
      builtinDefinition, hany] <;>
    rfl

/-- A type as clauses read it. -/
def CatalogType.read (catalogType : CatalogType) : Dsql.CatalogType where
  key := catalogType.key
  dataType := catalogType.dataType
  readableType := catalogType.readableType
  enumeration := catalogType.enumeration.map (fun enumeration =>
    enumeration.variants.map CatalogEnumVariant.variant)
  capabilities := catalogType.capabilities.read texts

theorem CatalogType.logicalDataType_read (catalogType : CatalogType) :
    (catalogType.read texts).logicalDataType =
      if catalogType.capabilities.wire == .textCast then .text
      else catalogType.dataType := rfl

end Types

namespace Results

open Dsql.Types

/-! ## Two readings of one catalog -/

namespace Catalog

variable (texts : LiteralTexts)

/-- A catalog that reads the types of the columns of a typed one. -/
def ReadBy (typed : Catalog) (catalog : Dsql.Catalog) : Prop :=
  ∀ id : ColumnId,
    (catalog.columnById id).map (fun column => (column.type, column.notNull)) =
      (typed.columnById id).bind (fun column =>
        (typed.typeById column.typeId).map (fun declared =>
          (declared.dataType.read texts, column.notNull)))

variable {texts} {typed : Catalog} {catalog : Dsql.Catalog}

/-- Both catalogs give a column the same type. -/
theorem ReadBy.typeForColumn
    (h : typed.ReadBy texts catalog)
    (id : ColumnId) :
    catalog.typeForColumn id =
      (typed.typeForColumn id).map (fun declared =>
        declared.dataType.read texts) := by
  have hcolumn := congrArg (Option.map Prod.fst) (h id)
  rw [Option.map_map] at hcolumn
  rw [Dsql.Catalog.typeForColumn, Results.Catalog.typeForColumn]
  refine hcolumn.trans ?_
  cases typed.columnById id with
  | none => rfl
  | some column =>
      rw [Option.bind_some]
      cases htype : typed.typeById column.typeId with
      | none => simp [htype]
      | some declared => simp [htype]

/-- Both catalogs have the same columns. -/
theorem ReadBy.columnById_isSome
    (h : typed.ReadBy texts catalog)
    (id : ColumnId) :
    (typed.columnById id).isSome = (catalog.columnById id).isSome := by
  have hsome := congrArg Option.isSome (h id)
  rw [Option.isSome_map] at hsome
  rw [hsome]
  cases hcolumn : typed.columnById id with
  | none => rfl
  | some column =>
      obtain ⟨declared, hdeclared⟩ := typeForColumn_of_columnById hcolumn
      have htype : typed.typeById column.typeId = some declared := by
        simpa only [Results.Catalog.typeForColumn, hcolumn] using hdeclared
      rw [Option.bind_some, htype]
      rfl

/-- Clauses and results give a column the same logical type. -/
theorem ReadBy.dataTypeForColumn
    (h : typed.ReadBy texts catalog)
    (id : ColumnId) :
    ((catalog.typeForColumn id).map CatalogType.logicalDataType).getD
        .unknown =
      typed.dataTypeForColumn id := by
  rw [h.typeForColumn, Results.Catalog.dataTypeForColumn]
  cases typed.typeForColumn id <;> rfl

/-! ### A catalog from the typed one -/

/-- What a catalog knows of a column beside its type. -/
structure NamedColumn where
  table : TableId
  name : String
  visible : Bool

/-- The column at a position of the typed catalog. -/
def readColumn
    (texts : LiteralTexts)
    (typed : Catalog)
    (named : ColumnId → NamedColumn)
    (entry : Column × Nat) : Option Dsql.Column :=
  (typed.typeById entry.1.typeId).map (fun declared =>
    { id := ⟨entry.2⟩
      table := (named ⟨entry.2⟩).table
      name := (named ⟨entry.2⟩).name
      visible := (named ⟨entry.2⟩).visible
      type := declared.dataType.read texts
      notNull := entry.1.notNull })

/-- The catalog that reads the typed one. -/
def read
    (texts : LiteralTexts)
    (typed : Catalog)
    (schema : String)
    (tables : List Table)
    (relations : List Relation)
    (named : ColumnId → NamedColumn) : Dsql.Catalog where
  defaultSchema := schema
  tables := tables
  types := typed.types.map (CatalogType.read texts)
  columns := typed.columns.zipIdx.filterMap (typed.readColumn texts named)
  relations := relations

theorem find?_filterMap_zipIdx
    {α β : Type}
    {f : α × Nat → Option β}
    {k : β → Nat}
    (hkey : ∀ value position found,
      f (value, position) = some found → k found = position)
    (values : List α)
    (start position : Nat) :
    ((values.zipIdx start).filterMap f).find? (fun found =>
        k found == position) =
      if start ≤ position then
        (values[position - start]?).bind (fun value => f (value, position))
      else none := by
  induction values generalizing start with
  | nil => simp
  | cons value values ih =>
      rw [List.zipIdx_cons, List.filterMap_cons]
      rcases Nat.lt_trichotomy start position with hlt | heq | hgt
      · have hget : (value :: values)[position - start]? =
            values[position - (start + 1)]? := by
          rw [show position - start = position - (start + 1) + 1 by omega]
          rfl
        rw [if_pos (Nat.le_of_lt hlt), hget]
        have hrest := ih (start + 1)
        rw [if_pos (Nat.succ_le_of_lt hlt)] at hrest
        cases hfound : f (value, start) with
        | none => exact hrest
        | some found =>
            rw [List.find?_cons_of_neg, hrest]
            simpa [hkey _ _ _ hfound] using Nat.ne_of_lt hlt
      · subst heq
        rw [if_pos (Nat.le_refl _), Nat.sub_self, List.getElem?_cons_zero,
          Option.bind_some]
        cases hfound : f (value, start) with
        | none => simpa using ih (start + 1)
        | some found =>
            rw [List.find?_cons_of_pos]
            simp [hkey _ _ _ hfound]
      · rw [if_neg (Nat.not_le_of_lt hgt)]
        have hrest := ih (start + 1)
        rw [if_neg (Nat.not_le_of_lt (Nat.lt_succ_of_lt hgt))] at hrest
        cases hfound : f (value, start) with
        | none => exact hrest
        | some found =>
            rw [List.find?_cons_of_neg, hrest]
            simpa [hkey _ _ _ hfound] using Nat.ne_of_gt hgt

/-- The catalog that clauses read is read from the typed one. -/
theorem read_readBy
    (texts : LiteralTexts)
    (typed : Catalog)
    (schema : String)
    (tables : List Table)
    (relations : List Relation)
    (named : ColumnId → NamedColumn) :
    typed.ReadBy texts (typed.read texts schema tables relations named) := by
  intro id
  have hfind := find?_filterMap_zipIdx (f := typed.readColumn texts named)
    (k := fun column => column.id.index)
    (fun value position found hfound => by
      obtain ⟨declared, -, rfl⟩ := Option.map_eq_some_iff.mp hfound
      rfl)
    typed.columns 0 id.index
  rw [if_pos (Nat.zero_le _), Nat.sub_zero] at hfind
  have hposition : (fun column : Dsql.Column => column.id.index == id.index) =
      fun column => column.id == id := by
    funext column
    obtain ⟨position⟩ := id
    cases column.id
    simp
  rw [hposition] at hfind
  refine (congrArg _ hfind).trans ?_
  rw [Option.map_bind]
  simp only [readColumn, Function.comp_def, Option.map_map]
  rfl

end Catalog

end Results
end Dsql
