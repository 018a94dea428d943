import Dsql.Types.Capabilities
import Mathlib.Tactic

/-!
# Type references and value shapes

A domain refers to its base and an array to its element by position in the
type table.  The consumers follow these references in loops without a visited
set.  A type that unfolds to a finite tree is one on which the loops end, and
the tree says where.
-/

namespace Dsql
namespace Types

structure TypeId where
  index : Nat
deriving DecidableEq, Repr

inductive CatalogTypeShape where
  | scalar
  | domain (base : TypeId)
  | array (element : TypeId)
  | enum
deriving DecidableEq, Repr

structure CatalogEnumVariant where
  variant : String
  databaseValue : String
  label : Option String
  description : Option String
deriving DecidableEq, Repr

structure CatalogEnum where
  description : Option String
  variants : List CatalogEnumVariant
deriving DecidableEq, Repr

/-- One provider type of the effective catalog; its identity is its position
in the type table. -/
structure CatalogType where
  key : TypeKey
  dataType : DataType
  shape : CatalogTypeShape
  enumeration : Option CatalogEnum
  readableType : String
  provider : Option ProviderTypeFacts
  capabilities : TypeCapabilities
deriving DecidableEq, Repr

def CatalogType.builtin (key : TypeKey) (dataType : DataType) : CatalogType where
  key := key
  dataType := dataType
  shape := .scalar
  enumeration := none
  readableType := key.name
  provider := none
  capabilities := .builtin dataType

/-- Effective public value shape after domain wrappers are resolved. -/
inductive CatalogValueShape where
  | scalar (leaf : TypeId)
  | databaseArray (element : TypeId)
deriving DecidableEq, Repr

/-! ## The consumers' loops

Each loop takes a bound on its iterations; `none` says that the bound was
reached, and an inner `none` that a reference leads out of the table. -/

section Loops

variable (types : List CatalogType)

/-- The inner loop over the elements of an array. -/
def elementShape : Nat → TypeId → TypeId → Option (Option CatalogValueShape)
  | 0, _, _ => none
  | fuel + 1, publicElement, element =>
      match types[element.index]? with
      | none => some none
      | some elementType =>
          match elementType.shape with
          | .scalar => some (some (.databaseArray publicElement))
          | .enum => some (some (.databaseArray publicElement))
          | .domain base => elementShape fuel publicElement base
          | .array nested => elementShape fuel nested nested

def valueShape : Nat → TypeId → TypeId → Option (Option CatalogValueShape)
  | 0, _, _ => none
  | fuel + 1, declared, current =>
      match types[current.index]? with
      | none => some none
      | some currentType =>
          match currentType.shape with
          | .scalar => some (some (.scalar declared))
          | .enum => some (some (.scalar declared))
          | .domain base => valueShape fuel declared base
          | .array element => elementShape types fuel element element

def valueShapeForType (fuel : Nat) (id : TypeId) :
    Option (Option CatalogValueShape) :=
  valueShape types fuel id id

def enumTypeForType : Nat → TypeId → Option (Option (TypeId × CatalogEnum))
  | 0, _ => none
  | fuel + 1, id =>
      match types[id.index]? with
      | none => some none
      | some dataType =>
          match dataType.shape with
          | .domain base => enumTypeForType fuel base
          | .enum => some (dataType.enumeration.map (fun found => (id, found)))
          | .scalar => some none
          | .array _ => some none

end Loops

/-! ## Unfolding -/

/-- A type with all its references unfolded. -/
inductive TypeTree where
  | scalar (id : TypeId)
  | enum (id : TypeId) (enumeration : Option CatalogEnum)
  | domain (id : TypeId) (base : TypeTree)
  | array (id : TypeId) (element : TypeTree)
deriving Repr

namespace TypeTree

def root : TypeTree → TypeId
  | .scalar id => id
  | .enum id _ => id
  | .domain id _ => id
  | .array id _ => id

/-- The element that an array of this type exposes: what is inside the
innermost array, or the type itself when there is none inside. -/
def exposed (given : TypeId) : TypeTree → TypeId
  | .scalar _ => given
  | .enum _ _ => given
  | .domain _ base => base.exposed given
  | .array _ element => element.exposed element.root

/-- Domains are transparent and an array exposes its innermost element. -/
def valueShape (declared : TypeId) : TypeTree → CatalogValueShape
  | .scalar _ => .scalar declared
  | .enum _ _ => .scalar declared
  | .domain _ base => base.valueShape declared
  | .array _ element => .databaseArray (element.exposed element.root)

/-- The native enum under a chain of domains. -/
def enumType : TypeTree → Option (TypeId × CatalogEnum)
  | .scalar _ => none
  | .enum id enumeration => enumeration.map (fun found => (id, found))
  | .domain _ base => base.enumType
  | .array _ _ => none

def height : TypeTree → Nat
  | .scalar _ => 0
  | .enum _ _ => 0
  | .domain _ base => base.height + 1
  | .array _ element => element.height + 1

end TypeTree

/-- What a position of the type table unfolds to. -/
inductive Unfolds (types : List CatalogType) : TypeId → TypeTree → Prop where
  | scalar {id : TypeId} {dataType : CatalogType} :
      types[id.index]? = some dataType → dataType.shape = .scalar →
      Unfolds types id (.scalar id)
  | enum {id : TypeId} {dataType : CatalogType} :
      types[id.index]? = some dataType → dataType.shape = .enum →
      Unfolds types id (.enum id dataType.enumeration)
  | domain {id base : TypeId} {dataType : CatalogType} {tree : TypeTree} :
      types[id.index]? = some dataType → dataType.shape = .domain base →
      Unfolds types base tree → Unfolds types id (.domain id tree)
  | array {id element : TypeId} {dataType : CatalogType} {tree : TypeTree} :
      types[id.index]? = some dataType → dataType.shape = .array element →
      Unfolds types element tree → Unfolds types id (.array id tree)

section Unfolds

variable {types : List CatalogType} {id : TypeId} {tree : TypeTree}

theorem Unfolds.root
    (h : Unfolds types id tree) :
    tree.root = id := by
  cases h with
  | scalar _ _ => rfl
  | enum _ _ => rfl
  | domain _ _ _ => rfl
  | array _ _ _ => rfl

theorem Unfolds.unique
    (h : Unfolds types id tree)
    {other : TypeTree}
    (h' : Unfolds types id other) :
    tree = other := by
  induction h generalizing other with
  | scalar htype hshape =>
      cases h' with
      | scalar _ _ => rfl
      | enum htype' hshape' => simp_all
      | domain htype' hshape' _ => simp_all
      | array htype' hshape' _ => simp_all
  | enum htype hshape =>
      cases h' with
      | scalar htype' hshape' => simp_all
      | enum htype' _ =>
          rw [htype] at htype'
          cases htype'
          rfl
      | domain htype' hshape' _ => simp_all
      | array htype' hshape' _ => simp_all
  | domain htype hshape _ ih =>
      cases h' with
      | scalar htype' hshape' => simp_all
      | enum htype' hshape' => simp_all
      | domain htype' hshape' htree' =>
          rw [htype] at htype'
          cases htype'
          rw [hshape] at hshape'
          cases hshape'
          rw [ih htree']
      | array htype' hshape' _ => simp_all
  | array htype hshape _ ih =>
      cases h' with
      | scalar htype' hshape' => simp_all
      | enum htype' hshape' => simp_all
      | domain htype' hshape' _ => simp_all
      | array htype' hshape' htree' =>
          rw [htype] at htype'
          cases htype'
          rw [hshape] at hshape'
          cases hshape'
          rw [ih htree']

/-- The inner loop ends at the leaf of the tree. -/
theorem elementShape_of_unfolds
    (h : Unfolds types id tree)
    {fuel : Nat}
    (hfuel : tree.height < fuel)
    (given : TypeId) :
    elementShape types fuel given id =
      some (some (.databaseArray (tree.exposed given))) := by
  induction h generalizing fuel given with
  | scalar htype hshape =>
      obtain ⟨fuel, rfl⟩ := Nat.exists_eq_succ_of_ne_zero (Nat.ne_zero_of_lt hfuel)
      simp only [elementShape, htype, hshape]
      rfl
  | enum htype hshape =>
      obtain ⟨fuel, rfl⟩ := Nat.exists_eq_succ_of_ne_zero (Nat.ne_zero_of_lt hfuel)
      simp only [elementShape, htype, hshape]
      rfl
  | domain htype hshape _ ih =>
      obtain ⟨fuel, rfl⟩ := Nat.exists_eq_succ_of_ne_zero (Nat.ne_zero_of_lt hfuel)
      simp only [elementShape, htype, hshape]
      exact ih (Nat.lt_of_succ_lt_succ hfuel) given
  | @array id element dataType tree htype hshape hbase ih =>
      obtain ⟨fuel, rfl⟩ := Nat.exists_eq_succ_of_ne_zero (Nat.ne_zero_of_lt hfuel)
      simp only [elementShape, htype, hshape, TypeTree.exposed]
      rw [hbase.root]
      exact ih (Nat.lt_of_succ_lt_succ hfuel) element

/-- The outer loop ends with the shape of the tree. -/
theorem valueShape_of_unfolds
    (h : Unfolds types id tree)
    {fuel : Nat}
    (hfuel : tree.height < fuel)
    (declared : TypeId) :
    valueShape types fuel declared id = some (some (tree.valueShape declared)) := by
  induction h generalizing fuel with
  | scalar htype hshape =>
      obtain ⟨fuel, rfl⟩ := Nat.exists_eq_succ_of_ne_zero (Nat.ne_zero_of_lt hfuel)
      simp only [valueShape, htype, hshape]
      rfl
  | enum htype hshape =>
      obtain ⟨fuel, rfl⟩ := Nat.exists_eq_succ_of_ne_zero (Nat.ne_zero_of_lt hfuel)
      simp only [valueShape, htype, hshape]
      rfl
  | domain htype hshape _ ih =>
      obtain ⟨fuel, rfl⟩ := Nat.exists_eq_succ_of_ne_zero (Nat.ne_zero_of_lt hfuel)
      simp only [valueShape, htype, hshape]
      exact ih (Nat.lt_of_succ_lt_succ hfuel)
  | @array id element dataType tree htype hshape hbase ih =>
      obtain ⟨fuel, rfl⟩ := Nat.exists_eq_succ_of_ne_zero (Nat.ne_zero_of_lt hfuel)
      simp only [valueShape, htype, hshape, TypeTree.valueShape]
      rw [elementShape_of_unfolds hbase (Nat.lt_of_succ_lt_succ hfuel), hbase.root]

theorem enumTypeForType_of_unfolds
    (h : Unfolds types id tree)
    {fuel : Nat}
    (hfuel : tree.height < fuel) :
    enumTypeForType types fuel id = some tree.enumType := by
  induction h generalizing fuel with
  | scalar htype hshape =>
      obtain ⟨fuel, rfl⟩ := Nat.exists_eq_succ_of_ne_zero (Nat.ne_zero_of_lt hfuel)
      simp only [enumTypeForType, htype, hshape]
      rfl
  | enum htype hshape =>
      obtain ⟨fuel, rfl⟩ := Nat.exists_eq_succ_of_ne_zero (Nat.ne_zero_of_lt hfuel)
      simp only [enumTypeForType, htype, hshape]
      rfl
  | domain htype hshape _ ih =>
      obtain ⟨fuel, rfl⟩ := Nat.exists_eq_succ_of_ne_zero (Nat.ne_zero_of_lt hfuel)
      simp only [enumTypeForType, htype, hshape]
      exact ih (Nat.lt_of_succ_lt_succ hfuel)
  | array htype hshape _ _ =>
      obtain ⟨fuel, rfl⟩ := Nat.exists_eq_succ_of_ne_zero (Nat.ne_zero_of_lt hfuel)
      simp only [enumTypeForType, htype, hshape]
      rfl

/-- The entries on the way to the leaf of an unfolding. -/
structure Passes
    (types : List CatalogType)
    (tree : TypeTree)
    (chain : List Nat) : Prop where
  length : chain.length = tree.height + 1
  nodup : chain.Nodup
  entries : ∀ entry ∈ chain, ∃ further : TypeTree,
    further.height ≤ tree.height ∧ Unfolds types ⟨entry⟩ further

theorem Passes.leaf
    (hheight : tree.height = 0)
    (h : Unfolds types id tree) :
    Passes types tree [id.index] := by
  refine ⟨by rw [hheight]; rfl, List.nodup_singleton _, ?_⟩
  intro entry hentry
  rw [List.mem_singleton.mp hentry]
  exact ⟨tree, le_refl _, h⟩

/-- A reference leads to an entry that is not met again further down. -/
theorem Passes.node
    {below : TypeTree}
    {chain : List Nat}
    (hheight : tree.height = below.height + 1)
    (h : Unfolds types id tree)
    (hbelow : Passes types below chain) :
    Passes types tree (id.index :: chain) := by
  have hfresh : id.index ∉ chain := by
    intro hmem
    obtain ⟨further, hle, hfurther⟩ := hbelow.entries id.index hmem
    have hsame := h.unique hfurther
    subst hsame
    omega
  refine ⟨by rw [List.length_cons, hbelow.length, hheight],
    List.nodup_cons.mpr ⟨hfresh, hbelow.nodup⟩, ?_⟩
  intro entry hentry
  obtain rfl | hentry := List.mem_cons.mp hentry
  · exact ⟨tree, le_refl _, h⟩
  · obtain ⟨further, hle, hfurther⟩ := hbelow.entries entry hentry
    exact ⟨further, by omega, hfurther⟩

theorem Unfolds.chain
    (h : Unfolds types id tree) :
    ∃ chain, Passes types tree chain := by
  induction h with
  | scalar htype hshape => exact ⟨_, .leaf rfl (.scalar htype hshape)⟩
  | enum htype hshape => exact ⟨_, .leaf rfl (.enum htype hshape)⟩
  | domain htype hshape htree ih =>
      obtain ⟨chain, hchain⟩ := ih
      exact ⟨_, .node rfl (.domain htype hshape htree) hchain⟩
  | array htype hshape htree ih =>
      obtain ⟨chain, hchain⟩ := ih
      exact ⟨_, .node rfl (.array htype hshape htree) hchain⟩

theorem Unfolds.lt_length
    (h : Unfolds types id tree) :
    id.index < types.length := by
  cases h with
  | scalar htype _ => exact (List.getElem?_eq_some_iff.mp htype).1
  | enum htype _ => exact (List.getElem?_eq_some_iff.mp htype).1
  | domain htype _ _ => exact (List.getElem?_eq_some_iff.mp htype).1
  | array htype _ _ => exact (List.getElem?_eq_some_iff.mp htype).1

/-- An unfolding passes through every entry of the table at most once. -/
theorem Unfolds.height_lt_length
    (h : Unfolds types id tree) :
    tree.height < types.length := by
  obtain ⟨chain, hchain⟩ := h.chain
  have hsubset : chain ⊆ List.range types.length := by
    intro entry hentry
    obtain ⟨further, -, hfurther⟩ := hchain.entries entry hentry
    exact List.mem_range.mpr hfurther.lt_length
  have hle := (hchain.nodup.subperm hsubset).length_le
  rw [List.length_range, hchain.length] at hle
  omega

end Unfolds

/-- Every entry of the table unfolds to a finite tree. -/
def Acyclic (types : List CatalogType) : Prop :=
  ∀ id : TypeId, id.index < types.length → ∃ tree, Unfolds types id tree

end Types
end Dsql
