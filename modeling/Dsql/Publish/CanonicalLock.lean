import Dsql.Logic.Canonical
import Dsql.Logic.Text
import Dsql.Policy.Index
import Dsql.Publish.MatchLock
import Mathlib.Data.List.DropRight
import Mathlib.Data.String.Basic

/-!
# The canonical match lock

Locks are compared and serialized in a canonical form that forgets the order
and the repeats of every collection.  The YAML library is a parameter.
-/

namespace Dsql

/-! ## The order of the entries -/

theorem LockedPolicyReference.key_injective :
    Function.Injective (fun reference : LockedPolicyReference =>
      toLex (reference.scope, reference.name)) := by
  intro left right h
  cases left
  cases right
  simpa using h

instance : LinearOrder LockedPolicyReference :=
  LinearOrder.lift' _ LockedPolicyReference.key_injective

theorem LockedFilterMatch.key_injective :
    Function.Injective (fun matched : LockedFilterMatch =>
      toLex (matched.target, matched.fields.map toLex)) := by
  intro left right h
  cases left
  cases right
  have hfields := List.map_injective_iff.mpr
    (toLex : String × String ≃ _).injective
  simp only [EmbeddingLike.apply_eq_iff_eq, Prod.mk.injEq] at h
  rw [h.1, hfields h.2]

instance : LinearOrder LockedFilterMatch :=
  LinearOrder.lift' _ LockedFilterMatch.key_injective

theorem LockedFilter.key_injective :
    Function.Injective (fun filter : LockedFilter =>
      toLex (filter.scope, toLex (filter.definedIn, toLex (filter.name,
        toLex (filter.conditions, filter.«matches»))))) := by
  intro left right h
  cases left
  cases right
  simpa using h

instance : LinearOrder LockedFilter :=
  LinearOrder.lift' _ LockedFilter.key_injective

/-! ## Canonical locks -/

def LockedFilter.canonicalize (filter : LockedFilter) : LockedFilter :=
  { filter with
    conditions := canonicalList filter.conditions
    «matches» := canonicalList filter.«matches» }

/-- Filters that say the same about the same definition. -/
structure LockedFilter.SameContents (left right : LockedFilter) : Prop where
  scope : left.scope = right.scope
  definedIn : left.definedIn = right.definedIn
  name : left.name = right.name
  conditions : ∀ condition,
    condition ∈ left.conditions ↔ condition ∈ right.conditions
  «matches» : ∀ matched,
    matched ∈ left.«matches» ↔ matched ∈ right.«matches»

theorem LockedFilter.canonicalize_eq_iff {left right : LockedFilter} :
    left.canonicalize = right.canonicalize ↔ left.SameContents right := by
  constructor
  · intro h
    unfold canonicalize at h
    rw [LockedFilter.mk.injEq] at h
    obtain ⟨hscope, hdefined, hname, hconditions, hmatches⟩ := h
    exact ⟨hscope, hdefined, hname, canonicalList_eq_iff.mp hconditions,
      canonicalList_eq_iff.mp hmatches⟩
  · rintro ⟨hscope, hdefined, hname, hconditions, hmatches⟩
    unfold canonicalize
    rw [hscope, hdefined, hname, canonicalList_eq_iff.mpr hconditions,
      canonicalList_eq_iff.mpr hmatches]

theorem LockedFilter.canonicalize_idem (filter : LockedFilter) :
    filter.canonicalize.canonicalize = filter.canonicalize := by
  unfold canonicalize
  rw [canonicalList_idem, canonicalList_idem]

namespace FilterMatchLock

/-- Sorts and deduplicates the collections of every filter, then the
filters. -/
def canonicalize (lock : FilterMatchLock) : FilterMatchLock :=
  { lock with
    filters := canonicalList (lock.filters.map LockedFilter.canonicalize) }

/-- Locks of one version whose filters say the same. -/
structure SameContents (left right : FilterMatchLock) : Prop where
  version : left.version = right.version
  kept : ∀ filter ∈ left.filters,
    ∃ other ∈ right.filters, filter.SameContents other
  known : ∀ filter ∈ right.filters,
    ∃ other ∈ left.filters, other.SameContents filter

theorem mem_map_canonicalize
    {filters others : List LockedFilter}
    (h : ∀ filter ∈ filters, ∃ other ∈ others,
      filter.canonicalize = other.canonicalize)
    {item : LockedFilter}
    (hitem : item ∈ filters.map LockedFilter.canonicalize) :
    item ∈ others.map LockedFilter.canonicalize := by
  obtain ⟨filter, hfilter, rfl⟩ := List.mem_map.mp hitem
  obtain ⟨other, hother, hsame⟩ := h filter hfilter
  exact List.mem_map.mpr ⟨other, hother, hsame.symm⟩

/-- The canonical form is the same exactly for locks with the same
contents. -/
theorem canonicalize_eq_iff {left right : FilterMatchLock} :
    left.canonicalize = right.canonicalize ↔ left.SameContents right := by
  constructor
  · intro h
    unfold canonicalize at h
    rw [FilterMatchLock.mk.injEq, canonicalList_eq_iff] at h
    refine ⟨h.1, ?_, ?_⟩
    · intro filter hfilter
      obtain ⟨other, hother, hsame⟩ := List.mem_map.mp
        ((h.2 _).mp (List.mem_map_of_mem hfilter))
      exact ⟨other, hother, LockedFilter.canonicalize_eq_iff.mp hsame.symm⟩
    · intro filter hfilter
      obtain ⟨other, hother, hsame⟩ := List.mem_map.mp
        ((h.2 _).mpr (List.mem_map_of_mem hfilter))
      exact ⟨other, hother, LockedFilter.canonicalize_eq_iff.mp hsame⟩
  · rintro ⟨hversion, hkept, hknown⟩
    unfold canonicalize
    rw [FilterMatchLock.mk.injEq, canonicalList_eq_iff]
    refine ⟨hversion, fun item => ⟨?_, ?_⟩⟩
    · refine mem_map_canonicalize (fun filter hfilter => ?_)
      obtain ⟨other, hother, hsame⟩ := hkept filter hfilter
      exact ⟨other, hother, LockedFilter.canonicalize_eq_iff.mpr hsame⟩
    · refine mem_map_canonicalize (fun filter hfilter => ?_)
      obtain ⟨other, hother, hsame⟩ := hknown filter hfilter
      exact ⟨other, hother, (LockedFilter.canonicalize_eq_iff.mpr hsame).symm⟩

theorem canonicalize_idem (lock : FilterMatchLock) :
    lock.canonicalize.canonicalize = lock.canonicalize := by
  unfold canonicalize
  rw [FilterMatchLock.mk.injEq, canonicalList_eq_iff]
  refine ⟨rfl, fun item => ?_⟩
  rw [List.mem_map]
  simp only [mem_canonicalList, List.mem_map]
  constructor
  · rintro ⟨_, ⟨filter, hfilter, rfl⟩, rfl⟩
    exact ⟨filter, hfilter, filter.canonicalize_idem.symm⟩
  · rintro ⟨filter, hfilter, rfl⟩
    exact ⟨_, ⟨filter, hfilter, rfl⟩, filter.canonicalize_idem⟩

/-- One definition of a filter: where it applies, where it is written and its
name. -/
structure Definition where
  scope : String
  definedIn : String
  name : String
deriving DecidableEq, Repr

/-- The matches of a filter that a lock records. -/
def Denotes
    (lock : FilterMatchLock)
    (definition : Definition)
    (matched : LockedFilterMatch) : Prop :=
  ∃ filter ∈ lock.filters,
    filter.scope = definition.scope ∧
      filter.definedIn = definition.definedIn ∧
      filter.name = definition.name ∧ matched ∈ filter.«matches»

/-- Locks with the same contents record the same matches. -/
theorem SameContents.denotes
    {left right : FilterMatchLock}
    (h : left.SameContents right)
    (definition : Definition)
    (matched : LockedFilterMatch) :
    left.Denotes definition matched ↔ right.Denotes definition matched := by
  constructor
  · rintro ⟨filter, hfilter, hscope, hdefined, hname, hmatched⟩
    obtain ⟨other, hother, hsame⟩ := h.kept filter hfilter
    exact ⟨other, hother, hsame.scope ▸ hscope, hsame.definedIn ▸ hdefined,
      hsame.name ▸ hname, (hsame.«matches» matched).mp hmatched⟩
  · rintro ⟨filter, hfilter, hscope, hdefined, hname, hmatched⟩
    obtain ⟨other, hother, hsame⟩ := h.known filter hfilter
    exact ⟨other, hother, hsame.scope ▸ hscope, hsame.definedIn ▸ hdefined,
      hsame.name ▸ hname, (hsame.«matches» matched).mpr hmatched⟩

end FilterMatchLock

/-! ## Lock documents -/

/-- The YAML library at the types of the lock. -/
structure YamlLibrary where
  print : FilterMatchLock → Except String String
  parse : String → Except String FilterMatchLock
  /-- The version of a document, whatever else it holds. -/
  parseVersion : String → Except String Nat

/-- The characters that Unicode calls white space. -/
def isWhiteSpace (char : Char) : Bool :=
  [0x20, 0x85, 0xA0, 0x1680, 0x2028, 0x2029, 0x202F, 0x205F,
    0x3000].contains char.toNat ||
    (0x9 ≤ char.toNat && char.toNat ≤ 0xD) ||
    (0x2000 ≤ char.toNat && char.toNat ≤ 0x200A)

def trimEnd (line : String) : String :=
  String.ofList (line.toList.rdropWhile isWhiteSpace)

/-- The lines of a text; a final line feed starts no further line. -/
def textLines (text : String) : List String :=
  let parts := Text.split '\n' text
  if parts.getLast? = some "" then parts.dropLast else parts

/-- The text without white space at the ends of its lines. -/
def trimLineEnds (text : String) : String :=
  String.intercalate "\n" ((textLines text).map trimEnd) ++
    if text.toList.getLast? = some '\n' then "\n" else ""

/-- What a lock document relies on: a value that prints reads back as itself,
also without white space at the ends of the lines, and the version that is read
alone is the one of the whole document. -/
structure YamlLibrary.Laws (yaml : YamlLibrary) : Prop where
  roundTrip : ∀ lock text,
    yaml.print lock = .ok text → yaml.parse text = .ok lock
  lineEnds : ∀ lock text,
    yaml.print lock = .ok text → yaml.parse (trimLineEnds text) = yaml.parse text
  version : ∀ text lock version,
    yaml.parse text = .ok lock → yaml.parseVersion text = .ok version →
      version = lock.version

namespace FilterMatchLock

def toYaml (yaml : YamlLibrary) (lock : FilterMatchLock) :
    Except String String := do
  let serialized ← yaml.print lock.canonicalize
  .ok (trimLineEnds serialized)

def fromYaml (yaml : YamlLibrary) (input : String) :
    Except String FilterMatchLock := do
  let lock ← yaml.parse input
  .ok lock.canonicalize

theorem parse_toYaml
    {yaml : YamlLibrary}
    (hyaml : yaml.Laws)
    {lock : FilterMatchLock}
    {text : String}
    (h : lock.toYaml yaml = .ok text) :
    yaml.parse text = .ok lock.canonicalize := by
  unfold toYaml at h
  cases hprint : yaml.print lock.canonicalize with
  | error message =>
      rw [hprint] at h
      cases h
  | ok serialized =>
      rw [hprint] at h
      cases h
      rw [hyaml.lineEnds _ _ hprint, hyaml.roundTrip _ _ hprint]

/-- A document reads back as the canonical form of its lock. -/
theorem fromYaml_toYaml
    {yaml : YamlLibrary}
    (hyaml : yaml.Laws)
    {lock : FilterMatchLock}
    {text : String}
    (h : lock.toYaml yaml = .ok text) :
    fromYaml yaml text = .ok lock.canonicalize := by
  unfold fromYaml
  rw [parse_toYaml hyaml h]
  exact congrArg Except.ok lock.canonicalize_idem

end FilterMatchLock

/-! ## The lock of a project -/

/-- The structural fields of a match by name; the last of one name counts. -/
def lockedFields (fields : List (String × DataType)) : List (String × String) :=
  (canonicalList (fields.map Prod.fst)).filterMap (fun name =>
    (fields.reverse.find? (fun field => field.1 == name)).map (fun field =>
      (name, field.2.asStr)))

/-- The filter of a compiled entry as one scope sees it; `targetFields` are
the structural fields of the resolved entries. -/
def lockedFilter
    (catalog : Catalog)
    (resolution : PolicyIndex)
    (targetFields : PolicyEntity → List (String × DataType))
    (scope : String)
    (entry : CompiledPolicyEntry) : Option LockedFilter :=
  match resolution.entries.find? (fun resolved =>
      resolved.entity == entry.entity) with
  | none => none
  | some resolved =>
      if resolved.kind ≠ .filter then
        none
      else
        let found := entry.targets.filterMap (fun target =>
          (catalog.tableById target.table).map (fun table =>
            (⟨table.schema ++ "." ++ table.name,
              lockedFields (targetFields resolved.entity)⟩ :
                LockedFilterMatch)))
        some
          { scope := scope
            definedIn := entry.identity.scope
            name := entry.identity.name
            conditions := entry.conditions.map (fun condition =>
              ⟨condition.scope, condition.name⟩)
            «matches» := canonicalList found }

def assembleFilterMatchLock
    (catalog : Catalog)
    (resolution : PolicyIndex)
    (targetFields : PolicyEntity → List (String × DataType))
    (compiled : CompiledPolicyIndex)
    (imports : ScopeImports) : FilterMatchLock :=
  let scopes := canonicalList
    (imports.edges.map Prod.fst ++ resolution.entries.map PolicyEntry.scope)
  FilterMatchLock.canonicalize
    { version := filterMatchLockVersion
      filters := scopes.flatMap (fun scope =>
        (compiled.entries.filter (fun entry =>
          (imports.visibleFrom scope).contains entry.identity.scope)).filterMap
            (lockedFilter catalog resolution targetFields scope)) }

/-- The lock of a project is canonical and of the current version. -/
theorem assembleFilterMatchLock_canonical
    (catalog : Catalog)
    (resolution : PolicyIndex)
    (targetFields : PolicyEntity → List (String × DataType))
    (compiled : CompiledPolicyIndex)
    (imports : ScopeImports) :
    (assembleFilterMatchLock catalog resolution targetFields compiled
        imports).canonicalize =
      assembleFilterMatchLock catalog resolution targetFields compiled
        imports ∧
    (assembleFilterMatchLock catalog resolution targetFields compiled
      imports).version = filterMatchLockVersion :=
  ⟨FilterMatchLock.canonicalize_idem _, rfl⟩

end Dsql
