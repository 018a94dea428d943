import Dsql.Types.Collecting
import Mathlib.Tactic

/-!
# Mappings narrow and do not depend on order

What a type accepts after the mappings are applied is a function of its own
declaration and of what its base accepts.  Every such step keeps within the
provider's surface and leaves the wire encoding alone.
-/

namespace Dsql
namespace Types

/-! ## One mapping -/

theorem requestOperators_supported
    {capabilities : TypeCapabilities}
    {index : Nat}
    (configured : List CatalogTypeOperator)
    {requested operators : List ComparisonOp}
    (hrequested : ∀ operator ∈ requested, operator ∈ capabilities.operators)
    (h : requestOperators capabilities index requested configured = .ok operators) :
    (∀ operator ∈ operators, operator ∈ capabilities.operators) ∧
      operators = requested ++ configured.map CatalogTypeOperator.comparison := by
  induction configured generalizing requested with
  | nil =>
      cases h
      exact ⟨hrequested, by simp⟩
  | cons first rest ih =>
      unfold requestOperators at h
      split at h
      · cases h
      · split at h
        · cases h
        · rename_i hsupported
          have hfirst : first.comparison ∈ capabilities.operators := by
            simpa [TypeCapabilities.supports] using hsupported
          have hnext : ∀ operator ∈ requested ++ [first.comparison],
              operator ∈ capabilities.operators := by
            intro operator hmem
            obtain hmem | hmem := List.mem_append.mp hmem
            · exact hrequested operator hmem
            · rw [List.mem_singleton.mp hmem]
              exact hfirst
          obtain ⟨hwithin, hoperators⟩ := ih hnext h
          refine ⟨hwithin, ?_⟩
          rw [hoperators, List.map_cons, List.append_assoc, List.singleton_append]

theorem requestOperators_index
    {capabilities : TypeCapabilities}
    {index : Nat}
    (other : Nat)
    (configured : List CatalogTypeOperator)
    {requested operators : List ComparisonOp}
    (h : requestOperators capabilities index requested configured = .ok operators) :
    requestOperators capabilities other requested configured = .ok operators := by
  induction configured generalizing requested with
  | nil => exact h
  | cons first rest ih =>
      unfold requestOperators at h ⊢
      split at h
      · cases h
      · rename_i hduplicate
        rw [if_neg hduplicate]
        split at h
        · cases h
        · rename_i hsupported
          rw [if_neg hsupported]
          exact ih h

/-- The operators that a declaration leaves. -/
def declaredOperators (config : CatalogTypeConfig) : Option (List ComparisonOp) :=
  config.operators.map (fun operators =>
    operators.map CatalogTypeOperator.comparison)

/-- The capabilities that a declaration makes of those it is applied to. -/
def declaredCapabilities
    (capabilities : TypeCapabilities)
    (config : CatalogTypeConfig) : TypeCapabilities :=
  capabilities.applyMapping config.name config.literal.literalKind config.pattern
    (declaredOperators config) config.orderable

theorem requestedOperators_supported
    {capabilities : TypeCapabilities}
    {mapping : Mapping}
    {operators : Option (List ComparisonOp)}
    (h : requestedOperators capabilities mapping = .ok operators) :
    operators = declaredOperators mapping.config ∧
      ∀ operator ∈ operators.getD capabilities.operators,
        operator ∈ capabilities.operators := by
  unfold requestedOperators at h
  unfold declaredOperators
  cases hconfigured : mapping.config.operators with
  | none =>
      rw [hconfigured] at h
      cases h
      exact ⟨rfl, fun _ hmem => hmem⟩
  | some configured =>
      rw [hconfigured] at h
      obtain ⟨requested, hrequested, h⟩ := except_bind_ok h
      cases h
      obtain ⟨hwithin, hoperators⟩ :=
        requestOperators_supported configured
          (fun _ hmem => absurd hmem List.not_mem_nil) hrequested
      exact ⟨by rw [hoperators]; rfl, hwithin⟩

/-- A mapping that applies matches the encoding and makes of the capabilities
exactly what it declares, within what they were. -/
theorem applyMapping_spec
    {capabilities mapped : TypeCapabilities}
    {mapping : Mapping}
    (h : applyMapping capabilities mapping = .ok mapped) :
    mapping.config.wire.accepts capabilities.wire = true ∧
      mapped = declaredCapabilities capabilities mapping.config ∧
      mapped.Narrows capabilities ∧ mapped.wire = capabilities.wire := by
  unfold applyMapping at h
  simp only at h
  split at h
  · cases h
  · rename_i hwire
    split at h
    · cases h
    · split at h
      · cases h
      · split at h
        · cases h
        · obtain ⟨operators, hoperators, h⟩ := except_bind_ok h
          obtain ⟨hdeclared, hwithin⟩ := requestedOperators_supported hoperators
          cases h
          refine ⟨by simpa using hwire, by rw [hdeclared]; rfl, ⟨hwithin, ?_⟩, rfl⟩
          intro horderable
          unfold TypeCapabilities.applyMapping at horderable
          simp only at horderable
          split at horderable
          · cases horderable
          · exact horderable

/-- A mapping applies by its configuration, wherever it stands. -/
theorem applyMapping_config
    {capabilities mapped : TypeCapabilities}
    {mapping other : Mapping}
    (hconfig : mapping.config = other.config)
    (h : applyMapping capabilities mapping = .ok mapped) :
    applyMapping capabilities other = .ok mapped := by
  unfold applyMapping at h ⊢
  simp only [hconfig] at h ⊢
  split at h
  · cases h
  · rename_i hwire
    rw [if_neg hwire]
    split at h
    · cases h
    · rename_i hliteral
      rw [if_neg hliteral]
      split at h
      · cases h
      · rename_i hpattern
        rw [if_neg hpattern]
        split at h
        · cases h
        · rename_i horderable
          rw [if_neg horderable]
          obtain ⟨operators, hoperators, h⟩ := except_bind_ok h
          have hoperators : requestedOperators capabilities other = .ok operators := by
            unfold requestedOperators at hoperators ⊢
            rw [hconfig] at hoperators
            cases hconfigured : other.config.operators with
            | none =>
                rw [hconfigured] at hoperators
                exact hoperators
            | some configured =>
                rw [hconfigured] at hoperators
                obtain ⟨requested, hrequested, hoperators⟩ :=
                  except_bind_ok hoperators
                simp only
                rw [requestOperators_index other.index configured hrequested]
                exact hoperators
          rw [hoperators]
          exact h

/-! ## Resolved capabilities -/

/-- Two collections declare the same configuration for every type. -/
def SameConfigs (mappings others : List Mapping) : Prop :=
  ∀ index : Nat,
    (mappings.find? (fun mapping => mapping.id == index)).map Mapping.config =
      (others.find? (fun mapping => mapping.id == index)).map Mapping.config

theorem buildCapabilities_config
    {types : List CatalogType}
    {mappings others : List Mapping}
    (hsame : SameConfigs mappings others)
    {index : Nat}
    {base : Option TypeCapabilities}
    {capabilities : TypeCapabilities}
    (h : buildCapabilities types mappings index base = .ok capabilities) :
    buildCapabilities types others index base = .ok capabilities := by
  have hindex := hsame index
  unfold buildCapabilities at h ⊢
  cases htype : types[index]? with
  | none =>
      rw [htype] at h
      cases h
  | some known =>
      rw [htype] at h
      simp only at h ⊢
      cases hmapping : mappings.find? (fun mapping => mapping.id == index) with
      | none =>
          rw [hmapping] at h hindex
          cases hother : others.find? (fun mapping => mapping.id == index) with
          | none => exact h
          | some other =>
              rw [hother] at hindex
              cases hindex
      | some mapping =>
          rw [hmapping] at h hindex
          cases hother : others.find? (fun mapping => mapping.id == index) with
          | none =>
              rw [hother] at hindex
              cases hindex
          | some other =>
              rw [hother] at hindex
              exact applyMapping_config (Option.some.inj hindex) h

theorem denotes_config
    {types : List CatalogType}
    {mappings others : List Mapping}
    (hsame : SameConfigs mappings others)
    {depth index : Nat}
    {capabilities : TypeCapabilities}
    (h : (capabilityResolver types mappings).Denotes depth index capabilities) :
    (capabilityResolver types others).Denotes depth index capabilities := by
  induction h with
  | leaf hlt hplan hbuild =>
      exact .leaf hlt hplan (buildCapabilities_config hsame hbuild)
  | step hlt hplan _ hbuild ih =>
      exact .step hlt hplan ih (buildCapabilities_config hsame hbuild)

section Apply

variable (validatePortablePattern : String → Except String Unit)

theorem zip_getElem?
    {α β : Type}
    {left : List α}
    {right : List β}
    {index : Nat}
    {a : α}
    {b : β}
    (hleft : left[index]? = some a)
    (hright : right[index]? = some b) :
    (left.zip right)[index]? = some (a, b) := by
  rw [List.getElem?_zip_eq_some]
  exact ⟨hleft, hright⟩

/-- What a successful application says about every entry. -/
theorem applyCatalogTypes_sound
    {types mapped : List CatalogType}
    {declarations : List CatalogTypeConfig}
    (h : applyCatalogTypes validatePortablePattern types declarations = .ok mapped) :
    ∃ collected : Collected,
      declarations.zipIdx.foldlM
        (collectDeclaration validatePortablePattern types) ⟨[], []⟩ = .ok collected ∧
      mapped.length = types.length ∧
      ∀ (index : Nat) (known : CatalogType), types[index]? = some known →
        ∃ (depth : Nat) (capabilities : TypeCapabilities),
          (capabilityResolver types collected.mappings).Denotes depth index
            capabilities ∧
          mapped[index]? = some { known with capabilities := capabilities } := by
  unfold applyCatalogTypes at h
  obtain ⟨collected, hcollected, h⟩ := except_bind_ok h
  obtain ⟨marks, hmarks, h⟩ := except_bind_ok h
  obtain ⟨hlength, hall⟩ := Resolver.resolveAll_sound hmarks
  have hlength : marks.length = types.length := hlength
  refine ⟨collected, hcollected, ?_, ?_⟩
  · rw [mapM_ok_length _ h, List.length_zipIdx, List.length_zip, hlength, Nat.min_self]
  · intro index known hknown
    have hlt : index < types.length := (List.getElem?_eq_some_iff.mp hknown).1
    obtain ⟨depth, capabilities, hmark, hdenotes⟩ := hall index hlt
    have hentry : ((types.zip marks).zipIdx)[index]? =
        some ((known, .resolved capabilities), index) := by
      rw [List.getElem?_zipIdx, zip_getElem? hknown hmark]
      simp
    obtain ⟨result, hresult, hposition⟩ := mapM_ok_getElem? _ h hentry
    cases hresult
    exact ⟨depth, capabilities, hdenotes, hposition⟩

/-- Application succeeds when the declarations are collected and plain
recursion gives every type its capabilities. -/
theorem applyCatalogTypes_complete
    {types : List CatalogType}
    {declarations : List CatalogTypeConfig}
    {collected : Collected}
    (hcollected : declarations.zipIdx.foldlM
      (collectDeclaration validatePortablePattern types) ⟨[], []⟩ = .ok collected)
    (hvalues : ∀ index < types.length, ∃ (depth : Nat) (value : TypeCapabilities),
      (capabilityResolver types collected.mappings).Denotes depth index value) :
    ∃ mapped, applyCatalogTypes validatePortablePattern types declarations =
      .ok mapped := by
  obtain ⟨marks, hmarks⟩ :=
    @Resolver.resolveAll_complete _ _ (capabilityResolver types collected.mappings)
      hvalues
  obtain ⟨hlength, hall⟩ := Resolver.resolveAll_sound hmarks
  have hlength : marks.length = types.length := hlength
  have hset : ∀ entry ∈ (types.zip marks).zipIdx,
      ∃ result, setCapabilities entry.1 entry.2 = .ok result := by
    intro entry hentry
    have hposition := List.mem_zipIdx_iff_getElem?.mp hentry
    obtain ⟨-, hmark⟩ := List.getElem?_zip_eq_some.mp hposition
    have hlt : entry.2 < types.length :=
      hlength ▸ (List.getElem?_eq_some_iff.mp hmark).1
    obtain ⟨depth, capabilities, hresolved, -⟩ := hall entry.2 hlt
    rw [hresolved] at hmark
    have hmark : entry.1.2 = .resolved capabilities := (Option.some.inj hmark).symm
    exact ⟨{ entry.1.1 with capabilities := capabilities }, by
      unfold setCapabilities
      rw [hmark]
      rfl⟩
  obtain ⟨mapped, hmapped⟩ :=
    mapM_ok_of_forall (types.zip marks).zipIdx hset
  refine ⟨mapped, ?_⟩
  unfold applyCatalogTypes
  rw [hcollected]
  show ((capabilityResolver types collected.mappings).resolveAll >>= fun marks =>
    (types.zip marks).zipIdx.mapM
      (fun entry => setCapabilities entry.1 entry.2)) = .ok mapped
  rw [hmarks]
  exact hmapped

/-! ## Order -/

theorem find_id_eq_some
    {types : List CatalogType}
    {declarations : List CatalogTypeConfig}
    {collected : Collected}
    (hcollected : declarations.zipIdx.foldlM
      (collectDeclaration validatePortablePattern types) ⟨[], []⟩ = .ok collected)
    (index : Nat)
    (config : CatalogTypeConfig) :
    (collected.mappings.find? (fun mapping => mapping.id == index)).map
        Mapping.config = some config ↔
      config ∈ declarations ∧ targetOf types config = some index := by
  have hconfigs := collect_configs validatePortablePattern hcollected index
  have hconsistent :=
    (collect_ok_iff validatePortablePattern types declarations).mp ⟨_, hcollected⟩
  constructor
  · intro h
    obtain ⟨mapping, hfound, rfl⟩ := Option.map_eq_some_iff.mp h
    apply (hconfigs mapping.config).mp
    refine ⟨mapping, List.mem_of_find?_eq_some hfound, ?_, rfl⟩
    simpa using List.find?_some hfound
  · intro h
    obtain ⟨mapping, hmem, hid, -⟩ := (hconfigs config).mpr h
    cases hfound : collected.mappings.find? (fun mapping => mapping.id == index) with
    | none =>
        have := List.find?_eq_none.mp hfound mapping hmem
        simp [hid] at this
    | some found =>
        have hfoundId : found.id = index := by simpa using List.find?_some hfound
        have hother := (hconfigs found.config).mp
          ⟨found, List.mem_of_find?_eq_some hfound, hfoundId, rfl⟩
        -- targets are distinct, so the declaration of a type is unique
        have hsame : found.config = config :=
          List.inj_on_of_nodup_map hconsistent.targets hother.1 h.1
            (hother.2.trans h.2.symm)
        rw [Option.map_some, hsame]

theorem sameConfigs_of_perm
    {types : List CatalogType}
    {declarations shuffled : List CatalogTypeConfig}
    (hperm : declarations.Perm shuffled)
    {collected other : Collected}
    (hcollected : declarations.zipIdx.foldlM
      (collectDeclaration validatePortablePattern types) ⟨[], []⟩ = .ok collected)
    (hother : shuffled.zipIdx.foldlM
      (collectDeclaration validatePortablePattern types) ⟨[], []⟩ = .ok other) :
    SameConfigs collected.mappings other.mappings := by
  intro index
  apply Option.ext
  intro config
  have hleft := find_id_eq_some validatePortablePattern hcollected index config
  have hright := find_id_eq_some validatePortablePattern hother index config
  rw [hleft, hright, hperm.mem_iff]

theorem applyCatalogTypes_shuffled
    {types mapped : List CatalogType}
    {declarations shuffled : List CatalogTypeConfig}
    (hperm : declarations.Perm shuffled)
    (h : applyCatalogTypes validatePortablePattern types declarations = .ok mapped) :
    applyCatalogTypes validatePortablePattern types shuffled = .ok mapped := by
  obtain ⟨collected, hcollected, hlength, hall⟩ :=
    applyCatalogTypes_sound validatePortablePattern h
  have hconsistent :=
    (collect_ok_iff validatePortablePattern types declarations).mp ⟨_, hcollected⟩
  obtain ⟨other, hother⟩ :=
    (collect_ok_iff validatePortablePattern types shuffled).mpr
      (hconsistent.perm validatePortablePattern hperm)
  have hsame := sameConfigs_of_perm validatePortablePattern hperm hcollected hother
  have hvalues : ∀ index < types.length, ∃ (depth : Nat) (value : TypeCapabilities),
      (capabilityResolver types other.mappings).Denotes depth index value := by
    intro index hindex
    obtain ⟨depth, capabilities, hdenotes, -⟩ :=
      hall index types[index] (List.getElem?_eq_getElem hindex)
    exact ⟨depth, capabilities, denotes_config hsame hdenotes⟩
  obtain ⟨result, hresult⟩ :=
    applyCatalogTypes_complete validatePortablePattern hother hvalues
  obtain ⟨again, hagain, hlength', hall'⟩ :=
    applyCatalogTypes_sound validatePortablePattern hresult
  rw [hother] at hagain
  cases hagain
  have heq : result = mapped := by
    apply List.ext_getElem?
    intro index
    cases hknown : types[index]? with
    | none =>
        have hle := List.getElem?_eq_none_iff.mp hknown
        rw [List.getElem?_eq_none (by omega), List.getElem?_eq_none (by omega)]
    | some known =>
        obtain ⟨_, capabilities, hdenotes, hposition⟩ := hall index known hknown
        obtain ⟨_, capabilities', hdenotes', hposition'⟩ := hall' index known hknown
        have := ((denotes_config hsame hdenotes).unique hdenotes').2
        rw [hposition, hposition', this]
  rw [hresult, heq]

/-! ## Effects -/

/-- What a type has before its own declaration is applied: a domain takes the
mapped semantics of its base. -/
def inheritedCapabilities
    (mapped : List CatalogType)
    (known : CatalogType) : TypeCapabilities :=
  match known.shape with
  | .domain base =>
      inheritFrom known.capabilities
        ((mapped[base.index]?).map CatalogType.capabilities)
  | .scalar => known.capabilities
  | .array _ => known.capabilities
  | .enum => known.capabilities

/-- Every domain of the table has the wire encoding of its base. -/
def WireAgrees (types : List CatalogType) : Prop :=
  ∀ (index : Nat) (known : CatalogType), types[index]? = some known →
    ∀ base, known.shape = .domain base →
      ∃ baseType, types[base.index]? = some baseType ∧
        known.capabilities.wire = baseType.capabilities.wire

/-- What a mapped entry is, relative to the entry it replaces. -/
structure MappedEntry
    (types mapped : List CatalogType)
    (declarations : List CatalogTypeConfig)
    (index : Nat)
    (known result : CatalogType) : Prop where
  kept : result = { known with capabilities := result.capabilities }
  narrows : result.capabilities.Narrows known.capabilities
  wire : result.capabilities.wire = known.capabilities.wire
  base : ∀ base, known.shape = .domain base →
    ∃ baseResult, mapped[base.index]? = some baseResult ∧
      result.capabilities.Narrows baseResult.capabilities
  declared : ∀ declaration ∈ declarations,
    targetOf types declaration = some index →
      declaration.wire.accepts known.capabilities.wire = true ∧
        result.capabilities =
          declaredCapabilities (inheritedCapabilities mapped known) declaration
  undeclared : (∀ declaration ∈ declarations,
      targetOf types declaration ≠ some index) →
    result.capabilities = inheritedCapabilities mapped known

theorem inheritFrom_spec
    (capabilities : TypeCapabilities)
    (base : TypeCapabilities) :
    (inheritFrom capabilities (some base)).Narrows capabilities ∧
      (inheritFrom capabilities (some base)).Narrows base ∧
      (inheritFrom capabilities (some base)).wire = base.wire :=
  ⟨(capabilities.inheritMappedDomain_narrows base).1,
    (capabilities.inheritMappedDomain_narrows base).2, rfl⟩

/-- A built value is the inherited one with the declaration, if any,
applied. -/
theorem buildCapabilities_spec
    {types : List CatalogType}
    {mappings : List Mapping}
    {index : Nat}
    {known : CatalogType}
    (hknown : types[index]? = some known)
    {base : Option TypeCapabilities}
    {capabilities : TypeCapabilities}
    (h : buildCapabilities types mappings index base = .ok capabilities) :
    capabilities.Narrows (inheritFrom known.capabilities base) ∧
      capabilities.wire = (inheritFrom known.capabilities base).wire ∧
      (∀ mapping, mappings.find? (fun mapping => mapping.id == index) = some mapping →
        mapping.config.wire.accepts (inheritFrom known.capabilities base).wire = true ∧
          capabilities =
            declaredCapabilities (inheritFrom known.capabilities base)
              mapping.config) ∧
      (mappings.find? (fun mapping => mapping.id == index) = none →
        capabilities = inheritFrom known.capabilities base) := by
  unfold buildCapabilities at h
  rw [hknown] at h
  simp only at h
  cases hmapping : mappings.find? (fun mapping => mapping.id == index) with
  | none =>
      rw [hmapping] at h
      cases h
      refine ⟨TypeCapabilities.Narrows.refl _, rfl, ?_, fun _ => rfl⟩
      intro mapping hmapping
      cases hmapping
  | some mapping =>
      rw [hmapping] at h
      obtain ⟨hwire, hdeclared, hnarrows, hkept⟩ := applyMapping_spec h
      refine ⟨hnarrows, hkept, ?_, ?_⟩
      · intro other hother
        cases hother
        exact ⟨hwire, hdeclared⟩
      · intro hnone
        cases hnone

/-- Resolved values keep the wire encoding of their entries. -/
theorem denotes_wire
    {types : List CatalogType}
    (hwires : WireAgrees types)
    {mappings : List Mapping}
    {depth index : Nat}
    {capabilities : TypeCapabilities}
    (h : (capabilityResolver types mappings).Denotes depth index capabilities)
    {known : CatalogType}
    (hknown : types[index]? = some known) :
    capabilities.wire = known.capabilities.wire := by
  induction h generalizing known with
  | leaf hlt hplan hbuild =>
      exact (buildCapabilities_spec hknown hbuild).2.1
  | @step depth index next related value hlt hplan hrelated hbuild ih =>
      have hplan : planCapabilities types index = .ok (some next) := hplan
      unfold planCapabilities at hplan
      rw [hknown] at hplan
      simp only at hplan
      cases hshape : known.shape with
      | scalar =>
          rw [hshape] at hplan
          cases hplan
      | array element =>
          rw [hshape] at hplan
          cases hplan
      | enum =>
          rw [hshape] at hplan
          cases hplan
      | domain base =>
          rw [hshape] at hplan
          cases hplan
          obtain ⟨baseType, hbase, hwire⟩ := hwires index known hknown base hshape
          rw [(buildCapabilities_spec hknown hbuild).2.1, hwire]
          exact ih hbase

/-- What the plan of an entry says about its shape. -/
theorem planCapabilities_shape
    {types : List CatalogType}
    {index : Nat}
    {known : CatalogType}
    (hknown : types[index]? = some known)
    {planned : Option Nat}
    (hplan : planCapabilities types index = .ok planned) :
    (planned = none → ∀ base, known.shape ≠ .domain base) ∧
      ∀ next, planned = some next → known.shape = .domain ⟨next⟩ := by
  unfold planCapabilities at hplan
  rw [hknown] at hplan
  simp only at hplan
  cases hshape : known.shape with
  | domain base =>
      rw [hshape] at hplan
      cases hplan
      constructor
      · intro h
        cases h
      · intro next h
        cases h
        rfl
  | scalar =>
      rw [hshape] at hplan
      cases hplan
      exact ⟨fun _ _ => nofun, fun _ => nofun⟩
  | array element =>
      rw [hshape] at hplan
      cases hplan
      exact ⟨fun _ _ => nofun, fun _ => nofun⟩
  | enum =>
      rw [hshape] at hplan
      cases hplan
      exact ⟨fun _ _ => nofun, fun _ => nofun⟩

theorem inheritedCapabilities_of_not_domain
    {mapped : List CatalogType}
    {known : CatalogType}
    (h : ∀ base, known.shape ≠ .domain base) :
    inheritedCapabilities mapped known = known.capabilities := by
  unfold inheritedCapabilities
  cases hshape : known.shape with
  | domain base => exact absurd hshape (h base)
  | scalar => rfl
  | array element => rfl
  | enum => rfl

/-- What a value was built from: the inherited capabilities of its entry. -/
theorem denotes_inherits
    {types mapped : List CatalogType}
    {mappings : List Mapping}
    (hmapped : ∀ (index : Nat) (known : CatalogType), types[index]? = some known →
      ∃ (depth : Nat) (capabilities : TypeCapabilities),
        (capabilityResolver types mappings).Denotes depth index capabilities ∧
          mapped[index]? = some { known with capabilities := capabilities })
    {depth index : Nat}
    {capabilities : TypeCapabilities}
    (h : (capabilityResolver types mappings).Denotes depth index capabilities)
    {known : CatalogType}
    (hknown : types[index]? = some known) :
    ∃ base : Option TypeCapabilities,
      buildCapabilities types mappings index base = .ok capabilities ∧
      inheritFrom known.capabilities base = inheritedCapabilities mapped known ∧
      ∀ next, known.shape = .domain next → ∃ (baseResult : CatalogType),
        mapped[next.index]? = some baseResult ∧
          base = some baseResult.capabilities := by
  cases h with
  | leaf hlt hplan hbuild =>
      have hshape := (planCapabilities_shape hknown hplan).1 rfl
      refine ⟨none, hbuild, (inheritedCapabilities_of_not_domain hshape).symm, ?_⟩
      intro next hnext
      exact absurd hnext (hshape next)
  | @step depth _ next related _ hlt hplan hrelated hbuild =>
      have hshape := (planCapabilities_shape hknown hplan).2 next rfl
      have hnext : next < types.length := hrelated.lt_size
      obtain ⟨_, found, hfound, hposition⟩ :=
        hmapped next types[next] (List.getElem?_eq_getElem hnext)
      have hsame : found = related := (hfound.unique hrelated).2
      subst hsame
      refine ⟨some found, hbuild, ?_, ?_⟩
      · unfold inheritedCapabilities
        rw [hshape]
        simp only [hposition, Option.map_some]
      · intro base hbase
        rw [hshape] at hbase
        cases hbase
        exact ⟨_, hposition, rfl⟩

theorem applyCatalogTypes_entry
    {types mapped : List CatalogType}
    (hwires : WireAgrees types)
    {declarations : List CatalogTypeConfig}
    (h : applyCatalogTypes validatePortablePattern types declarations = .ok mapped)
    {index : Nat}
    {known : CatalogType}
    (hknown : types[index]? = some known) :
    ∃ result, mapped[index]? = some result ∧
      MappedEntry types mapped declarations index known result := by
  obtain ⟨collected, hcollected, -, hall⟩ :=
    applyCatalogTypes_sound validatePortablePattern h
  obtain ⟨depth, capabilities, hdenotes, hposition⟩ := hall index known hknown
  obtain ⟨base, hbuild, hinherited, hbase⟩ := denotes_inherits hall hdenotes hknown
  obtain ⟨hnarrows, hkept, hdeclared, hundeclared⟩ :=
    buildCapabilities_spec hknown hbuild
  have hwire := denotes_wire hwires hdenotes hknown
  have hfind := find_id_eq_some validatePortablePattern hcollected index
  refine ⟨_, hposition, rfl, ?_, hwire, ?_, ?_, ?_⟩
  · refine hnarrows.trans ?_
    cases base with
    | none => exact TypeCapabilities.Narrows.refl _
    | some base => exact (inheritFrom_spec known.capabilities base).1
  · intro next hshape
    obtain ⟨baseResult, hbaseResult, rfl⟩ := hbase next hshape
    exact ⟨baseResult, hbaseResult,
      hnarrows.trans (inheritFrom_spec known.capabilities _).2.1⟩
  · intro declaration hmem htarget
    obtain ⟨mapping, hmapping, rfl⟩ :=
      Option.map_eq_some_iff.mp ((hfind declaration).mpr ⟨hmem, htarget⟩)
    obtain ⟨haccepts, heq⟩ := hdeclared mapping hmapping
    rw [← hkept, hwire] at haccepts
    exact ⟨haccepts, by rw [← hinherited]; exact heq⟩
  · intro hnone
    rw [← hinherited]
    apply hundeclared
    cases hmapping : collected.mappings.find? (fun mapping => mapping.id == index) with
    | none => rfl
    | some mapping =>
        have hconfig := (hfind mapping.config).mp (by rw [hmapping]; rfl)
        exact absurd hconfig.2 (hnone mapping.config hconfig.1)

end Apply

/-! ## Provider tables -/

/-- A domain is built with the encoding of the base it was resolved to. -/
theorem buildType_domain_wire
    {metadata : List TypeMetadata}
    {index : Nat}
    {related built : CatalogType}
    (hbuild : buildType metadata index (some related) = .ok built)
    {base : TypeId}
    (hshape : built.shape = .domain base) :
    built.capabilities.wire = related.capabilities.wire := by
  unfold buildType at hbuild
  cases hdefinition : metadata[index]? with
  | none =>
      rw [hdefinition] at hbuild
      cases hbuild
  | some definition =>
      rw [hdefinition] at hbuild
      simp only at hbuild
      cases hkind : definition.structured.kind with
      | scalar =>
          rw [hkind] at hbuild
          rw [buildScalar_shape hbuild] at hshape
          cases hshape
      | enum =>
          rw [hkind] at hbuild
          rw [buildEnum_shape hbuild] at hshape
          cases hshape
      | domain =>
          rw [hkind] at hbuild
          obtain ⟨next, -, hbuild⟩ := except_bind_ok hbuild
          cases hbuild
          unfold domainType TypeCapabilities.domain
          cases definition.provider with
          | none => rfl
          | some facts => rfl
      | array =>
          rw [hkind] at hbuild
          obtain ⟨next, -, hbuild⟩ := except_bind_ok hbuild
          cases hbuild
          cases hshape

theorem buildCatalogTypes_wireAgrees
    {metadata : DatabaseMetadata}
    {types : List CatalogType}
    (h : buildCatalogTypes metadata = .ok types) :
    WireAgrees types := by
  intro index known hknown base hshape
  have hlt : index < types.length := (List.getElem?_eq_some_iff.mp hknown).1
  obtain hscalar | ⟨htypes, hdenotes⟩ := buildCatalogTypes_denotes h
  · rw [hscalar known (List.mem_of_getElem? hknown)] at hshape
    cases hshape
  · obtain ⟨depth, value, hvalue⟩ := hdenotes index hlt
    have hsame := htypes index depth value hvalue
    rw [hknown] at hsame
    cases hsame
    cases hvalue with
    | leaf _ hplan hbuild =>
        have hbuild : buildType metadata.types index none = .ok known := hbuild
        obtain hscalar | henum := (buildType_shape hplan hbuild).1 rfl
        · rw [hscalar] at hshape
          cases hshape
        · rw [henum] at hshape
          cases hshape
    | @step depth _ next related _ _ hplan hrelated hbuild =>
        have hbuild :
            buildType metadata.types index (some related) = .ok known := hbuild
        refine ⟨related, ?_, buildType_domain_wire hbuild hshape⟩
        obtain hdomain | harray := (buildType_shape hplan hbuild).2 next rfl
        · rw [hdomain] at hshape
          cases hshape
          exact htypes next depth related hrelated
        · rw [harray] at hshape
          cases hshape

/-- Mappings over a provider table fail in every order or give one table in
every order, and that table only narrows the provider's. -/
theorem applyCatalogTypes_narrows
    (validatePortablePattern : String → Except String Unit)
    {metadata : DatabaseMetadata}
    {types : List CatalogType}
    (hbuild : buildCatalogTypes metadata = .ok types)
    (declarations : List CatalogTypeConfig) :
    (∀ shuffled, declarations.Perm shuffled →
      (applyCatalogTypes validatePortablePattern types shuffled).toOption =
        (applyCatalogTypes validatePortablePattern types declarations).toOption) ∧
    ∀ mapped,
      applyCatalogTypes validatePortablePattern types declarations = .ok mapped →
        mapped.length = types.length ∧
          ∀ (index : Nat) (known : CatalogType), types[index]? = some known →
            ∃ result, mapped[index]? = some result ∧
              MappedEntry types mapped declarations index known result := by
  constructor
  · intro shuffled hperm
    apply Option.ext
    intro mapped
    rw [toOption_eq_some, toOption_eq_some]
    constructor
    · exact applyCatalogTypes_shuffled validatePortablePattern hperm.symm
    · exact applyCatalogTypes_shuffled validatePortablePattern hperm
  · intro mapped h
    obtain ⟨_, -, hlength, -⟩ := applyCatalogTypes_sound validatePortablePattern h
    refine ⟨hlength, ?_⟩
    intro index known hknown
    exact applyCatalogTypes_entry validatePortablePattern
      (buildCatalogTypes_wireAgrees hbuild) h hknown

/-- A mapping of the base of a domain, and one of the domain itself. -/
def tagDeclarations : List CatalogTypeConfig :=
  [⟨"public.tag", "Tag", .bigInteger, .string, none, some [.eq], none⟩,
    ⟨"pg_catalog.int8", "Serial", .bigInteger, .string, none, some [.eq, .ne],
      some false⟩]

def tagMapped : List CatalogType :=
  match applyCatalogTypes (fun _ => .ok ()) tagTypes tagDeclarations with
  | .ok types => types
  | .error _ => []

theorem applyCatalogTypes_narrows_tags :
    (applyCatalogTypes (fun _ => .ok ()) tagTypes tagDeclarations.reverse).toOption =
        some tagMapped ∧
      ∃ result, tagMapped[1]? = some result ∧
        (∃ known, tagTypes[1]? = some known ∧
          MappedEntry tagTypes tagMapped tagDeclarations 1 known result) := by
  obtain ⟨horder, hall⟩ :=
    applyCatalogTypes_narrows (fun _ => .ok ()) tagMetadata_builds tagDeclarations
  have hmapped :
      applyCatalogTypes (fun _ => .ok ()) tagTypes tagDeclarations =
        .ok tagMapped := by
    decide +kernel
  refine ⟨?_, ?_⟩
  · rw [horder _ (List.reverse_perm tagDeclarations).symm, hmapped]
    rfl
  · obtain ⟨-, hentries⟩ := hall tagMapped hmapped
    have hlength : 1 < tagTypes.length := by decide +kernel
    have hknown : tagTypes[1]? = some tagTypes[1] := List.getElem?_eq_getElem hlength
    obtain ⟨result, hresult, hentry⟩ := hentries 1 tagTypes[1] hknown
    exact ⟨result, hresult, _, hknown, hentry⟩

end Types
end Dsql
