import Dsql.Types.Mappings
import Mathlib.Tactic

/-!
# What the declarations collect

The collection of declarations succeeds when every declaration is admissible
on its own and no two share a name or a target, so it does not depend on the
order of the declarations.
-/

namespace Dsql
namespace Types

section Collecting

variable (validatePortablePattern : String → Except String Unit)

/-- The provider type that a declaration maps, without its error texts. -/
def targetOf (types : List CatalogType) (declaration : CatalogTypeConfig) :
    Option Nat :=
  ((parseProviderKey declaration.pg).bind (typeByKey types)).filter (fun id =>
    !isArrayShape types id && (resolvedEnum types id).isNone)

/-- A declaration that is well formed by itself. -/
structure Admissible
    (types : List CatalogType)
    (declaration : CatalogTypeConfig)
    (id : Nat) : Prop where
  name : startsUpper declaration.name = true ∧
    collidesWithBuiltin declaration.name = false
  pattern : ∀ pattern, declaration.pattern = some pattern →
    validatePortablePattern pattern = .ok ()
  target : targetOf types declaration = some id

theorem validateName_eq_ok
    (declaration : CatalogTypeConfig)
    (index : Nat) :
    validateName declaration index = .ok () ↔
      startsUpper declaration.name = true ∧
        collidesWithBuiltin declaration.name = false := by
  unfold validateName mappingError
  cases startsUpper declaration.name with
  | false => simp
  | true =>
      cases collidesWithBuiltin declaration.name with
      | false => simp
      | true => simp

theorem validatePattern_eq_ok
    (declaration : CatalogTypeConfig)
    (index : Nat) :
    validatePattern validatePortablePattern declaration index = .ok () ↔
      ∀ pattern, declaration.pattern = some pattern →
        validatePortablePattern pattern = .ok () := by
  unfold validatePattern mappingError
  cases declaration.pattern with
  | none => simp
  | some pattern =>
      cases hpattern : validatePortablePattern pattern with
      | error message => simp [hpattern]
      | ok _ => simp [hpattern]

theorem resolveTarget_eq_ok
    (types : List CatalogType)
    (declaration : CatalogTypeConfig)
    (index id : Nat) :
    resolveTarget types declaration index = .ok id ↔
      targetOf types declaration = some id := by
  unfold resolveTarget targetOf mappingError
  cases parseProviderKey declaration.pg with
  | none => simp
  | some key =>
      cases htype : typeByKey types key with
      | none => simp [htype]
      | some found =>
          simp only [htype, Option.bind_some, Option.filter_some]
          cases harray : isArrayShape types found with
          | true => simp
          | false =>
              cases henum : resolvedEnum types found with
              | none => simp
              | some enum => simp

theorem claimName_eq_ok
    {collected next : Collected}
    {name : String}
    {index : Nat} :
    claimName collected name index = .ok next ↔
      name ∉ collected.names.map Prod.fst ∧
        next = { collected with names := (name, index) :: collected.names } := by
  unfold claimName mappingError
  cases hfound : collected.names.find? (fun known => known.1 == name) with
  | some known =>
      have hname : known.1 = name := by simpa using List.find?_some hfound
      have hmem : name ∈ collected.names.map Prod.fst := by
        rw [← hname]
        exact List.mem_map_of_mem (List.mem_of_find?_eq_some hfound)
      simp [hmem]
  | none =>
      have hfresh : name ∉ collected.names.map Prod.fst := by
        intro hmem
        obtain ⟨known, hknown, hname⟩ := List.mem_map.mp hmem
        have := List.find?_eq_none.mp hfound known hknown
        simp [hname] at this
      simp [hfresh, eq_comm]

theorem claimTarget_eq_ok
    {collected next : Collected}
    {id index : Nat}
    {declaration : CatalogTypeConfig} :
    claimTarget collected id index declaration = .ok next ↔
      id ∉ collected.mappings.map Mapping.id ∧
        next =
          { collected with
            mappings := ⟨id, index, declaration⟩ :: collected.mappings } := by
  unfold claimTarget mappingError
  cases hfound : collected.mappings.find? (fun known => known.id == id) with
  | some known =>
      have hid : known.id = id := by simpa using List.find?_some hfound
      have hmem : id ∈ collected.mappings.map Mapping.id := by
        rw [← hid]
        exact List.mem_map_of_mem (List.mem_of_find?_eq_some hfound)
      simp [hmem]
  | none =>
      have hfresh : id ∉ collected.mappings.map Mapping.id := by
        intro hmem
        obtain ⟨known, hknown, hid⟩ := List.mem_map.mp hmem
        have := List.find?_eq_none.mp hfound known hknown
        simp [hid] at this
      simp [hfresh, eq_comm]

/-- One declaration is taken when it is admissible and claims a fresh name and
a fresh target. -/
theorem collectDeclaration_eq_ok
    {types : List CatalogType}
    {collected next : Collected}
    {entry : CatalogTypeConfig × Nat} :
    collectDeclaration validatePortablePattern types collected entry = .ok next ↔
      ∃ id, Admissible validatePortablePattern types entry.1 id ∧
        entry.1.name ∉ collected.names.map Prod.fst ∧
        id ∉ collected.mappings.map Mapping.id ∧
        next =
          ⟨(entry.1.name, entry.2) :: collected.names,
            ⟨id, entry.2, entry.1⟩ :: collected.mappings⟩ := by
  unfold collectDeclaration
  constructor
  · intro h
    obtain ⟨_, hname, h⟩ := except_bind_ok h
    obtain ⟨_, hpattern, h⟩ := except_bind_ok h
    obtain ⟨named, hnamed, h⟩ := except_bind_ok h
    obtain ⟨id, htarget, h⟩ := except_bind_ok h
    obtain ⟨hfreshName, rfl⟩ := claimName_eq_ok.mp hnamed
    obtain ⟨hfreshTarget, rfl⟩ := claimTarget_eq_ok.mp h
    refine ⟨id, ⟨?_, ?_, ?_⟩, hfreshName, hfreshTarget, rfl⟩
    · exact (validateName_eq_ok _ _).mp hname
    · exact (validatePattern_eq_ok _ _ _).mp hpattern
    · exact (resolveTarget_eq_ok _ _ _ _).mp htarget
  · rintro ⟨id, ⟨hname, hpattern, htarget⟩, hfreshName, hfreshTarget, rfl⟩
    rw [(validateName_eq_ok entry.1 entry.2).mpr hname,
      (validatePattern_eq_ok validatePortablePattern entry.1 entry.2).mpr hpattern]
    have hnamed := (@claimName_eq_ok collected _ entry.1.name entry.2).mpr
      ⟨hfreshName, rfl⟩
    have hresolved := (resolveTarget_eq_ok types entry.1 entry.2 id).mpr htarget
    show (claimName collected entry.1.name entry.2 >>= fun collected =>
      resolveTarget types entry.1 entry.2 >>= fun id =>
        claimTarget collected id entry.2 entry.1) = _
    rw [hnamed]
    show (resolveTarget types entry.1 entry.2 >>= fun id =>
      claimTarget _ id entry.2 entry.1) = _
    rw [hresolved]
    exact claimTarget_eq_ok.mpr ⟨hfreshTarget, rfl⟩

/-- Admissible declarations with pairwise different names and targets. -/
structure Consistent
    (types : List CatalogType)
    (declarations : List CatalogTypeConfig) : Prop where
  admissible : ∀ declaration ∈ declarations,
    ∃ id, Admissible validatePortablePattern types declaration id
  names : (declarations.map CatalogTypeConfig.name).Nodup
  targets : (declarations.map (targetOf types)).Nodup

theorem Consistent.perm
    {types : List CatalogType}
    {declarations shuffled : List CatalogTypeConfig}
    (h : Consistent validatePortablePattern types declarations)
    (hperm : declarations.Perm shuffled) :
    Consistent validatePortablePattern types shuffled where
  admissible declaration hmem := h.admissible declaration (hperm.mem_iff.mpr hmem)
  names := (hperm.map _).nodup_iff.mp h.names
  targets := (hperm.map _).nodup_iff.mp h.targets

/-- The declarations taken so far do not meet the ones to come. -/
structure Apart
    (types : List CatalogType)
    (collected : Collected)
    (entries : List (CatalogTypeConfig × Nat)) : Prop where
  names : ∀ entry ∈ entries, entry.1.name ∉ collected.names.map Prod.fst
  targets : ∀ entry ∈ entries, ∀ id, targetOf types entry.1 = some id →
    id ∉ collected.mappings.map Mapping.id

/-- What a successful collection says and holds. -/
theorem collect_sound
    {types : List CatalogType}
    (entries : List (CatalogTypeConfig × Nat))
    {collected final : Collected}
    (hrun : entries.foldlM
      (collectDeclaration validatePortablePattern types) collected = .ok final) :
    Consistent validatePortablePattern types (entries.map Prod.fst) ∧
      Apart types collected entries ∧
      ∀ mapping : Mapping, mapping ∈ final.mappings ↔
        mapping ∈ collected.mappings ∨
          ∃ entry ∈ entries, targetOf types entry.1 = some mapping.id ∧
            mapping.index = entry.2 ∧ mapping.config = entry.1 := by
  induction entries generalizing collected with
  | nil =>
      cases hrun
      refine ⟨⟨?_, List.nodup_nil, List.nodup_nil⟩, ⟨?_, ?_⟩, ?_⟩
      · intro declaration hmem
        cases hmem
      · intro entry hmem
        cases hmem
      · intro entry hmem
        cases hmem
      · intro mapping
        simp
  | cons entry rest ih =>
      rw [List.foldlM_cons] at hrun
      obtain ⟨next, hstep, hrest⟩ := except_bind_ok hrun
      obtain ⟨id, hadmissible, hname, hid, rfl⟩ :=
        (collectDeclaration_eq_ok validatePortablePattern).mp hstep
      obtain ⟨hconsistent, hapart, hmappings⟩ := ih hrest
      refine ⟨⟨?_, ?_, ?_⟩, ⟨?_, ?_⟩, ?_⟩
      · intro declaration hmem
        obtain rfl | hmem := List.mem_cons.mp hmem
        · exact ⟨id, hadmissible⟩
        · exact hconsistent.admissible declaration hmem
      · rw [List.map_cons, List.map_cons, List.nodup_cons]
        refine ⟨?_, hconsistent.names⟩
        intro hmem
        rw [List.map_map] at hmem
        obtain ⟨other, hother, hsame⟩ := List.mem_map.mp hmem
        apply hapart.names other hother
        rw [List.map_cons]
        exact hsame ▸ List.mem_cons_self
      · rw [List.map_cons, List.map_cons, List.nodup_cons]
        refine ⟨?_, hconsistent.targets⟩
        intro hmem
        rw [List.map_map] at hmem
        obtain ⟨other, hother, hsame⟩ := List.mem_map.mp hmem
        have hother' : targetOf types other.1 = some id :=
          hsame.trans hadmissible.target
        apply hapart.targets other hother id hother'
        exact List.mem_cons_self
      · intro other hmem
        obtain rfl | hmem := List.mem_cons.mp hmem
        · exact hname
        · intro hother
          exact hapart.names other hmem (List.mem_cons_of_mem _ hother)
      · intro other hmem target htarget
        obtain rfl | hmem := List.mem_cons.mp hmem
        · rw [hadmissible.target] at htarget
          cases htarget
          exact hid
        · intro hother
          exact hapart.targets other hmem target htarget (List.mem_cons_of_mem _ hother)
      · intro mapping
        rw [hmappings]
        constructor
        · rintro (hmem | ⟨other, hother, hmapping⟩)
          · obtain rfl | hmem := List.mem_cons.mp hmem
            · exact .inr ⟨entry, List.mem_cons_self, hadmissible.target, rfl, rfl⟩
            · exact .inl hmem
          · exact .inr ⟨other, List.mem_cons_of_mem _ hother, hmapping⟩
        · rintro (hmem | ⟨other, hother, htarget, hindex, hconfig⟩)
          · exact .inl (List.mem_cons_of_mem _ hmem)
          · obtain rfl | hother := List.mem_cons.mp hother
            · rw [hadmissible.target] at htarget
              cases mapping
              cases htarget
              cases hindex
              cases hconfig
              exact .inl List.mem_cons_self
            · exact .inr ⟨other, hother, htarget, hindex, hconfig⟩

theorem collect_complete
    {types : List CatalogType}
    (entries : List (CatalogTypeConfig × Nat))
    {collected : Collected}
    (hconsistent : Consistent validatePortablePattern types (entries.map Prod.fst))
    (hapart : Apart types collected entries) :
    ∃ final, entries.foldlM
      (collectDeclaration validatePortablePattern types) collected = .ok final := by
  induction entries generalizing collected with
  | nil => exact ⟨collected, rfl⟩
  | cons entry rest ih =>
      obtain ⟨id, hadmissible⟩ :=
        hconsistent.admissible entry.1 List.mem_cons_self
      have hname := hapart.names entry List.mem_cons_self
      have hid := hapart.targets entry List.mem_cons_self id hadmissible.target
      have hstep :=
        (@collectDeclaration_eq_ok validatePortablePattern types collected _
          entry).mpr ⟨id, hadmissible, hname, hid, rfl⟩
      have hnames := hconsistent.names
      have htargets := hconsistent.targets
      rw [List.map_cons, List.map_cons, List.nodup_cons] at hnames htargets
      have hrest : Consistent validatePortablePattern types (rest.map Prod.fst) :=
        ⟨fun declaration hmem =>
          hconsistent.admissible declaration (List.mem_cons_of_mem _ hmem),
          hnames.2, htargets.2⟩
      obtain ⟨final, hfinal⟩ := @ih
        ⟨(entry.1.name, entry.2) :: collected.names,
          ⟨id, entry.2, entry.1⟩ :: collected.mappings⟩ hrest ⟨by
            intro other hother hmem
            obtain hsame | hmem := List.mem_cons.mp hmem
            · apply hnames.1
              rw [List.map_map]
              exact List.mem_map.mpr ⟨other, hother, hsame⟩
            · exact hapart.names other (List.mem_cons_of_mem _ hother) hmem, by
            intro other hother target htarget hmem
            obtain hsame | hmem := List.mem_cons.mp hmem
            · apply htargets.1
              rw [List.map_map]
              refine List.mem_map.mpr ⟨other, hother, ?_⟩
              exact (htarget.trans (congrArg some hsame)).trans
                hadmissible.target.symm
            · exact hapart.targets other (List.mem_cons_of_mem _ hother) target
                htarget hmem⟩
      exact ⟨final, by rw [List.foldlM_cons, hstep]; exact hfinal⟩

theorem zipIdx_fst
    {α : Type}
    (items : List α) :
    items.zipIdx.map Prod.fst = items :=
  List.zipIdx_map_fst 0 items

/-- The collection succeeds exactly on consistent declarations. -/
theorem collect_ok_iff
    (types : List CatalogType)
    (declarations : List CatalogTypeConfig) :
    (∃ final, declarations.zipIdx.foldlM
        (collectDeclaration validatePortablePattern types) ⟨[], []⟩ = .ok final) ↔
      Consistent validatePortablePattern types declarations := by
  constructor
  · rintro ⟨final, hfinal⟩
    have h := (collect_sound validatePortablePattern _ hfinal).1
    rwa [zipIdx_fst] at h
  · intro h
    apply collect_complete
    · rwa [zipIdx_fst]
    · constructor
      · intro _ _ hmem
        cases hmem
      · intro _ _ _ _ hmem
        cases hmem

/-- The configurations of the collected mappings are the declarations. -/
theorem collect_configs
    {types : List CatalogType}
    {declarations : List CatalogTypeConfig}
    {final : Collected}
    (hfinal : declarations.zipIdx.foldlM
      (collectDeclaration validatePortablePattern types) ⟨[], []⟩ = .ok final)
    (id : Nat)
    (config : CatalogTypeConfig) :
    (∃ mapping ∈ final.mappings, mapping.id = id ∧ mapping.config = config) ↔
      config ∈ declarations ∧ targetOf types config = some id := by
  have hmappings := (collect_sound validatePortablePattern _ hfinal).2.2
  constructor
  · rintro ⟨mapping, hmem, rfl, rfl⟩
    obtain hmem | ⟨entry, hentry, htarget, -, hconfig⟩ := (hmappings mapping).mp hmem
    · cases hmem
    · rw [hconfig]
      refine ⟨?_, htarget⟩
      rw [← zipIdx_fst declarations]
      exact List.mem_map_of_mem hentry
  · rintro ⟨hmem, htarget⟩
    rw [← zipIdx_fst declarations] at hmem
    obtain ⟨entry, hentry, rfl⟩ := List.mem_map.mp hmem
    exact ⟨⟨id, entry.2, entry.1⟩,
      (hmappings _).mpr (.inr ⟨entry, hentry, htarget, rfl, rfl⟩), rfl, rfl⟩

end Collecting

end Types
end Dsql
