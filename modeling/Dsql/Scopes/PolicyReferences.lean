import Dsql.Policy.Sources
import Dsql.Policy.Validation

/-!
# References to filters and conditions

An assignment names a filter, and a rule of a filter names a condition.  Either
resolves when its scope sees exactly one declaration of the kind and name, and
is reported otherwise.
-/

namespace Dsql

def PolicySite.renumber
    (renumber : PolicyEntity → PolicyEntity)
    (site : PolicySite) : PolicySite :=
  { site with entity := renumber site.entity }

namespace PolicyProject

/-- A declaration of a kind and name that a scope reaches through imports. -/
def Visible
    (project : PolicyProject)
    (scope : String)
    (kind : PolicyKind)
    (name : String)
    (site : PolicySite) : Prop :=
  site ∈ project.sites ∧ site.declaration.kind = kind ∧
    site.declaration.name = name ∧ project.imports.Sees scope site.scope

def Several
    (project : PolicyProject)
    (scope : String)
    (kind : PolicyKind)
    (name : String) : Prop :=
  ∃ left right, project.Visible scope kind name left ∧
    project.Visible scope kind name right ∧ left ≠ right

/-- The one declaration of a kind and name that a scope reaches. -/
def Sole
    (project : PolicyProject)
    (scope : String)
    (kind : PolicyKind)
    (name : String)
    (site : PolicySite) : Prop :=
  project.Visible scope kind name site ∧
    ∀ other, project.Visible scope kind name other → other = site

variable {project : PolicyProject}

theorem sites_nodup : project.sites.Nodup :=
  project.entities_nodup.of_map

section Listed

variable {scope name : String} {kind : PolicyKind} {listed : List PolicySite}

theorem only_eq_some_iff_sole
    (hsublist : listed.Sublist project.sites)
    (hmem : ∀ site, site ∈ listed ↔ project.Visible scope kind name site)
    (site : PolicySite) :
    Candidates.only listed = some site ↔ project.Sole scope kind name site := by
  rw [Candidates.only_eq_some_iff (hsublist.nodup sites_nodup), hmem]
  exact and_congr_right fun _ => forall_congr' fun other =>
    imp_congr_left (hmem other)

theorem one_lt_length_iff_several
    (hsublist : listed.Sublist project.sites)
    (hmem : ∀ site, site ∈ listed ↔ project.Visible scope kind name site) :
    1 < listed.length ↔ project.Several scope kind name := by
  rw [Candidates.one_lt_length_iff (hsublist.nodup sites_nodup)]
  constructor
  · rintro ⟨left, hleft, right, hright, hne⟩
    exact ⟨left, right, (hmem left).mp hleft, (hmem right).mp hright, hne⟩
  · rintro ⟨left, right, hleft, hright, hne⟩
    exact ⟨left, (hmem left).mpr hleft, right, (hmem right).mpr hright, hne⟩

theorem eq_nil_iff_none_visible
    (hmem : ∀ site, site ∈ listed ↔ project.Visible scope kind name site) :
    listed = [] ↔ ∀ site, ¬ project.Visible scope kind name site := by
  rw [List.eq_nil_iff_forall_not_mem]
  exact forall_congr' fun site => not_congr (hmem site)

end Listed

/-! ## Conflicts between declarations -/

/-- The declarations of its own kind and name that a site sees. -/
theorem mem_namesakes
    {site : PolicySite}
    (candidate : PolicySite) :
    candidate ∈ (project.visibleCandidates site).filter (fun candidate =>
        candidate.declaration.kind == site.declaration.kind &&
          candidate.declaration.name == site.declaration.name) ↔
      project.Visible site.scope site.declaration.kind site.declaration.name
        candidate := by
  simp only [visibleCandidates, Visible, List.mem_filter, Bool.and_eq_true,
    List.contains_iff_mem, beq_iff_eq, ScopeImports.mem_visibleFrom]
  constructor
  · rintro ⟨⟨hmem, -, hsees⟩, hkind, hname⟩
    exact ⟨hmem, hkind, hname, hsees⟩
  · rintro ⟨hmem, hkind, hname, hsees⟩
    refine ⟨⟨hmem, ?_, hsees⟩, hkind, hname⟩
    rw [hkind, hname]
    exact List.mem_cons_self ..

theorem nameProblems_ne_nil_iff
    {site : PolicySite} :
    project.nameProblems site ≠ [] ↔
      project.Several site.scope site.declaration.kind
        site.declaration.name := by
  have hsublist : ((project.visibleCandidates site).filter (fun candidate =>
      candidate.declaration.kind == site.declaration.kind &&
        candidate.declaration.name == site.declaration.name)).Sublist
      project.sites :=
    List.filter_sublist.trans List.filter_sublist
  rw [← one_lt_length_iff_several hsublist mem_namesakes]
  unfold nameProblems
  split
  case isTrue h => exact iff_of_true (List.cons_ne_nil _ _) h
  case isFalse h => exact iff_of_false (fun hne => hne rfl) h

/-! ## Filters -/

theorem mem_filtersNamed
    {scope name : String}
    (site : PolicySite) :
    site ∈ project.filtersNamed scope name ↔
      project.Visible scope .filter name site := by
  simp only [filtersNamed, Visible, List.mem_filter, Bool.and_eq_true,
    beq_iff_eq, List.contains_iff_mem, ScopeImports.mem_visibleFrom, and_assoc]

theorem namedFilter_eq_some_iff
    {scope name : String}
    {filter : PolicyEntity} :
    project.namedFilter scope name = some filter ↔
      ∃ site, project.Sole scope .filter name site ∧
        filter = site.entity := by
  unfold namedFilter
  rw [Option.map_eq_some_iff]
  refine exists_congr fun site => and_congr ?_ eq_comm
  exact only_eq_some_iff_sole List.filter_sublist mem_filtersNamed site

end PolicyProject

/-- Nothing is reported about which filter a name denotes. -/
def FilterResolved (diagnostics : List Diagnostic) : Prop :=
  ∀ diagnostic ∈ diagnostics, diagnostic.code ≠ .unknownFilter ∧
    diagnostic.code ≠ .ambiguousFilter

@[simp] theorem filterResolved_nil : FilterResolved [] := nofun

@[simp] theorem filterResolved_append (left right : List Diagnostic) :
    FilterResolved (left ++ right) ↔
      FilterResolved left ∧ FilterResolved right :=
  List.forall_mem_append

@[simp] theorem filterResolved_singleton (diagnostic : Diagnostic) :
    FilterResolved [diagnostic] ↔
      diagnostic.code ≠ .unknownFilter ∧ diagnostic.code ≠ .ambiguousFilter :=
  List.forall_mem_singleton

theorem FilterResolved.codes
    {diagnostics : List Diagnostic}
    (h : FilterResolved diagnostics) :
    DiagnosticCode.unknownFilter ∉ diagnostics.map Diagnostic.code ∧
      DiagnosticCode.ambiguousFilter ∉ diagnostics.map Diagnostic.code := by
  constructor
  · intro hmem
    obtain ⟨diagnostic, hdiagnostic, hcode⟩ := List.mem_map.mp hmem
    exact (h diagnostic hdiagnostic).1 hcode
  · intro hmem
    obtain ⟨diagnostic, hdiagnostic, hcode⟩ := List.mem_map.mp hmem
    exact (h diagnostic hdiagnostic).2 hcode

namespace Planner

variable (planner : Planner)

theorem filterResolved_checkContextUse
    (scope : String)
    (reference : VariableRef) :
    FilterResolved (planner.checkContextUse scope reference) := by
  unfold checkContextUse
  repeat' split
  all_goals simp [Diagnostic.error]

theorem filterResolved_checkAssignmentContexts
    (scope : String)
    (condition : Expr) :
    FilterResolved (planner.checkAssignmentContexts scope condition) := by
  induction condition with
  | variable_ reference =>
      rw [checkAssignmentContexts]
      split
      · exact planner.filterResolved_checkContextUse scope reference
      · exact filterResolved_nil
  | unary op operand ih =>
      rw [checkAssignmentContexts]
      exact ih
  | nullTest operand negated ih =>
      rw [checkAssignmentContexts]
      exact ih
  | binary op lhs rhs ihlhs ihrhs =>
      rw [checkAssignmentContexts]
      exact (filterResolved_append _ _).mpr ⟨ihlhs, ihrhs⟩
  | _ => exact filterResolved_nil

theorem filterResolved_checkAssignmentCondition
    (scope : String)
    (filter : PolicyEntry)
    (name : String)
    (condition : Option Expr) :
    FilterResolved
      (planner.checkAssignmentCondition scope filter name condition) := by
  unfold checkAssignmentCondition
  cases condition with
  | none =>
      dsimp only
      split <;> simp [Diagnostic.warning]
  | some condition =>
      have hcontexts :=
        planner.filterResolved_checkAssignmentContexts scope condition
      simp only [filterResolved_append]
      refine ⟨⟨?_, ?_⟩, hcontexts⟩
      · split <;> simp [Diagnostic.error]
      · repeat' split
        all_goals simp [Diagnostic.error, Diagnostic.warning]

/-- What an assignment is reported for counts the filters of its name. -/
theorem checkFilterAssignment_codes
    (scope : String)
    (tables : List TableId)
    (operationWide duplicate : Bool)
    (assignment : FilterAssignmentExpr Expr) :
    (DiagnosticCode.unknownFilter ∈
        (planner.checkFilterAssignmentForTables scope tables operationWide
          duplicate assignment).map Diagnostic.code ↔
      planner.policyIndex.visible scope .filter assignment.name
        planner.imports = []) ∧
    (DiagnosticCode.ambiguousFilter ∈
        (planner.checkFilterAssignmentForTables scope tables operationWide
          duplicate assignment).map Diagnostic.code ↔
      1 < (planner.policyIndex.visible scope .filter assignment.name
        planner.imports).length) := by
  unfold checkFilterAssignmentForTables
  dsimp only
  cases planner.policyIndex.visible scope .filter assignment.name
      planner.imports with
  | nil => simp [Diagnostic.error]
  | cons filter rest =>
      cases rest with
      | cons second rest => simp [Diagnostic.error]
      | nil =>
          have hresolved : FilterResolved
              ((if tables.any (fun table => filter.matchedTables.contains table)
                  then []
                  else [.error .filterTargetMismatch
                    ("filter `" ++ assignment.name ++ "` does not match " ++
                      planner.assignmentTargetText tables operationWide)]) ++
                (if duplicate then
                  [.error .duplicateFilterAssignment
                    ("duplicate assignment for filter `" ++ assignment.name ++
                      "`")]
                else
                  []) ++
                planner.checkAssignmentCondition scope filter assignment.name
                  assignment.condition) := by
            simp only [filterResolved_append]
            refine ⟨⟨?_, ?_⟩,
              planner.filterResolved_checkAssignmentCondition _ _ _ _⟩
            · split <;> simp [Diagnostic.error]
            · split <;> simp [Diagnostic.error]
          exact ⟨iff_of_false hresolved.codes.1 nofun,
            iff_of_false hresolved.codes.2 (by simp)⟩

end Planner

namespace PolicyDefinition

variable {project : PolicyProject} (definition : PolicyDefinition project)

theorem namedFilter_iff_sole
    {scope name : String}
    (hscope : scope ∈ project.imports.visibleFrom definition.scope)
    (hname : name ∈ definition.surfaceReferences)
    (filter : PolicyEntity) :
    definition.planner.namedFilter scope name = some filter ↔
      ∃ site, project.Sole scope .filter name site ∧ filter = site.entity := by
  rw [namedFilter_eq hscope hname]
  exact PolicyProject.namedFilter_eq_some_iff

theorem checkFilterAssignment_codes_iff
    {scope : String}
    (hscope : scope ∈ project.imports.visibleFrom definition.scope)
    (tables : List TableId)
    (operationWide duplicate : Bool)
    (assignment : FilterAssignmentExpr Expr)
    (hname : assignment.name ∈ definition.surfaceReferences) :
    (DiagnosticCode.unknownFilter ∈
        (definition.planner.checkFilterAssignmentForTables scope tables
          operationWide duplicate assignment).map Diagnostic.code ↔
      ∀ site, ¬ project.Visible scope .filter assignment.name site) ∧
    (DiagnosticCode.ambiguousFilter ∈
        (definition.planner.checkFilterAssignmentForTables scope tables
          operationWide duplicate assignment).map Diagnostic.code ↔
      project.Several scope .filter assignment.name) := by
  have hcodes := definition.planner.checkFilterAssignment_codes scope tables
    operationWide duplicate assignment
  rw [visible_eq hscope hname, List.map_eq_nil_iff, List.length_map] at hcodes
  refine ⟨hcodes.1.trans ?_, hcodes.2.trans ?_⟩
  · exact PolicyProject.eq_nil_iff_none_visible PolicyProject.mem_filtersNamed
  · exact PolicyProject.one_lt_length_iff_several List.filter_sublist
      PolicyProject.mem_filtersNamed

end PolicyDefinition

/-! ## Conditions -/

namespace PolicyProject

variable {project : PolicyProject}

/-- The condition that a reference in a filter compiles to. -/
def namedCondition
    (project : PolicyProject)
    (site : PolicySite)
    (name : String) : Option PolicySite :=
  Candidates.only (project.conditionsNamed site name)

theorem mem_conditionsNamed_iff
    {site : PolicySite}
    {name : String}
    (hname : (.condition, name) ∈ declarationReferences site.declaration)
    (condition : PolicySite) :
    condition ∈ project.conditionsNamed site name ↔
      project.Visible site.scope .condition name condition := by
  simp only [conditionsNamed, visibleCandidates, Visible, List.mem_filter,
    Bool.and_eq_true, List.contains_iff_mem, beq_iff_eq,
    ScopeImports.mem_visibleFrom]
  constructor
  · rintro ⟨⟨hmem, -, hsees⟩, hkind, rfl⟩
    exact ⟨hmem, hkind, rfl, hsees⟩
  · rintro ⟨hmem, hkind, rfl, hsees⟩
    refine ⟨⟨hmem, ?_, hsees⟩, hkind, rfl⟩
    rw [hkind]
    exact List.mem_cons_of_mem _ hname

theorem conditionsNamed_sublist (site : PolicySite) (name : String) :
    (project.conditionsNamed site name).Sublist project.sites :=
  List.filter_sublist.trans List.filter_sublist

/-- A reference that does not denote exactly one condition compiles to
nothing. -/
theorem compileReference_of_none
    {site : PolicySite}
    {name : String}
    (h : project.namedCondition site name = none)
    (depth : Nat)
    (row : Option PolicyRowContext) :
    project.compileReference site depth name row = PolicyCompiler.fail := by
  cases depth with
  | zero => rfl
  | succ depth =>
      unfold namedCondition Candidates.only at h
      unfold compileReference
      split
      case h_1 condition hlisted =>
        rw [hlisted] at h
        cases h
      case h_2 => rfl

/-- What a reference of a filter is reported for counts the conditions of its
name. -/
theorem validateCondition_texts
    {site : PolicySite}
    (hkind : site.declaration.kind = .filter)
    (name : String)
    (contextOnly : Bool) :
    ("condition `" ++ name ++ "` not found" ∈
        project.validateCondition site name contextOnly ↔
      project.conditionsNamed site name = []) ∧
    ("condition `" ++ name ++ "` is ambiguous" ∈
        project.validateCondition site name contextOnly ↔
      1 < (project.conditionsNamed site name).length) := by
  have hfilter : site.declaration.kind ≠ .condition := by
    rw [hkind]
    nofun
  unfold validateCondition
  rw [if_neg hfilter]
  cases project.conditionsNamed site name with
  | nil => simp [String.append_assoc]
  | cons condition rest =>
      cases rest with
      | cons second rest => simp [String.append_assoc]
      | nil =>
          have htarget : ∀ (text : String),
              "condition `" ++ name ++ text ≠
                "filter target does not satisfy condition `" ++ name ++
                  "` target" := by
            intro text h
            have hhead := congrArg (fun text => text.toList.head?) h
            simp at hhead
          dsimp only
          constructor
          · refine iff_of_false ?_ nofun
            intro h
            rcases List.mem_append.mp h with h | h
            · split at h
              · simp [String.append_assoc] at h
              · cases h
            · split at h
              · exact htarget _ (List.mem_singleton.mp h)
              · cases h
          · refine iff_of_false ?_ (by simp)
            intro h
            rcases List.mem_append.mp h with h | h
            · split at h
              · simp [String.append_assoc] at h
              · cases h
            · split at h
              · exact htarget _ (List.mem_singleton.mp h)
              · cases h

theorem namedCondition_iff_sole
    {site : PolicySite}
    {name : String}
    (hname : (.condition, name) ∈ declarationReferences site.declaration)
    (condition : PolicySite) :
    project.namedCondition site name = some condition ↔
      project.Sole site.scope .condition name condition :=
  only_eq_some_iff_sole (conditionsNamed_sublist site name)
    (mem_conditionsNamed_iff hname) condition

theorem validateCondition_texts_iff
    {site : PolicySite}
    (hkind : site.declaration.kind = .filter)
    {name : String}
    (hname : (.condition, name) ∈ declarationReferences site.declaration)
    (contextOnly : Bool) :
    ("condition `" ++ name ++ "` not found" ∈
        project.validateCondition site name contextOnly ↔
      ∀ condition, ¬ project.Visible site.scope .condition name condition) ∧
    ("condition `" ++ name ++ "` is ambiguous" ∈
        project.validateCondition site name contextOnly ↔
      project.Several site.scope .condition name) := by
  have htexts := project.validateCondition_texts hkind name contextOnly
  refine ⟨htexts.1.trans ?_, htexts.2.trans ?_⟩
  · exact eq_nil_iff_none_visible (mem_conditionsNamed_iff hname)
  · exact one_lt_length_iff_several (conditionsNamed_sublist site name)
      (mem_conditionsNamed_iff hname)

/-! ## The order of loading -/

/-- The same declarations loaded in another order. -/
structure Reloaded
    (project other : PolicyProject)
    (renumber : PolicyEntity → PolicyEntity) : Prop where
  catalog : other.catalog = project.catalog
  imports : other.imports = project.imports
  sites : other.sites.Perm (project.sites.map (PolicySite.renumber renumber))

section Reloaded

variable {other : PolicyProject} {renumber : PolicyEntity → PolicyEntity}

/-- A selection of declarations by anything but their numbers. -/
theorem Reloaded.filter_perm
    (h : Reloaded project other renumber)
    (keep : PolicySite → Bool)
    (hkeep : ∀ site, keep (site.renumber renumber) = keep site) :
    (other.sites.filter keep).Perm
      ((project.sites.filter keep).map (PolicySite.renumber renumber)) := by
  refine (h.sites.filter keep).trans (List.Perm.of_eq ?_)
  rw [List.filter_map]
  congr 1
  exact List.filter_congr fun site _ => hkeep site

theorem Reloaded.namedFilter_eq
    (h : Reloaded project other renumber)
    (scope name : String) :
    other.namedFilter scope name =
      (project.namedFilter scope name).map renumber := by
  unfold namedFilter filtersNamed
  rw [h.imports, Candidates.only_perm (h.filter_perm _ fun site => rfl),
    Candidates.only_map, Option.map_map, Option.map_map]
  rfl

theorem Reloaded.visibleCandidates_filter_perm
    (h : Reloaded project other renumber)
    (site : PolicySite)
    (keep : PolicySite → Bool)
    (hkeep : ∀ site, keep (site.renumber renumber) = keep site) :
    ((other.visibleCandidates (site.renumber renumber)).filter keep).Perm
      (((project.visibleCandidates site).filter keep).map
        (PolicySite.renumber renumber)) := by
  unfold visibleCandidates
  rw [h.imports, List.filter_filter, List.filter_filter]
  refine h.filter_perm _ fun site => ?_
  rw [hkeep]
  rfl

theorem Reloaded.namedCondition_eq
    (h : Reloaded project other renumber)
    (site : PolicySite)
    (name : String) :
    other.namedCondition (site.renumber renumber) name =
      (project.namedCondition site name).map (PolicySite.renumber renumber) := by
  unfold namedCondition conditionsNamed
  rw [Candidates.only_perm
    (h.visibleCandidates_filter_perm site _ fun site => rfl),
    Candidates.only_map]

theorem Reloaded.nameProblems_eq
    (h : Reloaded project other renumber)
    (site : PolicySite) :
    other.nameProblems (site.renumber renumber) = project.nameProblems site := by
  have hlength := (h.visibleCandidates_filter_perm site (fun candidate =>
    candidate.declaration.kind == site.declaration.kind &&
      candidate.declaration.name == site.declaration.name)
    fun site => rfl).length_eq
  rw [List.length_map] at hlength
  unfold nameProblems
  rw [show (site.renumber renumber).declaration = site.declaration from rfl,
    hlength]
  rfl

theorem Reloaded.validateCondition_eq
    (h : Reloaded project other renumber)
    (site : PolicySite)
    (name : String)
    (contextOnly : Bool) :
    other.validateCondition (site.renumber renumber) name contextOnly =
      project.validateCondition site name contextOnly := by
  have hnamed : (other.conditionsNamed (site.renumber renumber) name).Perm
      ((project.conditionsNamed site name).map (PolicySite.renumber renumber)) :=
    h.visibleCandidates_filter_perm site _ fun site => rfl
  have hentry : ∀ site, (other.entry (site.renumber renumber)).matchedTables =
      (project.entry site).matchedTables := by
    intro site
    unfold entry
    rw [h.catalog]
    rfl
  unfold validateCondition
  rw [show (site.renumber renumber).declaration = site.declaration from rfl,
    hentry]
  split
  · rfl
  generalize other.conditionsNamed (site.renumber renumber) name = others
    at hnamed ⊢
  cases hlisted : project.conditionsNamed site name with
  | nil =>
      rw [hlisted, List.map_nil, List.perm_nil] at hnamed
      rw [hnamed]
  | cons first rest =>
      rw [hlisted] at hnamed
      cases rest with
      | nil =>
          rw [List.map_singleton, List.perm_singleton] at hnamed
          rw [hnamed]
          dsimp only
          rw [hentry]
          rfl
      | cons second rest =>
          have hlength := hnamed.length_eq
          match others, hlength with
          | _ :: _ :: _, _ => rfl

end Reloaded

/-- References to filters and conditions, and conflicts between them, count
the declarations in sight, whatever the order of loading. -/
structure ReferencesExact (project : PolicyProject) : Prop where
  /-- An assignment in a definition names the one filter in sight. -/
  filters : ∀ definition : PolicyDefinition project,
    ∀ scope ∈ project.imports.visibleFrom definition.scope,
    ∀ name ∈ definition.surfaceReferences, ∀ filter,
      definition.planner.namedFilter scope name = some filter ↔
        ∃ site, project.Sole scope .filter name site ∧ filter = site.entity
  planned : ∀ definition : PolicyDefinition project,
    ∀ assignment selectionPath variableScope scope planned,
      definition.planner.planAssignment assignment selectionPath variableScope
        scope = some planned →
      definition.planner.namedFilter scope assignment.name =
        some planned.filter
  filtersReported : ∀ definition : PolicyDefinition project,
    ∀ scope ∈ project.imports.visibleFrom definition.scope,
    ∀ tables operationWide duplicate assignment,
      assignment.name ∈ definition.surfaceReferences →
      (DiagnosticCode.unknownFilter ∈
          (definition.planner.checkFilterAssignmentForTables scope tables
            operationWide duplicate assignment).map Diagnostic.code ↔
        ∀ site, ¬ project.Visible scope .filter assignment.name site) ∧
      (DiagnosticCode.ambiguousFilter ∈
          (definition.planner.checkFilterAssignmentForTables scope tables
            operationWide duplicate assignment).map Diagnostic.code ↔
        project.Several scope .filter assignment.name)
  /-- A reference in a filter names the one condition in sight, or compiles
  to nothing. -/
  conditions : ∀ site name,
    (.condition, name) ∈ declarationReferences site.declaration →
    (∀ condition, project.namedCondition site name = some condition ↔
      project.Sole site.scope .condition name condition) ∧
    (project.namedCondition site name = none → ∀ depth row,
      project.compileReference site depth name row = PolicyCompiler.fail)
  conditionsReported : ∀ site name, site.declaration.kind = .filter →
    (.condition, name) ∈ declarationReferences site.declaration →
    ∀ contextOnly,
      ("condition `" ++ name ++ "` not found" ∈
          project.validateCondition site name contextOnly ↔
        ∀ condition, ¬ project.Visible site.scope .condition name condition) ∧
      ("condition `" ++ name ++ "` is ambiguous" ∈
          project.validateCondition site name contextOnly ↔
        project.Several site.scope .condition name)
  /-- A declaration that sees another of its kind and name is reported. -/
  conflicts : ∀ site, project.nameProblems site ⊆
      project.declarationProblems site ∧
    (project.nameProblems site ≠ [] ↔
      project.Several site.scope site.declaration.kind site.declaration.name)
  reloaded : ∀ other renumber, Reloaded project other renumber →
    (∀ scope name, other.namedFilter scope name =
      (project.namedFilter scope name).map renumber) ∧
    ∀ site,
      other.nameProblems (site.renumber renumber) = project.nameProblems site ∧
      ∀ name,
        other.namedCondition (site.renumber renumber) name =
            (project.namedCondition site name).map
              (PolicySite.renumber renumber) ∧
          ∀ contextOnly,
            other.validateCondition (site.renumber renumber) name contextOnly =
              project.validateCondition site name contextOnly

theorem references_exact (project : PolicyProject) :
    project.ReferencesExact where
  filters definition _ hscope _ hname :=
    definition.namedFilter_iff_sole hscope hname
  planned definition _ _ _ _ _ hplanned :=
    definition.planner.namedFilter_of_planAssignment hplanned
  filtersReported definition _ hscope tables operationWide duplicate assignment
      hname :=
    definition.checkFilterAssignment_codes_iff hscope tables operationWide
      duplicate assignment hname
  conditions _ _ hname :=
    ⟨namedCondition_iff_sole hname, compileReference_of_none⟩
  conditionsReported _ _ hkind hname := validateCondition_texts_iff hkind hname
  conflicts _ :=
    ⟨List.subset_append_right _ _, nameProblems_ne_nil_iff⟩
  reloaded _ _ h :=
    ⟨h.namedFilter_eq, fun site => ⟨h.nameProblems_eq site, fun name =>
      ⟨h.namedCondition_eq site name, h.validateCondition_eq site name⟩⟩⟩

end PolicyProject

end Dsql
