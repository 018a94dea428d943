import Dsql.Policy.Applicability

/-!
# The activation algebra

Row visibility and field readability of every source of a definition, as
conditions on enforcement, desired state and rules; and the assignments that
decide the desired state.  The header of an operation may assign one filter
several times, and only the last of those assignments reaches a source.  A
filter reaches only the sources of a definition that selects one of its tables
or names it.
-/

namespace Dsql

open Logic

namespace Planner

variable (planner : Planner)

/-- The desired state of a filter at a source: the assignment in force, else
the declared default. -/
def desiredTruth
    (atoms : FilterExpr → Truth)
    (source : PolicySource)
    (compiled : CompiledPolicyEntry) : Truth :=
  ((planner.inForce source compiled.entity).getD
    (booleanFilter compiled.defaultActive)).truth atoms

theorem desiredAt_truth
    (atoms : FilterExpr → Truth)
    (source : PolicySource)
    (compiled : CompiledPolicyEntry) :
    (planner.desiredAt source compiled).truth atoms =
      planner.desiredTruth atoms source compiled := by
  unfold desiredAt desiredState desiredTruth inForce
  cases assignmentFor (planner.assignmentsAt source) compiled.entity <;> rfl

/-- A row passes where it passes every filter that applies. -/
theorem guardTruth_eq_tt_iff
    (atoms : FilterExpr → Truth)
    (source : PolicySource) :
    guardTruth atoms (planner.policiesAt source).rowFilter = .tt ↔
      ∀ applied ∈ planner.appliedAt source, ∀ rule ∈ applied.2.rowRule,
        Truth.activated (enforcedTruth atoms applied.2)
          (planner.desiredTruth atoms source applied.1)
          (rule.truth atoms) = .tt := by
  rw [guardTruth_policiesAt, Truth.all_eq_tt]
  simp only [List.forall_mem_map]
  apply forall₂_congr
  intro applied _
  unfold rowRuleTruth
  rw [desiredAt_truth]
  cases applied.2.rowRule with
  | none => simp
  | some rule => simp

/-- A field is shown where every filter that applies shows it. -/
theorem fieldTruth_eq_tt_iff
    (atoms : FilterExpr → Truth)
    (source : PolicySource)
    (field : PolicyFieldTarget) :
    fieldTruth atoms (planner.policiesAt source).fieldFilters field = .tt ↔
      ∀ applied ∈ planner.appliedAt source,
        ∀ rule ∈ applied.2.fieldRules, field ∈ rule.fields →
          Truth.activated (enforcedTruth atoms applied.2)
            (planner.desiredTruth atoms source applied.1)
            (rule.condition.truth atoms) = .tt := by
  rw [fieldTruth_policiesAt, Truth.all_eq_tt]
  simp only [List.forall_mem_map]
  apply forall₂_congr
  intro applied _
  unfold fieldRulesTruth
  rw [desiredAt_truth, Truth.all_eq_tt]
  simp only [List.forall_mem_map, List.mem_filter, List.contains_iff_mem,
    and_imp]

end Planner

/-- Rules see only whether their filter is active. -/
theorem activated_congr
    {enforced desired changed rule : Truth}
    (h : enforced = .tt ∨ changed = desired) :
    Truth.activated enforced changed rule =
      Truth.activated enforced desired rule := by
  rcases h with rfl | rfl
  · simp
  · rfl

/-- Row visibility, field readability and assignments of one definition. -/
structure ActivationAlgebra
    {project : PolicyProject}
    (definition : PolicyDefinition project) : Prop where
  /-- Exactly the visible filters that guard the table of a source apply. -/
  applicable : ∀ source ∈ definition.sources, ∀ applied,
    applied ∈ definition.planner.appliedAt source ↔
      project.Applies definition.scope source.table applied
  rows : ∀ source ∈ definition.sources, ∀ atoms,
    guardTruth atoms (definition.planner.policiesAt source).rowFilter = .tt ↔
      ∀ applied, project.Applies definition.scope source.table applied →
        ∀ rule ∈ applied.2.rowRule,
          Truth.activated (enforcedTruth atoms applied.2)
            (definition.planner.desiredTruth atoms source applied.1)
            (rule.truth atoms) = .tt
  fields : ∀ source ∈ definition.sources, ∀ atoms field,
    fieldTruth atoms
        (definition.planner.policiesAt source).fieldFilters field = .tt ↔
      ∀ applied, project.Applies definition.scope source.table applied →
        ∀ rule ∈ applied.2.fieldRules, field ∈ rule.fields →
          Truth.activated (enforcedTruth atoms applied.2)
            (definition.planner.desiredTruth atoms source applied.1)
            (rule.condition.truth atoms) = .tt
  /-- Assignments of an enforced filter do not change what is visible: neither
  in this definition nor between two definitions of one scope. -/
  enforced : ∀ other : PolicyDefinition project,
    other.scope = definition.scope → other.Covered →
    ∀ source ∈ definition.sources, ∀ changed ∈ other.sources,
      changed.table = source.table →
      ∀ atoms, (∀ applied,
        project.Applies definition.scope source.table applied →
          enforcedTruth atoms applied.2 = .tt ∨
            other.planner.desiredTruth atoms changed applied.1 =
              definition.planner.desiredTruth atoms source applied.1) →
      (guardTruth atoms (other.planner.policiesAt changed).rowFilter = .tt ↔
        guardTruth atoms
          (definition.planner.policiesAt source).rowFilter = .tt) ∧
      ∀ field,
        (fieldTruth atoms
            (other.planner.policiesAt changed).fieldFilters field = .tt ↔
          fieldTruth atoms
            (definition.planner.policiesAt source).fieldFilters field = .tt)
  /-- An assignment written at a source is in force there. -/
  sourceLocal : ∀ source ∈ definition.sources,
    ∀ assignment ∈ source.written,
      ∃ filter desired,
        project.namedFilter source.definitionScope assignment.name =
            some filter ∧
          definition.planner.inForce source filter = some desired ∧
          Planner.Denotes desired assignment source.selectionPath
            source.variableScope
  /-- A header assignment is in force wherever the source has none. -/
  operationWide : ∀ assignment ∈ definition.header,
    ∃ filter,
      project.namedFilter definition.scope assignment.name = some filter ∧
      ∀ source, definition.planner.AcceptsSource source →
        ¬ definition.planner.Assigns source filter →
        ∃ desired, definition.planner.inForce source filter = some desired ∧
          Planner.Denotes desired assignment [] .operation
  /-- A filter that nobody assigns keeps its default. -/
  unassigned : ∀ source filter, definition.planner.AcceptsSource source →
    ¬ definition.planner.Assigns source filter →
    (∀ assignment ∈ definition.header,
      project.namedFilter definition.scope assignment.name ≠ some filter) →
    definition.planner.inForce source filter = none

/-- Header assignments of one name ask for one state, whatever the inputs. -/
def HeaderAgrees (header : List (FilterAssignmentExpr Expr)) : Prop :=
  ∀ left ∈ header, ∀ right ∈ header, left.name = right.name →
    ∀ compare input,
      left.truth [] .operation compare input =
        right.truth [] .operation compare input

namespace PolicyDefinition

variable {project : PolicyProject} {definition : PolicyDefinition project}

/-- Names of the header mean what they mean in the project. -/
theorem namedFilter_header
    {assignment : FilterAssignmentExpr Expr}
    (h : assignment ∈ definition.header) :
    definition.planner.namedFilter definition.scope assignment.name =
      project.namedFilter definition.scope assignment.name :=
  namedFilter_eq (project.imports.mem_visibleFrom_self definition.scope)
    (header_named h)

/-- The filters that apply are those that guard the table and reach the index.
-/
theorem mem_appliedAt
    {source : PolicySource}
    (hsource : source ∈ definition.sources)
    (applied : CompiledPolicyEntry × CompiledPolicyTarget) :
    applied ∈ definition.planner.appliedAt source ↔
      ∃ site, project.GuardedBy definition.scope source.table site applied.2 ∧
        definition.Indexes site ∧ applied.1 = project.compilePolicy site := by
  rw [definition.planner.mem_appliedAt hasHeader, applies_iff]
  intro visible hvisible
  exact project.imports.visibleFrom_trans (sees_of_mem hsource) hvisible

/-- Where every filter that guards a source reaches the index, exactly those
apply. -/
theorem Covered.mem_appliedAt
    (h : definition.Covered)
    {source : PolicySource}
    (hsource : source ∈ definition.sources)
    (applied : CompiledPolicyEntry × CompiledPolicyTarget) :
    applied ∈ definition.planner.appliedAt source ↔
      project.Applies definition.scope source.table applied := by
  rw [PolicyDefinition.mem_appliedAt hsource]
  constructor
  · rintro ⟨site, hguarded, -, hcompiled⟩
    exact ⟨site, hguarded, hcompiled⟩
  · rintro ⟨site, hguarded, hcompiled⟩
    exact ⟨site, hguarded, h source hsource site applied.2 hguarded, hcompiled⟩

/-- A filter that does not reach the index applies nowhere. -/
theorem covered_of_applicable
    (h : ∀ source ∈ definition.sources, ∀ applied,
      applied ∈ definition.planner.appliedAt source ↔
        project.Applies definition.scope source.table applied) :
    definition.Covered := by
  intro source hsource site target hguarded
  have happlied := (h source hsource (project.compilePolicy site, target)).mpr
    ⟨site, hguarded, rfl⟩
  obtain ⟨other, hother, hindexes, hcompiled⟩ :=
    (PolicyDefinition.mem_appliedAt hsource _).mp happlied
  have hsame : site = other :=
    List.inj_on_of_nodup_map project.entities_nodup hguarded.declared
      hother.declared (congrArg CompiledPolicyEntry.entity hcompiled)
  rw [hsame]
  exact hindexes

theorem Covered.guardTruth_eq_tt_iff
    (h : definition.Covered)
    {source : PolicySource}
    (hsource : source ∈ definition.sources)
    (atoms : FilterExpr → Truth) :
    guardTruth atoms (definition.planner.policiesAt source).rowFilter = .tt ↔
      ∀ applied, project.Applies definition.scope source.table applied →
        ∀ rule ∈ applied.2.rowRule,
          Truth.activated (enforcedTruth atoms applied.2)
            (definition.planner.desiredTruth atoms source applied.1)
            (rule.truth atoms) = .tt := by
  rw [Planner.guardTruth_eq_tt_iff]
  exact forall_congr' fun applied =>
    imp_congr_left (h.mem_appliedAt hsource applied)

theorem Covered.fieldTruth_eq_tt_iff
    (h : definition.Covered)
    {source : PolicySource}
    (hsource : source ∈ definition.sources)
    (atoms : FilterExpr → Truth)
    (field : PolicyFieldTarget) :
    fieldTruth atoms
        (definition.planner.policiesAt source).fieldFilters field = .tt ↔
      ∀ applied, project.Applies definition.scope source.table applied →
        ∀ rule ∈ applied.2.fieldRules, field ∈ rule.fields →
          Truth.activated (enforcedTruth atoms applied.2)
            (definition.planner.desiredTruth atoms source applied.1)
            (rule.condition.truth atoms) = .tt := by
  rw [Planner.fieldTruth_eq_tt_iff]
  exact forall_congr' fun applied =>
    imp_congr_left (h.mem_appliedAt hsource applied)

/-- Enforcement decides alone: where it holds, the outcome at two sources of
one table is the same under every set of assignments. -/
theorem Covered.enforced_outcome
    {other : PolicyDefinition project}
    (h : definition.Covered)
    (hother : other.Covered)
    (hscope : other.scope = definition.scope)
    {source changed : PolicySource}
    (hsource : source ∈ definition.sources)
    (hchanged : changed ∈ other.sources)
    (htable : changed.table = source.table)
    {atoms : FilterExpr → Truth}
    (hagree : ∀ applied,
      project.Applies definition.scope source.table applied →
        enforcedTruth atoms applied.2 = .tt ∨
          other.planner.desiredTruth atoms changed applied.1 =
            definition.planner.desiredTruth atoms source applied.1) :
    (guardTruth atoms (other.planner.policiesAt changed).rowFilter = .tt ↔
      guardTruth atoms
        (definition.planner.policiesAt source).rowFilter = .tt) ∧
    ∀ field,
      (fieldTruth atoms
          (other.planner.policiesAt changed).fieldFilters field = .tt ↔
        fieldTruth atoms
          (definition.planner.policiesAt source).fieldFilters field =
            .tt) := by
  have hsame : ∀ applied,
      project.Applies definition.scope source.table applied → ∀ rule,
      Truth.activated (enforcedTruth atoms applied.2)
          (other.planner.desiredTruth atoms changed applied.1) rule =
        Truth.activated (enforcedTruth atoms applied.2)
          (definition.planner.desiredTruth atoms source applied.1) rule :=
    fun applied happlies rule => activated_congr (hagree applied happlies)
  refine ⟨?_, fun field => ?_⟩
  · rw [hother.guardTruth_eq_tt_iff hchanged, h.guardTruth_eq_tt_iff hsource,
      hscope, htable]
    refine forall₂_congr fun applied happlies => forall₂_congr fun rule _ => ?_
    rw [hsame applied happlies]
  · rw [hother.fieldTruth_eq_tt_iff hchanged, h.fieldTruth_eq_tt_iff hsource,
      hscope, htable]
    refine forall₂_congr fun applied happlies => forall₂_congr fun rule _ => ?_
    rw [hsame applied happlies]

end PolicyDefinition

/-! ## When no accepted assignment is lost -/

/-- A source of an operation that writes no assignment. -/
def plainSource (scope : String) : PolicySource :=
  { table := ⟨0⟩, explicit := false, written := [], selectionPath := []
    variableScope := .operation, definitionScope := scope }

/-- The algebra needs a header without contradictions. -/
theorem headerAgrees_of_algebra
    {project : PolicyProject}
    {definition : PolicyDefinition project}
    (h : ActivationAlgebra definition) :
    HeaderAgrees definition.header := by
  intro left hleft right hright hname compare input
  obtain ⟨filter, hnamed, hleft⟩ := h.operationWide left hleft
  obtain ⟨other, hother, hright⟩ := h.operationWide right hright
  rw [← hname, hnamed] at hother
  obtain rfl := Option.some.inj hother
  have haccepts : definition.planner.AcceptsSource
      (plainSource definition.scope) := by
    simp [Planner.AcceptsSource, plainSource, Planner.checkSourceAssignments,
      Planner.checkSourceAssignmentsFrom]
  have hunassigned :
      ¬ definition.planner.Assigns (plainSource definition.scope) filter := by
    rintro ⟨assignment, hmem, -⟩
    cases hmem
  obtain ⟨desired, hforce, hdenotes⟩ := hleft _ haccepts hunassigned
  obtain ⟨again, hagain, hdenotes'⟩ := hright _ haccepts hunassigned
  rw [hforce] at hagain
  obtain rfl := Option.some.inj hagain
  rw [← hdenotes compare input, hdenotes' compare input]

def commentCatalog : Catalog :=
  { defaultSchema := "public"
    tables :=
      [{ id := ⟨0⟩, schema := "public", name := "posts", visible := true
         columns := [], primaryKey := [], uniqueConstraints := []
         indexes := [], relations := [] },
       { id := ⟨1⟩, schema := "public", name := "comments", visible := true
         columns := [], primaryKey := [], uniqueConstraints := []
         indexes := [], relations := [] }]
    types := []
    columns := []
    relations := [] }

/-- `filter Hidden on comments: apply where $:visitor, where false`. -/
def hiddenComments : PolicySite :=
  { entity := ⟨0⟩
    scope := "app"
    embedded := false
    declaration :=
      { kind := .filter
        name := "Hidden"
        target := some (.concrete ⟨none, "comments"⟩)
        apply := some ⟨some (trusted "visitor")⟩
        applyCount := 1
        rowRules := [.literal (.bool false)]
        fieldRules := [] } }

def commentProject : PolicyProject :=
  { catalog := commentCatalog
    imports := ⟨[]⟩
    contexts := [⟨"visitor", "app", some booleanContext⟩]
    sites := [hiddenComments]
    entities_nodup := List.nodup_singleton _ }

/-- `posts(where exists comments)`. -/
def discussedPosts : SelectionPlace :=
  { root := ⟨0⟩
    table := ⟨0⟩
    clauses := [.where_ (.exists (.table ⟨none, "comments"⟩) [] none)]
    selectionPath := ["posts"]
    variableScope := .operation
    definitionScope := "app" }

/-- A query that selects discussed posts and whatever else is listed. -/
def discussion
    (header : List (FilterAssignmentExpr Expr))
    (selections : List SelectionTarget) : PolicyDefinition commentProject :=
  { scope := "app"
    isFragment := false
    root := ⟨none, .table ⟨0⟩ :: selections, discussedPosts.clauses⟩
    bodies := []
    header := header
    bindings := []
    contexts := fun _ _ => .unknown
    places := [discussedPosts]
    places_selected := by
      intro place hplace
      obtain rfl := List.mem_singleton.mp hplace
      exact ⟨_, List.mem_cons_self .., ⟨_, List.mem_cons_self .., rfl⟩,
        List.Subset.refl _⟩
    places_visible := by
      intro place hplace
      obtain rfl := List.mem_singleton.mp hplace
      exact commentProject.imports.mem_visibleFrom_self "app"
    fragment_header := by
      intro h
      cases h }

/-- `query (filter Hidden  filter Hidden when false)`. -/
def repeatedHeader : List (FilterAssignmentExpr Expr) :=
  [⟨"Hidden", none⟩, ⟨"Hidden", some (.literal (.bool false))⟩]

theorem discussion_accepts_sources
    (header : List (FilterAssignmentExpr Expr))
    (selections : List SelectionTarget) :
    ∀ source ∈ (discussion header selections).sources,
      (discussion header selections).planner.AcceptsSource source := by
  intro source hsource
  obtain ⟨place, hplace, hmem⟩ := List.mem_flatMap.mp hsource
  obtain rfl := List.mem_singleton.mp hplace
  have hwritten : (discussedPosts.sources commentCatalog).all
      (fun source => source.written.isEmpty) = true := by
    decide +kernel
  have hempty := List.isEmpty_iff.mp (List.all_eq_true.mp hwritten source hmem)
  simp [Planner.AcceptsSource, Planner.checkSourceAssignments, hempty,
    Planner.checkSourceAssignmentsFrom]

/-- The test for comments is a source that the filter guards. -/
theorem hiddenComments_guards :
    ∃ source ∈ discussedPosts.sources commentCatalog, ∃ target,
      commentProject.GuardedBy "app" source.table hiddenComments target := by
  have hany : (discussedPosts.sources commentCatalog).any (fun source =>
      source.table == ⟨1⟩) = true := by
    decide +kernel
  obtain ⟨source, hsource, htable⟩ := List.any_eq_true.mp hany
  have htarget : ((commentProject.compilePolicy hiddenComments).targets.find?
      (fun target => target.table == ⟨1⟩)).isSome = true := by
    decide +kernel
  obtain ⟨target, htarget⟩ := Option.isSome_iff_exists.mp htarget
  rw [← eq_of_beq htable] at htarget
  refine ⟨source, hsource, target, List.mem_cons_self .., rfl,
    commentProject.imports.mem_visibleFrom_self "app", ?_, htarget⟩
  rw [eq_of_beq htable]
  decide +kernel

end Dsql
