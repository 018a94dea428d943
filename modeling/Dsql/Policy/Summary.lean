import Dsql.Policy.RowFree
import Dsql.Policy.SourceActivation
import Dsql.Results.Plans

/-!
# The static policy summary of a table

Result types rely on which fields any filter of the project may mask, and on
what the mask depends on.  The summary is read off the field rules alone; a
guard also depends on enforcement and assignments, which read no rows.
-/

namespace Dsql

open Results (PolicyFieldAccess)

/-! ## The summary -/

/-- The field rules of every filter over a table. -/
def shapeRules
    (shapePolicies : CompiledPolicyIndex)
    (table : TableId) : List CompiledPolicyFieldRule :=
  ((shapePolicies.entries.flatMap CompiledPolicyEntry.targets).filter
    (fun target => target.table == table)).flatMap
      CompiledPolicyTarget.fieldRules

def policyNullableFields
    (shapePolicies : CompiledPolicyIndex)
    (table : TableId) : List PolicyFieldTarget :=
  ((shapeRules shapePolicies table).flatMap
    CompiledPolicyFieldRule.fields).foldl
      (fun fields field =>
        if fields.contains field then fields else fields ++ [field]) []

/-- Records the class of a rule at a field, keeping the strongest. -/
def recordFieldAccess
    (access : PolicyAccess)
    (fields : List PolicyFieldAccess)
    (target : PolicyFieldTarget) : List PolicyFieldAccess :=
  match fields with
  | [] => [⟨target, access⟩]
  | field :: rest =>
      if field.target = target then
        { field with access := field.access.combine access } :: rest
      else
        field :: recordFieldAccess access rest target

def recordRuleAccess
    (fields : List PolicyFieldAccess)
    (rule : CompiledPolicyFieldRule) : List PolicyFieldAccess :=
  let access := PolicyAccess.forGuard rule.condition
  if access = .unconditional then
    fields
  else
    rule.fields.foldl (recordFieldAccess access) fields

def policyFieldAccess
    (shapePolicies : CompiledPolicyIndex)
    (table : TableId) : List PolicyFieldAccess :=
  (shapeRules shapePolicies table).foldl recordRuleAccess []

/-- The entry of a field in a summary. -/
def fieldAccess
    (fields : List PolicyFieldAccess)
    (target : PolicyFieldTarget) : Option PolicyAccess :=
  (fields.find? (fun field => field.target == target)).map
    PolicyFieldAccess.access

/-! ## Access classes -/

namespace PolicyAccess

/-- The second class depends on at least as much as the first. -/
instance : LE PolicyAccess :=
  ⟨fun left right => left.combine right = right⟩

instance (left right : PolicyAccess) : Decidable (left ≤ right) :=
  inferInstanceAs (Decidable (left.combine right = right))

theorem le_refl (access : PolicyAccess) : access ≤ access := by
  cases access <;> decide

/-- The order of accesses is transitive. -/
theorem le_trans
    {first second third : PolicyAccess}
    (hleft : first ≤ second)
    (hright : second ≤ third) :
    first ≤ third := by
  revert hleft hright
  cases first <;> cases second <;> cases third <;> decide

theorem unconditional_le (access : PolicyAccess) : unconditional ≤ access := by
  cases access <;> decide

/-- Two guards leave no more access than one. -/
theorem le_combine_left (left right : PolicyAccess) :
    left ≤ left.combine right := by
  cases left <;> cases right <;> decide

theorem le_combine_right (left right : PolicyAccess) :
    right ≤ left.combine right := by
  cases left <;> cases right <;> decide

/-- The access of a guard by what it reads. -/
theorem forGuard_eq (filter : FilterExpr) :
    forGuard filter =
      if filterBoolean filter = some true then .unconditional
      else if filterObservesRows filter then .rowDependent
      else .contextOnly := by
  by_cases htrue : filterBoolean filter = some true
  · rw [if_pos htrue, filterBoolean_eq_some htrue]
    rfl
  · rw [if_neg htrue]
    unfold forGuard
    split
    · exact absurd rfl htrue
    · rfl

/-- A guard that reads no row depends on the context alone. -/
theorem forGuard_of_rowFree
    {filter : FilterExpr}
    (h : filterObservesRows filter = false) :
    forGuard filter ≤ .contextOnly := by
  rw [forGuard_eq, h]
  split <;> decide

/-- A guard that is not simply true restricts something. -/
theorem contextOnly_le_forGuard
    {filter : FilterExpr}
    (h : filterBoolean filter ≠ some true) :
    .contextOnly ≤ forGuard filter := by
  rw [forGuard_eq, if_neg h]
  split <;> decide

end PolicyAccess

open PolicyAccess

/-- A negation reads what its operand reads. -/
theorem observes_notFilter (filter : FilterExpr) :
    filterObservesRows (notFilter filter) = filterObservesRows filter := by
  unfold notFilter
  split
  · rfl
  · rw [filterObservesRows]
  · rw [filterObservesRows]

/-- A disjunction reads no more than its sides. -/
theorem observes_orFilter
    {left right : FilterExpr}
    (hleft : filterObservesRows left = false)
    (hright : filterObservesRows right = false) :
    filterObservesRows (orFilter left right) = false := by
  unfold orFilter
  split
  · rfl
  · rfl
  · exact hright
  · exact hleft
  · rw [filterObservesRows, hleft, hright]
    rfl

/-- A conjunction depends on no more than its parts. -/
theorem forGuard_andFilter
    {left right : FilterExpr}
    {bound : PolicyAccess}
    (hleft : forGuard left ≤ bound)
    (hright : forGuard right ≤ bound) :
    forGuard (andFilter left right) ≤ bound := by
  have hfalse : ∀ filter, filterBoolean filter = some false →
      forGuard filter ≤ bound → forGuard (booleanFilter false) ≤ bound := by
    intro filter hfilter h
    rwa [filterBoolean_eq_some hfilter] at h
  unfold andFilter
  split
  · exact hfalse left ‹_› hleft
  · exact hfalse right ‹_› hright
  · exact hright
  · exact hleft
  · rename_i hnoneleft hnoneright
    rw [forGuard_eq, if_neg (by rw [hnoneleft]; nofun)] at hleft
    rw [forGuard_eq, if_neg (by rw [hnoneright]; nofun)] at hright
    have hguard : filterBoolean (.binary left .and right) ≠ some true := nofun
    rw [forGuard_eq, if_neg hguard, filterObservesRows]
    cases hl : filterObservesRows left with
    | true =>
        rw [hl] at hleft
        exact hleft
    | false =>
        rw [Bool.false_or]
        exact hright

/-- Activation that reads no rows adds nothing to what a condition depends
on. -/
theorem forGuard_activePolicyGuard
    {active condition : FilterExpr}
    (hactive : filterObservesRows active = false) :
    forGuard (activePolicyGuard active condition) ≤ forGuard condition := by
  unfold activePolicyGuard
  split
  · exact PolicyAccess.le_refl _
  · have hnot : filterObservesRows (notFilter active) = false := by
      rw [observes_notFilter, hactive]
    unfold orFilter
    split
    · exact unconditional_le _
    · exact unconditional_le _
    · exact PolicyAccess.le_refl _
    · have hfalse : filterBoolean condition = some false := by assumption
      refine PolicyAccess.le_trans (forGuard_of_rowFree hnot)
        (contextOnly_le_forGuard ?_)
      rw [hfalse]
      nofun
    · have hnone : filterBoolean condition = none := by assumption
      have hguard : filterBoolean
          (.binary (notFilter active) .or condition) ≠ some true := nofun
      have hcondition : filterBoolean condition ≠ some true := by
        rw [hnone]
        nofun
      rw [forGuard_eq, if_neg hguard, forGuard_eq, if_neg hcondition,
        filterObservesRows, hnot, Bool.false_or]
      exact PolicyAccess.le_refl _

/-! ## What the summary says of a rule -/

theorem foldl_insert_mem
    {fields known : List PolicyFieldTarget}
    {field : PolicyFieldTarget}
    (h : field ∈ known ∨ field ∈ fields) :
    field ∈ fields.foldl
      (fun fields field =>
        if fields.contains field then fields else fields ++ [field]) known := by
  induction fields generalizing known with
  | nil => exact h.resolve_right List.not_mem_nil
  | cons first rest ih =>
      rw [List.foldl_cons]
      apply ih
      rcases h with hknown | hmem
      · left
        split
        · exact hknown
        · exact List.mem_append_left _ hknown
      · rcases List.mem_cons.mp hmem with rfl | hrest
        · left
          split
          · rename_i hcontains
            exact List.contains_iff_mem.mp hcontains
          · exact List.mem_append_right _ (List.mem_singleton_self _)
        · exact .inr hrest

/-- A field that a rule masks is published as nullable. -/
theorem mem_policyNullableFields
    {shapePolicies : CompiledPolicyIndex}
    {table : TableId}
    {rule : CompiledPolicyFieldRule}
    {field : PolicyFieldTarget}
    (hrule : rule ∈ shapeRules shapePolicies table)
    (hfield : field ∈ rule.fields) :
    field ∈ policyNullableFields shapePolicies table :=
  foldl_insert_mem (.inr (List.mem_flatMap.mpr ⟨rule, hrule, hfield⟩))

/-- The summary holds of a field at least the class given. -/
def AtLeast
    (access : PolicyAccess)
    (fields : List PolicyFieldAccess)
    (target : PolicyFieldTarget) : Prop :=
  ∃ recorded, fieldAccess fields target = some recorded ∧ access ≤ recorded

theorem fieldAccess_cons
    (field : PolicyFieldAccess)
    (rest : List PolicyFieldAccess)
    (target : PolicyFieldTarget) :
    fieldAccess (field :: rest) target =
      if field.target = target then some field.access
      else fieldAccess rest target := by
  unfold fieldAccess
  by_cases h : field.target = target
  · simp [h]
  · simp [h]

/-- Recording combines the accesses of one target. -/
theorem fieldAccess_record
    (access : PolicyAccess)
    (fields : List PolicyFieldAccess)
    (target other : PolicyFieldTarget) :
    fieldAccess (recordFieldAccess access fields target) other =
      if target = other then
        some (((fieldAccess fields other).map
          (fun known => known.combine access)).getD access)
      else
        fieldAccess fields other := by
  induction fields with
  | nil => rw [recordFieldAccess, fieldAccess_cons]; rfl
  | cons field rest ih =>
      rw [recordFieldAccess]
      by_cases hfield : field.target = target
      · rw [if_pos hfield, fieldAccess_cons, fieldAccess_cons]
        dsimp only
        rw [hfield]
        by_cases h : target = other
        · rw [if_pos h, if_pos h, if_pos h]
          rfl
        · rw [if_neg h, if_neg h, if_neg h]
      · rw [if_neg hfield, fieldAccess_cons, fieldAccess_cons, ih]
        by_cases h : target = other
        · have hother : field.target ≠ other := fun hsame =>
            hfield (hsame.trans h.symm)
          rw [if_neg hother, if_neg hother]
        · rw [if_neg h, if_neg h]

/-- What is restricted stays restricted. -/
theorem AtLeast.record
    {access bound : PolicyAccess}
    {fields : List PolicyFieldAccess}
    {target other : PolicyFieldTarget}
    (h : AtLeast bound fields other) :
    AtLeast bound (recordFieldAccess access fields target) other := by
  obtain ⟨recorded, hrecorded, hle⟩ := h
  unfold AtLeast
  rw [fieldAccess_record]
  by_cases hsame : target = other
  · rw [if_pos hsame, hrecorded]
    exact ⟨_, rfl, PolicyAccess.le_trans hle (le_combine_left _ _)⟩
  · rw [if_neg hsame]
    exact ⟨recorded, hrecorded, hle⟩

/-- A recorded target is restricted. -/
theorem atLeast_record
    (access : PolicyAccess)
    (fields : List PolicyFieldAccess)
    (target : PolicyFieldTarget) :
    AtLeast access (recordFieldAccess access fields target) target := by
  unfold AtLeast
  rw [fieldAccess_record, if_pos rfl]
  cases fieldAccess fields target with
  | none => exact ⟨_, rfl, PolicyAccess.le_refl _⟩
  | some known => exact ⟨_, rfl, le_combine_right _ _⟩

theorem AtLeast.records
    {access bound : PolicyAccess}
    {fields : List PolicyFieldAccess}
    {other : PolicyFieldTarget}
    (targets : List PolicyFieldTarget)
    (h : AtLeast bound fields other) :
    AtLeast bound (targets.foldl (recordFieldAccess access) fields) other := by
  induction targets generalizing fields with
  | nil => exact h
  | cons target rest ih => exact ih h.record

theorem atLeast_records
    (access : PolicyAccess)
    (fields : List PolicyFieldAccess)
    {targets : List PolicyFieldTarget}
    {target : PolicyFieldTarget}
    (h : target ∈ targets) :
    AtLeast access (targets.foldl (recordFieldAccess access) fields)
      target := by
  induction targets generalizing fields with
  | nil => cases h
  | cons first rest ih =>
      rw [List.foldl_cons]
      rcases List.mem_cons.mp h with rfl | hrest
      · exact (atLeast_record access fields target).records rest
      · exact ih _ hrest

theorem AtLeast.rule
    {bound : PolicyAccess}
    {fields : List PolicyFieldAccess}
    {other : PolicyFieldTarget}
    (rule : CompiledPolicyFieldRule)
    (h : AtLeast bound fields other) :
    AtLeast bound (recordRuleAccess fields rule) other := by
  unfold recordRuleAccess
  dsimp only
  split
  · exact h
  · exact h.records _

/-- What is restricted stays restricted under further rules. -/
theorem AtLeast.rules
    {bound : PolicyAccess}
    {fields : List PolicyFieldAccess}
    {other : PolicyFieldTarget}
    (rules : List CompiledPolicyFieldRule)
    (h : AtLeast bound fields other) :
    AtLeast bound (rules.foldl recordRuleAccess fields) other := by
  induction rules generalizing fields with
  | nil => exact h
  | cons rule rest ih => exact ih (h.rule rule)

/-- Every rule that can mask a field is in the summary of that field. -/
theorem atLeast_rules
    {rules : List CompiledPolicyFieldRule}
    {rule : CompiledPolicyFieldRule}
    {target : PolicyFieldTarget}
    (fields : List PolicyFieldAccess)
    (hrule : rule ∈ rules)
    (htarget : target ∈ rule.fields)
    (hmasks : forGuard rule.condition ≠ .unconditional) :
    AtLeast (forGuard rule.condition) (rules.foldl recordRuleAccess fields)
      target := by
  induction rules generalizing fields with
  | nil => cases hrule
  | cons first rest ih =>
      rw [List.foldl_cons]
      rcases List.mem_cons.mp hrule with rfl | hrest
      · refine AtLeast.rules rest ?_
        unfold recordRuleAccess
        rw [if_neg hmasks]
        exact atLeast_records _ _ htarget
      · exact ih _ hrest

/-- The class of a field in a summary; a field without an entry is never
masked. -/
def summaryAccess
    (fields : List PolicyFieldAccess)
    (target : PolicyFieldTarget) : PolicyAccess :=
  (fieldAccess fields target).getD .unconditional

/-- The summary of a field covers every rule on it. -/
theorem forGuard_le_summaryAccess
    {rules : List CompiledPolicyFieldRule}
    {rule : CompiledPolicyFieldRule}
    {target : PolicyFieldTarget}
    (hrule : rule ∈ rules)
    (htarget : target ∈ rule.fields) :
    forGuard rule.condition ≤
      summaryAccess (rules.foldl recordRuleAccess []) target := by
  by_cases hmasks : forGuard rule.condition = .unconditional
  · rw [hmasks]
    exact unconditional_le _
  · obtain ⟨recorded, hrecorded, hle⟩ := atLeast_rules [] hrule htarget hmasks
    rw [summaryAccess, hrecorded]
    exact hle

/-- A masked field is in the summary. -/
theorem fieldAccess_of_masked
    {fields : List PolicyFieldAccess}
    {target : PolicyFieldTarget}
    {filter : FilterExpr}
    (hmasks : filter ≠ booleanFilter true)
    (h : forGuard filter ≤ summaryAccess fields target) :
    AtLeast (forGuard filter) fields target := by
  have hnot : filterBoolean filter ≠ some true := fun htrue =>
    hmasks (filterBoolean_eq_some htrue)
  have hleast := PolicyAccess.le_trans (contextOnly_le_forGuard hnot) h
  unfold summaryAccess at h hleast
  cases hfound : fieldAccess fields target with
  | none =>
      rw [hfound] at hleast
      cases hleast
  | some recorded =>
      rw [hfound] at h
      exact ⟨recorded, hfound, h⟩

/-! ## Guards under the summary -/

/-- Guards that rules of a list have put there, none depending on more than
the summary of those rules. -/
def Summarised
    (rules : List CompiledPolicyFieldRule)
    (guards : List (PolicyFieldFilter FilterExpr)) : Prop :=
  ∀ guard ∈ guards, (∃ rule ∈ rules, guard.target ∈ rule.fields) ∧
    forGuard guard.filter ≤
      summaryAccess (rules.foldl recordRuleAccess []) guard.target

section Summarised

variable {rules : List CompiledPolicyFieldRule}

theorem Summarised.addFieldGuard
    {guards : List (PolicyFieldFilter FilterExpr)}
    {guard : FilterExpr}
    {context : List PolicyContextRequirement}
    {target : PolicyFieldTarget}
    (hfield : ∃ rule ∈ rules, target ∈ rule.fields)
    (hguard : forGuard guard ≤
      summaryAccess (rules.foldl recordRuleAccess []) target)
    (h : Summarised rules guards) :
    Summarised rules (addFieldGuard guard context guards target) := by
  induction guards with
  | nil =>
      intro other hother
      rw [Dsql.addFieldGuard, List.mem_singleton] at hother
      subst hother
      exact ⟨hfield, hguard⟩
  | cons first rest ih =>
      have hrest : Summarised rules rest := fun other hother =>
        h other (List.mem_cons_of_mem _ hother)
      have hfirst := h first (List.mem_cons_self ..)
      intro other hother
      rw [Dsql.addFieldGuard] at hother
      split at hother
      · rename_i hsame
        rcases List.mem_cons.mp hother with rfl | hmem
        · refine ⟨hfirst.1, forGuard_andFilter hfirst.2 ?_⟩
          dsimp only
          rwa [hsame]
        · exact hrest other hmem
      · rcases List.mem_cons.mp hother with rfl | hmem
        · exact hfirst
        · exact ih hrest other hmem

/-- One field rule of a filter whose activation reads no rows. -/
theorem Summarised.applyFieldRule
    {guards : List (PolicyFieldFilter FilterExpr)}
    {target : CompiledPolicyTarget}
    {assignment : Option PlannedPolicyAssignment}
    {active : FilterExpr}
    {rule : CompiledPolicyFieldRule}
    (hactive : filterObservesRows active = false)
    (hrule : rule ∈ rules)
    (h : Summarised rules guards) :
    Summarised rules
      (applyFieldRule target assignment active guards rule) := by
  unfold Dsql.applyFieldRule
  dsimp only
  have hfold : ∀ fields ⊆ rule.fields, ∀ guards, Summarised rules guards →
      Summarised rules (fields.foldl
        (Dsql.addFieldGuard (activePolicyGuard active rule.condition)
          (collectPolicyContext target assignment
            (activePolicyGuard active rule.condition))) guards) := by
    intro fields hfields
    induction fields with
    | nil => exact fun guards hguards => hguards
    | cons field rest ih =>
        intro guards hguards
        have hmem := hfields (List.mem_cons_self ..)
        refine ih (fun other hother =>
          hfields (List.mem_cons_of_mem _ hother)) _ ?_
        refine hguards.addFieldGuard ⟨rule, hrule, hmem⟩ ?_
        exact PolicyAccess.le_trans (forGuard_activePolicyGuard hactive)
          (forGuard_le_summaryAccess hrule hmem)
  exact hfold rule.fields (List.Subset.refl _) guards h

/-- One filter: what asks for it and what forces it read no rows. -/
theorem Summarised.applyPolicy
    {assignments : List PlannedPolicyAssignment}
    {selectionPath : List String}
    {plan : SourcePolicyPlan}
    {compiled : CompiledPolicyEntry}
    {target : CompiledPolicyTarget}
    (hactive : filterObservesRows
      (activeState target (desiredState assignments compiled)) = false)
    (hrules : target.fieldRules ⊆ rules)
    (h : Summarised rules plan.fieldFilters) :
    Summarised rules
      (applyPolicy assignments selectionPath plan compiled target).fieldFilters
      := by
  unfold Dsql.applyPolicy
  dsimp only
  split
  · exact h
  · have hfold : ∀ fieldRules ⊆ rules, ∀ guards, Summarised rules guards →
        Summarised rules (fieldRules.foldl
          (Dsql.applyFieldRule target
            (assignmentFor assignments compiled.entity)
            (activeState target (desiredState assignments compiled)))
          guards) := by
      intro fieldRules hfieldRules
      induction fieldRules with
      | nil => exact fun guards hguards => hguards
      | cons rule rest ih =>
          intro guards hguards
          exact ih (fun other hother =>
              hfieldRules (List.mem_cons_of_mem _ hother)) _
            (hguards.applyFieldRule hactive
              (hfieldRules (List.mem_cons_self ..)))
    exact hfold _ hrules _ h

end Summarised

end Dsql
