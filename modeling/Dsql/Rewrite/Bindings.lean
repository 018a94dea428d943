import Dsql.Rewrite.Callsites
import Mathlib.Tactic

/-!
# Local bindings

Names are given in the order of the expressions and never change afterwards.
No name occurs in the code, and two names are equal only for one export of one
module.
-/

namespace Dsql
namespace Rewrite

/-! ## Keys -/

theorem isIdentifier_hash
    {text : List Char}
    (h : isIdentifier text = true) :
    '#' ∉ text := by
  cases text with
  | nil => exact List.not_mem_nil
  | cons c text =>
      obtain ⟨hstart, hrest⟩ := Bool.and_eq_true_iff.mp h
      intro hmem
      rcases List.mem_cons.mp hmem with rfl | hmem
      · exact absurd hstart (by decide)
      · exact absurd (List.all_eq_true.mp hrest '#' hmem) (by decide)

/-- An identifier holds no `#`, so a key has only one reading. -/
theorem moduleKey_injective
    {first second : DsqlRenderModule}
    (h : moduleKey first = moduleKey second) :
    first.modulePath = second.modulePath ∧ first.exportName = second.exportName := by
  have hfirst := isIdentifier_hash first.identifier
  have hsecond := isIdentifier_hash second.identifier
  rcases List.append_eq_append_iff.mp h with ⟨middle, hpath, hexport⟩ | ⟨middle, hpath, hexport⟩
  · cases middle with
    | nil =>
        rw [List.append_nil] at hpath
        exact ⟨hpath.symm, (List.cons.inj hexport).2⟩
    | cons c middle =>
        rw [(List.cons.inj hexport).2] at hfirst
        exact absurd (List.mem_append_right _ List.mem_cons_self) hfirst
  · cases middle with
    | nil =>
        rw [List.append_nil] at hpath
        exact ⟨hpath, (List.cons.inj hexport).2.symm⟩
    | cons c middle =>
        rw [(List.cons.inj hexport).2] at hsecond
        exact absurd (List.mem_append_right _ List.mem_cons_self) hsecond

/-! ## Names given so far -/

section Names

variable {code : List Char}
variable {names : LocalNames}

/-- What holds of the names at every point of the collection. -/
structure NamesFree (code : List Char) (names : LocalNames) : Prop where
  absent : ∀ entry ∈ names, includes code entry.2 = false
  written : ∀ entry ∈ names, entry.2 ≠ []
  distinct : (names.map Prod.snd).Nodup

theorem LocalNames.mem_of_get?
    {key name : List Char}
    (h : names.get? key = some name) :
    (key, name) ∈ names := by
  obtain ⟨entry, hentry, rfl⟩ := Option.map_eq_some_iff.mp h
  have hkey : entry.1 = key := by
    simpa using List.find?_some hentry
  rw [← hkey]
  exact List.mem_of_find?_eq_some hentry

/-- A later name does not hide an earlier one. -/
theorem LocalNames.get?_append
    {key name : List Char}
    (h : names.get? key = some name)
    (entry : List Char × List Char) :
    LocalNames.get? (names ++ [entry]) key = some name := by
  obtain ⟨found, hfound, rfl⟩ := Option.map_eq_some_iff.mp h
  rw [LocalNames.get?, List.find?_append, hfound]
  rfl

theorem LocalNames.get?_concat
    {key : List Char}
    (h : names.get? key = none)
    (name : List Char) :
    LocalNames.get? (names ++ [(key, name)]) key = some name := by
  have hnone : names.find? (fun entry => entry.1 == key) = none :=
    Option.map_eq_none_iff.mp h
  rw [LocalNames.get?, List.find?_append, hnone, Option.none_or, List.find?_cons,
    beq_self_eq_true]
  rfl

theorem freshName_free
    (code : List Char)
    (taken : List (List Char))
    (exportName : List Char) :
    Free code taken (freshName code taken exportName) :=
  Nat.find_spec (exists_free code taken exportName)

theorem candidate_ne_nil
    (exportName : List Char)
    (counter : Nat) :
    candidate exportName counter ≠ [] := by
  intro h
  have hstem := (List.append_eq_nil_iff.mp (List.append_eq_nil_iff.mp h).1).1
  exact absurd hstem (by decide)

theorem NamesFree.localFor
    (h : NamesFree code names)
    (module : DsqlRenderModule) :
    NamesFree code (Rewrite.localFor code names module).1 := by
  unfold Rewrite.localFor
  split
  · exact h
  · obtain ⟨habsent, hfresh⟩ :=
      freshName_free code (names.map Prod.snd) module.exportName
    refine ⟨?_, ?_, ?_⟩
    · intro entry hmem
      rcases List.mem_append.mp hmem with hmem | hmem
      · exact h.absent entry hmem
      · rw [List.mem_singleton.mp hmem]
        exact habsent
    · intro entry hmem
      rcases List.mem_append.mp hmem with hmem | hmem
      · exact h.written entry hmem
      · rw [List.mem_singleton.mp hmem]
        exact candidate_ne_nil _ _
    · rw [List.map_append, List.map_singleton, ← List.concat_eq_append]
      exact h.distinct.concat hfresh

theorem localFor_get?
    (names : LocalNames)
    (module : DsqlRenderModule) :
    (localFor code names module).1.get? (moduleKey module) =
      some (localFor code names module).2 := by
  unfold localFor
  split
  · rename_i existing hexisting
    exact hexisting
  · rename_i hnone
    exact LocalNames.get?_concat hnone _

theorem localFor_keeps
    (module : DsqlRenderModule)
    {key name : List Char}
    (h : names.get? key = some name) :
    (localFor code names module).1.get? key = some name := by
  unfold localFor
  split
  · exact h
  · exact LocalNames.get?_append h _

end Names

/-! ## The collection -/

def localBinding (names : LocalNames) (module : DsqlRenderModule) : List Char :=
  (names.get? (moduleKey module)).getD []

/-- The edit of an expression under given names. -/
def replacement
    (options : RewriteOptions)
    (names : LocalNames)
    (expression : CallsiteExpression) : Edit UInt8 where
  start := expression.range.start
  stop := expression.range.stop
  text :=
    match options.modules expression.target with
    | none => []
    | some module => utf8 (localBinding names module)

/-- What is proved of a collection. -/
structure CollectedFrom
    (options : RewriteOptions)
    (expressions : List CallsiteExpression)
    (start result : Collected) : Prop where
  free : NamesFree options.code result.localNames
  keeps : ∀ key name, start.localNames.get? key = some name →
    result.localNames.get? key = some name
  named : ∀ expression ∈ expressions, ∀ module,
    options.modules expression.target = some module →
      ∃ name, result.localNames.get? (moduleKey module) = some name
  splices : result.splices =
    start.splices ++ expressions.map (replacement options result.localNames)
  used : expressions ≠ [] ∨ start.used ≠ [] → result.used ≠ []

theorem setUsed_ne_nil
    (key : List Char)
    (module : DsqlRenderModule)
    (used : List (List Char × DsqlRenderModule)) :
    setUsed key module used ≠ [] := by
  cases used with
  | nil => exact List.cons_ne_nil _ _
  | cons entry used =>
      unfold setUsed
      split
      · exact List.cons_ne_nil _ _
      · exact List.cons_ne_nil _ _

theorem collectExpressions_from
    {options : RewriteOptions}
    {expressions : List CallsiteExpression}
    (hmapped : ∀ expression ∈ expressions, ∃ module,
      options.modules expression.target = some module)
    {start : Collected}
    (hfree : NamesFree options.code start.localNames) :
    ∃ result, collectExpressions options expressions start = .ok result ∧
      CollectedFrom options expressions start result := by
  induction expressions generalizing start with
  | nil =>
      refine ⟨start, rfl, hfree, fun _ _ h => h, ?_, ?_, ?_⟩
      · exact fun expression hmem => absurd hmem List.not_mem_nil
      · rw [List.map_nil, List.append_nil]
      · rintro (h | h)
        · exact absurd rfl h
        · exact h
  | cons expression expressions ih =>
      obtain ⟨module, hmodule⟩ := hmapped expression List.mem_cons_self
      obtain ⟨result, hresult, hfrom⟩ := @ih
        (fun other hmem => hmapped other (List.mem_cons_of_mem _ hmem))
        ⟨(localFor options.code start.localNames module).1,
          setUsed (moduleKey module) module start.used,
          start.splices ++ [⟨expression.range.start, expression.range.stop,
            utf8 (localFor options.code start.localNames module).2⟩]⟩
        (hfree.localFor module)
      have hname : result.localNames.get? (moduleKey module) =
          some (localFor options.code start.localNames module).2 :=
        hfrom.keeps _ _ (localFor_get? start.localNames module)
      refine ⟨result, ?_, hfrom.free, ?_, ?_, ?_, ?_⟩
      · simp only [collectExpressions, hmodule]
        exact hresult
      · intro key name hget
        exact hfrom.keeps key name (localFor_keeps module hget)
      · intro other hmem otherModule hother
        rcases List.mem_cons.mp hmem with rfl | hmem
        · rw [hmodule] at hother
          cases hother
          exact ⟨_, hname⟩
        · exact hfrom.named other hmem otherModule hother
      · rw [hfrom.splices, List.map_cons, List.append_assoc, List.singleton_append]
        simp only [replacement, hmodule, localBinding, hname, Option.getD_some]
      · intro _
        exact hfrom.used (.inr (setUsed_ne_nil _ _ _))

/-- Local bindings do not occur in the source and tell exports apart. -/
structure SafeBindings (options : RewriteOptions) (names : LocalNames) : Prop where
  absent : ∀ expression ∈ options.callsite.expressions, ∀ module,
    options.modules expression.target = some module →
      includes options.code (localBinding names module) = false
  injective : ∀ first ∈ options.callsite.expressions,
    ∀ second ∈ options.callsite.expressions, ∀ firstModule secondModule,
      options.modules first.target = some firstModule →
      options.modules second.target = some secondModule →
      localBinding names firstModule = localBinding names secondModule →
        firstModule.modulePath = secondModule.modulePath ∧
          firstModule.exportName = secondModule.exportName

theorem CollectedFrom.safe
    {options : RewriteOptions}
    {start result : Collected}
    (h : CollectedFrom options options.callsite.expressions start result) :
    SafeBindings options result.localNames := by
  constructor
  · intro expression hmem module hmodule
    obtain ⟨name, hname⟩ := h.named expression hmem module hmodule
    rw [localBinding, hname, Option.getD_some]
    exact h.free.absent _ (LocalNames.mem_of_get? hname)
  · intro first hfirst second hsecond firstModule secondModule hfirstModule
      hsecondModule heq
    obtain ⟨name, hname⟩ := h.named first hfirst firstModule hfirstModule
    obtain ⟨other, hother⟩ := h.named second hsecond secondModule hsecondModule
    rw [localBinding, localBinding, hname, hother] at heq
    cases heq
    have hentry := List.inj_on_of_nodup_map h.free.distinct
      (LocalNames.mem_of_get? hname) (LocalNames.mem_of_get? hother) rfl
    exact moduleKey_injective (Prod.mk.inj hentry).1

end Rewrite
end Dsql
