import Dsql.Scopes.Expansion
import Mathlib.Tactic

/-!
# Expansion enumerates the acyclic spread paths

The rounds cut by the names of the fragments on a path.  Where no conflict is
reported, a path never leads through two definitions of one name, so the names
stand for the definitions.
-/

namespace Dsql.Scopes

/-- A spread of a definition with the fragment it resolves to. -/
structure Uses
    (program : Program) (source : Definition) (spread : Spread) (target : Definition) : Prop where
  written : spread ∈ program.spreads
  owner : spread.owner = source.entity
  defined : target ∈ program.definitions
  resolves : resolveSpread program spread = .resolved target.asTarget

/-- The spread paths of a definition, from the root outwards. -/
inductive SpreadPath (program : Program) (root : Definition) :
    List (Spread × Definition) → Definition → Prop
  | nil : SpreadPath program root [] root
  | snoc {steps : List (Spread × Definition)} {source target : Definition} {spread : Spread} :
      SpreadPath program root steps source →
      Uses program source spread target →
      SpreadPath program root (steps ++ [(spread, target)]) target

/-- The fragments a path visits, the root included when it is one. -/
def fragmentsOn (root : Definition) (steps : List (Spread × Definition)) : List Definition :=
  (if root.kind = .fragment then [root] else []) ++ steps.map Prod.snd

/-- A path that visits no fragment twice. -/
def Acyclic (root : Definition) (steps : List (Spread × Definition)) : Prop :=
  (fragmentsOn root steps).Nodup

/-- No conflict is reported at any definition. -/
def ConflictFree (program : Program) : Prop :=
  ∀ definition ∈ program.definitions, checkDefinitionConflicts program definition = []

def pathOf (steps : List (Spread × Definition)) : List ExpansionStep :=
  steps.map (fun step => step.1.step)

def visitedOn (root : Definition) (steps : List (Spread × Definition)) : List String :=
  initiallyVisited root ++ steps.map (fun step => step.1.name)

def parentOf (steps : List (Spread × Definition)) : Option (List ExpansionStep) :=
  if steps = [] then none else some (pathOf steps)

/-- The occurrence at the end of a path. -/
def occurrenceOf
    (root : Definition)
    (steps : List (Spread × Definition))
    (spread : Spread)
    (target : Definition) :
    ExpansionOccurrence where
  rootGroup := root.entity
  targetGroup := target.entity
  parent := parentOf steps
  incomingSpread := spread.entity
  rootKind := root.kind
  path := pathOf steps ++ [spread.step]
  visited := visitedOn root steps ++ [spread.name]

/-- The cycle a spread closes at the end of a path. -/
def cycleOf
    (root : Definition)
    (steps : List (Spread × Definition))
    (spread : Spread) :
    ExpansionCycle where
  rootGroup := root.entity
  rootKind := root.kind
  parent := parentOf steps
  closingSpread := spread.entity
  file := spread.path
  name := spread.name
  nameSpan := spread.nameSpan
  path := pathOf steps ++ [spread.step]

def followed
    (root : Definition)
    (steps : List (Spread × Definition))
    (spread : Spread)
    (target : Definition) :
    Expansion :=
  if spread.name ∈ visitedOn root steps then
    .cycle (cycleOf root steps spread)
  else
    .occurrence (occurrenceOf root steps spread target)

section

variable {program : Program}

theorem SpreadPath.snoc_inv
    {root target last : Definition}
    {steps : List (Spread × Definition)}
    {spread : Spread}
    (h : SpreadPath program root (steps ++ [(spread, target)]) last) :
    last = target ∧ ∃ source, SpreadPath program root steps source ∧
      Uses program source spread target := by
  generalize hall : steps ++ [(spread, target)] = all at h
  cases h with
  | nil => simp at hall
  | snoc hpath huses =>
      obtain ⟨rfl, hlast⟩ := List.append_inj' hall rfl
      cases hlast
      exact ⟨rfl, _, hpath, huses⟩

theorem Uses.visible
    {source target : Definition}
    {spread : Spread}
    (h : Uses program source spread target) :
    Visible program spread.scope .fragment spread.name target := by
  obtain ⟨definition, hvisible, -, htarget⟩ :=
    (resolveSpread_eq_resolved spread target.asTarget).mp h.resolves
  have hentity : target.entity = definition.entity := congrArg SpreadTarget.definitionKey htarget
  rwa [Program.definition_eq h.defined hvisible.1 hentity]

theorem Uses.scope_eq
    {source target : Definition}
    {spread : Spread}
    (h : Uses program source spread target)
    (hsource : source ∈ program.definitions) :
    spread.scope = source.scope := by
  obtain ⟨owner, howner, hentity, hscope⟩ := program.owned spread h.written
  rw [← hscope, Program.definition_eq howner hsource (hentity.trans h.owner)]

theorem mem_dependencies
    {group : Nat}
    {spread : Spread}
    {target : Nat} :
    (spread, target) ∈ dependencies program group ↔
      spread ∈ program.spreads ∧ spread.owner = group ∧
        ∃ resolved, resolveSpread program spread = .resolved resolved ∧
          resolved.definitionKey = target := by
  unfold dependencies
  rw [List.mem_filterMap]
  constructor
  · rintro ⟨found, hfound, hmatch⟩
    obtain ⟨hmem, howner⟩ := List.mem_filter.mp hfound
    cases hresolve : resolveSpread program found with
    | resolved resolved =>
        simp only [hresolve, Option.some_inj, Prod.mk.injEq] at hmatch
        obtain ⟨rfl, rfl⟩ := hmatch
        exact ⟨hmem, by simpa using howner, resolved, hresolve, rfl⟩
    | missing => simp only [hresolve, reduceCtorEq] at hmatch
    | nonUnique scopes => simp only [hresolve, reduceCtorEq] at hmatch
  · rintro ⟨hmem, howner, resolved, hresolve, rfl⟩
    exact ⟨spread, List.mem_filter.mpr ⟨hmem, by simpa using howner⟩, by rw [hresolve]⟩

/-- The dependencies of a group are what its definition uses. -/
theorem mem_dependencies_iff_uses
    {source : Definition}
    {spread : Spread}
    {target : Nat} :
    (spread, target) ∈ dependencies program source.entity ↔
      ∃ definition, Uses program source spread definition ∧ definition.entity = target := by
  rw [mem_dependencies]
  constructor
  · rintro ⟨hspread, howner, resolved, hresolved, rfl⟩
    obtain ⟨definition, hvisible, -, rfl⟩ :=
      (resolveSpread_eq_resolved spread resolved).mp hresolved
    exact ⟨definition, ⟨hspread, howner, hvisible.1, hresolved⟩, rfl⟩
  · rintro ⟨definition, huses, rfl⟩
    exact ⟨huses.written, huses.owner, _, huses.resolves, rfl⟩

/-! ## The rounds -/

theorem any_name_iff
    (names : List String)
    (name : String) :
    names.any (fun other => other == name) = true ↔ name ∈ names := by
  rw [List.any_eq_true]
  constructor
  · rintro ⟨other, hother, heq⟩
    rwa [← beq_iff_eq.mp heq]
  · exact fun hmem => ⟨name, hmem, beq_self_eq_true name⟩

theorem seedSpread_eq
    (root target : Definition)
    (spread : Spread) :
    seedSpread root (spread, target.entity) = followed root [] spread target := by
  have hvisited : visitedOn root [] = initiallyVisited root := List.append_nil _
  unfold seedSpread followed
  simp only [any_name_iff, hvisited]
  split
  · rfl
  · rw [occurrenceOf, hvisited]
    rfl

theorem visitedOn_concat
    (root target : Definition)
    (steps : List (Spread × Definition))
    (spread : Spread) :
    visitedOn root (steps ++ [(spread, target)]) = visitedOn root steps ++ [spread.name] := by
  simp [visitedOn]

theorem parentOf_concat
    (target : Definition)
    (steps : List (Spread × Definition))
    (spread : Spread) :
    parentOf (steps ++ [(spread, target)]) = some (pathOf steps ++ [spread.step]) := by
  simp [parentOf, pathOf]

theorem extendSpread_eq
    (root target next : Definition)
    (steps : List (Spread × Definition))
    (spread following : Spread) :
    extendSpread (occurrenceOf root steps spread target) (following, next.entity) =
      followed root (steps ++ [(spread, target)]) following next := by
  have hpath : pathOf (steps ++ [(spread, target)]) = pathOf steps ++ [spread.step] := by
    simp [pathOf]
  unfold extendSpread followed
  simp only [any_name_iff, visitedOn_concat]
  split
  · rename_i hvisited
    rw [occurrenceOf] at hvisited
    rw [if_pos hvisited, cycleOf, parentOf_concat, hpath]
    rfl
  · rename_i hvisited
    rw [occurrenceOf] at hvisited
    rw [if_neg hvisited]
    simp only [occurrenceOf, visitedOn_concat, parentOf_concat, hpath]

theorem followed_eq_occurrence
    {root target : Definition}
    {steps : List (Spread × Definition)}
    {spread : Spread}
    (h : spread.name ∉ visitedOn root steps) :
    followed root steps spread target = .occurrence (occurrenceOf root steps spread target) :=
  if_neg h

/-- What extends the end of a path: nothing where it was cut. -/
theorem mem_extend_followed
    {root target : Definition}
    {steps : List (Spread × Definition)}
    {spread : Spread}
    {expansion : Expansion} :
    expansion ∈ (followed root steps spread target).extend program ↔
      spread.name ∉ visitedOn root steps ∧
        ∃ following next, Uses program target following next ∧
          expansion = followed root (steps ++ [(spread, target)]) following next := by
  by_cases hvisited : spread.name ∈ visitedOn root steps
  · rw [followed, if_pos hvisited]
    exact ⟨fun h => absurd h List.not_mem_nil, fun h => absurd hvisited h.1⟩
  · rw [followed_eq_occurrence hvisited]
    unfold Expansion.extend extendExpansionOccurrences
    rw [List.mem_map]
    constructor
    · rintro ⟨⟨following, key⟩, hdependency, rfl⟩
      obtain ⟨next, huses, rfl⟩ := mem_dependencies_iff_uses.mp hdependency
      exact ⟨hvisited, following, next, huses, extendSpread_eq root target next steps spread _⟩
    · rintro ⟨-, following, next, huses, rfl⟩
      exact ⟨(following, next.entity), mem_dependencies_iff_uses.mpr ⟨next, huses, rfl⟩,
        extendSpread_eq root target next steps spread following⟩

theorem visitedOn_nil_nodup (root : Definition) : (visitedOn root []).Nodup := by
  unfold visitedOn initiallyVisited
  split <;> simp

theorem SpreadPath.nil_inv
    {root source : Definition}
    (h : SpreadPath program root [] source) :
    source = root := by
  generalize hsteps : ([] : List (Spread × Definition)) = steps at h
  cases h with
  | nil => rfl
  | snoc hpath huses => simp at hsteps

/-- A round follows every spread at the end of every path of its length that
visits no name twice. -/
theorem mem_expansionRound
    (root : Definition)
    (round : Nat)
    (expansion : Expansion) :
    expansion ∈ expansionRound program root round ↔
      ∃ steps source spread target, steps.length = round ∧
        SpreadPath program root steps source ∧ (visitedOn root steps).Nodup ∧
          Uses program source spread target ∧ expansion = followed root steps spread target := by
  induction round generalizing expansion with
  | zero =>
      unfold expansionRound seedExpansionOccurrences
      rw [List.mem_map]
      constructor
      · rintro ⟨⟨spread, key⟩, hdependency, rfl⟩
        obtain ⟨target, huses, rfl⟩ := mem_dependencies_iff_uses.mp hdependency
        exact ⟨[], root, spread, target, rfl, .nil, visitedOn_nil_nodup root, huses,
          seedSpread_eq root target spread⟩
      · rintro ⟨steps, source, spread, target, hlength, hpath, -, huses, rfl⟩
        obtain rfl := List.length_eq_zero_iff.mp hlength
        obtain rfl := hpath.nil_inv
        exact ⟨(spread, target.entity), mem_dependencies_iff_uses.mpr ⟨target, huses, rfl⟩,
          seedSpread_eq source target spread⟩
  | succ round ih =>
      unfold expansionRound
      rw [List.mem_flatMap]
      constructor
      · rintro ⟨parent, hparent, hextend⟩
        obtain ⟨steps, source, spread, target, hlength, hpath, hnodup, huses, rfl⟩ :=
          (ih parent).mp hparent
        obtain ⟨hvisited, following, next, hnext, rfl⟩ := mem_extend_followed.mp hextend
        refine ⟨steps ++ [(spread, target)], target, following, next, ?_, hpath.snoc huses, ?_,
          hnext, rfl⟩
        · rw [List.length_append, hlength]
          rfl
        · rw [visitedOn_concat, ← List.concat_eq_append]
          exact hnodup.concat hvisited
      · rintro ⟨steps, source, following, next, hlength, hpath, hnodup, hnext, rfl⟩
        rcases List.eq_nil_or_concat' steps with rfl | ⟨init, ⟨spread, target⟩, rfl⟩
        · cases hlength
        · obtain ⟨rfl, middle, hinit, huses⟩ := hpath.snoc_inv
          rw [visitedOn_concat, List.nodup_append] at hnodup
          obtain ⟨hinitNodup, -, hdisjoint⟩ := hnodup
          have hvisited : spread.name ∉ visitedOn root init :=
            fun hmem => hdisjoint _ hmem _ List.mem_cons_self rfl
          refine ⟨followed root init spread source, (ih _).mpr ⟨init, middle, spread, source, ?_,
            hinit, hinitNodup, huses, rfl⟩, mem_extend_followed.mpr ⟨hvisited, following, next,
              hnext, rfl⟩⟩
          rw [List.length_append] at hlength
          exact Nat.succ_injective hlength

/-! ## Names stand for definitions -/

theorem fragmentsOn_concat
    (root target : Definition)
    (steps : List (Spread × Definition))
    (spread : Spread) :
    fragmentsOn root (steps ++ [(spread, target)]) = fragmentsOn root steps ++ [target] := by
  simp [fragmentsOn]

/-- Every fragment on a path is a fragment definition whose scope sees the end
of the path. -/
theorem SpreadPath.spec
    {root source : Definition}
    {steps : List (Spread × Definition)}
    (h : SpreadPath program root steps source)
    (hroot : root ∈ program.definitions) :
    source ∈ program.definitions ∧ program.imports.Sees root.scope source.scope ∧
      ∀ fragment ∈ fragmentsOn root steps, fragment ∈ program.definitions ∧
        fragment.kind = .fragment ∧ program.imports.Sees fragment.scope source.scope := by
  induction h with
  | nil =>
      refine ⟨hroot, .refl, ?_⟩
      intro fragment hfragment
      unfold fragmentsOn at hfragment
      rw [List.map_nil, List.append_nil] at hfragment
      split at hfragment
      · rename_i hkind
        rw [List.mem_singleton.mp hfragment]
        exact ⟨hroot, hkind, .refl⟩
      · exact absurd hfragment List.not_mem_nil
  | @snoc steps source target spread hpath huses ih =>
      obtain ⟨hsource, hsees, hfragments⟩ := ih
      have hstep : program.imports.Sees source.scope target.scope := by
        have hvisible := huses.visible.2.2.2
        rwa [huses.scope_eq hsource] at hvisible
      refine ⟨huses.defined, hsees.trans hstep, ?_⟩
      intro fragment hfragment
      rw [fragmentsOn_concat] at hfragment
      rcases List.mem_append.mp hfragment with hbefore | hlast
      · obtain ⟨hmem, hkind, hfragmentSees⟩ := hfragments fragment hbefore
        exact ⟨hmem, hkind, hfragmentSees.trans hstep⟩
      · rw [List.mem_singleton.mp hlast]
        exact ⟨huses.defined, huses.visible.2.1, .refl⟩

/-- Of two fragments of one name, one in the other's sight is the other. -/
theorem ConflictFree.eq_of_sees
    (hfree : ConflictFree program)
    {left right : Definition}
    (hleft : left ∈ program.definitions)
    (hright : right ∈ program.definitions)
    (hleftKind : left.kind = .fragment)
    (hrightKind : right.kind = .fragment)
    (hname : left.name = right.name)
    (hsees : program.imports.Sees left.scope right.scope) :
    left = right := by
  by_contra hne
  have hvisibleLeft : Visible program left.scope .fragment left.name left :=
    ⟨hleft, hleftKind, rfl, .refl⟩
  have hvisibleRight : Visible program left.scope .fragment left.name right :=
    ⟨hright, hrightKind, hname.symm, hsees⟩
  have hconflict : ConflictReported program left.scope .fragment left.name := by
    by_cases hscope : left.scope = right.scope
    · exact conflictReported_of_same_scope hvisibleLeft hvisibleRight hne hscope
    · exact conflictReported_of_sees hvisibleLeft hvisibleRight hscope hsees
  obtain ⟨definition, hvisible, hreport⟩ := hconflict
  exact hreport (hfree definition hvisible.1)

/-- No path leads through two definitions of one name. -/
theorem SpreadPath.eq_of_name
    (hfree : ConflictFree program)
    {root source : Definition}
    {steps : List (Spread × Definition)}
    (h : SpreadPath program root steps source)
    (hroot : root ∈ program.definitions)
    {left right : Definition}
    (hleft : left ∈ fragmentsOn root steps)
    (hright : right ∈ fragmentsOn root steps)
    (hname : left.name = right.name) :
    left = right := by
  induction h with
  | nil =>
      unfold fragmentsOn at hleft hright
      rw [List.map_nil, List.append_nil] at hleft hright
      split at hleft
      · rename_i hkind
        rw [if_pos hkind] at hright
        exact (List.mem_singleton.mp hleft).trans (List.mem_singleton.mp hright).symm
      · exact absurd hleft List.not_mem_nil
  | @snoc steps source target spread hpath huses ih =>
      have hall := (hpath.snoc huses).spec hroot
      obtain ⟨hleftMem, hleftKind, hleftSees⟩ := hall.2.2 left hleft
      obtain ⟨hrightMem, hrightKind, hrightSees⟩ := hall.2.2 right hright
      rw [fragmentsOn_concat] at hleft hright
      rcases List.mem_append.mp hleft with hleftBefore | hleftLast
      · rcases List.mem_append.mp hright with hrightBefore | hrightLast
        · exact ih hleftBefore hrightBefore
        · rw [List.mem_singleton.mp hrightLast] at hname hrightMem hrightKind ⊢
          exact hfree.eq_of_sees hleftMem hrightMem hleftKind hrightKind hname hleftSees
      · rw [List.mem_singleton.mp hleftLast] at hname hleftMem hleftKind ⊢
        exact (hfree.eq_of_sees hrightMem hleftMem hrightKind hleftKind hname.symm
          hrightSees).symm

theorem SpreadPath.visitedOn_eq
    {root source : Definition}
    {steps : List (Spread × Definition)}
    (h : SpreadPath program root steps source) :
    visitedOn root steps = (fragmentsOn root steps).map Definition.name := by
  induction h with
  | nil =>
      unfold visitedOn initiallyVisited fragmentsOn
      split <;> rfl
  | @snoc steps source target spread hpath huses ih =>
      rw [visitedOn_concat, fragmentsOn_concat, ih, List.map_append, ← huses.visible.2.2.1]
      rfl

/-- Cutting by names is cutting by definitions. -/
theorem SpreadPath.visitedOn_nodup
    (hfree : ConflictFree program)
    {root source : Definition}
    {steps : List (Spread × Definition)}
    (h : SpreadPath program root steps source)
    (hroot : root ∈ program.definitions) :
    (visitedOn root steps).Nodup ↔ Acyclic root steps := by
  rw [h.visitedOn_eq]
  constructor
  · exact List.Nodup.of_map Definition.name
  · intro hnodup
    exact hnodup.map_on (fun _ hleft _ hright hname =>
      h.eq_of_name hfree hroot hleft hright hname)

/-- A spread's name is on the path when the fragment it resolves to is. -/
theorem SpreadPath.name_mem_iff
    (hfree : ConflictFree program)
    {root source target : Definition}
    {steps : List (Spread × Definition)}
    {spread : Spread}
    (h : SpreadPath program root steps source)
    (hroot : root ∈ program.definitions)
    (huses : Uses program source spread target) :
    spread.name ∈ visitedOn root steps ↔ target ∈ fragmentsOn root steps := by
  rw [h.visitedOn_eq, List.mem_map]
  constructor
  · rintro ⟨fragment, hfragment, hname⟩
    have heq : fragment = target := by
      refine (h.snoc huses).eq_of_name hfree hroot ?_ ?_ (hname.trans huses.visible.2.2.1.symm)
      · rw [fragmentsOn_concat]
        exact List.mem_append_left _ hfragment
      · rw [fragmentsOn_concat]
        exact List.mem_append_right _ List.mem_cons_self
    rwa [← heq]
  · exact fun hmem => ⟨target, hmem, huses.visible.2.2.1⟩

/-- An acyclic path is no longer than there are definitions. -/
theorem SpreadPath.length_le
    {root source : Definition}
    {steps : List (Spread × Definition)}
    (h : SpreadPath program root steps source)
    (hroot : root ∈ program.definitions)
    (hnodup : Acyclic root steps) :
    steps.length ≤ program.definitions.length := by
  have hsubset : fragmentsOn root steps ⊆ program.definitions :=
    fun fragment hfragment => ((h.spec hroot).2.2 fragment hfragment).1
  have hlength := (hnodup.subperm hsubset).length_le
  rw [fragmentsOn, List.length_append, List.length_map] at hlength
  omega

end

end Dsql.Scopes
