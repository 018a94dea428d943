import Dsql.Scopes.Definitions
import Dsql.Scopes.PolicyReferences
import Mathlib.Tactic

/-!
# Resolution is exact

A spread resolves when its scope reaches exactly one fragment of its name, and
where a scope reaches several definitions of one name a check reports it.
-/

namespace Dsql.Scopes

open Traversal

/-- A definition of a kind and name that a scope reaches through imports. -/
def Visible
    (program : Program)
    (scope : String)
    (kind : DefKind)
    (name : String)
    (definition : Definition) :
    Prop :=
  definition ∈ program.definitions ∧ definition.kind = kind ∧ definition.name = name ∧
    program.imports.Sees scope definition.scope

def Several (program : Program) (scope : String) (kind : DefKind) (name : String) : Prop :=
  ∃ left right, Visible program scope kind name left ∧ Visible program scope kind name right ∧
    left ≠ right

section

variable {program : Program} {scope name : String} {kind : DefKind}

theorem Program.definition_eq
    {left right : Definition}
    (hleft : left ∈ program.definitions)
    (hright : right ∈ program.definitions)
    (h : left.entity = right.entity) :
    left = right :=
  List.inj_on_of_nodup_map program.definitionsDistinct hleft hright h

theorem Program.definitions_nodup : program.definitions.Nodup :=
  program.definitionsDistinct.of_map

/-- What a visible definition sees of its own name is visible too. -/
theorem Visible.of_candidate
    {definition candidate : Definition}
    (h : Visible program scope kind name definition)
    (hcandidate : candidate ∈ visibleDefinitionCandidates program definition) :
    Visible program scope kind name candidate ∧ candidate ≠ definition := by
  obtain ⟨hmem, hmatch⟩ := List.mem_filter.mp hcandidate
  simp only [Bool.and_eq_true, decide_eq_true_eq, beq_iff_eq, bne_iff_ne] at hmatch
  obtain ⟨⟨⟨hkind, hname⟩, hentity⟩, hvisible⟩ := hmatch
  rw [ScopeImports.mem_visibleFrom] at hvisible
  obtain ⟨-, hdefinitionKind, hdefinitionName, hsees⟩ := h
  refine ⟨⟨hmem, hkind.trans hdefinitionKind, hname.trans hdefinitionName,
    hsees.trans hvisible⟩, ?_⟩
  rintro rfl
  exact hentity rfl

theorem Visible.candidate
    {left right : Definition}
    (hleft : Visible program scope kind name left)
    (hright : Visible program scope kind name right)
    (hne : right ≠ left)
    (hsees : program.imports.Sees left.scope right.scope) :
    right ∈ visibleDefinitionCandidates program left := by
  apply List.mem_filter.mpr
  refine ⟨hright.1, ?_⟩
  simp only [Bool.and_eq_true, decide_eq_true_eq, beq_iff_eq, bne_iff_ne]
  refine ⟨⟨⟨?_, ?_⟩, ?_⟩, ?_⟩
  · rw [hright.2.1, hleft.2.1]
  · rw [hright.2.2.1, hleft.2.2.1]
  · exact fun hentity => hne (Program.definition_eq hright.1 hleft.1 hentity)
  · rwa [ScopeImports.mem_visibleFrom]

/-! ## Conflicts -/

/-- A conflict is reported at a definition when its scope sees another of its
name, in the same scope only at the one loaded later. -/
theorem checkDefinitionConflicts_ne_nil
    (definition : Definition) :
    checkDefinitionConflicts program definition ≠ [] ↔
      ∃ candidate ∈ visibleDefinitionCandidates program definition,
        candidate.scope = definition.scope ∧ candidate.entity < definition.entity ∨
          candidate.scope ≠ definition.scope := by
  have hmem : ∀ candidate,
      candidate ∈ sortBy (fun candidate => toLex (candidate.scope, candidate.entity))
        (visibleDefinitionCandidates program definition) ↔
      candidate ∈ visibleDefinitionCandidates program definition :=
    fun candidate => (sortBy_perm _ _).mem_iff
  unfold checkDefinitionConflicts
  rw [Ne, List.append_eq_nil_iff, not_and_or]
  simp only [Option.toList_eq_nil_iff, Option.map_eq_none_iff, List.find?_eq_none]
  push Not
  constructor
  · rintro (⟨candidate, hcandidate, hmatch⟩ | ⟨candidate, hcandidate, hmatch⟩)
    · refine ⟨candidate, (hmem candidate).mp hcandidate, .inl ?_⟩
      simpa using hmatch
    · refine ⟨candidate, (hmem candidate).mp hcandidate, .inr ?_⟩
      simpa using hmatch
  · rintro ⟨candidate, hcandidate, hmatch | hmatch⟩
    · exact .inl ⟨candidate, (hmem candidate).mpr hcandidate, by simpa using hmatch⟩
    · exact .inr ⟨candidate, (hmem candidate).mpr hcandidate, by simpa using hmatch⟩

/-- A conflict at a definition that a scope reaches. -/
def ConflictReported
    (program : Program) (scope : String) (kind : DefKind) (name : String) : Prop :=
  ∃ definition, Visible program scope kind name definition ∧
    checkDefinitionConflicts program definition ≠ []

theorem ConflictReported.several
    (h : ConflictReported program scope kind name) :
    Several program scope kind name := by
  obtain ⟨definition, hvisible, hreport⟩ := h
  obtain ⟨candidate, hcandidate, -⟩ := (checkDefinitionConflicts_ne_nil definition).mp hreport
  obtain ⟨hother, hne⟩ := hvisible.of_candidate hcandidate
  exact ⟨candidate, definition, hother, hvisible, hne⟩

/-- Two definitions of one name in one scope conflict. -/
theorem conflictReported_of_same_scope
    {left right : Definition}
    (hleft : Visible program scope kind name left)
    (hright : Visible program scope kind name right)
    (hne : left ≠ right)
    (hscope : left.scope = right.scope) :
    ConflictReported program scope kind name := by
  have hleftRight : left ∈ visibleDefinitionCandidates program right :=
    hright.candidate hleft hne (by rw [hscope])
  have hrightLeft : right ∈ visibleDefinitionCandidates program left :=
    hleft.candidate hright hne.symm (by rw [hscope])
  rcases Nat.lt_trichotomy left.entity right.entity with hlt | heq | hlt
  · exact ⟨right, hright, (checkDefinitionConflicts_ne_nil right).mpr
      ⟨left, hleftRight, .inl ⟨hscope, hlt⟩⟩⟩
  · exact absurd (Program.definition_eq hleft.1 hright.1 heq) hne
  · exact ⟨left, hleft, (checkDefinitionConflicts_ne_nil left).mpr
      ⟨right, hrightLeft, .inl ⟨hscope.symm, hlt⟩⟩⟩

/-- A definition that sees another of its name in another scope conflicts. -/
theorem conflictReported_of_sees
    {left right : Definition}
    (hleft : Visible program scope kind name left)
    (hright : Visible program scope kind name right)
    (hscope : left.scope ≠ right.scope)
    (hsees : program.imports.Sees left.scope right.scope) :
    ConflictReported program scope kind name := by
  have hne : right ≠ left := by
    rintro rfl
    exact hscope rfl
  exact ⟨left, hleft, (checkDefinitionConflicts_ne_nil left).mpr
    ⟨right, hleft.candidate hright hne hsees, .inr hscope.symm⟩⟩

/-! ## Spreads -/

theorem mem_visibleFragmentCandidates
    (spread : Spread)
    (definition : Definition) :
    definition ∈ visibleFragmentCandidates program spread ↔
      Visible program spread.scope .fragment spread.name definition := by
  unfold visibleFragmentCandidates Visible
  rw [List.mem_filter]
  simp only [Bool.and_eq_true, decide_eq_true_eq, beq_iff_eq, ScopeImports.mem_visibleFrom,
    and_assoc]

def sortedCandidates (program : Program) (spread : Spread) : List Definition :=
  sortBy (fun candidate => toLex (candidate.scope, candidate.entity))
    (visibleFragmentCandidates program spread)

theorem mem_sortedCandidates
    (spread : Spread)
    (definition : Definition) :
    definition ∈ sortedCandidates program spread ↔
      Visible program spread.scope .fragment spread.name definition := by
  rw [← mem_visibleFragmentCandidates]
  exact (sortBy_perm _ _).mem_iff

theorem sortedCandidates_nodup (spread : Spread) :
    (sortedCandidates program spread).Nodup :=
  (sortBy_perm _ _).nodup_iff.mpr (Program.definitions_nodup.filter _)

/-- A spread's resolution counts the fragments of its name in sight. -/
theorem resolveSpread_cases
    (spread : Spread) :
    (resolveSpread program spread = .missing ∧
      ∀ definition, ¬ Visible program spread.scope .fragment spread.name definition) ∨
      (∃ definition, resolveSpread program spread = .resolved definition.asTarget ∧
        Visible program spread.scope .fragment spread.name definition ∧
        ∀ other, Visible program spread.scope .fragment spread.name other →
          other = definition) ∨
      (resolveSpread program spread = .nonUnique
          (sortBy id ((sortedCandidates program spread).map Definition.scope)).dedup ∧
        Several program spread.scope .fragment spread.name) := by
  have hmem := @mem_sortedCandidates program spread
  have hnodup := @sortedCandidates_nodup program spread
  have hresolve : resolveSpread program spread = resolution (sortedCandidates program spread) :=
    rfl
  cases hsorted : sortedCandidates program spread with
  | nil =>
      rw [hsorted] at hresolve
      refine .inl ⟨hresolve, ?_⟩
      intro definition hvisible
      rw [← hmem, hsorted] at hvisible
      exact List.not_mem_nil hvisible
  | cons first rest =>
      rw [hsorted] at hresolve hnodup
      cases rest with
      | nil =>
          refine .inr (.inl ⟨first, hresolve, ?_, ?_⟩)
          · rw [← hmem, hsorted]
            exact List.mem_cons_self
          · intro other hother
            rw [← hmem, hsorted] at hother
            exact List.mem_singleton.mp hother
      | cons second rest =>
          refine .inr (.inr ⟨hresolve, first, second, ?_, ?_, ?_⟩)
          · rw [← hmem, hsorted]
            exact List.mem_cons_self
          · rw [← hmem, hsorted]
            exact List.mem_cons_of_mem _ List.mem_cons_self
          · rintro rfl
            exact (List.nodup_cons.mp hnodup).1 List.mem_cons_self

/-- What a spread resolves to is the one fragment of its name in sight. -/
theorem resolveSpread_eq_resolved
    (spread : Spread)
    (target : SpreadTarget) :
    resolveSpread program spread = .resolved target ↔
      ∃ definition, Visible program spread.scope .fragment spread.name definition ∧
        (∀ other, Visible program spread.scope .fragment spread.name other →
          other = definition) ∧
        target = definition.asTarget := by
  rcases @resolveSpread_cases program spread with ⟨hresolve, hnone⟩ |
    ⟨definition, hresolve, hvisible, hunique⟩ | ⟨hresolve, left, right, hleft, hright, hne⟩
  · rw [hresolve]
    refine ⟨nofun, ?_⟩
    rintro ⟨definition, hvisible, -⟩
    exact absurd hvisible (hnone definition)
  · rw [hresolve]
    constructor
    · intro heq
      cases heq
      exact ⟨definition, hvisible, hunique, rfl⟩
    · rintro ⟨other, hother, -, rfl⟩
      rw [hunique other hother]
  · rw [hresolve]
    refine ⟨nofun, ?_⟩
    rintro ⟨definition, -, hunique, -⟩
    exact absurd ((hunique left hleft).trans (hunique right hright).symm) hne

theorem resolveSpread_nonUnique_several
    {spread : Spread}
    {scopes : List String}
    (h : resolveSpread program spread = .nonUnique scopes) :
    Several program spread.scope .fragment spread.name := by
  rcases @resolveSpread_cases program spread with ⟨hresolve, -⟩ |
    ⟨definition, hresolve, -, -⟩ | ⟨-, hseveral⟩
  · rw [hresolve] at h
    cases h
  · rw [hresolve] at h
    cases h
  · exact hseveral

/-- A spread is reported as ambiguous, not as unknown. -/
def AmbiguityReported (program : Program) (spread : Spread) : Prop :=
  (∃ scopes, resolveSpread program spread = .nonUnique scopes) ∧
    (checkUnknownFragments program spread).isSome

theorem checkUnknownFragments_of_scopes
    {spread : Spread}
    {scopes : List String}
    (h : resolveSpread program spread = .nonUnique scopes)
    {left right : String}
    (hleft : left ∈ scopes)
    (hright : right ∈ scopes)
    (hne : left ≠ right) :
    (checkUnknownFragments program spread).isSome := by
  unfold checkUnknownFragments
  rw [h]
  cases scopes with
  | nil => exact absurd hleft List.not_mem_nil
  | cons first rest =>
      cases rest with
      | nil =>
          rw [List.mem_singleton] at hleft hright
          exact absurd (hleft.trans hright.symm) hne
      | cons second rest => rfl

/-- Several fragments in sight are reported at the spread when their scopes
differ and at one of them otherwise. -/
theorem spread_reported_iff_several
    (spread : Spread) :
    (AmbiguityReported program spread ∨
      ConflictReported program spread.scope .fragment spread.name) ↔
      Several program spread.scope .fragment spread.name := by
  constructor
  · rintro (⟨⟨scopes, hscopes⟩, -⟩ | hconflict)
    · exact resolveSpread_nonUnique_several hscopes
    · exact hconflict.several
  · rintro ⟨left, right, hleft, hright, hne⟩
    by_cases hscope : left.scope = right.scope
    · exact .inr (conflictReported_of_same_scope hleft hright hne hscope)
    rcases @resolveSpread_cases program spread with ⟨-, hnone⟩ |
      ⟨definition, -, -, hunique⟩ | ⟨hresolve, -⟩
    · exact absurd hleft (hnone left)
    · exact absurd ((hunique left hleft).trans (hunique right hright).symm) hne
    · refine .inl ⟨⟨_, hresolve⟩, checkUnknownFragments_of_scopes hresolve ?_ ?_ hscope⟩
      · rw [List.mem_dedup, (sortBy_perm _ _).mem_iff]
        exact List.mem_map_of_mem ((mem_sortedCandidates spread left).mpr hleft)
      · rw [List.mem_dedup, (sortBy_perm _ _).mem_iff]
        exact List.mem_map_of_mem ((mem_sortedCandidates spread right).mpr hright)

/-! ## Queries -/

theorem bindImportedQueryPeer_eq_some
    (consumer provider : Definition)
    (peer : Definition × List String) :
    bindImportedQueryPeer program consumer provider = some peer ↔
      provider.kind = .query ∧ provider.entity ≠ consumer.entity ∧
        consumerScopes program provider consumer ≠ [] ∧
          peer = (provider, consumerScopes program provider consumer) := by
  unfold bindImportedQueryPeer
  by_cases hkind : provider.kind = .query
  · rw [if_neg (not_not.mpr hkind)]
    by_cases hentity : provider.entity = consumer.entity
    · rw [if_pos hentity]
      exact ⟨nofun, fun h => absurd hentity h.2.1⟩
    · rw [if_neg hentity]
      by_cases hscopes : consumerScopes program provider consumer = []
      · simp only [hscopes, List.isEmpty_nil, if_true]
        exact ⟨nofun, fun h => absurd rfl h.2.2.1⟩
      · simp only [List.isEmpty_iff, hscopes, if_false, Option.some_inj]
        exact ⟨fun h => ⟨hkind, hentity, hscopes, h.symm⟩, fun h => h.2.2.2.symm⟩
  · rw [if_pos hkind]
    exact ⟨nofun, fun h => absurd h.1 hkind⟩

theorem mem_consumerScopes
    (provider consumer : Definition) :
    scope ∈ consumerScopes program provider consumer ↔
      scope ∈ program.imports.keys ∧
        provider.scope ∈ program.imports.effectiveImports scope ∧
          consumer.scope ∈ program.imports.effectiveImports scope := by
  unfold consumerScopes
  rw [List.mem_filter]
  simp only [Bool.and_eq_true, decide_eq_true_eq]

theorem mem_peersFor
    (context peer : Definition) :
    peer ∈ peersFor program context scope ↔
      peer ∈ program.definitions ∧ peer.kind = context.kind ∧ peer.name = context.name ∧
        peer.kind = .query ∧ peer.entity ≠ context.entity ∧
          scope ∈ consumerScopes program peer context := by
  unfold peersFor importedQueryPeers
  simp only [List.mem_map, List.mem_filter, List.mem_filterMap, decide_eq_true_eq,
    bindImportedQueryPeer_eq_some, Bool.and_eq_true, beq_iff_eq]
  constructor
  · rintro ⟨found, ⟨⟨provider, ⟨hmem, hkind, hname⟩, hquery, hentity, -, rfl⟩, hscope⟩, rfl⟩
    exact ⟨hmem, hkind, hname, hquery, hentity, hscope⟩
  · rintro ⟨hmem, hkind, hname, hquery, hentity, hscope⟩
    exact ⟨_, ⟨⟨peer, ⟨hmem, hkind, hname⟩, hquery, hentity, List.ne_nil_of_mem hscope, rfl⟩,
      hscope⟩, rfl⟩

/-! ## Lists without consecutive repeats -/

theorem head?_destutter_cons
    {α : Type}
    (relation : α → α → Prop)
    [DecidableRel relation]
    (first : α)
    (rest : List α) :
    ((first :: rest).destutter relation).head? = some first := by
  rw [List.destutter_cons']
  induction rest with
  | nil => rfl
  | cons next rest ih =>
      rw [List.destutter'_cons]
      split
      · rfl
      · exact ih

theorem exists_mem_destutter'
    (first : Definition)
    {rest : List Definition}
    {item : Definition}
    (h : item ∈ first :: rest) :
    ∃ kept ∈ rest.destutter' (fun left right => left.entity ≠ right.entity) first,
      kept.entity = item.entity := by
  induction rest generalizing first item with
  | nil => exact ⟨first, List.mem_cons_self, by rw [List.mem_singleton.mp h]⟩
  | cons next rest ih =>
      rw [List.destutter'_cons]
      split
      · rcases List.mem_cons.mp h with rfl | hrest
        · exact ⟨item, List.mem_cons_self, rfl⟩
        · obtain ⟨kept, hkept, hentity⟩ := ih next hrest
          exact ⟨kept, List.mem_cons_of_mem _ hkept, hentity⟩
      · rename_i hsame
        rw [not_not] at hsame
        by_cases hitem : item = next
        · obtain ⟨kept, hkept, hentity⟩ := @ih first first List.mem_cons_self
          exact ⟨kept, hkept, by rw [hentity, hsame, hitem]⟩
        · apply ih first
          rcases List.mem_cons.mp h with heq | hrest
          · exact List.mem_cons.mpr (.inl heq)
          · rcases List.mem_cons.mp hrest with heq | hrest
            · exact absurd heq hitem
            · exact List.mem_cons_of_mem _ hrest

theorem two_le_length_of_mem
    {α : Type}
    {items : List α}
    {left right : α}
    (hleft : left ∈ items)
    (hright : right ∈ items)
    (hne : left ≠ right) :
    ¬ items.length < 2 := by
  cases items with
  | nil => exact absurd hleft List.not_mem_nil
  | cons first rest =>
      cases rest with
      | nil =>
          rw [List.mem_singleton] at hleft hright
          exact absurd (hleft.trans hright.symm) hne
      | cons second rest =>
          simp only [List.length_cons]
          omega

theorem distinct_of_mem
    {items : List Definition}
    {left right : Definition}
    (hleft : left ∈ items)
    (hright : right ∈ items)
    (hitems : ∀ item ∈ items, item ∈ program.definitions)
    (hscope : left.scope ≠ right.scope) :
    ¬ (sortBy id ((items.destutter
      (fun left right => left.entity ≠ right.entity)).map Definition.scope).dedup).length < 2 := by
  have hkept : ∀ item ∈ items, item ∈ items.destutter
      (fun left right => left.entity ≠ right.entity) := by
    intro item hitem
    cases items with
    | nil => exact absurd hitem List.not_mem_nil
    | cons first rest =>
        have hsublist := List.destutter_sublist
          (fun left right : Definition => left.entity ≠ right.entity) (first :: rest)
        rw [List.destutter_cons'] at hsublist ⊢
        obtain ⟨kept, hkept, hentity⟩ := exists_mem_destutter' first hitem
        have hmem := hitems kept (hsublist.subset hkept)
        rwa [Program.definition_eq hmem (hitems item hitem) hentity] at hkept
  have hmem : ∀ item ∈ items, item.scope ∈ sortBy id ((items.destutter
      (fun left right => left.entity ≠ right.entity)).map Definition.scope).dedup := by
    intro item hitem
    rw [(sortBy_perm _ _).mem_iff, List.mem_dedup]
    exact List.mem_map_of_mem (hkept item hitem)
  exact two_le_length_of_mem (hmem left hleft) (hmem right hright) hscope

/-- The first of a sorted list has the least key. -/
theorem exists_first
    {items : List Definition}
    {item : Definition}
    (h : item ∈ items) :
    ∃ first rest, sortBy orderKey items = first :: rest ∧ first ∈ items ∧
      ∀ other ∈ items, orderKey first ≤ orderKey other := by
  cases hsorted : sortBy orderKey items with
  | nil =>
      have hmem := (sortBy_perm orderKey items).mem_iff.mpr h
      rw [hsorted] at hmem
      exact absurd hmem List.not_mem_nil
  | cons first rest =>
      have hpairwise := sortBy_pairwise orderKey items
      rw [hsorted, List.pairwise_cons] at hpairwise
      have hmem : ∀ other, other ∈ first :: rest ↔ other ∈ items := by
        intro other
        rw [← hsorted]
        exact (sortBy_perm orderKey items).mem_iff
      refine ⟨first, rest, rfl, (hmem first).mp List.mem_cons_self, ?_⟩
      intro other hother
      rcases List.mem_cons.mp ((hmem other).mpr hother) with rfl | hrest
      · exact le_refl _
      · exact hpairwise.1 other hrest

/-- The site of the least provider reports the ambiguity. -/
theorem importAmbiguity_isSome
    {context left right : Definition}
    (hcontext : context ∈ program.definitions)
    (hleast : ∀ peer ∈ peersFor program context scope, orderKey context ≤ orderKey peer)
    (hleft : left ∈ peersFor program context scope ++ [context])
    (hright : right ∈ peersFor program context scope ++ [context])
    (hscope : left.scope ≠ right.scope) :
    (importAmbiguity program context scope).isSome := by
  have hdefinitions : ∀ item ∈ peersFor program context scope ++ [context],
      item ∈ program.definitions := by
    intro item hitem
    rcases List.mem_append.mp hitem with hpeer | hself
    · exact ((mem_peersFor context item).mp hpeer).1
    · rwa [List.mem_singleton.mp hself]
  have hnonempty : peersFor program context scope ≠ [] := by
    intro hnil
    rw [hnil, List.nil_append, List.mem_singleton] at hleft hright
    exact hscope (by rw [hleft, hright])
  have hself : context ∈ peersFor program context scope ++ [context] :=
    List.mem_append_right _ List.mem_cons_self
  obtain ⟨first, rest, hsorted, hfirst, hfirstLeast⟩ := exists_first hself
  have hkey : orderKey first = orderKey context := by
    apply le_antisymm (hfirstLeast context hself)
    rcases List.mem_append.mp hfirst with hpeer | hcontext
    · exact hleast first hpeer
    · rw [List.mem_singleton.mp hcontext]
  have hmem : ∀ item, item ∈ sortBy orderKey (peersFor program context scope ++ [context]) ↔
      item ∈ peersFor program context scope ++ [context] :=
    fun item => (sortBy_perm _ _).mem_iff
  have hdistinct := distinct_of_mem ((hmem left).mpr hleft) ((hmem right).mpr hright)
    (fun item hitem => hdefinitions item ((hmem item).mp hitem)) hscope
  have hhead := head?_destutter_cons (fun left right : Definition => left.entity ≠ right.entity)
    first rest
  unfold importAmbiguity
  simp only [List.isEmpty_iff, hnonempty, if_false, hdistinct]
  rw [hsorted, hhead]
  simp [hkey]

/-- The ambiguity of a query name is reported to a consumer scope. -/
def QueryAmbiguityReported (program : Program) (scope name : String) : Prop :=
  ∃ context report, Visible program scope .query name context ∧
    report ∈ checkImportAmbiguities program context ∧
      importAmbiguity program context scope = some report

theorem exists_peer_of_importAmbiguity
    {context : Definition}
    {report : Report}
    (h : importAmbiguity program context scope = some report) :
    ∃ peer, peer ∈ peersFor program context scope := by
  unfold importAmbiguity at h
  cases hpeers : peersFor program context scope with
  | nil =>
      rw [hpeers] at h
      cases h
  | cons peer rest => exact ⟨peer, List.mem_cons_self⟩

theorem visible_of_imported
    {definition : Definition}
    (hmem : definition ∈ program.definitions)
    (hkind : definition.kind = kind)
    (hname : definition.name = name)
    (himported : definition.scope ∈ program.imports.effectiveImports scope) :
    Visible program scope kind name definition :=
  ⟨hmem, hkind, hname, ((ScopeImports.mem_effectiveImports _ _ _).mp himported).2⟩

theorem QueryAmbiguityReported.several
    (h : QueryAmbiguityReported program scope name) :
    Several program scope .query name := by
  obtain ⟨context, report, hcontext, -, hreport⟩ := h
  obtain ⟨peer, hpeer⟩ := exists_peer_of_importAmbiguity hreport
  obtain ⟨hmem, hkind, hname, -, hentity, hscope⟩ := (mem_peersFor context peer).mp hpeer
  obtain ⟨-, himported, -⟩ := (mem_consumerScopes peer context).mp hscope
  refine ⟨peer, context, visible_of_imported hmem (hkind.trans hcontext.2.1)
    (hname.trans hcontext.2.2.1) himported, hcontext, ?_⟩
  rintro rfl
  exact hentity rfl

/-- A scope that reaches another declares imports. -/
theorem mem_keys_of_sees
    {graph : ScopeImports}
    {other : String}
    (hsees : graph.Sees scope other)
    (hne : other ≠ scope) :
    scope ∈ graph.keys := by
  rcases Relation.ReflTransGen.cases_head hsees with heq | ⟨first, hfirst, -⟩
  · exact absurd heq.symm hne
  · exact graph.mem_keys_of_imports scope (List.ne_nil_of_mem hfirst)

/-- Queries imported from two scopes are reported at the first of them. -/
theorem queryAmbiguityReported_of_imported
    {left right : Definition}
    (hleft : Visible program scope .query name left)
    (hright : Visible program scope .query name right)
    (hleftImported : left.scope ≠ scope)
    (hrightImported : right.scope ≠ scope)
    (hscope : left.scope ≠ right.scope) :
    QueryAmbiguityReported program scope name := by
  have hkey := mem_keys_of_sees hleft.2.2.2 hleftImported
  let providers := program.definitions.filter (fun definition =>
    decide (definition.kind = .query) && definition.name == name &&
      decide (definition.scope ∈ program.imports.effectiveImports scope))
  have hproviders : ∀ definition, definition ∈ providers ↔
      definition ∈ program.definitions ∧ (definition.kind = .query ∧ definition.name = name) ∧
        definition.scope ∈ program.imports.effectiveImports scope := by
    intro definition
    simp only [providers, List.mem_filter, Bool.and_eq_true, decide_eq_true_eq, beq_iff_eq]
  have hprovider : ∀ definition, Visible program scope .query name definition →
      definition.scope ≠ scope → definition ∈ providers := by
    intro definition hvisible hne
    exact (hproviders definition).mpr ⟨hvisible.1, ⟨hvisible.2.1, hvisible.2.2.1⟩,
      (ScopeImports.mem_effectiveImports _ _ _).mpr ⟨hne, hvisible.2.2.2⟩⟩
  obtain ⟨first, rest, -, hfirst, hleast⟩ := exists_first (hprovider left hleft hleftImported)
  obtain ⟨hmem, ⟨hkind, hname⟩, himported⟩ := (hproviders first).mp hfirst
  have hpeers : ∀ peer, peer ∈ peersFor program first scope ↔
      peer ∈ providers ∧ peer.entity ≠ first.entity := by
    intro peer
    rw [mem_peersFor, mem_consumerScopes, hproviders, hkind, hname]
    constructor
    · rintro ⟨hpeer, hquery, hpeerName, -, hentity, -, hpeerImported, -⟩
      exact ⟨⟨hpeer, ⟨hquery, hpeerName⟩, hpeerImported⟩, hentity⟩
    · rintro ⟨⟨hpeer, ⟨hquery, hpeerName⟩, hpeerImported⟩, hentity⟩
      exact ⟨hpeer, hquery, hpeerName, hquery, hentity, hkey, hpeerImported, himported⟩
  have hlisted : ∀ definition ∈ providers,
      definition ∈ peersFor program first scope ++ [first] := by
    intro definition hdefinition
    by_cases hentity : definition.entity = first.entity
    · rw [Program.definition_eq ((hproviders definition).mp hdefinition).1 hmem hentity]
      exact List.mem_append_right _ List.mem_cons_self
    · exact List.mem_append_left _ ((hpeers definition).mpr ⟨hdefinition, hentity⟩)
  have hreported := importAmbiguity_isSome hmem
    (fun peer hpeer => hleast peer ((hpeers peer).mp hpeer).1)
    (hlisted left (hprovider left hleft hleftImported))
    (hlisted right (hprovider right hright hrightImported)) hscope
  obtain ⟨report, hreport⟩ := Option.isSome_iff_exists.mp hreported
  refine ⟨first, report, visible_of_imported hmem hkind hname himported, ?_, hreport⟩
  rw [checkImportAmbiguities, if_neg (by simp [hkind])]
  exact List.mem_filterMap.mpr ⟨scope, hkey, hreport⟩

/-- Several queries of one name in a scope's sight are reported. -/
theorem query_reported_iff_several
    (program : Program)
    (scope name : String) :
    (QueryAmbiguityReported program scope name ∨
      ConflictReported program scope .query name) ↔
      Several program scope .query name := by
  constructor
  · rintro (hambiguity | hconflict)
    · exact hambiguity.several
    · exact hconflict.several
  · rintro ⟨left, right, hleft, hright, hne⟩
    by_cases hscope : left.scope = right.scope
    · exact .inr (conflictReported_of_same_scope hleft hright hne hscope)
    by_cases hleftLocal : left.scope = scope
    · refine .inr (conflictReported_of_sees hleft hright hscope ?_)
      rw [hleftLocal]
      exact hright.2.2.2
    by_cases hrightLocal : right.scope = scope
    · refine .inr (conflictReported_of_sees hright hleft (Ne.symm hscope) ?_)
      rw [hrightLocal]
      exact hleft.2.2.2
    · exact .inl (queryAmbiguityReported_of_imported hleft hright hleftLocal hrightLocal hscope)

/-! ## The order of loading -/

def Definition.renumber (renumber : Nat → Nat) (definition : Definition) : Definition :=
  { definition with entity := renumber definition.entity }

def SpreadResolution.renumber (renumber : Nat → Nat) : SpreadResolution → SpreadResolution
  | .resolved target => .resolved { target with definitionKey := renumber target.definitionKey }
  | .missing => .missing
  | .nonUnique scopes => .nonUnique scopes

/-- The same definitions loaded in another order. -/
structure Reloaded (program other : Program) (renumber : Nat → Nat) : Prop where
  imports : other.imports = program.imports
  definitions : other.definitions.Perm (program.definitions.map (Definition.renumber renumber))

theorem Reloaded.sortedCandidates_perm
    {other : Program}
    {renumber : Nat → Nat}
    (h : Reloaded program other renumber)
    (spread : Spread) :
    (sortedCandidates other spread).Perm
      ((sortedCandidates program spread).map (Definition.renumber renumber)) := by
  have hfilter : (visibleFragmentCandidates other spread).Perm
      ((visibleFragmentCandidates program spread).map (Definition.renumber renumber)) := by
    unfold visibleFragmentCandidates
    rw [h.imports]
    refine (h.definitions.filter _).trans (List.Perm.of_eq ?_)
    rw [List.filter_map]
    rfl
  exact ((sortBy_perm _ _).trans hfilter).trans ((sortBy_perm _ _).symm.map _)

theorem resolution_cons_cons (first second : Definition) (rest : List Definition) :
    resolution (first :: second :: rest) =
      .nonUnique (sortBy id ((first :: second :: rest).map Definition.scope)).dedup :=
  rfl

theorem resolution_of_perm
    {renumber : Nat → Nat}
    {candidates others : List Definition}
    (h : others.Perm (candidates.map (Definition.renumber renumber))) :
    resolution others = (resolution candidates).renumber renumber := by
  match candidates, h with
  | [], h =>
      rw [List.map_nil, List.perm_nil] at h
      rw [h]
      rfl
  | [definition], h =>
      rw [List.map_singleton, List.perm_singleton] at h
      rw [h]
      rfl
  | first :: second :: rest, h =>
      have hscopes : (sortBy id (others.map Definition.scope)).dedup =
          (sortBy id ((first :: second :: rest).map Definition.scope)).dedup := by
        have hmap := h.map Definition.scope
        rw [List.map_map] at hmap
        rw [sortBy_eq_of_perm_of_injective Function.injective_id hmap]
        rfl
      have hlength := h.length_eq
      simp only [List.length_map, List.length_cons] at hlength
      match others, hlength, hscopes with
      | first' :: second' :: rest', _, hscopes =>
          rw [resolution_cons_cons, hscopes]
          rfl

/-- A spread resolves alike whatever the order of loading. -/
theorem Reloaded.resolveSpread_eq
    {other : Program}
    {renumber : Nat → Nat}
    (h : Reloaded program other renumber)
    (spread : Spread) :
    resolveSpread other spread = (resolveSpread program spread).renumber renumber :=
  resolution_of_perm (h.sortedCandidates_perm spread)

theorem Reloaded.checkUnknownFragments_eq
    {other : Program}
    {renumber : Nat → Nat}
    (h : Reloaded program other renumber)
    (spread : Spread) :
    checkUnknownFragments other spread = checkUnknownFragments program spread := by
  unfold checkUnknownFragments
  rw [h.resolveSpread_eq]
  cases resolveSpread program spread <;> rfl

end

end Dsql.Scopes
