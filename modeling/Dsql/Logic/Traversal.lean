import Mathlib.Data.List.Chain
import Mathlib.Logic.Relation
import Mathlib.Tactic

/-!
# Depth-first traversal

Nodes with their successors in order.  Collecting from a node skips the nodes
already seen; searching for a cycle also marks the nodes it is inside of.  The
fuel bounds the depth: it is enough once no more nodes with successors are
unseen.
-/

namespace Dsql

namespace Traversal

section Reach

variable {α : Type} (next : α → List α)

def Edge (source target : α) : Prop :=
  target ∈ next source

abbrev Reaches : α → α → Prop :=
  Relation.ReflTransGen (Edge next)

/-- A node on a cycle. -/
abbrev Cyclic (node : α) : Prop :=
  Relation.TransGen (Edge next) node node

variable {next}

/-- A set closed under successors holds all that a member reaches. -/
theorem Reaches.mem_of_closed
    {closed : α → Prop}
    (hclosed : ∀ node, closed node → ∀ other ∈ next node, closed other)
    {source target : α}
    (h : Reaches next source target)
    (hsource : closed source) :
    closed target := by
  induction h with
  | refl => exact hsource
  | tail hreach hedge ih => exact hclosed _ ih _ hedge

end Reach

section Collect

variable {α : Type} [DecidableEq α] (next : α → List α)

def collect : Nat → List α → α → List α
  | 0, visible, node =>
      if node ∈ visible then visible else visible ++ [node]
  | fuel + 1, visible, node =>
      if node ∈ visible then
        visible
      else
        (next node).foldl (collect fuel) (visible ++ [node])

/-- What collecting from some roots adds to the nodes seen before. -/
structure Extends (roots before after : List α) : Prop where
  front : before <+: after
  nodup : before.Nodup → after.Nodup
  found : ∀ root ∈ roots, root ∈ after
  reached : ∀ node ∈ after, node ∉ before → ∃ root ∈ roots, Reaches next root node
  closed : ∀ node ∈ after, node ∉ before → ∀ other ∈ next node, other ∈ after

variable {next}

omit [DecidableEq α] in
/-- What was visible stays visible. -/
theorem Extends.kept
    {roots before after : List α}
    (h : Extends next roots before after)
    (node : α)
    (hnode : node ∈ before) :
    node ∈ after :=
  h.front.subset hnode

omit [DecidableEq α] in
/-- A visible node has nothing to add. -/
theorem Extends.of_mem
    {node : α}
    {visible : List α}
    (h : node ∈ visible) :
    Extends next [node] visible visible where
  front := List.prefix_rfl
  nodup := id
  found := by
    intro root hroot
    rw [List.mem_singleton.mp hroot]
    exact h
  reached := fun _ hmem hnot => absurd hmem hnot
  closed := fun _ hmem hnot => absurd hmem hnot

omit [DecidableEq α] in
theorem Extends.nil (visible : List α) : Extends next [] visible visible where
  front := List.prefix_rfl
  nodup := id
  found := fun _ hroot => absurd hroot List.not_mem_nil
  reached := fun _ hmem hnot => absurd hmem hnot
  closed := fun _ hmem hnot => absurd hmem hnot

/-- Roots are collected one after the other. -/
theorem Extends.cons
    {root : α}
    {roots before middle after : List α}
    (hfirst : Extends next [root] before middle)
    (hrest : Extends next roots middle after) :
    Extends next (root :: roots) before after where
  front := hfirst.front.trans hrest.front
  nodup := fun hnodup => hrest.nodup (hfirst.nodup hnodup)
  found := by
    intro node hnode
    rcases List.mem_cons.mp hnode with rfl | hnode
    · exact hrest.kept node (hfirst.found node List.mem_cons_self)
    · exact hrest.found node hnode
  reached := by
    intro node hmem hnot
    by_cases hmiddle : node ∈ middle
    · obtain ⟨found, hfound, hreach⟩ := hfirst.reached node hmiddle hnot
      exact ⟨root, List.mem_cons_self, by rwa [List.mem_singleton.mp hfound] at hreach⟩
    · obtain ⟨found, hfound, hreach⟩ := hrest.reached node hmem hmiddle
      exact ⟨found, List.mem_cons_of_mem _ hfound, hreach⟩
  closed := by
    intro node hmem hnot other hother
    by_cases hmiddle : node ∈ middle
    · exact hrest.kept other (hfirst.closed node hmiddle hnot other hother)
    · exact hrest.closed node hmem hmiddle other hother

/-- Entering a new node and collecting its successors collects the node. -/
theorem Extends.enter
    {node : α}
    {before after : List α}
    (hnew : node ∉ before)
    (h : Extends next (next node) (before ++ [node]) after) :
    Extends next [node] before after where
  front := (List.prefix_append before [node]).trans h.front
  nodup := by
    intro hnodup
    apply h.nodup
    rw [List.nodup_append]
    refine ⟨hnodup, List.nodup_singleton node, ?_⟩
    intro left hleft right hright heq
    rw [List.mem_singleton.mp hright] at heq
    exact hnew (heq ▸ hleft)
  found := by
    intro root hroot
    rw [List.mem_singleton.mp hroot]
    exact h.kept node (List.mem_append_right _ List.mem_cons_self)
  reached := by
    intro other hmem hnot
    refine ⟨node, List.mem_cons_self, ?_⟩
    by_cases hentered : other ∈ before ++ [node]
    · rcases List.mem_append.mp hentered with hbefore | hself
      · exact absurd hbefore hnot
      · rw [List.mem_singleton.mp hself]
    · obtain ⟨child, hchild, hreach⟩ := h.reached other hmem hentered
      exact hreach.head hchild
  closed := by
    intro other hmem hnot successor hsuccessor
    by_cases hentered : other ∈ before ++ [node]
    · rcases List.mem_append.mp hentered with hbefore | hself
      · exact absurd hbefore hnot
      · rw [List.mem_singleton.mp hself] at hsuccessor
        exact h.found successor hsuccessor
    · exact h.closed other hmem hentered successor hsuccessor

/-- The nodes with successors that are still unseen. -/
def unseen (sources visible : List α) : Nat :=
  (sources.filter (fun node => node ∉ visible)).length

theorem unseen_le_of_subset
    (sources : List α)
    {before after : List α}
    (h : ∀ node ∈ before, node ∈ after) :
    unseen sources after ≤ unseen sources before := by
  unfold unseen
  apply List.Sublist.length_le
  apply List.monotone_filter_right
  intro node hnode
  simp only [decide_eq_true_eq] at hnode ⊢
  exact fun hmem => hnode (h node hmem)

/-- A new source leaves fewer unseen. -/
theorem unseen_append_lt
    {sources visible : List α}
    {node : α}
    (hsource : node ∈ sources)
    (hnew : node ∉ visible) :
    unseen sources (visible ++ [node]) < unseen sources visible := by
  have hfilter : sources.filter (fun other => other ∉ visible ++ [node]) =
      (sources.filter (fun other => other ∉ visible)).filter (fun other => other ≠ node) := by
    rw [List.filter_filter]
    apply List.filter_congr
    intro other _
    simp [not_or, and_comm]
  unfold unseen
  rw [hfilter, List.length_filter_lt_length_iff_exists]
  exact ⟨node, List.mem_filter.mpr ⟨hsource, by simpa using hnew⟩, by simp⟩

theorem unseen_lt_of_subset
    {sources before after : List α}
    {node : α}
    (hsource : node ∈ sources)
    (hnew : node ∉ before)
    (hnode : node ∈ after)
    (h : ∀ other ∈ before, other ∈ after) :
    unseen sources after < unseen sources before := by
  refine Nat.lt_of_le_of_lt (unseen_le_of_subset sources ?_) (unseen_append_lt hsource hnew)
  intro other hother
  rcases List.mem_append.mp hother with hbefore | hself
  · exact h other hbefore
  · rwa [List.mem_singleton.mp hself]

/-- Collecting from all roots, given the same of one. -/
theorem foldl_collect_extends
    {fuel : Nat}
    {sources : List α}
    (hcollect : ∀ visible node, unseen sources visible ≤ fuel →
      Extends next [node] visible (collect next fuel visible node))
    (roots : List α)
    {visible : List α}
    (hfuel : unseen sources visible ≤ fuel) :
    Extends next roots visible (roots.foldl (collect next fuel) visible) := by
  induction roots generalizing visible with
  | nil => exact .nil visible
  | cons root roots ih =>
      have hfirst := hcollect visible root hfuel
      have hless := unseen_le_of_subset sources hfirst.kept
      exact hfirst.cons (ih (Nat.le_trans hless hfuel))

/-- A visible node is not collected again. -/
theorem collect_of_mem
    (fuel : Nat)
    {visible : List α}
    {node : α}
    (h : node ∈ visible) :
    collect next fuel visible node = visible := by
  cases fuel with
  | zero => rw [collect, if_pos h]
  | succ fuel => rw [collect, if_pos h]

/-- A new node is collected with what follows from it. -/
theorem collect_enters
    {sources : List α}
    (hsources : ∀ node, next node ≠ [] → node ∈ sources)
    (fuel : Nat)
    (visible : List α)
    (node : α)
    (hfuel : unseen sources visible ≤ fuel)
    (hnew : node ∉ visible) :
    Extends next (next node) (visible ++ [node]) (collect next fuel visible node) := by
  induction fuel generalizing visible node with
  | zero =>
      have hleaf : next node = [] := by
        by_contra hne
        have := unseen_append_lt (hsources node hne) hnew
        omega
      rw [collect, if_neg hnew, hleaf]
      exact .nil _
  | succ fuel ih =>
      rw [collect, if_neg hnew]
      by_cases hleaf : next node = []
      · rw [hleaf]
        exact .nil _
      · have hless := unseen_append_lt (hsources node hleaf) hnew
        refine @foldl_collect_extends _ _ next fuel sources ?_ (next node) _ (by omega)
        intro visible child hchild
        by_cases hmem : child ∈ visible
        · rw [collect_of_mem fuel hmem]
          exact .of_mem hmem
        · exact .enter hmem (ih visible child hchild hmem)

/-- Collecting from a node yields what it reaches, each node once and the node
itself first. -/
theorem collect_reaches
    {sources : List α}
    (hsources : ∀ node, next node ≠ [] → node ∈ sources)
    {fuel : Nat}
    (hfuel : sources.length ≤ fuel)
    (root : α) :
    (collect next fuel [] root).Nodup ∧
      [root] <+: collect next fuel [] root ∧
      ∀ node, node ∈ collect next fuel [] root ↔ Reaches next root node := by
  have hunseen : unseen sources [] ≤ fuel :=
    Nat.le_trans (List.length_filter_le _ _) hfuel
  have henters := collect_enters hsources fuel [] root hunseen List.not_mem_nil
  have h := Extends.enter List.not_mem_nil henters
  refine ⟨h.nodup List.nodup_nil, henters.front, ?_⟩
  intro node
  constructor
  · intro hmem
    obtain ⟨found, hfound, hreach⟩ := h.reached node hmem List.not_mem_nil
    rwa [List.mem_singleton.mp hfound] at hreach
  · intro hreach
    exact hreach.mem_of_closed (fun other hother => h.closed other hother List.not_mem_nil)
      (h.found root List.mem_cons_self)

end Collect

section Cycle

variable {α : Type} [DecidableEq α] (next : α → List α)

inductive VisitState where
  | visiting
  | visited
deriving DecidableEq, Repr

/-- The marks of the nodes entered so far and the nodes the search is inside
of, outermost first. -/
structure Search (α : Type) where
  states : List (α × VisitState)
  stack : List α

namespace Search

def enter (search : Search α) (node : α) : Search α :=
  ⟨(node, .visiting) :: search.states, search.stack ++ [node]⟩

def leave (search : Search α) (node : α) : Search α :=
  ⟨(node, .visited) :: search.states, search.stack.dropLast⟩

def stateOf (search : Search α) (node : α) : Option VisitState :=
  search.states.lookup node

end Search

/-- The cycle that closes at a node the search is inside of. -/
def closing (search : Search α) (node : α) : Except (List α) (Search α) :=
  match search.stack.idxOf? node with
  | some start => .error (search.stack.drop start ++ [node])
  | none => .ok search

/-- Visits a node; the error is the cycle met. -/
def visit : Nat → Search α → α → Except (List α) (Search α)
  | fuel, search, node =>
      match search.stateOf node with
      | some .visited => .ok search
      | some .visiting => closing search node
      | none =>
          match fuel with
          | 0 => .ok ((search.enter node).leave node)
          | fuel + 1 =>
              ((next node).foldlM (visit fuel) (search.enter node)).map
                (fun inside => inside.leave node)

/-- The first cycle met from the roots in turn. -/
def findCycle (fuel : Nat) (roots : List α) : Option (List α) :=
  match roots.foldlM (visit next fuel) ⟨[], []⟩ with
  | .ok _ => none
  | .error cycle => some cycle

/-- A closed walk, written with its first node repeated at the end. -/
def IsCycle (cycle : List α) : Prop :=
  ∃ node inner, cycle = node :: inner ++ [node] ∧ cycle.IsChain (Edge next)

/-- What the marks and the stack say of the graph. -/
structure Sound (search : Search α) : Prop where
  visiting : ∀ node, search.stateOf node = some .visiting ↔ node ∈ search.stack
  chain : search.stack.IsChain (Edge next)
  closed : ∀ node, search.stateOf node = some .visited →
    ∀ other ∈ next node, search.stateOf other = some .visited
  acyclic : ∀ node, search.stateOf node = some .visited → ¬ Cyclic next node

/-- A visit ends where it began, with every root visited. -/
structure Visits (roots : List α) (before after : Search α) : Prop where
  sound : Sound next after
  stack : after.stack = before.stack
  kept : ∀ node state, before.stateOf node = some state → after.stateOf node = some state
  found : ∀ root ∈ roots, after.stateOf root = some .visited

/-- The node a search may visit next. -/
def Attached (search : Search α) (node : α) : Prop :=
  (search.stack ++ [node]).IsChain (Edge next)

/-- What a visit of some roots ends in. -/
structure Meets
    (roots : List α)
    (before : Search α)
    (result : Except (List α) (Search α)) : Prop where
  ok : ∀ after, result = .ok after → Visits next roots before after
  error : ∀ cycle, result = .error cycle → IsCycle next cycle

variable {next}

omit [DecidableEq α] in
/-- A chain of edges is a path. -/
theorem transGen_of_isChain
    {node last : α}
    (inner : List α)
    (h : (node :: inner ++ [last]).IsChain (Edge next)) :
    Relation.TransGen (Edge next) node last := by
  induction inner generalizing node with
  | nil =>
      rw [List.cons_append, List.isChain_cons] at h
      exact .single (h.1 last rfl)
  | cons first inner ih =>
      rw [List.cons_append, List.isChain_cons] at h
      exact .head (h.1 first rfl) (ih h.2)

omit [DecidableEq α] in
/-- A reported cycle is one. -/
theorem IsCycle.cyclic
    {cycle : List α}
    (h : IsCycle next cycle) :
    ∃ node, Cyclic next node := by
  obtain ⟨node, inner, rfl, hchain⟩ := h
  exact ⟨node, transGen_of_isChain inner hchain⟩

theorem stateOf_enter (search : Search α) (node other : α) :
    (search.enter node).stateOf other =
      if other = node then some .visiting else search.stateOf other := by
  by_cases h : other = node
  · simp [Search.stateOf, Search.enter, h]
  · have hbeq : (other == node) = false := beq_false_of_ne h
    simp [Search.stateOf, Search.enter, List.lookup_cons, hbeq, h]

theorem stateOf_leave (search : Search α) (node other : α) :
    (search.leave node).stateOf other =
      if other = node then some .visited else search.stateOf other := by
  by_cases h : other = node
  · simp [Search.stateOf, Search.leave, h]
  · have hbeq : (other == node) = false := beq_false_of_ne h
    simp [Search.stateOf, Search.leave, List.lookup_cons, hbeq, h]

/-- Entering a node keeps the search sound. -/
theorem Sound.enter
    {search : Search α}
    {node : α}
    (h : Sound next search)
    (hnew : search.stateOf node = none)
    (hattached : Attached next search node) :
    Sound next (search.enter node) where
  visiting := by
    intro other
    rw [stateOf_enter]
    by_cases heq : other = node
    · simp [heq, Search.enter]
    · rw [if_neg heq, h.visiting other]
      simp [Search.enter, heq]
  chain := hattached
  closed := by
    intro other hvisited successor hsuccessor
    rw [stateOf_enter] at hvisited ⊢
    split at hvisited
    · cases hvisited
    · have hresult := h.closed other hvisited successor hsuccessor
      have hne : successor ≠ node := by
        rintro rfl
        rw [hnew] at hresult
        cases hresult
      rw [if_neg hne]
      exact hresult
  acyclic := by
    intro other hvisited
    rw [stateOf_enter] at hvisited
    split at hvisited
    · cases hvisited
    · exact h.acyclic other hvisited

/-- A node whose successors are all visited is on no cycle: the visited nodes
are closed and it is not one of them. -/
theorem Sound.not_cyclic
    {inside : Search α}
    {node : α}
    (h : Sound next inside)
    (hnode : inside.stateOf node ≠ some .visited)
    (hnext : ∀ other ∈ next node, inside.stateOf other = some .visited) :
    ¬ Cyclic next node := by
  intro hcycle
  obtain ⟨first, hfirst, hreach⟩ := Relation.TransGen.head'_iff.mp hcycle
  exact hnode (Reaches.mem_of_closed h.closed hreach (hnext first hfirst))

/-- Leaving a node whose successors are visited keeps the search sound. -/
theorem Sound.leave
    {inside : Search α}
    {stack : List α}
    {node : α}
    (h : Sound next inside)
    (hstack : inside.stack = stack ++ [node])
    (hnew : node ∉ stack)
    (hnext : ∀ other ∈ next node, inside.stateOf other = some .visited) :
    Sound next (inside.leave node) where
  visiting := by
    intro other
    have hdrop : (inside.leave node).stack = stack := by
      simp [Search.leave, hstack]
    rw [stateOf_leave, hdrop]
    by_cases heq : other = node
    · rw [if_pos heq, heq]
      constructor
      · intro hstate
        cases hstate
      · intro hmem
        exact absurd hmem hnew
    · rw [if_neg heq, h.visiting other, hstack]
      simp [heq]
  chain := h.chain.dropLast
  closed := by
    intro other hvisited successor hsuccessor
    rw [stateOf_leave] at hvisited ⊢
    split
    · rfl
    · split at hvisited
      · rename_i heq
        rw [heq] at hsuccessor
        exact hnext successor hsuccessor
      · exact h.closed other hvisited successor hsuccessor
  acyclic := by
    intro other hvisited
    rw [stateOf_leave] at hvisited
    split at hvisited
    · rename_i heq
      rw [heq]
      apply h.not_cyclic _ hnext
      rw [(h.visiting node).mpr (by simp [hstack])]
      nofun
    · exact h.acyclic other hvisited

theorem Visits.nil
    {search : Search α}
    (h : Sound next search) :
    Visits next [] search search where
  sound := h
  stack := rfl
  kept := fun _ _ hstate => hstate
  found := fun _ hroot => absurd hroot List.not_mem_nil

/-- Roots are visited one after the other. -/
theorem Visits.cons
    {root : α}
    {roots : List α}
    {before middle after : Search α}
    (hfirst : Visits next [root] before middle)
    (hrest : Visits next roots middle after) :
    Visits next (root :: roots) before after where
  sound := hrest.sound
  stack := hrest.stack.trans hfirst.stack
  kept := fun node state hstate => hrest.kept node state (hfirst.kept node state hstate)
  found := by
    intro node hnode
    rcases List.mem_cons.mp hnode with rfl | hnode
    · exact hrest.kept node _ (hfirst.found node List.mem_cons_self)
    · exact hrest.found node hnode

/-- Leaving a node whose successors were visited inside of it. -/
theorem Visits.leave
    {search inside : Search α}
    {node : α}
    (h : Visits next (next node) (search.enter node) inside)
    (hsound : Sound next search)
    (hnew : search.stateOf node = none) :
    Visits next [node] search (inside.leave node) := by
  have hstack : inside.stack = search.stack ++ [node] := h.stack
  have hnotMem : node ∉ search.stack := by
    intro hmem
    rw [(hsound.visiting node).mpr hmem] at hnew
    cases hnew
  refine ⟨h.sound.leave hstack hnotMem h.found, ?_, ?_, ?_⟩
  · simp [Search.leave, hstack]
  · intro other state hstate
    have hne : other ≠ node := by
      rintro rfl
      rw [hnew] at hstate
      cases hstate
    rw [stateOf_leave, if_neg hne]
    apply h.kept
    rw [stateOf_enter, if_neg hne]
    exact hstate
  · intro root hroot
    rw [stateOf_leave, if_pos (List.mem_singleton.mp hroot)]

def marked (search : Search α) : List α :=
  search.states.map Prod.fst

theorem mem_marked
    (search : Search α)
    (node : α) :
    node ∈ marked search ↔ search.stateOf node ≠ none := by
  unfold marked Search.stateOf
  rw [Ne, List.lookup_eq_none_iff, List.mem_map]
  constructor
  · rintro ⟨entry, hentry, rfl⟩ hall
    exact absurd (hall entry hentry) (by simp)
  · intro hall
    by_contra hnone
    apply hall
    intro entry hentry
    rw [bne_iff_ne]
    rintro rfl
    exact hnone ⟨entry, hentry, rfl⟩

/-- A node met again inside of itself closes a cycle. -/
theorem isCycle_of_visiting
    {search : Search α}
    {node : α}
    {start : Nat}
    (hattached : Attached next search node)
    (hstart : search.stack.idxOf? node = some start) :
    IsCycle next (search.stack.drop start ++ [node]) := by
  obtain ⟨hlt, hget, -⟩ := List.idxOf?_eq_some_iff.mp hstart
  have hdrop : search.stack.drop start = node :: search.stack.drop (start + 1) := by
    rw [List.drop_eq_getElem_cons hlt, hget]
  refine ⟨node, search.stack.drop (start + 1), by rw [hdrop], ?_⟩
  have happend : search.stack ++ [node] =
      search.stack.take start ++ (search.stack.drop start ++ [node]) := by
    rw [← List.append_assoc, List.take_append_drop]
  rw [Attached, happend] at hattached
  exact hattached.right_of_append

/-- A visited node has nothing to report. -/
theorem meets_visited
    {search : Search α}
    {node : α}
    (hsound : Sound next search)
    (hstate : search.stateOf node = some .visited) :
    Meets next [node] search (.ok search) where
  ok := by
    intro after hafter
    cases hafter
    refine ⟨hsound, rfl, fun _ _ h => h, ?_⟩
    intro root hroot
    rwa [List.mem_singleton.mp hroot]
  error := fun _ hcycle => nomatch hcycle

/-- A node that is being visited closes a cycle. -/
theorem meets_closing
    {search : Search α}
    {node : α}
    (hsound : Sound next search)
    (hattached : Attached next search node)
    (hstate : search.stateOf node = some .visiting) :
    Meets next [node] search (closing search node) := by
  have hmem := (hsound.visiting node).mp hstate
  obtain ⟨start, hstart⟩ := Option.isSome_iff_exists.mp (List.isSome_idxOf?.mpr hmem)
  rw [closing, hstart]
  constructor
  · intro after hafter
    cases hafter
  · intro cycle hcycle
    cases hcycle
    exact isCycle_of_visiting hattached hstart

/-- A node is left once its successors are visited. -/
theorem meets_leave
    {search : Search α}
    {node : α}
    {result : Except (List α) (Search α)}
    (h : Meets next (next node) (search.enter node) result)
    (hsound : Sound next search)
    (hnew : search.stateOf node = none) :
    Meets next [node] search (result.map (fun inside => inside.leave node)) := by
  cases result with
  | error cycle =>
      constructor
      · intro after hafter
        cases hafter
      · intro found hfound
        cases hfound
        exact h.error cycle rfl
  | ok inside =>
      constructor
      · intro after hafter
        cases hafter
        exact (h.ok inside rfl).leave hsound hnew
      · intro found hfound
        cases hfound

theorem unseen_enter_lt
    {sources : List α}
    {search : Search α}
    {node : α}
    (hsource : node ∈ sources)
    (hnew : search.stateOf node = none) :
    unseen sources (marked (search.enter node)) < unseen sources (marked search) := by
  apply unseen_lt_of_subset hsource
  · rw [mem_marked]
    exact fun hne => hne hnew
  · exact List.mem_cons_self
  · exact fun other hother => List.mem_cons_of_mem _ hother

omit [DecidableEq α] in
/-- A successor of the node just entered may be visited next. -/
theorem Attached.concat
    {search : Search α}
    {node child : α}
    (h : Attached next search node)
    (hchild : child ∈ next node) :
    Attached next (search.enter node) child := by
  have hchain : (search.stack ++ [node]).IsChain (Edge next) := h
  refine List.isChain_append.mpr ⟨hchain, List.isChain_singleton child, ?_⟩
  intro last hlast first hfirst
  have hentered : (search.enter node).stack = search.stack ++ [node] := rfl
  rw [hentered, List.getLast?_append, List.getLast?_singleton] at hlast
  cases hlast
  cases hfirst
  exact hchild

/-- Visiting all roots, given the same of one. -/
theorem foldlM_visit_meets
    {fuel : Nat}
    {sources : List α}
    (hvisit : ∀ search node, Sound next search → Attached next search node →
      unseen sources (marked search) ≤ fuel →
      Meets next [node] search (visit next fuel search node))
    (roots : List α)
    {search : Search α}
    (hsound : Sound next search)
    (hattached : ∀ root ∈ roots, Attached next search root)
    (hfuel : unseen sources (marked search) ≤ fuel) :
    Meets next roots search (roots.foldlM (visit next fuel) search) := by
  induction roots generalizing search with
  | nil =>
      constructor
      · intro after hafter
        cases hafter
        exact .nil hsound
      · intro cycle hcycle
        cases hcycle
  | cons root roots ih =>
      have hfirst := hvisit search root hsound (hattached root List.mem_cons_self) hfuel
      rw [List.foldlM_cons]
      cases hroot : visit next fuel search root with
      | error cycle =>
          constructor
          · intro after hafter
            cases hafter
          · intro found hfound
            cases hfound
            exact hfirst.error cycle hroot
      | ok middle =>
          have hvisits := hfirst.ok middle hroot
          have hrest := @ih middle hvisits.sound
            (by
              intro other hother
              unfold Attached
              rw [hvisits.stack]
              exact hattached other (List.mem_cons_of_mem _ hother))
            (by
              refine Nat.le_trans (unseen_le_of_subset sources ?_) hfuel
              intro other hother
              rw [mem_marked] at hother ⊢
              obtain ⟨state, hstate⟩ := Option.ne_none_iff_exists'.mp hother
              rw [hvisits.kept other state hstate]
              nofun)
          constructor
          · intro after hafter
            exact hvisits.cons (hrest.ok after hafter)
          · exact hrest.error

/-- Enough fuel visits everything or reports a cycle. -/
theorem visit_meets
    {sources : List α}
    (hsources : ∀ node, next node ≠ [] → node ∈ sources)
    (fuel : Nat)
    (search : Search α)
    (node : α)
    (hsound : Sound next search)
    (hattached : Attached next search node)
    (hfuel : unseen sources (marked search) ≤ fuel) :
    Meets next [node] search (visit next fuel search node) := by
  induction fuel generalizing search node with
  | zero =>
      unfold visit
      cases hstate : search.stateOf node with
      | some state =>
          cases state with
          | visited => exact meets_visited hsound hstate
          | visiting => exact meets_closing hsound hattached hstate
      | none =>
          have hleaf : next node = [] := by
            by_contra hne
            have := unseen_enter_lt (hsources node hne) hstate
            omega
          have hinside : Meets next (next node) (search.enter node) (.ok (search.enter node)) := by
            rw [hleaf]
            refine ⟨?_, fun _ hcycle => nomatch hcycle⟩
            intro after hafter
            cases hafter
            exact .nil (hsound.enter hstate hattached)
          exact meets_leave hinside hsound hstate
  | succ fuel ih =>
      unfold visit
      cases hstate : search.stateOf node with
      | some state =>
          cases state with
          | visited => exact meets_visited hsound hstate
          | visiting => exact meets_closing hsound hattached hstate
      | none =>
          have hentered := hsound.enter hstate hattached
          by_cases hleaf : next node = []
          · refine meets_leave ?_ hsound hstate
            rw [hleaf]
            refine ⟨?_, fun _ hcycle => nomatch hcycle⟩
            intro after hafter
            cases hafter
            exact .nil hentered
          · have hless := unseen_enter_lt (hsources node hleaf) hstate
            refine meets_leave (foldlM_visit_meets ih (next node) hentered ?_ (by omega)) hsound
              hstate
            intro child hchild
            exact hattached.concat hchild

/-- A search that has not begun is sound. -/
theorem sound_empty : Sound next (⟨[], []⟩ : Search α) where
  visiting := fun _ => ⟨nofun, fun h => absurd h List.not_mem_nil⟩
  chain := .nil
  closed := fun _ h => nomatch h
  acyclic := fun _ h => nomatch h

/-- The search fails to find a cycle only where there is none. -/
theorem findCycle_spec
    {sources : List α}
    (hsources : ∀ node, next node ≠ [] → node ∈ sources)
    {fuel : Nat}
    (hfuel : sources.length ≤ fuel) :
    (∀ cycle, findCycle next fuel sources = some cycle → IsCycle next cycle) ∧
      (findCycle next fuel sources = none → ∀ node, ¬ Cyclic next node) := by
  have hunseen : unseen sources (marked (⟨[], []⟩ : Search α)) ≤ fuel :=
    Nat.le_trans (List.length_filter_le _ _) hfuel
  have hmeets := foldlM_visit_meets (visit_meets hsources fuel) sources sound_empty
    (fun root _ => List.isChain_singleton root) hunseen
  unfold findCycle
  cases hresult : sources.foldlM (visit next fuel) ⟨[], []⟩ with
  | error found =>
      refine ⟨?_, nofun⟩
      intro cycle hcycle
      cases hcycle
      exact hmeets.error found hresult
  | ok after =>
      refine ⟨nofun, ?_⟩
      intro _ node hcycle
      have hvisits := hmeets.ok after hresult
      -- a node on a cycle has a successor, so it is one of the roots
      obtain ⟨first, hfirst, -⟩ := Relation.TransGen.head'_iff.mp hcycle
      have hsource := hsources node (List.ne_nil_of_mem hfirst)
      exact hvisits.sound.acyclic node (hvisits.found node hsource) hcycle

end Cycle

end Traversal

end Dsql
