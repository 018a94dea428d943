import Dsql.Scopes.Resolution
import Mathlib.Tactic

/-!
# Fragment expansion

Every definition is expanded through its resolved spreads, one fragment deeper
each round.  A spread whose fragment name already stands on the path is cut
and kept as a cycle.
-/

namespace Dsql.Scopes

/-- One spread step; the spread stands for its resolution. -/
structure ExpansionStep where
  resolution : Nat
  fragment : String
deriving DecidableEq, Repr

/-- The parent is named by its path, which tells the occurrences of one root
apart. -/
structure ExpansionOccurrence where
  rootGroup : Nat
  targetGroup : Nat
  parent : Option (List ExpansionStep)
  incomingSpread : Nat
  rootKind : DefKind
  path : List ExpansionStep
  visited : List String
deriving DecidableEq, Repr

structure ExpansionCycle where
  rootGroup : Nat
  rootKind : DefKind
  parent : Option (List ExpansionStep)
  closingSpread : Nat
  file : String
  name : String
  nameSpan : NameSpan
  path : List ExpansionStep
deriving DecidableEq, Repr

/-- What following one spread yields. -/
inductive Expansion where
  | occurrence (found : ExpansionOccurrence)
  | cycle (cut : ExpansionCycle)
deriving DecidableEq, Repr

/-- `SpreadDependencies`: the resolved spreads of a definition's group with the
groups they use. -/
def dependencies (program : Program) (group : Nat) : List (Spread × Nat) :=
  (program.spreads.filter (fun spread => spread.owner == group)).filterMap (fun spread =>
    match resolveSpread program spread with
    | .resolved target => some (spread, target.definitionKey)
    | .missing => none
    | .nonUnique _ => none)

def Spread.step (spread : Spread) : ExpansionStep :=
  ⟨spread.entity, spread.name⟩

def initiallyVisited (definition : Definition) : List String :=
  if definition.kind = .fragment then [definition.name] else []

/-- The loop body of `seed_expansion_occurrences`. -/
def seedSpread (definition : Definition) (dependency : Spread × Nat) : Expansion :=
  let spread := dependency.1
  let visited := initiallyVisited definition
  let path := [spread.step]
  if visited.any (fun name => name == spread.name) then
    .cycle {
      rootGroup := definition.entity
      rootKind := definition.kind
      parent := none
      closingSpread := spread.entity
      file := spread.path
      name := spread.name
      nameSpan := spread.nameSpan
      path }
  else
    .occurrence {
      rootGroup := definition.entity
      targetGroup := dependency.2
      parent := none
      incomingSpread := spread.entity
      rootKind := definition.kind
      path
      visited := visited ++ [spread.name] }

/-- `seed_expansion_occurrences`. -/
def seedExpansionOccurrences (program : Program) (definition : Definition) : List Expansion :=
  (dependencies program definition.entity).map (seedSpread definition)

/-- The loop body of `extend_expansion_occurrences`. -/
def extendSpread (occurrence : ExpansionOccurrence) (dependency : Spread × Nat) : Expansion :=
  let spread := dependency.1
  let path := occurrence.path ++ [spread.step]
  if occurrence.visited.any (fun name => name == spread.name) then
    .cycle {
      rootGroup := occurrence.rootGroup
      rootKind := occurrence.rootKind
      parent := some occurrence.path
      closingSpread := spread.entity
      file := spread.path
      name := spread.name
      nameSpan := spread.nameSpan
      path }
  else
    .occurrence {
      rootGroup := occurrence.rootGroup
      targetGroup := dependency.2
      parent := some occurrence.path
      incomingSpread := spread.entity
      rootKind := occurrence.rootKind
      path
      visited := occurrence.visited ++ [spread.name] }

/-- `extend_expansion_occurrences`. -/
def extendExpansionOccurrences
    (program : Program)
    (occurrence : ExpansionOccurrence) :
    List Expansion :=
  (dependencies program occurrence.targetGroup).map (extendSpread occurrence)

def Expansion.extend (program : Program) : Expansion → List Expansion
  | .occurrence found => extendExpansionOccurrences program found
  | .cycle _ => []

/-- What each round of the engine adds for one root. -/
def expansionRound (program : Program) (root : Definition) : Nat → List Expansion
  | 0 => seedExpansionOccurrences program root
  | round + 1 => (expansionRound program root round).flatMap (Expansion.extend program)

/-- All rounds up to the one that adds nothing. -/
def expand (program : Program) (root : Definition) : List Expansion :=
  (List.range (program.definitions.length + 1)).flatMap (expansionRound program root)

def Expansion.path : Expansion → List ExpansionStep
  | .occurrence found => found.path
  | .cycle cut => cut.path

def Expansion.asCycle : Expansion → Option ExpansionCycle
  | .occurrence _ => none
  | .cycle cut => some cut

/-! ## Cycle reports -/

/-- The cycles of all roots that close at one spread. -/
def closingCycles (program : Program) (spread : Spread) : List ExpansionCycle :=
  ((program.definitions.flatMap (expand program)).filterMap Expansion.asCycle).filter
    (fun cycle => cycle.closingSpread == spread.entity)

/-- `cycle_semantic_key`. -/
def cycleSemanticKey (cycle : ExpansionCycle) : Nat ×ₗ List String :=
  toLex (cycle.path.length, cycle.path.map ExpansionStep.fragment)

def moreSemantic (current : Option ExpansionCycle) (cycle : ExpansionCycle) :
    Option ExpansionCycle :=
  if cycle.rootKind ≠ .fragment then
    current
  else
    match current with
    | none => some cycle
    | some chosen =>
        if cycleSemanticKey cycle < cycleSemanticKey chosen then some cycle else some chosen

/-- `check_expansion_cycles`, at one spread's site. -/
def checkExpansionCycles (program : Program) (spread : Spread) : Option Report :=
  ((closingCycles program spread).foldl moreSemantic none).map (fun cycle =>
    { path := cycle.file
      span := cycle.nameSpan
      severity := .error
      code := .circularFragmentSpread
      message := "fragment `" ++ cycle.name ++ "` recursively spreads itself" })

end Dsql.Scopes
