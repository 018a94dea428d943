import Dsql.Capabilities
import Dsql.Policy.Declarations
import Dsql.Logic.Fallible
import Dsql.Resolution
import Dsql.Types.Build

/-!
# Compiling policies

A filter is compiled once for every table its target matches.  An expression
that cannot be compiled gives nothing; most reasons also fail the whole target
for that table.
-/

namespace Dsql

/-- What compiling a rule collects. -/
structure PolicyCompilerState where
  context : List PolicyContextRequirement
  conditions : List PolicyIdentity
  problems : List (DiagnosticCode × String)
  failed : Bool

/-- Nothing has been collected. -/
def PolicyCompilerState.start : PolicyCompilerState :=
  ⟨[], [], [], false⟩

/-- A compilation that may fail; what it collected stays. -/
abbrev PolicyCompiler : Type → Type := EStateM Unit PolicyCompilerState

namespace PolicyCompiler

/-- Nothing to compile to, without failing the target. -/
def missing {α : Type} : PolicyCompiler α := throw ()

/-- Fails without a problem of its own. -/
def fail {α : Type} : PolicyCompiler α := fun state =>
  .error () { state with failed := true }

/-- Fails with a problem. -/
def report {α : Type} (code : DiagnosticCode) (message : String) :
    PolicyCompiler α := fun state =>
  .error ()
    { state with
      problems := state.problems ++ [(code, message)]
      failed := true }

/-- The result of a part that the whole goes on without. -/
def attempt {α : Type} (part : PolicyCompiler α) : PolicyCompiler (Option α) :=
  fun state =>
    match part state with
    | .ok result after => .ok (some result) after
    | .error _ after => .ok none after

theorem attempt_ok
    {α : Type}
    {part : PolicyCompiler α}
    {state after : PolicyCompilerState}
    {result : α}
    (h : attempt part state = .ok (some result) after) :
    part state = .ok result after := by
  unfold attempt at h
  split at h
  · rename_i found last hfound
    cases h
    exact hfound
  · cases h

end PolicyCompiler

open PolicyCompiler

/-- The tables of the rows that anchors refer to. -/
structure PolicyRowContext where
  root : TableId
  current : TableId
  parent : Option TableId
deriving DecidableEq, Repr

/-- The row that a rule is about. -/
def PolicyRowContext.ofRoot (table : TableId) : PolicyRowContext :=
  ⟨table, table, none⟩

/-- A row below the current one. -/
def PolicyRowContext.nested
    (row : PolicyRowContext)
    (table : TableId) : PolicyRowContext :=
  ⟨row.root, table, some row.current⟩

/-- The table of an anchor. -/
def PolicyRowContext.anchorTable
    (row : PolicyRowContext) : PathAnchor → Option TableId
  | .current => some row.current
  | .root => some row.root
  | .parent => row.parent

/-- The type that the other side of a comparison expects. -/
structure PolicyExpectedType where
  dataType : DataType
  wire : WireEncoding
  providerType : Option TypeKey
  closedValues : List String

/-- The expectation of a logical type. -/
def PolicyExpectedType.builtin (dataType : DataType) : PolicyExpectedType :=
  ⟨dataType, (builtinCapabilities dataType).wire, none, []⟩

/-- A path with its type and the relations before its last step. -/
structure CompiledPath where
  value : FilterExpr
  type : ResolvedValueType
  relationScope : FilterColumnScope
  relations : List ResolvedRelationStep

/-- The expectation of a path. -/
def PolicyExpectedType.fromPath (path : CompiledPath) : PolicyExpectedType :=
  { dataType := path.type.logical
    wire := path.type.capabilities.wire
    providerType := some path.type.key
    closedValues := path.type.enumVariants.getD [] }

/-- A filter is tested at the end of the relations of a path. -/
def wrapRelations
    (filter : FilterExpr) :
    FilterColumnScope → List ResolvedRelationStep → FilterExpr
  | _, [] => filter
  | scope, step :: rest =>
      .exists (some step.relation) step.table .relationshipPredicate scope
        none [] (some (wrapRelations filter .current rest))

/-- A filter on the row where the relations of a path end. -/
def CompiledPath.wrap (path : CompiledPath) (filter : FilterExpr) :
    FilterExpr :=
  wrapRelations filter path.relationScope path.relations

/-- The row of an anchor in a filter. -/
def PathAnchor.filterScope : PathAnchor → FilterColumnScope
  | .current => .current
  | .root => .root
  | .parent => .parent

/-- What an expression is compiled against: the catalog, the trusted context
it can read and the conditions it can reference. -/
structure PolicyEnvironment where
  catalog : Catalog
  contexts : List PolicyContextCandidate
  reference : String → Option PolicyRowContext → PolicyCompiler FilterExpr

namespace PolicyEnvironment

variable (environment : PolicyEnvironment)

/-- Resolves a path at its row. -/
def compilePath
    (row : Option PolicyRowContext)
    (path : ScopedPath) : PolicyCompiler CompiledPath :=
  match row.bind (fun row => row.anchorTable path.anchor) with
  | none => missing
  | some table =>
      match resolveSegments environment.catalog table [] path.segments with
      | ⟨relations, .column _ _ column (some valueType)⟩ =>
          pure
            { value :=
                .column
                  (if relations.isEmpty then path.anchor.filterScope
                  else .current) column
              type := valueType
              relationScope := path.anchor.filterScope
              relations := relations }
      | ⟨_, .column _ _ _ none⟩ => missing
      | _ => fail

/-- The relation and the table of an `exists`. -/
def compileExistsSource
    (row : PolicyRowContext) :
    ExistsSource → PolicyCompiler (Option RelationId × TableId)
  | .table name =>
      match environment.catalog.resolveTableRefFor name with
      | .found table => pure (none, table.id)
      | _ => fail
  | .relation ⟨.current, [segment]⟩ =>
      match environment.catalog.checkFieldRef row.current segment.reference with
      | .relation field => pure (some field.relation.id, field.table.id)
      | _ => fail
  | .relation _ => fail

/-- The first use of a trusted value is recorded. -/
def requireContext (requirement : PolicyContextRequirement) :
    PolicyCompiler Unit := fun state =>
  if state.context.any (fun known => known.path == requirement.path) then
    .ok () state
  else
    .ok () { state with context := state.context ++ [requirement] }

/-- A reference to the trusted context. -/
def compileContextValue
    (reference : VariableRef)
    (expected : PolicyExpectedType)
    (collection : Bool) : PolicyCompiler SqlParameter :=
  if reference.sigil ≠ .context then
    fail
  else
    match reference.name with
    | none => missing
    | some name =>
        match environment.contexts.filter (fun candidate =>
            candidate.name == name) with
        | [⟨_, _, some declared⟩] =>
            let required : ContextValueContract :=
              { dataType := expected.dataType
                wire := expected.wire
                providerType := expected.providerType
                collection := collection
                closedValues := expected.closedValues }
            match validateContextUse name declared required with
            | .error message => report .trustedContextTypeMismatch message
            | .ok _ => do
                requireContext
                  { path := ["context", name]
                    dataType := declared.dataType
                    wire := declared.wire
                    providerType := declared.providerType
                    collection := declared.collection }
                pure
                  { path := ["context", name]
                    textCast :=
                      if declared.wire = .textCast then declared.providerType
                      else none
                    collection := declared.collection }
        | _ => fail

/-- Whether a literal may stand where one of some closed values is expected. -/
def literalAllowed (closedValues : List String) : LiteralValue → Bool
  | .null => true
  | .string value => closedValues.contains value
  | .number _ | .bool _ => false

/-- A literal, checked against what is expected. -/
def compileLiteral
    (value : LiteralValue)
    (expected : Option PolicyExpectedType) : PolicyCompiler FilterExpr :=
  match expected with
  | none => pure (.literal (.ofLiteral value))
  | some expected =>
      if !expected.closedValues.isEmpty &&
          !literalAllowed expected.closedValues value then
        let identity :=
          match expected.providerType with
          | none => "closed value"
          | some key => key.schema ++ "." ++ key.name
        report .invalidPolicyDefinition
          ("expected a variant of `" ++ identity ++
            "`; allowed values are " ++
            String.intercalate ", "
              (expected.closedValues.map Text.debugText))
      else
        pure (.literal (.ofLiteral value))

/-- The operators that rules may use. -/
def compileOperator : BinaryOp → PolicyCompiler FilterOp
  | .comparison op => pure (.ofComparison op)
  | .and => pure .and
  | .or => pure .or
  | .isIn | .notIn | .variable _ => fail

mutual

/-- The filter of an expression. -/
def compileExpr
    (expr : Expr)
    (row : Option PolicyRowContext)
    (expected : Option PolicyExpectedType) : PolicyCompiler FilterExpr :=
  match expr with
  | .error | .aggregate .. | .dynamicPredicate .. | .list _ => fail
  | .predicateRef name => environment.reference name row
  | .variable reference => do
      let parameter ← environment.compileContextValue reference
        (expected.getD (.builtin .boolean)) false
      pure (.parameter parameter)
  | .path path => do
      let path ← environment.compilePath row path
      pure (path.wrap path.value)
  | .unary _ operand => do
      let operand ← compileExpr operand row (some (.builtin .boolean))
      pure (.not operand)
  | .nullTest (.path path) negated => do
      let path ← environment.compilePath row path
      pure (path.wrap (.nullTest path.value negated))
  | .nullTest operand negated => do
      let operand ← compileExpr operand row none
      pure (.nullTest operand negated)
  | .exists source _ predicate =>
      match row with
      | none => missing
      | some row => do
          let found ← environment.compileExistsSource row source
          let filter ← attempt (compileBody predicate (row.nested found.2))
          pure (.exists found.1 found.2 .explicit .current none []
            (filter.bind id))
  | .literal value => compileLiteral value expected
  | .binary .and lhs rhs => do
      let left ← compileExpr lhs row (some (.builtin .boolean))
      let right ← compileExpr rhs row (some (.builtin .boolean))
      pure (.binary left .and right)
  | .binary .or lhs rhs => do
      let left ← compileExpr lhs row (some (.builtin .boolean))
      let right ← compileExpr rhs row (some (.builtin .boolean))
      pure (.binary left .or right)
  | .binary .isIn (.path path) other => do
      let path ← environment.compilePath row path
      let collection ← compileCollection other row path
      pure (path.wrap (.membership path.value collection false))
  | .binary .notIn (.path path) other => do
      let path ← environment.compilePath row path
      let collection ← compileCollection other row path
      pure (path.wrap (.membership path.value collection true))
  | .binary .isIn _ (.path path) | .binary .notIn _ (.path path) => do
      let _ ← environment.compilePath row path
      fail
  | .binary op (.path path) other => do
      let path ← environment.compilePath row path
      let other ← compileExpr other row (some (.fromPath path))
      let op ← compileOperator op
      pure (path.wrap (.binary path.value op other))
  | .binary op other (.path path) => do
      let path ← environment.compilePath row path
      let other ← compileExpr other row (some (.fromPath path))
      let op ← compileOperator op
      pure (path.wrap (.binary other op path.value))
  | .binary op lhs rhs => do
      let left ← compileExpr lhs row none
      let op ← compileOperator op
      let right ← compileExpr rhs row none
      pure (.binary left op right)

/-- The right side of a membership test. -/
def compileCollection
    (other : Expr)
    (row : Option PolicyRowContext)
    (path : CompiledPath) : PolicyCompiler (FilterCollection FilterExpr) :=
  match other with
  | .list items => do
      let items ← compileItems items row (.fromPath path)
      pure (.list items)
  | .variable reference => do
      let parameter ← environment.compileContextValue reference
        (.fromPath path) true
      pure (.parameter parameter)
  | _ => fail

/-- The filters of the items of a list. -/
def compileItems
    (items : List Expr)
    (row : Option PolicyRowContext)
    (expected : PolicyExpectedType) : PolicyCompiler (List FilterExpr) :=
  match items with
  | [] => pure []
  | item :: items => do
      let first ← compileExpr item row (some expected)
      let rest ← compileItems items row expected
      pure (first :: rest)

/-- The filter of the body of an `exists`. -/
def compileBody
    (body : Option Expr)
    (row : PolicyRowContext) : PolicyCompiler (Option FilterExpr) :=
  match body with
  | none => pure none
  | some body => do
      let filter ← compileExpr body (some row) (some (.builtin .boolean))
      pure (some filter)

end

end PolicyEnvironment

/-- A field rule guards columns and relations by their names. -/
def compileField
    (catalog : Catalog)
    (table : TableId)
    (name : String) : PolicyCompiler PolicyFieldTarget :=
  match catalog.checkFieldRef table ⟨⟨none, name⟩, none⟩ with
  | .column column => pure (.column column.id)
  | .relation field => pure (.relation field.relation.id)
  | .notFound | .ambiguousRelation .. => fail

/-- Adds a condition that a rule refers to. -/
def recordCondition (identity : PolicyIdentity) : PolicyCompiler Unit :=
  fun state =>
    .ok ()
      (if state.conditions.contains identity then state
      else { state with conditions := state.conditions ++ [identity] })

namespace PolicyProject

variable (project : PolicyProject)

/-- A reference to a condition compiles its rule with the trusted context the
condition can read.  `depth` bounds chains of references: a chain longer than
the number of declarations repeats one and would not end. -/
def compileReference
    (site : PolicySite) :
    Nat → String → Option PolicyRowContext → PolicyCompiler FilterExpr
  | 0, _, _ => fail
  | depth + 1, name, row =>
      match project.conditionsNamed site name with
      | [condition] => do
          recordCondition
            ⟨condition.scope, condition.declaration.name⟩
          match condition.declaration.rowRules.head? with
          | none => fail
          | some rule =>
              PolicyEnvironment.compileExpr
                { catalog := project.catalog
                  contexts := project.contextCandidates condition
                  reference := compileReference site depth }
                rule row (some (.builtin .boolean))
      | _ => fail

/-- What the rules of a declaration refer to. -/
def environment (site : PolicySite) : PolicyEnvironment :=
  { catalog := project.catalog
    contexts := project.contextCandidates site
    reference := project.compileReference site (project.sites.length + 1) }

/-- A rule of a filter over one table; it is a predicate. -/
def compileRule
    (site : PolicySite)
    (table : TableId)
    (rule : Expr) : PolicyCompiler FilterExpr :=
  (project.environment site).compileExpr rule (some (.ofRoot table))
    (some (.builtin .boolean))

/-- The filter of a rule that may be missing. -/
def compileOptionalRule
    (site : PolicySite)
    (table : TableId) : Option Expr → PolicyCompiler (Option FilterExpr)
  | none => pure none
  | some rule => attempt (project.compileRule site table rule)

/-- The rules of fields, one by one. -/
def compileFieldRules
    (site : PolicySite)
    (table : TableId) :
    List PolicyFieldRule → PolicyCompiler (List CompiledPolicyFieldRule)
  | [] => pure []
  | rule :: rules => do
      let condition ← attempt (project.compileRule site table rule.condition)
      let fields ← attempt
        (rule.fields.mapM (compileField project.catalog table))
      let rest ← compileFieldRules site table rules
      match condition, fields with
      | some condition, some fields => pure (⟨fields, condition⟩ :: rest)
      | _, _ => pure rest

/-- A declaration at one of its tables. -/
def compileTarget
    (site : PolicySite)
    (table : TableId) : PolicyCompiler CompiledPolicyTarget := do
  let enforcement ← project.compileOptionalRule site table
    site.declaration.applyCondition
  let rowRule ← project.compileOptionalRule site table
    site.declaration.rowRules.head?
  let fieldRules ← project.compileFieldRules site table
    site.declaration.fieldRules
  let state ← get
  pure
    { table := table
      enforcement := enforcement
      rowRule := rowRule
      fieldRules := fieldRules
      context := state.context.insertionSort
        (fun left right => pathText left.path ≤ pathText right.path) }

/-- The compiled target of a table with what the compilation recorded, unless
it failed. -/
def compiledTarget
    (site : PolicySite)
    (table : TableId) :
    Option (CompiledPolicyTarget × PolicyCompilerState) :=
  match project.compileTarget site table .start with
  | .ok target state => if state.failed then none else some (target, state)
  | .error _ _ => none

/-- The problems of a declaration at all its tables. -/
def compileProblems (site : PolicySite) : List (DiagnosticCode × String) :=
  (project.entry site).matchedTables.flatMap (fun table =>
    match project.compileTarget site table .start with
    | .ok _ state => state.problems
    | .error _ state => state.problems)

/-- The order of policies, by scope and name. -/
def identityLe (left right : PolicyIdentity) : Prop :=
  left.scope < right.scope ∨
    (left.scope = right.scope ∧ left.name ≤ right.name)

instance : DecidableRel identityLe := fun left right => by
  unfold identityLe
  infer_instance

/-- A filter compiled for every table it matches. -/
def compilePolicy (site : PolicySite) : CompiledPolicyEntry :=
  let compiled :=
    (project.entry site).matchedTables.filterMap (project.compiledTarget site)
  { entity := site.entity
    identity := ⟨site.scope, site.declaration.name⟩
    defaultActive := (project.entry site).defaultActive
    conditions :=
      ((compiled.flatMap (fun target => target.2.conditions)).dedup).insertionSort
        identityLe
    targets := compiled.map Prod.fst }

end PolicyProject

end Dsql
