import Dsql.Diagnostics
import Dsql.Plan.SourcePolicies
import Dsql.Types.Capabilities

/-!
# Policy declarations

Filters and conditions as they are written, the tables a target matches, and
what a declaration can see of the others: conditions by the names it
references and trusted context by the names it reads.
-/

namespace Dsql

/-- The name of a kind in messages. -/
def PolicyKind.display : PolicyKind → String
  | .filter => "filter"
  | .condition => "condition"

/-- One `.field: logical_type` requirement of a structural target. -/
structure ShapeField where
  name : String
  typeName : String
deriving DecidableEq, Repr

/-- A table, or the shape of tables. -/
inductive PolicyTargetSyntax where
  | concrete (name : TableRef)
  | shape (fields : List ShapeField)
deriving DecidableEq, Repr

/-- A bare `apply` has no condition; a filter without one is manual. -/
structure ApplyRule where
  condition : Option Expr

/-- A condition on fields. -/
structure PolicyFieldRule where
  fields : List String
  condition : Expr

/-- A policy as it is declared. -/
structure PolicyDecl where
  kind : PolicyKind
  name : String
  target : Option PolicyTargetSyntax
  apply : Option ApplyRule
  applyCount : Nat
  rowRules : List Expr
  fieldRules : List PolicyFieldRule

/-- The condition under which the filter is enforced. -/
def PolicyDecl.applyCondition (declaration : PolicyDecl) : Option Expr :=
  declaration.apply.bind ApplyRule.condition

/-- The expressions of a declaration in the order they are read. -/
def PolicyDecl.expressions (declaration : PolicyDecl) : List Expr :=
  declaration.applyCondition.toList ++ declaration.rowRules ++
    declaration.fieldRules.map PolicyFieldRule.condition

/-! ## Targets -/

/-- What can be wrong with a target. -/
inductive PolicyTargetProblem where
  | missing
  | emptyShape
  | unknownType (name : String)
  | duplicateShapeField (name : String)
  | tableNotFound (reference : String)
  | ambiguousTable (reference : String) (candidates : List String)
deriving DecidableEq, Repr

/-- The tables and structural fields that a target denotes. -/
structure ResolvedPolicyTarget where
  tables : List TableId
  fields : List (String × DataType)
  problem : Option PolicyTargetProblem
deriving DecidableEq, Repr

/-- The logical type that a name stands for. -/
def resolveLogicalTypeName (name : String) : Option DataType :=
  ((Types.allDataTypes.map Types.builtinDefinition).find? (fun definition =>
    definition.aliases.contains name)).map
      Types.BuiltinTypeDefinition.dataType

/-- The fields of a shape, up to the first problem. -/
def resolveShapeFields
    (resolved : List (String × DataType)) :
    List ShapeField →
      Except (List (String × DataType) × PolicyTargetProblem)
        (List (String × DataType))
  | [] => .ok resolved
  | field :: rest =>
      if resolved.any (fun known => known.1 == field.name) then
        .error (resolved, .duplicateShapeField field.name)
      else
        match resolveLogicalTypeName field.typeName with
        | none => .error (resolved, .unknownType field.typeName)
        | some dataType =>
            resolveShapeFields (resolved ++ [(field.name, dataType)]) rest

/-- The tables that have all fields of a shape. -/
def resolveShapeTarget
    (catalog : Catalog)
    (fields : List ShapeField) : ResolvedPolicyTarget :=
  if fields.isEmpty then
    ⟨[], [], some .emptyShape⟩
  else
    match resolveShapeFields [] fields with
    | .error (resolved, problem) => ⟨[], resolved, some problem⟩
    | .ok resolved =>
        let tables := catalog.tables.filter (fun table =>
          resolved.all (fun field =>
            (catalog.columnsForTable table.id).any (fun column =>
              column.name == field.1 &&
                column.type.logicalDataType == field.2)))
        ⟨tables.map Table.id, resolved, none⟩

/-- A table as messages show it. -/
def tableKeyText (key : TableKey) : String :=
  key.schema ++ "::" ++ key.table

/-- The tables of a target. -/
def resolveTarget
    (catalog : Catalog)
    (declaration : PolicyDecl) : ResolvedPolicyTarget :=
  match declaration.target with
  | none =>
      ⟨[], [],
        if declaration.kind = .condition then none else some .missing⟩
  | some (.concrete name) =>
      match catalog.resolveTableRefFor name with
      | .found table => ⟨[table.id], [], none⟩
      | .notFound reference => ⟨[], [], some (.tableNotFound reference)⟩
      | .ambiguous reference candidates =>
          ⟨[], [],
            some (.ambiguousTable reference (candidates.map tableKeyText))⟩
  | some (.shape fields) => resolveShapeTarget catalog fields

/-! ## Names in an expression -/

mutual

/-- The condition names and the filter names that an expression references. -/
def exprPolicyReferences : Expr → List (PolicyKind × String)
  | .binary _ lhs rhs => exprPolicyReferences lhs ++ exprPolicyReferences rhs
  | .unary _ operand | .nullTest operand _ => exprPolicyReferences operand
  | .list items => exprsPolicyReferences items
  | .exists _ filters predicate =>
      assignmentsPolicyReferences filters ++ bodyPolicyReferences predicate
  | .predicateRef name => [(.condition, name)]
  | .literal _ | .path _ | .variable _ | .dynamicPredicate .. |
    .aggregate .. | .error => []

/-- The policies that expressions refer to. -/
def exprsPolicyReferences : List Expr → List (PolicyKind × String)
  | [] => []
  | item :: items => exprPolicyReferences item ++ exprsPolicyReferences items

/-- The policies that assignments refer to. -/
def assignmentsPolicyReferences :
    List (FilterAssignmentExpr Expr) → List (PolicyKind × String)
  | [] => []
  | ⟨name, condition⟩ :: rest =>
      (.filter, name) :: bodyPolicyReferences condition ++
        assignmentsPolicyReferences rest

/-- The policies that a body refers to. -/
def bodyPolicyReferences : Option Expr → List (PolicyKind × String)
  | none => []
  | some body => exprPolicyReferences body

end

mutual

/-- The trusted context that an expression reads. -/
def exprContextNames : Expr → List String
  | .variable reference =>
      if reference.sigil = .context then reference.name.toList else []
  | .binary _ lhs rhs => exprContextNames lhs ++ exprContextNames rhs
  | .unary _ operand | .nullTest operand _ => exprContextNames operand
  | .list items => exprsContextNames items
  | .exists _ filters predicate =>
      assignmentsContextNames filters ++ bodyContextNames predicate
  | .predicateRef _ | .literal _ | .path _ | .dynamicPredicate .. |
    .aggregate .. | .error => []

/-- The context that expressions refer to. -/
def exprsContextNames : List Expr → List String
  | [] => []
  | item :: items => exprContextNames item ++ exprsContextNames items

/-- The context that assignments refer to. -/
def assignmentsContextNames :
    List (FilterAssignmentExpr Expr) → List String
  | [] => []
  | ⟨_, condition⟩ :: rest =>
      bodyContextNames condition ++ assignmentsContextNames rest

/-- The context that a body refers to. -/
def bodyContextNames : Option Expr → List String
  | none => []
  | some body => exprContextNames body

end

/-- The policies that a declaration refers to. -/
def declarationReferences
    (declaration : PolicyDecl) : List (PolicyKind × String) :=
  declaration.expressions.flatMap exprPolicyReferences

/-- The context that a declaration refers to. -/
def declarationContextNames (declaration : PolicyDecl) : List String :=
  declaration.expressions.flatMap exprContextNames

/-- The filters a clause names. -/
def clauseFilterReferences (clause : ClauseFact) : List String :=
  let references :=
    match clause with
    | .filterAssignment assignment => assignmentsPolicyReferences [assignment]
    | .where_ expr | .limit expr | .offset expr => exprPolicyReferences expr
    | .orderBy _ => []
  (references.filter (fun reference => reference.1 == .filter)).map Prod.snd

/-! ## The declarations of a project -/

/-- One declaration with its identity and place. -/
structure PolicySite where
  entity : PolicyEntity
  scope : String
  /-- Declared in a source file of another language. -/
  embedded : Bool
  declaration : PolicyDecl

/-- A trusted-context declaration; its contract is missing when the declared
type is not known. -/
structure PolicyContextCandidate where
  name : String
  providerScope : String
  contract : Option ContextValueContract

/-- The declarations of a project in index order: by scope, kind and name,
then by position. -/
structure PolicyProject where
  catalog : Catalog
  imports : ScopeImports
  contexts : List PolicyContextCandidate
  sites : List PolicySite
  entities_nodup : (sites.map PolicySite.entity).Nodup

/-- The index entry of a declaration. -/
def resolveEntry (catalog : Catalog) (site : PolicySite) : PolicyEntry :=
  { entity := site.entity
    scope := site.scope
    kind := site.declaration.kind
    name := site.declaration.name
    matchedTables := (resolveTarget catalog site.declaration).tables
    defaultActive := site.declaration.apply.isSome
    alwaysEnforced :=
      match site.declaration.applyCondition with
      | some (.literal (.bool true)) => true
      | _ => false }

namespace PolicyProject

variable (project : PolicyProject)

/-- The index entry of a declaration of the project. -/
def entry (site : PolicySite) : PolicyEntry :=
  resolveEntry project.catalog site

/-- The declarations a site sees of those it names; its own name is one. -/
def visibleCandidates (site : PolicySite) : List PolicySite :=
  let names :=
    (site.declaration.kind, site.declaration.name) ::
      declarationReferences site.declaration
  project.sites.filter (fun provider =>
    names.contains (provider.declaration.kind, provider.declaration.name) &&
      (project.imports.visibleFrom site.scope).contains provider.scope)

/-- The trusted context a site sees of what it reads. -/
def contextCandidates (site : PolicySite) : List PolicyContextCandidate :=
  project.contexts.filter (fun candidate =>
    (declarationContextNames site.declaration).contains candidate.name &&
      (project.imports.visibleFrom site.scope).contains
        candidate.providerScope)

/-- The visible conditions of a name. -/
def conditionsNamed (site : PolicySite) (name : String) : List PolicySite :=
  (project.visibleCandidates site).filter (fun candidate =>
    candidate.declaration.kind == .condition &&
      candidate.declaration.name == name)

/-- Visible declarations are declared. -/
theorem mem_visibleCandidates
    {site provider : PolicySite}
    (h : provider ∈ project.visibleCandidates site) :
    provider ∈ project.sites :=
  List.mem_of_mem_filter h

/-- A condition found by name is a declared condition. -/
theorem mem_conditionsNamed
    {site condition : PolicySite}
    {name : String}
    (h : condition ∈ project.conditionsNamed site name) :
    condition ∈ project.sites ∧ condition.declaration.kind = .condition := by
  obtain ⟨hvisible, hnamed⟩ := List.mem_filter.mp h
  refine ⟨project.mem_visibleCandidates hvisible, ?_⟩
  exact eq_of_beq (Bool.and_eq_true_iff.mp hnamed).1

end PolicyProject

end Dsql
