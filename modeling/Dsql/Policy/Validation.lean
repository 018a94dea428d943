import Dsql.Policy.Compile

/-!
# Checking policy declarations

What the checks report about a filter or a condition.  The condition of an
`apply` may depend on trusted context only; a rule may read rows of the target.
-/

namespace Dsql

/-- Whether a declaration has a structural target. -/
def PolicyDecl.hasShapeTarget (declaration : PolicyDecl) : Bool :=
  match declaration.target with
  | some (.shape _) => true
  | _ => false

/-- The form of an expression is boolean. -/
def exprIsBoolean : Expr → Bool
  | .binary .. | .unary .. | .nullTest .. | .exists .. | .predicateRef _ |
    .variable _ | .dynamicPredicate .. | .literal (.bool _) => true
  | .aggregate _ function _ => function == "exists"
  | .list _ | .literal _ | .path _ | .error => false

/-- A rule has to be boolean. -/
def validateBooleanRule (expr : Expr) : List String :=
  if exprIsBoolean expr then []
  else ["filter and condition rules must be boolean predicates"]

/-- The row of an anchor has to exist. -/
def anchorTableProblems
    (row : PolicyRowContext)
    (anchor : PathAnchor) : List String :=
  if (row.anchorTable anchor).isSome then []
  else ["this policy expression has no parent row"]

/-- The relations of a path, then the column it ends at. -/
def validateSegments
    (catalog : Catalog)
    (table : TableId) : List PathSegment → List String
  | [] => []
  | segment :: rest =>
      match catalog.checkFieldRef table segment.reference, rest with
      | .column column, [] =>
          if column.type.capabilities.wire = .unsupported then
            ["database type `" ++ column.type.readableType ++
              "` cannot be used as an input"]
          else
            []
      | .relation field, next :: others =>
          validateSegments catalog field.table.id (next :: others)
      | .ambiguousRelation reference candidates, _ =>
          ["relation `" ++ reference ++ "` is ambiguous; use one of: " ++
            String.intercalate ", " candidates]
      | _, _ =>
          ["field path `" ++ segment.name.displayText ++
            "` not found on table `" ++
            ((catalog.tableById table).map Table.name).getD "<unknown>" ++ "`"]

namespace PolicyProject

variable (project : PolicyProject)

/-- The problems of a path. -/
def validatePath
    (site : PolicySite)
    (row : Option PolicyRowContext)
    (path : ScopedPath) : List String :=
  match path.segments with
  | [] => []
  | first :: _ =>
      if site.declaration.hasShapeTarget then
        if path.anchor ≠ .current ∨ path.segments.length ≠ 1 ∨
            first.relationPath.isSome = true then
          ["relationship and correlated paths require a concrete policy target"]
        else if (resolveTarget project.catalog site.declaration).fields.any
            (fun field => field.1 == first.name.displayText) then
          []
        else
          ["field `" ++ first.name.displayText ++
            "` must be declared in the structural target"]
      else
        match row with
        | none => ["row paths require an `on` target"]
        | some row =>
            match row.anchorTable path.anchor with
            | none => anchorTableProblems row path.anchor
            | some table =>
                validateSegments project.catalog table path.segments

/-- The problems of a reference to a condition. -/
def validateCondition
    (site : PolicySite)
    (name : String)
    (contextOnly : Bool) : List String :=
  if site.declaration.kind = .condition then
    ["conditions cannot reference other conditions"]
  else
    match project.conditionsNamed site name with
    | [] => ["condition `" ++ name ++ "` not found"]
    | [condition] =>
        let required := (project.entry condition).matchedTables
        (if contextOnly && condition.declaration.target.isSome then
          ["condition `" ++ name ++
            "` has a row target and cannot be used by `apply where`"]
        else
          []) ++
          (if !contextOnly && !required.isEmpty &&
              (project.entry site).matchedTables.any (fun table =>
                !required.contains table) then
            ["filter target does not satisfy condition `" ++ name ++
              "` target"]
          else
            [])
    | _ => ["condition `" ++ name ++ "` is ambiguous"]

/-- What is reported of an `exists` source, and the row its body reads. -/
def validateExistsSource
    (site : PolicySite)
    (contextOnly : Bool)
    (row : Option PolicyRowContext)
    (source : ExistsSource) : List String × Option PolicyRowContext :=
  if contextOnly then
    (["`apply where` cannot traverse rows or tables"], none)
  else
    match row with
    | none => (["table traversal requires an `on` target"], none)
    | some row =>
        if site.declaration.hasShapeTarget then
          (["relationship and table traversal require a concrete policy target"],
            none)
        else
          match source with
          | .relation ⟨.current, [segment]⟩ =>
              match project.catalog.checkFieldRef row.current
                  segment.reference with
              | .relation field =>
                  (if field.relation.cardinality = .collection then []
                  else ["`exists` relation source must be a collection"],
                    some (row.nested field.table.id))
              | .ambiguousRelation reference candidates =>
                  (["relation `" ++ reference ++
                    "` is ambiguous; use one of: " ++
                    String.intercalate ", " candidates], none)
              | .column _ | .notFound =>
                  (["`exists` relation source must be a collection"], none)
          | .relation _ =>
              (["`exists` relation source must be one direct collection relation"],
                none)
          | .table name =>
              match project.catalog.resolveTableRefFor name with
              | .found table => ([], some (row.nested table.id))
              | .notFound reference =>
                  (["table `" ++ reference ++ "` not found"], none)
              | .ambiguous reference candidates =>
                  (["table `" ++ reference ++
                    "` is ambiguous; use one of: " ++
                    String.intercalate ", " (candidates.map tableKeyText)],
                    none)

mutual

/-- The problems of an expression of a rule. -/
def validateExpr
    (site : PolicySite)
    (expr : Expr)
    (contextOnly : Bool)
    (row : Option PolicyRowContext) : List String :=
  match expr with
  | .variable reference =>
      if reference.sigil = .context then
        []
      else
        [site.declaration.kind.display ++
          " rules may use trusted `$:` context but not public or build variables"]
  | .dynamicPredicate .. =>
      ["bounded dynamic inputs are only supported in query definitions"]
  | .path path =>
      if contextOnly then
        ["`apply where` must depend only on trusted context"]
      else
        project.validatePath site row path
  | .predicateRef name => project.validateCondition site name contextOnly
  | .binary _ lhs rhs =>
      validateExpr site lhs contextOnly row ++
        validateExpr site rhs contextOnly row
  | .unary _ operand | .nullTest operand _ =>
      validateExpr site operand contextOnly row
  | .list items => validateItems site items contextOnly row
  | .exists source filters predicate =>
      let found := project.validateExistsSource site contextOnly row source
      filters.map (fun _ =>
        "filter-authored `exists` sources cannot assign query filters") ++
        found.1 ++ validateBody site predicate contextOnly found.2
  | .aggregate .. =>
      ["aggregate expressions are not supported in filter definitions yet"]
  | .literal _ | .error => []

/-- The problems of the items of a list. -/
def validateItems
    (site : PolicySite)
    (items : List Expr)
    (contextOnly : Bool)
    (row : Option PolicyRowContext) : List String :=
  match items with
  | [] => []
  | item :: items =>
      validateExpr site item contextOnly row ++
        validateItems site items contextOnly row

/-- The body of an `exists` whose source is known. -/
def validateBody
    (site : PolicySite)
    (body : Option Expr)
    (contextOnly : Bool)
    (row : Option PolicyRowContext) : List String :=
  match body with
  | none => []
  | some body =>
      if row.isSome then validateExpr site body contextOnly row else []

end

/-- The problems of a target. -/
def targetProblems (site : PolicySite) : List String :=
  match (resolveTarget project.catalog site.declaration).problem with
  | none => []
  | some .missing =>
      ["filter `" ++ site.declaration.name ++ "` must declare an `on` target"]
  | some .emptyShape =>
      ["structural targets must declare at least one field"]
  | some (.unknownType name) =>
      ["unknown logical type `" ++ name ++ "` in policy target"]
  | some (.duplicateShapeField name) =>
      ["duplicate field `" ++ name ++ "` in policy target"]
  | some (.tableNotFound reference) =>
      ["table `" ++ reference ++ "` not found"]
  | some (.ambiguousTable reference candidates) =>
      ["table `" ++ reference ++ "` is ambiguous; use one of: " ++
        String.intercalate ", " candidates]

/-- A guarded field has to be a field of the target. -/
def validateDeclaredField
    (site : PolicySite)
    (field : String) : List String :=
  let target := resolveTarget project.catalog site.declaration
  if site.declaration.hasShapeTarget then
    if target.fields.any (fun known => known.1 == field) then []
    else ["field `" ++ field ++ "` must be declared in the structural target"]
  else
    target.tables.flatMap (fun table =>
      if (project.catalog.columnsForTable table).any (fun column =>
            column.name == field) ||
          (project.catalog.relationFieldsForTable table).any (fun relation =>
            relation.relation.name == field) then
        []
      else
        ["field `" ++ field ++ "` not found on policy target"])

/-- Several declarations of its kind and name are reported at each of them
that sees the others. -/
def nameProblems (site : PolicySite) : List String :=
  if 1 < ((project.visibleCandidates site).filter (fun candidate =>
        candidate.declaration.kind == site.declaration.kind &&
          candidate.declaration.name == site.declaration.name)).length then
    [site.declaration.kind.display ++ " `" ++ site.declaration.name ++
      "` is ambiguous in scope `" ++ site.scope ++ "`"]
  else
    []

/-- The messages about how a declaration is put together. -/
def declarationProblems (site : PolicySite) : List String :=
  let declaration := site.declaration
  let kind := declaration.kind.display
  let target := resolveTarget project.catalog declaration
  (if site.embedded then
    [kind ++ " definitions must live in standalone dsql files"]
  else
    []) ++
    project.targetProblems site ++
    (if declaration.target.isSome && target.problem.isNone &&
        target.tables.isEmpty then
      [kind ++ " `" ++ declaration.name ++ "` matches no catalog table"]
    else
      []) ++
    (if declaration.kind = .filter ∧ declaration.rowRules.isEmpty = true ∧
        declaration.fieldRules.isEmpty = true then
      ["filter `" ++ declaration.name ++ "` must contain a row or field rule"]
    else
      []) ++
    (if 1 < declaration.applyCount then
      ["filter `" ++ declaration.name ++
        "` may contain only one `apply` rule"]
    else
      []) ++
    (declaration.rowRules.drop 1).map (fun _ =>
      kind ++ " `" ++ declaration.name ++
        "` may contain only one `where` rule") ++
    (if declaration.kind = .condition ∧ declaration.rowRules.isEmpty = true then
      ["condition `" ++ declaration.name ++ "` must contain one `where` rule"]
    else
      []) ++
    project.nameProblems site

/-- The messages about the rules and about the condition of the `apply`. -/
def ruleProblems (site : PolicySite) : List String :=
  let row := (project.entry site).matchedTables.head?.map .ofRoot
  site.declaration.rowRules.flatMap (fun rule =>
    validateBooleanRule rule ++ project.validateExpr site rule false row) ++
    site.declaration.fieldRules.flatMap (fun rule =>
      rule.fields.flatMap (project.validateDeclaredField site) ++
        validateBooleanRule rule.condition ++
        project.validateExpr site rule.condition false row) ++
    site.declaration.applyCondition.toList.flatMap (fun condition =>
      validateBooleanRule condition ++
        project.validateExpr site condition true none)

/-- All problems of a declaration. -/
def checkPolicyDefinition (site : PolicySite) : List Diagnostic :=
  (if site.declaration.kind = .filter then
    (project.compileProblems site).map (fun problem =>
      Diagnostic.error problem.1 problem.2)
  else
    []) ++
    (project.declarationProblems site ++ project.ruleProblems site).map
      (Diagnostic.error .invalidPolicyDefinition)

/-- A project whose policy declarations report no error. -/
def AcceptsPolicies : Prop :=
  ∀ site ∈ project.sites, Accepted (project.checkPolicyDefinition site)

end PolicyProject

end Dsql
