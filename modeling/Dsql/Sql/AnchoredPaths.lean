import Dsql.Plan.PruningExactness
import Dsql.Sql.NullTests
import Dsql.Sql.RelationPaths

/-!
# Predicates on relation paths

A relation path can stand in a comparison, a null test and a membership test,
and starts at the current row, at the parent row or at the root row.  The
module states what such a predicate is meant to ask, and for which of them the
planned filter asks it.
-/

namespace Dsql

open Logic

/-- The operand beside a relation path in a comparison. -/
inductive ComparedOperand where
  | literal (value : LiteralValue)
  | variable (reference : VariableRef)
  | field (anchor : PathAnchor) (segment : PathSegment)
  | related (path : ScopedPath) (long : 2 ≤ path.segments.length)

namespace ComparedOperand

def expr : ComparedOperand → Expr
  | .literal value => .literal value
  | .variable reference => .variable reference
  | .field anchor segment => .path ⟨anchor, [segment]⟩
  | .related path _ => .path path

def isRelated : ComparedOperand → Bool
  | .related .. => true
  | _ => false

/-- Fields name a column. -/
def Resolves
    (catalog : Catalog)
    (context : ClauseContext) : ComparedOperand → Prop
  | .field anchor segment =>
      (resolvePath catalog context
        ⟨anchor, [segment]⟩).terminal.columnId.isSome = true
  | _ => True

end ComparedOperand

/-- A predicate with a relation path as an operand. -/
inductive PathPredicate where
  | comparison (op : BinaryOp) (compares : isComparisonOperator op = true)
      (other : ComparedOperand) (pathFirst : Bool)
  /-- An aggregate behind an operator variable; behind a fixed operator, or in
  front, it is rejected. -/
  | aggregated (operator : VariableRef) (source : ScopedPath)
      (function : String) (operand : Option ScopedPath)
  | nullTest (negated : Bool)
  | membership (negated : Bool) (items : List LiteralValue)
  | memberOf (negated : Bool) (reference : VariableRef)

def membershipOp (negated : Bool) : BinaryOp :=
  if negated then .notIn else .isIn

/-- The name that variables beside a path are given. -/
def FilterSite.fieldPath
    (site : FilterSite)
    (context : ClauseContext)
    (path : ScopedPath) : InputPath :=
  (site.predicatePath context path).getD []

namespace PathPredicate

def expr (path : ScopedPath) : PathPredicate → Expr
  | .comparison op _ other pathFirst =>
      if pathFirst then
        .binary op (.path path) other.expr
      else
        .binary op other.expr (.path path)
  | .aggregated operator source function operand =>
      .binary (.variable operator) (.path path)
        (.aggregate source function operand)
  | .nullTest negated => .nullTest (.path path) negated
  | .membership negated items =>
      .binary (membershipOp negated) (.path path)
        (.list (items.map .literal))
  | .memberOf negated reference =>
      .binary (membershipOp negated) (.path path) (.variable reference)

/-- A field beside the path names a column. -/
def OperandResolves
    (catalog : Catalog)
    (context : ClauseContext) : PathPredicate → Prop
  | .comparison _ _ other _ => other.Resolves catalog context
  | _ => True

section Meaning

variable
  (site : FilterSite) (context : ClauseContext) (outer : Bool)
  (path : ScopedPath)

/-- The operand beside the path, as it is planned. -/
def comparedOperand
    (op : BinaryOp)
    (other : ComparedOperand)
    (pathFirst : Bool) : Option FilterExpr :=
  if pathFirst then
    site.namedOperand (site.fieldPath context path) op other.expr
      (site.planFilterExpr context true other.expr)
  else
    site.planFilterExpr context outer other.expr

/-- The collection that the path is tested against. -/
def collectionValue (negated : Bool) (reference : VariableRef) :
    VariableValue :=
  whereVariableValue site.selectionPath site.variableScope
    (site.fieldPath context path) (membershipOp negated) reference

/-- Whether a null input or default removes the predicate. -/
def isAbsent (present : SqlParameter → Bool) : PathPredicate → Bool
  | .comparison op _ other pathFirst =>
      site.operandIsAbsent present
        (if pathFirst then some (site.fieldPath context path) else none) op
        other.expr
  | .aggregated .. | .nullTest _ | .membership .. => false
  | .memberOf negated reference =>
      site.valueIsAbsent present
        (collectionValue site context path negated reference)

/-- The predicate about a column of the current row.  An aggregate belongs to
another row and leaves none. -/
def atom (column : ColumnId) : PathPredicate → Option FilterExpr
  | .comparison op _ other pathFirst =>
      (comparedOperand site context outer path op other pathFirst).bind
        (fun operand =>
          let operand := (site.planner.predicateAtomOperand operand).1
          if pathFirst then
            site.comparisonAtom (.column .current column) op operand
              (site.fieldPath context path)
          else
            site.comparisonAtom operand op (.column .current column)
              (site.fieldPath context path))
  | .aggregated .. => none
  | .nullTest negated => some (.nullTest (.column .current column) negated)
  | .membership negated items =>
      some (.membership (.column .current column)
        (.list (items.map (fun item => .literal (.ofLiteral item)))) negated)
  | .memberOf negated reference =>
      (site.planCollectionValue
        (collectionValue site context path negated reference)).join.map
          (fun collection =>
            .membership (.column .current column) collection negated)

/-- The operand beside the path has a plan of its own. -/
def Supported : PathPredicate → Prop
  | .comparison op _ other pathFirst =>
      other.isRelated = true ∨
        (comparedOperand site context outer path op other
          pathFirst).isSome = true
  | .aggregated .. | .nullTest _ | .membership .. => True
  | .memberOf negated reference =>
      (site.planCollectionValue
        (collectionValue site context path negated reference)).isSome = true

end Meaning

end PathPredicate

/-- A relation path that leads through `steps` to `column`. -/
structure LeadsTo
    (catalog : Catalog)
    (context : ClauseContext)
    (path : ScopedPath)
    (steps : List ResolvedRelationStep)
    (column : ColumnId) : Prop where
  long : 2 ≤ path.segments.length
  relations : (resolvePath catalog context path).relations = steps
  terminal :
    (resolvePath catalog context path).terminal.columnId = some column

namespace Session

variable {S : Type} [DecidableEq S] (session : Session S)

/-- What the current row shows of a column. -/
def readAt (place : Place S) (column : ColumnId) : Datum S :=
  session.eval place.env
    (place.scope.current.maskedColumnExpression place.depth column)

/-- A comparison of two values, by the selected operator if an input selects
one. -/
def compared
    (operatorPath : VariableRef → InputPath)
    (op : BinaryOp)
    (left right : Datum S) : Truth :=
  match op with
  | .comparison op => session.engine.compare (.ofComparison op) left right
  | .variable operator =>
      session.engine.variant
        (session.inputs.selected (operatorPath operator))
        (operatorVariants operator false) left right
  | .isIn | .notIn | .and | .or => .unknown

/-- What a planned operand stands for at a place. -/
def operandAt
    (site : FilterSite)
    (place : Place S)
    (operand : FilterExpr) : Datum S :=
  session.eval place.env
    (filterExpr site.planner.catalog place.scope place.depth operand)

/-- What a predicate on a relation path asks: whether the chain of relations
leads from the anchored row to a row whose column satisfies it.  With a
relation path on either side it asks for a row at the end of each; an aggregate
is one of the row where the predicate stands. -/
def Asks
    (site : FilterSite)
    (context : ClauseContext)
    (outer : Bool)
    (place : Place S)
    (path : ScopedPath)
    (steps : List ResolvedRelationStep)
    (column : ColumnId) : PathPredicate → Prop
  | .comparison op _ (.related other _) pathFirst =>
      ∃ last, session.Reaches site steps (place.anchored path.anchor) last ∧
        ∃ otherSteps otherColumn,
          LeadsTo site.planner.catalog context other otherSteps
              otherColumn ∧
            ∃ otherLast,
              session.Reaches site otherSteps
                  (place.anchored other.anchor) otherLast ∧
                let left := session.readAt last column
                let right := session.readAt otherLast otherColumn
                session.compared (site.operatorPath context path) op
                    (if pathFirst then left else right)
                    (if pathFirst then right else left) = .tt
  | .aggregated operator source function operand =>
      ∃ last, session.Reaches site steps (place.anchored path.anchor) last ∧
        ∃ aggregate,
          site.planPredicateAggregate context source function operand =
              some aggregate ∧
            session.compared (site.operatorPath context path)
              (.variable operator) (session.readAt last column)
              (session.operandAt site place aggregate) = .tt
  | predicate =>
      predicate.isAbsent site context path session.inputs.isPresent = true ∨
        ∃ last, session.Reaches site steps (place.anchored path.anchor) last ∧
          ∃ atom, predicate.atom site context outer path column = some atom ∧
            admitted (session.readingAt site last atom) = .tt

end Session

/-- The conditions that a predicate adds to the `where` of a place. -/
def PathPredicate.conditions
    {S : Type}
    (site : FilterSite)
    (context : ClauseContext)
    (outer : Bool)
    (place : Place S)
    (path : ScopedPath)
    (predicate : PathPredicate) : List SqlExpr :=
  filterConditions site.planner.catalog place.scope place.depth
    (site.planFilterExpr context outer (predicate.expr path))

/-- Planned filters of a predicate ask what the predicate asks, whatever the
site, the place and the data, unless a column reference of theirs is captured
by an inner row source. -/
def PathPredicate.ReadsAnchoredRow
    (catalog : Catalog)
    (context : ClauseContext)
    (path : ScopedPath)
    (steps : List ResolvedRelationStep)
    (column : ColumnId)
    (predicate : PathPredicate) : Prop :=
  ∀ (S : Type) [DecidableEq S] (session : Session S) (site : FilterSite)
    (outer : Bool) (place : Place S),
    site.planner.catalog = catalog →
    place.Inside →
    (predicate.conditions site context outer place path).all
      (SqlExpr.isUncaptured place.env.sources) = true →
    predicate.Supported site context outer path →
      (session.written.evalAll place.env
          (predicate.conditions site context outer place path) = .tt ↔
        session.meant.Asks site context outer place path steps column
          predicate)

section Planning

variable
  (site : FilterSite) (context : ClauseContext) (outer : Bool)
  {path : ScopedPath} {steps : List ResolvedRelationStep} {column : ColumnId}

/-- The scope that a column of a path of an anchor is read in. -/
def PathAnchor.columnScope : PathAnchor → FilterColumnScope
  | .current => .current
  | .root => .root
  | .parent => .parent

namespace LeadsTo

variable
  {site context}
  (h : LeadsTo site.planner.catalog context path steps column)

include h

theorem planFilterPath_none :
    site.planFilterPath context outer path = none := by
  unfold FilterSite.planFilterPath
  split
  · next hsegments =>
      have hlong := h.long
      rw [hsegments] at hlong
      simp at hlong
  · rfl

theorem planPredicateOperandPath :
    site.planPredicateOperandPath context outer (.path path) =
      some (.column path.anchor.columnScope column) := by
  have hlong : (path.segments.length == 1) = false := by
    have := h.long
    simp only [beq_eq_false_iff_ne]
    omega
  unfold FilterSite.planPredicateOperandPath
  simp only [h.terminal, hlong, Bool.and_false, Option.map_some]
  cases path.anchor <;> rfl

theorem wrapRelationPredicate (filter : FilterExpr) :
    site.wrapRelationPredicate context path filter =
      steps.foldr site.relationStepFilter filter := by
  unfold FilterSite.wrapRelationPredicate
  rw [if_neg (by have := h.long; omega), h.relations]

theorem predicatePath :
    site.predicatePath context path = some (site.fieldPath context path) := by
  have hterminal := h.terminal
  unfold FilterSite.fieldPath FilterSite.predicatePath
    ResolvedPath.displayPath
  cases hresolved :
      (resolvePath site.planner.catalog context path).terminal with
  | column => rfl
  | failed | outOfScope => simp [hresolved, PathTerminal.columnId] at hterminal

theorem planFilterExpr_nullTest (negated : Bool) :
    site.planFilterExpr context outer (.nullTest (.path path) negated) =
      some (steps.foldr site.relationStepFilter
        (.nullTest (.column path.anchor.columnScope column) negated)) := by
  simp [FilterSite.planFilterExpr, h.planPredicateOperandPath outer,
    h.wrapRelationPredicate]

theorem planMembership
    (negated : Bool)
    (items : Option (List FilterExpr))
    (rhs : Expr) :
    site.planMembership context outer (membershipOp negated) (.path path) rhs
        items =
      (site.planCollection (site.fieldPath context path)
        (membershipOp negated) items rhs).map (fun collection =>
          match collection with
          | none => .absent
          | some collection =>
              let membership := steps.foldr site.relationStepFilter
                (.membership (.column path.anchor.columnScope column)
                  collection negated)
              match collection with
              | .parameter parameter =>
                  site.planner.optionalFilter parameter.path membership
              | .list _ => membership) := by
  have hnot : (membershipOp negated == .notIn) = negated := by
    cases negated <;> rfl
  unfold FilterSite.planMembership
  simp only [h.predicatePath, h.planPredicateOperandPath outer,
    Option.bind_eq_bind, Option.bind_some, h.wrapRelationPredicate, hnot]
  cases site.planCollection (site.fieldPath context path)
      (membershipOp negated) items rhs with
  | none => rfl
  | some collection =>
      rcases collection with _ | _ | _ <;> rfl

theorem planFilterExpr_membership (negated : Bool) (items : List LiteralValue) :
    site.planFilterExpr context outer
        ((PathPredicate.membership negated items).expr path) =
      some (steps.foldr site.relationStepFilter
        (.membership (.column path.anchor.columnScope column)
          (.list (items.map (fun item => .literal (.ofLiteral item))))
          negated)) := by
  have hitems : site.planFilterItems context outer
      (items.map Expr.literal) =
        some (items.map (fun item => .literal (.ofLiteral item))) := by
    induction items with
    | nil => rfl
    | cons item items ih =>
        simp only [List.map_cons, FilterSite.planFilterItems,
          FilterSite.planFilterExpr, ih]
  have hplan := h.planMembership outer negated
    (some (items.map (fun item => .literal (.ofLiteral item))))
    (.list (items.map .literal))
  cases negated <;>
    simpa [PathPredicate.expr, membershipOp, FilterSite.planFilterExpr,
      hitems, FilterSite.planCollection] using hplan

theorem planFilterExpr_memberOf (negated : Bool) (reference : VariableRef) :
    site.planFilterExpr context outer
        ((PathPredicate.memberOf negated reference).expr path) =
      (site.planCollectionValue (PathPredicate.collectionValue site context
        path negated reference)).map (fun collection =>
          match collection with
          | none => .absent
          | some collection =>
              let membership := steps.foldr site.relationStepFilter
                (.membership (.column path.anchor.columnScope column)
                  collection negated)
              match collection with
              | .parameter parameter =>
                  site.planner.optionalFilter parameter.path membership
              | .list _ => membership) := by
  have hplan := h.planMembership outer negated none (.variable reference)
  cases negated <;>
    simpa [PathPredicate.expr, membershipOp, FilterSite.planFilterExpr,
      FilterSite.planCollection, PathPredicate.collectionValue] using hplan

/-- A relation path is no operand on its own. -/
theorem planFilterExpr_path :
    site.planFilterExpr context outer (.path path) = none := by
  rw [FilterSite.planFilterExpr]
  exact h.planFilterPath_none outer

/-- A comparison with a relation path on the right is not planned. -/
theorem planFilterExpr_pathSecond
    {op : BinaryOp}
    (hop : isComparisonOperator op = true)
    (other : ComparedOperand) :
    site.planFilterExpr context outer (.binary op other.expr (.path path)) =
      none := by
  have hpath (outer : Bool) := h.planFilterExpr_path outer
  have haggregate :
      (other.expr.isAggregate || (Expr.path path).isAggregate) = false := by
    cases other <;> rfl
  have hplain (operands : FilterSite.PlannedOperands)
      (hoperands : operands.right = none) :
      site.planPlainComparison context outer op other.expr (.path path)
        operands = none := by
    unfold FilterSite.planPlainComparison
    cases other <;> simp [ComparedOperand.expr, hoperands]
  have hrelation (operands : FilterSite.PlannedOperands)
      (hoperands : operands.rightOuter = none) :
      site.planRelationComparison context op other.expr (.path path)
          operands = none ∨
        site.planRelationComparison context op other.expr (.path path)
          operands = some none := by
    unfold FilterSite.planRelationComparison
    cases other with
    | literal value | «variable» reference => exact Or.inl rfl
    | field anchor segment | related other long =>
        simp only [ComparedOperand.expr, hop, if_true]
        split
        · exact Or.inl rfl
        · simp [FilterSite.namedOperand, hoperands]
  rw [site.planFilterExpr_comparison context hop,
    site.planBinary_plain context haggregate]
  unfold FilterSite.planOperands
  rcases hrelation (site.plannedOperands context outer other.expr (.path path))
      (hpath true) with hnone | hsome
  · rw [hnone]
    exact hplain _ (hpath outer)
  · rw [hsome]

theorem steps_ne_nil : steps ≠ [] := by
  have hterminal := h.terminal
  have hlong := h.long
  rw [← h.relations]
  unfold resolvePath at hterminal ⊢
  cases htable : context.anchorTable path.anchor with
  | none => simp [htable, PathTerminal.columnId] at hterminal
  | some table =>
      simp only [htable] at hterminal ⊢
      exact resolveSegments_relations_ne_nil hlong hterminal

/-- The filter of a relation path from the current row. -/
theorem relationPredicateFilter_eq
    (op : BinaryOp)
    (right : FilterExpr)
    (fieldPath : InputPath) :
    site.relationPredicateFilter context path op right fieldPath =
      if path.anchor = .current then
        (site.binaryOrVariant (.column .current column) op right
          fieldPath).map (steps.foldr site.relationStepFilter)
      else
        none := by
  have hlong := h.long
  have hempty :
      (resolvePath site.planner.catalog context path).relations.isEmpty =
        false := by
    have hne := h.steps_ne_nil
    rw [← h.relations] at hne
    simpa using hne
  unfold FilterSite.relationPredicateFilter
  by_cases hanchor : path.anchor = .current
  · rw [if_pos ⟨hanchor, hlong⟩, if_pos hanchor]
    have hterminal := h.terminal
    simp only [hempty, Bool.false_eq_true, if_false]
    cases hresolved :
        (resolvePath site.planner.catalog context path).terminal with
    | column display table found valueType =>
        rw [hresolved] at hterminal
        obtain rfl : found = column := by
          simpa [PathTerminal.columnId] using hterminal
        have hwrap :
            site.wrapRelationPredicate context path =
              steps.foldr site.relationStepFilter :=
          funext h.wrapRelationPredicate
        simp only [hwrap]
    | failed | outOfScope =>
        simp [hresolved, PathTerminal.columnId] at hterminal
  · rw [if_neg (fun hboth => hanchor hboth.1), if_neg hanchor]

/-- The operand beside a relation path on the left. -/
theorem planFilterExpr_pathFirst
    {op : BinaryOp}
    (hop : isComparisonOperator op = true)
    (other : ComparedOperand) :
    site.planFilterExpr context outer (.binary op (.path path) other.expr) =
      (PathPredicate.comparedOperand site context outer path op other
        true).bind (fun operand =>
          if FilterSite.isAbsent operand then
            some .absent
          else if path.anchor = .current then
            (site.binaryOrVariant (.column .current column) op operand
              (site.fieldPath context path)).map (fun filter =>
                site.optionalRelation operand
                  (steps.foldr site.relationStepFilter filter))
          else
            none) := by
  have haggregate :
      ((Expr.path path).isAggregate || other.expr.isAggregate) = false := by
    cases other <;> rfl
  have hplain (operands : FilterSite.PlannedOperands)
      (hoperands : operands.left = none) :
      site.planPlainComparison context outer op (.path path) other.expr
        operands = none := by
    unfold FilterSite.planPlainComparison
    cases other <;>
      simp [ComparedOperand.expr, hoperands, FilterSite.predicateValuePath,
        h.predicatePath, h.planFilterPath_none]
  rw [site.planFilterExpr_comparison context hop,
    site.planBinary_plain context haggregate]
  unfold FilterSite.planOperands
  generalize hoperands : site.plannedOperands context outer (.path path)
    other.expr = operands
  have hleft : operands.left = none := by
    rw [← hoperands]
    exact h.planFilterExpr_path outer
  have hright : operands.rightOuter =
      site.planFilterExpr context true other.expr := by
    rw [← hoperands]
    rfl
  unfold FilterSite.planRelationComparison PathPredicate.comparedOperand
  simp only [hop, if_true, h.predicatePath, hright]
  cases hoperand : site.namedOperand (site.fieldPath context path) op
      other.expr (site.planFilterExpr context true other.expr) with
  | none => rfl
  | some operand =>
      simp only [Option.bind_some,
        h.relationPredicateFilter_eq op operand]
      by_cases habsent : FilterSite.isAbsent operand = true
      · simp [habsent]
      · by_cases hanchor : path.anchor = .current
        · have hsome : (site.binaryOrVariant (.column .current column) op
              operand (site.fieldPath context path)).isSome = true :=
            site.binaryOrVariant_isSome hop
          obtain ⟨filter, hfilter⟩ := Option.isSome_iff_exists.mp hsome
          simp [habsent, hanchor, hfilter]
        · simp [habsent, hanchor, hplain operands hleft]

end LeadsTo

end Planning

namespace Engine

variable {S : Type} [DecidableEq S] (engine : Engine S)

theorem compare_null (op : FilterOp) (value : Datum S) :
    engine.compare op value .null = .unknown := by
  cases value <;> rfl

/-- A list with a null never rules a value out. -/
theorem member_ne_ff
    (value : Datum S)
    {items : List (Datum S)}
    (h : .null ∈ items) :
    engine.member value items ≠ .ff := by
  induction items with
  | nil => simp at h
  | cons item items ih =>
      rcases List.mem_cons.mp h with rfl | hmem
      · rw [member, compare_null]
        cases engine.member value items <;> simp [Truth.or]
      · have hrest := ih hmem
        rw [member]
        cases engine.compare .eq value item <;>
          cases hmember : engine.member value items <;>
            simp_all [Truth.or]

theorem member_nulls
    (value : Datum S)
    {items : List (Datum S)}
    (h : ∀ item ∈ items, item = .null) :
    engine.member value items ≠ .tt := by
  induction items with
  | nil => simp [member]
  | cons item items ih =>
      have hhead := h item (by simp)
      have hrest := ih (fun other hother =>
        h other (List.mem_cons_of_mem _ hother))
      rw [member, hhead, compare_null]
      cases hmember : engine.member value items <;> simp_all [Truth.or]

theorem compare_eq
    {left right : Datum S}
    (hleft : left ≠ .null)
    (hright : right ≠ .null) :
    engine.compare .eq left right = .ofBool (left == right) := by
  cases left <;> cases right <;> first | rfl | contradiction

/-- A list without nulls that does not hold a value rules it out. -/
theorem member_eq_ff
    (value : Datum S)
    (hvalue : value ≠ .null)
    {items : List (Datum S)}
    (h : ∀ item ∈ items, item ≠ .null ∧ item ≠ value) :
    engine.member value items = .ff := by
  induction items with
  | nil => rfl
  | cons item items ih =>
      obtain ⟨hnull, hother⟩ := h item (by simp)
      have hrest := ih (fun other hmem => h other (List.mem_cons_of_mem _ hmem))
      have hne : (value == item) = false := by
        simpa using fun heq => hother heq.symm
      rw [member, engine.compare_eq hvalue hnull, hne, hrest]
      rfl

theorem member_eq_tt
    {value : Datum S}
    (hvalue : value ≠ .null)
    {items : List (Datum S)}
    (h : value ∈ items) :
    engine.member value items = .tt := by
  have hself : engine.compare .eq value value = .tt := by
    simp [engine.compare_eq hvalue hvalue]
  induction items with
  | nil => simp at h
  | cons item items ih =>
      rcases List.mem_cons.mp h with rfl | hmem
      · rw [member, hself, Truth.tt_or]
      · rw [member, ih hmem, Truth.or_tt]

end Engine

theorem literal_ofLiteral_null
    {S : Type} [DecidableEq S]
    (engine : Engine S)
    (item : LiteralValue) :
    engine.literal (.ofLiteral item) = .null ↔ item = .null := by
  cases item <;> simp [Engine.literal, FilterLiteral.ofLiteral]

/-- Listed literals are lowered to themselves. -/
theorem filterItems_literals
    (catalog : Catalog)
    (scope : FilterSqlScope)
    (depth : Nat)
    (items : List LiteralValue) :
    filterItems catalog scope depth
        (items.map (fun item => .literal (.ofLiteral item))) =
      items.map (fun item => SqlExpr.literal (.ofLiteral item)) := by
  induction items with
  | nil => simp [filterItems]
  | cons item items ih =>
      rw [List.map_cons, filterItems, ih]
      simp [conditionalFilterExpr, ConditionalFilter.filterExpr,
        ConditionalFilter.always]

section Anchored

variable
  {S : Type} [DecidableEq S] (session : Session S) (site : FilterSite)
  (context : ClauseContext) (outer : Bool) (place : Place S)
  {path : ScopedPath} {steps : List ResolvedRelationStep} {column : ColumnId}

namespace Session

/-- A filter under a nullable input admits every row where the input is
missing. -/
theorem admitted_optionalFilter (input : InputPath) (filter : FilterExpr) :
    admitted (session.readingAt site place
        (site.planner.optionalFilter input filter)) = .tt ↔
      (site.planner.variableIsNullable input &&
          !session.inputs.isPresent (site.planner.sqlParameter input)) =
            true ∨
        admitted (session.readingAt site place filter) = .tt := by
  unfold readingAt Planner.optionalFilter
  cases site.planner.variableIsNullable input with
  | false => simp
  | true =>
      cases hpresent :
          session.inputs.isPresent (site.planner.sqlParameter input) <;>
        simp [hpresent]

theorem admitted_optionalRelation
    {right : FilterExpr}
    {absent : Bool}
    (hright : ValuePlan site.planner session.inputs.isPresent right absent)
    (hpresent : FilterSite.isAbsent right = false)
    (filter : FilterExpr) :
    admitted (session.readingAt site place
        (site.optionalRelation right filter)) = .tt ↔
      absent = true ∨
        admitted (session.readingAt site place filter) = .tt := by
  cases hright with
  | absent => simp [FilterSite.isAbsent] at hpresent
  | parameter input =>
      exact session.admitted_optionalFilter site place input filter
  | plain _ hplain =>
      have hsame : site.optionalRelation right filter = filter := by
        cases right <;> first | rfl | simp [FilterExpr.isPlainOperand] at hplain
      simp [hsame]

/-- A comparison of the current row whose inputs are there reads as its
atom. -/
theorem readingAt_binaryOrVariant
    {op : BinaryOp}
    (hop : isComparisonOperator op = true)
    {right filter : FilterExpr}
    (hright : ValuePlan site.planner session.inputs.isPresent right false)
    (hpresent : FilterSite.isAbsent right = false)
    (input : InputPath)
    (h : site.binaryOrVariant (.column .current column) op right input =
      some filter) :
    ∃ atom,
      site.comparisonAtom (.column .current column) op
          (site.planner.predicateAtomOperand right).1 input = some atom ∧
        ∀ place, session.readingAt site place filter =
          session.readingAt site place atom := by
  have hleft : site.planner.predicateAtomOperand (.column .current column) =
      (.column .current column, []) :=
    site.planner.predicateAtomOperand_plain rfl
  have hne : right ≠ .absent := by
    rintro rfl
    simp [FilterSite.isAbsent] at hpresent
  obtain ⟨-, hnamed, hany⟩ :=
    site.planner.predicateAtomOperand_operandPlan session.inputs.isPresent
      (.value hright) hne
  have hplan :
      site.binaryOrVariant (.column .current column) op right input =
        (site.comparisonAtom (.column .current column) op
          (site.planner.predicateAtomOperand right).1 input).map (fun atom =>
            wrapOptionalAtom atom (Planner.mergeOptionalParameters []
              (site.planner.predicateAtomOperand right).2)) := by
    cases op with
    | comparison _ | «variable» _ =>
        simp [FilterSite.binaryOrVariant, hleft, hpresent,
          show FilterSite.isAbsent (.column .current column) = false from rfl]
    | isIn | notIn | and | or => simp [isComparisonOperator] at hop
  rw [hplan] at h
  obtain ⟨atom, hatom, hfilter⟩ := Option.map_eq_some_iff.mp h
  subst hfilter
  refine ⟨atom, hatom, fun place => ?_⟩
  have hnil : site.planner.Named [] := by simp [Planner.Named]
  have hmerge := site.planner.mergeOptionalParameters_any hnil hnamed
    (fun parameter => !session.inputs.isPresent parameter)
  rw [hany] at hmerge
  unfold readingAt
  rw [reading_wrapOptionalAtom, hmerge]
  rfl

/-- Membership in listed literals. -/
theorem readingAt_membership
    (operand : FilterExpr)
    (items : List LiteralValue)
    (negated : Bool) :
    session.readingAt site place
        (.membership operand
          (.list (items.map (fun item => .literal (.ofLiteral item))))
          negated) =
      some (Engine.negateIf negated
        (session.engine.member
          (session.eval place.env
            (filterExpr site.planner.catalog place.scope place.depth operand))
          (items.map (fun item =>
            session.engine.literal (.ofLiteral item))))) := by
  have hlowered : conditionalFilterExpr site.planner.catalog place.scope
      place.depth (.membership operand
        (.list (items.map (fun item => .literal (.ofLiteral item))))
        negated) =
      .always (memberListExpr
        (filterExpr site.planner.catalog place.scope place.depth operand)
        (items.map (fun item => .literal (.ofLiteral item))) negated) := by
    rw [conditionalFilterExpr, filterItems_literals]
    rfl
  unfold readingAt
  rw [session.reading_of_always _ _ _ _ hlowered]
  cases items with
  | nil =>
      cases negated <;>
        simp [memberListExpr, Engine.member, Engine.negateIf, Engine.literal]
  | cons item items =>
      simp [memberListExpr, eval, evalItems_eq_map, Function.comp_def]

/-- Some lists decide a membership test against every value. -/
theorem membership_undecided
    (operand : FilterExpr)
    {items : List LiteralValue}
    {negated : Bool}
    (h : if negated then
        .null ∈ items
      else
        ∀ item ∈ items, item = .null) :
    admitted (session.readingAt site place
      (.membership operand
        (.list (items.map (fun item => .literal (.ofLiteral item))))
        negated)) ≠ .tt := by
  rw [session.readingAt_membership]
  cases negated with
  | false =>
      have hnulls : ∀ value ∈ items.map (fun item =>
          session.engine.literal (.ofLiteral item)), value = .null := by
        intro value hvalue
        obtain ⟨item, hitem, rfl⟩ := List.mem_map.mp hvalue
        exact (literal_ofLiteral_null session.engine item).mpr
          (h item hitem)
      exact session.engine.member_nulls _ hnulls
  | true =>
      have hnull : .null ∈ items.map (fun item =>
          session.engine.literal (.ofLiteral item)) :=
        List.mem_map.mpr ⟨.null, h, rfl⟩
      have hmember := session.engine.member_ne_ff
        (session.eval place.env (filterExpr site.planner.catalog place.scope
          place.depth operand)) hnull
      simp [Engine.negateIf, hmember]

/-- The conditions of a predicate without captured references hold where its
filter is admitted. -/
theorem evalAll_conditions
    {predicate : PathPredicate}
    (h : (predicate.conditions site context outer place path).all
      (SqlExpr.isUncaptured place.env.sources) = true) :
    session.written.evalAll place.env
        (predicate.conditions site context outer place path) =
      admitted ((site.planFilterExpr context outer
        (predicate.expr path)).bind (session.meant.readingAt site place)) := by
  rw [session.evalAll_isUncaptured h]
  exact session.meant.evalAll_filterConditions _ _ _ _ _

section Intended

variable
  (hbinding : session.binding = intended)
  (hpath : LeadsTo site.planner.catalog context path steps column)
  (hinside : place.Inside)
  (hanchor : path.anchor = .current)

include hbinding hpath hinside hanchor

theorem comparison_anchored
    {op : BinaryOp}
    (hop : isComparisonOperator op = true)
    {other : ComparedOperand}
    (hother : other.isRelated = false)
    (hsupported :
      (PathPredicate.comparison op hop other true).Supported site context
        outer path) :
    admitted ((site.planFilterExpr context outer
        (.binary op (.path path) other.expr)).bind
          (session.readingAt site place)) = .tt ↔
      session.Asks site context outer place path steps column
        (.comparison op hop other true) := by
  have hsome : (PathPredicate.comparedOperand site context outer path op
      other true).isSome = true :=
    hsupported.resolve_left (by simp [hother])
  obtain ⟨right, hright⟩ := Option.isSome_iff_exists.mp hsome
  have hoperand : other.expr.isOperand = true := by
    cases other <;> rfl
  have hvalue := (site.namedOperand_plan session.inputs.isPresent context
    hoperand hright).2
  have hasks : session.Asks site context outer place path steps column
      (.comparison op hop other true) ↔
      site.operandIsAbsent session.inputs.isPresent
          (some (site.fieldPath context path)) op other.expr = true ∨
        ∃ last, session.Reaches site steps place last ∧
          ∃ atom, site.comparisonAtom (.column .current column) op
              (site.planner.predicateAtomOperand right).1
              (site.fieldPath context path) = some atom ∧
            admitted (session.readingAt site last atom) = .tt := by
    cases other with
    | related => simp [ComparedOperand.isRelated] at hother
    | literal | «variable» | field =>
        simp [Asks, PathPredicate.isAbsent, PathPredicate.atom, hright,
          hanchor]
  rw [hasks, hpath.planFilterExpr_pathFirst outer hop other, hright,
    Option.bind_some]
  cases hmissing : FilterSite.isAbsent right with
  | true =>
      have habsent := (Planner.operandPlan_isAbsent _ _
        (OperandPlan.value hvalue)).2 hmissing
      simp [habsent, readingAt]
  | false =>
      have hplanned : (site.binaryOrVariant (.column .current column) op
          right (site.fieldPath context path)).isSome = true :=
        site.binaryOrVariant_isSome hop
      obtain ⟨filter, hfilter⟩ := Option.isSome_iff_exists.mp hplanned
      simp only [Bool.false_eq_true, if_false, hanchor, if_true, hfilter,
        Option.map_some, Option.bind_some]
      rw [session.admitted_optionalRelation site place hvalue hmissing]
      cases habsent : site.operandIsAbsent session.inputs.isPresent
          (some (site.fieldPath context path)) op other.expr with
      | true => simp
      | false =>
          rw [habsent] at hvalue
          obtain ⟨atom, hatom, hreading⟩ :=
            session.readingAt_binaryOrVariant site hop hvalue hmissing _
              hfilter
          rw [session.readingAt_relationSteps hbinding site steps place filter
            hinside]
          simp [hatom, hreading]

theorem memberOf_anchored
    (negated : Bool)
    (reference : VariableRef)
    (hsupported : (PathPredicate.memberOf negated reference).Supported site
      context outer path) :
    admitted ((site.planFilterExpr context outer
        ((PathPredicate.memberOf negated reference).expr path)).bind
          (session.readingAt site place)) = .tt ↔
      session.Asks site context outer place path steps column
        (.memberOf negated reference) := by
  have hsteps (filter : FilterExpr) :=
    session.readingAt_relationSteps hbinding site steps place filter hinside
  obtain ⟨collection, hcollection⟩ := Option.isSome_iff_exists.mp hsupported
  rw [hpath.planFilterExpr_memberOf outer negated reference, hcollection]
  simp only [Asks, PathPredicate.isAbsent, PathPredicate.atom, hcollection,
    hanchor, Place.anchored_current, Option.map_some, Option.bind_some,
    Option.join_some, PathAnchor.columnScope]
  generalize PathPredicate.collectionValue site context path negated
    reference = value at hcollection
  cases value with
  | value input =>
      obtain rfl := Option.some.inj hcollection
      have hpresence := session.admitted_optionalFilter site place input
      simp only [Planner.sqlParameter_path]
      rw [hpresence, hsteps]
      simp [FilterSite.valueIsAbsent]
  | default fixed =>
      cases fixed with
      | null =>
          obtain rfl := Option.some.inj hcollection
          simp [FilterSite.valueIsAbsent, readingAt]
      | collection defaults =>
          obtain ⟨items, -, rfl⟩ := Option.map_eq_some_iff.mp hcollection
          simp [hsteps, FilterSite.valueIsAbsent]
      | string | number | boolean | emptyObject =>
          simp [FilterSite.planCollectionValue] at hcollection

end Intended

end Session

end Anchored

/-- Which predicates on a relation path are planned as they are meant. -/
def PathPredicate.Anchored (path : ScopedPath) : PathPredicate → Prop
  | .comparison _ _ other pathFirst =>
      path.anchor = .current ∧ pathFirst = true ∧ other.isRelated = false
  | .aggregated .. => False
  | .nullTest _ | .memberOf .. => path.anchor = .current
  | .membership negated items =>
      path.anchor = .current ∨
        if negated then
          .null ∈ items
        else
          ∀ item ∈ items, item = .null

/-- Predicates from the current row, with the path in front, read the row at
the end of the path. -/
theorem readsAnchoredRow_of_anchored
    {catalog : Catalog}
    {context : ClauseContext}
    {path : ScopedPath}
    {steps : List ResolvedRelationStep}
    {column : ColumnId}
    (hpath : LeadsTo catalog context path steps column)
    {predicate : PathPredicate}
    (h : predicate.Anchored path) :
    predicate.ReadsAnchoredRow catalog context path steps column := by
  intro S _ session site outer place hcatalog hinside huncaptured hsupported
  subst hcatalog
  have hbinding := session.meant_binding
  rw [session.evalAll_conditions site context outer place huncaptured]
  have hsteps (filter : FilterExpr) :=
    session.meant.readingAt_relationSteps hbinding site steps place filter
      hinside
  cases predicate with
  | comparison op hop other pathFirst =>
      obtain ⟨hanchor, rfl, hother⟩ := h
      exact session.meant.comparison_anchored site context outer place hbinding
        hpath hinside hanchor hop hother hsupported
  | aggregated => exact h.elim
  | nullTest negated =>
      have hanchor : path.anchor = .current := h
      have hplan := hpath.planFilterExpr_nullTest outer negated
      simp [PathPredicate.expr, hplan, hsteps, Session.Asks,
        PathPredicate.isAbsent, PathPredicate.atom, hanchor,
        PathAnchor.columnScope]
  | membership negated items =>
      rw [hpath.planFilterExpr_membership outer negated items,
        Option.bind_some, hsteps]
      rcases h with hanchor | hlist
      · simp [Session.Asks, PathPredicate.isAbsent, PathPredicate.atom,
          hanchor, PathAnchor.columnScope]
      · have hnever (place : Place S) (operand : FilterExpr) :=
          session.meant.membership_undecided site place operand hlist
        simp [Session.Asks, PathPredicate.isAbsent, PathPredicate.atom,
          hnever]
  | memberOf negated reference =>
      exact session.meant.memberOf_anchored site context outer place hbinding hpath
        hinside h negated reference hsupported

end Dsql
