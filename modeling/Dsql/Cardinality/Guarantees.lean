import Dsql.Cardinality.Equalities
import Dsql.Plan.Clauses

/-!
# Guaranteed equalities

Every equality that a predicate guarantees holds of the rows that its plan
admits: a conjunction fixes what one of its sides fixes, and a disjunction what
both of its sides fix to the same value.
-/

namespace Dsql

/-! ## Guaranteed equalities -/

namespace Cardinality

/-- Inputs with a structured path are named by what stands to their left, so
they stand to the right of the columns they are compared with. -/
def namesColumnsFirst : Expr → Bool
  | .binary .and lhs rhs | .binary .or lhs rhs =>
      namesColumnsFirst lhs && namesColumnsFirst rhs
  | .binary _ (.variable reference) _ =>
      reference.sigil != .build || reference.name.isNone
  | _ => true

def FixedValueIdentity.isAnonymous : FixedValueIdentity → Bool
  | .anonymousVariable .. => true
  | _ => false

theorem directCurrentColumn_eq
    {catalog : Catalog}
    {table : TableId}
    {expr : Expr}
    {id : ColumnId}
    (h : directCurrentColumn catalog table expr = some id) :
    ∃ name column,
      expr = .path ⟨.current, [⟨name, none⟩]⟩ ∧
        catalog.checkFieldRef table ⟨name, none⟩ = .column column ∧
          column.id = id := by
  unfold directCurrentColumn at h
  split at h
  · next name =>
      split at h
      · next column hcolumn =>
          exact ⟨name, column, rfl, hcolumn, by simpa using h⟩
      · cases h
  · cases h

/-- A field is a column under the name that the column has. -/
theorem checkFieldRef_name
    {catalog : Catalog}
    {table : TableId}
    {name : TableRef}
    {column : Column}
    (h : catalog.checkFieldRef table ⟨name, none⟩ = .column column) :
    catalog.columnById column.id = some column ∧
      FieldRef.displayText ⟨name, none⟩ = column.name := by
  unfold Catalog.checkFieldRef at h
  cases htable : catalog.tableById table with
  | none => simp [htable] at h
  | some source =>
      simp only [htable] at h
      cases hschema : name.schema with
      | some schema =>
          simp only [hschema, Option.isNone_some, Bool.false_and,
            Bool.false_eq_true, if_false] at h
          split at h <;> cases h
      | none =>
          simp only [hschema, Option.isNone_none, Bool.and_self,
            if_true] at h
          split at h
          · next found hfind =>
              cases h
              have hname := List.find?_some hfind
              have hmem := List.mem_of_find?_eq_some hfind
              obtain ⟨id, -, hid⟩ := List.mem_filterMap.mp hmem
              have hcolumn : column.id = id := by
                have := List.find?_some hid
                simpa using this
              simp only [Bool.and_eq_true, beq_iff_eq] at hname
              exact ⟨hcolumn ▸ hid, by
                simp [FieldRef.displayText, TableRef.displayText, hschema,
                  hname.2]⟩
          · split at h <;> cases h

/-- A fixed value is an input or a constant that is not null. -/
theorem fixedValueIdentity_operand
    {position : List Bool}
    {expr : Expr}
    {identity : FixedValueIdentity}
    (h : fixedValueIdentity position expr = some identity) :
    expr.isOperand = true := by
  cases expr <;> simp_all [fixedValueIdentity, Expr.isOperand]

end Cardinality

namespace Session

variable {S : Type} [DecidableEq S] (session : Session S)
  (site : FilterSite)

/-- What an identity stands for beside a column. -/
def identityDatum (column : ColumnId) :
    Cardinality.FixedValueIdentity → Datum S
  | .string value => session.engine.literal (.string value)
  | .number raw => session.engine.literal (.number raw)
  | .bool value => session.engine.literal (.bool value)
  | .namedVariable sigil name =>
      session.variableDatum (whereVariableValue site.selectionPath
        site.variableScope
        [((site.planner.catalog.columnById column).map Column.name).getD ""]
        (.comparison .eq) ⟨sigil, some name, none⟩)
  | .anonymousVariable .. => .null

/-- The value of an entry, which only a nameless input leaves open. -/
def StandsFor
    (entry : ColumnId × Cardinality.FixedValueIdentity)
    (value : Datum S) : Prop :=
  entry.2.isAnonymous = false →
    value = session.identityDatum site entry.1 entry.2

omit [DecidableEq S] in
/-- Of an input only the name decides what its identity stands for. -/
theorem standsFor_variable
    {column : ColumnId}
    {position : List Bool}
    {reference : VariableRef}
    {identity : Cardinality.FixedValueIdentity}
    {value : Datum S}
    (hidentity : Cardinality.fixedValueIdentity position
      (.variable reference) = some identity)
    (hvalue : ∀ name, reference.name = some name →
      value = session.identityDatum site column
        (.namedVariable reference.sigil name)) :
    session.StandsFor site (column, identity) value := by
  intro hanonymous
  unfold Cardinality.fixedValueIdentity at hidentity
  cases hname : reference.name with
  | none =>
      simp only [hname, Option.some.injEq] at hidentity
      subst hidentity
      simp [Cardinality.FixedValueIdentity.isAnonymous] at hanonymous
  | some name =>
      simp only [hname, Option.some.injEq] at hidentity
      subst hidentity
      exact hvalue name hname

end Session

namespace FilterSite

variable {S : Type} [DecidableEq S] (session : Session S)
  (site : FilterSite) {context : ClauseContext}

omit [DecidableEq S] in
/-- A constant is planned as the operand its identity stands for. -/
theorem literalOperand_input
    {column : ColumnId}
    {position : List Bool}
    {value : LiteralValue}
    {identity : Cardinality.FixedValueIdentity}
    (hidentity : Cardinality.fixedValueIdentity position (.literal value) =
      some identity) :
    (site.planner.predicateAtomOperand
        (.literal (FilterLiteral.ofLiteral value))).1.isInput = true ∧
      session.StandsFor site (column, identity)
        (session.inputDatum (site.planner.predicateAtomOperand
          (.literal (FilterLiteral.ofLiteral value))).1) := by
  rw [Planner.predicateAtomOperand_plain _ rfl]
  cases value <;>
    simp_all [Cardinality.fixedValueIdentity, FilterExpr.isInput,
      FilterLiteral.ofLiteral, Session.StandsFor] <;>
    (subst hidentity; simp [Session.identityDatum, Session.inputDatum])

omit [DecidableEq S] in
/-- A value beside a column stands for its identity. -/
theorem plannedFixedValue_input
    {name : TableRef}
    {column : Column}
    {op : BinaryOp}
    {expr : Expr}
    {operand : FilterExpr}
    {position : List Bool}
    {identity : Cardinality.FixedValueIdentity}
    (hcolumn : site.planner.catalog.checkFieldRef context.table ⟨name, none⟩ =
      .column column)
    (hidentity : Cardinality.fixedValueIdentity position expr =
      some identity)
    (h : site.plannedFixedValue [FieldRef.displayText ⟨name, none⟩] op
      expr = some operand) :
    operand = .absent ∨
      ((site.planner.predicateAtomOperand operand).1.isInput = true ∧
        session.StandsFor site (column.id, identity)
          (session.inputDatum
            (site.planner.predicateAtomOperand operand).1)) := by
  obtain ⟨hid, hname⟩ := Cardinality.checkFieldRef_name hcolumn
  cases expr with
  | «variable» reference =>
      rcases site.planValueVariable_input session h with
        habsent | ⟨hinput, hdatum⟩
      · exact .inl habsent
      · refine .inr ⟨hinput, session.standsFor_variable site hidentity ?_⟩
        intro name hvariable
        obtain ⟨sigil, _, operators⟩ := reference
        subst hvariable
        rw [hdatum]
        simp [Session.identityDatum, hid, hname, whereVariableValue]
  | literal value =>
      simp only [plannedFixedValue, Option.some.injEq] at h
      subst h
      exact .inr (site.literalOperand_input session hidentity)
  | _ => simp [Cardinality.fixedValueIdentity] at hidentity

omit [DecidableEq S] in
/-- A value in front of a column stands for its identity as well, unless its
path is structured. -/
theorem plannedFrontValue_input
    {name : TableRef}
    {column : Column}
    {op : BinaryOp}
    {expr rhs : Expr}
    {operand : FilterExpr}
    {position : List Bool}
    {identity : Cardinality.FixedValueIdentity}
    (hcolumn : site.planner.catalog.checkFieldRef context.table ⟨name, none⟩ =
      .column column)
    (hidentity : Cardinality.fixedValueIdentity position expr =
      some identity)
    (hfirst : Cardinality.namesColumnsFirst (.binary op expr rhs) = true)
    (hop : isComparisonOperator op = true)
    (h : site.plannedFrontValue expr = some operand) :
    operand = .absent ∨
      ((site.planner.predicateAtomOperand operand).1.isInput = true ∧
        session.StandsFor site (column.id, identity)
          (session.inputDatum
            (site.planner.predicateAtomOperand operand).1)) := by
  obtain ⟨hid, hname⟩ := Cardinality.checkFieldRef_name hcolumn
  cases expr with
  | «variable» reference =>
      rcases site.planBooleanVariable_input session h with
        habsent | ⟨hinput, hdatum⟩
      · exact .inl habsent
      · refine .inr ⟨hinput, session.standsFor_variable site hidentity ?_⟩
        intro name hvariable
        obtain ⟨sigil, _, operators⟩ := reference
        subst hvariable
        have hsigil : sigil ≠ .build := by
          cases op <;>
            simp_all [Cardinality.namesColumnsFirst, isComparisonOperator]
        rw [hdatum]
        cases sigil with
        | build => exact absurd rfl hsigil
        | query | context =>
            simp [Session.identityDatum, whereVariableValue,
              booleanVariableValue, variableValue, nativeVariablePath,
              VariablePathContext.key]
  | literal value =>
      simp only [plannedFrontValue, Option.some.injEq] at h
      subst h
      exact .inr (site.literalOperand_input session hidentity)
  | _ => simp [Cardinality.fixedValueIdentity] at hidentity

end FilterSite

namespace Cardinality

/-- The anonymous inputs of entries stand below a position. -/
def Below
    (position : List Bool)
    (entry : ColumnId × FixedValueIdentity) : Prop :=
  match entry.2 with
  | .anonymousVariable _ place => position <+: place
  | _ => True

theorem Below.shorten
    {first second : List Bool}
    {entry : ColumnId × FixedValueIdentity}
    (h : Below second entry)
    (hstart : first <+: second) :
    Below first entry := by
  unfold Below at h ⊢
  split <;> simp_all
  exact hstart.trans h

theorem fixedValueIdentity_below
    {position : List Bool}
    {expr : Expr}
    {column : ColumnId}
    {identity : FixedValueIdentity}
    (h : fixedValueIdentity position expr = some identity) :
    Below position (column, identity) := by
  cases expr with
  | «variable» reference =>
      obtain ⟨sigil, name, operators⟩ := reference
      cases name <;> simp_all [fixedValueIdentity] <;> subst h <;>
        simp [Below]
  | literal value =>
      cases value <;> simp_all [fixedValueIdentity] <;> subst h <;>
        simp [Below]
  | _ => simp [fixedValueIdentity] at h

section Predicates

variable {catalog : Catalog} {table : TableId}
  {refinements : List InputRefinement}

/-- An equality is a column and a fixed value, in one of the two orders. -/
theorem equality_sides
    {position : List Bool}
    {left right : Expr}
    {entry : ColumnId × FixedValueIdentity}
    (h : equality catalog table position left right = some entry) :
    (directCurrentColumn catalog table left = some entry.1 ∧
        fixedValueIdentity (position ++ [true]) right = some entry.2) ∨
      (directCurrentColumn catalog table right = some entry.1 ∧
        fixedValueIdentity (position ++ [false]) left = some entry.2) := by
  unfold equality at h
  simp only [Option.or_eq_some_iff] at h
  rcases h with hfirst | ⟨-, hlast⟩
  · left
    simp only [Option.bind_eq_bind, Option.bind_eq_some_iff] at hfirst
    obtain ⟨column, hcolumn, identity, hidentity, hentry⟩ := hfirst
    cases hentry
    exact ⟨hcolumn, hidentity⟩
  · right
    simp only [Option.bind_eq_bind, Option.bind_eq_some_iff] at hlast
    obtain ⟨column, hcolumn, identity, hidentity, hentry⟩ := hlast
    cases hentry
    exact ⟨hcolumn, hidentity⟩

theorem mem_requiredEquality
    {position : List Bool}
    {anonymousKey : Option String}
    {left right : Expr}
    {entry : ColumnId × FixedValueIdentity}
    (h : entry ∈ requiredEquality catalog table refinements position
      anonymousKey left right) :
    equality catalog table position left right = some entry := by
  unfold requiredEquality at h
  simp only [Option.mem_toList] at h
  exact (Option.filter_eq_some_iff.mp h).1

theorem isComparisonOperator_of_equality
    {op : BinaryOp}
    (hop : isEqualityOperator op = true) :
    isComparisonOperator op = true := by
  cases op <;> simp_all [isEqualityOperator, isComparisonOperator]

/-- The connectives of a predicate are its only inner nodes. -/
theorem guaranteedEqualities_atom
    {position : List Bool}
    {op : BinaryOp}
    {lhs rhs : Expr}
    (hop : isComparisonOperator op = true) :
    guaranteedEqualities catalog table refinements position
        (.binary op lhs rhs) =
      if isEqualityOperator op then
        requiredEquality catalog table refinements position
          (predicateAnonymousKey op) lhs rhs
      else
        [] := by
  cases op <;> first | rfl | simp [isComparisonOperator] at hop

theorem guaranteedEqualities_below
    {expr : Expr}
    {position : List Bool}
    {entry : ColumnId × FixedValueIdentity}
    (h : entry ∈ guaranteedEqualities catalog table refinements position
      expr) :
    Below position entry := by
  induction expr generalizing position with
  | binary op lhs rhs ihlhs ihrhs =>
      have hatom (hop : isComparisonOperator op = true) :
          Below position entry := by
        rw [guaranteedEqualities_atom hop] at h
        split at h
        · rcases equality_sides (mem_requiredEquality h) with
            ⟨-, hidentity⟩ | ⟨-, hidentity⟩
          · exact (fixedValueIdentity_below hidentity).shorten
              (List.prefix_append _ _)
          · exact (fixedValueIdentity_below hidentity).shorten
              (List.prefix_append _ _)
        · cases h
      cases op with
      | and =>
          simp only [guaranteedEqualities, List.mem_append] at h
          rcases h with h | h
          · exact (ihlhs h).shorten (List.prefix_append _ _)
          · exact (ihrhs h).shorten (List.prefix_append _ _)
      | or =>
          simp only [guaranteedEqualities, List.mem_filter] at h
          exact (ihlhs h.1).shorten (List.prefix_append _ _)
      | comparison op => exact hatom rfl
      | «variable» operator => exact hatom rfl
      | isIn | notIn =>
          simp [guaranteedEqualities, isEqualityOperator] at h
  | _ => simp [guaranteedEqualities] at h

/-- What both sides of a disjunction guarantee is not an anonymous input. -/
theorem not_anonymous_of_both
    {position : List Bool}
    {lhs rhs : Expr}
    {entry : ColumnId × FixedValueIdentity}
    (hlhs : entry ∈ guaranteedEqualities catalog table refinements
      (position ++ [false]) lhs)
    (hrhs : entry ∈ guaranteedEqualities catalog table refinements
      (position ++ [true]) rhs) :
    entry.2.isAnonymous = false := by
  have hleft := guaranteedEqualities_below hlhs
  have hright := guaranteedEqualities_below hrhs
  unfold Below at hleft hright
  cases hentry : entry.2 with
  | anonymousVariable sigil place =>
      rw [hentry] at hleft hright
      simp only at hleft hright
      have hsame := List.prefix_of_prefix_length_le hleft hright (by simp)
      have heq := hsame.eq_of_length (by simp)
      simp at heq
  | _ => rfl

end Predicates

/-! ## Inputs that the header leaves required -/

section Present

variable (catalog : Catalog) (refinements : List InputRefinement)
  (site : FilterSite) (present : SqlParameter → Bool)

/-- The inputs of the equalities that count are there: those that the header
does not declare nullable. -/
def RequiredInputsPresent (context : ClauseContext) : Expr → Prop
  | .binary .and lhs rhs | .binary .or lhs rhs =>
      RequiredInputsPresent context lhs ∧ RequiredInputsPresent context rhs
  | .binary op lhs rhs =>
      (∃ position,
        requiredEquality catalog context.table refinements position
          (predicateAnonymousKey op) lhs rhs ≠ []) →
        site.atomIsAbsent present context op lhs rhs = false
  | _ => True

end Present

end Cardinality

namespace FilterSite

open Cardinality

variable {S : Type} [DecidableEq S] (session : Session S)
  (site : FilterSite) {context : ClauseContext}
  {refinements : List InputRefinement}

omit [DecidableEq S] in
/-- The plan of an equality compares its column with an operand that stands
for its value, unless that is absent. -/
theorem planFilterExpr_equality
    {op : BinaryOp}
    {lhs rhs : Expr}
    {filter : FilterExpr}
    {position : List Bool}
    {entry : ColumnId × FixedValueIdentity}
    (hop : isEqualityOperator op = true)
    (hfirst : namesColumnsFirst (.binary op lhs rhs) = true)
    (hentry : equality site.planner.catalog context.table position lhs rhs =
      some entry)
    (h : site.planFilterExpr context false (.binary op lhs rhs) =
      some filter) :
    lhs.isOperand = true ∧ rhs.isOperand = true ∧
      (filter = .absent ∨
        ∃ operand left right path,
          (site.planner.predicateAtomOperand operand).1.isInput = true ∧
            session.StandsFor site entry (session.inputDatum
              (site.planner.predicateAtomOperand operand).1) ∧
            ((left = .column .current entry.1 ∧ right = operand) ∨
              (left = operand ∧ right = .column .current entry.1)) ∧
            site.binaryOrVariant left op right path = some filter) := by
  have hcomparison := isComparisonOperator_of_equality hop
  have habsent {left right : FilterExpr} {path : InputPath}
      (hsides : left = .absent ∨ right = .absent)
      (hplan : site.binaryOrVariant left op right path = some filter) :
      filter = .absent := by
    rcases site.binaryOrVariant_atom hcomparison hplan with
      hfilter | ⟨hleft, hright, -⟩
    · exact hfilter
    · rcases hsides with rfl | rfl
      · cases hleft
      · cases hright
  rcases equality_sides hentry with
    ⟨hside, hidentity⟩ | ⟨hside, hidentity⟩
  · obtain ⟨name, column, rfl, hcolumn, hid⟩ := directCurrentColumn_eq hside
    refine ⟨rfl, fixedValueIdentity_operand hidentity, ?_⟩
    obtain ⟨operand, hoperand, hplan⟩ := site.planFilterExpr_columnFirst
      hcolumn hcomparison ⟨_, _, hidentity⟩ h
    rcases site.plannedFixedValue_input session hcolumn hidentity hoperand
      with rfl | ⟨hinput, hstands⟩
    · exact .inl (habsent (.inr rfl) hplan)
    · rw [hid] at hstands hplan
      exact .inr ⟨operand, _, _, _, hinput, hstands, .inl ⟨rfl, rfl⟩, hplan⟩
  · obtain ⟨name, column, rfl, hcolumn, hid⟩ := directCurrentColumn_eq hside
    refine ⟨fixedValueIdentity_operand hidentity, rfl, ?_⟩
    obtain ⟨operand, hoperand, hplan⟩ := site.planFilterExpr_columnLast
      hcolumn hcomparison ⟨_, _, hidentity⟩ h
    rcases site.plannedFrontValue_input session hcolumn hidentity hfirst
      hcomparison hoperand with rfl | ⟨hinput, hstands⟩
    · exact .inl (habsent (.inl rfl) hplan)
    · rw [hid] at hstands hplan
      exact .inr ⟨operand, _, _, _, hinput, hstands, .inr ⟨rfl, rfl⟩, hplan⟩

/-- An equality holds no dynamic predicate. -/
theorem attachDynamicFields_atom
    (fields : DynamicSurfaceFields)
    {op : BinaryOp}
    {left right atom : FilterExpr}
    {path : InputPath}
    {parameters : List SqlParameter}
    (hleft : attachDynamicFields fields left = left)
    (hright : attachDynamicFields fields right = right)
    (h : site.comparisonAtom left op right path = some atom) :
    attachDynamicFields fields (wrapOptionalAtom atom parameters) =
      wrapOptionalAtom atom parameters := by
  induction parameters with
  | nil =>
      cases op with
      | comparison op | «variable» operator =>
          simp only [comparisonAtom, Option.some.injEq] at h
          subst h
          simp [wrapOptionalAtom, attachDynamicFields, hleft, hright]
      | _ => simp [comparisonAtom] at h
  | cons parameter parameters ih =>
      have hwrap : wrapOptionalAtom atom (parameter :: parameters) =
          .optional parameter (wrapOptionalAtom atom parameters) := rfl
      rw [hwrap, attachDynamicFields, ih]

theorem attachDynamicFields_equality
    (fields : DynamicSurfaceFields)
    {op : BinaryOp}
    {operand left right filter : FilterExpr}
    {path : InputPath}
    {column : ColumnId}
    (hop : isEqualityOperator op = true)
    (hinput : (site.planner.predicateAtomOperand operand).1.isInput = true)
    (hsides :
      (left = .column .current column ∧ right = operand) ∨
        (left = operand ∧ right = .column .current column))
    (h : site.binaryOrVariant left op right path = some filter) :
    attachDynamicFields fields filter = filter := by
  rcases site.binaryOrVariant_atom (isComparisonOperator_of_equality hop) h
    with rfl | ⟨-, -, atom, parameters, hatom, rfl⟩
  · simp [attachDynamicFields]
  have hkept : attachDynamicFields fields
      (site.planner.predicateAtomOperand operand).1 =
        (site.planner.predicateAtomOperand operand).1 := by
    cases hoperand : (site.planner.predicateAtomOperand operand).1 <;>
      simp_all [FilterExpr.isInput, attachDynamicFields]
  have hcolumn : attachDynamicFields fields
      (site.planner.predicateAtomOperand (.column .current column)).1 =
        (site.planner.predicateAtomOperand (.column .current column)).1 := by
    rw [Planner.predicateAtomOperand_plain _ rfl]
    simp [attachDynamicFields]
  rcases hsides with ⟨rfl, rfl⟩ | ⟨rfl, rfl⟩
  · exact site.attachDynamicFields_atom fields hcolumn hkept hatom
  · exact site.attachDynamicFields_atom fields hkept hcolumn hatom

/-- An equality whose inputs are there fixes its column. -/
theorem fixes_equality
    (fields : DynamicSurfaceFields)
    {op : BinaryOp}
    {lhs rhs : Expr}
    {filter : FilterExpr}
    {position : List Bool}
    {entry : ColumnId × FixedValueIdentity}
    (hop : isEqualityOperator op = true)
    (hfirst : namesColumnsFirst (.binary op lhs rhs) = true)
    (hpresent : site.atomIsAbsent session.inputs.isPresent context op lhs
      rhs = false)
    (hentry : equality site.planner.catalog context.table position lhs rhs =
      some entry)
    (h : site.planFilterExpr context false (.binary op lhs rhs) =
      some filter) :
    ∃ value, session.StandsFor site entry value ∧
      session.Fixes site.planner.catalog
        (attachDynamicFields fields filter) entry.1 value := by
  obtain ⟨hlhs, hrhs, hplan⟩ :=
    site.planFilterExpr_equality session hop hfirst hentry h
  have hdenotes := site.planComparison_denotes session site.planner.catalog
    context (isComparisonOperator_of_equality hop) hlhs hrhs h
  rw [hpresent] at hdenotes
  obtain ⟨planned, -, hreads⟩ := hdenotes
  have hthere (scope : FilterSqlScope) (depth : Nat) (env : Env S) :
      session.reading site.planner.catalog scope depth env filter ≠
        none := by
    obtain ⟨value, hvalue, -⟩ := hreads scope depth env
    simp [hvalue]
  rcases hplan with rfl |
    ⟨operand, left, right, path, hinput, hstands, hsides, hplan⟩
  · exact absurd (Session.reading_absent session site.planner.catalog
      (.raw ⟨⟨[]⟩, 0⟩) 0 []) (hthere _ _ _)
  · rw [site.attachDynamicFields_equality fields hop hinput hsides hplan]
    exact ⟨_, hstands, site.fixes_binaryOrVariant session
      site.planner.catalog hop hinput hsides hthere hplan⟩

end FilterSite

namespace FilterSite

/-- A connective of planned operands; an operand that is a predicate itself
is planned as it stands. -/
theorem planFilterExpr_connective_eq_some
    (site : FilterSite)
    {context : ClauseContext}
    {op : BinaryOp}
    {connective : FilterOp}
    {lhs rhs : Expr}
    {filter : FilterExpr}
    (hop : (op = .and ∧ connective = .and) ∨ (op = .or ∧ connective = .or))
    (h : site.planFilterExpr context false (.binary op lhs rhs) =
      some filter) :
    ∃ left right, filter = .binary left connective right ∧
      (lhs.isOperand = false →
        site.planFilterExpr context false lhs = some left) ∧
      (rhs.isOperand = false →
        site.planFilterExpr context false rhs = some right) := by
  have hbinary :
      site.planFilterExpr context false (.binary op lhs rhs) =
        site.planBinary context false op lhs rhs
          (site.plannedOperands context false lhs rhs) := by
    rcases hop with ⟨rfl, rfl⟩ | ⟨rfl, rfl⟩ <;> rfl
  have hrelation :
      site.planRelationComparison context op lhs rhs
        (site.plannedOperands context false lhs rhs) = none := by
    rcases hop with ⟨rfl, rfl⟩ | ⟨rfl, rfl⟩ <;> cases lhs <;> rfl
  have hplain :
      site.planBinary context false op lhs rhs
          (site.plannedOperands context false lhs rhs) =
        site.planPlainComparison context false op lhs rhs
          (site.plannedOperands context false lhs rhs) := by
    unfold planBinary
    rw [hrelation]
    rcases hop with ⟨rfl, rfl⟩ | ⟨rfl, rfl⟩ <;> exact ite_self _
  have hconnective (left right : FilterExpr) (path : InputPath) :
      site.binaryOrVariant left op right path =
        some (.binary left connective right) := by
    rcases hop with ⟨rfl, rfl⟩ | ⟨rfl, rfl⟩ <;> rfl
  rw [hbinary, hplain] at h
  unfold planPlainComparison at h
  split at h
  · obtain ⟨left, -, h⟩ := Option.bind_eq_some_iff.mp h
    obtain ⟨right, -, h⟩ := Option.bind_eq_some_iff.mp h
    rw [hconnective] at h
    refine ⟨left, right, (Option.some.inj h).symm, ?_, ?_⟩ <;>
      intro hoperand <;> cases hoperand
  · obtain ⟨left, hleft, h⟩ := Option.bind_eq_some_iff.mp h
    obtain ⟨right, hright, h⟩ := Option.bind_eq_some_iff.mp h
    rw [hconnective] at h
    exact ⟨left, right, (Option.some.inj h).symm, fun _ => hleft,
      fun _ => hright⟩

end FilterSite

namespace Cardinality

/-- Only predicates guarantee anything. -/
theorem isOperand_of_mem
    {catalog : Catalog}
    {table : TableId}
    {refinements : List InputRefinement}
    {position : List Bool}
    {expr : Expr}
    {entry : ColumnId × FixedValueIdentity}
    (h : entry ∈ guaranteedEqualities catalog table refinements position
      expr) :
    expr.isOperand = false := by
  cases expr <;> simp_all [guaranteedEqualities, Expr.isOperand]

end Cardinality

namespace Session

variable {S : Type} [DecidableEq S] (session : Session S)
  (catalog : Catalog)

/-- A conjunction fixes what one of its sides fixes. -/
theorem fixes_and
    {left right : FilterExpr}
    {column : ColumnId}
    {value : Datum S}
    (h : session.Fixes catalog left column value ∨
      session.Fixes catalog right column value) :
    session.Fixes catalog (.binary left .and right) column value := by
  intro scope depth env hadmitted
  rw [reading_and] at hadmitted
  have hsides :
      Logic.admitted (session.reading catalog scope depth env left) = .tt ∧
        Logic.admitted (session.reading catalog scope depth env right) =
          .tt := by
    cases hleft : session.reading catalog scope depth env left with
    | none => simpa [hleft] using hadmitted
    | some left =>
        cases hright : session.reading catalog scope depth env right with
        | none => simpa [hleft, hright] using hadmitted
        | some right =>
            cases left <;> cases right <;>
              simp_all [Logic.Truth.and]
  rcases h with h | h
  · exact h scope depth env hsides.1
  · exact h scope depth env hsides.2

/-- A disjunction fixes what both of its sides fix. -/
theorem fixes_or
    {left right : FilterExpr}
    {column : ColumnId}
    {value : Datum S}
    (hleft : session.Fixes catalog left column value)
    (hright : session.Fixes catalog right column value) :
    session.Fixes catalog (.binary left .or right) column value := by
  intro scope depth env hadmitted
  rw [reading_or] at hadmitted
  have hside :
      Logic.admitted (session.reading catalog scope depth env left) = .tt ∨
        Logic.admitted (session.reading catalog scope depth env right) =
          .tt := by
    cases hl : session.reading catalog scope depth env left with
    | none => exact .inl rfl
    | some left =>
        cases hr : session.reading catalog scope depth env right with
        | none => exact .inr rfl
        | some right =>
            cases left <;> cases right <;>
              simp_all [Logic.Truth.or]
  rcases hside with h | h
  · exact hleft scope depth env h
  · exact hright scope depth env h

end Session

namespace FilterSite

open Cardinality

variable {S : Type} [DecidableEq S] (session : Session S)
  (site : FilterSite) {context : ClauseContext}
  {refinements : List InputRefinement}

/-- The planned predicate fixes every column that the written one guarantees
an equality of. -/
theorem fixes_guaranteedEqualities
    (fields : DynamicSurfaceFields)
    {expr : Expr}
    {filter : FilterExpr}
    {position : List Bool}
    {entry : ColumnId × FixedValueIdentity}
    (hfirst : namesColumnsFirst expr = true)
    (hpresent : RequiredInputsPresent site.planner.catalog refinements site
      session.inputs.isPresent context expr)
    (hentry : entry ∈ guaranteedEqualities site.planner.catalog
      context.table refinements position expr)
    (h : site.planFilterExpr context false expr = some filter) :
    ∃ value, session.StandsFor site entry value ∧
      session.Fixes site.planner.catalog
        (attachDynamicFields fields filter) entry.1 value := by
  induction expr generalizing position filter with
  | binary op lhs rhs ihlhs ihrhs =>
      have hatom (hop : isComparisonOperator op = true)
          (hpresent : (∃ position,
            requiredEquality site.planner.catalog context.table refinements
              position (predicateAnonymousKey op) lhs rhs ≠ []) →
            site.atomIsAbsent session.inputs.isPresent context op lhs rhs =
              false) :
          ∃ value, session.StandsFor site entry value ∧
            session.Fixes site.planner.catalog
              (attachDynamicFields fields filter) entry.1 value := by
        rw [guaranteedEqualities_atom hop] at hentry
        split at hentry
        · next hequality =>
            have hthere := hpresent ⟨position, List.ne_nil_of_mem hentry⟩
            exact site.fixes_equality session fields hequality hfirst hthere
              (mem_requiredEquality hentry) h
        · cases hentry
      cases op with
      | and =>
          obtain ⟨left, right, rfl, hlhs, hrhs⟩ :=
            site.planFilterExpr_connective_eq_some (.inl ⟨rfl, rfl⟩) h
          simp only [namesColumnsFirst, Bool.and_eq_true] at hfirst
          simp only [guaranteedEqualities, List.mem_append] at hentry
          simp only [attachDynamicFields]
          rcases hentry with hentry | hentry
          · obtain ⟨value, hstands, hfixes⟩ := ihlhs hfirst.1 hpresent.1
              hentry (hlhs (isOperand_of_mem hentry))
            exact ⟨value, hstands, session.fixes_and _ (.inl hfixes)⟩
          · obtain ⟨value, hstands, hfixes⟩ := ihrhs hfirst.2 hpresent.2
              hentry (hrhs (isOperand_of_mem hentry))
            exact ⟨value, hstands, session.fixes_and _ (.inr hfixes)⟩
      | or =>
          obtain ⟨left, right, rfl, hlhs, hrhs⟩ :=
            site.planFilterExpr_connective_eq_some (.inr ⟨rfl, rfl⟩) h
          simp only [namesColumnsFirst, Bool.and_eq_true] at hfirst
          simp only [guaranteedEqualities, List.mem_filter,
            List.contains_iff_mem] at hentry
          simp only [attachDynamicFields]
          obtain ⟨value, hstands, hfixes⟩ := ihlhs hfirst.1 hpresent.1
            hentry.1 (hlhs (isOperand_of_mem hentry.1))
          obtain ⟨other, hother, hfixesOther⟩ := ihrhs hfirst.2 hpresent.2
            hentry.2 (hrhs (isOperand_of_mem hentry.2))
          -- Both sides name the same input, so they fix the same value.
          have hnamed := not_anonymous_of_both hentry.1 hentry.2
          have hsame : other = value :=
            (hother hnamed).trans (hstands hnamed).symm
          subst hsame
          exact ⟨other, hstands, session.fixes_or _ hfixes hfixesOther⟩
      | comparison op => exact hatom rfl hpresent
      | «variable» operator => exact hatom rfl hpresent
      | isIn | notIn =>
          simp [guaranteedEqualities, isEqualityOperator] at hentry
  | _ => simp [guaranteedEqualities] at hentry

end FilterSite

end Dsql
