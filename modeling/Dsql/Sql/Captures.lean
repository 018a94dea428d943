import Dsql.Sql.Semantics

/-!
# Captured aliases

A column reference is generated for one row source and names it by its alias.
SQL takes the innermost row source of that alias, which is another one where
an inner row source has the alias of an outer one.  Expressions without such
references have the same value under both rules.
-/

namespace Dsql

open Logic

/-- The innermost row source of the alias is the one that is meant. -/
def SelectionContext.isFound
    (source : SelectionContext)
    (sources : List SelectionContext) : Bool :=
  sources.find? (fun other => other.tableAlias == source.tableAlias) ==
    sources.find? (fun other => other.level == source.level)

namespace SelectionContext

variable {source inner : SelectionContext} {sources : List SelectionContext}

@[simp] theorem isFound_head : source.isFound (source :: sources) = true := by
  simp [isFound]

/-- A row source is still found inside of one with another alias. -/
theorem isFound_cons
    (h : source.isFound sources = true)
    (halias : source.tableAlias ≠ inner.tableAlias)
    (hlevel : source.level < inner.level) :
    source.isFound (inner :: sources) = true := by
  have hname : (inner.tableAlias == source.tableAlias) = false := by
    simpa using halias.symm
  have hcount : (inner.level == source.level) = false := by
    simpa using hlevel.ne'
  simpa [isFound, hname, hcount] using h

end SelectionContext

namespace SqlExpr

mutual

/-- Every column reference of an expression inside of some row sources finds
the row source that it was generated for. -/
def isUncaptured (sources : List SelectionContext) : SqlExpr → Bool
  | .column source _ => source.isFound sources
  | .literal _ | .parameter _ | .isPresent _ | .error => true
  | .binary left _ right | .variant left _ _ right =>
      isUncaptured sources left && isUncaptured sources right
  | .not operand | .isNull operand _ | .anyOf operand _ _
  | .variantNull operand _ _ => isUncaptured sources operand
  | .caseWhen guard value =>
      isUncaptured sources guard && isUncaptured sources value
  | .inList operand items _ =>
      isUncaptured sources operand && allUncaptured sources items
  | .dynamicSite _ fields => fieldsUncaptured sources fields
  | .exists source _ conditions | .countRows source _ conditions =>
      allUncaptured (source :: sources) conditions
  | .aggregate source _ conditions _ operand =>
      allUncaptured (source :: sources) conditions &&
        isUncaptured (source :: sources) operand

def allUncaptured (sources : List SelectionContext) : List SqlExpr → Bool
  | [] => true
  | expr :: exprs => isUncaptured sources expr && allUncaptured sources exprs

def fieldsUncaptured
    (sources : List SelectionContext) :
    List (DynamicSiteField SqlExpr) → Bool
  | [] => true
  | ⟨_, _, expression⟩ :: fields =>
      isUncaptured sources expression && fieldsUncaptured sources fields

end

section Lists

variable (sources : List SelectionContext)

@[simp] theorem allUncaptured_eq_all (exprs : List SqlExpr) :
    allUncaptured sources exprs = exprs.all (isUncaptured sources) := by
  induction exprs with
  | nil => simp [allUncaptured]
  | cons expr exprs ih => simp [allUncaptured, ih]

@[simp] theorem fieldsUncaptured_eq_all
    (fields : List (DynamicSiteField SqlExpr)) :
    fieldsUncaptured sources fields =
      fields.all (fun field => isUncaptured sources field.expression) := by
  induction fields with
  | nil => simp [fieldsUncaptured]
  | cons field fields ih => simp [fieldsUncaptured, ih]

end Lists

end SqlExpr

/-- The row sources of an environment. -/
def Env.sources {S : Type} (env : Env S) : List SelectionContext :=
  env.map Prod.fst

namespace Session

variable {S : Type} (session : Session S)

/-- The session under SQL's rule. -/
def written : Session S :=
  { session with binding := innermost }

/-- The session in which every reference reads the row source that it was
generated for. -/
def meant : Session S :=
  { session with binding := intended }

section Fields

@[simp] theorem written_engine : session.written.engine = session.engine :=
  rfl

@[simp] theorem written_inputs : session.written.inputs = session.inputs :=
  rfl

@[simp] theorem written_database :
    session.written.database = session.database := rfl

@[simp] theorem written_binding : session.written.binding = innermost := rfl

@[simp] theorem meant_engine : session.meant.engine = session.engine := rfl

@[simp] theorem meant_inputs : session.meant.inputs = session.inputs := rfl

@[simp] theorem meant_database : session.meant.database = session.database :=
  rfl

@[simp] theorem meant_binding : session.meant.binding = intended := rfl

end Fields

/-- A session that reads what is meant. -/
theorem meant_of_intended
    {session : Session S}
    (h : session.binding = intended) : session.meant = session := by
  cases session
  obtain rfl := h
  rfl

/-- Two searches that find the same row source find the same row. -/
theorem find?_sources
    {named counted : SelectionContext → Bool}
    {env : Env S}
    (h : env.sources.find? named = env.sources.find? counted) :
    env.find? (fun frame => named frame.1) =
      env.find? (fun frame => counted frame.1) := by
  induction env with
  | nil => rfl
  | cons frame env ih =>
      unfold Env.sources at h
      rw [List.map_cons, List.find?_cons, List.find?_cons] at h
      rw [List.find?_cons, List.find?_cons]
      cases hnamed : named frame.1 <;> cases hcounted : counted frame.1 <;>
        simp only [hnamed, hcounted] at h ⊢
      · exact ih h
      · have hfound := List.find?_some h
        rw [hnamed] at hfound
        cases hfound
      · have hfound := List.find?_some h.symm
        rw [hcounted] at hfound
        cases hfound

/-- A reference that is not captured reads the row source that is meant. -/
theorem column_isFound
    {env : Env S}
    {source : SelectionContext}
    (h : source.isFound env.sources = true)
    (column : ColumnId) :
    session.written.column env source column =
      session.meant.column env source column := by
  have hfound : innermost env source = intended env source := by
    unfold SelectionContext.isFound at h
    rw [beq_iff_eq] at h
    exact congrArg (Option.map Prod.snd) (find?_sources h)
  unfold Session.column
  rw [written_binding, meant_binding, hfound]

variable [DecidableEq S]

/-- Conditions with the same values hold together. -/
theorem evalAll_congr
    {other : Session S}
    {env : Env S}
    {conditions : List SqlExpr}
    (h : ∀ condition ∈ conditions,
      session.eval env condition = other.eval env condition) :
    session.evalAll env conditions = other.evalAll env conditions := by
  induction conditions with
  | nil => simp
  | cons condition conditions ih =>
      rw [evalAll_cons, evalAll_cons, h condition List.mem_cons_self,
        ih (fun rest hrest => h rest (List.mem_cons_of_mem condition hrest))]

/-- Expressions without captured references have one value under both
rules. -/
theorem eval_isUncaptured
    {expr : SqlExpr}
    {env : Env S}
    (h : expr.isUncaptured env.sources = true) :
    session.written.eval env expr = session.meant.eval env expr := by
  have hconditions {source : SelectionContext} {conditions : List SqlExpr}
      {env : Env S}
      (ih : ∀ condition ∈ conditions, ∀ {env : Env S},
        condition.isUncaptured env.sources = true →
          session.written.eval env condition =
            session.meant.eval env condition)
      (h : ∀ condition ∈ conditions,
        condition.isUncaptured (source :: env.sources) = true)
      (row : Row S) :
      session.written.evalAll ((source, row) :: env) conditions =
        session.meant.evalAll ((source, row) :: env) conditions :=
    session.written.evalAll_congr (fun condition hmem =>
      @ih condition hmem ((source, row) :: env) (h condition hmem))
  induction expr generalizing env with
  | column source column =>
      simp only [SqlExpr.isUncaptured] at h
      simpa [eval] using session.column_isFound h column
  | literal | parameter | isPresent | error => simp [eval]
  | binary left op right ihleft ihright =>
      simp only [SqlExpr.isUncaptured, Bool.and_eq_true] at h
      simp [eval, ihleft h.1, ihright h.2]
  | not_ operand ih =>
      simp only [SqlExpr.isUncaptured] at h
      simp [eval, ih h]
  | isNull operand negated ih =>
      simp only [SqlExpr.isUncaptured] at h
      simp [eval, ih h]
  | caseWhen guard value ihguard ihvalue =>
      simp only [SqlExpr.isUncaptured, Bool.and_eq_true] at h
      simp [eval, ihguard h.1, ihvalue h.2]
  | inList operand items negated ihoperand ihitems =>
      simp only [SqlExpr.isUncaptured, SqlExpr.allUncaptured_eq_all,
        Bool.and_eq_true, List.all_eq_true] at h
      have hitems : items.map (session.written.eval env) =
          items.map (session.meant.eval env) :=
        List.map_congr_left (fun item hitem => ihitems item hitem
          (h.2 item hitem))
      simp [eval, evalItems_eq_map, ihoperand h.1, hitems]
  | anyOf operand parameter negated ih =>
      simp only [SqlExpr.isUncaptured] at h
      simp [eval, ih h]
  | «variant» left path variants right ihleft ihright =>
      simp only [SqlExpr.isUncaptured, Bool.and_eq_true] at h
      simp [eval, ihleft h.1, ihright h.2]
  | variantNull operand path variants ih =>
      simp only [SqlExpr.isUncaptured] at h
      simp [eval, ih h]
  | dynamicSite path fields ih =>
      simp only [SqlExpr.isUncaptured, SqlExpr.fieldsUncaptured_eq_all,
        List.all_eq_true] at h
      have hfields :
          fields.map (fun field =>
              (field.key, session.written.eval env field.expression)) =
            fields.map (fun field =>
              (field.key, session.meant.eval env field.expression)) :=
        List.map_congr_left (fun field hfield =>
          congrArg (field.key, ·) (ih field hfield (h field hfield)))
      simp [eval, evalFields_eq_map, hfields]
  | exists_ source table conditions ih =>
      simp only [SqlExpr.isUncaptured, SqlExpr.allUncaptured_eq_all,
        List.all_eq_true] at h
      simp [eval, hconditions ih h]
  | countRows source table conditions ih =>
      simp only [SqlExpr.isUncaptured, SqlExpr.allUncaptured_eq_all,
        List.all_eq_true] at h
      simp [eval, hconditions ih h]
  | aggregate source table conditions function operand ih ihoperand =>
      simp only [SqlExpr.isUncaptured, SqlExpr.allUncaptured_eq_all,
        Bool.and_eq_true, List.all_eq_true] at h
      have hoperand (row : Row S) :
          session.written.eval ((source, row) :: env) operand =
            session.meant.eval ((source, row) :: env) operand :=
        ihoperand h.2
      simp [eval, hconditions ih h.1, hoperand]

/-- Conditions without captured references hold together under both rules. -/
theorem evalAll_isUncaptured
    {conditions : List SqlExpr}
    {env : Env S}
    (h : conditions.all (SqlExpr.isUncaptured env.sources) = true) :
    session.written.evalAll env conditions =
      session.meant.evalAll env conditions := by
  rw [List.all_eq_true] at h
  exact session.written.evalAll_congr (fun condition hmem =>
    session.eval_isUncaptured (h condition hmem))

end Session

end Dsql
