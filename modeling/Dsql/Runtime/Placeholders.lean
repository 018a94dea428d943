import Dsql.Logic.Fallible
import Dsql.Runtime.Rendering

/-!
# Placeholders

Where the operands of every dynamic input stand: after the parameters so far,
in the order of the first site, and shared by the later ones.
-/

namespace Dsql

namespace Execute

/-- A site with the pieces that come in the place of its marker. -/
structure PlacedSite where
  site : DynamicInputSite
  pieces : List SqlPiece

/-- Every marker stands exactly once in the SQL and makes room for its
pieces, whose operands are numbered from `start` on. -/
inductive Places (start : Nat) : List PlacedSite → String → String → Prop
  | nil (sql : String) : Places start [] sql sql
  | cons
      {placed : PlacedSite}
      {rest : List PlacedSite}
      {sql result : String}
      (before after : List Char)
      (once : Text.occurrences placed.site.marker.toList sql.toList = 1)
      (found : sql.toList = before ++ placed.site.marker.toList ++ after)
      (replaced : ∀ rendered,
        Text.replaceFirst placed.site.marker.toList rendered sql.toList =
          before ++ rendered ++ after)
      (others :
        Places start rest
          (String.ofList (before ++
            (SqlPiece.render start placed.pieces).toList ++ after)) result) :
      Places start (placed :: rest) sql result

/-- The sites of an input with their pieces. -/
structure SitesPlaced
    (library : ExecutorLibrary)
    (input : DynamicInputMetadata)
    (value : Json)
    (start : Nat)
    (placed : List PlacedSite)
    (before after : MaterializedOperation) : Prop where
  pieces : ∀ found ∈ placed,
    sitePieces library input found.site value = .ok found.pieces
  sql : Places start placed before.sql after.sql
  carried : ∀ found ∈ placed, ∀ offset operand,
    (SqlPiece.operands found.pieces)[offset]? = some operand →
      ∃ parameter, after.parameters[start + offset]? = some parameter ∧
        Carries library parameter operand

section Sites

variable {library : ExecutorLibrary}
variable {input : DynamicInputMetadata}
variable {value : Json}

theorem replaceDynamicMarker_ok
    {site : DynamicInputSite}
    {sql rendered result : String}
    (h : replaceDynamicMarker site sql rendered = .ok result) :
    Text.occurrences site.marker.toList sql.toList = 1 ∧
      ∃ before after, sql.toList = before ++ site.marker.toList ++ after ∧
        (∀ rendered, Text.replaceFirst site.marker.toList rendered sql.toList =
          before ++ rendered ++ after) ∧
        result = String.ofList (before ++ rendered.toList ++ after) := by
  unfold replaceDynamicMarker at h
  split at h
  · next honce =>
      obtain ⟨before, after, hfound, hreplace⟩ :=
        Text.replaceFirst_of_occurs site.marker.toList sql.toList
          (by rw [honce]; decide)
      cases h
      exact ⟨honce, before, after, hfound, hreplace, by rw [hreplace]⟩
  · cases h

/-- One site: its text, the operands that it consumes and the parameters that
they add. -/
theorem materializeSites_cons
    {site : DynamicInputSite}
    {rest : List DynamicInputSite}
    {expected : Option Nat}
    {start : Nat}
    {operation result : MaterializedOperation}
    (h : materializeSites library input value start (site :: rest) expected
      operation = .ok result) :
    ∃ pieces state sql,
      sitePieces library input site value = .ok pieces ∧
      Allocated library ⟨operation.parameters, start⟩
        (SqlPiece.operands pieces) state ∧
      (∀ bound ∈ expected, state.operandIndex = bound) ∧
      replaceDynamicMarker site operation.sql
        (SqlPiece.render start pieces) = .ok sql ∧
      materializeSites library input value start rest
        (some (expected.getD state.operandIndex)) ⟨sql, state.parameters⟩ =
          .ok result := by
  obtain ⟨⟨rendered, state⟩, hrender, hrest⟩ := except_bind_ok h
  obtain ⟨checked, hcheck, hrest⟩ := except_bind_ok hrest
  obtain ⟨sql, hsql, hrest⟩ := except_bind_ok hrest
  obtain ⟨pieces, hpieces, hrendered, hallocated⟩ :=
    renders_site value _ _ _ hrender
  refine ⟨pieces, state, sql, hpieces, hallocated, ?_, hrendered ▸ hsql,
    hrest⟩
  unfold checkOperandEnd at hcheck
  split at hcheck
  · next hall =>
      intro bound hbound
      rw [hbound] at hall
      simpa using hall
  · cases hcheck

/-- A site in front of placed sites. -/
theorem SitesPlaced.cons
    {site : DynamicInputSite}
    {pieces : List SqlPiece}
    {start : Nat}
    {placed : List PlacedSite}
    {sql : String}
    {parameters : List BoundParameter}
    {operation result : MaterializedOperation}
    (h : SitesPlaced library input value start placed ⟨sql, parameters⟩
      result)
    (hpieces : sitePieces library input site value = .ok pieces)
    (hsql : replaceDynamicMarker site operation.sql
      (SqlPiece.render start pieces) = .ok sql)
    (hcarried : ∀ offset operand,
      (SqlPiece.operands pieces)[offset]? = some operand →
        ∃ parameter, result.parameters[start + offset]? = some parameter ∧
          Carries library parameter operand) :
    SitesPlaced library input value start (⟨site, pieces⟩ :: placed)
      operation result := by
  obtain ⟨honce, before, after, hfound, hreplaced, rfl⟩ :=
    replaceDynamicMarker_ok hsql
  refine ⟨?_, .cons before after honce hfound hreplaced h.sql, ?_⟩
  · intro found hmem
    rcases List.mem_cons.mp hmem with rfl | hother
    · exact hpieces
    · exact h.pieces found hother
  · intro found hmem
    rcases List.mem_cons.mp hmem with rfl | hother
    · exact hcarried
    · exact h.carried found hother

/-- Later sites add no parameters. -/
theorem materializeSites_reused
    (sites : List DynamicInputSite)
    (operation : MaterializedOperation)
    {start : Nat}
    {result : MaterializedOperation}
    (hstart : start ≤ operation.parameters.length)
    (h : materializeSites library input value start sites
      (some operation.parameters.length) operation = .ok result) :
    result.parameters = operation.parameters ∧
      ∃ placed : List PlacedSite, placed.map PlacedSite.site = sites ∧
        SitesPlaced library input value start placed operation result := by
  induction sites generalizing operation with
  | nil =>
      cases h
      refine ⟨rfl, [], rfl, ?_, .nil _, ?_⟩
      · intro found hfound
        cases hfound
      · intro found hfound
        cases hfound
  | cons site rest ih =>
      obtain ⟨pieces, state, sql, hpieces, hallocated, hend, hsql, hrest⟩ :=
        materializeSites_cons h
      have hindex := hallocated.index
      rw [hend _ rfl] at hindex
      simp only at hindex
      have hparameters : state.parameters = operation.parameters := by
        rw [hallocated.parameters, List.drop_of_length_le, List.append_nil]
        simp only
        omega
      rw [hparameters] at hrest
      obtain ⟨hresult, placed, hsites, hplaced⟩ :=
        ih ⟨sql, operation.parameters⟩ hstart hrest
      refine ⟨hresult, ⟨site, pieces⟩ :: placed, by rw [List.map_cons, hsites],
        hplaced.cons hpieces hsql ?_⟩
      intro offset operand hget
      obtain ⟨parameter, hparameter, hcarries⟩ :=
        hallocated.carried offset operand hget
      rw [hparameters, ← hresult] at hparameter
      exact ⟨parameter, hparameter, hcarries⟩

/-- What a dynamic input adds: the operands of its first site. -/
theorem materializeDynamicInput_ok
    {values : InputValues}
    {operation result : MaterializedOperation}
    (h : materializeDynamicInput library input values operation =
      .ok result) :
    ∃ value placed,
      dynamicValue input values = .ok value ∧
      placed.map PlacedSite.site = input.sites ∧
      SitesPlaced library input value operation.parameters.length placed
        operation result ∧
      ∃ first, placed.head? = some first ∧
        result.parameters =
          operation.parameters ++ SqlPiece.operands first.pieces := by
  obtain ⟨value, hvalue, hrest⟩ := except_bind_ok h
  obtain ⟨materialized, hsites, hrest⟩ := except_bind_ok hrest
  split at hrest
  · cases hrest
  next hnonempty =>
  cases hrest
  cases hlist : input.sites with
  | nil => simp [hlist] at hnonempty
  | cons site rest =>
      rw [hlist] at hsites
      obtain ⟨pieces, state, sql, hpieces, hallocated, -, hsql, hlater⟩ :=
        materializeSites_cons hsites
      have hparameters : state.parameters =
          operation.parameters ++ SqlPiece.operands pieces := by
        rw [hallocated.parameters]
        simp
      have hindex : state.operandIndex = state.parameters.length := by
        rw [hallocated.index, hparameters, List.length_append]
      have hstart : operation.parameters.length ≤ state.parameters.length := by
        rw [hparameters, List.length_append]
        omega
      rw [Option.getD_none, hindex] at hlater
      obtain ⟨hresult, placed, hplacedSites, hplaced⟩ :=
        materializeSites_reused rest ⟨sql, state.parameters⟩ hstart hlater
      replace hresult : result.parameters = state.parameters := hresult
      refine ⟨value, ⟨site, pieces⟩ :: placed, hvalue,
        by rw [List.map_cons, hplacedSites],
        hplaced.cons hpieces hsql ?_, ⟨site, pieces⟩, rfl,
        hresult.trans hparameters⟩
      intro offset operand hget
      obtain ⟨parameter, hparameter, hcarries⟩ :=
        hallocated.carried offset operand hget
      rw [← hresult] at hparameter
      exact ⟨parameter, hparameter, hcarries⟩

end Sites

/-- A dynamic input with its value, the position of its first operand and its
sites. -/
structure InputPlacement where
  input : DynamicInputMetadata
  value : Json
  start : Nat
  placed : List PlacedSite

namespace InputPlacement

/-- The operands of the first site, which all sites share. -/
def operands (placement : InputPlacement) : List BoundParameter :=
  (placement.placed.head?.map (fun first =>
    SqlPiece.operands first.pieces)).getD []

end InputPlacement

/-- The sites of one input after those of another. -/
inductive PlacesAll : List InputPlacement → String → String → Prop
  | nil (sql : String) : PlacesAll [] sql sql
  | cons
      {placement : InputPlacement}
      {rest : List InputPlacement}
      {sql middle result : String}
      (first : Places placement.start placement.placed sql middle)
      (others : PlacesAll rest middle result) :
      PlacesAll (placement :: rest) sql result

/-- Every input starts where the operands of the one before end. -/
def Contiguous : Nat → List InputPlacement → Prop
  | _, [] => True
  | start, placement :: rest =>
      placement.start = start ∧
        Contiguous (start + placement.operands.length) rest

/-- The value and the sites of a placed input, whose operands are carried by
the parameters at their positions. -/
structure InputPlaced
    (library : ExecutorLibrary)
    (values : InputValues)
    (parameters : List BoundParameter)
    (placement : InputPlacement) : Prop where
  value : dynamicValue placement.input values = .ok placement.value
  sites : placement.placed.map PlacedSite.site = placement.input.sites
  pieces : ∀ found ∈ placement.placed,
    sitePieces library placement.input found.site placement.value =
      .ok found.pieces
  carried : ∀ found ∈ placement.placed, ∀ offset operand,
    (SqlPiece.operands found.pieces)[offset]? = some operand →
      ∃ parameter, parameters[placement.start + offset]? = some parameter ∧
        Carries library parameter operand

/-- What an operation is materialized to: its fixed parameters, then the
operands of its dynamic inputs, with every site in the SQL. -/
structure Materialized
    (library : ExecutorLibrary)
    (operation : OperationMetadata)
    (bindings : ExecutionBindings)
    (values : InputValues)
    (sql : String)
    (fixed : List BoundParameter)
    (placements : List InputPlacement)
    (result : MaterializedOperation) : Prop where
  values_eq :
    inputValues library bindings (declaredFields operation) [] = .ok values
  sql_eq :
    applyVariants (declaredFields operation) values operation.sql.variants
      operation.sql.text = .ok sql
  fixed_eq :
    operation.sql.parameters.mapM
      (fixedParameter (declaredFields operation) values) = .ok fixed
  inputs : placements.map InputPlacement.input = operation.dynamicInputs
  places : PlacesAll placements sql result.sql
  contiguous : Contiguous fixed.length placements
  parameters :
    result.parameters = fixed ++ placements.flatMap InputPlacement.operands
  placed : ∀ placement ∈ placements,
    InputPlaced library values result.parameters placement

section Inputs

variable {library : ExecutorLibrary}
variable {values : InputValues}

/-- Later parameters do not move earlier ones. -/
theorem InputPlaced.append
    {parameters : List BoundParameter}
    {placement : InputPlacement}
    (h : InputPlaced library values parameters placement)
    (others : List BoundParameter) :
    InputPlaced library values (parameters ++ others) placement := by
  refine ⟨h.value, h.sites, h.pieces, fun found hfound offset operand hget => ?_⟩
  obtain ⟨parameter, hparameter, hcarries⟩ :=
    h.carried found hfound offset operand hget
  refine ⟨parameter, ?_, hcarries⟩
  rw [List.getElem?_append_left (List.getElem?_eq_some_iff.mp hparameter).1]
  exact hparameter

theorem materializeDynamicInputs_ok
    (inputs : List DynamicInputMetadata)
    {operation result : MaterializedOperation}
    (h : materializeDynamicInputs library values inputs operation =
      .ok result) :
    ∃ placements,
      placements.map InputPlacement.input = inputs ∧
      PlacesAll placements operation.sql result.sql ∧
      Contiguous operation.parameters.length placements ∧
      result.parameters = operation.parameters ++
        placements.flatMap InputPlacement.operands ∧
      ∀ placement ∈ placements,
        InputPlaced library values result.parameters placement := by
  induction inputs generalizing operation with
  | nil =>
      cases h
      exact ⟨[], rfl, .nil _, trivial, by simp, fun _ hnil => by cases hnil⟩
  | cons input rest ih =>
      obtain ⟨middle, hinput, hrest⟩ := except_bind_ok h
      obtain ⟨value, placed, hvalue, hsites, hplaced, first, hfirst, hadded⟩ :=
        materializeDynamicInput_ok hinput
      obtain ⟨placements, hinputs, hplaces, hcontiguous, hparameters, hall⟩ :=
        ih hrest
      let placement : InputPlacement :=
        ⟨input, value, operation.parameters.length, placed⟩
      have hoperands : placement.operands =
          SqlPiece.operands first.pieces := by
        simp [placement, InputPlacement.operands, hfirst]
      have hmiddle : InputPlaced library values middle.parameters placement :=
        ⟨hvalue, hsites, hplaced.pieces, hplaced.carried⟩
      refine ⟨placement :: placements, by rw [List.map_cons, hinputs],
        .cons hplaced.sql hplaces, ⟨rfl, ?_⟩, ?_, ?_⟩
      · rw [hoperands]
        rw [hadded, List.length_append] at hcontiguous
        exact hcontiguous
      · rw [hparameters, hadded, List.flatMap_cons, hoperands,
          List.append_assoc]
      · intro other hother
        rcases List.mem_cons.mp hother with rfl | hlater
        · rw [hparameters]
          exact hmiddle.append _
        · exact hall other hlater

/-- A materialized operation is its template with every dynamic input
placed. -/
theorem materialize_ok
    {operation : OperationMetadata}
    {bindings : ExecutionBindings}
    {result : MaterializedOperation}
    (h : materialize library operation bindings = .ok result) :
    ∃ values sql fixed placements,
      Materialized library operation bindings values sql fixed placements
        result := by
  unfold materialize at h
  split at h
  · cases h
  · obtain ⟨values, hvalues, hrest⟩ := except_bind_ok h
    obtain ⟨sql, hsql, hrest⟩ := except_bind_ok hrest
    obtain ⟨fixed, hfixed, hrest⟩ := except_bind_ok hrest
    obtain ⟨placements, hinputs, hplaces, hcontiguous, hparameters, hplaced⟩ :=
      materializeDynamicInputs_ok _ hrest
    exact ⟨values, sql, fixed, placements, hvalues, hsql, hfixed, hinputs,
      hplaces, hcontiguous, hparameters, hplaced⟩

end Inputs

end Execute

end Dsql
