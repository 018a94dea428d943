import Dsql.Catalog
import Mathlib.Tactic

/-!
# Effective type capabilities

What the compiler accepts of a value of each type.  A provider type starts
from the built-in semantics of its logical type and takes its comparison
surface from provider facts; a domain and an authored mapping only narrow what
their base offers.
-/

namespace Dsql
namespace Types

inductive ScalarValidation where
  | any
  | integer
  | safeInteger
  | finiteFloat
deriving DecidableEq, Repr

/-- Accepted source kinds and value validation for one scalar surface. -/
structure ScalarAcceptance where
  kinds : List LiteralKind
  validation : ScalarValidation
  description : String
  pattern : Option String
deriving DecidableEq, Repr

/-- Narrows an acceptance surface to one authored nominal contract. -/
def ScalarAcceptance.narrow
    (acceptance : ScalarAcceptance)
    (name : String)
    (kind : LiteralKind)
    (pattern : Option String) : ScalarAcceptance :=
  { acceptance with
    kinds := [kind]
    description :=
      match pattern with
      | none => name ++ " " ++ kind.asStr
      | some pattern =>
          name ++ " " ++ kind.asStr ++ " matching pattern `" ++ pattern ++ "`"
    pattern := pattern }

structure TypeCapabilities where
  name : String
  aliases : List String
  description : String
  wire : WireEncoding
  operators : List ComparisonOp
  orderable : Bool
  literals : ScalarAcceptance
  defaults : ScalarAcceptance
  aggregates : AggregateCapabilities
deriving DecidableEq, Repr

def TypeCapabilities.supports
    (capabilities : TypeCapabilities)
    (operator : ComparisonOp) : Bool :=
  capabilities.operators.contains operator

/-! ## Built-in types -/

structure BuiltinTypeDefinition where
  dataType : DataType
  name : String
  databaseNames : List String
  description : String
  wire : WireEncoding
  operators : List ComparisonOp
  orderable : Bool
  literalKinds : List LiteralKind
  literalValidation : ScalarValidation
  literalDescription : String
  defaultKinds : List LiteralKind
  defaultValidation : ScalarValidation
  defaultDescription : String
  aggregates : AggregateCapabilities

def BuiltinTypeDefinition.aliases (definition : BuiltinTypeDefinition) :
    List String :=
  definition.name ::
    definition.databaseNames.filter (fun name => name != definition.name)

def equality : List ComparisonOp := [.eq, .ne]

def ordered : List ComparisonOp := [.eq, .ne, .gt, .ge, .lt, .le]

def textual : List ComparisonOp := [.eq, .ne, .like]

def noAggregates : AggregateCapabilities := ⟨false, false, none, none⟩

def minMax : AggregateCapabilities := ⟨true, true, none, none⟩

def exactAggregates : AggregateCapabilities :=
  ⟨true, true, some .numeric, some .numeric⟩

def builtinDefinition : DataType → BuiltinTypeDefinition
  | .uuid =>
      ⟨.uuid, "uuid", ["uuid"], "UUID", .uuid, equality, true,
        [.string], .any, "string", [.string], .any, "string", noAggregates⟩
  | .text =>
      ⟨.text, "text", ["text", "varchar", "bpchar", "char", "name"], "text", .text,
        textual, true, [.string], .any, "string", [.string], .any, "string", minMax⟩
  | .timestamptz =>
      ⟨.timestamptz, "timestamptz", ["timestamptz", "timestamp with time zone"],
        "timestamp with time zone", .timestamptz, ordered, true,
        [.string], .any, "string", [.string], .any, "string", minMax⟩
  | .int =>
      ⟨.int, "int", ["int2", "int4", "integer", "smallint"], "integer", .integer,
        ordered, true, [.number], .integer, "number",
        [.number], .safeInteger, "safe integer", exactAggregates⟩
  | .bigInt =>
      ⟨.bigInt, "bigint", ["int8", "bigint"], "64-bit integer", .bigInteger,
        ordered, true, [.number], .integer, "integer",
        [.string], .integer, "signed 64-bit integer string", exactAggregates⟩
  | .numeric =>
      ⟨.numeric, "numeric", ["numeric", "decimal"], "exact numeric", .numeric,
        ordered, true, [.number], .any, "number", [.number], .any, "number",
        ⟨false, false, some .numeric, some .numeric⟩⟩
  | .float =>
      ⟨.float, "float", ["float4", "real", "float8", "double precision"],
        "floating-point number", .float, ordered, true,
        [.number], .any, "number", [.number], .finiteFloat, "finite number",
        ⟨false, false, some .float, some .float⟩⟩
  | .boolean =>
      ⟨.boolean, "boolean", ["bool", "boolean"], "boolean", .boolean, equality, true,
        [.boolean], .any, "boolean", [.boolean], .any, "boolean", noAggregates⟩
  | .json =>
      ⟨.json, "json", ["json", "jsonb"], "JSON", .json, equality, true,
        [.string], .any, "string", [], .any, "value", noAggregates⟩
  | .unknown =>
      ⟨.unknown, "unknown", [], "unmapped provider type", .unsupported, equality, true,
        [], .any, "value", [], .any, "value", noAggregates⟩

def allDataTypes : List DataType :=
  [.uuid, .text, .timestamptz, .int, .bigInt, .numeric, .float, .boolean, .json,
    .unknown]

def dataTypeFromDatabaseName (name : String) : DataType :=
  match (allDataTypes.map builtinDefinition).find? (fun definition =>
      definition.databaseNames.contains name) with
  | none => .unknown
  | some definition => definition.dataType

namespace TypeCapabilities

def builtin (dataType : DataType) : TypeCapabilities :=
  let definition := builtinDefinition dataType
  { name := definition.name
    aliases := definition.aliases
    description := definition.description
    wire := definition.wire
    operators := definition.operators
    orderable := definition.orderable
    literals :=
      ⟨definition.literalKinds, definition.literalValidation,
        definition.literalDescription, none⟩
    defaults :=
      ⟨definition.defaultKinds, definition.defaultValidation,
        definition.defaultDescription, none⟩
    aggregates := definition.aggregates }

end TypeCapabilities

/-! ## Provider types -/

/-- Native classification and ordering facts for one type. -/
structure ProviderTypeFacts where
  kind : String
  category : String
  effectiveKind : Option String
  effectiveCategory : Option String
  orderable : Bool
deriving DecidableEq, Repr

def ProviderTypeFacts.supportsTextCast (facts : ProviderTypeFacts) : Bool :=
  let kind := facts.effectiveKind.getD facts.kind
  let category := facts.effectiveCategory.getD facts.category
  (kind == "b" || kind == "e") && category != "A"

def providerOperators : List (String × ComparisonOp) :=
  [("=", .eq), ("<>", .ne), (">", .gt), (">=", .ge), ("<", .lt), ("<=", .le),
    ("~~", .like)]

namespace TypeCapabilities

/-- Takes the comparison surface of the provider; `operations` are the names
of the operators the provider declares on the type. -/
def applyProviderComparisons
    (capabilities : TypeCapabilities)
    (provider : ProviderTypeFacts)
    (operations : List String) : TypeCapabilities :=
  { capabilities with
    operators :=
      (providerOperators.filter (fun operator =>
        operations.contains operator.1)).map Prod.snd
    orderable := provider.orderable }

def provider
    (dataType : DataType)
    (readableType : String)
    (facts : ProviderTypeFacts)
    (operations : List String) : TypeCapabilities :=
  let capabilities := builtin dataType
  let text := builtin .text
  let cast :=
    if dataType == .unknown && facts.supportsTextCast then
      { capabilities with
        name := text.name
        aliases := text.aliases
        description := readableType
        wire := .textCast
        literals := text.literals
        defaults := text.defaults }
    else
      capabilities
  cast.applyProviderComparisons facts operations

/-- Inherits scalar semantics through a provider domain while retaining the
domain's own comparison and ordering surface. -/
def domain
    (base : TypeCapabilities)
    (readableType : String)
    (facts : Option ProviderTypeFacts)
    (operations : List String) : TypeCapabilities :=
  let capabilities := { base with description := readableType }
  match facts with
  | none => capabilities
  | some facts =>
      let compared := capabilities.applyProviderComparisons facts operations
      { compared with
        operators :=
          compared.operators.filter (fun operator =>
            capabilities.operators.contains operator)
        orderable := compared.orderable && capabilities.orderable }

/-- An array's provider comparison surface, without scalar behavior. -/
def array
    (readableType : String)
    (facts : Option ProviderTypeFacts)
    (operations : List String) : TypeCapabilities :=
  let capabilities := { builtin .unknown with description := readableType }
  match facts with
  | none => capabilities
  | some facts => capabilities.applyProviderComparisons facts operations

/-! ## Authored mappings -/

/-- Inherits configured scalar semantics through a domain while preserving
the domain's provider-owned comparison surface. -/
def inheritMappedDomain (capabilities base : TypeCapabilities) :
    TypeCapabilities :=
  { capabilities with
    name := base.name
    aliases := base.aliases
    wire := base.wire
    literals := base.literals
    defaults := base.defaults
    aggregates := base.aggregates
    operators :=
      capabilities.operators.filter (fun operator =>
        base.operators.contains operator)
    orderable := capabilities.orderable && base.orderable }

def applyMapping
    (capabilities : TypeCapabilities)
    (name : String)
    (literal : LiteralKind)
    (pattern : Option String)
    (operators : Option (List ComparisonOp))
    (orderable : Option Bool) : TypeCapabilities :=
  { capabilities with
    name := name
    aliases := [name]
    literals := capabilities.literals.narrow name literal pattern
    defaults := capabilities.defaults.narrow name literal pattern
    operators := operators.getD capabilities.operators
    orderable := if orderable = some false then false else capabilities.orderable }

/-! ## Narrowing -/

/-- Capabilities whose comparison and ordering surface is at most another's. -/
def Narrows (capabilities other : TypeCapabilities) : Prop :=
  (∀ operator ∈ capabilities.operators, operator ∈ other.operators) ∧
    (capabilities.orderable = true → other.orderable = true)

theorem Narrows.refl (capabilities : TypeCapabilities) :
    capabilities.Narrows capabilities :=
  ⟨fun _ h => h, fun h => h⟩

theorem Narrows.trans
    {first second third : TypeCapabilities}
    (h : first.Narrows second)
    (h' : second.Narrows third) :
    first.Narrows third :=
  ⟨fun operator hmem => h'.1 operator (h.1 operator hmem),
    fun horderable => h'.2 (h.2 horderable)⟩

/-- A domain keeps within the provider's surface and within its base's. -/
theorem inheritMappedDomain_narrows (capabilities base : TypeCapabilities) :
    (capabilities.inheritMappedDomain base).Narrows capabilities ∧
      (capabilities.inheritMappedDomain base).Narrows base := by
  unfold Narrows inheritMappedDomain
  refine ⟨⟨?_, ?_⟩, ?_, ?_⟩
  · intro operator hmem
    exact (List.mem_filter.mp hmem).1
  · intro horderable
    exact (Bool.and_eq_true_iff.mp horderable).1
  · intro operator hmem
    exact List.contains_iff_mem.mp (List.mem_filter.mp hmem).2
  · intro horderable
    exact (Bool.and_eq_true_iff.mp horderable).2

end TypeCapabilities

end Types
end Dsql
