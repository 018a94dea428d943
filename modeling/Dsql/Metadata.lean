/-!
# Operation metadata

The published description of an operation: its SQL template, the inputs that
the template binds and the dynamic inputs that are rendered into it.  Result
shapes, policies, handoffs and source maps are left out, since no runtime
reads them.
-/

namespace Dsql

/-- What a definition is. -/
inductive DefinitionKind where
  | query
  | fragment
deriving DecidableEq, Repr

/-- How one scalar crosses the public JSON and PostgreSQL parameter
boundary. -/
inductive WireEncoding where
  | uuid
  | text
  | timestamptz
  | integer
  | bigInteger
  | numeric
  | float
  | boolean
  | json
  | textCast
  | unsupported
deriving DecidableEq, Repr

/-- A type of the database by name. -/
structure ProviderTypeMetadata where
  schema : String
  name : String
deriving DecidableEq, Repr

/-- The wire format of a value. -/
structure WireMetadata where
  encoding : WireEncoding
  providerType : Option ProviderTypeMetadata
deriving DecidableEq, Repr

/-- A typed compile-time replacement for one omitted public input. -/
inductive InputDefaultMetadata where
  | mk (kind : String) (value : Option String) (boolean : Option Bool)
      (items : Option (List InputDefaultMetadata))

/-- The kind of a default. -/
def InputDefaultMetadata.kind : InputDefaultMetadata → String
  | .mk kind _ _ _ => kind

/-- What is published of an input. -/
structure InputField where
  path : String
  dataType : String
  wire : WireMetadata
  pattern : Option String
  collection : Option Bool
  /-- Finite public values, empty for an open scalar. -/
  closedValues : List String
  required : Bool
  nullable : Bool
  default : Option InputDefaultMetadata

/-- A text with the value that selects it. -/
structure SqlVariantCaseMetadata where
  value : String
  text : String
deriving DecidableEq, Repr

/-- The texts of a variant. -/
structure SqlVariantMetadata where
  path : String
  cases : List SqlVariantCaseMetadata
  nullText : Option String
deriving DecidableEq, Repr

/-- What is published of a statement. -/
structure SqlMetadata where
  text : String
  parameters : List String
  variants : List SqlVariantMetadata
deriving DecidableEq, Repr

/-- One public selected-field capability of a dynamic input. -/
structure DynamicInputField where
  key : String
  dataType : String
  wire : WireMetadata
  pattern : Option String
deriving DecidableEq, Repr

/-- Structured SQL fragments of one dynamic predicate operator. -/
structure DynamicPredicateOperatorMetadata where
  name : String
  valueKind : String
  beforeValue : Option String
  afterValue : Option String
  cases : List SqlVariantCaseMetadata
deriving DecidableEq, Repr

/-- The texts of a field at a site. -/
structure DynamicInputSiteField where
  key : String
  operators : List DynamicPredicateOperatorMetadata
  directions : List SqlVariantCaseMetadata
deriving DecidableEq, Repr

/-- One exact compiler-owned marker and its site-specific lowerings. -/
structure DynamicInputSite where
  marker : String
  identitySql : String
  fields : List DynamicInputSiteField
deriving DecidableEq, Repr

/-- What is published of a dynamic input. -/
structure DynamicInputMetadata where
  path : String
  kind : String
  fields : List DynamicInputField
  sites : List DynamicInputSite
deriving DecidableEq, Repr

/-- What is published of an operation. -/
structure OperationMetadata where
  kind : DefinitionKind
  sql : SqlMetadata
  params : List InputField
  input : List InputField
  context : List InputField
  dynamicInputs : List DynamicInputMetadata

end Dsql
