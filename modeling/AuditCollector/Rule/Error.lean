import AuditCollector.Rule.Field
import AuditCollector.Text.Quoted

namespace AuditCollector.Rule

inductive Principal where
  | user | group
deriving DecidableEq, Repr

def Principal.name : Principal → String
  | user => "user"
  | group => "group"

inductive RuleError where
  | tooManyFields
  | unknownPrincipal (kind : Principal) (name : String)
  | invalidValue (field : Field) (value : String)
  | unsupportedField (field : Field)
deriving DecidableEq, Repr

def RuleError.message : RuleError → String
  | tooManyFields => "rule already holds the maximum of 64 fields"
  | unknownPrincipal kind name => "unknown " ++ kind.name ++ " " ++ Text.quote name
  | invalidValue field value =>
    "invalid value " ++ Text.quote value ++ " for field " ++ field.name
  | unsupportedField field => "unsupported rule field: " ++ field.name

end AuditCollector.Rule
