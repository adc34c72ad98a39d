import AuditCollector.Bytes
import AuditCollector.Rule.Accounts
import AuditCollector.Rule.Error
import AuditCollector.Rule.Numeral
import AuditCollector.Rule.Operator
import AuditCollector.Rule.Permission

namespace AuditCollector.Rule

-- How many predicates a rule has room for, and how many words its mask of system
-- calls has.
def maxFields : Nat := 64
def maskWords : Nat := 64

structure Predicate where
  field : Field
  operator : Operator
  value : UInt32
deriving DecidableEq, Repr

end Rule

open Rule

-- A filter rule in the kernel's terms: parallel tables of numbers, of which the
-- first `count` slots are in use, and the watched path.
structure Rule where
  flags : UInt32
  action : UInt32
  count : Nat
  mask : Vector UInt32 maskWords
  fields : Vector UInt32 maxFields
  values : Vector UInt32 maxFields
  fieldFlags : Vector UInt32 maxFields
  path : Bytes
deriving DecidableEq

namespace Rule

-- Rules apply when a system call returns, and always make a record.
def exitFilter : UInt32 := 4
def alwaysRecord : UInt32 := 2

def push (rule : Rule) (field : Field) (operator : Operator) (value : UInt32) : Rule :=
  { rule with
    count := rule.count + 1
    fields := rule.fields.setIfInBounds rule.count field.id
    values := rule.values.setIfInBounds rule.count value
    fieldFlags := rule.fieldFlags.setIfInBounds rule.count operator.bits }

-- A rule for every access to `path`. It carries the predicates that the path is
-- the watched directory and that the access is of any kind.
def directoryWatch (path : Bytes) : Rule :=
  let blank : Rule := {
    flags := exitFilter
    action := alwaysRecord
    count := 0
    mask := ((Vector.replicate maskWords 0).setIfInBounds 0 0xFFFFFFFF).setIfInBounds 1 0xFFFFFFFF
    fields := Vector.replicate maxFields 0
    values := Vector.replicate maxFields 0
    fieldFlags := Vector.replicate maxFields 0
    path }
  (blank.push .dir .equal (UInt32.ofNat path.length)).push .perm .equal Permission.allBits

-- The first slot in use that holds the field.
def position? (rule : Rule) (field : Field) : Option Nat :=
  (rule.fields.toList.take rule.count).findIdx? fun id => id == field.id

def ensureRoom (rule : Rule) : Except RuleError Unit :=
  if maxFields ≤ rule.count then .error .tooManyFields else .ok ()

-- Replaces the kinds of access, or adds them to a rule that has none.
def setPermissions (rule : Rule) (permissions : UInt32) : Except RuleError Rule := do
  match rule.position? .perm with
  | some i => return { rule with values := rule.values.setIfInBounds i permissions }
  | none =>
    rule.ensureRoom
    return rule.push .perm .equal permissions

-- The number that a value stands for. Accounts can be given by number or by name,
-- the success field takes only the two truth values, other fields take nothing.
def resolve (accounts : Accounts) (field : Field) (value : String) : Except RuleError UInt32 :=
  let numeral : Except RuleError UInt32 :=
    match Numeral.parse? value.toList with
    | some id => .ok id
    | none => .error (.invalidValue field value)
  let startsWithDigit := value.toList.head?.any Char.isDigit
  if field.isUser then
    if startsWithDigit then numeral
    else match accounts.userId? value with
      | some id => .ok id
      | none => .error (.unknownPrincipal .user value)
  else if field.isGroup then
    if startsWithDigit then numeral
    else match accounts.groupId? value with
      | some id => .ok id
      | none => .error (.unknownPrincipal .group value)
  else if field = .success then
    if value = "0" then .ok 0
    else if value = "1" then .ok 1
    else .error (.invalidValue field value)
  else .error (.unsupportedField field)

-- Adds a predicate. Whether there is room is asked first.
def addField (accounts : Accounts) (rule : Rule) (field : Field) (operator : Operator)
    (value : String) : Except RuleError Rule := do
  rule.ensureRoom
  let resolved ← resolve accounts field value
  return rule.push field operator resolved

-- What the `i`th slot says, if its numbers mean anything.
def predicateAt? (rule : Rule) (i : Nat) : Option Predicate := do
  let field ← Field.ofId? (← rule.fields[i]?)
  let operator ← Operator.ofBits? (← rule.fieldFlags[i]?)
  let value ← rule.values[i]?
  return { field, operator, value }

def predicates (rule : Rule) : List Predicate :=
  (List.range rule.count).filterMap rule.predicateAt?

def Predicate.describe (predicate : Predicate) : String :=
  "RuleField \x7b field: " ++ predicate.field.label ++
    ", operator: " ++ predicate.operator.label ++
    ", value: " ++ toString predicate.value.toNat ++ " \x7d"

def describe (rule : Rule) : String :=
  "Rule \x7b flags: " ++ toString rule.flags.toNat ++
    ", action: " ++ toString rule.action.toNat ++
    ", path: " ++ Text.quoteBytes rule.path ++
    ", fields: [" ++ ", ".intercalate (rule.predicates.map Predicate.describe) ++ "] \x7d"

end Rule

end AuditCollector
