namespace AuditCollector.Rule

inductive Operator where
  | bitMask | lt | gt | notEqual | equal | bitTest | le | ge
deriving DecidableEq, Repr, Inhabited

namespace Operator

def all : List Operator := [bitMask, lt, gt, notEqual, equal, bitTest, le, ge]

def bits : Operator → UInt32
  | bitMask => 0x08000000
  | lt => 0x10000000
  | gt => 0x20000000
  | notEqual => 0x30000000
  | equal => 0x40000000
  | bitTest => 0x48000000
  | le => 0x50000000
  | ge => 0x60000000

def ofBits? (bits : UInt32) : Option Operator := all.find? fun operator => operator.bits == bits

-- The spelling in configuration files.
def symbol : Operator → String
  | bitMask => "&"
  | lt => "<"
  | gt => ">"
  | notEqual => "!="
  | equal => "="
  | bitTest => "&="
  | le => "<="
  | ge => ">="

def ofSymbol? (symbol : String) : Option Operator :=
  all.find? fun operator => operator.symbol == symbol

-- The spelling in the description of a rule.
def label : Operator → String
  | bitMask => "BitMask"
  | lt => "Lt"
  | gt => "Gt"
  | notEqual => "NotEqual"
  | equal => "Equal"
  | bitTest => "BitTest"
  | le => "Le"
  | ge => "Ge"

@[simp] theorem ofBits?_bits (operator : Operator) : ofBits? operator.bits = some operator := by
  cases operator <;> rfl

end Operator

end AuditCollector.Rule
