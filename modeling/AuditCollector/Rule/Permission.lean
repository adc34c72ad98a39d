namespace AuditCollector.Rule

inductive Permission where
  | read | write | exec | attr
deriving DecidableEq, Repr

namespace Permission

def bit : Permission → UInt32
  | exec => 1
  | write => 2
  | read => 4
  | attr => 8

-- The spelling in configuration files, where two kinds have a second one.
def ofName? : String → Option Permission
  | "read" => some read
  | "write" => some write
  | "exec" | "execute" => some exec
  | "attr" | "attribute" => some attr
  | _ => none

def label : Permission → String
  | read => "Read"
  | write => "Write"
  | exec => "Exec"
  | attr => "Attr"

def allBits : UInt32 := 0xF

-- The bits of a list of kinds. Neither order nor repetition matters.
def mask (permissions : List Permission) : UInt32 :=
  permissions.foldl (fun mask permission => mask ||| permission.bit) 0

end Permission

end AuditCollector.Rule
