import AuditCollector.Exchange.Error

namespace AuditCollector

-- Whether the kernel audits at all. A locked state lasts until the next boot.
inductive EnabledState where
  | disabled | enabled | locked
deriving DecidableEq, Repr

namespace EnabledState

def toUInt32 : EnabledState → UInt32
  | disabled => 0
  | enabled => 1
  | locked => 2

def ofUInt32 (value : UInt32) : Except ExchangeError EnabledState :=
  if value = 0 then .ok disabled
  else if value = 1 then .ok enabled
  else if value = 2 then .ok locked
  else .error (.invalidArgument
    ("audit enabled state " ++ toString value.toNat ++ " (expected 0, 1 or 2)"))

def label : EnabledState → String
  | disabled => "Disabled"
  | enabled => "Enabled"
  | locked => "Locked"

@[simp] theorem ofUInt32_toUInt32 (state : EnabledState) :
    ofUInt32 state.toUInt32 = .ok state := by
  cases state <;> rfl

end EnabledState

end AuditCollector
