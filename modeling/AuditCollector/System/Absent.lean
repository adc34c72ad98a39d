import AuditCollector.System.Calls

namespace AuditCollector

-- A system that knows no audit sockets. Opening one says so, and no other call
-- has a socket to work on.
structure AbsentSystem where

namespace AbsentSystem

def protocolNotSupported : IoError := .os 93
def badDescriptor : IoError := .os 9

instance : SystemCalls AbsentSystem where
  registerSignal system _ := (.ok (), system)
  socket system _ _ _ := (.error protocolNotSupported, system)
  sendTo system _ _ _ _ := (.error badDescriptor, system)
  receiveFrom system _ _ _ _ := (.error badDescriptor, system)
  poll system _ _ _ := (.error badDescriptor, system)
  close system _ := (.error badDescriptor, system)
  stopRequested _ := true
  remaining _ := 0
  send_interrupted h := by simp [badDescriptor] at h
  receive_le _ := Nat.le_refl _
  receive_interrupted h := by simp [badDescriptor] at h
  receive_would_block h := by simp [badDescriptor] at h
  poll_not_ready _ _ := .inr rfl
  poll_ready h := by simp at h

end AbsentSystem

end AuditCollector
