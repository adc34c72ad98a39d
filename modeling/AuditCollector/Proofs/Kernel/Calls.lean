import AuditCollector.Proofs.Channel.View
import AuditCollector.Proofs.Kernel.Answering
import AuditCollector.System.AuditSocket

namespace AuditCollector.AnsweringKernel

variable {kernel kernel' : AnsweringKernel}

-- What the flags of a receive ask for.
def modeOf (flags : Nat) : ReceiveMode :=
  if flags &&& AuditSocket.dontWait = 0 then .blocking else .nonBlocking

def peekOf (flags : Nat) : Peek := if flags &&& AuditSocket.leaveQueued = 0 then .consume else .peekOnly

theorem modeOf_receiveFlags (mode : ReceiveMode) (peek : Peek) :
    modeOf (AuditSocket.receiveFlags mode peek) = mode := by
  cases mode <;> cases peek <;> rfl

theorem peekOf_receiveFlags (mode : ReceiveMode) (peek : Peek) :
    peekOf (AuditSocket.receiveFlags mode peek) = peek := by
  cases mode <;> cases peek <;> rfl

def poll (kernel : AnsweringKernel) : Except IoError Nat × AnsweringKernel :=
  (kernel.waitReadable.1.map fun ready => if ready then 1 else 0, kernel.waitReadable.2)

theorem waitReadable_of_poll {result : Except IoError Nat} (h : kernel.poll = (result, kernel')) :
    ∃ waited, kernel.waitReadable = (waited, kernel') ∧
      result = waited.map fun ready => if ready then 1 else 0 := by
  obtain ⟨rfl, rfl⟩ := Prod.mk.inj h
  exact ⟨_, rfl, rfl⟩

-- The kernel behind its system calls. There is one socket, and it can be opened and closed.
instance : SystemCalls AnsweringKernel where
  registerSignal kernel _ := (.ok (), kernel)
  socket kernel _ _ _ := (.ok 3, kernel)
  sendTo kernel _ frame _ _ := kernel.send frame
  receiveFrom kernel _ size flags _ := kernel.receive size (modeOf flags) (peekOf flags)
  poll kernel _ _ _ := kernel.poll
  close kernel _ := (.ok (), kernel)
  stopRequested := stop
  remaining := remaining
  send_interrupted := remaining_send_lt
  receive_le := remaining_receive_le
  receive_interrupted h := remaining_receive_retries h (.inl rfl)
  receive_would_block h hwaits := remaining_receive_retries h (.inr ⟨if_pos hwaits, rfl⟩)
  poll_not_ready h hresult := by
    obtain ⟨waited, hwait, rfl⟩ := waitReadable_of_poll h
    refine .inr (stop_of_not_ready hwait ?_)
    rintro rfl
    exact hresult 0 rfl
  poll_ready h hreceive := by
    obtain ⟨waited, hwait, hready⟩ := waitReadable_of_poll h
    match waited with
    | .error _ => cases hready
    | .ok false => cases hready
    | .ok true => exact remaining_receive_of_ready hwait hreceive

-- The socket seen as the kernel that it goes to.
def behindSocket : Channel.View (AuditSocket AnsweringKernel) AnsweringKernel where
  see := AuditSocket.system
  send _ _ := rfl
  receive socket capacity mode peek := by
    have hreceive : Channel.receive socket capacity mode peek =
        (socket.system.receive capacity (modeOf (AuditSocket.receiveFlags mode peek))
          (peekOf (AuditSocket.receiveFlags mode peek))).map id ({ socket with system := · }) := rfl
    rw [hreceive, modeOf_receiveFlags, peekOf_receiveFlags]
    rfl

end AuditCollector.AnsweringKernel
