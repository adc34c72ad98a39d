import AuditCollector.Traced

namespace AuditCollector

-- Whether a receive waits for a message, and whether it takes it out of the queue.
inductive ReceiveMode where
  | blocking | nonBlocking
deriving DecidableEq, Repr

inductive Peek where
  | consume | peekOnly
deriving DecidableEq, Repr

-- Where a message came from, as far as the system says.
structure Sender where
  addressLength : Nat
  pid : UInt32
deriving DecidableEq, Repr

def Sender.kernelAddressLength : Nat := 12

-- One received message: the bytes that reached the buffer, and the length that
-- was reported for them.
structure Datagram where
  bytes : Bytes
  length : Nat
  sender : Sender
deriving DecidableEq, Repr

-- Failures after which a receive is simply made again.
def ReceiveMode.retries (mode : ReceiveMode) (error : IoError) : Prop :=
  error = .interrupted ∨ (mode = .blocking ∧ error = .wouldBlock)

instance (mode : ReceiveMode) (error : IoError) : Decidable (mode.retries error) :=
  inferInstanceAs (Decidable (_ ∨ _))

-- A way to talk to the kernel, with `σ` what it has still in store: messages,
-- answers, failures, signals.
--
-- Nothing is in store forever. `remaining` bounds what can still happen by
-- itself: an interruption uses some of it up, so repeating an interrupted call
-- comes to an end, and so does waiting for messages, since every wait either
-- uses something up, leads to a message that does when it is received, or
-- finds that it is time to stop.
class Channel (σ : Type) where
  send : σ → Bytes → Except IoError Nat × σ
  receive : σ → (capacity : Nat) → ReceiveMode → Peek → Except IoError Datagram × σ
  waitReadable : σ → Except IoError Bool × σ
  close : σ → Traced σ
  stopRequested : σ → Bool
  remaining : σ → Nat
  send_interrupted {s s' : σ} {frame : Bytes} :
    send s frame = (.error .interrupted, s') → remaining s' < remaining s
  receive_le {s s' : σ} {capacity : Nat} {mode : ReceiveMode} {peek : Peek}
      {result : Except IoError Datagram} :
    receive s capacity mode peek = (result, s') → remaining s' ≤ remaining s
  receive_retries {s s' : σ} {capacity : Nat} {mode : ReceiveMode} {peek : Peek}
      {error : IoError} :
    receive s capacity mode peek = (.error error, s') → mode.retries error →
      remaining s' < remaining s
  wait_not_ready {s s' : σ} {result : Except IoError Bool} :
    waitReadable s = (result, s') → result ≠ .ok true →
      remaining s' < remaining s ∨ stopRequested s' = true
  wait_ready {s s' s'' : σ} {capacity : Nat} {result : Except IoError Datagram} :
    waitReadable s = (.ok true, s') →
      receive s' capacity .blocking .consume = (result, s'') → remaining s'' < remaining s

namespace Channel

variable {σ : Type} [Channel σ]

-- Sends a frame, again after every interruption.
def sendRepeatedly (s : σ) (frame : Bytes) : Except IoError Nat × σ :=
  match h : send s frame with
  | (.ok sent, s) => (.ok sent, s)
  | (.error error, s') =>
    if interrupted : error = .interrupted then
      have := send_interrupted (interrupted ▸ h)
      sendRepeatedly s' frame
    else (.error error, s')
termination_by remaining s

-- Receives a message, again after every failure that calls for it.
def receiveRepeatedly (s : σ) (capacity : Nat) (mode : ReceiveMode) (peek : Peek) :
    Except IoError Datagram × σ :=
  match h : receive s capacity mode peek with
  | (.ok datagram, s) => (.ok datagram, s)
  | (.error error, s') =>
    if retries : mode.retries error then
      have := receive_retries h retries
      receiveRepeatedly s' capacity mode peek
    else (.error error, s')
termination_by remaining s

section Repeating

variable {s s' : σ} {frame : Bytes} {capacity sent : Nat} {mode : ReceiveMode} {peek : Peek}
  {datagram : Datagram} {error : IoError}

theorem sendRepeatedly_of_ok (h : send s frame = (.ok sent, s')) :
    sendRepeatedly s frame = (.ok sent, s') := by
  rw [sendRepeatedly]
  split
  · rename_i h'
    exact h'.symm.trans h
  · rename_i h'
    simp [h] at h'

theorem sendRepeatedly_of_error (h : send s frame = (.error error, s')) :
    sendRepeatedly s frame =
      if error = .interrupted then sendRepeatedly s' frame else (.error error, s') := by
  rw [sendRepeatedly]
  split
  · rename_i h'
    simp [h] at h'
  · rename_i h'
    obtain ⟨herror, rfl⟩ := Prod.mk.inj (h.symm.trans h')
    cases herror
    rfl

theorem receiveRepeatedly_of_ok (h : receive s capacity mode peek = (.ok datagram, s')) :
    receiveRepeatedly s capacity mode peek = (.ok datagram, s') := by
  rw [receiveRepeatedly]
  split
  · rename_i h'
    exact h'.symm.trans h
  · rename_i h'
    simp [h] at h'

theorem receiveRepeatedly_of_error (h : receive s capacity mode peek = (.error error, s')) :
    receiveRepeatedly s capacity mode peek =
      if mode.retries error then receiveRepeatedly s' capacity mode peek
      else (.error error, s') := by
  rw [receiveRepeatedly]
  split
  · rename_i h'
    simp [h] at h'
  · rename_i h'
    obtain ⟨herror, rfl⟩ := Prod.mk.inj (h.symm.trans h')
    cases herror
    rfl

end Repeating

-- Repeating leaves no more in store than the first call did.
theorem remaining_receiveRepeatedly_le_first {s s' : σ} {capacity : Nat} {mode : ReceiveMode}
    {peek : Peek} {result : Except IoError Datagram}
    (h : receive s capacity mode peek = (result, s')) :
    remaining (receiveRepeatedly s capacity mode peek).2 ≤ remaining s' := by
  fun_induction receiveRepeatedly s capacity mode peek generalizing s' result with
  | case1 s datagram s₁ h₁ => grind
  | case2 s error s₁ h₁ retries less ih =>
    obtain ⟨-, rfl⟩ := Prod.mk.inj (h₁.symm.trans h)
    rcases h₂ : receive s₁ capacity mode peek with ⟨result₂, s₂⟩
    exact Nat.le_trans (ih h₂) (receive_le h₂)
  | case3 s error s₁ h₁ done => grind

-- A wait that finds something, and the receive after it, use something up.
theorem remaining_receiveRepeatedly_lt {s s' : σ} {capacity : Nat}
    (h : waitReadable s = (.ok true, s')) :
    remaining (receiveRepeatedly s' capacity .blocking .consume).2 < remaining s := by
  rcases h₁ : receive s' capacity .blocking .consume with ⟨result, s₁⟩
  exact Nat.lt_of_le_of_lt (remaining_receiveRepeatedly_le_first h₁) (wait_ready h h₁)

end Channel

end AuditCollector
