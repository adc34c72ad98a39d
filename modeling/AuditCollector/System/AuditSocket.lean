import AuditCollector.System.Calls

namespace AuditCollector

-- A socket to the audit system of the kernel. It goes to the kernel alone, so a
-- send has only one address.
structure AuditSocket (ω : Type) where
  descriptor : Nat
  system : ω

namespace AuditSocket

variable {ω : Type} [SystemCalls ω]

-- The numbers that name the kind of socket: the netlink family, a raw socket that
-- child processes do not get, and the audit protocol.
def family : Nat := 16
def kind : Nat := 3 ||| 0x80000
def protocol : Nat := 9

def dontWait : Nat := 0x40
def leaveQueued : Nat := 0x02
def readable : Nat := 0x01
def forever : Int := -1

-- The family, then zeros: the kernel itself.
def kernelAddress : Bytes :=
  Bytes.ofUInt16 16 ++ List.replicate (Sender.kernelAddressLength - 2) 0

def connect (system : ω) : Traced (Except ExchangeError (AuditSocket ω) × ω) := do
  match SystemCalls.socket system family kind protocol with
  | (.error error, system) =>
    Traced.emit (.socketRefused error)
    return (.error (.channelUnavailable error), system)
  | (.ok descriptor, system) =>
    Traced.emit (.socketOpened descriptor)
    return (.ok { descriptor, system }, system)

def send (socket : AuditSocket ω) (frame : Bytes) : Except IoError Nat × AuditSocket ω :=
  let (result, system) :=
    SystemCalls.sendTo socket.system socket.descriptor frame 0 kernelAddress
  (result, { socket with system })

def receiveFlags (mode : ReceiveMode) (peek : Peek) : Nat :=
  (if mode = .nonBlocking then dontWait else 0) ||| (if peek = .peekOnly then leaveQueued else 0)

def receive (socket : AuditSocket ω) (capacity : Nat) (mode : ReceiveMode) (peek : Peek) :
    Except IoError Datagram × AuditSocket ω :=
  let (result, system) := SystemCalls.receiveFrom socket.system socket.descriptor capacity
    (receiveFlags mode peek) Sender.kernelAddressLength
  (result, { socket with system })

def waitReadable (socket : AuditSocket ω) : Except IoError Bool × AuditSocket ω :=
  let (result, system) := SystemCalls.poll socket.system socket.descriptor readable forever
  (result.map (decide <| 0 < ·), { socket with system })

-- Lets go of the socket. That it could not be closed is told.
def close (socket : AuditSocket ω) : Traced (AuditSocket ω) := do
  match SystemCalls.close socket.system socket.descriptor with
  | (.ok (), system) => return { socket with system }
  | (.error error, system) =>
    Traced.emit (.socketCloseFailed socket.descriptor error)
    return { socket with system }

def release (socket : AuditSocket ω) : ω :=
  (SystemCalls.close socket.system socket.descriptor).2

theorem waitReadable_eq {socket socket' : AuditSocket ω} {result : Except IoError Bool}
    (h : socket.waitReadable = (result, socket')) :
    ∃ polled system, SystemCalls.poll socket.system socket.descriptor readable forever
        = (polled, system) ∧
      result = polled.map (decide <| 0 < ·) ∧ socket' = { socket with system } :=
  ⟨_, _, rfl, (congrArg Prod.fst h).symm, (congrArg Prod.snd h).symm⟩

theorem receive_eq {socket socket' : AuditSocket ω} {capacity : Nat} {mode : ReceiveMode}
    {peek : Peek} {result : Except IoError Datagram}
    (h : socket.receive capacity mode peek = (result, socket')) :
    ∃ system, SystemCalls.receiveFrom socket.system socket.descriptor capacity
        (receiveFlags mode peek) Sender.kernelAddressLength = (result, system) ∧
      socket' = { socket with system } := by
  obtain ⟨rfl, rfl⟩ := Prod.mk.inj h
  exact ⟨_, rfl, rfl⟩

instance : Channel (AuditSocket ω) where
  send := send
  receive := receive
  waitReadable := waitReadable
  close := close
  stopRequested socket := SystemCalls.stopRequested socket.system
  remaining socket := SystemCalls.remaining socket.system
  send_interrupted {s s' frame} h := by
    obtain ⟨hresult, rfl⟩ := Prod.mk.inj h
    exact SystemCalls.send_interrupted (Prod.ext hresult rfl)
  receive_le {s s' capacity mode peek result} h := by
    obtain ⟨system, hreceive, rfl⟩ := receive_eq h
    exact SystemCalls.receive_le hreceive
  receive_retries {s s' capacity mode peek error} h retries := by
    obtain ⟨system, hreceive, rfl⟩ := receive_eq h
    rcases retries with rfl | ⟨rfl, rfl⟩
    · exact SystemCalls.receive_interrupted hreceive
    · exact SystemCalls.receive_would_block hreceive (by cases peek <;> rfl)
  wait_not_ready {s s' result} h hresult := by
    obtain ⟨polled, system, hpoll, rfl, rfl⟩ := waitReadable_eq h
    refine SystemCalls.poll_not_ready hpoll fun n hn => hresult ?_
    simp [hn, Except.map]
  wait_ready {s s' s'' capacity result} h h' := by
    obtain ⟨polled, system, hpoll, hready, rfl⟩ := waitReadable_eq h
    obtain ⟨system', hreceive, rfl⟩ := receive_eq h'
    match polled with
    | .error _ => cases hready
    | .ok 0 => cases hready
    | .ok (n + 1) => exact SystemCalls.poll_ready hpoll hreceive

end AuditSocket

end AuditCollector
