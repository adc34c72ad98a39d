import AuditCollector.Proofs.Channel.Memory
import AuditCollector.System.AuditSocket

namespace AuditCollector

-- A system call and what came of it.
inductive SystemCall where
  | registerSignal (signal : Nat) (result : Except IoError Unit)
  | socket (domain type protocol : Nat) (result : Except IoError Nat)
  | sendTo (descriptor : Nat) (data : Bytes) (flags : Nat) (address : Bytes)
    (result : Except IoError Nat)
  | receiveFrom (descriptor size flags addressSize : Nat) (result : Except IoError Datagram)
  | poll (descriptor events : Nat) (timeout : Int) (result : Except IoError Nat)
  | close (descriptor : Nat) (result : Except IoError Unit)

namespace SystemCall

-- What is done with an open socket before it is closed.
def IsWork (descriptor : Nat) : SystemCall → Prop
  | sendTo descriptor' _ _ _ _ | receiveFrom descriptor' _ _ _ _ | poll descriptor' _ _ _ =>
    descriptor' = descriptor
  | _ => False

-- The frame that is sent, whether it gets through or not.
def frame? : SystemCall → Option Bytes
  | sendTo _ data _ _ _ => some data
  | _ => none

end SystemCall

-- A system of any kind, with the calls that were made to it, the earliest first.
structure Recorded (ω : Type) where
  system : ω
  calls : List SystemCall := []

namespace Recorded

variable {ω : Type}

def record {α : Type} (recorded : Recorded ω) (result : α × ω) (call : α → SystemCall) :
    α × Recorded ω :=
  (result.1, { system := result.2, calls := recorded.calls ++ [call result.1] })

theorem record_eq {α : Type} {recorded recorded' : Recorded ω} {result : α × ω}
    {call : α → SystemCall} {a : α} (h : recorded.record result call = (a, recorded')) :
    result = (a, recorded'.system) := by
  cases h
  rfl

-- A call is recorded with what came of it.
theorem calls_of_record {α : Type} {recorded recorded' : Recorded ω} {result : α × ω}
    {call : α → SystemCall} {a : α} (h : recorded.record result call = (a, recorded')) :
    recorded'.calls = recorded.calls ++ [call a] := by
  cases h
  rfl

variable [SystemCalls ω]

instance : SystemCalls (Recorded ω) where
  registerSignal recorded signal :=
    recorded.record (SystemCalls.registerSignal recorded.system signal) (.registerSignal signal)
  socket recorded domain type protocol :=
    recorded.record (SystemCalls.socket recorded.system domain type protocol)
      (.socket domain type protocol)
  sendTo recorded descriptor data flags address :=
    recorded.record (SystemCalls.sendTo recorded.system descriptor data flags address)
      (.sendTo descriptor data flags address)
  receiveFrom recorded descriptor size flags addressSize :=
    recorded.record (SystemCalls.receiveFrom recorded.system descriptor size flags addressSize)
      (.receiveFrom descriptor size flags addressSize)
  poll recorded descriptor events timeout :=
    recorded.record (SystemCalls.poll recorded.system descriptor events timeout)
      (.poll descriptor events timeout)
  close recorded descriptor :=
    recorded.record (SystemCalls.close recorded.system descriptor) (.close descriptor)
  stopRequested recorded := SystemCalls.stopRequested recorded.system
  remaining recorded := SystemCalls.remaining recorded.system
  send_interrupted h := SystemCalls.send_interrupted (record_eq h)
  receive_le h := SystemCalls.receive_le (record_eq h)
  receive_interrupted h := SystemCalls.receive_interrupted (record_eq h)
  receive_would_block h := SystemCalls.receive_would_block (record_eq h)
  poll_not_ready h := SystemCalls.poll_not_ready (record_eq h)
  poll_ready h h' := SystemCalls.poll_ready (record_eq h) (record_eq h')

end Recorded

namespace AuditSocket

variable {ω : Type}

-- Since the calls were these, the socket was only worked with.
def WorkedSince (earlier : List SystemCall) (descriptor : Nat)
    (socket : AuditSocket (Recorded ω)) : Prop :=
  socket.descriptor = descriptor ∧ ∃ work, socket.system.calls = earlier ++ work ∧
    ∀ call ∈ work, call.IsWork descriptor

theorem WorkedSince.next {earlier : List SystemCall} {descriptor : Nat}
    {socket socket' : AuditSocket (Recorded ω)} {call : SystemCall}
    (h : socket.WorkedSince earlier descriptor) (hsame : socket'.descriptor = socket.descriptor)
    (hcalls : socket'.system.calls = socket.system.calls ++ [call])
    (hcall : call.IsWork socket.descriptor) : socket'.WorkedSince earlier descriptor := by
  obtain ⟨rfl, work, hwork, hall⟩ := h
  refine ⟨hsame, work ++ [call], ?_, ?_⟩
  · rw [hcalls, hwork, List.append_assoc]
  · intro call' hmem
    rcases List.mem_append.mp hmem with hmem | hmem
    · exact hall call' hmem
    · rw [List.mem_singleton.mp hmem]
      exact hcall

-- The socket remembers what was sent through it, and through the sockets before it.
def memory (ω : Type) [SystemCalls ω] : Channel.Memory (AuditSocket (Recorded ω)) where
  sent socket := socket.system.calls.filterMap SystemCall.frame?
  send socket frame := by
    change List.filterMap _ (socket.system.calls ++ [_]) = _
    rw [List.filterMap_append]
    rfl
  receive socket capacity mode peek := by
    change List.filterMap _ (socket.system.calls ++ [_]) = _
    rw [List.filterMap_append]
    exact List.append_nil _
  wait socket := by
    change List.filterMap _ (socket.system.calls ++ [_]) = _
    rw [List.filterMap_append]
    exact List.append_nil _

end AuditSocket

end AuditCollector
