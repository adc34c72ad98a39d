import AuditCollector.Frame.Envelope
import AuditCollector.Scripted.Socket
import AuditCollector.System.Calls

namespace AuditCollector.Scripted

open AuditCollector.Frame

inductive Call where
  | socket (domain type protocol : Nat)
  | sendTo (data : Bytes) (flags : Nat) (address : Bytes)
  | receiveFrom (size flags addressSize : Nat)
  | poll (descriptors events : Nat) (timeout : Int)
  | close
deriving DecidableEq, Repr

inductive Arrival where
  | message (frame : Bytes) (sender : Sender)
  | failure (error : IoError)
deriving DecidableEq, Repr

-- One planned end of a wait: what arrives during it, whether a signal does, and
-- what it reports.
structure PollStep where
  arrivals : List Arrival := []
  signal : Bool := false
  result : Except IoError Nat := .ok 1
deriving Repr

-- The system side of the calls, acting out a script and keeping a record of all
-- calls. With `answers` the kernel answers every request that reaches it whole:
-- with the next error number of the list, and with success when it is used up.
structure Kernel where
  signalFaults : List IoError := []
  socketFaults : List IoError := []
  sendFaults : List SendFault := []
  closeFaults : List IoError := []
  polls : List PollStep := []
  inbound : List Arrival := []
  answers : Option (List Int) := none
  calls : List Call := []
  stop : Bool := false
deriving Repr

namespace Kernel

def descriptor : Nat := 100

def record (kernel : Kernel) (call : Call) : Kernel :=
  { kernel with calls := kernel.calls ++ [call] }

-- The kernel's answer to a request: a notice under its number, with its header.
def answerTo (request : Bytes) (errno : Int) : Bytes :=
  let header : Header := {
    length := 36
    messageType := Envelope.errorType
    flags := 0
    sequence := request.uint32At 8
    pid := 0 }
  header.toBytes ++ Bytes.ofUInt32 (Int32.ofInt (-errno)).toUInt32 ++ request.take headerLength

def answer (kernel : Kernel) (request : Bytes) : Kernel :=
  match kernel.answers with
  | none => kernel
  | some errnos => { kernel with
      answers := some errnos.tail
      inbound := kernel.inbound ++
        [.message (answerTo request (errnos.head?.getD 0)) ⟨Sender.kernelAddressLength, 0⟩] }

def registerSignal (kernel : Kernel) : Except IoError Unit × Kernel :=
  match kernel.signalFaults with
  | error :: signalFaults => (.error error, { kernel with signalFaults })
  | [] => (.ok (), kernel)

def socket (kernel : Kernel) (domain type protocol : Nat) : Except IoError Nat × Kernel :=
  let kernel := kernel.record (.socket domain type protocol)
  match kernel.socketFaults with
  | error :: socketFaults => (.error error, { kernel with socketFaults })
  | [] => (.ok descriptor, kernel)

def sendTo (kernel : Kernel) (data : Bytes) (flags : Nat) (address : Bytes) :
    Except IoError Nat × Kernel :=
  let kernel := kernel.record (.sendTo data flags address)
  match kernel.sendFaults with
  | .fail error :: sendFaults => (.error error, { kernel with sendFaults })
  | .short limit :: sendFaults => (.ok (min limit data.length), { kernel with sendFaults })
  | [] => (.ok data.length, kernel.answer data)

def receiveFrom (kernel : Kernel) (size flags addressSize : Nat) :
    Except IoError Datagram × Kernel :=
  let kernel := kernel.record (.receiveFrom size flags addressSize)
  match kernel.inbound with
  | [] => (.error (if flags &&& 0x40 = 0 then .os 107 else .wouldBlock), kernel)
  | .failure error :: inbound => (.error error, { kernel with inbound })
  | .message frame sender :: inbound =>
    let bytes := frame.take size
    (.ok { bytes, length := bytes.length, sender },
      if flags &&& 0x02 = 0 then { kernel with inbound } else kernel)

-- A wait for which nothing is planned finds what is queued. When nothing is, a
-- signal ends it.
def poll (kernel : Kernel) (events : Nat) (timeout : Int) : Except IoError Nat × Kernel :=
  let kernel := kernel.record (.poll 1 events timeout)
  match kernel.polls with
  | step :: polls =>
    (step.result, { kernel with
      polls
      inbound := kernel.inbound ++ step.arrivals
      stop := kernel.stop || step.signal })
  | [] =>
    if kernel.inbound = [] then (.error .interrupted, { kernel with stop := true })
    else (.ok 1, kernel)

def close (kernel : Kernel) : Except IoError Unit × Kernel :=
  let kernel := kernel.record .close
  match kernel.closeFaults with
  | error :: closeFaults => (.error error, { kernel with closeFaults })
  | [] => (.ok (), kernel)

def remaining (kernel : Kernel) : Nat :=
  kernel.inbound.length + kernel.sendFaults.length + kernel.polls.length +
    (kernel.polls.flatMap fun step => step.arrivals).length

section Remaining

variable {kernel kernel' : Kernel} {size flags addressSize events : Nat} {timeout : Int}

theorem remaining_sendTo_lt {data address : Bytes}
    (h : kernel.sendTo data flags address = (.error .interrupted, kernel')) :
    kernel'.remaining < kernel.remaining := by
  unfold sendTo record at h
  unfold remaining
  grind

theorem remaining_receiveFrom_le {result : Except IoError Datagram}
    (h : kernel.receiveFrom size flags addressSize = (result, kernel')) :
    kernel'.remaining ≤ kernel.remaining := by
  unfold receiveFrom record at h
  unfold remaining
  grind

-- A receive that consumes takes away whatever the queue starts with.
theorem remaining_receiveFrom_lt {result : Except IoError Datagram}
    (h : kernel.receiveFrom size 0 addressSize = (result, kernel')) (hinbound : kernel.inbound ≠ []) :
    kernel'.remaining < kernel.remaining := by
  unfold receiveFrom record at h
  unfold remaining
  grind

theorem remaining_receiveFrom_interrupted
    (h : kernel.receiveFrom size flags addressSize = (.error .interrupted, kernel')) :
    kernel'.remaining < kernel.remaining := by
  unfold receiveFrom record at h
  unfold remaining
  grind

theorem remaining_receiveFrom_would_block
    (h : kernel.receiveFrom size flags addressSize = (.error .wouldBlock, kernel'))
    (hflags : flags &&& 0x40 = 0) : kernel'.remaining < kernel.remaining := by
  unfold receiveFrom record at h
  unfold remaining
  grind

-- A wait leaves no more in store, and less if it was planned.
theorem remaining_poll (kernel : Kernel) (events : Nat) (timeout : Int) :
    (kernel.poll events timeout).2.remaining
      + (if kernel.polls = [] then 0 else 1) = kernel.remaining := by
  unfold poll remaining record
  grind

theorem inbound_ne_nil_of_poll {n : Nat} (h : kernel.poll events timeout = (.ok n, kernel'))
    (hpolls : kernel.polls = []) : kernel'.inbound ≠ [] := by
  unfold poll record at h
  grind

theorem remaining_poll_not_ready {result : Except IoError Nat}
    (h : kernel.poll events timeout = (result, kernel')) (hresult : ∀ n, result ≠ .ok (n + 1)) :
    kernel'.remaining < kernel.remaining ∨ kernel'.stop = true := by
  unfold poll record at h
  unfold remaining
  grind

theorem remaining_poll_ready {kernel'' : Kernel} {n : Nat} {result : Except IoError Datagram}
    (h : kernel.poll events timeout = (.ok (n + 1), kernel'))
    (h' : kernel'.receiveFrom size 0 addressSize = (result, kernel'')) :
    kernel''.remaining < kernel.remaining := by
  have hpoll : kernel'.remaining + (if kernel.polls = [] then 0 else 1) = kernel.remaining := by
    rw [← remaining_poll kernel events timeout, h]
  by_cases hpolls : kernel.polls = []
  · rw [if_pos hpolls] at hpoll
    exact hpoll ▸ remaining_receiveFrom_lt h' (inbound_ne_nil_of_poll h hpolls)
  · rw [if_neg hpolls] at hpoll
    have hle := remaining_receiveFrom_le h'
    omega

end Remaining

instance : SystemCalls Kernel where
  registerSignal kernel _ := kernel.registerSignal
  socket := socket
  sendTo kernel _ := kernel.sendTo
  receiveFrom kernel _ := kernel.receiveFrom
  poll kernel _ := kernel.poll
  close kernel _ := kernel.close
  stopRequested := stop
  remaining := remaining
  send_interrupted := remaining_sendTo_lt
  receive_le := remaining_receiveFrom_le
  receive_interrupted := remaining_receiveFrom_interrupted
  receive_would_block := remaining_receiveFrom_would_block
  poll_not_ready := remaining_poll_not_ready
  poll_ready := remaining_poll_ready

end Kernel

end AuditCollector.Scripted
