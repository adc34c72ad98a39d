import AuditCollector.Channel

namespace AuditCollector.Scripted

-- What is done to the next send: only some of the bytes are accepted, or it fails.
inductive SendFault where
  | short (limit : Nat)
  | fail (error : IoError)
deriving DecidableEq, Repr

-- What the next receive finds: a message, or a failure. A message can be reported
-- with another length than it has, and a volatile one is gone even if it was only
-- looked at.
inductive Inbound where
  | message (frame : Bytes) (sender : Sender) (reported : Option Nat) (volatile : Bool)
  | failure (error : IoError)
deriving DecidableEq, Repr

-- How a planned wait ends, and whether a stop is requested during it.
structure WaitStep where
  result : Except IoError Bool
  stop : Bool := false
deriving Repr

-- A socket that acts out a script. A wait that is not planned finds what is queued.
-- When nothing is, it is interrupted and a stop is requested.
structure Socket where
  inbound : List Inbound := []
  sends : List SendFault := []
  waits : List WaitStep := []
  sent : List Bytes := []
  receives : Nat := 0
  closed : Bool := false
  stop : Bool := false
deriving Repr

namespace Socket

def send (socket : Socket) (frame : Bytes) : Except IoError Nat × Socket :=
  match socket.sends with
  | .fail error :: sends => (.error error, { socket with sends })
  | .short limit :: sends => (.ok (min limit frame.length), { socket with sends })
  | [] => (.ok frame.length, { socket with sent := socket.sent ++ [frame] })

def receive (socket : Socket) (capacity : Nat) (mode : ReceiveMode) (peek : Peek) :
    Except IoError Datagram × Socket :=
  let counted := { socket with receives := socket.receives + 1 }
  match socket.inbound with
  | [] =>
    (.error (if mode = .nonBlocking then .wouldBlock else .other "scripted socket exhausted"),
      counted)
  | .failure error :: inbound => (.error error, { counted with inbound })
  | .message frame sender reported volatile :: inbound =>
    let bytes := frame.take capacity
    (.ok { bytes, length := reported.getD bytes.length, sender },
      if peek = .consume ∨ volatile then { counted with inbound } else counted)

def waitReadable (socket : Socket) : Except IoError Bool × Socket :=
  match socket.waits with
  | step :: waits => (step.result, { socket with waits, stop := socket.stop || step.stop })
  | [] =>
    if socket.inbound = [] then (.error .interrupted, { socket with stop := true })
    else (.ok true, socket)

def remaining (socket : Socket) : Nat :=
  socket.inbound.length + socket.sends.length + socket.waits.length

theorem remaining_receive_le (socket : Socket) (capacity : Nat) (mode : ReceiveMode)
    (peek : Peek) : (socket.receive capacity mode peek).2.remaining ≤ socket.remaining := by
  unfold receive remaining
  grind

-- A receive that consumes takes away whatever the queue starts with.
theorem remaining_receive_lt (socket : Socket) (capacity : Nat) (mode : ReceiveMode)
    (h : socket.inbound ≠ []) :
    (socket.receive capacity mode .consume).2.remaining < socket.remaining := by
  unfold receive remaining
  grind

instance : Channel Socket where
  send := send
  receive := receive
  waitReadable := waitReadable
  close socket := pure { socket with closed := true }
  stopRequested := stop
  remaining := remaining
  send_interrupted {s s' frame} h := by
    unfold send at h
    unfold remaining
    grind
  receive_le {s s' capacity mode peek result} h := by
    have := remaining_receive_le s capacity mode peek
    simpa [h] using this
  receive_retries {s s' capacity mode peek error} h retries := by
    unfold receive at h
    unfold remaining
    rcases retries with rfl | ⟨rfl, rfl⟩ <;> grind
  wait_not_ready {s s' result} h hresult := by
    unfold waitReadable at h
    unfold remaining
    grind
  wait_ready {s s' s'' capacity result} h h' := by
    have hle := remaining_receive_le s' capacity .blocking .consume
    have hlt := remaining_receive_lt s' capacity .blocking
    simp only [h'] at hle hlt
    unfold waitReadable at h
    unfold remaining at *
    grind

end Socket

end AuditCollector.Scripted
