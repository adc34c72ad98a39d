import AuditCollector.Frame.Envelope
import AuditCollector.Frame.Status

namespace AuditCollector.Frame

inductive FrameError where
  | tooLarge (length : Nat)
  | malformed (length claimed : Nat)
deriving DecidableEq, Repr

namespace FrameError

def message : FrameError → String
  | tooLarge length =>
    "netlink message too large: " ++ toString length ++ " bytes received, envelope is full"
  | malformed length claimed =>
    "malformed netlink message: " ++ toString length ++ " bytes received, header claims "
      ++ toString claimed

def osCode : FrameError → Int
  | tooLarge _ => 27
  | malformed .. => 52

end FrameError

-- The kernel's verdict on a request: an error, or an acknowledgement when the
-- code is zero. The header of the request may come with it.
structure Notice where
  code : Int32
  request : Option Header
deriving DecidableEq, Repr

namespace Notice

def parse? (payload : Bytes) : Option Notice :=
  if payload.length < 4 then none
  else some {
    code := (payload.uint32At 0).toInt32
    request := Header.parse? (payload.drop 4) }

def isAck (notice : Notice) : Bool := notice.code == 0

-- The kernel sends error numbers negated. The one code whose negation has no
-- place in 32 bits gives the largest number there is.
def errno (notice : Notice) : Int :=
  if notice.code = Int32.minValue then Int32.maxValue.toInt else -notice.code.toInt

end Notice

structure SignalInfo where
  uid : UInt32
  pid : Int32
  context : Bytes
deriving DecidableEq, Repr

def SignalInfo.parse? (payload : Bytes) : Option SignalInfo :=
  if payload.length < 8 then none
  else some {
    uid := payload.uint32At 0
    pid := (payload.uint32At 4).toInt32
    context := payload.drop 8 }

inductive Body where
  | notice (notice : Notice)
  | status (bytes : Bytes)
  | ruleData (bytes : Bytes)
  | signalInfo (info : SignalInfo)
  | message (bytes : Bytes)
deriving DecidableEq, Repr

-- A valid frame. The payload is what the header says belongs to it.
structure Reply where
  header : Header
  payload : Bytes
  body : Body
deriving DecidableEq, Repr

namespace Reply

def messageType (reply : Reply) : UInt16 := reply.header.messageType

def sequence (reply : Reply) : UInt32 := reply.header.sequence

def notice? (reply : Reply) : Option Notice :=
  match reply.body with
  | .notice notice => some notice
  | _ => none

end Reply

-- Reads a payload by its message type. Notices and signal infos can be too short.
def Body.parse? (messageType : UInt16) (payload : Bytes) : Option Body :=
  if messageType = Envelope.errorType then (Notice.parse? payload).map .notice
  else if messageType = Envelope.statusType then some (.status payload)
  else if messageType = Envelope.listRulesType then some (.ruleData payload)
  else if messageType = Envelope.signalInfoType then (SignalInfo.parse? payload).map .signalInfo
  else some (.message payload)

-- Reads the first `length` bytes of the envelope as a frame. A full envelope may
-- have been cut off, so a frame that does not fit its length exactly is too large
-- rather than malformed.
def Envelope.decode (envelope : Envelope) (length : Nat) : Except FrameError Reply :=
  let header := envelope.header
  let claimed := header.length.toNat
  if capacity < length then .error (.tooLarge length)
  else if length < headerLength ∨ claimed < headerLength ∨ length < claimed then
    .error (if length = capacity then .tooLarge length else .malformed length claimed)
  else
    let payload := (envelope.bytes.take claimed).drop headerLength
    match Body.parse? header.messageType payload with
    | some body => .ok { header, payload, body }
    | none => .error (.malformed length claimed)

end AuditCollector.Frame
