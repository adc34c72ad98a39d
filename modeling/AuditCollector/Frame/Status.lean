import AuditCollector.Bytes

namespace AuditCollector.Frame

-- The state of the kernel's audit system. A request sends it with the mask of
-- what to change, a reply carries all of it.
structure Status where
  mask : UInt32 := 0
  enabled : UInt32 := 0
  failure : UInt32 := 0
  pid : UInt32 := 0
  rateLimit : UInt32 := 0
  backlogLimit : UInt32 := 0
  lost : UInt32 := 0
  backlog : UInt32 := 0
  features : UInt32 := 0
  backlogWaitTime : UInt32 := 0
deriving DecidableEq, Repr, Inhabited

namespace Status

-- The parts of the status that a mask can name.
inductive Part where
  | enabled | failure | pid | rateLimit | backlogLimit | backlogWaitTime | lost
deriving DecidableEq, Repr

def Part.all : List Part :=
  [enabled, failure, pid, rateLimit, backlogLimit, backlogWaitTime, lost]

def Part.bit : Part → UInt32
  | enabled => 0x01
  | failure => 0x02
  | pid => 0x04
  | rateLimit => 0x08
  | backlogLimit => 0x10
  | backlogWaitTime => 0x20
  | lost => 0x40

def Part.name : Part → String
  | enabled => "ENABLED"
  | failure => "FAILURE"
  | pid => "PID"
  | rateLimit => "RATE_LIMIT"
  | backlogLimit => "BACKLOG_LIMIT"
  | backlogWaitTime => "BACKLOG_WAIT_TIME"
  | lost => "LOST"

-- The parts named by the mask. Bits without a name stay in the mask.
def parts (status : Status) : List Part :=
  Part.all.filter fun part => status.mask &&& part.bit = part.bit

def words (status : Status) : List UInt32 :=
  [status.mask, status.enabled, status.failure, status.pid, status.rateLimit,
    status.backlogLimit, status.lost, status.backlog, status.features, status.backlogWaitTime]

-- An older kernel sends fewer words. Those that are missing read as zero.
def ofBytes (bytes : Bytes) : Status where
  mask := bytes.uint32At 0
  enabled := bytes.uint32At 4
  failure := bytes.uint32At 8
  pid := bytes.uint32At 12
  rateLimit := bytes.uint32At 16
  backlogLimit := bytes.uint32At 20
  lost := bytes.uint32At 24
  backlog := bytes.uint32At 28
  features := bytes.uint32At 32
  backlogWaitTime := bytes.uint32At 36

def toBytes (status : Status) : Bytes := status.words.flatMap Bytes.ofUInt32

def encodedLength : Nat := 40

@[simp] theorem length_toBytes (status : Status) : status.toBytes.length = encodedLength := rfl

end Status

end AuditCollector.Frame
