import AuditCollector.Bytes
import AuditCollector.Frame.Size

namespace AuditCollector.Frame

structure Header where
  length : UInt32
  messageType : UInt16
  flags : UInt16
  sequence : UInt32
  pid : UInt32
deriving DecidableEq, Repr, Inhabited

namespace Header

def parse? (bytes : Bytes) : Option Header :=
  if bytes.length < headerLength then none
  else some {
    length := bytes.uint32At 0
    messageType := bytes.uint16At 4
    flags := bytes.uint16At 6
    sequence := bytes.uint32At 8
    pid := bytes.uint32At 12 }

def toBytes (header : Header) : Bytes :=
  Bytes.ofUInt32 header.length ++ Bytes.ofUInt16 header.messageType ++
    Bytes.ofUInt16 header.flags ++ Bytes.ofUInt32 header.sequence ++
    Bytes.ofUInt32 header.pid

@[simp] theorem length_toBytes (header : Header) : header.toBytes.length = headerLength := rfl

def describe (header : Header) : String :=
  "MessageHeader \x7b len: " ++ toString header.length.toNat ++
    ", message_type: " ++ toString header.messageType.toNat ++
    ", flags: " ++ toString header.flags.toNat ++
    ", seq: " ++ toString header.sequence.toNat ++
    ", pid: " ++ toString header.pid.toNat ++ " \x7d"

end Header

end AuditCollector.Frame
