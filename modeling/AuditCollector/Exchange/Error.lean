import AuditCollector.Frame.Reply
import AuditCollector.IoError

namespace AuditCollector

open AuditCollector.Frame

inductive ExchangeError where
  | channelUnavailable (source : IoError)
  | io (source : IoError)
  | protocolFault (text : String)
  | frame (error : FrameError)
  | spoofedSender (pid : UInt32)
  | payloadTooLarge (length limit : Nat)
  | kernel (sequence : UInt32) (source : IoError)
  | invalidArgument (text : String)
deriving DecidableEq, Repr

namespace ExchangeError

def message : ExchangeError → String
  | channelUnavailable source => "audit netlink channel unavailable: " ++ source.message
  | io source => "netlink I/O error: " ++ source.message
  | protocolFault text => "netlink protocol fault: " ++ text
  | frame error => error.message
  | spoofedSender pid =>
    "rejected netlink message from pid " ++ toString pid.toNat
      ++ ": only the kernel may send audit replies"
  | payloadTooLarge length limit =>
    "payload of " ++ toString length ++ " bytes exceeds the " ++ toString limit
      ++ "-byte netlink limit"
  | kernel sequence source =>
    "kernel rejected request " ++ toString sequence.toNat ++ ": " ++ source.message
  | invalidArgument text => "invalid argument: " ++ text

-- The error number behind the failure. Failures that we found ourselves have one
-- that fits: a protocol error, or an invalid argument.
def osCode? : ExchangeError → Option Int
  | channelUnavailable source | io source | kernel _ source => source.code?
  | protocolFault _ => some 71
  | spoofedSender _ | payloadTooLarge .. | invalidArgument _ => some 22
  | frame error => some error.osCode

end ExchangeError

end AuditCollector
