import AuditCollector.EnabledState
import AuditCollector.Log.Error
import AuditCollector.Rule.Error

namespace AuditCollector

open AuditCollector.Frame Rule

inductive Event where
  | sequenceRestarted
  | receiveFailed (error : IoError)
  | senderAddressOdd (addressLength : Nat)
  | senderNotKernel (pid : UInt32)
  | responseBad (error : FrameError)
  | requestTooLarge (payloadLength : Nat)
  | sendFailed (error : IoError)
  | requestSent (messageType : UInt16) (sequence : UInt32) (length : Nat)
  | answerOutOfStep (expected got : UInt32)
  | registrationFailed (pid : UInt32) (error : ExchangeError)
  | followUpDiscarded (messageType : UInt16)
  | followUpMissing (error : ExchangeError)
  | watchRefused (path : String) (error : ExchangeError)
  | watchSkipped (path : String) (error : RuleError)
  | watchInstalled (path : String)
  | stateSet (state : EnabledState)
  | stateRefused (state : EnabledState) (error : ExchangeError)
  | registered (pid : UInt32) (installed failed : Nat)
  | socketRefused (error : IoError)
  | socketOpened (descriptor : Nat)
  | socketCloseFailed (descriptor : Nat) (error : IoError)
  | loopStarted
  | loopStopped (recorded : Nat)
  | waitFailed (error : IoError)
  | messageReceived (messageType : UInt16) (length : Nat)
  | recordFailed (error : LogError)
  | messageLost (error : ExchangeError)
  | deregistrationFailed (error : ExchangeError)
  | previousLogStuck (active rotated : String) (error : IoError)
  | logStatFailed (path : String) (error : IoError)
  | logOpenFailed (path : String) (error : IoError)
  | logOpened (active rotated : String) (threshold : Nat)
  | logModeRefused (path : String) (error : IoError)
  | recordCutShort (path : String) (unwritten : Nat) (error : IoError)
  | separatorLost (error : IoError)
  | rotationStuck (active rotated : String) (error : IoError)
  | logRotated (rotated : String) (bytes : Nat)
  | logReopenFailed (path : String) (error : IoError)
  | logCloseFailed (error : LogError)
  | configMissing (path : String)
  | daemonStopped
deriving DecidableEq, Repr

inductive Event.Level where
  | error | warn | info | debug
deriving DecidableEq, Repr

inductive Event.Detail where
  | number (n : Nat)
  | text (s : String)
deriving DecidableEq, Repr

namespace Event

def level : Event → Level
  | receiveFailed _ | senderAddressOdd _ | senderNotKernel _ | responseBad _ | requestTooLarge _
  | sendFailed _ | registrationFailed .. | watchRefused .. | watchSkipped .. | stateRefused ..
  | socketRefused _ | socketCloseFailed .. | waitFailed _ | recordFailed _ | messageLost _
  | previousLogStuck .. | logStatFailed .. | logOpenFailed .. | recordCutShort ..
  | rotationStuck .. | logReopenFailed .. => .error
  | sequenceRestarted | answerOutOfStep .. | deregistrationFailed _ | logModeRefused ..
  | logCloseFailed _ => .warn
  | watchInstalled _ | stateSet _ | registered .. | loopStarted | loopStopped _ | logOpened ..
  | logRotated .. | configMissing _ | daemonStopped => .info
  | requestSent .. | followUpDiscarded _ | followUpMissing _ | socketOpened _
  | messageReceived .. | separatorLost _ => .debug

def message : Event → String
  | sequenceRestarted => "audit sequence number has rolled over"
  | receiveFailed error => "error receiving from audit netlink socket: " ++ error.message
  | senderAddressOdd _ => "protocol fault: unexpected netlink sender address length"
  | senderNotKernel _ => "invalid netlink pid received, expected 0"
  | responseBad error => "bad kernel response: " ++ error.message
  | requestTooLarge _ => "netlink message is too large"
  | sendFailed error => "error sending data over the netlink socket: " ++ error.message
  | requestSent .. => "netlink request sent"
  | answerOutOfStep .. => "sequence number between user space and kernel space is out of skew"
  | registrationFailed _ error => "could not set pid for audit events: " ++ error.message
  | followUpDiscarded _ => "discarded registration follow-up"
  | followUpMissing error => "no registration follow-up: " ++ error.message
  | watchRefused _ error => "could not install audit watch: " ++ error.message
  | watchSkipped _ error => "skipping audit watch: " ++ error.message
  | watchInstalled _ => "audit watch installed"
  | stateSet _ => "audit state set"
  | stateRefused _ error => "could not set audit state: " ++ error.message
  | registered .. => "registered as audit event consumer"
  | socketRefused error => "could not open audit netlink socket: " ++ error.message
  | socketOpened _ => "audit netlink socket opened"
  | socketCloseFailed _ error => "attempted to close invalid audit socket: " ++ error.message
  | loopStarted => "waiting for audit events"
  | loopStopped _ => "audit event loop stopped"
  | waitFailed error => "poll on audit socket failed: " ++ error.message
  | messageReceived .. => "audit event received"
  | recordFailed error => "failed to write audit event: " ++ error.message
  | messageLost error => "failed to receive audit event: " ++ error.message
  | deregistrationFailed error => "audit de-registration failed: " ++ error.message
  | previousLogStuck _ _ error => "could not move previous audit log aside: " ++ error.message
  | logStatFailed _ error => "could not stat audit log: " ++ error.message
  | logOpenFailed _ error => "could not open audit log: " ++ error.message
  | logOpened .. => "audit log opened"
  | logModeRefused _ error => "could not set audit log mode: " ++ error.message
  | recordCutShort _ _ error => "error writing audit record: " ++ error.message
  | separatorLost error => "record separator not written: " ++ error.message
  | rotationStuck _ _ error => "could not rotate audit log: " ++ error.message
  | logRotated .. => "audit log rotated"
  | logReopenFailed _ error =>
    "could not reopen audit log after rotation: " ++ error.message
  | logCloseFailed error => "closing audit log: " ++ error.message
  | configMissing _ => "no config file, using defaults"
  | daemonStopped => "kauditd stopped"

def details : Event → List (String × Detail)
  | senderAddressOdd addressLength => [("addr_len", .number addressLength)]
  | senderNotKernel pid => [("pid", .number pid.toNat)]
  | requestTooLarge payloadLength => [("len", .number payloadLength)]
  | requestSent messageType sequence length =>
    [("message_type", .number messageType.toNat), ("seq", .number sequence.toNat),
      ("frame_len", .number length)]
  | answerOutOfStep expected got =>
    [("expected", .number expected.toNat), ("got", .number got.toNat)]
  | registrationFailed pid _ => [("pid", .number pid.toNat)]
  | followUpDiscarded messageType => [("message_type", .number messageType.toNat)]
  | watchRefused path _ | watchSkipped path _ | watchInstalled path | logStatFailed path _
  | logOpenFailed path _ | logModeRefused path _ | logReopenFailed path _
  | configMissing path => [("path", .text path)]
  | stateSet state | stateRefused state _ => [("state", .text state.label)]
  | registered pid installed failed =>
    [("pid", .number pid.toNat), ("installed", .number installed), ("failed", .number failed)]
  | socketOpened descriptor | socketCloseFailed descriptor _ => [("fd", .number descriptor)]
  | loopStopped recorded => [("recorded", .number recorded)]
  | messageReceived messageType length =>
    [("message_type", .number messageType.toNat), ("len", .number length)]
  | previousLogStuck active rotated _ | rotationStuck active rotated _ =>
    [("from", .text active), ("to", .text rotated)]
  | logOpened active rotated threshold =>
    [("path", .text active), ("rotated", .text rotated), ("threshold", .number threshold)]
  | recordCutShort path unwritten _ => [("path", .text path), ("unwritten", .number unwritten)]
  | logRotated rotated bytes => [("path", .text rotated), ("bytes", .number bytes)]
  | _ => []

end Event

end AuditCollector
