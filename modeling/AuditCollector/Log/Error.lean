import AuditCollector.IoError

namespace AuditCollector

inductive LogStep where
  | stat | rename | openFile | flush
deriving DecidableEq, Repr

def LogStep.name : LogStep → String
  | stat => "stat"
  | rename => "rename"
  | openFile => "open"
  | flush => "flush"

inductive LogError where
  | io (step : LogStep) (path : String) (source : IoError)
  | write (source : IoError)
  | rotationFailed (path : String) (source : IoError)
  | unavailable
deriving DecidableEq, Repr

namespace LogError

def message : LogError → String
  | io step path source => "could not " ++ step.name ++ " " ++ path ++ ": " ++ source.message
  | write source => "error writing audit record: " ++ source.message
  | rotationFailed path source => "log rotation failed at " ++ path ++ ": " ++ source.message
  | unavailable => "audit log has no open file"

-- The error number behind the failure. A log without a file acts like a bad
-- descriptor.
def osCode? : LogError → Option Int
  | io _ _ source | rotationFailed _ source | write source => source.code?
  | unavailable => some 9

end LogError

end AuditCollector
