import AuditCollector.IoError.Text

namespace AuditCollector

-- Why a call to the operating system failed: with an error number, or for a
-- reason that never had one.
inductive IoError where
  | os (code : Int)
  | writeZero
  | nulInFileName
  | notUtf8
  | other (text : String)
deriving DecidableEq, Repr

namespace IoError

def osText (code : Int) : String :=
  let known := do osTexts.lookup (← code.toNat?)
  known.getD ("Unknown error " ++ toString code)

def message : IoError → String
  | os code => osText code ++ " (os error " ++ toString code ++ ")"
  | writeZero => "write zero"
  | nulInFileName => "file name contained an unexpected NUL byte"
  | notUtf8 => "stream did not contain valid UTF-8"
  | other text => text

def code? : IoError → Option Int
  | os code => some code
  | _ => none

-- A signal arrived before the call did anything. It can simply be made again.
abbrev interrupted : IoError := os 4

abbrev wouldBlock : IoError := os 11

abbrev notFound : IoError := os 2

@[simp] theorem code?_os (code : Int) : (os code).code? = some code := rfl

end IoError

end AuditCollector
