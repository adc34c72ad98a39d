import AuditCollector.Config.Decode
import AuditCollector.FileSystem
import AuditCollector.Traced

namespace AuditCollector.Config

variable {φ : Type} [FileSystem φ]

def readText (files : φ) (path : String) : Except IoError String × φ :=
  match FileSystem.readFile files path with
  | (.error error, files) => (.error error, files)
  | (.ok bytes, files) =>
    match Text.decode? bytes with
    | some text => (.ok text, files)
    | none => (.error .notUtf8, files)

-- Loads the configuration file. A missing file is as good as an empty one.
def loadFile (parser : Toml.Parser) (files : φ) (path : String) :
    Traced (Except ConfigError Config × φ) := do
  match readText files path with
  | (.ok text, files) => return (load parser text, files)
  | (.error error, files) =>
    if error = .notFound then
      Traced.emit (.configMissing path)
      return (.ok {}, files)
    else return (.error (.read path error), files)

end AuditCollector.Config
