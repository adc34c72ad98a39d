import AuditCollector.Client
import AuditCollector.Config.Basic

namespace AuditCollector

structure StartupReport where
  installed : Nat := 0
  failed : Nat := 0
deriving DecidableEq, Repr

namespace Startup

open Rule

variable {σ : Type} [Channel σ]

-- Installs one watch, and tells whether that worked.
def installWatch (accounts : Accounts) (client : Client σ) (watch : WatchConfig) :
    Traced (Bool × Client σ) := do
  match watch.rule accounts with
  | .error error =>
    Traced.emit (.watchSkipped watch.path error)
    return (false, client)
  | .ok rule =>
    let (added, client) ← client.addRule rule
    match added with
    | .error error =>
      Traced.emit (.watchRefused watch.path error)
      return (false, client)
    | .ok _ =>
      Traced.emit (.watchInstalled watch.path)
      return (true, client)

def installWatches (accounts : Accounts) (client : Client σ) (report : StartupReport) :
    List WatchConfig → Traced (StartupReport × Client σ)
  | [] => return (report, client)
  | watch :: watches => do
    let (installed, client) ← installWatch accounts client watch
    let report :=
      if installed then { report with installed := report.installed + 1 }
      else { report with failed := report.failed + 1 }
    installWatches accounts client report watches

-- Asks for the configured state, if there is one. A refusal is only told.
def applyState (client : Client σ) (state? : Option EnabledState) : Traced (Client σ) := do
  match state? with
  | none => return client
  | some state =>
    let (set, client) ← client.setEnabled state
    match set with
    | .ok _ => Traced.emit (.stateSet state)
    | .error error => Traced.emit (.stateRefused state error)
    return client

-- Installs the watches, applies the state, and registers `pid` last: until then
-- the kernel sends nothing but answers. Only a failed registration is a failure.
def configureKernel (accounts : Accounts) (client : Client σ) (config : Config) (pid : UInt32) :
    Traced (Except ExchangeError StartupReport × Client σ) := do
  let (report, client) ← installWatches accounts client {} config.watches
  let client ← applyState client config.enabledState?
  let (registered, client) ← client.setPid pid true
  match registered with
  | .error error => return (.error error, client)
  | .ok () =>
    Traced.emit (.registered pid report.installed report.failed)
    return (.ok report, client)

end Startup

end AuditCollector
