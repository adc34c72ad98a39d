import AuditCollector.CommandLine
import AuditCollector.EventLoop
import AuditCollector.Startup
import AuditCollector.System.AuditSocket

namespace AuditCollector

open Rule

inductive DaemonError where
  | config (error : ConfigError)
  | signal (source : IoError)
  | exchange (error : ExchangeError)
  | log (error : LogError)
deriving DecidableEq, Repr

namespace DaemonError

def message : DaemonError → String
  | config error => error.message
  | signal source => "could not register signal handler: " ++ source.message
  | exchange error => error.message
  | log error => error.message

def osCode? : DaemonError → Option Int
  | config (.read _ source) => source.code?
  | config _ => none
  | signal source => source.code?
  | exchange error => error.osCode?
  | log error => error.osCode?

-- The exit code: the error number behind the failure if it is one that a process
-- can end with, and one otherwise.
def exitCode (error : DaemonError) : Int := (error.osCode?.filter (0 < ·)).getD 1

end DaemonError

namespace Daemon

variable {ω φ : Type} [SystemCalls ω] [FileSystem φ]

def stopSignals : List Nat := [2, 15]

def registerSignals (system : ω) : List Nat → Except IoError Unit × ω
  | [] => (.ok (), system)
  | signal :: signals =>
    match SystemCalls.registerSignal system signal with
    | (.error error, system) => (.error error, system)
    | (.ok (), system) => registerSignals system signals

-- Works with an open log until a stop is requested. If the registration fails
-- nothing is taken back, socket and log are only let go of. The kernel may still
-- have accepted it: this is so if only its answer could not be received.
def serve (accounts : Accounts) (config : Config) (pid : UInt32) (socket : AuditSocket ω)
    (log : Log) (files : φ) : Traced (Except DaemonError Unit × ω × φ) := do
  let (configured, client) ← Startup.configureKernel accounts ⟨socket, {}⟩ config pid
  match configured with
  | .error error =>
    let socket ← client.channel.close
    let (closed, files) := log.close files
    if let .error closeError := closed then
      Traced.emit (.logCloseFailed closeError)
    return (.error (.exchange error), socket.system, files)
  | .ok _ =>
    let (_, loop) ← EventLoop.run { client, log, files }
    let (stopped, socket, files) ← loop.shutdown
    match stopped with
    | .error error => return (.error (.log error), socket.system, files)
    | .ok () =>
      Traced.emit .daemonStopped
      return (.ok (), socket.system, files)

-- The whole run: configuration, signals, socket and log, then the work itself.
-- Whatever fails first ends it.
def run (parser : Toml.Parser) (accounts : Accounts) (line : CommandLine) (pid : UInt32)
    (system : ω) (files : φ) : Traced (Except DaemonError Unit × ω × φ) := do
  let (loaded, files) ← line.loadConfig parser files
  match loaded with
  | .error error => return (.error (.config error), system, files)
  | .ok config =>
    match registerSignals system stopSignals with
    | (.error error, system) => return (.error (.signal error), system, files)
    | (.ok (), system) =>
      let (connected, system) ← AuditSocket.connect system
      match connected with
      | .error error => return (.error (.exchange error), system, files)
      | .ok socket =>
        let (started, files) ←
          Log.start files config.log.path config.log.rotatedPath config.log.maxBytes
        match started with
        | .error error => return (.error (.log error), socket.release, files)
        | .ok log => serve accounts config pid socket log files

end Daemon

end AuditCollector
