import AuditCollector.Disk.Faults
import AuditCollector.Proofs.Daemon.Stages
import AuditCollector.Proofs.Daemon.View
import AuditCollector.Scripted.Kernel
import AuditCollector.Toml.Document

namespace AuditCollector.Daemon

open AuditCollector.Frame FileOperation

variable {ω φ : Type} [SystemCalls ω] [FileSystem φ]

-- The request to send messages to nobody any more.
def deregistration : Request :=
  ⟨Envelope.setStatusType, ({ mask := Status.Part.pid.bit, pid := 0 } : Status).toBytes⟩

-- Both signals are registered.
def signalled : List SystemCall := [.registerSignal 2 (.ok ()), .registerSignal 15 (.ok ())]

def socketCall (result : Except IoError Nat) : SystemCall :=
  .socket AuditSocket.family AuditSocket.kind AuditSocket.protocol result

-- The ways that a run can go: what it comes to, the system calls it makes and what it does with
-- files. It ends with what fails first, and lets go of what it has opened by then.
inductive Course (parser : Toml.Parser) (accounts : Rule.Accounts) (line : CommandLine)
    (pid : UInt32) (system : Recorded ω) (files : RecordedFiles φ) :
    Except DaemonError Unit → List SystemCall → List FileOperation → Prop where
  | unconfigured {read : Except IoError Bytes} {error : ConfigError}
    (hloads : line.Loads parser read (.error error)) :
    Course parser accounts line pid system files (.error (.config error)) []
      [.readFile line.config read]
  | unsignalled {read : Except IoError Bytes} {config : Config} {before after : List Nat}
    {signal : Nat} {error : IoError}
    (hloads : line.Loads parser read (.ok config))
    (hsignals : [2, 15] = before ++ signal :: after) :
    Course parser accounts line pid system files (.error (.signal error))
      (before.map (.registerSignal · (.ok ())) ++ [.registerSignal signal (.error error)])
      [.readFile line.config read]
  | unconnected {read : Except IoError Bytes} {config : Config} {error : IoError}
    (hloads : line.Loads parser read (.ok config)) :
    Course parser accounts line pid system files (.error (.exchange (.channelUnavailable error)))
      (signalled ++ [socketCall (.error error)])
      [.readFile line.config read]
  | unlogged {read : Except IoError Bytes} {config : Config} {descriptor : Nat}
    {opening : List FileOperation} {error : LogError} {released : Except IoError Unit}
    (hloads : line.Loads parser read (.ok config))
    (hopening : Log.Opening config.log.path config.log.rotatedPath opening (.error error)) :
    Course parser accounts line pid system files (.error (.log error))
      (signalled ++ [socketCall (.ok descriptor), .close descriptor released])
      (.readFile line.config read :: opening)
  -- The registration is what is told, whatever comes of closing the log.
  | unregistered {read : Except IoError Bytes} {config : Config} {socket : AuditSocket (Recorded ω)}
    {opening closing : List FileOperation} {file : FileHandle} {error : ExchangeError}
    {work : List SystemCall} {released : Except IoError Unit} {closed : Except LogError Unit}
    (hloads : line.Loads parser read (.ok config))
    (hopens : Opens parser line system files config socket)
    (hopening : Log.Opening config.log.path config.log.rotatedPath opening (.ok file))
    (hconfigured : (configured accounts pid config socket).1 = .error error)
    (hregistered : registered accounts pid config socket = .error error)
    (hwork : WorkFor socket.descriptor (config.requests accounts pid) work)
    (hclosing : Log.Closing config.log.path (some file) closing closed) :
    Course parser accounts line pid system files (.error (.exchange error))
      (signalled ++ [socketCall (.ok socket.descriptor)] ++ work ++
        [.close socket.descriptor released])
      (.readFile line.config read :: opening ++ closing)
  -- Here it is the other way round: nothing is told of the deregistration.
  | served {read : Except IoError Bytes} {config : Config} {socket : AuditSocket (Recorded ω)}
    {opening appended closing : List FileOperation} {file : FileHandle} {report : StartupReport}
    {work : List SystemCall} {released : Except IoError Unit} {closed : Except LogError Unit}
    (hloads : line.Loads parser read (.ok config))
    (hopens : Opens parser line system files config socket)
    (hopening : Log.Opening config.log.path config.log.rotatedPath opening (.ok file))
    (hconfigured : (configured accounts pid config socket).1 = .ok report)
    (hregistered : registered accounts pid config socket = .ok ())
    (hwork : WorkFor socket.descriptor (config.requests accounts pid ++ [deregistration]) work)
    (happended : ∀ operation ∈ appended, ¬operation.IsFlush)
    (hclosing : Log.Closing config.log.path (handle? (opening ++ appended)) closing closed) :
    Course parser accounts line pid system files (closed.mapError .log)
      (signalled ++ [socketCall (.ok socket.descriptor)] ++ work ++
        [.close socket.descriptor released])
      (.readFile line.config read :: opening ++ appended ++ closing)

section Course

variable {parser : Toml.Parser} {line : CommandLine} {recorded recorded' recorded'' : Recorded ω}
  {files files' : RecordedFiles φ} {config : Config} {socket : AuditSocket (Recorded ω)}

theorem calls_of_signalled (hfresh : recorded.calls = [])
    (h : (registerSignals recorded stopSignals).1 = .ok ()) :
    (registerSignals recorded stopSignals).2.calls = signalled := by
  rcases calls_registerSignals recorded stopSignals with
    ⟨-, hcalls⟩ | ⟨before, signal, after, error, -, herror, -⟩
  · rw [hfresh] at hcalls
    exact hcalls
  · rw [h] at herror
    cases herror

-- The calls by which a socket is opened.
theorem Opens.calls (h : Opens parser line recorded files config socket)
    (hfresh : recorded.calls = []) :
    socket.system.calls = signalled ++ [socketCall (.ok socket.descriptor)] := by
  obtain ⟨result, hcalls, hresult⟩ := calls_connect (registerSignals recorded stopSignals).2
  rw [calls_of_signalled hfresh h.signals] at hcalls
  have hopened := hresult.symm.trans h.socket
  cases result with
  | error error => cases hopened
  | ok descriptor =>
    cases hopened
    exact hcalls

-- Without a socket nothing is let go of, and no file but the configuration is looked at.
theorem course_of_unsignalled {error : IoError} (accounts : Rule.Accounts) (pid : UInt32)
    (hfresh : recorded.calls = []) (hfresh' : files.operations = [])
    (hloaded : (line.loadConfig parser files).value = (.ok config, files'))
    (hsignals : registerSignals recorded stopSignals = (.error error, recorded')) :
    Course parser accounts line pid recorded files (.error (.signal error)) recorded'.calls
      files'.operations := by
  obtain ⟨read, hread, hloads⟩ := operations_loadConfig hfresh' hloaded
  rcases calls_registerSignals recorded stopSignals with
    ⟨hok, -⟩ | ⟨before, signal, after, error, hstop, herror, hcalls⟩
  · rw [hsignals] at hok
    cases hok
  · rw [hsignals, hfresh, List.nil_append] at hcalls
    rw [hsignals] at herror
    cases herror
    rw [hcalls, hread]
    exact .unsignalled hloads hstop

theorem course_of_unconnected {error : ExchangeError} (accounts : Rule.Accounts) (pid : UInt32)
    (hfresh : recorded.calls = []) (hfresh' : files.operations = [])
    (hloaded : (line.loadConfig parser files).value = (.ok config, files'))
    (hsignals : registerSignals recorded stopSignals = (.ok (), recorded'))
    (hconnected : (AuditSocket.connect recorded').value = (.error error, recorded'')) :
    Course parser accounts line pid recorded files (.error (.exchange error)) recorded''.calls
      files'.operations := by
  obtain ⟨read, hread, hloads⟩ := operations_loadConfig hfresh' hloaded
  obtain ⟨result, hcalls, hresult⟩ := calls_connect recorded'
  have hsignalled := calls_of_signalled hfresh (by rw [hsignals])
  rw [hsignals] at hsignalled
  rw [hconnected, hsignalled] at hcalls
  rw [hconnected] at hresult
  rw [hcalls, hread]
  cases result with
  | ok descriptor => cases hresult
  | error refused =>
    cases hresult
    exact .unconnected hloads

theorem Opens.loads (h : Opens parser line recorded files config socket)
    (hfresh : files.operations = []) : ∃ read,
    (line.loadConfig parser files).value.2.operations = [.readFile line.config read] ∧
      line.Loads parser read (.ok config) :=
  operations_loadConfig hfresh (Prod.ext h.loaded rfl)

-- A socket without a log is only let go of.
theorem course_of_unlogged {error : LogError} (accounts : Rule.Accounts) (pid : UInt32)
    (hfresh : recorded.calls = []) (hfresh' : files.operations = [])
    (hopens : Opens parser line recorded files config socket)
    (hstarted : started parser line files config = (.error error, files')) :
    Course parser accounts line pid recorded files (.error (.log error)) socket.release.calls
      files'.operations := by
  obtain ⟨opening, opened, hoperations, hopening, hopened, -⟩ := Log.start_opening hstarted
  obtain ⟨read, hread, hloads⟩ := hopens.loads hfresh'
  rw [hread] at hoperations
  have hcalls : socket.release.calls = signalled ++ [socketCall (.ok socket.descriptor),
      .close socket.descriptor (SystemCalls.close socket.system socket.descriptor).1] := by
    have hclose : socket.release.calls = socket.system.calls ++
        [.close socket.descriptor (SystemCalls.close socket.system socket.descriptor).1] := rfl
    rw [hclose, hopens.calls hfresh, List.append_assoc]
    rfl
  rw [hcalls, hoperations]
  cases opened with
  | ok file => cases hopened
  | error error =>
    cases hopened
    exact .unlogged hloads hopening

-- A log that could be started is at its path, with the file open that was opened for it.
theorem exists_opening {log : Log}
    (hstarted : started parser line files config = (.ok log, files')) :
    ∃ opening file,
      files'.operations = (line.loadConfig parser files).value.2.operations ++ opening ∧
      Log.Opening config.log.path config.log.rotatedPath opening (.ok file) ∧
      log.file = some file ∧ log.active = config.log.path := by
  obtain ⟨opening, opened, hoperations, hopening, hopened, hactive⟩ := Log.start_opening hstarted
  cases opened with
  | error error => cases hopened
  | ok file => exact ⟨opening, file, hoperations, hopening, Except.ok.inj hopened, hactive log rfl⟩

-- If the registration fails, socket and log are let go of at once.
theorem course_of_unregistered {accounts : Rule.Accounts} {pid : UInt32} {log : Log}
    {error : ExchangeError} {client : Client (AuditSocket (Recorded ω))}
    (hfresh : recorded.calls = []) (hfresh' : files.operations = [])
    (hopens : Opens parser line recorded files config socket)
    (hstarted : started parser line files config = (.ok log, files'))
    (hconfigured : configured accounts pid config socket = (.error error, client)) :
    Course parser accounts line pid recorded files (.error (.exchange error))
      (Channel.close client.channel).value.system.calls (log.close files').2.operations := by
  obtain ⟨read, hread, hloads⟩ := hopens.loads hfresh'
  obtain ⟨opening, file, hoperations, hopening, hfile, hactive⟩ := exists_opening hstarted
  rw [hread] at hoperations
  have hvalid : config.validate = .ok () := Config.validate_of_sensible hloads.sensible
  have hworked := configured_worked hvalid accounts pid socket
  rw [hconfigured] at hworked
  obtain ⟨work, released, hcalls, hwork⟩ := hworked.exists_work
  obtain ⟨closing, hclosed, hclosing⟩ := log.close_closing files'
  rw [hfile, hactive] at hclosing
  rw [hcalls, hclosed, hoperations, hopens.calls hfresh]
  exact .unregistered hloads hopens hopening (by rw [hconfigured])
    (registered_of_configured hconfigured) hwork hclosing

-- Otherwise the work is done before that.
theorem course_of_served {accounts : Rule.Accounts} {pid : UInt32} {log : Log}
    {report : StartupReport} {client : Client (AuditSocket (Recorded ω))}
    (hfresh : recorded.calls = []) (hfresh' : files.operations = [])
    (hopens : Opens parser line recorded files config socket)
    (hstarted : started parser line files config = (.ok log, files'))
    (hconfigured : configured accounts pid config socket = (.ok report, client)) :
    let loop := (EventLoop.run { client, log, files := files' }).value.2
    let stopped := (loop.client.setPid 0 false).value.2
    Course parser accounts line pid recorded files ((loop.log.close loop.files).1.mapError .log)
      (Channel.close stopped.channel).value.system.calls
      (loop.log.close loop.files).2.operations := by
  intro loop stopped
  obtain ⟨read, hread, hloads⟩ := hopens.loads hfresh'
  obtain ⟨opening, file, hoperations, hopening, hfile, hactive⟩ := exists_opening hstarted
  rw [hread] at hoperations
  have hvalid : config.validate = .ok () := Config.validate_of_sensible hloads.sensible
  have hworked := configured_worked hvalid accounts pid socket
  rw [hconfigured] at hworked
  obtain ⟨work, released, hcalls, hwork⟩ := (hworked.stopped log files').exists_work
  have hhandle : handle? files'.operations = log.file := by
    rw [hoperations, hfile]
    exact hopening.handle?_append [.readFile line.config read]
  have happended : loop.AppendedSince files'.operations log.active := run_appended hhandle
  obtain ⟨appended, happend, hall⟩ := happended.tracks.unflushed
  -- reading the configuration opens nothing, so it does not count here
  have hopen : loop.log.file = handle? (opening ++ appended) := by
    rw [← happended.tracks.handle, happend, hoperations]
    rfl
  obtain ⟨closing, hclosed, hclosing⟩ := loop.log.close_closing loop.files
  rw [happended.path, hactive, hopen] at hclosing
  rw [happend, hoperations] at hclosed
  rw [hcalls, hclosed, hopens.calls hfresh]
  exact .served hloads hopens hopening (by rw [hconfigured])
    (registered_of_configured hconfigured) hwork hall hclosing

theorem course_run (parser : Toml.Parser) (accounts : Rule.Accounts) (line : CommandLine)
    (pid : UInt32) (hfresh : recorded.calls = []) (hfresh' : files.operations = []) :
    let ran := (run parser accounts line pid recorded files).value
    Course parser accounts line pid recorded files ran.1 ran.2.1.calls ran.2.2.operations := by
  intro ran
  rcases hloaded : (line.loadConfig parser files).value with ⟨error | config, files'⟩
  · have hran : ran = _ := value_run_of_unconfigured hloaded accounts pid recorded
    obtain ⟨read, hread, hloads⟩ := operations_loadConfig hfresh' hloaded
    rw [hran]
    simp only [hfresh, hread]
    exact .unconfigured hloads
  · rcases hsignals : registerSignals recorded stopSignals with ⟨error | _, recorded'⟩
    · have hran : ran = _ := value_run_of_unsignalled hloaded hsignals accounts pid
      rw [hran]
      exact course_of_unsignalled accounts pid hfresh hfresh' hloaded hsignals
    · rcases hconnected : (AuditSocket.connect recorded').value with ⟨error | socket, recorded''⟩
      · have hran : ran = _ := value_run_of_unconnected hloaded hsignals hconnected accounts pid
        rw [hran]
        exact course_of_unconnected accounts pid hfresh hfresh' hloaded hsignals hconnected
      · have hopens : Opens parser line recorded files config socket :=
          ⟨by rw [hloaded], by rw [hsignals], by rw [connected, hsignals, hconnected]⟩
        have hran : ran = _ := value_run_of_opens hopens accounts pid
        rw [hran]
        rcases hstarted : started parser line files config with ⟨error | log, files''⟩
        · exact course_of_unlogged accounts pid hfresh hfresh' hopens hstarted
        · rcases hconfigured : configured accounts pid config socket with ⟨error | report, client⟩
          · simp only [value_serve_of_error hconfigured]
            exact course_of_unregistered hfresh hfresh' hopens hstarted hconfigured
          · simp only [value_serve_of_ok hconfigured]
            exact course_of_served hfresh hfresh' hopens hstarted hconfigured

end Course

end AuditCollector.Daemon
