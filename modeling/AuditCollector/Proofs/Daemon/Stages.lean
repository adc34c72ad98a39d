import AuditCollector.Daemon
import AuditCollector.Proofs.Channel.Invariant
import AuditCollector.Proofs.Config.Loading
import AuditCollector.Proofs.Log.Handles
import AuditCollector.Proofs.Startup.Requests
import AuditCollector.Proofs.System.Recorded

namespace AuditCollector

open AuditCollector.Frame

namespace AuditSocket

variable {ω : Type} [SystemCalls ω]

theorem worked_invariant (earlier : List SystemCall) (descriptor : Nat) :
    Channel.Invariant fun socket : AuditSocket (Recorded ω) =>
      socket.WorkedSince earlier descriptor where
  send _ _ h := h.next rfl rfl rfl
  receive _ _ _ _ h := h.next rfl rfl rfl
  wait _ h := h.next rfl rfl rfl

-- That the socket could not be closed makes no difference to what was done.
theorem calls_close (socket : AuditSocket (Recorded ω)) :
    (Channel.close socket).value.system.calls =
      socket.system.calls ++
        [.close socket.descriptor (SystemCalls.close socket.system socket.descriptor).1] := by
  change socket.close.value.system.calls = _
  unfold close
  split
  · rename_i system hclose
    obtain ⟨-, rfl⟩ := Prod.mk.inj hclose
    rfl
  · rename_i error system hclose
    obtain ⟨-, rfl⟩ := Prod.mk.inj hclose
    rfl

end AuditSocket

-- Since these operations the log, which goes by this path, was only appended to.
structure EventLoop.AppendedSince {σ φ : Type} (earlier : List FileOperation) (active : String)
    (loop : EventLoop σ (RecordedFiles φ)) : Prop where
  tracks : loop.files.Tracks earlier loop.log.file
  path : loop.log.active = active

-- A turn may open another file for the log, and flushes none.
theorem EventLoop.turn_appended {σ φ : Type} [Channel σ] [FileSystem φ]
    {earlier : List FileOperation} {active : String} {loop : EventLoop σ (RecordedFiles φ)}
    (h : loop.AppendedSince earlier active) : loop.turn.value.2.AppendedSince earlier active := by
  have hturn := turn_of_payload loop
  cases hpayload : loop.payload? with
  | none =>
    rw [hpayload] at hturn
    obtain ⟨hlog, hfiles⟩ := Prod.mk.inj hturn.2
    exact ⟨by rw [hlog, hfiles]; exact h.tracks, by rw [hlog]; exact h.path⟩
  | some record =>
    rw [hpayload] at hturn
    obtain ⟨hlog, hfiles⟩ := Prod.mk.inj hturn.2
    refine ⟨?_, ?_⟩
    · rw [hlog, hfiles]
      exact Log.append_tracks h.tracks record
    · rw [hlog, Log.active_append]
      exact h.path

namespace Daemon

section Stages

variable {ω φ : Type} [SystemCalls ω] [FileSystem φ] (parser : Toml.Parser)
  (accounts : Rule.Accounts) (line : CommandLine) (pid : UInt32) (system : ω) (files : φ)

def connected : Except ExchangeError (AuditSocket ω) × ω :=
  (AuditSocket.connect (registerSignals system stopSignals).2).value

def started (config : Config) : Except LogError Log × φ :=
  (Log.start (line.loadConfig parser files).value.2 config.log.path config.log.rotatedPath
    config.log.maxBytes).value

def configured (config : Config) (socket : AuditSocket ω) :
    Except ExchangeError StartupReport × Client (AuditSocket ω) :=
  (Startup.configureKernel accounts ⟨socket, {}⟩ config pid).value

-- What comes of the registration, which is the last thing that is configured.
def registered (config : Config) (socket : AuditSocket ω) : Except ExchangeError Unit :=
  ((Startup.prepare accounts ⟨socket, {}⟩ config).2.setPid pid true).value.1

-- The socket is opened, with the configuration loaded and the signals registered before.
structure Opens (config : Config) (socket : AuditSocket ω) : Prop where
  loaded : (line.loadConfig parser files).value.1 = .ok config
  signals : (registerSignals system stopSignals).1 = .ok ()
  socket : (connected system).1 = .ok socket

end Stages

section Serving

variable {ω φ : Type} [SystemCalls ω] [FileSystem φ] {accounts : Rule.Accounts} {config : Config}
  {pid : UInt32}

-- Only the registration decides whether the kernel could be configured.
theorem registered_of_configured {socket : AuditSocket ω} {client : Client (AuditSocket ω)}
    {result : Except ExchangeError StartupReport}
    (h : configured accounts pid config socket = (result, client)) :
    registered accounts pid config socket = result.map fun _ => () := by
  have hrun : (configured accounts pid config socket).1 =
      (registered accounts pid config socket).map fun _ =>
        (Startup.prepare accounts ⟨socket, {}⟩ config).1 :=
    congrArg Prod.fst (Startup.configureKernel_of_prepare accounts ⟨socket, {}⟩ config pid)
  rw [h] at hrun
  obtain rfl : result = _ := hrun
  cases registered accounts pid config socket with
  | error error => rfl
  | ok _ => rfl

-- Without the registration there is no work, socket and log are let go of at once.
theorem value_serve_of_error {socket : AuditSocket ω} {client : Client (AuditSocket ω)}
    {error : ExchangeError} (h : configured accounts pid config socket = (.error error, client))
    (log : Log) (files : φ) :
    (serve accounts config pid socket log files).value =
      (.error (.exchange error), (Channel.close client.channel).value.system,
        (log.close files).2) := by
  rw [configured] at h
  simp only [serve, Traced.value_bind, h]
  split
  · rfl
  · rfl

-- After the work the kernel is asked to send nothing more, and that can fail or not.
theorem value_serve_of_ok {socket : AuditSocket ω} {client : Client (AuditSocket ω)}
    {report : StartupReport} (h : configured accounts pid config socket = (.ok report, client))
    (log : Log) (files : φ) :
    let loop := (EventLoop.run { client, log, files }).value.2
    let stopped := (loop.client.setPid 0 false).value.2
    (serve accounts config pid socket log files).value =
      ((loop.log.close loop.files).1.mapError .log, (Channel.close stopped.channel).value.system,
        (loop.log.close loop.files).2) := by
  rw [configured] at h
  simp only [serve, Traced.value_bind, h, EventLoop.value_shutdown]
  split
  · rename_i hclosed
    rw [hclosed]
    rfl
  · rename_i hclosed
    rw [hclosed]
    rfl

end Serving

-- What is done with an open socket: these requests are sent through it, and it is not closed.
structure WorkFor (descriptor : Nat) (requests : List Request) (work : List SystemCall) : Prop where
  only : ∀ call ∈ work, call.IsWork descriptor
  frames : (work.filterMap SystemCall.frame?).destutter (· ≠ ·) = Request.frames 0 requests

section Work

variable {ω φ : Type} [SystemCalls ω] [FileSystem φ] {accounts : Rule.Accounts} {config : Config}
  {pid : UInt32} {socket : AuditSocket (Recorded ω)} {client : Client (AuditSocket (Recorded ω))}
  {requests : List Request}

-- The socket has been worked with, and asked for these requests since it was opened.
structure Worked (socket : AuditSocket (Recorded ω)) (requests : List Request)
    (client : Client (AuditSocket (Recorded ω))) : Prop where
  worked : client.channel.WorkedSince socket.system.calls socket.descriptor
  asked : Client.Asks (AuditSocket.memory ω) ⟨socket, {}⟩ requests client

-- And then it is closed.
theorem Worked.exists_work (h : Worked socket requests client) : ∃ work released,
    (Channel.close client.channel).value.system.calls =
        socket.system.calls ++ work ++ [.close socket.descriptor released] ∧
      WorkFor socket.descriptor requests work := by
  obtain ⟨hdescriptor, work, hwork, hall⟩ := h.worked
  obtain ⟨often, hoften, hsent⟩ : ∃ often, Repeats (Request.frames 0 requests) often ∧
      client.channel.system.calls.filterMap SystemCall.frame? =
        socket.system.calls.filterMap SystemCall.frame? ++ often := h.asked.handed
  rw [hwork, List.filterMap_append] at hsent
  have hframes : work.filterMap SystemCall.frame? = often := List.append_cancel_left hsent
  rw [AuditSocket.calls_close, hwork, hdescriptor]
  refine ⟨work, _, rfl, hall, ?_⟩
  rw [hframes]
  exact hoften.destutter_eq (Request.isChain_frames _ _)

theorem configured_worked (hvalid : config.validate = .ok ()) (accounts : Rule.Accounts)
    (pid : UInt32) (socket : AuditSocket (Recorded ω)) :
    Worked socket (config.requests accounts pid) (configured accounts pid config socket).2 := by
  have hinvariant : Channel.Invariant fun socket' : AuditSocket (Recorded ω) =>
      socket'.WorkedSince socket.system.calls socket.descriptor :=
    AuditSocket.worked_invariant socket.system.calls socket.descriptor
  have hopened : socket.WorkedSince socket.system.calls socket.descriptor :=
    ⟨rfl, [], (List.append_nil _).symm, nofun⟩
  have hbegin : (⟨socket, {}⟩ : Client (AuditSocket (Recorded ω))).sequence.Valid :=
    Int.le_refl 0
  exact ⟨@Channel.Invariant.configureKernel _ _ _ hinvariant ⟨socket, {}⟩ hopened accounts config pid,
    Startup.configureKernel_asks _ hbegin hvalid accounts pid⟩

-- The work itself asks for nothing, until nothing more is to be sent.
theorem Worked.stopped (h : Worked socket requests client) (log : Log) (files : φ) :
    let loop := (EventLoop.run { client, log, files }).value.2
    Worked socket (requests ++ [Client.registrationRequest 0])
      (loop.client.setPid 0 false).value.2 := by
  intro loop
  have hinvariant : Channel.Invariant fun socket' : AuditSocket (Recorded ω) =>
      socket'.WorkedSince socket.system.calls socket.descriptor :=
    AuditSocket.worked_invariant socket.system.calls socket.descriptor
  refine ⟨hinvariant.setPid ?_ 0 false, ?_⟩
  · exact EventLoop.takeTurns_preserves
      (P := fun loop : EventLoop (AuditSocket (Recorded ω)) φ =>
        loop.client.channel.WorkedSince socket.system.calls socket.descriptor)
      (fun loop hworked => EventLoop.turn_quiet hinvariant.toQuiet hworked) h.worked
  · have hran := EventLoop.takeTurns_asks (AuditSocket.memory ω) { client, log, files } h.asked.valid
    have hstopped := Client.setPid_asks (AuditSocket.memory ω) hran.valid 0 false
    exact h.asked.trans (hran.trans hstopped)

end Work

-- A log that was started and served with has only been appended to.
theorem run_appended {σ φ : Type} [Channel σ] [FileSystem φ] {client : Client σ} {log : Log}
    {files : RecordedFiles φ} (h : FileOperation.handle? files.operations = log.file) :
    (EventLoop.run { client, log, files }).value.2.AppendedSince files.operations log.active := by
  let loop : EventLoop σ (RecordedFiles φ) := { client, log, files }
  have hturns : loop.takeTurns.value.2.AppendedSince files.operations log.active :=
    EventLoop.takeTurns_preserves
      (P := fun loop : EventLoop σ (RecordedFiles φ) =>
        loop.AppendedSince files.operations log.active)
      (fun _ happended => EventLoop.turn_appended happended) ⟨.start h, rfl⟩
  exact ⟨hturns.tracks, hturns.path⟩

section Setup

variable {ω φ : Type} [SystemCalls ω] [FileSystem φ] {parser : Toml.Parser}

-- To load the configuration one file is read.
theorem operations_loadConfig {line : CommandLine} {files files' : RecordedFiles φ}
    {loaded : Except ConfigError Config} (hfresh : files.operations = [])
    (h : (line.loadConfig parser files).value = (loaded, files')) : ∃ read,
    files'.operations = [.readFile line.config read] ∧ line.Loads parser read loaded := by
  have hread : (FileSystem.readFile files line.config).2.operations = files.operations ++
      [.readFile line.config (FileSystem.readFile files line.config).1] := rfl
  obtain ⟨hloads, hfiles⟩ := CommandLine.loadConfig_loads parser line files
  rw [h] at hloads hfiles
  obtain rfl : files' = _ := hfiles
  refine ⟨_, ?_, hloads⟩
  rw [hread, hfresh, List.nil_append]

-- Signals are registered one after the other, up to one that cannot be.
theorem calls_registerSignals (recorded : Recorded ω) (signals : List Nat) :
    let run := registerSignals recorded signals
    (run.1 = .ok () ∧
        run.2.calls = recorded.calls ++ signals.map (.registerSignal · (.ok ()))) ∨
      ∃ before signal after error, signals = before ++ signal :: after ∧ run.1 = .error error ∧
        run.2.calls = recorded.calls ++ (before.map (.registerSignal · (.ok ())) ++
          [.registerSignal signal (.error error)]) := by
  induction signals generalizing recorded with
  | nil => exact .inl ⟨rfl, (List.append_nil _).symm⟩
  | cons signal signals ih =>
    intro run
    have hunfold : run = registerSignals recorded (signal :: signals) := rfl
    rw [registerSignals] at hunfold
    rcases hregister : SystemCalls.registerSignal recorded signal with ⟨error | _, recorded'⟩
    · simp only [hregister] at hunfold
      rw [hunfold]
      exact .inr ⟨[], signal, signals, error, rfl, rfl, Recorded.calls_of_record hregister⟩
    · simp only [hregister] at hunfold
      rw [hunfold]
      have hcalls := Recorded.calls_of_record hregister
      rcases ih recorded' with ⟨hok, hrest⟩ | ⟨before, failed, after, error, rfl, herror, hrest⟩
      · rw [hcalls, List.append_assoc] at hrest
        exact .inl ⟨hok, hrest⟩
      · rw [hcalls, List.append_assoc] at hrest
        exact .inr ⟨signal :: before, failed, after, error, rfl, herror, hrest⟩

theorem calls_connect (recorded : Recorded ω) :
    ∃ result : Except IoError Nat,
      (AuditSocket.connect recorded).value.2.calls = recorded.calls ++
        [.socket AuditSocket.family AuditSocket.kind AuditSocket.protocol result] ∧
      (AuditSocket.connect recorded).value.1 =
        match result with
        | .error error => .error (.channelUnavailable error)
        | .ok descriptor => .ok { descriptor, system := (AuditSocket.connect recorded).value.2 } := by
  unfold AuditSocket.connect
  rcases hsocket : SystemCalls.socket recorded AuditSocket.family AuditSocket.kind
    AuditSocket.protocol with ⟨error | descriptor, recorded'⟩
  · exact ⟨.error error, Recorded.calls_of_record hsocket, rfl⟩
  · exact ⟨.ok descriptor, Recorded.calls_of_record hsocket, rfl⟩

end Setup

section Run

variable {ω φ : Type} [SystemCalls ω] [FileSystem φ] {parser : Toml.Parser} {line : CommandLine}
  {config : Config} {system system' system'' : ω} {files files' : φ}

theorem value_run_of_unconfigured {error : ConfigError}
    (h : (line.loadConfig parser files).value = (.error error, files')) (accounts : Rule.Accounts)
    (pid : UInt32) (system : ω) :
    (run parser accounts line pid system files).value =
      (.error (.config error), system, files') := by
  simp only [run, Traced.value_bind, h, Traced.value_pure]

theorem value_run_of_unsignalled {error : IoError}
    (hloaded : (line.loadConfig parser files).value = (.ok config, files'))
    (hsignals : registerSignals system stopSignals = (.error error, system'))
    (accounts : Rule.Accounts) (pid : UInt32) :
    (run parser accounts line pid system files).value =
      (.error (.signal error), system', files') := by
  simp only [run, Traced.value_bind, hloaded, hsignals, Traced.value_pure]

theorem value_run_of_unconnected {error : ExchangeError}
    (hloaded : (line.loadConfig parser files).value = (.ok config, files'))
    (hsignals : registerSignals system stopSignals = (.ok (), system'))
    (hconnected : (AuditSocket.connect system').value = (.error error, system''))
    (accounts : Rule.Accounts) (pid : UInt32) :
    (run parser accounts line pid system files).value =
      (.error (.exchange error), system'', files') := by
  simp only [run, Traced.value_bind, hloaded, hsignals, hconnected, Traced.value_pure]

-- With the socket open it is up to the log.
theorem value_run_of_opens {socket : AuditSocket ω}
    (h : Opens parser line system files config socket) (accounts : Rule.Accounts) (pid : UInt32) :
    (run parser accounts line pid system files).value =
      match started parser line files config with
      | (.error error, files) => (.error (.log error), socket.release, files)
      | (.ok log, files) => (serve accounts config pid socket log files).value := by
  have hloaded : (line.loadConfig parser files).value =
      (.ok config, (line.loadConfig parser files).value.2) :=
    Prod.ext h.loaded rfl
  have hsignals : registerSignals system stopSignals =
      (.ok (), (registerSignals system stopSignals).2) :=
    Prod.ext h.signals rfl
  have hsocket : (AuditSocket.connect (registerSignals system stopSignals).2).value =
      (.ok socket, (connected system).2) :=
    Prod.ext h.socket rfl
  simp only [run, Traced.value_bind]
  rw [hloaded, hsignals]
  simp only [Traced.value_bind]
  rw [hsocket]
  simp only [Traced.value_bind]
  rcases hstarted : started parser line files config with ⟨error | log, files'⟩
  · rw [started] at hstarted
    rw [hstarted]
    rfl
  · rw [started] at hstarted
    rw [hstarted]

end Run

end Daemon

end AuditCollector
