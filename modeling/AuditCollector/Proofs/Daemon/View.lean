import AuditCollector.Daemon
import AuditCollector.Proofs.Channel.View
import AuditCollector.Proofs.Log.View
import AuditCollector.Proofs.System.Recorded

namespace AuditCollector

open AuditCollector.Frame

-- A channel seen as another one in all that can be done with it.
structure Channel.FullView (σ τ : Type) [Channel σ] [Channel τ] extends Channel.View σ τ where
  wait (s : σ) : Channel.waitReadable (see s) = (Channel.waitReadable s).map id see
  stop (s : σ) : Channel.stopRequested (see s) = Channel.stopRequested s
  close (s : σ) : Channel.close (see s) = see <$> Channel.close s

-- The socket of a recorded system seen as one of the system itself.
def AuditSocket.unrecorded (ω : Type) [SystemCalls ω] :
    Channel.FullView (AuditSocket (Recorded ω)) (AuditSocket ω) where
  see socket := ⟨socket.descriptor, socket.system.system⟩
  send _ _ := rfl
  receive _ _ _ _ := rfl
  wait _ := rfl
  stop _ := rfl
  close socket := by
    change AuditSocket.close _ = _ <$> AuditSocket.close socket
    unfold AuditSocket.close
    rcases hclose : SystemCalls.close socket.system socket.descriptor with ⟨error | _, recorded⟩
    · rw [Recorded.record_eq hclose]
      simp
    · rw [Recorded.record_eq hclose]
      simp

variable {σ τ φ ψ : Type} [Channel σ] [Channel τ] [FileSystem φ] [FileSystem ψ]
  (view : Channel.FullView σ τ) (files : FileSystem.View φ ψ)

def EventLoop.seen (loop : EventLoop σ φ) : EventLoop τ ψ where
  client := loop.client.seen view.toView
  log := loop.log
  files := files.see loop.files
  activity := loop.activity
  envelope := loop.envelope

namespace Channel.FullView

theorem dispatch (loop : EventLoop σ φ) :
    (loop.seen view files).dispatch =
      (fun dispatched => (dispatched.1, dispatched.2.seen view files)) <$> loop.dispatch := by
  unfold EventLoop.dispatch
  rw [EventLoop.seen, Client.seen, view.exchange_receive, bind_map_left, map_bind]
  refine bind_congr fun received => ?_
  rcases received with ⟨error | _ | reply, s, envelope⟩
  · simp [EventLoop.seen, Client.seen]
  · simp [EventLoop.seen, Client.seen]
  · simp only [map_bind]
    refine bind_congr fun _ => ?_
    rw [files.append, bind_map_left]
    refine bind_congr fun appended => ?_
    rcases appended with ⟨error | _, log, f⟩
    · simp [EventLoop.seen, Client.seen]
    · simp [EventLoop.seen, Client.seen]

theorem turn (loop : EventLoop σ φ) :
    (loop.seen view files).turn =
      (fun turned => (turned.1, turned.2.seen view files)) <$> loop.turn := by
  have hwait : Channel.waitReadable (loop.seen view files).client.channel =
      (Channel.waitReadable loop.client.channel).map id view.see := view.wait loop.client.channel
  unfold EventLoop.turn
  rw [hwait]
  rcases Channel.waitReadable loop.client.channel with ⟨error | _ | _, s⟩
  · simp only [Prod.map_apply, id_eq]
    split
    · simp [EventLoop.seen, Client.seen]
    · simp [EventLoop.seen, Client.seen]
  · simp [EventLoop.seen, Client.seen]
  · have hdispatch := dispatch view files { loop with
      client := { loop.client with channel := s }
      activity := .dispatching }
    refine (congrArg (· >>= _) hdispatch).trans ?_
    rw [bind_map_left, map_bind]
    exact bind_congr fun dispatched => by simp [EventLoop.seen]

theorem takeTurns (loop : EventLoop σ φ) :
    (loop.seen view files).takeTurns =
      (fun taken => (taken.1, taken.2.seen view files)) <$> loop.takeTurns := by
  have hstops : ∀ loop : EventLoop σ φ,
      (loop.seen view files).stopRequested = loop.stopRequested :=
    fun loop => view.stop loop.client.channel
  fun_induction EventLoop.takeTurns loop with
  | case1 loop hstop =>
    rw [EventLoop.takeTurns, if_pos ((hstops loop).trans hstop)]
    rfl
  | case2 loop hstop first rest ih =>
    rw [EventLoop.takeTurns, if_neg (by rwa [hstops]), turn view files loop]
    change (loop.turn.value.2.seen view files).takeTurns = _ at ih
    simp only [Traced.value_map, Traced.events_map, ih]
    refine Traced.ext rfl ?_
    rw [Traced.events_map]

theorem run (loop : EventLoop σ φ) :
    (loop.seen view files).run =
      (fun ran => (ran.1, ran.2.seen view files)) <$> loop.run := by
  unfold EventLoop.run
  rw [map_bind, takeTurns]
  refine bind_congr fun _ => ?_
  rw [bind_map_left, map_bind]
  refine bind_congr fun taken => ?_
  simp [EventLoop.seen]

theorem shutdown (loop : EventLoop σ φ) :
    (loop.seen view files).shutdown =
      (fun stopped => (stopped.1, view.see stopped.2.1, files.see stopped.2.2)) <$>
        loop.shutdown := by
  unfold EventLoop.shutdown
  rw [EventLoop.seen, view.setPid, bind_map_left, map_bind]
  refine bind_congr fun (deregistered, client) => ?_
  rcases deregistered with error | number
  · simp [Client.seen, view.close, files.close]
  · simp [Client.seen, view.close, files.close]

end Channel.FullView

theorem FileSystem.View.loadConfig (parser : Toml.Parser) (line : CommandLine) (f : φ) :
    line.loadConfig parser (files.see f) =
      (fun loaded => (loaded.1, files.see loaded.2)) <$> line.loadConfig parser f := by
  have htext : Config.readText (files.see f) line.config =
      (Config.readText f line.config).map id files.see := by
    unfold Config.readText
    rw [files.readFile]
    rcases FileSystem.readFile f line.config with ⟨error | bytes, f⟩
    · rfl
    · simp only [Prod.map_apply, id_eq]
      split
      · rfl
      · rfl
  have hloaded : Config.loadFile parser (files.see f) line.config =
      (fun loaded => (loaded.1, files.see loaded.2)) <$> Config.loadFile parser f line.config := by
    unfold Config.loadFile
    rw [htext]
    rcases Config.readText f line.config with ⟨error | text, f⟩
    · simp only [Prod.map_apply, id_eq]
      split
      · simp
      · simp
    · simp
  unfold CommandLine.loadConfig
  rw [hloaded, bind_map_left, map_bind]
  refine bind_congr fun (loaded, f) => ?_
  rcases loaded with error | config
  · simp
  · simp

namespace Daemon

variable {ω : Type} [SystemCalls ω]

theorem registerSignals_system (recorded : Recorded ω) (signals : List Nat) :
    registerSignals recorded.system signals =
      (registerSignals recorded signals).map id Recorded.system := by
  induction signals generalizing recorded with
  | nil => rfl
  | cons signal signals ih =>
    unfold registerSignals
    rcases hregister : SystemCalls.registerSignal recorded signal with ⟨error | _, recorded'⟩
    · rw [Recorded.record_eq hregister]
      rfl
    · rw [Recorded.record_eq hregister]
      exact ih recorded'

theorem connect_system (recorded : Recorded ω) :
    AuditSocket.connect recorded.system =
      (fun connected => (connected.1.map (AuditSocket.unrecorded ω).see, connected.2.system)) <$>
        AuditSocket.connect recorded := by
  unfold AuditSocket.connect
  rcases hsocket : SystemCalls.socket recorded AuditSocket.family AuditSocket.kind
    AuditSocket.protocol with ⟨error | descriptor, recorded'⟩
  · rw [Recorded.record_eq hsocket]
    simp [Except.map]
  · rw [Recorded.record_eq hsocket]
    simp [Except.map, AuditSocket.unrecorded]

theorem serve_seen (accounts : Rule.Accounts) (config : Config) (pid : UInt32)
    (socket : AuditSocket (Recorded ω)) (log : Log) (f : φ) :
    serve accounts config pid ((AuditSocket.unrecorded ω).see socket) log (files.see f) =
      (fun served => (served.1, served.2.1.system, files.see served.2.2)) <$>
        serve accounts config pid socket log f := by
  have hconfigured := (AuditSocket.unrecorded ω).configureKernel ⟨socket, {}⟩ accounts config pid
  unfold serve
  rw [Client.seen] at hconfigured
  rw [hconfigured, bind_map_left, map_bind]
  refine bind_congr fun configured => ?_
  rcases configured with ⟨error | report, client⟩
  · have hclose : AuditSocket.close ((AuditSocket.unrecorded ω).see client.channel) =
        (AuditSocket.unrecorded ω).see <$> AuditSocket.close client.channel :=
      (AuditSocket.unrecorded ω).close client.channel
    simp only
    rw [Client.seen, hclose, bind_map_left, map_bind]
    refine bind_congr fun socket => ?_
    simp only [files.close]
    rcases log.close f with ⟨closeError | _, f⟩
    · simp [AuditSocket.unrecorded]
    · simp [AuditSocket.unrecorded]
  · have hrun := (AuditSocket.unrecorded ω).run files { client, log, files := f }
    simp only
    rw [EventLoop.seen] at hrun
    rw [hrun, bind_map_left, map_bind]
    refine bind_congr fun served => ?_
    simp only
    rw [(AuditSocket.unrecorded ω).shutdown, bind_map_left, map_bind]
    refine bind_congr fun stopped => ?_
    rcases stopped with ⟨error | _, socket, f⟩
    · simp [AuditSocket.unrecorded]
    · simp [AuditSocket.unrecorded]

-- A run of the daemon comes to the same, recorded or not.
theorem run_system (parser : Toml.Parser) (accounts : Rule.Accounts) (line : CommandLine)
    (pid : UInt32) (recorded : Recorded ω) (f : φ) :
    run parser accounts line pid recorded.system (files.see f) =
      (fun ran => (ran.1, ran.2.1.system, files.see ran.2.2)) <$>
        run parser accounts line pid recorded f := by
  unfold run
  rw [files.loadConfig, bind_map_left, map_bind]
  refine bind_congr fun (loaded, f) => ?_
  rcases loaded with error | config
  · simp
  · simp only [registerSignals_system]
    rcases registerSignals recorded stopSignals with ⟨error | _, recorded⟩
    · simp
    · simp only [Prod.map_apply, id_eq]
      rw [connect_system, bind_map_left, map_bind]
      refine bind_congr fun (connected, recorded) => ?_
      rcases connected with error | socket
      · simp [Except.map]
      · simp only [Except.map]
        rw [files.start, bind_map_left, map_bind]
        refine bind_congr fun (started, f) => ?_
        rcases started with error | log
        · rfl
        · simp only
          exact serve_seen files accounts config pid socket log f

end Daemon

end AuditCollector
