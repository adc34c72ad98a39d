import AuditCollector.Proofs.Channel.Overheard
import AuditCollector.Startup

namespace AuditCollector

open AuditCollector.Frame

-- A channel seen as another one: a send or a receive on the one comes to the same as on the
-- other.
structure Channel.View (σ τ : Type) [Channel σ] [Channel τ] where
  see : σ → τ
  send (s : σ) (frame : Bytes) :
    Channel.send (see s) frame = (Channel.send s frame).map id see
  receive (s : σ) (capacity : Nat) (mode : ReceiveMode) (peek : Peek) :
    Channel.receive (see s) capacity mode peek = (Channel.receive s capacity mode peek).map id see

-- Being overheard makes no difference.
def Overheard.view (σ : Type) [Channel σ] : Channel.View (Overheard σ) σ where
  see := Overheard.channel
  send _ _ := rfl
  receive _ _ _ _ := rfl

variable {σ τ : Type} [Channel σ] [Channel τ] (view : Channel.View σ τ)

def Client.seen (client : Client σ) : Client τ := ⟨view.see client.channel, client.sequence⟩

namespace Channel.View

theorem sendRepeatedly (s : σ) (frame : Bytes) :
    Channel.sendRepeatedly (view.see s) frame =
      (Channel.sendRepeatedly s frame).map id view.see := by
  fun_induction Channel.sendRepeatedly s frame with
  | case1 s sent s' hsend =>
    exact Channel.sendRepeatedly_of_ok (by rw [view.send, hsend]; rfl)
  | case2 s s' hsend hless ih =>
    rw [Channel.sendRepeatedly_of_error (by rw [view.send, hsend]; rfl), if_pos rfl, ih]
  | case3 s error s' hsend hother =>
    rw [Channel.sendRepeatedly_of_error (by rw [view.send, hsend]; rfl), if_neg hother]
    rfl

theorem receiveRepeatedly (s : σ) (capacity : Nat) (mode : ReceiveMode) (peek : Peek) :
    Channel.receiveRepeatedly (view.see s) capacity mode peek =
      (Channel.receiveRepeatedly s capacity mode peek).map id view.see := by
  fun_induction Channel.receiveRepeatedly s capacity mode peek with
  | case1 s datagram s' hreceive =>
    exact Channel.receiveRepeatedly_of_ok (by rw [view.receive, hreceive]; rfl)
  | case2 s error s' hreceive hretries hless ih =>
    rw [Channel.receiveRepeatedly_of_error (by rw [view.receive, hreceive]; rfl), if_pos hretries, ih]
  | case3 s error s' hreceive hretries =>
    rw [Channel.receiveRepeatedly_of_error (by rw [view.receive, hreceive]; rfl), if_neg hretries]
    rfl

theorem exchange_receive (s : σ) (envelope : Envelope) (mode : ReceiveMode) (peek : Peek) :
    Exchange.receive (view.see s) envelope mode peek =
      (fun received => (received.1, view.see received.2.1, received.2.2)) <$>
        Exchange.receive s envelope mode peek := by
  unfold Exchange.receive
  rw [view.receiveRepeatedly]
  rcases Channel.receiveRepeatedly s capacity mode peek with ⟨_ | _, s'⟩
  · simp only [Prod.map_apply, id_eq]
    split
    · simp
    · simp
  · simp

theorem exchange_send (s : σ) (counter : SequenceCounter) (messageType : UInt16) (payload : Bytes) :
    Exchange.send (view.see s) counter messageType payload =
      (fun sent => (sent.1, view.see sent.2.1, sent.2.2)) <$>
        Exchange.send s counter messageType payload := by
  unfold Exchange.send
  split
  · simp
  · rw [map_bind]
    refine bind_congr fun advanced => ?_
    simp only [view.sendRepeatedly]
    rcases Channel.sendRepeatedly s (Envelope.requestBytes _ messageType advanced.1 payload)
      with ⟨_ | sent, s'⟩
    · simp
    · simp only [Prod.map_apply, id_eq]
      split
      · simp
      · simp

theorem awaitAck_compare (sequence : UInt32) (s : σ) (reply : Reply) :
    Client.awaitAck.compare sequence (view.see s) reply =
      (fun answered => (answered.1, view.see answered.2)) <$>
        Client.awaitAck.compare sequence s reply := by
  unfold Client.awaitAck.compare
  split
  · simp
  · simp

theorem awaitAck (s : σ) (sequence : UInt32) :
    Client.awaitAck (view.see s) sequence =
      (fun answered => (answered.1, view.see answered.2)) <$> Client.awaitAck s sequence := by
  unfold Client.awaitAck
  rw [view.exchange_receive, bind_map_left, map_bind]
  refine bind_congr fun (peeked, s, envelope) => ?_
  rcases peeked with error | _ | reply
  · simp
  · simp
  · dsimp only
    split
    · exact view.awaitAck_compare sequence s reply
    · rw [view.exchange_receive, bind_map_left, map_bind]
      refine bind_congr fun (taken, s, envelope) => ?_
      rcases taken with error | _ | reply
      · simp
      · exact view.awaitAck_compare sequence s _
      · dsimp only
        split
        · exact view.awaitAck_compare sequence s reply
        · split
          · exact view.awaitAck_compare sequence s reply
          · simp

variable (client : Client σ)

theorem client_send (messageType : UInt16) (payload : Bytes) :
    (client.seen view).send messageType payload =
      (fun sent => (sent.1, sent.2.seen view)) <$> client.send messageType payload := by
  unfold Client.send
  rw [Client.seen, view.exchange_send, bind_map_left, map_bind]
  refine bind_congr fun (sent, s, counter) => ?_
  rcases sent with error | number
  · simp [Client.seen]
  · simp [view.awaitAck, Client.seen]

theorem discardFollowUp (s : σ) :
    Client.discardFollowUp (view.see s) = view.see <$> Client.discardFollowUp s := by
  unfold Client.discardFollowUp
  rw [view.exchange_receive, bind_map_left, map_bind]
  refine bind_congr fun (received, s, _) => ?_
  rcases received with error | _ | reply
  · simp
  · simp
  · simp

theorem setPid (pid : UInt32) (discard : Bool) :
    (client.seen view).setPid pid discard =
      (fun registered => (registered.1, registered.2.seen view)) <$> client.setPid pid discard := by
  unfold Client.setPid
  rw [view.client_send, bind_map_left, map_bind]
  refine bind_congr fun (sent, client) => ?_
  rcases sent with error | number
  · simp
  · cases discard
    · simp
    · simp [Client.seen, view.discardFollowUp]

theorem installWatch (accounts : Rule.Accounts) (watch : WatchConfig) :
    Startup.installWatch accounts (client.seen view) watch =
      (fun installed => (installed.1, installed.2.seen view)) <$>
        Startup.installWatch accounts client watch := by
  unfold Startup.installWatch Client.addRule
  split
  · simp
  · rw [view.client_send, bind_map_left, map_bind]
    refine bind_congr fun (added, client) => ?_
    rcases added with error | number
    · simp
    · simp

theorem installWatches (accounts : Rule.Accounts) (report : StartupReport)
    (watches : List WatchConfig) :
    Startup.installWatches accounts (client.seen view) report watches =
      (fun installed => (installed.1, installed.2.seen view)) <$>
        Startup.installWatches accounts client report watches := by
  induction watches generalizing client report with
  | nil => rfl
  | cons watch watches ih =>
    unfold Startup.installWatches
    rw [view.installWatch, bind_map_left, map_bind]
    exact bind_congr fun (installed, client) => ih client _

theorem applyState (state? : Option EnabledState) :
    Startup.applyState (client.seen view) state? =
      Client.seen view <$> Startup.applyState client state? := by
  unfold Startup.applyState Client.setEnabled
  cases state? with
  | none => simp
  | some state =>
    simp only
    rw [view.client_send, bind_map_left, map_bind]
    refine bind_congr fun (set, client) => ?_
    rcases set with error | number
    · simp
    · simp

-- So the whole startup comes to the same, and tells the same.
theorem configureKernel (accounts : Rule.Accounts) (config : Config) (pid : UInt32) :
    Startup.configureKernel accounts (client.seen view) config pid =
      (fun configured => (configured.1, configured.2.seen view)) <$>
        Startup.configureKernel accounts client config pid := by
  unfold Startup.configureKernel
  rw [view.installWatches, bind_map_left, map_bind]
  refine bind_congr fun (report, client) => ?_
  dsimp only
  rw [view.applyState, bind_map_left, map_bind]
  refine bind_congr fun client => ?_
  rw [view.setPid, bind_map_left, map_bind]
  refine bind_congr fun (registered, client) => ?_
  rcases registered with error | _
  · simp
  · simp

end Channel.View

end AuditCollector
