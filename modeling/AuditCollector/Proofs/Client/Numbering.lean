import AuditCollector.Proofs.Channel.View
import AuditCollector.Proofs.Client.Requests
import AuditCollector.Proofs.Frame.Requests

namespace AuditCollector

open AuditCollector.Frame Request SequenceCounter

namespace Request

variable {request : Request}

-- The bytes ask for something under a number: a header that says how many they are, what is
-- asked for, and zeros up to a multiple of four.
structure WrittenAs (request : Request) (sequence : UInt32) (frame : Bytes) : Prop where
  header : ∃ length : UInt32, length.toNat = frame.length ∧
    Header.parse? frame = some { length, messageType := request.messageType, flags := 5, sequence, pid := 0 }
  payload : ∃ padding < 4, frame.drop 16 = request.payload ++ List.replicate padding 0
  aligned : 4 ∣ frame.length

theorem writtenAs_requestBytes {length : Nat}
    (h : requestLength? request.payload.length = some length) (sequence : UInt32) :
    request.WrittenAs sequence
      (Envelope.requestBytes length request.messageType sequence request.payload) := by
  obtain ⟨hmax, hlength⟩ := requestLength?_eq_some_iff.mp h
  have hmax' : request.payload.length ≤ 8952 := hmax
  have hlt := align_lt (headerLength + request.payload.length)
  rw [← hlength, headerLength] at hlt
  have hword : length < 2 ^ 32 := by omega
  have hbytes := Envelope.requestBytes_eq length request.messageType sequence request.payload
  have hwhole := Envelope.length_requestBytes h request.messageType sequence
  refine ⟨⟨UInt32.ofNat length, ?_, ?_⟩, ⟨length - 16 - request.payload.length, by omega, ?_⟩, ?_⟩
  · rw [hwhole]
    exact UInt32.toNat_ofNat_of_lt' hword
  · rw [hbytes, Header.parse?_toBytes_append]
    rfl
  · rw [hbytes]
    exact List.drop_left' (Header.length_toBytes _)
  · rw [hwhole, hlength]
    exact align_dvd _

theorem writtenAs_frame (hfits : request.Fits) (number : Nat) :
    request.WrittenAs (UInt32.ofNat number) (request.frame number) :=
  writtenAs_requestBytes (requestLength?_eq_some_iff.mpr ⟨hfits, rfl⟩) _

end Request

variable {σ : Type} [Channel σ]

namespace Exchange

-- A request that fits is one frame under the next number, however often it has to be sent.
theorem send_once (s : σ) (earlier : List ChannelCall) (counter : SequenceCounter) (request : Request)
    (hfits : request.Fits) :
    let sent := (send (⟨s, earlier⟩ : Overheard σ) counter request.messageType request.payload).value
    sent.2.2 = counter.advance.value.2 ∧
      ∃ frame again outcome, request.WrittenAs sent.2.2.current.toInt32.toUInt32 frame ∧
        sent.2.1.calls = earlier ++ List.replicate again (.send frame (.error (.os 4))) ++
          [.send frame outcome] ∧
        outcome ≠ .error (.os 4) ∧
        Concludes sent.2.2.current.toInt32.toUInt32 frame.length outcome sent.1 := by
  intro sent
  have hlength : requestLength? request.payload.length =
      some (align (headerLength + request.payload.length)) :=
    requestLength?_eq_some_iff.mpr ⟨hfits, rfl⟩
  let frame := Envelope.requestBytes (align (headerLength + request.payload.length))
    request.messageType counter.advance.value.1 request.payload
  have hframe : frame.length = align (headerLength + request.payload.length) :=
    Envelope.length_requestBytes hlength _ _
  have hwritten : request.WrittenAs counter.advance.value.1 frame :=
    Request.writtenAs_requestBytes hlength _
  have hnumber : counter.advance.value.2.current.toInt32.toUInt32 = counter.advance.value.1 := by
    rw [value_advance]
  rcases hrepeated : Channel.sendRepeatedly s frame with ⟨outcome, s'⟩
  obtain ⟨hdecided, again, hheard⟩ := Overheard.sendRepeatedly_eq earlier hrepeated
  obtain ⟨result, hsent, hconcludes⟩ := send_concludes hlength hheard
  have hvalue : sent = _ := hsent
  rw [hvalue, hnumber]
  refine ⟨rfl, frame, again, outcome, hwritten, rfl, hdecided, ?_⟩
  rw [hframe]
  exact hconcludes

end Exchange

namespace Client

-- What can be asked of a client.
inductive Order where
  | send (messageType : UInt16) (payload : Bytes)
  | setPid (pid : UInt32) (discard : Bool)
  | setEnabled (state : EnabledState)
  | addRule (rule : Rule)

def Order.request : Order → Request
  | send messageType payload => ⟨messageType, payload⟩
  | setPid pid _ => registrationRequest pid
  | setEnabled state =>
    ⟨Envelope.setStatusType,
      ({ mask := Status.Part.enabled.bit, enabled := state.toUInt32 } : Status).toBytes⟩
  | addRule rule => ⟨Envelope.addRuleType, rule.toBytes⟩

-- The client afterwards, whatever came of it.
def follow (client : Client σ) : Order → Client σ
  | .send messageType payload => (client.send messageType payload).value.2
  | .setPid pid discard => (client.setPid pid discard).value.2
  | .setEnabled state => (client.setEnabled state).value.2
  | .addRule rule => (client.addRule rule).value.2

def followAll (client : Client σ) (orders : List Order) : Client σ := orders.foldl follow client

-- What the orders ask for, less what is too long to be sent.
def asked (orders : List Order) : List Request :=
  (orders.map Order.request).filter fun request => request.payload.length ≤ 8952

theorem asked_cons (order : Order) (orders : List Order) :
    asked (order :: orders) = (if order.request.Fits then [order.request] else []) ++ asked orders := by
  rw [asked, List.map_cons, List.filter_cons]
  by_cases hfits : order.request.Fits
  · have hle : order.request.payload.length ≤ 8952 := hfits
    rw [if_pos (decide_eq_true hle), if_pos hfits, asked, List.singleton_append]
  · have hle : ¬order.request.payload.length ≤ 8952 := hfits
    rw [if_neg (by simpa using hle), if_neg hfits, asked, List.nil_append]

variable {client : Client σ} (memory : Channel.Memory σ)

-- Each order asks for one thing, unless that is too long.
theorem follow_asks (hvalid : client.sequence.Valid) (order : Order) :
    client.Asks memory (if order.request.Fits then [order.request] else []) (client.follow order) := by
  cases order with
  | send messageType payload => exact send_asks memory hvalid ⟨messageType, payload⟩
  | setPid pid discard =>
    rw [Order.request, if_pos (registrationRequest_fits pid)]
    exact setPid_asks memory hvalid pid discard
  | setEnabled state => exact send_asks memory hvalid (Order.setEnabled state).request
  | addRule rule => exact send_asks memory hvalid (Order.addRule rule).request

theorem followAll_asks (hvalid : client.sequence.Valid) (orders : List Order) :
    client.Asks memory (asked orders) (client.followAll orders) := by
  induction orders generalizing client with
  | nil => exact .of_sent_eq hvalid rfl rfl
  | cons order orders ih =>
    have hfirst := follow_asks memory hvalid order
    rw [asked_cons]
    exact hfirst.trans (ih hfirst.valid)

theorem followAll_seen {τ : Type} [Channel τ] (view : Channel.View σ τ) (client : Client σ)
    (orders : List Order) :
    (client.followAll orders).seen view = (client.seen view).followAll orders := by
  induction orders generalizing client with
  | nil => rfl
  | cons order orders ih =>
    have hfirst : (client.follow order).seen view = (client.seen view).follow order := by
      cases order with
      | send messageType payload =>
        simp only [follow, view.client_send, Traced.value_map]
      | setPid pid discard => simp only [follow, view.setPid, Traced.value_map]
      | setEnabled state => simp only [follow, setEnabled, view.client_send, Traced.value_map]
      | addRule rule => simp only [follow, addRule, view.client_send, Traced.value_map]
    exact (ih (client.follow order)).trans (congrArg (followAll · orders) hfirst)

-- One request is one frame under one number. A request that is too long is refused, with nothing
-- sent and no number used. Any other one takes the next number, and its frame alone is sent, again
-- after each interruption and no more often. So the requests that are not too long are numbered one
-- after the other, round the numbers there are, whatever came of the earlier ones.
theorem requests_numbered :
    (∀ (s : σ) (earlier : List ChannelCall) (counter : SequenceCounter) (messageType : UInt16)
        (payload : Bytes),
      let sent := (Exchange.send (⟨s, earlier⟩ : Overheard σ) counter messageType payload).value
      Exchange.send s counter messageType payload =
          (fun sent => (sent.1, sent.2.1.channel, sent.2.2)) <$>
            Exchange.send (⟨s, earlier⟩ : Overheard σ) counter messageType payload ∧
        (8952 < payload.length →
          sent = (.error (.payloadTooLarge payload.length 8952), ⟨s, earlier⟩, counter)) ∧
        (payload.length ≤ 8952 → sent.2.2 = counter.advance.value.2 ∧
          ∃ frame again outcome,
            Request.WrittenAs ⟨messageType, payload⟩ sent.2.2.current.toInt32.toUInt32 frame ∧
            sent.2.1.calls = earlier ++ List.replicate again (.send frame (.error (.os 4))) ++
              [.send frame outcome] ∧
            outcome ≠ .error (.os 4) ∧
            Exchange.Concludes sent.2.2.current.toInt32.toUInt32 frame.length outcome sent.1)) ∧
    ∀ (s : σ) (start : Int16) (before : List Order) (order : Order),
      let client := (⟨⟨s, []⟩, .startingAt start⟩ : Client (Overheard σ)).followAll before
      let sent := client.channel.calls.filterMap ChannelCall.sent?
      let sent' := (client.follow order).channel.calls.filterMap ChannelCall.sent?
      (client.follow order).seen (Overheard.view σ) =
          (⟨s, .startingAt start⟩ : Client σ).followAll (before ++ [order]) ∧
        (8952 < order.request.payload.length → sent' = sent) ∧
        (order.request.payload.length ≤ 8952 → ∃ frame again,
          order.request.WrittenAs
            (UInt32.ofNat ((start.toInt.toNat + ((asked before).length + 1)) % 32768)) frame ∧
          sent' = sent ++ List.replicate (again + 1) frame) := by
  refine ⟨fun s earlier counter messageType payload => ⟨?_, fun hlong => ?_, fun hfits => ?_⟩,
    fun s start before order => ?_⟩
  · exact (Overheard.view σ).exchange_send ⟨s, earlier⟩ counter messageType payload
  · rw [Exchange.send_of_too_long (requestLength?_eq_none_iff.mpr hlong)]
    rfl
  · exact Exchange.send_once s earlier counter ⟨messageType, payload⟩ hfits
  · intro client sent sent'
    let fresh : Client (Overheard σ) := ⟨⟨s, []⟩, .startingAt start⟩
    have hvalid : fresh.sequence.Valid := startingAt_valid start
    have hbefore : fresh.Asks (Overheard.memory σ) (asked before) client :=
      followAll_asks (Overheard.memory σ) hvalid before
    have hlast := follow_asks (Overheard.memory σ) hbefore.valid order
    obtain ⟨often, hoften, hsent⟩ := hlast.handed
    refine ⟨?_, fun hlong => ?_, fun hfits => ?_⟩
    · have hseen := followAll_seen (Overheard.view σ) fresh (before ++ [order])
      rw [followAll, List.foldl_append] at hseen
      exact hseen
    · have hlong : ¬order.request.Fits := Nat.not_le.mpr hlong
      rw [if_neg hlong, frames_nil] at hoften
      cases hoften
      rwa [List.append_nil] at hsent
    · have hfits : order.request.Fits := hfits
      have hnumber : (client.sequence.number + 1) % period =
          (start.toInt.toNat + ((asked before).length + 1)) % 32768 := by
        rw [hbefore.number, Nat.mod_add_mod, ← number_startingAt, Nat.add_assoc]
        rfl
      rw [if_pos hfits, frames_cons, frames_nil, hnumber] at hoften
      obtain ⟨again, rfl⟩ := hoften.exists_replicate
      exact ⟨_, again, writtenAs_frame hfits _, hsent⟩

end Client

end AuditCollector
