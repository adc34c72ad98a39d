import AuditCollector.Proofs.Frame.Received

namespace AuditCollector.Frame

variable {length : Nat} {payload : Bytes}

theorem align_dvd (length : Nat) : 4 ∣ align length := Nat.dvd_mul_left _ _

theorem align_le {length other : Nat} (hdvd : 4 ∣ other) (hle : length ≤ other) :
    align length ≤ other := by
  rw [align_eq]
  omega

-- What a payload can be too short for: a notice has a code, and a signal info has two numbers.
theorem Body.parse?_eq_none_iff {messageType : UInt16} :
    Body.parse? messageType payload = none ↔
      (messageType = Envelope.errorType ∧ payload.length < 4) ∨
        (messageType = Envelope.signalInfoType ∧ payload.length < 8) := by
  have htypes : Envelope.errorType ≠ Envelope.signalInfoType := by decide
  have hstatus : Envelope.statusType ≠ Envelope.signalInfoType := by decide
  have hlist : Envelope.listRulesType ≠ Envelope.signalInfoType := by decide
  unfold Body.parse? Notice.parse? SignalInfo.parse?
  grind

namespace Envelope

-- Behind what is written over an envelope nothing changes.
theorem drop_overlay (envelope : Envelope) {bytes : Bytes} (hfits : bytes.length ≤ capacity) :
    (envelope.overlay bytes).bytes.drop bytes.length = envelope.bytes.drop bytes.length := by
  rw [bytes_overlay, List.take_of_length_le hfits, List.drop_left]

-- The same on the buffer itself: the length of the request, and what the buffer holds then.
def fill (envelope : Envelope) (messageType : UInt16) (sequence : UInt32) (payload : Bytes) :
    Option Nat × Envelope :=
  match envelope.encodeRequest? messageType sequence payload with
  | some (length, filled) => (some length, filled)
  | none => (none, envelope)

variable {envelope : Envelope} {messageType : UInt16} {sequence : UInt32}

theorem fill_of_none (h : requestLength? payload.length = none) :
    envelope.fill messageType sequence payload = (none, envelope) := by
  rw [fill, encodeRequest?, h]
  rfl

theorem fill_of_some (h : requestLength? payload.length = some length) :
    envelope.fill messageType sequence payload =
      (some length, envelope.overlay (requestBytes length messageType sequence payload)) := by
  rw [fill, encodeRequest?, h]
  rfl

-- The payload as it is received: what is missing to a multiple of four is zero.
def padded (length : Nat) (payload : Bytes) : Bytes :=
  payload ++ List.replicate (length - 16 - payload.length) 0

theorem requestBytes_eq (length : Nat) (messageType : UInt16) (sequence : UInt32) (payload : Bytes) :
    requestBytes length messageType sequence payload =
      (requestHeader length messageType sequence).toBytes ++ padded length payload := by
  rw [requestBytes, padded, List.append_assoc, headerLength, Nat.sub_sub]

theorem length_padded (h : requestLength? payload.length = some length) :
    headerLength + (padded length payload).length = length := by
  have hle := le_align (headerLength + payload.length)
  rw [← (requestLength?_eq_some_iff.mp h).2] at hle
  simp only [padded, headerLength, List.length_append, List.length_replicate] at hle ⊢
  omega

-- Padding makes up for up to three bytes that a body is short of.
theorem padded_too_short_iff (h : requestLength? payload.length = some length) :
    Body.parse? messageType (padded length payload) = none ↔
      (messageType = 2 ∧ payload = []) ∨ (messageType = 1010 ∧ payload.length < 5) := by
  have hpadded := length_padded h
  have hlength := (requestLength?_eq_some_iff.mp h).2
  rw [align_eq, headerLength] at hlength
  rw [headerLength] at hpadded
  have hnotice : (padded length payload).length < 4 ↔ payload = [] := by
    rw [← List.length_eq_zero_iff]
    omega
  have hinfo : (padded length payload).length < 8 ↔ payload.length < 5 := by omega
  rw [Body.parse?_eq_none_iff, hnotice, hinfo]
  rfl

theorem decode_requestBytes {received : Nat} (h : requestLength? payload.length = some length)
    (hreceived : length ≤ received) (hfits : received ≤ capacity) :
    (envelope.overlay (requestBytes length messageType sequence payload)).decode received =
      match Body.parse? messageType (padded length payload) with
      | some body =>
        .ok { header := requestHeader length messageType sequence, payload := padded length payload, body }
      | none => .error (.malformed received length) := by
  have hpadded := length_padded h
  have hword : capacity < 2 ^ 32 := by decide
  have hclaimed : (requestHeader length messageType sequence).length.toNat =
      headerLength + (padded length payload).length := by
    rw [hpadded, requestHeader, UInt32.toNat_ofNat', Nat.mod_eq_of_lt (by omega)]
  rw [requestBytes_eq, decode_overlay_of_le envelope hclaimed (by omega) hfits, hpadded]
  rfl

-- A request is refused if its payload is too long, and then the buffer stays as it was.
-- Otherwise it takes no more of the buffer than it has to, whatever the buffer held, and is
-- read back as it was built, with zeros behind the payload. A notice without a payload and a
-- signal info with less than five bytes are too short even then.
theorem decode_fill (envelope : Envelope) (messageType : UInt16) (sequence : UInt32)
    (payload : Bytes) :
    let filled := envelope.fill messageType sequence payload
    (filled.1 = none ↔ 8952 < payload.length) ∧ (filled.1 = none → filled.2 = envelope) ∧
      ∀ length, filled.1 = some length →
        (4 ∣ length ∧ 16 + payload.length ≤ length ∧
          ∀ other, 4 ∣ other → 16 + payload.length ≤ other → length ≤ other) ∧
        filled.2.bytes.drop length = envelope.bytes.drop length ∧
        ∀ received, length ≤ received → received ≤ 8986 →
          if (messageType = 2 ∧ payload = []) ∨ (messageType = 1010 ∧ payload.length < 5) then
            filled.2.decode received = .error (.malformed received length)
          else
            ∃ reply, filled.2.decode received = .ok reply ∧
              reply.header.length.toNat = length ∧ reply.header.messageType = messageType ∧
              reply.header.flags = 5 ∧ reply.header.sequence = sequence ∧ reply.header.pid = 0 ∧
              reply.payload = payload ++ List.replicate (length - 16 - payload.length) 0 := by
  intro filled
  rcases hlength : requestLength? payload.length with _ | n
  · have hfilled : filled = (none, envelope) := fill_of_none hlength
    rw [hfilled]
    exact ⟨⟨fun _ => requestLength?_eq_none_iff.mp hlength, fun _ => rfl⟩, fun _ => rfl, nofun⟩
  · have hfilled : filled =
        (some n, envelope.overlay (requestBytes n messageType sequence payload)) := fill_of_some hlength
    obtain ⟨hmax, hn⟩ := requestLength?_eq_some_iff.mp hlength
    have hmax' : payload.length ≤ 8952 := hmax
    rw [hfilled]
    refine ⟨⟨nofun, fun h => by omega⟩, nofun, ?_⟩
    rintro _ ⟨⟩
    refine ⟨⟨hn ▸ align_dvd _, hn ▸ le_align _, fun other hdvd hle => hn ▸ align_le hdvd hle⟩, ?_, ?_⟩
    · have hbytes := length_requestBytes hlength messageType sequence
      have hfits : n ≤ capacity := by
        have := align_lt (headerLength + payload.length)
        rw [← hn] at this
        simp only [headerLength, capacity, maxRequestLength] at this ⊢
        omega
      have hdrop := envelope.drop_overlay (hbytes ▸ hfits)
      rwa [hbytes] at hdrop
    · intro received hreceived hfits
      have hword : n < 2 ^ 32 := by omega
      dsimp only
      rw [decode_requestBytes hlength hreceived hfits]
      by_cases hshort : (messageType = 2 ∧ payload = []) ∨ (messageType = 1010 ∧ payload.length < 5)
      · rw [if_pos hshort, (padded_too_short_iff hlength).mpr hshort]
      · obtain ⟨body, hbody⟩ := Option.ne_none_iff_exists'.mp
          (mt (padded_too_short_iff hlength).mp hshort)
        rw [if_neg hshort, hbody]
        refine ⟨_, rfl, ?_, rfl, rfl, rfl, rfl, rfl⟩
        exact UInt32.toNat_ofNat_of_lt' hword

end Envelope

end AuditCollector.Frame
