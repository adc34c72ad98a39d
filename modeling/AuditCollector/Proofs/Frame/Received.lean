import AuditCollector.Frame.Reply

namespace AuditCollector

namespace Bytes

variable {bytes : Bytes} {n offset : Nat}

theorem firstUInt16_take (h : 2 ≤ n) (bytes : Bytes) :
    firstUInt16 (bytes.take n) = firstUInt16 bytes := by
  obtain ⟨n, rfl⟩ := Nat.exists_eq_add_of_le' h
  match bytes with
  | [] | [_] => simp [firstUInt16]
  | _ :: _ :: _ => rfl

theorem firstUInt32_take (h : 4 ≤ n) (bytes : Bytes) :
    firstUInt32 (bytes.take n) = firstUInt32 bytes := by
  obtain ⟨n, rfl⟩ := Nat.exists_eq_add_of_le' h
  match bytes with
  | [] | [_] | [_, _] | [_, _, _] => simp [firstUInt32]
  | _ :: _ :: _ :: _ :: _ => rfl

theorem uint16At_take (h : offset + 2 ≤ n) :
    uint16At (bytes.take n) offset = bytes.uint16At offset := by
  rw [uint16At, List.drop_take, firstUInt16_take (by omega), uint16At]

theorem uint32At_take (h : offset + 4 ≤ n) :
    uint32At (bytes.take n) offset = bytes.uint32At offset := by
  rw [uint32At, List.drop_take, firstUInt32_take (by omega), uint32At]

end Bytes

namespace Frame

variable {envelope : Envelope} {bytes : Bytes} {n length : Nat} {reply : Reply}

-- A header is no more than the bytes it takes.
theorem Header.parse?_take (h : headerLength ≤ n) : Header.parse? (bytes.take n) = Header.parse? bytes := by
  have hlength : (bytes.take n).length < headerLength ↔ bytes.length < headerLength := by
    rw [List.length_take]
    omega
  have h16 : 16 ≤ n := h
  simp only [Header.parse?, hlength]
  rw [Bytes.uint32At_take (by omega), Bytes.uint16At_take (by omega), Bytes.uint16At_take (by omega),
    Bytes.uint32At_take (by omega), Bytes.uint32At_take (by omega)]

-- A header is read back as it was written, whatever follows it.
theorem Header.parse?_toBytes_append (header : Header) (rest : Bytes) :
    Header.parse? (header.toBytes ++ rest) = some header := by
  have hlength : ¬(header.toBytes ++ rest).length < headerLength := by simp
  have h0 : Bytes.uint32At (header.toBytes ++ rest) 0 = header.length :=
    Bytes.firstUInt32_ofUInt32_append header.length _
  have h4 : Bytes.uint16At (header.toBytes ++ rest) 4 = header.messageType :=
    Bytes.firstUInt16_ofUInt16_append header.messageType _
  have h6 : Bytes.uint16At (header.toBytes ++ rest) 6 = header.flags :=
    Bytes.firstUInt16_ofUInt16_append header.flags _
  have h8 : Bytes.uint32At (header.toBytes ++ rest) 8 = header.sequence :=
    Bytes.firstUInt32_ofUInt32_append header.sequence _
  have h12 : Bytes.uint32At (header.toBytes ++ rest) 12 = header.pid :=
    Bytes.firstUInt32_ofUInt32_append header.pid _
  rw [Header.parse?, if_neg hlength, h0, h4, h6, h8, h12]

namespace Envelope

-- What a frame was written over does not show in the frame.
theorem take_overlay (envelope : Envelope) (hbytes : n ≤ bytes.length) (hn : n ≤ capacity) :
    (envelope.overlay bytes).bytes.take n = bytes.take n := by
  rw [bytes_overlay, List.take_append_of_le_length (by rw [List.length_take]; omega), List.take_take,
    Nat.min_eq_left hn]

theorem header_overlay (envelope : Envelope) (h : headerLength ≤ bytes.length) :
    (envelope.overlay bytes).header = (Header.parse? bytes).getD default := by
  rw [header, ← Header.parse?_take (Nat.le_refl _), take_overlay envelope h (by decide),
    Header.parse?_take (Nat.le_refl _)]

-- A reply is made of the bytes that its own header claims, and these were received.
theorem decode_eq_ok (h : envelope.decode length = .ok reply) :
    reply.header = envelope.header ∧ headerLength ≤ reply.header.length.toNat ∧
      reply.header.length.toNat ≤ length ∧ length ≤ capacity ∧
      reply.payload = (envelope.bytes.take reply.header.length.toNat).drop headerLength := by
  unfold decode at h
  by_cases hcapacity : capacity < length
  · simp [hcapacity] at h
  by_cases hvalid : length < headerLength ∨ envelope.header.length.toNat < headerLength ∨
    length < envelope.header.length.toNat
  · simp [hcapacity, hvalid] at h
  simp only [if_neg hcapacity, if_neg hvalid] at h
  simp only [not_or, Nat.not_lt] at hvalid
  split at h
  · cases h
    exact ⟨rfl, hvalid.2.1, hvalid.2.2, Nat.not_lt.mp hcapacity, rfl⟩
  · cases h

theorem parse?_of_decode (h : envelope.decode length = .ok reply) :
    Body.parse? reply.messageType reply.payload = some reply.body := by
  unfold decode at h
  grind [Reply.messageType]

-- So it does not matter what was in the envelope before the message, as long as no more
-- bytes are read than were received.
theorem decode_overlay_eq_ok (other : Envelope) (hbytes : length ≤ bytes.length)
    (h : (envelope.overlay bytes).decode length = .ok reply) :
    (other.overlay bytes).decode length = .ok reply ∧
      reply.payload = (bytes.take reply.header.length.toNat).drop headerLength := by
  obtain ⟨hheader, hmin, hmax, hcapacity, hpayload⟩ := decode_eq_ok h
  have hlength : headerLength ≤ bytes.length := by omega
  rw [take_overlay envelope (by omega) (by omega)] at hpayload
  refine ⟨?_, hpayload⟩
  have hsame : (other.overlay bytes).header = (envelope.overlay bytes).header := by
    rw [header_overlay other hlength, header_overlay envelope hlength]
  have htake : (other.overlay bytes).bytes.take (envelope.overlay bytes).header.length.toNat =
      (envelope.overlay bytes).bytes.take (envelope.overlay bytes).header.length.toNat := by
    rw [← hheader, take_overlay other (by omega) (by omega), take_overlay envelope (by omega) (by omega)]
  rw [← h, decode, decode, hsame, htake]

-- A header, and behind it the payload that it claims, is read as what its type makes of it,
-- also if more than that was received.
theorem decode_overlay_of_le (envelope : Envelope) {header : Header} {payload : Bytes}
    (hclaimed : header.length.toNat = headerLength + payload.length)
    (hlength : headerLength + payload.length ≤ length) (hfits : length ≤ capacity) :
    (envelope.overlay (header.toBytes ++ payload)).decode length =
      match Body.parse? header.messageType payload with
      | some body => .ok { header, payload, body }
      | none => .error (.malformed length (headerLength + payload.length)) := by
  have hframe : (header.toBytes ++ payload).length = headerLength + payload.length := by
    rw [List.length_append, Header.length_toBytes]
  have hheader : (envelope.overlay (header.toBytes ++ payload)).header = header := by
    rw [header_overlay envelope (by omega), Header.parse?_toBytes_append, Option.getD_some]
  have hpayload : ((envelope.overlay (header.toBytes ++ payload)).bytes.take
      (headerLength + payload.length)).drop headerLength = payload := by
    rw [take_overlay envelope (by omega) (by omega), ← hframe, List.take_length]
    exact List.drop_left' (Header.length_toBytes header)
  have hwhole : ¬(length < headerLength ∨ headerLength + payload.length < headerLength ∨
      length < headerLength + payload.length) := by omega
  simp only [decode, hheader, hclaimed, hpayload]
  exact (if_neg (Nat.not_lt.mpr hfits)).trans (if_neg hwhole)

theorem decode_overlay_toBytes (envelope : Envelope) {header : Header} {payload : Bytes} {body : Body}
    (hclaimed : header.length.toNat = headerLength + payload.length)
    (hfits : headerLength + payload.length ≤ capacity)
    (hbody : Body.parse? header.messageType payload = some body) :
    (envelope.overlay (header.toBytes ++ payload)).decode (headerLength + payload.length) =
      .ok { header, payload, body } := by
  rw [decode_overlay_of_le envelope hclaimed (Nat.le_refl _) hfits, hbody]

end Envelope

end Frame

end AuditCollector
