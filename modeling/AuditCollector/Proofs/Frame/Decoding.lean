import AuditCollector.Proofs.Frame.Requests

namespace AuditCollector

namespace Bytes

variable {bytes : Bytes} {start stop offset : Nat}

-- The bytes from one place up to another.
def slice (bytes : Bytes) (start stop : Nat) : Bytes := (bytes.take stop).drop start

theorem length_slice (h : stop ≤ bytes.length) : (bytes.slice start stop).length = stop - start := by
  rw [slice, List.length_drop, List.length_take, Nat.min_eq_left h]

theorem drop_slice (bytes : Bytes) (start stop n : Nat) :
    (bytes.slice start stop).drop n = bytes.slice (start + n) stop := by
  rw [slice, slice, List.drop_drop]

-- A word that is in the part is the word that is there in the whole.
theorem uint16At_slice (h : start + offset + 2 ≤ stop) :
    (bytes.slice start stop).uint16At offset = bytes.uint16At (start + offset) := by
  rw [← uint16At_take h, uint16At, drop_slice]
  rfl

theorem uint32At_slice (h : start + offset + 4 ≤ stop) :
    (bytes.slice start stop).uint32At offset = bytes.uint32At (start + offset) := by
  rw [← uint32At_take h, uint32At, drop_slice]
  rfl

end Bytes

namespace Frame

variable {bytes : Bytes} {messageType : UInt16} {start claimed length : Nat}

-- The five fields of a header that starts somewhere.
def Header.ofBytesAt (bytes : Bytes) (start : Nat) : Header where
  length := bytes.uint32At start
  messageType := bytes.uint16At (start + 4)
  flags := bytes.uint16At (start + 6)
  sequence := bytes.uint32At (start + 8)
  pid := bytes.uint32At (start + 12)

theorem Header.parse?_slice (h : claimed ≤ bytes.length) :
    Header.parse? (bytes.slice start claimed) =
      if start + 16 ≤ claimed then some (Header.ofBytesAt bytes start) else none := by
  rw [Header.parse?, Bytes.length_slice h, headerLength]
  by_cases hlong : start + 16 ≤ claimed
  · rw [if_neg (by omega), if_pos hlong, Bytes.uint32At_slice (by omega), Bytes.uint16At_slice (by omega),
      Bytes.uint16At_slice (by omega), Bytes.uint32At_slice (by omega), Bytes.uint32At_slice (by omega)]
    rfl
  · rw [if_pos (by omega), if_neg hlong]

theorem Envelope.header_eq (envelope : Envelope) :
    envelope.header = Header.ofBytesAt envelope.bytes 0 := by
  have hlength := envelope.length_eq
  have hparse := @Header.parse?_slice envelope.bytes 0 capacity (Nat.le_of_eq hlength.symm)
  rw [if_pos (by decide), Bytes.slice, List.drop_zero, ← hlength, List.take_length] at hparse
  rw [header, hparse, Option.getD_some]

-- What a frame says, by its type and by where in the frame it stands. A notice has the header of
-- the request behind its code if the frame is long enough for that.
def Body.ofFrame (messageType : UInt16) (bytes : Bytes) (claimed : Nat) : Body :=
  if messageType = 2 then
    .notice {
      code := (bytes.uint32At 16).toInt32
      request := if 36 ≤ claimed then some (Header.ofBytesAt bytes 20) else none }
  else if messageType = 1000 then .status (bytes.slice 16 claimed)
  else if messageType = 1013 then .ruleData (bytes.slice 16 claimed)
  else if messageType = 1010 then
    .signalInfo {
      uid := bytes.uint32At 16
      pid := (bytes.uint32At 20).toInt32
      context := bytes.slice 24 claimed }
  else .message (bytes.slice 16 claimed)

-- Whether a frame claims enough for what its type always says.
def Body.Fits (messageType : UInt16) (claimed : Nat) : Prop :=
  (messageType = 2 → 20 ≤ claimed) ∧ (messageType = 1010 → 24 ≤ claimed)

instance (messageType : UInt16) (claimed : Nat) : Decidable (Body.Fits messageType claimed) :=
  inferInstanceAs (Decidable (_ ∧ _))

theorem Body.parse?_slice (hclaimed : headerLength ≤ claimed) (h : claimed ≤ bytes.length) :
    Body.parse? messageType (bytes.slice headerLength claimed) =
      if Body.Fits messageType claimed then some (Body.ofFrame messageType bytes claimed) else none := by
  have hlength := @Bytes.length_slice bytes headerLength claimed h
  rw [headerLength] at hlength hclaimed ⊢
  by_cases hfits : Body.Fits messageType claimed
  · rw [if_pos hfits]
    obtain ⟨hnotice, hinfo⟩ := hfits
    by_cases herror : messageType = 2
    · have henough := hnotice herror
      subst herror
      have hparsed : Notice.parse? (bytes.slice 16 claimed) = some {
          code := (bytes.uint32At 16).toInt32
          request := if 36 ≤ claimed then some (Header.ofBytesAt bytes 20) else none } := by
        rw [Notice.parse?, if_neg (by omega), Bytes.uint32At_slice henough, Bytes.drop_slice,
          Header.parse?_slice h]
      exact congrArg (Option.map Body.notice) hparsed
    by_cases hsignal : messageType = 1010
    · have henough := hinfo hsignal
      subst hsignal
      have hparsed : SignalInfo.parse? (bytes.slice 16 claimed) = some {
          uid := bytes.uint32At 16
          pid := (bytes.uint32At 20).toInt32
          context := bytes.slice 24 claimed } := by
        rw [SignalInfo.parse?, if_neg (by omega), Bytes.uint32At_slice (by omega),
          Bytes.uint32At_slice henough, Bytes.drop_slice]
      exact congrArg (Option.map Body.signalInfo) hparsed
    · simp only [Body.parse?, Body.ofFrame, Envelope.errorType, Envelope.statusType,
        Envelope.listRulesType, Envelope.signalInfoType, herror, hsignal, if_false]
      split
      · rfl
      · split
        · rfl
        · rfl
  · rw [if_neg hfits, Body.parse?_eq_none_iff, hlength]
    rw [Body.Fits, Decidable.not_and_iff_not_or_not, Classical.not_imp, Classical.not_imp] at hfits
    rcases hfits with ⟨herror, hshort⟩ | ⟨hsignal, hshort⟩
    · exact .inl ⟨herror, by omega⟩
    · exact .inr ⟨hsignal, by omega⟩

namespace Envelope

-- The length that the header of an envelope claims.
def claimedLength (envelope : Envelope) : Nat := (envelope.bytes.uint32At 0).toNat

-- Whether the first bytes of the envelope, so many as were received, are a valid frame: the
-- length that its header claims was received, and is enough for its type.
def Valid (envelope : Envelope) (length : Nat) : Prop :=
  16 ≤ envelope.claimedLength ∧ envelope.claimedLength ≤ length ∧ length ≤ 8986 ∧
    Body.Fits (envelope.bytes.uint16At 4) envelope.claimedLength

-- The reply that a valid frame is.
def reply (envelope : Envelope) : Reply where
  header := Header.ofBytesAt envelope.bytes 0
  payload := envelope.bytes.slice 16 envelope.claimedLength
  body := Body.ofFrame (envelope.bytes.uint16At 4) envelope.bytes envelope.claimedLength

-- What is wrong with a frame that is not valid. If it fills the envelope it may have been cut off.
def fault (envelope : Envelope) (length : Nat) : FrameError :=
  if 8986 < length ∨ (length = 8986 ∧ ¬(16 ≤ envelope.claimedLength ∧ envelope.claimedLength ≤ length)) then
    .tooLarge length
  else .malformed length envelope.claimedLength

variable {envelope : Envelope}

-- Decoding looks at the three lengths first, and at the type of the frame then.
theorem decode_eq (envelope : Envelope) (length : Nat) :
    envelope.decode length =
      if 8986 < length then .error (.tooLarge length)
      else if length < 16 ∨ envelope.claimedLength < 16 ∨ length < envelope.claimedLength then
        .error (if length = 8986 then .tooLarge length else .malformed length envelope.claimedLength)
      else if Body.Fits (envelope.bytes.uint16At 4) envelope.claimedLength then .ok envelope.reply
      else .error (.malformed length envelope.claimedLength) := by
  have hlength : envelope.bytes.length = 8986 := envelope.length_eq
  rw [decode, header_eq]
  by_cases hcapacity : 8986 < length
  · rw [if_pos hcapacity]
    exact if_pos hcapacity
  rw [if_neg hcapacity]
  refine (if_neg hcapacity).trans ?_
  by_cases hframe : length < 16 ∨ envelope.claimedLength < 16 ∨ length < envelope.claimedLength
  · rw [if_pos hframe]
    exact if_pos hframe
  rw [if_neg hframe]
  refine (if_neg hframe).trans ?_
  have hparse := @Body.parse?_slice envelope.bytes (envelope.bytes.uint16At 4) envelope.claimedLength
    (by rw [headerLength]; omega) (by omega)
  by_cases hfits : Body.Fits (envelope.bytes.uint16At 4) envelope.claimedLength
  · rw [if_pos hfits] at hparse ⊢
    dsimp only
    split
    · rename_i body hbody
      obtain rfl : _ = body := Option.some.inj (hparse.symm.trans hbody)
      rfl
    · rename_i hnone
      cases hparse.symm.trans hnone
  · rw [if_neg hfits] at hparse ⊢
    dsimp only
    split
    · rename_i body hbody
      cases hparse.symm.trans hbody
    · rfl

theorem decode_of_valid (h : envelope.Valid length) : envelope.decode length = .ok envelope.reply := by
  obtain ⟨hmin, hmax, hfits, hbody⟩ := h
  rw [decode_eq, if_neg (by omega), if_neg (by omega), if_pos hbody]

theorem decode_of_not_valid (h : ¬envelope.Valid length) :
    envelope.decode length = .error (envelope.fault length) := by
  rw [decode_eq, fault]
  by_cases hcapacity : 8986 < length
  · rw [if_pos hcapacity, if_pos (.inl hcapacity)]
  rw [if_neg hcapacity]
  by_cases hframe : length < 16 ∨ envelope.claimedLength < 16 ∨ length < envelope.claimedLength
  · rw [if_pos hframe]
    by_cases hfull : length = 8986
    · rw [if_pos hfull, if_pos (.inr ⟨hfull, by omega⟩)]
    · rw [if_neg hfull, if_neg (by omega)]
  · rw [if_neg hframe, if_neg (fun hfits => h ⟨by omega, by omega, by omega, hfits⟩), if_neg (by omega)]

-- A frame is read from no more bytes than were received.
theorem decode_congr {other : Envelope} (hlength : headerLength ≤ length)
    (hsame : other.bytes.take length = envelope.bytes.take length) :
    other.decode length = envelope.decode length := by
  have hheader : other.header = envelope.header := by
    rw [header, header, ← Header.parse?_take hlength, hsame, Header.parse?_take hlength]
  by_cases hclaimed : length < envelope.header.length.toNat
  · simp only [decode, hheader, hclaimed, or_true, if_true]
  · have htake : other.bytes.take envelope.header.length.toNat =
        envelope.bytes.take envelope.header.length.toNat := by
      rw [← Nat.min_eq_left (Nat.not_lt.mp hclaimed), ← List.take_take, hsame, List.take_take]
    rw [decode, decode, hheader, htake]

-- Decoding takes the valid frames and no others, and takes them for what they are. What is wrong
-- with the others is said by their lengths alone. A message that was cut off to what an envelope
-- holds is none of the valid ones, and what is behind the received bytes does not matter.
theorem decode_cases (envelope : Envelope) (length : Nat) :
    let claimed := (envelope.bytes.uint32At 0).toNat
    let messageType := envelope.bytes.uint16At 4
    let valid := 16 ≤ claimed ∧ claimed ≤ length ∧ length ≤ 8986 ∧
      (messageType = 2 → 20 ≤ claimed) ∧ (messageType = 1010 → 24 ≤ claimed)
    ((∃ reply, envelope.decode length = .ok reply) ↔ valid) ∧
    (valid → envelope.decode length = .ok {
      header := Header.ofBytesAt envelope.bytes 0
      payload := envelope.bytes.slice 16 claimed
      body := Body.ofFrame messageType envelope.bytes claimed }) ∧
    (¬valid → envelope.decode length = .error (
      if 8986 < length ∨ (length = 8986 ∧ ¬(16 ≤ claimed ∧ claimed ≤ length)) then .tooLarge length
      else .malformed length claimed)) ∧
    (∀ datagram : Bytes, 8986 < datagram.length → (datagram.uint32At 0).toNat = datagram.length →
      (envelope.overlay datagram).decode (min datagram.length 8986) = .error (.tooLarge 8986)) ∧
    (16 ≤ length → ∀ other : Envelope, other.bytes.take length = envelope.bytes.take length →
      other.decode length = envelope.decode length) := by
  intro claimed messageType valid
  have hok : valid → envelope.decode length = .ok envelope.reply := decode_of_valid
  have herror : ¬valid → envelope.decode length = .error (envelope.fault length) := decode_of_not_valid
  refine ⟨⟨?_, fun hvalid => ⟨_, hok hvalid⟩⟩, hok, herror, ?_, fun hlength other => decode_congr hlength⟩
  · rintro ⟨reply, hreply⟩
    refine Classical.byContradiction fun hinvalid => ?_
    rw [herror hinvalid] at hreply
    cases hreply
  · intro datagram hlong hheader
    have hclaimed : (envelope.overlay datagram).claimedLength = datagram.length := by
      rw [claimedLength, ← Bytes.uint32At_take (n := 4) (Nat.le_refl _),
        take_overlay envelope (by omega) (by decide), Bytes.uint32At_take (Nat.le_refl _), hheader]
    rw [Nat.min_eq_right (Nat.le_of_lt hlong), decode_eq, if_neg (Nat.lt_irrefl _), hclaimed,
      if_pos (.inr (.inr hlong)), if_pos rfl]

end Envelope

end Frame

end AuditCollector
