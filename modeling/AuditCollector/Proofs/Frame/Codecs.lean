import AuditCollector.Frame.Status
import AuditCollector.Proofs.Frame.Decoding
import AuditCollector.Proofs.Words

namespace AuditCollector

namespace Bytes

variable {bytes : Bytes} {offset : Nat}

theorem ofUInt16_uint16At (h : offset + 2 ≤ bytes.length) :
    ofUInt16 (bytes.uint16At offset) = (bytes.drop offset).take 2 := by
  apply ofUInt16_firstUInt16
  rw [List.length_drop]
  omega

theorem ofUInt32_uint32At (h : offset + 4 ≤ bytes.length) :
    ofUInt32 (bytes.uint32At offset) = (bytes.drop offset).take 4 := by
  apply ofUInt32_firstUInt32
  rw [List.length_drop]
  omega

end Bytes

namespace Frame

namespace Header

variable {bytes : Bytes} {start : Nat}

-- A header that was read is written as the bytes it was read from: its fields lie side by side.
theorem toBytes_ofBytesAt (h : start + 16 ≤ bytes.length) :
    (ofBytesAt bytes start).toBytes = (bytes.drop start).take 16 := by
  have hfields : (bytes.drop start).take (4 + 2 + 2 + 4 + 4) =
      (bytes.drop start).take 4 ++ (bytes.drop (start + 4)).take 2 ++
        (bytes.drop (start + 6)).take 2 ++ (bytes.drop (start + 8)).take 4 ++
        (bytes.drop (start + 12)).take 4 := by
    rw [List.take_add, List.take_add, List.take_add, List.take_add]
    simp only [List.drop_drop, Nat.reduceAdd]
  rw [toBytes, ofBytesAt, Bytes.ofUInt32_uint32At (by omega), Bytes.ofUInt16_uint16At (by omega),
    Bytes.ofUInt16_uint16At (by omega), Bytes.ofUInt32_uint32At (by omega),
    Bytes.ofUInt32_uint32At (by omega), ← hfields]

theorem map_toBytes_parse? (bytes : Bytes) :
    (parse? bytes).map toBytes = if 16 ≤ bytes.length then some (bytes.take 16) else none := by
  by_cases hlong : 16 ≤ bytes.length
  · have hparsed : parse? bytes = some (ofBytesAt bytes 0) := if_neg (Nat.not_lt.mpr hlong)
    have hwritten := @toBytes_ofBytesAt bytes 0 (by omega)
    rw [if_pos hlong, hparsed, Option.map_some, hwritten, List.drop_zero]
  · have hshort : parse? bytes = none := if_pos (Nat.lt_of_not_le hlong)
    rw [if_neg hlong, hshort, Option.map_none]

end Header

namespace Status

variable {status status' : Status}

theorem words_ofBytes (bytes : Bytes) : (ofBytes bytes).words = bytes.wordsAt 0 10 := rfl

-- The words are all there is to a status.
theorem eq_of_words_eq (h : status.words = status'.words) : status = status' := by
  cases status
  cases status'
  simpa only [words, List.cons.injEq, and_true, mk.injEq] using h

theorem ofBytes_toBytes_append (status : Status) (rest : Bytes) :
    ofBytes (status.toBytes ++ rest) = status := by
  apply eq_of_words_eq
  have hwords := Bytes.wordsAt_flatMap [] status.words [] rest
  rw [List.nil_append, List.append_nil] at hwords
  exact hwords

end Status

-- What is written is read back as it was, whatever follows it. What is read and written back is
-- what was there: a header takes the first sixteen bytes and is there just if these are, a status
-- takes so many of ten words as are there whole, and has zeros for the others.
theorem codecs_inverse (header : Header) (status : Status) (bytes : Bytes) :
    Header.parse? (header.toBytes ++ bytes) = some header ∧
      (Header.parse? bytes).map Header.toBytes =
        (if 16 ≤ bytes.length then some (bytes.take 16) else none) ∧
      Status.ofBytes (status.toBytes ++ bytes) = status ∧
      (Status.ofBytes bytes).toBytes =
        bytes.take (4 * min 10 (bytes.length / 4)) ++
          List.replicate (40 - 4 * min 10 (bytes.length / 4)) 0 := by
  refine ⟨Header.parse?_toBytes_append header bytes, Header.map_toBytes_parse? bytes,
    Status.ofBytes_toBytes_append status bytes, ?_⟩
  rw [Status.toBytes, Status.words_ofBytes]
  exact Bytes.flatMap_wordsAt bytes 10

-- Two words and a torn one: the torn one does not show.
example : (Status.ofBytes [4, 0, 0, 0, 1, 0, 0, 0, 255, 255, 255]).toBytes =
    [4, 0, 0, 0, 1, 0, 0, 0] ++ List.replicate 32 0 := by decide

end Frame

end AuditCollector
