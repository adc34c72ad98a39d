import AuditCollector.Proofs.EventLoop.Records
import AuditCollector.Proofs.Log.Receipts

namespace AuditCollector.EventLoop

open AuditCollector.Frame

variable {σ φ : Type} [Channel σ] [FileSystem φ]

-- The loop before each of the turns that it takes.
def states (loop : EventLoop σ φ) : List (EventLoop σ φ) :=
  if loop.stopRequested then [] else loop :: states loop.turn.value.2
termination_by if loop.stopRequested then 0 else loop.remaining + 1
decreasing_by
  have := turn_progress loop
  grind

theorem states_of_stop {loop : EventLoop σ φ} (h : loop.stopRequested = true) :
    loop.states = [] := by
  rw [states, if_pos h]

theorem states_of_go {loop : EventLoop σ φ} (h : loop.stopRequested = false) :
    loop.states = loop :: loop.turn.value.2.states := by
  rw [states, if_neg (by simp [h])]

-- The turns that recorded something are counted, and no others.
theorem takeTurns_count (loop : EventLoop σ φ) :
    loop.takeTurns.value.1 = loop.states.countP fun state => state.turn.value.1 = .recorded := by
  fun_induction states loop with
  | case1 loop hstop =>
    rw [takeTurns_of_stop hstop]
    rfl
  | case2 loop hstop ih =>
    rw [takeTurns_of_go (by simpa using hstop), ih, List.countP_cons, Nat.add_comm]
    simp

-- What the next turn receives for the log, if the kernel sends it a message.
def payload? (loop : EventLoop σ φ) : Option Bytes :=
  match Channel.waitReadable loop.client.channel with
  | (.ok true, s) =>
    match (Exchange.receive s loop.envelope .blocking .consume).value.1 with
    | .ok (some reply) => some reply.payload
    | _ => none
  | _ => none

-- Without a message the log is left alone. A message is appended, and all that the turn tells
-- is whether that went well.
theorem turn_of_payload (loop : EventLoop σ φ) :
    match loop.payload? with
    | none => loop.turn.value.1 ≠ .recorded ∧
        (loop.turn.value.2.log, loop.turn.value.2.files) = (loop.log, loop.files)
    | some record =>
      loop.turn.value.1 = (if (loop.log.append loop.files record).value.1.isOk then .recorded
          else .skipped) ∧
        (loop.turn.value.2.log, loop.turn.value.2.files) =
          (loop.log.append loop.files record).value.2 := by
  rcases hwait : Channel.waitReadable loop.client.channel with ⟨result, s⟩
  by_cases hready : result = .ok true
  · subst hready
    rw [turn_of_ready hwait]
    simp only [payload?, hwait, dispatch, Traced.value_bind]
    rcases (Exchange.receive s loop.envelope .blocking .consume).value
      with ⟨error | _ | reply, s', envelope⟩
    · exact ⟨by rintro ⟨⟩, rfl⟩
    · exact ⟨by rintro ⟨⟩, rfl⟩
    · simp only [Traced.value_bind]
      rcases (loop.log.append loop.files reply.payload).value with ⟨error | _, log, files⟩
      · exact ⟨rfl, rfl⟩
      · exact ⟨rfl, rfl⟩
  · have hnone : loop.payload? = none := by
      unfold payload?
      rw [hwait]
      split
      · rename_i heq
        exact absurd (congrArg Prod.fst heq) hready
      · rfl
    rw [turn_of_not_ready hwait hready, hnone]
    exact ⟨unready_ne_recorded result, rfl⟩

-- That the kernel could not be told makes no difference to the rest.
theorem value_shutdown (loop : EventLoop σ φ) :
    loop.shutdown.value =
      ((loop.log.close loop.files).1,
        (Channel.close (loop.client.setPid 0 false).value.2.channel).value,
        (loop.log.close loop.files).2) := by
  simp only [shutdown, Traced.value_bind]
  rcases (loop.client.setPid 0 false).value with ⟨error | _, client⟩
  · rfl
  · rfl

end AuditCollector.EventLoop
