import AuditCollector.Client
import AuditCollector.Log.Basic

namespace AuditCollector

open AuditCollector.Frame

inductive Activity where
  | idle | waitingForEvent | dispatching | shuttingDown
deriving DecidableEq, Repr

def Activity.label : Activity → String
  | idle => "Idle"
  | waitingForEvent => "WaitingForEvent"
  | dispatching => "Dispatching"
  | shuttingDown => "ShuttingDown"

-- What came of one turn: a message went into the log, nothing did, or a signal
-- ended the wait.
inductive Turn where
  | recorded | skipped | interrupted
deriving DecidableEq, Repr

def Turn.label : Turn → String
  | recorded => "Recorded"
  | skipped => "Skipped"
  | interrupted => "Interrupted"

-- The main work of the daemon: messages of the kernel become records of the log.
-- All messages are received into the same envelope.
structure EventLoop (σ φ : Type) where
  client : Client σ
  log : Log
  files : φ
  activity : Activity := .idle
  envelope : Envelope := Envelope.zero

namespace EventLoop

variable {σ φ : Type} [Channel σ] [FileSystem φ]

def dispatch (loop : EventLoop σ φ) : Traced (Turn × EventLoop σ φ) := do
  let (received, channel, envelope) ←
    Exchange.receive loop.client.channel loop.envelope .blocking .consume
  let loop := { loop with client := { loop.client with channel }, envelope }
  match received with
  | .error error =>
    Traced.emit (.messageLost error)
    return (.skipped, loop)
  | .ok none => return (.skipped, loop)
  | .ok (some reply) =>
    Traced.emit (.messageReceived reply.messageType reply.payload.length)
    let (appended, log, files) ← loop.log.append loop.files reply.payload
    let loop := { loop with log, files }
    match appended with
    | .ok () => return (.recorded, loop)
    | .error error =>
      Traced.emit (.recordFailed error)
      return (.skipped, loop)

-- Waits for one message and records it. Every turn ends idle.
def turn (loop : EventLoop σ φ) : Traced (Turn × EventLoop σ φ) := do
  match Channel.waitReadable loop.client.channel with
  | (.ok true, channel) =>
    let (turn, loop) ← dispatch { loop with
      client := { loop.client with channel }
      activity := .dispatching }
    return (turn, { loop with activity := .idle })
  | (.ok false, channel) =>
    return (.skipped, { loop with client := { loop.client with channel }, activity := .idle })
  | (.error error, channel) =>
    let loop := { loop with client := { loop.client with channel }, activity := .idle }
    if error = .interrupted then return (.interrupted, loop)
    else
      Traced.emit (.waitFailed error)
      return (.skipped, loop)

def stopRequested (loop : EventLoop σ φ) : Bool := Channel.stopRequested loop.client.channel

def remaining (loop : EventLoop σ φ) : Nat := Channel.remaining loop.client.channel

theorem channel_dispatch (loop : EventLoop σ φ) :
    loop.dispatch.value.2.client.channel =
      (Channel.receiveRepeatedly loop.client.channel capacity .blocking .consume).2 := by
  rw [← Exchange.channel_receive _ loop.envelope]
  simp only [dispatch, Traced.value_bind]
  generalize (Exchange.receive loop.client.channel loop.envelope .blocking .consume).value =
    received
  rcases received with ⟨result, channel, envelope⟩
  match result with
  | .error error => rfl
  | .ok none => rfl
  | .ok (some reply) =>
    simp only [Traced.value_bind]
    split <;> rfl

-- A turn uses up something of what the channel has in store, or it is time to stop.
theorem turn_progress (loop : EventLoop σ φ) :
    loop.turn.value.2.stopRequested = true ∨ loop.turn.value.2.remaining < loop.remaining := by
  rcases h : Channel.waitReadable loop.client.channel with ⟨result, channel⟩
  match result with
  | .ok true =>
    right
    simp only [turn, h, Traced.value_bind, Traced.value_pure, remaining, channel_dispatch]
    exact Channel.remaining_receiveRepeatedly_lt h
  | .ok false =>
    simp only [turn, h, Traced.value_pure, remaining, stopRequested]
    exact (Channel.wait_not_ready h (by simp)).symm
  | .error error =>
    have := (Channel.wait_not_ready h (by simp)).symm
    simp only [turn, h]
    split <;> simpa [remaining, stopRequested] using this

-- Takes turns until a stop is requested, which is looked at before each wait.
-- Counts the turns that recorded something.
def takeTurns (loop : EventLoop σ φ) : Traced (Nat × EventLoop σ φ) :=
  if loop.stopRequested then return (0, loop)
  else
    let first := loop.turn
    let rest := takeTurns first.value.2
    ⟨((if first.value.1 = .recorded then 1 else 0) + rest.value.1, rest.value.2),
      first.events ++ rest.events⟩
termination_by if loop.stopRequested then 0 else loop.remaining + 1
decreasing_by
  have := turn_progress loop
  grind

def run (loop : EventLoop σ φ) : Traced (Nat × EventLoop σ φ) := do
  Traced.emit .loopStarted
  let (recorded, loop) ← takeTurns loop
  Traced.emit (.loopStopped recorded)
  return (recorded, { loop with activity := .shuttingDown })

-- Tells the kernel to send nothing more, and lets go of the channel and the log.
def shutdown (loop : EventLoop σ φ) : Traced (Except LogError Unit × σ × φ) := do
  let (deregistered, client) ← loop.client.setPid 0 false
  if let .error error := deregistered then
    Traced.emit (.deregistrationFailed error)
  let channel ← Channel.close client.channel
  let (closed, files) := loop.log.close loop.files
  return (closed, channel, files)

end EventLoop

end AuditCollector
