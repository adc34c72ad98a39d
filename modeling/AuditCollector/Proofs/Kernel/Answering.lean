import AuditCollector.Proofs.Frame.Received
import AuditCollector.Scripted.Socket

namespace AuditCollector

open AuditCollector.Frame AuditCollector.Scripted

-- What the kernel says to a request: a code, which is zero if all is well, and what else
-- stands in the notice. The code may be followed by the header of the request and more.
structure Answer where
  code : Int32
  flags : UInt16 := 0
  pid : UInt32 := 0
  echo : Bytes := []
  fits : headerLength + 4 + echo.length ≤ capacity := by decide

namespace Answer

def header (answer : Answer) (sequence : UInt32) : Header where
  length := UInt32.ofNat (headerLength + 4 + answer.echo.length)
  messageType := Envelope.errorType
  flags := answer.flags
  sequence := sequence
  pid := answer.pid

def notice (answer : Answer) : Notice := { code := answer.code, request := Header.parse? answer.echo }

-- The error that a code stands for: its number with the other sign, where there is one.
def error (answer : Answer) : IoError :=
  .os (if answer.code = Int32.minValue then Int32.maxValue.toInt else -answer.code.toInt)

-- The answer to the request of that number, as it is received.
def frame (answer : Answer) (sequence : UInt32) : Bytes :=
  (answer.header sequence).toBytes ++ (Bytes.ofUInt32 answer.code.toUInt32 ++ answer.echo)

def reply (answer : Answer) (sequence : UInt32) : Reply where
  header := answer.header sequence
  payload := Bytes.ofUInt32 answer.code.toUInt32 ++ answer.echo
  body := .notice answer.notice

@[simp] theorem length_frame (answer : Answer) (sequence : UInt32) :
    (answer.frame sequence).length = headerLength + 4 + answer.echo.length := by
  simp only [frame, List.length_append, Header.length_toBytes, Bytes.length_ofUInt32]
  omega

theorem decode_frame (answer : Answer) (sequence : UInt32) (envelope : Envelope) :
    (envelope.overlay (answer.frame sequence)).decode (answer.frame sequence).length =
      .ok (answer.reply sequence) := by
  have hfits := answer.fits
  have hpayload : (Bytes.ofUInt32 answer.code.toUInt32 ++ answer.echo).length =
      4 + answer.echo.length := by
    rw [List.length_append, Bytes.length_ofUInt32]
  have hclaimed : (answer.header sequence).length.toNat = headerLength + 4 + answer.echo.length := by
    have hword : capacity < 2 ^ 32 := by decide
    rw [header, UInt32.toNat_ofNat', Nat.mod_eq_of_lt (by omega)]
  have hbody : Body.parse? Envelope.errorType (Bytes.ofUInt32 answer.code.toUInt32 ++ answer.echo) =
      some (.notice answer.notice) := by
    have hcode : Bytes.uint32At (Bytes.ofUInt32 answer.code.toUInt32 ++ answer.echo) 0 =
        answer.code.toUInt32 := Bytes.firstUInt32_ofUInt32_append _ _
    rw [Body.parse?, if_pos rfl, Notice.parse?, if_neg (by simp), hcode]
    rfl
  have hdecode := @Envelope.decode_overlay_toBytes envelope (answer.header sequence) _ _
    (by rw [hclaimed, hpayload, Nat.add_assoc]) (by rw [hpayload, ← Nat.add_assoc]; exact hfits) hbody
  rw [hpayload, ← Nat.add_assoc] at hdecode
  rw [length_frame]
  exact hdecode

end Answer

structure Message where
  frame : Bytes
  sender : Sender := ⟨Sender.kernelAddressLength, 0⟩
deriving DecidableEq, Repr

-- The message as it is received: what is too long for the buffer is lost.
def Message.received (message : Message) (capacity : Nat) : Datagram where
  bytes := message.frame.take capacity
  length := (message.frame.take capacity).length
  sender := message.sender

-- A kernel that answers every request it gets whole, once and right away. The answers are
-- up to it. From the registration on other messages arrive too, some of them before each
-- receive. Sends and receives go wrong as planned, and `none` lets a receive do its work.
-- A receive that would wait forever is told by `starved`.
structure AnsweringKernel where
  answers : Nat → Answer
  queue : List Message := []
  requests : List Bytes := []
  registered : Bool := false
  sends : List SendFault := []
  receives : List (Option IoError) := []
  arrivals : List (List Message) := []
  starved : Bool := false
  stop : Bool := false

namespace AnsweringKernel

-- Whether a request asks for messages to go to some process.
def isRegistration (request : Bytes) : Bool :=
  request.uint16At 4 == Envelope.setStatusType &&
    request.uint32At headerLength &&& Status.Part.pid.bit != 0

-- The second word of a header is the number of the request, and its kind is before that.
theorem sequence_requestBytes (length : Nat) (messageType : UInt16) (sequence : UInt32)
    (payload : Bytes) :
    Bytes.uint32At (Envelope.requestBytes length messageType sequence payload) 8 = sequence :=
  Bytes.firstUInt32_ofUInt32_append sequence _

theorem isRegistration_requestBytes (length : Nat) (messageType : UInt16) (sequence : UInt32)
    (status : Status) :
    isRegistration (Envelope.requestBytes length messageType sequence status.toBytes) =
      (messageType == Envelope.setStatusType && status.mask &&& Status.Part.pid.bit != 0) := by
  have htype : Bytes.uint16At (Envelope.requestBytes length messageType sequence status.toBytes) 4 =
      messageType := Bytes.firstUInt16_ofUInt16_append messageType _
  have hmask : Bytes.uint32At (Envelope.requestBytes length messageType sequence status.toBytes)
      headerLength = status.mask := Bytes.firstUInt32_ofUInt32_append status.mask _
  rw [isRegistration, htype, hmask]

theorem isRegistration_of_ne {messageType : UInt16} (h : messageType ≠ Envelope.setStatusType)
    (length : Nat) (sequence : UInt32) (payload : Bytes) :
    isRegistration (Envelope.requestBytes length messageType sequence payload) = false := by
  have htype : Bytes.uint16At (Envelope.requestBytes length messageType sequence payload) 4 =
      messageType := Bytes.firstUInt16_ofUInt16_append messageType _
  rw [isRegistration, htype, beq_eq_false_iff_ne.mpr h, Bool.false_and]

def answer (kernel : AnsweringKernel) (request : Bytes) : AnsweringKernel :=
  let answer := kernel.answers kernel.requests.length
  { kernel with
    queue := kernel.queue ++ [{ frame := answer.frame (request.uint32At 8) }]
    requests := kernel.requests ++ [request]
    registered := kernel.registered || isRegistration request }

def send (kernel : AnsweringKernel) (frame : Bytes) : Except IoError Nat × AnsweringKernel :=
  match kernel.sends with
  | .fail error :: sends => (.error error, { kernel with sends })
  | .short limit :: sends =>
    if frame.length ≤ limit then (.ok frame.length, { kernel with sends }.answer frame)
    else (.ok limit, { kernel with sends })
  | [] => (.ok frame.length, kernel.answer frame)

def arrive (kernel : AnsweringKernel) : AnsweringKernel :=
  if kernel.registered then
    { kernel with
      queue := kernel.queue ++ kernel.arrivals.headD []
      arrivals := kernel.arrivals.tail }
  else kernel

-- Takes the next message, or looks at it.
def take (kernel : AnsweringKernel) (capacity : Nat) (mode : ReceiveMode) (peek : Peek) :
    Except IoError Datagram × AnsweringKernel :=
  match kernel.queue with
  | [] =>
    if mode = .nonBlocking then (.error .wouldBlock, kernel)
    else (.error (.other "nothing to receive"), { kernel with starved := true })
  | message :: queue =>
    (.ok (message.received capacity), if peek = .consume then { kernel with queue } else kernel)

def receive (kernel : AnsweringKernel) (capacity : Nat) (mode : ReceiveMode) (peek : Peek) :
    Except IoError Datagram × AnsweringKernel :=
  match kernel.arrive.receives with
  | some error :: receives => (.error error, { kernel.arrive with receives })
  | planned => { kernel.arrive with receives := planned.tail }.take capacity mode peek

def waitReadable (kernel : AnsweringKernel) : Except IoError Bool × AnsweringKernel :=
  if kernel.arrive.queue = [] then (.error .interrupted, { kernel.arrive with stop := true })
  else (.ok true, kernel.arrive)

def remaining (kernel : AnsweringKernel) : Nat :=
  kernel.sends.length + kernel.receives.length + kernel.queue.length +
    kernel.arrivals.flatten.length

section Remaining

variable {kernel kernel' : AnsweringKernel} {capacity : Nat} {mode : ReceiveMode} {peek : Peek}

theorem remaining_arrive (kernel : AnsweringKernel) : kernel.arrive.remaining = kernel.remaining := by
  unfold arrive remaining
  split
  · cases kernel.arrivals with
    | nil => simp
    | cons first rest =>
      simp only [List.headD_cons, List.tail_cons, List.length_append, List.flatten_cons]
      omega
  · rfl

theorem remaining_send_lt {frame : Bytes}
    (h : kernel.send frame = (.error .interrupted, kernel')) :
    kernel'.remaining < kernel.remaining := by
  unfold send at h
  split at h
  · rename_i error sends hplan
    cases h
    simp only [remaining, hplan, List.length_cons]
    omega
  · split at h
    · cases h
    · cases h
  · cases h

theorem remaining_take_le (kernel : AnsweringKernel) (capacity : Nat) (mode : ReceiveMode)
    (peek : Peek) : (kernel.take capacity mode peek).2.remaining ≤ kernel.remaining := by
  unfold take remaining
  grind

theorem remaining_receive_le {result : Except IoError Datagram}
    (h : kernel.receive capacity mode peek = (result, kernel')) :
    kernel'.remaining ≤ kernel.remaining := by
  obtain rfl : (kernel.receive capacity mode peek).2 = kernel' := congrArg Prod.snd h
  rw [← remaining_arrive kernel]
  unfold receive
  split
  · rename_i hplan
    simp [remaining, hplan]
  · rename_i planned hplan
    refine Nat.le_trans (remaining_take_le _ capacity mode peek) ?_
    simp [remaining]

-- Only what was planned calls for another try, or a queue that is empty.
theorem remaining_receive_retries {error : IoError}
    (h : kernel.receive capacity mode peek = (.error error, kernel'))
    (retries : mode.retries error) : kernel'.remaining < kernel.remaining := by
  rw [← remaining_arrive kernel]
  unfold receive take at h
  unfold remaining
  rcases retries with rfl | ⟨rfl, rfl⟩ <;> grind

theorem remaining_receive_lt {result : Except IoError Datagram}
    (h : kernel.receive capacity mode .consume = (result, kernel')) (hqueue : kernel.queue ≠ []) :
    kernel'.remaining < kernel.remaining := by
  obtain rfl : (kernel.receive capacity mode .consume).2 = kernel' := congrArg Prod.snd h
  have harrived : kernel.arrive.queue ≠ [] := by
    unfold arrive
    split
    · simp [hqueue]
    · exact hqueue
  rw [← remaining_arrive kernel]
  unfold receive
  split
  · rename_i hplan
    simp [remaining, hplan]
  · rename_i planned hplan
    unfold take
    split
    · rename_i hnil
      exact absurd hnil harrived
    · rename_i message queue hcons
      simp only [if_true, remaining]
      have hcons' : kernel.arrive.queue = message :: queue := hcons
      rw [hcons', List.length_cons, List.length_tail]
      omega

theorem stop_of_not_ready {result : Except IoError Bool}
    (h : kernel.waitReadable = (result, kernel')) (hresult : result ≠ .ok true) :
    kernel'.stop = true := by
  unfold waitReadable at h
  split at h
  · cases h
    rfl
  · cases h
    exact absurd rfl hresult

theorem remaining_receive_of_ready {kernel'' : AnsweringKernel} {result : Except IoError Datagram}
    (hwait : kernel.waitReadable = (.ok true, kernel'))
    (hreceive : kernel'.receive capacity .blocking .consume = (result, kernel'')) :
    kernel''.remaining < kernel.remaining := by
  have hlt := remaining_receive_lt hreceive
  rw [← remaining_arrive kernel]
  unfold waitReadable at hwait
  split at hwait
  · cases hwait
  · rename_i hqueue
    cases hwait
    exact hlt hqueue

end Remaining

instance : Channel AnsweringKernel where
  send := send
  receive := receive
  waitReadable := waitReadable
  close kernel := pure kernel
  stopRequested := stop
  remaining := remaining
  send_interrupted := remaining_send_lt
  receive_le := remaining_receive_le
  receive_retries := remaining_receive_retries
  wait_not_ready h hresult := .inr (stop_of_not_ready h hresult)
  wait_ready := remaining_receive_of_ready

end AnsweringKernel

end AuditCollector
