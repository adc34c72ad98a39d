import AuditCollector.Daemon
import AuditCollector.Proofs.Client.Refusal
import AuditCollector.Proofs.Startup.Requests

namespace AuditCollector

open AuditCollector.Frame AuditCollector.Rule

namespace DaemonError

variable {error : DaemonError} {code : Int}

theorem exitCode_of_pos (h : error.osCode? = some code) (hpos : 0 < code) :
    error.exitCode = code := by
  rw [exitCode, h, Option.filter_some, if_pos (decide_eq_true hpos), Option.getD_some]

-- A number that no process can end with does not show.
theorem exitCode_of_not_pos (h : error.osCode? = some code) (hpos : ¬0 < code) :
    error.exitCode = 1 := by
  rw [exitCode, h, Option.filter_some, if_neg (by simpa using hpos), Option.getD_none]

theorem exitCode_of_none (h : error.osCode? = none) : error.exitCode = 1 := by
  rw [exitCode, h, Option.filter_none, Option.getD_none]

-- So no failure is taken for a success, whatever is behind it.
theorem one_le_exitCode (error : DaemonError) : 1 ≤ error.exitCode := by
  cases hcode : error.osCode? with
  | none =>
    rw [exitCode_of_none hcode]
  | some code =>
    by_cases hpos : 0 < code
    · rw [exitCode_of_pos hcode hpos]
      exact hpos
    · rw [exitCode_of_not_pos hcode hpos]

end DaemonError

namespace Frame.Notice

theorem errno_eq (notice : Notice) :
    notice.errno = if notice.code = -2147483648 then 2147483647 else -notice.code.toInt := rfl

-- The number of a refusal is positive as it should be just if the kernel negated it.
theorem errno_pos_iff (notice : Notice) : 0 < notice.errno ↔ notice.code < 0 := by
  have hzero : (0 : Int32).toInt = 0 := rfl
  rw [errno_eq, Int32.lt_iff_toInt_lt, hzero]
  split
  · rename_i hmin
    rw [hmin]
    decide
  · omega

end Frame.Notice

namespace Startup

open SequenceCounter

variable {σ : Type} [Channel σ]

-- The calls that the registration takes: those of the whole startup without those before it.
def registrationCalls (accounts : Accounts) (client : Client (Overheard σ)) (config : Config)
    (pid : UInt32) : List ChannelCall :=
  (configureKernel accounts client config pid).value.2.channel.calls.drop
    (prepare accounts client config).2.channel.calls.length

variable {client : Client (Overheard σ)}

theorem prepare_valid (hvalid : client.sequence.Valid) (accounts : Accounts) (config : Config) :
    (prepare accounts client config).2.sequence.Valid := by
  have hinstalled :=
    installWatches_asks (Overheard.memory σ) hvalid accounts {} config.watches
  exact (applyState_asks (Overheard.memory σ) hinstalled.valid config.enabledState?).valid

-- The registration is one frame under one number, and the startup tells if it is refused.
theorem registrationCalls_tells (hvalid : client.sequence.Valid) (accounts : Accounts)
    (config : Config) (pid : UInt32) :
    let calls := registrationCalls accounts client config pid
    let number := ((prepare accounts client config).2.sequence.number + 1) % period
    (∃ again, calls.filterMap ChannelCall.sent? =
        List.replicate (again + 1) ((Client.registrationRequest pid).frame number)) ∧
      ChannelCall.Tells calls (UInt32.ofNat number)
        (configureKernel accounts client config pid).value.1 := by
  intro calls number
  let prepared := (prepare accounts client config).2
  have hprepared : prepared.sequence.Valid := prepare_valid hvalid accounts config
  obtain ⟨made, hmade, htells⟩ : ∃ made,
      (prepared.setPid pid true).value.2.channel.calls = prepared.channel.calls ++ made ∧
        ChannelCall.Tells made prepared.sequence.advance.value.1 (prepared.setPid pid true).value.1 :=
    Client.setPid_tells prepared.channel.channel prepared.channel.calls prepared.sequence pid
  have hrun := configureKernel_of_prepare accounts client config pid
  have hcalls : calls = made := by
    simp only [calls, registrationCalls, hrun]
    rw [hmade]
    exact List.drop_left
  rw [hcalls, hrun]
  constructor
  · have hasked := Client.setPid_asks (Overheard.memory σ) hprepared pid true
    obtain ⟨often, hoften, hsent⟩ := hasked.handed
    rw [Request.frames_cons, Request.frames_nil] at hoften
    obtain ⟨again, rfl⟩ := hoften.exists_replicate
    refine ⟨again, ?_⟩
    change List.filterMap _ _ = List.filterMap _ _ ++ _ at hsent
    rw [hmade, List.filterMap_append] at hsent
    exact List.append_cancel_left hsent
  · intro taken hmem hbacked notice hnotice hcode
    have hrefused := htells taken hmem hbacked notice hnotice hcode
    rw [issued_advance hprepared] at hrefused
    simp only [prepared] at hrefused
    rw [hrefused]
    rfl

end Startup

namespace Daemon

open Startup

variable {σ : Type} [Channel σ]

-- If the wait for the answer to the registration takes a refusal, whatever its code and whatever
-- went before, then the startup fails with the number of the registration and the negated code,
-- and that code is what the program ends with, or one if the kernel did not mean an error number.
-- No failure at all ends with zero or less.
theorem exitCode_of_refusal (accounts : Accounts) (config : Config) (pid : UInt32) (start : Int16)
    (s : σ) :
    (∀ error : DaemonError, 1 ≤ error.exitCode) ∧
      let calls := registrationCalls accounts ⟨⟨s, []⟩, .startingAt start⟩ config pid
      ∀ taken ∈ calls.filterMap ChannelCall.taken?, taken.IsBacked →
        ∀ notice, taken.notice? = some notice → notice.code ≠ 0 →
          notice.code = (taken.bytes.uint32At 16).toInt32 ∧
          ∃ number < 32768, (∃ again, calls.filterMap ChannelCall.sent? =
              List.replicate (again + 1) ((Client.registrationRequest pid).frame number)) ∧
            let errno : Int :=
              if notice.code = -2147483648 then 2147483647 else -notice.code.toInt
            let error : ExchangeError := .kernel (UInt32.ofNat number) (.os errno)
            (configureKernel accounts ⟨s, .startingAt start⟩ config pid).value.1 = .error error ∧
              error.osCode? = some errno ∧
              (DaemonError.exchange error).exitCode = if notice.code < 0 then errno else 1 := by
  refine ⟨DaemonError.one_le_exitCode, ?_⟩
  intro calls taken hmem hbacked notice hnotice hcode
  let client : Client (Overheard σ) := ⟨⟨s, []⟩, .startingAt start⟩
  obtain ⟨hsent, htells⟩ := @registrationCalls_tells σ _ client
    (SequenceCounter.startingAt_valid start) accounts config pid
  have hrefused := htells taken hmem hbacked notice hnotice hcode
  have hseen := congrArg (fun run => run.value.1)
    ((Overheard.view σ).configureKernel client accounts config pid)
  refine ⟨Datagram.code_of_notice? hbacked hnotice, _, Nat.mod_lt _ (by decide), hsent, ?_⟩
  intro errno error
  refine ⟨hseen.trans hrefused, rfl, ?_⟩
  have hos : (DaemonError.exchange error).osCode? = some errno := rfl
  have hpos : 0 < errno ↔ notice.code < 0 := notice.errno_pos_iff
  by_cases hneg : notice.code < 0
  · rw [if_pos hneg, DaemonError.exitCode_of_pos hos (hpos.mpr hneg)]
  · rw [if_neg hneg, DaemonError.exitCode_of_not_pos hos (mt hpos.mp hneg)]

-- The kernel refuses with the one code that cannot be negated.
theorem exitCode_of_refusal_least :
    let frame := ({ length := 20, messageType := 2, flags := 0, sequence := 1, pid := 0 } :
      Header).toBytes ++ Bytes.ofUInt32 0x80000000
    let taken : Datagram := ⟨frame, 20, ⟨12, 0⟩⟩
    let socket : Scripted.Socket :=
      { sends := [.fail .interrupted], inbound := [.message frame ⟨12, 0⟩ none false] }
    let accounts : Accounts := ⟨fun _ => none, fun _ => none⟩
    let error : ExchangeError := .kernel 1 (.os 2147483647)
    taken ∈ (registrationCalls accounts ⟨⟨socket, []⟩, .startingAt 0⟩ {} 7).filterMap
        ChannelCall.taken? ∧
      taken.IsBacked ∧ taken.notice? = some ⟨-2147483648, none⟩ ∧
      (configureKernel accounts ⟨socket, .startingAt 0⟩ {} 7).value.1 = .error error ∧
      (DaemonError.exchange error).exitCode = 2147483647 := by
  intro frame taken socket accounts error
  let notice : Notice := ⟨-2147483648, none⟩
  have hmem : taken ∈ (registrationCalls accounts ⟨⟨socket, []⟩, .startingAt 0⟩ {} 7).filterMap
      ChannelCall.taken? := by
    decide +kernel
  have hbacked : taken.IsBacked := by decide
  have hnotice : taken.notice? = some notice := by decide +kernel
  obtain ⟨-, h⟩ := exitCode_of_refusal accounts {} 7 0 socket
  obtain ⟨-, number, -, -, hrun, -, hexit⟩ := h taken hmem hbacked notice hnotice (by decide)
  have hcode : notice.code = -2147483648 := rfl
  rw [if_pos hcode] at hrun hexit
  -- the counter that starts at zero gives the only request of this startup the number one
  have hnumber : UInt32.ofNat number = 1 := by
    have hcomputed : (configureKernel accounts ⟨socket, .startingAt 0⟩ {} 7).value.1 =
        .error error := by
      decide +kernel
    have hsame : error = .kernel (UInt32.ofNat number) (.os 2147483647) :=
      Except.error.inj (hcomputed.symm.trans hrun)
    exact (ExchangeError.kernel.inj hsame).1.symm
  rw [hnumber] at hrun hexit
  exact ⟨hmem, hbacked, hnotice, hrun, hexit.trans (if_pos (by decide))⟩

end Daemon

end AuditCollector
