import AuditCollector.Proofs.Channel.Overheard
import Mathlib.Data.List.Destutter

namespace AuditCollector

-- Each element once, or several times in a row.
inductive Repeats {α : Type} : List α → List α → Prop where
  | nil : Repeats [] []
  | cons {a : α} {once often : List α} (again : Nat) (h : Repeats once often) :
    Repeats (a :: once) (List.replicate (again + 1) a ++ often)

namespace Repeats

variable {α : Type} {a : α} {once once' often often' : List α}

theorem single (a : α) (again : Nat) : Repeats [a] (List.replicate (again + 1) a) := by
  have h := cons (a := a) again nil
  rwa [List.append_nil] at h

theorem append (h : Repeats once often) (h' : Repeats once' often') :
    Repeats (once ++ once') (often ++ often') := by
  induction h with
  | nil => exact h'
  | cons again h ih =>
    rw [List.append_assoc]
    exact cons again ih

theorem exists_replicate (h : Repeats [a] often) : ∃ again, often = List.replicate (again + 1) a := by
  cases h with
  | cons again h =>
    cases h
    exact ⟨again, List.append_nil _⟩

variable [DecidableEq α]

theorem destutter'_replicate_append (a : α) (n : Nat) (rest : List α) :
    List.destutter' (· ≠ ·) a (List.replicate n a ++ rest) = rest.destutter' (· ≠ ·) a := by
  induction n with
  | zero => rfl
  | succ n ih =>
    rw [List.replicate_succ, List.cons_append, List.destutter'_cons_neg _ (by simp), ih]

-- Taking out the repetitions gives each element once, if no two neighbours are the same.
theorem destutter'_eq (h : Repeats once often) (hchain : (a :: once).IsChain (· ≠ ·)) :
    often.destutter' (· ≠ ·) a = a :: once := by
  induction h generalizing a with
  | nil => rfl
  | @cons b once often again h ih =>
    have hne : a ≠ b := (List.isChain_cons_cons.mp hchain).1
    have hrest := (List.isChain_cons_cons.mp hchain).2
    rw [List.replicate_succ, List.cons_append, List.destutter'_cons_pos _ hne,
      destutter'_replicate_append, ih hrest]

theorem destutter_eq (h : Repeats once often) (hchain : once.IsChain (· ≠ ·)) :
    often.destutter (· ≠ ·) = once := by
  cases h with
  | nil => rfl
  | cons again h =>
    rw [List.replicate_succ, List.cons_append, List.destutter_cons', destutter'_replicate_append,
      destutter'_eq h hchain]

end Repeats

def ChannelCall.sent? : ChannelCall → Option Bytes
  | .send frame _ => some frame
  | _ => none

-- What a channel remembers of the frames that were handed to it, the earliest first.
structure Channel.Memory (σ : Type) [Channel σ] where
  sent : σ → List Bytes
  send (s : σ) (frame : Bytes) : sent (Channel.send s frame).2 = sent s ++ [frame]
  receive (s : σ) (capacity : Nat) (mode : ReceiveMode) (peek : Peek) :
    sent (Channel.receive s capacity mode peek).2 = sent s
  wait (s : σ) : sent (Channel.waitReadable s).2 = sent s

-- Frames are remembered as the calls in which they were sent.
def Overheard.memory (σ : Type) [Channel σ] : Channel.Memory (Overheard σ) where
  sent heard := heard.calls.filterMap ChannelCall.sent?
  send heard frame := by
    change List.filterMap _ (heard.calls ++ [_]) = _
    rw [List.filterMap_append]
    rfl
  receive heard capacity mode peek := by
    change List.filterMap _ (heard.calls ++ [_]) = _
    rw [List.filterMap_append]
    exact List.append_nil _
  wait heard := by
    change List.filterMap _ (heard.calls ++ [_]) = _
    rw [List.filterMap_append]
    exact List.append_nil _

-- A frame that is sent until it is not interrupted is handed over once or more often.
theorem Channel.Memory.sendRepeatedly {σ : Type} [Channel σ] (memory : Channel.Memory σ) (s : σ)
    (frame : Bytes) :
    ∃ again, memory.sent (Channel.sendRepeatedly s frame).2 =
      memory.sent s ++ List.replicate (again + 1) frame := by
  fun_induction Channel.sendRepeatedly s frame with
  | case1 s sent s' hsend =>
    refine ⟨0, ?_⟩
    have hsent := memory.send s frame
    rwa [hsend] at hsent
  | case2 s s' hsend hless ih =>
    obtain ⟨again, hrest⟩ := ih
    refine ⟨again + 1, ?_⟩
    have hsent := memory.send s frame
    rw [hsend] at hsent
    rw [hrest, hsent, List.append_assoc, List.replicate_succ (n := again + 1)]
    rfl
  | case3 s error s' hsend hother =>
    refine ⟨0, ?_⟩
    have hsent := memory.send s frame
    rwa [hsend] at hsent

end AuditCollector
