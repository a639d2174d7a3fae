import Mathlib.Data.List.Basic

/-!
# A bounded channel with one receiver

Any number of senders put their messages at the end of one queue, and the receiver takes them
from its front. A sender waits while the queue is full. Once the receiver is gone, sending
fails, and what is left in the queue is lost.

`Carries channel sent taken` is the meaning of the queue: what was sent is, in order, what was
taken and what is still there.
-/

namespace Machine

universe u

structure Mpsc (α : Type u) (capacity : Nat) where
  queue : List α
  receiverGone : Bool

/-- What comes of an attempt to send. -/
inductive SendResult (α : Type u) (capacity : Nat) where
  | ok (channel : Mpsc α capacity)
  | full
  | closed

namespace Mpsc

variable {α : Type u} {capacity : Nat}

def new (α : Type u) (capacity : Nat) : Mpsc α capacity := { queue := [], receiverGone := false }

def send (channel : Mpsc α capacity) (value : α) : SendResult α capacity :=
  if channel.receiverGone then .closed
  else if channel.queue.length < capacity then
    .ok { channel with queue := channel.queue ++ [value] }
  else .full

def recv (channel : Mpsc α capacity) : Option (α × Mpsc α capacity) :=
  match channel.queue with
  | [] => none
  | value :: queue => some (value, { channel with queue := queue })

/-- What was sent was taken or is in the queue, which has not outgrown its capacity. -/
structure Carries (channel : Mpsc α capacity) (sent taken : List α) : Prop where
  fifo : sent = taken ++ channel.queue
  bounded : channel.queue.length ≤ capacity

variable {channel next : Mpsc α capacity} {sent taken : List α} {value : α}

theorem send_cases (channel : Mpsc α capacity) (value : α) :
    (channel.receiverGone = true ∧ channel.send value = .closed) ∨
    (channel.receiverGone = false ∧
      channel.send value = .ok { channel with queue := channel.queue ++ [value] }) ∨
    (channel.receiverGone = false ∧ channel.send value = .full) := by
  simp only [Mpsc.send]
  cases channel.receiverGone with
  | true => exact .inl ⟨rfl, rfl⟩
  | false =>
      by_cases hroom : channel.queue.length < capacity
      · exact .inr (.inl ⟨rfl, if_pos hroom⟩)
      · exact .inr (.inr ⟨rfl, if_neg hroom⟩)

theorem carries_new : (new α capacity).Carries [] [] := ⟨rfl, Nat.zero_le _⟩

theorem Carries.send (h : channel.Carries sent taken) (hsend : channel.send value = .ok next) :
    next.Carries (sent ++ [value]) taken := by
  simp only [Mpsc.send] at hsend
  split at hsend
  · exact absurd hsend (by simp)
  · split at hsend
    · next hroom =>
        obtain rfl := SendResult.ok.inj hsend
        refine ⟨by simp [h.fifo], ?_⟩
        simp only [List.length_append, List.length_singleton]
        omega
    · exact absurd hsend (by simp)

theorem Carries.recv (h : channel.Carries sent taken) (hrecv : channel.recv = some (value, next)) :
    next.Carries sent (taken ++ [value]) := by
  have hfifo := h.fifo
  have hbounded := h.bounded
  simp only [Mpsc.recv] at hrecv
  split at hrecv
  · exact absurd hrecv (by simp)
  · next first queue hqueue =>
      obtain ⟨rfl, rfl⟩ := Prod.mk.inj (Option.some.inj hrecv)
      rw [hqueue] at hfifo hbounded
      refine ⟨by simp [hfifo], ?_⟩
      show queue.length ≤ capacity
      rw [List.length_cons] at hbounded
      omega

end Mpsc

end Machine
