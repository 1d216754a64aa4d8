/-
A bounded channel from many senders to one receiver. It hands over what was
put in, in order: what has been taken out and what is queued are what was
sent.
-/
import Mathlib.Data.List.Basic

namespace Mpsc

structure Chan (α : Type) where
  capacity : Nat
  queue : List α

variable {α : Type}

def channel (capacity : Nat) : Chan α := { capacity, queue := [] }

namespace Chan

/-- `none` while the channel is full. -/
def send (c : Chan α) (a : α) : Option (Chan α) :=
  if c.queue.length < c.capacity then some { c with queue := c.queue ++ [a] } else none

/-- `none` while the channel is empty. -/
def recv (c : Chan α) : Option (α × Chan α) :=
  match c.queue with
  | [] => none
  | a :: queue => some (a, { c with queue })

/-- `sent` went in and `taken` came out again. -/
structure Carries (c : Chan α) (sent taken : List α) : Prop where
  order : taken ++ c.queue = sent
  bounded : c.queue.length ≤ c.capacity

variable {c c' : Chan α} {a : α} {sent taken : List α}

theorem send_eq_some : c.send a = some c' ↔ c.queue.length < c.capacity ∧ c' = { c with queue := c.queue ++ [a] } := by
  unfold send
  by_cases hroom : c.queue.length < c.capacity
  · simp [hroom, eq_comm]
  · simp [hroom]

theorem recv_eq_some : c.recv = some (a, c') ↔ c.queue = a :: c'.queue ∧ c'.capacity = c.capacity := by
  obtain ⟨capacity, queue⟩ := c
  obtain ⟨capacity', queue'⟩ := c'
  cases queue <;> simp [recv]
  constructor
  · intro h
    obtain ⟨rfl, rfl, rfl⟩ := h
    exact ⟨⟨rfl, rfl⟩, rfl⟩
  · intro h
    obtain ⟨⟨rfl, rfl⟩, rfl⟩ := h
    exact ⟨rfl, rfl, rfl⟩

theorem recv_eq_none : c.recv = none ↔ c.queue = [] := by
  unfold recv
  cases c.queue <;> simp

theorem carries_channel (capacity : Nat) : (channel capacity : Chan α).Carries [] [] :=
  ⟨rfl, Nat.zero_le capacity⟩

theorem Carries.send (h : c.Carries sent taken) (hsend : c.send a = some c') : c'.Carries (sent ++ [a]) taken := by
  obtain ⟨hroom, rfl⟩ := send_eq_some.mp hsend
  exact ⟨by rw [← h.order, List.append_assoc], by simpa using Nat.succ_le_of_lt hroom⟩

theorem Carries.recv (h : c.Carries sent taken) (hrecv : c.recv = some (a, c')) : c'.Carries sent (taken ++ [a]) := by
  obtain ⟨hqueue, hcapacity⟩ := recv_eq_some.mp hrecv
  have hbounded := h.bounded
  rw [hqueue, List.length_cons] at hbounded
  exact ⟨by rw [← h.order, hqueue, List.append_assoc, List.singleton_append], by omega⟩

/-- The receiver has a first part of what was sent. -/
theorem Carries.isPrefix (h : c.Carries sent taken) : taken <+: sent := ⟨c.queue, h.order⟩

end Chan

end Mpsc
