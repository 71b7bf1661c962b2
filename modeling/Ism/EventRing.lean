import Ism.EventQueue
import Ism.Lib.Ring

namespace Ism

open Lib

namespace EventQueue

/-- The events that wait in the ring, the oldest first. -/
structure Holds (queue : EventQueue) (pending : List ShellEvent) : Prop where
  count_eq : queue.count = pending.length
  capacity_lt : queue.capacity < 2 ^ 32
  ring : ∃ storage, queue.events = some storage ∧ Ring storage queue.capacity queue.head pending

variable {queue : EventQueue} {pending : List ShellEvent}

theorem init_holds {storage : List ShellEvent} {capacity : Nat} (pos : 0 < capacity) (small : capacity < 2 ^ 32)
    (room : capacity ≤ storage.length) : (init (some storage) capacity).Holds [] :=
  ⟨rfl, small, storage, rfl, Ring.empty pos room⟩

theorem Holds.length_le (holds : queue.Holds pending) : pending.length ≤ queue.capacity := by
  obtain ⟨-, -, storage, -, ring⟩ := holds
  exact ring.length_le

theorem Holds.head_lt (holds : queue.Holds pending) : queue.head < queue.capacity := by
  obtain ⟨-, -, storage, -, ring⟩ := holds
  exact ring.head_lt

theorem Holds.enqueue_full (holds : queue.Holds pending) (full : pending.length = queue.capacity) (event : ShellEvent) :
    queue.enqueue event = (false, queue) := by
  obtain ⟨count, -, storage, stored, -⟩ := holds
  simp only [enqueue, stored]
  rw [if_pos (Or.inr (Nat.le_of_eq (full.symm.trans count.symm)))]

/-- There is room at the tail as long as its index does not run over. -/
theorem Holds.enqueue_room (holds : queue.Holds pending) (free : pending.length < queue.capacity)
    (fits : queue.head + pending.length < 2 ^ 32) (event : ShellEvent) :
    ∃ after, queue.enqueue event = (true, after) ∧ after.Holds (pending ++ [event]) ∧
      after.capacity = queue.capacity ∧ after.head = queue.head := by
  obtain ⟨count, small, storage, stored, ring⟩ := holds
  have pass : ¬ (queue.capacity = 0 ∨ queue.capacity ≤ pending.length) := by omega
  simp only [enqueue, stored, count, if_neg pass, Nat.mod_eq_of_lt fits,
    Nat.mod_eq_of_lt (Nat.lt_of_le_of_lt (Nat.succ_le_of_lt free) small)]
  exact ⟨_, rfl, ⟨by simp, small, _, rfl, ring.push free⟩, rfl, rfl⟩

theorem Holds.dequeue_nil (holds : queue.Holds []) : queue.dequeue = (none, queue) := by
  obtain ⟨count, -, storage, stored, -⟩ := holds
  have zero : queue.count = 0 := count
  simp only [dequeue, stored]
  rw [if_pos (Or.inr zero)]

theorem Holds.dequeue_cons {event : ShellEvent} (holds : queue.Holds (event :: pending)) :
    ∃ after, queue.dequeue = (some event, after) ∧ after.Holds pending ∧
      after.capacity = queue.capacity ∧ after.head = wrap queue.capacity (queue.head + 1) := by
  obtain ⟨count, small, storage, stored, ring⟩ := holds
  obtain ⟨first, rest⟩ := ring.pop
  have bounded := ring.head_lt
  have pass : ¬ (queue.capacity = 0 ∨ pending.length + 1 = 0) := by omega
  have next : (if queue.capacity ≤ (queue.head + 1) % 2 ^ 32 then 0 else (queue.head + 1) % 2 ^ 32) =
      wrap queue.capacity (queue.head + 1) := by
    rw [Nat.mod_eq_of_lt (by omega), wrap]
    split <;> omega
  simp only [dequeue, stored, count, List.length_cons, if_neg pass, first, next, Nat.add_sub_cancel]
  exact ⟨_, rfl, ⟨rfl, small, storage, rfl, rest⟩, rfl, rfl⟩

/-- An event whose tail index runs over lands in the first cell. Where that cell holds the second
oldest event, the queue gives out the new event in its place. -/
theorem Holds.enqueue_overrun {first second : ShellEvent} (holds : queue.Holds (first :: second :: pending))
    (free : pending.length + 2 < queue.capacity) (last : queue.head + 1 = queue.capacity)
    (beyond : queue.head + (pending.length + 2) = 2 ^ 32) (event : ShellEvent) :
    ∃ a b c, queue.enqueue event = (true, a) ∧ a.dequeue = (some first, b) ∧ b.dequeue = (some event, c) := by
  obtain ⟨count, small, storage, stored, ring⟩ := holds
  have room := ring.room
  obtain ⟨atHead, -⟩ := ring.pop
  have pass : ¬ (queue.capacity = 0 ∨ queue.capacity ≤ pending.length + 2) := by omega
  have oldest : (storage.set 0 event)[queue.head]? = some first := by
    rw [List.getElem?_set_ne (by omega), atHead]
  have newest : (storage.set 0 event)[0]? = some event := List.getElem?_set_self (by omega)
  have counted : (pending.length + 2 + 1) % 2 ^ 32 = pending.length + 3 := Nat.mod_eq_of_lt (by omega)
  have wrapped : (queue.head + 1) % 2 ^ 32 = queue.capacity := by rw [last, Nat.mod_eq_of_lt small]
  let a : EventQueue := ⟨some (storage.set 0 event), queue.capacity, queue.head, pending.length + 3⟩
  let b : EventQueue := ⟨some (storage.set 0 event), queue.capacity, 0, pending.length + 2⟩
  refine ⟨a, b, b.dequeue.2, ?_, ?_, Prod.ext ?_ rfl⟩
  · simp only [enqueue, stored, count, List.length_cons, if_neg pass]
    rw [beyond, Nat.mod_self, if_neg (by omega), counted]
  · simp only [a, dequeue]
    rw [if_neg (by omega), oldest, wrapped, if_pos (Nat.le_refl _)]
    rfl
  · simp only [b, dequeue]
    rw [if_neg (by omega)]
    exact newest

end EventQueue

end Ism
