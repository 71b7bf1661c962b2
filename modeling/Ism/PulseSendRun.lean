import Ism.PulseSend

namespace Ism

open Lib

/-- The pointers of a table are distinct, and its counters stay inside the array. -/
structure TableOk {π : Type} (conn : ConnectionContext π) : Prop where
  num_le : conn.ccNum ≤ conn.ccCapacity
  capacity_le : conn.ccCapacity ≤ conn.ccActive.length
  small : conn.ccActive.length < 4294967296
  distinct : conn.ccActive.Nodup

/-- The calls that may come while a send is under way. -/
inductive PendingCall
  | findWhilePending (id : UInt64)
  | allocateWhilePending (id : UInt64)
  | closeOther (id : UInt64)
  | finishSend (completionId : UInt64) (outcome : SendOutcome)

namespace PulseMemory

variable {π β : Type} {m : PulseMemory π β} {d : Descriptor π β} {saved : StreamContext β} {order : List π}
  {arrays : β → List UInt8}

def call [DecidableEq π] (m : PulseMemory π β) : PendingCall → PulseMemory π β
  | .findWhilePending _ => m
  | .allocateWhilePending id => (m.allocateWhilePending id).2
  | .closeOther id => (m.closeOther id).2
  | .finishSend completionId outcome => (m.finishSend completionId outcome).2

/-- What the reservation promises: the stored index stands at the reserved context, which still
is as it was, and the pointers are those of `order`. -/
structure Reserved (d : Descriptor π β) (saved : StreamContext β) (order : List π) (arrays : β → List UInt8)
    (m : PulseMemory π β) (index : Nat) : Prop where
  slot_eq : m.slot = some ⟨d, index⟩
  table : TableOk m.conn
  index_lt : index < m.conn.ccNum
  at_index : m.conn.ccActive[index]? = some d.context
  context_eq : m.heap d.context = saved
  id_eq : saved.scId = d.streamId
  order_perm : m.conn.ccActive.Perm order
  bytes_eq : m.bytes = arrays

/-- Closing a position in use takes its context out, and moves the last one there. -/
theorem closeIndex_spec (table : TableOk m.conn) {index : Nat} {p : π} (inside : index < m.conn.ccNum)
    (found : m.conn.ccActive[index]? = some p) :
    ∃ q, m.conn.ccActive[m.conn.ccNum - 1]? = some q ∧
      m.closeIndex index =
        { m with conn :=
            { m.conn with
              ccActive := (m.conn.ccActive.set (m.conn.ccNum - 1) p).set index q
              ccNum := m.conn.ccNum - 1 } } ∧
      TableOk (m.closeIndex index).conn ∧ (m.closeIndex index).conn.ccActive.Perm m.conn.ccActive ∧
      ∀ r, r ∈ (m.closeIndex index).active ↔ r ∈ m.active ∧ r ≠ p := by
  have room : m.conn.ccNum - 1 < m.conn.ccActive.length := by
    have := table.num_le
    have := table.capacity_le
    omega
  have final := List.getElem?_eq_getElem room
  have closed : m.closeIndex index =
      { m with conn :=
          { m.conn with
            ccActive := (m.conn.ccActive.set (m.conn.ccNum - 1) p).set index m.conn.ccActive[m.conn.ccNum - 1]
            ccNum := m.conn.ccNum - 1 } } := by
    rw [closeIndex, Pulse.swapOut, found, final]
  have moved := swapOut_perm found final
  have out := swapOut_take_perm found final (by omega)
  rw [Nat.sub_add_cancel (by omega)] at out
  have nodup := out.nodup_iff.mpr (table.distinct.sublist (List.take_sublist _ _))
  refine ⟨_, final, closed, ?_, ?_, fun r => ?_⟩
  · rw [closed]
    refine ⟨Nat.le_trans (Nat.sub_le _ _) table.num_le, ?_, ?_, moved.nodup_iff.mpr table.distinct⟩
    · simpa only [List.length_set] using table.capacity_le
    · simpa only [List.length_set] using table.small
  · rw [closed]
    exact moved
  · rw [active, active, closed, ← out.mem_iff, List.mem_cons]
    constructor
    · intro member
      exact ⟨Or.inr member, fun same => (List.nodup_cons.mp nodup).1 (same ▸ member)⟩
    · rintro ⟨same | member, other⟩
      · exact absurd same other
      · exact member

theorem Reserved.closeOther {index : Nat} (reserved : Reserved d saved order arrays m index) (id : UInt64) :
    ∃ index', Reserved d saved order arrays (m.closeOther id).2 index' := by
  rw [PulseMemory.closeOther, reserved.slot_eq]
  dsimp only
  split
  case isTrue => exact ⟨index, reserved⟩
  case isFalse apart =>
    split
    case isFalse => exact ⟨index, reserved⟩
    case isTrue hit =>
      have room := Nat.le_trans reserved.table.num_le reserved.table.capacity_le
      obtain ⟨p, found, holds⟩ := Pulse.findStream_hit hit room
      obtain ⟨q, final, closed, table, perm, -⟩ := closeIndex_spec reserved.table hit found
      -- the reserved context has another ID, so it is not the one that goes
      have elsewhere : index ≠ Pulse.findStream m.heap m.conn id := by
        intro same
        rw [← same, reserved.at_index] at found
        cases found
        rw [reserved.context_eq, reserved.id_eq] at holds
        exact apart holds.symm
      have inside := reserved.index_lt
      have length : ∀ i, i < m.conn.ccNum → i < m.conn.ccActive.length := fun i small => by omega
      refine ⟨_, rfl, table, ?_, ?_, ?_, reserved.id_eq, perm.trans reserved.order_perm, ?_⟩
      · rw [closed]
        dsimp only
        split <;> omega
      · rw [closed]
        dsimp only
        split
        case isTrue last =>
          rw [List.getElem?_set_self (by simpa using length _ hit), ← final, ← last, reserved.at_index]
        case isFalse inner =>
          rw [List.getElem?_set_ne (Ne.symm elsewhere), List.getElem?_set_ne (Ne.symm inner), reserved.at_index]
      · rw [closed]
        exact reserved.context_eq
      · rw [closed]
        exact reserved.bytes_eq

section Calls

variable [DecidableEq π]

theorem Reserved.allocateWhilePending {index : Nat} (reserved : Reserved d saved order arrays m index) (id : UInt64) :
    Reserved d saved order arrays (m.allocateWhilePending id).2 index := by
  rw [PulseMemory.allocateWhilePending, Pulse.allocateStream]
  dsimp only
  split
  case isTrue => exact reserved
  case isFalse free =>
    split
    case h_2 => exact reserved
    case h_1 p next =>
      have inside := reserved.index_lt
      have bound := reserved.table.capacity_le
      -- the next context is behind those in use, so it is not the reserved one
      have apart : d.context ≠ p := by
        rintro rfl
        have used := (List.getElem?_eq_some_iff.mp reserved.at_index).1
        have same := (List.getElem?_inj used reserved.table.distinct).mp (reserved.at_index.trans next.symm)
        omega
      refine ⟨reserved.slot_eq, ⟨?_, bound, reserved.table.small, reserved.table.distinct⟩, ?_, reserved.at_index,
        ?_, reserved.id_eq, reserved.order_perm, reserved.bytes_eq⟩
      · dsimp only
        omega
      · dsimp only
        omega
      · rw [← reserved.context_eq]
        exact Function.update_of_ne apart _ _

theorem Reserved.call {index : Nat} (reserved : Reserved d saved order arrays m index) {c : PendingCall}
    (mismatched : ∀ outcome, c ≠ .finishSend d.streamId outcome) :
    ∃ index', Reserved d saved order arrays (m.call c) index' := by
  cases c with
  | findWhilePending => exact ⟨index, reserved⟩
  | allocateWhilePending id => exact ⟨index, reserved.allocateWhilePending id⟩
  | closeOther id => exact reserved.closeOther id
  | finishSend completionId outcome =>
    have apart : completionId ≠ d.streamId := by
      rintro rfl
      exact mismatched outcome rfl
    refine ⟨index, ?_⟩
    rw [PulseMemory.call, finishSend, reserved.slot_eq]
    dsimp only
    rw [if_neg apart]
    exact reserved

theorem Reserved.run {calls : List PendingCall} {index : Nat} (reserved : Reserved d saved order arrays m index)
    (mismatched : ∀ outcome, PendingCall.finishSend d.streamId outcome ∉ calls) :
    ∃ index', Reserved d saved order arrays (calls.foldl PulseMemory.call m) index' := by
  induction calls generalizing m index with
  | nil => exact ⟨index, reserved⟩
  | cons c calls ih =>
    obtain ⟨_, next⟩ := reserved.call (c := c) fun outcome same => mismatched outcome (by simp [same])
    exact ih next fun outcome member => mismatched outcome (List.mem_cons_of_mem _ member)

end Calls

theorem Reserved.finishSend {index : Nat} (reserved : Reserved d saved order arrays m index) (outcome : SendOutcome) :
    (m.finishSend d.streamId outcome).1 = true ∧ (m.finishSend d.streamId outcome).2.slot = none ∧
      (m.finishSend d.streamId outcome).2.heap = m.heap ∧
      (m.finishSend d.streamId outcome).2.bytes = m.bytes ∧
      (m.finishSend d.streamId outcome).2.conn.ccNum + 1 = m.conn.ccNum ∧
      (m.finishSend d.streamId outcome).2.conn.ccActive.Perm order ∧
      ∀ p, p ∈ (m.finishSend d.streamId outcome).2.active ↔ p ∈ m.active ∧ p ≠ d.context := by
  have done : m.finishSend d.streamId outcome = (true, { m.closeIndex index with slot := none }) := by
    rw [PulseMemory.finishSend, reserved.slot_eq]
    exact if_pos rfl
  obtain ⟨q, -, closed, -, perm, members⟩ := closeIndex_spec reserved.table reserved.index_lt reserved.at_index
  rw [done]
  refine ⟨rfl, rfl, ?_, ?_, ?_, perm.trans reserved.order_perm, members⟩
  · rw [closed]
  · rw [closed]
  · have := reserved.index_lt
    rw [closed]
    dsimp only
    omega

/-- The first context in use with the ID is reserved. -/
theorem beginSend_reserved (table : TableOk m.conn) {response : β} {length : UInt32} {id : UInt64} {fin : Bool}
    (begun : (m.beginSend response length id fin).1 = some d) :
    d.streamId = id ∧ d.data = response ∧ d.length = length ∧ d.fin = fin ∧
      ∃ index, Reserved d (m.heap d.context) m.conn.ccActive m.bytes (m.beginSend response length id fin).2 index := by
  rw [beginSend] at begun ⊢
  dsimp only at begun ⊢
  split at begun
  case isFalse => cases begun
  case isTrue hit =>
    obtain ⟨p, found, holds⟩ := Pulse.findStream_hit hit (Nat.le_trans table.num_le table.capacity_le)
    rw [if_pos hit]
    simp only [found] at begun ⊢
    cases begun
    exact ⟨rfl, rfl, rfl, rfl, _, rfl, table, hit, found, rfl, holds, List.Perm.refl _, rfl⟩

end PulseMemory

/-- A reservation holds through any calls, and its completion closes the context that was reserved. -/
theorem reservation_survives {π β : Type} [DecidableEq π] (m : PulseMemory π β) (table : TableOk m.conn) (response : β)
    (length : UInt32) (id : UInt64) (fin : Bool) (d : Descriptor π β)
    (begun : (m.beginSend response length id fin).1 = some d) (calls : List PendingCall)
    (mismatched : ∀ outcome, PendingCall.finishSend d.streamId outcome ∉ calls) :
    let now := calls.foldl PulseMemory.call (m.beginSend response length id fin).2
    d.streamId = id ∧ d.data = response ∧ d.length = length ∧ d.fin = fin ∧ (m.heap d.context).scId = id ∧
    (∃ index, now.slot = some ⟨d, index⟩ ∧ index < now.conn.ccNum ∧ now.active[index]? = some d.context) ∧
    now.heap d.context = m.heap d.context ∧
    now.bytes = m.bytes ∧
    now.conn.ccActive.Perm m.conn.ccActive ∧
    ∀ outcome, let done := (now.finishSend d.streamId outcome).2
      (now.finishSend d.streamId outcome).1 = true ∧
      done.slot = none ∧
      done.heap = now.heap ∧
      done.bytes = m.bytes ∧
      done.conn.ccNum + 1 = now.conn.ccNum ∧
      done.conn.ccActive.Perm m.conn.ccActive ∧
      (∀ p, p ∈ done.active ↔ p ∈ now.active ∧ p ≠ d.context) := by
  intro now
  obtain ⟨idEq, dataEq, lengthEq, finEq, _, first⟩ := PulseMemory.beginSend_reserved table begun
  obtain ⟨index, reserved⟩ := first.run mismatched
  refine ⟨idEq, dataEq, lengthEq, finEq, first.id_eq.trans idEq,
    ⟨index, reserved.slot_eq, reserved.index_lt, ?_⟩, reserved.context_eq, reserved.bytes_eq, reserved.order_perm,
    fun outcome => ?_⟩
  · exact (List.getElem?_take_of_lt reserved.index_lt).trans reserved.at_index
  · obtain ⟨accepted, slot, heap, bytes, num, perm, members⟩ := reserved.finishSend outcome
    exact ⟨accepted, slot, heap, bytes.trans reserved.bytes_eq, num, perm, members⟩

/-- Two contexts have the ID zero. Closing the one in front of them moves the second before the
reserved first, and the completion still closes the reserved one. -/
theorem reservation_survives_duplicate :
    let m : PulseMemory (Fin 3) Unit :=
      { conn := ⟨[0, 1, 2], 3, 3⟩
        heap := fun p => if p = 0 then ⟨99, .done, ()⟩ else if p = 1 then ⟨0, .processing 12, ()⟩ else
          ⟨0, .processing 13, ()⟩
        bytes := fun _ => List.replicate 14 0xa5
        slot := none }
    let now := [PendingCall.closeOther 99, .findWhilePending 0].foldl PulseMemory.call (m.beginSend () 14 0 true).2
    now.conn.ccActive = [2, 1, 0] ∧ now.findWhilePending 0 = 0 ∧
      (now.finishSend 0 .sendCompleted).2.active = [2] ∧ (now.finishSend 0 .sendCompleted).2.slot.isNone := by
  intro m now
  have survives := reservation_survives m ⟨by decide, by decide, by decide, by decide⟩ () 14 0 true
    ⟨0, (), 14, true, 1⟩ rfl [PendingCall.closeOther 99, .findWhilePending 0] (by simp)
  obtain ⟨-, slot, -⟩ := survives.2.2.2.2.2.2.2.2.2 .sendCompleted
  exact ⟨by decide, by decide, by decide, by rw [slot]; rfl⟩

end Ism
