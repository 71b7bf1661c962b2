import Ism.Lib.SlotTable
import Ism.Stream

namespace Ism

open Lib

/-- The table of a connection. `π` is what the slot array points with; the contexts
themselves live in a heap `π → StreamContext β` beside it. -/
structure ConnectionContext (π : Type) where
  ccActive : List π
  ccNum : Nat
  ccCapacity : Nat

section Multiplexer

variable {π β : Type} (heap : π → StreamContext β)

/-- The scan over the pointers `ptrs` that are left between `idx` and `count`. -/
def findStreamFrom (id : UInt64) : List π → Option π
  | [] => none
  | streamPtr :: ptrs => if (heap streamPtr).scId = id then some streamPtr else findStreamFrom id ptrs

def findStream (conn : ConnectionContext π) (id : UInt64) : Option π :=
  if conn.ccNum = 0 then none else findStreamFrom heap id (conn.ccActive.take conn.ccNum)

/-- The scan over the pointers `ptrs` that are left between `idx` and `count`; a hit
swaps the slot with the last one in use. `none` means that nothing was closed. -/
def closeStreamFrom (active : List π) (count : Nat) (id : UInt64) : List π → Nat → Option (List π)
  | [], _ => none
  | streamPtr :: ptrs, idx =>
    if (heap streamPtr).scId = id then
      let lastPtr := active.getD (count - 1) streamPtr
      some ((active.set (count - 1) streamPtr).set idx lastPtr)
    else closeStreamFrom active count id ptrs (idx + 1)

def closeStream (conn : ConnectionContext π) (id : UInt64) : ConnectionContext π :=
  if conn.ccNum = 0 then conn
  else
    match closeStreamFrom heap conn.ccActive conn.ccNum id (conn.ccActive.take conn.ccNum) 0 with
    | some active => { conn with ccActive := active, ccNum := conn.ccNum - 1 }
    | none => conn

/-- A new ID takes the first slot behind those in use; the context there keeps its buffer. -/
def allocateStream [DecidableEq π] (conn : ConnectionContext π) (id : UInt64) :
    Option π × (π → StreamContext β) × ConnectionContext π :=
  if (findStream heap conn id).isSome then (none, heap, conn)
  else if conn.ccNum < conn.ccCapacity ∧ conn.ccNum < 0xffffffff then
    match conn.ccActive[conn.ccNum]? with
    | some streamPtr =>
      let nextStream := { heap streamPtr with scId := id, scPhase := .readingLength }
      (some streamPtr, Function.update heap streamPtr nextStream, { conn with ccNum := conn.ccNum + 1 })
    | none => (none, heap, conn)
  else (none, heap, conn)

variable {heap}

theorem findStreamFrom_eq_find? (id : UInt64) (ptrs : List π) :
    findStreamFrom heap id ptrs = ptrs.find? (fun p => (heap p).scId = id) := by
  induction ptrs with
  | nil => rfl
  | cons p ptrs ih =>
    by_cases hit : (heap p).scId = id
    · simp [findStreamFrom, hit]
    · simp [findStreamFrom, hit, ih]

theorem findStream_eq_find? (conn : ConnectionContext π) (id : UInt64) :
    findStream heap conn id = (conn.ccActive.take conn.ccNum).find? (fun p => (heap p).scId = id) := by
  unfold findStream
  split
  case isTrue empty => simp [empty]
  case isFalse => exact findStreamFrom_eq_find? id _

theorem findStream_eq_none_iff {conn : ConnectionContext π} {id : UInt64} :
    findStream heap conn id = none ↔ ∀ p ∈ conn.ccActive.take conn.ccNum, (heap p).scId ≠ id := by
  simp [findStream_eq_find?]

theorem closeStreamFrom_eq_none {active : List π} {count : Nat} {id : UInt64} {ptrs : List π}
    (absent : ∀ p ∈ ptrs, (heap p).scId ≠ id) (idx : Nat) :
    closeStreamFrom heap active count id ptrs idx = none := by
  induction ptrs generalizing idx with
  | nil => rfl
  | cons p ptrs ih =>
    rw [closeStreamFrom, if_neg (absent p (by simp))]
    exact ih (fun q member => absent q (by simp [member])) (idx + 1)

/-- The scan stops at some position that holds the first pointer with this ID. -/
theorem closeStreamFrom_eq_some (active : List π) (count : Nat) {id : UInt64} {ptrs : List π} {p : π}
    (found : findStreamFrom heap id ptrs = some p) (idx : Nat) :
    ∃ i, ptrs[i]? = some p ∧ closeStreamFrom heap active count id ptrs idx =
      some ((active.set (count - 1) p).set (idx + i) (active.getD (count - 1) p)) := by
  induction ptrs generalizing idx with
  | nil => cases found
  | cons q ptrs ih =>
    by_cases hit : (heap q).scId = id
    · obtain rfl : q = p := by simpa [findStreamFrom, hit] using found
      exact ⟨0, rfl, by simp [closeStreamFrom, hit]⟩
    · rw [findStreamFrom, if_neg hit] at found
      obtain ⟨i, atIndex, closed⟩ := ih found (idx + 1)
      refine ⟨i + 1, by simpa using atIndex, ?_⟩
      rw [closeStreamFrom, if_neg hit, closed, Nat.add_right_comm, Nat.add_assoc]

theorem closeStream_absent {conn : ConnectionContext π} {id : UInt64}
    (absent : findStream heap conn id = none) : closeStream heap conn id = conn := by
  unfold closeStream
  split
  · rfl
  · rw [closeStreamFrom_eq_none (findStream_eq_none_iff.mp absent)]

/-- Closing an ID in use removes exactly its slot from the slots in use. -/
theorem closeStream_present {slots : List π} {conn : ConnectionContext π} {id : UInt64} {p : π}
    (table : SlotTable slots conn.ccActive conn.ccNum (fun q => (heap q).scId)) (unique : slots.Nodup)
    (present : findStream heap conn id = some p) :
    SlotTable slots (closeStream heap conn id).ccActive (closeStream heap conn id).ccNum
        (fun q => (heap q).scId) ∧
      (closeStream heap conn id).ccNum + 1 = conn.ccNum ∧
      (closeStream heap conn id).ccCapacity = conn.ccCapacity ∧
      ∀ r, r ∈ (closeStream heap conn id).ccActive.take (closeStream heap conn id).ccNum ↔
        r ∈ conn.ccActive.take conn.ccNum ∧ r ≠ p := by
  have used : conn.ccNum ≠ 0 := fun empty => by simp [findStream, empty] at present
  obtain ⟨last, count⟩ := Nat.exists_eq_succ_of_ne_zero used
  rw [findStream, if_neg used] at present
  obtain ⟨i, atIndex, closed⟩ := closeStreamFrom_eq_some conn.ccActive conn.ccNum present 0
  have bound : i < conn.ccNum := by
    have := (List.getElem?_eq_some_iff.mp atIndex).1
    rw [List.length_take] at this
    omega
  rw [List.getElem?_take_of_lt bound] at atIndex
  have room : last < conn.ccActive.length := by have := table.num_le; omega
  have final : conn.ccActive[last]? = some conn.ccActive[last] := List.getElem?_eq_getElem room
  have lastPtr : conn.ccActive.getD last p = conn.ccActive[last] := by
    rw [List.getD_eq_getElem?_getD, final, Option.getD_some]
  rw [count, Nat.succ_sub_one, Nat.zero_add, lastPtr] at closed
  have result : closeStream heap conn id =
      { conn with ccActive := (conn.ccActive.set last p).set i conn.ccActive[last], ccNum := last } := by
    rw [closeStream, if_neg used, count, closed]
    rfl
  rw [count] at table ⊢
  rw [result]
  have removed := table.remove unique atIndex final (by omega)
  exact ⟨removed.1, rfl, rfl, removed.2⟩

end Multiplexer

end Ism
