import Ism.Multiplexer

namespace Ism

open Lib

namespace Pulse

section Operations

variable {π β : Type} (heap : π → StreamContext β)

/-- The loop over the pointers `ptrs` that are left between `i` and `count`. -/
def findIndexFrom (id : UInt64) : List π → Nat → Nat
  | [], i => i
  | p :: ptrs, i => if (heap p).scId = id then i else findIndexFrom id ptrs (i + 1)

/-- The count stands for a miss. -/
def findIndex (table : List π) (count : Nat) (id : UInt64) : Nat := findIndexFrom heap id (table.take count) 0

def findStream (conn : ConnectionContext π) (id : UInt64) : Nat := findIndex heap conn.ccActive conn.ccNum id

/-- The capacity stands for a failure. -/
def allocateStream [DecidableEq π] (conn : ConnectionContext π) (id : UInt64) :
    Nat × (π → StreamContext β) × ConnectionContext π :=
  let existing := findIndex heap conn.ccActive conn.ccNum id
  if existing < conn.ccNum ∨ ¬ conn.ccNum < conn.ccCapacity then (conn.ccCapacity, heap, conn)
  else
    match conn.ccActive[conn.ccNum]? with
    | some p =>
      let fresh := { heap p with scId := id, scPhase := .readingLength }
      (conn.ccNum, Function.update heap p fresh, { conn with ccNum := conn.ccNum + 1 })
    -- the capacity is at most the length of the array
    | none => (conn.ccCapacity, heap, conn)

/-- Swaps the pointer at `index` with the last one in use and gives that one up. -/
def swapOut (conn : ConnectionContext π) (index : Nat) : ConnectionContext π :=
  let last := conn.ccNum - 1
  match conn.ccActive[index]?, conn.ccActive[last]? with
  | some removed, some final =>
    { conn with ccActive := (conn.ccActive.set last removed).set index final, ccNum := last }
  | _, _ => conn

def closeStream (conn : ConnectionContext π) (id : UInt64) : Bool × ConnectionContext π :=
  let found := findIndex heap conn.ccActive conn.ccNum id
  if found < conn.ccNum then (true, swapOut conn found) else (false, conn)

end Operations

variable {π β : Type} {heap : π → StreamContext β} {conn : ConnectionContext π} {id : UInt64}

theorem findIndexFrom_eq (ptrs : List π) (i : Nat) :
    findIndexFrom heap id ptrs i = i + ptrs.findIdx fun p => (heap p).scId = id := by
  induction ptrs generalizing i with
  | nil => rfl
  | cons p ptrs ih =>
    rw [findIndexFrom, List.findIdx_cons]
    by_cases hit : (heap p).scId = id
    · simp [hit]
    · simp only [hit, if_false, decide_false, cond_false, ih]
      omega

theorem findStream_eq :
    findStream heap conn id = (conn.ccActive.take conn.ccNum).findIdx fun p => (heap p).scId = id := by
  rw [findStream, findIndex, findIndexFrom_eq, Nat.zero_add]

/-- What stands at the index is what the stable scan finds. -/
theorem getElem?_findStream :
    (conn.ccActive.take conn.ccNum)[findStream heap conn id]? = Ism.findStream heap conn id := by
  rw [findStream_eq, findStream_eq_find?, List.find?_eq_getElem?_findIdx]

theorem findStream_hit_iff (room : conn.ccNum ≤ conn.ccActive.length) {p : π} :
    findStream heap conn id < conn.ccNum ∧ conn.ccActive[findStream heap conn id]? = some p ↔
      Ism.findStream heap conn id = some p := by
  rw [← getElem?_findStream]
  constructor
  · rintro ⟨hit, here⟩
    rw [List.getElem?_take_of_lt hit, here]
  · intro here
    have inside := (List.getElem?_eq_some_iff.mp here).1
    rw [List.length_take, Nat.min_eq_left room] at inside
    rw [List.getElem?_take_of_lt inside] at here
    exact ⟨inside, here⟩

/-- A hit is the position of a context in use that has this ID. -/
theorem findStream_hit (hit : findStream heap conn id < conn.ccNum) (room : conn.ccNum ≤ conn.ccActive.length) :
    ∃ p, conn.ccActive[findStream heap conn id]? = some p ∧ (heap p).scId = id := by
  have here := List.getElem?_eq_getElem (Nat.lt_of_lt_of_le hit room)
  have found := (findStream_hit_iff room).mp ⟨hit, here⟩
  rw [findStream_eq_find?] at found
  exact ⟨_, here, by simpa using List.find?_some found⟩

theorem findStream_miss_iff (room : conn.ccNum ≤ conn.ccActive.length) :
    ¬ findStream heap conn id < conn.ccNum ↔ Ism.findStream heap conn id = none := by
  constructor
  · intro miss
    cases found : Ism.findStream heap conn id with
    | none => rfl
    | some p => exact absurd ((findStream_hit_iff room).mpr found).1 miss
  · intro absent hit
    have here := List.getElem?_eq_getElem (Nat.lt_of_lt_of_le hit room)
    rw [(findStream_hit_iff room).mp ⟨hit, here⟩] at absent
    cases absent

theorem closeStreamFrom_eq_some_findIndexFrom (active : List π) (count : Nat) {ptrs : List π} {p : π}
    (found : findStreamFrom heap id ptrs = some p) (idx : Nat) :
    closeStreamFrom heap active count id ptrs idx =
      some ((active.set (count - 1) p).set (findIndexFrom heap id ptrs idx) (active.getD (count - 1) p)) := by
  induction ptrs generalizing idx with
  | nil => cases found
  | cons q ptrs ih =>
    by_cases hit : (heap q).scId = id
    · rw [findStreamFrom, if_pos hit, Option.some.injEq] at found
      rw [closeStreamFrom, if_pos hit, findIndexFrom, if_pos hit, found]
    · rw [findStreamFrom, if_neg hit] at found
      rw [closeStreamFrom, if_neg hit, findIndexFrom, if_neg hit]
      exact ih found (idx + 1)

theorem closeStream_ccCapacity (heap : π → StreamContext β) (conn : ConnectionContext π) (id : UInt64) :
    (Ism.closeStream heap conn id).ccCapacity = conn.ccCapacity := by
  unfold Ism.closeStream
  split
  · rfl
  · split <;> rfl

/-- Both ports close a stream with the same swap. -/
theorem closeStream_eq (room : conn.ccNum ≤ conn.ccActive.length) :
    closeStream heap conn id = (decide (findStream heap conn id < conn.ccNum), Ism.closeStream heap conn id) := by
  by_cases hit : findStream heap conn id < conn.ccNum
  case neg =>
    rw [decide_eq_false hit, closeStream_absent ((findStream_miss_iff room).mp hit)]
    exact if_neg hit
  case pos =>
    rw [decide_eq_true hit]
    refine (if_pos hit).trans (congrArg (Prod.mk true) ?_)
    rw [← findStream]
    have inside : conn.ccNum - 1 < conn.ccActive.length := by omega
    have here := List.getElem?_eq_getElem (Nat.lt_of_lt_of_le hit room)
    have found := (findStream_hit_iff room).mp ⟨hit, here⟩
    have used : conn.ccNum ≠ 0 := by omega
    rw [Ism.findStream, if_neg used] at found
    rw [swapOut, here, List.getElem?_eq_getElem inside, Ism.closeStream, if_neg used,
      closeStreamFrom_eq_some_findIndexFrom _ _ found, List.getD_eq_getElem?_getD, List.getElem?_eq_getElem inside]
    rfl

end Pulse

end Ism
