import Mathlib.Data.Finset.Card
import Mathlib.Data.Set.Function
import Ism.Multiplexer

namespace Ism

open Lib

inductive MultiplexerCall
  | findStream (id : UInt64)
  | allocateStream (id : UInt64)
  | closeStream (id : UInt64)

/-- A connection together with the contexts that it points to. -/
structure Multiplexer (π β : Type) where
  heap : π → StreamContext β
  conn : ConnectionContext π

namespace Multiplexer

variable {π β : Type} [DecidableEq π]

def active (mux : Multiplexer π β) : List π := mux.conn.ccActive.take mux.conn.ccNum

def call (mux : Multiplexer π β) : MultiplexerCall → Multiplexer π β
  | .findStream _ => mux
  | .allocateStream id => ⟨(allocateStream mux.heap mux.conn id).2.1, (allocateStream mux.heap mux.conn id).2.2⟩
  | .closeStream id => ⟨mux.heap, closeStream mux.heap mux.conn id⟩

def run (mux : Multiplexer π β) (calls : List MultiplexerCall) : Multiplexer π β := calls.foldl call mux

end Multiplexer

/-- What a connection is for: a set of at most `capacity` stream IDs, each of them reading
its length prefix. -/
def mapCall (capacity : Nat) (ids : Finset UInt64) : MultiplexerCall → Finset UInt64
  | .findStream _ => ids
  | .allocateStream id => if id ∈ ids ∨ ids.card = capacity then ids else insert id ids
  | .closeStream id => ids.erase id

namespace Multiplexer

variable {π β : Type} {slots : List π} {capacity : Nat} {mux : Multiplexer π β} {ids : Finset UInt64} {id : UInt64}

/-- The slots in use hold exactly the IDs of the set, each of them once. -/
structure Represents (slots : List π) (capacity : Nat) (mux : Multiplexer π β) (ids : Finset UInt64) : Prop where
  table : SlotTable slots mux.conn.ccActive mux.conn.ccNum (fun p => (mux.heap p).scId)
  capacity_eq : mux.conn.ccCapacity = capacity
  num_le : mux.conn.ccNum ≤ capacity
  mem_iff : ∀ id, id ∈ ids ↔ ∃ p ∈ mux.active, (mux.heap p).scId = id
  reading : ∀ p ∈ mux.active, (mux.heap p).scPhase = .readingLength

theorem Represents.nodup (rep : Represents slots capacity mux ids) :
    (mux.active.map fun p => (mux.heap p).scId).Nodup := rep.table.keys_nodup

theorem Represents.find_iff (rep : Represents slots capacity mux ids) {p : π} :
    findStream mux.heap mux.conn id = some p ↔ p ∈ mux.active ∧ (mux.heap p).scId = id := by
  rw [findStream_eq_find?]
  exact rep.table.find_eq_some_iff

theorem Represents.find_none_iff (rep : Represents slots capacity mux ids) :
    findStream mux.heap mux.conn id = none ↔ id ∉ ids := by
  rw [findStream_eq_none_iff, rep.mem_iff]
  simp only [not_exists, not_and, active]

theorem Represents.card_eq (rep : Represents slots capacity mux ids) : ids.card = mux.conn.ccNum := by
  have image : (mux.active.map fun p => (mux.heap p).scId).toFinset = ids := by
    ext id
    rw [List.mem_toFinset, List.mem_map, rep.mem_iff]
  rw [← image, List.toFinset_card_of_nodup rep.nodup, List.length_map, active, List.length_take,
    Nat.min_eq_left rep.table.num_le]

theorem Represents.bijOn (rep : Represents slots capacity mux ids) :
    Set.BijOn (fun p => (mux.heap p).scId) {p | p ∈ mux.active} ids := by
  refine ⟨fun p member => (rep.mem_iff _).mpr ⟨p, member, rfl⟩, ?_, fun id member => (rep.mem_iff id).mp member⟩
  intro p left q right same
  exact rep.table.key_inj left right same

section Allocate

variable [DecidableEq π]

/-- The connection after a new ID was put into the slot `p`. -/
def opened (mux : Multiplexer π β) (p : π) (id : UInt64) : Multiplexer π β :=
  ⟨Function.update mux.heap p { mux.heap p with scId := id, scPhase := .readingLength },
    { mux.conn with ccNum := mux.conn.ccNum + 1 }⟩

/-- Either nothing happens, to an ID in use or in a full table, or the next slot is taken. -/
theorem Represents.allocateStream_cases (rep : Represents slots capacity mux ids) (room : capacity ≤ slots.length)
    (small : slots.length < 2 ^ 32) (id : UInt64) :
    ((id ∈ ids ∨ mux.conn.ccNum = capacity) ∧ allocateStream mux.heap mux.conn id = (none, mux.heap, mux.conn)) ∨
    (id ∉ ids ∧ mux.conn.ccNum < capacity ∧ ∃ p, mux.conn.ccActive[mux.conn.ccNum]? = some p ∧
      allocateStream mux.heap mux.conn id = (some p, (mux.opened p id).heap, (mux.opened p id).conn)) := by
  by_cases present : id ∈ ids
  · have found : (findStream mux.heap mux.conn id).isSome = true := by
      rw [Option.isSome_iff_ne_none]
      exact fun absent => rep.find_none_iff.mp absent present
    exact Or.inl ⟨Or.inl present, if_pos found⟩
  · have absent : ¬ (findStream mux.heap mux.conn id).isSome = true := by
      rw [rep.find_none_iff.mpr present]
      exact Bool.false_ne_true
    rcases Nat.eq_or_lt_of_le rep.num_le with full | free
    · have stop : ¬ (mux.conn.ccNum < mux.conn.ccCapacity ∧ mux.conn.ccNum < 0xffffffff) := by
        rw [rep.capacity_eq]
        omega
      exact Or.inl ⟨Or.inr full, by rw [allocateStream, if_neg absent, if_neg stop]⟩
    · have pass : mux.conn.ccNum < mux.conn.ccCapacity ∧ mux.conn.ccNum < 0xffffffff := by
        rw [rep.capacity_eq]
        omega
      have inside : mux.conn.ccNum < mux.conn.ccActive.length := by
        rw [rep.table.order_perm.length_eq]
        omega
      refine Or.inr ⟨present, free, _, List.getElem?_eq_getElem inside, ?_⟩
      rw [allocateStream, if_neg absent, if_pos pass, List.getElem?_eq_getElem inside]
      rfl

theorem Represents.opened (rep : Represents slots capacity mux ids) (unique : slots.Nodup) {p : π} (absent : id ∉ ids)
    (free : mux.conn.ccNum < capacity) (next : mux.conn.ccActive[mux.conn.ccNum]? = some p) :
    p ∉ mux.active ∧ (mux.opened p id).active = mux.active ++ [p] ∧
      Represents slots capacity (mux.opened p id) (insert id ids) := by
  have others : ∀ q ∈ mux.active, (mux.heap q).scId ≠ id := fun q member same =>
    absent ((rep.mem_iff id).mpr ⟨q, member, same⟩)
  obtain ⟨fresh, table⟩ := rep.table.insert unique next others
  have grown : (mux.opened p id).active = mux.active ++ [p] := SlotTable.take_succ next
  have self : (mux.opened p id).heap p = { mux.heap p with scId := id, scPhase := .readingLength } :=
    Function.update_self ..
  have elsewhere : ∀ q, q ≠ p → (mux.opened p id).heap q = mux.heap q := fun q apart =>
    Function.update_of_ne apart ..
  have rest : ∀ q ∈ mux.active, (mux.opened p id).heap q = mux.heap q := by
    rintro q member
    refine elsewhere q ?_
    rintro rfl
    exact fresh member
  refine ⟨fresh, grown, table.congr_key fun q _ => ?_, rep.capacity_eq, free, fun other => ?_, fun q member => ?_⟩
  · by_cases here : q = p
    · rw [here, self, Function.update_self]
    · rw [Function.update_of_ne here, elsewhere q here]
  · rw [Finset.mem_insert, rep.mem_iff, grown]
    constructor
    · rintro (rfl | ⟨q, member, holds⟩)
      · exact ⟨p, by simp, by rw [self]⟩
      · exact ⟨q, by simp [member], by rw [rest q member, holds]⟩
    · rintro ⟨q, member, holds⟩
      rcases List.mem_append.mp member with old | new
      · rw [rest q old] at holds
        exact Or.inr ⟨q, old, holds⟩
      · rw [List.mem_singleton.mp new, self] at holds
        exact Or.inl holds.symm
  · rw [grown] at member
    rcases List.mem_append.mp member with old | new
    · rw [rest q old]
      exact rep.reading q old
    · rw [List.mem_singleton.mp new, self]

end Allocate

/-- Closing an ID takes its context out of the slots in use and changes no context. -/
theorem Represents.closed (rep : Represents slots capacity mux ids) (unique : slots.Nodup) (id : UInt64) :
    Represents slots capacity ⟨mux.heap, closeStream mux.heap mux.conn id⟩ (ids.erase id) ∧
      ∀ p, p ∈ active ⟨mux.heap, closeStream mux.heap mux.conn id⟩ ↔ p ∈ mux.active ∧ (mux.heap p).scId ≠ id := by
  cases found : findStream mux.heap mux.conn id with
  | none =>
    have absent := rep.find_none_iff.mp found
    rw [closeStream_absent found, Finset.erase_eq_of_notMem absent]
    refine ⟨rep, fun p => ⟨fun member => ⟨member, fun holds => ?_⟩, fun both => both.1⟩⟩
    exact absent ((rep.mem_iff id).mpr ⟨p, member, holds⟩)
  | some p =>
    obtain ⟨here, holds⟩ := rep.find_iff.mp found
    obtain ⟨table, num, capacity, members⟩ := closeStream_present rep.table unique found
    have left : ∀ q, q ∈ active ⟨mux.heap, closeStream mux.heap mux.conn id⟩ ↔
        q ∈ mux.active ∧ (mux.heap q).scId ≠ id := by
      intro q
      rw [active, members]
      refine and_congr_right fun member => not_congr ⟨fun same => same ▸ holds, fun same => ?_⟩
      exact rep.table.key_inj member here (same.trans holds.symm)
    refine ⟨⟨table, capacity.trans rep.capacity_eq, ?_, fun other => ?_, fun q member => ?_⟩, left⟩
    · have bound := rep.num_le
      dsimp only
      omega
    · rw [Finset.mem_erase, rep.mem_iff]
      constructor
      · rintro ⟨apart, q, member, same⟩
        exact ⟨q, (left q).mpr ⟨member, same ▸ apart⟩, same⟩
      · rintro ⟨q, member, same⟩
        obtain ⟨before, apart⟩ := (left q).mp member
        exact ⟨same ▸ apart, q, before, same⟩
    · exact rep.reading q ((left q).mp member).1

variable [DecidableEq π]

theorem Represents.call (rep : Represents slots capacity mux ids) (unique : slots.Nodup)
    (room : capacity ≤ slots.length) (small : slots.length < 2 ^ 32) (c : MultiplexerCall) :
    Represents slots capacity (mux.call c) (mapCall capacity ids c) := by
  cases c with
  | findStream => exact rep
  | closeStream id => exact (rep.closed unique id).1
  | allocateStream id =>
    rcases rep.allocateStream_cases room small id with ⟨refused, same⟩ | ⟨absent, free, p, next, taken⟩
    · rw [mapCall, if_pos (rep.card_eq.symm ▸ refused), Multiplexer.call, same]
      exact rep
    · have vacant : ¬ (id ∈ ids ∨ ids.card = capacity) := by
        rintro (present | full)
        · exact absent present
        · rw [rep.card_eq] at full
          omega
      rw [mapCall, if_neg vacant, Multiplexer.call, taken]
      exact (rep.opened unique absent free next).2.2

theorem Represents.run (unique : slots.Nodup) (room : capacity ≤ slots.length) (small : slots.length < 2 ^ 32)
    (calls : List MultiplexerCall) {mux : Multiplexer π β} {ids : Finset UInt64}
    (rep : Represents slots capacity mux ids) :
    Represents slots capacity (mux.run calls) (calls.foldl (mapCall capacity) ids) := by
  induction calls generalizing mux ids with
  | nil => exact rep
  | cons c calls ih => exact ih (rep.call unique room small c)

end Multiplexer

/-- At every capacity, any calls keep the slots in use in step with the bounded set of IDs. -/
theorem multiplexer_refines_bounded_map {π β : Type} [DecidableEq π] (heap : π → StreamContext β) (slots : List π)
    (capacity : Nat) (unique : slots.Nodup) (room : capacity ≤ slots.length) (small : slots.length < 2 ^ 32)
    (calls : List MultiplexerCall) :
    let mux := (Multiplexer.mk heap ⟨slots, 0, capacity⟩).run calls
    let ids := calls.foldl (mapCall capacity) ∅
    mux.conn.ccActive.Perm slots ∧
    (mux.active.map fun p => (mux.heap p).scId).Nodup ∧
    Set.BijOn (fun p => (mux.heap p).scId) {p | p ∈ mux.active} ids ∧
    (∀ p ∈ mux.active, (mux.heap p).scPhase = .readingLength) ∧
    (∀ id, ((allocateStream mux.heap mux.conn id).1 = none ↔
        id ∈ ids ∨ mux.conn.ccNum = mux.conn.ccCapacity) ∧
      ((allocateStream mux.heap mux.conn id).1 = none → mux.call (.allocateStream id) = mux) ∧
      ∀ p, (allocateStream mux.heap mux.conn id).1 = some p → p ∉ mux.active ∧
        (mux.call (.allocateStream id)).active = mux.active ++ [p] ∧
        (mux.call (.allocateStream id)).heap =
          Function.update mux.heap p { mux.heap p with scId := id, scPhase := .readingLength }) ∧
    (∀ id p, findStream mux.heap mux.conn id = some p ↔ p ∈ mux.active ∧ (mux.heap p).scId = id) ∧
    (∀ id, findStream mux.heap mux.conn id = none ↔ id ∉ ids) ∧
    (∀ id, (mux.call (.closeStream id)).heap = mux.heap ∧
      (∀ p, p ∈ (mux.call (.closeStream id)).active ↔ p ∈ mux.active ∧ (mux.heap p).scId ≠ id) ∧
      (id ∉ ids → mux.call (.closeStream id) = mux)) := by
  intro mux ids
  have start : Multiplexer.Represents slots capacity ⟨heap, ⟨slots, 0, capacity⟩⟩ ∅ :=
    ⟨⟨List.Perm.refl _, Nat.zero_le _, List.nodup_nil⟩, rfl, Nat.zero_le _, by simp [Multiplexer.active],
      by simp [Multiplexer.active]⟩
  have rep : Multiplexer.Represents slots capacity mux ids := start.run unique room small calls
  refine ⟨rep.table.order_perm, rep.nodup, rep.bijOn, rep.reading, fun id => ?_, fun _ _ => rep.find_iff,
    fun _ => rep.find_none_iff, fun id => ⟨rfl, (rep.closed unique id).2, fun absent => ?_⟩⟩
  · rw [rep.capacity_eq]
    rcases rep.allocateStream_cases room small id with ⟨refused, same⟩ | ⟨absent, free, p, next, taken⟩
    · rw [Multiplexer.call, same]
      exact ⟨⟨fun _ => refused, fun _ => rfl⟩, fun _ => rfl, nofun⟩
    · rw [Multiplexer.call, taken]
      obtain ⟨fresh, grown, -⟩ := rep.opened unique absent free next
      refine ⟨⟨nofun, ?_⟩, nofun, ?_⟩
      · rintro (present | full)
        · exact absurd present absent
        · omega
      · rintro _ ⟨⟩
        exact ⟨fresh, grown, rfl⟩
  · rw [Multiplexer.call, closeStream_absent (rep.find_none_iff.mpr absent)]

/-- Two contexts, one of them reused after a close. -/
theorem multiplexer_refines_bounded_map_reuse :
    let heap : Fin 2 → StreamContext Unit := fun _ => ⟨0, .done, ()⟩
    let mux := (Multiplexer.mk heap ⟨[0, 1], 0, 2⟩).run
      [.allocateStream 7, .allocateStream 8, .closeStream 7, .allocateStream 9]
    mux.conn.ccActive = [1, 0] ∧ (mux.active.map fun p => (mux.heap p).scId) = [8, 9] ∧
      ((allocateStream mux.heap mux.conn 5).1 = none → mux.call (.allocateStream 5) = mux) := by
  have refines := multiplexer_refines_bounded_map (fun _ : Fin 2 => (⟨0, .done, ()⟩ : StreamContext Unit)) [0, 1] 2
    (by decide) (by decide) (by decide) [.allocateStream 7, .allocateStream 8, .closeStream 7, .allocateStream 9]
  exact ⟨by decide, by decide, (refines.2.2.2.2.1 5).2.1⟩

end Ism
