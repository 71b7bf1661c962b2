import Mathlib.Data.List.Nodup
import Mathlib.Tactic.Common

namespace Ism.Lib

variable {π κ : Type*}

section Swap

variable {order : List π} {i last : Nat} {p q : π}

theorem swapOut_perm (found : order[i]? = some p) (final : order[last]? = some q) :
    ((order.set last p).set i q).Perm order := by
  obtain ⟨inside, rfl⟩ := List.getElem?_eq_some_iff.mp found
  obtain ⟨room, rfl⟩ := List.getElem?_eq_some_iff.mp final
  exact List.set_set_perm room inside

/-- Swapping the cell `i` with the cell `last` moves it out of the first `last` cells. -/
theorem swapOut_take_perm (found : order[i]? = some p) (final : order[last]? = some q) (before : i ≤ last) :
    (p :: ((order.set last p).set i q).take last).Perm (order.take (last + 1)) := by
  obtain ⟨room, -⟩ := List.getElem?_eq_some_iff.mp final
  have foundFront : (order.take (last + 1))[i]? = some p := by
    rw [List.getElem?_take_of_lt (by omega), found]
  have finalFront : (order.take (last + 1))[last]? = some q := by
    rw [List.getElem?_take_of_lt (by omega), final]
  have lastCell : ((order.set last p).set i q)[last]? = some p := by
    rcases Nat.eq_or_lt_of_le before with rfl | strictly
    · rw [List.getElem?_set_self (by simpa using room), ← final, found]
    · rw [List.getElem?_set_ne (by omega), List.getElem?_set_self room]
  have whole := swapOut_perm foundFront finalFront
  rw [← List.take_set, ← List.take_set, List.take_add_one, lastCell] at whole
  exact (List.perm_append_singleton p _).symm.trans whole

end Swap

/-- A bounded table kept as an ordered array of slots: the first `num` slots are
in use, and `key` names the entry that each of them holds. -/
structure SlotTable (slots order : List π) (num : Nat) (key : π → κ) : Prop where
  order_perm : order.Perm slots
  num_le : num ≤ order.length
  keys_nodup : ((order.take num).map key).Nodup

namespace SlotTable

variable {slots order : List π} {num : Nat} {key : π → κ}

theorem key_inj (table : SlotTable slots order num key) {p q : π} (left : p ∈ order.take num)
    (right : q ∈ order.take num) (same : key p = key q) : p = q :=
  List.inj_on_of_nodup_map table.keys_nodup left right same

/-- Scanning the slots in use finds the slot of an entry, wherever it stands. -/
theorem find_eq_some_iff [DecidableEq κ] (table : SlotTable slots order num key) {k : κ} {p : π} :
    (order.take num).find? (fun p => key p = k) = some p ↔ p ∈ order.take num ∧ key p = k := by
  constructor
  · intro found
    exact ⟨List.mem_of_find?_eq_some found, by simpa using List.find?_some found⟩
  · rintro ⟨member, holds⟩
    cases found : (order.take num).find? (fun p => key p = k) with
    | none => exact absurd holds (by simpa using List.find?_eq_none.mp found p member)
    | some r =>
      have other : key r = k := by simpa using List.find?_some found
      rw [table.key_inj (List.mem_of_find?_eq_some found) member (other.trans holds.symm)]

theorem congr_key {other : π → κ} (table : SlotTable slots order num key)
    (same : ∀ p ∈ order.take num, other p = key p) : SlotTable slots order num other :=
  ⟨table.order_perm, table.num_le, (List.map_congr_left same) ▸ table.keys_nodup⟩

theorem take_succ {p : π} (next : order[num]? = some p) : order.take (num + 1) = order.take num ++ [p] := by
  rw [List.take_add_one, next]
  rfl

/-- Putting a new entry into the first free slot. -/
theorem insert [DecidableEq π] (table : SlotTable slots order num key) (unique : slots.Nodup) {p : π} {k : κ}
    (next : order[num]? = some p) (absent : ∀ q ∈ order.take num, key q ≠ k) :
    p ∉ order.take num ∧ SlotTable slots order (num + 1) (Function.update key p k) := by
  have free : p ∉ order.take num := by
    have nodup : (order.take (num + 1)).Nodup :=
      (table.order_perm.nodup_iff.mpr unique).sublist (List.take_sublist _ _)
    rw [take_succ next, List.nodup_append] at nodup
    exact fun member => nodup.2.2 p member p (by simp) rfl
  refine ⟨free, table.order_perm, (List.getElem?_eq_some_iff.mp next).1, ?_⟩
  have unchanged : (order.take num).map (Function.update key p k) = (order.take num).map key :=
    List.map_congr_left fun q member => Function.update_of_ne (fun same : q = p => free (same ▸ member)) _ _
  rw [take_succ next, List.map_append, unchanged, List.nodup_append]
  refine ⟨table.keys_nodup, by simp, ?_⟩
  simp only [List.mem_map, List.map_cons, List.map_nil, List.mem_singleton, Function.update_self]
  rintro _ ⟨q, member, rfl⟩ _ rfl
  exact absent q member

/-- Taking an entry out by swapping its slot with the last one in use. -/
theorem remove (table : SlotTable slots order (num + 1) key) (unique : slots.Nodup) {i : Nat} {p q : π}
    (found : order[i]? = some p) (final : order[num]? = some q) (before : i ≤ num) :
    SlotTable slots ((order.set num p).set i q) num key ∧
      ∀ r, r ∈ ((order.set num p).set i q).take num ↔ r ∈ order.take (num + 1) ∧ r ≠ p := by
  have moved := swapOut_take_perm found final before
  have keys := (moved.map key).nodup_iff.mpr table.keys_nodup
  have nodup : (p :: ((order.set num p).set i q).take num).Nodup :=
    moved.nodup_iff.mpr ((table.order_perm.nodup_iff.mpr unique).sublist (List.take_sublist _ _))
  refine ⟨⟨(swapOut_perm found final).trans table.order_perm, ?_, (List.nodup_cons.mp keys).2⟩, ?_⟩
  · have := table.num_le
    simp only [List.length_set]
    omega
  · intro r
    rw [← moved.mem_iff, List.mem_cons]
    constructor
    · intro member
      exact ⟨Or.inr member, fun same => (List.nodup_cons.mp nodup).1 (same ▸ member)⟩
    · rintro ⟨same | member, other⟩
      · exact absurd same other
      · exact member

end SlotTable

end Ism.Lib
