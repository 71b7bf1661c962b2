import Mathlib.Data.List.Basic

namespace Ism.Lib

/-- The cell of an index that runs past the end of a ring once at most. -/
def wrap (capacity index : Nat) : Nat := if capacity ≤ index then index - capacity else index

/-- The items lie one after another from `head` on, in the first `capacity` cells of the storage. -/
structure Ring {α : Type} (storage : List α) (capacity head : Nat) (items : List α) : Prop where
  head_lt : head < capacity
  length_le : items.length ≤ capacity
  room : capacity ≤ storage.length
  stored : ∀ i < items.length, storage[wrap capacity (head + i)]? = items[i]?

namespace Ring

variable {α : Type} {storage items : List α} {capacity head : Nat} {x : α}

theorem empty (pos : 0 < capacity) (room : capacity ≤ storage.length) : Ring storage capacity 0 [] :=
  ⟨pos, Nat.zero_le _, room, by simp⟩

/-- A cell behind the last item takes one more. -/
theorem push (ring : Ring storage capacity head items) (free : items.length < capacity) :
    Ring (storage.set (wrap capacity (head + items.length)) x) capacity head (items ++ [x]) := by
  have bounded := ring.head_lt
  have room := ring.room
  refine ⟨bounded, by simp; omega, by simpa using room, fun i before => ?_⟩
  by_cases last : i = items.length
  · have inside : wrap capacity (head + i) < storage.length := by
      unfold wrap
      split <;> omega
    rw [last] at inside ⊢
    rw [List.getElem?_set_self inside, List.getElem?_concat_length]
  · have earlier : i < items.length := by
      rw [List.length_append, List.length_singleton] at before
      omega
    have apart : wrap capacity (head + items.length) ≠ wrap capacity (head + i) := by
      unfold wrap
      split <;> split <;> omega
    rw [List.getElem?_set_ne apart, ring.stored i earlier, List.getElem?_append_left earlier]

/-- The first item lies at the head, and the others follow it. -/
theorem pop (ring : Ring storage capacity head (x :: items)) :
    storage[head]? = some x ∧ Ring storage capacity (wrap capacity (head + 1)) items := by
  have bounded := ring.head_lt
  have fits : items.length + 1 ≤ capacity := ring.length_le
  refine ⟨?_, ?_, Nat.le_of_succ_le fits, ring.room, fun i before => ?_⟩
  · have first := ring.stored 0 (Nat.zero_lt_succ _)
    rwa [Nat.add_zero, wrap, if_neg (Nat.not_le.mpr bounded)] at first
  · unfold wrap
    split <;> omega
  · have next : wrap capacity (wrap capacity (head + 1) + i) = wrap capacity (head + (i + 1)) := by
      unfold wrap
      split <;> split <;> split <;> omega
    rw [next, ring.stored (i + 1) (Nat.succ_lt_succ before), List.getElem?_cons_succ]

end Ring

end Ism.Lib
