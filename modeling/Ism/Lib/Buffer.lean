import Mathlib.Data.List.Basic
import Mathlib.Tactic.Common

namespace Ism.Lib

/-- The two-octet big-endian spelling of a number below 65536. -/
def be16 (n : Nat) : List UInt8 := [UInt8.ofNat (n / 256), UInt8.ofNat (n % 256)]

/-- The number that two octets spell, most significant octet first. -/
def ofBe16 (hi lo : UInt8) : Nat := hi.toNat * 256 + lo.toNat

theorem ofBe16_lt (hi lo : UInt8) : ofBe16 hi lo < 65536 := by
  have := hi.toNat_lt
  have := lo.toNat_lt
  simp only [ofBe16]
  omega

theorem ofNat_toNat_of_eq {n : Nat} {b : UInt8} (same : n = b.toNat) : UInt8.ofNat n = b := by
  rw [same, UInt8.ofNat_toNat]

theorem toNat_ofNat_of_lt {n : Nat} (small : n < 256) : (UInt8.ofNat n).toNat = n := by
  rw [UInt8.toNat_ofNat']
  omega

theorem be16_ofBe16 (hi lo : UInt8) : be16 (ofBe16 hi lo) = [hi, lo] := by
  have := lo.toNat_lt
  have high : (hi.toNat * 256 + lo.toNat) / 256 = hi.toNat := by omega
  have low : (hi.toNat * 256 + lo.toNat) % 256 = lo.toNat := by omega
  simp only [be16, ofBe16, high, low, UInt8.ofNat_toNat]

theorem ofBe16_be16 {n : Nat} (small : n < 65536) :
    ofBe16 (UInt8.ofNat (n / 256)) (UInt8.ofNat (n % 256)) = n := by
  rw [ofBe16, toNat_ofNat_of_lt (by omega), toNat_ofNat_of_lt (by omega)]
  omega

@[simp] theorem be16_length (n : Nat) : (be16 n).length = 2 := rfl

variable {α : Type*}

/-- Overwrites the `count` cells of `target` from `destination` on with the cells
of `source` from `offset` on. Cells outside that range keep their value. -/
def blit (source : List α) (offset : Nat) (target : List α) (destination count : Nat) : List α :=
  target.take destination ++ (source.drop offset).take count ++ target.drop (destination + count)

section Blit

variable {source target : List α} {offset destination count : Nat}

theorem blit_length (fits : offset + count ≤ source.length)
    (room : destination + count ≤ target.length) :
    (blit source offset target destination count).length = target.length := by
  simp only [blit, List.length_append, List.length_take, List.length_drop]
  omega

theorem blit_take_end (fits : offset + count ≤ source.length)
    (room : destination + count ≤ target.length) :
    (blit source offset target destination count).take (destination + count) =
      target.take destination ++ (source.drop offset).take count := by
  have front : (target.take destination ++ (source.drop offset).take count).length =
      destination + count := by
    simp only [List.length_append, List.length_take, List.length_drop]
    omega
  rw [blit, ← front, List.take_left]

theorem blit_take_front (fits : offset + count ≤ source.length) (room : count ≤ target.length) :
    (blit source offset target 0 count).take count = (source.drop offset).take count := by
  have whole := blit_take_end fits (by omega : 0 + count ≤ target.length)
  simpa only [Nat.zero_add, List.take_zero, List.nil_append] using whole

theorem blit_drop {i : Nat} (fits : offset + count ≤ source.length)
    (room : destination + count ≤ target.length) (after : destination + count ≤ i) :
    (blit source offset target destination count).drop i = target.drop i := by
  have front : (target.take destination ++ (source.drop offset).take count).length =
      destination + count := by
    simp only [List.length_append, List.length_take, List.length_drop]
    omega
  obtain ⟨k, rfl⟩ := Nat.exists_eq_add_of_le after
  rw [blit, ← front, List.drop_length_add_append, List.drop_drop, front]

theorem blit_zero (source target : List α) (offset destination : Nat) :
    blit source offset target destination 0 = target := by
  simp [blit]

/-- Copying one cell and then the others copies them all. -/
theorem blit_succ (fits : offset < source.length) (room : destination < target.length) (fill : α) :
    blit source offset target destination (count + 1) =
      blit source (offset + 1) (target.set destination (source.getD offset fill)) (destination + 1) count := by
  have cell : source.getD offset fill = source[offset] := by
    rw [List.getD_eq_getElem?_getD, List.getElem?_eq_getElem fits, Option.getD_some]
  have front : (target.set destination source[offset]).take (destination + 1) =
      target.take destination ++ [source[offset]] := by
    rw [List.take_succ_eq_append_getElem (by rw [List.length_set]; exact room), List.getElem_set_self,
      List.take_set_of_le (Nat.le_refl destination)]
  have back : (target.set destination source[offset]).drop (destination + 1 + count) =
      target.drop (destination + (count + 1)) := by
    rw [List.drop_set_of_lt (by omega), Nat.add_assoc, Nat.add_comm 1 count]
  rw [blit, blit, cell, front, back, List.drop_eq_getElem_cons fits, List.take_succ_cons]
  simp only [List.append_assoc, List.cons_append, List.nil_append]

end Blit

end Ism.Lib
