import Mathlib.Order.Bounds.Basic
import Ism.OptCodec

namespace Ism

open Lib

/-- How much is missing to the next multiple of a block. -/
def blockGap (block n : Nat) : Nat := if n % block = 0 then 0 else block - n % block

theorem blockGap_lt {block : Nat} (positive : 0 < block) (n : Nat) : blockGap block n < block := by
  rw [blockGap]
  split <;> omega

theorem add_blockGap_mod {block : Nat} (positive : 0 < block) (n : Nat) : (n + blockGap block n) % block = 0 := by
  have below := Nat.mod_lt n positive
  rw [Nat.add_mod, blockGap]
  split
  · rename_i zero
    rw [zero, Nat.zero_mod, Nat.zero_mod]
  · rw [Nat.mod_eq_of_lt (by omega : block - n % block < block), Nat.add_sub_of_le below.le, Nat.mod_self]

/-- The gap is the smallest number that reaches a multiple. -/
theorem blockGap_isLeast {block : Nat} (positive : 0 < block) (n : Nat) :
    IsLeast { k | (n + k) % block = 0 } (blockGap block n) := by
  refine ⟨add_blockGap_mod positive n, ?_⟩
  intro k reached
  by_contra short
  have small := blockGap_lt positive n
  have split : n + blockGap block n = n + k + (blockGap block n - k) := by omega
  have rest := add_blockGap_mod positive n
  have zero : (n + k) % block = 0 := reached
  rw [split, Nat.add_mod, zero, Nat.zero_add, Nat.mod_mod, Nat.mod_eq_of_lt (by omega)] at rest
  omega

section Conversions

variable {currentLen blockSize : UInt32}

theorem paddedBase_toNat (room : currentLen.toNat ≤ 4294967291) :
    (UInt32.ofNat (currentLen.toNat + 4)).toNat = currentLen.toNat + 4 :=
  UInt32.toNat_ofNat_of_lt' (by change _ < 4294967296; omega)

theorem calculatePaddingLen_toNat (positive : 0 < blockSize.toNat) :
    (calculatePaddingLen currentLen blockSize).toNat = blockGap blockSize.toNat currentLen.toNat := by
  rw [calculatePaddingLen, if_neg (by omega), blockGap]
  dsimp only
  split
  · rfl
  · have bound := blockSize.toNat_lt
    exact UInt32.toNat_ofNat_of_lt' (by change _ < 4294967296; omega)

end Conversions

theorem repeatByte_eq (n : Nat) (b : UInt8) : repeatByte n b = List.replicate n b := by
  induction n with
  | zero => rfl
  | succ n ih => rw [repeatByte, ih, List.replicate_succ]

/-- The padding option as an option. -/
def paddingOption (paddingLen : UInt16) : EdnsOption where
  code := paddingOptionCode
  len := paddingLen
  data := ⟨List.replicate paddingLen.toNat 0, List.length_replicate⟩

theorem serializePaddingOptionBytes_eq (paddingLen : UInt16) :
    serializePaddingOptionBytes paddingLen = serializeEdnsOptionsBytes [paddingOption paddingLen] := by
  simp only [serializePaddingOptionBytes, repeatByte_eq, serializeEdnsOptionsBytes, serializeEdnsOptionBytes,
    paddingOption, List.append_nil]

theorem serializePaddingOptionBytes_length (paddingLen : UInt16) :
    (serializePaddingOptionBytes paddingLen).length = 4 + paddingLen.toNat := by
  rw [serializePaddingOptionBytes, repeatByte_eq, List.length_append, List.length_replicate]
  rfl

/-- What the padding for a block is, in unbounded arithmetic. -/
theorem serializePaddingOptionForBlock_eq {currentLen blockSize : UInt32} (positive : 0 < blockSize.toNat) :
    serializePaddingOptionForBlock currentLen blockSize =
      if 4294967291 < currentLen.toNat ∨ 65535 < blockGap blockSize.toNat (currentLen.toNat + 4) then none
      else some (serializePaddingOptionBytes (UInt16.ofNat (blockGap blockSize.toNat (currentLen.toNat + 4)))) := by
  rw [serializePaddingOptionForBlock, if_neg (by omega), ite_or]
  by_cases room : 4294967291 < currentLen.toNat
  · rw [if_pos room, if_pos room]
  · rw [if_neg room, if_neg room]
    simp only [calculatePaddingLen_toNat positive, paddedBase_toNat (Nat.not_lt.mp room)]

/-- Padding reaches the next multiple of the block exactly, and nothing overflows on the way. -/
theorem padding_fills_block (currentLen blockSize : UInt32) (positive : 0 < blockSize.toNat) :
    ∃ k, IsLeast { k | (currentLen.toNat + 4 + k) % blockSize.toNat = 0 } k ∧
      (serializePaddingOptionForBlock currentLen blockSize = none ↔ 2 ^ 32 - 5 < currentLen.toNat ∨ 65535 < k) ∧
      (∀ bytes, serializePaddingOptionForBlock currentLen blockSize = some bytes →
        k < blockSize.toNat ∧ (currentLen.toNat + bytes.length) % blockSize.toNat = 0 ∧
        ∃ opt, parseEdnsOptionsBytes bytes.length bytes = some [opt] ∧ opt.code = 12 ∧ opt.len.toNat = k ∧
          opt.data.val = List.replicate k 0) ∧
      (currentLen.toNat ≤ 2 ^ 32 - 5 →
        (UInt32.ofNat (currentLen.toNat + 4)).toNat = currentLen.toNat + 4 ∧
        (calculatePaddingLen (UInt32.ofNat (currentLen.toNat + 4)) blockSize).toNat = k ∧
        (k ≤ 65535 → (UInt16.ofNat k).toNat = k)) := by
  refine ⟨blockGap blockSize.toNat (currentLen.toNat + 4), blockGap_isLeast positive _, ?_, ?_, ?_⟩
  · rw [serializePaddingOptionForBlock_eq positive]
    split
    · rename_i refused
      exact ⟨fun _ => refused, fun _ => rfl⟩
    · rename_i fits
      exact ⟨fun unwritten => (Option.some_ne_none _ unwritten).elim, fun refused => (fits refused).elim⟩
  · intro bytes written
    rw [serializePaddingOptionForBlock_eq positive] at written
    split at written
    · cases written
    rename_i fits
    cases written
    have narrow : (UInt16.ofNat (blockGap blockSize.toNat (currentLen.toNat + 4))).toNat =
        blockGap blockSize.toNat (currentLen.toNat + 4) := UInt16.toNat_ofNat_of_lt' (by change _ < 65536; omega)
    refine ⟨blockGap_lt positive _, ?_, paddingOption _, ?_, rfl, narrow, ?_⟩
    · rw [serializePaddingOptionBytes_length, narrow, ← Nat.add_assoc]
      exact add_blockGap_mod positive _
    · exact parseEdnsOptionsBytes_length_eq_some_iff.mpr (serializePaddingOptionBytes_eq _)
    · exact congrArg (fun n => List.replicate n 0) narrow
  · intro room
    refine ⟨paddedBase_toNat room, ?_, fun narrow => UInt16.toNat_ofNat_of_lt' (by change _ < 65536; omega)⟩
    rw [calculatePaddingLen_toNat positive, paddedBase_toNat room]

/-- Sixty octets are padded to a block of 128 with four octets of header and sixty-four zeros. -/
theorem padding_fills_block_of_128 :
    serializePaddingOptionForBlock 60 128 = some (serializePaddingOptionBytes 64) ∧
      (60 + (serializePaddingOptionBytes 64).length) % 128 = 0 := by
  have written : serializePaddingOptionForBlock 60 128 = some (serializePaddingOptionBytes 64) := by decide
  obtain ⟨k, -, -, fills, -⟩ := padding_fills_block 60 128 (by decide)
  exact ⟨written, (fills _ written).2.1⟩

end Ism
