import Ism.Lib.Buffer

namespace Ism

open Lib

/-- The size of a response with its length prefix, or zero when it cannot be framed. -/
def framedLength (length capacity : Nat) : Nat :=
  if 65535 < length then 0
  else
    let framed := length + 2
    if capacity < framed then 0 else framed

def prefixHi (length : Nat) : UInt8 := UInt8.ofNat (length >>> 8)

def prefixLo (length : Nat) : UInt8 := UInt8.ofNat length

def copyResponseBytesWithPrefixLoop (responseBuffer : List UInt8) : Nat → Nat → List UInt8 → List UInt8
  | 0, _, streamBuffer => streamBuffer
  | left + 1, idx, streamBuffer =>
    copyResponseBytesWithPrefixLoop responseBuffer left (idx + 1)
      (streamBuffer.set (2 + idx) (responseBuffer.getD idx 0))

def copyResponseBytesWithPrefix (responseBuffer streamBuffer : List UInt8) (responseLen idx : Nat) : List UInt8 :=
  copyResponseBytesWithPrefixLoop responseBuffer (responseLen - idx) idx streamBuffer

/-- The framed length, zero when nothing is framed, with the new stream buffer. -/
def prepareDoqResponseSendForStream (responseBuffer : List UInt8) (responseLen : Nat)
    (streamBuffer : List UInt8) (streamCapacity : Nat) : Nat × List UInt8 :=
  let framedLen := framedLength responseLen streamCapacity
  if framedLen = 0 then (0, streamBuffer)
  else
    let streamBuffer := (streamBuffer.set 0 (prefixHi responseLen)).set 1 (prefixLo responseLen)
    (framedLen, copyResponseBytesWithPrefix responseBuffer streamBuffer responseLen 0)

theorem prefix_eq_be16 (length : Nat) : [prefixHi length, prefixLo length] = be16 length := by
  have low : UInt8.ofNat length = UInt8.ofNat (length % 256) := by
    rw [← UInt8.toNat_inj, UInt8.toNat_ofNat', UInt8.toNat_ofNat']
    omega
  rw [prefixHi, prefixLo, Nat.shiftRight_eq_div_pow, low]
  rfl

theorem copyResponseBytesWithPrefixLoop_eq_blit {responseBuffer : List UInt8} {left idx : Nat}
    {streamBuffer : List UInt8} (inside : idx + left ≤ responseBuffer.length)
    (room : 2 + idx + left ≤ streamBuffer.length) :
    copyResponseBytesWithPrefixLoop responseBuffer left idx streamBuffer =
      blit responseBuffer idx streamBuffer (2 + idx) left := by
  induction left generalizing idx streamBuffer with
  | zero => rw [copyResponseBytesWithPrefixLoop, blit_zero]
  | succ left ih =>
    rw [copyResponseBytesWithPrefixLoop, blit_succ (by omega) (by omega) 0, Nat.add_assoc 2 idx 1]
    exact ih (by omega) (by rw [List.length_set]; omega)

/-- A response is framed exactly when the prefix can spell its length and the stream
buffer has room; nothing of the buffer's old contents stays in the framed bytes. -/
theorem prepareDoqResponseSendForStream_eq {responseBuffer streamBuffer : List UInt8}
    {responseLen streamCapacity : Nat} (inside : responseLen ≤ responseBuffer.length)
    (room : streamCapacity ≤ streamBuffer.length) :
    prepareDoqResponseSendForStream responseBuffer responseLen streamBuffer streamCapacity =
      if responseLen ≤ 65535 ∧ responseLen + 2 ≤ streamCapacity then
        (responseLen + 2,
          be16 responseLen ++ responseBuffer.take responseLen ++ streamBuffer.drop (responseLen + 2))
      else (0, streamBuffer) := by
  by_cases framed : responseLen ≤ 65535 ∧ responseLen + 2 ≤ streamCapacity
  · have size : framedLength responseLen streamCapacity = responseLen + 2 := by
      rw [framedLength, if_neg (by omega), if_neg (by omega)]
    simp only [prepareDoqResponseSendForStream, size, copyResponseBytesWithPrefix, Nat.sub_zero]
    rw [if_pos framed, if_neg (by omega),
      copyResponseBytesWithPrefixLoop_eq_blit (by omega) (by simp only [List.length_set]; omega),
      blit, ← prefix_eq_be16]
    rcases streamBuffer with _ | ⟨first, _ | ⟨second, rest⟩⟩
    · simp only [List.length_nil] at room
      omega
    · simp only [List.length_cons, List.length_nil] at room
      omega
    · simp [Nat.add_comm 2 responseLen]
  · have size : framedLength responseLen streamCapacity = 0 := by
      unfold framedLength
      split
      · rfl
      · exact if_pos (by omega)
    simp only [prepareDoqResponseSendForStream, size, if_true, if_neg framed]

end Ism
