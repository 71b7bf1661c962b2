import Ism.Framing
import Ism.StreamTrace

namespace Ism

open Lib

/-- A framed response, cut anywhere, is read back whole. -/
theorem deliver_framed {β : Type} {ctx : StreamContext β} (fresh : ctx.scPhase = .readingLength)
    {before r : List UInt8} (room : 65535 ≤ before.length) {fragments : List (List UInt8)}
    (cut : fragments.flatten = be16 r.length ++ r) (n : MessageLength) (length : (n : Nat) = r.length)
    (long : 12 ≤ r.length) (first : r[0]? = some 0) (second : r[1]? = some 0) :
    (handleStreamFin (deliver ctx before fragments).1 (deliver ctx before fragments).2).1 = .processing n ∧
      r <+: (deliver ctx before fragments).2 := by
  have holds : Accumulates before fragments.flatten (deliver ctx before fragments).1.scPhase
      (deliver ctx before fragments).2 := (Accumulates.fresh fresh before).deliver room fragments
  rw [cut, ← length] at holds
  have waiting : (deliver ctx before fragments).1.scPhase = .awaitingFin n := by
    rw [holds.phase_eq]
    exact tracePhase_awaitingFin_iff.mpr ⟨r, rfl, length.symm, by omega⟩
  refine ⟨(holds.fin_iff n).mpr ⟨r, rfl, length.symm, by omega, first, second⟩, ?_⟩
  have front := (holds.body_eq n (Or.inr waiting)).1
  rw [List.drop_left' (be16_length n), List.length_append, be16_length, Nat.add_sub_cancel_left] at front
  exact front ▸ List.take_prefix _ _

/-- Framing a response and receiving it, in whatever fragments, gives the response back;
only a response that is too long or has no room is not framed. -/
theorem doq_framing_round_trip {β : Type} (ctx : StreamContext β) (r rest streamBuffer : List UInt8)
    (streamCapacity : Nat) (room : streamCapacity ≤ streamBuffer.length) :
    let framed := prepareDoqResponseSendForStream (r ++ rest) r.length streamBuffer streamCapacity
    (framed.1 = 0 ↔ 65535 < r.length ∨ streamCapacity < r.length + 2) ∧
    (framed.1 = 0 → framed.2 = streamBuffer) ∧
    (12 ≤ r.length → r.length ≤ 65535 → r[0]? = some 0 → r[1]? = some 0 → r.length + 2 ≤ streamCapacity →
      framed.1 = r.length + 2 ∧ framed.2.length = streamBuffer.length ∧
      framed.2.drop (r.length + 2) = streamBuffer.drop (r.length + 2) ∧
      ∀ (before : List UInt8) (fragments : List (List UInt8)),
        ctx.scPhase = .readingLength → 65535 ≤ before.length → fragments.flatten = framed.2.take framed.1 →
        ∃ n : MessageLength, (n : Nat) = r.length ∧
          (handleStreamFin (deliver ctx before fragments).1 (deliver ctx before fragments).2).2.scPhase =
            .processing n ∧
          r <+: (deliver ctx before fragments).2) := by
  intro framed
  have inside : r.length ≤ (r ++ rest).length := by
    rw [List.length_append]
    omega
  have result : framed = _ := prepareDoqResponseSendForStream_eq inside room
  rw [List.take_left] at result
  rw [result]
  refine ⟨?_, ?_, ?_⟩
  · split
    · exact ⟨fun zero => by simp at zero, fun refused => by omega⟩
    · exact ⟨fun _ => by omega, fun _ => rfl⟩
  · split
    · exact fun zero => by simp at zero
    · exact fun _ => rfl
  · intro long short first second fits
    rw [if_pos ⟨short, fits⟩]
    have size : (be16 r.length ++ r).length = r.length + 2 := by
      rw [List.length_append, be16_length, Nat.add_comm]
    refine ⟨rfl, ?_, List.drop_left' size, ?_⟩
    · rw [List.length_append, size, List.length_drop]
      omega
    · intro before fragments fresh large cut
      rw [List.take_left' size] at cut
      obtain ⟨processing, held⟩ := deliver_framed fresh large cut ⟨r.length, by omega⟩ rfl long first second
      exact ⟨⟨r.length, by omega⟩, rfl, processing, held⟩

/-- Twelve zero octets, framed and read back in three fragments. -/
theorem doq_framing_round_trip_empty_response :
    let r : List UInt8 := List.replicate 12 0
    let framed := prepareDoqResponseSendForStream r 12 (List.replicate 20 7) 16
    framed = (14, 0 :: 12 :: (r ++ List.replicate 6 7)) ∧
      ∃ n : MessageLength, (n : Nat) = 12 ∧
        let after := deliver (⟨4, .readingLength, ()⟩ : StreamContext Unit) (List.replicate 65535 9)
          [framed.2.take 1, [], (framed.2.take 14).drop 1]
        (handleStreamFin after.1 after.2).2.scPhase = .processing n ∧ r <+: after.2 := by
  have trip := (doq_framing_round_trip (⟨4, .readingLength, ()⟩ : StreamContext Unit) (List.replicate 12 0) []
    (List.replicate 20 7) 16 (by decide)).2.2 (by decide) (by decide) (by decide) (by decide) (by decide)
  exact ⟨by decide, trip.2.2.2 (List.replicate 65535 9) _ rfl (Nat.le_of_eq List.length_replicate.symm) (by decide)⟩

end Ism
