import Ism.Lib.PrefixCode
import Ism.NameOffsets

namespace Ism

open Lib InformationTheory

section Scan

variable {input rest more : List UInt8} {pos next : Nat} {offsets : List Nat}

theorem scanWireName_append {fuel : Nat} (scanned : scanWireName fuel pos input = some (offsets, next, rest))
    (more : List UInt8) : scanWireName fuel pos (input ++ more) = some (offsets, next, rest ++ more) := by
  induction fuel generalizing pos input offsets next rest with
  | zero => cases scanned
  | succ fuel ih =>
    obtain _ | ⟨b, tail⟩ := input
    · cases scanned
    simp only [List.cons_append, scanWireName] at scanned ⊢
    by_cases root : b = 0
    · rw [if_pos root] at scanned ⊢
      cases scanned
      rfl
    rw [if_neg root] at scanned ⊢
    by_cases pointer : isPointer b = true
    · rw [if_pos pointer] at scanned ⊢
      obtain _ | ⟨lo, tail⟩ := tail
      · cases scanned
      · cases scanned
        rfl
    rw [if_neg pointer] at scanned ⊢
    split at scanned
    · cases scanned
    rename_i room
    rw [if_neg (by rw [List.length_append]; omega)]
    split at scanned
    · rename_i later next' rest' found
      cases scanned
      rw [List.drop_append_of_le_length (by omega), ih found]
    · cases scanned

/-- A section of records that ends the message leaves no room for more. -/
theorem scanWireRecords_append {count : Nat} (scanned : scanWireRecords count pos input = some offsets)
    (proper : more ≠ []) : scanWireRecords count pos (input ++ more) = none := by
  induction count generalizing pos input offsets with
  | zero =>
    rw [scanWireRecords, if_neg]
    rw [List.length_append]
    have positive := List.length_pos_of_ne_nil proper
    omega
  | succ count ih =>
    rw [scanWireRecords] at scanned ⊢
    split at scanned
    · cases scanned
    rename_i owner headerPos rest named
    rw [scanWireName_append named]
    split at scanned
    swap
    · cases scanned
    rename_i th tl _ _ _ _ _ _ lh ll body
    simp only [List.cons_append] at scanned ⊢
    split at scanned
    · cases scanned
    rename_i room
    rw [if_neg (by rw [List.length_append]; omega)]
    split at scanned
    · cases scanned
    rename_i later found
    rw [List.drop_append_of_le_length (by omega), ih found]

theorem scanWireQuestions_append {count records : Nat}
    (scanned : scanWireQuestions count records pos input = some offsets) (proper : more ≠ []) :
    scanWireQuestions count records pos (input ++ more) = none := by
  induction count generalizing pos input offsets with
  | zero => exact scanWireRecords_append scanned proper
  | succ count ih =>
    rw [scanWireQuestions] at scanned ⊢
    split at scanned
    · cases scanned
    rename_i later next rest named
    rw [scanWireName_append named]
    split at scanned
    swap
    · cases scanned
    simp only [List.cons_append]
    split at scanned
    swap
    · cases scanned
    rename_i found
    rw [ih found]

/-- The counts in the header say where the scan of a message ends. -/
theorem scanMessage_append (scanned : scanMessage input = some offsets) (proper : more ≠ []) :
    scanMessage (input ++ more) = none := by
  unfold scanMessage at scanned
  split at scanned
  swap
  · cases scanned
  simp only [List.cons_append, scanMessage]
  exact scanWireQuestions_append scanned proper

end Scan

theorem scanMessage_of_accepted {b : List UInt8} {p : DnsPacket} (parsed : parseDnsPacketBytes b = some p) :
    ∃ offsets, scanMessage b = some offsets := by
  obtain ⟨layout, traced⟩ := tracePacketBytes_erases parsed
  exact ⟨_, (tracePacketBytes_walk traced).2.2.1⟩

/-- Nothing can be appended to an accepted message. -/
theorem parseDnsPacketBytes_append {b more : List UInt8} {p : DnsPacket} (parsed : parseDnsPacketBytes b = some p)
    (proper : more ≠ []) : parseDnsPacketBytes (b ++ more) = none := by
  obtain ⟨offsets, scanned⟩ := scanMessage_of_accepted parsed
  rw [Option.eq_none_iff_forall_ne_some]
  intro p' parsed'
  obtain ⟨offsets', scanned'⟩ := scanMessage_of_accepted parsed'
  rw [scanMessage_append scanned proper] at scanned'
  cases scanned'

/-- Accepted messages can be told apart without any framing: none of them continues another one,
whatever its pointers refer to, and a sequence of them has one reading. -/
theorem accepted_messages_uniquely_decodable :
    (∀ b more p, parseDnsPacketBytes b = some p → more ≠ [] → parseDnsPacketBytes (b ++ more) = none) ∧
    UniquelyDecodable {b | (parseDnsPacketBytes b).isSome = true} := by
  have code : PrefixCode {b | (parseDnsPacketBytes b).isSome = true} := by
    intro b more first second
    obtain ⟨p, parsed⟩ := Option.isSome_iff_exists.mp first
    obtain ⟨p', parsed'⟩ := Option.isSome_iff_exists.mp second
    by_contra proper
    rw [parseDnsPacketBytes_append parsed proper] at parsed'
    cases parsed'
  have proper : [] ∉ {b | (parseDnsPacketBytes b).isSome = true} := Bool.false_ne_true
  exact ⟨fun b more p parsed nonempty => parseDnsPacketBytes_append parsed nonempty, code.uniquelyDecodable proper⟩

end Ism
