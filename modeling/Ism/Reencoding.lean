import Ism.AcceptedPacket

namespace Ism

open Lib

section Accepted

variable {b : List UInt8} {p : DnsPacket}

theorem accepted_records (parsed : parseDnsPacketBytes b = some p) :
    ∀ rr ∈ p.answers ++ p.authorities ++ p.additionals, RecordShape rr := by
  obtain ⟨_, _, _, _, -, -, answered, authorized, added⟩ := parsePacketWith_eq_some_iff.mp parsed
  have shapes {original input tail : List UInt8} {offset fuel count : Nat} {additionalSection : Bool}
      {records : List ResourceRecord}
      (run : parseResourceRecordsBytesAt original offset additionalSection fuel count input = some (records, tail)) :
      ∀ rr ∈ records, RecordShape rr :=
    readCountedAt_forall (fun _ _ _ _ read => (parseResourceRecordBytesAt_shape read).1) run
  simp only [List.forall_mem_append]
  exact ⟨⟨shapes answered, shapes authorized⟩, shapes added⟩

theorem accepted_counts (parsed : parseDnsPacketBytes b = some p) :
    p.header.qdcount.toNat = p.questions.length ∧ p.header.ancount.toNat = p.answers.length ∧
      p.header.nscount.toNat = p.authorities.length ∧ p.header.arcount.toNat = p.additionals.length := by
  obtain ⟨_, _, _, _, -, asked, answered, authorized, added⟩ := parsePacketWith_eq_some_iff.mp parsed
  exact ⟨(readCountedAt_length asked).symm, (readCountedAt_length answered).symm,
    (readCountedAt_length authorized).symm, (readCountedAt_length added).symm⟩

/-- Owners can always be written out again; RDATA is kept as it came, so a pointer in it stays. -/
theorem accepted_encodable_iff (parsed : parseDnsPacketBytes b = some p) :
    Encodable p ↔ ∀ rr ∈ p.answers ++ p.authorities ++ p.additionals, serializableRdata rr.rtype rr.rdata = true := by
  have shapes := accepted_records parsed
  constructor
  · intro encodable rr member
    have formed := encodable.records rr member
    simp only [wellFormedRecord, Bool.and_eq_true] at formed
    exact formed.2
  · intro plain
    obtain ⟨-, answers, authorities, additionals⟩ := parseDnsPacketBytes_checks parsed
    refine ⟨accepted_counts parsed, (parseDnsPacketBytes_questions parsed).2, fun rr member => ?_, ?_, ?_⟩
    · simp only [wellFormedRecord, Bool.and_eq_true, decide_eq_true_eq]
      exact ⟨⟨(shapes rr member).owner, (shapes rr member).length⟩, plain rr member⟩
    · simp only [List.forall_mem_append]
      exact ⟨fun rr member => validRrPositionAndShape_false_iff.mp (answers rr member),
        fun rr member => validRrPositionAndShape_false_iff.mp (authorities rr member)⟩
    · exact fun rr member => validRrPositionAndShape_true_iff.mp (additionals rr member)

end Accepted

/-- Of all the messages that the parser reads as one packet, at most one holds no pointer. It exists
exactly when no pointer stands in the RDATA; it is what the serializer writes, and writing it
again gives it back. -/
theorem accepted_reencoding (b : List UInt8) (p : DnsPacket) (parsed : parseDnsPacketBytes b = some p) :
    ((serializeDnsPacketBytes p).isSome = true ↔
      ∀ rr ∈ p.answers ++ p.authorities ++ p.additionals, serializableRdata rr.rtype rr.rdata = true) ∧
    ∀ c, serializeDnsPacketBytes p = some c → parseDnsPacketBytes c = some p ∧
      (∀ other, parsePlainPacketBytes other = some p ↔ other = c) ∧
      (b = c ↔ ∃ q, parsePlainPacketBytes b = some q) := by
  refine ⟨(serializeDnsPacketBytes_isSome_iff p).trans (accepted_encodable_iff parsed), fun c written => ?_⟩
  have plain := serializeDnsPacketBytes_iff_plain.mp written
  have one : ∀ other, parsePlainPacketBytes other = some p ↔ other = c := by
    intro other
    constructor
    · intro read
      exact Option.some.inj ((serializeDnsPacketBytes_iff_plain.mpr read).symm.trans written)
    · rintro rfl
      exact plain
  refine ⟨parseDnsPacketBytes_of_plain plain, one, ?_⟩
  constructor
  · rintro rfl
    exact ⟨p, plain⟩
  · rintro ⟨q, read⟩
    obtain rfl := Option.some.inj ((parseDnsPacketBytes_of_plain read).symm.trans parsed)
    exact (one b).mp read

/-- An address whose owner points at the question, and the message with the owner written out. -/
theorem accepted_reencoding_owner_pointer :
    let b := [0, 0, 0x81, 0x80, 0, 1, 0, 1, 0, 0, 0, 0, 1, 97, 0, 0, 1, 0, 1,
      0xC0, 0x0C, 0, 1, 0, 1, 0, 0, 0, 60, 0, 4, 127, 0, 0, 1]
    let c := [0, 0, 0x81, 0x80, 0, 1, 0, 1, 0, 0, 0, 0, 1, 97, 0, 0, 1, 0, 1,
      1, 97, 0, 0, 1, 0, 1, 0, 0, 0, 60, 0, 4, 127, 0, 0, 1]
    ∃ p, parseDnsPacketBytes b = some p ∧ parseDnsPacketBytes c = some p ∧
      ∀ other, parsePlainPacketBytes other = some p ↔ other = c := by
  intro b c
  obtain ⟨p, parsed⟩ : ∃ p, parseDnsPacketBytes b = some p := Option.isSome_iff_exists.mp (by decide +kernel)
  have written : serializeDnsPacketBytes p = some c := by
    have decided : (parseDnsPacketBytes b).bind serializeDnsPacketBytes = some c := by decide +kernel
    rw [parsed] at decided
    exact decided
  obtain ⟨-, back⟩ := accepted_reencoding b p parsed
  exact ⟨p, parsed, (back c written).1, (back c written).2.1⟩

end Ism
