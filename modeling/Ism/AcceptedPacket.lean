import Ism.OptCodec
import Ism.PacketTrace

namespace Ism

open Lib

section Names

variable {original input rest : List UInt8} {limit : Nat} {name : Qname}

/-- A name field takes octets from the front only, and the name it stands for has at most 255 octets. -/
theorem parseQnameCompressed_extent (parsed : parseQnameCompressed 128 original limit input = some (name, rest)) :
    rest <:+ input ∧ dnsNameLength name ≤ 255 := by
  obtain ⟨t, run, rfl⟩ := traceQnameCompressed_erases 0 parsed
  obtain ⟨bytes, short⟩ := traceQnameCompressedBounded_extent run
  exact ⟨⟨t.literal, bytes.symm⟩, short⟩

end Names

/-- A character-string: its length in one octet, and its octets. -/
def characterString (s : List UInt8) : List UInt8 := UInt8.ofNat s.length :: s

/-- A sequence of complete character-strings. -/
def CharacterStrings (bytes : List UInt8) : Prop :=
  ∃ strings : List (List UInt8), (∀ s ∈ strings, s.length ≤ 255) ∧ bytes = strings.flatMap characterString

theorem validTxtStrings_sound {fuel : Nat} {input : List UInt8} (valid : validTxtStrings fuel input = true) :
    CharacterStrings input := by
  induction fuel generalizing input with
  | zero =>
    cases input with
    | nil => exact ⟨[], by simp, rfl⟩
    | cons b rest => cases valid
  | succ fuel ih =>
    cases input with
    | nil => exact ⟨[], by simp, rfl⟩
    | cons b rest =>
      rw [validTxtStrings] at valid
      split at valid
      · cases valid
      rename_i room
      have length : (rest.take b.toNat).length = b.toNat := List.length_take_of_le (Nat.not_lt.mp room)
      obtain ⟨strings, short, later⟩ := ih valid
      refine ⟨rest.take b.toNat :: strings, List.forall_mem_cons.mpr ⟨?_, short⟩, ?_⟩
      · have := b.toNat_lt
        omega
      · rw [List.flatMap_cons, ← later, characterString, length, UInt8.ofNat_toNat, List.cons_append,
          List.take_append_drop]

theorem validTxtRdataPayload_sound {rdlen : UInt16} {rdata : List UInt8} (length : rdlen.toNat = rdata.length)
    (valid : validTxtRdataPayload rdlen rdata = true) : rdata ≠ [] ∧ CharacterStrings rdata := by
  rw [validTxtRdataPayload, length] at valid
  split at valid
  · cases valid
  rename_i nonempty
  rw [List.take_length] at valid
  refine ⟨?_, validTxtStrings_sound valid⟩
  rintro rfl
  exact nonempty (Or.inl rfl)

/-- What the parser has made sure of when it returns a record. -/
structure RecordShape (rr : ResourceRecord) : Prop where
  owner : dnsNameLength rr.name ≤ 255
  length : rr.rdlen.toNat = rr.rdata.length
  canonical : u16ToQtype (qtypeToU16 rr.rtype) = rr.rtype
  address : rr.rtype = .A → rr.rdata.length = 4
  wideAddress : rr.rtype = .AAAA → rr.rdata.length = 16
  text : rr.rtype = .TXT → rr.rdata ≠ [] ∧ CharacterStrings rr.rdata
  options : rr.rtype = .OPT → ∃ opts, parseEdnsOptionsBytes rr.rdata.length rr.rdata = some opts

section Records

variable {original input tail : List UInt8} {offset : Nat} {additionalSection : Bool} {rr : ResourceRecord}

theorem parseResourceRecordBytesAt_shape
    (parsed : parseResourceRecordBytesAt original offset additionalSection input = some (rr, tail)) :
    RecordShape rr ∧ validRrPositionAndShape additionalSection rr.name rr.rtype rr.ttl = true ∧
      rr.rdata ++ tail <:+ input := by
  obtain ⟨owned, length, canonical, position, lengthFits, shaped⟩ := parseRecordWith_eq_some_iff.mp parsed
  obtain ⟨suffix, short⟩ := parseQnameCompressed_extent owned
  refine ⟨⟨short, length, canonical, ?_, ?_, ?_, ?_⟩, position, (List.suffix_append _ _).trans suffix⟩
  · intro rtype
    rw [rtype, validRdataLength, decide_eq_true_eq] at lengthFits
    rw [← length, lengthFits]
    rfl
  · intro rtype
    rw [rtype, validRdataLength, decide_eq_true_eq] at lengthFits
    rw [← length, lengthFits]
    rfl
  · intro rtype
    rw [rtype] at shaped
    have plain : validRdataShape .TXT rr.rdlen rr.rdata = true := (validRdataShape_append length).symm.trans shaped
    exact validTxtRdataPayload_sound length plain
  · intro rtype
    rw [rtype] at shaped
    have plain : validRdataShape .OPT rr.rdlen rr.rdata = true := (validRdataShape_append length).symm.trans shaped
    exact Option.isSome_iff_exists.mp ((validOptOptionsPayload_iff length).mp plain)

end Records

/-- Records with the offsets at which their RDATA stands in `b`, in order and apart from
each other, between two limits. -/
structure RdataLocated (b : List UInt8) (lo hi : Nat) (located : List (Nat × ResourceRecord)) : Prop where
  inside : ∀ s ∈ located, lo ≤ s.1 ∧ s.1 + s.2.rdata.length ≤ hi
  found : ∀ s ∈ located, (b.drop s.1).take s.2.rdata.length = s.2.rdata
  apart : located.Pairwise fun s u => s.1 + s.2.rdata.length ≤ u.1

namespace RdataLocated

variable {b : List UInt8} {lo mid hi : Nat} {front back : List (Nat × ResourceRecord)}

theorem nil (b : List UInt8) (lo hi : Nat) : RdataLocated b lo hi [] := ⟨by simp, by simp, .nil⟩

theorem append (first : RdataLocated b lo mid front) (second : RdataLocated b mid hi back) (below : lo ≤ mid)
    (above : mid ≤ hi) : RdataLocated b lo hi (front ++ back) where
  inside := by
    refine List.forall_mem_append.mpr ⟨fun s member => ?_, fun s member => ?_⟩
    · have := first.inside s member
      omega
    · have := second.inside s member
      omega
  found := List.forall_mem_append.mpr ⟨first.found, second.found⟩
  apart := by
    refine List.pairwise_append.mpr ⟨first.apart, second.apart, fun s member u member' => ?_⟩
    have := first.inside s member
    have := second.inside u member'
    omega

theorem single {rr : ResourceRecord} {tail : List UInt8} (here : rr.rdata ++ tail <:+ b)
    (late : lo ≤ b.length - (rr.rdata ++ tail).length) :
    RdataLocated b lo (b.length - tail.length) [(b.length - (rr.rdata ++ tail).length, rr)] where
  inside := by
    have short := here.length_le
    rw [List.length_append] at short late
    simp only [List.mem_singleton, forall_eq, List.length_append]
    omega
  found := by
    obtain ⟨front, whole⟩ := here
    have start : b.length - (rr.rdata ++ tail).length = front.length := by
      rw [← whole, List.length_append, Nat.add_sub_cancel]
    simp only [List.mem_singleton, forall_eq, start]
    rw [← whole, List.drop_left, List.take_left]
  apart := List.pairwise_singleton _ _

end RdataLocated

/-- The RDATA of a section stands in the message where the section was read. -/
theorem parseResourceRecordsBytesAt_located {b original input tail : List UInt8} {offset fuel count : Nat}
    {additionalSection : Bool} {records : List ResourceRecord}
    (parsed : parseResourceRecordsBytesAt original offset additionalSection fuel count input = some (records, tail))
    (here : input <:+ b) :
    tail <:+ b ∧ tail.length ≤ input.length ∧ ∃ located : List (Nat × ResourceRecord), located.map Prod.snd = records ∧
      RdataLocated b (b.length - input.length) (b.length - tail.length) located := by
  revert here
  refine readCountedAt_induct (motive := fun _ _ input records tail => input <:+ b → tail <:+ b ∧
    tail.length ≤ input.length ∧ ∃ located : List (Nat × ResourceRecord), located.map Prod.snd = records ∧
      RdataLocated b (b.length - input.length) (b.length - tail.length) located) ?_ ?_ parsed
  · intro _ input here
    exact ⟨here, Nat.le_refl _, [], rfl, .nil b _ _⟩
  · intro _ _ input rr rest records tail read later here
    obtain ⟨-, -, front⟩ := parseResourceRecordBytesAt_shape read
    have whole := front.trans here
    obtain ⟨after, short, located, same, placed⟩ := later ((List.suffix_append _ _).trans whole)
    have size := front.length_le
    have behind := here.length_le
    rw [List.length_append] at size
    refine ⟨after, by omega, (b.length - (rr.rdata ++ rest).length, rr) :: located, by rw [List.map_cons, same], ?_⟩
    refine (RdataLocated.single whole ?_).append placed ?_ ?_
    · rw [List.length_append]
      omega
    · omega
    · omega

/-- Everything an accepted packet is known to satisfy, compressed or not. -/
theorem accepted_packet_well_formed {b : List UInt8} {p : DnsPacket} (parsed : parseDnsPacketBytes b = some p) :
    (p.header.qdcount.toNat = p.questions.length ∧ p.header.ancount.toNat = p.answers.length ∧
      p.header.nscount.toNat = p.authorities.length ∧ p.header.arcount.toNat = p.additionals.length) ∧
    (∀ q ∈ p.questions, dnsNameLength q.qname ≤ 255 ∧ u16ToQtype (qtypeToU16 q.qtype) = q.qtype) ∧
    (∀ rr ∈ p.answers ++ p.authorities ++ p.additionals, RecordShape rr) ∧
    (∀ rr ∈ p.answers ++ p.authorities, rr.rtype ≠ .OPT) ∧
    (∀ rr ∈ p.answers ++ p.authorities ++ p.additionals, rr.rtype = .OPT →
      rr.name = [] ∧ ednsVersionFromTtl rr.ttl = 0) ∧
    ∃ located : List (Nat × ResourceRecord), located.map Prod.snd = p.answers ++ p.authorities ++ p.additionals ∧
      (∀ s ∈ located, s.1 + s.2.rdata.length ≤ b.length ∧ (b.drop s.1).take s.2.rdata.length = s.2.rdata) ∧
      located.Pairwise fun s u => s.1 + s.2.rdata.length ≤ u.1 := by
  have checks := parseDnsPacketBytes_checks parsed
  simp only [validRrPositionAndShape_false_iff, validRrPositionAndShape_true_iff] at checks
  obtain ⟨-, answerPlaced, authorityPlaced, additionalPlaced⟩ := checks
  obtain ⟨rest, afterQuestions, afterAnswers, afterAuthorities, header, asked, answered, authorized, added⟩ :=
    parsePacketWith_eq_some_iff.mp parsed
  have shapes {offset count : Nat} {additionalSection : Bool} {input tail : List UInt8} {records : List ResourceRecord}
      (read : parseResourceRecordsBytesAt b offset additionalSection count count input = some (records, tail)) :
      ∀ rr ∈ records, RecordShape rr :=
    readCountedAt_forall (fun _ _ _ _ one => (parseResourceRecordBytesAt_shape one).1) read
  refine ⟨⟨?_, ?_, ?_, ?_⟩, ?_, ?_, ?_, ?_, ?_⟩
  · exact (readCountedAt_length asked).symm
  · exact (readCountedAt_length answered).symm
  · exact (readCountedAt_length authorized).symm
  · exact (readCountedAt_length added).symm
  · exact (parseDnsPacketBytes_questions parsed).2
  · exact List.forall_mem_append.mpr ⟨List.forall_mem_append.mpr ⟨shapes answered, shapes authorized⟩, shapes added⟩
  · exact List.forall_mem_append.mpr ⟨answerPlaced, authorityPlaced⟩
  · refine List.forall_mem_append.mpr ⟨List.forall_mem_append.mpr ⟨?_, ?_⟩, additionalPlaced⟩
    · exact fun rr member opt => (answerPlaced rr member opt).elim
    · exact fun rr member opt => (authorityPlaced rr member opt).elim
  · obtain ⟨-, -, questionBytes, -, whole⟩ := parseQuestionBytes_inverts.counted.mp asked
    have here : afterQuestions <:+ b := by
      rw [parseHeaderBytes_eq_some_iff.mp header, whole]
      exact (List.suffix_append _ _).trans (List.suffix_append _ _)
    obtain ⟨here', shorter, answers, answersEq, answersAt⟩ := parseResourceRecordsBytesAt_located answered here
    obtain ⟨here'', shorter', authorities, authoritiesEq, authoritiesAt⟩ :=
      parseResourceRecordsBytesAt_located authorized here'
    obtain ⟨-, -, additionals, additionalsEq, additionalsAt⟩ := parseResourceRecordsBytesAt_located added here''
    have first := answersAt.append authoritiesAt (by omega) (by omega)
    have all := first.append additionalsAt (by omega) (by rw [List.length_nil]; omega)
    refine ⟨answers ++ authorities ++ additionals, ?_, ?_, all.apart⟩
    · simp only [List.map_append, answersEq, authoritiesEq, additionalsEq]
    · intro s member
      have inside := all.inside s member
      exact ⟨by omega, all.found s member⟩

/-- A TXT answer under a compressed owner, and an OPT record without options. -/
theorem accepted_packet_well_formed_text :
    let message := [0, 0, 129, 128, 0, 1, 0, 1, 0, 0, 0, 1, 1, 97, 0, 0, 16, 0, 1,
      192, 12, 0, 16, 0, 1, 0, 0, 0, 60, 0, 3, 2, 104, 105, 0, 0, 41, 4, 208, 0, 0, 0, 0, 0, 0]
    ∃ p, parseDnsPacketBytes message = some p ∧ p.answers.map (·.rdata) = [[2, 104, 105]] ∧
      ∀ rr ∈ p.answers ++ p.authorities ++ p.additionals, RecordShape rr := by
  intro message
  have accepted : (parseDnsPacketBytes message).map (fun p => p.answers.map (·.rdata)) = some [[2, 104, 105]] := by
    decide +kernel
  obtain ⟨p, parsed, answers⟩ := Option.map_eq_some_iff.mp accepted
  exact ⟨p, parsed, answers, (accepted_packet_well_formed parsed).2.2.1⟩

end Ism
