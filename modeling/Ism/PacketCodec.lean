import Ism.RecordCodec

namespace Ism

open Lib

/-- How the RDATA of a record type holds names: one name that fills it after `skip`
fixed octets, two names before the timers, or none. -/
inductive RdataForm
  | name (least skip : Nat)
  | twoNames
  | other

def rdataForm : Qtype → RdataForm
  | .NS | .CNAME | .PTR => .name 0 0
  | .MX => .name 3 2
  | .SRV => .name 7 6
  | .SOA => .twoNames
  | _ => .other

section Shapes

variable {rtype : Qtype} {rdlen : UInt16} {rdata tail : List UInt8}

theorem validRdataShape_eq (input : List UInt8) : validRdataShape rtype rdlen input =
    match rdataForm rtype with
    | .name least skip => validNameAfter plainName least skip rdlen input
    | .twoNames => validTwoNames plainName rdlen input
    | .other => validRdataShape rtype rdlen input := by
  cases rtype <;> rfl

theorem validRdataShapeAt_eq (original : List UInt8) (offset : Nat) (input : List UInt8) :
    validRdataShapeAt original offset rtype rdlen input =
      match rdataForm rtype with
      | .name least skip => validNameAfter (compressedName original offset) least skip rdlen input
      | .twoNames => validTwoNames (compressedName original offset) rdlen input
      | .other => validRdataShape rtype rdlen input := by
  cases rtype <;> rfl

theorem validNameAfter_append (decode : Nat → List UInt8 → Option (Qname × List UInt8)) (least skip : Nat)
    (length : rdlen.toNat = rdata.length) :
    validNameAfter decode least skip rdlen (rdata ++ tail) = validNameAfter decode least skip rdlen rdata := by
  simp only [validNameAfter, length, List.take_left, List.take_length, List.length_append, Nat.lt_irrefl, or_false,
    Nat.not_lt.mpr (Nat.le_add_right _ _)]

theorem validTwoNames_append (decode : Nat → List UInt8 → Option (Qname × List UInt8))
    (length : rdlen.toNat = rdata.length) :
    validTwoNames decode rdlen (rdata ++ tail) = validTwoNames decode rdlen rdata := by
  simp only [validTwoNames, length, List.take_left, List.take_length, List.length_append, Nat.lt_irrefl, or_false,
    Nat.not_lt.mpr (Nat.le_add_right _ _)]

/-- A shape check looks no further than the RDATA. -/
theorem validRdataShape_append (length : rdlen.toNat = rdata.length) :
    validRdataShape rtype rdlen (rdata ++ tail) = validRdataShape rtype rdlen rdata := by
  unfold validRdataShape
  split
  case h_1 =>
    simp only [validOptOptionsPayload, length, List.take_left, List.take_length, List.length_append, Nat.lt_irrefl,
      Nat.not_lt.mpr (Nat.le_add_right _ _)]
  case h_7 =>
    simp only [validTxtRdataPayload, length, List.take_left, List.take_length, List.length_append, Nat.lt_irrefl,
      or_false, Nat.not_lt.mpr (Nat.le_add_right _ _)]
  case h_6 => exact validTwoNames_append plainName length
  case h_9 => rfl
  all_goals exact validNameAfter_append plainName _ _ length

theorem validNameAfter_iff {decode : Nat → List UInt8 → Option (Qname × List UInt8)} {least skip : Nat}
    {input : List UInt8} : validNameAfter decode least skip rdlen input = true ↔
      least ≤ rdlen.toNat ∧ rdlen.toNat ≤ input.length ∧ skip ≤ rdlen.toNat ∧
        ∃ name, decode skip ((input.take rdlen.toNat).drop skip) = some (name, []) := by
  unfold validNameAfter
  by_cases room : rdlen.toNat < least ∨ input.length < rdlen.toNat
  · rw [if_pos room]
    constructor
    · intro impossible
      cases impossible
    · rintro ⟨enough, fits, -, -⟩
      omega
  · rw [if_neg room]
    have fits : rdlen.toNat ≤ input.length := by omega
    by_cases inside : skip ≤ rdlen.toNat
    · have found : suffixAt skip (input.take rdlen.toNat) = some ((input.take rdlen.toNat).drop skip) := by
        refine suffixAt_eq_some_iff.mpr ⟨?_, rfl⟩
        rw [List.length_take_of_le fits]
        exact inside
      rw [found]
      cases decoded : decode skip ((input.take rdlen.toNat).drop skip) with
      | none => simp [decoded]
      | some result =>
        obtain ⟨name, tail⟩ := result
        simp only [decoded, decide_eq_true_eq, List.length_eq_zero_iff, Option.some.injEq, Prod.mk.injEq,
          exists_eq_left']
        constructor
        · rintro rfl
          exact ⟨by omega, fits, inside, rfl⟩
        · rintro ⟨-, -, -, ended⟩
          exact ended
    · have missing : suffixAt skip (input.take rdlen.toNat) = none := by
        rw [Option.eq_none_iff_forall_ne_some]
        intro suffix found
        have bound := (suffixAt_eq_some_iff.mp found).1
        rw [List.length_take_of_le fits] at bound
        omega
      simp [missing, inside]

theorem validTwoNames_iff {decode : Nat → List UInt8 → Option (Qname × List UInt8)} {input : List UInt8} :
    validTwoNames decode rdlen input = true ↔
      22 ≤ rdlen.toNat ∧ rdlen.toNat ≤ input.length ∧ ∃ mname afterMname rname timers,
        decode 0 (input.take rdlen.toNat) = some (mname, afterMname) ∧
        decode (rdlen.toNat - afterMname.length) afterMname = some (rname, timers) ∧ timers.length = 20 := by
  unfold validTwoNames
  by_cases room : rdlen.toNat < 22 ∨ input.length < rdlen.toNat
  · rw [if_pos room]
    constructor
    · intro impossible
      cases impossible
    · rintro ⟨enough, fits, -⟩
      omega
  · have fits : rdlen.toNat ≤ input.length := by omega
    have enough : 22 ≤ rdlen.toNat := by omega
    simp only [if_neg room, List.length_take_of_le fits]
    constructor
    · intro valid
      split at valid
      · rename_i mname afterMname first
        split at valid
        · rename_i rname timers second
          exact ⟨enough, fits, mname, afterMname, rname, timers, first, second, by simpa using valid⟩
        · cases valid
      · cases valid
    · rintro ⟨-, -, mname, afterMname, rname, timers, first, second, ended⟩
      simp only [first, second, ended, decide_true]

theorem validNameAfter_mono {decode other : Nat → List UInt8 → Option (Qname × List UInt8)} {least skip : Nat}
    (agree : ∀ used input result, decode used input = some result → other used input = some result)
    {input : List UInt8} (valid : validNameAfter decode least skip rdlen input = true) :
    validNameAfter other least skip rdlen input = true := by
  obtain ⟨enough, fits, inside, name, decoded⟩ := validNameAfter_iff.mp valid
  exact validNameAfter_iff.mpr ⟨enough, fits, inside, name, agree _ _ _ decoded⟩

theorem validTwoNames_mono {decode other : Nat → List UInt8 → Option (Qname × List UInt8)}
    (agree : ∀ used input result, decode used input = some result → other used input = some result)
    {input : List UInt8} (valid : validTwoNames decode rdlen input = true) :
    validTwoNames other rdlen input = true := by
  obtain ⟨enough, fits, mname, afterMname, rname, timers, first, second, ended⟩ := validTwoNames_iff.mp valid
  exact validTwoNames_iff.mpr
    ⟨enough, fits, mname, afterMname, rname, timers, agree _ _ _ first, agree _ _ _ second, ended⟩

/-- RDATA without pointers passes the compression-aware check wherever it stands. -/
theorem validRdataShapeAt_of_plain {original : List UInt8} {offset : Nat} {input : List UInt8}
    (valid : validRdataShape rtype rdlen input = true) :
    validRdataShapeAt original offset rtype rdlen input = true := by
  have agree : ∀ used input result, plainName used input = some result →
      compressedName original offset used input = some result :=
    fun _ _ _ parsed => parseQnameCompressed_of_plain parsed
  rw [validRdataShapeAt_eq]
  rw [validRdataShape_eq] at valid
  cases form : rdataForm rtype with
  | name least skip =>
    rw [form] at valid
    exact validNameAfter_mono agree valid
  | twoNames =>
    rw [form] at valid
    exact validTwoNames_mono agree valid
  | other =>
    rw [form] at valid
    exact valid

theorem serializableRdata_iff (length : rdlen.toNat = rdata.length) :
    serializableRdata rtype rdata = true ↔ u16ToQtype (qtypeToU16 rtype) = rtype ∧
      validRdataLength rtype rdlen = true ∧ validRdataShape rtype rdlen rdata = true := by
  have bound := rdlen.toNat_lt
  have same : UInt16.ofNat rdata.length = rdlen := by rw [← length, UInt16.ofNat_toNat]
  simp only [serializableRdata, same]
  by_cases canonical : u16ToQtype (qtypeToU16 rtype) = rtype
  · rw [if_neg (by simp only [canonical, ne_eq, not_true_eq_false, or_false]; omega)]
    simp [canonical]
  · rw [if_pos (Or.inr canonical)]
    simp [canonical]

end Shapes

theorem parseResourceRecordBytes_inverts (additionalSection : Bool) :
    Inverts (parseResourceRecordBytes additionalSection)
      (fun rr => validRrPositionAndShape additionalSection rr.name rr.rtype rr.ttl = true)
      serializeResourceRecordBytes := by
  intro input rr tail
  unfold parseResourceRecordBytes
  rw [parseRecordWith_eq_some_iff]
  simp only [serializeResourceRecordBytes_eq_some_iff, wellFormedRecord, Bool.and_eq_true, decide_eq_true_eq]
  constructor
  · rintro ⟨owned, length, canonical, position, lengthFits, shaped⟩
    obtain ⟨bytes, short⟩ := parseQname_eq_some_iff.mp owned
    rw [validRdataShape_append length] at shaped
    refine ⟨position, _, ⟨⟨⟨short, length⟩, ?_⟩, rfl⟩, ?_⟩
    · exact (serializableRdata_iff length).mpr ⟨canonical, lengthFits, shaped⟩
    · rw [bytes, List.append_assoc, List.append_assoc]
  · rintro ⟨position, bytes, ⟨⟨⟨short, length⟩, serializable⟩, rfl⟩, rfl⟩
    obtain ⟨canonical, lengthFits, shaped⟩ := (serializableRdata_iff length).mp serializable
    refine ⟨?_, length, canonical, position, lengthFits, ?_⟩
    · exact parseQname_eq_some_iff.mpr ⟨by rw [List.append_assoc, List.append_assoc], short⟩
    · rw [validRdataShape_append length]
      exact shaped

/-- The compression-aware record parser accepts what the plain one accepts, at any offset. -/
theorem parseResourceRecordBytesAt_of_plain {original : List UInt8} {offset : Nat} {additionalSection : Bool}
    {input : List UInt8} {result : ResourceRecord × List UInt8}
    (parsed : parseResourceRecordBytes additionalSection input = some result) :
    parseResourceRecordBytesAt original offset additionalSection input = some result := by
  obtain ⟨rr, tail⟩ := result
  obtain ⟨owned, length, canonical, position, lengthFits, shaped⟩ := parseRecordWith_eq_some_iff.mp parsed
  exact parseRecordWith_eq_some_iff.mpr ⟨parseQnameCompressed_of_plain owned, length, canonical, position, lengthFits,
    validRdataShapeAt_of_plain shaped⟩

section Packets

/-- Everything the packet grammar checks, read off the packet it returns. -/
structure PacketRead
    (records : List UInt8 → Nat → Bool → Nat → Nat → List UInt8 → Option (List ResourceRecord × List UInt8))
    (input : List UInt8) (p : DnsPacket) (rest afterQuestions afterAnswers afterAuthorities : List UInt8) :
    Prop where
  header : parseHeaderBytes input = some (p.header, rest)
  questions : parseQuestionsBytes p.header.qdcount.toNat p.header.qdcount.toNat rest =
    some (p.questions, afterQuestions)
  answers : records input (offsetFromTail input afterQuestions) false p.header.ancount.toNat
    p.header.ancount.toNat afterQuestions = some (p.answers, afterAnswers)
  authorities : records input (offsetFromTail input afterAnswers) false p.header.nscount.toNat
    p.header.nscount.toNat afterAnswers = some (p.authorities, afterAuthorities)
  additionals : records input (offsetFromTail input afterAuthorities) true p.header.arcount.toNat
    p.header.arcount.toNat afterAuthorities = some (p.additionals, [])

variable {records : List UInt8 → Nat → Bool → Nat → Nat → List UInt8 →
  Option (List ResourceRecord × List UInt8)}

theorem parsePacketWith_eq_some_iff {input : List UInt8} {p : DnsPacket} :
    parsePacketWith records input = some p ↔ ∃ rest afterQuestions afterAnswers afterAuthorities,
      PacketRead records input p rest afterQuestions afterAnswers afterAuthorities := by
  constructor
  · intro parsed
    unfold parsePacketWith at parsed
    split at parsed
    · cases parsed
    rename_i h rest header
    simp only at parsed
    split at parsed
    · cases parsed
    rename_i questions afterQuestions asked
    split at parsed
    · cases parsed
    rename_i answers afterAnswers answered
    split at parsed
    · cases parsed
    rename_i authorities afterAuthorities authorized
    split at parsed
    · cases parsed
    rename_i additionals tail added
    split at parsed
    · rename_i ended
      cases parsed
      cases List.length_eq_zero_iff.mp ended
      exact ⟨_, _, _, _, header, asked, answered, authorized, added⟩
    · cases parsed
  · rintro ⟨_, _, _, _, header, asked, answered, authorized, added⟩
    simp only [parsePacketWith, header, asked, answered, authorized, added, List.length_nil, if_true]

/-- The packet grammar with the plain record parser in place of the compression-aware one. -/
def parsePlainPacketBytes (input : List UInt8) : Option DnsPacket :=
  parsePacketWith (fun _ _ => parseResourceRecordsBytes) input

theorem parseDnsPacketBytes_of_plain {input : List UInt8} {p : DnsPacket}
    (parsed : parsePlainPacketBytes input = some p) : parseDnsPacketBytes input = some p := by
  have agree {additionalSection : Bool} {offset fuel count : Nat} {bytes : List UInt8}
      {result : List ResourceRecord × List UInt8}
      (run : parseResourceRecordsBytes additionalSection fuel count bytes = some result) :
      parseResourceRecordsBytesAt input offset additionalSection fuel count bytes = some result := by
    refine readCountedAt_mono ?_ run
    intro _ _ _ _ read
    exact parseResourceRecordBytesAt_of_plain read
  obtain ⟨_, _, _, _, header, asked, answered, authorized, added⟩ := parsePacketWith_eq_some_iff.mp parsed
  exact parsePacketWith_eq_some_iff.mpr
    ⟨_, _, _, _, header, asked, agree answered, agree authorized, agree added⟩

/-- The sections of a packet one after another, before the parse-back check. -/
def packetSections (p : DnsPacket) : Option (List UInt8) :=
  match serializeQuestionsBytes p.questions, serializeResourceRecordsBytes p.answers,
    serializeResourceRecordsBytes p.authorities, serializeResourceRecordsBytes p.additionals with
  | some questionBytes, some answerBytes, some authorityBytes, some additionalBytes =>
    some (serializeHeaderBytes p.header ++ (questionBytes ++ (answerBytes ++ (authorityBytes ++ additionalBytes))))
  | _, _, _, _ => none

theorem packetSections_eq_some_iff {p : DnsPacket} {bytes : List UInt8} :
    packetSections p = some bytes ↔ ∃ questionBytes answerBytes authorityBytes additionalBytes,
      serializeQuestionsBytes p.questions = some questionBytes ∧
      serializeResourceRecordsBytes p.answers = some answerBytes ∧
      serializeResourceRecordsBytes p.authorities = some authorityBytes ∧
      serializeResourceRecordsBytes p.additionals = some additionalBytes ∧
      bytes = serializeHeaderBytes p.header ++
        (questionBytes ++ (answerBytes ++ (authorityBytes ++ additionalBytes))) := by
  unfold packetSections
  constructor
  · intro written
    split at written
    · rename_i first second third fourth
      exact ⟨_, _, _, _, first, second, third, fourth, (Option.some.inj written).symm⟩
    · cases written
  · rintro ⟨_, _, _, _, first, second, third, fourth, rfl⟩
    rw [first, second, third, fourth]

theorem serializeDnsPacketBytes_eq_some_iff {p : DnsPacket} {bytes : List UInt8} :
    serializeDnsPacketBytes p = some bytes ↔ headerCountsMatch p = true ∧ packetSections p = some bytes ∧
      parseDnsPacketBytes bytes = some p := by
  rw [packetSections_eq_some_iff]
  unfold serializeDnsPacketBytes
  constructor
  · intro written
    split at written
    · cases written
    rename_i counts
    split at written
    · rename_i questionBytes answerBytes authorityBytes additionalBytes first second third fourth
      simp only at written
      split at written
      · rename_i parsed back
        split at written
        · rename_i same
          cases written
          refine ⟨by simpa using counts, ⟨_, _, _, _, first, second, third, fourth, rfl⟩, ?_⟩
          rw [back, same]
        · cases written
      · cases written
    · cases written
  · rintro ⟨counts, ⟨_, _, _, _, first, second, third, fourth, rfl⟩, back⟩
    rw [if_neg (by simp [counts])]
    simp only [first, second, third, fourth, back, if_true]

/-- The plain grammar accepts exactly the section bytes of the packets that meet its checks. -/
theorem parsePlainPacketBytes_eq_some_iff {input : List UInt8} {p : DnsPacket} :
    parsePlainPacketBytes input = some p ↔ headerCountsMatch p = true ∧ packetSections p = some input ∧
      (∀ q ∈ p.questions, u16ToQtype (qtypeToU16 q.qtype) = q.qtype) ∧
      (∀ rr ∈ p.answers, validRrPositionAndShape false rr.name rr.rtype rr.ttl = true) ∧
      (∀ rr ∈ p.authorities, validRrPositionAndShape false rr.name rr.rtype rr.ttl = true) ∧
      ∀ rr ∈ p.additionals, validRrPositionAndShape true rr.name rr.rtype rr.ttl = true := by
  unfold parsePlainPacketBytes
  rw [parsePacketWith_eq_some_iff, packetSections_eq_some_iff]
  simp only [headerCountsMatch, Bool.and_eq_true, decide_eq_true_eq]
  constructor
  · rintro ⟨_, _, _, _, header, asked, answered, authorized, added⟩
    obtain ⟨qd, canonical, _, wrote, rfl⟩ := parseQuestionBytes_inverts.counted.mp asked
    obtain ⟨an, answerOk, _, wroteAnswers, rfl⟩ := (parseResourceRecordBytes_inverts false).counted.mp answered
    obtain ⟨ns, authorityOk, _, wroteAuthorities, rfl⟩ :=
      (parseResourceRecordBytes_inverts false).counted.mp authorized
    obtain ⟨ar, additionalOk, _, wroteAdditionals, rfl⟩ :=
      (parseResourceRecordBytes_inverts true).counted.mp added
    refine ⟨⟨⟨⟨qd.symm, an.symm⟩, ns.symm⟩, ar.symm⟩,
      ⟨_, _, _, _, wrote, wroteAnswers, wroteAuthorities, wroteAdditionals, ?_⟩,
      canonical, answerOk, authorityOk, additionalOk⟩
    rw [parseHeaderBytes_eq_some_iff.mp header, List.append_nil]
  · rintro ⟨⟨⟨⟨qd, an⟩, ns⟩, ar⟩, ⟨_, _, _, _, wrote, wroteAnswers, wroteAuthorities, wroteAdditionals, rfl⟩,
      canonical, answerOk, authorityOk, additionalOk⟩
    refine ⟨_, _, _, _, parseHeaderBytes_eq_some_iff.mpr rfl,
      parseQuestionBytes_inverts.counted.mpr ⟨qd.symm, canonical, _, wrote, rfl⟩,
      (parseResourceRecordBytes_inverts false).counted.mpr ⟨an.symm, answerOk, _, wroteAnswers, rfl⟩,
      (parseResourceRecordBytes_inverts false).counted.mpr ⟨ns.symm, authorityOk, _, wroteAuthorities, rfl⟩,
      (parseResourceRecordBytes_inverts true).counted.mpr
        ⟨ar.symm, additionalOk, _, wroteAdditionals, (List.append_nil _).symm⟩⟩

theorem parseQuestionBytes_canonical {input : List UInt8} {q : Question} {rest : List UInt8}
    (parsed : parseQuestionBytes input = some (q, rest)) : u16ToQtype (qtypeToU16 q.qtype) = q.qtype :=
  ((parseQuestionBytes_inverts _ _ _).mp parsed).1

/-- The checks on question types and on OPT records hold of every accepted packet, compressed or not. -/
theorem parseDnsPacketBytes_checks {input : List UInt8} {p : DnsPacket}
    (parsed : parseDnsPacketBytes input = some p) :
    (∀ q ∈ p.questions, u16ToQtype (qtypeToU16 q.qtype) = q.qtype) ∧
      (∀ rr ∈ p.answers, validRrPositionAndShape false rr.name rr.rtype rr.ttl = true) ∧
      (∀ rr ∈ p.authorities, validRrPositionAndShape false rr.name rr.rtype rr.ttl = true) ∧
      ∀ rr ∈ p.additionals, validRrPositionAndShape true rr.name rr.rtype rr.ttl = true := by
  obtain ⟨_, _, _, _, header, asked, answered, authorized, added⟩ := parsePacketWith_eq_some_iff.mp parsed
  refine ⟨?_, ?_, ?_, ?_⟩
  · exact readCountedAt_forall (fun _ _ _ _ => parseQuestionBytes_canonical) asked
  all_goals
    refine readCountedAt_forall ?_ (by assumption)
    intro _ _ _ _ read
    exact (parseRecordWith_eq_some_iff.mp read).position

/-- Serializing and the plain grammar are inverse to each other. -/
theorem serializeDnsPacketBytes_iff_plain {p : DnsPacket} {bytes : List UInt8} :
    serializeDnsPacketBytes p = some bytes ↔ parsePlainPacketBytes bytes = some p := by
  rw [serializeDnsPacketBytes_eq_some_iff]
  constructor
  · rintro ⟨counts, sections, back⟩
    exact parsePlainPacketBytes_eq_some_iff.mpr ⟨counts, sections, parseDnsPacketBytes_checks back⟩
  · intro parsed
    obtain ⟨counts, sections, -⟩ := parsePlainPacketBytes_eq_some_iff.mp parsed
    exact ⟨counts, sections, parseDnsPacketBytes_of_plain parsed⟩

/-- The packets the wire format can carry without compression. -/
structure Encodable (p : DnsPacket) : Prop where
  counts : p.header.qdcount.toNat = p.questions.length ∧ p.header.ancount.toNat = p.answers.length ∧
    p.header.nscount.toNat = p.authorities.length ∧ p.header.arcount.toNat = p.additionals.length
  questions : ∀ q ∈ p.questions, dnsNameLength q.qname ≤ 255 ∧ u16ToQtype (qtypeToU16 q.qtype) = q.qtype
  records : ∀ rr ∈ p.answers ++ p.authorities ++ p.additionals, wellFormedRecord rr = true
  optPlaced : ∀ rr ∈ p.answers ++ p.authorities, rr.rtype ≠ .OPT
  optShaped : ∀ rr ∈ p.additionals, rr.rtype = .OPT → rr.name = [] ∧ ednsVersionFromTtl rr.ttl = 0

theorem validRrPositionAndShape_false_iff {name : Qname} {rtype : Qtype} {ttl : UInt32} :
    validRrPositionAndShape false name rtype ttl = true ↔ rtype ≠ .OPT := by
  unfold validRrPositionAndShape
  split
  · simp
  · rename_i other
    simpa using other

theorem validRrPositionAndShape_true_iff {name : Qname} {rtype : Qtype} {ttl : UInt32} :
    validRrPositionAndShape true name rtype ttl = true ↔
      (rtype = .OPT → name = [] ∧ ednsVersionFromTtl ttl = 0) := by
  unfold validRrPositionAndShape
  split
  · simp
  · rename_i other
    exact ⟨fun _ opt => (other opt).elim, fun _ => rfl⟩

theorem serializeQuestionBytes_isSome_iff {q : Question} :
    (∃ bytes, serializeQuestionBytes q = some bytes) ↔ dnsNameLength q.qname ≤ 255 := by
  simp only [serializeQuestionBytes, serializeQnameUncompressed]
  by_cases long : 255 < dnsNameLength q.qname
  · rw [if_pos long]
    simp [long]
  · rw [if_neg long]
    simpa using long

/-- The questions of an accepted packet can be sent back. -/
theorem parseDnsPacketBytes_questions {input : List UInt8} {p : DnsPacket}
    (parsed : parseDnsPacketBytes input = some p) :
    p.questions.length ≤ 65535 ∧
      ∀ q ∈ p.questions, dnsNameLength q.qname ≤ 255 ∧ u16ToQtype (qtypeToU16 q.qtype) = q.qtype := by
  obtain ⟨_, _, _, _, -, asked, -⟩ := parsePacketWith_eq_some_iff.mp parsed
  constructor
  · have small := p.header.qdcount.toNat_lt
    rw [readCountedAt_length asked]
    omega
  · refine readCountedAt_forall (fun _ input q rest read => ?_) asked
    obtain ⟨canonical, bytes, written, -⟩ := (parseQuestionBytes_inverts _ _ _).mp read
    exact ⟨serializeQuestionBytes_isSome_iff.mp ⟨bytes, written⟩, canonical⟩

theorem serializeResourceRecordBytes_isSome_iff {rr : ResourceRecord} :
    (∃ bytes, serializeResourceRecordBytes rr = some bytes) ↔ wellFormedRecord rr = true := by
  simp [serializeResourceRecordBytes_eq_some_iff]

theorem packetSections_isSome_iff {p : DnsPacket} : (∃ bytes, packetSections p = some bytes) ↔
    (∀ q ∈ p.questions, dnsNameLength q.qname ≤ 255) ∧
      ∀ rr ∈ p.answers ++ p.authorities ++ p.additionals, wellFormedRecord rr = true := by
  have asked : (∃ bytes, serializeQuestionsBytes p.questions = some bytes) ↔
      ∀ q ∈ p.questions, dnsNameLength q.qname ≤ 255 := by
    simp only [serializeQuestionsBytes, writeAll_isSome_iff, serializeQuestionBytes_isSome_iff]
  have listed (records : List ResourceRecord) : (∃ bytes, serializeResourceRecordsBytes records = some bytes) ↔
      ∀ rr ∈ records, wellFormedRecord rr = true := by
    simp only [serializeResourceRecordsBytes, writeAll_isSome_iff, serializeResourceRecordBytes_isSome_iff]
  simp only [packetSections_eq_some_iff, List.forall_mem_append, ← asked, ← listed]
  constructor
  · rintro ⟨_, _, _, _, _, first, second, third, fourth, _⟩
    exact ⟨⟨_, first⟩, ⟨⟨_, second⟩, _, third⟩, _, fourth⟩
  · rintro ⟨⟨_, first⟩, ⟨⟨_, second⟩, _, third⟩, _, fourth⟩
    exact ⟨_, _, _, _, _, first, second, third, fourth, rfl⟩

/-- The serializer answers on exactly the encodable packets: its parse-back check
never turns one of them down. -/
theorem serializeDnsPacketBytes_isSome_iff (p : DnsPacket) :
    (serializeDnsPacketBytes p).isSome = true ↔ Encodable p := by
  rw [Option.isSome_iff_exists]
  simp only [serializeDnsPacketBytes_iff_plain, parsePlainPacketBytes_eq_some_iff,
    validRrPositionAndShape_false_iff, validRrPositionAndShape_true_iff, headerCountsMatch, Bool.and_eq_true,
    decide_eq_true_eq]
  constructor
  · rintro ⟨bytes, ⟨⟨⟨qd, an⟩, ns⟩, ar⟩, sections, canonical, answers, authorities, additionals⟩
    obtain ⟨short, wellFormed⟩ := packetSections_isSome_iff.mp ⟨bytes, sections⟩
    exact ⟨⟨qd, an, ns, ar⟩, fun q member => ⟨short q member, canonical q member⟩, wellFormed,
      List.forall_mem_append.mpr ⟨answers, authorities⟩, additionals⟩
  · rintro ⟨⟨qd, an, ns, ar⟩, asked, wellFormed, placed, shaped⟩
    obtain ⟨bytes, sections⟩ := packetSections_isSome_iff.mpr
      ⟨fun q member => (asked q member).1, wellFormed⟩
    obtain ⟨answers, authorities⟩ := List.forall_mem_append.mp placed
    exact ⟨bytes, ⟨⟨⟨qd, an⟩, ns⟩, ar⟩, sections, fun q member => (asked q member).2, answers, authorities, shaped⟩

def questionLength (q : Question) : Nat := dnsNameLength q.qname + 4

def recordLength (rr : ResourceRecord) : Nat := dnsNameLength rr.name + 10 + rr.rdata.length

theorem serializeQuestionBytes_length (q : Question) (bytes : List UInt8)
    (written : serializeQuestionBytes q = some bytes) : bytes.length = questionLength q := by
  rw [serializeQuestionBytes, serializeQnameUncompressed] at written
  split_ifs at written
  obtain rfl := Option.some.inj written
  rw [List.length_append, serializeQnameLabels_length]
  rfl

theorem serializeResourceRecordBytes_length (rr : ResourceRecord) (bytes : List UInt8)
    (written : serializeResourceRecordBytes rr = some bytes) : bytes.length = recordLength rr := by
  obtain ⟨-, rfl⟩ := serializeResourceRecordBytes_eq_some_iff.mp written
  rw [List.length_append, List.length_append, serializeQnameLabels_length, recordFixedBytes_length, recordLength,
    Nat.add_assoc]

/-- How long a serialized packet is, over its sections. -/
theorem serializeDnsPacketBytes_length {p : DnsPacket} {bytes : List UInt8}
    (written : serializeDnsPacketBytes p = some bytes) :
    bytes.length = 12 + (p.questions.map questionLength).sum + (p.answers.map recordLength).sum +
      (p.authorities.map recordLength).sum + (p.additionals.map recordLength).sum := by
  obtain ⟨-, sections, -⟩ := serializeDnsPacketBytes_eq_some_iff.mp written
  obtain ⟨_, _, _, _, questions, answers, authorities, additionals, rfl⟩ := packetSections_eq_some_iff.mp sections
  have header : (serializeHeaderBytes p.header).length = 12 := rfl
  simp only [List.length_append, header, writeAll_length serializeQuestionBytes_length questions,
    writeAll_length serializeResourceRecordBytes_length answers,
    writeAll_length serializeResourceRecordBytes_length authorities,
    writeAll_length serializeResourceRecordBytes_length additionals, Nat.add_assoc]

/-- A message the plain grammar accepts has one parse and one encoding. -/
theorem plain_message_unique_encoding {b : List UInt8} {p : DnsPacket}
    (parsed : parsePlainPacketBytes b = some p) :
    parseDnsPacketBytes b = some p ∧ serializeDnsPacketBytes p = some b ∧
      ∀ b', parsePlainPacketBytes b' = some p → b' = b := by
  have written := serializeDnsPacketBytes_iff_plain.mpr parsed
  refine ⟨parseDnsPacketBytes_of_plain parsed, written, ?_⟩
  intro b' parsed'
  have written' := serializeDnsPacketBytes_iff_plain.mpr parsed'
  exact Option.some.inj (written'.symm.trans written)

theorem plain_message_unique_encoding_edns_query :
    let query := [0, 0, 1, 0, 0, 1, 0, 0, 0, 0, 0, 1, 1, 97, 0, 0, 1, 0, 1, 0, 0, 41, 4, 208, 0, 0, 0, 0, 0, 0]
    ∃ p, parsePlainPacketBytes query = some p ∧ serializeDnsPacketBytes p = some query := by
  intro query
  have accepted : (parsePlainPacketBytes query).isSome = true := by decide
  obtain ⟨p, parsed⟩ := Option.isSome_iff_exists.mp accepted
  exact ⟨p, parsed, (plain_message_unique_encoding parsed).2.1⟩

end Packets

end Ism
