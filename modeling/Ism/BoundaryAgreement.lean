import Ism.GeneratedGate

namespace Ism

open Lib

section Accepted

variable {input after : List UInt8} {name : Qname} {r : WalkedRecord} {p : DnsPacket}

/-- A walk over the question of an accepted message ends where the parser's questions end. -/
theorem accepted_question {accepts : Header → Bool} (parsed : parseDnsPacketBytes input = some p)
    (asked : walkQuestion accepts input = some (name, after))
    (one : ∀ h, accepts h = true → h.qdcount.toNat = 1) : accepts p.header = true ∧ ∃ rest afterAnswers
      afterAuthorities, PacketRead parseResourceRecordsBytesAt input p rest after afterAnswers afterAuthorities := by
  obtain ⟨h, qtHi, qtLo, qcHi, qcLo, accepted, short, bytes⟩ := walkQuestion_eq_some_iff.mp asked
  obtain ⟨rest, afterQuestions, afterAnswers, afterAuthorities, read⟩ := parsePacketWith_eq_some_iff.mp parsed
  obtain ⟨same, rfl⟩ := Prod.mk.inj
    (Option.some.inj (read.header.symm.trans (parseHeaderBytes_eq_some_iff.mpr bytes)))
  have questions := read.questions
  rw [same, one h accepted, parseQuestionsBytes, readCounted, readCountedAt_one] at questions
  obtain ⟨question, first, -⟩ := questions
  obtain ⟨_, _, _, _, named, -, -⟩ := parseQuestionBytes_eq_some_iff.mp first
  have again := parseQname_eq_some_iff.mpr
    ⟨(rfl : serializeQnameLabels name ++ qtHi :: qtLo :: qcHi :: qcLo :: after = _), short⟩
  have tails := (Prod.mk.inj (Option.some.inj (named.symm.trans again))).2
  simp only [List.cons.injEq] at tails
  obtain ⟨-, -, -, -, rfl⟩ := tails
  exact ⟨same ▸ accepted, _, _, _, read⟩

theorem counts_iff {qd an ns ar : Nat} {h : Header} : counts qd an ns ar h = true ↔
    h.qdcount.toNat = qd ∧ h.ancount.toNat = an ∧ h.nscount.toNat = ns ∧ h.arcount.toNat = ar := by
  simp only [counts, Bool.and_eq_true, decide_eq_true_eq, and_assoc]

/-- The answer of an accepted message is what the walk over the question leaves. -/
theorem accepted_answer (parsed : parseDnsPacketBytes input = some p)
    (asked : walkQuestion (counts 1 1 0 0) input = some (name, after)) :
    ∃ offset rr, parseResourceRecordBytesAt input offset false after = some (rr, []) := by
  obtain ⟨counted, rest, afterAnswers, afterAuthorities, read⟩ := accepted_question parsed asked
    fun h counted => (counts_iff.mp counted).1
  obtain ⟨-, an, ns, ar⟩ := counts_iff.mp counted
  obtain ⟨-, -, answers, authorities, additionals⟩ := read
  rw [an, parseResourceRecordsBytesAt, readCountedAt_one] at answers
  rw [ns, parseResourceRecordsBytesAt, readCountedAt_zero] at authorities
  rw [ar, parseResourceRecordsBytesAt, readCountedAt_zero] at additionals
  obtain ⟨-, rfl⟩ := Prod.mk.inj (Option.some.inj authorities)
  obtain ⟨-, rfl⟩ := Prod.mk.inj (Option.some.inj additionals)
  obtain ⟨rr, first, -⟩ := answers
  exact ⟨_, rr, first⟩

theorem accepted_additional {qd : Nat} {rest afterAnswers afterAuthorities : List UInt8}
    (counted : counts qd 0 0 1 p.header = true)
    (read : PacketRead parseResourceRecordsBytesAt input p rest after afterAnswers afterAuthorities) :
    ∃ offset rr, parseResourceRecordBytesAt input offset true after = some (rr, []) := by
  obtain ⟨-, an, ns, ar⟩ := counts_iff.mp counted
  obtain ⟨-, -, answers, authorities, additionals⟩ := read
  rw [an, parseResourceRecordsBytesAt, readCountedAt_zero] at answers
  rw [ns, parseResourceRecordsBytesAt, readCountedAt_zero] at authorities
  rw [ar, parseResourceRecordsBytesAt, readCountedAt_one] at additionals
  obtain ⟨-, rfl⟩ := Prod.mk.inj (Option.some.inj answers)
  obtain ⟨-, rfl⟩ := Prod.mk.inj (Option.some.inj authorities)
  obtain ⟨rr, first, -⟩ := additionals
  exact ⟨_, rr, first⟩

/-- What acceptance adds to a walk over the last record of a message. -/
structure AcceptedRecord (input : List UInt8) (additionalSection : Bool) (r : WalkedRecord) (rr : ResourceRecord) :
    Prop where
  same : r = ⟨rr.name, (qtypeToU16 rr.rtype).toNat, rr.rdlen.toNat, rr.rdata⟩
  length : rr.rdlen.toNat = rr.rdata.length
  canonical : u16ToQtype (qtypeToU16 rr.rtype) = rr.rtype
  position : validRrPositionAndShape additionalSection rr.name rr.rtype rr.ttl = true
  lengthFits : validRdataLength rr.rtype rr.rdlen = true
  shaped : ∃ offset, validRdataShapeAt input offset rr.rtype rr.rdlen rr.rdata = true

/-- A walk over an accepted record and the parser see the same fields. -/
theorem accepted_record {offset : Nat} {additionalSection : Bool} {rr : ResourceRecord}
    (parsed : parseResourceRecordBytesAt input offset additionalSection after = some (rr, []))
    (walked : walkRecord after = some r) : AcceptedRecord input additionalSection r rr ∧
      after = serializeQnameLabels rr.name ++ (recordFixedBytes rr ++ rr.rdata) := by
  obtain ⟨owned, length, canonical, position, lengthFits, shaped⟩ := parseRecordWith_eq_some_iff.mp parsed
  obtain ⟨rrTail, named, fixed⟩ := walkRecord_eq_some_iff.mp walked
  rw [List.append_nil] at owned shaped
  obtain ⟨rrName, rfl⟩ := Prod.mk.inj (Option.some.inj ((parseQnameCompressed_of_plain named).symm.trans owned))
  rw [walkFixedFields_recordFixedBytes] at fixed
  obtain ⟨r, rrType, rdataLength, rdataTail⟩ := r
  simp only [Option.some.injEq, Prod.mk.injEq] at fixed rrName
  obtain ⟨rfl, rfl, rfl⟩ := fixed
  refine ⟨⟨by rw [rrName], length, canonical, position, lengthFits, ⟨_, shaped⟩⟩, ?_⟩
  rw [(parseQname_eq_some_iff.mp named).1, rrName]

/-- The type of an accepted record from the number on the wire. -/
theorem AcceptedRecord.rtype_eq {additionalSection : Bool} {rr : ResourceRecord}
    (accepted : AcceptedRecord input additionalSection r rr) (code : UInt16) (typed : r.rrType = code.toNat) :
    rr.rtype = u16ToQtype code := by
  have wire : (qtypeToU16 rr.rtype).toNat = code.toNat := by
    rw [← typed, accepted.same]
  rw [← accepted.canonical, UInt16.toNat_inj.mp wire]

end Accepted

section Elements

/-- Options that decode are elements of the grammar's array. -/
theorem ednsOptions_elements {fuel : Nat} {input : List UInt8}
    (valid : (parseEdnsOptionsBytes fuel input).isSome = true) :
    Elements Grammar.dnsEdnsOption.Instance input := by
  induction fuel generalizing input with
  | zero =>
    cases input with
    | nil => exact .nil
    | cons b bs => cases valid
  | succ fuel ih =>
    cases input with
    | nil => exact .nil
    | cons b bs =>
      rw [parseEdnsOptionsBytes] at valid
      split at valid
      · cases valid
      rename_i option rest parsed
      have later : (parseEdnsOptionsBytes fuel rest).isSome = true := by
        split at valid
        · cases valid
        · rename_i options found
          rw [found]
          rfl
      unfold parseEdnsOptionBytes at parsed
      split at parsed
      swap
      · cases parsed
      rename_i codeHi codeLo lenHi lenLo optionData whole
      unfold parseOptionDataBytes at parsed
      split at parsed
      · cases parsed
      rename_i data tail taken
      cases parsed
      split at taken
      swap
      · cases taken
      rename_i room
      cases taken
      rw [whole]
      have first : Grammar.dnsEdnsOption.Instance
          (codeHi :: codeLo :: lenHi :: lenLo :: optionData.take (u16FromBe lenHi lenLo).toNat) := by
        refine ⟨[codeHi, codeLo], _, rfl, rfl, rfl, [lenHi, lenLo], _, rfl, rfl, rfl, _, [],
          (List.append_nil _).symm, ?_, rfl⟩
        rw [Grammar.beValue_pair, ← u16FromBe_toNat]
        exact List.length_take_of_le room
      have all := Elements.cons first (List.cons_ne_nil _ _) (ih later)
      simpa only [List.cons_append, List.take_append_drop] using all

/-- So are the strings of a TXT record. -/
theorem txtStrings_elements {fuel : Nat} {input : List UInt8} (valid : validTxtStrings fuel input = true) :
    Elements Grammar.dnsTxtString.Instance input := by
  induction fuel generalizing input with
  | zero =>
    cases input with
    | nil => exact .nil
    | cons b bs => cases valid
  | succ fuel ih =>
    cases input with
    | nil => exact .nil
    | cons b bs =>
      rw [validTxtStrings] at valid
      split at valid
      · cases valid
      rename_i room
      have first : Grammar.dnsTxtString.Instance (b :: bs.take b.toNat) := by
        refine ⟨[b], _, rfl, rfl, rfl, _, [], (List.append_nil _).symm, ?_, rfl⟩
        simp only [beValue, List.foldl_cons, List.foldl_nil, Nat.zero_mul, Nat.zero_add]
        exact List.length_take_of_le (by omega)
      have all := Elements.cons first (List.cons_ne_nil _ _) (ih valid)
      simpa only [List.cons_append, List.take_append_drop] using all

end Elements

section Edns0

variable {check : GeneratedChecks} {buffer input after : List UInt8} {len : Nat} {p : DnsPacket}

theorem AcceptedRecord.optRecord_instance {r : WalkedRecord} {rr : ResourceRecord}
    (accepted : AcceptedRecord input true r rr) (typed : r.rrType = 41) :
    (Grammar.optRecord rr.rdlen.toNat).Instance
      (serializeQnameLabels rr.name ++ (recordFixedBytes rr ++ rr.rdata)) := by
  have opt : rr.rtype = .OPT := accepted.rtype_eq 41 typed
  obtain ⟨-, length, -, position, -, offset, shaped⟩ := accepted
  rw [opt] at position shaped
  simp only [validRrPositionAndShape, Bool.true_and, Bool.and_eq_true, decide_eq_true_eq] at position
  obtain ⟨root, version⟩ := position
  have options : (parseEdnsOptionsBytes rr.rdlen.toNat rr.rdata).isSome = true := by
    simpa only [validRdataShapeAt, validRdataShape, validOptOptionsPayload, length, Nat.lt_irrefl, if_false,
      List.take_length] using shaped
  simp only [root, recordFixedBytes, opt, qtypeToU16, serializeQnameLabels, List.cons_append, List.nil_append]
  refine Grammar.u8_instance rfl (Grammar.u16_word_instance 41 rfl (Grammar.u16_instance rfl (Grammar.u8_instance rfl
    (Grammar.u8_instance ?_ (Grammar.u16_instance rfl (Grammar.u16_word_instance _ (Grammar.is_self _) ?_))))))
  · rw [u32B1, ← ednsVersionFromTtl, version]
    rfl
  · exact ⟨rr.rdata, [], (List.append_nil _).symm, length.symm, ednsOptions_elements options, rfl⟩

theorem parseOptAdditional_eq_some {question : Option Nat} {f : OptPacketFields}
    (found : parseOptAdditional after question = some f) : ∃ r, walkRecord after = some r ∧ r.rrType = 41 ∧
      f = ⟨question, dnsNameLength r.rrName, r.rdataLength⟩ := by
  unfold parseOptAdditional at found
  split at found
  · rename_i rrName rrType rdataLength rdataTail walked
    split at found
    · rename_i typed
      exact ⟨_, walked, typed.1, (Option.some.inj found).symm⟩
    · cases found
  · cases found

/-- An accepted OPT record passes its validator. -/
theorem edns0_passes (correct : check.Correct) (held : buffer.take len = input)
    (parsed : parseDnsPacketBytes input = some p)
    (applicable : generatedEdns0OptAdditionalPacketSubsetApplicable input = true) :
    validateGeneratedEdns0OptAdditionalPacketSubsetBuffer check buffer len input = true := by
  rw [validateGeneratedEdns0OptAdditionalPacketSubsetBuffer, held]
  unfold generatedEdns0OptAdditionalPacketSubsetApplicable at applicable
  split at applicable
  swap
  · cases applicable
  rename_i f found
  clear applicable
  unfold generatedEdns0OptAdditionalPacketFields at found
  split at found
  swap
  · cases found
  rename_i h afterHeader header
  split at found
  · rename_i counted
    obtain ⟨r, walked, typed, rfl⟩ := parseOptAdditional_eq_some found
    obtain ⟨rest, afterQuestions, afterAnswers, afterAuthorities, read⟩ := parsePacketWith_eq_some_iff.mp parsed
    obtain ⟨rfl, rfl⟩ := Prod.mk.inj (Option.some.inj (read.header.symm.trans header))
    have none := read.questions
    rw [(counts_iff.mp counted).1, parseQuestionsBytes, readCounted, readCountedAt_zero] at none
    obtain ⟨-, rfl⟩ := Prod.mk.inj (Option.some.inj none)
    obtain ⟨offset, rr, record⟩ := accepted_additional counted read
    obtain ⟨accepted, bytes⟩ := accepted_record record walked
    refine accepts_of_instance (correct.opt _) ⟨?_, ?_⟩
    · exact decide_eq_true (Nat.le_of_lt_succ (walkRecord_length walked).2.2)
    · obtain ⟨qd, an, ns, ar⟩ := counts_iff.mp counted
      rw [parseHeaderBytes_eq_some_iff.mp header, bytes, accepted.same]
      exact Grammar.dnsHeader_instance _ (decide_eq_true qd) (decide_eq_true an) (decide_eq_true ns)
        (decide_eq_true ar) (accepted.optRecord_instance typed)
  · split at found
    swap
    · cases found
    rename_i name after asked
    obtain ⟨r, walked, typed, rfl⟩ := parseOptAdditional_eq_some found
    obtain ⟨counted, rest, afterAnswers, afterAuthorities, read⟩ := accepted_question parsed asked
      fun h counted => (counts_iff.mp counted).1
    obtain ⟨offset, rr, record⟩ := accepted_additional counted read
    obtain ⟨accepted, bytes⟩ := accepted_record record walked
    refine accepts_of_instance (correct.questionOpt _ _) ⟨?_, ?_⟩
    · rw [walkQuestion_nameLength asked]
      exact decide_eq_true (Nat.le_of_lt_succ (walkRecord_length walked).2.2)
    · refine Grammar.walkQuestion_instance asked ?_
      rw [bytes, accepted.same]
      exact accepted.optRecord_instance typed

end Edns0

section Answers

variable {check : GeneratedChecks} {buffer input after : List UInt8} {len : Nat} {p : DnsPacket} {name : Qname}
  {r : WalkedRecord} {rr : ResourceRecord}

/-- A name that starts with a label and is not written out to the root. -/
def endsInPointer (nameBytes : List UInt8) : Bool := !firstIsPointer nameBytes && (parseQname 128 nameBytes).isNone

/-- RDATA of type MX, SRV or SOA in which a label comes before a pointer. -/
def partlyCompressedRdata (rrType : Nat) (rdata : List UInt8) : Bool :=
  if rrType = 15 then endsInPointer (rdata.drop 2)
  else if rrType = 33 then endsInPointer (rdata.drop 6)
  else if rrType = 6 then
    match parseQname 128 rdata with
    | some (_, afterMname) => endsInPointer afterMname
    | none => endsInPointer rdata
  else false

/-- An accepted message with one question and one answer, whose owner is written out
and whose RDATA holds labels followed by a pointer. -/
def partlyCompressed (input : List UInt8) : Bool :=
  validateDnsPacketBytes input &&
    match walkQuestion (counts 1 1 0 0) input with
    | some (_, after) =>
      match walkRecord after with
      | some r => partlyCompressedRdata r.rrType r.rdataTail
      | none => false
    | none => false

theorem AcceptedRecord.rdata_length (accepted : AcceptedRecord input false r rr) :
    r.rdataTail.length = r.rdataLength := by
  rw [accepted.same]
  exact accepted.length.symm

/-- The length test of the applicability predicate cannot fail on an accepted message. -/
theorem AcceptedRecord.input_length (asked : walkQuestion (counts 1 1 0 0) input = some (name, after))
    (walked : walkRecord after = some r) (accepted : AcceptedRecord input false r rr) :
    input.length = 26 + dnsNameLength name + dnsNameLength r.rrName + r.rdataLength := by
  have question := (walkQuestion_length asked).1
  have record := (walkRecord_length walked).1
  have rdata := accepted.rdata_length
  omega

theorem oneAnswer_instance {rtype rdlength : Nat → Bool} {next : Format}
    (asked : walkQuestion (counts 1 1 0 0) input = some (name, after)) (walked : walkRecord after = some r)
    (typed : rtype r.rrType = true) (sized : rdlength r.rdataLength = true) (here : next.Instance r.rdataTail) :
    (Grammar.oneAnswer (Grammar.question (dnsNameLength name) (Grammar.name (dnsNameLength r.rrName)
      (Grammar.recordFields rtype rdlength next)))).Instance input :=
  Grammar.walkQuestion_instance asked (Grammar.walkRecord_instance walked typed sized here)

theorem bytes_whole_instance {count : Nat} {octets : List UInt8} (length : octets.length = count) :
    (Format.bytes count .done).Instance octets :=
  ⟨octets, [], (List.append_nil _).symm, length, rfl⟩

theorem plainNameLength_cases (nameBytes : List UInt8) :
    (parseQname 128 nameBytes = none ∧ plainNameLength nameBytes = none) ∨ ∃ n rest,
      parseQname 128 nameBytes = some (n, rest) ∧ plainNameLength nameBytes = some (dnsNameLength n) := by
  unfold plainNameLength
  cases parsed : parseQname 128 nameBytes with
  | none => exact Or.inl ⟨rfl, rfl⟩
  | some result => exact Or.inr ⟨result.1, result.2, rfl, rfl⟩

/-- RDATA of one name after `skip` octets: when the name is written out it fills the RDATA. -/
theorem AcceptedRecord.name_fills (accepted : AcceptedRecord input false r rr) {least skip : Nat} {n : Qname}
    {rest : List UInt8} (form : rdataForm rr.rtype = .name least skip)
    (plain : parseQname 128 (r.rdataTail.drop skip) = some (n, rest)) :
    r.rdataTail.drop skip = serializeQnameLabels n ∧ r.rdataLength = dnsNameLength n + skip ∧
      skip ≤ r.rdataTail.length ∧ dnsNameLength n ≤ 255 := by
  obtain ⟨rfl, length, -, -, -, offset, shaped⟩ := accepted
  simp only at plain ⊢
  rw [validRdataShapeAt_eq, form] at shaped
  obtain ⟨-, -, inside, name, decoded⟩ := validNameAfter_iff.mp shaped
  rw [length, List.take_length] at decoded
  obtain ⟨-, rfl⟩ := Prod.mk.inj (Option.some.inj ((parseQnameCompressed_of_plain plain).symm.trans decoded))
  obtain ⟨bytes, short⟩ := parseQname_eq_some_iff.mp plain
  rw [List.append_nil] at bytes
  have width := congrArg List.length bytes
  rw [List.length_drop, serializeQnameLabels_length] at width
  exact ⟨bytes, by omega, by omega, short⟩

/-- The RDATA of a start of authority whose two names are written out. -/
theorem AcceptedRecord.two_names_fill (accepted : AcceptedRecord input false r rr) {mname rname : Qname}
    {afterMname timers : List UInt8} (form : rdataForm rr.rtype = .twoNames)
    (first : parseQname 128 r.rdataTail = some (mname, afterMname))
    (second : parseQname 128 afterMname = some (rname, timers)) :
    r.rdataTail = serializeQnameLabels mname ++ (serializeQnameLabels rname ++ timers) ∧ timers.length = 20 ∧
      r.rdataLength = dnsNameLength mname + dnsNameLength rname + 20 ∧ dnsNameLength mname ≤ 255 ∧
      dnsNameLength rname ≤ 255 := by
  obtain ⟨rfl, length, -, -, -, offset, shaped⟩ := accepted
  simp only at first ⊢
  rw [validRdataShapeAt_eq, form] at shaped
  obtain ⟨-, -, _, _, _, _, mDecoded, rDecoded, ended⟩ := validTwoNames_iff.mp shaped
  rw [length, List.take_length] at mDecoded
  obtain ⟨-, rfl⟩ := Prod.mk.inj (Option.some.inj ((parseQnameCompressed_of_plain first).symm.trans mDecoded))
  obtain ⟨-, rfl⟩ := Prod.mk.inj (Option.some.inj ((parseQnameCompressed_of_plain second).symm.trans rDecoded))
  obtain ⟨mBytes, mShort⟩ := parseQname_eq_some_iff.mp first
  obtain ⟨rBytes, rShort⟩ := parseQname_eq_some_iff.mp second
  have bytes : rr.rdata = serializeQnameLabels mname ++ (serializeQnameLabels rname ++ timers) := by
    rw [mBytes, rBytes]
  have width := congrArg List.length bytes
  simp only [List.length_append, serializeQnameLabels_length] at width
  exact ⟨bytes, ended, by omega, mShort, rShort⟩

theorem isNameRdataType_iff {rrType : Nat} : isNameRdataType rrType = true ↔ rrType = 2 ∨ rrType = 5 ∨ rrType = 12 := by
  simp [isNameRdataType, or_assoc]

theorem AcceptedRecord.name_form (accepted : AcceptedRecord input false r rr)
    (typed : isNameRdataType r.rrType = true) : rdataForm rr.rtype = .name 0 0 := by
  rcases isNameRdataType_iff.mp typed with ns | cname | ptr
  · rw [accepted.rtype_eq 2 ns]
    rfl
  · rw [accepted.rtype_eq 5 cname]
    rfl
  · rw [accepted.rtype_eq 12 ptr]
    rfl

/-- An accepted answer passes the validator for its type: here, for an address. -/
theorem address_passes (correct : check.Correct)
    (asked : walkQuestion (counts 1 1 0 0) input = some (name, after)) (walked : walkRecord after = some r)
    (accepted : AcceptedRecord input false r rr) (typed : r.rrType = 1) :
    check.dnsUncompressedQuestionAAnswerPacket (dnsNameLength name) (dnsNameLength r.rrName) input = true := by
  have fits := accepted.lengthFits
  rw [accepted.rtype_eq 1 typed] at fits
  have four : r.rdataLength = 4 := by
    rw [accepted.same]
    exact congrArg UInt16.toNat (of_decide_eq_true fits)
  refine accepts_of_instance (correct.a _ _) ⟨?_, oneAnswer_instance asked walked (decide_eq_true typed)
    (decide_eq_true four) (bytes_whole_instance (accepted.rdata_length.trans four))⟩
  rw [walkQuestion_nameLength asked, walkRecord_nameLength walked]
  rfl

theorem longAddress_passes (correct : check.Correct)
    (asked : walkQuestion (counts 1 1 0 0) input = some (name, after)) (walked : walkRecord after = some r)
    (accepted : AcceptedRecord input false r rr) (typed : r.rrType = 28) :
    check.dnsUncompressedQuestionAaaaAnswerPacket (dnsNameLength name) (dnsNameLength r.rrName) input = true := by
  have fits := accepted.lengthFits
  rw [accepted.rtype_eq 28 typed] at fits
  have sixteen : r.rdataLength = 16 := by
    rw [accepted.same]
    exact congrArg UInt16.toNat (of_decide_eq_true fits)
  refine accepts_of_instance (correct.aaaa _ _) ⟨?_, oneAnswer_instance asked walked (decide_eq_true typed)
    (decide_eq_true sixteen) (bytes_whole_instance (accepted.rdata_length.trans sixteen))⟩
  rw [walkQuestion_nameLength asked, walkRecord_nameLength walked]
  rfl

theorem name_whole_instance {n : Qname} {octets : List UInt8} (bytes : octets = serializeQnameLabels n) :
    (Grammar.name (dnsNameLength n) .done).Instance octets := by
  rw [bytes, ← List.append_nil (serializeQnameLabels n)]
  exact Grammar.name_instance n rfl

/-- A name that is written out passes. -/
theorem nameRdata_passes (correct : check.Correct)
    (asked : walkQuestion (counts 1 1 0 0) input = some (name, after)) (walked : walkRecord after = some r)
    (accepted : AcceptedRecord input false r rr) (typed : isNameRdataType r.rrType = true) {n : Qname}
    {rest : List UInt8} (plain : parseQname 128 r.rdataTail = some (n, rest)) :
    check.dnsUncompressedQuestionNameRdataAnswerPacket (dnsNameLength name) (dnsNameLength r.rrName) (dnsNameLength n)
      r.rrType input = true := by
  obtain ⟨bytes, length, -, short⟩ := accepted.name_fills (accepted.name_form typed) plain
  have named : Grammar.nameRdataType r.rrType = true := decide_eq_true (isNameRdataType_iff.mp typed)
  refine accepts_of_instance (correct.nameRdata _ _ _ _) ⟨?_, oneAnswer_instance asked walked (Grammar.is_self _)
    (decide_eq_true length) (name_whole_instance bytes)⟩
  rw [walkQuestion_nameLength asked, walkRecord_nameLength walked, Grammar.nameLength_dnsNameLength short, named]
  rfl

theorem mx_passes (correct : check.Correct)
    (asked : walkQuestion (counts 1 1 0 0) input = some (name, after)) (walked : walkRecord after = some r)
    (accepted : AcceptedRecord input false r rr) (typed : r.rrType = 15) {n : Qname}
    {rest : List UInt8} (plain : parseQname 128 (r.rdataTail.drop 2) = some (n, rest)) :
    check.dnsUncompressedQuestionMxAnswerPacket (dnsNameLength name) (dnsNameLength r.rrName) (dnsNameLength n)
      input = true := by
  have form : rdataForm rr.rtype = .name 3 2 := by
    rw [accepted.rtype_eq 15 typed]
    rfl
  obtain ⟨bytes, length, inside, short⟩ := accepted.name_fills form plain
  refine accepts_of_instance (correct.mx _ _ _) ⟨?_, oneAnswer_instance asked walked (decide_eq_true typed)
    (decide_eq_true length) (Grammar.u16_any_instance inside (name_whole_instance bytes))⟩
  rw [walkQuestion_nameLength asked, walkRecord_nameLength walked, Grammar.nameLength_dnsNameLength short]
  rfl

theorem srv_passes (correct : check.Correct)
    (asked : walkQuestion (counts 1 1 0 0) input = some (name, after)) (walked : walkRecord after = some r)
    (accepted : AcceptedRecord input false r rr) (typed : r.rrType = 33) {n : Qname}
    {rest : List UInt8} (plain : parseQname 128 (r.rdataTail.drop 6) = some (n, rest)) :
    check.dnsUncompressedQuestionSrvAnswerPacket (dnsNameLength name) (dnsNameLength r.rrName) (dnsNameLength n)
      input = true := by
  have form : rdataForm rr.rtype = .name 7 6 := by
    rw [accepted.rtype_eq 33 typed]
    rfl
  obtain ⟨bytes, length, inside, short⟩ := accepted.name_fills form plain
  have rdata : (Grammar.u16 Grammar.any (Grammar.u16 Grammar.any (Grammar.u16 Grammar.any
      (Grammar.name (dnsNameLength n) .done)))).Instance r.rdataTail := by
    refine Grammar.u16_any_instance (by omega) (Grammar.u16_any_instance ?_ (Grammar.u16_any_instance ?_ ?_))
    · rw [List.length_drop]
      omega
    · rw [List.length_drop, List.length_drop]
      omega
    · rw [List.drop_drop, List.drop_drop]
      exact name_whole_instance bytes
  refine accepts_of_instance (correct.srv _ _ _) ⟨?_, oneAnswer_instance asked walked (decide_eq_true typed)
    (decide_eq_true length) rdata⟩
  rw [walkQuestion_nameLength asked, walkRecord_nameLength walked, Grammar.nameLength_dnsNameLength short]
  rfl

/-- Two names that are written out pass. -/
theorem soa_passes (correct : check.Correct)
    (asked : walkQuestion (counts 1 1 0 0) input = some (name, after)) (walked : walkRecord after = some r)
    (accepted : AcceptedRecord input false r rr) (typed : r.rrType = 6) {mname rname : Qname}
    {afterMname timers : List UInt8} (first : parseQname 128 r.rdataTail = some (mname, afterMname))
    (second : parseQname 128 afterMname = some (rname, timers)) :
    check.dnsUncompressedQuestionSoaAnswerPacket (dnsNameLength name) (dnsNameLength r.rrName) (dnsNameLength mname)
      (dnsNameLength rname) input = true := by
  have form : rdataForm rr.rtype = .twoNames := by
    rw [accepted.rtype_eq 6 typed]
    rfl
  obtain ⟨bytes, ended, length, mShort, rShort⟩ := accepted.two_names_fill form first second
  refine accepts_of_instance (correct.soa _ _ _ _) ⟨?_, oneAnswer_instance asked walked (decide_eq_true typed)
    (decide_eq_true length) ?_⟩
  · rw [walkQuestion_nameLength asked, walkRecord_nameLength walked, Grammar.nameLength_dnsNameLength mShort,
      Grammar.nameLength_dnsNameLength rShort]
    rfl
  · rw [bytes]
    exact Grammar.name_instance mname (Grammar.name_instance rname (Grammar.soaTimers_instance ended))

theorem txt_passes (correct : check.Correct)
    (asked : walkQuestion (counts 1 1 0 0) input = some (name, after)) (walked : walkRecord after = some r)
    (accepted : AcceptedRecord input false r rr) (typed : r.rrType = 16) :
    check.dnsUncompressedQuestionTxtAnswerPacket (dnsNameLength name) (dnsNameLength r.rrName) r.rdataLength
      input = true := by
  have length := accepted.rdata_length
  have small := (walkRecord_length walked).2.2
  obtain ⟨positive, strings⟩ : 1 ≤ r.rdataLength ∧ validTxtStrings r.rdataLength r.rdataTail = true := by
    obtain ⟨offset, shaped⟩ := accepted.shaped
    rw [accepted.rtype_eq 16 typed] at shaped
    change validTxtRdataPayload rr.rdlen rr.rdata = true at shaped
    rw [validTxtRdataPayload] at shaped
    rw [accepted.same]
    split at shaped
    · cases shaped
    · rename_i nonzero
      rw [accepted.length, List.take_length] at shaped
      exact ⟨Nat.pos_of_ne_zero fun zero => nonzero (Or.inl zero), by rw [accepted.length]; exact shaped⟩
  refine accepts_of_instance (correct.txt _ _ _) ⟨?_, oneAnswer_instance asked walked (decide_eq_true typed)
    (Grammar.is_self _) ⟨_, [], (List.append_nil _).symm, length, txtStrings_elements strings, rfl⟩⟩
  rw [walkQuestion_nameLength asked, walkRecord_nameLength walked]
  exact decide_eq_true ⟨positive, by omega⟩

/-- A type without a name needs no condition. -/
theorem other_passes (correct : check.Correct)
    (asked : walkQuestion (counts 1 1 0 0) input = some (name, after)) (walked : walkRecord after = some r)
    (accepted : AcceptedRecord input false r rr) :
    check.dnsUncompressedQuestionAnswerPacket (dnsNameLength name) (dnsNameLength r.rrName) r.rdataLength
      input = true := by
  refine accepts_of_instance (correct.answer _ _ _) ⟨?_, oneAnswer_instance asked walked rfl (Grammar.is_self _)
    (bytes_whole_instance accepted.rdata_length)⟩
  rw [walkQuestion_nameLength asked, walkRecord_nameLength walked]
  exact decide_eq_true (Nat.le_of_lt_succ (walkRecord_length walked).2.2)


theorem firstIsPointer_of_plain {nameBytes : List UInt8} {result : Qname × List UInt8}
    (parsed : parseQname 128 nameBytes = some result) : firstIsPointer nameBytes = false := by
  obtain ⟨n, rest⟩ := result
  rw [(parseQname_eq_some_iff.mp parsed).1]
  cases n with
  | nil => rfl
  | cons l tl =>
    have bound := l.property
    exact decide_eq_false (by rw [l.toNat_length]; omega)

theorem endsInPointer_iff {nameBytes : List UInt8} :
    endsInPointer nameBytes = true ↔ firstIsPointer nameBytes = false ∧ parseQname 128 nameBytes = none := by
  simp [endsInPointer]

section Mx

variable (rdata : List UInt8)

theorem rdataNameLength_mx : rdataNameLength 15 rdata = plainNameLength (rdata.drop 2) := rfl

theorem rdataNameStartsWithPointer_mx : rdataNameStartsWithPointer 15 rdata = firstIsPointer (rdata.drop 2) := rfl

theorem partlyCompressedRdata_mx : partlyCompressedRdata 15 rdata = endsInPointer (rdata.drop 2) := rfl

end Mx

section Srv

variable (rdata : List UInt8)

theorem rdataNameLength_srv : rdataNameLength 33 rdata = plainNameLength (rdata.drop 6) := rfl

theorem rdataNameStartsWithPointer_srv : rdataNameStartsWithPointer 33 rdata = firstIsPointer (rdata.drop 6) := rfl

theorem partlyCompressedRdata_srv : partlyCompressedRdata 33 rdata = endsInPointer (rdata.drop 6) := rfl

end Srv

section Soa

variable (rdata : List UInt8)

theorem rdataNameLength_soa : rdataNameLength 6 rdata = plainNameLength rdata := rfl

theorem soaRnameLength_soa : soaRnameLength 6 rdata =
    match parseQname 128 rdata with
    | some (_, afterMname) => plainNameLength afterMname
    | none => none := rfl

theorem rdataNameStartsWithPointer_soa : rdataNameStartsWithPointer 6 rdata = (firstIsPointer rdata ||
    match parseQname 128 rdata with
    | some (_, afterMname) => firstIsPointer afterMname
    | none => false) := rfl

theorem partlyCompressedRdata_soa : partlyCompressedRdata 6 rdata =
    match parseQname 128 rdata with
    | some (_, afterMname) => endsInPointer afterMname
    | none => endsInPointer rdata := rfl

end Soa

/-- Outside the partly compressed messages the validator of one answer accepts what the parser accepts. -/
theorem answer_passes (correct : check.Correct) (held : buffer.take len = input)
    (asked : walkQuestion (counts 1 1 0 0) input = some (name, after)) (walked : walkRecord after = some r)
    (accepted : AcceptedRecord input false r rr)
    (found : generatedUncompressedQuestionAnswerPacketFields input = some (answerPacketFields name r))
    (applicable : generatedUncompressedQuestionAnswerPacketSubsetApplicable input = true)
    (plain : partlyCompressedRdata r.rrType r.rdataTail = false) :
    validateGeneratedUncompressedQuestionAnswerPacketSubsetBuffer check buffer len input = true := by
  simp only [generatedUncompressedQuestionAnswerPacketSubsetApplicable, found, answerPacketFields,
    accepted.input_length asked walked, ne_eq, not_true_eq_false, decide_false, Bool.or_false,
    Bool.and_eq_true] at applicable
  replace applicable := applicable.2
  simp only [validateGeneratedUncompressedQuestionAnswerPacketSubsetBuffer, held, found, answerPacketFields]
  by_cases a : r.rrType = 1
  · rw [if_pos a]
    exact address_passes correct asked walked accepted a
  rw [if_neg a] at applicable ⊢
  by_cases aaaa : r.rrType = 28
  · rw [if_pos aaaa]
    exact longAddress_passes correct asked walked accepted aaaa
  rw [if_neg aaaa] at applicable ⊢
  by_cases named : isNameRdataType r.rrType = true
  · rw [if_pos named] at applicable ⊢
    simp only [rdataNameLength, if_pos named] at applicable ⊢
    rcases plainNameLength_cases r.rdataTail with ⟨-, length⟩ | ⟨n, rest, parsed, length⟩
    · rw [length] at applicable
      cases applicable
    · rw [length]
      exact nameRdata_passes correct asked walked accepted named parsed
  rw [if_neg named] at applicable ⊢
  by_cases mx : r.rrType = 15
  · rw [if_pos mx] at applicable ⊢
    simp only [mx, rdataNameLength_mx, rdataNameStartsWithPointer_mx, partlyCompressedRdata_mx] at applicable plain ⊢
    rcases plainNameLength_cases (r.rdataTail.drop 2) with ⟨parsed, length⟩ | ⟨n, rest, parsed, length⟩
    · rw [length, Option.isSome_none, Bool.false_or, Bool.not_eq_true'] at applicable
      rw [endsInPointer_iff.mpr ⟨applicable, parsed⟩] at plain
      cases plain
    · rw [length]
      exact mx_passes correct asked walked accepted mx parsed
  rw [if_neg mx] at applicable ⊢
  by_cases soa : r.rrType = 6
  · rw [if_pos soa] at applicable ⊢
    simp only [soa, rdataNameStartsWithPointer_soa, partlyCompressedRdata_soa] at applicable plain ⊢
    rw [Bool.not_eq_true', Bool.or_eq_false_iff] at applicable
    rcases plainNameLength_cases r.rdataTail with ⟨first, -⟩ | ⟨mname, afterMname, first, mLength⟩
    · rw [first] at plain
      rw [endsInPointer_iff.mpr ⟨applicable.1, first⟩] at plain
      cases plain
    simp only [first] at applicable plain
    rcases plainNameLength_cases afterMname with ⟨second, -⟩ | ⟨rname, timers, second, rLength⟩
    · rw [endsInPointer_iff.mpr ⟨applicable.2, second⟩] at plain
      cases plain
    · simp only [rdataNameLength_soa, soaRnameLength_soa, first, mLength, rLength]
      exact soa_passes correct asked walked accepted soa first second
  rw [if_neg soa] at applicable ⊢
  by_cases srv : r.rrType = 33
  · rw [if_pos srv] at applicable ⊢
    simp only [srv, rdataNameLength_srv, rdataNameStartsWithPointer_srv, partlyCompressedRdata_srv]
      at applicable plain ⊢
    rcases plainNameLength_cases (r.rdataTail.drop 6) with ⟨parsed, length⟩ | ⟨n, rest, parsed, length⟩
    · rw [length, Option.isSome_none, Bool.false_or, Bool.not_eq_true'] at applicable
      rw [endsInPointer_iff.mpr ⟨applicable, parsed⟩] at plain
      cases plain
    · rw [length]
      exact srv_passes correct asked walked accepted srv parsed
  rw [if_neg srv] at applicable ⊢
  by_cases txt : r.rrType = 16
  · rw [if_pos txt]
    exact txt_passes correct asked walked accepted txt
  rw [if_neg txt]
  exact other_passes correct asked walked accepted

theorem answerFields_of_accepted (asked : walkQuestion (counts 1 1 0 0) input = some (name, after))
    (walked : walkRecord after = some r) (accepted : AcceptedRecord input false r rr) :
    generatedUncompressedQuestionAnswerPacketFields input = some (answerPacketFields name r) := by
  have exactly := accepted.input_length asked walked
  have question := (walkQuestion_length asked).2
  have owner := (walkRecord_length walked).2
  have positive := dnsNameLength_pos name
  have positive' := dnsNameLength_pos r.rrName
  rw [generatedUncompressedQuestionAnswerPacketFields, if_neg (by omega)]
  simp only [asked, walked]
  exact if_pos (by simp only [accepted.rdata_length, or_true])

/-- A partly compressed message is meant for the validator of one answer, which turns it down. -/
theorem answer_fails (check : GeneratedChecks) (buffer : List UInt8) (len : Nat)
    (asked : walkQuestion (counts 1 1 0 0) input = some (name, after))
    (walked : walkRecord after = some r) (accepted : AcceptedRecord input false r rr)
    (partly : partlyCompressedRdata r.rrType r.rdataTail = true) :
    generatedUncompressedQuestionAnswerPacketSubsetApplicable input = true ∧
      validateGeneratedUncompressedQuestionAnswerPacketSubsetBuffer check buffer len input = false := by
  have found := answerFields_of_accepted asked walked accepted
  have question := (walkQuestion_length asked).2
  have owner := (walkRecord_length walked).2
  have sized : 0 < dnsNameLength name ∧ dnsNameLength name ≤ 255 ∧ 0 < dnsNameLength r.rrName ∧
      dnsNameLength r.rrName ≤ 255 ∧ r.rdataLength ≤ 65535 :=
    ⟨dnsNameLength_pos name, question, dnsNameLength_pos r.rrName, owner.1, by omega⟩
  simp only [generatedUncompressedQuestionAnswerPacketSubsetApplicable,
    validateGeneratedUncompressedQuestionAnswerPacketSubsetBuffer, found, answerPacketFields, sized, and_self,
    decide_true, Bool.true_and]
  have absent {nameBytes : List UInt8} (parsed : parseQname 128 nameBytes = none) :
      plainNameLength nameBytes = none := by
    rw [plainNameLength, parsed]
  by_cases mx : r.rrType = 15
  · simp only [mx, partlyCompressedRdata_mx, endsInPointer_iff] at partly
    simp only [mx, rdataNameLength_mx, rdataNameStartsWithPointer_mx, partly.1, absent partly.2]
    exact ⟨rfl, rfl⟩
  by_cases srv : r.rrType = 33
  · simp only [srv, partlyCompressedRdata_srv, endsInPointer_iff] at partly
    simp only [srv, rdataNameLength_srv, rdataNameStartsWithPointer_srv, partly.1, absent partly.2]
    exact ⟨rfl, rfl⟩
  by_cases soa : r.rrType = 6
  · simp only [soa, partlyCompressedRdata_soa] at partly
    simp only [soa, rdataNameLength_soa, soaRnameLength_soa, rdataNameStartsWithPointer_soa]
    cases first : parseQname 128 r.rdataTail with
    | none =>
      rw [first, endsInPointer_iff] at partly
      rw [partly.1, absent partly.2]
      exact ⟨rfl, rfl⟩
    | some result =>
      obtain ⟨mname, afterMname⟩ := result
      simp only [first, endsInPointer_iff] at partly
      simp only [partly.1, firstIsPointer_of_plain first, absent partly.2]
      refine ⟨rfl, ?_⟩
      cases plainNameLength r.rdataTail <;> rfl
  · rw [partlyCompressedRdata, if_neg mx, if_neg srv, if_neg soa] at partly
    cases partly

end Answers

section Agreement

variable {check : GeneratedChecks} {buffer input after : List UInt8} {len : Nat} {p : DnsPacket} {name : Qname}
  {r : WalkedRecord} {rr : ResourceRecord}

/-- Two walks over one message see one header, and stop at one place. -/
theorem walkQuestion_unique {accepts other : Header → Bool} {x y : Qname × List UInt8}
    (first : walkQuestion accepts input = some x) (second : walkQuestion other input = some y) :
    x = y ∧ ∃ h, accepts h = true ∧ other h = true := by
  obtain ⟨n, after⟩ := x
  obtain ⟨m, later⟩ := y
  obtain ⟨h, qtHi, qtLo, qcHi, qcLo, accepted, short, bytes⟩ := walkQuestion_eq_some_iff.mp first
  obtain ⟨h', qtHi', qtLo', qcHi', qcLo', accepted', short', bytes'⟩ := walkQuestion_eq_some_iff.mp second
  obtain ⟨rfl, tails⟩ := Prod.mk.inj (Option.some.inj
    ((parseHeaderBytes_eq_some_iff.mpr bytes).symm.trans (parseHeaderBytes_eq_some_iff.mpr bytes')))
  obtain ⟨rfl, ends⟩ := Prod.mk.inj (Option.some.inj
    ((parseQname_eq_some_iff.mpr ⟨rfl, short⟩).symm.trans (parseQname_eq_some_iff.mpr ⟨tails, short'⟩)))
  simp only [List.cons.injEq] at ends
  obtain ⟨-, -, -, -, rfl⟩ := ends
  exact ⟨rfl, h, accepted, accepted'⟩

/-- The counts of one answer rule the OPT cases out. -/
theorem edns0_inapplicable (asked : walkQuestion (counts 1 1 0 0) input = some (name, after)) :
    generatedEdns0OptAdditionalPacketSubsetApplicable input = false := by
  obtain ⟨h, qtHi, qtLo, qcHi, qcLo, counted, -, bytes⟩ := walkQuestion_eq_some_iff.mp asked
  obtain ⟨qd, an, -, -⟩ := counts_iff.mp counted
  have unasked : counts 0 0 0 1 h = false := by
    rw [Bool.eq_false_iff, ne_eq, counts_iff]
    omega
  have other : walkQuestion (counts 1 0 0 1) input = none := by
    rw [Option.eq_none_iff_forall_ne_some]
    intro y second
    obtain ⟨-, h, first, second⟩ := walkQuestion_unique asked second
    have := (counts_iff.mp first).2.1
    have := (counts_iff.mp second).2.1
    omega
  simp [generatedEdns0OptAdditionalPacketSubsetApplicable, generatedEdns0OptAdditionalPacketFields,
    parseHeaderBytes_eq_some_iff.mpr bytes, unasked, other]

/-- They rule two addresses out, too. -/
theorem twoAddresses_inapplicable (asked : walkQuestion (counts 1 1 0 0) input = some (name, after)) :
    generatedUncompressedQuestionTwoAAnswerPacketSubsetApplicable input = false := by
  have other : walkQuestion (counts 1 2 0 0) input = none := by
    rw [Option.eq_none_iff_forall_ne_some]
    intro y second
    obtain ⟨-, h, first, second⟩ := walkQuestion_unique asked second
    have := (counts_iff.mp first).2.1
    have := (counts_iff.mp second).2.1
    omega
  simp [generatedUncompressedQuestionTwoAAnswerPacketSubsetApplicable,
    generatedUncompressedQuestionTwoAAnswerPacketFields, other]

/-- A walk over the answer rules a pointer in the owner's place out. -/
theorem compressedOwner_inapplicable (asked : walkQuestion (counts 1 1 0 0) input = some (name, after))
    (walked : walkRecord after = some r) : generatedCompressedAnswerNamePacketSubsetApplicable input = false := by
  obtain ⟨rrTail, named, -⟩ := walkRecord_eq_some_iff.mp walked
  have label := firstIsPointer_of_plain named
  have missing : generatedCompressedAnswerNamePacketFields input = none := by
    simp only [generatedCompressedAnswerNamePacketFields, asked]
    obtain _ | ⟨hi, _ | ⟨lo, tail⟩⟩ := after
    · rfl
    · rfl
    · have low : ¬ 192 ≤ hi.toNat := of_decide_eq_false label
      simp only [isLonePointer, low, decide_false, Bool.and_false, Bool.false_eq_true, if_false]
      cases walkFixedFields tail <;> simp
  rw [generatedCompressedAnswerNamePacketSubsetApplicable, missing]

/-- The shapes of RDATA that are one pointer after fixed octets are not partly compressed. -/
theorem compressedRdata_inapplicable (asked : walkQuestion (counts 1 1 0 0) input = some (name, after))
    (walked : walkRecord after = some r) {types : Nat → Bool} {skip : Nat}
    (label : types r.rrType = true → firstIsPointer (r.rdataTail.drop skip) = false) :
    compressedRdataSubsetApplicable types skip input = false := by
  rw [Bool.eq_false_iff]
  intro applicable
  obtain ⟨f, found⟩ := compressedRdataSubsetApplicable_found applicable
  obtain ⟨_, _, r', hi, lo, asked', walked', typed, -, octets, pointing, -, -⟩ :=
    compressedRdataPacketFields_eq_some found
  cases (walkQuestion_unique asked asked').1
  cases Option.some.inj (walked.symm.trans walked')
  have first := label typed
  rw [octets] at first
  exact of_decide_eq_false first pointing

theorem partlyCompressedRdata_soa_start (partly : partlyCompressedRdata 6 r.rdataTail = true) :
    firstIsPointer r.rdataTail = false := by
  rw [partlyCompressedRdata_soa] at partly
  cases first : parseQname 128 r.rdataTail with
  | none =>
    rw [first] at partly
    exact (endsInPointer_iff.mp partly).1
  | some result => exact firstIsPointer_of_plain first

theorem compressedBothSoa_inapplicable (asked : walkQuestion (counts 1 1 0 0) input = some (name, after))
    (walked : walkRecord after = some r) (partly : partlyCompressedRdata r.rrType r.rdataTail = true) :
    generatedCompressedBothSoaPacketSubsetApplicable input = false := by
  cases found : generatedCompressedBothSoaPacketFields input with
  | none => rw [generatedCompressedBothSoaPacketSubsetApplicable, found]
  | some s =>
    obtain ⟨_, _, r', mHi, mLo, rHi, rLo, timers, asked', walked', typed, -, rdata, -, pointing, -, -, -, -⟩ :=
      generatedCompressedBothSoaPacketFields_eq_some found
    cases (walkQuestion_unique asked asked').1
    cases Option.some.inj (walked.symm.trans walked')
    rw [typed] at partly
    have first := partlyCompressedRdata_soa_start partly
    rw [rdata] at first
    exact (of_decide_eq_false first pointing).elim

theorem compressedSoa_inapplicable (asked : walkQuestion (counts 1 1 0 0) input = some (name, after))
    (walked : walkRecord after = some r) (partly : partlyCompressedRdata r.rrType r.rdataTail = true) :
    generatedCompressedSoaPacketSubsetApplicable input = false := by
  cases found : generatedCompressedSoaPacketFields input with
  | none => rw [generatedCompressedSoaPacketSubsetApplicable, found]
  | some s =>
    obtain ⟨_, _, r', asked', walked', typed, fields⟩ := generatedCompressedSoaPacketFields_eq_some found
    cases (walkQuestion_unique asked asked').1
    cases Option.some.inj (walked.symm.trans walked')
    rw [typed] at partly
    obtain ⟨hi, lo, other, timers, pointing, -, -, short, -, ⟨rdata, -⟩ | ⟨rdata, -⟩⟩ :=
      compressedSoaFields_eq_some fields
    · have first := partlyCompressedRdata_soa_start partly
      rw [rdata] at first
      exact (of_decide_eq_false first pointing).elim
    · rw [partlyCompressedRdata_soa, parseQname_eq_some_iff.mpr ⟨rdata, short⟩] at partly
      exact (of_decide_eq_false (endsInPointer_iff.mp partly).1 pointing).elim

theorem isSome_ite {α : Type} (condition : Bool) (x : α) (later : Option α) :
    (if condition then some x else later).isSome = (condition || later.isSome) := by
  cases condition <;> rfl

/-- The order in which the classes are tried does not matter for the boundary. -/
theorem everparseBoundaryGeneratedSubsetApplicable_eq (input : List UInt8) :
    everparseBoundaryGeneratedSubsetApplicable input =
      (generatedEdns0OptAdditionalPacketSubsetApplicable input ||
        (generatedCompressedAnswerNamePacketSubsetApplicable input ||
        (generatedCompressedNameRdataPacketSubsetApplicable input ||
        (generatedCompressedMxPacketSubsetApplicable input ||
        (generatedCompressedBothSoaPacketSubsetApplicable input ||
        (generatedCompressedSoaPacketSubsetApplicable input ||
        (generatedCompressedSrvPacketSubsetApplicable input ||
        (generatedUncompressedQuestionTwoAAnswerPacketSubsetApplicable input ||
        (generatedUncompressedQuestionAnswerPacketSubsetApplicable input ||
        generatedUncompressedQuestionSubsetApplicable input))))))))) := by
  have chosen : everparseBoundaryGeneratedSubsetApplicable input = (classifyGeneratedSubset input).isSome := by
    rw [everparseBoundaryGeneratedSubsetApplicable]
    cases classifyGeneratedSubset input <;> rfl
  simp only [chosen, classifyGeneratedSubset, isSome_ite, Option.isSome_none, Bool.or_false]
  ac_rfl

theorem partlyCompressed_iff : partlyCompressed input = true ↔ ∃ p name after r,
    parseDnsPacketBytes input = some p ∧ walkQuestion (counts 1 1 0 0) input = some (name, after) ∧
      walkRecord after = some r ∧ partlyCompressedRdata r.rrType r.rdataTail = true := by
  simp only [partlyCompressed, validateDnsPacketBytes, Bool.and_eq_true, Option.isSome_iff_exists]
  constructor
  · rintro ⟨⟨p, parsed⟩, partly⟩
    split at partly
    · rename_i name after asked
      split at partly
      · rename_i r walked
        exact ⟨p, name, after, r, parsed, asked, walked, partly⟩
      · cases partly
    · cases partly
  · rintro ⟨p, name, after, r, parsed, asked, walked, partly⟩
    simp only [asked, walked, partly, and_true]
    exact ⟨p, parsed⟩

theorem ite_passes {condition first second : Bool} (here : condition = true → first = true)
    (there : condition = false → second = true) : (if condition then first else second) = true := by
  cases condition with
  | true => exact here rfl
  | false => exact there rfl

/-- The gate lets an accepted message through if a case applies and it is not partly compressed. -/
theorem gate_passes (correct : check.Correct) (held : buffer.take len = input)
    (parsed : parseDnsPacketBytes input = some p) (plain : partlyCompressed input = false)
    (applicable : everparseBoundaryGeneratedSubsetApplicable input = true) :
    validateGeneratedSubsetGateBuffer check buffer len input = true := by
  rw [validateGeneratedSubsetGateBuffer]
  refine ite_passes (edns0_passes correct held parsed) fun edns0 => ?_
  refine ite_passes (compressedOwner_passes correct held) fun owner => ?_
  refine ite_passes (compressedNameRdata_passes correct held) fun nameRdata => ?_
  refine ite_passes (compressedMx_passes correct held) fun mx => ?_
  refine ite_passes (compressedBothSoa_passes correct held) fun bothSoa => ?_
  refine ite_passes (compressedSoa_passes correct held) fun soa => ?_
  refine ite_passes (compressedSrv_passes correct held) fun srv => ?_
  refine ite_passes (twoAddresses_passes correct held) fun twoA => ?_
  refine ite_passes (fun here => ?_) fun answer => ?_
  · have found : ∃ f, generatedUncompressedQuestionAnswerPacketFields input = some f := by
      unfold generatedUncompressedQuestionAnswerPacketSubsetApplicable at here
      split at here
      · rename_i f found
        exact ⟨f, found⟩
      · cases here
    obtain ⟨f, found⟩ := found
    obtain ⟨name, after, r, asked, walked, rfl⟩ := answerFields_eq_some found
    obtain ⟨offset, rr, record⟩ := accepted_answer parsed asked
    obtain ⟨accepted, -⟩ := accepted_record record walked
    refine answer_passes correct held asked walked accepted found here ?_
    rw [Bool.eq_false_iff]
    intro partly
    rw [partlyCompressed_iff.mpr ⟨p, name, after, r, parsed, asked, walked, partly⟩] at plain
    cases plain
  · rw [everparseBoundaryGeneratedSubsetApplicable_eq, edns0, owner, nameRdata, mx, bothSoa, soa, srv, twoA,
      answer] at applicable
    exact ite_passes (question_passes correct held) fun question => question.symm.trans applicable

/-- A case applies to a partly compressed message, and the gate turns it down. -/
theorem gate_fails (check : GeneratedChecks) (buffer : List UInt8) (len : Nat)
    (partly : partlyCompressed input = true) :
    everparseBoundaryGeneratedSubsetApplicable input = true ∧
      validateGeneratedSubsetGateBuffer check buffer len input = false := by
  obtain ⟨p, name, after, r, parsed, asked, walked, partly⟩ := partlyCompressed_iff.mp partly
  obtain ⟨offset, rr, record⟩ := accepted_answer parsed asked
  obtain ⟨accepted, -⟩ := accepted_record record walked
  obtain ⟨applicable, fails⟩ := answer_fails check buffer len asked walked accepted partly
  have nameRdata : generatedCompressedNameRdataPacketSubsetApplicable input = false := by
    refine compressedRdata_inapplicable asked walked fun typed => ?_
    rcases isNameRdataType_iff.mp typed with same | same | same
    all_goals
      rw [same] at partly
      cases partly
  have mx : generatedCompressedMxPacketSubsetApplicable input = false := by
    refine compressedRdata_inapplicable asked walked fun typed => ?_
    rw [of_decide_eq_true typed, partlyCompressedRdata_mx] at partly
    exact (endsInPointer_iff.mp partly).1
  have srv : generatedCompressedSrvPacketSubsetApplicable input = false := by
    refine compressedRdata_inapplicable asked walked fun typed => ?_
    rw [of_decide_eq_true typed, partlyCompressedRdata_srv] at partly
    exact (endsInPointer_iff.mp partly).1
  constructor
  · simp only [everparseBoundaryGeneratedSubsetApplicable_eq, applicable, Bool.true_or, Bool.or_true]
  · simp only [validateGeneratedSubsetGateBuffer, edns0_inapplicable asked, compressedOwner_inapplicable asked walked,
      nameRdata, mx, compressedBothSoa_inapplicable asked walked partly,
      compressedSoa_inapplicable asked walked partly, srv, twoAddresses_inapplicable asked, applicable, fails,
      Bool.false_eq_true, if_false, if_true]

/-- What no case is made for is turned down. -/
theorem gate_inapplicable (inapplicable : everparseBoundaryGeneratedSubsetApplicable input = false) :
    validateGeneratedSubsetGateBuffer check buffer len input = false := by
  rw [everparseBoundaryGeneratedSubsetApplicable_eq] at inapplicable
  simp only [Bool.or_eq_false_iff] at inapplicable
  obtain ⟨edns0, owner, nameRdata, mx, bothSoa, soa, srv, twoA, answer, question⟩ := inapplicable
  simp only [validateGeneratedSubsetGateBuffer, edns0, owner, nameRdata, mx, bothSoa, soa, srv, twoA, answer, question,
    Bool.false_eq_true, if_false]

theorem readBufferRange_eq {pos remaining : Nat} (room : pos + remaining ≤ buffer.length) :
    readBufferRange buffer pos remaining = (buffer.drop pos).take remaining := by
  induction remaining generalizing pos with
  | zero => rw [readBufferRange, List.take_zero]
  | succ remaining ih =>
    have inside : pos < buffer.length := by omega
    rw [readBufferRange, ih (by omega), List.drop_eq_getElem_cons inside, List.take_succ_cons,
      List.getD_eq_getElem?_getD, List.getElem?_eq_getElem inside, Option.getD_some]

/-- The two production boundaries agree on a message exactly when it is not partly compressed. -/
theorem production_boundaries_agree_iff (check : GeneratedChecks) (correct : check.Correct) (b buffer : List UInt8)
    (held : b <+: buffer) :
    parseDnsPacketBuffer check buffer b.length = parseDnsPacketBytesAtBoundary b ↔ partlyCompressed b = false := by
  have taken : buffer.take b.length = b := (List.prefix_iff_eq_take.mp held).symm
  have bytes : readBufferRange buffer 0 b.length = b := by
    rw [readBufferRange_eq (by rw [Nat.zero_add]; exact held.length_le), List.drop_zero, taken]
  have generated : parseDnsPacketBytesGenerated b = parseDnsPacketBytes b := rfl
  simp only [parseDnsPacketBuffer, bytes, parseDnsPacketBytesAtBoundary, generated]
  cases partly : partlyCompressed b with
  | true =>
    obtain ⟨applicable, gate⟩ := gate_fails check buffer b.length partly
    obtain ⟨p, -, -, -, parsed, -, -, -⟩ := partlyCompressed_iff.mp partly
    simp [applicable, gate, parsed]
  | false =>
    simp only [iff_true]
    cases applicable : everparseBoundaryGeneratedSubsetApplicable b with
    | false => rw [gate_inapplicable applicable]
    | true =>
      cases parsed : parseDnsPacketBytes b with
      | none => simp
      | some p => rw [gate_passes correct taken parsed partly applicable]

/-- The validators that run the formats of the entry points. -/
def formatChecks : GeneratedChecks where
  dnsUncompressedQuestion q input := ((Grammar.dnsUncompressedQuestion q).validate input).isSome
  dnsUncompressedQuestionAnswerPacket q r d input :=
    ((Grammar.dnsUncompressedQuestionAnswerPacket q r d).validate input).isSome
  dnsUncompressedQuestionAAnswerPacket q r input :=
    ((Grammar.dnsUncompressedQuestionAAnswerPacket q r).validate input).isSome
  dnsUncompressedQuestionAaaaAnswerPacket q r input :=
    ((Grammar.dnsUncompressedQuestionAaaaAnswerPacket q r).validate input).isSome
  dnsUncompressedQuestionTwoAAnswerPacket q r s input :=
    ((Grammar.dnsUncompressedQuestionTwoAAnswerPacket q r s).validate input).isSome
  dnsUncompressedQuestionNameRdataAnswerPacket q r d t input :=
    ((Grammar.dnsUncompressedQuestionNameRdataAnswerPacket q r d t).validate input).isSome
  dnsUncompressedQuestionCompressedNameRdataAnswerPacket q r t hi lo input :=
    ((Grammar.dnsUncompressedQuestionCompressedNameRdataAnswerPacket q r t hi lo).validate input).isSome
  dnsUncompressedQuestionMxAnswerPacket q r d input :=
    ((Grammar.dnsUncompressedQuestionMxAnswerPacket q r d).validate input).isSome
  dnsUncompressedQuestionCompressedMxAnswerPacket q r hi lo input :=
    ((Grammar.dnsUncompressedQuestionCompressedMxAnswerPacket q r hi lo).validate input).isSome
  dnsUncompressedQuestionSoaAnswerPacket q r m n input :=
    ((Grammar.dnsUncompressedQuestionSoaAnswerPacket q r m n).validate input).isSome
  dnsUncompressedQuestionCompressedSoaMnameAnswerPacket q r n hi lo input :=
    ((Grammar.dnsUncompressedQuestionCompressedSoaMnameAnswerPacket q r n hi lo).validate input).isSome
  dnsUncompressedQuestionCompressedSoaRnameAnswerPacket q r m hi lo input :=
    ((Grammar.dnsUncompressedQuestionCompressedSoaRnameAnswerPacket q r m hi lo).validate input).isSome
  dnsUncompressedQuestionCompressedSoaAnswerPacket q r mHi mLo rHi rLo input :=
    ((Grammar.dnsUncompressedQuestionCompressedSoaAnswerPacket q r mHi mLo rHi rLo).validate input).isSome
  dnsUncompressedQuestionSrvAnswerPacket q r d input :=
    ((Grammar.dnsUncompressedQuestionSrvAnswerPacket q r d).validate input).isSome
  dnsUncompressedQuestionCompressedSrvAnswerPacket q r hi lo input :=
    ((Grammar.dnsUncompressedQuestionCompressedSrvAnswerPacket q r hi lo).validate input).isSome
  dnsUncompressedQuestionTxtAnswerPacket q r d input :=
    ((Grammar.dnsUncompressedQuestionTxtAnswerPacket q r d).validate input).isSome
  dnsUncompressedQuestionCompressedAnswerNamePacket q d hi lo input :=
    ((Grammar.dnsUncompressedQuestionCompressedAnswerNamePacket q d hi lo).validate input).isSome
  dnsOptAdditionalPacket d input := ((Grammar.dnsOptAdditionalPacket d).validate input).isSome
  dnsUncompressedQuestionOptAdditionalPacket q d input :=
    ((Grammar.dnsUncompressedQuestionOptAdditionalPacket q d).validate input).isSome

theorem formatChecks_correct : formatChecks.Correct where
  question _ := Format.validates _
  answer _ _ _ := Format.validates _
  a _ _ := Format.validates _
  aaaa _ _ := Format.validates _
  twoA _ _ _ := Format.validates _
  nameRdata _ _ _ _ := Format.validates _
  compressedNameRdata _ _ _ _ _ := Format.validates _
  mx _ _ _ := Format.validates _
  compressedMx _ _ _ _ := Format.validates _
  soa _ _ _ _ := Format.validates _
  compressedSoaMname _ _ _ _ _ := Format.validates _
  compressedSoaRname _ _ _ _ _ := Format.validates _
  compressedSoa _ _ _ _ _ _ := Format.validates _
  srv _ _ _ := Format.validates _
  compressedSrv _ _ _ _ := Format.validates _
  txt _ _ _ := Format.validates _
  compressedOwner _ _ _ _ := Format.validates _
  opt _ := Format.validates _
  questionOpt _ _ := Format.validates _

/-- The mail exchange of `a.` with the given exchange name. -/
def exchangeResponse (rdlen : UInt8) (exchange : List UInt8) : List UInt8 :=
  [0, 0, 0x81, 0x80, 0, 1, 0, 1, 0, 0, 0, 0, 1, 97, 0, 0, 15, 0, 1, 1, 97, 0, 0, 15, 0, 1, 0, 0, 0, 60, 0, rdlen, 0, 10]
    ++ exchange

theorem production_boundaries_agree_plain_exchange :
    parseDnsPacketBuffer formatChecks (exchangeResponse 7 [1, 109, 1, 97, 0] ++ [9, 9]) 39 =
      parseDnsPacketBytesAtBoundary (exchangeResponse 7 [1, 109, 1, 97, 0]) :=
  (production_boundaries_agree_iff formatChecks formatChecks_correct _ _ ⟨_, rfl⟩).mpr (by decide +kernel)

/-- The exchange `m.a.` with its second label behind a pointer to the question name. -/
theorem production_boundaries_differ_compressed_exchange :
    formatChecks.Correct ∧
      parseDnsPacketBuffer formatChecks (exchangeResponse 6 [1, 109, 0xC0, 0x0C]) 38 = none ∧
      (parseDnsPacketBytesAtBoundary (exchangeResponse 6 [1, 109, 0xC0, 0x0C])).isSome = true :=
  ⟨formatChecks_correct, by decide +kernel⟩

end Agreement

end Ism
