import Ism.BoundaryAgreement
import Ism.NameFuel

namespace Ism

open Lib

section Pointers

variable {input rest : List UInt8} {name : Qname} {limit : Nat}

theorem parseQnameCompressedBounded_pointer {known : List Nat} {fuel remaining : Nat} {hi : UInt8} {tail : List UInt8}
    (pointing : isPointer hi = true)
    (parsed : parseQnameCompressedBounded input known (fuel + 1) remaining limit (hi :: tail) = some (name, rest)) :
    ∃ lo, tail = lo :: rest ∧ ∀ other,
      parseQnameCompressedBounded input known (fuel + 1) remaining limit (hi :: lo :: other) = some (name, other) := by
  have nonzero : hi ≠ 0 := by
    rintro rfl
    cases pointing
  obtain _ | ⟨lo, tail⟩ := tail
  · rw [parseQnameCompressedBounded, if_neg nonzero, if_pos pointing] at parsed
    cases parsed
  simp only [parseQnameCompressedBounded, if_neg nonzero, if_pos pointing] at parsed ⊢
  refine ⟨lo, ?_⟩
  split at parsed
  swap
  · cases parsed
  rename_i valid
  cases target : suffixAt (pointerOffset hi lo) input with
  | none =>
    rw [target] at parsed
    cases parsed
  | some octets =>
    simp only [target] at parsed
    cases decoded : parseQnameCompressedBounded input known fuel remaining (pointerOffset hi lo) octets with
    | none =>
      rw [decoded] at parsed
      cases parsed
    | some result =>
      simp only [decoded] at parsed
      split at parsed
      swap
      · cases parsed
      rename_i fits
      obtain ⟨rfl, rfl⟩ := Prod.mk.inj (Option.some.inj parsed)
      simp only [valid, decoded, fits, if_true, implies_true, and_self]

/-- A name that starts with a pointer is the pointer alone. -/
theorem parseQnameCompressed_pointer {octets : List UInt8} (pointer : firstIsPointer octets = true)
    (parsed : parseQnameCompressed 128 input limit octets = some (name, rest)) :
    ∃ hi lo, octets = hi :: lo :: rest ∧ 192 ≤ hi.toNat ∧ isWholeName input limit hi lo = true := by
  obtain _ | ⟨hi, tail⟩ := octets
  · cases pointer
  obtain ⟨lo, rfl, alone⟩ := parseQnameCompressedBounded_pointer pointer parsed
  refine ⟨hi, lo, rfl, of_decide_eq_true pointer, ?_⟩
  have whole : parseQnameCompressed 128 input limit [hi, lo] = some (name, []) := alone []
  rw [isWholeName, whole]

/-- A name in one piece: written out, or a pointer and nothing else. -/
theorem endsInPointer_eq_false_iff {nameBytes : List UInt8} : endsInPointer nameBytes = false ↔
    firstIsPointer nameBytes = true ∨ ∃ result, parseQname 128 nameBytes = some result := by
  rw [Bool.eq_false_iff, ne_eq, endsInPointer_iff, not_and_or, Bool.not_eq_false]
  exact or_congr_right Option.ne_none_iff_exists'

end Pointers

section Placed

variable {input after : List UInt8} {p : DnsPacket} {name : Qname} {r : WalkedRecord} {rr : ResourceRecord}

theorem accepted_answer_at (parsed : parseDnsPacketBytes input = some p)
    (asked : walkQuestion (counts 1 1 0 0) input = some (name, after)) :
    ∃ rr, parseResourceRecordBytesAt input (16 + dnsNameLength name) false after = some (rr, []) := by
  obtain ⟨counted, rest, afterAnswers, afterAuthorities, read⟩ := accepted_question parsed asked
    fun h counted => (counts_iff.mp counted).1
  obtain ⟨-, an, ns, ar⟩ := counts_iff.mp counted
  obtain ⟨-, -, answers, authorities, additionals⟩ := read
  rw [an, parseResourceRecordsBytesAt, readCountedAt_one] at answers
  rw [ns, parseResourceRecordsBytesAt, readCountedAt_zero] at authorities
  rw [ar, parseResourceRecordsBytesAt, readCountedAt_zero] at additionals
  obtain ⟨-, rfl⟩ := Prod.mk.inj (Option.some.inj authorities)
  obtain ⟨-, rfl⟩ := Prod.mk.inj (Option.some.inj additionals)
  obtain ⟨rr, first, -⟩ := answers
  have offset : offsetFromTail input after = 16 + dnsNameLength name := by
    have length := (walkQuestion_length asked).1
    rw [offsetFromTail, if_pos (by omega)]
    omega
  rw [offset] at first
  exact ⟨rr, first⟩

/-- The RDATA of an answer with a written-out owner, checked where it stands. -/
theorem accepted_rdata_at (parsed : parseDnsPacketBytes input = some p)
    (asked : walkQuestion (counts 1 1 0 0) input = some (name, after)) (walked : walkRecord after = some r) :
    ∃ rr, AcceptedRecord input false r rr ∧ validRdataShapeAt input
      (26 + dnsNameLength name + dnsNameLength r.rrName) rr.rtype rr.rdlen r.rdataTail = true := by
  obtain ⟨rr, first⟩ := accepted_answer_at parsed asked
  obtain ⟨accepted, bytes⟩ := accepted_record first walked
  refine ⟨rr, accepted, ?_⟩
  have shaped := (parseRecordWith_eq_some_iff.mp first).shaped
  have owner : offsetFromTail after (recordFixedBytes rr ++ (rr.rdata ++ [])) = dnsNameLength rr.name := by
    rw [bytes, offsetFromTail, List.append_nil]
    simp only [List.length_append, serializeQnameLabels_length]
    rw [if_pos (by omega)]
    omega
  rw [owner, List.append_nil] at shaped
  have place : 16 + dnsNameLength name + (dnsNameLength rr.name + 10) =
      26 + dnsNameLength name + dnsNameLength rr.name := by
    omega
  rw [accepted.same, ← place]
  exact shaped

end Placed

/-- What the pure boundary asks of the names in the RDATA of an answer with a written-out
owner. A label before a pointer goes unnoticed in MX, SRV and the first name of SOA. -/
def rdataCovered (rrType : Nat) (rdata : List UInt8) : Bool :=
  if isNameRdataType rrType then !endsInPointer rdata
  else if rrType = 6 then !(firstIsPointer rdata && endsInPointer (rdata.drop 2))
  else true

/-- The accepted messages that a boundary is for, given what it asks of the names in the RDATA
of an answer with a written-out owner. -/
inductive Covered (names : Nat → List UInt8 → Bool) (input : List UInt8) (p : DnsPacket) : Prop
  | question (counted : counts 1 0 0 0 p.header = true)
  | pointedAnswer {name : Qname} {after : List UInt8}
    (asked : walkQuestion (counts 1 1 0 0) input = some (name, after)) (pointer : firstIsPointer after = true)
  | answer {name : Qname} {after : List UInt8} {r : WalkedRecord}
    (asked : walkQuestion (counts 1 1 0 0) input = some (name, after)) (walked : walkRecord after = some r)
    (whole : names r.rrType r.rdataTail = true)
  | addresses {name first second : Qname} {after afterFirst : List UInt8}
    (asked : walkQuestion (counts 1 2 0 0) input = some (name, after))
    (one : walkAddressRecord after = some (first, afterFirst)) (two : walkAddressRecord afterFirst = some (second, []))
  | opt {after : List UInt8} {r : WalkedRecord} (counted : counts 0 0 0 1 p.header = true)
    (header : parseHeaderBytes input = some (p.header, after)) (walked : walkRecord after = some r)
    (typed : r.rrType = 41)
  | askedOpt {name : Qname} {after : List UInt8} {r : WalkedRecord}
    (asked : walkQuestion (counts 1 0 0 1) input = some (name, after)) (walked : walkRecord after = some r)
    (typed : r.rrType = 41)

section Applicable

variable {input after : List UInt8} {p : DnsPacket} {name : Qname} {r : WalkedRecord}

theorem answer_covered (parsed : parseDnsPacketBytes input = some p)
    (applicable : generatedUncompressedQuestionAnswerPacketSubsetApplicable input = true) :
    Covered rdataCovered input p := by
  unfold generatedUncompressedQuestionAnswerPacketSubsetApplicable at applicable
  split at applicable
  swap
  · cases applicable
  rename_i f found
  obtain ⟨name, after, r, asked, walked, rfl⟩ := answerFields_eq_some found
  obtain ⟨rr, accepted, -⟩ := accepted_rdata_at parsed asked walked
  have exactly := accepted.input_length asked walked
  refine Covered.answer asked walked ?_
  simp only [answerPacketFields, exactly, ne_eq, not_true_eq_false, decide_false, Bool.or_false, Bool.and_eq_true,
    decide_true] at applicable
  obtain ⟨-, typed⟩ := applicable
  rw [rdataCovered]
  by_cases named : isNameRdataType r.rrType = true
  · have kinds := isNameRdataType_iff.mp named
    rw [if_pos named]
    rw [if_neg (by omega), if_neg (by omega), if_pos named, rdataNameLength, if_pos named, plainNameLength] at typed
    rw [Bool.not_eq_true', endsInPointer_eq_false_iff]
    cases plain : parseQname 128 r.rdataTail with
    | none =>
      rw [plain] at typed
      cases typed
    | some result => exact Or.inr ⟨result, rfl⟩
  · rw [if_neg named]
    by_cases soa : r.rrType = 6
    · rw [if_pos soa]
      rw [soa] at typed
      change (!rdataNameStartsWithPointer 6 r.rdataTail) = true at typed
      rw [rdataNameStartsWithPointer_soa, Bool.not_or, Bool.and_eq_true, Bool.not_eq_true'] at typed
      rw [typed.1]
      rfl
    · rw [if_neg soa]

theorem compressedOwner_covered (applicable : generatedCompressedAnswerNamePacketSubsetApplicable input = true) :
    Covered rdataCovered input p := by
  unfold generatedCompressedAnswerNamePacketSubsetApplicable at applicable
  split at applicable
  swap
  · cases applicable
  rename_i f found
  unfold generatedCompressedAnswerNamePacketFields at found
  split at found
  swap
  · cases found
  rename_i name after asked
  split at found
  swap
  · cases found
  rename_i ptrHi ptrLo rrTail
  split at found
  swap
  · cases found
  split at found
  swap
  · cases found
  split at found
  swap
  · cases found
  rename_i lone
  rw [isLonePointer, Bool.and_eq_true] at lone
  exact Covered.pointedAnswer asked lone.2

theorem compressedRdata_covered {types : Nat → Bool} {skip : Nat}
    (named : ∀ rrType, types rrType = true → isNameRdataType rrType = true → skip = 0)
    (single : ∀ rrType, types rrType = true → rrType ≠ 6)
    (applicable : compressedRdataSubsetApplicable types skip input = true) : Covered rdataCovered input p := by
  obtain ⟨f, found⟩ := compressedRdataSubsetApplicable_found applicable
  obtain ⟨name, after, r, hi, lo, asked, walked, typed, -, octets, pointing, -, -⟩ :=
    compressedRdataPacketFields_eq_some found
  refine Covered.answer asked walked ?_
  rw [rdataCovered]
  split_ifs with name soa
  · rw [named _ typed name, List.drop_zero] at octets
    rw [Bool.not_eq_true', endsInPointer_eq_false_iff, octets]
    exact Or.inl (decide_eq_true pointing)
  · exact absurd soa (single _ typed)
  · rfl

theorem compressedBothSoa_covered (applicable : generatedCompressedBothSoaPacketSubsetApplicable input = true) :
    Covered rdataCovered input p := by
  unfold generatedCompressedBothSoaPacketSubsetApplicable at applicable
  split at applicable
  swap
  · cases applicable
  rename_i f found
  obtain ⟨name, after, r, mHi, mLo, rHi, rLo, timers, asked, walked, typed, -, rdata, -, -, -, pointing, -, -⟩ :=
    generatedCompressedBothSoaPacketFields_eq_some found
  refine Covered.answer asked walked ?_
  have second : endsInPointer (r.rdataTail.drop 2) = false := by
    rw [endsInPointer_eq_false_iff, rdata]
    exact Or.inl (decide_eq_true pointing)
  rw [rdataCovered, typed, second, Bool.and_false]
  rfl

theorem compressedSoa_covered (applicable : generatedCompressedSoaPacketSubsetApplicable input = true) :
    Covered rdataCovered input p := by
  unfold generatedCompressedSoaPacketSubsetApplicable at applicable
  split at applicable
  swap
  · cases applicable
  rename_i f found
  obtain ⟨name, after, r, asked, walked, typed, fields⟩ := generatedCompressedSoaPacketFields_eq_some found
  obtain ⟨hi, lo, other, timers, -, -, -, short, -, ⟨rdata, -⟩ | ⟨rdata, -⟩⟩ := compressedSoaFields_eq_some fields
  · have second : endsInPointer (r.rdataTail.drop 2) = false := by
      rw [endsInPointer_eq_false_iff, rdata]
      exact Or.inr ⟨_, parseQname_eq_some_iff.mpr ⟨rfl, short⟩⟩
    refine Covered.answer asked walked ?_
    rw [rdataCovered, typed, second, Bool.and_false]
    rfl
  · have first : firstIsPointer r.rdataTail = false :=
      firstIsPointer_of_plain (parseQname_eq_some_iff.mpr ⟨rdata, short⟩)
    refine Covered.answer asked walked ?_
    rw [rdataCovered, typed, first, Bool.false_and]
    rfl

theorem twoAddresses_covered (applicable : generatedUncompressedQuestionTwoAAnswerPacketSubsetApplicable input = true) :
    Covered rdataCovered input p := by
  unfold generatedUncompressedQuestionTwoAAnswerPacketSubsetApplicable at applicable
  split at applicable
  swap
  · cases applicable
  rename_i q first second found
  clear applicable
  unfold generatedUncompressedQuestionTwoAAnswerPacketFields at found
  split at found
  swap
  · cases found
  rename_i name after asked
  split at found
  swap
  · cases found
  rename_i firstName afterFirst one
  split at found
  swap
  · cases found
  rename_i secondName two
  exact Covered.addresses asked one two

theorem edns0_covered (parsed : parseDnsPacketBytes input = some p)
    (applicable : generatedEdns0OptAdditionalPacketSubsetApplicable input = true) : Covered rdataCovered input p := by
  unfold generatedEdns0OptAdditionalPacketSubsetApplicable at applicable
  split at applicable
  swap
  · cases applicable
  rename_i f found
  clear applicable
  unfold generatedEdns0OptAdditionalPacketFields at found
  split at found
  swap
  · cases found
  rename_i h afterHeader header
  obtain ⟨rest, afterQuestions, afterAnswers, afterAuthorities, read⟩ := parsePacketWith_eq_some_iff.mp parsed
  obtain ⟨same, -⟩ := Prod.mk.inj (Option.some.inj (read.header.symm.trans header))
  split at found
  · rename_i counted
    obtain ⟨r, walked, typed, -⟩ := parseOptAdditional_eq_some found
    exact Covered.opt (same ▸ counted) (same ▸ header) walked typed
  · split at found
    swap
    · cases found
    rename_i name after asked
    obtain ⟨r, walked, typed, -⟩ := parseOptAdditional_eq_some found
    exact Covered.askedOpt asked walked typed

theorem record_needs_ten {owner : List UInt8 → Option (Qname × List UInt8)}
    {shape : Nat → Qtype → UInt16 → List UInt8 → Bool} {additionalSection : Bool} {octets tail : List UInt8}
    (owned : owner octets = some (name, tail)) (short : tail.length < 10) :
    parseRecordWith owner shape additionalSection octets = none := by
  rw [Option.eq_none_iff_forall_ne_some]
  rintro ⟨rr, rest⟩ parsed
  have again := (parseRecordWith_eq_some_iff.mp parsed).owned
  rw [owned] at again
  have length := congrArg List.length (Prod.mk.inj (Option.some.inj again)).2
  rw [List.length_append] at length
  have fixed : (recordFixedBytes rr).length = 10 := rfl
  omega

/-- The validator of one question does not look at the counts; on an accepted message they
cannot be others, since there is no room for a record. -/
theorem question_covered (parsed : parseDnsPacketBytes input = some p)
    (applicable : generatedUncompressedQuestionSubsetApplicable input = true) : Covered rdataCovered input p := by
  have positive : generatedUncompressedQuestionQnameLength input ≠ 0 := by
    intro zero
    rw [generatedUncompressedQuestionSubsetApplicable, zero] at applicable
    cases applicable
  have found : ∃ name tail, parseQname 128 (input.drop 12) = some (name, tail) ∧ tail.length = 4 := by
    unfold generatedUncompressedQuestionQnameLength at positive
    split at positive
    · exact absurd rfl positive
    split at positive
    swap
    · exact absurd rfl positive
    rename_i name tail plain
    split at positive
    · rename_i four
      exact ⟨name, tail, plain, four⟩
    · exact absurd rfl positive
  obtain ⟨name, tail, plain, four⟩ := found
  obtain ⟨rest, afterQuestions, afterAnswers, afterAuthorities, header, questions, answers, authorities, additionals⟩ :=
    parsePacketWith_eq_some_iff.mp parsed
  have start : input.drop 12 = rest := by
    rw [parseHeaderBytes_eq_some_iff.mp header]
    exact List.drop_left' rfl
  rw [start] at plain
  rw [parseResourceRecordsBytesAt] at answers authorities additionals
  have through {octets : List UInt8} (same : afterQuestions = octets)
      (stuck : ∀ additionalSection offset, parseResourceRecordBytesAt input offset additionalSection octets = none) :
      p.header.ancount.toNat = 0 ∧ p.header.nscount.toNat = 0 ∧ p.header.arcount.toNat = 0 ∧ octets = [] := by
    rw [same] at answers
    obtain ⟨an, here⟩ := readCountedAt_stuck (stuck false) answers
    rw [here] at authorities
    obtain ⟨ns, there⟩ := readCountedAt_stuck (stuck false) authorities
    rw [there] at additionals
    obtain ⟨ar, ended⟩ := readCountedAt_stuck (stuck true) additionals
    exact ⟨an, ns, ar, ended.symm⟩
  have exhausted : ∀ additionalSection offset, parseResourceRecordBytesAt input offset additionalSection [] = none :=
    fun _ _ => rfl
  refine Covered.question (counts_iff.mpr ?_)
  cases asked : p.header.qdcount.toNat with
  | zero =>
    rw [asked, parseQuestionsBytes, readCounted, readCountedAt_zero] at questions
    have stuck : ∀ additionalSection offset,
        parseResourceRecordBytesAt input offset additionalSection rest = none := fun _ _ =>
      record_needs_ten (parseQnameCompressed_of_plain plain) (by omega)
    obtain ⟨-, -, -, empty⟩ := through (Prod.mk.inj (Option.some.inj questions)).2.symm stuck
    rw [empty] at plain
    cases plain
  | succ more =>
    rw [asked, parseQuestionsBytes, readCounted, readCountedAt_succ_eq_some] at questions
    obtain ⟨question, later, afterFirst, first, second, -⟩ := questions
    obtain ⟨_, _, _, _, named, -, -⟩ := parseQuestionBytes_eq_some_iff.mp first
    obtain ⟨-, rfl⟩ := Prod.mk.inj (Option.some.inj (plain.symm.trans named))
    obtain rfl : afterFirst = [] := List.length_eq_zero_iff.mp (by simpa using four)
    obtain ⟨rfl, unread⟩ := readCountedAt_stuck (fun _ => rfl) second
    obtain ⟨an, ns, ar, -⟩ := through unread exhausted
    exact ⟨rfl, an, ns, ar⟩

end Applicable

section Reached

variable {input after : List UInt8} {p : DnsPacket} {name : Qname} {r : WalkedRecord} {rr : ResourceRecord}

theorem accepted_walkQuestion {an ns ar : Nat} (parsed : parseDnsPacketBytes input = some p)
    (counted : counts 1 an ns ar p.header = true) :
    ∃ name after, walkQuestion (counts 1 an ns ar) input = some (name, after) := by
  obtain ⟨rest, afterQuestions, afterAnswers, afterAuthorities, header, questions, -, -, -⟩ :=
    parsePacketWith_eq_some_iff.mp parsed
  rw [(counts_iff.mp counted).1, parseQuestionsBytes, readCounted, readCountedAt_one] at questions
  obtain ⟨question, first, -⟩ := questions
  obtain ⟨qtHi, qtLo, qcHi, qcLo, named, -, -⟩ := parseQuestionBytes_eq_some_iff.mp first
  obtain ⟨bytes, short⟩ := parseQname_eq_some_iff.mp named
  refine ⟨question.qname, afterQuestions, walkQuestion_eq_some_iff.mpr
    ⟨p.header, qtHi, qtLo, qcHi, qcLo, counted, short, ?_⟩⟩
  rw [parseHeaderBytes_eq_some_iff.mp header, bytes]

theorem question_applicable (parsed : parseDnsPacketBytes input = some p)
    (counted : counts 1 0 0 0 p.header = true) : generatedUncompressedQuestionSubsetApplicable input = true := by
  obtain ⟨name, after, asked⟩ := accepted_walkQuestion parsed counted
  obtain ⟨-, rest, afterAnswers, afterAuthorities, -, -, answers, authorities, additionals⟩ :=
    accepted_question parsed asked fun h counted => (counts_iff.mp counted).1
  obtain ⟨-, an, ns, ar⟩ := counts_iff.mp counted
  rw [an, parseResourceRecordsBytesAt, readCountedAt_zero] at answers
  rw [ns, parseResourceRecordsBytesAt, readCountedAt_zero] at authorities
  rw [ar, parseResourceRecordsBytesAt, readCountedAt_zero] at additionals
  obtain ⟨-, rfl⟩ := Prod.mk.inj (Option.some.inj answers)
  obtain ⟨-, rfl⟩ := Prod.mk.inj (Option.some.inj authorities)
  obtain ⟨-, rfl⟩ := Prod.mk.inj (Option.some.inj additionals)
  obtain ⟨length, short⟩ := walkQuestion_length asked
  rw [List.length_nil] at length
  obtain ⟨h, qtHi, qtLo, qcHi, qcLo, -, -, bytes⟩ := walkQuestion_eq_some_iff.mp asked
  have positive := dnsNameLength_pos name
  have start : input.drop 12 = serializeQnameLabels name ++ [qtHi, qtLo, qcHi, qcLo] := by
    rw [bytes]
    exact List.drop_left' rfl
  have measured : generatedUncompressedQuestionQnameLength input = dnsNameLength name := by
    rw [generatedUncompressedQuestionQnameLength, if_neg (by omega), start,
      parseQname_eq_some_iff.mpr ⟨rfl, short⟩]
    rfl
  simp only [generatedUncompressedQuestionSubsetApplicable, measured]
  rw [if_neg (by omega), decide_eq_true_eq]
  omega

theorem pointedAnswer_applicable (parsed : parseDnsPacketBytes input = some p)
    (asked : walkQuestion (counts 1 1 0 0) input = some (name, after)) (pointer : firstIsPointer after = true) :
    generatedCompressedAnswerNamePacketSubsetApplicable input = true := by
  obtain ⟨rr, first⟩ := accepted_answer_at parsed asked
  obtain ⟨owned, length, -, -, -, -⟩ := parseRecordWith_eq_some_iff.mp first
  rw [List.append_nil] at owned
  obtain ⟨hi, lo, rfl, pointing, whole⟩ := parseQnameCompressed_pointer pointer owned
  obtain ⟨total, short⟩ := walkQuestion_length asked
  have positive := dnsNameLength_pos name
  have fixed : (recordFixedBytes rr).length = 10 := rfl
  have wide := rr.rdlen.toNat_lt
  have low := lo.toNat_lt
  have high := hi.toNat_lt
  simp only [List.length_cons, List.length_append, fixed] at total
  have found : generatedCompressedAnswerNamePacketFields input =
      some ⟨dnsNameLength name, rr.rdlen.toNat, (qtypeToU16 rr.rtype).toNat, hi.toNat, lo.toNat⟩ := by
    simp only [generatedCompressedAnswerNamePacketFields, asked, walkFixedFields_recordFixedBytes, length, if_true,
      isLonePointer, whole, pointing, decide_true, Bool.and_self]
  simp only [generatedCompressedAnswerNamePacketSubsetApplicable, found, validPointerOctets, Bool.and_eq_true,
    decide_eq_true_eq]
  omega

theorem answer_applicable (asked : walkQuestion (counts 1 1 0 0) input = some (name, after))
    (walked : walkRecord after = some r) (accepted : AcceptedRecord input false r rr)
    (label : rdataNameStartsWithPointer r.rrType r.rdataTail = false)
    (named : isNameRdataType r.rrType = true → ∃ result, parseQname 128 r.rdataTail = some result) :
    generatedUncompressedQuestionAnswerPacketSubsetApplicable input = true := by
  have found := answerFields_of_accepted asked walked accepted
  have exactly := accepted.input_length asked walked
  have question := (walkQuestion_length asked).2
  have owner := (walkRecord_length walked).2
  have sized : 0 < dnsNameLength name ∧ dnsNameLength name ≤ 255 ∧ 0 < dnsNameLength r.rrName ∧
      dnsNameLength r.rrName ≤ 255 ∧ r.rdataLength ≤ 65535 :=
    ⟨dnsNameLength_pos name, question, dnsNameLength_pos r.rrName, owner.1, by omega⟩
  simp only [generatedUncompressedQuestionAnswerPacketSubsetApplicable, found, answerPacketFields, sized, and_self,
    decide_true, Bool.true_and, label, exactly, Bool.not_false, Bool.true_or, Bool.or_true]
  split_ifs with _ _ name
  all_goals try rfl
  obtain ⟨result, plain⟩ := named name
  rw [rdataNameLength, if_pos name, plainNameLength, plain]
  rfl

theorem validPointerOctets_toNat {hi lo : UInt8} (pointing : 192 ≤ hi.toNat) :
    validPointerOctets hi.toNat lo.toNat = true := by
  have high := hi.toNat_lt
  have low := lo.toNat_lt
  rw [validPointerOctets, decide_eq_true_eq]
  omega

theorem compressedRdata_applicable {types : Nat → Bool} {least skip : Nat}
    (asked : walkQuestion (counts 1 1 0 0) input = some (name, after)) (walked : walkRecord after = some r)
    (accepted : AcceptedRecord input false r rr)
    (shaped : validRdataShapeAt input (26 + dnsNameLength name + dnsNameLength r.rrName) rr.rtype rr.rdlen
      r.rdataTail = true)
    (typed : types r.rrType = true) (form : rdataForm rr.rtype = .name least skip)
    (pointer : firstIsPointer (r.rdataTail.drop skip) = true) :
    compressedRdataSubsetApplicable types skip input = true := by
  have found := answerFields_of_accepted asked walked accepted
  have exactly := accepted.input_length asked walked
  have rdata := accepted.rdata_length
  have question := (walkQuestion_length asked).2
  have owner := (walkRecord_length walked).2.1
  have positive := dnsNameLength_pos name
  have positive' := dnsNameLength_pos r.rrName
  rw [validRdataShapeAt_eq, form] at shaped
  obtain ⟨-, fits, inside, n, decoded⟩ := validNameAfter_iff.mp shaped
  have whole : rr.rdlen.toNat = r.rdataTail.length := by
    rw [rdata, accepted.same]
  rw [whole, List.take_length] at decoded
  obtain ⟨hi, lo, octets, pointing, one⟩ := parseQnameCompressed_pointer pointer decoded
  have length := congrArg List.length octets
  rw [List.length_drop, List.length_cons, List.length_cons, List.length_nil] at length
  have place : 26 + dnsNameLength name + dnsNameLength r.rrName + skip =
      26 + skip + dnsNameLength name + dnsNameLength r.rrName := by
    omega
  rw [place] at one
  have fields : compressedRdataPacketFields types skip input =
      some ⟨dnsNameLength name, dnsNameLength r.rrName, r.rrType, hi.toNat, lo.toNat⟩ := by
    have sized : types r.rrType = true ∧ r.rdataLength = skip + 2 ∧
        input.length = 28 + skip + dnsNameLength name + dnsNameLength r.rrName := ⟨typed, by omega, by omega⟩
    simp only [compressedRdataPacketFields, found, answerPacketFields, if_pos sized, walkRdata_eq asked walked, octets,
      isLonePointer, one, pointing, decide_true, Bool.and_self, if_true]
  simp only [compressedRdataSubsetApplicable, fields, typed, validPointerOctets_toNat pointing, Bool.and_true,
    Bool.and_eq_true, decide_eq_true_eq]
  omega

/-- Two octets that do not start with a pointer are too few for a name that ends with them. -/
theorem isWholeName_firstIsPointer {offset : Nat} {hi lo : UInt8} (whole : isWholeName input offset hi lo = true) :
    isPointer hi = true := by
  rw [isWholeName] at whole
  split at whole
  swap
  · cases whole
  rename_i n parsed
  obtain ⟨steps, -, expands, -⟩ := parseQnameCompressed_eq_some_iff.mp parsed
  generalize octets : [hi, lo] = two at expands
  generalize ended : ([] : List UInt8) = rest at expands
  cases expands with
  | root rest =>
    rw [← ended] at octets
    cases octets
  | @label _ l next _ _ _ more =>
    have length := congrArg List.length octets
    have positive := l.property.1
    simp only [List.length_cons, List.length_nil, List.length_append] at length
    obtain rfl : next = [] := List.length_eq_zero_iff.mp (by omega)
    cases more
  | pointer high =>
    cases octets
    exact high

/-- The RDATA of an accepted SOA record: two names, each where the parser reads it, and the timers. -/
theorem accepted_soa (accepted : AcceptedRecord input false r rr)
    {offset : Nat} (shaped : validRdataShapeAt input offset rr.rtype rr.rdlen r.rdataTail = true)
    (typed : r.rrType = 6) : ∃ mname afterMname rname timers,
      parseQnameCompressed 128 input offset r.rdataTail = some (mname, afterMname) ∧
      parseQnameCompressed 128 input (offset + (r.rdataTail.length - afterMname.length)) afterMname =
        some (rname, timers) ∧ timers.length = 20 := by
  have form : rdataForm rr.rtype = .twoNames := by
    rw [accepted.rtype_eq 6 typed]
    rfl
  have whole : rr.rdlen.toNat = r.rdataTail.length := by
    rw [accepted.rdata_length, accepted.same]
  rw [validRdataShapeAt_eq, form] at shaped
  obtain ⟨-, -, mname, afterMname, rname, timers, first, second, ended⟩ := validTwoNames_iff.mp shaped
  rw [whole, List.take_length] at first
  rw [whole] at second
  exact ⟨mname, afterMname, rname, timers, first, second, ended⟩

section StartOfAuthority

variable (asked : walkQuestion (counts 1 1 0 0) input = some (name, after)) (walked : walkRecord after = some r)
  (accepted : AcceptedRecord input false r rr) (typed : r.rrType = 6)

include asked walked accepted typed

theorem bothSoa_applicable {mHi mLo rHi rLo : UInt8} {timers : List UInt8}
    (rdata : r.rdataTail = mHi :: mLo :: rHi :: rLo :: timers) (ended : timers.length = 20)
    (mPointing : 192 ≤ mHi.toNat) (rPointing : 192 ≤ rHi.toNat)
    (first : isWholeName input (26 + dnsNameLength name + dnsNameLength r.rrName) mHi mLo = true)
    (second : isWholeName input (26 + dnsNameLength name + dnsNameLength r.rrName + 2) rHi rLo = true) :
    generatedCompressedBothSoaPacketSubsetApplicable input = true := by
  have found := answerFields_of_accepted asked walked accepted
  have exactly := accepted.input_length asked walked
  have length := accepted.rdata_length
  have question := (walkQuestion_length asked).2
  have owner := (walkRecord_length walked).2.1
  have positive := dnsNameLength_pos name
  have positive' := dnsNameLength_pos r.rrName
  rw [rdata] at length
  simp only [List.length_cons] at length
  have sized : r.rrType = 6 ∧ r.rdataLength = 24 ∧ input.length = 50 + dnsNameLength name + dnsNameLength r.rrName :=
    ⟨typed, by omega, by omega⟩
  have fields : generatedCompressedBothSoaPacketFields input =
      some ⟨dnsNameLength name, dnsNameLength r.rrName, mHi.toNat, mLo.toNat, rHi.toNat, rLo.toNat⟩ := by
    simp only [generatedCompressedBothSoaPacketFields, found, answerPacketFields, if_pos sized,
      walkRdata_eq asked walked, rdata, ended, first, second, mPointing, rPointing, and_self, if_true]
  simp only [generatedCompressedBothSoaPacketSubsetApplicable, fields, validPointerOctets_toNat mPointing,
    validPointerOctets_toNat rPointing, Bool.and_true, Bool.and_eq_true, decide_eq_true_eq]
  omega

theorem soa_applicable {hi lo : UInt8} {mnameCompressed : Bool} {other : Qname} (short : dnsNameLength other ≤ 255)
    (pointing : 192 ≤ hi.toNat) (length : r.rdataLength = 22 + dnsNameLength other)
    (fields : compressedSoaFields (answerPacketFields name r) input r.rdataTail =
      some ⟨mnameCompressed, dnsNameLength name, dnsNameLength r.rrName, dnsNameLength other, hi.toNat, lo.toNat⟩) :
    generatedCompressedSoaPacketSubsetApplicable input = true := by
  have found := answerFields_of_accepted asked walked accepted
  have exactly := accepted.input_length asked walked
  have question := (walkQuestion_length asked).2
  have owner := (walkRecord_length walked).2.1
  have positive := dnsNameLength_pos name
  have positive' := dnsNameLength_pos r.rrName
  have positive'' := dnsNameLength_pos other
  have sized : (answerPacketFields name r).rrType = 6 ∧ 23 ≤ (answerPacketFields name r).rdataLength ∧
      49 + (answerPacketFields name r).qnameLength + (answerPacketFields name r).rrNameLength ≤ input.length := by
    simp only [answerPacketFields]
    exact ⟨typed, by omega, by omega⟩
  have taken : generatedCompressedSoaPacketFields input =
      some ⟨mnameCompressed, dnsNameLength name, dnsNameLength r.rrName, dnsNameLength other, hi.toNat, lo.toNat⟩ := by
    rw [generatedCompressedSoaPacketFields, found]
    simp only [if_pos sized, walkRdata_eq asked walked]
    exact fields
  simp only [generatedCompressedSoaPacketSubsetApplicable, taken, validPointerOctets_toNat pointing, Bool.and_true,
    Bool.and_eq_true, decide_eq_true_eq]
  omega

/-- The first name is a pointer: the second one tells which of the two classes it is. -/
theorem pointedSoa_applicable
    (shaped : validRdataShapeAt input (26 + dnsNameLength name + dnsNameLength r.rrName) rr.rtype rr.rdlen
      r.rdataTail = true)
    (pointer : firstIsPointer r.rdataTail = true) (second : endsInPointer (r.rdataTail.drop 2) = false) :
    generatedCompressedBothSoaPacketSubsetApplicable input = true ∨
      generatedCompressedSoaPacketSubsetApplicable input = true := by
  obtain ⟨mname, afterMname, rname, timers, mDecoded, rDecoded, ended⟩ := accepted_soa accepted shaped typed
  obtain ⟨mHi, mLo, rdata, mPointing, mWhole⟩ := parseQnameCompressed_pointer pointer mDecoded
  have used : r.rdataTail.length - afterMname.length = 2 := by
    rw [rdata]
    simp only [List.length_cons]
    omega
  have exactly := accepted.input_length asked walked
  have length := accepted.rdata_length
  rw [used] at rDecoded
  rw [rdata, List.drop_succ_cons, List.drop_succ_cons, List.drop_zero, endsInPointer_eq_false_iff] at second
  rcases second with rPointer | ⟨⟨other, after⟩, plain⟩
  · obtain ⟨rHi, rLo, rfl, rPointing, rWhole⟩ := parseQnameCompressed_pointer rPointer rDecoded
    exact Or.inl (bothSoa_applicable asked walked accepted typed rdata ended mPointing rPointing mWhole rWhole)
  · obtain ⟨rfl, rfl⟩ := Prod.mk.inj (Option.some.inj ((parseQnameCompressed_of_plain plain).symm.trans rDecoded))
    obtain ⟨bytes, short⟩ := parseQname_eq_some_iff.mp plain
    rw [rdata, bytes] at length
    simp only [List.length_cons, List.length_append, serializeQnameLabels_length] at length
    have fields : compressedSoaFields (answerPacketFields name r) input r.rdataTail =
        some ⟨true, dnsNameLength name, dnsNameLength r.rrName, dnsNameLength other, mHi.toNat, mLo.toNat⟩ := by
      have sized : after.length = 20 ∧ r.rdataLength = 22 + dnsNameLength other ∧ 192 ≤ mHi.toNat ∧
          input.length = 48 + dnsNameLength name + dnsNameLength r.rrName + dnsNameLength other :=
        ⟨ended, by omega, mPointing, by omega⟩
      simp only [rdata, compressedSoaFields, answerPacketFields, mWhole, if_true, plain, if_pos sized]
    exact Or.inr (soa_applicable asked walked accepted typed short mPointing (by omega) fields)

/-- The first name is written out: unless the second is a pointer, the whole record counts as uncompressed. -/
theorem plainSoa_applicable
    (shaped : validRdataShapeAt input (26 + dnsNameLength name + dnsNameLength r.rrName) rr.rtype rr.rdlen
      r.rdataTail = true)
    (label : firstIsPointer r.rdataTail = false) :
    generatedUncompressedQuestionAnswerPacketSubsetApplicable input = true ∨
      generatedCompressedSoaPacketSubsetApplicable input = true := by
  have unnamed : isNameRdataType r.rrType = true → ∃ result, parseQname 128 r.rdataTail = some result := by
    intro name
    have kinds := isNameRdataType_iff.mp name
    omega
  cases plain : parseQname 128 r.rdataTail with
  | none =>
    refine Or.inl (answer_applicable asked walked accepted ?_ unnamed)
    rw [typed, rdataNameStartsWithPointer_soa, label, plain]
    rfl
  | some result =>
    obtain ⟨mname, afterMname⟩ := result
    cases pointer : firstIsPointer afterMname with
    | false =>
      refine Or.inl (answer_applicable asked walked accepted ?_ unnamed)
      rw [typed, rdataNameStartsWithPointer_soa, label, plain]
      exact pointer
    | true =>
      obtain ⟨_, _, rname, timers, mDecoded, rDecoded, ended⟩ := accepted_soa accepted shaped typed
      obtain ⟨rfl, rfl⟩ := Prod.mk.inj (Option.some.inj ((parseQnameCompressed_of_plain plain).symm.trans mDecoded))
      obtain ⟨bytes, short⟩ := parseQname_eq_some_iff.mp plain
      have exactly := accepted.input_length asked walked
      have length := accepted.rdata_length
      have whole := congrArg List.length bytes
      rw [List.length_append, serializeQnameLabels_length] at whole
      have used : r.rdataTail.length - afterMname.length = dnsNameLength mname := by omega
      rw [used] at rDecoded
      obtain ⟨rHi, rLo, rfl, rPointing, rWhole⟩ := parseQnameCompressed_pointer pointer rDecoded
      simp only [List.length_cons] at whole
      have fields : compressedSoaFields (answerPacketFields name r) input r.rdataTail =
          some ⟨false, dnsNameLength name, dnsNameLength r.rrName, dnsNameLength mname, rHi.toNat, rLo.toNat⟩ := by
        have sized : timers.length = 20 ∧ r.rdataLength = 22 + dnsNameLength mname ∧ 192 ≤ rHi.toNat ∧
            input.length = 48 + dnsNameLength name + dnsNameLength r.rrName + dnsNameLength mname :=
          ⟨ended, by omega, rPointing, by omega⟩
        generalize r.rdataTail = rdata at plain label whole ⊢
        obtain _ | ⟨b0, _ | ⟨b1, rest⟩⟩ := rdata
        · cases plain
        · simp only [List.length_cons, List.length_nil] at whole
          omega
        · have divided : isWholeName input (26 + dnsNameLength name + dnsNameLength r.rrName) b0 b1 = false := by
            rw [Bool.eq_false_iff]
            intro one
            have first := isWholeName_firstIsPointer one
            rw [firstIsPointer, first] at label
            cases label
          simp only [compressedSoaFields, answerPacketFields, divided, Bool.false_eq_true, if_false, plain, rWhole,
            if_true]
          exact if_pos sized
      exact Or.inr (soa_applicable asked walked accepted typed short rPointing (by omega) fields)

end StartOfAuthority

/-- An answer with a written-out owner belongs to the uncompressed class, or to the class of
its pointers. -/
theorem coveredAnswer_applicable (parsed : parseDnsPacketBytes input = some p)
    (asked : walkQuestion (counts 1 1 0 0) input = some (name, after)) (walked : walkRecord after = some r)
    (names : rdataCovered r.rrType r.rdataTail = true) : everparseBoundaryGeneratedSubsetApplicable input = true := by
  obtain ⟨rr, accepted, shaped⟩ := accepted_rdata_at parsed asked walked
  rw [everparseBoundaryGeneratedSubsetApplicable_eq]
  simp only [Bool.or_eq_true]
  by_cases name : isNameRdataType r.rrType = true
  · have form := accepted.name_form name
    rw [rdataCovered, if_pos name, Bool.not_eq_true', endsInPointer_eq_false_iff] at names
    rcases names with pointer | plain
    · have reached : generatedCompressedNameRdataPacketSubsetApplicable input = true :=
        compressedRdata_applicable asked walked accepted shaped name form pointer
      tauto
    · have reached := answer_applicable asked walked accepted ?_ fun _ => plain
      · tauto
      · obtain ⟨result, plain⟩ := plain
        rw [rdataNameStartsWithPointer, if_pos name]
        exact firstIsPointer_of_plain plain
  by_cases soa : r.rrType = 6
  · rw [soa] at names
    change (!(firstIsPointer r.rdataTail && endsInPointer (r.rdataTail.drop 2))) = true at names
    cases pointer : firstIsPointer r.rdataTail with
    | true =>
      rw [pointer, Bool.true_and, Bool.not_eq_true'] at names
      have reached := pointedSoa_applicable asked walked accepted soa shaped pointer names
      tauto
    | false =>
      have reached := plainSoa_applicable asked walked accepted soa shaped pointer
      tauto
  have unnamed : isNameRdataType r.rrType = true → ∃ result, parseQname 128 r.rdataTail = some result :=
    fun other => absurd other name
  by_cases pointer : rdataNameStartsWithPointer r.rrType r.rdataTail = true
  · rw [rdataNameStartsWithPointer, if_neg name, if_neg soa] at pointer
    split_ifs at pointer with mx srv
    · have form : rdataForm rr.rtype = .name 3 2 := by
        rw [accepted.rtype_eq 15 mx]
        rfl
      have reached : generatedCompressedMxPacketSubsetApplicable input = true :=
        compressedRdata_applicable asked walked accepted shaped (decide_eq_true mx) form pointer
      tauto
    · have form : rdataForm rr.rtype = .name 7 6 := by
        rw [accepted.rtype_eq 33 srv]
        rfl
      have reached : generatedCompressedSrvPacketSubsetApplicable input = true :=
        compressedRdata_applicable asked walked accepted shaped (decide_eq_true srv) form pointer
      tauto
  · have reached := answer_applicable asked walked accepted (Bool.eq_false_iff.mpr pointer) unnamed
    tauto

theorem walkAddressRecord_short {octets rest : List UInt8} (walked : walkAddressRecord octets = some (name, rest)) :
    dnsNameLength name ≤ 255 := by
  unfold walkAddressRecord at walked
  split at walked
  swap
  · cases walked
  rename_i record
  split at walked
  · obtain ⟨rfl, rfl⟩ := Prod.mk.inj (Option.some.inj walked)
    exact (walkRecord_length record).2.1
  · cases walked

theorem addresses_applicable {first second : Qname} {afterFirst : List UInt8}
    (asked : walkQuestion (counts 1 2 0 0) input = some (name, after))
    (one : walkAddressRecord after = some (first, afterFirst))
    (two : walkAddressRecord afterFirst = some (second, [])) :
    generatedUncompressedQuestionTwoAAnswerPacketSubsetApplicable input = true := by
  have positive := dnsNameLength_pos name
  have positive' := dnsNameLength_pos first
  have positive'' := dnsNameLength_pos second
  have question := (walkQuestion_length asked).2
  have shortFirst := walkAddressRecord_short one
  have shortSecond := walkAddressRecord_short two
  simp only [generatedUncompressedQuestionTwoAAnswerPacketSubsetApplicable,
    generatedUncompressedQuestionTwoAAnswerPacketFields, asked, one, two, decide_eq_true_eq]
  omega

theorem parseOptAdditional_of_accepted {offset : Nat} (question : Option Nat) (walked : walkRecord after = some r)
    (parsed : parseResourceRecordBytesAt input offset true after = some (rr, [])) (typed : r.rrType = 41) :
    parseOptAdditional after question = some ⟨question, dnsNameLength r.rrName, r.rdataLength⟩ := by
  obtain ⟨accepted, -⟩ := accepted_record parsed walked
  have length : r.rdataTail.length = r.rdataLength := by
    rw [accepted.same]
    exact accepted.length.symm
  rw [parseOptAdditional, walked]
  exact if_pos ⟨typed, length⟩

theorem opt_applicable (parsed : parseDnsPacketBytes input = some p) (counted : counts 0 0 0 1 p.header = true)
    (header : parseHeaderBytes input = some (p.header, after)) (walked : walkRecord after = some r)
    (typed : r.rrType = 41) : generatedEdns0OptAdditionalPacketSubsetApplicable input = true := by
  obtain ⟨rest, afterQuestions, afterAnswers, afterAuthorities, read⟩ := parsePacketWith_eq_some_iff.mp parsed
  obtain ⟨-, rfl⟩ := Prod.mk.inj (Option.some.inj (read.header.symm.trans header))
  have none := read.questions
  rw [(counts_iff.mp counted).1, parseQuestionsBytes, readCounted, readCountedAt_zero] at none
  obtain ⟨-, rfl⟩ := Prod.mk.inj (Option.some.inj none)
  obtain ⟨offset, rr, record⟩ := accepted_additional counted read
  obtain ⟨-, short, small⟩ := walkRecord_length walked
  have positive := dnsNameLength_pos r.rrName
  simp only [generatedEdns0OptAdditionalPacketSubsetApplicable, generatedEdns0OptAdditionalPacketFields, header,
    counted, if_true, parseOptAdditional_of_accepted Option.none walked record typed, Bool.and_true, decide_eq_true_eq]
  omega

theorem askedOpt_applicable (parsed : parseDnsPacketBytes input = some p)
    (asked : walkQuestion (counts 1 0 0 1) input = some (name, after)) (walked : walkRecord after = some r)
    (typed : r.rrType = 41) : generatedEdns0OptAdditionalPacketSubsetApplicable input = true := by
  obtain ⟨counted, rest, afterAnswers, afterAuthorities, read⟩ := accepted_question parsed asked
    fun h counted => (counts_iff.mp counted).1
  obtain ⟨offset, rr, record⟩ := accepted_additional counted read
  obtain ⟨-, short, small⟩ := walkRecord_length walked
  have question := (walkQuestion_length asked).2
  have positive := dnsNameLength_pos name
  have positive' := dnsNameLength_pos r.rrName
  have other : counts 0 0 0 1 p.header = false := by
    have one := (counts_iff.mp counted).1
    rw [Bool.eq_false_iff, ne_eq, counts_iff]
    omega
  simp only [generatedEdns0OptAdditionalPacketSubsetApplicable, generatedEdns0OptAdditionalPacketFields, read.header,
    other, Bool.false_eq_true, if_false, asked, parseOptAdditional_of_accepted (some (dnsNameLength name)) walked record
    typed, Bool.and_eq_true, decide_eq_true_eq]
  omega

end Reached

section Language

variable {input : List UInt8} {p : DnsPacket}

/-- On the accepted messages, the classes of the generated validators come to this. -/
theorem applicable_iff_covered (parsed : parseDnsPacketBytes input = some p) :
    everparseBoundaryGeneratedSubsetApplicable input = true ↔ Covered rdataCovered input p := by
  constructor
  · rw [everparseBoundaryGeneratedSubsetApplicable_eq]
    simp only [Bool.or_eq_true]
    rintro (opt | owner | nameRdata | mx | bothSoa | soa | srv | addresses | answer | question)
    · exact edns0_covered parsed opt
    · exact compressedOwner_covered owner
    · refine compressedRdata_covered (fun _ _ _ => rfl) (fun rrType typed soa => ?_) nameRdata
      rw [soa] at typed
      cases typed
    · refine compressedRdata_covered (fun rrType typed name => ?_) (fun rrType typed soa => ?_) mx
      · rw [of_decide_eq_true typed] at name
        cases name
      · rw [soa] at typed
        cases typed
    · exact compressedBothSoa_covered bothSoa
    · exact compressedSoa_covered soa
    · refine compressedRdata_covered (fun rrType typed name => ?_) (fun rrType typed soa => ?_) srv
      · rw [of_decide_eq_true typed] at name
        cases name
      · rw [soa] at typed
        cases typed
    · exact twoAddresses_covered addresses
    · exact answer_covered parsed answer
    · exact question_covered parsed question
  · intro covered
    cases covered with
    | answer asked walked names => exact coveredAnswer_applicable parsed asked walked names
    | question counted =>
      have reached := question_applicable parsed counted
      rw [everparseBoundaryGeneratedSubsetApplicable_eq]
      simp only [reached, Bool.or_true]
    | pointedAnswer asked pointer =>
      have reached := pointedAnswer_applicable parsed asked pointer
      rw [everparseBoundaryGeneratedSubsetApplicable_eq]
      simp only [reached, Bool.or_true, Bool.true_or]
    | addresses asked one two =>
      have reached := addresses_applicable asked one two
      rw [everparseBoundaryGeneratedSubsetApplicable_eq]
      simp only [reached, Bool.or_true, Bool.true_or]
    | opt counted header walked typed =>
      have reached := opt_applicable parsed counted header walked typed
      rw [everparseBoundaryGeneratedSubsetApplicable_eq]
      simp only [reached, Bool.true_or]
    | askedOpt asked walked typed =>
      have reached := askedOpt_applicable parsed asked walked typed
      rw [everparseBoundaryGeneratedSubsetApplicable_eq]
      simp only [reached, Bool.true_or]

end Language

end Ism
