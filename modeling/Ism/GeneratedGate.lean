import Ism.GeneratedSubset

namespace Ism

open Lib

section Walks

variable {input after : List UInt8} {name : Qname} {r : WalkedRecord}

/-- A walk over the question finds a header that passes, a name written out, and four more octets. -/
theorem walkQuestion_eq_some_iff {accepts : Header → Bool} :
    walkQuestion accepts input = some (name, after) ↔ ∃ h qtHi qtLo qcHi qcLo, accepts h = true ∧
      dnsNameLength name ≤ 255 ∧ input = serializeHeaderBytes h ++
        (serializeQnameLabels name ++ qtHi :: qtLo :: qcHi :: qcLo :: after) := by
  constructor
  · intro walked
    unfold walkQuestion at walked
    split at walked
    swap
    · cases walked
    rename_i h afterHeader header
    split at walked
    swap
    · cases walked
    rename_i accepted
    split at walked
    swap
    · cases walked
    rename_i questionName questionTail named
    split at walked
    · cases walked
    rename_i room
    obtain ⟨rfl, rfl⟩ := Prod.mk.inj (Option.some.inj walked)
    obtain ⟨bytes, short⟩ := parseQname_eq_some_iff.mp named
    obtain _ | ⟨qtHi, _ | ⟨qtLo, _ | ⟨qcHi, _ | ⟨qcLo, tail⟩⟩⟩⟩ := questionTail
    case cons.cons.cons.cons =>
      exact ⟨h, qtHi, qtLo, qcHi, qcLo, accepted, short, by rw [parseHeaderBytes_eq_some_iff.mp header, bytes]; rfl⟩
    all_goals
      simp only [List.length_cons, List.length_nil] at room
      omega
  · rintro ⟨h, qtHi, qtLo, qcHi, qcLo, accepted, short, rfl⟩
    have named := parseQname_eq_some_iff.mpr
      ⟨(rfl : serializeQnameLabels name ++ qtHi :: qtLo :: qcHi :: qcLo :: after = _), short⟩
    have room : ¬ (qtHi :: qtLo :: qcHi :: qcLo :: after).length < 4 := by
      simp only [List.length_cons]
      omega
    simp only [walkQuestion, parseHeaderBytes_eq_some_iff.mpr rfl, accepted, named, if_true, if_neg room]
    rfl

theorem walkFixedFields_eq_some {rrTail rdataTail : List UInt8} {rrType rdataLength : Nat}
    (walked : walkFixedFields rrTail = some (rrType, rdataLength, rdataTail)) :
    ∃ rtHi rtLo rcHi rcLo ttl0 ttl1 ttl2 ttl3 rdlenHi rdlenLo, rrTail = rtHi :: rtLo :: rcHi :: rcLo ::
      ttl0 :: ttl1 :: ttl2 :: ttl3 :: rdlenHi :: rdlenLo :: rdataTail ∧
      rrType = wireU16 rtHi rtLo ∧ rdataLength = wireU16 rdlenHi rdlenLo := by
  unfold walkFixedFields at walked
  split at walked
  · rename_i rtHi rtLo rcHi rcLo ttl0 ttl1 ttl2 ttl3 rdlenHi rdlenLo tail
    simp only [Option.some.injEq, Prod.mk.injEq, u16FromBe_toNat] at walked
    obtain ⟨rfl, rfl, rfl⟩ := walked
    exact ⟨rtHi, rtLo, rcHi, rcLo, ttl0, ttl1, ttl2, ttl3, rdlenHi, rdlenLo, rfl, rfl, rfl⟩
  · cases walked

theorem walkFixedFields_recordFixedBytes (rr : ResourceRecord) (tail : List UInt8) :
    walkFixedFields (recordFixedBytes rr ++ tail) =
      some ((qtypeToU16 rr.rtype).toNat, rr.rdlen.toNat, tail) := by
  simp only [recordFixedBytes, List.cons_append, List.nil_append, walkFixedFields, u16FromBe_u16Hi_u16Lo]

theorem walkRecord_eq_some_iff : walkRecord input = some r ↔ ∃ rrTail,
    parseQname 128 input = some (r.rrName, rrTail) ∧
      walkFixedFields rrTail = some (r.rrType, r.rdataLength, r.rdataTail) := by
  constructor
  · intro walked
    unfold walkRecord at walked
    split at walked
    swap
    · cases walked
    rename_i rrName rrTail named
    split at walked
    · rename_i rrType rdataLength rdataTail fixed
      cases walked
      exact ⟨rrTail, named, fixed⟩
    · cases walked
  · rintro ⟨rrTail, named, fixed⟩
    simp only [walkRecord, named, fixed]

/-- The second walk over a message finds the RDATA that the first one found. -/
theorem walkRdata_eq {accepts : Header → Bool} (asked : walkQuestion accepts input = some (name, after))
    (answered : walkRecord after = some r) : walkRdata input = some r.rdataTail := by
  obtain ⟨h, qtHi, qtLo, qcHi, qcLo, -, short, bytes⟩ := walkQuestion_eq_some_iff.mp asked
  have again : walkQuestion (fun _ => true) input = some (name, after) :=
    walkQuestion_eq_some_iff.mpr ⟨h, qtHi, qtLo, qcHi, qcLo, rfl, short, bytes⟩
  simp only [walkRdata, again, answered]

/-- The walk over the question takes 16 octets and the name. -/
theorem walkQuestion_length {accepts : Header → Bool} (asked : walkQuestion accepts input = some (name, after)) :
    input.length = 16 + dnsNameLength name + after.length ∧ dnsNameLength name ≤ 255 := by
  obtain ⟨h, qtHi, qtLo, qcHi, qcLo, -, short, rfl⟩ := walkQuestion_eq_some_iff.mp asked
  refine ⟨?_, short⟩
  have header : (serializeHeaderBytes h).length = 12 := rfl
  simp only [List.length_append, List.length_cons, serializeQnameLabels_length, header]
  omega

theorem walkQuestion_nameLength {accepts : Header → Bool}
    (asked : walkQuestion accepts input = some (name, after)) : Grammar.nameLength (dnsNameLength name) = true :=
  Grammar.nameLength_dnsNameLength (walkQuestion_length asked).2

/-- The walk over a record takes 10 octets and the owner. -/
theorem walkRecord_length (answered : walkRecord after = some r) :
    after.length = dnsNameLength r.rrName + 10 + r.rdataTail.length ∧ dnsNameLength r.rrName ≤ 255 ∧
      r.rdataLength < 65536 := by
  obtain ⟨rrTail, named, fixed⟩ := walkRecord_eq_some_iff.mp answered
  obtain ⟨rtHi, rtLo, rcHi, rcLo, ttl0, ttl1, ttl2, ttl3, rdlenHi, rdlenLo, rfl, -, length⟩ :=
    walkFixedFields_eq_some fixed
  obtain ⟨rfl, short⟩ := parseQname_eq_some_iff.mp named
  refine ⟨?_, short, length ▸ ofBe16_lt rdlenHi rdlenLo⟩
  simp only [List.length_append, List.length_cons, serializeQnameLabels_length]
  omega

theorem walkRecord_nameLength (answered : walkRecord after = some r) :
    Grammar.nameLength (dnsNameLength r.rrName) = true :=
  Grammar.nameLength_dnsNameLength (walkRecord_length answered).2.1

end Walks

namespace Grammar

variable {next : Format} {input after : List UInt8} {n : Qname} {r : WalkedRecord}

theorem walkFixedFields_instance {rtype rdlength : Nat → Bool} {rrTail rdataTail : List UInt8}
    {rrType rdataLength : Nat} (walked : walkFixedFields rrTail = some (rrType, rdataLength, rdataTail))
    (typed : rtype rrType = true) (sized : rdlength rdataLength = true) (here : next.Instance rdataTail) :
    (recordFields rtype rdlength next).Instance rrTail := by
  obtain ⟨rtHi, rtLo, rcHi, rcLo, ttl0, ttl1, ttl2, ttl3, rdlenHi, rdlenLo, rfl, rfl, rfl⟩ :=
    walkFixedFields_eq_some walked
  exact u16_instance typed (u16_instance rfl (u32_instance (u16_instance sized here)))

/-- A record that was walked over is an instance of the grammar's record. -/
theorem walkRecord_instance {rtype rdlength : Nat → Bool} (walked : walkRecord input = some r)
    (typed : rtype r.rrType = true) (sized : rdlength r.rdataLength = true) (here : next.Instance r.rdataTail) :
    (name (dnsNameLength r.rrName) (recordFields rtype rdlength next)).Instance input := by
  obtain ⟨rrTail, named, fixed⟩ := walkRecord_eq_some_iff.mp walked
  rw [(parseQname_eq_some_iff.mp named).1]
  exact name_instance _ (walkFixedFields_instance fixed typed sized here)

/-- The same for the header and the question. -/
theorem walkQuestion_instance {qd an ns ar : Nat} (walked : walkQuestion (counts qd an ns ar) input = some (n, after))
    (here : next.Instance after) :
    (dnsHeader (is qd) (is an) (is ns) (is ar) (question (dnsNameLength n) next)).Instance input := by
  obtain ⟨h, qtHi, qtLo, qcHi, qcLo, counted, -, rfl⟩ := walkQuestion_eq_some_iff.mp walked
  simp only [counts, Bool.and_eq_true] at counted
  obtain ⟨⟨⟨qdOk, anOk⟩, nsOk⟩, arOk⟩ := counted
  exact dnsHeader_instance h qdOk anOk nsOk arOk (question_instance n here)

theorem u16_any_instance (long : 2 ≤ input.length) (here : next.Instance (input.drop 2)) :
    (u16 any next).Instance input :=
  ⟨input.take 2, input.drop 2, (List.take_append_drop 2 input).symm, List.length_take_of_le long, rfl, here⟩

theorem u32_any_instance (long : 4 ≤ input.length) (here : next.Instance (input.drop 4)) :
    (u32 any next).Instance input :=
  ⟨input.take 4, input.drop 4, (List.take_append_drop 4 input).symm, List.length_take_of_le long, rfl, here⟩

/-- Any twenty octets are the numbers of an SOA record. -/
theorem soaTimers_instance (length : input.length = 20) : (soaTimers .done).Instance input := by
  have ended : input.drop 20 = [] := List.drop_eq_nil_of_le (Nat.le_of_eq length)
  refine u32_any_instance (by omega) (u32_any_instance ?_ (u32_any_instance ?_ (u32_any_instance ?_
    (u32_any_instance ?_ ?_))))
  all_goals simp only [List.drop_drop, List.length_drop, length]
  all_goals try omega
  exact ended

/-- A pointer that leads past the header is one of the grammar. -/
theorem pointer_instance {hi lo : UInt8} (outside : 192 < hi.toNat ∨ 12 ≤ lo.toNat) (here : next.Instance after) :
    (pointer hi.toNat lo.toNat next).Instance (hi :: lo :: after) :=
  u8_instance (is_self _) (u8_instance (decide_eq_true ⟨rfl, outside⟩) here)

theorem pointerOctets_toNat {hi lo : UInt8} (pointing : 192 ≤ hi.toNat) : pointerOctets hi.toNat lo.toNat = true := by
  have := hi.toNat_lt
  have := lo.toNat_lt
  exact decide_eq_true ⟨pointing, by omega, by omega⟩

end Grammar

/-- Each generated validator accepts the inputs that start with an instance of its entry point. -/
structure GeneratedChecks.Correct (check : GeneratedChecks) : Prop where
  question : ∀ q, Format.Validates (check.dnsUncompressedQuestion q) (Grammar.dnsUncompressedQuestion q)
  answer : ∀ q r d, Format.Validates (check.dnsUncompressedQuestionAnswerPacket q r d)
    (Grammar.dnsUncompressedQuestionAnswerPacket q r d)
  a : ∀ q r, Format.Validates (check.dnsUncompressedQuestionAAnswerPacket q r)
    (Grammar.dnsUncompressedQuestionAAnswerPacket q r)
  aaaa : ∀ q r, Format.Validates (check.dnsUncompressedQuestionAaaaAnswerPacket q r)
    (Grammar.dnsUncompressedQuestionAaaaAnswerPacket q r)
  twoA : ∀ q r s, Format.Validates (check.dnsUncompressedQuestionTwoAAnswerPacket q r s)
    (Grammar.dnsUncompressedQuestionTwoAAnswerPacket q r s)
  nameRdata : ∀ q r d t, Format.Validates (check.dnsUncompressedQuestionNameRdataAnswerPacket q r d t)
    (Grammar.dnsUncompressedQuestionNameRdataAnswerPacket q r d t)
  compressedNameRdata : ∀ q r t hi lo,
    Format.Validates (check.dnsUncompressedQuestionCompressedNameRdataAnswerPacket q r t hi lo)
      (Grammar.dnsUncompressedQuestionCompressedNameRdataAnswerPacket q r t hi lo)
  mx : ∀ q r d, Format.Validates (check.dnsUncompressedQuestionMxAnswerPacket q r d)
    (Grammar.dnsUncompressedQuestionMxAnswerPacket q r d)
  compressedMx : ∀ q r hi lo, Format.Validates (check.dnsUncompressedQuestionCompressedMxAnswerPacket q r hi lo)
    (Grammar.dnsUncompressedQuestionCompressedMxAnswerPacket q r hi lo)
  soa : ∀ q r m n, Format.Validates (check.dnsUncompressedQuestionSoaAnswerPacket q r m n)
    (Grammar.dnsUncompressedQuestionSoaAnswerPacket q r m n)
  compressedSoaMname : ∀ q r n hi lo,
    Format.Validates (check.dnsUncompressedQuestionCompressedSoaMnameAnswerPacket q r n hi lo)
      (Grammar.dnsUncompressedQuestionCompressedSoaMnameAnswerPacket q r n hi lo)
  compressedSoaRname : ∀ q r m hi lo,
    Format.Validates (check.dnsUncompressedQuestionCompressedSoaRnameAnswerPacket q r m hi lo)
      (Grammar.dnsUncompressedQuestionCompressedSoaRnameAnswerPacket q r m hi lo)
  compressedSoa : ∀ q r mHi mLo rHi rLo,
    Format.Validates (check.dnsUncompressedQuestionCompressedSoaAnswerPacket q r mHi mLo rHi rLo)
      (Grammar.dnsUncompressedQuestionCompressedSoaAnswerPacket q r mHi mLo rHi rLo)
  srv : ∀ q r d, Format.Validates (check.dnsUncompressedQuestionSrvAnswerPacket q r d)
    (Grammar.dnsUncompressedQuestionSrvAnswerPacket q r d)
  compressedSrv : ∀ q r hi lo, Format.Validates (check.dnsUncompressedQuestionCompressedSrvAnswerPacket q r hi lo)
    (Grammar.dnsUncompressedQuestionCompressedSrvAnswerPacket q r hi lo)
  txt : ∀ q r d, Format.Validates (check.dnsUncompressedQuestionTxtAnswerPacket q r d)
    (Grammar.dnsUncompressedQuestionTxtAnswerPacket q r d)
  compressedOwner : ∀ q d hi lo,
    Format.Validates (check.dnsUncompressedQuestionCompressedAnswerNamePacket q d hi lo)
      (Grammar.dnsUncompressedQuestionCompressedAnswerNamePacket q d hi lo)
  opt : ∀ d, Format.Validates (check.dnsOptAdditionalPacket d) (Grammar.dnsOptAdditionalPacket d)
  questionOpt : ∀ q d, Format.Validates (check.dnsUncompressedQuestionOptAdditionalPacket q d)
    (Grammar.dnsUncompressedQuestionOptAdditionalPacket q d)

theorem accepts_of_instance {check : List UInt8 → Bool} {format : Format} (correct : Format.Validates check format)
    {input : List UInt8} (here : format.Instance input) : check input = true :=
  (correct input).mpr ⟨input, here, List.prefix_refl input⟩

section Fields

variable {input : List UInt8}

theorem answerFields_eq_some {f : AnswerPacketFields}
    (found : generatedUncompressedQuestionAnswerPacketFields input = some f) : ∃ name after r,
      walkQuestion (counts 1 1 0 0) input = some (name, after) ∧ walkRecord after = some r ∧
      f = answerPacketFields name r := by
  unfold generatedUncompressedQuestionAnswerPacketFields at found
  split at found
  · cases found
  split at found
  swap
  · cases found
  rename_i name after asked
  split at found
  swap
  · cases found
  rename_i r answered
  split at found
  · exact ⟨name, after, r, asked, answered, (Option.some.inj found).symm⟩
  · cases found

/-- A pointer that the parser follows leads past the header. -/
theorem isWholeName_pointer_target {offset : Nat} {hi lo : UInt8} (whole : isWholeName input offset hi lo = true)
    (pointing : 192 ≤ hi.toNat) : 192 < hi.toNat ∨ 12 ≤ lo.toNat := by
  have nonzero : hi ≠ 0 := by
    rintro rfl
    rw [UInt8.toNat_zero] at pointing
    omega
  have pointer : isPointer hi = true := decide_eq_true pointing
  by_cases valid : validPointerTarget (messageNameOffsets input) offset (pointerOffset hi lo) = true
  · simp only [validPointerTarget, Bool.and_eq_true, decide_eq_true_eq] at valid
    have low := valid.1.1
    rw [pointerOffset] at low
    omega
  · simp only [isWholeName, parseQnameCompressed, parseQnameCompressedBounded, if_neg nonzero, pointer, if_true,
      valid] at whole
    cases whole

theorem compressedRdataPacketFields_eq_some {types : Nat → Bool} {skip : Nat} {f : CompressedRdataFields}
    (found : compressedRdataPacketFields types skip input = some f) : ∃ name after r hi lo,
      walkQuestion (counts 1 1 0 0) input = some (name, after) ∧ walkRecord after = some r ∧
      types r.rrType = true ∧ r.rdataLength = skip + 2 ∧ r.rdataTail.drop skip = [hi, lo] ∧ 192 ≤ hi.toNat ∧
      (192 < hi.toNat ∨ 12 ≤ lo.toNat) ∧
      f = ⟨dnsNameLength name, dnsNameLength r.rrName, r.rrType, hi.toNat, lo.toNat⟩ := by
  unfold compressedRdataPacketFields at found
  split at found
  swap
  · cases found
  rename_i fields answerFields
  obtain ⟨name, after, r, asked, answered, rfl⟩ := answerFields_eq_some answerFields
  split at found
  swap
  · cases found
  rename_i sized
  rw [walkRdata_eq asked answered] at found
  simp only at found
  split at found
  swap
  · cases found
  rename_i hi lo octets
  split at found
  swap
  · cases found
  rename_i lone
  simp only [isLonePointer, Bool.and_eq_true, decide_eq_true_eq] at lone
  exact ⟨name, after, r, hi, lo, asked, answered, sized.1, sized.2.1, octets, lone.2,
    isWholeName_pointer_target lone.1 lone.2, (Option.some.inj found).symm⟩

/-- What a pointer in the RDATA gives: the message is one answer with this pointer at the end. -/
theorem compressedRdata_spec {types : Nat → Bool} (rtype : Nat → Bool) {skip : Nat} {f : CompressedRdataFields}
    {next : Format} (found : compressedRdataPacketFields types skip input = some f)
    (typed : types f.rrType = true → rtype f.rrType = true)
    (rdata : ∀ tail : List UInt8, tail.length = skip + 2 →
      (Grammar.pointer f.ptrHi f.ptrLo .done).Instance (tail.drop skip) → next.Instance tail) :
    types f.rrType = true ∧ Grammar.nameLength f.qnameLength = true ∧ Grammar.nameLength f.rrNameLength = true ∧
      Grammar.pointerOctets f.ptrHi f.ptrLo = true ∧
      (Grammar.oneAnswer (Grammar.question f.qnameLength (Grammar.name f.rrNameLength
        (Grammar.recordFields rtype (Grammar.is (skip + 2)) next)))).Instance input := by
  obtain ⟨name, after, r, hi, lo, asked, answered, here, sized, octets, pointing, outside, rfl⟩ :=
    compressedRdataPacketFields_eq_some found
  have length := congrArg List.length octets
  rw [List.length_drop, List.length_cons, List.length_cons, List.length_nil] at length
  refine ⟨here, walkQuestion_nameLength asked, walkRecord_nameLength answered, Grammar.pointerOctets_toNat pointing, ?_⟩
  refine Grammar.walkQuestion_instance asked (Grammar.walkRecord_instance answered (typed here) ?_ ?_)
  · exact decide_eq_true sized
  · refine rdata _ (by omega) ?_
    rw [octets]
    exact Grammar.pointer_instance outside rfl

theorem compressedRdataSubsetApplicable_found {types : Nat → Bool} {skip : Nat}
    (applicable : compressedRdataSubsetApplicable types skip input = true) :
    ∃ f, compressedRdataPacketFields types skip input = some f := by
  unfold compressedRdataSubsetApplicable at applicable
  split at applicable
  · rename_i f found
    exact ⟨f, found⟩
  · cases applicable

/-- One name is a pointer and the other is written out, in either order. -/
theorem compressedSoaFields_eq_some {f : AnswerPacketFields} {rdata : List UInt8} {s : CompressedSoaFields}
    (found : compressedSoaFields f input rdata = some s) : ∃ hi lo other timers, 192 ≤ hi.toNat ∧
      (192 < hi.toNat ∨ 12 ≤ lo.toNat) ∧ timers.length = 20 ∧ dnsNameLength other ≤ 255 ∧
      f.rdataLength = dnsNameLength other + 22 ∧
      (rdata = hi :: lo :: (serializeQnameLabels other ++ timers) ∧
          s = ⟨true, f.qnameLength, f.rrNameLength, dnsNameLength other, hi.toNat, lo.toNat⟩ ∨
        rdata = serializeQnameLabels other ++ hi :: lo :: timers ∧
          s = ⟨false, f.qnameLength, f.rrNameLength, dnsNameLength other, hi.toNat, lo.toNat⟩) := by
  unfold compressedSoaFields at found
  split at found
  swap
  · cases found
  rename_i mHi mLo rnameTail
  simp only at found
  split at found
  · rename_i whole
    split at found
    swap
    · cases found
    rename_i rname timers named
    split at found
    swap
    · cases found
    rename_i sized
    obtain ⟨rfl, short⟩ := parseQname_eq_some_iff.mp named
    exact ⟨mHi, mLo, rname, timers, sized.2.2.1, isWholeName_pointer_target whole sized.2.2.1, sized.1, short,
      sized.2.1.trans (Nat.add_comm _ _), Or.inl ⟨rfl, (Option.some.inj found).symm⟩⟩
  · split at found
    swap
    · cases found
    rename_i mname rHi rLo timers named
    split at found
    swap
    · cases found
    rename_i whole
    split at found
    swap
    · cases found
    rename_i sized
    obtain ⟨bytes, short⟩ := parseQname_eq_some_iff.mp named
    exact ⟨rHi, rLo, mname, timers, sized.2.2.1, isWholeName_pointer_target whole sized.2.2.1, sized.1, short,
      sized.2.1.trans (Nat.add_comm _ _), Or.inr ⟨bytes, (Option.some.inj found).symm⟩⟩

theorem generatedCompressedSoaPacketFields_eq_some {s : CompressedSoaFields}
    (found : generatedCompressedSoaPacketFields input = some s) : ∃ name after r,
      walkQuestion (counts 1 1 0 0) input = some (name, after) ∧ walkRecord after = some r ∧ r.rrType = 6 ∧
      compressedSoaFields (answerPacketFields name r) input r.rdataTail = some s := by
  unfold generatedCompressedSoaPacketFields at found
  split at found
  swap
  · cases found
  rename_i fields answerFields
  obtain ⟨name, after, r, asked, answered, rfl⟩ := answerFields_eq_some answerFields
  split at found
  swap
  · cases found
  rename_i typed
  rw [walkRdata_eq asked answered] at found
  exact ⟨name, after, r, asked, answered, typed.1, found⟩

theorem generatedCompressedBothSoaPacketFields_eq_some {s : CompressedBothSoaFields}
    (found : generatedCompressedBothSoaPacketFields input = some s) : ∃ name after r mHi mLo rHi rLo timers,
      walkQuestion (counts 1 1 0 0) input = some (name, after) ∧ walkRecord after = some r ∧ r.rrType = 6 ∧
      r.rdataLength = 24 ∧ r.rdataTail = mHi :: mLo :: rHi :: rLo :: timers ∧ timers.length = 20 ∧
      192 ≤ mHi.toNat ∧ (192 < mHi.toNat ∨ 12 ≤ mLo.toNat) ∧ 192 ≤ rHi.toNat ∧ (192 < rHi.toNat ∨ 12 ≤ rLo.toNat) ∧
      s = ⟨dnsNameLength name, dnsNameLength r.rrName, mHi.toNat, mLo.toNat, rHi.toNat, rLo.toNat⟩ := by
  unfold generatedCompressedBothSoaPacketFields at found
  split at found
  swap
  · cases found
  rename_i fields answerFields
  obtain ⟨name, after, r, asked, answered, rfl⟩ := answerFields_eq_some answerFields
  split at found
  swap
  · cases found
  rename_i typed
  rw [walkRdata_eq asked answered] at found
  split at found
  swap
  · cases found
  rename_i mHi mLo rHi rLo timers rdata
  split at found
  swap
  · cases found
  rename_i ended
  simp only at found
  split at found
  swap
  · cases found
  rename_i whole
  exact ⟨name, after, r, mHi, mLo, rHi, rLo, timers, asked, answered, typed.1, typed.2.1, Option.some.inj rdata, ended,
    whole.2.2.1, isWholeName_pointer_target whole.1 whole.2.2.1, whole.2.2.2,
    isWholeName_pointer_target whole.2.1 whole.2.2.2, (Option.some.inj found).symm⟩

end Fields

section Passing

variable {check : GeneratedChecks} {buffer input : List UInt8} {len : Nat}

/-- A message that is one question passes its validator. -/
theorem question_passes (correct : check.Correct) (held : buffer.take len = input)
    (applicable : generatedUncompressedQuestionSubsetApplicable input = true) :
    validateGeneratedUncompressedQuestionSubsetBuffer check buffer len input = true := by
  rw [validateGeneratedUncompressedQuestionSubsetBuffer, ← List.drop_take, held]
  simp only [generatedUncompressedQuestionSubsetApplicable] at applicable
  unfold generatedUncompressedQuestionQnameLength at applicable ⊢
  by_cases sized : input.length < 17 ∨ 271 < input.length
  · rw [if_pos sized] at applicable
    cases applicable
  rw [if_neg sized] at applicable ⊢
  split at applicable
  swap
  · cases applicable
  rename_i name rest named
  split at applicable
  swap
  · cases applicable
  rename_i four
  rw [if_pos four]
  obtain ⟨qtHi, qtLo, qcHi, qcLo, rfl⟩ := List.length_eq_four.mp four
  obtain ⟨bytes, short⟩ := parseQname_eq_some_iff.mp named
  refine accepts_of_instance (correct.question _) ?_
  rw [bytes]
  exact Grammar.dnsUncompressedQuestion_instance short

/-- An NS, CNAME or PTR answer passes if its name is a pointer. -/
theorem compressedNameRdata_passes (correct : check.Correct) (held : buffer.take len = input)
    (applicable : generatedCompressedNameRdataPacketSubsetApplicable input = true) :
    validateGeneratedCompressedNameRdataPacketSubsetBuffer check buffer len input = true := by
  obtain ⟨f, found⟩ := compressedRdataSubsetApplicable_found applicable
  rw [validateGeneratedCompressedNameRdataPacketSubsetBuffer, held, generatedCompressedNameRdataPacketFields, found]
  obtain ⟨typed, qname, owner, octets, here⟩ := compressedRdata_spec (Grammar.is f.rrType) found
    (fun _ => Grammar.is_self _) fun _ _ pointer => pointer
  refine accepts_of_instance (correct.compressedNameRdata _ _ _ _ _) ⟨?_, here⟩
  have named : Grammar.nameRdataType f.rrType = true := by
    simpa [Grammar.nameRdataType, isNameRdataType, or_assoc] using typed
  rw [qname, owner, named, octets]
  rfl

theorem compressedMx_passes (correct : check.Correct) (held : buffer.take len = input)
    (applicable : generatedCompressedMxPacketSubsetApplicable input = true) :
    validateGeneratedCompressedMxPacketSubsetBuffer check buffer len input = true := by
  obtain ⟨f, found⟩ := compressedRdataSubsetApplicable_found applicable
  rw [validateGeneratedCompressedMxPacketSubsetBuffer, held, generatedCompressedMxPacketFields, found]
  obtain ⟨-, qname, owner, octets, here⟩ := compressedRdata_spec (Grammar.is 15) found id
    fun _ length pointer => Grammar.u16_any_instance (by omega) pointer
  refine accepts_of_instance (correct.compressedMx _ _ _ _) ⟨?_, here⟩
  rw [qname, owner, octets]
  rfl

theorem compressedSrv_passes (correct : check.Correct) (held : buffer.take len = input)
    (applicable : generatedCompressedSrvPacketSubsetApplicable input = true) :
    validateGeneratedCompressedSrvPacketSubsetBuffer check buffer len input = true := by
  obtain ⟨f, found⟩ := compressedRdataSubsetApplicable_found applicable
  rw [validateGeneratedCompressedSrvPacketSubsetBuffer, held, generatedCompressedSrvPacketFields, found]
  obtain ⟨-, qname, owner, octets, here⟩ := compressedRdata_spec (Grammar.is 33) found id
    fun tail length pointer => Grammar.u16_any_instance (by omega)
      (Grammar.u16_any_instance (by rw [List.length_drop]; omega)
        (Grammar.u16_any_instance (by simp only [List.length_drop]; omega)
          (by simpa only [List.drop_drop] using pointer)))
  refine accepts_of_instance (correct.compressedSrv _ _ _ _) ⟨?_, here⟩
  rw [qname, owner, octets]
  rfl

/-- An answer whose owner is a pointer passes, whatever its RDATA. -/
theorem compressedOwner_passes (correct : check.Correct) (held : buffer.take len = input)
    (applicable : generatedCompressedAnswerNamePacketSubsetApplicable input = true) :
    validateGeneratedCompressedAnswerNamePacketSubsetBuffer check buffer len input = true := by
  rw [validateGeneratedCompressedAnswerNamePacketSubsetBuffer, held]
  unfold generatedCompressedAnswerNamePacketSubsetApplicable at applicable
  split at applicable
  swap
  · cases applicable
  rename_i f found
  unfold generatedCompressedAnswerNamePacketFields at found
  split at found
  swap
  · cases found
  rename_i name after asked
  split at found
  swap
  · cases found
  rename_i hi lo rrTail
  split at found
  swap
  · cases found
  rename_i rrType rdataLength rdataTail fixed
  split at found
  swap
  · cases found
  rename_i length
  split at found
  swap
  · cases found
  rename_i lone
  simp only [isLonePointer, Bool.and_eq_true, decide_eq_true_eq] at lone
  cases found
  refine accepts_of_instance (correct.compressedOwner _ _ _ _) ⟨?_, ?_⟩
  · obtain ⟨_, _, _, _, _, _, _, _, rdlenHi, rdlenLo, -, -, rfl⟩ := walkFixedFields_eq_some fixed
    have small := ofBe16_lt rdlenHi rdlenLo
    rw [walkQuestion_nameLength asked, Grammar.pointerOctets_toNat lone.2, Bool.and_true,
      Bool.true_and]
    exact decide_eq_true (Nat.le_of_lt_succ small)
  · refine Grammar.walkQuestion_instance asked (Grammar.pointer_instance (isWholeName_pointer_target lone.1 lone.2) ?_)
    refine Grammar.walkFixedFields_instance fixed rfl (Grammar.is_self _) ?_
    exact ⟨rdataTail, [], (List.append_nil _).symm, length, rfl⟩

theorem walkAddressRecord_instance (next : Format) {name : Qname} {after : List UInt8}
    (walked : walkAddressRecord input = some (name, after)) (here : next.Instance after) :
    Grammar.nameLength (dnsNameLength name) = true ∧ (Grammar.name (dnsNameLength name)
      (Grammar.recordFields (Grammar.is 1) (Grammar.is 4) (.bytes 4 next))).Instance input := by
  unfold walkAddressRecord at walked
  split at walked
  · rename_i rrName rrType rdataLength b0 b1 b2 b3 afterAnswer answered
    split at walked
    · rename_i typed
      obtain ⟨rfl, rfl⟩ := Prod.mk.inj (Option.some.inj walked)
      refine ⟨walkRecord_nameLength answered, ?_⟩
      exact Grammar.walkRecord_instance answered (decide_eq_true typed.1) (decide_eq_true typed.2)
        ⟨[b0, b1, b2, b3], afterAnswer, rfl, rfl, here⟩
    · cases walked
  · cases walked

/-- Two addresses pass. -/
theorem twoAddresses_passes (correct : check.Correct) (held : buffer.take len = input)
    (applicable : generatedUncompressedQuestionTwoAAnswerPacketSubsetApplicable input = true) :
    validateGeneratedUncompressedQuestionTwoAAnswerPacketSubsetBuffer check buffer len input = true := by
  rw [validateGeneratedUncompressedQuestionTwoAAnswerPacketSubsetBuffer, held]
  unfold generatedUncompressedQuestionTwoAAnswerPacketSubsetApplicable at applicable
  split at applicable
  swap
  · cases applicable
  rename_i q first second found
  unfold generatedUncompressedQuestionTwoAAnswerPacketFields at found
  split at found
  swap
  · cases found
  rename_i name afterQuestion asked
  split at found
  swap
  · cases found
  rename_i firstName afterFirst firstWalked
  split at found
  swap
  · cases found
  rename_i secondName secondWalked
  cases found
  obtain ⟨secondSized, secondHere⟩ := walkAddressRecord_instance .done secondWalked rfl
  obtain ⟨firstSized, firstHere⟩ := walkAddressRecord_instance _ firstWalked secondHere
  refine accepts_of_instance (correct.twoA _ _ _) ⟨?_, Grammar.walkQuestion_instance asked firstHere⟩
  rw [walkQuestion_nameLength asked, firstSized, secondSized]
  rfl

/-- An SOA answer with one pointer passes the validator for the place of the pointer. -/
theorem compressedSoa_passes (correct : check.Correct) (held : buffer.take len = input)
    (applicable : generatedCompressedSoaPacketSubsetApplicable input = true) :
    validateGeneratedCompressedSoaPacketSubsetBuffer check buffer len input = true := by
  rw [validateGeneratedCompressedSoaPacketSubsetBuffer, held]
  unfold generatedCompressedSoaPacketSubsetApplicable at applicable
  split at applicable
  swap
  · cases applicable
  rename_i f found
  obtain ⟨name, after, r, asked, answered, typed, fields⟩ := generatedCompressedSoaPacketFields_eq_some found
  have qname := walkQuestion_nameLength asked
  have owner := walkRecord_nameLength answered
  obtain ⟨hi, lo, other, timers, pointing, outside, ended, short, sized, ⟨rdata, rfl⟩ | ⟨rdata, rfl⟩⟩ :=
    compressedSoaFields_eq_some fields
  · refine accepts_of_instance (correct.compressedSoaMname _ _ _ _ _) ⟨?_, ?_⟩
    · simp only [answerPacketFields]
      rw [qname, owner, Grammar.nameLength_dnsNameLength short, Grammar.pointerOctets_toNat pointing]
      rfl
    · refine Grammar.walkQuestion_instance asked (Grammar.walkRecord_instance answered (decide_eq_true typed)
        (decide_eq_true sized) ?_)
      rw [rdata]
      exact Grammar.pointer_instance outside (Grammar.name_instance other (Grammar.soaTimers_instance ended))
  · refine accepts_of_instance (correct.compressedSoaRname _ _ _ _ _) ⟨?_, ?_⟩
    · simp only [answerPacketFields]
      rw [qname, owner, Grammar.nameLength_dnsNameLength short, Grammar.pointerOctets_toNat pointing]
      rfl
    · refine Grammar.walkQuestion_instance asked (Grammar.walkRecord_instance answered (decide_eq_true typed)
        (decide_eq_true sized) ?_)
      rw [rdata]
      exact Grammar.name_instance other (Grammar.pointer_instance outside (Grammar.soaTimers_instance ended))

theorem compressedBothSoa_passes (correct : check.Correct) (held : buffer.take len = input)
    (applicable : generatedCompressedBothSoaPacketSubsetApplicable input = true) :
    validateGeneratedCompressedBothSoaPacketSubsetBuffer check buffer len input = true := by
  rw [validateGeneratedCompressedBothSoaPacketSubsetBuffer, held]
  unfold generatedCompressedBothSoaPacketSubsetApplicable at applicable
  split at applicable
  swap
  · cases applicable
  rename_i f found
  obtain ⟨name, after, r, mHi, mLo, rHi, rLo, timers, asked, answered, typed, sized, rdata, ended, mPointing, mOutside,
    rPointing, rOutside, rfl⟩ := generatedCompressedBothSoaPacketFields_eq_some found
  refine accepts_of_instance (correct.compressedSoa _ _ _ _ _ _) ⟨?_, ?_⟩
  · rw [walkQuestion_nameLength asked, walkRecord_nameLength answered, Grammar.pointerOctets_toNat mPointing,
      Grammar.pointerOctets_toNat rPointing]
    rfl
  · refine Grammar.walkQuestion_instance asked (Grammar.walkRecord_instance answered (decide_eq_true typed)
      (decide_eq_true sized) ?_)
    rw [rdata]
    exact Grammar.pointer_instance mOutside (Grammar.pointer_instance rOutside (Grammar.soaTimers_instance ended))

end Passing

end Ism
