import Ism.Worker

namespace Ism

open Lib

section Scan

variable {requestBuffer : List UInt8} {requestLen : Nat}

theorem drop_take_cons {pos : Nat} (inside : pos < requestLen) (room : requestLen ≤ requestBuffer.length) :
    (requestBuffer.take requestLen).drop pos =
      requestBuffer.getD pos 0 :: (requestBuffer.take requestLen).drop (pos + 1) := by
  have bound : pos < (requestBuffer.take requestLen).length := by
    rw [List.length_take_of_le room]
    exact inside
  rw [List.drop_eq_getElem_cons bound, List.getElem_take, List.getD_eq_getElem?_getD,
    List.getElem?_eq_getElem (by omega), Option.getD_some]

theorem drop_take_length (room : requestLen ≤ requestBuffer.length) (pos : Nat) :
    ((requestBuffer.take requestLen).drop pos).length = requestLen - pos := by
  rw [List.length_drop, List.length_take_of_le room]

theorem inside_of_name (room : requestLen ≤ requestBuffer.length) {name : Qname} {pos : Nat} {rest : List UInt8}
    (bytes : (requestBuffer.take requestLen).drop pos = serializeQnameLabels name ++ rest) :
    pos + dnsNameLength name ≤ requestLen := by
  have length := congrArg List.length bytes
  rw [drop_take_length room, List.length_append, serializeQnameLabels_length] at length
  have positive := dnsNameLength_pos name
  omega

/-- The scan measures every name that is there. -/
theorem scanUncompressedQnameLengthLoop_complete (room : requestLen ≤ requestBuffer.length) {name : Qname}
    {fuel pos consumed : Nat} {rest : List UInt8}
    (bytes : (requestBuffer.take requestLen).drop pos = serializeQnameLabels name ++ rest)
    (short : consumed + dnsNameLength name ≤ 255) (deep : name.length < fuel) :
    scanUncompressedQnameLengthLoop requestBuffer requestLen fuel pos consumed = consumed + dnsNameLength name := by
  induction name generalizing fuel pos consumed with
  | nil =>
    obtain ⟨fuel, rfl⟩ := Nat.exists_eq_succ_of_ne_zero (Nat.ne_of_gt deep)
    have inside := inside_of_name room bytes
    rw [dnsNameLength] at inside short ⊢
    rw [drop_take_cons inside room] at bytes
    have zero : requestBuffer.getD pos 0 = 0 := (List.cons.inj bytes).1
    rw [scanUncompressedQnameLengthLoop, if_neg (Nat.not_le.mpr inside)]
    simp only [zero, UInt8.toNat_zero, if_true]
    exact if_pos (by omega)
  | cons l tl ih =>
    obtain ⟨fuel, rfl⟩ := Nat.exists_eq_succ_of_ne_zero (Nat.ne_of_gt (Nat.zero_lt_of_lt deep))
    have inside := inside_of_name room bytes
    have bound := l.property
    have positive := dnsNameLength_pos tl
    simp only [dnsNameLength, List.length_cons] at inside short deep ⊢
    rw [drop_take_cons (by omega) room, serializeQnameLabels, List.cons_append, List.cons_append,
      List.append_assoc] at bytes
    obtain ⟨octet, later⟩ := List.cons.inj bytes
    have next : (requestBuffer.take requestLen).drop (pos + (1 + l.val.length)) = serializeQnameLabels tl ++ rest := by
      rw [← Nat.add_assoc, ← List.drop_drop, later, List.drop_left]
    rw [scanUncompressedQnameLengthLoop, if_neg (by omega)]
    simp only [octet, l.toNat_length]
    rw [if_neg (by omega), if_neg (by omega), if_neg (by omega), ih next (by omega) (by omega)]
    omega

/-- A nonzero measure is that of a name that stands there. -/
theorem scanUncompressedQnameLengthLoop_sound (room : requestLen ≤ requestBuffer.length) {fuel pos consumed : Nat}
    (found : scanUncompressedQnameLengthLoop requestBuffer requestLen fuel pos consumed ≠ 0) :
    ∃ name rest, (requestBuffer.take requestLen).drop pos = serializeQnameLabels name ++ rest ∧
      scanUncompressedQnameLengthLoop requestBuffer requestLen fuel pos consumed = consumed + dnsNameLength name ∧
      consumed + dnsNameLength name ≤ 255 := by
  induction fuel generalizing pos consumed with
  | zero => exact (found rfl).elim
  | succ fuel ih =>
    rw [scanUncompressedQnameLengthLoop] at found ⊢
    by_cases inside : pos < requestLen
    swap
    · rw [if_pos (Nat.not_lt.mp inside)] at found
      exact (found rfl).elim
    rw [if_neg (Nat.not_le.mpr inside)] at found ⊢
    simp only at found ⊢
    have cell := drop_take_cons inside room
    split at found
    · rename_i zero
      split at found
      · rename_i small
        refine ⟨[], (requestBuffer.take requestLen).drop (pos + 1), ?_, ?_, ?_⟩
        · rw [cell, UInt8.toNat_inj.mp (zero.trans UInt8.toNat_zero.symm)]
          rfl
        · rw [if_pos zero, if_pos small, dnsNameLength]
        · rw [dnsNameLength]
          omega
      · exact (found rfl).elim
    rename_i nonzero
    split at found
    · exact (found rfl).elim
    rename_i small
    split at found
    · exact (found rfl).elim
    rename_i fits
    obtain ⟨tl, rest, bytes, measured, short⟩ := ih found
    have bound : (requestBuffer.getD pos 0).toNat ≤ ((requestBuffer.take requestLen).drop (pos + 1)).length := by
      rw [drop_take_length room]
      omega
    obtain ⟨l, next, length, after, shape⟩ := exists_label ⟨by omega, by omega⟩ bound
    refine ⟨l :: tl, rest, ?_, ?_, ?_⟩
    · rw [cell, shape, after, List.drop_drop, Nat.add_assoc, bytes]
      simp only [serializeQnameLabels, List.cons_append, List.append_assoc]
    · rw [if_neg nonzero, if_neg small, if_neg fits, measured, dnsNameLength]
      omega
    · rw [dnsNameLength]
      omega

end Scan

section Packets

/-- A packet that asks one question and carries no record. -/
def SingleQuestion (p : DnsPacket) : Prop :=
  p.header.qdcount.toNat = 1 ∧ p.header.ancount.toNat = 0 ∧ p.header.nscount.toNat = 0 ∧
    p.header.arcount.toNat = 0

instance (p : DnsPacket) : Decidable (SingleQuestion p) := inferInstanceAs (Decidable (_ ∧ _))

/-- The wire form of the packets that ask one question. -/
theorem parse_singleQuestion_iff {q : List UInt8} {p : DnsPacket} :
    parseDnsPacketBytes q = some p ∧ SingleQuestion p ↔ SingleQuestion p ∧ ∃ name qtHi qtLo qcHi qcLo,
      p = ⟨p.header, [⟨name, u16ToQtype (u16FromBe qtHi qtLo), u16FromBe qcHi qcLo⟩], [], [], []⟩ ∧
      dnsNameLength name ≤ 255 ∧
      q = serializeHeaderBytes p.header ++ (serializeQnameLabels name ++ [qtHi, qtLo, qcHi, qcLo]) := by
  constructor
  · rintro ⟨parsed, single⟩
    refine ⟨single, ?_⟩
    obtain ⟨qd, an, ns, ar⟩ := single
    obtain ⟨rest, afterQuestions, afterAnswers, afterAuthorities, header, asked, answered, authorized, added⟩ :=
      parsePacketWith_eq_some_iff.mp parsed
    rw [qd, parseQuestionsBytes, readCounted, readCountedAt_one] at asked
    rw [an, parseResourceRecordsBytesAt, readCountedAt_zero] at answered
    rw [ns, parseResourceRecordsBytesAt, readCountedAt_zero] at authorized
    rw [ar, parseResourceRecordsBytesAt, readCountedAt_zero] at added
    obtain ⟨question, first, questions⟩ := asked
    obtain ⟨answers, rfl⟩ := Prod.mk.inj (Option.some.inj answered)
    obtain ⟨authorities, rfl⟩ := Prod.mk.inj (Option.some.inj authorized)
    obtain ⟨additionals, rfl⟩ := Prod.mk.inj (Option.some.inj added)
    obtain ⟨qtHi, qtLo, qcHi, qcLo, named, typed, classed⟩ := parseQuestionBytes_eq_some_iff.mp first
    obtain ⟨bytes, short⟩ := parseQname_eq_some_iff.mp named
    refine ⟨question.qname, qtHi, qtLo, qcHi, qcLo, ?_, short, ?_⟩
    · obtain ⟨h, qs, an, ns, ar⟩ := p
      obtain ⟨name, qtype, qclass⟩ := question
      simp only at questions answers authorities additionals typed classed
      simp only [questions, ← answers, ← authorities, ← additionals, typed, classed]
    · rw [parseHeaderBytes_eq_some_iff.mp header, bytes]
  · rintro ⟨single, name, qtHi, qtLo, qcHi, qcLo, same, short, rfl⟩
    refine ⟨?_, single⟩
    obtain ⟨qd, an, ns, ar⟩ := single
    have named : parseQname 128 (serializeQnameLabels name ++ [qtHi, qtLo, qcHi, qcLo]) =
        some (name, [qtHi, qtLo, qcHi, qcLo]) := parseQname_eq_some_iff.mpr ⟨rfl, short⟩
    have asked : parseQuestionBytes (serializeQnameLabels name ++ [qtHi, qtLo, qcHi, qcLo]) =
        some (⟨name, u16ToQtype (u16FromBe qtHi qtLo), u16FromBe qcHi qcLo⟩, []) :=
      parseQuestionBytes_eq_some_iff.mpr ⟨qtHi, qtLo, qcHi, qcLo, named, rfl, rfl⟩
    rw [same]
    refine parsePacketWith_eq_some_iff.mpr ⟨_, [], [], [], parseHeaderBytes_eq_some_iff.mpr rfl, ?_, ?_, ?_, ?_⟩
    · rw [qd, parseQuestionsBytes, readCounted, readCountedAt_one]
      exact ⟨_, asked, rfl⟩
    · rw [an]
      rfl
    · rw [ns]
      rfl
    · rw [ar]
      rfl

end Packets

section Flags

theorem noerrorResponseFlagsHi_toNat (b : UInt8) :
    (noerrorResponseFlagsHi b).toNat = 128 + b.toNat / 8 % 16 * 8 + b.toNat % 2 := by
  have table : ∀ n : Fin 256, (noerrorResponseFlagsHi (UInt8.ofNat n)).toNat =
      128 + n.val / 8 % 16 * 8 + n.val % 2 := by decide +kernel
  have entry := table ⟨b.toNat, b.toNat_lt⟩
  rwa [UInt8.ofNat_toNat] at entry

theorem noerrorResponseFlagsLo_toNat (b : UInt8) : (noerrorResponseFlagsLo b).toNat = b.toNat / 16 % 2 * 16 := by
  have table : ∀ n : Fin 256, (noerrorResponseFlagsLo (UInt8.ofNat n)).toNat = n.val / 16 % 2 * 16 := by decide +kernel
  have entry := table ⟨b.toNat, b.toNat_lt⟩
  rwa [UInt8.ofNat_toNat] at entry

theorem u16Hi_toNat (n : UInt16) : (u16Hi n).toNat = n.toNat / 256 := by
  have := n.toNat_lt
  exact toNat_ofNat_of_lt (by omega)

theorem u16Lo_toNat (n : UInt16) : (u16Lo n).toNat = n.toNat % 256 := toNat_ofNat_of_lt (by omega)

theorem responseFlags_toNat (h : Header) (rcode : Rcode) :
    (flagsToU16 (responseFlagsFromRequest h rcode)).toNat = 32768 + h.flags.opcode.val.toNat * 2048 +
      h.flags.rd.toNat * 256 + h.flags.cd.toNat * 16 + (rcodeToU4 rcode).val.toNat := by
  rw [flagsToU16_toNat]
  simp [responseFlagsFromRequest]

theorem rcodeToU4_noError : (rcodeToU4 .noError).val.toNat = 0 := rfl

/-- The byte masks of the worker compute the flags of the packet model's response. -/
theorem u16Hi_responseFlags (h : Header) : u16Hi (flagsToU16 (responseFlagsFromRequest h .noError)) =
    noerrorResponseFlagsHi (u16Hi (flagsToU16 h.flags)) := by
  have := h.flags.opcode.property
  have := h.flags.rcode.property
  have := h.flags.qr.toNat_le
  have := h.flags.aa.toNat_le
  have := h.flags.tc.toNat_le
  have := h.flags.rd.toNat_le
  have := h.flags.ra.toNat_le
  have := h.flags.z.toNat_le
  have := h.flags.ad.toNat_le
  have := h.flags.cd.toNat_le
  apply UInt8.toNat_inj.mp
  rw [noerrorResponseFlagsHi_toNat, u16Hi_toNat, u16Hi_toNat, responseFlags_toNat, flagsToU16_toNat,
    rcodeToU4_noError]
  omega

theorem u16Lo_responseFlags (h : Header) : u16Lo (flagsToU16 (responseFlagsFromRequest h .noError)) =
    noerrorResponseFlagsLo (u16Lo (flagsToU16 h.flags)) := by
  have := h.flags.rcode.property
  have := h.flags.ra.toNat_le
  have := h.flags.z.toNat_le
  have := h.flags.ad.toNat_le
  have := h.flags.cd.toNat_le
  apply UInt8.toNat_inj.mp
  rw [noerrorResponseFlagsLo_toNat, u16Lo_toNat, u16Lo_toNat, responseFlags_toNat, flagsToU16_toNat,
    rcodeToU4_noError]
  omega

end Flags

section Response

/-- The header of the packet model's minimal response to one question. -/
def minimalResponseHeader (h : Header) : Header :=
  { id := h.id
    flags := responseFlagsFromRequest h .noError
    qdcount := 1
    ancount := 0
    nscount := 0
    arcount := 0 }

theorem serializeMinimalResponseBytes_singleQuestion {p : DnsPacket} {name : Qname} {qtHi qtLo qcHi qcLo : UInt8}
    (same : p = ⟨p.header, [⟨name, u16ToQtype (u16FromBe qtHi qtLo), u16FromBe qcHi qcLo⟩], [], [], []⟩)
    (short : dnsNameLength name ≤ 255) :
    serializeMinimalResponseBytes p .noError = some (serializeHeaderBytes (minimalResponseHeader p.header) ++
      (serializeQnameLabels name ++ [qtHi, qtLo, qcHi, qcLo])) := by
  rw [same]
  have built : buildMinimalResponsePacket
      ⟨p.header, [⟨name, u16ToQtype (u16FromBe qtHi qtLo), u16FromBe qcHi qcLo⟩], [], [], []⟩ .noError =
      some ⟨minimalResponseHeader p.header,
        [⟨name, u16ToQtype (u16FromBe qtHi qtLo), u16FromBe qcHi qcLo⟩], [], [], []⟩ := rfl
  have written : serializeQuestionsBytes [⟨name, u16ToQtype (u16FromBe qtHi qtLo), u16FromBe qcHi qcLo⟩] =
      some (serializeQnameLabels name ++ [qtHi, qtLo, qcHi, qcLo]) := by
    simp only [serializeQuestionsBytes, writeAll, serializeQuestionBytes, serializeQnameUncompressed,
      if_neg (Nat.not_lt.mpr short), qtypeToU16_u16ToQtype, u16Hi_u16FromBe, u16Lo_u16FromBe, List.append_nil]
  simp only [serializeMinimalResponseBytes, built]
  refine serializeDnsPacketBytes_iff_plain.mpr (parsePlainPacketBytes_eq_some_iff.mpr ⟨rfl, ?_, ?_, ?_⟩)
  · refine packetSections_eq_some_iff.mpr ⟨_, [], [], [], written, rfl, rfl, rfl, ?_⟩
    simp only [List.append_nil]
  · intro q member
    cases List.mem_singleton.mp member
    simp only [qtypeToU16_u16ToQtype]
  · simp only [List.not_mem_nil, false_implies, implies_true, and_self]

/-- The twelve octets of a format error. -/
def formErrResponse (m : List UInt8) : List UInt8 := [m.getD 0 0, m.getD 1 0, 0x81, 0x01, 0, 0, 0, 0, 0, 0, 0, 0]

/-- What the responder is for: the packet model's minimal response to a message that
asks one question, and a format error for every other message. -/
def minimalResponse (m : List UInt8) : List UInt8 :=
  match parseDnsPacketBytes m with
  | some p => if SingleQuestion p then (serializeMinimalResponseBytes p .noError).getD [] else formErrResponse m
  | none => formErrResponse m

end Response

section Request

variable {check : Nat → List UInt8 → UInt8} {q old responseBuffer : List UInt8} {responseCapacity : Nat}

theorem exists_twelve_octets (long : 12 ≤ q.length) : ∃ b0 b1 b2 b3 b4 b5 b6 b7 b8 b9 b10 b11 rest,
    q = b0 :: b1 :: b2 :: b3 :: b4 :: b5 :: b6 :: b7 :: b8 :: b9 :: b10 :: b11 :: rest := by
  rcases q with _ | ⟨b0, _ | ⟨b1, _ | ⟨b2, _ | ⟨b3, _ | ⟨b4, _ | ⟨b5, _ | ⟨b6, _ | ⟨b7, _ | ⟨b8, _ | ⟨b9,
    _ | ⟨b10, _ | ⟨b11, rest⟩⟩⟩⟩⟩⟩⟩⟩⟩⟩⟩⟩
  case cons.cons.cons.cons.cons.cons.cons.cons.cons.cons.cons.cons =>
    exact ⟨b0, b1, b2, b3, b4, b5, b6, b7, b8, b9, b10, b11, rest, rfl⟩
  all_goals
    simp only [List.length_cons, List.length_nil] at long
    omega

theorem exists_header (long : 12 ≤ q.length) : ∃ h rest, q = serializeHeaderBytes h ++ rest := by
  obtain ⟨idHi, idLo, flagsHi, flagsLo, qdHi, qdLo, anHi, anLo, nsHi, nsLo, arHi, arLo, rest, rfl⟩ :=
    exists_twelve_octets long
  exact ⟨_, rest, parseHeaderBytes_eq_some_iff.mp rfl⟩

theorem u16_bytes_iff (n : UInt16) (lo : UInt8) : (u16Hi n = 0 ∧ u16Lo n = lo) ↔ n.toNat = lo.toNat := by
  have := lo.toNat_lt
  rw [← UInt8.toNat_inj, ← UInt8.toNat_inj, u16Hi_toNat, u16Lo_toNat, UInt8.toNat_zero]
  omega

/-- The count bytes that the worker tests, read as the counts of the header. -/
theorem countBytes_iff {h : Header} (input : List UInt8) {rest : List UInt8}
    (whole : input = serializeHeaderBytes h ++ rest) :
    (input.getD 4 0 = 0 ∧ input.getD 5 0 = 1 ∧ input.getD 6 0 = 0 ∧ input.getD 7 0 = 0 ∧ input.getD 8 0 = 0 ∧
      input.getD 9 0 = 0 ∧ input.getD 10 0 = 0 ∧ input.getD 11 0 = 0) ↔
      h.qdcount.toNat = 1 ∧ h.ancount.toNat = 0 ∧ h.nscount.toNat = 0 ∧ h.arcount.toNat = 0 := by
  subst whole
  have qd := u16_bytes_iff h.qdcount 1
  have an := u16_bytes_iff h.ancount 0
  have ns := u16_bytes_iff h.nscount 0
  have ar := u16_bytes_iff h.arcount 0
  rw [UInt8.toNat_zero] at an ns ar
  rw [UInt8.toNat_one] at qd
  rw [← qd, ← an, ← ns, ← ar, and_assoc, and_assoc, and_assoc]
  exact Iff.rfl

theorem validDoqRequestId_append (old : List UInt8) (long : 12 ≤ q.length) (idHi : q.getD 0 0 = 0)
    (idLo : q.getD 1 0 = 0) :
    validDoqRequestId (q ++ old) q.length = true := by
  obtain ⟨h, rest, rfl⟩ := exists_header long
  rw [validDoqRequestId, if_neg (Nat.not_lt.mpr long), Bool.and_eq_true, decide_eq_true_eq, decide_eq_true_eq]
  exact ⟨idHi, idLo⟩

/-- The worker's test is acceptance by the packet parser with one question and no record. -/
theorem validateMinimalUncompressedQuestionRequest_iff (old : List UInt8)
    (generated : ∀ n, Format.Validates (fun input => decide (check n input ≠ 0)) (Grammar.dnsUncompressedQuestion n))
    (long : 12 ≤ q.length) (idHi : q.getD 0 0 = 0) (idLo : q.getD 1 0 = 0) :
    validateMinimalUncompressedQuestionRequest check (q ++ old) q.length = true ↔
      ∃ p, parseDnsPacketBytes q = some p ∧ SingleQuestion p := by
  have identified := validDoqRequestId_append old long idHi idLo
  have room : q.length ≤ (q ++ old).length := by
    rw [List.length_append]
    omega
  obtain ⟨h, rest, whole⟩ := exists_header long
  have counts := countBytes_iff (q ++ old) (by rw [whole, List.append_assoc])
  have body : ((q ++ old).take q.length).drop 12 = rest := by
    rw [List.take_left, whole]
    rfl
  have width : q.length = 12 + rest.length := by
    rw [whole, List.length_append]
    rfl
  rw [validateMinimalUncompressedQuestionRequest, identified]
  constructor
  · intro valid
    split at valid
    · cases valid
    split at valid
    swap
    · cases valid
    rename_i _ single
    simp only at valid
    split at valid
    · cases valid
    rename_i measured
    obtain ⟨nonzero, exactly⟩ := not_or.mp measured
    obtain ⟨name, after, bytes, length, short⟩ := scanUncompressedQnameLengthLoop_sound room nonzero
    rw [body] at bytes
    have total := congrArg List.length bytes
    rw [List.length_append, serializeQnameLabels_length] at total
    have four : after.length = 4 := by
      rw [scanUncompressedQnameLength, length] at exactly
      omega
    obtain ⟨qtHi, qtLo, qcHi, qcLo, rfl⟩ := List.length_eq_four.mp four
    refine ⟨⟨h, [⟨name, u16ToQtype (u16FromBe qtHi qtLo), u16FromBe qcHi qcLo⟩], [], [], []⟩,
      parse_singleQuestion_iff.mpr ⟨counts.mp single, name, qtHi, qtLo, qcHi, qcLo, rfl, by omega, ?_⟩⟩
    rw [whole, bytes]
  · rintro ⟨p, accepted⟩
    obtain ⟨single, name, qtHi, qtLo, qcHi, qcLo, -, short, bytes⟩ := parse_singleQuestion_iff.mp accepted
    obtain ⟨header, question⟩ := List.append_inj (whole.symm.trans bytes) rfl
    rw [header] at whole
    have counted := (countBytes_iff (q ++ old) (by rw [whole, List.append_assoc])).mpr single
    have deep := length_lt_dnsNameLength name
    have positive := dnsNameLength_pos name
    have total : rest.length = dnsNameLength name + 4 := by
      rw [question, List.length_append, serializeQnameLabels_length]
      rfl
    have measured : scanUncompressedQnameLength (q ++ old) q.length 12 0 = dnsNameLength name := by
      rw [scanUncompressedQnameLength,
        scanUncompressedQnameLengthLoop_complete room (body.trans question) (by omega) (by omega), Nat.zero_add]
    have slice : ((q ++ old).drop 12).take (q.length - 12) = rest := by rw [← List.drop_take, body]
    rw [if_neg (by rw [Bool.true_eq_false, false_or]; omega), if_pos counted]
    simp only [measured, slice]
    rw [if_neg (by omega)]
    exact (generated _ rest).mpr ⟨rest, question ▸ Grammar.dnsUncompressedQuestion_instance short, List.prefix_refl _⟩

/-- The copying loop is a block copy. -/
theorem copyQuestionBytesLoop_eq_blit {requestBuffer : List UInt8} {left idx : Nat}
    (fits : 12 + idx + left ≤ requestBuffer.length) (room : 12 + idx + left ≤ responseBuffer.length) :
    copyQuestionBytesLoop requestBuffer left idx responseBuffer =
      blit requestBuffer (12 + idx) responseBuffer (12 + idx) left := by
  induction left generalizing idx responseBuffer with
  | zero => rw [copyQuestionBytesLoop, blit_zero]
  | succ left ih =>
    rw [copyQuestionBytesLoop, blit_succ (by omega) (by omega) 0, Nat.add_assoc 12 idx 1]
    refine ih (by omega) ?_
    rw [List.length_set]
    omega

theorem serializeHeaderBytes_minimalResponseHeader (h : Header) :
    serializeHeaderBytes (minimalResponseHeader h) = [u16Hi h.id, u16Lo h.id,
      noerrorResponseFlagsHi (u16Hi (flagsToU16 h.flags)), noerrorResponseFlagsLo (u16Lo (flagsToU16 h.flags)),
      0, 1, 0, 0, 0, 0, 0, 0] := by
  have counts : u16Hi 1 = 0 ∧ u16Lo 1 = 1 ∧ u16Hi 0 = 0 ∧ u16Lo 0 = 0 := by decide
  obtain ⟨oneHi, oneLo, zeroHi, zeroLo⟩ := counts
  simp only [serializeHeaderBytes, minimalResponseHeader, u16Hi_responseFlags, u16Lo_responseFlags, oneHi, oneLo,
    zeroHi, zeroLo]

theorem prepareWorkerQuestionNoerrorResponseSend_eq {h : Header} {rest : List UInt8}
    (whole : q = serializeHeaderBytes h ++ rest) (long : 17 ≤ q.length) (short : q.length ≤ 271)
    (room : q.length ≤ responseCapacity) (fits : responseCapacity ≤ responseBuffer.length) :
    prepareWorkerQuestionNoerrorResponseSend (q ++ old) responseBuffer responseCapacity q.length =
      (q.length, serializeHeaderBytes (minimalResponseHeader h) ++ rest ++ responseBuffer.drop q.length) := by
  have width : q.length = 12 + rest.length := by
    rw [whole, List.length_append]
    rfl
  have inside : 12 + 0 + rest.length ≤ (q ++ old).length := by
    rw [List.length_append]
    omega
  have copied : copyQuestionBytes (q ++ old) responseBuffer (q.length - 12) 0 =
      responseBuffer.take 12 ++ rest ++ responseBuffer.drop q.length := by
    have body : ((q ++ old).drop 12).take rest.length = rest := by
      rw [whole, List.append_assoc]
      exact List.take_left
    rw [copyQuestionBytes, (by omega : q.length - 12 - 0 = rest.length),
      copyQuestionBytesLoop_eq_blit inside (by omega), blit, body, width]
  rw [prepareWorkerQuestionNoerrorResponseSend, if_neg (by omega)]
  simp only [copied, serializeHeaderBytes_minimalResponseHeader]
  obtain ⟨b0, b1, b2, b3, b4, b5, b6, b7, b8, b9, b10, b11, tail, rfl⟩ :=
    exists_twelve_octets (q := responseBuffer) (by omega)
  subst whole
  simp only [upd, List.take_succ_cons, List.take_zero, List.cons_append, List.nil_append, List.foldl_cons,
    List.foldl_nil, List.set_cons_zero, List.set_cons_succ]
  rfl

theorem prepareWorkerMinimalErrorResponseSend_eq (long : 12 ≤ q.length) (room : 12 ≤ responseCapacity)
    (fits : responseCapacity ≤ responseBuffer.length) :
    prepareWorkerMinimalErrorResponseSend (q ++ old) responseBuffer responseCapacity q.length =
      (12, formErrResponse q ++ responseBuffer.drop 12) := by
  obtain ⟨b0, b1, b2, b3, b4, b5, b6, b7, b8, b9, b10, b11, tail, rfl⟩ :=
    exists_twelve_octets (q := responseBuffer) (by omega)
  obtain ⟨h, rest, rfl⟩ := exists_header long
  rw [prepareWorkerMinimalErrorResponseSend, if_neg (by omega)]
  simp only [upd, List.foldl_cons, List.foldl_nil, List.set_cons_zero, List.set_cons_succ]
  rfl

/-- The minimal response to a message that asks one question. -/
theorem minimalResponse_of_singleQuestion {p : DnsPacket} (accepted : parseDnsPacketBytes q = some p)
    (single : SingleQuestion p) : ∃ rest, q = serializeHeaderBytes p.header ++ rest ∧ 17 ≤ q.length ∧
      q.length ≤ 271 ∧ minimalResponse q = serializeHeaderBytes (minimalResponseHeader p.header) ++ rest ∧
      serializeMinimalResponseBytes p .noError = some (minimalResponse q) := by
  obtain ⟨-, name, qtHi, qtLo, qcHi, qcLo, same, short, bytes⟩ := parse_singleQuestion_iff.mp ⟨accepted, single⟩
  have written := serializeMinimalResponseBytes_singleQuestion same short
  have positive := dnsNameLength_pos name
  have width : q.length = 12 + (dnsNameLength name + 4) := by
    rw [bytes, List.length_append, List.length_append, serializeQnameLabels_length]
    rfl
  have answer : minimalResponse q = serializeHeaderBytes (minimalResponseHeader p.header) ++
      (serializeQnameLabels name ++ [qtHi, qtLo, qcHi, qcLo]) := by
    rw [minimalResponse, accepted]
    simp only [if_pos single, written, Option.getD_some]
  exact ⟨_, bytes, by omega, by omega, answer, answer ▸ written⟩

theorem minimalResponse_length_of_singleQuestion {p : DnsPacket} (accepted : parseDnsPacketBytes q = some p)
    (single : SingleQuestion p) : (minimalResponse q).length = q.length := by
  obtain ⟨rest, whole, -, -, answer, -⟩ := minimalResponse_of_singleQuestion accepted single
  have width : ∀ h, (serializeHeaderBytes h).length = 12 := fun _ => rfl
  rw [answer, List.length_append, whole, List.length_append, width, width]

theorem minimalResponse_of_not_singleQuestion
    (other : ¬ ∃ p, parseDnsPacketBytes q = some p ∧ SingleQuestion p) : minimalResponse q = formErrResponse q := by
  rw [minimalResponse]
  split
  · rename_i p accepted
    exact if_neg fun single => other ⟨p, accepted, single⟩
  · rfl

/-- The worker prepares the minimal response whenever the response buffer has room for it. -/
theorem prepareWorkerValidatedMinimalResponseSend_eq
    (generated : ∀ n, Format.Validates (fun input => decide (check n input ≠ 0)) (Grammar.dnsUncompressedQuestion n))
    (long : 12 ≤ q.length) (idHi : q.getD 0 0 = 0) (idLo : q.getD 1 0 = 0)
    (fits : responseCapacity ≤ responseBuffer.length) :
    prepareWorkerValidatedMinimalResponseSend check (q ++ old) responseBuffer responseCapacity q.length =
      if (minimalResponse q).length ≤ responseCapacity then
        ((minimalResponse q).length, minimalResponse q ++ responseBuffer.drop (minimalResponse q).length)
      else (0, responseBuffer) := by
  have valid := validateMinimalUncompressedQuestionRequest_iff old generated long idHi idLo
  rw [prepareWorkerValidatedMinimalResponseSend, validDoqRequestId_append old long idHi idLo,
    if_neg Bool.true_eq_false.mp]
  by_cases asked : ∃ p, parseDnsPacketBytes q = some p ∧ SingleQuestion p
  · rw [if_pos (valid.mpr asked)]
    obtain ⟨p, accepted, single⟩ := asked
    obtain ⟨rest, whole, low, high, answer, -⟩ := minimalResponse_of_singleQuestion accepted single
    have length := minimalResponse_length_of_singleQuestion accepted single
    rw [length]
    by_cases room : q.length ≤ responseCapacity
    · rw [if_pos room, prepareWorkerQuestionNoerrorResponseSend_eq whole low high room fits, answer]
    · rw [if_neg room, prepareWorkerQuestionNoerrorResponseSend, if_pos (by omega)]
  · rw [if_neg (mt valid.mp asked), minimalResponse_of_not_singleQuestion asked]
    change _ = if 12 ≤ responseCapacity then _ else _
    by_cases room : 12 ≤ responseCapacity
    · rw [if_pos room, prepareWorkerMinimalErrorResponseSend_eq long room fits]
      rfl
    · rw [if_neg room, prepareWorkerMinimalErrorResponseSend, if_pos (by omega)]

/-- The branch that `prepareWorkerValidatedMinimalResponseSend` takes. -/
def takesNoerrorBranch (check : Nat → List UInt8 → UInt8) (scBuf : List UInt8) (requestLen : Nat) : Bool :=
  validDoqRequestId scBuf requestLen && validateMinimalUncompressedQuestionRequest check scBuf requestLen

/-- The linked responder refines the packet model on every request. -/
theorem minimal_responder_refines_packet_model (check : Nat → List UInt8 → UInt8)
    (generated : ∀ n, Format.Validates (fun input => decide (check n input ≠ 0)) (Grammar.dnsUncompressedQuestion n))
    (q scBuf responseBuffer : List UInt8) (responseCapacity : Nat) (held : q <+: scBuf) (long : 12 ≤ q.length)
    (idHi : q.getD 0 0 = 0) (idLo : q.getD 1 0 = 0) (room : max q.length 12 ≤ responseCapacity)
    (fits : responseCapacity ≤ responseBuffer.length) :
    let sent := prepareWorkerValidatedMinimalResponseSend check scBuf responseBuffer responseCapacity q.length
    (takesNoerrorBranch check scBuf q.length = true ↔ ∃ p, parseDnsPacketBytes q = some p ∧ SingleQuestion p) ∧
      (∀ p, parseDnsPacketBytes q = some p → SingleQuestion p →
        sent.1 = q.length ∧ serializeMinimalResponseBytes p .noError = some (sent.2.take q.length)) ∧
      ((¬ ∃ p, parseDnsPacketBytes q = some p ∧ SingleQuestion p) → sent.1 = 12) := by
  obtain ⟨old, rfl⟩ := held
  rw [prepareWorkerValidatedMinimalResponseSend_eq generated long idHi idLo fits]
  refine ⟨?_, ?_, ?_⟩
  · rw [takesNoerrorBranch, validDoqRequestId_append old long idHi idLo, Bool.true_and]
    exact validateMinimalUncompressedQuestionRequest_iff old generated long idHi idLo
  · intro p accepted single
    obtain ⟨-, -, -, -, -, written⟩ := minimalResponse_of_singleQuestion accepted single
    have length := minimalResponse_length_of_singleQuestion accepted single
    rw [if_pos (by omega)]
    refine ⟨length, ?_⟩
    rw [written, ← length, List.take_left]
  · intro other
    have length : (minimalResponse q).length = 12 := by
      rw [minimalResponse_of_not_singleQuestion other]
      rfl
    rw [if_pos (by omega)]
    exact length

/-- A query for the address of `a.`, with recursion desired. -/
def addressQuery : List UInt8 := [0, 0, 1, 0, 0, 1, 0, 0, 0, 0, 0, 0, 1, 97, 0, 0, 1, 0, 1]

/-- The validator that runs the format of a question. -/
def checkQuestion (qnameLength : Nat) (input : List UInt8) : UInt8 :=
  if ((Grammar.dnsUncompressedQuestion qnameLength).validate input).isSome then 1 else 0

theorem checkQuestion_validates (n : Nat) :
    Format.Validates (fun input => decide (checkQuestion n input ≠ 0)) (Grammar.dnsUncompressedQuestion n) := by
  have same : (fun input => decide (checkQuestion n input ≠ 0)) =
      fun input => ((Grammar.dnsUncompressedQuestion n).validate input).isSome := by
    funext input
    rw [checkQuestion]
    cases ((Grammar.dnsUncompressedQuestion n).validate input).isSome <;> rfl
  rw [same]
  exact Format.validates _

theorem minimal_responder_address_query :
    let sent := prepareWorkerValidatedMinimalResponseSend checkQuestion (addressQuery ++ [7, 7])
      (List.replicate 512 255) 512 19
    sent.1 = 19 ∧ ∃ p, parseDnsPacketBytes addressQuery = some p ∧
      serializeMinimalResponseBytes p .noError = some (sent.2.take 19) := by
  obtain ⟨p, accepted⟩ : ∃ p, parseDnsPacketBytes addressQuery = some p :=
    Option.isSome_iff_exists.mp (by decide +kernel)
  have single : SingleQuestion p := by
    have decided : (parseDnsPacketBytes addressQuery).all (fun p => decide (SingleQuestion p)) = true := by
      decide +kernel
    rw [accepted] at decided
    exact of_decide_eq_true decided
  obtain ⟨-, answered, -⟩ := minimal_responder_refines_packet_model checkQuestion checkQuestion_validates
    addressQuery (addressQuery ++ [7, 7]) (List.replicate 512 255) 512 ⟨_, rfl⟩ (by decide) rfl rfl (by decide)
    (Nat.le_of_eq List.length_replicate.symm)
  obtain ⟨length, written⟩ := answered p accepted single
  exact ⟨length, p, accepted, written⟩

end Request

end Ism
