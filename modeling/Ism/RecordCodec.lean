import Ism.NameCodec

namespace Ism

open Lib

section Integers

theorem u16FromBe_toNat (hi lo : UInt8) : (u16FromBe hi lo).toNat = wireU16 hi lo := by
  have := ofBe16_lt hi lo
  simp only [ofBe16] at this
  rw [u16FromBe, UInt16.toNat_ofNat', wireU16, Nat.mod_eq_of_lt this]

@[simp] theorem u16Hi_u16FromBe (hi lo : UInt8) : u16Hi (u16FromBe hi lo) = hi := by
  have := lo.toNat_lt
  exact ofNat_toNat_of_eq (by rw [u16FromBe_toNat, wireU16]; omega)

@[simp] theorem u16Lo_u16FromBe (hi lo : UInt8) : u16Lo (u16FromBe hi lo) = lo := by
  have := lo.toNat_lt
  exact ofNat_toNat_of_eq (by rw [u16FromBe_toNat, wireU16]; omega)

@[simp] theorem u16FromBe_u16Hi_u16Lo (n : UInt16) : u16FromBe (u16Hi n) (u16Lo n) = n := by
  have := n.toNat_lt
  apply UInt16.toNat_inj.mp
  rw [u16FromBe_toNat, wireU16, u16Hi, u16Lo, toNat_ofNat_of_lt (by omega), toNat_ofNat_of_lt (by omega)]
  omega

theorem u32FromBe_toNat (b0 b1 b2 b3 : UInt8) : (u32FromBe b0 b1 b2 b3).toNat =
    b0.toNat * 16777216 + (b1.toNat * 65536 + (b2.toNat * 256 + b3.toNat)) := by
  have := b0.toNat_lt
  have := b1.toNat_lt
  have := b2.toNat_lt
  have := b3.toNat_lt
  rw [u32FromBe, UInt32.toNat_ofNat', Nat.mod_eq_of_lt (by omega)]

/-- Reading four octets as a number forgets none of them. -/
theorem u32Bytes_u32FromBe (b0 b1 b2 b3 : UInt8) : let n := u32FromBe b0 b1 b2 b3
    [u32B0 n, u32B1 n, u32B2 n, u32B3 n] = [b0, b1, b2, b3] := by
  have := b0.toNat_lt
  have := b1.toNat_lt
  have := b2.toNat_lt
  have := b3.toNat_lt
  have first : u32B0 (u32FromBe b0 b1 b2 b3) = b0 := ofNat_toNat_of_eq (by rw [u32FromBe_toNat]; omega)
  have second : u32B1 (u32FromBe b0 b1 b2 b3) = b1 := ofNat_toNat_of_eq (by rw [u32FromBe_toNat]; omega)
  have third : u32B2 (u32FromBe b0 b1 b2 b3) = b2 := ofNat_toNat_of_eq (by rw [u32FromBe_toNat]; omega)
  have fourth : u32B3 (u32FromBe b0 b1 b2 b3) = b3 := ofNat_toNat_of_eq (by rw [u32FromBe_toNat]; omega)
  simp only [first, second, third, fourth]

@[simp] theorem u32FromBe_u32Bytes (n : UInt32) : u32FromBe (u32B0 n) (u32B1 n) (u32B2 n) (u32B3 n) = n := by
  have := n.toNat_lt
  apply UInt32.toNat_inj.mp
  rw [u32FromBe_toNat, u32B0, u32B1, u32B2, u32B3, toNat_ofNat_of_lt (by omega), toNat_ofNat_of_lt (by omega),
    toNat_ofNat_of_lt (by omega), toNat_ofNat_of_lt (by omega)]
  omega

end Integers

section Flags

theorem ite_eq_toNat_mul (b : Bool) (weight : Nat) : (if b then weight else 0) = b.toNat * weight := by
  cases b <;> simp

theorem decide_eq_of_toNat {n : Nat} {b : Bool} (same : n = b.toNat) : decide (n = 1) = b := by
  subst same
  cases b <;> rfl

theorem toNat_decide_mod_two (n : Nat) : (decide (n % 2 = 1)).toNat = n % 2 := by
  rcases Nat.mod_two_eq_zero_or_one n with even | odd
  · rw [even]; rfl
  · rw [odd]; rfl

/-- The flag word as a weighted sum of its fields. -/
theorem flagsToU16_toNat (flags : DnsFlags) : (flagsToU16 flags).toNat =
    flags.qr.toNat * 32768 + flags.opcode.val.toNat * 2048 + flags.aa.toNat * 1024 + flags.tc.toNat * 512 +
      flags.rd.toNat * 256 + flags.ra.toNat * 128 + flags.z.toNat * 64 + flags.ad.toNat * 32 +
      flags.cd.toNat * 16 + flags.rcode.val.toNat := by
  have := flags.opcode.property
  have := flags.rcode.property
  have := flags.qr.toNat_le
  have := flags.aa.toNat_le
  have := flags.tc.toNat_le
  have := flags.rd.toNat_le
  have := flags.ra.toNat_le
  have := flags.z.toNat_le
  have := flags.ad.toNat_le
  have := flags.cd.toNat_le
  simp only [flagsToU16, ite_eq_toNat_mul, UInt16.toNat_ofNat']
  omega

/-- The flag word from its fields, lowest first. -/
theorem word_of_fields (n : Nat) :
    n % 16 + n / 16 % 2 * 16 + n / 32 % 2 * 32 + n / 64 % 2 * 64 + n / 128 % 2 * 128 + n / 256 % 2 * 256 +
      n / 512 % 2 * 512 + n / 1024 % 2 * 1024 + n / 2048 % 16 * 2048 + n / 32768 * 32768 = n := by
  have cd : n % 16 + n / 16 % 2 * 16 = n % 32 := by omega
  have ad : n % 32 + n / 32 % 2 * 32 = n % 64 := by omega
  have z : n % 64 + n / 64 % 2 * 64 = n % 128 := by omega
  have ra : n % 128 + n / 128 % 2 * 128 = n % 256 := by omega
  have rd : n % 256 + n / 256 % 2 * 256 = n % 512 := by omega
  have tc : n % 512 + n / 512 % 2 * 512 = n % 1024 := by omega
  have aa : n % 1024 + n / 1024 % 2 * 1024 = n % 2048 := by omega
  rw [cd, ad, z, ra, rd, tc, aa]
  omega

/-- Every word is a flag word: decoding forgets no bit. -/
theorem flagsToU16_uint16ToFlags (raw : UInt16) : flagsToU16 (uint16ToFlags raw) = raw := by
  have bound := raw.toNat_lt
  have top : (decide (raw.toNat / 32768 = 1)).toNat = raw.toNat / 32768 := by
    rcases (by omega : raw.toNat / 32768 = 0 ∨ raw.toNat / 32768 = 1) with low | high
    · rw [low]; rfl
    · rw [high]; rfl
  have opcode : (UInt16.ofNat (raw.toNat / 2048 % 16)).toNat = raw.toNat / 2048 % 16 := by
    rw [UInt16.toNat_ofNat', Nat.mod_eq_of_lt (by omega)]
  have rcode : (UInt16.ofNat (raw.toNat % 16)).toNat = raw.toNat % 16 := by
    rw [UInt16.toNat_ofNat', Nat.mod_eq_of_lt (by omega)]
  apply UInt16.toNat_inj.mp
  rw [flagsToU16_toNat]
  simp only [uint16ToFlags, top, toNat_decide_mod_two, opcode, rcode]
  refine Eq.trans ?_ (word_of_fields raw.toNat)
  ac_rfl

/-- Encoding forgets no field. The opcode and the response code are four bits wide by their type. -/
theorem uint16ToFlags_flagsToU16 (flags : DnsFlags) : uint16ToFlags (flagsToU16 flags) = flags := by
  have word := flagsToU16_toNat flags
  obtain ⟨qr, opcode, aa, tc, rd, ra, z, ad, cd, rcode⟩ := flags
  have := opcode.property
  have := rcode.property
  have := qr.toNat_le
  have := aa.toNat_le
  have := tc.toNat_le
  have := rd.toNat_le
  have := ra.toNat_le
  have := z.toNat_le
  have := ad.toNat_le
  have := cd.toNat_le
  generalize flagsToU16 ⟨qr, opcode, aa, tc, rd, ra, z, ad, cd, rcode⟩ = raw at word
  simp only at word
  simp only [uint16ToFlags, DnsFlags.mk.injEq]
  refine ⟨?_, ?_, ?_, ?_, ?_, ?_, ?_, ?_, ?_, ?_⟩
  · exact decide_eq_of_toNat (by omega)
  · apply Subtype.ext
    apply UInt16.toNat_inj.mp
    rw [UInt16.toNat_ofNat']
    omega
  · exact decide_eq_of_toNat (by omega)
  · exact decide_eq_of_toNat (by omega)
  · exact decide_eq_of_toNat (by omega)
  · exact decide_eq_of_toNat (by omega)
  · exact decide_eq_of_toNat (by omega)
  · exact decide_eq_of_toNat (by omega)
  · exact decide_eq_of_toNat (by omega)
  · apply Subtype.ext
    apply UInt16.toNat_inj.mp
    rw [UInt16.toNat_ofNat']
    omega

end Flags

/-- A header is parsed from the twelve octets that it is written as, and from no others. -/
theorem parseHeaderBytes_eq_some_iff {input rest : List UInt8} {h : Header} :
    parseHeaderBytes input = some (h, rest) ↔ input = serializeHeaderBytes h ++ rest := by
  constructor
  · intro parsed
    unfold parseHeaderBytes at parsed
    split at parsed
    · obtain ⟨rfl, rfl⟩ := Prod.mk.inj (Option.some.inj parsed)
      simp only [serializeHeaderBytes, flagsToU16_uint16ToFlags, u16Hi_u16FromBe, u16Lo_u16FromBe,
        List.cons_append, List.nil_append]
    · cases parsed
  · rintro rfl
    simp only [serializeHeaderBytes, List.cons_append, List.nil_append, parseHeaderBytes,
      u16FromBe_u16Hi_u16Lo, uint16ToFlags_flagsToU16]

theorem parseQuestionBytes_eq_some_iff {input tail : List UInt8} {q : Question} :
    parseQuestionBytes input = some (q, tail) ↔ ∃ qtHi qtLo qcHi qcLo,
      parseQname 128 input = some (q.qname, qtHi :: qtLo :: qcHi :: qcLo :: tail) ∧
      q.qtype = u16ToQtype (u16FromBe qtHi qtLo) ∧ q.qclass = u16FromBe qcHi qcLo := by
  constructor
  · intro parsed
    unfold parseQuestionBytes at parsed
    split at parsed
    · cases parsed
    rename_i name rest named
    split at parsed
    · cases parsed
      exact ⟨_, _, _, _, named, rfl, rfl⟩
    · cases parsed
  · rintro ⟨qtHi, qtLo, qcHi, qcLo, named, typed, classed⟩
    simp only [parseQuestionBytes, named, ← typed, ← classed]

/-- So is a question, unless its type is given by a number that has a name. -/
theorem parseQuestionBytes_inverts : Inverts parseQuestionBytes
    (fun q => u16ToQtype (qtypeToU16 q.qtype) = q.qtype) serializeQuestionBytes := by
  intro input q tail
  rw [parseQuestionBytes_eq_some_iff]
  constructor
  · rintro ⟨qtHi, qtLo, qcHi, qcLo, named, typed, classed⟩
    obtain ⟨-, bytes, written, rfl⟩ := (parseQname_inverts _ _ _).mp named
    refine ⟨by simp only [typed, qtypeToU16_u16ToQtype], ?_⟩
    simp only [serializeQuestionBytes, written, typed, classed, qtypeToU16_u16ToQtype, u16Hi_u16FromBe,
      u16Lo_u16FromBe]
    exact ⟨_, rfl, by simp⟩
  · rintro ⟨canonical, bytes, written, rfl⟩
    unfold serializeQuestionBytes at written
    split at written
    · cases written
    rename_i nameBytes named
    cases written
    refine ⟨u16Hi (qtypeToU16 q.qtype), u16Lo (qtypeToU16 q.qtype), u16Hi q.qclass, u16Lo q.qclass, ?_, ?_, ?_⟩
    · exact (parseQname_inverts _ _ _).mpr ⟨trivial, nameBytes, named, by simp⟩
    · rw [u16FromBe_u16Hi_u16Lo, canonical]
    · rw [u16FromBe_u16Hi_u16Lo]

section Records

/-- The ten octets between the owner name and the RDATA. -/
def recordFixedBytes (rr : ResourceRecord) : List UInt8 :=
  let rtype := qtypeToU16 rr.rtype
  [u16Hi rtype, u16Lo rtype, u16Hi rr.rclass, u16Lo rr.rclass,
    u32B0 rr.ttl, u32B1 rr.ttl, u32B2 rr.ttl, u32B3 rr.ttl, u16Hi rr.rdlen, u16Lo rr.rdlen]

@[simp] theorem recordFixedBytes_length (rr : ResourceRecord) : (recordFixedBytes rr).length = 10 := rfl

theorem u16_bytes_inj {n m : UInt16} (high : u16Hi n = u16Hi m) (low : u16Lo n = u16Lo m) : n = m := by
  rw [← u16FromBe_u16Hi_u16Lo n, high, low, u16FromBe_u16Hi_u16Lo]

/-- The ten octets determine type, class, lifetime and RDLENGTH. -/
theorem recordFixedBytes_inj {rr other : ResourceRecord} (same : recordFixedBytes rr = recordFixedBytes other) :
    qtypeToU16 rr.rtype = qtypeToU16 other.rtype ∧ rr.rclass = other.rclass ∧ rr.ttl = other.ttl ∧
      rr.rdlen = other.rdlen := by
  simp only [recordFixedBytes, List.cons.injEq, and_true] at same
  obtain ⟨rtHi, rtLo, rcHi, rcLo, ttl0, ttl1, ttl2, ttl3, lenHi, lenLo⟩ := same
  refine ⟨u16_bytes_inj rtHi rtLo, u16_bytes_inj rcHi rcLo, ?_, u16_bytes_inj lenHi lenLo⟩
  rw [← u32FromBe_u32Bytes rr.ttl, ttl0, ttl1, ttl2, ttl3, u32FromBe_u32Bytes]

/-- RDATA is what RDLENGTH cuts off. -/
theorem parseRdataBytes_eq_some_iff {rdlen : UInt16} {input rdata tail : List UInt8} :
    parseRdataBytes rdlen input = some (rdata, tail) ↔ rdlen.toNat = rdata.length ∧ input = rdata ++ tail := by
  unfold parseRdataBytes
  split
  · rename_i zero
    constructor
    · intro parsed
      obtain ⟨rfl, rfl⟩ := Prod.mk.inj (Option.some.inj parsed)
      exact ⟨zero, rfl⟩
    · rintro ⟨length, rfl⟩
      cases List.length_eq_zero_iff.mp (length.symm.trans zero)
      rfl
  split
  · rename_i short
    constructor
    · intro parsed
      cases parsed
    · rintro ⟨length, rfl⟩
      rw [List.length_append] at short
      omega
  · rename_i room
    constructor
    · intro parsed
      obtain ⟨rfl, rfl⟩ := Prod.mk.inj (Option.some.inj parsed)
      exact ⟨(List.length_take_of_le (by omega)).symm, (List.take_append_drop _ _).symm⟩
    · rintro ⟨length, rfl⟩
      rw [length, List.take_left, List.drop_left]

/-- Everything a record parser checks, read off the record it returns. -/
structure RecordRead (owner : List UInt8 → Option (Qname × List UInt8))
    (shape : Nat → Qtype → UInt16 → List UInt8 → Bool) (additionalSection : Bool)
    (input : List UInt8) (rr : ResourceRecord) (tail : List UInt8) : Prop where
  owned : owner input = some (rr.name, recordFixedBytes rr ++ (rr.rdata ++ tail))
  length : rr.rdlen.toNat = rr.rdata.length
  canonical : u16ToQtype (qtypeToU16 rr.rtype) = rr.rtype
  position : validRrPositionAndShape additionalSection rr.name rr.rtype rr.ttl = true
  lengthFits : validRdataLength rr.rtype rr.rdlen = true
  shaped : shape (offsetFromTail input (recordFixedBytes rr ++ (rr.rdata ++ tail)) + 10) rr.rtype rr.rdlen
    (rr.rdata ++ tail) = true

/-- There are no other checks. -/
theorem parseRecordWith_eq_some_iff {owner : List UInt8 → Option (Qname × List UInt8)}
    {shape : Nat → Qtype → UInt16 → List UInt8 → Bool} {additionalSection : Bool}
    {input tail : List UInt8} {rr : ResourceRecord} :
    parseRecordWith owner shape additionalSection input = some (rr, tail) ↔
      RecordRead owner shape additionalSection input rr tail := by
  constructor
  · intro parsed
    unfold parseRecordWith at parsed
    split at parsed
    · cases parsed
    rename_i name rest owned
    split at parsed
    · rename_i rtHi rtLo rcHi rcLo ttl0 ttl1 ttl2 ttl3 lenHi lenLo rdataInput
      simp only at parsed
      split at parsed
      · rename_i checks
        simp only [Bool.and_eq_true] at checks
        split at parsed
        · cases parsed
        · rename_i rdata after taken
          obtain ⟨rfl, rfl⟩ := Prod.mk.inj (Option.some.inj parsed)
          obtain ⟨length, rfl⟩ := parseRdataBytes_eq_some_iff.mp taken
          have timer := u32Bytes_u32FromBe ttl0 ttl1 ttl2 ttl3
          simp only [List.cons.injEq, and_true] at timer
          obtain ⟨first, second, third, fourth⟩ := timer
          have fixed : rtHi :: rtLo :: rcHi :: rcLo :: ttl0 :: ttl1 :: ttl2 :: ttl3 :: lenHi :: lenLo ::
                (rdata ++ after) = recordFixedBytes ⟨name, u16ToQtype (u16FromBe rtHi rtLo), u16FromBe rcHi rcLo,
                u32FromBe ttl0 ttl1 ttl2 ttl3, u16FromBe lenHi lenLo, rdata⟩ ++ (rdata ++ after) := by
            simp only [recordFixedBytes, qtypeToU16_u16ToQtype, u16Hi_u16FromBe, u16Lo_u16FromBe, first, second,
              third, fourth, List.cons_append, List.nil_append]
          rw [fixed] at owned checks
          exact ⟨owned, length, by rw [qtypeToU16_u16ToQtype], checks.1.1, checks.1.2, checks.2⟩
      · cases parsed
    · cases parsed
  · rintro ⟨owned, length, canonical, position, lengthFits, shaped⟩
    have taken : parseRdataBytes rr.rdlen (rr.rdata ++ tail) = some (rr.rdata, tail) :=
      parseRdataBytes_eq_some_iff.mpr ⟨length, rfl⟩
    simp only [recordFixedBytes, List.cons_append, List.nil_append] at owned shaped
    simp only [parseRecordWith, owned, u16FromBe_u16Hi_u16Lo, u32FromBe_u32Bytes, canonical, position, lengthFits,
      shaped, taken, Bool.and_self, if_true]

/-- A record is written if and only if it is well formed. -/
theorem serializeResourceRecordBytes_eq_some_iff {rr : ResourceRecord} {bytes : List UInt8} :
    serializeResourceRecordBytes rr = some bytes ↔ wellFormedRecord rr = true ∧
      bytes = serializeQnameLabels rr.name ++ (recordFixedBytes rr ++ rr.rdata) := by
  simp only [serializeResourceRecordBytes, serializeResourceRecordFieldsBytes, serializeQnameUncompressed,
    wellFormedRecord, Bool.and_eq_true, decide_eq_true_eq]
  by_cases length : rr.rdlen.toNat = rr.rdata.length
  · have bound := rr.rdlen.toNat_lt
    have same : UInt16.ofNat rr.rdata.length = rr.rdlen := by rw [← length, UInt16.ofNat_toNat]
    rw [if_neg (by simpa using length), same]
    by_cases serializable : serializableRdata rr.rtype rr.rdata = true
    · rw [if_neg (by simp only [serializable, Bool.true_eq_false, or_false]; omega)]
      by_cases short : dnsNameLength rr.name ≤ 255
      · rw [if_neg (by omega)]
        simp only [Option.some.injEq, short, length, serializable, and_self, true_and, recordFixedBytes]
        exact eq_comm
      · rw [if_pos (by omega)]
        simp [short]
    · rw [if_pos (Or.inr (by simpa using serializable))]
      simp [serializable]
  · rw [if_pos length]
    simp [length]

end Records

end Ism
