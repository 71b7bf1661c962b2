import Mathlib.Algebra.Group.Nat.Defs
import Ism.Opt
import Ism.PacketCodec

namespace Ism

open Lib

section Options

theorem parseOptionDataBytes_eq_some_iff {len : UInt16} {input rest : List UInt8}
    {data : { d : List UInt8 // d.length = len.toNat }} :
    parseOptionDataBytes len input = some (data, rest) ↔ input = data.val ++ rest := by
  unfold parseOptionDataBytes
  split
  · rename_i room
    simp only [Option.some.injEq, Prod.mk.injEq, Subtype.ext_iff]
    constructor
    · rintro ⟨front, rfl⟩
      rw [← front, List.take_append_drop]
    · rintro rfl
      exact ⟨List.take_left' data.property, List.drop_left' data.property⟩
  · rename_i short
    constructor
    · intro parsed
      cases parsed
    · rintro rfl
      rw [List.length_append, data.property] at short
      omega

/-- One option is read exactly from its own encoding, whatever follows. -/
theorem parseEdnsOptionBytes_eq_some_iff {input rest : List UInt8} {opt : EdnsOption} :
    parseEdnsOptionBytes input = some (opt, rest) ↔ input = serializeEdnsOptionBytes opt ++ rest := by
  constructor
  · intro parsed
    unfold parseEdnsOptionBytes at parsed
    split at parsed
    · split at parsed
      · cases parsed
      · rename_i data tail taken
        obtain ⟨rfl, rfl⟩ := Prod.mk.inj (Option.some.inj parsed)
        rw [parseOptionDataBytes_eq_some_iff.mp taken]
        simp only [serializeEdnsOptionBytes, u16Hi_u16FromBe, u16Lo_u16FromBe, List.cons_append, List.nil_append]
    · cases parsed
  · rintro rfl
    obtain ⟨code, len, data⟩ := opt
    -- the type of the data mentions the length, so the length is replaced before it is read
    obtain ⟨hi, lo, rfl⟩ : ∃ hi lo, len = u16FromBe hi lo := ⟨_, _, (u16FromBe_u16Hi_u16Lo len).symm⟩
    have taken := parseOptionDataBytes_eq_some_iff.mpr (rfl : data.val ++ rest = data.val ++ rest)
    simp only [serializeEdnsOptionBytes, List.cons_append, List.nil_append, parseEdnsOptionBytes,
      u16FromBe_u16Hi_u16Lo, u16Hi_u16FromBe, u16Lo_u16FromBe, taken]

theorem serializeEdnsOptionsBytes_length (opts : List EdnsOption) :
    4 * opts.length ≤ (serializeEdnsOptionsBytes opts).length := by
  induction opts with
  | nil => exact Nat.le_refl 0
  | cons opt rest ih =>
    simp only [serializeEdnsOptionsBytes, serializeEdnsOptionBytes, List.length_append, List.length_cons,
      List.length_nil]
    omega

/-- The fuel only bounds the number of options. -/
theorem parseEdnsOptionsBytes_eq_some_iff {fuel : Nat} {input : List UInt8} {opts : List EdnsOption} :
    parseEdnsOptionsBytes fuel input = some opts ↔
      input = serializeEdnsOptionsBytes opts ∧ opts.length ≤ fuel := by
  induction fuel generalizing input opts with
  | zero =>
    cases input with
    | nil =>
      cases opts with
      | nil => simp [parseEdnsOptionsBytes, serializeEdnsOptionsBytes]
      | cons opt rest => simp [parseEdnsOptionsBytes]
    | cons b bs =>
      cases opts with
      | nil => simp [parseEdnsOptionsBytes, serializeEdnsOptionsBytes]
      | cons opt rest => simp [parseEdnsOptionsBytes]
  | succ fuel ih =>
    cases input with
    | nil =>
      cases opts with
      | nil => simp [parseEdnsOptionsBytes, serializeEdnsOptionsBytes]
      | cons opt rest => simp [parseEdnsOptionsBytes, serializeEdnsOptionsBytes, serializeEdnsOptionBytes]
    | cons b bs =>
      rw [parseEdnsOptionsBytes]
      constructor
      · intro parsed
        split at parsed
        · cases parsed
        rename_i opt rest first
        split at parsed
        · cases parsed
        rename_i later second
        cases parsed
        obtain ⟨rfl, few⟩ := ih.mp second
        exact ⟨parseEdnsOptionBytes_eq_some_iff.mp first, Nat.succ_le_succ few⟩
      · rintro ⟨bytes, few⟩
        cases opts with
        | nil => cases bytes
        | cons opt later =>
          have first := parseEdnsOptionBytes_eq_some_iff.mpr bytes
          have second := ih.mpr ⟨rfl, Nat.le_of_succ_le_succ few⟩
          simp only [first, second]

/-- As much fuel as there are octets is enough for every list of options. -/
theorem parseEdnsOptionsBytes_length_eq_some_iff {input : List UInt8} {opts : List EdnsOption} :
    parseEdnsOptionsBytes input.length input = some opts ↔ input = serializeEdnsOptionsBytes opts := by
  rw [parseEdnsOptionsBytes_eq_some_iff, and_iff_left_iff_imp]
  rintro rfl
  have := serializeEdnsOptionsBytes_length opts
  omega

end Options

section Record

/-- The record that an OPT record is read as. -/
def optResourceRecord (udpPayloadSize : UInt16) (extRcode : UInt8) (flags : OptFlags) (optionPayload : List UInt8) :
    ResourceRecord where
  name := []
  rtype := .OPT
  rclass := udpPayloadSize
  ttl := u32FromBe extRcode 0 (u16Hi (optFlagsToU16 flags)) (u16Lo (optFlagsToU16 flags))
  rdlen := UInt16.ofNat optionPayload.length
  rdata := optionPayload

variable {udpPayloadSize : UInt16} {extRcode : UInt8} {flags : OptFlags} {optionPayload : List UInt8}

theorem optResourceRecord_ttl : (optResourceRecord udpPayloadSize extRcode flags optionPayload).ttl.toNat =
    2 ^ 24 * extRcode.toNat + (optFlagsToU16 flags).toNat := by
  have bits := congrArg UInt16.toNat (u16FromBe_u16Hi_u16Lo (optFlagsToU16 flags))
  rw [u16FromBe_toNat, wireU16] at bits
  have weight : 2 ^ 24 = 16777216 := rfl
  rw [optResourceRecord, u32FromBe_toNat, UInt8.toNat_zero, bits, Nat.zero_mul, Nat.zero_add, weight, Nat.mul_comm]

theorem ednsVersionFromTtl_optResourceRecord :
    ednsVersionFromTtl (optResourceRecord udpPayloadSize extRcode flags optionPayload).ttl = 0 := by
  have small := (optFlagsToU16 flags).toNat_lt
  have zero : (2 ^ 24 * extRcode.toNat + (optFlagsToU16 flags).toNat) / 65536 % 256 = 0 := by omega
  rw [ednsVersionFromTtl, optResourceRecord_ttl, zero]
  rfl

/-- The encoder of OPT records writes the root name, the fixed fields and the payload. -/
theorem serializeOptRrBytesWithPayload_eq (short : optionPayload.length ≤ 65535) :
    serializeOptRrBytesWithPayload udpPayloadSize extRcode 0 flags optionPayload = some
      (serializeQnameLabels [] ++ (recordFixedBytes (optResourceRecord udpPayloadSize extRcode flags optionPayload) ++
        optionPayload)) := by
  have timer := u32Bytes_u32FromBe extRcode 0 (u16Hi (optFlagsToU16 flags)) (u16Lo (optFlagsToU16 flags))
  simp only [List.cons.injEq, and_true] at timer
  obtain ⟨first, second, third, fourth⟩ := timer
  have code : u16Hi (qtypeToU16 .OPT) = 0 ∧ u16Lo (qtypeToU16 .OPT) = 0x29 := by decide
  simp only [serializeOptRrBytesWithPayload, if_neg (Nat.not_lt.mpr short), recordFixedBytes, optResourceRecord,
    serializeQnameLabels, first, second, third, fourth, code.1, code.2, List.cons_append, List.nil_append]

theorem validOptOptionsPayload_iff {rdlen : UInt16} {payload : List UInt8} (length : rdlen.toNat = payload.length) :
    validOptOptionsPayload rdlen payload = true ↔ (parseEdnsOptionsBytes payload.length payload).isSome = true := by
  simp only [validOptOptionsPayload, length, Nat.lt_irrefl, if_false, List.take_length]

/-- The record parser reads the encoding of an OPT record as that record, if the payload is a list of options. -/
theorem parseResourceRecordBytesAt_opt_iff {original : List UInt8} {offset : Nat} {rr : ResourceRecord}
    (short : optionPayload.length ≤ 65535) :
    parseResourceRecordBytesAt original offset true (serializeQnameLabels [] ++
        (recordFixedBytes (optResourceRecord udpPayloadSize extRcode flags optionPayload) ++ optionPayload)) =
      some (rr, []) ↔
    rr = optResourceRecord udpPayloadSize extRcode flags optionPayload ∧
      (parseEdnsOptionsBytes optionPayload.length optionPayload).isSome = true := by
  have length : (UInt16.ofNat optionPayload.length).toNat = optionPayload.length :=
    UInt16.toNat_ofNat_of_lt' (Nat.lt_succ_of_le short)
  have root (rest : List UInt8) :
      parseQnameCompressed 128 original offset (serializeQnameLabels [] ++ rest) = some ([], rest) :=
    parseQnameCompressed_of_plain (parseQname_eq_some_iff.mpr ⟨rfl, by simp [dnsNameLength]⟩)
  unfold parseResourceRecordBytesAt
  rw [parseRecordWith_eq_some_iff]
  constructor
  · rintro ⟨owned, -, canonical, -, -, shaped⟩
    rw [root, List.append_nil, Option.some.injEq, Prod.mk.injEq] at owned
    obtain ⟨owner, bytes⟩ := owned
    obtain ⟨fixed, payload⟩ := List.append_inj bytes (by rw [recordFixedBytes_length, recordFixedBytes_length])
    obtain ⟨rtype, rclass, ttl, rdlen⟩ := recordFixedBytes_inj fixed
    obtain ⟨name, rtype', rclass', ttl', rdlen', rdata⟩ := rr
    dsimp only at owner payload canonical rtype rclass ttl rdlen shaped
    subst owner payload rclass ttl rdlen
    obtain rfl : Qtype.OPT = rtype' := by
      rw [← canonical, ← rtype]
      rfl
    refine ⟨rfl, (validOptOptionsPayload_iff length).mp ?_⟩
    rw [List.append_nil] at shaped
    exact shaped
  · rintro ⟨rfl, decodes⟩
    have version : ednsVersionFromTtl (optResourceRecord udpPayloadSize extRcode flags optionPayload).ttl = 0 :=
      ednsVersionFromTtl_optResourceRecord
    refine ⟨?_, length, rfl, validRrPositionAndShape_true_iff.mpr fun _ => ⟨rfl, version⟩, rfl, ?_⟩
    · rw [root, List.append_nil]
      rfl
    · rw [List.append_nil]
      exact (validOptOptionsPayload_iff length).mpr decodes

end Record

/-- The packet that consists of one additional record. -/
def additionalPacket (h : Header) (rr : ResourceRecord) : DnsPacket where
  header := h
  questions := []
  answers := []
  authorities := []
  additionals := [rr]

theorem parseDnsPacketBytes_additional_iff {h : Header} {bytes : List UInt8} {p : DnsPacket}
    (counts : h.qdcount = 0 ∧ h.ancount = 0 ∧ h.nscount = 0 ∧ h.arcount = 1) :
    parseDnsPacketBytes (serializeHeaderBytes h ++ bytes) = some p ↔
      ∃ rr, p = additionalPacket h rr ∧ parseResourceRecordBytesAt (serializeHeaderBytes h ++ bytes)
        (offsetFromTail (serializeHeaderBytes h ++ bytes) bytes) true bytes = some (rr, []) := by
  obtain ⟨qd, an, ns, ar⟩ := counts
  have header : parseHeaderBytes (serializeHeaderBytes h ++ bytes) = some (h, bytes) :=
    parseHeaderBytes_eq_some_iff.mpr rfl
  unfold parseDnsPacketBytes
  rw [parsePacketWith_eq_some_iff]
  constructor
  · rintro ⟨rest, _, _, _, headed, asked, answered, authorized, added⟩
    obtain ⟨same, rfl⟩ := Prod.mk.inj (Option.some.inj (header.symm.trans headed))
    obtain ⟨header', questions, answers, authorities, additionals⟩ := p
    dsimp only at same asked answered authorized added
    subst same
    rw [qd] at asked
    cases asked
    rw [an] at answered
    cases answered
    rw [ns] at authorized
    cases authorized
    rw [ar] at added
    obtain ⟨rr, read, rfl⟩ := readCountedAt_one.mp added
    exact ⟨rr, rfl, read⟩
  · rintro ⟨rr, rfl, read⟩
    refine ⟨bytes, bytes, bytes, bytes, header, ?_, ?_, ?_, ?_⟩
    · simp only [additionalPacket, qd]
      rfl
    · simp only [additionalPacket, an]
      rfl
    · simp only [additionalPacket, ns]
      rfl
    · simp only [additionalPacket, ar]
      exact readCountedAt_one.mpr ⟨rr, read, rfl⟩

/-- An OPT record that fits into a message is accepted there, with its own options. -/
theorem parseDnsPacketBytes_serializeOptRrBytes {h : Header} {opt : OptRecord}
    (counts : h.qdcount = 0 ∧ h.ancount = 0 ∧ h.nscount = 0 ∧ h.arcount = 1)
    (short : (serializeEdnsOptionsBytes opt.options).length ≤ 65535) :
    ∃ bytes rr, serializeOptRrBytes opt = some bytes ∧
      parseDnsPacketBytes (serializeHeaderBytes h ++ bytes) = some (additionalPacket h rr) ∧
      parseEdnsOptionsBytes rr.rdata.length rr.rdata = some opt.options := by
  have decoded : parseEdnsOptionsBytes (serializeEdnsOptionsBytes opt.options).length
      (serializeEdnsOptionsBytes opt.options) = some opt.options := parseEdnsOptionsBytes_length_eq_some_iff.mpr rfl
  have version : opt.version.val = 0 := UInt8.toNat_inj.mp opt.version.property
  refine ⟨_, optResourceRecord opt.udpPayloadSize opt.extRcode opt.flags (serializeEdnsOptionsBytes opt.options),
    by rw [serializeOptRrBytes, version, serializeOptRrBytesWithPayload_eq short], ?_, decoded⟩
  exact (parseDnsPacketBytes_additional_iff counts).mpr
    ⟨_, rfl, (parseResourceRecordBytesAt_opt_iff short).mpr ⟨rfl, Option.isSome_iff_exists.mpr ⟨_, decoded⟩⟩⟩

/-- Options are read back from their encoding and from nothing else, and a response with an
OPT record is accepted exactly if its payload is a list of options. -/
theorem edns_opt_round_trip :
    (∀ opts, parseEdnsOptionsBytes (serializeEdnsOptionsBytes opts).length (serializeEdnsOptionsBytes opts) =
      some opts) ∧
    (∀ fuel s opts, parseEdnsOptionsBytes fuel s = some opts →
      serializeEdnsOptionsBytes opts = s ∧ parseEdnsOptionsBytes s.length s = some opts) ∧
    ∀ (h : Header) (udpPayloadSize : UInt16) (extRcode : UInt8) (flags : OptFlags) (s : List UInt8),
      h.qdcount = 0 ∧ h.ancount = 0 ∧ h.nscount = 0 ∧ h.arcount = 1 → s.length ≤ 65535 →
      ∃ bytes, serializeResponseWithOptPayload h udpPayloadSize extRcode 0 flags s = some bytes ∧
        ((parseDnsPacketBytes bytes).isSome = true ↔ (parseEdnsOptionsBytes s.length s).isSome = true) ∧
        ∀ p, parseDnsPacketBytes bytes = some p → p.header = h ∧ p.questions = [] ∧ p.answers = [] ∧
          p.authorities = [] ∧ ∃ rr, p.additionals = [rr] ∧ rr.name = [] ∧ rr.rtype = .OPT ∧
            rr.rclass = udpPayloadSize ∧ rr.ttl.toNat = 2 ^ 24 * extRcode.toNat + (optFlagsToU16 flags).toNat ∧
            rr.rdlen.toNat = s.length ∧ rr.rdata = s := by
  refine ⟨?_, ?_, ?_⟩
  · intro opts
    exact parseEdnsOptionsBytes_length_eq_some_iff.mpr rfl
  · intro fuel s opts parsed
    obtain ⟨rfl, -⟩ := parseEdnsOptionsBytes_eq_some_iff.mp parsed
    exact ⟨rfl, parseEdnsOptionsBytes_length_eq_some_iff.mpr rfl⟩
  · intro h udpPayloadSize extRcode flags s counts short
    refine ⟨_, by rw [serializeResponseWithOptPayload, serializeOptRrBytesWithPayload_eq short], ?_, ?_⟩
    · rw [Option.isSome_iff_exists]
      constructor
      · rintro ⟨p, parsed⟩
        obtain ⟨rr, -, read⟩ := (parseDnsPacketBytes_additional_iff counts).mp parsed
        exact ((parseResourceRecordBytesAt_opt_iff short).mp read).2
      · intro decodes
        exact ⟨_, (parseDnsPacketBytes_additional_iff counts).mpr
          ⟨_, rfl, (parseResourceRecordBytesAt_opt_iff short).mpr ⟨rfl, decodes⟩⟩⟩
    · intro p parsed
      obtain ⟨rr, rfl, read⟩ := (parseDnsPacketBytes_additional_iff counts).mp parsed
      obtain ⟨rfl, -⟩ := (parseResourceRecordBytesAt_opt_iff short).mp read
      exact ⟨rfl, rfl, rfl, rfl, _, rfl, rfl, rfl, rfl, optResourceRecord_ttl,
        UInt16.toNat_ofNat_of_lt' (Nat.lt_succ_of_le short), rfl⟩

end Ism
