import Ism.BoundaryLanguage
import Ism.Padding

namespace Ism

open Lib

section Padded

variable {h : Header} {optionPayload : List UInt8}

theorem serializeEdnsOptionsBytes_append (opts more : List EdnsOption) :
    serializeEdnsOptionsBytes (opts ++ more) = serializeEdnsOptionsBytes opts ++ serializeEdnsOptionsBytes more := by
  induction opts with
  | nil => rfl
  | cons opt opts ih => rw [List.cons_append, serializeEdnsOptionsBytes, serializeEdnsOptionsBytes, ih,
      List.append_assoc]

/-- A message with nothing but an OPT record: what it is read as, and how long it is. -/
theorem serializeResponseWithOptPayload_eq (udpPayloadSize : UInt16) (extRcode : UInt8) (flags : OptFlags)
    (counted : h.qdcount = 0 ∧ h.ancount = 0 ∧ h.nscount = 0 ∧ h.arcount = 1) (short : optionPayload.length ≤ 65535)
    {opts : List EdnsOption} (options : optionPayload = serializeEdnsOptionsBytes opts) :
    ∃ bytes, serializeResponseWithOptPayload h udpPayloadSize extRcode 0 flags optionPayload = some bytes ∧
      bytes.length = 23 + optionPayload.length ∧
      parseDnsPacketBytes bytes =
        some (additionalPacket h (optResourceRecord udpPayloadSize extRcode flags optionPayload)) ∧
      Covered rdataInOnePiece bytes
        (additionalPacket h (optResourceRecord udpPayloadSize extRcode flags optionPayload)) := by
  have decodes : (parseEdnsOptionsBytes optionPayload.length optionPayload).isSome = true :=
    Option.isSome_iff_exists.mpr ⟨opts, parseEdnsOptionsBytes_length_eq_some_iff.mpr options⟩
  have root (rest : List UInt8) : parseQname 128 (serializeQnameLabels [] ++ rest) = some ([], rest) :=
    parseQname_eq_some_iff.mpr ⟨rfl, by decide⟩
  have header (rest : List UInt8) : parseHeaderBytes (serializeHeaderBytes h ++ rest) = some (h, rest) :=
    parseHeaderBytes_eq_some_iff.mpr rfl
  let rr := optResourceRecord udpPayloadSize extRcode flags optionPayload
  have walked : walkRecord (serializeQnameLabels [] ++ (recordFixedBytes rr ++ optionPayload)) =
      some ⟨[], (u16FromBe (u16Hi (qtypeToU16 rr.rtype)) (u16Lo (qtypeToU16 rr.rtype))).toNat,
        (u16FromBe (u16Hi rr.rdlen) (u16Lo rr.rdlen)).toNat, optionPayload⟩ :=
    walkRecord_eq_some_iff.mpr ⟨_, root _, rfl⟩
  have typed : (u16FromBe (u16Hi (qtypeToU16 rr.rtype)) (u16Lo (qtypeToU16 rr.rtype))).toNat = 41 := by
    rw [u16FromBe_u16Hi_u16Lo]
    rfl
  obtain ⟨qd, an, ns, ar⟩ := counted
  refine ⟨_, by rw [serializeResponseWithOptPayload, serializeOptRrBytesWithPayload_eq short], ?_,
    (parseDnsPacketBytes_additional_iff ⟨qd, an, ns, ar⟩).mpr
      ⟨_, rfl, (parseResourceRecordBytesAt_opt_iff short).mpr ⟨rfl, decodes⟩⟩,
    .opt (counts_iff.mpr ?_) (header _) walked typed⟩
  · have fixed : (serializeHeaderBytes h).length = 12 := rfl
    simp only [List.length_append, fixed, serializeQnameLabels_length, recordFixedBytes_length, dnsNameLength]
    omega
  · simp only [additionalPacket, qd, an, ns, ar]
    decide

end Padded

/-- The length to which a block fills a message up, if its padding option stands behind `n` octets. -/
theorem add_blockGap_isLeast {block : Nat} (positive : 0 < block) (n : Nat) :
    IsLeast { k | n ≤ k ∧ k % block = 0 } (n + blockGap block n) := by
  refine ⟨⟨Nat.le_add_right .., add_blockGap_mod positive n⟩, ?_⟩
  rintro k ⟨least, reached⟩
  have filled : (n + (k - n)) % block = 0 := by rw [Nat.add_sub_of_le least, reached]
  have gap : blockGap block n ≤ k - n := (blockGap_isLeast positive n).2 filled
  omega

/-- The padding behind a header, an OPT record and `n` octets of options. -/
theorem serializePaddingOptionForBlock_behind {block : UInt32} (positive : 0 < block.toNat) {n : Nat}
    (short : n ≤ 65535) : serializePaddingOptionForBlock (UInt32.ofNat (23 + n)) block =
      if 65535 < blockGap block.toNat (27 + n) then none
      else some (serializePaddingOptionBytes (UInt16.ofNat (blockGap block.toNat (27 + n)))) := by
  have length : (UInt32.ofNat (23 + n)).toNat = 23 + n := UInt32.toNat_ofNat_of_lt' (by change _ < 4294967296; omega)
  have behind : 23 + n + 4 = 27 + n := by omega
  have room : ¬ 4294967291 < 23 + n := by omega
  simp only [serializePaddingOptionForBlock_eq positive, length, behind, room, false_or]

theorem serializeResponseWithOptPayload_short {h : Header} {udpPayloadSize : UInt16} {extRcode version : UInt8}
    {flags : OptFlags} {optionPayload bytes : List UInt8}
    (written : serializeResponseWithOptPayload h udpPayloadSize extRcode version flags optionPayload = some bytes) :
    optionPayload.length ≤ 65535 := by
  by_contra long
  rw [serializeResponseWithOptPayload, serializeOptRrBytesWithPayload, if_pos (Nat.lt_of_not_le long)] at written
  cases written

section Block

variable {h : Header} {udpPayloadSize : UInt16} {extRcode : UInt8} {flags : OptFlags} {block : UInt32}

/-- The length of the padding survives its way through sixteen bits. -/
theorem toNat_ofNat_gap {gap : Nat} (narrow : gap ≤ 65535) : (UInt16.ofNat gap).toNat = gap :=
  UInt16.toNat_ofNat_of_lt' (Nat.lt_succ_of_le narrow)

/-- What is written fits an OPT record. -/
theorem paddedMessage_fits (positive : 0 < block.toNat) {options bytes : List UInt8}
    (whole : ((serializePaddingOptionForBlock (UInt32.ofNat (23 + options.length)) block).bind fun padding =>
      serializeResponseWithOptPayload h udpPayloadSize extRcode 0 flags (options ++ padding)) = some bytes) :
    options.length + 4 + blockGap block.toNat (27 + options.length) ≤ 65535 := by
  obtain ⟨padding, written, response⟩ := Option.bind_eq_some_iff.mp whole
  have short := serializeResponseWithOptPayload_short response
  rw [List.length_append] at short
  rw [serializePaddingOptionForBlock_behind positive (by omega)] at written
  split at written
  · cases written
  rename_i narrow
  cases written
  rw [serializePaddingOptionBytes_length, toNat_ofNat_gap (Nat.le_of_not_lt narrow)] at short
  omega

/-- What fits an OPT record is written, fills the block and is read back. -/
theorem paddedMessage_reads {check : GeneratedChecks} (correct : check.Correct)
    (counted : h.qdcount = 0 ∧ h.ancount = 0 ∧ h.nscount = 0 ∧ h.arcount = 1) (positive : 0 < block.toNat)
    {opts : List EdnsOption} (fits : (serializeEdnsOptionsBytes opts).length + 4 +
      blockGap block.toNat (27 + (serializeEdnsOptionsBytes opts).length) ≤ 65535) :
    let options := serializeEdnsOptionsBytes opts
    ∃ bytes, ((serializePaddingOptionForBlock (UInt32.ofNat (23 + options.length)) block).bind fun padding =>
        serializeResponseWithOptPayload h udpPayloadSize extRcode 0 flags (options ++ padding)) = some bytes ∧
      IsLeast { n | 27 + options.length ≤ n ∧ n % block.toNat = 0 } bytes.length ∧
      ∃ p rr opt, parseDnsPacketBytesAtBoundary bytes = some p ∧
        parseDnsPacketBuffer check bytes bytes.length = some p ∧ p.header = h ∧ p.additionals = [rr] ∧
        parseEdnsOptionsBytes rr.rdata.length rr.rdata = some (opts ++ [opt]) ∧
        opt.code = 12 ∧ opt.data.val = List.replicate opt.len.toNat 0 := by
  intro options
  change options.length + 4 + blockGap block.toNat (27 + options.length) ≤ 65535 at fits
  have written := serializePaddingOptionForBlock_behind positive (n := options.length) (by omega)
  rw [if_neg (by omega)] at written
  have filled : (UInt16.ofNat (blockGap block.toNat (27 + options.length))).toNat =
      blockGap block.toNat (27 + options.length) := toNat_ofNat_gap (by omega)
  generalize UInt16.ofNat (blockGap block.toNat (27 + options.length)) = gap at written filled
  have all : options ++ serializePaddingOptionBytes gap =
      serializeEdnsOptionsBytes (opts ++ [paddingOption gap]) := by
    rw [serializeEdnsOptionsBytes_append, serializePaddingOptionBytes_eq]
  have payload : (options ++ serializePaddingOptionBytes gap).length = options.length + (4 + gap.toNat) := by
    rw [List.length_append, serializePaddingOptionBytes_length]
  obtain ⟨bytes, response, size, parsed, covered⟩ :=
    serializeResponseWithOptPayload_eq udpPayloadSize extRcode flags counted (by omega) all
  have total : bytes.length = 27 + options.length + blockGap block.toNat (27 + options.length) := by omega
  refine ⟨bytes, Option.bind_eq_some_iff.mpr ⟨_, written, response⟩, total ▸ add_blockGap_isLeast positive _, _, _,
    paddingOption gap, ?_, (parseDnsPacketBuffer_iff_covered correct (List.prefix_refl bytes)).mpr ⟨parsed, covered⟩,
    rfl, rfl, parseEdnsOptionsBytes_length_eq_some_iff.mpr all, rfl, rfl⟩
  exact parseDnsPacketBytesAtBoundary_iff_covered.mpr ⟨parsed, ((covered_inOnePiece_iff parsed).mp covered).1⟩

end Block

/-- A message that is padded to a block: it is written if and only if its options and the padding option fit
an OPT record. Then it fills the block exactly, at the smallest length there is, and both production boundaries
accept it and read the options and the zeros back. -/
theorem padded_message_fills_block (h : Header)
    (counted : h.qdcount = 0 ∧ h.ancount = 0 ∧ h.nscount = 0 ∧ h.arcount = 1) (udpPayloadSize : UInt16)
    (extRcode : UInt8) (flags : OptFlags) (opts : List EdnsOption) (block : UInt32) (positive : 0 < block.toNat)
    (check : GeneratedChecks) (correct : check.Correct) :
    let options := serializeEdnsOptionsBytes opts
    let padded := (serializePaddingOptionForBlock (UInt32.ofNat (23 + options.length)) block).bind fun padding =>
      serializeResponseWithOptPayload h udpPayloadSize extRcode 0 flags (options ++ padding)
    ((∃ bytes, padded = some bytes) ↔ options.length + 4 + blockGap block.toNat (27 + options.length) ≤ 65535) ∧
    ∀ bytes, padded = some bytes →
      IsLeast { n | 27 + options.length ≤ n ∧ n % block.toNat = 0 } bytes.length ∧
      ∃ p rr opt, parseDnsPacketBytesAtBoundary bytes = some p ∧
        parseDnsPacketBuffer check bytes bytes.length = some p ∧ p.header = h ∧ p.additionals = [rr] ∧
        parseEdnsOptionsBytes rr.rdata.length rr.rdata = some (opts ++ [opt]) ∧
        opt.code = 12 ∧ opt.data.val = List.replicate opt.len.toNat 0 := by
  intro options padded
  refine ⟨⟨fun ⟨bytes, whole⟩ => paddedMessage_fits positive whole, fun fits => ?_⟩, fun bytes whole => ?_⟩
  · obtain ⟨bytes, whole, -⟩ := paddedMessage_reads correct counted positive fits
    exact ⟨bytes, whole⟩
  · obtain ⟨other, same, filled⟩ := paddedMessage_reads correct counted positive (paddedMessage_fits positive whole)
    obtain rfl : bytes = other := Option.some.inj (whole.symm.trans same)
    exact filled

/-- An empty list of options, padded to 128 octets. -/
theorem padded_message_fills_block_of_128 :
    ∃ bytes, (serializePaddingOptionForBlock 23 128).bind (fun padding => serializeResponseWithOptPayload
        ⟨7, uint16ToFlags 0x8180, 0, 0, 0, 1⟩ 1232 0 0 ⟨false, ⟨0, by decide⟩⟩ padding) = some bytes ∧
      bytes.length = 128 ∧ (parseDnsPacketBytesAtBoundary bytes).isSome = true := by
  obtain ⟨written, fills⟩ := padded_message_fills_block ⟨7, uint16ToFlags 0x8180, 0, 0, 0, 1⟩ ⟨rfl, rfl, rfl, rfl⟩
    1232 0 ⟨false, ⟨0, by decide⟩⟩ [] 128 (by decide) formatChecks formatChecks_correct
  obtain ⟨bytes, whole⟩ := written.mpr (by decide)
  obtain ⟨least, p, rr, opt, accepted, -⟩ := fills bytes whole
  refine ⟨bytes, whole, ?_, by rw [accepted, Option.isSome_some]⟩
  exact least.unique ⟨⟨by decide, by decide⟩, fun n ⟨atLeast, reached⟩ => by simp at atLeast reached; omega⟩

end Ism
