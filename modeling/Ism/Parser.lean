import Ism.Lib.Counted
import Ism.Protocol

namespace Ism

open Lib

def u16FromBe (hi lo : UInt8) : UInt16 := UInt16.ofNat (hi.toNat * 256 + lo.toNat)

def u32FromBe (b0 b1 b2 b3 : UInt8) : UInt32 :=
  UInt32.ofNat (b0.toNat * 16777216 + (b1.toNat * 65536 + (b2.toNat * 256 + b3.toNat)))

/-- An EDNS option; its data has the length on the wire. -/
structure EdnsOption where
  code : UInt16
  len : UInt16
  data : { d : List UInt8 // d.length = len.toNat }

def parseOptionDataBytes (len : UInt16) (input : List UInt8) :
    Option ({ d : List UInt8 // d.length = len.toNat } × List UInt8) :=
  if room : len.toNat ≤ input.length then
    some (⟨input.take len.toNat, List.length_take_of_le room⟩, input.drop len.toNat)
  else none

def parseEdnsOptionBytes : List UInt8 → Option (EdnsOption × List UInt8)
  | codeHi :: codeLo :: lenHi :: lenLo :: optionData =>
    match parseOptionDataBytes (u16FromBe lenHi lenLo) optionData with
    | none => none
    | some (data, tail) => some (⟨u16FromBe codeHi codeLo, u16FromBe lenHi lenLo, data⟩, tail)
  | _ => none

/-- Options up to the end of the input. Each takes a unit of fuel. -/
def parseEdnsOptionsBytes : Nat → List UInt8 → Option (List EdnsOption)
  | _, [] => some []
  | 0, _ :: _ => none
  | fuel + 1, b :: bs =>
    match parseEdnsOptionBytes (b :: bs) with
    | none => none
    | some (opt, rest) =>
      match parseEdnsOptionsBytes fuel rest with
      | none => none
      | some opts => some (opt :: opts)

def uint16ToFlags (rawFlags : UInt16) : DnsFlags :=
  let raw := rawFlags.toNat
  { qr := raw / 32768 = 1
    opcode := ⟨UInt16.ofNat (raw / 2048 % 16), by rw [UInt16.toNat_ofNat']; omega⟩
    aa := raw / 1024 % 2 = 1
    tc := raw / 512 % 2 = 1
    rd := raw / 256 % 2 = 1
    ra := raw / 128 % 2 = 1
    z := raw / 64 % 2 = 1
    ad := raw / 32 % 2 = 1
    cd := raw / 16 % 2 = 1
    rcode := ⟨UInt16.ofNat (raw % 16), by rw [UInt16.toNat_ofNat']; omega⟩ }

/-- Twelve octets. -/
def parseHeaderBytes : List UInt8 → Option (Header × List UInt8)
  | idHi :: idLo :: flHi :: flLo :: qdHi :: qdLo :: anHi :: anLo :: nsHi :: nsLo :: arHi :: arLo :: rest =>
    some (
      { id := u16FromBe idHi idLo
        flags := uint16ToFlags (u16FromBe flHi flLo)
        qdcount := u16FromBe qdHi qdLo
        ancount := u16FromBe anHi anLo
        nscount := u16FromBe nsHi nsLo
        arcount := u16FromBe arHi arLo }, rest)
  | _ => none

def parseQuestionBytes (input : List UInt8) : Option (Question × List UInt8) :=
  match parseQname 128 input with
  | none => none
  | some (name, rest) =>
    match rest with
    | qtHi :: qtLo :: qcHi :: qcLo :: tail =>
      some ({ qname := name, qtype := u16ToQtype (u16FromBe qtHi qtLo), qclass := u16FromBe qcHi qcLo }, tail)
    | _ => none

def parseQuestionsBytes (fuel count : Nat) (input : List UInt8) : Option (List Question × List UInt8) :=
  readCounted parseQuestionBytes fuel count input

/-- As many octets as RDLENGTH counts. -/
def parseRdataBytes (rdlen : UInt16) (input : List UInt8) : Option (List UInt8 × List UInt8) :=
  if rdlen.toNat = 0 then some ([], input)
  else if input.length < rdlen.toNat then none
  else some (input.take rdlen.toNat, input.drop rdlen.toNat)

/-- Addresses have a fixed length. -/
def validRdataLength (rtype : Qtype) (rdlen : UInt16) : Bool :=
  match rtype with
  | .A => rdlen = 4
  | .AAAA => rdlen = 16
  | _ => true

def ednsVersionFromTtl (ttl : UInt32) : UInt8 := UInt8.ofNat (ttl.toNat / 65536 % 256)

/-- An OPT record stands in the additional section, at the root, and has version 0. -/
def validRrPositionAndShape (additionalSection : Bool) (name : Qname) (rtype : Qtype) (ttl : UInt32) : Bool :=
  match rtype with
  | .OPT => additionalSection && decide (name = []) && decide (ednsVersionFromTtl ttl = 0)
  | _ => true

/-- The options of an OPT record must decode. -/
def validOptOptionsPayload (rdlen : UInt16) (input : List UInt8) : Bool :=
  if input.length < rdlen.toNat then false
  else (parseEdnsOptionsBytes rdlen.toNat (input.take rdlen.toNat)).isSome

/-- RDATA that is one name after `skip` fixed octets. `decode` is told where in the
payload the name starts. -/
def validNameAfter (decode : Nat → List UInt8 → Option (Qname × List UInt8)) (least skip : Nat)
    (rdlen : UInt16) (input : List UInt8) : Bool :=
  if rdlen.toNat < least ∨ input.length < rdlen.toNat then false
  else
    match suffixAt skip (input.take rdlen.toNat) with
    | none => false
    | some nameBytes =>
      match decode skip nameBytes with
      | some (_, tail) => tail.length = 0
      | none => false

/-- RDATA of two names followed by five 32-bit timers. -/
def validTwoNames (decode : Nat → List UInt8 → Option (Qname × List UInt8))
    (rdlen : UInt16) (input : List UInt8) : Bool :=
  if rdlen.toNat < 22 ∨ input.length < rdlen.toNat then false
  else
    let payload := input.take rdlen.toNat
    match decode 0 payload with
    | some (_, afterMname) =>
      match decode (payload.length - afterMname.length) afterMname with
      | some (_, timers) => timers.length = 20
      | none => false
    | none => false

section Plain

def plainName (_ : Nat) (input : List UInt8) : Option (Qname × List UInt8) := parseQname 128 input

def validNameRdataPayload (rdlen : UInt16) (input : List UInt8) : Bool :=
  validNameAfter plainName 0 0 rdlen input

def validMxRdataPayload (rdlen : UInt16) (input : List UInt8) : Bool :=
  validNameAfter plainName 3 2 rdlen input

def validSrvRdataPayload (rdlen : UInt16) (input : List UInt8) : Bool :=
  validNameAfter plainName 7 6 rdlen input

def validSoaRdataPayload (rdlen : UInt16) (input : List UInt8) : Bool :=
  validTwoNames plainName rdlen input

end Plain

section At

variable (original : List UInt8) (rdataOffset : Nat)

/-- A name of the RDATA, `skip` octets behind its start. Pointers lead into the whole message. -/
def compressedName (skip : Nat) (input : List UInt8) : Option (Qname × List UInt8) :=
  parseQnameCompressed 128 original (rdataOffset + skip) input

def validNameRdataPayloadAt (rdlen : UInt16) (input : List UInt8) : Bool :=
  validNameAfter (compressedName original rdataOffset) 0 0 rdlen input

def validMxRdataPayloadAt (rdlen : UInt16) (input : List UInt8) : Bool :=
  validNameAfter (compressedName original rdataOffset) 3 2 rdlen input

def validSrvRdataPayloadAt (rdlen : UInt16) (input : List UInt8) : Bool :=
  validNameAfter (compressedName original rdataOffset) 7 6 rdlen input

def validSoaRdataPayloadAt (rdlen : UInt16) (input : List UInt8) : Bool :=
  validTwoNames (compressedName original rdataOffset) rdlen input

end At

/-- Strings up to the end of the input, each behind its length. -/
def validTxtStrings : Nat → List UInt8 → Bool
  | _, [] => true
  | 0, _ :: _ => false
  | fuel + 1, slenB :: rest =>
    if rest.length < slenB.toNat then false
    else validTxtStrings fuel (rest.drop slenB.toNat)

def validTxtRdataPayload (rdlen : UInt16) (input : List UInt8) : Bool :=
  if rdlen.toNat = 0 ∨ input.length < rdlen.toNat then false
  else validTxtStrings rdlen.toNat (input.take rdlen.toNat)

/-- RDATA with names written out. -/
def validRdataShape (rtype : Qtype) (rdlen : UInt16) (input : List UInt8) : Bool :=
  match rtype with
  | .OPT => validOptOptionsPayload rdlen input
  | .NS => validNameRdataPayload rdlen input
  | .CNAME => validNameRdataPayload rdlen input
  | .PTR => validNameRdataPayload rdlen input
  | .MX => validMxRdataPayload rdlen input
  | .SOA => validSoaRdataPayload rdlen input
  | .TXT => validTxtRdataPayload rdlen input
  | .SRV => validSrvRdataPayload rdlen input
  | _ => true

/-- RDATA with compressed names. A type without a name has the shape that it has above. -/
def validRdataShapeAt (original : List UInt8) (rdataOffset : Nat) (rtype : Qtype) (rdlen : UInt16)
    (input : List UInt8) : Bool :=
  match rtype with
  | .NS => validNameRdataPayloadAt original rdataOffset rdlen input
  | .CNAME => validNameRdataPayloadAt original rdataOffset rdlen input
  | .PTR => validNameRdataPayloadAt original rdataOffset rdlen input
  | .MX => validMxRdataPayloadAt original rdataOffset rdlen input
  | .SOA => validSoaRdataPayloadAt original rdataOffset rdlen input
  | .SRV => validSrvRdataPayloadAt original rdataOffset rdlen input
  | _ => validRdataShape rtype rdlen input

/-- How far into `original` its suffix `tail` starts. -/
def offsetFromTail (original tail : List UInt8) : Nat :=
  if tail.length ≤ original.length then original.length - tail.length else 0

/-- The body that both record parsers share: `owner` reads the owner name, and `shape`
checks the RDATA, told how far into the record it starts. -/
def parseRecordWith (owner : List UInt8 → Option (Qname × List UInt8))
    (shape : Nat → Qtype → UInt16 → List UInt8 → Bool) (additionalSection : Bool) (input : List UInt8) :
    Option (ResourceRecord × List UInt8) :=
  match owner input with
  | none => none
  | some (name, rest) =>
    match rest with
    | rtHi :: rtLo :: rcHi :: rcLo :: ttl0 :: ttl1 :: ttl2 :: ttl3 :: rdlenHi :: rdlenLo :: rdataInput =>
      let rdlen := u16FromBe rdlenHi rdlenLo
      let rtype := u16ToQtype (u16FromBe rtHi rtLo)
      let ttl := u32FromBe ttl0 ttl1 ttl2 ttl3
      if validRrPositionAndShape additionalSection name rtype ttl && validRdataLength rtype rdlen &&
          shape (offsetFromTail input rest + 10) rtype rdlen rdataInput then
        match parseRdataBytes rdlen rdataInput with
        | none => none
        | some (rdata, tail) =>
          some ({ name, rtype, rclass := u16FromBe rcHi rcLo, ttl, rdlen, rdata }, tail)
      else none
    | _ => none

def parseResourceRecordBytes (additionalSection : Bool) (input : List UInt8) :
    Option (ResourceRecord × List UInt8) :=
  parseRecordWith (parseQname 128) (fun _ => validRdataShape) additionalSection input

/-- Names may be compressed, in the owner and in the RDATA. -/
def parseResourceRecordBytesAt (original : List UInt8) (currentOffset : Nat) (additionalSection : Bool)
    (input : List UInt8) : Option (ResourceRecord × List UInt8) :=
  parseRecordWith (parseQnameCompressed 128 original currentOffset)
    (fun used => validRdataShapeAt original (currentOffset + used)) additionalSection input

def parseResourceRecordsBytes (additionalSection : Bool) (fuel count : Nat) (input : List UInt8) :
    Option (List ResourceRecord × List UInt8) :=
  readCounted (parseResourceRecordBytes additionalSection) fuel count input

def parseResourceRecordsBytesAt (original : List UInt8) (currentOffset : Nat) (additionalSection : Bool)
    (fuel count : Nat) (input : List UInt8) : Option (List ResourceRecord × List UInt8) :=
  readCountedAt (fun offset => parseResourceRecordBytesAt original offset additionalSection)
    currentOffset fuel count input

/-- The packet grammar over a given parser of record sections. -/
def parsePacketWith
    (records : List UInt8 → Nat → Bool → Nat → Nat → List UInt8 → Option (List ResourceRecord × List UInt8))
    (input : List UInt8) : Option DnsPacket :=
  match parseHeaderBytes input with
  | none => none
  | some (h, rest) =>
    let qd := h.qdcount.toNat
    let an := h.ancount.toNat
    let ns := h.nscount.toNat
    let ar := h.arcount.toNat
    match parseQuestionsBytes qd qd rest with
    | none => none
    | some (questions, afterQuestions) =>
      match records input (offsetFromTail input afterQuestions) false an an afterQuestions with
      | none => none
      | some (answers, afterAnswers) =>
        match records input (offsetFromTail input afterAnswers) false ns ns afterAnswers with
        | none => none
        | some (authorities, afterAuthorities) =>
          match records input (offsetFromTail input afterAuthorities) true ar ar afterAuthorities with
          | none => none
          | some (additionals, tail) =>
            if tail.length = 0 then some { header := h, questions, answers, authorities, additionals }
            else none

/-- The reference parser. -/
def parseDnsPacketBytes (input : List UInt8) : Option DnsPacket :=
  parsePacketWith parseResourceRecordsBytesAt input

def validateDnsPacketBytes (input : List UInt8) : Bool := (parseDnsPacketBytes input).isSome

end Ism
