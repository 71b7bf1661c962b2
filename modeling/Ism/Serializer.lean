import Ism.Parser

namespace Ism

open Lib

/-- The two octets of a word, most significant first. -/
def u16Hi (n : UInt16) : UInt8 := UInt8.ofNat (n.toNat / 256)

def u16Lo (n : UInt16) : UInt8 := UInt8.ofNat (n.toNat % 256)

/-- The four octets of a double word, most significant first. -/
def u32B0 (n : UInt32) : UInt8 := UInt8.ofNat (n.toNat / 16777216 % 256)

def u32B1 (n : UInt32) : UInt8 := UInt8.ofNat (n.toNat / 65536 % 256)

def u32B2 (n : UInt32) : UInt8 := UInt8.ofNat (n.toNat / 256 % 256)

def u32B3 (n : UInt32) : UInt8 := UInt8.ofNat (n.toNat % 256)

/-- Each field at its place in the second word of the header. -/
def flagsToU16 (flags : DnsFlags) : UInt16 :=
  UInt16.ofNat (
    (if flags.qr then 32768 else 0) +
    flags.opcode.val.toNat * 2048 +
    (if flags.aa then 1024 else 0) +
    (if flags.tc then 512 else 0) +
    (if flags.rd then 256 else 0) +
    (if flags.ra then 128 else 0) +
    (if flags.z then 64 else 0) +
    (if flags.ad then 32 else 0) +
    (if flags.cd then 16 else 0) +
    flags.rcode.val.toNat)

def serializeHeaderBytes (h : Header) : List UInt8 :=
  let flags := flagsToU16 h.flags
  [u16Hi h.id, u16Lo h.id,
    u16Hi flags, u16Lo flags,
    u16Hi h.qdcount, u16Lo h.qdcount,
    u16Hi h.ancount, u16Lo h.ancount,
    u16Hi h.nscount, u16Lo h.nscount,
    u16Hi h.arcount, u16Lo h.arcount]

/-- Every label is written out. There is no compression on this side. -/
def serializeQnameLabels : Qname → List UInt8
  | [] => [0]
  | label :: rest => UInt8.ofNat label.val.length :: label.val ++ serializeQnameLabels rest

/-- A name of more than 255 octets is refused. -/
def serializeQnameUncompressed (name : Qname) : Option (List UInt8) :=
  if 255 < dnsNameLength name then none else some (serializeQnameLabels name)

def serializeQuestionBytes (q : Question) : Option (List UInt8) :=
  match serializeQnameUncompressed q.qname with
  | none => none
  | some qnameBytes =>
    let qtype := qtypeToU16 q.qtype
    some (qnameBytes ++ [u16Hi qtype, u16Lo qtype, u16Hi q.qclass, u16Lo q.qclass])

def serializeQuestionsBytes (questions : List Question) : Option (List UInt8) :=
  writeAll serializeQuestionBytes questions

/-- What the parser checks of RDATA. A type given by a number that has a name is refused, too. -/
def serializableRdata (rtype : Qtype) (rdata : List UInt8) : Bool :=
  let n := rdata.length
  if 65535 < n ∨ u16ToQtype (qtypeToU16 rtype) ≠ rtype then false
  else
    let len := UInt16.ofNat n
    validRdataLength rtype len && validRdataShape rtype len rdata

def wellFormedRecord (rr : ResourceRecord) : Bool :=
  decide (dnsNameLength rr.name ≤ 255) && decide (rr.rdlen.toNat = rr.rdata.length) &&
    serializableRdata rr.rtype rr.rdata

/-- RDLENGTH is counted from the RDATA. -/
def serializeResourceRecordFieldsBytes (name : Qname) (rtype : Qtype) (rclass : UInt16) (ttl : UInt32)
    (rdata : List UInt8) : Option (List UInt8) :=
  let rdlen := rdata.length
  if 65535 < rdlen ∨ serializableRdata rtype rdata = false then none
  else
    match serializeQnameUncompressed name with
    | none => none
    | some nameBytes =>
      let rtypeWire := qtypeToU16 rtype
      let rdlenWire := UInt16.ofNat rdlen
      some (nameBytes ++ ([u16Hi rtypeWire, u16Lo rtypeWire, u16Hi rclass, u16Lo rclass,
        u32B0 ttl, u32B1 ttl, u32B2 ttl, u32B3 ttl, u16Hi rdlenWire, u16Lo rdlenWire] ++ rdata))

/-- The RDLENGTH of the record must be right as well. -/
def serializeResourceRecordBytes (rr : ResourceRecord) : Option (List UInt8) :=
  if rr.rdlen.toNat ≠ rr.rdata.length then none
  else serializeResourceRecordFieldsBytes rr.name rr.rtype rr.rclass rr.ttl rr.rdata

def serializeResourceRecordsBytes (records : List ResourceRecord) : Option (List UInt8) :=
  writeAll serializeResourceRecordBytes records

/-- The four counts against the sections they count. -/
def headerCountsMatch (packet : DnsPacket) : Bool :=
  decide (packet.header.qdcount.toNat = packet.questions.length) &&
  decide (packet.header.ancount.toNat = packet.answers.length) &&
  decide (packet.header.nscount.toNat = packet.authorities.length) &&
  decide (packet.header.arcount.toNat = packet.additionals.length)

/-- Serializes the sections and exposes the bytes only if they parse back to `packet`. -/
def serializeDnsPacketBytes (packet : DnsPacket) : Option (List UInt8) :=
  if headerCountsMatch packet = false then none
  else
    match serializeQuestionsBytes packet.questions, serializeResourceRecordsBytes packet.answers,
      serializeResourceRecordsBytes packet.authorities, serializeResourceRecordsBytes packet.additionals with
    | some questionBytes, some answerBytes, some authorityBytes, some additionalBytes =>
      let bytes := serializeHeaderBytes packet.header ++
        (questionBytes ++ (answerBytes ++ (authorityBytes ++ additionalBytes)))
      match parseDnsPacketBytes bytes with
      | some parsed => if parsed = packet then some bytes else none
      | none => none
    | _, _, _, _ => none

/-- Opcode, RD and CD come from the request. Of the other bits only QR is set. -/
def responseFlagsFromRequest (requestHeader : Header) (rcode : Rcode) : DnsFlags :=
  { qr := true
    opcode := requestHeader.flags.opcode
    aa := false
    tc := false
    rd := requestHeader.flags.rd
    ra := false
    z := false
    ad := false
    cd := requestHeader.flags.cd
    rcode := rcodeToU4 rcode }

/-- The questions of the request and no records. -/
def buildMinimalResponsePacket (request : DnsPacket) (rcode : Rcode) : Option DnsPacket :=
  let qd := request.questions.length
  if 65535 < qd then none
  else
    some
      { header :=
          { id := request.header.id
            flags := responseFlagsFromRequest request.header rcode
            qdcount := UInt16.ofNat qd
            ancount := 0
            nscount := 0
            arcount := 0 }
        questions := request.questions
        answers := []
        authorities := []
        additionals := [] }

def serializeMinimalResponseBytes (request : DnsPacket) (rcode : Rcode) : Option (List UInt8) :=
  match buildMinimalResponsePacket request rcode with
  | some response => serializeDnsPacketBytes response
  | none => none

end Ism
