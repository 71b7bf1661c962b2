import Ism.PacketCodec
import Ism.Grammar

namespace Ism

open Lib

/-! The messages for which a generated validator exists, and the two boundaries
that parse only those messages. -/

section Walks

/-- The question name of a message whose counts pass, and what follows the question. -/
def walkQuestion (counts : Header → Bool) (input : List UInt8) : Option (Qname × List UInt8) :=
  match parseHeaderBytes input with
  | some (h, afterHeader) =>
    if counts h then
      match parseQname 128 afterHeader with
      | some (questionName, questionTail) =>
        if questionTail.length < 4 then none else some (questionName, questionTail.drop 4)
      | none => none
    else none
  | none => none

/-- A record with an uncompressed owner; the RDATA is not cut off. -/
structure WalkedRecord where
  rrName : Qname
  rrType : Nat
  rdataLength : Nat
  rdataTail : List UInt8

/-- Type, RDLENGTH and the octets behind it; class and lifetime are skipped. -/
def walkFixedFields (rrTail : List UInt8) : Option (Nat × Nat × List UInt8) :=
  match rrTail with
  | rtHi :: rtLo :: _ :: _ :: _ :: _ :: _ :: _ :: rdlenHi :: rdlenLo :: rdataTail =>
    some ((u16FromBe rtHi rtLo).toNat, (u16FromBe rdlenHi rdlenLo).toNat, rdataTail)
  | _ => none

def walkRecord (input : List UInt8) : Option WalkedRecord :=
  match parseQname 128 input with
  | some (rrName, rrTail) =>
    match walkFixedFields rrTail with
    | some (rrType, rdataLength, rdataTail) => some { rrName, rrType, rdataLength, rdataTail }
    | none => none
  | none => none

/-- The header announces exactly these sections. -/
def counts (qdcount ancount nscount arcount : Nat) (h : Header) : Bool :=
  decide (h.qdcount.toNat = qdcount) && decide (h.ancount.toNat = ancount) &&
    decide (h.nscount.toNat = nscount) && decide (h.arcount.toNat = arcount)

/-- The RDATA of the first answer, read again without looking at the counts. -/
def walkRdata (input : List UInt8) : Option (List UInt8) :=
  match walkQuestion (fun _ => true) input with
  | some (_, afterQuestion) =>
    match walkRecord afterQuestion with
    | some record => some record.rdataTail
    | none => none
  | none => none

end Walks

section QuestionOnly

/-- The length of the name in a message that is a header and one question, and 0 in any other.
The counts are not looked at. -/
def generatedUncompressedQuestionQnameLength (input : List UInt8) : Nat :=
  if input.length < 17 ∨ 271 < input.length then 0
  else
    match parseQname 128 (input.drop 12) with
    | some (name, rest) => if rest.length = 4 then dnsNameLength name else 0
    | none => 0

def generatedUncompressedQuestionSubsetApplicable (input : List UInt8) : Bool :=
  let qnameLength := generatedUncompressedQuestionQnameLength input
  if qnameLength = 0 ∨ 255 < qnameLength then false else decide (input.length = 16 + qnameLength)

end QuestionOnly

section UncompressedAnswer

def firstIsPointer : List UInt8 → Bool
  | b :: _ => isPointer b
  | [] => false

def isNameRdataType (rrType : Nat) : Bool := rrType = 2 || rrType = 5 || rrType = 12

/-- A name of the RDATA is a pointer. One that begins with a label and ends in a pointer goes unnoticed. -/
def rdataNameStartsWithPointer (rrType : Nat) (rdataTail : List UInt8) : Bool :=
  if isNameRdataType rrType then firstIsPointer rdataTail
  else if rrType = 6 then
    firstIsPointer rdataTail ||
      match parseQname 128 rdataTail with
      | some (_, afterMname) => firstIsPointer afterMname
      | none => false
  else if rrType = 15 then firstIsPointer (rdataTail.drop 2)
  else if rrType = 33 then firstIsPointer (rdataTail.drop 6)
  else false

def plainNameLength (input : List UInt8) : Option Nat :=
  match parseQname 128 input with
  | some (name, _) => some (dnsNameLength name)
  | none => none

/-- The length of the first name in the RDATA, if it is written out. -/
def rdataNameLength (rrType : Nat) (rdataTail : List UInt8) : Option Nat :=
  if isNameRdataType rrType then plainNameLength rdataTail
  else if rrType = 15 then plainNameLength (rdataTail.drop 2)
  else if rrType = 6 then plainNameLength rdataTail
  else if rrType = 33 then plainNameLength (rdataTail.drop 6)
  else none

def soaRnameLength (rrType : Nat) (rdataTail : List UInt8) : Option Nat :=
  if rrType = 6 then
    match parseQname 128 rdataTail with
    | some (_, afterMname) => plainNameLength afterMname
    | none => none
  else none

/-- What is read of a message with one question and one answer. -/
structure AnswerPacketFields where
  qnameLength : Nat
  rrNameLength : Nat
  rdataLength : Nat
  rrType : Nat
  rdataNameStartsWithPointer : Bool
  rdataNameLength : Option Nat
  soaRnameLength : Option Nat

def answerPacketFields (questionName : Qname) (record : WalkedRecord) : AnswerPacketFields where
  qnameLength := dnsNameLength questionName
  rrNameLength := dnsNameLength record.rrName
  rdataLength := record.rdataLength
  rrType := record.rrType
  rdataNameStartsWithPointer := rdataNameStartsWithPointer record.rrType record.rdataTail
  rdataNameLength := rdataNameLength record.rrType record.rdataTail
  soaRnameLength := soaRnameLength record.rrType record.rdataTail

/-- Where the type is a listed one, RDLENGTH need not be what is left of the message. -/
def generatedUncompressedQuestionAnswerPacketFields (input : List UInt8) : Option AnswerPacketFields :=
  if input.length < 28 ∨ 66071 < input.length then none
  else
    match walkQuestion (counts 1 1 0 0) input with
    | some (questionName, afterQuestion) =>
      match walkRecord afterQuestion with
      | some record =>
        if record.rrType = 1 ∨ record.rrType = 28 ∨ record.rrType = 6 ∨ record.rrType = 2 ∨ record.rrType = 5 ∨
            record.rrType = 12 ∨ record.rrType = 15 ∨ record.rrType = 33 ∨ record.rrType = 16 ∨
            record.rdataTail.length = record.rdataLength then
          some (answerPacketFields questionName record)
        else none
      | none => none
    | none => none

/-- NS, CNAME and PTR want their name written out, MX, SRV and SOA that no name is a pointer. A message
whose length is not the announced one passes either way. -/
def generatedUncompressedQuestionAnswerPacketSubsetApplicable (input : List UInt8) : Bool :=
  match generatedUncompressedQuestionAnswerPacketFields input with
  | some f =>
    let cut := decide (input.length ≠ 26 + f.qnameLength + f.rrNameLength + f.rdataLength)
    decide (0 < f.qnameLength ∧ f.qnameLength ≤ 255 ∧ 0 < f.rrNameLength ∧ f.rrNameLength ≤ 255 ∧
        f.rdataLength ≤ 65535) &&
      if f.rrType = 1 then true
      else if f.rrType = 28 then true
      else if isNameRdataType f.rrType then f.rdataNameLength.isSome || cut
      else if f.rrType = 15 then f.rdataNameLength.isSome || (!f.rdataNameStartsWithPointer || cut)
      else if f.rrType = 6 then !f.rdataNameStartsWithPointer || cut
      else if f.rrType = 33 then f.rdataNameLength.isSome || (!f.rdataNameStartsWithPointer || cut)
      else if f.rrType = 16 then true
      else decide (input.length = 26 + f.qnameLength + f.rrNameLength + f.rdataLength)
  | none => false

end UncompressedAnswer

section TwoAddresses

/-- An address record of type A and the octets after it. -/
def walkAddressRecord (input : List UInt8) : Option (Qname × List UInt8) :=
  match walkRecord input with
  | some ⟨rrName, rrType, rdataLength, _ :: _ :: _ :: _ :: afterAnswer⟩ =>
    if rrType = 1 ∧ rdataLength = 4 then some (rrName, afterAnswer) else none
  | _ => none

def generatedUncompressedQuestionTwoAAnswerPacketFields (input : List UInt8) : Option (Nat × Nat × Nat) :=
  match walkQuestion (counts 1 2 0 0) input with
  | some (questionName, afterQuestion) =>
    match walkAddressRecord afterQuestion with
    | some (firstRrName, afterFirstAnswer) =>
      match walkAddressRecord afterFirstAnswer with
      | some (secondRrName, []) =>
        some (dnsNameLength questionName, dnsNameLength firstRrName, dnsNameLength secondRrName)
      | _ => none
    | none => none
  | none => none

def generatedUncompressedQuestionTwoAAnswerPacketSubsetApplicable (input : List UInt8) : Bool :=
  match generatedUncompressedQuestionTwoAAnswerPacketFields input with
  | some (qnameLength, firstRrNameLength, secondRrNameLength) =>
    decide (0 < qnameLength ∧ qnameLength ≤ 255 ∧ 0 < firstRrNameLength ∧ firstRrNameLength ≤ 255 ∧
      0 < secondRrNameLength ∧ secondRrNameLength ≤ 255)
  | none => false

end TwoAddresses

section Pointers

/-- Two octets that are a whole name at `offset`. -/
def isWholeName (input : List UInt8) (offset : Nat) (ptrHi ptrLo : UInt8) : Bool :=
  match parseQnameCompressed 128 input offset [ptrHi, ptrLo] with
  | some (_, []) => true
  | _ => false

/-- A whole name of two octets that is a pointer. -/
def isLonePointer (input : List UInt8) (offset : Nat) (ptrHi ptrLo : UInt8) : Bool :=
  isWholeName input offset ptrHi ptrLo && decide (192 ≤ ptrHi.toNat)

def validPointerOctets (ptrHi ptrLo : Nat) : Bool := decide (192 ≤ ptrHi ∧ ptrHi ≤ 255 ∧ ptrLo ≤ 255)

/-- What is read of a message whose answer has a pointer as its owner. -/
structure CompressedOwnerFields where
  qnameLength : Nat
  rdataLength : Nat
  rrType : Nat
  ptrHi : Nat
  ptrLo : Nat

/-- Nothing is asked of the RDATA but its length. -/
def generatedCompressedAnswerNamePacketFields (input : List UInt8) : Option CompressedOwnerFields :=
  match walkQuestion (counts 1 1 0 0) input with
  | some (questionName, afterQuestion) =>
    match afterQuestion with
    | ptrHi :: ptrLo :: rrTail =>
      match walkFixedFields rrTail with
      | some (rrType, rdataLength, rdataTail) =>
        if rdataTail.length = rdataLength then
          if isLonePointer input (16 + dnsNameLength questionName) ptrHi ptrLo then
            some
              { qnameLength := dnsNameLength questionName
                rdataLength
                rrType
                ptrHi := ptrHi.toNat
                ptrLo := ptrLo.toNat }
          else none
        else none
      | none => none
    | _ => none
  | none => none

def generatedCompressedAnswerNamePacketSubsetApplicable (input : List UInt8) : Bool :=
  match generatedCompressedAnswerNamePacketFields input with
  | some f =>
    decide (0 < f.qnameLength ∧ f.qnameLength ≤ 255 ∧ f.rdataLength ≤ 65535) &&
      validPointerOctets f.ptrHi f.ptrLo && decide (input.length = 28 + f.qnameLength + f.rdataLength)
  | none => false

structure CompressedRdataFields where
  qnameLength : Nat
  rrNameLength : Nat
  rrType : Nat
  ptrHi : Nat
  ptrLo : Nat

/-- RDATA of `skip` fixed octets and one pointer, in a record of one of the given types. -/
def compressedRdataPacketFields (types : Nat → Bool) (skip : Nat) (input : List UInt8) :
    Option CompressedRdataFields :=
  match generatedUncompressedQuestionAnswerPacketFields input with
  | some f =>
    if types f.rrType ∧ f.rdataLength = skip + 2 ∧ input.length = 28 + skip + f.qnameLength + f.rrNameLength then
      match walkRdata input with
      | some rdataTail =>
        match rdataTail.drop skip with
        | [ptrHi, ptrLo] =>
          if isLonePointer input (26 + skip + f.qnameLength + f.rrNameLength) ptrHi ptrLo then
            some
              { qnameLength := f.qnameLength
                rrNameLength := f.rrNameLength
                rrType := f.rrType
                ptrHi := ptrHi.toNat
                ptrLo := ptrLo.toNat }
          else none
        | _ => none
      | none => none
    else none
  | none => none

def compressedRdataSubsetApplicable (types : Nat → Bool) (skip : Nat) (input : List UInt8) : Bool :=
  match compressedRdataPacketFields types skip input with
  | some f =>
    decide (0 < f.qnameLength ∧ f.qnameLength ≤ 255 ∧ 0 < f.rrNameLength ∧ f.rrNameLength ≤ 255) &&
      types f.rrType && validPointerOctets f.ptrHi f.ptrLo &&
      decide (input.length = 28 + skip + f.qnameLength + f.rrNameLength)
  | none => false

/-- NS, CNAME and PTR: the name is all of the RDATA. -/
def generatedCompressedNameRdataPacketFields := compressedRdataPacketFields isNameRdataType 0

def generatedCompressedNameRdataPacketSubsetApplicable := compressedRdataSubsetApplicable isNameRdataType 0

/-- MX: the name stands behind the preference. -/
def generatedCompressedMxPacketFields := compressedRdataPacketFields (fun rrType => rrType = 15) 2

def generatedCompressedMxPacketSubsetApplicable := compressedRdataSubsetApplicable (fun rrType => rrType = 15) 2

/-- SRV: the name stands behind priority, weight and port. -/
def generatedCompressedSrvPacketFields := compressedRdataPacketFields (fun rrType => rrType = 33) 6

def generatedCompressedSrvPacketSubsetApplicable := compressedRdataSubsetApplicable (fun rrType => rrType = 33) 6

end Pointers

section StartOfAuthority

/-- `otherNameLength` belongs to the name that is written out. -/
structure CompressedSoaFields where
  mnameCompressed : Bool
  qnameLength : Nat
  rrNameLength : Nat
  otherNameLength : Nat
  ptrHi : Nat
  ptrLo : Nat

/-- One of the two names is a pointer and the other is written out. A whole name in the
first two octets decides which of them is tried. -/
def compressedSoaFields (f : AnswerPacketFields) (input rdataTail : List UInt8) : Option CompressedSoaFields :=
  match rdataTail with
  | mPtrHi :: mPtrLo :: rnameTail =>
    let mnameOffset := 26 + f.qnameLength + f.rrNameLength
    if isWholeName input mnameOffset mPtrHi mPtrLo then
      match parseQname 128 rnameTail with
      | some (rname, timers) =>
        if timers.length = 20 ∧ f.rdataLength = 22 + dnsNameLength rname ∧ 192 ≤ mPtrHi.toNat ∧
            input.length = 48 + f.qnameLength + f.rrNameLength + dnsNameLength rname then
          some ⟨true, f.qnameLength, f.rrNameLength, dnsNameLength rname, mPtrHi.toNat, mPtrLo.toNat⟩
        else none
      | none => none
    else
      match parseQname 128 (mPtrHi :: mPtrLo :: rnameTail) with
      | some (mname, rPtrHi :: rPtrLo :: timers) =>
        if isWholeName input (mnameOffset + dnsNameLength mname) rPtrHi rPtrLo then
          if timers.length = 20 ∧ f.rdataLength = 22 + dnsNameLength mname ∧ 192 ≤ rPtrHi.toNat ∧
              input.length = 48 + f.qnameLength + f.rrNameLength + dnsNameLength mname then
            some ⟨false, f.qnameLength, f.rrNameLength, dnsNameLength mname, rPtrHi.toNat, rPtrLo.toNat⟩
          else none
        else none
      | _ => none
  | _ => none

def generatedCompressedSoaPacketFields (input : List UInt8) : Option CompressedSoaFields :=
  match generatedUncompressedQuestionAnswerPacketFields input with
  | some f =>
    if f.rrType = 6 ∧ 23 ≤ f.rdataLength ∧ 49 + f.qnameLength + f.rrNameLength ≤ input.length then
      match walkRdata input with
      | some rdataTail => compressedSoaFields f input rdataTail
      | none => none
    else none
  | none => none

def generatedCompressedSoaPacketSubsetApplicable (input : List UInt8) : Bool :=
  match generatedCompressedSoaPacketFields input with
  | some f =>
    decide (0 < f.qnameLength ∧ f.qnameLength ≤ 255 ∧ 0 < f.rrNameLength ∧ f.rrNameLength ≤ 255 ∧
        0 < f.otherNameLength ∧ f.otherNameLength ≤ 255) &&
      validPointerOctets f.ptrHi f.ptrLo &&
      decide (input.length = 48 + f.qnameLength + f.rrNameLength + f.otherNameLength)
  | none => false

structure CompressedBothSoaFields where
  qnameLength : Nat
  rrNameLength : Nat
  mPtrHi : Nat
  mPtrLo : Nat
  rPtrHi : Nat
  rPtrLo : Nat

/-- Two pointers and twenty octets of numbers. -/
def generatedCompressedBothSoaPacketFields (input : List UInt8) : Option CompressedBothSoaFields :=
  match generatedUncompressedQuestionAnswerPacketFields input with
  | some f =>
    if f.rrType = 6 ∧ f.rdataLength = 24 ∧ input.length = 50 + f.qnameLength + f.rrNameLength then
      match walkRdata input with
      | some (mPtrHi :: mPtrLo :: rPtrHi :: rPtrLo :: timers) =>
        if timers.length = 20 then
          let mnameOffset := 26 + f.qnameLength + f.rrNameLength
          if isWholeName input mnameOffset mPtrHi mPtrLo ∧ isWholeName input (mnameOffset + 2) rPtrHi rPtrLo ∧
              192 ≤ mPtrHi.toNat ∧ 192 ≤ rPtrHi.toNat then
            some ⟨f.qnameLength, f.rrNameLength, mPtrHi.toNat, mPtrLo.toNat, rPtrHi.toNat, rPtrLo.toNat⟩
          else none
        else none
      | _ => none
    else none
  | none => none

def generatedCompressedBothSoaPacketSubsetApplicable (input : List UInt8) : Bool :=
  match generatedCompressedBothSoaPacketFields input with
  | some f =>
    decide (0 < f.qnameLength ∧ f.qnameLength ≤ 255 ∧ 0 < f.rrNameLength ∧ f.rrNameLength ≤ 255) &&
      validPointerOctets f.mPtrHi f.mPtrLo && validPointerOctets f.rPtrHi f.rPtrLo &&
      decide (input.length = 50 + f.qnameLength + f.rrNameLength)
  | none => false

end StartOfAuthority

section Edns0

/-- The length of the question name is there if the question is. -/
structure OptPacketFields where
  questionQnameLength : Option Nat
  rrNameLength : Nat
  optionPayloadLength : Nat

def parseOptAdditional (additionalInput : List UInt8) (questionQnameLength : Option Nat) :
    Option OptPacketFields :=
  match walkRecord additionalInput with
  | some ⟨rrName, rrType, rdataLength, rdataTail⟩ =>
    if rrType = 41 ∧ rdataTail.length = rdataLength then
      some ⟨questionQnameLength, dnsNameLength rrName, rdataLength⟩
    else none
  | none => none

/-- An OPT record, behind the header or behind one question. -/
def generatedEdns0OptAdditionalPacketFields (input : List UInt8) : Option OptPacketFields :=
  match parseHeaderBytes input with
  | some (h, afterHeader) =>
    if counts 0 0 0 1 h then parseOptAdditional afterHeader none
    else
      match walkQuestion (counts 1 0 0 1) input with
      | some (questionName, afterQuestion) =>
        parseOptAdditional afterQuestion (some (dnsNameLength questionName))
      | none => none
  | none => none

def generatedEdns0OptAdditionalPacketSubsetApplicable (input : List UInt8) : Bool :=
  match generatedEdns0OptAdditionalPacketFields input with
  | some f =>
    decide (0 < f.rrNameLength ∧ f.rrNameLength ≤ 255 ∧ f.optionPayloadLength ≤ 65535) &&
      match f.questionQnameLength with
      | some questionQnameLength => decide (0 < questionQnameLength ∧ questionQnameLength ≤ 255)
      | none => true
  | none => false

end Edns0

section Gate

/-- The validators that are generated from `DNSProtocol.3d`. -/
structure GeneratedChecks where
  dnsUncompressedQuestion : Nat → List UInt8 → Bool
  dnsUncompressedQuestionAnswerPacket : Nat → Nat → Nat → List UInt8 → Bool
  dnsUncompressedQuestionAAnswerPacket : Nat → Nat → List UInt8 → Bool
  dnsUncompressedQuestionAaaaAnswerPacket : Nat → Nat → List UInt8 → Bool
  dnsUncompressedQuestionTwoAAnswerPacket : Nat → Nat → Nat → List UInt8 → Bool
  dnsUncompressedQuestionNameRdataAnswerPacket : Nat → Nat → Nat → Nat → List UInt8 → Bool
  dnsUncompressedQuestionCompressedNameRdataAnswerPacket : Nat → Nat → Nat → Nat → Nat → List UInt8 → Bool
  dnsUncompressedQuestionMxAnswerPacket : Nat → Nat → Nat → List UInt8 → Bool
  dnsUncompressedQuestionCompressedMxAnswerPacket : Nat → Nat → Nat → Nat → List UInt8 → Bool
  dnsUncompressedQuestionSoaAnswerPacket : Nat → Nat → Nat → Nat → List UInt8 → Bool
  dnsUncompressedQuestionCompressedSoaMnameAnswerPacket : Nat → Nat → Nat → Nat → Nat → List UInt8 → Bool
  dnsUncompressedQuestionCompressedSoaRnameAnswerPacket : Nat → Nat → Nat → Nat → Nat → List UInt8 → Bool
  dnsUncompressedQuestionCompressedSoaAnswerPacket : Nat → Nat → Nat → Nat → Nat → Nat → List UInt8 → Bool
  dnsUncompressedQuestionSrvAnswerPacket : Nat → Nat → Nat → List UInt8 → Bool
  dnsUncompressedQuestionCompressedSrvAnswerPacket : Nat → Nat → Nat → Nat → List UInt8 → Bool
  dnsUncompressedQuestionTxtAnswerPacket : Nat → Nat → Nat → List UInt8 → Bool
  dnsUncompressedQuestionCompressedAnswerNamePacket : Nat → Nat → Nat → Nat → List UInt8 → Bool
  dnsOptAdditionalPacket : Nat → List UInt8 → Bool
  dnsUncompressedQuestionOptAdditionalPacket : Nat → Nat → List UInt8 → Bool

variable (check : GeneratedChecks) (buffer : List UInt8) (len : Nat) (bytes : List UInt8)

/-- The one validator that starts behind the header. -/
def validateGeneratedUncompressedQuestionSubsetBuffer : Bool :=
  check.dnsUncompressedQuestion (generatedUncompressedQuestionQnameLength bytes) ((buffer.drop 12).take (len - 12))

/-- The type of the answer picks the validator. It is given the lengths of the names, and where a
name is not written out there is no length and the message is refused. -/
def validateGeneratedUncompressedQuestionAnswerPacketSubsetBuffer : Bool :=
  match generatedUncompressedQuestionAnswerPacketFields bytes with
  | some f =>
    let packet := buffer.take len
    if f.rrType = 1 then check.dnsUncompressedQuestionAAnswerPacket f.qnameLength f.rrNameLength packet
    else if f.rrType = 28 then check.dnsUncompressedQuestionAaaaAnswerPacket f.qnameLength f.rrNameLength packet
    else if isNameRdataType f.rrType then
      match f.rdataNameLength with
      | some rdataNameLength =>
        check.dnsUncompressedQuestionNameRdataAnswerPacket f.qnameLength f.rrNameLength rdataNameLength f.rrType packet
      | none => false
    else if f.rrType = 15 then
      match f.rdataNameLength with
      | some exchangeNameLength =>
        check.dnsUncompressedQuestionMxAnswerPacket f.qnameLength f.rrNameLength exchangeNameLength packet
      | none => false
    else if f.rrType = 6 then
      match f.rdataNameLength, f.soaRnameLength with
      | some mnameLength, some rnameLength =>
        check.dnsUncompressedQuestionSoaAnswerPacket f.qnameLength f.rrNameLength mnameLength rnameLength packet
      | _, _ => false
    else if f.rrType = 33 then
      match f.rdataNameLength with
      | some targetNameLength =>
        check.dnsUncompressedQuestionSrvAnswerPacket f.qnameLength f.rrNameLength targetNameLength packet
      | none => false
    else if f.rrType = 16 then
      check.dnsUncompressedQuestionTxtAnswerPacket f.qnameLength f.rrNameLength f.rdataLength packet
    else check.dnsUncompressedQuestionAnswerPacket f.qnameLength f.rrNameLength f.rdataLength packet
  | none => false

def validateGeneratedUncompressedQuestionTwoAAnswerPacketSubsetBuffer : Bool :=
  match generatedUncompressedQuestionTwoAAnswerPacketFields bytes with
  | some (qnameLength, firstRrNameLength, secondRrNameLength) =>
    check.dnsUncompressedQuestionTwoAAnswerPacket qnameLength firstRrNameLength secondRrNameLength (buffer.take len)
  | none => false

def validateGeneratedCompressedAnswerNamePacketSubsetBuffer : Bool :=
  match generatedCompressedAnswerNamePacketFields bytes with
  | some f =>
    check.dnsUncompressedQuestionCompressedAnswerNamePacket f.qnameLength f.rdataLength f.ptrHi f.ptrLo
      (buffer.take len)
  | none => false

def validateGeneratedCompressedNameRdataPacketSubsetBuffer : Bool :=
  match generatedCompressedNameRdataPacketFields bytes with
  | some f =>
    check.dnsUncompressedQuestionCompressedNameRdataAnswerPacket f.qnameLength f.rrNameLength f.rrType f.ptrHi f.ptrLo
      (buffer.take len)
  | none => false

def validateGeneratedCompressedMxPacketSubsetBuffer : Bool :=
  match generatedCompressedMxPacketFields bytes with
  | some f =>
    check.dnsUncompressedQuestionCompressedMxAnswerPacket f.qnameLength f.rrNameLength f.ptrHi f.ptrLo
      (buffer.take len)
  | none => false

def validateGeneratedCompressedSoaPacketSubsetBuffer : Bool :=
  match generatedCompressedSoaPacketFields bytes with
  | some f =>
    if f.mnameCompressed then
      check.dnsUncompressedQuestionCompressedSoaMnameAnswerPacket f.qnameLength f.rrNameLength f.otherNameLength
        f.ptrHi f.ptrLo (buffer.take len)
    else
      check.dnsUncompressedQuestionCompressedSoaRnameAnswerPacket f.qnameLength f.rrNameLength f.otherNameLength
        f.ptrHi f.ptrLo (buffer.take len)
  | none => false

def validateGeneratedCompressedBothSoaPacketSubsetBuffer : Bool :=
  match generatedCompressedBothSoaPacketFields bytes with
  | some f =>
    check.dnsUncompressedQuestionCompressedSoaAnswerPacket f.qnameLength f.rrNameLength f.mPtrHi f.mPtrLo f.rPtrHi
      f.rPtrLo (buffer.take len)
  | none => false

def validateGeneratedCompressedSrvPacketSubsetBuffer : Bool :=
  match generatedCompressedSrvPacketFields bytes with
  | some f =>
    check.dnsUncompressedQuestionCompressedSrvAnswerPacket f.qnameLength f.rrNameLength f.ptrHi f.ptrLo
      (buffer.take len)
  | none => false

def validateGeneratedEdns0OptAdditionalPacketSubsetBuffer : Bool :=
  match generatedEdns0OptAdditionalPacketFields bytes with
  | some f =>
    match f.questionQnameLength with
    | some questionQnameLength =>
      check.dnsUncompressedQuestionOptAdditionalPacket questionQnameLength f.optionPayloadLength (buffer.take len)
    | none => check.dnsOptAdditionalPacket f.optionPayloadLength (buffer.take len)
  | none => false

/-- The first case that applies picks the validator. The order is not that of `classifyGeneratedSubset`. -/
def validateGeneratedSubsetGateBuffer : Bool :=
  if generatedEdns0OptAdditionalPacketSubsetApplicable bytes then
    validateGeneratedEdns0OptAdditionalPacketSubsetBuffer check buffer len bytes
  else if generatedCompressedAnswerNamePacketSubsetApplicable bytes then
    validateGeneratedCompressedAnswerNamePacketSubsetBuffer check buffer len bytes
  else if generatedCompressedNameRdataPacketSubsetApplicable bytes then
    validateGeneratedCompressedNameRdataPacketSubsetBuffer check buffer len bytes
  else if generatedCompressedMxPacketSubsetApplicable bytes then
    validateGeneratedCompressedMxPacketSubsetBuffer check buffer len bytes
  else if generatedCompressedBothSoaPacketSubsetApplicable bytes then
    validateGeneratedCompressedBothSoaPacketSubsetBuffer check buffer len bytes
  else if generatedCompressedSoaPacketSubsetApplicable bytes then
    validateGeneratedCompressedSoaPacketSubsetBuffer check buffer len bytes
  else if generatedCompressedSrvPacketSubsetApplicable bytes then
    validateGeneratedCompressedSrvPacketSubsetBuffer check buffer len bytes
  else if generatedUncompressedQuestionTwoAAnswerPacketSubsetApplicable bytes then
    validateGeneratedUncompressedQuestionTwoAAnswerPacketSubsetBuffer check buffer len bytes
  else if generatedUncompressedQuestionAnswerPacketSubsetApplicable bytes then
    validateGeneratedUncompressedQuestionAnswerPacketSubsetBuffer check buffer len bytes
  else if generatedUncompressedQuestionSubsetApplicable bytes then
    validateGeneratedUncompressedQuestionSubsetBuffer check buffer len bytes
  else false

def readBufferRange (buffer : List UInt8) : Nat → Nat → List UInt8
  | _, 0 => []
  | pos, remaining + 1 => buffer.getD pos 0 :: readBufferRange buffer (pos + 1) remaining

/-- The boundary on a buffer: the gate runs before the parser. -/
def parseDnsPacketBuffer : Option DnsPacket :=
  let bytes := readBufferRange buffer 0 len
  if validateGeneratedSubsetGateBuffer check buffer len bytes then parseDnsPacketBytes bytes else none

end Gate

section Boundary

/-- The cases of the boundary on a list of octets. -/
inductive GeneratedSubsetCase
  | questionOnly
  | uncompressedAnswer
  | uncompressedTwoAAnswers
  | compressedOwner
  | compressedNameRdata
  | compressedMx
  | compressedSoaBothNames
  | compressedSoaOneName
  | compressedSrv
  | edns0Opt

def classifyGeneratedSubset (input : List UInt8) : Option GeneratedSubsetCase :=
  if generatedUncompressedQuestionSubsetApplicable input then some .questionOnly
  else if generatedUncompressedQuestionTwoAAnswerPacketSubsetApplicable input then some .uncompressedTwoAAnswers
  else if generatedUncompressedQuestionAnswerPacketSubsetApplicable input then some .uncompressedAnswer
  else if generatedCompressedAnswerNamePacketSubsetApplicable input then some .compressedOwner
  else if generatedCompressedNameRdataPacketSubsetApplicable input then some .compressedNameRdata
  else if generatedCompressedMxPacketSubsetApplicable input then some .compressedMx
  else if generatedCompressedBothSoaPacketSubsetApplicable input then some .compressedSoaBothNames
  else if generatedCompressedSoaPacketSubsetApplicable input then some .compressedSoaOneName
  else if generatedCompressedSrvPacketSubsetApplicable input then some .compressedSrv
  else if generatedEdns0OptAdditionalPacketSubsetApplicable input then some .edns0Opt
  else none

/-- Some case applies. No validator is run. -/
def everparseBoundaryGeneratedSubsetApplicable (input : List UInt8) : Bool :=
  match classifyGeneratedSubset input with
  | some _ => true
  | none => false

/-- The body of `parse_dns_packet_bytes` once more. -/
def parseDnsPacketBytesGenerated (input : List UInt8) : Option DnsPacket :=
  parsePacketWith parseResourceRecordsBytesAt input

/-- The boundary on a list of octets. -/
def parseDnsPacketBytesAtBoundary (input : List UInt8) : Option DnsPacket :=
  if everparseBoundaryGeneratedSubsetApplicable input then parseDnsPacketBytesGenerated input else none

end Boundary

end Ism
