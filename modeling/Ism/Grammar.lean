import Ism.Lib.Format
import Ism.RecordCodec

namespace Ism

open Lib

/-! The entry points of `DNSProtocol.3d`, with the runs of fields they share named once. -/

namespace Grammar

def any : Nat → Bool := fun _ => true

def is (expected : Nat) : Nat → Bool := fun value => decide (value = expected)

def u8 (accepts : Nat → Bool) (next : Format) : Format := .uint 1 accepts fun _ => next

def u16 (accepts : Nat → Bool) (next : Format) : Format := .uint 2 accepts fun _ => next

def u32 (accepts : Nat → Bool) (next : Format) : Format := .uint 4 accepts fun _ => next

/-- `UINT8 len { len > 0 && len <= 63 }` and that many octets. -/
def dnsLabel : Format := .uint 1 (fun len => decide (0 < len ∧ len ≤ 63)) fun len => .bytes len .done

def dnsTxtString : Format := .uint 1 any fun len => .bytes len .done

def dnsEdnsOption : Format := .uint 2 any fun _ => .uint 2 any fun len => .bytes len .done

/-- `id`, the flag bit fields, and the four counts. -/
def dnsHeader (qdcount ancount nscount arcount : Nat → Bool) (next : Format) : Format :=
  u16 any (u16 any (u16 qdcount (u16 ancount (u16 nscount (u16 arcount next)))))

/-- `dns_label labels[:byte-size (length - 1)]; UINT8 root { root == 0 };` -/
def name (length : Nat) (next : Format) : Format := .array dnsLabel (length - 1) (u8 (is 0) next)

/-- A name, a type and a class. -/
def question (qnameLength : Nat) (next : Format) : Format := name qnameLength (u16 any (u16 any next))

/-- A pointer with given octets, whose target is not in the header. -/
def pointer (hi lo : Nat) (next : Format) : Format :=
  u8 (is hi) (u8 (fun value => decide (value = lo ∧ (192 < hi ∨ 12 ≤ value))) next)

/-- What stands between the owner and the RDATA. The class and the lifetime are free. -/
def recordFields (rtype rdlength : Nat → Bool) (next : Format) : Format :=
  u16 rtype (u16 any (u32 any (u16 rdlength next)))

def soaTimers (next : Format) : Format := u32 any (u32 any (u32 any (u32 any (u32 any next))))

/-- The counts of a message with one question and one answer. -/
def oneAnswer (next : Format) : Format := dnsHeader (is 1) (is 1) (is 0) (is 0) next

def nameLength (length : Nat) : Bool := decide (1 ≤ length ∧ length ≤ 255)

def pointerOctets (hi lo : Nat) : Bool := decide (192 ≤ hi ∧ hi ≤ 255 ∧ lo ≤ 255)

def nameRdataType (rtype : Nat) : Bool := decide (rtype = 2 ∨ rtype = 5 ∨ rtype = 12)

/-- The only entry point without a header. -/
def dnsUncompressedQuestion (qnameLength : Nat) : Format :=
  .require (nameLength qnameLength) (question qnameLength .done)

/-- The RDATA is not looked into. -/
def dnsUncompressedQuestionAnswerPacket (qnameLength rrNameLength rdataLength : Nat) : Format :=
  .require (nameLength qnameLength && nameLength rrNameLength && decide (rdataLength ≤ 65535))
    (oneAnswer (question qnameLength (name rrNameLength
      (recordFields any (is rdataLength) (.bytes rdataLength .done)))))

def dnsUncompressedQuestionAAnswerPacket (qnameLength rrNameLength : Nat) : Format :=
  .require (nameLength qnameLength && nameLength rrNameLength)
    (oneAnswer (question qnameLength (name rrNameLength (recordFields (is 1) (is 4) (.bytes 4 .done)))))

def dnsUncompressedQuestionAaaaAnswerPacket (qnameLength rrNameLength : Nat) : Format :=
  .require (nameLength qnameLength && nameLength rrNameLength)
    (oneAnswer (question qnameLength (name rrNameLength (recordFields (is 28) (is 16) (.bytes 16 .done)))))

def dnsUncompressedQuestionTwoAAnswerPacket (qnameLength firstRrNameLength secondRrNameLength : Nat) : Format :=
  .require (nameLength qnameLength && nameLength firstRrNameLength && nameLength secondRrNameLength)
    (dnsHeader (is 1) (is 2) (is 0) (is 0) (question qnameLength
      (name firstRrNameLength (recordFields (is 1) (is 4) (.bytes 4
        (name secondRrNameLength (recordFields (is 1) (is 4) (.bytes 4 .done))))))))

def dnsUncompressedQuestionNameRdataAnswerPacket
    (qnameLength rrNameLength rdataNameLength expectedRtype : Nat) : Format :=
  .require (nameLength qnameLength && nameLength rrNameLength && nameLength rdataNameLength &&
      nameRdataType expectedRtype)
    (oneAnswer (question qnameLength (name rrNameLength
      (recordFields (is expectedRtype) (is rdataNameLength) (name rdataNameLength .done)))))

def dnsUncompressedQuestionCompressedNameRdataAnswerPacket
    (qnameLength rrNameLength expectedRtype ptrHi ptrLo : Nat) : Format :=
  .require (nameLength qnameLength && nameLength rrNameLength && nameRdataType expectedRtype &&
      pointerOctets ptrHi ptrLo)
    (oneAnswer (question qnameLength (name rrNameLength
      (recordFields (is expectedRtype) (is 2) (pointer ptrHi ptrLo .done)))))

def dnsUncompressedQuestionMxAnswerPacket (qnameLength rrNameLength exchangeNameLength : Nat) : Format :=
  .require (nameLength qnameLength && nameLength rrNameLength && nameLength exchangeNameLength)
    (oneAnswer (question qnameLength (name rrNameLength
      (recordFields (is 15) (is (exchangeNameLength + 2)) (u16 any (name exchangeNameLength .done))))))

def dnsUncompressedQuestionCompressedMxAnswerPacket (qnameLength rrNameLength ptrHi ptrLo : Nat) : Format :=
  .require (nameLength qnameLength && nameLength rrNameLength && pointerOctets ptrHi ptrLo)
    (oneAnswer (question qnameLength (name rrNameLength
      (recordFields (is 15) (is 4) (u16 any (pointer ptrHi ptrLo .done))))))

def dnsUncompressedQuestionSoaAnswerPacket (qnameLength rrNameLength mnameLength rnameLength : Nat) : Format :=
  .require (nameLength qnameLength && nameLength rrNameLength && nameLength mnameLength &&
      nameLength rnameLength)
    (oneAnswer (question qnameLength (name rrNameLength
      (recordFields (is 6) (is (mnameLength + rnameLength + 20))
        (name mnameLength (name rnameLength (soaTimers .done)))))))

def dnsUncompressedQuestionCompressedSoaMnameAnswerPacket
    (qnameLength rrNameLength rnameLength ptrHi ptrLo : Nat) : Format :=
  .require (nameLength qnameLength && nameLength rrNameLength && nameLength rnameLength &&
      pointerOctets ptrHi ptrLo)
    (oneAnswer (question qnameLength (name rrNameLength
      (recordFields (is 6) (is (rnameLength + 22)) (pointer ptrHi ptrLo (name rnameLength (soaTimers .done)))))))

def dnsUncompressedQuestionCompressedSoaRnameAnswerPacket
    (qnameLength rrNameLength mnameLength ptrHi ptrLo : Nat) : Format :=
  .require (nameLength qnameLength && nameLength rrNameLength && nameLength mnameLength &&
      pointerOctets ptrHi ptrLo)
    (oneAnswer (question qnameLength (name rrNameLength
      (recordFields (is 6) (is (mnameLength + 22)) (name mnameLength (pointer ptrHi ptrLo (soaTimers .done)))))))

def dnsUncompressedQuestionCompressedSoaAnswerPacket
    (qnameLength rrNameLength mPtrHi mPtrLo rPtrHi rPtrLo : Nat) : Format :=
  .require (nameLength qnameLength && nameLength rrNameLength && pointerOctets mPtrHi mPtrLo &&
      pointerOctets rPtrHi rPtrLo)
    (oneAnswer (question qnameLength (name rrNameLength
      (recordFields (is 6) (is 24) (pointer mPtrHi mPtrLo (pointer rPtrHi rPtrLo (soaTimers .done)))))))

def dnsUncompressedQuestionSrvAnswerPacket (qnameLength rrNameLength targetNameLength : Nat) : Format :=
  .require (nameLength qnameLength && nameLength rrNameLength && nameLength targetNameLength)
    (oneAnswer (question qnameLength (name rrNameLength
      (recordFields (is 33) (is (targetNameLength + 6))
        (u16 any (u16 any (u16 any (name targetNameLength .done))))))))

def dnsUncompressedQuestionCompressedSrvAnswerPacket (qnameLength rrNameLength ptrHi ptrLo : Nat) : Format :=
  .require (nameLength qnameLength && nameLength rrNameLength && pointerOctets ptrHi ptrLo)
    (oneAnswer (question qnameLength (name rrNameLength
      (recordFields (is 33) (is 8) (u16 any (u16 any (u16 any (pointer ptrHi ptrLo .done))))))))

def dnsUncompressedQuestionTxtAnswerPacket (qnameLength rrNameLength rdataLength : Nat) : Format :=
  .require (nameLength qnameLength && nameLength rrNameLength && decide (1 ≤ rdataLength ∧ rdataLength ≤ 65535))
    (oneAnswer (question qnameLength (name rrNameLength
      (recordFields (is 16) (is rdataLength) (.array dnsTxtString rdataLength .done)))))

/-- The owner is a pointer. Neither the type nor the RDATA matters. -/
def dnsUncompressedQuestionCompressedAnswerNamePacket (qnameLength rdataLength ptrHi ptrLo : Nat) : Format :=
  .require (nameLength qnameLength && decide (rdataLength ≤ 65535) && pointerOctets ptrHi ptrLo)
    (oneAnswer (question qnameLength (pointer ptrHi ptrLo
      (recordFields any (is rdataLength) (.bytes rdataLength .done)))))

/-- The OPT pseudo-record: its class is the payload size, its TTL the extended code,
the version and the flags. -/
def optRecord (optionPayloadLength : Nat) : Format :=
  u8 (is 0) (u16 (is 41) (u16 any (u8 any (u8 (is 0) (u16 any (u16 (is optionPayloadLength)
    (.array dnsEdnsOption optionPayloadLength .done)))))))

def dnsOptAdditionalPacket (optionPayloadLength : Nat) : Format :=
  .require (decide (optionPayloadLength ≤ 65535))
    (dnsHeader (is 0) (is 0) (is 0) (is 1) (optRecord optionPayloadLength))

def dnsUncompressedQuestionOptAdditionalPacket (qnameLength optionPayloadLength : Nat) : Format :=
  .require (nameLength qnameLength && decide (optionPayloadLength ≤ 65535))
    (dnsHeader (is 1) (is 0) (is 0) (is 1) (question qnameLength (optRecord optionPayloadLength)))

section Instances

variable {next : Format} {rest : List UInt8} {accepts : Nat → Bool}

theorem is_self (n : Nat) : is n n = true := decide_eq_true rfl

theorem u8_instance {b : UInt8} (accepted : accepts b.toNat = true) (here : next.Instance rest) :
    (u8 accepts next).Instance (b :: rest) :=
  ⟨[b], rest, rfl, rfl, by simpa [beValue] using accepted, here⟩

/-- Big-endian values as the parser computes them. -/
theorem beValue_pair (hi lo : UInt8) : beValue [hi, lo] = wireU16 hi lo := by
  simp [beValue, wireU16]

theorem u16_instance {hi lo : UInt8} (accepted : accepts (wireU16 hi lo) = true) (here : next.Instance rest) :
    (u16 accepts next).Instance (hi :: lo :: rest) :=
  ⟨[hi, lo], rest, rfl, rfl, by rw [beValue_pair]; exact accepted, here⟩

theorem u32_instance {b0 b1 b2 b3 : UInt8} (here : next.Instance rest) :
    (u32 any next).Instance (b0 :: b1 :: b2 :: b3 :: rest) :=
  ⟨[b0, b1, b2, b3], rest, rfl, rfl, rfl, here⟩

theorem u16_word_instance (n : UInt16) (accepted : accepts n.toNat = true) (here : next.Instance rest) :
    (u16 accepts next).Instance (u16Hi n :: u16Lo n :: rest) := by
  refine u16_instance ?_ here
  rw [← u16FromBe_toNat, u16FromBe_u16Hi_u16Lo]
  exact accepted

/-- The octets of the labels of a name, without the root. -/
def labelOctets (n : Qname) : List UInt8 :=
  n.flatMap fun l => UInt8.ofNat l.val.length :: l.val

theorem serializeQnameLabels_eq (n : Qname) : serializeQnameLabels n = labelOctets n ++ [0] := by
  induction n with
  | nil => rfl
  | cons l rest ih => simp [serializeQnameLabels, labelOctets, ih]

theorem dnsLabel_instance (l : Label) : dnsLabel.Instance (UInt8.ofNat l.val.length :: l.val) := by
  have value : beValue [UInt8.ofNat l.val.length] = l.val.length := by
    simp only [beValue, List.foldl_cons, List.foldl_nil, l.toNat_length]
    omega
  refine ⟨[UInt8.ofNat l.val.length], l.val, rfl, rfl, ?_, ?_⟩
  · rw [value]
    exact decide_eq_true ⟨l.property.1, l.property.2⟩
  · rw [value]
    exact ⟨l.val, [], (List.append_nil _).symm, rfl, rfl⟩

/-- The labels of a name are elements of the grammar's array. -/
theorem labelOctets_elements (n : Qname) : Elements dnsLabel.Instance (labelOctets n) := by
  induction n with
  | nil => exact .nil
  | cons l rest ih => exact .cons (dnsLabel_instance l) (List.cons_ne_nil _ _) ih

/-- A name that is written out is an instance at its own length. -/
theorem name_instance (n : Qname) (here : next.Instance rest) :
    (name (dnsNameLength n) next).Instance (serializeQnameLabels n ++ rest) := by
  have length : (labelOctets n).length = dnsNameLength n - 1 := by
    have whole := serializeQnameLabels_length n
    rw [serializeQnameLabels_eq, List.length_append] at whole
    rw [← whole]
    rfl
  refine ⟨labelOctets n, 0 :: rest, ?_, length, labelOctets_elements n, u8_instance rfl here⟩
  rw [serializeQnameLabels_eq, List.append_assoc]
  rfl

theorem question_instance (n : Qname) {qtHi qtLo qcHi qcLo : UInt8} (here : next.Instance rest) :
    (question (dnsNameLength n) next).Instance
      (serializeQnameLabels n ++ qtHi :: qtLo :: qcHi :: qcLo :: rest) :=
  name_instance n (u16_instance rfl (u16_instance rfl here))

/-- A header is an instance if its counts pass. -/
theorem dnsHeader_instance {qd an ns ar : Nat → Bool} (h : Header) (qdOk : qd h.qdcount.toNat = true)
    (anOk : an h.ancount.toNat = true) (nsOk : ns h.nscount.toNat = true) (arOk : ar h.arcount.toNat = true)
    (here : next.Instance rest) : (dnsHeader qd an ns ar next).Instance (serializeHeaderBytes h ++ rest) :=
  u16_instance rfl (u16_instance rfl (u16_word_instance _ qdOk (u16_word_instance _ anOk
    (u16_word_instance _ nsOk (u16_word_instance _ arOk here)))))

theorem nameLength_dnsNameLength {n : Qname} (short : dnsNameLength n ≤ 255) :
    nameLength (dnsNameLength n) = true :=
  decide_eq_true ⟨dnsNameLength_pos n, short⟩

theorem dnsUncompressedQuestion_instance {n : Qname} (short : dnsNameLength n ≤ 255) {qtHi qtLo qcHi qcLo : UInt8} :
    (dnsUncompressedQuestion (dnsNameLength n)).Instance (serializeQnameLabels n ++ [qtHi, qtLo, qcHi, qcLo]) :=
  ⟨nameLength_dnsNameLength short, question_instance n rfl⟩

end Instances

end Grammar

end Ism
