import Ism.Lib.Tiling
import Ism.NameTrace
import Ism.PacketCodec

namespace Ism

open Lib

/-- The octets of a message that belong to no name. -/
inductive Gap
  | header | questionFixed | recordFixed | rdataFixed | rdata
  deriving DecidableEq

/-- A name field, with what its decoding meets, or octets of another kind. -/
inductive Segment
  | field (t : NameTrace)
  | gap (kind : Gap) (octets : List UInt8)
  deriving DecidableEq

abbrev Layout := List Segment

namespace Segment

def bytes : Segment → List UInt8
  | field t => t.literal
  | gap _ octets => octets

def starts : Segment → List Nat
  | field t => t.starts
  | gap _ _ => []

def nameField : Segment → Option NameTrace
  | field t => some t
  | gap _ _ => none

end Segment

namespace Layout

def bytes (layout : Layout) : List UInt8 := layout.flatMap Segment.bytes

/-- The component starts of all name fields, in message order. -/
def starts (layout : Layout) : List Nat := layout.flatMap Segment.starts

def fields (layout : Layout) : List NameTrace := layout.filterMap Segment.nameField

end Layout

section Tracing

variable (original : List UInt8)

/-- The checks of `validNameAfter`, with the layout of the RDATA. -/
def traceNameAfter (decode : Nat → List UInt8 → Option (NameTrace × List UInt8)) (least skip : Nat)
    (rdlen : UInt16) (input : List UInt8) : Option Layout :=
  if rdlen.toNat < least ∨ input.length < rdlen.toNat then none
  else
    match suffixAt skip (input.take rdlen.toNat) with
    | none => none
    | some nameBytes =>
      match decode skip nameBytes with
      | some (t, tail) =>
        if tail.length = 0 then some [.gap .rdataFixed ((input.take rdlen.toNat).take skip), .field t] else none
      | none => none

/-- The checks of `validTwoNames`, with the layout of the RDATA. -/
def traceTwoNames (decode : Nat → List UInt8 → Option (NameTrace × List UInt8))
    (rdlen : UInt16) (input : List UInt8) : Option Layout :=
  if rdlen.toNat < 22 ∨ input.length < rdlen.toNat then none
  else
    let payload := input.take rdlen.toNat
    match decode 0 payload with
    | some (mname, afterMname) =>
      match decode (payload.length - afterMname.length) afterMname with
      | some (rname, timers) =>
        if timers.length = 20 then some [.field mname, .field rname, .gap .rdataFixed timers] else none
      | none => none
    | none => none

def tracedName (rdataOffset skip : Nat) (input : List UInt8) : Option (NameTrace × List UInt8) :=
  traceQnameCompressed 128 original (rdataOffset + skip) (rdataOffset + skip) input

def traceRdata (rdataOffset : Nat) (rtype : Qtype) (rdlen : UInt16) (input : List UInt8) : Option Layout :=
  match rtype with
  | .NS => traceNameAfter (tracedName original rdataOffset) 0 0 rdlen input
  | .CNAME => traceNameAfter (tracedName original rdataOffset) 0 0 rdlen input
  | .PTR => traceNameAfter (tracedName original rdataOffset) 0 0 rdlen input
  | .MX => traceNameAfter (tracedName original rdataOffset) 3 2 rdlen input
  | .SOA => traceTwoNames (tracedName original rdataOffset) rdlen input
  | .SRV => traceNameAfter (tracedName original rdataOffset) 7 6 rdlen input
  | _ => if validRdataShape rtype rdlen input then some [.gap .rdata (input.take rdlen.toNat)] else none

def traceQuestion (offset : Nat) (input : List UInt8) : Option ((Question × Layout) × List UInt8) :=
  match parseQuestionBytes input with
  | none => none
  | some (q, tail) =>
    match traceQname 128 offset input with
    | none => none
    | some (qname, rest) => some ((q, [.field qname, .gap .questionFixed (rest.take 4)]), tail)

/-- The record parser, with every name decoder it runs replaced by the tracing one. -/
def traceRecord (additionalSection : Bool) (offset : Nat) (input : List UInt8) :
    Option ((ResourceRecord × Layout) × List UInt8) :=
  match parseResourceRecordBytesAt original offset additionalSection input with
  | none => none
  | some (rr, tail) =>
    match traceQnameCompressed 128 original offset offset input with
    | none => none
    | some (owner, rest) =>
      match traceRdata original (offset + (offsetFromTail input rest + 10)) rr.rtype rr.rdlen (rest.drop 10) with
      | none => none
      | some rdata => some ((rr, .field owner :: .gap .recordFixed (rest.take 10) :: rdata), tail)

/-- The packet parser over a message, with the layout of the message as it reads it. -/
def tracePacketBytes (input : List UInt8) : Option (DnsPacket × Layout) :=
  match parseHeaderBytes input with
  | none => none
  | some (h, rest) =>
    let qd := h.qdcount.toNat
    let an := h.ancount.toNat
    let ns := h.nscount.toNat
    let ar := h.arcount.toNat
    match readCountedAt traceQuestion 12 qd qd rest with
    | none => none
    | some (questions, afterQuestions) =>
      match readCountedAt (traceRecord input false) (offsetFromTail input afterQuestions) an an afterQuestions with
      | none => none
      | some (answers, afterAnswers) =>
        match readCountedAt (traceRecord input false) (offsetFromTail input afterAnswers) ns ns afterAnswers with
        | none => none
        | some (authorities, afterAuthorities) =>
          match readCountedAt (traceRecord input true) (offsetFromTail input afterAuthorities) ar ar
              afterAuthorities with
          | none => none
          | some (additionals, tail) =>
            if tail.length = 0 then
              some ({ header := h, questions := questions.map Prod.fst, answers := answers.map Prod.fst,
                      authorities := authorities.map Prod.fst, additionals := additionals.map Prod.fst },
                .gap .header (input.take 12) ::
                  (questions.flatMap Prod.snd ++ (answers.flatMap Prod.snd ++
                    (authorities.flatMap Prod.snd ++ additionals.flatMap Prod.snd))))
            else none

end Tracing

theorem traceRdata_eq (original : List UInt8) (rdataOffset : Nat) (rtype : Qtype) (rdlen : UInt16)
    (input : List UInt8) : traceRdata original rdataOffset rtype rdlen input =
      match rdataForm rtype with
      | .name least skip => traceNameAfter (tracedName original rdataOffset) least skip rdlen input
      | .twoNames => traceTwoNames (tracedName original rdataOffset) rdlen input
      | .other =>
        if validRdataShape rtype rdlen input then some [.gap .rdata (input.take rdlen.toNat)] else none := by
  cases rtype <;> rfl

section Inversion

variable {rdlen : UInt16} {input : List UInt8} {layout : Layout}

theorem traceNameAfter_eq_some_iff {decode : Nat → List UInt8 → Option (NameTrace × List UInt8)}
    {least skip : Nat} : traceNameAfter decode least skip rdlen input = some layout ↔
      least ≤ rdlen.toNat ∧ rdlen.toNat ≤ input.length ∧ skip ≤ rdlen.toNat ∧
        ∃ t, decode skip ((input.take rdlen.toNat).drop skip) = some (t, []) ∧
          layout = [.gap .rdataFixed ((input.take rdlen.toNat).take skip), .field t] := by
  unfold traceNameAfter
  constructor
  · intro run
    split at run
    · cases run
    rename_i room
    split at run
    · cases run
    rename_i nameBytes found
    obtain ⟨inside, rfl⟩ := suffixAt_eq_some_iff.mp found
    rw [List.length_take_of_le (by omega)] at inside
    split at run
    · rename_i t tail decoded
      split at run
      · rename_i ended
        cases run
        cases List.length_eq_zero_iff.mp ended
        exact ⟨by omega, by omega, inside, t, decoded, rfl⟩
      · cases run
    · cases run
  · rintro ⟨enough, fits, inside, t, decoded, rfl⟩
    have found : suffixAt skip (input.take rdlen.toNat) = some ((input.take rdlen.toNat).drop skip) := by
      refine suffixAt_eq_some_iff.mpr ⟨?_, rfl⟩
      rw [List.length_take_of_le fits]
      exact inside
    rw [if_neg (by omega)]
    simp only [found, decoded, List.length_nil, if_true]

theorem traceTwoNames_eq_some_iff {decode : Nat → List UInt8 → Option (NameTrace × List UInt8)} :
    traceTwoNames decode rdlen input = some layout ↔
      22 ≤ rdlen.toNat ∧ rdlen.toNat ≤ input.length ∧ ∃ mname afterMname rname timers,
        decode 0 (input.take rdlen.toNat) = some (mname, afterMname) ∧
        decode (rdlen.toNat - afterMname.length) afterMname = some (rname, timers) ∧ timers.length = 20 ∧
        layout = [.field mname, .field rname, .gap .rdataFixed timers] := by
  unfold traceTwoNames
  constructor
  · intro run
    split at run
    · cases run
    rename_i room
    simp only [List.length_take_of_le (by omega : rdlen.toNat ≤ input.length)] at run
    split at run
    · rename_i mname afterMname first
      split at run
      · rename_i rname timers second
        split at run
        · rename_i ended
          cases run
          exact ⟨by omega, by omega, mname, afterMname, rname, timers, first, second, ended, rfl⟩
        · cases run
      · cases run
    · cases run
  · rintro ⟨enough, fits, mname, afterMname, rname, timers, first, second, ended, rfl⟩
    rw [if_neg (by omega)]
    simp only [List.length_take_of_le fits, first, second, ended, if_true]

end Inversion

section Erasure

variable {original : List UInt8} {rdlen : UInt16} {input rest : List UInt8} {name : Qname}

theorem traceQname_erases {fuel : Nat} (pos : Nat) (parsed : parseQname fuel input = some (name, rest)) :
    ∃ t, traceQname fuel pos input = some (t, rest) ∧ t.name = name := by
  have erased := traceQnameBounded_erases fuel 255 pos input
  unfold parseQname at parsed
  rw [parsed, Option.map_eq_some_iff] at erased
  obtain ⟨⟨t, rest'⟩, run, same⟩ := erased
  cases same
  exact ⟨t, run, rfl⟩

theorem traceQnameCompressed_erases {fuel limit : Nat} (pos : Nat)
    (parsed : parseQnameCompressed fuel original limit input = some (name, rest)) :
    ∃ t, traceQnameCompressed fuel original limit pos input = some (t, rest) ∧ t.name = name := by
  have erased := traceQnameCompressedBounded_erases original (messageNameOffsets original) fuel 255 limit pos input
  unfold parseQnameCompressed at parsed
  rw [parsed, Option.map_eq_some_iff] at erased
  obtain ⟨⟨t, rest'⟩, run, same⟩ := erased
  cases same
  exact ⟨t, run, rfl⟩

theorem traceNameAfter_of_valid {rdataOffset least skip : Nat}
    (valid : validNameAfter (compressedName original rdataOffset) least skip rdlen input = true) :
    ∃ layout, traceNameAfter (tracedName original rdataOffset) least skip rdlen input = some layout := by
  obtain ⟨enough, fits, inside, name, decoded⟩ := validNameAfter_iff.mp valid
  obtain ⟨t, run, -⟩ := traceQnameCompressed_erases (rdataOffset + skip) decoded
  exact ⟨_, traceNameAfter_eq_some_iff.mpr ⟨enough, fits, inside, t, run, rfl⟩⟩

theorem traceTwoNames_of_valid {rdataOffset : Nat}
    (valid : validTwoNames (compressedName original rdataOffset) rdlen input = true) :
    ∃ layout, traceTwoNames (tracedName original rdataOffset) rdlen input = some layout := by
  obtain ⟨enough, fits, mname, afterMname, rname, timers, first, second, ended⟩ := validTwoNames_iff.mp valid
  obtain ⟨t, run, -⟩ := traceQnameCompressed_erases (rdataOffset + 0) first
  obtain ⟨t', run', -⟩ :=
    traceQnameCompressed_erases (rdataOffset + (rdlen.toNat - afterMname.length)) second
  exact ⟨_, traceTwoNames_eq_some_iff.mpr ⟨enough, fits, t, _, t', _, run, run', ended, rfl⟩⟩

theorem traceRdata_of_valid {rdataOffset : Nat} {rtype : Qtype}
    (valid : validRdataShapeAt original rdataOffset rtype rdlen input = true) :
    ∃ layout, traceRdata original rdataOffset rtype rdlen input = some layout := by
  rw [traceRdata_eq]
  rw [validRdataShapeAt_eq] at valid
  cases form : rdataForm rtype with
  | name least skip =>
    rw [form] at valid
    exact traceNameAfter_of_valid valid
  | twoNames =>
    rw [form] at valid
    exact traceTwoNames_of_valid valid
  | other =>
    rw [form] at valid
    exact ⟨_, if_pos valid⟩

theorem traceQuestion_erases (offset : Nat) {q : Question} (parsed : parseQuestionBytes input = some (q, rest)) :
    ∃ traced, traceQuestion offset input = some (traced, rest) ∧ traced.1 = q := by
  obtain ⟨_, _, _, _, named, -, -⟩ := parseQuestionBytes_eq_some_iff.mp parsed
  obtain ⟨t, run, -⟩ := traceQname_erases offset named
  simp only [traceQuestion, parsed, run]
  exact ⟨_, rfl, rfl⟩

theorem traceRecord_erases {additionalSection : Bool} {offset : Nat} {rr : ResourceRecord}
    (parsed : parseResourceRecordBytesAt original offset additionalSection input = some (rr, rest)) :
    ∃ traced, traceRecord original additionalSection offset input = some (traced, rest) ∧ traced.1 = rr := by
  have read := parseRecordWith_eq_some_iff.mp parsed
  obtain ⟨owner, run, -⟩ := traceQnameCompressed_erases offset read.owned
  obtain ⟨rdata, traced⟩ := traceRdata_of_valid read.shaped
  have dropped : (recordFixedBytes rr ++ (rr.rdata ++ rest)).drop 10 = rr.rdata ++ rest := rfl
  simp only [traceRecord, parsed, run, dropped, traced]
  exact ⟨_, rfl, rfl⟩

/-- The tracing packet parser accepts what the packet parser accepts, with the same packet. -/
theorem tracePacketBytes_erases {p : DnsPacket} (parsed : parseDnsPacketBytes input = some p) :
    ∃ layout, tracePacketBytes input = some (p, layout) := by
  obtain ⟨rest, afterQuestions, _, _, header, asked, answered, authorized, added⟩ :=
    parsePacketWith_eq_some_iff.mp parsed
  have asked' : readCountedAt (fun _ => parseQuestionBytes) 12 p.header.qdcount.toNat p.header.qdcount.toNat
      rest = some (p.questions, afterQuestions) := by
    refine readCountedAt_mono ?_ asked
    exact fun _ _ _ _ same => same
  obtain ⟨questions, tracedQuestions, sameQuestions⟩ :=
    readCountedAt_refine (fun offset _ _ _ => traceQuestion_erases offset) asked'
  obtain ⟨answers, tracedAnswers, sameAnswers⟩ :=
    readCountedAt_refine (fun _ _ _ _ => traceRecord_erases) answered
  obtain ⟨authorities, tracedAuthorities, sameAuthorities⟩ :=
    readCountedAt_refine (fun _ _ _ _ => traceRecord_erases) authorized
  obtain ⟨additionals, tracedAdditionals, sameAdditionals⟩ :=
    readCountedAt_refine (fun _ _ _ _ => traceRecord_erases) added
  simp only [tracePacketBytes, header, tracedQuestions, tracedAnswers, tracedAuthorities, tracedAdditionals,
    List.length_nil, if_true, sameQuestions, sameAnswers, sameAuthorities, sameAdditionals]
  exact ⟨_, rfl⟩

end Erasure

end Ism
