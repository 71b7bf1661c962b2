import Ism.Coverage

namespace Ism

open Lib

/-- What stands behind the first name, if that name is in one piece. -/
def afterFirstName (rdata : List UInt8) : List UInt8 :=
  if firstIsPointer rdata then rdata.drop 2
  else
    match parseQname 128 rdata with
    | some (_, rest) => rest
    | none => []

/-- Every name in the RDATA is written out, or is a pointer and nothing else. -/
def rdataInOnePiece (rrType : Nat) (rdata : List UInt8) : Bool :=
  if isNameRdataType rrType then !endsInPointer rdata
  else if rrType = 15 then !endsInPointer (rdata.drop 2)
  else if rrType = 33 then !endsInPointer (rdata.drop 6)
  else if rrType = 6 then !endsInPointer rdata && !endsInPointer (afterFirstName rdata)
  else true

theorem endsInPointer_of_pointer {octets : List UInt8} (pointer : firstIsPointer octets = true) :
    endsInPointer octets = false := by
  rw [endsInPointer, pointer]
  rfl

theorem rdataInOnePiece_eq (rrType : Nat) (rdata : List UInt8) :
    rdataInOnePiece rrType rdata = (rdataCovered rrType rdata && !partlyCompressedRdata rrType rdata) := by
  by_cases name : isNameRdataType rrType = true
  · have plain : partlyCompressedRdata rrType rdata = false := by
      rcases isNameRdataType_iff.mp name with same | same | same <;> rw [same] <;> rfl
    rw [rdataInOnePiece, if_pos name, rdataCovered, if_pos name, plain, Bool.not_false, Bool.and_true]
  rw [rdataInOnePiece, if_neg name, rdataCovered, if_neg name, partlyCompressedRdata]
  by_cases soa : rrType = 6
  · subst soa
    simp only [if_true, if_false, Nat.reduceEqDiff]
    rw [afterFirstName]
    cases pointer : firstIsPointer rdata with
    | true =>
      have written : parseQname 128 rdata = none := by
        rw [Option.eq_none_iff_forall_ne_some]
        intro result plain
        rw [firstIsPointer_of_plain plain] at pointer
        cases pointer
      simp only [written, endsInPointer_of_pointer pointer, if_true, Bool.not_false, Bool.true_and, Bool.and_true]
    | false =>
      cases plain : parseQname 128 rdata with
      | none =>
        have partly : endsInPointer rdata = true := endsInPointer_iff.mpr ⟨pointer, plain⟩
        simp only [partly, Bool.not_true, Bool.false_and, Bool.and_false]
      | some result =>
        have whole : endsInPointer rdata = false := endsInPointer_eq_false_iff.mpr (Or.inr ⟨result, plain⟩)
        simp only [whole, Bool.false_eq_true, if_false, Bool.not_false, Bool.true_and, Bool.false_and]
  · rw [if_neg soa]
    split_ifs <;> rfl

section Language

variable {input buffer : List UInt8} {p : DnsPacket}

theorem walkQuestion_header {an ns ar : Nat} {name : Qname} {after : List UInt8}
    (parsed : parseDnsPacketBytes input = some p)
    (asked : walkQuestion (counts 1 an ns ar) input = some (name, after)) : counts 1 an ns ar p.header = true :=
  (accepted_question parsed asked fun _ counted => (counts_iff.mp counted).1).1

/-- A message without one question and one answer is not partly compressed. -/
theorem partlyCompressed_of_counts {qd an ns ar : Nat} (parsed : parseDnsPacketBytes input = some p)
    (counted : counts qd an ns ar p.header = true) (other : ¬ (qd = 1 ∧ an = 1 ∧ ns = 0 ∧ ar = 0)) :
    partlyCompressed input = false := by
  rw [Bool.eq_false_iff, ne_eq, partlyCompressed_iff]
  rintro ⟨_, name, after, r, -, asked, -, -⟩
  have here := counts_iff.mp counted
  have there := counts_iff.mp (walkQuestion_header parsed asked)
  omega

theorem partlyCompressed_of_answer {name : Qname} {after : List UInt8}
    (asked : walkQuestion (counts 1 1 0 0) input = some (name, after))
    (whole : ∀ r, walkRecord after = some r → partlyCompressedRdata r.rrType r.rdataTail = false) :
    partlyCompressed input = false := by
  rw [Bool.eq_false_iff, ne_eq, partlyCompressed_iff]
  rintro ⟨_, _, _, r, -, asked', walked, partly⟩
  cases (walkQuestion_unique asked asked').1
  rw [whole r walked] at partly
  cases partly

theorem covered_inOnePiece_iff (parsed : parseDnsPacketBytes input = some p) :
    Covered rdataInOnePiece input p ↔ Covered rdataCovered input p ∧ partlyCompressed input = false := by
  constructor
  · intro covered
    cases covered with
    | question counted => exact ⟨.question counted, partlyCompressed_of_counts parsed counted (by omega)⟩
    | pointedAnswer asked pointer =>
      refine ⟨.pointedAnswer asked pointer, partlyCompressed_of_answer asked fun r walked => ?_⟩
      obtain ⟨_, named, -⟩ := walkRecord_eq_some_iff.mp walked
      rw [firstIsPointer_of_plain named] at pointer
      cases pointer
    | answer asked walked whole =>
      rw [rdataInOnePiece_eq, Bool.and_eq_true, Bool.not_eq_true'] at whole
      refine ⟨.answer asked walked whole.1, partlyCompressed_of_answer asked fun r again => ?_⟩
      cases Option.some.inj (walked.symm.trans again)
      exact whole.2
    | addresses asked one two =>
      exact ⟨.addresses asked one two,
        partlyCompressed_of_counts parsed (walkQuestion_header parsed asked) (by omega)⟩
    | opt counted header walked typed =>
      exact ⟨.opt counted header walked typed, partlyCompressed_of_counts parsed counted (by omega)⟩
    | askedOpt asked walked typed =>
      exact ⟨.askedOpt asked walked typed,
        partlyCompressed_of_counts parsed (walkQuestion_header parsed asked) (by omega)⟩
  · rintro ⟨covered, plain⟩
    cases covered with
    | question counted => exact .question counted
    | pointedAnswer asked pointer => exact .pointedAnswer asked pointer
    | @answer _ _ r asked walked whole =>
      refine .answer asked walked ?_
      rw [rdataInOnePiece_eq, whole, Bool.true_and, Bool.not_eq_true', Bool.eq_false_iff]
      intro partly
      rw [partlyCompressed_iff.mpr ⟨p, _, _, r, parsed, asked, walked, partly⟩] at plain
      cases plain
    | addresses asked one two => exact .addresses asked one two
    | opt counted header walked typed => exact .opt counted header walked typed
    | askedOpt asked walked typed => exact .askedOpt asked walked typed

/-- A buffer that starts with a message is accepted when the message is, belongs to one of the
generated classes, and is not partly compressed. -/
theorem parseDnsPacketBuffer_eq_some_iff {check : GeneratedChecks} (correct : check.Correct) (held : input <+: buffer) :
    parseDnsPacketBuffer check buffer input.length = some p ↔ parseDnsPacketBytes input = some p ∧
      everparseBoundaryGeneratedSubsetApplicable input = true ∧ partlyCompressed input = false := by
  have taken : buffer.take input.length = input := (List.prefix_iff_eq_take.mp held).symm
  have bytes : readBufferRange buffer 0 input.length = input := by
    rw [readBufferRange_eq (by rw [Nat.zero_add]; exact held.length_le), List.drop_zero, taken]
  simp only [parseDnsPacketBuffer, bytes]
  constructor
  · intro accepted
    split at accepted
    case isFalse => cases accepted
    case isTrue gate =>
      refine ⟨accepted, ?_, ?_⟩
      · by_contra inapplicable
        rw [gate_inapplicable (Bool.eq_false_iff.mpr inapplicable)] at gate
        cases gate
      · by_contra partly
        rw [(gate_fails check buffer input.length (Bool.not_eq_false _ ▸ partly)).2] at gate
        cases gate
  · rintro ⟨parsed, applicable, plain⟩
    rw [if_pos (gate_passes correct taken parsed plain applicable), parsed]

theorem parseDnsPacketBuffer_iff_covered {check : GeneratedChecks} (correct : check.Correct) (held : input <+: buffer) :
    parseDnsPacketBuffer check buffer input.length = some p ↔
      parseDnsPacketBytes input = some p ∧ Covered rdataInOnePiece input p := by
  rw [parseDnsPacketBuffer_eq_some_iff correct held]
  refine and_congr_right fun parsed => ?_
  rw [covered_inOnePiece_iff parsed, applicable_iff_covered parsed]

theorem parseDnsPacketBytesAtBoundary_iff_covered :
    parseDnsPacketBytesAtBoundary input = some p ↔
      parseDnsPacketBytes input = some p ∧ Covered rdataCovered input p := by
  have generated : parseDnsPacketBytesGenerated input = parseDnsPacketBytes input := rfl
  rw [parseDnsPacketBytesAtBoundary, generated]
  constructor
  · intro accepted
    split at accepted
    case isFalse => cases accepted
    case isTrue applicable => exact ⟨accepted, (applicable_iff_covered accepted).mp applicable⟩
  · rintro ⟨parsed, covered⟩
    rw [if_pos ((applicable_iff_covered parsed).mpr covered), parsed]

end Language

/-- The exact languages of the two production boundaries, over the reference parser. -/
theorem production_boundaries_language (check : GeneratedChecks) (correct : check.Correct) (b buffer : List UInt8)
    (held : b <+: buffer) (p : DnsPacket) :
    (parseDnsPacketBytesAtBoundary b = some p ↔ parseDnsPacketBytes b = some p ∧ Covered rdataCovered b p) ∧
    (parseDnsPacketBuffer check buffer b.length = some p ↔
      parseDnsPacketBytes b = some p ∧ Covered rdataInOnePiece b p) :=
  ⟨parseDnsPacketBytesAtBoundary_iff_covered, parseDnsPacketBuffer_iff_covered correct held⟩

/-- An exchange behind a pointer alone passes both boundaries, one with a label before the
pointer passes only the first. -/
theorem production_boundaries_language_exchange :
    (parseDnsPacketBuffer formatChecks (exchangeResponse 4 [0xC0, 0x0C]) 36).isSome = true ∧
      ∃ p, parseDnsPacketBytesAtBoundary (exchangeResponse 6 [1, 109, 0xC0, 0x0C]) = some p ∧
        Covered rdataCovered (exchangeResponse 6 [1, 109, 0xC0, 0x0C]) p ∧
        ¬ Covered rdataInOnePiece (exchangeResponse 6 [1, 109, 0xC0, 0x0C]) p := by
  refine ⟨by decide +kernel, ?_⟩
  obtain ⟨p, accepted⟩ : ∃ p, parseDnsPacketBytesAtBoundary (exchangeResponse 6 [1, 109, 0xC0, 0x0C]) = some p :=
    Option.isSome_iff_exists.mp (by decide +kernel)
  obtain ⟨pure, buffered⟩ := production_boundaries_language formatChecks formatChecks_correct
    (exchangeResponse 6 [1, 109, 0xC0, 0x0C]) _ (List.prefix_refl _) p
  obtain ⟨parsed, covered⟩ := pure.mp accepted
  refine ⟨p, accepted, covered, fun inOnePiece => ?_⟩
  have refused : parseDnsPacketBuffer formatChecks (exchangeResponse 6 [1, 109, 0xC0, 0x0C])
      (exchangeResponse 6 [1, 109, 0xC0, 0x0C]).length = none := by
    decide +kernel
  cases refused.symm.trans (buffered.mpr ⟨parsed, inOnePiece⟩)

section ReferenceOnly

inductive ReferenceOnlyAcceptanceCase
  | answerWithoutQuestion
  | multipleQuestions
  | multipleAnswers
  | authorityRecords
  | additionalRecords
  | otherAcceptedShape
  deriving DecidableEq, Repr

def classifyReferenceOnlyAcceptance (input : List UInt8) : Option ReferenceOnlyAcceptanceCase :=
  match parseDnsPacketBytes input with
  | none => none
  | some p =>
    if everparseBoundaryGeneratedSubsetApplicable input then none
    else if p.header.qdcount.toNat = 0 ∧ 0 < p.header.ancount.toNat then some .answerWithoutQuestion
    else if 1 < p.header.qdcount.toNat then some .multipleQuestions
    else if 1 < p.header.ancount.toNat then some .multipleAnswers
    else if 0 < p.header.nscount.toNat then some .authorityRecords
    else if 0 < p.header.arcount.toNat then some .additionalRecords
    else some .otherAcceptedShape

variable {input : List UInt8} {p : DnsPacket}

/-- An accepted message of one question and one answer that the boundary does not cover: a label
stands before a pointer in the owner, or in the RDATA where the boundary looks for it. -/
inductive Divided (input : List UInt8) : Prop
  | owner {name : Qname} {after : List UInt8} (asked : walkQuestion (counts 1 1 0 0) input = some (name, after))
    (partly : endsInPointer after = true)
  | rdata {name : Qname} {after : List UInt8} {r : WalkedRecord}
    (asked : walkQuestion (counts 1 1 0 0) input = some (name, after)) (walked : walkRecord after = some r)
    (partly : rdataCovered r.rrType r.rdataTail = false)

theorem covered_or_divided (parsed : parseDnsPacketBytes input = some p)
    (counted : counts 1 1 0 0 p.header = true) : Covered rdataCovered input p ∨ Divided input := by
  obtain ⟨name, after, asked⟩ := accepted_walkQuestion parsed counted
  cases pointer : firstIsPointer after with
  | true => exact Or.inl (.pointedAnswer asked pointer)
  | false =>
    cases plain : parseQname 128 after with
    | none => exact Or.inr (.owner asked (endsInPointer_iff.mpr ⟨pointer, plain⟩))
    | some result =>
      obtain ⟨rr, first⟩ := accepted_answer_at parsed asked
      have owned := (parseRecordWith_eq_some_iff.mp first).owned
      have named := Option.some.inj ((parseQnameCompressed_of_plain plain).symm.trans owned)
      rw [named] at plain
      have walked : walkRecord after =
          some ⟨rr.name, (qtypeToU16 rr.rtype).toNat, rr.rdlen.toNat, rr.rdata ++ []⟩ :=
        walkRecord_eq_some_iff.mpr ⟨_, plain, walkFixedFields_recordFixedBytes rr _⟩
      cases covered : rdataCovered (qtypeToU16 rr.rtype).toNat (rr.rdata ++ []) with
      | true => exact Or.inl (.answer asked walked covered)
      | false => exact Or.inr (.rdata asked walked covered)

theorem Divided.header (parsed : parseDnsPacketBytes input = some p) (divided : Divided input) :
    counts 1 1 0 0 p.header = true := by
  cases divided with
  | owner asked => exact walkQuestion_header parsed asked
  | rdata asked => exact walkQuestion_header parsed asked

theorem Divided.not_covered (parsed : parseDnsPacketBytes input = some p) (divided : Divided input) :
    ¬ Covered rdataCovered input p := by
  have counted := counts_iff.mp (divided.header parsed)
  intro covered
  cases covered with
  | question other =>
    have := counts_iff.mp other
    omega
  | pointedAnswer asked' pointer =>
    cases divided with
    | owner asked partly =>
      cases (walkQuestion_unique asked asked').1
      rw [endsInPointer_of_pointer pointer] at partly
      cases partly
    | rdata asked walked =>
      cases (walkQuestion_unique asked asked').1
      obtain ⟨_, named, -⟩ := walkRecord_eq_some_iff.mp walked
      rw [firstIsPointer_of_plain named] at pointer
      cases pointer
  | answer asked' walked' whole =>
    cases divided with
    | owner asked partly =>
      cases (walkQuestion_unique asked asked').1
      obtain ⟨_, named, -⟩ := walkRecord_eq_some_iff.mp walked'
      rw [(endsInPointer_iff.mp partly).2] at named
      cases named
    | rdata asked walked partly =>
      cases (walkQuestion_unique asked asked').1
      cases Option.some.inj (walked.symm.trans walked')
      rw [whole] at partly
      cases partly
  | addresses other =>
    have := counts_iff.mp (walkQuestion_header parsed other)
    omega
  | opt other =>
    have := counts_iff.mp other
    omega
  | askedOpt other =>
    have := counts_iff.mp (walkQuestion_header parsed other)
    omega

theorem bare_header_not_covered (parsed : parseDnsPacketBytes input = some p)
    (bare : counts 0 0 0 0 p.header = true) : ¬ Covered rdataCovered input p := by
  have counted := counts_iff.mp bare
  intro covered
  cases covered with
  | question other => have := counts_iff.mp other; omega
  | pointedAnswer other => have := counts_iff.mp (walkQuestion_header parsed other); omega
  | answer other => have := counts_iff.mp (walkQuestion_header parsed other); omega
  | addresses other => have := counts_iff.mp (walkQuestion_header parsed other); omega
  | opt other => have := counts_iff.mp other; omega
  | askedOpt other => have := counts_iff.mp (walkQuestion_header parsed other); omega

end ReferenceOnly

/-- What the boundary drops although the reference parser accepts it is told by the counts, up to
two kinds that the classification leaves together: a bare header, and one question with one
answer in which a label stands before a pointer, where the boundary looks for it. -/
theorem reference_only_acceptance_exact (b : List UInt8) (p : DnsPacket) (parsed : parseDnsPacketBytes b = some p) :
    (classifyReferenceOnlyAcceptance b = none ↔ parseDnsPacketBytesAtBoundary b = some p) ∧
    (classifyReferenceOnlyAcceptance b = none ↔ Covered rdataCovered b p) ∧
    (classifyReferenceOnlyAcceptance b = some .otherAcceptedShape ↔
      counts 0 0 0 0 p.header = true ∨ Divided b) := by
  have applicable := applicable_iff_covered parsed
  have generated : parseDnsPacketBytesGenerated b = parseDnsPacketBytes b := rfl
  simp only [classifyReferenceOnlyAcceptance, parseDnsPacketBytesAtBoundary, generated, parsed]
  by_cases covered : Covered rdataCovered b p
  · simp only [applicable.mpr covered, if_true, covered, true_and, reduceCtorEq, false_iff, not_or]
    refine ⟨fun bare => bare_header_not_covered parsed bare covered, fun divided => ?_⟩
    exact divided.not_covered parsed covered
  · simp only [mt applicable.mp covered, Bool.false_eq_true, if_false, covered, iff_false, reduceCtorEq]
    refine ⟨?_, ?_, ?_⟩
    · split_ifs <;> simp
    · split_ifs <;> simp
    · constructor
      · intro other
        split_ifs at other with without questions answers authorities additionals
        case neg =>
          have single : counts 0 0 0 0 p.header = true ∨ counts 1 0 0 0 p.header = true ∨
              counts 1 1 0 0 p.header = true := by
            simp only [counts_iff]
            omega
          rcases single with bare | question | answer
          · exact Or.inl bare
          · exact absurd (.question question) covered
          · exact Or.inr ((covered_or_divided parsed answer).resolve_left covered)
        all_goals cases other
      · intro kinds
        have counted : p.header.qdcount.toNat = p.header.ancount.toNat ∧ p.header.qdcount.toNat ≤ 1 ∧
            p.header.nscount.toNat = 0 ∧ p.header.arcount.toNat = 0 := by
          rcases kinds with bare | divided
          · have := counts_iff.mp bare
            omega
          · have := counts_iff.mp (divided.header parsed)
            omega
        rw [if_neg (by omega), if_neg (by omega), if_neg (by omega), if_neg (by omega), if_neg (by omega)]

/-- The name server of `a.` is `m.a.`, with its second label behind a pointer to the question. -/
def nameServerResponse : List UInt8 :=
  [0, 0, 0x81, 0x80, 0, 1, 0, 1, 0, 0, 0, 0, 1, 97, 0, 0, 2, 0, 1, 1, 97, 0, 0, 2, 0, 1, 0, 0, 0, 60, 0, 4,
    1, 109, 0xC0, 0x0C]

theorem reference_only_acceptance_name_server :
    classifyReferenceOnlyAcceptance nameServerResponse = some .otherAcceptedShape ∧ Divided nameServerResponse := by
  obtain ⟨p, parsed⟩ : ∃ p, parseDnsPacketBytes nameServerResponse = some p :=
    Option.isSome_iff_exists.mp (by decide +kernel)
  have other : classifyReferenceOnlyAcceptance nameServerResponse = some .otherAcceptedShape := by decide +kernel
  obtain ⟨-, -, kinds⟩ := reference_only_acceptance_exact nameServerResponse p parsed
  refine ⟨other, (kinds.mp other).resolve_left fun bare => ?_⟩
  have asked : (parseDnsPacketBytes nameServerResponse).all (fun p => counts 1 1 0 0 p.header) = true := by
    decide +kernel
  rw [parsed] at asked
  have one := counts_iff.mp asked
  have none := counts_iff.mp bare
  omega

end Ism
