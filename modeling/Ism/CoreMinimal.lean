import Ism.CoreAnswer
import Ism.Responder

namespace Ism

open Lib

theorem chaseCname_error {root : TreeNode} {target : Qname} {hops : Nat} {rcode : Rcode}
    (failed : chaseCname root target hops = .error rcode) : rcode = .servFail ∨ rcode = .nxDomain := by
  induction hops generalizing target with
  | zero =>
    cases failed
    exact Or.inl rfl
  | succ hops ih =>
    rw [chaseCname] at failed
    split at failed
    · split at failed
      · cases failed
      · exact ih failed
      · cases failed
        exact Or.inl rfl
    · cases failed
      exact Or.inr rfl

/-- On the wire a failed resolution is never a NOERROR. -/
theorem resolveAuthoritativeRequest_rcode {root : TreeNode} {request : DnsPacket}
    (plain : rcodeToU4 (resolveAuthoritativeRequest root request).rcode = rcodeToU4 .noError) :
    ∃ records, resolveAuthoritativeRequest root request = .success records := by
  rw [resolveAuthoritativeRequest] at plain ⊢
  split at plain
  · cases plain
  · rename_i q _ asked
    rw [resolveAuthoritativeQuestion] at plain ⊢
    split at plain
    · rename_i records found
      exact ⟨_, rfl⟩
    · rename_i rcode failed
      rcases chaseCname_error failed with rfl | rfl <;> cases plain

section Nodata

variable {root : TreeNode} {m : List UInt8} {p : DnsPacket}

theorem serializeHeaderBytes_append_inj {h other : Header} {rest rest' : List UInt8}
    (same : serializeHeaderBytes h ++ rest = serializeHeaderBytes other ++ rest') : h = other := by
  have first : parseHeaderBytes (serializeHeaderBytes h ++ rest) = some (h, rest) :=
    parseHeaderBytes_eq_some_iff.mpr rfl
  exact (Prod.mk.inj (Option.some.inj (first.symm.trans (parseHeaderBytes_eq_some_iff.mpr same)))).1

/-- The header of an answer without records and without an error is that of the minimal response,
and no other answer has it. -/
theorem minimalResponseHeader_eq {bytes : List UInt8}
    (written : serializeDnsPacketBytes (resultResponse p (resolveAuthoritativeRequest root p)) = some bytes)
    (same : minimalResponseHeader p.header = (resultResponse p (resolveAuthoritativeRequest root p)).header) :
    resolveAuthoritativeRequest root p = .success [] := by
  have rcode : rcodeToU4 .noError = rcodeToU4 (resolveAuthoritativeRequest root p).rcode :=
    congrArg (fun h => h.flags.rcode) same
  obtain ⟨records, resolved⟩ := resolveAuthoritativeRequest_rcode rcode.symm
  have counted := serializeDnsPacketBytes_ancount written
  rw [← same, resolved] at counted
  have empty : records = [] := List.length_eq_zero_iff.mp counted.symm
  rw [resolved, empty]

theorem serializeMinimalResponseBytes_eq (parsed : parseDnsPacketBytes m = some p) :
    serializeMinimalResponseBytes p .noError = serializeDnsPacketBytes (resultResponse p (.success [])) := by
  have few := (parseDnsPacketBytes_questions parsed).1
  simp only [serializeMinimalResponseBytes, buildMinimalResponsePacket, if_neg (Nat.not_lt.mpr few)]
  rfl

/-- A zone without data for the question answers with the minimal response. -/
theorem serialize_of_nodata (parsed : parseDnsPacketBytes m = some p) (single : SingleQuestion p)
    (nodata : resolveAuthoritativeRequest root p = .success []) :
    serializeDnsPacketBytes (resultResponse p (resolveAuthoritativeRequest root p)) = some (minimalResponse m) := by
  obtain ⟨rest, -, -, -, -, packet⟩ := minimalResponse_of_singleQuestion parsed single
  rw [nodata, ← serializeMinimalResponseBytes_eq parsed, packet]

/-- The minimal response to one question is what a zone answers that has the name and no record
of the type, and only that. -/
theorem minimalResponse_eq_iff (parsed : parseDnsPacketBytes m = some p)
    (single : SingleQuestion p) {bytes : List UInt8}
    (written : serializeDnsPacketBytes (resultResponse p (resolveAuthoritativeRequest root p)) = some bytes)
    (out : List UInt8) :
    minimalResponse m ++ out.drop (minimalResponse m).length = bytes ++ out.drop bytes.length ↔
      resolveAuthoritativeRequest root p = .success [] := by
  obtain ⟨rest, -, -, -, minimal, -⟩ := minimalResponse_of_singleQuestion parsed single
  constructor
  · intro same
    refine minimalResponseHeader_eq written ?_
    have back := parseDnsPacketBytes_of_plain (serializeDnsPacketBytes_iff_plain.mp written)
    obtain ⟨later, _, _, _, header, -⟩ := parsePacketWith_eq_some_iff.mp back
    rw [minimal, parseHeaderBytes_eq_some_iff.mp header, List.append_assoc, List.append_assoc] at same
    exact serializeHeaderBytes_append_inj same
  · intro nodata
    rw [Option.some.inj (written.symm.trans (serialize_of_nodata parsed single nodata))]

/-- No answer is shorter than the minimal response: it repeats the question too. -/
theorem minimalResponse_length_le (parsed : parseDnsPacketBytes m = some p) (single : SingleQuestion p)
    {result : DnsResult} {bytes : List UInt8}
    (written : serializeDnsPacketBytes (resultResponse p result) = some bytes) :
    (minimalResponse m).length ≤ bytes.length := by
  obtain ⟨rest, -, -, -, -, packet⟩ := minimalResponse_of_singleQuestion parsed single
  rw [serializeMinimalResponseBytes_eq parsed] at packet
  have short := serializeDnsPacketBytes_length packet
  have long := serializeDnsPacketBytes_length written
  simp only [resultResponse, DnsResult.answers, List.map_nil, List.sum_nil] at short long
  omega

/-- The minimal responder on a single question that was received. -/
theorem Core.Carries.minimalResponse_eq {π β : Type} {slots : List π} {capacity : Nat}
    {core : Core π β} {spec : CoreSpec} (carries : Core.Carries slots capacity core spec)
    {check : Nat → List UInt8 → UInt8} (generated : ∀ n, Format.Validates
      (fun input => decide (check n input ≠ 0)) (Grammar.dnsUncompressedQuestion n))
    {out : List UInt8} {outCapacity : Nat} (fits : outCapacity ≤ out.length) {id : UInt64} (opened : id ∈ spec.ids)
    (whole : RequestOf (spec.received id) m) (parsed : parseDnsPacketBytes m = some p) (single : SingleQuestion p) :
    core.processReadyStreamForValidatedMinimalResponse out outCapacity id check =
      if m.length ≤ outCapacity then (m.length, minimalResponse m ++ out.drop m.length) else (0, out) := by
  obtain ⟨first, second⟩ := whole.2.2.id_zero
  obtain ⟨rest, reached⟩ := carries.processReadyStream_eq opened whole (fun _ scBuf requestLen =>
    prepareWorkerValidatedMinimalResponseSend check scBuf out outCapacity requestLen) (0, out)
  rw [Core.processReadyStreamForValidatedMinimalResponse, reached,
    prepareWorkerValidatedMinimalResponseSend_eq generated whole.2.2.2.2.1 first second fits,
    minimalResponse_length_of_singleQuestion parsed single]

end Nodata

/-- In every run of the core and for every zone, the responder that knows no zone and the worker that has
one leave the same octets behind for a single question exactly when the zone has no data for it, or nothing
shows: neither writes, or only the first one does and its response is in the buffer already. -/
theorem minimal_worker_agrees_iff {π β : Type} [DecidableEq π] [DecidableEq β] (check : GeneratedChecks)
    (correct : check.Correct) (questionCheck : Nat → List UInt8 → UInt8)
    (generated : ∀ n, Format.Validates (fun input => decide (questionCheck n input ≠ 0))
      (Grammar.dnsUncompressedQuestion n))
    (root : TreeNode) (heap : π → StreamContext β) (memory : β → List UInt8) (slots : List π) (capacity : Nat)
    (unique : slots.Nodup) (room : capacity ≤ slots.length) (small : slots.length < 2 ^ 32)
    (apart : ∀ p ∈ slots, ∀ q ∈ slots, (heap p).scBuf = (heap q).scBuf → p = q)
    (large : ∀ p ∈ slots, 65535 ≤ (memory (heap p).scBuf).length) (events : List CoreEvent)
    (out : List UInt8) (outCapacity : Nat) (fits : outCapacity ≤ out.length) (id : UInt64) (m : List UInt8)
    (p : DnsPacket) :
    let core := (Core.mk ⟨slots, 0, capacity⟩ heap memory).run events
    let spec := (CoreSpec.mk ∅ fun _ => []).run capacity events
    id ∈ spec.ids → RequestOf (spec.received id) m → parseDnsPacketBytes m = some p → SingleQuestion p →
    (core.processReadyStreamForValidatedMinimalResponse out outCapacity id questionCheck).1 =
      (if m.length ≤ outCapacity then m.length else 0) ∧
    ((core.processReadyStreamForValidatedMinimalResponse out outCapacity id questionCheck).2 =
        core.workerLoopWithRoot out outCapacity id check root ↔
      resolveAuthoritativeRequest root p = .success [] ∨ outCapacity < m.length ∨
        minimalResponse m <+: out ∧
          ∀ bytes, serializeDnsPacketBytes (resultResponse p (resolveAuthoritativeRequest root p)) = some bytes →
            outCapacity < bytes.length) := by
  intro core spec opened whole parsed single
  have carries : Core.Carries slots capacity core spec :=
    Core.Carries.run unique room small events (Core.Carries.start apart large capacity)
  have length := minimalResponse_length_of_singleQuestion parsed single
  have minimal := carries.minimalResponse_eq generated fits opened whole parsed single
  have answered := carries.workerLoopWithRoot_eq correct root fits opened whole parsed
    (.question (counts_iff.mpr single))
  have alone (exceeded : ∀ bytes, serializeDnsPacketBytes
      (resultResponse p (resolveAuthoritativeRequest root p)) = some bytes → outCapacity < bytes.length) :
      core.workerLoopWithRoot out outCapacity id check root = out := by
    rw [answered]
    split
    · rename_i bytes written
      exact if_neg (Nat.not_le.mpr (exceeded bytes written))
    · rfl
  rw [minimal, apply_ite Prod.fst, apply_ite Prod.snd]
  refine ⟨rfl, ?_⟩
  by_cases roomy : m.length ≤ outCapacity
  · have present : minimalResponse m ++ out.drop m.length = out ↔ minimalResponse m <+: out := by
      rw [← length]
      exact List.prefix_iff_eq_append.symm
    rw [if_pos roomy]
    by_cases exceeded : ∀ bytes, serializeDnsPacketBytes
        (resultResponse p (resolveAuthoritativeRequest root p)) = some bytes → outCapacity < bytes.length
    · have data : resolveAuthoritativeRequest root p ≠ .success [] := fun nodata =>
        absurd (exceeded _ (serialize_of_nodata parsed single nodata)) (by omega)
      rw [alone exceeded, present]
      exact ⟨fun held => Or.inr (Or.inr ⟨held, exceeded⟩), fun agrees =>
        ((agrees.resolve_left data).resolve_left (Nat.not_lt.mpr roomy)).1⟩
    · obtain ⟨bytes, written, enough⟩ : ∃ bytes, serializeDnsPacketBytes
          (resultResponse p (resolveAuthoritativeRequest root p)) = some bytes ∧ bytes.length ≤ outCapacity := by
        simpa using exceeded
      have equal := minimalResponse_eq_iff parsed single written out
      rw [length] at equal
      rw [written] at answered
      rw [answered.trans (if_pos enough), equal]
      exact ⟨Or.inl, fun agrees => agrees.resolve_right fun shows =>
        shows.elim (Nat.not_lt.mpr roomy) fun held => exceeded held.2⟩
  · -- An answer is at least as long as the minimal response, so that neither fits.
    have exceeded : ∀ bytes, serializeDnsPacketBytes
        (resultResponse p (resolveAuthoritativeRequest root p)) = some bytes → outCapacity < bytes.length := by
      intro bytes written
      have longer := minimalResponse_length_le parsed single written
      omega
    rw [if_neg roomy, alone exceeded]
    exact iff_of_true rfl (Or.inr (Or.inl (Nat.lt_of_not_le roomy)))

/-- A question for the long address of `b.`, which has only a short one. -/
def longAddressQuery : List UInt8 := [0, 0, 1, 0, 0, 1, 0, 0, 0, 0, 0, 0, 1, 98, 0, 0, 28, 0, 1]

theorem minimal_worker_agrees_long_address :
    let core := (Core.mk ⟨[0], 0, 1⟩ (fun p : Fin 1 => (⟨0, .done, p⟩ : StreamContext (Fin 1)))
      fun _ => List.replicate 65535 0).run
        [.allocateStream 4, .authenticatedStreamData 4 ⟨0 :: 19 :: longAddressQuery, true⟩]
    (core.processReadyStreamForValidatedMinimalResponse (List.replicate 512 7) 512 4 checkQuestion).2 =
      core.workerLoopWithRoot (List.replicate 512 7) 512 4 formatChecks starredZone := by
  intro core
  obtain ⟨p, parsed⟩ : ∃ p, parseDnsPacketBytes longAddressQuery = some p :=
    Option.isSome_iff_exists.mp (by decide +kernel)
  have decided : (parseDnsPacketBytes longAddressQuery).all (fun p => decide (SingleQuestion p ∧
      resolveAuthoritativeRequest starredZone p = .success [])) = true := by
    decide +kernel
  rw [parsed, Option.all_some, decide_eq_true_eq] at decided
  obtain ⟨single, nodata⟩ := decided
  have asked := minimal_worker_agrees_iff formatChecks formatChecks_correct checkQuestion
    checkQuestion_validates starredZone (fun p : Fin 1 => (⟨0, .done, p⟩ : StreamContext (Fin 1)))
    (fun _ => List.replicate 65535 0) [0] 1 (by decide) (by decide) (by decide) (fun p _ q _ same => same)
    (fun _ _ => Nat.le_of_eq List.length_replicate.symm)
    [.allocateStream 4, .authenticatedStreamData 4 ⟨0 :: 19 :: longAddressQuery, true⟩] (List.replicate 512 7) 512
    (Nat.le_of_eq List.length_replicate.symm) 4 longAddressQuery p (by decide)
    ⟨by decide, by decide, by decide, by decide, by decide⟩ parsed single
  exact asked.2.mpr (Or.inl nodata)

end Ism
