import Ism.CoreMinimal

namespace Ism

open Lib

/-- A response that consists of a header with a zero ID and no records. -/
def bareResponse (flags : DnsFlags) : DnsPacket where
  header := { id := 0, flags := flags, qdcount := 0, ancount := 0, nscount := 0, arcount := 0 }
  questions := []
  answers := []
  authorities := []
  additionals := []

section Bare

variable {q old responseBuffer : List UInt8} {responseCapacity : Nat}

theorem parse_bareResponse (flags : DnsFlags) :
    parseDnsPacketBytes (serializeHeaderBytes (bareResponse flags).header) = some (bareResponse flags) := by
  have header : parseHeaderBytes (serializeHeaderBytes (bareResponse flags).header) =
      some ((bareResponse flags).header, []) := parseHeaderBytes_eq_some_iff.mpr (List.append_nil _).symm
  exact parsePacketWith_eq_some_iff.mpr ⟨[], [], [], [], header, rfl, rfl, rfl, rfl⟩

/-- No production boundary has a place for a message without any record. -/
theorem bareResponse_refused (flags : DnsFlags) :
    parseDnsPacketBytesAtBoundary (serializeHeaderBytes (bareResponse flags).header) = none := by
  rw [Option.eq_none_iff_forall_ne_some]
  intro p accepted
  obtain ⟨parsed, covered⟩ := parseDnsPacketBytesAtBoundary_iff_covered.mp accepted
  obtain rfl := Option.some.inj (parsed.symm.trans (parse_bareResponse flags))
  exact bare_header_not_covered parsed rfl covered

theorem formErrResponse_eq (idHi : q.getD 0 0 = 0) (idLo : q.getD 1 0 = 0) :
    formErrResponse q = serializeHeaderBytes (bareResponse (uint16ToFlags 0x8101)).header := by
  rw [formErrResponse, idHi, idLo, serializeHeaderBytes]
  simp only [bareResponse, flagsToU16_uint16ToFlags]
  rfl

theorem serializeHeaderBytes_bareResponse (flags : DnsFlags) :
    serializeHeaderBytes (bareResponse flags).header =
      [0, 0, u16Hi (flagsToU16 flags), u16Lo (flagsToU16 flags), 0, 0, 0, 0, 0, 0, 0, 0] := by
  have zero : u16Hi 0 = 0 ∧ u16Lo 0 = 0 := by decide
  simp only [serializeHeaderBytes, bareResponse, zero]

theorem prepareWorkerEmptyNoerrorResponseSend_eq {h : Header} {rest : List UInt8}
    (whole : q = serializeHeaderBytes h ++ rest) (idHi : q.getD 0 0 = 0) (idLo : q.getD 1 0 = 0)
    (room : 12 ≤ responseCapacity) (fits : responseCapacity ≤ responseBuffer.length) :
    prepareWorkerEmptyNoerrorResponseSend (q ++ old) responseBuffer responseCapacity q.length =
      (12, serializeHeaderBytes (bareResponse (responseFlagsFromRequest h .noError)).header ++
        responseBuffer.drop 12) := by
  have width : q.length = 12 + rest.length := by
    rw [whole, List.length_append]
    rfl
  obtain ⟨b0, b1, b2, b3, b4, b5, b6, b7, b8, b9, b10, b11, tail, rfl⟩ :=
    exists_twelve_octets (q := responseBuffer) (by omega)
  subst whole
  have first : u16Hi h.id = 0 := idHi
  have second : u16Lo h.id = 0 := idLo
  rw [prepareWorkerEmptyNoerrorResponseSend, if_neg (by omega), serializeHeaderBytes_bareResponse,
    u16Hi_responseFlags, u16Lo_responseFlags, ← first]
  simp only [upd, List.foldl_cons, List.foldl_nil, List.set_cons_zero, List.set_cons_succ]
  change (12, u16Hi h.id :: u16Lo h.id :: _) = _
  rw [second, first]
  rfl

end Bare

/-- What the two responders answer that write no more than a header is a message, and one
that no boundary of this server lets through. -/
theorem core_header_only_responses {π β : Type} [DecidableEq π] [DecidableEq β] (heap : π → StreamContext β)
    (memory : β → List UInt8) (slots : List π) (capacity : Nat) (unique : slots.Nodup) (room : capacity ≤ slots.length)
    (small : slots.length < 2 ^ 32) (apart : ∀ p ∈ slots, ∀ q ∈ slots, (heap p).scBuf = (heap q).scBuf → p = q)
    (large : ∀ p ∈ slots, 65535 ≤ (memory (heap p).scBuf).length) (events : List CoreEvent)
    (out : List UInt8) (outCapacity : Nat) (fits : outCapacity ≤ out.length) (id : UInt64) :
    let core := (Core.mk ⟨slots, 0, capacity⟩ heap memory).run events
    let spec := (CoreSpec.mk ∅ fun _ => []).run capacity events
    (∀ m, id ∈ spec.ids → RequestOf (spec.received id) m → 12 ≤ outCapacity → ∃ h rest error empty,
      parseHeaderBytes m = some (h, rest) ∧
      core.processReadyStreamForResponse out outCapacity id = (12, error ++ out.drop 12) ∧
      parseDnsPacketBytes error = some (bareResponse (uint16ToFlags 0x8101)) ∧
      parseDnsPacketBytesAtBoundary error = none ∧
      core.processReadyStreamForEmptyResponse out outCapacity id = (12, empty ++ out.drop 12) ∧
      parseDnsPacketBytes empty = some (bareResponse (responseFlagsFromRequest h .noError)) ∧
      parseDnsPacketBytesAtBoundary empty = none) ∧
    (((∀ m, ¬ (id ∈ spec.ids ∧ RequestOf (spec.received id) m)) ∨ outCapacity < 12) →
      core.processReadyStreamForResponse out outCapacity id = (0, out) ∧
      core.processReadyStreamForEmptyResponse out outCapacity id = (0, out)) := by
  intro core spec
  have carries : Core.Carries slots capacity core spec :=
    Core.Carries.run unique room small events (Core.Carries.start apart large capacity)
  rw [Core.processReadyStreamForResponse, Core.processReadyStreamForEmptyResponse]
  constructor
  · intro m opened whole enough
    obtain ⟨first, second⟩ := whole.2.2.id_zero
    have long : 12 ≤ m.length := whole.2.2.2.2.1
    obtain ⟨h, rest, headed⟩ := exists_header long
    refine ⟨h, rest, _, _, parseHeaderBytes_eq_some_iff.mpr headed, ?_, parse_bareResponse _, bareResponse_refused _,
      ?_, parse_bareResponse _, bareResponse_refused _⟩
    · obtain ⟨old, reached⟩ := carries.processReadyStream_eq opened whole (fun _ scBuf requestLen =>
        prepareWorkerMinimalErrorResponseSend scBuf out outCapacity requestLen) (0, out)
      rw [reached, prepareWorkerMinimalErrorResponseSend_eq long enough fits, formErrResponse_eq first second]
    · obtain ⟨old, reached⟩ := carries.processReadyStream_eq opened whole (fun _ scBuf requestLen =>
        prepareWorkerEmptyNoerrorResponseSend scBuf out outCapacity requestLen) (0, out)
      rw [reached, prepareWorkerEmptyNoerrorResponseSend_eq headed first second enough fits]
  · intro without
    have nothing (worker : UInt64 → List UInt8 → Nat → Nat × List UInt8)
        (narrow : outCapacity < 12 → ∀ scBuf requestLen, worker id scBuf requestLen = (0, out)) :
        core.processReadyStream worker (0, out) id = (0, out) := by
      rcases carries.processReadyStream_cases worker (0, out) id with ⟨m, rest, opened, whole, reached⟩ | ⟨-, unreached⟩
      · have little := without.resolve_left fun never => never m ⟨opened, whole⟩
        rw [reached, narrow little]
      · exact unreached
    exact ⟨nothing _ fun little _ _ => if_pos (Or.inr little), nothing _ fun little _ _ => if_pos (Or.inr little)⟩

/-- The question of `splitQuestion` after the stream beside it was given up. -/
theorem core_header_only_responses_split :
    ∃ empty, (((Core.mk ⟨[0, 1], 0, 2⟩ (fun p : Fin 2 => (⟨0, .done, p⟩ : StreamContext (Fin 2)))
        fun _ => List.replicate 65535 0).run splitQuestion).processReadyStreamForEmptyResponse
          (List.replicate 16 7) 16 4).2 = empty ++ [7, 7, 7, 7] ∧
      parseDnsPacketBytesAtBoundary empty = none := by
  obtain ⟨_, _, _, empty, -, -, -, -, answered, -, refused⟩ := (core_header_only_responses
    (fun p : Fin 2 => (⟨0, .done, p⟩ : StreamContext (Fin 2))) (fun _ => List.replicate 65535 0) [0, 1] 2 (by decide)
    (by decide) (by decide) (fun p _ q _ same => same) (fun _ _ => Nat.le_of_eq List.length_replicate.symm)
    splitQuestion (List.replicate 16 7) 16 (by decide) 4).1
    [0, 0, 1, 0, 0, 1, 0, 0, 0, 0, 0, 0, 1, 98, 0, 0, 1, 0, 1] (by decide)
    ⟨by decide, by decide, by decide, by decide, by decide⟩ (by decide)
  exact ⟨empty, congrArg Prod.snd answered, refused⟩

end Ism
