import Ism.HeaderOnly
import Ism.Isolation
import Ism.Reencoding

namespace Ism

open Lib

/-- What a server that knows no zone has to say to a message. -/
def minimalAnswer (m : List UInt8) : DnsPacket :=
  match parseDnsPacketBytes m with
  | some p => if SingleQuestion p then resultResponse p (.success []) else bareResponse (uint16ToFlags 0x8101)
  | none => bareResponse (uint16ToFlags 0x8101)

section Answer

variable {m : List UInt8} {p : DnsPacket}

theorem minimalAnswer_of_singleQuestion (parsed : parseDnsPacketBytes m = some p) (single : SingleQuestion p) :
    minimalAnswer m = resultResponse p (.success []) := by
  rw [minimalAnswer, parsed]
  exact if_pos single

theorem minimalAnswer_of_not_singleQuestion (other : ¬ ∃ p, parseDnsPacketBytes m = some p ∧ SingleQuestion p) :
    minimalAnswer m = bareResponse (uint16ToFlags 0x8101) := by
  rw [minimalAnswer]
  split
  · rename_i p parsed
    exact if_neg fun single => other ⟨p, parsed, single⟩
  · rfl

theorem parse_minimalResponse (idHi : m.getD 0 0 = 0) (idLo : m.getD 1 0 = 0) :
    parseDnsPacketBytes (minimalResponse m) = some (minimalAnswer m) := by
  by_cases asked : ∃ p, parseDnsPacketBytes m = some p ∧ SingleQuestion p
  · obtain ⟨p, parsed, single⟩ := asked
    obtain ⟨-, -, -, -, -, written⟩ := minimalResponse_of_singleQuestion parsed single
    rw [serializeMinimalResponseBytes_eq parsed] at written
    rw [minimalAnswer_of_singleQuestion parsed single]
    exact parseDnsPacketBytes_of_plain (serializeDnsPacketBytes_iff_plain.mp written)
  · rw [minimalAnswer_of_not_singleQuestion asked, minimalResponse_of_not_singleQuestion asked,
      formErrResponse_eq idHi idLo]
    exact parse_bareResponse _

/-- The production boundary takes the answer to a question, but no format error. -/
theorem minimalResponse_at_boundary (idHi : m.getD 0 0 = 0) (idLo : m.getD 1 0 = 0) :
    (parseDnsPacketBytesAtBoundary (minimalResponse m)).isSome = true ↔
      ∃ p, parseDnsPacketBytes m = some p ∧ SingleQuestion p := by
  have parsed := parse_minimalResponse idHi idLo
  by_cases asked : ∃ p, parseDnsPacketBytes m = some p ∧ SingleQuestion p
  · refine iff_of_true ?_ asked
    obtain ⟨p, read, single⟩ := asked
    have few : p.questions.length = 1 := (accepted_counts read).1.symm.trans single.1
    have counted : SingleQuestion (minimalAnswer m) := by
      rw [minimalAnswer_of_singleQuestion read single]
      refine ⟨?_, rfl, rfl, rfl⟩
      simp only [resultResponse, few]
      rfl
    rw [parseDnsPacketBytesAtBoundary_iff_covered.mpr ⟨parsed, .question (counts_iff.mpr counted)⟩]
    rfl
  · refine iff_of_false ?_ asked
    rw [minimalResponse_of_not_singleQuestion asked, formErrResponse_eq idHi idLo, bareResponse_refused]
    exact Bool.false_ne_true

theorem minimalAnswer_id (idHi : m.getD 0 0 = 0) (idLo : m.getD 1 0 = 0) :
    u16Hi (minimalAnswer m).header.id = 0 ∧ u16Lo (minimalAnswer m).header.id = 0 := by
  by_cases asked : ∃ p, parseDnsPacketBytes m = some p ∧ SingleQuestion p
  · obtain ⟨p, parsed, single⟩ := asked
    obtain ⟨rest, whole, -⟩ := minimalResponse_of_singleQuestion parsed single
    rw [minimalAnswer_of_singleQuestion parsed single]
    rw [whole] at idHi idLo
    exact ⟨idHi, idLo⟩
  · rw [minimalAnswer_of_not_singleQuestion asked]
    exact ⟨rfl, rfl⟩

/-- The framed answer is a message of the protocol itself. -/
theorem completeRequest_minimalResponse (idHi : m.getD 0 0 = 0) (idLo : m.getD 1 0 = 0) :
    CompleteRequest (be16 (minimalResponse m).length ++ minimalResponse m) (minimalResponse m).length
      (minimalResponse m) := by
  obtain ⟨rest, _, _, _, header, -⟩ := parsePacketWith_eq_some_iff.mp (parse_minimalResponse idHi idLo)
  have whole := parseHeaderBytes_eq_some_iff.mp header
  obtain ⟨first, second⟩ := minimalAnswer_id idHi idLo
  refine ⟨rfl, rfl, ?_, ?_, ?_⟩
  · rw [whole, List.length_append]
    exact Nat.le_add_right 12 rest.length
  · rw [whole]
    exact congrArg some first
  · rw [whole]
    exact congrArg some second

/-- A receiver with the same stream code ends with the answer in front of its buffer. -/
theorem ingest_minimalResponse {β : Type} (idHi : m.getD 0 0 = 0) (idLo : m.getD 1 0 = 0)
    (short : (minimalResponse m).length < 65536) {ctx : StreamContext β} (fresh : ctx.scPhase = .readingLength)
    {memory : List UInt8} (room : 65535 ≤ memory.length) {fragments : List StreamFragment}
    (whole : splitAtFin fragments = (be16 (minimalResponse m).length ++ minimalResponse m, some [])) :
    (ingest ctx memory fragments).1.scPhase = .processing ⟨(minimalResponse m).length, short⟩ ∧
      (ingest ctx memory fragments).2.take (minimalResponse m).length = minimalResponse m := by
  have asked : RequestOf fragments (minimalResponse m) := by
    refine ⟨short, ?_, ?_⟩
    · rw [whole]
    · rw [whole]
      exact completeRequest_minimalResponse idHi idLo
  obtain ⟨ingested, -⟩ := Ingested.ingest fresh room fragments
  exact ⟨ingested.processing_iff.mpr ⟨minimalResponse m, rfl, asked⟩,
    (List.prefix_iff_eq_take.mp (ingested.held asked)).symm⟩

end Answer

/-- As long as no stream starts under an ID in use, what is put on a stream is read back by a receiver
with the same stream code, in whatever fragments it arrives, as the answer to the request of that
stream. Where the answer is a format error, the receiver's production boundary refuses it. -/
theorem sent_answers_read_back {n : Nat} (β : Type) (check : Nat → List UInt8 → UInt8)
    (generated : ∀ n, Format.Validates (fun input => decide (check n input ≠ 0)) (Grammar.dnsUncompressedQuestion n))
    (accepts : List (Interaction n) → Bool) (configuration : Handle) (responseBuffer sendBuffer : Option (List UInt8))
    (responseCapacity sendCapacity : Nat) (responseRoom : ∀ b ∈ responseBuffer, responseCapacity ≤ b.length)
    (sendRoom : ∀ b ∈ sendBuffer, sendCapacity ≤ b.length) (events : Option (List ShellEvent)) (capacity : Nat)
    (small : capacity < 2 ^ 32) (room : ∀ stored ∈ events, capacity ≤ stored.length)
    (ingressCapacities : Fin n → Nat) (callbacks : List (Callback n)) :
    let start := ConnectionRuntime.init configuration
      (Adapter.init responseBuffer responseCapacity sendBuffer sendCapacity) (EventQueue.init events capacity)
      ingressCapacities
    Guarded (fun w callback => w.step check accepts callback)
      (fun w callback => w.NamedStream callback ∧ w.UnusedId callback) start callbacks →
    ∀ stream slot data fin accepted deliveries,
      .streamSend stream slot data fin accepted deliveries ∈ (start.run check accepts callbacks).transport.transcript →
      fin = true ∧ (∀ delivery ∈ deliveries, delivery.source = stream) ∧ ∃ m, Requests deliveries m ∧
      ∀ (ctx : StreamContext β) (memory : List UInt8) (fragments : List StreamFragment),
        ctx.scPhase = .readingLength → 65535 ≤ memory.length → splitAtFin fragments = (data, some []) →
        let received := ingest ctx memory fragments
        ∃ k : MessageLength, received.1.scPhase = .processing k ∧
          parseDnsPacketBytes (received.2.take k) = some (minimalAnswer m) ∧
          ((parseDnsPacketBytesAtBoundary (received.2.take k)).isSome = true ↔
            ∃ p, parseDnsPacketBytes m = some p ∧ SingleQuestion p) := by
  intro start guarded stream slot data fin accepted deliveries sent
  have sound : start.Sound := ConnectionRuntime.init_sound (Adapter.init_valid responseRoom sendRoom)
    (EventQueue.init_idle small room) configuration ingressCapacities
  have isolated : start.Sound ∧ Isolation start.adapter start.transport :=
    ⟨sound, init_isolation configuration (EventQueue.init events capacity) ingressCapacities⟩
  have keeps : ∀ (w : ConnectionRuntime n) callback, w.Sound ∧ Isolation w.adapter w.transport →
      w.NamedStream callback ∧ w.UnusedId callback → (w.step check accepts callback).Sound ∧
        Isolation (w.step check accepts callback).adapter (w.step check accepts callback).transport := by
    rintro w callback ⟨before, iso⟩ ⟨named, unused⟩
    exact ⟨before.step named.fresh, iso.step generated before named unused⟩
  obtain ⟨ended, own, m, asked, short, rfl⟩ := (guarded.invariant keeps isolated).2.answered _ sent
  refine ⟨ended, own, m, asked, fun ctx memory fragments fresh large whole => ?_⟩
  obtain ⟨-, _, _, _, -, -, complete⟩ := asked
  obtain ⟨first, second⟩ := complete.id_zero
  obtain ⟨ready, held⟩ := ingest_minimalResponse first second short fresh large whole
  refine ⟨⟨(minimalResponse m).length, short⟩, ready, ?_, ?_⟩
  · rw [held]
    exact parse_minimalResponse first second
  · rw [held]
    exact minimalResponse_at_boundary first second

/-- The answer on the second of two connections, which arrives in two pieces. -/
theorem sent_answers_read_back_pieces :
    let received := ingest (StreamContext.mk 0 .readingLength ()) (List.replicate 65535 7)
      [⟨[0], false⟩, ⟨19 :: minimalResponse addressQuery, true⟩]
    ∃ k : MessageLength, received.1.scPhase = .processing k ∧
      (parseDnsPacketBytes (received.2.take k)).isSome = true := by
  intro received
  obtain ⟨-, -, m, -, read⟩ := sent_answers_read_back Unit checkQuestion checkQuestion_validates (fun _ => true)
    9 (some (List.replicate 64 255)) (some (List.replicate 64 7)) 64 64 (by simp) (by simp) (some [.readyResponse 0]) 1
    (by decide) (by simp) (fun _ => 4096) (twoConnections 4) (by decide +kernel) 12 1
    (be16 19 ++ minimalResponse addressQuery) true true [.bytes 12 (0 :: 19 :: addressQuery), .fin 12]
    (by decide +kernel)
  obtain ⟨k, ready, parsed, -⟩ := read (StreamContext.mk 0 .readingLength ()) (List.replicate 65535 7)
    [⟨[0], false⟩, ⟨19 :: minimalResponse addressQuery, true⟩] rfl (Nat.le_of_eq List.length_replicate.symm)
    (by decide +kernel)
  exact ⟨k, ready, by rw [parsed]; rfl⟩

end Ism
