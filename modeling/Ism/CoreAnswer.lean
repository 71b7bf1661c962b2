import Ism.Authority
import Ism.BoundaryLanguage
import Ism.CoreRun

namespace Ism

open Lib

theorem copyResponseBytesToBuffer_eq {bytes out : List UInt8} {pos : Nat} (fits : pos + bytes.length ≤ out.length) :
    copyResponseBytesToBuffer bytes out pos = out.take pos ++ bytes ++ out.drop (pos + bytes.length) := by
  induction bytes generalizing out pos with
  | nil => simp [copyResponseBytesToBuffer]
  | cons byte rest ih =>
    rw [List.length_cons] at fits
    have inside : pos < out.length := by omega
    have front : (out.set pos byte).take (pos + 1) = out.take pos ++ [byte] := by
      rw [List.take_add_one, List.take_set_of_le (Nat.le_refl pos), List.getElem?_set_self inside, Option.toList_some]
    rw [copyResponseBytesToBuffer, ih (by rw [List.length_set]; omega), front, List.drop_set_of_lt (by omega)]
    simp only [List.append_assoc, List.cons_append, List.nil_append, List.length_cons]
    congr 4
    omega

theorem serializeDnsPacketBytes_ancount {p : DnsPacket} {bytes : List UInt8}
    (written : serializeDnsPacketBytes p = some bytes) : p.header.ancount.toNat = p.answers.length := by
  have counts := (serializeDnsPacketBytes_eq_some_iff.mp written).1
  simp only [headerCountsMatch, Bool.and_eq_true, decide_eq_true_eq] at counts
  exact counts.1.1.2

/-- What the worker writes is the serialized answer, if there is one: more records than a header can
count are not serialized either. -/
theorem buildWorkerResponseBytes_eq_serialize (root : TreeNode) {m : List UInt8} {request : DnsPacket}
    (parsed : parseDnsPacketBytes m = some request) : buildWorkerResponseBytes root request =
      serializeDnsPacketBytes (resultResponse request (resolveAuthoritativeRequest root request)) := by
  have few := (parseDnsPacketBytes_questions parsed).1
  rw [buildWorkerResponseBytes, buildAuthoritativeResponsePacket, buildResultResponsePacket_eq]
  by_cases many : 65535 < (resolveAuthoritativeRequest root request).answers.length
  · rw [if_pos (Or.inr many)]
    refine (Option.eq_none_iff_forall_ne_some.mpr fun bytes written => ?_).symm
    have counted := serializeDnsPacketBytes_ancount written
    have narrow := (resultResponse request (resolveAuthoritativeRequest root request)).header.ancount.toNat_lt
    rw [counted] at narrow
    exact absurd narrow (Nat.not_lt.mpr many)
  · rw [if_neg (by omega)]

theorem serialize_resultResponse {root : TreeNode} (every : root.Every Servable) {m : List UInt8}
    {request : DnsPacket} (parsed : parseDnsPacketBytes m = some request) :
    ∃ bytes, serializeDnsPacketBytes (resultResponse request (resolveAuthoritativeRequest root request)) = some bytes ∧
      parseDnsPacketBytes bytes = some (resultResponse request (resolveAuthoritativeRequest root request)) := by
  obtain ⟨few, asked⟩ := parseDnsPacketBytes_questions parsed
  have counts := (every.resolve request).1
  obtain ⟨response, built, encodable, -⟩ := buildResultResponsePacket_encodable few asked (every.resolve request)
  rw [buildResultResponsePacket_eq, if_neg (by omega)] at built
  obtain rfl := Option.some.inj built
  obtain ⟨bytes, written⟩ := Option.isSome_iff_exists.mp ((serializeDnsPacketBytes_isSome_iff _).mpr encodable)
  exact ⟨bytes, written, parseDnsPacketBytes_of_plain (serializeDnsPacketBytes_iff_plain.mp written)⟩

/-- A request that the worker is to answer: all of it was received on an open stream, and the
boundary lets it through. -/
structure Asks (spec : CoreSpec) (id : UInt64) (request : DnsPacket) : Prop where
  opened : id ∈ spec.ids
  received : ∃ m, RequestOf (spec.received id) m ∧ parseDnsPacketBytes m = some request ∧
    Covered rdataInOnePiece m request

section Answer

variable {check : GeneratedChecks} {root : TreeNode}

theorem workerSend_eq (root : TreeNode) (correct : check.Correct) {m rest out : List UInt8} {outCapacity : Nat}
    (fits : outCapacity ≤ out.length) (id : UInt64) {request : DnsPacket}
    (parsed : parseDnsPacketBytes m = some request) (covered : Covered rdataInOnePiece m request) :
    prepareWorkerResponseSend check root id (m ++ rest) out outCapacity m.length =
      match serializeDnsPacketBytes (resultResponse request (resolveAuthoritativeRequest root request)) with
      | some bytes =>
        if bytes.length ≤ outCapacity then (some ⟨id, bytes.length, true⟩, bytes ++ out.drop bytes.length)
        else (none, out)
      | none => (none, out) := by
  have accepted := (parseDnsPacketBuffer_iff_covered correct (List.prefix_append m rest)).mpr ⟨parsed, covered⟩
  simp only [prepareWorkerResponseSend, buildWorkerResponseBytesFromBuffer, accepted,
    buildWorkerResponseBytes_eq_serialize root parsed]
  cases serializeDnsPacketBytes (resultResponse request (resolveAuthoritativeRequest root request)) with
  | none => rfl
  | some bytes =>
    simp only
    split_ifs with enough
    · rw [copyResponseBytesToBuffer_eq (by omega)]
      simp [prepareResponseSend]
    · rfl

theorem workerSend_refused (correct : check.Correct) {m rest out : List UInt8} (outCapacity : Nat) (id : UInt64)
    (refused : ∀ request, ¬ (parseDnsPacketBytes m = some request ∧ Covered rdataInOnePiece m request)) :
    prepareWorkerResponseSend check root id (m ++ rest) out outCapacity m.length = (none, out) := by
  have dropped : parseDnsPacketBuffer check (m ++ rest) m.length = none := by
    rw [Option.eq_none_iff_forall_ne_some]
    exact fun request accepted =>
      refused request ((parseDnsPacketBuffer_iff_covered correct (List.prefix_append m rest)).mp accepted)
  simp only [prepareWorkerResponseSend, buildWorkerResponseBytesFromBuffer, dropped]

variable {π β : Type} {slots : List π} {capacity : Nat} {core : Core π β} {spec : CoreSpec} {out : List UInt8}
  {outCapacity : Nat} {id : UInt64}

/-- The worker on a request that was received and that the boundary lets through. -/
theorem Core.Carries.workerLoopWithRoot_eq (carries : Core.Carries slots capacity core spec) (correct : check.Correct)
    (root : TreeNode) (fits : outCapacity ≤ out.length) (opened : id ∈ spec.ids) {m : List UInt8}
    (whole : RequestOf (spec.received id) m) {request : DnsPacket} (parsed : parseDnsPacketBytes m = some request)
    (covered : Covered rdataInOnePiece m request) :
    core.workerLoopWithRoot out outCapacity id check root =
      match serializeDnsPacketBytes (resultResponse request (resolveAuthoritativeRequest root request)) with
      | some bytes => if bytes.length ≤ outCapacity then bytes ++ out.drop bytes.length else out
      | none => out := by
  obtain ⟨rest, reached⟩ := carries.processReadyStream_eq opened whole (fun scId scBuf requestLen =>
    (prepareWorkerResponseSend check root scId scBuf out outCapacity requestLen).2) out
  rw [Core.workerLoopWithRoot, reached, workerSend_eq root correct fits id parsed covered]
  cases serializeDnsPacketBytes (resultResponse request (resolveAuthoritativeRequest root request)) with
  | none => rfl
  | some bytes => exact apply_ite Prod.snd ..

theorem Core.Carries.workerLoopWithRoot_unasked (carries : Core.Carries slots capacity core spec)
    (correct : check.Correct) (root : TreeNode) (out : List UInt8) (outCapacity : Nat)
    (unasked : ∀ request, ¬ Asks spec id request) : core.workerLoopWithRoot out outCapacity id check root = out := by
  rcases carries.processReadyStream_cases (fun scId scBuf requestLen =>
      (prepareWorkerResponseSend check root scId scBuf out outCapacity requestLen).2) out id with
    ⟨m, rest, opened, whole, reached⟩ | ⟨-, unreached⟩
  · rw [Core.workerLoopWithRoot, reached, workerSend_refused correct]
    exact fun request accepted => unasked request ⟨opened, m, whole, accepted⟩
  · exact unreached

theorem Core.Carries.answers (carries : Core.Carries slots capacity core spec) (correct : check.Correct)
    (every : root.Every Servable) (fits : outCapacity ≤ out.length) (id : UInt64) :
    (∀ request, Asks spec id request → ∃ bytes,
      serializeDnsPacketBytes (resultResponse request (resolveAuthoritativeRequest root request)) = some bytes ∧
      parseDnsPacketBytes bytes = some (resultResponse request (resolveAuthoritativeRequest root request)) ∧
      core.workerLoopWithRoot out outCapacity id check root =
        if bytes.length ≤ outCapacity then bytes ++ out.drop bytes.length else out) ∧
    ((∀ request, ¬ Asks spec id request) → core.workerLoopWithRoot out outCapacity id check root = out) := by
  refine ⟨?_, carries.workerLoopWithRoot_unasked correct root out outCapacity⟩
  rintro request ⟨opened, m, whole, parsed, covered⟩
  obtain ⟨bytes, written, back⟩ := serialize_resultResponse every parsed
  refine ⟨bytes, written, back, ?_⟩
  rw [carries.workerLoopWithRoot_eq correct root fits opened whole parsed covered, written]

end Answer

/-- Whatever streams are opened, fed, finished and reset, and in whatever order, the worker
writes into its response buffer exactly what the zone says to the request that was received
on its stream; without such a request, or without room for the answer, it writes nothing. -/
theorem core_answers_what_was_asked {π β : Type} [DecidableEq π] [DecidableEq β] (check : GeneratedChecks)
    (correct : check.Correct) (root : TreeNode) (every : root.Every Servable) (heap : π → StreamContext β)
    (memory : β → List UInt8) (slots : List π) (capacity : Nat) (unique : slots.Nodup) (room : capacity ≤ slots.length)
    (small : slots.length < 2 ^ 32) (apart : ∀ p ∈ slots, ∀ q ∈ slots, (heap p).scBuf = (heap q).scBuf → p = q)
    (large : ∀ p ∈ slots, 65535 ≤ (memory (heap p).scBuf).length) (events : List CoreEvent)
    (out : List UInt8) (outCapacity : Nat) (fits : outCapacity ≤ out.length) (id : UInt64) :
    let core := (Core.mk ⟨slots, 0, capacity⟩ heap memory).run events
    let spec := (CoreSpec.mk ∅ fun _ => []).run capacity events
    (∀ request, Asks spec id request → ∃ bytes,
      serializeDnsPacketBytes (resultResponse request (resolveAuthoritativeRequest root request)) = some bytes ∧
      parseDnsPacketBytes bytes = some (resultResponse request (resolveAuthoritativeRequest root request)) ∧
      core.workerLoopWithRoot out outCapacity id check root =
        if bytes.length ≤ outCapacity then bytes ++ out.drop bytes.length else out) ∧
    ((∀ request, ¬ Asks spec id request) → core.workerLoopWithRoot out outCapacity id check root = out) := by
  intro core spec
  have carries : Core.Carries slots capacity core spec :=
    Core.Carries.run unique room small events (Core.Carries.start apart large capacity)
  exact carries.answers correct every fits id

/-- A question for `b.` in two pieces, with a stream that is given up in between. -/
def splitQuestion : List CoreEvent :=
  [.allocateStream 4, .allocateStream 8, .authenticatedStreamData 4 ⟨[0, 19, 0, 0, 1, 0, 0, 1, 0, 0], false⟩,
    .authenticatedStreamData 8 ⟨[0, 12, 7], false⟩, .streamReset 8,
    .authenticatedStreamData 4 ⟨[0, 0, 0, 0, 1, 98, 0, 0, 1, 0, 1], true⟩]

theorem core_answers_what_was_asked_split :
    ∃ request bytes, Asks ((CoreSpec.mk ∅ fun _ => []).run 2 splitQuestion) 4 request ∧
      parseDnsPacketBytes bytes = some (resultResponse request (resolveAuthoritativeRequest starredZone request)) ∧
      ((Core.mk ⟨[0, 1], 0, 2⟩ (fun p : Fin 2 => (⟨0, .done, p⟩ : StreamContext (Fin 2)))
        fun _ => List.replicate 65535 0).run splitQuestion).workerLoopWithRoot (List.replicate 512 0) 512 4
          formatChecks starredZone =
        if bytes.length ≤ 512 then bytes ++ (List.replicate 512 0).drop bytes.length else List.replicate 512 0 := by
  obtain ⟨request, parsed⟩ : ∃ request,
      parseDnsPacketBytes [0, 0, 1, 0, 0, 1, 0, 0, 0, 0, 0, 0, 1, 98, 0, 0, 1, 0, 1] = some request :=
    Option.isSome_iff_exists.mp (by decide +kernel)
  have counted : counts 1 0 0 0 request.header = true := by
    have decided : (parseDnsPacketBytes [0, 0, 1, 0, 0, 1, 0, 0, 0, 0, 0, 0, 1, 98, 0, 0, 1, 0, 1]).all
        (fun request => counts 1 0 0 0 request.header) = true := by
      decide +kernel
    rw [parsed] at decided
    exact decided
  have asks : Asks ((CoreSpec.mk ∅ fun _ => []).run 2 splitQuestion) 4 request :=
    ⟨by decide, _, ⟨by decide, by decide, by decide, by decide, by decide⟩, parsed, .question counted⟩
  obtain ⟨bytes, -, back, answered⟩ := (core_answers_what_was_asked formatChecks formatChecks_correct starredZone
    starredZone_every (fun p : Fin 2 => (⟨0, .done, p⟩ : StreamContext (Fin 2))) (fun _ => List.replicate 65535 0)
    [0, 1] 2 (by decide) (by decide) (by decide) (fun p _ q _ same => same)
    (fun _ _ => Nat.le_of_eq List.length_replicate.symm) splitQuestion (List.replicate 512 0) 512
    (Nat.le_of_eq List.length_replicate.symm) 4).1 request asks
  exact ⟨request, bytes, asks, back, answered⟩

end Ism
