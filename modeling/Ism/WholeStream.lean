import Ism.StreamFin
import Ism.StreamIds

namespace Ism

open Lib ShellConnection

section Transcripts

variable {n : Nat}

/-- Everything that was received on a stream. -/
def receivedBytes (stream : Handle) (transcript : List (Interaction n)) : List UInt8 :=
  transcript.flatMap fun interaction =>
    match interaction with
    | .streamCallback handle (.receive buffers _) => if handle = stream then buffers.flatten else []
    | _ => []

/-- A send answers a request that is all its stream has received before. -/
def CoversStream (before : List (Interaction n)) : Interaction n → Prop
  | .streamSend stream _ data _ _ deliveries => ∃ m, Requests deliveries m ∧
      data = be16 (minimalResponse m).length ++ minimalResponse m ∧ be16 m.length ++ m = receivedBytes stream before
  | _ => True

def AnswersWholeStreams (transcript : List (Interaction n)) : Prop :=
  ∀ before interaction after, transcript = before ++ interaction :: after → CoversStream before interaction

/-- The connections that a stream was reported on. -/
def connectionsOf (stream : Handle) (transcript : List (Interaction n)) : List Handle :=
  transcript.filterMap fun interaction =>
    match interaction with
    | .streamStarted connection handle => if handle = stream then some connection else none
    | _ => none

/-- The connections that were shut down. -/
def shutConnections (transcript : List (Interaction n)) : List Handle :=
  transcript.filterMap fun interaction =>
    match interaction with
    | .connectionShutdown connection _ => some connection
    | _ => none

/-- The peer may still send on a stream: it did not abort, and the connection was not shut down. -/
def Live (stream : Handle) (transcript : List (Interaction n)) : Prop :=
  .streamCallback stream .peerSendAborted ∉ transcript ∧
    ∀ connection ∈ connectionsOf stream transcript, connection ∉ shutConnections transcript

instance (stream : Handle) (transcript : List (Interaction n)) : Decidable (Live stream transcript) :=
  inferInstanceAs (Decidable (.streamCallback stream .peerSendAborted ∉ transcript ∧
    ∀ connection ∈ connectionsOf stream transcript, connection ∉ shutConnections transcript))

variable {stream : Handle} {transcript longer : List (Interaction n)}

theorem receivedBytes_append (stream : Handle) (transcript : List (Interaction n)) (interaction : Interaction n) :
    receivedBytes stream (transcript ++ [interaction]) =
      receivedBytes stream transcript ++ receivedBytes stream [interaction] :=
  List.flatMap_append

theorem AnswersWholeStreams.append (answers : AnswersWholeStreams transcript) {interaction : Interaction n}
    (covers : CoversStream transcript interaction) : AnswersWholeStreams (transcript ++ [interaction]) := by
  intro before other after split
  rcases List.eq_nil_or_concat after with rfl | ⟨rest, last, rfl⟩
  · obtain ⟨rfl, same⟩ := List.append_inj' split rfl
    rw [List.singleton_inj] at same
    exact same ▸ covers
  · have shorter : transcript ++ [interaction] = (before ++ other :: rest) ++ [last] := by
      rw [split, List.append_assoc, List.cons_append, List.concat_eq_append]
    exact answers before other rest (List.append_inj' shorter rfl).1

/-- What the peer may still do it could do before. -/
theorem Live.of_prefix (live : Live stream longer) (grows : transcript <+: longer) : Live stream transcript := by
  obtain ⟨rest, rfl⟩ := grows
  obtain ⟨unaborted, unshut⟩ := live
  refine ⟨fun member => unaborted (List.mem_append_left _ member), fun connection member shut => ?_⟩
  refine unshut connection ?_ ?_
  · rw [connectionsOf, List.filterMap_append]
    exact List.mem_append_left _ member
  · rw [shutConnections, List.filterMap_append]
    exact List.mem_append_left _ shut

/-- A stream is over once its connection is shut down. -/
theorem not_live_of_shutdown {connection : Handle} (started : .streamStarted connection stream ∈ transcript)
    (errorCode : Nat) : ¬ Live stream (transcript ++ [.connectionShutdown connection errorCode]) := by
  rintro ⟨-, unshut⟩
  refine unshut connection ?_ ?_
  · exact List.mem_filterMap.mpr ⟨_, List.mem_append_left _ started, if_pos rfl⟩
  · exact List.mem_filterMap.mpr ⟨_, List.mem_append_right _ List.mem_cons_self, rfl⟩

/-- A request is all that its history delivered. -/
theorem Requests.deliveredBytes_eq {history : List (Delivery Handle)} {m : List UInt8} (asked : Requests history m) :
    deliveredBytes history = be16 m.length ++ m := by
  obtain ⟨-, before, after, source, rfl, silent, whole, -⟩ := asked
  rw [deliveredBytes_append, deliveredBytes_fin, silent, List.append_nil, whole]

end Transcripts

namespace Transport

variable {n : Nat}

/-- The slots stay on their connections, and nothing is received in between. -/
structure Grows (transport after : Transport n) : Prop where
  connection : ∀ j, (after.slots j).runtime.connection = (transport.slots j).runtime.connection
  said : transport.transcript <+: after.transcript
  received : ∀ h, receivedBytes h after.transcript = receivedBytes h transport.transcript

theorem Grows.refl (transport : Transport n) : Grows transport transport :=
  ⟨fun _ => rfl, List.prefix_refl _, fun _ => rfl⟩

theorem Grows.trans {first second third : Transport n} (left : Grows first second) (right : Grows second third) :
    Grows first third :=
  ⟨fun j => (right.connection j).trans (left.connection j), left.said.trans right.said,
    fun h => (right.received h).trans (left.received h)⟩

theorem Grows.say (transport : Transport n) {interaction : Interaction n}
    (silent : ∀ h, receivedBytes h [interaction] = []) : Grows transport (transport.say interaction) :=
  ⟨fun _ => rfl, List.prefix_append .., fun h => by
    rw [Transport.say, receivedBytes_append, silent, List.append_nil]⟩

theorem Grows.modifyRuntime (transport : Transport n) {i : Fin n} {f : RuntimeStream → RuntimeStream}
    (kept : (f (transport.slots i).runtime).connection = (transport.slots i).runtime.connection) :
    Grows transport (transport.modifyRuntime i f) := by
  refine ⟨fun j => ?_, List.prefix_refl _, fun _ => rfl⟩
  by_cases here : j = i
  · rw [here, modifyRuntime_self]
    exact kept
  · rw [modifyRuntime_other _ here]

theorem Grows.connectionRuntimeSend (accepts : List (Interaction n) → Bool) (transport : Transport n)
    (call : SendCall) :
    Grows transport (transport.connectionRuntimeSend accepts call).2 := by
  rcases connectionRuntimeSend_cases transport call with refused | ⟨i, -, -, sends⟩
  · rw [refused]
    exact Grows.refl transport
  · rw [sends]
    unfold Transport.runtimeSend
    simp only
    split
    · exact Grows.refl transport
    · split
      · dsimp only
        exact (Grows.say transport fun _ => rfl).trans (Grows.modifyRuntime _ rfl)
      · dsimp only
        exact (Grows.say transport fun _ => rfl).trans (Grows.modifyRuntime _ rfl)

end Transport

namespace ConnectionRuntime

variable {n : Nat}

/-- MsQuic delivers nothing more on a stream once the peer aborted it or its connection was
shut down, and the handle of a connection is not null. -/
def LiveStream (w : ConnectionRuntime n) : Callback n → Prop
  | .connection connection (.peerStreamStarted ..) => connection ≠ 0
  | .stream h (.receive ..) => Live h w.transport.transcript
  | .stream h .peerSendShutdown => Live h w.transport.transcript
  | _ => True

instance (w : ConnectionRuntime n) : (callback : Callback n) → Decidable (w.LiveStream callback)
  | .connection connection (.peerStreamStarted ..) => inferInstanceAs (Decidable (connection ≠ 0))
  | .stream h (.receive ..) | .stream h .peerSendShutdown => inferInstanceAs (Decidable (Live h w.transport.transcript))
  | .newConnection .. | .connection _ .shutdownComplete | .connection _ .other | .stream _ (.startComplete _)
  | .stream _ (.sendComplete ..) | .stream _ .peerSendAborted | .stream _ .peerReceiveAborted
  | .stream _ .shutdownComplete | .stream _ .other => inferInstanceAs (Decidable True)

/-- No bytes arrive for a stream that has received some and whose entry was removed before its FIN. -/
def Unbroken (w : ConnectionRuntime n) : Callback n → Prop
  | .stream h (.receive buffers _) => ∀ i, registered h w.transport.transcript = some i → buffers.flatten ≠ [] →
    (w.slot i).runtime.receivedFin = false →
    w.adapter.connection.findStream (w.slot i).runtime.streamId = none → receivedBytes h w.transport.transcript = []
  | _ => True

variable {check : Nat → List UInt8 → UInt8} {accepts : List (Interaction n) → Bool} {w after : ConnectionRuntime n}
  {i : Fin n} {h : Handle}

theorem grows_modifyRuntime (w : ConnectionRuntime n) {f : RuntimeStream → RuntimeStream}
    (kept : (f (w.slot i).runtime).connection = (w.slot i).runtime.connection) :
    Transport.Grows w.transport (w.modifyRuntime i f).transport :=
  Transport.Grows.modifyRuntime _ kept

theorem Sound.grows_micros (sound : w.Sound) (pieces : Micros check accepts i h w after) :
    Transport.Grows w.transport after.transport := by
  have dispatch : ∀ (v : ConnectionRuntime n) event queue, v.Sound →
      Transport.Grows v.transport (v.dispatched check accepts h event queue).transport := by
    intro v event queue before
    obtain ⟨-, call⟩ := EventQueue.dispatchEvent_spec check (some (Transport.connectionRuntimeSend accepts))
      before.adapter (v.delivered h event) event
    have delivered : Transport.Grows v.transport (v.delivered h event) :=
      ⟨fun _ => rfl, List.prefix_refl _, fun _ => rfl⟩
    simp only [ConnectionRuntime.dispatched, dispatchOutcome]
    rcases call with same | ⟨f, call, callback, sent⟩
    · rw [same]
      exact delivered
    · cases callback
      rw [sent]
      exact delivered.trans (Transport.Grows.connectionRuntimeSend accepts _ call)
  induction pieces with
  | refl => exact Transport.Grows.refl _
  | @tail between last first piece ih =>
    refine ih.trans ?_
    have before := (sound.micros first).1
    cases piece with
    | bytes | complete | reset => exact dispatch between _ _ before
    | fin => exact (dispatch between _ _ before).trans (grows_modifyRuntime _ rfl)
    | finRefused | resetPending => exact grows_modifyRuntime between rfl
    | protocolError => exact Transport.Grows.say _ fun _ => rfl

/-- Every slot in use is on the connection that its stream was reported on. -/
def Connected (w : ConnectionRuntime n) : Prop :=
  ∀ i, (w.slot i).inUse = true → (w.slot i).runtime.connection ≠ 0 ∧
    .streamStarted (w.slot i).runtime.connection (w.slot i).stream ∈ w.transport.transcript

/-- The entry of the slot `i`, if any, is dead or was given everything its stream received,
up to what is still to be delivered to it. -/
def Owed (w : ConnectionRuntime n) (i : Fin n) (rest : List UInt8) : Prop :=
  (∀ e, w.adapter.connection.entry (w.slot i).runtime.streamId = some e → e.phase = .done ∨
    deliveredBytes (w.transport.histories (w.slot i).runtime.streamId) ++ rest =
      receivedBytes (w.slot i).stream w.transport.transcript) ∧
  (w.adapter.connection.entry (w.slot i).runtime.streamId = none → rest ≠ [] →
    (w.slot i).runtime.receivedFin = false → receivedBytes (w.slot i).stream w.transport.transcript = rest)

/-- The state while the slot `i` is served: its own account is open, all others are settled. -/
structure Serving (w : ConnectionRuntime n) (i : Fin n) : Prop where
  connected : w.Connected
  settled : ∀ j, j ≠ i → (w.slot j).inUse = true → Live (w.slot j).stream w.transport.transcript → w.Owed j []
  answers : AnswersWholeStreams w.transport.transcript

/-- The state between two callbacks. -/
structure WholeStreams (w : ConnectionRuntime n) : Prop where
  connected : w.Connected
  settled : ∀ j, (w.slot j).inUse = true → Live (w.slot j).stream w.transport.transcript → w.Owed j []
  answers : AnswersWholeStreams w.transport.transcript

theorem WholeStreams.serving (whole : w.WholeStreams) (i : Fin n) : w.Serving i :=
  ⟨whole.connected, fun j _ => whole.settled j, whole.answers⟩

theorem Serving.whole (serving : w.Serving i)
    (own : Live (w.slot i).stream w.transport.transcript → w.Owed i []) : w.WholeStreams := by
  refine ⟨serving.connected, fun j used live => ?_, serving.answers⟩
  by_cases here : j = i
  · subst here
    exact own live
  · exact serving.settled j here used live

theorem Connected.grows (connected : w.Connected) (streams : Transport.SameStreams w.transport after.transport)
    (grows : Transport.Grows w.transport after.transport) : after.Connected := by
  intro j used
  obtain ⟨inUse, stream, -⟩ := streams j
  obtain ⟨real, started⟩ := connected j (inUse.symm.trans used)
  have connection : (after.slot j).runtime.connection = (w.slot j).runtime.connection := grows.connection j
  rw [connection, show (after.slot j).stream = (w.slot j).stream from stream]
  exact ⟨real, grows.said.subset started⟩

/-- An account that is settled stays so while its entry is left alone or removed. -/
theorem Owed.keep {j : Fin n} (owed : w.Owed j []) (streams : Transport.SameStreams w.transport after.transport)
    (grows : Transport.Grows w.transport after.transport)
    (entry : ∀ e, after.adapter.connection.entry (w.slot j).runtime.streamId = some e →
      w.adapter.connection.entry (w.slot j).runtime.streamId = some e)
    (history : after.transport.histories (w.slot j).runtime.streamId =
      w.transport.histories (w.slot j).runtime.streamId) : after.Owed j [] := by
  obtain ⟨-, stream, named⟩ := streams j
  refine ⟨fun e present => ?_, fun _ nonempty => absurd rfl nonempty⟩
  rw [show (after.slot j).runtime.streamId = (w.slot j).runtime.streamId from named] at present ⊢
  rw [show (after.slot j).stream = (w.slot j).stream from stream, history, grows.received]
  exact owed.1 e (entry e present)

/-- What is done for the slot `i` leaves the accounts of all others alone. -/
theorem Serving.keep (serving : w.Serving i) (streams : Transport.SameStreams w.transport after.transport)
    (grows : Transport.Grows w.transport after.transport)
    (entry : ∀ j, j ≠ i → (w.slot j).inUse = true → ∀ e,
      after.adapter.connection.entry (w.slot j).runtime.streamId = some e →
        w.adapter.connection.entry (w.slot j).runtime.streamId = some e)
    (history : ∀ j, j ≠ i → (w.slot j).inUse = true → after.transport.histories (w.slot j).runtime.streamId =
      w.transport.histories (w.slot j).runtime.streamId)
    (answers : AnswersWholeStreams after.transport.transcript) : after.Serving i := by
  refine ⟨serving.connected.grows streams grows, fun j apart used live => ?_, answers⟩
  obtain ⟨inUse, stream, -⟩ := streams j
  have before : (w.slot j).inUse = true := inUse.symm.trans used
  rw [show (after.slot j).stream = (w.slot j).stream from stream] at live
  exact (serving.settled j apart before (live.of_prefix grows.said)).keep streams grows (entry j apart before)
    (history j apart before)

theorem dispatched_bytes (sound : w.Sound) {data : List UInt8} (nonempty : data ≠ []) (queue : EventQueue) :
    w.dispatched check accepts h (.authenticatedStreamBytes (w.slot i).runtime.streamId data) queue =
      { w with
        queue := queue
        adapter := { w.adapter with
          connection :=
            (w.adapter.connection.dispatchAuthenticatedStreamData (w.slot i).runtime.streamId data).2 }
        transport := w.delivered h (.authenticatedStreamBytes (w.slot i).runtime.streamId data) } := by
  simp only [dispatched, dispatchOutcome, dispatchEvent_bytes sound.adapter _ nonempty]

/-- Bytes that are taken are no longer owed. -/
theorem Owed.bytes {data rest : List UInt8} (owed : w.Owed i (data ++ rest)) (sound : w.Sound)
    (unfinished : (w.slot i).runtime.receivedFin = false) (nonempty : data ≠ []) (queue : EventQueue)
    (taken : (w.dispatchOutcome check accepts h
      (.authenticatedStreamBytes (w.slot i).runtime.streamId data)).1 = true) :
    (w.dispatched check accepts h (.authenticatedStreamBytes (w.slot i).runtime.streamId data) queue).Owed i rest := by
  have spec := sound.adapter.connection.dispatchAuthenticatedStreamData_spec (w.slot i).runtime.streamId data
  have accepted : (w.adapter.connection.dispatchAuthenticatedStreamData (w.slot i).runtime.streamId data).1 ≠ 3 := by
    intro refused
    simp [dispatchOutcome, EventQueue.dispatchEvent, refused] at taken
  rw [dispatched_bytes sound nonempty]
  generalize w.adapter.connection.dispatchAuthenticatedStreamData (w.slot i).runtime.streamId data = result
    at spec accepted
  cases spec with
  | refused => exact absurd rfl accepted
  | @acted e after starts valid here others =>
    refine ⟨fun e' present => ?_, fun absent => ?_⟩
    · obtain rfl : e.feed data = e' := Option.some.inj (here.symm.trans present)
      have history : (w.delivered h (.authenticatedStreamBytes (w.slot i).runtime.streamId data)).histories
          (w.slot i).runtime.streamId = if w.adapter.connection.findStream (w.slot i).runtime.streamId = none then
            [.bytes h data] else w.transport.histories (w.slot i).runtime.streamId ++ [.bytes h data] :=
        Function.update_self ..
      change _ ∨ deliveredBytes ((w.delivered h (.authenticatedStreamBytes (w.slot i).runtime.streamId data)).histories
          (w.slot i).runtime.streamId) ++ rest = receivedBytes (w.slot i).stream w.transport.transcript
      rw [history]
      rcases starts with old | ⟨absent, -, -, -⟩
      · have listed : ¬ w.adapter.connection.findStream (w.slot i).runtime.streamId = none := fun missing => by
          rw [entry_eq_none_iff.mpr missing] at old
          cases old
        rw [if_neg listed, deliveredBytes_append, deliveredBytes_bytes, List.append_assoc]
        rcases owed.1 e old with ended | complete
        · have finished : e.ctx.scPhase = .done := ended
          exact Or.inl (handleStreamData_done finished e.message data)
        · exact Or.inr complete
      · rw [if_pos (entry_eq_none_iff.mp absent), deliveredBytes_bytes]
        exact Or.inr (owed.2 absent (by simp [nonempty]) unfinished).symm
    · exact absurd (here.symm.trans absent) (Option.some_ne_none _)

/-- What a FIN makes of a settled account: the entry is dead, or its history is the whole stream. -/
theorem Owed.finished (owed : w.Owed i []) (sound : w.Sound) (h : Handle) {e : Entry}
    (present : (w.finished i).connection.entry (w.slot i).runtime.streamId = some e) :
    e.phase = .done ∨ deliveredBytes ((w.finDelivered i h).histories (w.slot i).runtime.streamId) =
      receivedBytes (w.slot i).stream w.transport.transcript := by
  have spec := sound.adapter.connection.onAuthenticatedStreamFin_spec (w.slot i).runtime.streamId
  have history : (w.finDelivered i h).histories (w.slot i).runtime.streamId =
      if w.adapter.connection.findStream (w.slot i).runtime.streamId = none then [.fin h]
      else w.transport.histories (w.slot i).runtime.streamId ++ [.fin h] := Function.update_self ..
  unfold ConnectionRuntime.finished at present
  generalize w.adapter.connection.onAuthenticatedStreamFin (w.slot i).runtime.streamId = result at spec present
  cases spec with
  | refused absent =>
    rw [show w.adapter.connection.entry (w.slot i).runtime.streamId = some e from present] at absent
    cases absent
  | @acted start after starts valid here others =>
    obtain rfl : start.finish = e := Option.some.inj (here.symm.trans present)
    rcases starts with old | ⟨absent, -, fresh, -⟩
    · have listed : ¬ w.adapter.connection.findStream (w.slot i).runtime.streamId = none := fun missing => by
        rw [entry_eq_none_iff.mpr missing] at old
        cases old
      rw [history, if_neg listed, deliveredBytes_append, deliveredBytes_fin]
      rcases owed.1 start old with ended | complete
      · have finished : start.ctx.scPhase = .done := ended
        exact Or.inl (handleStreamFin_done finished start.message)
      · exact Or.inr complete
    · refine Or.inl ?_
      change finishDoqPhase start.phase _ _ = .done
      rw [fresh, finishDoqPhase]
      split <;> rfl

theorem Serving.bytes (check : Nat → List UInt8 → UInt8) (accepts : List (Interaction n) → Bool) (h : Handle)
    (serving : w.Serving i) (sound : w.Sound) (iso : Isolation w.adapter w.transport)
    (used : (w.slot i).inUse = true) {data : List UInt8} (nonempty : data ≠ []) (queue : EventQueue) :
    (w.dispatched check accepts h (.authenticatedStreamBytes (w.slot i).runtime.streamId data) queue).Serving i := by
  have spec := sound.adapter.connection.dispatchAuthenticatedStreamData_spec (w.slot i).runtime.streamId data
  rw [dispatched_bytes sound nonempty]
  refine serving.keep (fun _ => ⟨rfl, rfl, rfl⟩) ⟨fun _ => rfl, List.prefix_refl _, fun _ => rfl⟩ ?_ ?_ serving.answers
  · intro j apart inUse e present
    have other : (w.slot j).runtime.streamId ≠ (w.slot i).runtime.streamId :=
      fun same => apart (iso.distinct j i inUse used same)
    exact (Delivered.entry_other spec other).symm.trans present
  · intro j apart inUse
    have other : (w.slot j).runtime.streamId ≠ (w.slot i).runtime.streamId :=
      fun same => apart (iso.distinct j i inUse used same)
    exact Function.update_of_ne other ..

/-- The table, the histories and the transcript after a FIN. -/
theorem FinDispatched.leaves {outcome : Bool × Adapter × Transport n} (dispatched : FinDispatched accepts w i h outcome)
    (sound : w.Sound) :
    (∀ id e, outcome.2.1.connection.entry id = some e → (w.finished i).connection.entry id = some e) ∧
    outcome.2.2.histories = (w.finDelivered i h).histories ∧
    (outcome.2.2.transcript = w.transport.transcript ∨
      ∃ k message sendBuffer len accepted,
        (w.finished i).connection.entry (w.slot i).runtime.streamId = some ⟨.processing k, message⟩ ∧
        outcome.2.2.transcript = w.transport.transcript ++ [w.sendOn i h sendBuffer len accepted]) := by
  cases dispatched with
  | quiet => exact ⟨fun _ _ present => present, rfl, Or.inl rfl⟩
  | sent _ ready => exact ⟨fun _ _ present => present, rfl, Or.inr ⟨_, _, _, _, _, ready, rfl⟩⟩
  | refused _ ready =>
    have valid : (w.finished i).connection.Valid := Delivered.valid sound.adapter.connection
      (sound.adapter.connection.onAuthenticatedStreamFin_spec (w.slot i).runtime.streamId)
    exact ⟨fun id e present => valid.close_entry present, rfl, Or.inr ⟨_, _, _, _, _, ready, rfl⟩⟩

/-- A FIN settles the account of its slot, and what is sent for it covers the whole stream. -/
theorem Serving.fin (serving : w.Serving i) (owed : w.Owed i []) (sound : w.Sound)
    (iso : Isolation w.adapter w.transport) (used : (w.slot i).inUse = true) (queue : EventQueue)
    {outcome : Bool × Adapter × Transport n} (dispatched : FinDispatched accepts w i h outcome)
    (streams : Transport.SameStreams w.transport (w.finWith i queue outcome).transport)
    (grows : Transport.Grows w.transport (w.finWith i queue outcome).transport)
    (answered : ∀ interaction ∈ outcome.2.2.transcript, AnswersOwnRequest interaction) :
    (w.finWith i queue outcome).Serving i ∧ (w.finWith i queue outcome).Owed i [] := by
  have spec := sound.adapter.connection.onAuthenticatedStreamFin_spec (w.slot i).runtime.streamId
  obtain ⟨entries, histories, said⟩ := dispatched.leaves sound
  have histories' : (w.finWith i queue outcome).transport.histories = (w.finDelivered i h).histories := histories
  have other : ∀ j, j ≠ i → (w.slot j).inUse = true →
      (w.slot j).runtime.streamId ≠ (w.slot i).runtime.streamId :=
    fun j apart inUse same => apart (iso.distinct j i inUse used same)
  have answers : AnswersWholeStreams outcome.2.2.transcript := by
    rcases said with same | ⟨k, message, sendBuffer, len, accepted, ready, same⟩
    · rw [same]
      exact serving.answers
    · rw [same] at answered ⊢
      obtain ⟨-, -, m, asked, -, data⟩ :=
        answered (w.sendOn i h sendBuffer len accepted) (List.mem_append_right _ List.mem_cons_self)
      rcases owed.finished sound h ready with ended | complete
      · cases ended
      · exact serving.answers.append ⟨m, asked, data, asked.deliveredBytes_eq.symm.trans complete⟩
  refine ⟨serving.keep streams grows ?_ ?_ answers, fun e present => ?_, fun _ nonempty => absurd rfl nonempty⟩
  · intro j apart inUse e present
    exact (Delivered.entry_other spec (other j apart inUse)).symm.trans (entries _ e present)
  · intro j apart inUse
    rw [histories']
    exact Function.update_of_ne (other j apart inUse) ..
  · obtain ⟨-, stream, named⟩ := streams i
    rw [show ((w.finWith i queue outcome).slot i).runtime.streamId = (w.slot i).runtime.streamId from named]
      at present ⊢
    rw [show ((w.finWith i queue outcome).slot i).stream = (w.slot i).stream from stream, histories', grows.received,
      List.append_nil]
    exact owed.finished sound h (entries _ e present)

theorem Serving.receiveBuffers (generated : ∀ n, Format.Validates (fun input => decide (check n input ≠ 0))
      (Grammar.dnsUncompressedQuestion n)) (buffers : List (List UInt8)) (serving : w.Serving i)
    (owed : w.Owed i buffers.flatten) (sound : w.Sound) (iso : Isolation w.adapter w.transport)
    (used : (w.slot i).inUse = true) (named : (w.slot i).stream = h) :
    (receiveBuffers check accepts i h buffers w).2.Serving i ∧
      ((receiveBuffers check accepts i h buffers w).1 = true →
        (receiveBuffers check accepts i h buffers w).2.Owed i []) := by
  induction buffers generalizing w with
  | nil => exact ⟨serving, fun _ => owed⟩
  | cons buffer buffers ih =>
    rw [ConnectionRuntime.receiveBuffers]
    split
    case isTrue empty =>
      rw [List.flatten_cons, List.length_eq_zero_iff.mp empty, List.nil_append] at owed
      exact ih serving owed sound iso used named
    case isFalse long =>
      have nonempty : buffer ≠ [] := fun empty => long (by rw [empty]; rfl)
      rcases copyEnqueueAndDispatch_cases check accepts sound.queue i h nonempty with
        refused | ⟨queue, idle, usable, unfinished, taken⟩
      · rw [refused]
        exact ⟨serving, by simp⟩
      · have after := serving.bytes check accepts h sound iso used nonempty queue
        rw [taken]
        cases accepted : (w.dispatchOutcome check accepts h
            (.authenticatedStreamBytes (w.slot i).runtime.streamId buffer)).1 with
        | false => exact ⟨after, by simp⟩
        | true =>
          have piece : Micro check accepts i h w (w.dispatched check accepts h
              (.authenticatedStreamBytes (w.slot i).runtime.streamId buffer) queue) :=
            Micro.bytes idle nonempty unfinished usable
          obtain ⟨inUse, stream, -⟩ := sound.sameStreams piece i
          exact ih after (owed.bytes sound unfinished nonempty queue accepted) (sound.micro piece)
            (iso.micro generated sound used named piece) (inUse.trans used) (stream.trans named)

theorem Serving.modifyRuntime (serving : w.Serving i) {f : RuntimeStream → RuntimeStream}
    (named : (f (w.slot i).runtime).streamId = (w.slot i).runtime.streamId)
    (connection : (f (w.slot i).runtime).connection = (w.slot i).runtime.connection) :
    (w.modifyRuntime i f).Serving i :=
  serving.keep (sameStreams_modifyRuntime w named) (grows_modifyRuntime w connection) (fun _ _ _ _ present => present)
    (fun _ _ _ => rfl) serving.answers

theorem Serving.onFin (accepts : List (Interaction n) → Bool)
    (generated : ∀ n, Format.Validates (fun input => decide (check n input ≠ 0)) (Grammar.dnsUncompressedQuestion n))
    (serving : w.Serving i) (owed : w.Owed i []) (sound : w.Sound)
    (iso : Isolation w.adapter w.transport) (used : (w.slot i).inUse = true) (named : (w.slot i).stream = h) :
    (w.onFin check accepts i h).2.Serving i ∧
      ((w.onFin check accepts i h).1 = true → (w.onFin check accepts i h).2.Owed i []) := by
  simp only [ConnectionRuntime.onFin]
  split_ifs with detached finished busy
  · exact ⟨serving, by simp⟩
  · exact ⟨serving, fun _ => owed⟩
  · exact ⟨serving, by simp⟩
  · have unfinished : (w.slot i).runtime.receivedFin = false := Bool.not_eq_true _ ▸ finished
    rcases enqueueAndDispatch_cases check accepts sound.queue h
        (.authenticatedStreamFin (w.slot i).runtime.streamId) with ⟨-, refused⟩ | ⟨queue, idle, -, usable, done⟩
    · rw [refused]
      exact ⟨serving.modifyRuntime rfl rfl, by simp⟩
    · have piece : Micro check accepts i h w (w.finWith i queue
          (w.dispatchOutcome check accepts h (.authenticatedStreamFin (w.slot i).runtime.streamId))) :=
        Micro.fin idle unfinished usable
      have dispatched := sound.finDispatched check accepts iso.distinct used (iso.quiet used) h
      obtain ⟨after, settled⟩ := serving.fin owed sound iso used queue dispatched (sound.sameStreams piece)
        (sound.grows_micros (Relation.ReflTransGen.single piece)) (iso.micro generated sound used named piece).answered
      rw [done]
      exact ⟨after, fun _ => settled⟩

/-- A delivery that fails ends the connection, and with it everything that is still owed. -/
theorem Serving.deliveryStatus {result : Bool × ConnectionRuntime n} (serving : result.2.Serving i)
    (owed : result.1 = true → result.2.Owed i []) (sound : result.2.Sound) (used : (result.2.slot i).inUse = true) :
    (deliveryStatus i result).2.WholeStreams := by
  obtain ⟨done, after⟩ := result
  cases done with
  | true => exact serving.whole fun _ => owed rfl
  | false =>
    obtain ⟨real, started⟩ := serving.connected i used
    have shuts : (after.slot i).runtime.attached = true ∧ (after.slot i).runtime.connection ≠ 0 :=
      ⟨(sound.transport.bound i used).1, real⟩
    simp only [ConnectionRuntime.deliveryStatus, protocolError, if_pos shuts]
    have told : (after.say (.connectionShutdown (after.slot i).runtime.connection 2)).Serving i :=
      serving.keep (Transport.SameStreams.refl _) (Transport.Grows.say _ fun _ => rfl) (fun _ _ _ _ present => present)
        (fun _ _ _ => rfl) (serving.answers.append trivial)
    exact told.whole fun live => absurd live (not_live_of_shutdown started 2)

end ConnectionRuntime

end Ism
