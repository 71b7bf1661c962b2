import Ism.SendSlot
import Ism.StreamIds

namespace Ism

open Lib ShellConnection

namespace ConnectionRuntime

variable {n : Nat} {check : Nat → List UInt8 → UInt8} {accepts : List (Interaction n) → Bool}
  {w after : ConnectionRuntime n} {i : Fin n} {h : Handle}

theorem Coherence.micro (coherent : w.Coherence) (sound : w.Sound) (used : (w.slot i).inUse = true)
    (piece : Micro check accepts i h w after) : after.Coherence := by
  cases piece with
  | bytes _ nonempty unfinished => exact coherent.unmoved (coherent.bytes sound used unfinished nonempty _)
  | fin _ unfinished =>
    exact coherent.fin sound used unfinished _
      (sound.finDispatched check accepts coherent.distinct used (coherent.idle used) h)
  | finRefused unfinished =>
    refine coherent.unmoved (unmoved_record w rfl rfl (fun _ => rfl) fun finished => ?_)
    rw [finished] at unfinished
    cases unfinished
  | complete _ quiet => exact coherent.unmoved (coherent.complete sound used quiet _ _ _)
  | reset _ quiet => exact coherent.unmoved (coherent.reset sound used quiet _)
  | resetPending => exact coherent.unmoved (unmoved_record w rfl rfl (fun _ => rfl) id)
  | protocolError => exact coherent.unmoved (unmoved_say w _ fun _ _ => ⟨rfl, rfl⟩)

theorem Coherence.micros (coherent : w.Coherence) (sound : w.Sound) (used : (w.slot i).inUse = true)
    (pieces : Micros check accepts i h w after) : after.Coherence := by
  induction pieces with
  | refl => exact coherent
  | tail first last ih =>
    obtain ⟨between, same⟩ := sound.micros first
    exact ih.micro between ((same i).1.trans used) last

/-- What the end of the slot's own send leaves. -/
def completed (w : ConnectionRuntime n) (i : Fin n) (h : Handle) (canceled : Bool) (queue : EventQueue) :
    ConnectionRuntime n :=
  { (w.say (.streamCallback h (.sendComplete (some i) canceled))).modifyRuntime i RuntimeStream.clearSend with
    queue := queue
    adapter := w.adapter.landed (w.adapter.connection.closeStream (w.slot i).runtime.streamId).syncStreamSlots }

/-- The end of the slot's own send is always taken. -/
theorem Coherence.sendComplete_eq (check : Nat → List UInt8 → UInt8) (accepts : List (Interaction n) → Bool)
    (coherent : w.Coherence) (sound : w.Sound) (usable : w.queue.Usable) (used : (w.slot i).inUse = true)
    (sending : (w.slot i).runtime.sendInFlight = true) (h : Handle) (canceled : Bool) :
    ∃ queue : EventQueue, queue.Usable ∧
      (w.say (.streamCallback h (.sendComplete (some i) canceled))).runtimeStreamCallback check accepts i h
        (.sendComplete (some i) canceled) = (.success, w.completed i h canceled queue) := by
  have flying := coherent.flying i used sending
  let told := w.say (.streamCallback h (.sendComplete (some i) canceled))
  let cleared := told.modifyRuntime i RuntimeStream.clearSend
  have pass : ¬ ((some i : Option (Fin n)) ≠ some i ∨ (told.slot i).runtime.sendInFlight = false) := by
    rintro (other | quiet)
    · exact other rfl
    · rw [show (w.slot i).runtime.sendInFlight = false from quiet] at sending
      cases sending
  have busy : ¬ cleared.adapter.sendInFlight = false := by
    rw [show cleared.adapter.sendInFlight = true from flying.busy]
    exact Bool.true_eq_false.mp
  have self : cleared.slot i = { w.slot i with runtime := (w.slot i).runtime.clearSend } :=
    Transport.modifyRuntime_self _ i _
  have attached : ¬ (cleared.slot i).runtime.attached = false := by
    rw [self, show (w.slot i).runtime.clearSend.attached = true from (sound.transport.bound i used).1]
    exact Bool.true_eq_false.mp
  have named : (cleared.slot i).runtime.streamId = (w.slot i).runtime.streamId := by
    rw [self]
    rfl
  have reports : told.runtimeStreamCallback check accepts i h (.sendComplete (some i) canceled) =
      resetStatus (cleared.enqueueAndDispatch check accepts h (.sendComplete (w.slot i).runtime.streamId
        (w.slot i).runtime.responseLen (canceled || (w.slot i).runtime.resetPending))) := by
    simp only [runtimeStreamCallback, if_neg pass]
    rw [if_neg busy, onSendComplete, if_neg attached, named]
    rfl
  rcases enqueueAndDispatch_cases check accepts (w := cleared) sound.queue h (.sendComplete
      (w.slot i).runtime.streamId (w.slot i).runtime.responseLen (canceled || (w.slot i).runtime.resetPending)) with
    ⟨unusable, -⟩ | ⟨queue, -, -, usableAfter, done⟩
  · exact absurd usable unusable
  · refine ⟨queue, usableAfter, ?_⟩
    rw [reports, done]
    simp only [dispatched, dispatchOutcome, EventQueue.dispatchEvent]
    rw [show cleared.adapter = w.adapter from rfl, sound.adapter.onSendComplete_eq,
      if_pos ⟨flying.busy, flying.id_eq.symm, flying.len_eq.symm⟩]
    rfl

/-- Only the slot of the send in flight sends. -/
theorem Coherence.alone (coherent : w.Coherence) {j : Fin n} (used : (w.slot i).inUse = true)
    (sending : (w.slot i).runtime.sendInFlight = true) (used' : (w.slot j).inUse = true)
    (sending' : (w.slot j).runtime.sendInFlight = true) : j = i :=
  coherent.distinct j i used' used
    ((coherent.flying j used' sending').id_eq.trans (coherent.flying i used sending).id_eq.symm)

theorem Coherence.completed (coherent : w.Coherence) (used : (w.slot i).inUse = true)
    (sending : (w.slot i).runtime.sendInFlight = true) (h : Handle) (canceled : Bool) (queue : EventQueue) :
    (w.completed i h canceled queue).Coherence := by
  have self : (w.completed i h canceled queue).slot i = { w.slot i with runtime := (w.slot i).runtime.clearSend } :=
    Transport.modifyRuntime_self _ i _
  have others : ∀ j, j ≠ i → (w.completed i h canceled queue).slot j = w.slot j :=
    fun j apart => Transport.modifyRuntime_other _ apart _
  have streams : ∀ j, ((w.completed i h canceled queue).slot j).inUse = (w.slot j).inUse ∧
      ((w.completed i h canceled queue).slot j).stream = (w.slot j).stream ∧
      ((w.completed i h canceled queue).slot j).runtime.streamId = (w.slot j).runtime.streamId ∧
      ((w.completed i h canceled queue).slot j).runtime.receivedFin = (w.slot j).runtime.receivedFin := by
    intro j
    by_cases here : j = i
    · rw [here, self]
      exact ⟨rfl, rfl, rfl, rfl⟩
    · rw [others j here]
      exact ⟨rfl, rfl, rfl, rfl⟩
  have accepted : ∀ g, acceptedSends g (w.completed i h canceled queue).transport.transcript =
      acceptedSends g w.transport.transcript := fun g => acceptedSends_append g _ _
  refine ⟨coherent.distinct.sameStreams (sameStreams_modifyRuntime (w.say _) rfl), ?_, nofun, ?_, ?_, ?_⟩
  · intro j inUse sending'
    by_cases here : j = i
    · rw [here, self] at sending'
      cases sending'
    · rw [others j here] at inUse sending'
      exact absurd (coherent.alone used sending inUse sending') here
  · intro j
    rw [(streams j).1, (streams j).2.1, (streams j).2.2.2, accepted]
    exact coherent.unsent j
  · intro g
    rw [accepted]
    exact coherent.once g
  · intro g unstarted
    rw [accepted]
    exact coherent.fresh g fun started => unstarted (started.append _)

/-- A slot whose send is over may be given up. -/
theorem Coherence.releaseSlot (coherent : w.Coherence) (sound : w.Sound) (used : (w.slot i).inUse = true)
    (quiet : (w.slot i).runtime.sendInFlight = false) : (w.releaseSlot i).Coherence := by
  have transport := releaseSlot_transport used sound
  have adapter := (releaseSlot_frame w i).2
  have transcript := releaseSlot_transcript used sound
  have accepted : ∀ g, acceptedSends g (w.releaseSlot i).transport.transcript =
      acceptedSends g w.transport.transcript := by
    intro g
    rw [transcript]
    exact acceptedSends_append g _ _
  refine ⟨?_, ?_, ?_, ?_, ?_, ?_⟩
  · rw [transport]
    exact Transport.DistinctIds.giveUp coherent.distinct rfl
  · intro j inUse sending
    have same := releaseSlot_used inUse
    rw [same] at inUse sending
    obtain ⟨busy, id_eq, len_eq, fin, ready, buffer, stored, data⟩ := coherent.flying j inUse sending
    refine ⟨adapter ▸ busy, ?_, ?_, ?_, adapter ▸ ready, buffer, adapter ▸ stored, ?_⟩
    · rw [same, adapter, id_eq]
    · rw [same, adapter, len_eq]
    · rw [same, fin]
    · rw [same, transcript, adapter, pendingData_append]
      exact data
  · intro busy
    rw [adapter] at busy
    obtain ⟨j, inUse, sending⟩ := coherent.landing busy
    have apart : j ≠ i := by
      rintro rfl
      rw [quiet] at sending
      cases sending
    have same := releaseSlot_other w apart
    exact ⟨j, same ▸ inUse, same ▸ sending⟩
  · intro j inUse unfinished
    have same := releaseSlot_used inUse
    rw [same] at inUse unfinished
    rw [same, accepted]
    exact coherent.unsent j inUse unfinished
  · intro g
    rw [accepted]
    exact coherent.once g
  · intro g unstarted
    rw [accepted]
    refine coherent.fresh g fun started => unstarted ?_
    rw [transcript]
    exact started.append _

/-- A slot is taken for a stream that was never sent on. -/
theorem Coherence.openSlot (coherent : w.Coherence) {slot : StreamSlot} (unused : (w.slot i).inUse = false)
    (quiet : slot.runtime.sendInFlight = false)
    (unnamed : ∀ j, (w.slot j).inUse = true → (w.slot j).runtime.streamId ≠ slot.runtime.streamId)
    (unsent : acceptedSends slot.stream w.transport.transcript = 0) : (w.setSlot i slot).Coherence := by
  have self : (w.setSlot i slot).slot i = slot := Transport.setSlot_self w.transport i slot
  have others : ∀ j, j ≠ i → (w.setSlot i slot).slot j = w.slot j :=
    fun j apart => Transport.setSlot_other w.transport apart slot
  refine ⟨coherent.distinct.take unnamed, ?_, ?_, ?_, coherent.once, coherent.fresh⟩
  · intro j inUse sending
    by_cases here : j = i
    · rw [here, self, quiet] at sending
      cases sending
    · rw [others j here] at inUse sending
      obtain ⟨busy, id_eq, len_eq, fin, ready, buffer, stored, data⟩ := coherent.flying j inUse sending
      refine ⟨busy, ?_, ?_, ?_, ready, buffer, stored, ?_⟩
      · rw [others j here]
        exact id_eq
      · rw [others j here]
        exact len_eq
      · rw [others j here]
        exact fin
      · rw [others j here]
        exact data
  · intro busy
    obtain ⟨j, inUse, sending⟩ := coherent.landing busy
    have apart : j ≠ i := by
      rintro rfl
      rw [unused] at inUse
      cases inUse
    exact ⟨j, (others j apart).symm ▸ inUse, (others j apart).symm ▸ sending⟩
  · intro j inUse unfinished
    by_cases here : j = i
    · rw [here, self]
      exact unsent
    · rw [others j here] at inUse unfinished ⊢
      exact coherent.unsent j inUse unfinished

theorem Unmoved.refl (w : ConnectionRuntime n) : w.Unmoved w :=
  w.unmoved_adapter w.adapter w.queue w.transport.histories rfl fun _ => ⟨rfl, rfl, rfl, rfl⟩

theorem Coherence.onReset_unmoved (coherent : w.Coherence) (sound : w.Sound) (used : (w.slot i).inUse = true)
    (quiet : (w.slot i).runtime.sendInFlight = false) : w.Unmoved (w.onReset check accepts i h).2 := by
  have free : ¬ (w.slot i).runtime.sendInFlight = true := by
    rw [quiet]
    exact Bool.false_ne_true
  simp only [onReset, if_neg free, resetStatus_snd]
  rcases onStreamReset_cases check accepts sound.queue i h with refused | ⟨queue, -, -, done⟩
  · rw [refused]
    exact Unmoved.refl w
  · rw [done]
    exact coherent.reset sound used quiet queue

/-- Handles name one stream each, no peer stream reports its start, and MsQuic completes every
accepted send once and before it shuts the stream down. -/
def Orderly (w : ConnectionRuntime n) : Callback n → Prop
  | .connection _ (.peerStreamStarted stream _) => ¬ Started stream w.transport.transcript
  | .stream _ (.startComplete _) => False
  | .stream h (.sendComplete clientContext _) =>
    clientContext ≠ none ∧ pending h w.transport.transcript = clientContext
  | .stream h .shutdownComplete => pending h w.transport.transcript = none
  | _ => True

/-- A slot that is served knows whether its send is pending. -/
theorem Sound.pending_eq (sound : w.Sound) (serves : registered h w.transport.transcript = some i) :
    pending h w.transport.transcript = if (w.slot i).runtime.sendInFlight = true then some i else none := by
  obtain ⟨used, named, -⟩ := sound.transport.served h i serves
  rw [← named]
  exact sound.transport.sending i used

/-- A stream that is shut down has no send left, and its reset starts none. -/
theorem Coherence.shutdown_quiet (check : Nat → List UInt8 → UInt8) (accepts : List (Interaction n) → Bool)
    (coherent : w.Coherence) (sound : w.Sound) (serves : registered h w.transport.transcript = some i)
    (idle : pending h w.transport.transcript = none) :
    (((w.say (.streamCallback h .shutdownComplete)).runtimeStreamCallback check accepts i h
        .shutdownComplete).2.slot i).inUse = true ∧
      (((w.say (.streamCallback h .shutdownComplete)).runtimeStreamCallback check accepts i h
        .shutdownComplete).2.slot i).runtime.sendInFlight = false := by
  obtain ⟨used, named, -⟩ := sound.transport.served h i serves
  have pends := sound.pending_eq serves
  have quiet : (w.slot i).runtime.sendInFlight = false := by
    rw [← Bool.not_eq_true]
    intro sending
    rw [if_pos sending, idle] at pends
    cases pends
  have told : (w.say (.streamCallback h .shutdownComplete)).Coherence :=
    coherent.unmoved (unmoved_say w _ fun _ _ => ⟨rfl, rfl⟩)
  have unmoved : (w.say (.streamCallback h .shutdownComplete)).Unmoved
      ((w.say (.streamCallback h .shutdownComplete)).onReset check accepts i h).2 :=
    told.onReset_unmoved (sound.hearShutdown serves) used quiet
  exact ⟨(unmoved.streams i).1.trans used, (unmoved.sending i).trans quiet⟩

theorem Coherence.streamCallback (coherent : w.Coherence) (sound : w.Sound) (usable : w.queue.Usable)
    (serves : registered h w.transport.transcript = some i) {event : StreamEvent n}
    (orderly : w.Orderly (.stream h event)) :
    ((w.say (.streamCallback h event)).streamCallback check accepts h i event).2.Coherence ∧
      ((w.say (.streamCallback h event)).streamCallback check accepts h i event).2.queue.Usable := by
  obtain ⟨used, named, -⟩ := sound.transport.served h i serves
  have pends := sound.pending_eq serves
  have told : (∀ clientContext canceled, event ≠ .sendComplete clientContext canceled) →
      (w.say (.streamCallback h event)).Coherence := by
    intro other
    refine coherent.unmoved (unmoved_say w _ fun g current => ⟨rfl, ?_⟩)
    cases event with
    | sendComplete clientContext canceled => exact absurd rfl (other clientContext canceled)
    | _ => rfl
  have pieces : (∀ id, event ≠ .startComplete id) →
      (∀ clientContext canceled, event ≠ .sendComplete clientContext canceled) →
      ((w.say (.streamCallback h event)).runtimeStreamCallback check accepts i h event).2.Coherence ∧
        ((w.say (.streamCallback h event)).runtimeStreamCallback check accepts i h event).2.queue.Usable := by
    intro notStart other
    have micros : Micros check accepts i h (w.say (.streamCallback h event))
        ((w.say (.streamCallback h event)).runtimeStreamCallback check accepts i h event).2 :=
      runtimeStreamCallback_micros (w := w.say (.streamCallback h event)) sound.queue notStart
        fun canceled own => absurd own (other _ _)
    have heard : (w.say (.streamCallback h event)).Sound := sound.hear serves fun canceled own => absurd own (other _ _)
    exact ⟨(told other).micros heard used micros, micros.usable usable⟩
  cases event with
  | startComplete id => exact orderly.elim
  | sendComplete clientContext canceled =>
    obtain ⟨real, completes⟩ := orderly
    rw [pends] at completes
    split at completes
    case isFalse => exact absurd completes.symm real
    case isTrue sending =>
      subst completes
      obtain ⟨queue, usableAfter, done⟩ := coherent.sendComplete_eq check accepts sound usable used sending h canceled
      simp only [ConnectionRuntime.streamCallback, done]
      exact ⟨coherent.completed used sending h canceled queue, usableAfter⟩
  | shutdownComplete =>
    obtain ⟨usedAfter, quietAfter⟩ := coherent.shutdown_quiet check accepts sound serves orderly
    obtain ⟨served, usableAfter⟩ := pieces (by simp) (by simp)
    obtain ⟨soundAfter, -⟩ := sound.runtimeStreamCallback check accepts serves .shutdownComplete
    simp only [ConnectionRuntime.streamCallback]
    split
    · refine ⟨served.releaseSlot soundAfter usedAfter quietAfter, ?_⟩
      rw [(releaseSlot_frame _ i).1]
      exact usableAfter
    · exact ⟨served, usableAfter⟩
  | receive | peerSendShutdown | peerSendAborted | peerReceiveAborted | other =>
    simp only [ConnectionRuntime.streamCallback, reduceCtorEq, and_false, if_false]
    exact pieces (by simp) (by simp)

theorem Orderly.named {callback : Callback n} (orderly : w.Orderly callback) : w.NamedStream callback := by
  unfold NamedStream
  split
  · exact orderly
  · exact orderly.elim
  · trivial

theorem Coherence.step (coherent : w.Coherence) (sound : w.Sound) (usable : w.queue.Usable) {callback : Callback n}
    (orderly : w.Orderly callback) (unused : w.UnusedId callback) :
    (w.step check accepts callback).Coherence ∧ (w.step check accepts callback).queue.Usable := by
  have tells : ∀ {v : ConnectionRuntime n} {interaction : Interaction n}, v.Coherence →
      (∀ h current, acceptedSends h [interaction] = 0 ∧ pendingDataStep h current interaction = current) →
      (v.say interaction).Coherence := fun before silent => before.unmoved (unmoved_say _ _ silent)
  cases callback with
  | newConnection connection configured =>
    simp only [ConnectionRuntime.step, acceptConnection]
    split
    · exact ⟨coherent, usable⟩
    · exact ⟨tells (tells coherent fun _ _ => ⟨rfl, rfl⟩) fun _ _ => ⟨rfl, rfl⟩, usable⟩
  | connection connection event =>
    cases event with
    | peerStreamStarted stream streamId =>
      have told : (w.say (.streamStarted connection stream)).Coherence := tells coherent fun _ _ => ⟨rfl, rfl⟩
      simp only [ConnectionRuntime.step]
      rcases connectionCallback_started (w.say (.streamStarted connection stream)) connection stream streamId with
        same | closed | ⟨i, id, -, rfl, free, opened⟩
      · rw [same]
        exact ⟨told, usable⟩
      · rw [closed]
        exact ⟨tells told fun _ _ => ⟨rfl, rfl⟩, usable⟩
      · rw [opened]
        have unsent : acceptedSends stream (w.say (.streamStarted connection stream)).transport.transcript = 0 :=
          (acceptedSends_append stream _ _).trans (coherent.fresh stream orderly)
        exact ⟨tells (told.openSlot free rfl unused unsent) fun _ _ => ⟨rfl, rfl⟩, usable⟩
    | shutdownComplete =>
      simp only [ConnectionRuntime.step, connectionCallback]
      split
      · exact ⟨tells coherent fun _ _ => ⟨rfl, rfl⟩, usable⟩
      · exact ⟨coherent, usable⟩
    | other => exact ⟨coherent, usable⟩
  | stream stream event =>
    simp only [ConnectionRuntime.step]
    split
    case h_1 i serves => exact coherent.streamCallback sound usable serves orderly
    case h_2 => exact ⟨coherent, usable⟩

section Pends

/-- A slot with a pending send still serves its stream. -/
def Pends (w : ConnectionRuntime n) : Prop :=
  ∀ h i, pending h w.transport.transcript = some i → registered h w.transport.transcript = some i

theorem Pends.congr (pends : w.Pends) (same : after.transport.transcript = w.transport.transcript) : after.Pends := by
  intro g j
  rw [same]
  exact pends g j

theorem Pends.say (pends : w.Pends) {interaction : Interaction n}
    (register : ∀ g current, registeredStep g current interaction = current)
    (pend : ∀ g current, pendingStep g current interaction = current ∨ pendingStep g current interaction = none) :
    (w.say interaction).Pends := by
  intro g j waits
  change registered g (w.transport.transcript ++ [interaction]) = some j
  rw [registered_append, register]
  refine pends g j ?_
  have before : pendingStep g (pending g w.transport.transcript) interaction = some j :=
    (pending_append g _ interaction).symm.trans waits
  rcases pend g (pending g w.transport.transcript) with same | ended
  · rw [← before, same]
  · rw [ended] at before
    cases before

theorem Pends.dispatched (check : Nat → List UInt8 → UInt8) (accepts : List (Interaction n) → Bool) (pends : w.Pends)
    (sound : w.Sound) (source : Handle) (event : ShellEvent)
    (queue : EventQueue) : (w.dispatched check accepts source event queue).Pends := by
  obtain ⟨-, call⟩ := EventQueue.dispatchEvent_spec check (some (Transport.connectionRuntimeSend accepts))
    sound.adapter (w.delivered source event) event
  rcases call with same | ⟨f, call, callback, sent⟩
  · refine pends.congr ?_
    simp only [ConnectionRuntime.dispatched, dispatchOutcome, same]
    rfl
  · cases callback
    have transport : (w.dispatched check accepts source event queue).transport =
        (Transport.connectionRuntimeSend accepts call (w.delivered source event)).2 := sent
    rcases Transport.connectionRuntimeSend_cases (w.delivered source event) call with refused | ⟨j, used, -, sends⟩
    · refine pends.congr ?_
      rw [transport, refused]
      rfl
    · rcases Transport.runtimeSend_transcript accepts (w.delivered source event) j call with
        same | ⟨data, fin, accepted, deliveries, said⟩
      · refine pends.congr ?_
        rw [transport, sends, same]
        rfl
      · have serves : registered (w.slot j).runtime.stream w.transport.transcript = some j := by
          rw [slot, (sound.transport.bound j used).2.1]
          exact sound.transport.owner j used
        have told : (w.dispatched check accepts source event queue).transport.transcript =
            w.transport.transcript ++ [.streamSend (w.slot j).runtime.stream j data fin accepted deliveries] := by
          rw [transport, sends, said]
          rfl
        intro g k
        rw [told, pending_append, registered_append]
        simp only [pendingStep, registeredStep]
        split
        case isTrue here =>
          rintro ⟨⟩
          rw [← here.1]
          exact serves
        case isFalse => exact pends g k

theorem Pends.micros (pends : w.Pends) (sound : w.Sound) (pieces : Micros check accepts i h w after) : after.Pends := by
  induction pieces with
  | refl => exact pends
  | @tail between last first piece ih =>
    have soundBetween := (sound.micros first).1
    cases piece with
    | bytes | complete | reset => exact ih.dispatched check accepts soundBetween h _ _
    | fin =>
      have dispatched := ih.dispatched check accepts soundBetween h
        (.authenticatedStreamFin (between.slot i).runtime.streamId)
      exact (dispatched _).congr rfl
    | finRefused | resetPending => exact ih.congr rfl
    | protocolError => exact ih.say (fun _ _ => rfl) fun _ _ => Or.inl rfl

theorem Pends.heard (pends : w.Pends) (i : Fin n) (h : Handle) (event : StreamEvent n) : (w.heard i h event).Pends := by
  have told : (w.say (.streamCallback h event)).Pends := by
    refine pends.say (fun _ _ => rfl) fun g current => ?_
    cases event with
    | sendComplete clientContext canceled =>
      simp only [pendingStep]
      split
      · exact Or.inr rfl
      · exact Or.inl rfl
    | _ => exact Or.inl rfl
  rcases heard_cases w i h event with ⟨-, -, -, same⟩ | ⟨-, same⟩
  · rw [same]
    exact told.congr rfl
  · rw [same]
    exact told

/-- A stream without a pending send may be closed, and a stream may be given to a slot. -/
theorem Pends.register (pends : w.Pends) {stream : Handle} (idle : pending stream w.transport.transcript = none)
    {interaction : Interaction n} (transcript : after.transport.transcript = w.transport.transcript ++ [interaction])
    (register : ∀ g current, g ≠ stream → registeredStep g current interaction = current)
    (pend : ∀ g current, pendingStep g current interaction = current) : after.Pends := by
  intro g j
  rw [transcript, pending_append, pend, registered_append]
  intro waits
  have apart : g ≠ stream := by
    rintro rfl
    rw [idle] at waits
    cases waits
  rw [register g _ apart]
  exact pends g j waits

theorem Pends.step (pends : w.Pends) (coherent : w.Coherence) (sound : w.Sound) {callback : Callback n}
    (orderly : w.Orderly callback) : (w.step check accepts callback).Pends := by
  cases callback with
  | newConnection connection configured =>
    simp only [ConnectionRuntime.step, acceptConnection]
    split
    · exact pends
    · have handled : (w.say (.setConnectionHandler connection)).Pends :=
        pends.say (fun _ _ => rfl) fun _ _ => Or.inl rfl
      exact handled.say (fun _ _ => rfl) fun _ _ => Or.inl rfl
  | connection connection event =>
    cases event with
    | peerStreamStarted stream streamId =>
      have told : (w.say (.streamStarted connection stream)).Pends :=
        pends.say (fun _ _ => rfl) fun _ _ => Or.inl rfl
      have idle : pending stream (w.say (.streamStarted connection stream)).transport.transcript = none :=
        (pending_append stream _ _).trans (sound.transport.fresh stream orderly).2.1
      simp only [ConnectionRuntime.step]
      rcases connectionCallback_started (w.say (.streamStarted connection stream)) connection stream streamId with
        same | closed | ⟨i, id, -, rfl, -, opened⟩
      · rw [same]
        exact told
      · rw [closed]
        refine told.register idle rfl (fun g current apart => ?_) fun _ _ => rfl
        simp [registeredStep, apart.symm]
      · rw [opened]
        refine told.register idle rfl (fun g current apart => ?_) fun _ _ => rfl
        simp [registeredStep, apart.symm]
    | shutdownComplete =>
      simp only [ConnectionRuntime.step, connectionCallback]
      split
      · exact pends.say (fun _ _ => rfl) fun _ _ => Or.inl rfl
      · exact pends
    | other => exact pends
  | stream stream event =>
    simp only [ConnectionRuntime.step]
    split
    case h_2 => exact pends
    case h_1 i serves =>
      have notStart : ∀ id, event ≠ .startComplete id := by
        rintro id rfl
        exact orderly
      obtain ⟨heard, -⟩ := sound.heard serves event
      have pieces : Micros check accepts i stream (w.heard i stream event)
          ((w.say (.streamCallback stream event)).runtimeStreamCallback check accepts i stream event).2 :=
        sound.serve notStart
      have served := (pends.heard i stream event).micros heard pieces
      simp only [ConnectionRuntime.streamCallback]
      split
      case isFalse => exact served
      case isTrue done =>
        obtain ⟨-, rfl⟩ := done
        obtain ⟨usedAfter, quietAfter⟩ := coherent.shutdown_quiet check accepts sound serves orderly
        obtain ⟨soundAfter, -⟩ := sound.runtimeStreamCallback check accepts serves .shutdownComplete
        have idle := (soundAfter.transport.sending i usedAfter).trans (if_neg (Bool.eq_false_iff.mp quietAfter))
        refine served.register idle (releaseSlot_transcript usedAfter soundAfter) ?_ fun _ _ => rfl
        intro g current apart
        simp [registeredStep, apart.symm, slot]

end Pends

instance (w : ConnectionRuntime n) : (callback : Callback n) → Decidable (w.Orderly callback)
  | .connection _ (.peerStreamStarted stream _) => inferInstanceAs (Decidable (¬ Started stream w.transport.transcript))
  | .stream _ (.startComplete _) => inferInstanceAs (Decidable False)
  | .stream h (.sendComplete clientContext _) =>
    inferInstanceAs (Decidable (clientContext ≠ none ∧ pending h w.transport.transcript = clientContext))
  | .stream h .shutdownComplete => inferInstanceAs (Decidable (pending h w.transport.transcript = none))
  | .newConnection .. | .connection _ .shutdownComplete | .connection _ .other | .stream _ (.receive ..)
  | .stream _ .peerSendShutdown | .stream _ .peerSendAborted | .stream _ .peerReceiveAborted | .stream _ .other =>
    inferInstanceAs (Decidable True)

/-- Everything that holds between two callbacks of an orderly run. -/
structure InOrder (w : ConnectionRuntime n) : Prop where
  sound : w.Sound
  coherent : w.Coherence
  usable : w.queue.Usable
  pends : w.Pends

theorem InOrder.step (inOrder : w.InOrder) {callback : Callback n} (orderly : w.Orderly callback)
    (unused : w.UnusedId callback) : (w.step check accepts callback).InOrder := by
  obtain ⟨sound, coherent, usable, pends⟩ := inOrder
  obtain ⟨coherentAfter, usableAfter⟩ := coherent.step sound usable orderly unused
  exact ⟨sound.step orderly.named.fresh, coherentAfter, usableAfter, pends.step coherent sound orderly⟩

theorem init_inOrder (configuration : Handle) {responseBuffer sendBuffer : Option (List UInt8)}
    {responseCapacity sendCapacity : Nat} (responseRoom : ∀ b ∈ responseBuffer, responseCapacity ≤ b.length)
    (sendRoom : ∀ b ∈ sendBuffer, sendCapacity ≤ b.length) {events : List ShellEvent} {capacity : Nat}
    (pos : 0 < capacity) (small : capacity < 2 ^ 32) (room : capacity ≤ events.length)
    (ingressCapacities : Fin n → Nat) :
    (init configuration (Adapter.init responseBuffer responseCapacity sendBuffer sendCapacity)
      (EventQueue.init (some events) capacity) ingressCapacities).InOrder where
  sound := init_sound (Adapter.init_valid responseRoom sendRoom)
    (EventQueue.init_idle small (by rintro _ ⟨⟩; exact room)) configuration ingressCapacities
  coherent := ⟨nofun, nofun, nofun, nofun, fun _ => Nat.zero_le 1, fun _ _ => rfl⟩
  usable := ⟨nofun, pos⟩
  pends := nofun

/-- The end of a pending send succeeds and closes the entry of its stream, and no other. -/
theorem InOrder.sendComplete (check : Nat → List UInt8 → UInt8) (accepts : List (Interaction n) → Bool)
    (inOrder : w.InOrder) (waits : pending h w.transport.transcript = some i) (canceled : Bool) :
    ∃ after, registered h w.transport.transcript = some i ∧
      (w.say (.streamCallback h (.sendComplete (some i) canceled))).streamCallback check accepts h i
        (.sendComplete (some i) canceled) = (.success, after) ∧
      w.adapter.connection.entry (w.slot i).runtime.streamId ≠ none ∧
      after.adapter.connection.entry (w.slot i).runtime.streamId = none ∧
      ∀ id, id ≠ (w.slot i).runtime.streamId → after.adapter.connection.entry id = w.adapter.connection.entry id := by
  obtain ⟨sound, coherent, usable, pends⟩ := inOrder
  have serves := pends h i waits
  obtain ⟨used, -, -⟩ := sound.transport.served h i serves
  have sending : (w.slot i).runtime.sendInFlight = true := by
    rw [sound.pending_eq serves] at waits
    by_contra quiet
    rw [if_neg quiet] at waits
    cases waits
  obtain ⟨queue, -, done⟩ := coherent.sendComplete_eq check accepts sound usable used sending h canceled
  obtain ⟨k, message, ready⟩ := (coherent.flying i used sending).ready
  obtain ⟨-, gone, kept⟩ := sound.adapter.connection.close_spec (w.slot i).runtime.streamId
  refine ⟨w.completed i h canceled queue, serves, ?_, ?_, gone, kept⟩
  · simp only [ConnectionRuntime.streamCallback, done, reduceCtorEq, and_false, if_false]
  · rw [(coherent.flying i used sending).id_eq, ready]
    exact Option.some_ne_none _

end ConnectionRuntime

/-- In every orderly run of streams with handles and IDs of their own, the three records of a
send in flight agree, its bytes stay, its end is taken, and no stream is sent on twice. -/
theorem send_slot_coherent {n : Nat} (check : Nat → List UInt8 → UInt8) (accepts : List (Interaction n) → Bool)
    (configuration : Handle) (responseBuffer sendBuffer : Option (List UInt8)) (responseCapacity sendCapacity : Nat)
    (responseRoom : ∀ b ∈ responseBuffer, responseCapacity ≤ b.length)
    (sendRoom : ∀ b ∈ sendBuffer, sendCapacity ≤ b.length) (events : List ShellEvent) (capacity : Nat)
    (pos : 0 < capacity) (small : capacity < 2 ^ 32) (room : capacity ≤ events.length)
    (ingressCapacities : Fin n → Nat) (callbacks : List (Callback n))
    (apart : (callbacks.filterMap startedStreamId).Nodup) :
    let start := ConnectionRuntime.init configuration
      (Adapter.init responseBuffer responseCapacity sendBuffer sendCapacity) (EventQueue.init (some events) capacity)
      ingressCapacities
    Guarded (fun w callback => w.step check accepts callback) ConnectionRuntime.Orderly start callbacks →
    let w := start.run check accepts callbacks
    (w.adapter.sendInFlight = true ↔ ∃! i, (w.slot i).inUse = true ∧ (w.slot i).runtime.sendInFlight = true) ∧
    (∀ i, (w.slot i).inUse = true → (w.slot i).runtime.sendInFlight = true →
      (w.slot i).runtime.streamId = w.adapter.sendStreamId ∧ (w.slot i).runtime.responseLen = w.adapter.sendLen ∧
      (∃ k message, w.adapter.connection.entry w.adapter.sendStreamId = some ⟨.processing k, message⟩) ∧
      ∃ buffer, w.adapter.sendBuffer = some buffer ∧ w.adapter.sendLen ≤ buffer.length ∧
        pendingData (w.slot i).stream w.transport.transcript = some (buffer.take w.adapter.sendLen)) ∧
    (∀ h i canceled, pending h w.transport.transcript = some i → ∃ after,
      registered h w.transport.transcript = some i ∧
      (w.say (.streamCallback h (.sendComplete (some i) canceled))).streamCallback check accepts h i
        (.sendComplete (some i) canceled) = (.success, after) ∧
      w.adapter.connection.entry (w.slot i).runtime.streamId ≠ none ∧
      after.adapter.connection.entry (w.slot i).runtime.streamId = none ∧
      ∀ id, id ≠ (w.slot i).runtime.streamId → after.adapter.connection.entry id = w.adapter.connection.entry id) ∧
    ∀ h, acceptedSends h w.transport.transcript ≤ 1 := by
  intro start guarded w
  have initial : start.InOrder := ConnectionRuntime.init_inOrder configuration responseRoom sendRoom pos small room
    ingressCapacities
  have unused := initial.sound.unusedIds (fun _ _ orderly => orderly.named) [] nofun
    (fun id present => absurd (connectionInit_entry id) present) apart guarded
  have inOrder : w.InOrder :=
    unused.invariant (fun _ _ before allowed => before.step allowed.1 allowed.2.1) initial
  obtain ⟨sound, coherent, -, -⟩ := id inOrder
  refine ⟨⟨?_, ?_⟩, ?_, fun h i canceled waits => inOrder.sendComplete check accepts waits canceled, coherent.once⟩
  · intro busy
    obtain ⟨i, used, sending⟩ := coherent.landing busy
    exact ⟨i, ⟨used, sending⟩, fun j other => coherent.alone used sending other.1 other.2⟩
  · rintro ⟨i, ⟨used, sending⟩, -⟩
    exact (coherent.flying i used sending).busy
  · intro i used sending
    obtain ⟨busy, id_eq, len_eq, -, ready, buffer, stored, data⟩ := coherent.flying i used sending
    have room := sound.adapter.send_room buffer stored
    have fits := (sound.adapter.in_flight busy).2.2
    exact ⟨id_eq, len_eq, ready, buffer, stored, Nat.le_trans fits room, data⟩

/-- Two streams; while the answer of the first one is in flight, both peers stop receiving. -/
def abortedReceivers : List (Callback 4) :=
  [.newConnection 1 .success, .connection 1 (.peerStreamStarted 11 (some 0)),
    .connection 1 (.peerStreamStarted 12 (some 4)), .stream 12 (.receive [[0, 19, 0]] false),
    .stream 11 (.receive [0 :: 19 :: addressQuery] true), .stream 12 .peerReceiveAborted,
    .stream 11 .peerReceiveAborted]

theorem send_slot_coherent_aborted :
    let w := smallServer.run checkQuestion (fun _ => true) abortedReceivers
    pending 11 w.transport.transcript = some 0 ∧
      (∃! i, (w.slot i).inUse = true ∧ (w.slot i).runtime.sendInFlight = true) ∧
      (∃ after, (w.say (.streamCallback 11 (.sendComplete (some 0) false))).streamCallback checkQuestion (fun _ => true)
        11 0 (.sendComplete (some 0) false) = (.success, after) ∧ after.adapter.connection.entry 0 = none) ∧
      ∀ h, acceptedSends h w.transport.transcript ≤ 1 := by
  obtain ⟨busy, -, completes, once⟩ := send_slot_coherent checkQuestion (fun _ => true) 9
    (some (List.replicate 64 255)) (some (List.replicate 64 7)) 64 64 (by simp) (by simp) [.readyResponse 0] 1
    (by decide) (by decide) (by decide) (fun _ => 4096) abortedReceivers (by decide) (by decide +kernel)
  obtain ⟨after, -, done, -, gone, -⟩ := completes 11 0 false (by decide +kernel)
  exact ⟨by decide +kernel, busy.mp (by decide +kernel), ⟨after, done, gone⟩, once⟩

end Ism
