import Mathlib.Logic.Relation
import Ism.AdapterTable
import Ism.Lib.Runs
import Ism.Registry

namespace Ism

open Lib

namespace ConnectionRuntime

variable {n : Nat} (check : Nat → List UInt8 → UInt8) (accepts : List (Interaction n) → Bool)

/-- The transport once the histories know about an event. -/
def delivered (w : ConnectionRuntime n) (source : Handle) (event : ShellEvent) : Transport n :=
  { w.transport with histories := event.histories source w.adapter w.transport.histories }

/-- What an event does once it went through an empty queue. -/
def dispatchOutcome (w : ConnectionRuntime n) (source : Handle) (event : ShellEvent) : Bool × Adapter × Transport n :=
  EventQueue.dispatchEvent check (some (Transport.connectionRuntimeSend accepts)) w.adapter (w.delivered source event)
    event

/-- The state after that; `queue` is what is left of the queue. -/
def dispatched (w : ConnectionRuntime n) (source : Handle) (event : ShellEvent) (queue : EventQueue) :
    ConnectionRuntime n :=
  { w with
    queue := queue
    adapter := (w.dispatchOutcome check accepts source event).2.1
    transport := (w.dispatchOutcome check accepts source event).2.2 }

variable {check accepts} {w : ConnectionRuntime n}

/-- Between callbacks the queue is empty, so that a callback dispatches its own event. -/
theorem enqueueAndDispatch_cases (check : Nat → List UInt8 → UInt8) (accepts : List (Interaction n) → Bool)
    (idle : w.queue.Idle) (source : Handle) (event : ShellEvent) :
    (¬ w.queue.Usable ∧ w.enqueueAndDispatch check accepts source event = (false, w)) ∨
    ∃ queue : EventQueue, queue.Idle ∧ w.queue.Usable ∧ queue.Usable ∧
      w.enqueueAndDispatch check accepts source event =
        ((w.dispatchOutcome check accepts source event).1, w.dispatched check accepts source event queue) := by
  by_cases usable : w.queue.Usable
  · obtain ⟨queued, after, enqueued, dequeued, idleAfter, usableAfter⟩ := idle.enqueue_dequeue usable event
    refine Or.inr ⟨after, idleAfter, usable, usableAfter, ?_⟩
    simp only [enqueueAndDispatch, enqueued, EventQueue.dispatchOne, dequeued]
    rfl
  · exact Or.inl ⟨usable, by simp only [enqueueAndDispatch, EventQueue.enqueue_of_not_usable usable]⟩

/-- Bytes are refused as they are, or they reach the adapter and no FIN was taken before them. -/
theorem copyEnqueueAndDispatch_cases (check : Nat → List UInt8 → UInt8) (accepts : List (Interaction n) → Bool)
    (idle : w.queue.Idle) (i : Fin n) (source : Handle) {data : List UInt8} (nonempty : data ≠ []) :
    w.copyEnqueueAndDispatch check accepts i source data = (false, w) ∨
    ∃ queue : EventQueue, queue.Idle ∧ queue.Usable ∧ (w.slot i).runtime.receivedFin = false ∧
      w.copyEnqueueAndDispatch check accepts i source data =
        ((w.dispatchOutcome check accepts source
            (.authenticatedStreamBytes (w.slot i).runtime.streamId data)).1,
          w.dispatched check accepts source (.authenticatedStreamBytes (w.slot i).runtime.streamId data) queue) := by
  simp only [copyEnqueueAndDispatch]
  split
  case isTrue => exact Or.inl rfl
  case isFalse pass =>
    have unfinished : (w.slot i).runtime.receivedFin = false := by
      rw [← Bool.not_eq_true]
      exact fun finished => pass (Or.inr (Or.inr (Or.inr ⟨finished, List.length_pos_iff.mpr nonempty⟩)))
    rcases enqueueAndDispatch_cases check accepts idle source
        (.authenticatedStreamBytes (w.slot i).runtime.streamId data) with
      ⟨-, refused⟩ | ⟨queue, idleAfter, -, usable, done⟩
    · exact Or.inl refused
    · exact Or.inr ⟨queue, idleAfter, usable, unfinished, done⟩

/-- A reset does nothing, or it reaches the adapter. -/
theorem onStreamReset_cases (check : Nat → List UInt8 → UInt8) (accepts : List (Interaction n) → Bool)
    (idle : w.queue.Idle) (i : Fin n) (source : Handle) :
    w.onStreamReset check accepts i source = (false, w) ∨
    ∃ queue : EventQueue, queue.Idle ∧ queue.Usable ∧
      w.onStreamReset check accepts i source =
        ((w.dispatchOutcome check accepts source (.streamReset (w.slot i).runtime.streamId)).1,
          w.dispatched check accepts source (.streamReset (w.slot i).runtime.streamId) queue) := by
  simp only [onStreamReset]
  split
  · exact Or.inl rfl
  · rcases enqueueAndDispatch_cases check accepts idle source (.streamReset (w.slot i).runtime.streamId) with
      ⟨-, refused⟩ | ⟨queue, idleAfter, -, usable, done⟩
    · exact Or.inl refused
    · exact Or.inr ⟨queue, idleAfter, usable, done⟩

/-- What one stream callback can do to the state, piece by piece. It runs for the slot
`i` and the stream `h`. -/
inductive Micro (check : Nat → List UInt8 → UInt8) (accepts : List (Interaction n) → Bool) (i : Fin n) (h : Handle) :
    ConnectionRuntime n → ConnectionRuntime n → Prop
  | bytes {w : ConnectionRuntime n} {data : List UInt8} {queue : EventQueue} (idle : queue.Idle)
    (nonempty : data ≠ []) (unfinished : (w.slot i).runtime.receivedFin = false) (usable : queue.Usable) :
    Micro check accepts i h w
      (w.dispatched check accepts h (.authenticatedStreamBytes (w.slot i).runtime.streamId data) queue)
  | fin {w : ConnectionRuntime n} {queue : EventQueue} (idle : queue.Idle)
    (unfinished : (w.slot i).runtime.receivedFin = false) (usable : queue.Usable) :
    Micro check accepts i h w
      ((w.dispatched check accepts h (.authenticatedStreamFin (w.slot i).runtime.streamId) queue).modifyRuntime i
        fun runtime => { runtime with
          receivedFin := (w.dispatchOutcome check accepts h (.authenticatedStreamFin (w.slot i).runtime.streamId)).1 })
  | finRefused {w : ConnectionRuntime n} (unfinished : (w.slot i).runtime.receivedFin = false) :
    Micro check accepts i h w (w.modifyRuntime i fun runtime => { runtime with receivedFin := false })
  | complete {w : ConnectionRuntime n} {len : Nat} {dropped : Bool} {queue : EventQueue} (idle : queue.Idle)
    (quiet : (w.slot i).runtime.sendInFlight = false) (usable : queue.Usable) :
    Micro check accepts i h w
      (w.dispatched check accepts h (.sendComplete (w.slot i).runtime.streamId len dropped) queue)
  | reset {w : ConnectionRuntime n} {queue : EventQueue} (idle : queue.Idle)
    (quiet : (w.slot i).runtime.sendInFlight = false) (usable : queue.Usable) :
    Micro check accepts i h w (w.dispatched check accepts h (.streamReset (w.slot i).runtime.streamId) queue)
  | resetPending {w : ConnectionRuntime n} (busy : (w.slot i).runtime.sendInFlight = true) :
    Micro check accepts i h w (w.modifyRuntime i fun runtime => { runtime with resetPending := true })
  | protocolError {w : ConnectionRuntime n} :
    Micro check accepts i h w (w.say (.connectionShutdown (w.slot i).runtime.connection 2))

variable {i : Fin n} {h : Handle}

theorem Micro.idle {after : ConnectionRuntime n} (micro : Micro check accepts i h w after) (before : w.queue.Idle) :
    after.queue.Idle := by
  cases micro with
  | bytes idle | fin idle | complete idle | reset idle => exact idle
  | finRefused | resetPending | protocolError => exact before

/-- Any number of pieces of a stream callback. -/
abbrev Micros (check : Nat → List UInt8 → UInt8) (accepts : List (Interaction n) → Bool) (i : Fin n) (h : Handle) :
    ConnectionRuntime n → ConnectionRuntime n → Prop :=
  Relation.ReflTransGen (Micro check accepts i h)

theorem Micros.invariant {Inv : ConnectionRuntime n → Prop}
    (keeps : ∀ w after, Micro check accepts i h w after → Inv w → Inv after) {after : ConnectionRuntime n}
    (micros : Micros check accepts i h w after) (start : Inv w) : Inv after := by
  induction micros with
  | refl => exact start
  | tail _ last ih => exact keeps _ _ last ih

theorem Micros.idle {after : ConnectionRuntime n} (micros : Micros check accepts i h w after)
    (before : w.queue.Idle) : after.queue.Idle :=
  micros.invariant (fun _ _ micro => micro.idle) before

theorem Micros.usable {after : ConnectionRuntime n} (micros : Micros check accepts i h w after)
    (before : w.queue.Usable) : after.queue.Usable := by
  have keeps : ∀ w after, Micro check accepts i h w after → w.queue.Usable → after.queue.Usable := by
    intro w after micro usable
    cases micro with
    | bytes _ _ _ kept | fin _ _ kept | complete _ _ kept | reset _ _ kept => exact kept
    | finRefused | resetPending | protocolError => exact usable
  exact micros.invariant keeps before

theorem copyEnqueueAndDispatch_micros (idle : w.queue.Idle) {data : List UInt8} (nonempty : data ≠ []) :
    Micros check accepts i h w (w.copyEnqueueAndDispatch check accepts i h data).2 := by
  rcases copyEnqueueAndDispatch_cases check accepts idle i h nonempty with
    refused | ⟨queue, idleAfter, usable, unfinished, taken⟩
  · rw [refused]
  · rw [taken]
    exact Relation.ReflTransGen.single (Micro.bytes idleAfter nonempty unfinished usable)

theorem receiveBuffers_micros (buffers : List (List UInt8)) (idle : w.queue.Idle) :
    Micros check accepts i h w (receiveBuffers check accepts i h buffers w).2 := by
  induction buffers generalizing w with
  | nil => exact Relation.ReflTransGen.refl
  | cons buffer buffers ih =>
    rw [receiveBuffers]
    split
    case isTrue => exact ih idle
    case isFalse nonempty =>
      have first : Micros check accepts i h w (w.copyEnqueueAndDispatch check accepts i h buffer).2 :=
        copyEnqueueAndDispatch_micros idle fun empty => nonempty (by rw [empty]; rfl)
      cases taken : w.copyEnqueueAndDispatch check accepts i h buffer with
      | mk done after =>
        rw [taken] at first
        cases done with
        | true => exact first.trans (ih (first.idle idle))
        | false => exact first

theorem onFin_micros (idle : w.queue.Idle) : Micros check accepts i h w (w.onFin check accepts i h).2 := by
  simp only [onFin]
  split_ifs with detached finished busy
  · exact Relation.ReflTransGen.refl
  · exact Relation.ReflTransGen.refl
  · exact Relation.ReflTransGen.refl
  · rcases enqueueAndDispatch_cases check accepts idle h _ with ⟨-, refused⟩ | ⟨queue, idleAfter, -, usable, done⟩
    · rw [refused]
      exact Relation.ReflTransGen.single (Micro.finRefused (Bool.not_eq_true _ ▸ finished))
    · rw [done]
      dsimp only
      exact Relation.ReflTransGen.single (Micro.fin idleAfter (Bool.not_eq_true _ ▸ finished) usable)

theorem onMsquicReceive_micros (idle : w.queue.Idle) (buffers : List (List UInt8)) (fin : Bool) :
    Micros check accepts i h w (w.onMsquicReceive check accepts i h buffers fin).2 := by
  have first : Micros check accepts i h w (receiveBuffers check accepts i h buffers w).2 :=
    receiveBuffers_micros buffers idle
  unfold onMsquicReceive
  cases taken : receiveBuffers check accepts i h buffers w with
  | mk done after =>
    rw [taken] at first
    cases done with
    | false => exact first
    | true =>
      cases fin with
      | false => exact first
      | true =>
        dsimp only
        rw [if_neg Bool.true_eq_false.mp]
        exact first.trans (onFin_micros (first.idle idle))

theorem deliveryStatus_micros {result : Bool × ConnectionRuntime n} (micros : Micros check accepts i h w result.2) :
    Micros check accepts i h w (deliveryStatus i result).2 := by
  obtain ⟨done, after⟩ := result
  cases done with
  | true => exact micros
  | false =>
    simp only [deliveryStatus, protocolError]
    split
    · exact micros.tail Micro.protocolError
    · exact micros

theorem resetStatus_snd (result : Bool × ConnectionRuntime n) : (resetStatus result).2 = result.2 := by
  obtain ⟨done, after⟩ := result
  cases done <;> rfl

theorem onReset_micros (idle : w.queue.Idle) : Micros check accepts i h w (w.onReset check accepts i h).2 := by
  unfold onReset
  split
  case isTrue busy => exact Relation.ReflTransGen.single (Micro.resetPending busy)
  case isFalse quiet =>
    rw [resetStatus_snd]
    rcases onStreamReset_cases check accepts idle i h with refused | ⟨queue, idleAfter, usable, done⟩
    · rw [refused]
    · rw [done]
      exact Relation.ReflTransGen.single (Micro.reset idleAfter (Bool.not_eq_true _ ▸ quiet) usable)

/-- A stream callback other than a start or the end of the slot's own send. -/
theorem runtimeStreamCallback_micros (idle : w.queue.Idle) {event : StreamEvent n}
    (notStart : ∀ id, event ≠ .startComplete id)
    (notDone : ∀ canceled, event = .sendComplete (some i) canceled → (w.slot i).runtime.sendInFlight = false) :
    Micros check accepts i h w (w.runtimeStreamCallback check accepts i h event).2 := by
  cases event with
  | startComplete id => exact absurd rfl (notStart id)
  | receive buffers fin => exact deliveryStatus_micros (onMsquicReceive_micros idle buffers fin)
  | peerSendShutdown => exact deliveryStatus_micros (onFin_micros idle)
  | sendComplete clientContext canceled =>
    have stop : clientContext ≠ some i ∨ (w.slot i).runtime.sendInFlight = false := by
      by_cases own : clientContext = some i
      · exact Or.inr (notDone canceled (by rw [own]))
      · exact Or.inl own
    simp only [runtimeStreamCallback, if_pos stop]
    exact Relation.ReflTransGen.refl
  | peerSendAborted | peerReceiveAborted | shutdownComplete => exact onReset_micros idle
  | other => exact Relation.ReflTransGen.refl

/-- The end of the slot's own send. -/
theorem runtimeStreamCallback_sendComplete (idle : w.queue.Idle) (busy : (w.slot i).runtime.sendInFlight = true)
    (canceled : Bool) :
    Micros check accepts i h (w.modifyRuntime i RuntimeStream.clearSend)
      (w.runtimeStreamCallback check accepts i h (.sendComplete (some i) canceled)).2 := by
  have pass : ¬ ((some i : Option (Fin n)) ≠ some i ∨ (w.slot i).runtime.sendInFlight = false) := by
    simp [busy]
  have quiet : ((w.modifyRuntime i RuntimeStream.clearSend).slot i).runtime.sendInFlight = false := by
    simp only [modifyRuntime, slot, Transport.modifyRuntime_self]
    rfl
  simp only [runtimeStreamCallback, if_neg pass]
  split
  · exact Relation.ReflTransGen.refl
  · rw [resetStatus_snd]
    simp only [onSendComplete]
    split
    · exact Relation.ReflTransGen.refl
    · have idleNow : (w.modifyRuntime i RuntimeStream.clearSend).queue.Idle := idle
      rcases enqueueAndDispatch_cases check accepts idleNow h _ with ⟨-, refused⟩ | ⟨queue, idleAfter, -, usable, done⟩
      · rw [refused]
      · rw [done]
        dsimp only
        exact Relation.ReflTransGen.single (Micro.complete idleAfter quiet usable)

/-- The state between two callbacks. -/
structure Sound (w : ConnectionRuntime n) : Prop where
  queue : w.queue.Idle
  adapter : w.adapter.Valid
  transport : w.transport.Sound

theorem Sound.dispatched (sound : w.Sound) (source : Handle) (event : ShellEvent) {queue : EventQueue}
    (idle : queue.Idle) : (w.dispatched check accepts source event queue).Sound := by
  obtain ⟨valid, call⟩ := EventQueue.dispatchEvent_spec check (some (Transport.connectionRuntimeSend accepts))
    sound.adapter (w.delivered source event) event
  have delivered : (w.delivered source event).Sound := sound.transport.withHistories _
  refine ⟨idle, valid, ?_⟩
  simp only [ConnectionRuntime.dispatched, dispatchOutcome]
  rcases call with same | ⟨f, call, callback, sent⟩
  · rw [same]
    exact delivered
  · cases callback
    rw [sent]
    exact delivered.connectionRuntimeSend call

theorem Sound.modifyRuntime (sound : w.Sound) {f : RuntimeStream → RuntimeStream}
    (attached : (f (w.slot i).runtime).attached = (w.slot i).runtime.attached)
    (stream : (f (w.slot i).runtime).stream = (w.slot i).runtime.stream)
    (sending : (f (w.slot i).runtime).sendInFlight = (w.slot i).runtime.sendInFlight) :
    (w.modifyRuntime i f).Sound :=
  ⟨sound.queue, sound.adapter, sound.transport.modifyRuntime attached stream sending⟩

theorem Sound.micro {after : ConnectionRuntime n} (micro : Micro check accepts i h w after) (sound : w.Sound) :
    after.Sound := by
  cases micro with
  | bytes idle => exact sound.dispatched h _ idle
  | fin idle => exact (sound.dispatched h _ idle).modifyRuntime rfl rfl rfl
  | finRefused => exact sound.modifyRuntime rfl rfl rfl
  | complete idle => exact sound.dispatched h _ idle
  | reset idle => exact sound.dispatched h _ idle
  | resetPending => exact sound.modifyRuntime rfl rfl rfl
  | protocolError => exact ⟨sound.queue, sound.adapter, sound.transport.say fun _ => ⟨rfl, rfl, nofun⟩⟩

theorem sameStreams_modifyRuntime (w : ConnectionRuntime n) {f : RuntimeStream → RuntimeStream}
    (kept : (f (w.slot i).runtime).streamId = (w.slot i).runtime.streamId) :
    Transport.SameStreams w.transport (w.modifyRuntime i f).transport :=
  Transport.SameStreams.modifyRuntime _ kept

theorem Sound.sameStreams {after : ConnectionRuntime n} (micro : Micro check accepts i h w after) (sound : w.Sound) :
    Transport.SameStreams w.transport after.transport := by
  have dispatch : ∀ event queue, Transport.SameStreams w.transport
      (w.dispatched check accepts h event queue).transport := by
    intro event queue
    obtain ⟨-, call⟩ := EventQueue.dispatchEvent_spec check (some (Transport.connectionRuntimeSend accepts))
      sound.adapter (w.delivered h event) event
    have delivered : Transport.SameStreams w.transport (w.delivered h event) := fun _ => ⟨rfl, rfl, rfl⟩
    simp only [ConnectionRuntime.dispatched, dispatchOutcome]
    rcases call with same | ⟨f, call, callback, sent⟩
    · rw [same]
      exact delivered
    · cases callback
      rw [sent]
      exact delivered.trans (Transport.SameStreams.connectionRuntimeSend _ call)
  cases micro with
  | bytes => exact dispatch _ _
  | fin => exact (dispatch _ _).trans (sameStreams_modifyRuntime _ rfl)
  | finRefused => exact sameStreams_modifyRuntime w rfl
  | complete => exact dispatch _ _
  | reset => exact dispatch _ _
  | resetPending => exact sameStreams_modifyRuntime w rfl
  | protocolError => exact Transport.SameStreams.refl _

theorem Sound.micros {after : ConnectionRuntime n} (micros : Micros check accepts i h w after) (sound : w.Sound) :
    after.Sound ∧ Transport.SameStreams w.transport after.transport := by
  induction micros with
  | refl => exact ⟨sound, Transport.SameStreams.refl _⟩
  | tail _ last ih => exact ⟨ih.1.micro last, ih.2.trans (ih.1.sameStreams last)⟩

/-- A callback is told to the transcript before it is served; only the end of the slot's
own send needs the record of the slot to change with it. -/
theorem Sound.hear (sound : w.Sound) (serves : registered h w.transport.transcript = some i) {event : StreamEvent n}
    (notDone : ∀ canceled, event = .sendComplete (some i) canceled → (w.slot i).runtime.sendInFlight = false) :
    (w.say (.streamCallback h event)).Sound := by
  obtain ⟨used, named, -⟩ := sound.transport.served h i serves
  refine ⟨sound.queue, sound.adapter, sound.transport.say fun g => ⟨rfl, ?_, nofun⟩⟩
  cases event with
  | sendComplete clientContext canceled =>
    simp only [pendingStep]
    split
    case isFalse => rfl
    case isTrue hit =>
      obtain ⟨rfl, own⟩ := hit
      have pends := sound.transport.sending i used
      rw [named] at pends
      split at pends
      case isTrue busy =>
        have quiet := notDone canceled (by rw [own, pends])
        rw [slot, busy] at quiet
        cases quiet
      case isFalse => exact pends.symm
  | _ => rfl

theorem Sound.hearShutdown (sound : w.Sound) (serves : registered h w.transport.transcript = some i) :
    (w.say (.streamCallback h .shutdownComplete)).Sound :=
  sound.hear serves nofun

theorem Sound.hearOwn (sound : w.Sound) (serves : registered h w.transport.transcript = some i)
    (busy : (w.slot i).runtime.sendInFlight = true) (canceled : Bool) :
    ((w.say (.streamCallback h (.sendComplete (some i) canceled))).modifyRuntime i RuntimeStream.clearSend).Sound := by
  obtain ⟨used, named, -⟩ := sound.transport.served h i serves
  refine ⟨sound.queue, sound.adapter, sound.transport.update used rfl rfl (fun _ _ => rfl) (fun _ => nofun) ?_ ?_⟩
  · have pends := sound.transport.sending i used
    rw [if_pos (show (w.transport.slots i).runtime.sendInFlight = true from busy)] at pends
    rw [pends, named]
    simp [pendingStep, RuntimeStream.clearSend]
  · intro g current apart
    rw [named] at apart
    simp [pendingStep, apart.symm]

/-- Where the pieces of a stream callback begin. -/
def heard (w : ConnectionRuntime n) (i : Fin n) (h : Handle) (event : StreamEvent n) : ConnectionRuntime n :=
  match event with
  | .sendComplete (some j) _ =>
    if j = i ∧ (w.slot i).runtime.sendInFlight = true then
      (w.say (.streamCallback h event)).modifyRuntime i RuntimeStream.clearSend
    else w.say (.streamCallback h event)
  | _ => w.say (.streamCallback h event)

theorem heard_cases (w : ConnectionRuntime n) (i : Fin n) (h : Handle) (event : StreamEvent n) :
    (∃ canceled, event = .sendComplete (some i) canceled ∧ (w.slot i).runtime.sendInFlight = true ∧
      w.heard i h event = (w.say (.streamCallback h event)).modifyRuntime i RuntimeStream.clearSend) ∨
    ((∀ canceled, event = .sendComplete (some i) canceled → (w.slot i).runtime.sendInFlight = false) ∧
      w.heard i h event = w.say (.streamCallback h event)) := by
  by_cases own : ∃ canceled, event = .sendComplete (some i) canceled
  · obtain ⟨canceled, rfl⟩ := own
    cases busy : (w.slot i).runtime.sendInFlight with
    | true => exact Or.inl ⟨canceled, rfl, rfl, by simp [heard, busy]⟩
    | false => exact Or.inr ⟨fun _ _ => rfl, by simp [heard, busy]⟩
  · refine Or.inr ⟨fun canceled same => absurd ⟨canceled, same⟩ own, ?_⟩
    unfold heard
    split
    case h_1 j canceled =>
      rw [if_neg]
      rintro ⟨rfl, -⟩
      exact own ⟨canceled, rfl⟩
    case h_2 => rfl

theorem Sound.heard (sound : w.Sound) (serves : registered h w.transport.transcript = some i) (event : StreamEvent n) :
    (w.heard i h event).Sound ∧ Transport.SameStreams w.transport (w.heard i h event).transport := by
  rcases heard_cases w i h event with ⟨canceled, rfl, busy, same⟩ | ⟨notDone, same⟩
  · rw [same]
    exact ⟨sound.hearOwn serves busy canceled, sameStreams_modifyRuntime (w.say _) rfl⟩
  · rw [same]
    exact ⟨sound.hear serves notDone, Transport.SameStreams.refl _⟩

/-- Every stream callback but a start is a run of pieces. -/
theorem Sound.serve (sound : w.Sound) {event : StreamEvent n} (notStart : ∀ id, event ≠ .startComplete id) :
    Micros check accepts i h (w.heard i h event)
      ((w.say (.streamCallback h event)).runtimeStreamCallback check accepts i h event).2 := by
  have idle : (w.say (.streamCallback h event)).queue.Idle := sound.queue
  rcases heard_cases w i h event with ⟨canceled, rfl, busy, same⟩ | ⟨notDone, same⟩
  · rw [same]
    exact runtimeStreamCallback_sendComplete idle busy canceled
  · rw [same]
    exact runtimeStreamCallback_micros idle notStart notDone

/-- Serving a stream callback, apart from giving up the slot. -/
theorem Sound.runtimeStreamCallback (check : Nat → List UInt8 → UInt8) (accepts : List (Interaction n) → Bool)
    (sound : w.Sound) (serves : registered h w.transport.transcript = some i)
    (event : StreamEvent n) :
    ((w.say (.streamCallback h event)).runtimeStreamCallback check accepts i h event).2.Sound ∧
      ∀ j, (((w.say (.streamCallback h event)).runtimeStreamCallback check accepts i h event).2.slot j).inUse =
          (w.slot j).inUse ∧
        (((w.say (.streamCallback h event)).runtimeStreamCallback check accepts i h event).2.slot j).stream =
          (w.slot j).stream := by
  by_cases start : ∃ id, event = .startComplete id
  · obtain ⟨id, rfl⟩ := start
    have heard : (w.say (.streamCallback h (.startComplete id))).Sound := sound.hear serves nofun
    exact ⟨heard.modifyRuntime rfl rfl rfl,
      Transport.modifyRuntime_slot w.transport i fun runtime => { runtime with streamId := id }⟩
  · obtain ⟨heard, sameHeard⟩ := sound.heard serves event
    have micros : Micros check accepts i h (w.heard i h event)
        ((w.say (.streamCallback h event)).runtimeStreamCallback check accepts i h event).2 :=
      sound.serve fun id same => start ⟨id, same⟩
    obtain ⟨served, sameServed⟩ := heard.micros micros
    have streams := sameHeard.trans sameServed
    exact ⟨served, fun j => ⟨(streams j).1, (streams j).2.1⟩⟩

theorem releaseSlot_transport (used : (w.slot i).inUse = true) (sound : w.Sound) :
    (w.releaseSlot i).transport = (w.transport.say (.streamClose (w.slot i).stream)).setSlot i
      { runtime := RuntimeStream.init false 0 (w.slot i).ingressCapacity
        ingressCapacity := (w.slot i).ingressCapacity, stream := 0, inUse := false } := by
  have real : (w.slot i).stream ≠ 0 := (sound.transport.bound i used).2.2
  simp only [releaseSlot, if_pos real]
  rfl

theorem releaseSlot_transcript (used : (w.slot i).inUse = true) (sound : w.Sound) :
    (w.releaseSlot i).transport.transcript = w.transport.transcript ++ [.streamClose (w.slot i).stream] := by
  rw [releaseSlot_transport used sound]
  rfl

theorem releaseSlot_frame (w : ConnectionRuntime n) (i : Fin n) :
    (w.releaseSlot i).queue = w.queue ∧ (w.releaseSlot i).adapter = w.adapter := by
  simp only [releaseSlot, setSlot]
  split <;> exact ⟨rfl, rfl⟩

theorem releaseSlot_self (w : ConnectionRuntime n) (i : Fin n) : ((w.releaseSlot i).slot i).inUse = false := by
  simp only [ConnectionRuntime.releaseSlot, setSlot, slot, Transport.setSlot_self]

theorem releaseSlot_other (w : ConnectionRuntime n) {j : Fin n} (apart : j ≠ i) :
    (w.releaseSlot i).slot j = w.slot j := by
  by_cases real : (w.slot i).stream ≠ 0
  · simp only [ConnectionRuntime.releaseSlot, if_pos real]
    exact Transport.setSlot_other _ apart _
  · simp only [ConnectionRuntime.releaseSlot, if_neg real]
    exact Transport.setSlot_other _ apart _

/-- The slots in use after one is given up were in use before, and nothing about them changed. -/
theorem releaseSlot_used {j : Fin n} (inUse : ((w.releaseSlot i).slot j).inUse = true) :
    (w.releaseSlot i).slot j = w.slot j := by
  by_cases here : j = i
  · rw [here, releaseSlot_self] at inUse
    cases inUse
  · exact releaseSlot_other w here

theorem Sound.releaseSlot (used : (w.slot i).inUse = true) (sound : w.Sound) : (w.releaseSlot i).Sound := by
  obtain ⟨queue, adapter⟩ := releaseSlot_frame w i
  refine ⟨queue ▸ sound.queue, adapter ▸ sound.adapter, ?_⟩
  rw [releaseSlot_transport used sound]
  exact sound.transport.close used rfl

theorem Sound.streamCallback (sound : w.Sound) (serves : registered h w.transport.transcript = some i)
    (event : StreamEvent n) :
    ((w.say (.streamCallback h event)).streamCallback check accepts h i event).2.Sound := by
  obtain ⟨served, streams⟩ := sound.runtimeStreamCallback check accepts serves event
  have used := ((streams i).1).trans (sound.transport.served h i serves).1
  simp only [ConnectionRuntime.streamCallback]
  split
  · exact served.releaseSlot used
  · exact served

/-- MsQuic reports every stream as started once only. -/
def FreshStream (w : ConnectionRuntime n) : Callback n → Prop
  | .connection _ (.peerStreamStarted stream _) => ¬ Started stream w.transport.transcript
  | _ => True

instance (w : ConnectionRuntime n) (callback : Callback n) : Decidable (w.FreshStream callback) := by
  unfold FreshStream
  split <;> infer_instance

theorem Sound.say (sound : w.Sound) {interaction : Interaction n}
    (kept : ∀ g current, registeredStep g current interaction = current ∧ pendingStep g current interaction = current ∧
      interaction ≠ .streamClose g) : (w.say interaction).Sound :=
  ⟨sound.queue, sound.adapter, sound.transport.say fun g => ⟨(kept g _).1, (kept g _).2.1, (kept g none).2.2⟩⟩

/-- The slot of a stream that was just started. -/
def openedSlot (connection stream : Handle) (id : UInt64) (ingressCapacity : Nat) : StreamSlot where
  runtime := { RuntimeStream.init true id ingressCapacity with stream := stream, connection := connection }
  ingressCapacity := ingressCapacity
  stream := stream
  inUse := true

theorem allocateSlot_cases (w : ConnectionRuntime n) (stream : Handle) (streamId : Option UInt64) :
    w.allocateSlot stream streamId = (none, w) ∨
    ∃ i id, stream ≠ 0 ∧ streamId = some id ∧ (w.slot i).inUse = false ∧
      w.allocateSlot stream streamId = (some i, w.setSlot i (openedSlot 0 stream id (w.slot i).ingressCapacity)) := by
  unfold allocateSlot
  split
  case isTrue => exact Or.inl rfl
  case isFalse real =>
    cases streamId with
    | none => exact Or.inl rfl
    | some id =>
      cases free : w.freeSlot with
      | none => exact Or.inl rfl
      | some i =>
        have here := List.find?_some free
        rw [Bool.and_eq_true, Bool.not_eq_true'] at here
        exact Or.inr ⟨i, id, real, rfl, here.1, rfl⟩

theorem setSlot_modifyRuntime (w : ConnectionRuntime n) (i : Fin n) (slot : StreamSlot)
    (f : RuntimeStream → RuntimeStream) :
    (w.setSlot i slot).modifyRuntime i f = w.setSlot i { slot with runtime := f slot.runtime } := by
  simp [ConnectionRuntime.modifyRuntime, setSlot, Transport.modifyRuntime, Transport.setSlot]

/-- A started stream gets a free slot, or it is closed, or its handle is null. -/
theorem connectionCallback_started (w : ConnectionRuntime n) (connection stream : Handle) (streamId : Option UInt64) :
    (w.connectionCallback connection (.peerStreamStarted stream streamId)).2 = w ∨
    (w.connectionCallback connection (.peerStreamStarted stream streamId)).2 = w.say (.streamClose stream) ∨
    ∃ i id, stream ≠ 0 ∧ streamId = some id ∧ (w.slot i).inUse = false ∧
      (w.connectionCallback connection (.peerStreamStarted stream streamId)).2 =
        (w.setSlot i (openedSlot connection stream id (w.slot i).ingressCapacity)).say
          (.setStreamHandler stream i) := by
  rcases allocateSlot_cases w stream streamId with refused | ⟨i, id, real, known, free, taken⟩
  · simp only [connectionCallback, refused]
    split
    · exact Or.inr (Or.inl rfl)
    · exact Or.inl rfl
  · refine Or.inr (Or.inr ⟨i, id, real, known, free, ?_⟩)
    simp only [connectionCallback, taken, setSlot_modifyRuntime]
    rfl

theorem Sound.started (sound : w.Sound) {connection stream : Handle} (fresh : ¬ Started stream w.transport.transcript)
    (streamId : Option UInt64) :
    ((w.say (.streamStarted connection stream)).connectionCallback connection
      (.peerStreamStarted stream streamId)).2.Sound := by
  have spoken : (w.say (.streamStarted connection stream)).Sound := sound.say fun _ _ => ⟨rfl, rfl, nofun⟩
  have started : Started stream (w.say (.streamStarted connection stream)).transport.transcript :=
    started_append connection stream _
  obtain ⟨unserved, idle, unclosed⟩ := sound.transport.fresh stream fresh
  have unserved' : registered stream (w.say (.streamStarted connection stream)).transport.transcript = none :=
    (registered_append stream _ _).trans unserved
  rcases connectionCallback_started (w.say (.streamStarted connection stream)) connection stream streamId with
    same | closed | ⟨i, id, real, known, free, opened⟩
  · rw [same]
    exact spoken
  · rw [closed]
    exact ⟨spoken.queue, spoken.adapter, spoken.transport.reject started unserved'⟩
  · rw [opened]
    exact ⟨spoken.queue, spoken.adapter, spoken.transport.opened free rfl started unserved'
      ((pending_append stream _ _).trans idle) ((closes_append stream _ _).trans unclosed) rfl rfl real rfl⟩

/-- Between any two callbacks the queue is empty and the slots agree with MsQuic. -/
theorem Sound.step (sound : w.Sound) {callback : Callback n} (fresh : w.FreshStream callback) :
    (w.step check accepts callback).Sound := by
  cases callback with
  | newConnection connection configured =>
    simp only [ConnectionRuntime.step, acceptConnection]
    split
    · exact sound
    · have handled : (w.say (.setConnectionHandler connection)).Sound := sound.say fun _ _ => ⟨rfl, rfl, nofun⟩
      exact handled.say fun _ _ => ⟨rfl, rfl, nofun⟩
  | connection connection event =>
    cases event with
    | peerStreamStarted stream streamId => exact sound.started fresh streamId
    | shutdownComplete =>
      simp only [ConnectionRuntime.step, connectionCallback]
      split
      · exact sound.say fun _ _ => ⟨rfl, rfl, nofun⟩
      · exact sound
    | other => exact sound
  | stream stream event =>
    simp only [ConnectionRuntime.step]
    split
    case h_1 i serves => exact sound.streamCallback serves event
    case h_2 => exact sound

theorem init_sound {adapter : Adapter} {queue : EventQueue} (valid : adapter.Valid) (idle : queue.Idle)
    (configuration : Handle) (ingressCapacities : Fin n → Nat) :
    (init configuration adapter queue ingressCapacities).Sound :=
  ⟨idle, valid, nofun, nofun, nofun, fun _ i (serves : none = some i) => (nomatch serves), fun _ _ => ⟨rfl, rfl, rfl⟩⟩

theorem Sound.sound_run {start : ConnectionRuntime n} (sound : start.Sound) {callbacks : List (Callback n)}
    (guarded : Guarded (fun w callback => w.step check accepts callback) FreshStream start callbacks) :
    (start.run check accepts callbacks).Sound :=
  guarded.invariant (fun _ _ before fresh => before.step fresh) sound

end ConnectionRuntime

/-- A server with four slots, a queue of one event and buffers of 64 octets. -/
def smallServer : ConnectionRuntime 4 :=
  ConnectionRuntime.init 9 (Adapter.init (some (List.replicate 64 255)) 64 (some (List.replicate 64 7)) 64)
    (EventQueue.init (some [.readyResponse 0]) 1) (fun _ => 4096)

end Ism
