import Mathlib.Data.List.Induction
import Ism.WholeStream

namespace Ism

open Lib ShellConnection

section Transcripts

variable {n : Nat}

/-- What MsQuic may be asked after a transcript. A stream is sent on while its slot is
registered and no send of it is pending, it is closed once only, and a slot becomes the
context of one live stream at a time. -/
def Permitted (before : List (Interaction n)) : Interaction n → Prop
  | .streamSend stream slot .. =>
    registered stream before = some slot ∧ pending stream before = none ∧ closes stream before = 0
  | .streamClose stream => Started stream before ∧ closes stream before = 0
  | .setStreamHandler stream slot =>
    Started stream before ∧ closes stream before = 0 ∧ ∀ other, registered other before ≠ some slot
  | _ => True

/-- Every interaction of a transcript was permitted when it happened. -/
def ApiUse (transcript : List (Interaction n)) : Prop :=
  ∀ before interaction, before ++ [interaction] <+: transcript → Permitted before interaction

variable {transcript : List (Interaction n)}

theorem ApiUse.nil : ApiUse ([] : List (Interaction n)) := by
  rintro before interaction ⟨rest, whole⟩
  simp at whole

theorem ApiUse.append (use : ApiUse transcript) {interaction : Interaction n}
    (permitted : Permitted transcript interaction) : ApiUse (transcript ++ [interaction]) := by
  intro before other inside
  rcases List.prefix_concat_iff.mp inside with whole | earlier
  · obtain ⟨rfl, rfl⟩ := List.append_singleton_inj.mp whole
    exact permitted
  · exact use before other earlier

theorem ApiUse.closes_le (use : ApiUse transcript) (stream : Handle) : closes stream transcript ≤ 1 := by
  induction transcript using List.reverseRecOn with
  | nil => exact Nat.zero_le 1
  | append_singleton before last ih =>
    rw [closes_append]
    split
    case isTrue close =>
      subst close
      exact Nat.le_of_eq (congrArg (· + 1) (use before (.streamClose stream) (List.prefix_refl _)).2)
    case isFalse => exact ih fun earlier other inside => use earlier other (inside.trans (List.prefix_append ..))

end Transcripts

namespace Transport

variable {n : Nat} (accepts : List (Interaction n) → Bool) {transport : Transport n}

/-- A send of a slot says nothing, or it calls `StreamSend` for a slot without a send in flight. -/
theorem runtimeSend_said (transport : Transport n) (j : Fin n) (call : SendCall) :
    (transport.runtimeSend accepts j call).2.transcript = transport.transcript ∨
    ((transport.slots j).runtime.sendInFlight = false ∧ ∃ data fin accepted deliveries,
      (transport.runtimeSend accepts j call).2.transcript = transport.transcript ++
        [.streamSend (transport.slots j).runtime.stream j data fin accepted deliveries]) := by
  unfold Transport.runtimeSend
  simp only
  split
  case isTrue => exact Or.inl rfl
  case isFalse pass =>
    have quiet : (transport.slots j).runtime.sendInFlight = false := by
      rw [← Bool.not_eq_true]
      exact fun busy => pass (Or.inr (Or.inr (Or.inr (Or.inr busy))))
    refine Or.inr ⟨quiet, ?_⟩
    split
    · exact ⟨_, _, _, _, rfl⟩
    · exact ⟨_, _, _, _, rfl⟩

theorem runtimeSend_receivedFin (transport : Transport n) (i j : Fin n) (call : SendCall) :
    ((transport.runtimeSend accepts i call).2.slots j).runtime.receivedFin =
      (transport.slots j).runtime.receivedFin := by
  unfold Transport.runtimeSend
  simp only
  split
  · rfl
  · by_cases here : j = i
    · subst here
      split
      · rw [modifyRuntime_self]
        rfl
      · rw [modifyRuntime_self]
        rfl
    · split
      · rw [modifyRuntime_other _ here]
        rfl
      · rw [modifyRuntime_other _ here]
        rfl

theorem connectionRuntimeSend_receivedFin (transport : Transport n) (call : SendCall) (j : Fin n) :
    ((transport.connectionRuntimeSend accepts call).2.slots j).runtime.receivedFin =
      (transport.slots j).runtime.receivedFin := by
  rcases connectionRuntimeSend_cases transport call with refused | ⟨i, -, -, sends⟩
  · rw [refused]
  · rw [sends, runtimeSend_receivedFin]

/-- The send callback says nothing, or calls `StreamSend` for a slot with the ID it was given. -/
theorem connectionRuntimeSend_said (transport : Transport n) (call : SendCall) :
    (transport.connectionRuntimeSend accepts call).2.transcript = transport.transcript ∨
    ∃ j, (transport.slots j).inUse = true ∧ (transport.slots j).runtime.streamId = call.streamId ∧
      (transport.slots j).runtime.sendInFlight = false ∧ ∃ data fin accepted deliveries,
        (transport.connectionRuntimeSend accepts call).2.transcript = transport.transcript ++
          [.streamSend (transport.slots j).runtime.stream j data fin accepted deliveries] := by
  rcases connectionRuntimeSend_cases transport call with refused | ⟨j, used, own, sends⟩
  · rw [refused]
    exact Or.inl rfl
  · rw [sends]
    rcases runtimeSend_said accepts transport j call with same | ⟨quiet, speaks⟩
    · exact Or.inl same
    · exact Or.inr ⟨j, used, own, quiet, speaks⟩

/-- A slot in use without a send in flight may send. -/
theorem Sound.permits_send (sound : transport.Sound) {j : Fin n} (used : (transport.slots j).inUse = true)
    (quiet : (transport.slots j).runtime.sendInFlight = false) (data : List UInt8) (fin accepted : Bool)
    (deliveries : List (Delivery Handle)) :
    Permitted transport.transcript
      (.streamSend (transport.slots j).runtime.stream j data fin accepted deliveries) := by
  have owner := sound.owner j used
  have pends := sound.sending j used
  rw [quiet, if_neg Bool.false_ne_true] at pends
  rw [(sound.bound j used).2.1]
  exact ⟨owner, pends, (sound.served _ j owner).2.2⟩

end Transport

namespace ConnectionRuntime

variable {n : Nat} {check : Nat → List UInt8 → UInt8} {accepts : List (Interaction n) → Bool}
  {w after : ConnectionRuntime n} {i : Fin n} {h : Handle}

/-- A FIN makes no call, or it is taken while the adapter is free and makes one. -/
theorem dispatchOutcome_fin (check : Nat → List UInt8 → UInt8) (accepts : List (Interaction n) → Bool) (sound : w.Sound)
    (source : Handle) (id : UInt64) :
    (w.dispatchOutcome check accepts source (.authenticatedStreamFin id)).2.2 =
      w.delivered source (.authenticatedStreamFin id) ∨
    ((w.dispatchOutcome check accepts source (.authenticatedStreamFin id)).1 = true ∧ w.adapter.sendInFlight = false ∧
      ∃ call : SendCall, call.streamId = id ∧
        (w.dispatchOutcome check accepts source (.authenticatedStreamFin id)).2.2 =
          ((w.delivered source (.authenticatedStreamFin id)).connectionRuntimeSend accepts call).2) := by
  have valid := sound.adapter.withConnection (Delivered.valid sound.adapter.connection
    (sound.adapter.connection.onAuthenticatedStreamFin_spec id))
  have prepared := Adapter.prepareReadyResponse_spec check (some (Transport.connectionRuntimeSend accepts)) valid id
    (w.delivered source (.authenticatedStreamFin id))
  simp only [dispatchOutcome, EventQueue.dispatchEvent, Adapter.onAuthenticatedStreamFin]
  split
  case isFalse => exact Or.inl rfl
  case isTrue ready =>
    generalize Adapter.prepareReadyResponse check (some (Transport.connectionRuntimeSend accepts))
      { w.adapter with connection := (w.adapter.connection.onAuthenticatedStreamFin id).2 } id
      (w.delivered source (.authenticatedStreamFin id)) = result at prepared
    cases prepared with
    | silent => exact Or.inl rfl
    | @called f k message responseBuffer sendBuffer len callback =>
      cases callback
      refine Or.inr ⟨decide_eq_true ready.1, ready.2, ⟨id, sendBuffer, len, true⟩, rfl, ?_⟩
      split
      · rfl
      · rfl

/-- What a piece of a stream callback says to MsQuic, and what it does to the FIN flags. -/
inductive Spoken (w : ConnectionRuntime n) (i : Fin n) (after : ConnectionRuntime n) : Prop
  | nothing (fin : ∀ j, (w.slot j).runtime.receivedFin = true → (after.slot j).runtime.receivedFin = true)
    (said : after.transport.transcript = w.transport.transcript)
  | shut (connection : Handle) (fin : ∀ j, (after.slot j).runtime.receivedFin = (w.slot j).runtime.receivedFin)
    (said : after.transport.transcript = w.transport.transcript ++ [.connectionShutdown connection 2])
  | sent {j : Fin n} {data : List UInt8} {fin accepted : Bool} {deliveries : List (Delivery Handle)}
    (unfinished : (w.slot i).runtime.receivedFin = false) (free : w.adapter.sendInFlight = false)
    (taken : (after.slot i).runtime.receivedFin = true)
    (others : ∀ k, k ≠ i → (after.slot k).runtime.receivedFin = (w.slot k).runtime.receivedFin)
    (used : (w.slot j).inUse = true) (named : (w.slot j).runtime.streamId = (w.slot i).runtime.streamId)
    (quiet : (w.slot j).runtime.sendInFlight = false)
    (said : after.transport.transcript = w.transport.transcript ++
      [.streamSend (w.slot j).runtime.stream j data fin accepted deliveries])

theorem receivedFin_modifyRuntime (w : ConnectionRuntime n) {f : RuntimeStream → RuntimeStream}
    (kept : (w.slot i).runtime.receivedFin = true → (f (w.slot i).runtime).receivedFin = true) (j : Fin n)
    (finished : (w.slot j).runtime.receivedFin = true) : ((w.modifyRuntime i f).slot j).runtime.receivedFin = true := by
  by_cases here : j = i
  · subst here
    simp only [ConnectionRuntime.modifyRuntime, slot, Transport.modifyRuntime_self]
    exact kept finished
  · simp only [ConnectionRuntime.modifyRuntime, slot, Transport.modifyRuntime_other _ here]
    exact finished

/-- A FIN speaks at most once, for a slot that has the ID of the finished one. -/
theorem Sound.spoken_fin (sound : w.Sound) (unfinished : (w.slot i).runtime.receivedFin = false) (queue : EventQueue) :
    Spoken w i ((w.dispatched check accepts h (.authenticatedStreamFin (w.slot i).runtime.streamId) queue).modifyRuntime
      i fun runtime => { runtime with
        receivedFin :=
          (w.dispatchOutcome check accepts h (.authenticatedStreamFin (w.slot i).runtime.streamId)).1 }) := by
  have outcomes := dispatchOutcome_fin check accepts sound h (w.slot i).runtime.streamId
  unfold ConnectionRuntime.dispatched
  generalize w.dispatchOutcome check accepts h (.authenticatedStreamFin (w.slot i).runtime.streamId) = outcome
    at outcomes ⊢
  generalize after_eq : ConnectionRuntime.modifyRuntime _ i _ = after
  have said : after.transport.transcript = outcome.2.2.transcript := by
    rw [← after_eq]
    rfl
  have here : (after.slot i).runtime.receivedFin = outcome.1 := by
    rw [← after_eq, ConnectionRuntime.modifyRuntime, slot, Transport.modifyRuntime_self]
  have there : ∀ j, j ≠ i → (after.slot j).runtime.receivedFin = (outcome.2.2.slots j).runtime.receivedFin := by
    intro j apart
    rw [← after_eq, ConnectionRuntime.modifyRuntime, slot, Transport.modifyRuntime_other _ apart]
  have silent : outcome.2.2.transcript = w.transport.transcript →
      (∀ j, (outcome.2.2.slots j).runtime.receivedFin = (w.slot j).runtime.receivedFin) → Spoken w i after := by
    intro same flags
    refine Spoken.nothing (fun j finished => ?_) (said.trans same)
    have apart : j ≠ i := by
      rintro rfl
      rw [unfinished] at finished
      cases finished
    rw [there j apart, flags, finished]
  rcases outcomes with quiet | ⟨taken, free, call, named, sends⟩
  · refine silent ?_ fun j => ?_
    · rw [quiet]
      rfl
    · rw [quiet]
      rfl
  have flags : ∀ j, (outcome.2.2.slots j).runtime.receivedFin = (w.slot j).runtime.receivedFin := by
    intro j
    rw [sends, Transport.connectionRuntimeSend_receivedFin]
    rfl
  rcases Transport.connectionRuntimeSend_said accepts
      (w.delivered h (.authenticatedStreamFin (w.slot i).runtime.streamId)) call with
    same | ⟨j, used, own, quiet, data, fin, accepted, deliveries, speaks⟩
  · exact silent ((congrArg Transport.transcript sends).trans same) flags
  · refine Spoken.sent unfinished free (here.trans taken) (fun k apart => ?_) used (own.trans named) quiet
      (said.trans ((congrArg Transport.transcript sends).trans speaks))
    rw [there k apart, flags]

theorem Sound.spoken (sound : w.Sound) (piece : Micro check accepts i h w after) : Spoken w i after := by
  cases piece with
  | @bytes data queue idle nonempty =>
    rw [dispatched_bytes sound nonempty queue]
    exact Spoken.nothing (fun _ => id) rfl
  | @fin queue idle unfinished => exact sound.spoken_fin unfinished queue
  | finRefused unfinished =>
    refine Spoken.nothing (receivedFin_modifyRuntime w fun finished => ?_) rfl
    rw [unfinished] at finished
    cases finished
  | complete => exact Spoken.nothing (fun _ => id) rfl
  | reset => exact Spoken.nothing (fun _ => id) rfl
  | resetPending => exact Spoken.nothing (receivedFin_modifyRuntime w id) rfl
  | protocolError => exact Spoken.shut _ (fun _ => rfl) rfl

theorem Spoken.apiUse (spoken : Spoken w i after) (sound : w.Sound) (use : ApiUse w.transport.transcript) :
    ApiUse after.transport.transcript := by
  cases spoken with
  | nothing _ said =>
    rw [said]
    exact use
  | shut connection _ said =>
    rw [said]
    exact use.append trivial
  | sent _ _ _ _ used _ quiet said =>
    rw [said]
    exact use.append (sound.transport.permits_send used quiet _ _ _ _)

theorem Sound.apiUse_micros (sound : w.Sound) (pieces : Micros check accepts i h w after)
    (use : ApiUse w.transport.transcript) : ApiUse after.transport.transcript := by
  have keeps : ∀ v v', Micro check accepts i h v v' → v.Sound ∧ ApiUse v.transport.transcript →
      v'.Sound ∧ ApiUse v'.transport.transcript := fun _ _ piece before =>
    ⟨before.1.micro piece, (before.1.spoken piece).apiUse before.1 before.2⟩
  exact (pieces.invariant keeps ⟨sound, use⟩).2

/-- The slot that is given up closes its stream for the first time. -/
theorem Sound.apiUse_releaseSlot (sound : w.Sound) (used : (w.slot i).inUse = true)
    (use : ApiUse w.transport.transcript) : ApiUse (w.releaseSlot i).transport.transcript := by
  rw [releaseSlot_transcript used sound]
  have owner := sound.transport.owner i used
  refine use.append ⟨?_, (sound.transport.served _ i owner).2.2⟩
  by_contra unstarted
  have unserved := (sound.transport.fresh _ unstarted).1
  rw [slot, owner] at unserved
  cases unserved

theorem Sound.apiUse_streamCallback (sound : w.Sound) (serves : registered h w.transport.transcript = some i)
    (event : StreamEvent n) (use : ApiUse w.transport.transcript) :
    ApiUse ((w.say (.streamCallback h event)).streamCallback check accepts h i event).2.transport.transcript := by
  have told : ApiUse (w.say (.streamCallback h event)).transport.transcript := use.append trivial
  obtain ⟨served, streams⟩ := sound.runtimeStreamCallback check accepts serves event
  have used := ((streams i).1).trans (sound.transport.served h i serves).1
  have spoken : ApiUse ((w.say (.streamCallback h event)).runtimeStreamCallback check accepts i h
      event).2.transport.transcript := by
    by_cases start : ∃ id, event = .startComplete id
    · obtain ⟨id, rfl⟩ := start
      exact told
    · have pieces : Micros check accepts i h (w.heard i h event)
          ((w.say (.streamCallback h event)).runtimeStreamCallback check accepts i h event).2 :=
        sound.serve fun id same => start ⟨id, same⟩
      refine (sound.heard serves event).1.apiUse_micros pieces ?_
      rcases heard_cases w i h event with ⟨-, -, -, same⟩ | ⟨-, same⟩
      · rw [same]
        exact told
      · rw [same]
        exact told
  simp only [ConnectionRuntime.streamCallback]
  split
  · exact served.apiUse_releaseSlot used spoken
  · exact spoken

theorem Sound.apiUse_started (sound : w.Sound) {connection stream : Handle}
    (fresh : ¬ Started stream w.transport.transcript) (streamId : Option UInt64)
    (use : ApiUse w.transport.transcript) :
    ApiUse ((w.say (.streamStarted connection stream)).connectionCallback connection
      (.peerStreamStarted stream streamId)).2.transport.transcript := by
  have told : ApiUse (w.say (.streamStarted connection stream)).transport.transcript := use.append trivial
  have started : Started stream (w.say (.streamStarted connection stream)).transport.transcript :=
    started_append connection stream _
  have unclosed : closes stream (w.say (.streamStarted connection stream)).transport.transcript = 0 :=
    (closes_append stream _ _).trans (sound.transport.fresh stream fresh).2.2
  rcases connectionCallback_started (w.say (.streamStarted connection stream)) connection stream streamId with
    same | closed | ⟨i, id, -, -, free, opened⟩
  · rw [same]
    exact told
  · rw [closed]
    exact told.append ⟨started, unclosed⟩
  · rw [opened]
    refine told.append ⟨started, unclosed, fun other serves => ?_⟩
    have earlier : registered other w.transport.transcript = some i := (registered_append other _ _).symm.trans serves
    have used := (sound.transport.served other i earlier).1
    rw [show (w.transport.slots i).inUse = false from free] at used
    cases used

theorem Sound.apiUse_step (sound : w.Sound) {callback : Callback n} (fresh : w.FreshStream callback)
    (use : ApiUse w.transport.transcript) : ApiUse (w.step check accepts callback).transport.transcript := by
  cases callback with
  | newConnection connection configured =>
    simp only [ConnectionRuntime.step, acceptConnection]
    split
    · exact use
    · have handled : ApiUse (w.say (.setConnectionHandler connection)).transport.transcript := use.append trivial
      exact handled.append trivial
  | connection connection event =>
    cases event with
    | peerStreamStarted stream streamId => exact sound.apiUse_started fresh streamId use
    | shutdownComplete =>
      simp only [ConnectionRuntime.step, connectionCallback]
      split
      · exact use.append trivial
      · exact use
    | other => exact use
  | stream stream event =>
    simp only [ConnectionRuntime.step]
    split
    case h_1 i serves => exact sound.apiUse_streamCallback serves event use
    case h_2 => exact use

end ConnectionRuntime

/-- Whatever the order of callbacks, also with stream IDs that clash: MsQuic is never asked to
send on a stream that is closed, unknown or still sending, nor to close a stream twice, and
no two live streams have the same slot as their context. -/
theorem msquic_api_discipline {n : Nat} (check : Nat → List UInt8 → UInt8) (accepts : List (Interaction n) → Bool)
    (configuration : Handle) (responseBuffer sendBuffer : Option (List UInt8)) (responseCapacity sendCapacity : Nat)
    (responseRoom : ∀ b ∈ responseBuffer, responseCapacity ≤ b.length)
    (sendRoom : ∀ b ∈ sendBuffer, sendCapacity ≤ b.length) (events : Option (List ShellEvent)) (capacity : Nat)
    (small : capacity < 2 ^ 32) (room : ∀ stored ∈ events, capacity ≤ stored.length)
    (ingressCapacities : Fin n → Nat) (callbacks : List (Callback n)) :
    let start := ConnectionRuntime.init configuration
      (Adapter.init responseBuffer responseCapacity sendBuffer sendCapacity) (EventQueue.init events capacity)
      ingressCapacities
    Guarded (fun w callback => w.step check accepts callback) ConnectionRuntime.FreshStream start callbacks →
    let transcript := (start.run check accepts callbacks).transport.transcript
    ApiUse transcript ∧ (∀ h, closes h transcript ≤ 1) ∧
      ∀ h g i, registered h transcript = some i → registered g transcript = some i → h = g := by
  intro start guarded transcript
  have sound : start.Sound := ConnectionRuntime.init_sound (Adapter.init_valid responseRoom sendRoom)
    (EventQueue.init_idle small room) configuration ingressCapacities
  have keeps : ∀ (w : ConnectionRuntime n) callback, w.Sound ∧ ApiUse w.transport.transcript →
      w.FreshStream callback →
        (w.step check accepts callback).Sound ∧ ApiUse (w.step check accepts callback).transport.transcript :=
    fun _ _ before fresh => ⟨before.1.step fresh, before.1.apiUse_step fresh before.2⟩
  have initial : start.Sound ∧ ApiUse start.transport.transcript := ⟨sound, ApiUse.nil⟩
  obtain ⟨soundAfter, use⟩ := guarded.invariant keeps initial
  refine ⟨use, use.closes_le, fun h g i serves serves' => ?_⟩
  exact (soundAfter.transport.served h i serves).2.1.symm.trans (soundAfter.transport.served g i serves').2.1

/-- A stream is answered and shut down, and another one gets its slot under the same ID. -/
def reusedSlot (context : Fin 4) : List (Callback 4) :=
  [.newConnection 1 .success, .connection 1 (.peerStreamStarted 21 (some 0)),
    .stream 21 (.receive [0 :: 19 :: addressQuery] true), .stream 21 (.sendComplete (some context) false),
    .stream 21 .shutdownComplete, .connection 1 (.peerStreamStarted 22 (some 0)),
    .stream 22 (.receive [0 :: 19 :: addressQuery] true)]

theorem msquic_api_discipline_reused :
    let transcript := (smallServer.run checkQuestion (fun _ => true) (reusedSlot 0)).transport.transcript
    ApiUse transcript ∧ closes 21 transcript = 1 ∧ registered 22 transcript = some 0 ∧
      pending 22 transcript = some 0 ∧ ∀ h, registered h transcript = some 0 → h = 22 := by
  obtain ⟨use, -, alone⟩ := msquic_api_discipline checkQuestion (fun _ => true) 9
    (some (List.replicate 64 255)) (some (List.replicate 64 7)) 64 64 (by simp) (by simp) (some [.readyResponse 0]) 1
    (by decide) (by simp) (fun _ => 4096) (reusedSlot 0) (by decide +kernel)
  exact ⟨use, by decide +kernel, by decide +kernel, by decide +kernel,
    fun h serves => alone h 22 0 serves (by decide +kernel)⟩

end Ism
