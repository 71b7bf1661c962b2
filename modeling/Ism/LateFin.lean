import Ism.SendOnce

namespace Ism

open Lib ShellConnection

namespace Adapter

variable {σ : Type} {check : Nat → List UInt8 → UInt8} {adapter : Adapter}

/-- No response is in flight, and one of `len` octets fits both buffers. -/
def Clear (adapter : Adapter) (len : Nat) : Prop :=
  adapter.sendInFlight = false ∧ adapter.responseBuffer ≠ none ∧ adapter.sendBuffer ≠ none ∧
    len ≤ adapter.responseCapacity ∧ len + 2 ≤ adapter.sendCapacity

instance (adapter : Adapter) (len : Nat) : Decidable (adapter.Clear len) :=
  inferInstanceAs (Decidable (adapter.sendInFlight = false ∧ adapter.responseBuffer ≠ none ∧
    adapter.sendBuffer ≠ none ∧ len ≤ adapter.responseCapacity ∧ len + 2 ≤ adapter.sendCapacity))

section Ready

-- the entry is ready, and its buffer starts with the request
variable {id : UInt64} {k : MessageLength} {m message : List UInt8} (valid : adapter.Valid) (generated : ∀ n,
    Format.Validates (fun input => decide (check n input ≠ 0)) (Grammar.dnsUncompressedQuestion n))
  (entry : adapter.connection.entry id = some ⟨.processing k, message⟩) (length : m.length = k)
  (held : m <+: message) (long : 12 ≤ m.length) (idHi : m.getD 0 0 = 0) (idLo : m.getD 1 0 = 0)
  (send : SendCall → σ → Bool × σ) (ctx : σ)

include valid generated entry length held long idHi idLo

end Ready

end Adapter

namespace ConnectionRuntime

variable {n : Nat} {check : Nat → List UInt8 → UInt8} {accepts : List (Interaction n) → Bool}
  {w after : ConnectionRuntime n} {i : Fin n} {h : Handle} {settled : Handle → Prop} {count : Nat}

/-- Bytes were taken: nothing was said, no slot changed, and of the adapter at most the entries did. -/
structure Mute (w after : ConnectionRuntime n) : Prop where
  adapter : after.adapter = { w.adapter with connection := after.adapter.connection }
  slots : after.transport.slots = w.transport.slots
  said : after.transport.transcript = w.transport.transcript

theorem Mute.refl (w : ConnectionRuntime n) : w.Mute w := ⟨rfl, rfl, rfl⟩

theorem Mute.trans {third : ConnectionRuntime n} (first : w.Mute after) (second : after.Mute third) : w.Mute third := by
  refine ⟨?_, second.slots.trans first.slots, second.said.trans first.said⟩
  rw [second.adapter, first.adapter]

theorem Mute.clear (mute : w.Mute after) (len : Nat) : after.adapter.Clear len ↔ w.adapter.Clear len := by
  rw [mute.adapter]
  exact Iff.rfl

theorem dispatchOutcome_fin_fst (check : Nat → List UInt8 → UInt8) (accepts : List (Interaction n) → Bool)
    (w : ConnectionRuntime n) (source : Handle) (id : UInt64) :
    (w.dispatchOutcome check accepts source (.authenticatedStreamFin id)).1 =
      decide ((w.adapter.connection.onAuthenticatedStreamFin id).1 = 2) := by
  simp only [dispatchOutcome, EventQueue.dispatchEvent, Adapter.onAuthenticatedStreamFin]
  split
  · rfl
  · rfl

/-- With a usable queue the FIN of a slot in use is dispatched at once. -/
theorem Sound.onFin_eq (check : Nat → List UInt8 → UInt8) (accepts : List (Interaction n) → Bool) (sound : w.Sound)
    (used : (w.slot i).inUse = true) (unfinished : (w.slot i).runtime.receivedFin = false)
    (usable : w.queue.Usable) (h : Handle) :
    ∃ queue : EventQueue, queue.Idle ∧ w.onFin check accepts i h =
      ((w.dispatchOutcome check accepts h (.authenticatedStreamFin (w.slot i).runtime.streamId)).1,
        w.finWith i queue
          (w.dispatchOutcome check accepts h (.authenticatedStreamFin (w.slot i).runtime.streamId))) := by
  have attached : ¬ (w.slot i).runtime.attached = false := by
    rw [slot, (sound.transport.bound i used).1]
    exact Bool.true_eq_false.mp
  have unended : ¬ (w.slot i).runtime.receivedFin = true := by
    rw [unfinished]
    exact Bool.false_ne_true
  rcases enqueueAndDispatch_cases check accepts sound.queue h (.authenticatedStreamFin (w.slot i).runtime.streamId)
    with ⟨unusable, -⟩ | ⟨queue, idle, -, -, done⟩
  · exact absurd usable unusable
  · refine ⟨queue, idle, ?_⟩
    rw [onFin, if_neg attached, if_neg unended, if_neg (not_not.mpr sound.queue.count_eq), done]
    rfl

/-- The FIN of the slot `i` was taken: what was delivered under its ID is a request, by its own stream
if no other response is in flight, and that stream is sent on exactly if the adapter is clear for the response. -/
def Resolved (w : ConnectionRuntime n) (i : Fin n) (h : Handle) (after : ConnectionRuntime n) : Prop :=
  ∃ m, Requests (after.transport.histories (w.slot i).runtime.streamId) m ∧
    (w.adapter.sendInFlight = false →
      ∀ delivery ∈ after.transport.histories (w.slot i).runtime.streamId, delivery.source = h) ∧
    sendCalls h after.transport.transcript = if w.adapter.Clear (minimalResponse m).length then 1 else 0

theorem Mute.resolved {third : ConnectionRuntime n} (mute : w.Mute after) (resolved : after.Resolved i h third) :
    w.Resolved i h third := by
  obtain ⟨m, asked, own, calls⟩ := resolved
  have same : after.slot i = w.slot i := congrFun mute.slots i
  have flight : after.adapter.sendInFlight = w.adapter.sendInFlight := by rw [mute.adapter]
  rw [same] at asked own
  rw [flight] at own
  simp only [mute.clear] at calls
  exact ⟨m, asked, own, calls⟩

theorem Resolved.deliveryStatus {result : Bool × ConnectionRuntime n} (resolved : w.Resolved i h result.2) :
    w.Resolved i h (deliveryStatus i result).2 := by
  obtain ⟨done, between⟩ := result
  cases done with
  | true => exact resolved
  | false =>
    obtain ⟨m, asked, own, calls⟩ := resolved
    simp only [ConnectionRuntime.deliveryStatus, protocolError]
    split
    · exact ⟨m, asked, own, (sendCalls_silent (by simp) h _).trans calls⟩
    · exact ⟨m, asked, own, calls⟩

/-- What was sent on a stream by the time its FIN was taken is all there will be. -/
theorem Service.settle (service : w.Service settled count) (sound : w.Sound)
    (serves : registered h w.transport.transcript = some i) (finished : (w.slot i).runtime.receivedFin = true)
    {more : List (Callback n)}
    (guarded : Guarded (fun w callback => w.step check accepts callback) Distinguished w more) :
    sendCalls h (w.run check accepts more).transport.transcript = sendCalls h w.transport.transcript := by
  have started : Started h w.transport.transcript := by
    by_contra unstarted
    rw [(sound.transport.fresh h unstarted).1] at serves
    cases serves
  have only : ∀ j, (w.slot j).inUse = true → (w.slot j).stream = h → j = i := by
    rintro j used rfl
    exact Option.some.inj ((sound.transport.owner j used).symm.trans serves)
  have now : w.Service (· = h) (sendCalls h w.transport.transcript) := by
    refine ⟨service.distinct, service.unsent, service.once, service.fresh, ?_⟩
    rintro _ rfl
    refine ⟨started, rfl, fun j used stream => ?_⟩
    rw [only j used stream, finished]
  exact ((now.run sound guarded).2.kept h rfl).2.1

end ConnectionRuntime

section Runs

variable {n : Nat} (check : Nat → List UInt8 → UInt8) (accepts : List (Interaction n) → Bool)
  (configuration : Handle) (responseBuffer sendBuffer : Option (List UInt8)) (responseCapacity sendCapacity : Nat)
  (responseRoom : ∀ b ∈ responseBuffer, responseCapacity ≤ b.length)
  (sendRoom : ∀ b ∈ sendBuffer, sendCapacity ≤ b.length) (events : Option (List ShellEvent)) (capacity : Nat)
  (small : capacity < 2 ^ 32) (room : ∀ stored ∈ events, capacity ≤ stored.length)
  (ingressCapacities : Fin n → Nat) (callbacks : List (Callback n))

include responseRoom sendRoom small room

theorem init_service :
    let start := ConnectionRuntime.init configuration
      (Adapter.init responseBuffer responseCapacity sendBuffer sendCapacity) (EventQueue.init events capacity)
      ingressCapacities
    start.Sound ∧ start.Service (fun _ => False) 0 :=
  ⟨ConnectionRuntime.init_sound (Adapter.init_valid responseRoom sendRoom) (EventQueue.init_idle small room)
    configuration ingressCapacities, nofun, nofun, fun _ => Nat.zero_le 1, fun _ _ => rfl, nofun⟩

/-- No stream is sent on twice, whether MsQuic took the send or not, and no stream is sent on
before its FIN is taken or after the callback that takes it. -/
theorem stream_sent_at_most_once :
    let start := ConnectionRuntime.init configuration
      (Adapter.init responseBuffer responseCapacity sendBuffer sendCapacity) (EventQueue.init events capacity)
      ingressCapacities
    Guarded (fun w callback => w.step check accepts callback) ConnectionRuntime.Distinguished start callbacks →
    let w := start.run check accepts callbacks
    (∀ h, sendCalls h w.transport.transcript ≤ 1) ∧
    ∀ h i, registered h w.transport.transcript = some i →
      ((w.slot i).runtime.receivedFin = false → sendCalls h w.transport.transcript = 0) ∧
      ((w.slot i).runtime.receivedFin = true → ∀ more,
        Guarded (fun w callback => w.step check accepts callback) ConnectionRuntime.Distinguished w more →
        sendCalls h (w.run check accepts more).transport.transcript = sendCalls h w.transport.transcript) := by
  intro start guarded w
  obtain ⟨initial, empty⟩ := init_service configuration responseBuffer sendBuffer responseCapacity sendCapacity
    responseRoom sendRoom events capacity small room ingressCapacities
  obtain ⟨sound, service⟩ := empty.run initial guarded
  refine ⟨service.once, fun h i serves => ⟨fun unfinished => ?_, fun finished more later => ?_⟩⟩
  · obtain ⟨used, rfl, -⟩ := sound.transport.served h i serves
    exact service.unsent i used unfinished
  · exact service.settle sound serves finished later

end Runs

/-- Two streams; the second one has sent its request but no FIN while the first one is answered. -/
def waitingStream : List (Callback 4) :=
  [.newConnection 1 .success, .connection 1 (.peerStreamStarted 11 (some 0)),
    .connection 1 (.peerStreamStarted 12 (some 4)), .stream 12 (.receive [0 :: 19 :: addressQuery] false),
    .stream 11 (.receive [0 :: 19 :: addressQuery] true)]

theorem stream_sent_at_most_once_waiting :
    let w := smallServer.run checkQuestion (fun _ => true) waitingStream
    registered 11 w.transport.transcript = some 0 ∧ sendCalls 11 w.transport.transcript = 1 ∧
      sendCalls 12 w.transport.transcript = 0 ∧
      sendCalls 11 (w.run checkQuestion (fun _ => true) [.stream 11 (.sendComplete (some 0) false),
        .stream 11 .peerSendShutdown]).transport.transcript = sendCalls 11 w.transport.transcript := by
  obtain ⟨-, each⟩ := stream_sent_at_most_once checkQuestion (fun _ => true) 9 (some (List.replicate 64 255))
    (some (List.replicate 64 7)) 64 64 (by simp) (by simp) (some [.readyResponse 0]) 1 (by decide) (by simp)
    (fun _ => 4096) waitingStream (by decide +kernel)
  exact ⟨by decide +kernel, by decide +kernel, (each 12 1 (by decide +kernel)).1 (by decide +kernel),
    (each 11 0 (by decide +kernel)).2 (by decide +kernel) _ (by decide +kernel)⟩

end Ism
