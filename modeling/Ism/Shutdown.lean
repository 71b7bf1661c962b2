import Ism.Callbacks
import Ism.Responder

namespace Ism

open Lib

namespace ConnectionRuntime

variable {n : Nat} {check : Nat → List UInt8 → UInt8} {accepts : List (Interaction n) → Bool}
  {w : ConnectionRuntime n} {i : Fin n} {h : Handle}

/-- Nothing of the stream `h` with ID `id`, which had the slot `i`, is left behind. -/
def Released (w : ConnectionRuntime n) (i : Fin n) (h : Handle) (id : UInt64) : Prop :=
  (w.slot i).inUse = false ∧ closes h w.transport.transcript = 1 ∧ w.adapter.connection.findStream id = none

/-- Giving up the slot after its stream left the adapter's table leaves nothing behind. -/
theorem Sound.released (sound : w.Sound) (serves : registered h w.transport.transcript = some i) {id : UInt64}
    (gone : w.adapter.connection.entry id = none) : (w.releaseSlot i).Released i h id := by
  obtain ⟨used, named, unclosed⟩ := sound.transport.served h i serves
  have transport := releaseSlot_transport used sound
  refine ⟨?_, ?_, ?_⟩
  · rw [slot, transport, Transport.setSlot_self]
  · rw [transport]
    change closes h (w.transport.transcript ++ [.streamClose (w.transport.slots i).stream]) = 1
    rw [closes_append, named, unclosed, if_pos rfl]
  · rw [(releaseSlot_frame w i).2]
    exact ShellConnection.entry_eq_none_iff.mp gone

/-- The reset of a stream whose own send is over. -/
theorem Sound.shutdown_cases (check : Nat → List UInt8 → UInt8) (accepts : List (Interaction n) → Bool)
    (sound : w.Sound) (serves : registered h w.transport.transcript = some i)
    (completed : pending h w.transport.transcript = none) :
    ((¬ w.queue.Usable ∨ w.adapter.sendInFlight = true ∧ w.adapter.sendStreamId ≠ (w.slot i).runtime.streamId) ∧
      ((w.step check accepts (.stream h .shutdownComplete)).slot i).inUse = true) ∨
    (w.queue.Usable ∧
      (w.adapter.sendInFlight = true → w.adapter.sendStreamId = (w.slot i).runtime.streamId) ∧
      (w.step check accepts (.stream h .shutdownComplete)).Released i h (w.slot i).runtime.streamId) := by
  obtain ⟨used, named, -⟩ := sound.transport.served h i serves
  have quiet : (w.slot i).runtime.sendInFlight = false := by
    have pends := sound.transport.sending i used
    rw [named, completed] at pends
    cases busy : (w.slot i).runtime.sendInFlight with
    | false => rfl
    | true =>
      rw [if_pos (show (w.transport.slots i).runtime.sendInFlight = true from busy)] at pends
      cases pends
  have attached : ¬ (w.slot i).runtime.attached = false := by
    rw [slot, (sound.transport.bound i used).1]
    exact Bool.true_eq_false.mp
  have heard : (w.say (.streamCallback h .shutdownComplete)).Sound := sound.hearShutdown serves
  have reset : (w.say (.streamCallback h .shutdownComplete)).runtimeStreamCallback check accepts i h .shutdownComplete =
      resetStatus ((w.say (.streamCallback h .shutdownComplete)).enqueueAndDispatch check accepts h
        (.streamReset (w.slot i).runtime.streamId)) := by
    have same : (w.say (.streamCallback h .shutdownComplete)).slot i = w.slot i := rfl
    simp only [ConnectionRuntime.runtimeStreamCallback, onReset, onStreamReset, same, quiet, Bool.false_eq_true,
      if_false, if_neg attached]
  have stepped : w.step check accepts (.stream h .shutdownComplete) =
      ((w.say (.streamCallback h .shutdownComplete)).streamCallback check accepts h i .shutdownComplete).2 := by
    simp only [ConnectionRuntime.step, serves]
  rw [stepped, ConnectionRuntime.streamCallback, reset]
  rcases enqueueAndDispatch_cases check accepts heard.queue h (.streamReset (w.slot i).runtime.streamId) with
    ⟨unusable, refused⟩ | ⟨queue, idle, usable, -, done⟩
  · rw [refused]
    exact Or.inl ⟨Or.inl unusable, used⟩
  · have answer : ((w.say (.streamCallback h .shutdownComplete)).dispatchOutcome check accepts h
        (.streamReset (w.slot i).runtime.streamId)).1 = (w.adapter.onStreamReset (w.slot i).runtime.streamId).1 := rfl
    have resetSound : ((w.say (.streamCallback h .shutdownComplete)).dispatched check accepts h
        (.streamReset (w.slot i).runtime.streamId) queue).Sound := heard.dispatched h _ idle
    rw [done, answer]
    cases reset : (w.adapter.onStreamReset (w.slot i).runtime.streamId).1 with
    | false =>
      have other : ¬ (w.adapter.sendInFlight = true → w.adapter.sendStreamId = (w.slot i).runtime.streamId) := by
        rw [← sound.adapter.onStreamReset_iff, reset]
        exact Bool.false_ne_true
      exact Or.inl ⟨Or.inr (Classical.not_imp.mp other), used⟩
    | true =>
      refine Or.inr ⟨usable, (sound.adapter.onStreamReset_iff _).mp reset, ?_⟩
      have servesStill : registered h ((w.say (.streamCallback h .shutdownComplete)).dispatched check accepts h
          (.streamReset (w.slot i).runtime.streamId) queue).transport.transcript = some i :=
        (registered_append h _ _).trans serves
      exact resetSound.released servesStill (sound.adapter.onStreamReset_entry reset)

instance (w : ConnectionRuntime n) (i : Fin n) (h : Handle) (id : UInt64) : Decidable (w.Released i h id) :=
  inferInstanceAs (Decidable ((w.slot i).inUse = false ∧ closes h w.transport.transcript = 1 ∧
    w.adapter.connection.findStream id = none))

end ConnectionRuntime

/-- The shutdown of a stream with a slot leaves nothing behind if and only if its reset can
be queued and no other stream's response is in flight at that moment. -/
theorem shutdown_releases_iff {n : Nat} (check : Nat → List UInt8 → UInt8) (accepts : List (Interaction n) → Bool)
    (configuration : Handle) (responseBuffer sendBuffer : Option (List UInt8)) (responseCapacity sendCapacity : Nat)
    (responseRoom : ∀ b ∈ responseBuffer, responseCapacity ≤ b.length)
    (sendRoom : ∀ b ∈ sendBuffer, sendCapacity ≤ b.length) (events : Option (List ShellEvent)) (capacity : Nat)
    (small : capacity < 2 ^ 32) (room : ∀ stored ∈ events, capacity ≤ stored.length)
    (ingressCapacities : Fin n → Nat) (callbacks : List (Callback n)) (h : Handle) (i : Fin n) :
    let start := ConnectionRuntime.init configuration
      (Adapter.init responseBuffer responseCapacity sendBuffer sendCapacity) (EventQueue.init events capacity)
      ingressCapacities
    Guarded (fun w callback => w.step check accepts callback) ConnectionRuntime.FreshStream start callbacks →
    let w := start.run check accepts callbacks
    registered h w.transport.transcript = some i → pending h w.transport.transcript = none →
    ((w.step check accepts (.stream h .shutdownComplete)).Released i h (w.slot i).runtime.streamId ↔
      w.queue.Usable ∧ (w.adapter.sendInFlight = true → w.adapter.sendStreamId = (w.slot i).runtime.streamId)) := by
  intro start guarded w serves completed
  have sound : start.Sound := ConnectionRuntime.init_sound (Adapter.init_valid responseRoom sendRoom)
    (EventQueue.init_idle small room) configuration ingressCapacities
  rcases (sound.sound_run guarded).shutdown_cases check accepts serves completed with
    ⟨blocked, kept⟩ | ⟨usable, own, released⟩
  · constructor
    · rintro ⟨free, -⟩
      rw [kept] at free
      cases free
    · rintro ⟨usable, own⟩
      rcases blocked with unusable | ⟨busy, other⟩
      · exact absurd usable unusable
      · exact absurd (own busy) other
  · exact ⟨fun _ => ⟨usable, own⟩, fun _ => released⟩

/-- One connection with two streams: the first one sends a query and gets its answer. -/
def answeredStream : List (Callback 4) :=
  [.newConnection 1 .success, .connection 1 (.peerStreamStarted 11 (some 0)),
    .connection 1 (.peerStreamStarted 12 (some 4)), .stream 11 (.receive [0 :: 19 :: addressQuery] true),
    .stream 12 (.receive [[0]] false)]

theorem shutdown_releases_answered_stream :
    let w := smallServer.run checkQuestion (fun _ => true)
      (answeredStream ++ [.stream 11 (.sendComplete (some 0) false)])
    (w.slot 0).runtime.streamId = 0 ∧
      (w.step checkQuestion (fun _ => true) (.stream 11 .shutdownComplete)).Released 0 11
        (w.slot 0).runtime.streamId := by
  have released := shutdown_releases_iff checkQuestion (fun _ => true) 9 (some (List.replicate 64 255))
    (some (List.replicate 64 7)) 64 64 (by simp) (by simp) (some [.readyResponse 0]) 1 (by decide) (by simp)
    (fun _ => 4096) (answeredStream ++ [.stream 11 (.sendComplete (some 0) false)]) 11 0 (by decide +kernel)
    (by decide +kernel) (by decide +kernel)
  exact ⟨by decide +kernel, released.mpr (by decide +kernel)⟩

/-- The second stream shuts down while the answer of the first one is in flight. -/
theorem shutdown_leaks_other_stream :
    let w := smallServer.run checkQuestion (fun _ => true) answeredStream
    let after := w.step checkQuestion (fun _ => true) (.stream 12 .shutdownComplete)
    Guarded (fun w callback => w.step checkQuestion (fun _ => true) callback) ConnectionRuntime.FreshStream
      smallServer answeredStream ∧
    registered 12 w.transport.transcript = some 1 ∧ pending 12 w.transport.transcript = none ∧
    w.queue.Usable ∧ (w.slot 1).runtime.streamId = 4 ∧
    (after.slot 1).inUse = true ∧ closes 12 after.transport.transcript = 0 ∧
    after.adapter.connection.findStream 4 ≠ none ∧ ¬ after.Released 1 12 4 := by
  decide +kernel

end Ism
