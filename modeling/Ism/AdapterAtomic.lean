import Ism.AdapterTrace

namespace Ism

open AdapterSession

section Runs

variable {σ : Type} (check : Nat → List UInt8 → UInt8) (send : Option (SendCall → σ → Bool × σ))

/-- An adapter and the state of its transport after a list of events. -/
def Adapter.handleAll (adapter : Adapter) (ctx : σ) (events : List ShellEvent) : Adapter × σ :=
  events.foldl (fun state event => event.handle check send state.1 state.2) (adapter, ctx)

/-- The event loop and the callbacks take an adapter to the same state. -/
theorem ShellEvent.handle_eq_dispatchEvent (adapter : Adapter) (ctx : σ) (event : ShellEvent) :
    event.handle check send adapter ctx = (EventQueue.dispatchEvent check send adapter ctx event).2 := by
  cases event with
  | authenticatedStreamBytes id data =>
    simp only [handle, EventQueue.dispatchEvent, Adapter.onAuthenticatedStreamBytes]
    split
    · rfl
    · rfl
  | _ => rfl

theorem Adapter.Valid.handleAll {adapter : Adapter} (valid : adapter.Valid) (ctx : σ) (events : List ShellEvent) :
    (adapter.handleAll check send ctx events).1.Valid := by
  refine List.foldlRecOn events _ (motive := fun state : Adapter × σ => state.1.Valid) valid
    fun state before event _ => ?_
  rw [ShellEvent.handle_eq_dispatchEvent]
  exact (EventQueue.dispatchEvent_spec check send before state.2 event).1

end Runs

namespace Adapter

/-- The record of the send in flight and the whole stream table are the same. -/
def Untouched (before after : Adapter) : Prop :=
  after.sendInFlight = before.sendInFlight ∧ after.sendStreamId = before.sendStreamId ∧
    after.sendLen = before.sendLen ∧ after.connection = before.connection

/-- No send is in flight, and the table has lost the stream `id` and nothing else. -/
def Dropped (id : UInt64) (before after : Adapter) : Prop :=
  after.sendInFlight = false ∧ after.sendStreamId = 0 ∧ after.sendLen = 0 ∧
    before.connection.entry id ≠ none ∧ after.connection.entry id = none ∧
    ∀ other, other ≠ id → after.connection.entry other = before.connection.entry other

section Prepare

variable {σ : Type} (check : Nat → List UInt8 → UInt8) (send : Option (SendCall → σ → Bool × σ))

/-- The calls that preparing a response makes. -/
def preparedCalls (adapter : Adapter) (id : UInt64) (ctx : σ) : List SendCall :=
  (adapter.prepareReadyResponse check (send.map recorded) id (ctx, [])).2.2.2

/-- Preparing a response hands it to the transport, which does not take it. -/
def Refused (adapter : Adapter) (id : UInt64) (ctx : σ) : Prop :=
  ∃ f call, send = some f ∧ adapter.preparedCalls check send id ctx = [call] ∧ call.streamId = id ∧
    (f call ctx).1 = false

theorem recorded_eq (f : SendCall → σ → Bool × σ) (call : SendCall) (ctx : σ) (calls : List SendCall) :
    recorded f call (ctx, calls) = ((f call ctx).1, (f call ctx).2, calls ++ [call]) := rfl

/-- Writing the calls down changes nothing else. -/
theorem prepareReadyResponse_recorded (adapter : Adapter) (id : UInt64) (ctx : σ) :
    let prepared := adapter.prepareReadyResponse check send id ctx
    let written := adapter.prepareReadyResponse check (send.map recorded) id (ctx, [])
    written.1 = prepared.1 ∧ written.2.1 = prepared.2.1 := by
  unfold prepareReadyResponse
  cases adapter.responseBuffer with
  | none => exact ⟨rfl, rfl⟩
  | some responseBuffer =>
    cases adapter.sendBuffer with
    | none => exact ⟨rfl, rfl⟩
    | some sendBuffer =>
      cases send with
      | none => exact ⟨rfl, rfl⟩
      | some f =>
        simp only [Option.map_some]
        generalize adapter.connection.dispatchReadyStreamValidatedMinimalResponse check id responseBuffer
          adapter.responseCapacity = ready
        generalize adapter.connection.prepareDoqResponseSend id ready.2 ready.1 sendBuffer adapter.sendCapacity = framed
        -- both callbacks give one answer, but the two conditions are different terms
        have answer : (recorded f ⟨id, framed.2, framed.1, true⟩ (ctx, [])).1 =
          (f ⟨id, framed.2, framed.1, true⟩ ctx).1 := rfl
        split_ifs with _ _ _ taken sent sent
        · exact ⟨rfl, rfl⟩
        · exact ⟨rfl, rfl⟩
        · exact ⟨rfl, rfl⟩
        · exact absurd (answer ▸ taken) sent
        · exact absurd sent (answer ▸ taken)
        · exact ⟨rfl, rfl⟩
        · exact ⟨rfl, rfl⟩

variable {check send} {adapter : Adapter}

/-- A call that is taken puts its length on record, so nothing prepared means no call at
all or a call refused. -/
theorem Valid.prepareReadyResponse_zero (valid : adapter.Valid) {id : UInt64} {ctx : σ}
    (nothing : (adapter.prepareReadyResponse check send id ctx).1 = 0) :
    (adapter.preparedCalls check send id ctx = [] ∧
      adapter.Untouched (adapter.prepareReadyResponse check send id ctx).2.1) ∨
    (adapter.Refused check send id ctx ∧
      adapter.Dropped id (adapter.prepareReadyResponse check send id ctx).2.1) := by
  obtain ⟨sameLen, sameAdapter⟩ := prepareReadyResponse_recorded check send adapter id ctx
  rw [← sameLen] at nothing
  rw [← sameAdapter]
  have prepared := prepareReadyResponse_spec check (send.map recorded) valid id (ctx, [])
  unfold Refused preparedCalls
  generalize adapter.prepareReadyResponse check (send.map recorded) id (ctx, []) = result at nothing prepared
  cases prepared with
  | silent => exact Or.inl ⟨rfl, rfl, rfl, rfl, rfl⟩
  | @called g requestLen message responseBuffer sendBuffer len callback free entry framed =>
    obtain ⟨f, given, rfl⟩ := Option.map_eq_some_iff.mp callback
    rw [recorded_eq] at nothing ⊢
    split_ifs at nothing ⊢ with sent
    · exact absurd nothing (Nat.ne_of_gt framed.len_le.1)
    · obtain ⟨-, gone, kept⟩ := valid.connection.close_spec id
      have present : adapter.connection.entry id ≠ none := by
        rw [entry]
        exact Option.some_ne_none _
      exact Or.inr ⟨⟨f, ⟨id, sendBuffer, len, true⟩, given, rfl, rfl, Bool.not_eq_true _ ▸ sent⟩,
        rfl, rfl, rfl, present, gone, kept⟩

end Prepare

end Adapter

/-- After any events, a completion is taken exactly when it names the response in flight,
and a call that fails leaves the record of the send and the stream table as they were.
Only a send that the transport refuses costs its stream, and no other, its place. -/
theorem adapter_failures_atomic {σ : Type} (check : Nat → List UInt8 → UInt8)
    (send : Option (SendCall → σ → Bool × σ)) (ctx : σ) (responseBuffer sendBuffer : List UInt8)
    (responseCapacity sendCapacity : Nat) (responseRoom : responseCapacity ≤ responseBuffer.length)
    (sendRoom : sendCapacity ≤ sendBuffer.length) (events : List ShellEvent) (id : UInt64) :
    let reached := (Adapter.init (some responseBuffer) responseCapacity (some sendBuffer) sendCapacity).handleAll
      check send ctx events
    let adapter := reached.1
    let prepared := adapter.prepareReadyResponse check send id reached.2
    (∀ len dropped,
      ((adapter.onSendComplete id len dropped).1 = true ↔
        adapter.sendInFlight = true ∧ adapter.sendStreamId = id ∧ adapter.sendLen = len) ∧
      ((adapter.onSendComplete id len dropped).1 = false →
        adapter.Untouched (adapter.onSendComplete id len dropped).2)) ∧
    ((adapter.onStreamReset id).1 = false → adapter.Untouched (adapter.onStreamReset id).2) ∧
    (prepared.1 = 0 →
      (¬ adapter.Refused check send id reached.2 → adapter.Untouched prepared.2.1) ∧
      (adapter.Refused check send id reached.2 → adapter.Dropped id prepared.2.1)) := by
  intro reached adapter prepared
  have valid : adapter.Valid := (Adapter.init_valid (by simpa using responseRoom) (by simpa using sendRoom)).handleAll
    check send ctx events
  refine ⟨fun len dropped => ?_, fun failed => ?_, fun nothing => ?_⟩
  · rw [valid.onSendComplete_eq]
    split_ifs with matching
    · exact ⟨iff_of_true rfl matching, by simp⟩
    · exact ⟨iff_of_false (by simp) matching, fun _ => ⟨rfl, rfl, rfl, rfl⟩⟩
  · rw [valid.onStreamReset_eq] at failed ⊢
    split_ifs at failed ⊢
    exact ⟨rfl, rfl, rfl, rfl⟩
  · rcases valid.prepareReadyResponse_zero nothing with ⟨quiet, untouched⟩ | ⟨refused, dropped⟩
    · refine ⟨fun _ => untouched, ?_⟩
      rintro ⟨_, call, -, made, -⟩
      rw [quiet] at made
      cases made
    · exact ⟨fun taken => absurd refused taken, fun _ => dropped⟩

/-- The request of stream 4 is complete while the response to stream 0 is in flight. -/
def waitingEvents : List ShellEvent :=
  [.authenticatedStreamBytes 0 (0 :: 19 :: addressQuery), .authenticatedStreamFin 0,
    .authenticatedStreamBytes 4 (0 :: 19 :: addressQuery), .authenticatedStreamFin 4]

/-- A transport that takes its first call and refuses the rest. -/
def takeOnce (_ : SendCall) (calls : Nat) : Bool × Nat := (decide (calls = 0), calls + 1)

theorem adapter_failures_atomic_waiting :
    let adapter := Adapter.init (some (List.replicate 64 255)) 64 (some (List.replicate 64 7)) 64
    let waiting := adapter.handleAll checkQuestion (some takeOnce) 0 waitingEvents
    let idle := adapter.handleAll checkQuestion (some takeOnce) 0 (waitingEvents ++ [.sendComplete 0 21 false])
    (waiting.1.Untouched (waiting.1.onSendComplete 4 21 false).2 ∧
      waiting.1.Untouched (waiting.1.onStreamReset 4).2) ∧
    idle.1.Dropped 4 (idle.1.prepareReadyResponse checkQuestion (some takeOnce) 4 idle.2).2.1 := by
  constructor
  · obtain ⟨completion, reset, -⟩ := adapter_failures_atomic checkQuestion (some takeOnce) 0 (List.replicate 64 255)
      (List.replicate 64 7) 64 64 (by simp) (by simp) waitingEvents 4
    exact ⟨(completion 21 false).2 (by decide +kernel), reset (by decide +kernel)⟩
  · obtain ⟨-, -, prepare⟩ := adapter_failures_atomic checkQuestion (some takeOnce) 0 (List.replicate 64 255)
      (List.replicate 64 7) 64 64 (by simp) (by simp) (waitingEvents ++ [.sendComplete 0 21 false]) 4
    refine (prepare (by decide +kernel)).2 ?_
    exact ⟨takeOnce, ⟨4, 0 :: 19 :: minimalResponse addressQuery ++ List.replicate 43 7, 21, true⟩, rfl,
      by decide +kernel, rfl, by decide +kernel⟩

end Ism
