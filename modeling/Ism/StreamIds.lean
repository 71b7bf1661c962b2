import Ism.Isolation

namespace Ism

open Lib ShellConnection

variable {n : Nat}

/-- The ID of a stream that starts. -/
def startedStreamId : Callback n → Option UInt64
  | .connection _ (.peerStreamStarted _ streamId) => streamId
  | _ => none

namespace ConnectionRuntime

variable {w : ConnectionRuntime n} {check : Nat → List UInt8 → UInt8} {accepts : List (Interaction n) → Bool}
  {i : Fin n} {h : Handle}

/-- A stream starts only under an ID that the adapter's table does not list. -/
def UnlistedId (w : ConnectionRuntime n) : Callback n → Prop
  | .connection _ (.peerStreamStarted _ (some id)) => w.adapter.connection.entry id = none
  | _ => True

theorem Sound.sameStreams_callback (sound : w.Sound) (serves : registered h w.transport.transcript = some i)
    {event : StreamEvent n} (named : ∀ id, event = .startComplete id → (w.slot i).runtime.streamId = id) :
    Transport.SameStreams w.transport
      ((w.say (.streamCallback h event)).runtimeStreamCallback check accepts i h event).2.transport := by
  by_cases start : ∃ id, event = .startComplete id
  · obtain ⟨id, rfl⟩ := start
    exact sameStreams_modifyRuntime (w.say (.streamCallback h (.startComplete id))) (named id rfl).symm
  · obtain ⟨heard, same⟩ := sound.heard serves event
    have pieces : Micros check accepts i h (w.heard i h event)
        ((w.say (.streamCallback h event)).runtimeStreamCallback check accepts i h event).2 :=
      sound.serve fun id equal => start ⟨id, equal⟩
    exact same.trans (heard.micros pieces).2

/-- A slot in use got its ID when its stream started. -/
theorem Sound.streamId_step (sound : w.Sound) {callback : Callback n} (named : w.NamedStream callback) {j : Fin n}
    (used : ((w.step check accepts callback).slot j).inUse = true) :
    (∃ k, (w.slot k).inUse = true ∧
      (w.slot k).runtime.streamId = ((w.step check accepts callback).slot j).runtime.streamId) ∨
    startedStreamId callback = some ((w.step check accepts callback).slot j).runtime.streamId := by
  cases callback with
  | newConnection connection configured =>
    have same : (w.step check accepts (.newConnection connection configured)).slot j = w.slot j := by
      simp only [ConnectionRuntime.step, acceptConnection]
      split <;> rfl
    rw [same] at used ⊢
    exact Or.inl ⟨j, used, rfl⟩
  | connection connection event =>
    cases event with
    | peerStreamStarted stream streamId =>
      simp only [ConnectionRuntime.step] at used ⊢
      rcases connectionCallback_started (w.say (.streamStarted connection stream)) connection stream streamId with
        same | closed | ⟨i, id, -, rfl, -, opened⟩
      · rw [same] at used ⊢
        exact Or.inl ⟨j, used, rfl⟩
      · rw [closed] at used ⊢
        exact Or.inl ⟨j, used, rfl⟩
      · rw [opened] at used ⊢
        by_cases here : j = i
        · have self : (((w.say (.streamStarted connection stream)).setSlot i (openedSlot connection stream id
              ((w.say (.streamStarted connection stream)).slot i).ingressCapacity)).say
                (.setStreamHandler stream i)).slot i = openedSlot connection stream id (w.slot i).ingressCapacity :=
            Transport.setSlot_self _ i _
          rw [here, self]
          exact Or.inr rfl
        · have same : (((w.say (.streamStarted connection stream)).setSlot i (openedSlot connection stream id
              ((w.say (.streamStarted connection stream)).slot i).ingressCapacity)).say
                (.setStreamHandler stream i)).slot j = w.slot j := Transport.setSlot_other _ here _
          rw [same] at used ⊢
          exact Or.inl ⟨j, used, rfl⟩
    | shutdownComplete =>
      have same : (w.step check accepts (.connection connection .shutdownComplete)).slot j = w.slot j := by
        simp only [ConnectionRuntime.step, connectionCallback]
        split <;> rfl
      rw [same] at used ⊢
      exact Or.inl ⟨j, used, rfl⟩
    | other => exact Or.inl ⟨j, used, rfl⟩
  | stream stream event =>
    simp only [ConnectionRuntime.step] at used ⊢
    split at used
    case h_2 => exact Or.inl ⟨j, used, rfl⟩
    case h_1 i serves =>
      have streams : Transport.SameStreams w.transport
          ((w.say (.streamCallback stream event)).runtimeStreamCallback check accepts i stream event).2.transport :=
        sound.sameStreams_callback serves fun id start => by
          subst start
          exact named i serves
      simp only [ConnectionRuntime.streamCallback] at used ⊢
      split at used
      case isFalse kept =>
        rw [if_neg kept]
        exact Or.inl ⟨j, (streams j).1.symm.trans used, (streams j).2.2.symm⟩
      case isTrue done =>
        rw [if_pos done]
        by_cases here : j = i
        · rw [here, releaseSlot_self] at used
          cases used
        · rw [releaseSlot_other _ here] at used ⊢
          exact Or.inl ⟨j, (streams j).1.symm.trans used, (streams j).2.2.symm⟩

/-- A piece of a stream callback makes an entry for the slot's own ID only. -/
theorem Sound.entry_micro (sound : w.Sound) {after : ConnectionRuntime n} (piece : Micro check accepts i h w after)
    {id : UInt64} (present : after.adapter.connection.entry id ≠ none) :
    w.adapter.connection.entry id ≠ none ∨ id = (w.slot i).runtime.streamId := by
  by_cases own : id = (w.slot i).runtime.streamId
  · exact Or.inr own
  refine Or.inl ?_
  have closed := (sound.adapter.connection.close_spec (w.slot i).runtime.streamId).2.2 id own
  cases piece with
  | @bytes data queue _ nonempty =>
    have spec := sound.adapter.connection.dispatchAuthenticatedStreamData_spec (w.slot i).runtime.streamId data
    simp only [ConnectionRuntime.dispatched, dispatchOutcome, dispatchEvent_bytes sound.adapter _ nonempty] at present
    rwa [Delivered.entry_other spec own] at present
  | @fin queue =>
    have spec := sound.adapter.connection.onAuthenticatedStreamFin_spec (w.slot i).runtime.streamId
    have valid := sound.adapter.withConnection (Delivered.valid sound.adapter.connection spec)
    rw [← Delivered.entry_other spec own]
    change (EventQueue.dispatchEvent check (some (Transport.connectionRuntimeSend accepts)) w.adapter
      (w.delivered h (.authenticatedStreamFin (w.slot i).runtime.streamId))
      (.authenticatedStreamFin (w.slot i).runtime.streamId)).2.1.connection.entry id ≠ none at present
    rcases dispatchEvent_fin check (some (Transport.connectionRuntimeSend accepts)) sound.adapter
        (w.slot i).runtime.streamId (w.delivered h (.authenticatedStreamFin (w.slot i).runtime.streamId)) with
      same | prepares
    · rwa [same] at present
    · exact prepares.entry_ne_none valid present
  | complete =>
    simp only [ConnectionRuntime.dispatched, dispatchOutcome, EventQueue.dispatchEvent,
      sound.adapter.onSendComplete_eq] at present
    split at present
    · rwa [← closed]
    · exact present
  | reset =>
    simp only [ConnectionRuntime.dispatched, dispatchOutcome, EventQueue.dispatchEvent,
      sound.adapter.onStreamReset_eq] at present
    split_ifs at present
    · rwa [← closed]
    · exact present
    · rwa [← closed]
  | finRefused | resetPending | protocolError => exact present

theorem Sound.entry_micros (sound : w.Sound) {after : ConnectionRuntime n} (pieces : Micros check accepts i h w after)
    {id : UInt64} (present : after.adapter.connection.entry id ≠ none) :
    w.adapter.connection.entry id ≠ none ∨ id = (w.slot i).runtime.streamId := by
  induction pieces with
  | refl => exact Or.inl present
  | tail first last ih =>
    obtain ⟨between, same⟩ := sound.micros first
    rcases between.entry_micro last present with before | own
    · exact ih before
    · exact Or.inr (own.trans (same i).2.2)

/-- The table lists an ID only after a stream of that ID got a slot. -/
theorem Sound.entry_step (sound : w.Sound) {callback : Callback n} {id : UInt64}
    (present : (w.step check accepts callback).adapter.connection.entry id ≠ none) :
    w.adapter.connection.entry id ≠ none ∨ ∃ j, (w.slot j).inUse = true ∧ (w.slot j).runtime.streamId = id := by
  cases callback with
  | newConnection connection configured =>
    refine Or.inl ?_
    simp only [ConnectionRuntime.step, acceptConnection] at present
    split at present <;> exact present
  | connection connection event =>
    refine Or.inl ?_
    cases event with
    | peerStreamStarted stream streamId =>
      simp only [ConnectionRuntime.step] at present
      rcases connectionCallback_started (w.say (.streamStarted connection stream)) connection stream streamId with
        same | closed | ⟨i, id, -, rfl, -, opened⟩
      · rwa [same] at present
      · rwa [closed] at present
      · rwa [opened] at present
    | shutdownComplete =>
      simp only [ConnectionRuntime.step, connectionCallback] at present
      split at present <;> exact present
    | other => exact present
  | stream stream event =>
    simp only [ConnectionRuntime.step] at present
    split at present
    case h_2 => exact Or.inl present
    case h_1 i serves =>
      obtain ⟨used, -, -⟩ := sound.transport.served stream i serves
      have served : ((w.say (.streamCallback stream event)).runtimeStreamCallback check accepts i stream
          event).2.adapter.connection.entry id ≠ none := by
        simp only [ConnectionRuntime.streamCallback] at present
        split at present
        · rwa [(releaseSlot_frame _ i).2] at present
        · exact present
      by_cases start : ∃ id, event = .startComplete id
      · obtain ⟨id, rfl⟩ := start
        exact Or.inl served
      · obtain ⟨heard, same⟩ := sound.heard serves event
        have pieces : Micros check accepts i stream (w.heard i stream event)
            ((w.say (.streamCallback stream event)).runtimeStreamCallback check accepts i stream event).2 :=
          sound.serve fun id equal => start ⟨id, equal⟩
        rcases heard.entry_micros pieces served with before | own
        · refine Or.inl ?_
          rcases heard_cases w i stream event with ⟨-, -, -, told⟩ | ⟨-, told⟩
          · rwa [told] at before
          · rwa [told] at before
        · exact Or.inr ⟨i, used, (own.trans (same i).2.2).symm⟩

/-- As long as no two streams start under one ID, a stream starts under an ID that no slot
has and that the table does not list. -/
theorem Sound.unusedIds {allowed : ConnectionRuntime n → Callback n → Prop}
    (names : ∀ w callback, allowed w callback → w.NamedStream callback) {start : ConnectionRuntime n}
    (sound : start.Sound) (seen : List UInt64)
    (known : ∀ j, (start.slot j).inUse = true → (start.slot j).runtime.streamId ∈ seen)
    (listed : ∀ id, start.adapter.connection.entry id ≠ none → id ∈ seen) {callbacks : List (Callback n)}
    (apart : (seen ++ callbacks.filterMap startedStreamId).Nodup)
    (guarded : Guarded (fun w callback => w.step check accepts callback) allowed start callbacks) :
    Guarded (fun w callback => w.step check accepts callback)
      (fun w callback => allowed w callback ∧ w.UnusedId callback ∧ w.UnlistedId callback) start callbacks := by
  induction callbacks generalizing start seen with
  | nil => trivial
  | cons callback callbacks ih =>
    obtain ⟨first, rest⟩ := guarded
    have named := names start callback first
    have unseen : ∀ id, startedStreamId callback = some id → id ∉ seen := by
      intro id started member
      rw [List.filterMap_cons_some started] at apart
      exact (List.nodup_append.mp apart).2.2 id member id List.mem_cons_self rfl
    have unused : start.UnusedId callback := by
      unfold UnusedId
      split
      case h_2 => trivial
      case h_1 id =>
        rintro j used rfl
        exact unseen _ rfl (known j used)
    have unlisted : start.UnlistedId callback := by
      unfold UnlistedId
      split
      case h_2 => trivial
      case h_1 id =>
        by_contra present
        exact unseen id rfl (listed id present)
    have next : ∀ j, ((start.step check accepts callback).slot j).inUse = true →
        ((start.step check accepts callback).slot j).runtime.streamId ∈ seen ++ (startedStreamId callback).toList := by
      intro j used
      rcases sound.streamId_step named used with ⟨k, before, same⟩ | started
      · rw [← same]
        exact List.mem_append_left _ (known k before)
      · rw [started]
        exact List.mem_append_right _ (by simp)
    have listedNext : ∀ id, (start.step check accepts callback).adapter.connection.entry id ≠ none →
        id ∈ seen ++ (startedStreamId callback).toList := by
      intro id present
      refine List.mem_append_left _ ?_
      rcases sound.entry_step present with before | ⟨j, used, rfl⟩
      · exact listed id before
      · exact known j used
    refine ⟨⟨first, unused, unlisted⟩, ih (sound.step named.fresh) _ next listedNext ?_ rest⟩
    rw [List.append_assoc]
    cases started : startedStreamId callback with
    | none => rwa [List.filterMap_cons_none started] at apart
    | some id => rwa [List.filterMap_cons_some started] at apart

end ConnectionRuntime

end Ism
