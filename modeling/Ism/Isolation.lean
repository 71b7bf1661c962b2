import Ism.AdapterTrace
import Ism.Callbacks

namespace Ism

open Lib ShellConnection

variable {n : Nat}

/-- A send answers a request all of which was delivered by the stream it goes out on. -/
def AnswersOwnRequest : Interaction n → Prop
  | .streamSend stream _ data fin _ deliveries =>
    fin = true ∧ (∀ delivery ∈ deliveries, delivery.source = stream) ∧ ∃ m, Requests deliveries m ∧
      (minimalResponse m).length < 65536 ∧ data = be16 (minimalResponse m).length ++ minimalResponse m
  | _ => True

/-- The slots in use have IDs of their own, and every entry of the adapter's table that
may still be answered was fed by the one slot that has its ID. -/
structure Isolation (adapter : Adapter) (transport : Transport n) : Prop where
  follows : adapter.Follows transport.histories
  distinct : ∀ i j, (transport.slots i).inUse = true → (transport.slots j).inUse = true →
    (transport.slots i).runtime.streamId = (transport.slots j).runtime.streamId → i = j
  coherent : ∀ i, (transport.slots i).inUse = true → (transport.slots i).runtime.sendInFlight = true →
    adapter.sendInFlight = true ∧ adapter.sendStreamId = (transport.slots i).runtime.streamId
  owned : ∀ id, adapter.connection.entry id ≠ none →
    (∃ i, (transport.slots i).inUse = true ∧ (transport.slots i).runtime.streamId = id ∧
      ∀ delivery ∈ transport.histories id, delivery.source = (transport.slots i).stream) ∨
    (adapter.sendInFlight = true ∧ adapter.sendStreamId = id)
  answered : ∀ interaction ∈ transport.transcript, AnswersOwnRequest interaction

section Deliveries

theorem advanceMessageChecked_ne_processing (expected : MessageLength) (current incoming : Nat) (k : MessageLength) :
    advanceMessageChecked expected current incoming ≠ .processing k := by
  simp only [advanceMessageChecked, advanceMessage]
  split_ifs <;> simp

/-- Bytes never make a request ready: only a FIN does. -/
theorem Entry.feed_ne_processing (e : Entry) {data : List UInt8} (nonempty : data ≠ []) (k : MessageLength) :
    (e.feed data).phase ≠ .processing k := by
  have long : 0 < data.length := List.length_pos_iff.mpr nonempty
  change fragmentPhase e.phase data.length (firstByte data) (secondByte data) ≠ .processing k
  cases e.phase with
  | readingLength =>
    simp only [fragmentPhase]
    split_ifs
    · exact advanceMessageChecked_ne_processing _ _ _ k
    · simp
    · simp
  | readingLengthHigh hi =>
    simp only [fragmentPhase]
    split_ifs
    · exact advanceMessageChecked_ne_processing _ _ _ k
    · simp
  | readingMessage expected current => exact advanceMessageChecked_ne_processing _ _ _ k
  | awaitingFin expected => simp [fragmentPhase, advanceBodyPhase, long]
  | processing expected => simp [fragmentPhase, advanceBodyPhase, long]
  | done => simp [fragmentPhase, advanceBodyPhase]

theorem shellPhaseCode_eq_two {phase : StreamPhase} (ready : shellPhaseCode phase = 2) :
    ∃ k, phase = .processing k := by
  cases phase with
  | processing k => exact ⟨k, rfl⟩
  | _ => simp [shellPhaseCode] at ready

variable {σ : Type} {check : Nat → List UInt8 → UInt8} {send : Option (SendCall → σ → Bool × σ)} {adapter : Adapter}

theorem dispatchEvent_bytes (valid : adapter.Valid) (id : UInt64) {data : List UInt8} (nonempty : data ≠ []) (ctx : σ) :
    (EventQueue.dispatchEvent check send adapter ctx (.authenticatedStreamBytes id data)).2 =
      ({ adapter with connection := (adapter.connection.dispatchAuthenticatedStreamData id data).2 }, ctx) := by
  have quiet : (adapter.connection.dispatchAuthenticatedStreamData id data).1 ≠ 2 := by
    have delivered := valid.connection.dispatchAuthenticatedStreamData_spec id data
    intro ready
    cases outcome : adapter.connection.dispatchAuthenticatedStreamData id data with
    | mk code connection =>
      rw [outcome] at delivered ready
      cases delivered with
      | refused => simp at ready
      | acted starts =>
        obtain ⟨k, processing⟩ := shellPhaseCode_eq_two ready
        exact Entry.feed_ne_processing _ nonempty k processing
  simp only [EventQueue.dispatchEvent, if_neg quiet]

theorem dispatchEvent_fin (check : Nat → List UInt8 → UInt8) (send : Option (SendCall → σ → Bool × σ))
    (valid : adapter.Valid) (id : UInt64) (ctx : σ) :
    let delivered := { adapter with connection := (adapter.connection.onAuthenticatedStreamFin id).2 }
    (EventQueue.dispatchEvent check send adapter ctx (.authenticatedStreamFin id)).2 = (delivered, ctx) ∨
    Adapter.Prepared check send delivered id ctx
      ((Adapter.prepareReadyResponse check send delivered id ctx).1,
        (EventQueue.dispatchEvent check send adapter ctx (.authenticatedStreamFin id)).2) := by
  intro delivered
  have connected : delivered.Valid :=
    valid.withConnection (Delivered.valid valid.connection (valid.connection.onAuthenticatedStreamFin_spec id))
  simp only [EventQueue.dispatchEvent, Adapter.onAuthenticatedStreamFin]
  split
  · exact Or.inr (Adapter.prepareReadyResponse_spec check send connected id ctx)
  · exact Or.inl rfl

end Deliveries

namespace Isolation

variable {adapter : Adapter} {transport : Transport n} {i : Fin n}

theorem say (iso : Isolation adapter transport) {interaction : Interaction n}
    (right : AnswersOwnRequest interaction) : Isolation adapter (transport.say interaction) := by
  refine ⟨iso.follows, iso.distinct, iso.coherent, iso.owned, fun other member => ?_⟩
  rcases List.mem_append.mp member with before | new
  · exact iso.answered other before
  · rw [List.mem_singleton.mp new]
    exact right

/-- The slots may change in what is not about their streams and pending sends. -/
theorem congr_slots (iso : Isolation adapter transport) {after : Transport n}
    (same : Transport.SameStreams transport after)
    (sending : ∀ j, (after.slots j).runtime.sendInFlight = true → (transport.slots j).runtime.sendInFlight = true)
    (histories : after.histories = transport.histories) (transcript : after.transcript = transport.transcript) :
    Isolation adapter after := by
  refine ⟨histories ▸ iso.follows, Transport.DistinctIds.sameStreams iso.distinct same, ?_, ?_,
    transcript ▸ iso.answered⟩
  · intro j used busy
    rw [(same j).1] at used
    rw [(same j).2.2]
    exact iso.coherent j used (sending j busy)
  · intro id present
    rcases iso.owned id present with ⟨j, used, named, sources⟩ | flying
    · refine Or.inl ⟨j, ?_, ?_, ?_⟩
      · rw [(same j).1, used]
      · rw [(same j).2.2, named]
      · rw [histories, (same j).2.1]
        exact sources
    · exact Or.inr flying

theorem modifyRuntime (iso : Isolation adapter transport) {f : RuntimeStream → RuntimeStream}
    (named : (f (transport.slots i).runtime).streamId = (transport.slots i).runtime.streamId)
    (sending : (f (transport.slots i).runtime).sendInFlight = true → (transport.slots i).runtime.sendInFlight = true) :
    Isolation adapter (transport.modifyRuntime i f) := by
  refine iso.congr_slots (Transport.SameStreams.modifyRuntime transport named) (fun j busy => ?_) rfl rfl
  by_cases here : j = i
  · rw [here, Transport.modifyRuntime_self] at busy
    exact here ▸ sending busy
  · rwa [Transport.modifyRuntime_other _ here] at busy

/-- Unless its response is in flight, everything delivered to the ID of a slot came from its stream. -/
theorem sources (iso : Isolation adapter transport) (used : (transport.slots i).inUse = true)
    (waiting : ¬ (adapter.sendInFlight = true ∧ adapter.sendStreamId = (transport.slots i).runtime.streamId))
    {delivery : Delivery Handle} (own : delivery.source = (transport.slots i).stream) :
    ∀ d ∈ adapter.deliver transport.histories (transport.slots i).runtime.streamId delivery
        (transport.slots i).runtime.streamId, d.source = (transport.slots i).stream := by
  intro d member
  rw [Adapter.deliver, Function.update_self] at member
  split at member
  case isTrue => rwa [List.mem_singleton.mp member]
  case isFalse present =>
    rcases List.mem_append.mp member with before | new
    · rcases iso.owned _ fun absent => present (entry_eq_none_iff.mp absent) with ⟨j, used', named, sources⟩ | flying
      · obtain rfl := iso.distinct j i used' used named
        exact sources d before
      · exact absurd flying waiting
    · rwa [List.mem_singleton.mp new]

theorem deliver (iso : Isolation adapter transport) (used : (transport.slots i).inUse = true)
    (delivery : Delivery Handle)
    (own : delivery.source = (transport.slots i).stream) {f : Entry → Entry} {result : UInt8 × ShellConnection}
    (traces : ∀ history e, Traced history e → Traced (history ++ [delivery]) (f e))
    (delivered : Delivered adapter.connection (transport.slots i).runtime.streamId f result) :
    Isolation { adapter with connection := result.2 }
      { transport with
        histories := adapter.deliver transport.histories (transport.slots i).runtime.streamId delivery } := by
  refine ⟨iso.follows.delivered traces delivered, iso.distinct, iso.coherent, ?_, iso.answered⟩
  intro id present
  by_cases same : id = (transport.slots i).runtime.streamId
  · subst same
    by_cases flying : adapter.sendInFlight = true ∧ adapter.sendStreamId = (transport.slots i).runtime.streamId
    · exact Or.inr flying
    · exact Or.inl ⟨i, used, rfl, iso.sources used flying own⟩
  · have kept : adapter.connection.entry id ≠ none := delivered.entry_other same ▸ present
    have history : adapter.deliver transport.histories (transport.slots i).runtime.streamId delivery id =
        transport.histories id := Function.update_of_ne same ..
    rcases iso.owned id kept with ⟨j, used', named, sources⟩ | flying
    · refine Or.inl ⟨j, used', named, ?_⟩
      dsimp only
      rw [history]
      exact sources
    · exact Or.inr flying

/-- The entry of a stream is removed once no response of another stream is in flight. -/
theorem close (iso : Isolation adapter transport) (valid : adapter.Valid) (used : (transport.slots i).inUse = true)
    (quiet : (transport.slots i).runtime.sendInFlight = false) {after : Adapter}
    (closed : after.connection = (adapter.connection.closeStream (transport.slots i).runtime.streamId).syncStreamSlots)
    (free : adapter.sendInFlight = true → adapter.sendStreamId = (transport.slots i).runtime.streamId) :
    Isolation after transport := by
  have noSend : ∀ j, (transport.slots j).inUse = true → ¬ (transport.slots j).runtime.sendInFlight = true := by
    intro j used' busy
    obtain ⟨flying, named⟩ := iso.coherent j used' busy
    obtain rfl := iso.distinct i j used used' ((free flying).symm.trans named)
    rw [quiet] at busy
    cases busy
  refine ⟨iso.follows.close valid _ closed, iso.distinct, fun j used' busy => absurd busy (noSend j used'), ?_,
    iso.answered⟩
  intro id present
  obtain ⟨-, gone, kept⟩ := valid.connection.close_spec (transport.slots i).runtime.streamId
  rw [closed] at present
  by_cases same : id = (transport.slots i).runtime.streamId
  · rw [same, gone] at present
    exact absurd rfl present
  · rw [kept id same] at present
    rcases iso.owned id present with owner | ⟨flying, named⟩
    · exact Or.inl owner
    · exact absurd (named.symm.trans (free flying)) same

/-- A slot may be given up once its stream has no entry, or is only waiting for its response to be sent. -/
theorem giveUp (iso : Isolation adapter transport) {slot : StreamSlot} (free : slot.inUse = false)
    (left : adapter.connection.entry (transport.slots i).runtime.streamId = none ∨
      adapter.sendInFlight = true ∧ adapter.sendStreamId = (transport.slots i).runtime.streamId) :
    Isolation adapter (transport.setSlot i slot) := by
  have others : ∀ j, ((transport.setSlot i slot).slots j).inUse = true →
      (transport.setSlot i slot).slots j = transport.slots j := by
    intro j used
    by_cases here : j = i
    · rw [here, Transport.setSlot_self, free] at used
      cases used
    · exact Transport.setSlot_other transport here slot
  refine ⟨iso.follows, Transport.DistinctIds.giveUp iso.distinct free, ?_, ?_, iso.answered⟩
  · intro j used
    have same := others j used
    rw [same] at used ⊢
    exact iso.coherent j used
  · intro id present
    rcases iso.owned id present with ⟨j, used, named, sources⟩ | flying
    · by_cases here : j = i
      · subst here
        subst named
        exact Or.inr (left.resolve_left present)
      · refine Or.inl ⟨j, ?_⟩
        rw [Transport.setSlot_other transport here]
        exact ⟨used, named, sources⟩
    · exact Or.inr flying

/-- A slot may be taken for a stream whose ID no slot in use has. -/
theorem take (iso : Isolation adapter transport) {slot : StreamSlot} (unused : (transport.slots i).inUse = false)
    (quiet : slot.runtime.sendInFlight = false)
    (unnamed : ∀ j, (transport.slots j).inUse = true → (transport.slots j).runtime.streamId ≠ slot.runtime.streamId) :
    Isolation adapter (transport.setSlot i slot) := by
  have self := Transport.setSlot_self transport i slot
  have others : ∀ j, j ≠ i → (transport.setSlot i slot).slots j = transport.slots j := fun j apart =>
    Transport.setSlot_other transport apart slot
  refine ⟨iso.follows, Transport.DistinctIds.take iso.distinct unnamed, ?_, ?_, iso.answered⟩
  · intro j used busy
    by_cases here : j = i
    · rw [here, self, quiet] at busy
      cases busy
    · rw [others j here] at used busy ⊢
      exact iso.coherent j used busy
  · intro id present
    rcases iso.owned id present with ⟨j, used, named, sources⟩ | flying
    · have apart : j ≠ i := by
        rintro rfl
        rw [unused] at used
        cases used
      refine Or.inl ⟨j, ?_⟩
      rw [others j apart]
      exact ⟨used, named, sources⟩
    · exact Or.inr flying

variable {check : Nat → List UInt8 → UInt8} {accepts : List (Interaction n) → Bool}

/-- While the adapter has no send in flight, no slot has one. -/
theorem quiet (iso : Isolation adapter transport) (used : (transport.slots i).inUse = true)
    (free : adapter.sendInFlight = false) : (transport.slots i).runtime.sendInFlight = false := by
  rw [← Bool.not_eq_true]
  intro busy
  rw [(iso.coherent i used busy).1] at free
  cases free

/-- The slot and the adapter agree on the send that was just accepted. -/
theorem accepted (iso : Isolation adapter transport) (free : adapter.sendInFlight = false) {after : Adapter}
    (connection : after.connection = adapter.connection) (i : Fin n) (len : Nat) :
    Isolation (after.inFlight (transport.slots i).runtime.streamId len) (transport.modifyRuntime i fun runtime =>
      { runtime with responseLen := len, sendInFlight := true, resetPending := false }) := by
  have same : Transport.SameStreams transport (transport.modifyRuntime i fun runtime =>
      { runtime with responseLen := len, sendInFlight := true, resetPending := false }) :=
    Transport.SameStreams.modifyRuntime transport rfl
  refine ⟨fun id e present => iso.follows id e (connection ▸ present),
    Transport.DistinctIds.sameStreams iso.distinct same, ?_, ?_, iso.answered⟩
  · intro j used busy
    by_cases here : j = i
    · rw [here, (same i).2.2]
      exact ⟨rfl, rfl⟩
    · rw [Transport.modifyRuntime_other _ here] at used busy
      rw [(iso.coherent j used busy).1] at free
      cases free
  · intro id present
    rcases iso.owned id (connection ▸ present) with ⟨j, used, name, sources⟩ | ⟨flying, -⟩
    · refine Or.inl ⟨j, ?_, ?_, ?_⟩
      · rw [(same j).1, used]
      · rw [(same j).2.2, name]
      · rw [(same j).2.1]
        exact sources
    · rw [free] at flying
      cases flying

/-- A send that MsQuic refuses costs its stream the entry. -/
theorem refused (iso : Isolation adapter transport) (valid : adapter.Valid) (used : (transport.slots i).inUse = true)
    (free : adapter.sendInFlight = false) {after : Adapter}
    (closed : after.connection =
      (adapter.connection.closeStream (transport.slots i).runtime.streamId).syncStreamSlots) :
    Isolation after (transport.modifyRuntime i RuntimeStream.clearSend) := by
  have cleared := iso.modifyRuntime (i := i) (f := RuntimeStream.clearSend) rfl nofun
  have self := Transport.modifyRuntime_self transport i RuntimeStream.clearSend
  refine cleared.close valid (i := i) ?_ ?_ ?_ ?_
  · rwa [self]
  · rw [self]
    rfl
  · rw [self]
    exact closed
  · rw [free]
    exact nofun

/-- A response that is prepared for the ID of a slot goes out on the stream that asked for it. -/
theorem prepared (generated : ∀ n, Format.Validates (fun input => decide (check n input ≠ 0))
      (Grammar.dnsUncompressedQuestion n)) (iso : Isolation adapter transport) (valid : adapter.Valid)
    (sound : transport.Sound) (used : (transport.slots i).inUse = true)
    (sources : adapter.sendInFlight = false →
      ∀ d ∈ transport.histories (transport.slots i).runtime.streamId, d.source = (transport.slots i).stream)
    {result : Nat × Adapter × Transport n}
    (prepares : Adapter.Prepared check (some (Transport.connectionRuntimeSend accepts)) adapter
      (transport.slots i).runtime.streamId transport result) : Isolation result.2.1 result.2.2 := by
  cases prepares with
  | silent => exact ⟨iso.follows, iso.distinct, iso.coherent, iso.owned, iso.answered⟩
  | @called f requestLen message responseBuffer sendBuffer len callback free entry framed buffered =>
    cases callback
    have asks : (⟨(transport.slots i).runtime.streamId, sendBuffer, len, true⟩ : SendCall).streamId =
        (transport.slots i).runtime.streamId := rfl
    obtain ⟨-, m, asked, short, -, data⟩ : Answers (transport.histories (transport.slots i).runtime.streamId)
        ⟨(transport.slots i).runtime.streamId, sendBuffer, len, true⟩ :=
      framed.answers generated valid (iso.follows _ _ entry)
    have right : AnswersOwnRequest (.streamSend (transport.slots i).stream i (sendBuffer.take len) true
        (accepts transport.transcript) (transport.histories (transport.slots i).runtime.streamId)) :=
      ⟨rfl, sources free, m, asked, short, data⟩
    rw [Transport.DistinctIds.connectionRuntimeSend_eq iso.distinct used asks,
      sound.runtimeSend_eq used (iso.quiet used free) asks framed.len_le.1]
    cases answer : accepts transport.transcript with
    | true =>
      rw [answer] at right
      simp only [if_true]
      refine (iso.say right).accepted free ?_ i len
      rfl
    | false =>
      rw [answer] at right
      simp only [Bool.false_eq_true, if_false]
      refine (iso.say right).refused valid used free ?_
      rfl

variable {w after : ConnectionRuntime n} {h : Handle}

theorem bytes (iso : Isolation w.adapter w.transport) (sound : w.Sound) (used : (w.slot i).inUse = true)
    (named : (w.slot i).stream = h) {data : List UInt8} (nonempty : data ≠ []) (queue : EventQueue) :
    Isolation
      (w.dispatched check accepts h (.authenticatedStreamBytes (w.slot i).runtime.streamId data) queue).adapter
      (w.dispatched check accepts h (.authenticatedStreamBytes (w.slot i).runtime.streamId data) queue).transport := by
  have delivered := iso.deliver used (.bytes h data) named.symm
    (fun _ _ traced => traced.feed h data)
    (sound.adapter.connection.dispatchAuthenticatedStreamData_spec (w.slot i).runtime.streamId data)
  simp only [ConnectionRuntime.dispatched, ConnectionRuntime.dispatchOutcome,
    dispatchEvent_bytes sound.adapter _ nonempty]
  exact delivered

theorem fin (generated : ∀ n, Format.Validates (fun input => decide (check n input ≠ 0))
      (Grammar.dnsUncompressedQuestion n)) (iso : Isolation w.adapter w.transport) (sound : w.Sound)
    (used : (w.slot i).inUse = true) (named : (w.slot i).stream = h) (queue : EventQueue) :
    Isolation (w.dispatched check accepts h (.authenticatedStreamFin (w.slot i).runtime.streamId) queue).adapter
      (w.dispatched check accepts h (.authenticatedStreamFin (w.slot i).runtime.streamId) queue).transport := by
  have spec := sound.adapter.connection.onAuthenticatedStreamFin_spec (w.slot i).runtime.streamId
  have delivered := iso.deliver used (.fin h) named.symm (fun _ _ traced => traced.finish h) spec
  have valid := sound.adapter.withConnection (Delivered.valid sound.adapter.connection spec)
  simp only [ConnectionRuntime.dispatched, ConnectionRuntime.dispatchOutcome]
  rcases dispatchEvent_fin check (some (Transport.connectionRuntimeSend accepts)) sound.adapter
      (w.slot i).runtime.streamId (w.delivered h (.authenticatedStreamFin (w.slot i).runtime.streamId)) with
    same | prepares
  · rw [same]
    exact delivered
  · refine delivered.prepared generated valid (sound.transport.withHistories _) used ?_ prepares
    intro free
    refine iso.sources used ?_ named.symm
    rintro ⟨flying, -⟩
    rw [show w.adapter.sendInFlight = false from free] at flying
    cases flying

theorem record (iso : Isolation w.adapter w.transport) {f : RuntimeStream → RuntimeStream}
    (named : (f (w.slot i).runtime).streamId = (w.slot i).runtime.streamId)
    (sending : (f (w.slot i).runtime).sendInFlight = true → (w.slot i).runtime.sendInFlight = true) :
    Isolation (w.modifyRuntime i f).adapter (w.modifyRuntime i f).transport :=
  Isolation.modifyRuntime iso named sending

/-- No piece of a stream callback mixes up two streams. -/
theorem micro (generated : ∀ n, Format.Validates (fun input => decide (check n input ≠ 0))
      (Grammar.dnsUncompressedQuestion n)) (iso : Isolation w.adapter w.transport) (sound : w.Sound)
    (used : (w.slot i).inUse = true) (named : (w.slot i).stream = h)
    (piece : ConnectionRuntime.Micro check accepts i h w after) : Isolation after.adapter after.transport := by
  cases piece with
  | bytes _ nonempty => exact iso.bytes sound used named nonempty _
  | fin => exact (iso.fin generated sound used named _).record rfl fun busy => busy
  | finRefused => exact iso.record rfl fun busy => busy
  | @complete len dropped queue _ quiet =>
    simp only [ConnectionRuntime.dispatched, ConnectionRuntime.dispatchOutcome, EventQueue.dispatchEvent,
      sound.adapter.onSendComplete_eq]
    split
    case isTrue own => exact iso.close sound.adapter used quiet rfl fun _ => own.2.1
    case isFalse => exact iso
  | reset _ quiet =>
    simp only [ConnectionRuntime.dispatched, ConnectionRuntime.dispatchOutcome, EventQueue.dispatchEvent,
      sound.adapter.onStreamReset_eq]
    split_ifs with busy own
    · exact iso.close sound.adapter used quiet rfl fun _ => own
    · exact iso
    · exact iso.close sound.adapter used quiet rfl fun flying => absurd flying busy
  | resetPending => exact iso.record rfl fun busy => busy
  | protocolError => exact iso.say trivial

theorem micros (generated : ∀ n, Format.Validates (fun input => decide (check n input ≠ 0))
      (Grammar.dnsUncompressedQuestion n)) (iso : Isolation w.adapter w.transport) (sound : w.Sound)
    (used : (w.slot i).inUse = true) (named : (w.slot i).stream = h)
    (pieces : ConnectionRuntime.Micros check accepts i h w after) : Isolation after.adapter after.transport := by
  induction pieces with
  | refl => exact iso
  | tail first last ih =>
    obtain ⟨between, same⟩ := sound.micros first
    exact ih.micro generated between ((same i).1.trans used) ((same i).2.1.trans named) last

theorem heard (iso : Isolation w.adapter w.transport) (i : Fin n) (h : Handle) (event : StreamEvent n) :
    Isolation (w.heard i h event).adapter (w.heard i h event).transport := by
  have told : Isolation (w.say (.streamCallback h event)).adapter (w.say (.streamCallback h event)).transport :=
    iso.say trivial
  rcases ConnectionRuntime.heard_cases w i h event with ⟨-, -, -, same⟩ | ⟨-, same⟩
  · rw [same]
    exact told.record rfl nofun
  · rw [same]
    exact told

theorem release (iso : Isolation w.adapter w.transport) (sound : w.Sound) (used : (w.slot i).inUse = true)
    (left : w.adapter.connection.entry (w.slot i).runtime.streamId = none ∨
      w.adapter.sendInFlight = true ∧ w.adapter.sendStreamId = (w.slot i).runtime.streamId) :
    Isolation (w.releaseSlot i).adapter (w.releaseSlot i).transport := by
  rw [(ConnectionRuntime.releaseSlot_frame w i).2, ConnectionRuntime.releaseSlot_transport used sound]
  have closed : Isolation w.adapter (w.transport.say (.streamClose (w.slot i).stream)) := iso.say trivial
  exact closed.giveUp rfl left

/-- A reset that succeeds leaves nothing of the stream but, at most, its response in flight. -/
theorem onReset_left (iso : Isolation w.adapter w.transport) (sound : w.Sound) (used : (w.slot i).inUse = true)
    (done : (w.onReset check accepts i h).1 = .success) :
    (w.onReset check accepts i h).2.adapter.connection.entry (w.slot i).runtime.streamId = none ∨
      (w.onReset check accepts i h).2.adapter.sendInFlight = true ∧
        (w.onReset check accepts i h).2.adapter.sendStreamId = (w.slot i).runtime.streamId := by
  unfold ConnectionRuntime.onReset at done ⊢
  split at done
  case isTrue busy =>
    rw [if_pos busy]
    exact Or.inr (iso.coherent i used busy)
  case isFalse quiet =>
    have attached : ¬ (w.slot i).runtime.attached = false := by
      rw [ConnectionRuntime.slot, (sound.transport.bound i used).1]
      exact Bool.true_eq_false.mp
    rw [if_neg quiet]
    simp only [ConnectionRuntime.onStreamReset, if_neg attached] at done ⊢
    rcases ConnectionRuntime.enqueueAndDispatch_cases check accepts sound.queue h
        (.streamReset (w.slot i).runtime.streamId) with ⟨-, refused⟩ | ⟨queue, -, -, -, dispatched⟩
    · rw [refused] at done
      cases done
    · rw [dispatched] at done ⊢
      have reset : (w.adapter.onStreamReset (w.slot i).runtime.streamId).1 = true := by
        rw [← Bool.not_eq_false]
        intro fails
        rw [show (w.dispatchOutcome check accepts h (.streamReset (w.slot i).runtime.streamId)).1 = false from fails]
          at done
        cases done
      rw [ConnectionRuntime.resetStatus_snd]
      exact Or.inl (sound.adapter.onStreamReset_entry reset)

theorem streamCallback (generated : ∀ n, Format.Validates (fun input => decide (check n input ≠ 0))
      (Grammar.dnsUncompressedQuestion n)) (iso : Isolation w.adapter w.transport) (sound : w.Sound)
    (serves : registered h w.transport.transcript = some i) {event : StreamEvent n}
    (named : ∀ id, event = .startComplete id → (w.slot i).runtime.streamId = id) :
    Isolation ((w.say (.streamCallback h event)).streamCallback check accepts h i event).2.adapter
      ((w.say (.streamCallback h event)).streamCallback check accepts h i event).2.transport := by
  obtain ⟨used, handle, -⟩ := sound.transport.served h i serves
  by_cases start : ∃ id, event = .startComplete id
  · obtain ⟨id, rfl⟩ := start
    have told : Isolation (w.say (.streamCallback h (.startComplete id))).adapter
        (w.say (.streamCallback h (.startComplete id))).transport := iso.say trivial
    exact told.record (named id rfl).symm fun busy => busy
  · obtain ⟨heard, sameHeard⟩ := sound.heard serves event
    have pieces : ConnectionRuntime.Micros check accepts i h (w.heard i h event)
        ((w.say (.streamCallback h event)).runtimeStreamCallback check accepts i h event).2 :=
      sound.serve fun id same => start ⟨id, same⟩
    have served := (iso.heard i h event).micros generated heard ((sameHeard i).1.trans used)
      ((sameHeard i).2.1.trans handle) pieces
    simp only [ConnectionRuntime.streamCallback]
    split
    case isFalse => exact served
    case isTrue done =>
      obtain ⟨success, rfl⟩ := done
      obtain ⟨after, same⟩ := heard.micros pieces
      have told : Isolation (w.say (.streamCallback h .shutdownComplete)).adapter
          (w.say (.streamCallback h .shutdownComplete)).transport := iso.say trivial
      have left := told.onReset_left (sound.hearShutdown serves) used success
      refine served.release after ((same i).1.trans ((sameHeard i).1.trans used)) ?_
      rw [show (((w.say (.streamCallback h .shutdownComplete)).runtimeStreamCallback check accepts i h
        .shutdownComplete).2.slot i).runtime.streamId = (w.slot i).runtime.streamId from
          (same i).2.2.trans (sameHeard i).2.2]
      exact left

end Isolation

namespace ConnectionRuntime

variable {w : ConnectionRuntime n} {check : Nat → List UInt8 → UInt8} {accepts : List (Interaction n) → Bool}

/-- MsQuic reports every stream as started once only, and always under the same ID. -/
def NamedStream (w : ConnectionRuntime n) : Callback n → Prop
  | .connection _ (.peerStreamStarted stream _) => ¬ Started stream w.transport.transcript
  | .stream h (.startComplete id) =>
    ∀ i, registered h w.transport.transcript = some i → (w.slot i).runtime.streamId = id
  | _ => True

/-- A stream starts only under an ID that no slot in use has. -/
def UnusedId (w : ConnectionRuntime n) : Callback n → Prop
  | .connection _ (.peerStreamStarted _ (some id)) =>
    ∀ j, (w.slot j).inUse = true → (w.slot j).runtime.streamId ≠ id
  | _ => True

instance (w : ConnectionRuntime n) : (callback : Callback n) → Decidable (w.NamedStream callback)
  | .connection _ (.peerStreamStarted stream _) => inferInstanceAs (Decidable (¬ Started stream w.transport.transcript))
  | .stream h (.startComplete id) => inferInstanceAs (Decidable (∀ i, registered h w.transport.transcript = some i →
      (w.slot i).runtime.streamId = id))
  | .newConnection .. | .connection _ .shutdownComplete | .connection _ .other | .stream _ (.receive ..)
  | .stream _ .peerSendShutdown | .stream _ (.sendComplete ..) | .stream _ .peerSendAborted
  | .stream _ .peerReceiveAborted | .stream _ .shutdownComplete | .stream _ .other => inferInstanceAs (Decidable True)

instance (w : ConnectionRuntime n) : (callback : Callback n) → Decidable (w.UnusedId callback)
  | .connection _ (.peerStreamStarted _ (some id)) =>
    inferInstanceAs (Decidable (∀ j, (w.slot j).inUse = true → (w.slot j).runtime.streamId ≠ id))
  | .connection _ (.peerStreamStarted _ none) | .newConnection .. | .connection _ .shutdownComplete
  | .connection _ .other | .stream .. => inferInstanceAs (Decidable True)

theorem NamedStream.fresh {callback : Callback n} (named : w.NamedStream callback) : w.FreshStream callback := by
  unfold FreshStream
  split
  · exact named
  · trivial

end ConnectionRuntime

theorem Isolation.step {w : ConnectionRuntime n} {check : Nat → List UInt8 → UInt8}
    {accepts : List (Interaction n) → Bool} (generated : ∀ n, Format.Validates
      (fun input => decide (check n input ≠ 0)) (Grammar.dnsUncompressedQuestion n))
    (iso : Isolation w.adapter w.transport) (sound : w.Sound) {callback : Callback n} (named : w.NamedStream callback)
    (unused : w.UnusedId callback) :
    Isolation (w.step check accepts callback).adapter (w.step check accepts callback).transport := by
  cases callback with
  | newConnection connection configured =>
    simp only [ConnectionRuntime.step, ConnectionRuntime.acceptConnection]
    split
    · exact iso
    · have handled : Isolation w.adapter (w.transport.say (.setConnectionHandler connection)) := iso.say trivial
      exact handled.say trivial
  | connection connection event =>
    cases event with
    | peerStreamStarted stream streamId =>
      have told : Isolation (w.say (.streamStarted connection stream)).adapter
          (w.say (.streamStarted connection stream)).transport := iso.say trivial
      simp only [ConnectionRuntime.step]
      rcases ConnectionRuntime.connectionCallback_started (w.say (.streamStarted connection stream)) connection stream
          streamId with same | closed | ⟨i, id, -, rfl, free, opened⟩
      · rw [same]
        exact told
      · rw [closed]
        exact told.say trivial
      · rw [opened]
        have taken : Isolation w.adapter ((w.say (.streamStarted connection stream)).transport.setSlot i
            (ConnectionRuntime.openedSlot connection stream id (w.slot i).ingressCapacity)) :=
          told.take free rfl unused
        exact taken.say trivial
    | shutdownComplete =>
      simp only [ConnectionRuntime.step, ConnectionRuntime.connectionCallback]
      split
      · exact iso.say trivial
      · exact iso
    | other => exact iso
  | stream stream event =>
    simp only [ConnectionRuntime.step]
    split
    case h_2 => exact iso
    case h_1 i serves =>
      refine iso.streamCallback generated sound serves ?_
      rintro id rfl
      exact named i serves

theorem init_isolation (configuration : Handle) {responseBuffer sendBuffer : Option (List UInt8)}
    {responseCapacity sendCapacity : Nat} (queue : EventQueue) (ingressCapacities : Fin n → Nat) :
    let start := ConnectionRuntime.init configuration
      (Adapter.init responseBuffer responseCapacity sendBuffer sendCapacity) queue ingressCapacities
    Isolation start.adapter start.transport :=
  ⟨nofun, nofun, nofun, fun id present => absurd (connectionInit_entry id) present, nofun⟩

/-- As long as no stream starts under an ID that a slot in use has, everything that is
sent on a stream answers a request of that stream. -/
theorem run_answers_own_requests {n : Nat} (check : Nat → List UInt8 → UInt8)
    (generated : ∀ n, Format.Validates (fun input => decide (check n input ≠ 0)) (Grammar.dnsUncompressedQuestion n))
    (accepts : List (Interaction n) → Bool) (configuration : Handle) (responseBuffer sendBuffer : Option (List UInt8))
    (responseCapacity sendCapacity : Nat) (responseRoom : ∀ b ∈ responseBuffer, responseCapacity ≤ b.length)
    (sendRoom : ∀ b ∈ sendBuffer, sendCapacity ≤ b.length) (events : Option (List ShellEvent)) (capacity : Nat)
    (small : capacity < 2 ^ 32) (room : ∀ stored ∈ events, capacity ≤ stored.length)
    (ingressCapacities : Fin n → Nat) (callbacks : List (Callback n)) :
    let start := ConnectionRuntime.init configuration
      (Adapter.init responseBuffer responseCapacity sendBuffer sendCapacity) (EventQueue.init events capacity)
      ingressCapacities
    Guarded (fun w callback => w.step check accepts callback)
      (fun w callback => w.NamedStream callback ∧ w.UnusedId callback) start callbacks →
    ∀ interaction ∈ (start.run check accepts callbacks).transport.transcript, AnswersOwnRequest interaction := by
  intro start guarded
  have sound : start.Sound := ConnectionRuntime.init_sound (Adapter.init_valid responseRoom sendRoom)
    (EventQueue.init_idle small room) configuration ingressCapacities
  have isolated : start.Sound ∧ Isolation start.adapter start.transport :=
    ⟨sound, init_isolation configuration (EventQueue.init events capacity) ingressCapacities⟩
  have keeps : ∀ (w : ConnectionRuntime n) callback, w.Sound ∧ Isolation w.adapter w.transport →
      w.NamedStream callback ∧ w.UnusedId callback → (w.step check accepts callback).Sound ∧
        Isolation (w.step check accepts callback).adapter (w.step check accepts callback).transport := by
    rintro w callback ⟨before, iso⟩ ⟨named, unused⟩
    exact ⟨before.step named.fresh, iso.step generated before named unused⟩
  exact (guarded.invariant keeps isolated).2.answered

/-- Two connections; the stream of the second one starts under the given ID and sends a query. -/
def twoConnections (id : UInt64) : List (Callback 4) :=
  [.newConnection 1 .success, .newConnection 2 .success, .connection 1 (.peerStreamStarted 11 (some 0)),
    .connection 2 (.peerStreamStarted 12 (some id)), .stream 12 (.receive [0 :: 19 :: addressQuery] true)]

theorem run_answers_own_requests_apart :
    let transcript := (smallServer.run checkQuestion (fun _ => true) (twoConnections 4)).transport.transcript
    Interaction.streamSend 12 1 (be16 19 ++ minimalResponse addressQuery) true true
        [.bytes 12 (0 :: 19 :: addressQuery), .fin 12] ∈ transcript ∧
      ∀ interaction ∈ transcript, AnswersOwnRequest interaction := by
  have answered := run_answers_own_requests checkQuestion checkQuestion_validates (fun _ => true) 9
    (some (List.replicate 64 255)) (some (List.replicate 64 7)) 64 64 (by simp) (by simp) (some [.readyResponse 0]) 1
    (by decide) (by simp) (fun _ => 4096) (twoConnections 4) (by decide +kernel)
  exact ⟨by decide +kernel, answered⟩

/-- The connection and the ID of a stream that starts. -/
def startedId {n : Nat} : Callback n → Option (Handle × UInt64)
  | .connection connection (.peerStreamStarted _ (some id)) => some (connection, id)
  | _ => none

/-- The response to the second connection's query is sent to the first one. -/
theorem streams_of_two_connections_confused :
    let transcript := (smallServer.run checkQuestion (fun _ => true) (twoConnections 0)).transport.transcript
    Guarded (fun w callback => w.step checkQuestion (fun _ => true) callback) ConnectionRuntime.NamedStream smallServer
      (twoConnections 0) ∧
    ((twoConnections 0).filterMap startedId).Nodup ∧
    ∃ interaction ∈ transcript, ¬ AnswersOwnRequest interaction ∧
      interaction = .streamSend 11 0 (be16 19 ++ minimalResponse addressQuery) true true
        [.bytes 12 (0 :: 19 :: addressQuery), .fin 12] := by
  refine ⟨by decide +kernel, by decide, _, by decide +kernel, ?_, rfl⟩
  rintro ⟨-, sources, -⟩
  have source : (12 : Handle) = 11 := sources (.fin 12) (by simp)
  exact absurd source (by decide)

end Ism
