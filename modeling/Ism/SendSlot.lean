import Ism.StreamFin

namespace Ism

open Lib ShellConnection

section Transcripts

variable {n : Nat}

/-- How often MsQuic accepted a send on a stream. -/
def acceptedSends (stream : Handle) (transcript : List (Interaction n)) : Nat :=
  transcript.countP fun interaction =>
    match interaction with
    | .streamSend handle _ _ _ accepted _ => decide (handle = stream) && accepted
    | _ => false

def pendingDataStep (stream : Handle) (current : Option (List UInt8)) : Interaction n → Option (List UInt8)
  | .streamSend handle _ data _ accepted _ => if handle = stream ∧ accepted = true then some data else current
  | .streamCallback handle (.sendComplete ..) => if handle = stream then none else current
  | _ => current

/-- The bytes of an accepted send that MsQuic has not completed. -/
def pendingData (stream : Handle) (transcript : List (Interaction n)) : Option (List UInt8) :=
  transcript.foldl (pendingDataStep stream) none

variable (stream : Handle) (transcript : List (Interaction n)) (interaction : Interaction n)

theorem acceptedSends_append : acceptedSends stream (transcript ++ [interaction]) =
    acceptedSends stream transcript + acceptedSends stream [interaction] :=
  List.countP_append

theorem pendingData_append : pendingData stream (transcript ++ [interaction]) =
    pendingDataStep stream (pendingData stream transcript) interaction := by
  simp [pendingData]

end Transcripts

namespace ConnectionRuntime

variable {n : Nat} {check : Nat → List UInt8 → UInt8} {accepts : List (Interaction n) → Bool}
  {w after : ConnectionRuntime n} {i : Fin n} {h : Handle}

/-- The three records of the send in flight agree for the slot `i`: the adapter's, the slot's
and the table's; the send buffer holds what was sent. -/
structure Flying (w : ConnectionRuntime n) (i : Fin n) : Prop where
  busy : w.adapter.sendInFlight = true
  id_eq : (w.slot i).runtime.streamId = w.adapter.sendStreamId
  len_eq : (w.slot i).runtime.responseLen = w.adapter.sendLen
  fin : (w.slot i).runtime.receivedFin = true
  ready : ∃ k message, w.adapter.connection.entry w.adapter.sendStreamId = some ⟨.processing k, message⟩
  holds : ∃ buffer, w.adapter.sendBuffer = some buffer ∧
    pendingData (w.slot i).stream w.transport.transcript = some (buffer.take w.adapter.sendLen)

/-- The adapter has a send in flight exactly for the one slot that has one, and no stream
is sent on twice. -/
structure Coherence (w : ConnectionRuntime n) : Prop where
  distinct : w.transport.DistinctIds
  flying : ∀ i, (w.slot i).inUse = true → (w.slot i).runtime.sendInFlight = true → w.Flying i
  landing : w.adapter.sendInFlight = true → ∃ i, (w.slot i).inUse = true ∧ (w.slot i).runtime.sendInFlight = true
  unsent : ∀ i, (w.slot i).inUse = true → (w.slot i).runtime.receivedFin = false →
    acceptedSends (w.slot i).stream w.transport.transcript = 0
  once : ∀ h, acceptedSends h w.transport.transcript ≤ 1
  fresh : ∀ h, ¬ Started h w.transport.transcript → acceptedSends h w.transport.transcript = 0

/-- A slot without a send of its own has another ID than the send in flight. -/
theorem Coherence.elsewhere (coherent : w.Coherence) (used : (w.slot i).inUse = true)
    (quiet : (w.slot i).runtime.sendInFlight = false) (busy : w.adapter.sendInFlight = true) :
    w.adapter.sendStreamId ≠ (w.slot i).runtime.streamId := by
  intro same
  obtain ⟨j, used', sending⟩ := coherent.landing busy
  obtain rfl := coherent.distinct i j used used' (same.symm.trans (coherent.flying j used' sending).id_eq.symm)
  rw [quiet] at sending
  cases sending

/-- A slot whose FIN was not taken has not sent. -/
theorem Coherence.quiet (coherent : w.Coherence) (used : (w.slot i).inUse = true)
    (unfinished : (w.slot i).runtime.receivedFin = false) : (w.slot i).runtime.sendInFlight = false := by
  rw [← Bool.not_eq_true]
  intro sending
  rw [(coherent.flying i used sending).fin] at unfinished
  cases unfinished

theorem Coherence.idle (coherent : w.Coherence) (used : (w.slot i).inUse = true)
    (free : w.adapter.sendInFlight = false) : (w.slot i).runtime.sendInFlight = false := by
  rw [← Bool.not_eq_true]
  intro sending
  rw [(coherent.flying i used sending).busy] at free
  cases free

/-- What happened in between has not touched any record of a send. -/
structure Unmoved (w after : ConnectionRuntime n) : Prop where
  streams : Transport.SameStreams w.transport after.transport
  sending : ∀ j, (after.slot j).runtime.sendInFlight = (w.slot j).runtime.sendInFlight
  len : ∀ j, (w.slot j).runtime.sendInFlight = true →
    (after.slot j).runtime.responseLen = (w.slot j).runtime.responseLen
  fin : ∀ j, (w.slot j).runtime.receivedFin = true → (after.slot j).runtime.receivedFin = true
  adapter : after.adapter.sendInFlight = w.adapter.sendInFlight
  kept : w.adapter.sendInFlight = true → after.adapter.sendStreamId = w.adapter.sendStreamId ∧
    after.adapter.sendLen = w.adapter.sendLen ∧ after.adapter.sendBuffer = w.adapter.sendBuffer ∧
    after.adapter.connection.entry w.adapter.sendStreamId = w.adapter.connection.entry w.adapter.sendStreamId
  started : ∀ h, Started h w.transport.transcript → Started h after.transport.transcript
  said : ∀ h, acceptedSends h after.transport.transcript = acceptedSends h w.transport.transcript ∧
    pendingData h after.transport.transcript = pendingData h w.transport.transcript

theorem Coherence.unmoved (coherent : w.Coherence) (unmoved : w.Unmoved after) : after.Coherence := by
  have used : ∀ j, (after.slot j).inUse = (w.slot j).inUse := fun j => (unmoved.streams j).1
  have stream : ∀ j, (after.slot j).stream = (w.slot j).stream := fun j => (unmoved.streams j).2.1
  have named : ∀ j, (after.slot j).runtime.streamId = (w.slot j).runtime.streamId := fun j => (unmoved.streams j).2.2
  refine ⟨coherent.distinct.sameStreams unmoved.streams, ?_, ?_, ?_, ?_, ?_⟩
  · intro j inUse sending
    rw [used] at inUse
    rw [unmoved.sending] at sending
    have flying := coherent.flying j inUse sending
    obtain ⟨sameId, sameLen, sameBuffer, sameEntry⟩ := unmoved.kept flying.busy
    refine ⟨unmoved.adapter.trans flying.busy, ?_, ?_, unmoved.fin j flying.fin, ?_, ?_⟩
    · rw [named, sameId, flying.id_eq]
    · rw [unmoved.len j sending, sameLen, flying.len_eq]
    · rw [sameId, sameEntry]
      exact flying.ready
    · rw [sameBuffer, stream, (unmoved.said _).2, sameLen]
      exact flying.holds
  · intro busy
    rw [unmoved.adapter] at busy
    obtain ⟨j, inUse, sending⟩ := coherent.landing busy
    exact ⟨j, (used j).trans inUse, (unmoved.sending j).trans sending⟩
  · intro j inUse unfinished
    rw [used] at inUse
    rw [stream, (unmoved.said _).1]
    refine coherent.unsent j inUse ?_
    rw [← Bool.not_eq_true]
    intro finished
    rw [unmoved.fin j finished] at unfinished
    cases unfinished
  · intro g
    rw [(unmoved.said g).1]
    exact coherent.once g
  · intro g unstarted
    rw [(unmoved.said g).1]
    exact coherent.fresh g fun started => unstarted (unmoved.started g started)

/-- Anything may be said that is neither a send nor the end of one. -/
theorem unmoved_say (w : ConnectionRuntime n) (interaction : Interaction n)
    (silent : ∀ h current, acceptedSends h [interaction] = 0 ∧ pendingDataStep h current interaction = current) :
    w.Unmoved (w.say interaction) where
  streams := Transport.SameStreams.refl _
  sending _ := rfl
  len _ _ := rfl
  fin _ finished := finished
  adapter := rfl
  kept _ := ⟨rfl, rfl, rfl, rfl⟩
  started _ started := started.append interaction
  said h := ⟨(acceptedSends_append h _ interaction).trans (by rw [(silent h none).1, Nat.add_zero]),
    (pendingData_append h _ interaction).trans (silent h _).2⟩

theorem Unmoved.trans {third : ConnectionRuntime n} (first : w.Unmoved after) (second : after.Unmoved third) :
    w.Unmoved third where
  streams := first.streams.trans second.streams
  sending j := (second.sending j).trans (first.sending j)
  len j sending := (second.len j ((first.sending j).trans sending)).trans (first.len j sending)
  fin j finished := second.fin j (first.fin j finished)
  adapter := second.adapter.trans first.adapter
  kept busy := by
    obtain ⟨id, len, buffer, entry⟩ := first.kept busy
    obtain ⟨id', len', buffer', entry'⟩ := second.kept (first.adapter.trans busy)
    rw [id] at entry'
    exact ⟨id'.trans id, len'.trans len, buffer'.trans buffer, entry'.trans entry⟩
  started h started := second.started h (first.started h started)
  said h := ⟨(second.said h).1.trans (first.said h).1, (second.said h).2.trans (first.said h).2⟩

theorem unmoved_record (w : ConnectionRuntime n) {f : RuntimeStream → RuntimeStream}
    (named : (f (w.slot i).runtime).streamId = (w.slot i).runtime.streamId)
    (sending : (f (w.slot i).runtime).sendInFlight = (w.slot i).runtime.sendInFlight)
    (len : (w.slot i).runtime.sendInFlight = true → (f (w.slot i).runtime).responseLen = (w.slot i).runtime.responseLen)
    (fin : (w.slot i).runtime.receivedFin = true → (f (w.slot i).runtime).receivedFin = true) :
    w.Unmoved (w.modifyRuntime i f) := by
  have self : (w.modifyRuntime i f).slot i = { w.slot i with runtime := f (w.slot i).runtime } :=
    Transport.modifyRuntime_self w.transport i f
  have others : ∀ j, j ≠ i → (w.modifyRuntime i f).slot j = w.slot j :=
    fun j apart => Transport.modifyRuntime_other w.transport apart f
  refine ⟨sameStreams_modifyRuntime w named, ?_, ?_, ?_, rfl, fun _ => ⟨rfl, rfl, rfl, rfl⟩, fun _ started => started,
    fun _ => ⟨rfl, rfl⟩⟩
  · intro j
    by_cases here : j = i
    · rw [here, self]
      exact sending
    · rw [others j here]
  · intro j
    by_cases here : j = i
    · rw [here, self]
      exact len
    · rw [others j here]
      exact fun _ => rfl
  · intro j
    by_cases here : j = i
    · rw [here, self]
      exact fin
    · rw [others j here]
      exact id

/-- The adapter may change in what the send in flight does not need. -/
theorem unmoved_adapter (w : ConnectionRuntime n) (adapter : Adapter) (queue : EventQueue)
    (histories : UInt64 → List (Delivery Handle)) (flight : adapter.sendInFlight = w.adapter.sendInFlight)
    (kept : w.adapter.sendInFlight = true → adapter.sendStreamId = w.adapter.sendStreamId ∧
      adapter.sendLen = w.adapter.sendLen ∧ adapter.sendBuffer = w.adapter.sendBuffer ∧
      adapter.connection.entry w.adapter.sendStreamId = w.adapter.connection.entry w.adapter.sendStreamId) :
    w.Unmoved { w with
      queue := queue, adapter := adapter, transport := { w.transport with histories := histories } } where
  streams _ := ⟨rfl, rfl, rfl⟩
  sending _ := rfl
  len _ _ := rfl
  fin _ finished := finished
  adapter := flight
  kept := kept
  started _ started := started
  said _ := ⟨rfl, rfl⟩

theorem Coherence.bytes (coherent : w.Coherence) (sound : w.Sound) (used : (w.slot i).inUse = true)
    (unfinished : (w.slot i).runtime.receivedFin = false) {data : List UInt8} (nonempty : data ≠ [])
    (queue : EventQueue) :
    w.Unmoved (w.dispatched check accepts h (.authenticatedStreamBytes (w.slot i).runtime.streamId data) queue) := by
  have spec := sound.adapter.connection.dispatchAuthenticatedStreamData_spec (w.slot i).runtime.streamId data
  simp only [dispatched, dispatchOutcome, dispatchEvent_bytes sound.adapter _ nonempty]
  refine w.unmoved_adapter _ queue _ rfl fun busy => ⟨rfl, rfl, rfl, ?_⟩
  exact Delivered.entry_other spec (coherent.elsewhere used (coherent.quiet used unfinished) busy)

/-- Without a send of its own, a slot completes nothing. -/
theorem Coherence.complete (coherent : w.Coherence) (sound : w.Sound) (used : (w.slot i).inUse = true)
    (quiet : (w.slot i).runtime.sendInFlight = false) (len : Nat) (dropped : Bool) (queue : EventQueue) :
    w.Unmoved (w.dispatched check accepts h (.sendComplete (w.slot i).runtime.streamId len dropped) queue) := by
  have refused : w.adapter.onSendComplete (w.slot i).runtime.streamId len dropped = (false, w.adapter) := by
    rw [sound.adapter.onSendComplete_eq, if_neg]
    exact fun own => coherent.elsewhere used quiet own.1 own.2.1
  simp only [dispatched, dispatchOutcome, EventQueue.dispatchEvent, refused]
  exact w.unmoved_adapter _ queue _ rfl fun _ => ⟨rfl, rfl, rfl, rfl⟩

theorem Coherence.reset (coherent : w.Coherence) (sound : w.Sound) (used : (w.slot i).inUse = true)
    (quiet : (w.slot i).runtime.sendInFlight = false) (queue : EventQueue) :
    w.Unmoved (w.dispatched check accepts h (.streamReset (w.slot i).runtime.streamId) queue) := by
  simp only [dispatched, dispatchOutcome, EventQueue.dispatchEvent, sound.adapter.onStreamReset_eq]
  split_ifs with busy own
  · exact absurd own (coherent.elsewhere used quiet busy)
  · exact w.unmoved_adapter _ queue _ rfl fun _ => ⟨rfl, rfl, rfl, rfl⟩
  · exact w.unmoved_adapter _ queue _ rfl fun flying => absurd flying busy

/-- An accepted send makes all records agree on it. -/
theorem Coherence.sent (coherent : w.Coherence) (sound : w.Sound) (used : (w.slot i).inUse = true)
    (unfinished : (w.slot i).runtime.receivedFin = false) (free : w.adapter.sendInFlight = false)
    (h : Handle) (sendBuffer : List UInt8) (len : Nat) {k : MessageLength} {message : List UInt8}
    (self : after.slot i = { w.slot i with
      runtime := { (w.slot i).runtime with
        receivedFin := true, responseLen := len, sendInFlight := true, resetPending := false } })
    (others : ∀ j, j ≠ i → after.slot j = w.slot j)
    (transcript : after.transport.transcript = w.transport.transcript ++ [w.sendOn i h sendBuffer len true])
    (busy : after.adapter.sendInFlight = true ∧ after.adapter.sendStreamId = (w.slot i).runtime.streamId ∧
      after.adapter.sendLen = len ∧ after.adapter.sendBuffer = some sendBuffer)
    (entry : after.adapter.connection.entry (w.slot i).runtime.streamId = some ⟨.processing k, message⟩) :
    after.Coherence := by
  have streams : Transport.SameStreams w.transport after.transport := by
    intro j
    change (after.slot j).inUse = (w.slot j).inUse ∧ (after.slot j).stream = (w.slot j).stream ∧
      (after.slot j).runtime.streamId = (w.slot j).runtime.streamId
    by_cases here : j = i
    · rw [here, self]
      exact ⟨rfl, rfl, rfl⟩
    · rw [others j here]
      exact ⟨rfl, rfl, rfl⟩
  have elsewhere : ∀ g, g ≠ (w.slot i).stream → acceptedSends g after.transport.transcript =
      acceptedSends g w.transport.transcript := by
    intro g apart
    rw [transcript, acceptedSends_append]
    simp [acceptedSends, sendOn, apart.symm]
  have here : acceptedSends (w.slot i).stream after.transport.transcript = 1 := by
    rw [transcript, acceptedSends_append, coherent.unsent i used unfinished]
    simp [acceptedSends, sendOn]
  obtain ⟨flight, id_eq, len_eq, buffer⟩ := busy
  refine ⟨coherent.distinct.sameStreams streams, ?_, ?_, ?_, ?_, ?_⟩
  · intro j inUse sending
    by_cases same : j = i
    · subst same
      refine ⟨flight, ?_, ?_, ?_, ⟨k, message, id_eq ▸ entry⟩, sendBuffer, buffer, ?_⟩
      · rw [self, id_eq]
      · rw [self, len_eq]
      · rw [self]
      · rw [self, transcript, pendingData_append, len_eq]
        simp [pendingDataStep, sendOn]
    · rw [others j same] at inUse sending
      rw [coherent.idle inUse free] at sending
      cases sending
  · exact fun _ => ⟨i, by rw [self]; exact used, by rw [self]⟩
  · intro j inUse unfinished'
    by_cases same : j = i
    · rw [same, self] at unfinished'
      cases unfinished'
    · rw [others j same] at inUse unfinished' ⊢
      have apart : (w.slot j).stream ≠ (w.slot i).stream := fun equal => same (sound.transport.apart inUse used equal)
      rw [elsewhere _ apart]
      exact coherent.unsent j inUse unfinished'
  · intro g
    by_cases same : g = (w.slot i).stream
    · subst same
      exact Nat.le_of_eq here
    · rw [elsewhere g same]
      exact coherent.once g
  · intro g unstarted
    have before : ¬ Started g w.transport.transcript := fun started => unstarted (transcript ▸ started.append _)
    have apart : g ≠ (w.slot i).stream := by
      rintro rfl
      have serves : registered (w.slot i).stream w.transport.transcript = some i := sound.transport.owner i used
      rw [(sound.transport.fresh _ before).1] at serves
      cases serves
    rw [elsewhere g apart]
    exact coherent.fresh g before

theorem Coherence.fin (coherent : w.Coherence) (sound : w.Sound) (used : (w.slot i).inUse = true)
    (unfinished : (w.slot i).runtime.receivedFin = false) (queue : EventQueue) {outcome : Bool × Adapter × Transport n}
    (dispatched : FinDispatched accepts w i h outcome) : (w.finWith i queue outcome).Coherence := by
  have delivered : ∀ adapter : Adapter, adapter.connection = (w.finished i).connection →
      adapter.sendInFlight = w.adapter.sendInFlight → (w.adapter.sendInFlight = true →
        adapter.sendStreamId = w.adapter.sendStreamId ∧ adapter.sendLen = w.adapter.sendLen ∧
        adapter.sendBuffer = w.adapter.sendBuffer) →
      w.Unmoved { w with queue := queue, adapter := adapter, transport := w.finDelivered i h } := by
    intro adapter connection flight kept
    refine w.unmoved_adapter adapter queue _ flight fun busy => ?_
    obtain ⟨id, len, buffer⟩ := kept busy
    refine ⟨id, len, buffer, ?_⟩
    rw [connection]
    exact Delivered.entry_other (sound.adapter.connection.onAuthenticatedStreamFin_spec (w.slot i).runtime.streamId)
      (coherent.elsewhere used (coherent.quiet used unfinished) busy)
  cases dispatched with
  | @quiet ready responseBuffer sendBuffer kept =>
    refine coherent.unmoved ((delivered ((w.finished i).withBuffers responseBuffer sendBuffer) rfl rfl
      fun busy => ⟨rfl, rfl, kept busy⟩).trans (unmoved_record _ rfl rfl (fun _ => rfl) ?_))
    intro finished
    rw [show (w.slot i).runtime.receivedFin = true from finished] at unfinished
    cases unfinished
  | @sent k message responseBuffer sendBuffer len free entry =>
    refine coherent.sent sound used unfinished free h sendBuffer len ?_ ?_ rfl ⟨rfl, rfl, rfl, rfl⟩ entry
    · simp only [finWith, slot, modifyRuntime, Transport.modifyRuntime_self]
      rfl
    · intro j apart
      simp only [finWith, slot, modifyRuntime, Transport.modifyRuntime_other _ apart]
      rfl
  | @refused k message responseBuffer sendBuffer len free =>
    have idle := coherent.idle used free
    have landed := w.unmoved_adapter (((w.finished i).withBuffers (some responseBuffer)
        (some sendBuffer)).landed ((w.finished i).connection.closeStream (w.slot i).runtime.streamId).syncStreamSlots)
      queue (w.finDelivered i h).histories free.symm fun busy => by rw [free] at busy; cases busy
    have told := landed.trans (unmoved_say _ (w.sendOn i h sendBuffer len false)
      fun g current => ⟨by simp [acceptedSends, sendOn], by simp [pendingDataStep, sendOn]⟩)
    have cleared := told.trans (unmoved_record (i := i) _ (f := RuntimeStream.clearSend) rfl idle.symm
      (fun busy => by rw [show (w.slot i).runtime.sendInFlight = true from busy] at idle; cases idle) id)
    refine coherent.unmoved (cleared.trans (unmoved_record _ ?_ ?_ ?_ fun _ => rfl))
    · rfl
    · rfl
    · exact fun _ => rfl

end ConnectionRuntime

end Ism
