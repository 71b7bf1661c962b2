import Ism.WholeStream

namespace Ism

open Lib ShellConnection

namespace ConnectionRuntime

variable {n : Nat} {check : Nat → List UInt8 → UInt8} {accepts : List (Interaction n) → Bool}
  {w after : ConnectionRuntime n} {i : Fin n} {h : Handle}

/-- The bytes of a receive event are owed to the slot's entry when the event is told. -/
theorem WholeStreams.hearReceive (whole : w.WholeStreams) (sound : w.Sound)
    (serves : registered h w.transport.transcript = some i) (live : Live h w.transport.transcript)
    {buffers : List (List UInt8)} {fin : Bool} (unbroken : w.Unbroken (.stream h (.receive buffers fin))) :
    (w.say (.streamCallback h (.receive buffers fin))).Serving i ∧
      (w.say (.streamCallback h (.receive buffers fin))).Owed i buffers.flatten := by
  obtain ⟨used, named, -⟩ := sound.transport.served h i serves
  replace named : (w.slot i).stream = h := named
  have told : ∀ g, receivedBytes g (w.transport.transcript ++ [.streamCallback h (.receive buffers fin)]) =
      receivedBytes g w.transport.transcript ++ if h = g then buffers.flatten else [] := by
    intro g
    rw [receivedBytes_append]
    simp [receivedBytes]
  refine ⟨⟨fun j inUse => ?_, fun j apart inUse liveNow => ?_, whole.answers.append trivial⟩, fun e present => ?_, ?_⟩
  · obtain ⟨real, started⟩ := whole.connected j inUse
    exact ⟨real, List.mem_append_left _ started⟩
  · have other : h ≠ (w.slot j).stream := fun same =>
      apart (sound.transport.apart inUse used (same.symm.trans named.symm))
    refine ⟨fun e present => ?_, fun _ nonempty => absurd rfl nonempty⟩
    have before := (whole.settled j inUse (liveNow.of_prefix (List.prefix_append ..))).1 e present
    change _ ∨ _ = receivedBytes (w.slot j).stream
      (w.transport.transcript ++ [.streamCallback h (.receive buffers fin)])
    rw [told, if_neg other, List.append_nil (receivedBytes _ _)]
    exact before
  · change _ ∨ _ = receivedBytes (w.slot i).stream
      (w.transport.transcript ++ [.streamCallback h (.receive buffers fin)])
    rw [told, if_pos named.symm]
    rcases (whole.settled i used (named ▸ live)).1 e present with ended | complete
    · exact Or.inl ended
    · rw [List.append_nil] at complete
      exact Or.inr (congrArg (· ++ buffers.flatten) complete)
  · intro absent nonempty unfinished
    change receivedBytes (w.slot i).stream (w.transport.transcript ++ [.streamCallback h (.receive buffers fin)]) = _
    have unread : receivedBytes (w.slot i).stream w.transport.transcript = [] := by
      rw [named]
      exact unbroken i serves nonempty unfinished (entry_eq_none_iff.mp absent)
    rw [told, if_pos named.symm, unread, List.nil_append]

/-- The accounts stay settled as long as entries are only removed and nothing is received. -/
theorem WholeStreams.keep (whole : w.WholeStreams) (streams : Transport.SameStreams w.transport after.transport)
    (grows : Transport.Grows w.transport after.transport)
    (entry : ∀ id e, after.adapter.connection.entry id = some e → w.adapter.connection.entry id = some e)
    (history : after.transport.histories = w.transport.histories)
    (answers : AnswersWholeStreams after.transport.transcript) : after.WholeStreams := by
  refine ⟨whole.connected.grows streams grows, fun j used live => ?_, answers⟩
  obtain ⟨inUse, stream, -⟩ := streams j
  rw [show (after.slot j).stream = (w.slot j).stream from stream] at live
  exact (whole.settled j (inUse.symm.trans used) (live.of_prefix grows.said)).keep streams grows (entry _)
    (congrFun history _)

theorem WholeStreams.say (whole : w.WholeStreams) {interaction : Interaction n}
    (silent : ∀ g, receivedBytes g [interaction] = []) (covers : CoversStream w.transport.transcript interaction) :
    (w.say interaction).WholeStreams :=
  whole.keep (Transport.SameStreams.refl _) (Transport.Grows.say _ silent) (fun _ _ present => present) rfl
    (whole.answers.append covers)

theorem WholeStreams.record (whole : w.WholeStreams) {f : RuntimeStream → RuntimeStream}
    (named : (f (w.slot i).runtime).streamId = (w.slot i).runtime.streamId)
    (connection : (f (w.slot i).runtime).connection = (w.slot i).runtime.connection) :
    (w.modifyRuntime i f).WholeStreams :=
  whole.keep (sameStreams_modifyRuntime w named) (grows_modifyRuntime w connection) (fun _ _ present => present) rfl
    whole.answers

/-- A reset at most removes an entry. -/
theorem WholeStreams.onReset (whole : w.WholeStreams) (idle : w.queue.Idle) (valid : w.adapter.Valid) :
    (w.onReset check accepts i h).2.WholeStreams := by
  unfold ConnectionRuntime.onReset
  split
  · exact whole.record rfl rfl
  · rw [resetStatus_snd]
    rcases onStreamReset_cases check accepts idle i h with refused | ⟨queue, -, -, done⟩
    · rw [refused]
      exact whole
    · rw [done]
      refine whole.keep (fun _ => ⟨rfl, rfl, rfl⟩) ⟨fun _ => rfl, List.prefix_refl _, fun _ => rfl⟩ ?_ rfl whole.answers
      intro other e present
      simp only [dispatched, dispatchOutcome, EventQueue.dispatchEvent, valid.onStreamReset_eq] at present
      split_ifs at present
      · exact valid.connection.close_entry present
      · exact present
      · exact valid.connection.close_entry present

/-- So does the end of a send. -/
theorem WholeStreams.sendComplete (whole : w.WholeStreams) (idle : w.queue.Idle) (valid : w.adapter.Valid)
    (clientContext : Option (Fin n)) (canceled : Bool) :
    (w.runtimeStreamCallback check accepts i h (.sendComplete clientContext canceled)).2.WholeStreams := by
  have cleared : (w.modifyRuntime i RuntimeStream.clearSend).WholeStreams := whole.record rfl rfl
  simp only [ConnectionRuntime.runtimeStreamCallback]
  split
  · exact whole
  · split
    · exact cleared
    · rw [resetStatus_snd]
      simp only [onSendComplete]
      split
      · exact cleared
      · have idleNow : (w.modifyRuntime i RuntimeStream.clearSend).queue.Idle := idle
        rcases enqueueAndDispatch_cases check accepts idleNow h (.sendComplete
            ((w.modifyRuntime i RuntimeStream.clearSend).slot i).runtime.streamId (w.slot i).runtime.responseLen
            (canceled || (w.slot i).runtime.resetPending)) with ⟨-, refused⟩ | ⟨queue, -, -, -, done⟩
        · rw [refused]
          exact cleared
        · rw [done]
          refine cleared.keep (fun _ => ⟨rfl, rfl, rfl⟩) ⟨fun _ => rfl, List.prefix_refl _, fun _ => rfl⟩ ?_ rfl
            cleared.answers
          intro other e present
          have validNow : (w.modifyRuntime i RuntimeStream.clearSend).adapter.Valid := valid
          simp only [dispatched, dispatchOutcome, EventQueue.dispatchEvent, validNow.onSendComplete_eq] at present
          split at present
          · exact valid.connection.close_entry present
          · exact present

/-- A slot that is given up owes nothing. -/
theorem WholeStreams.releaseSlot (whole : w.WholeStreams) (sound : w.Sound) (used : (w.slot i).inUse = true) :
    (w.releaseSlot i).WholeStreams := by
  have transport := releaseSlot_transport used sound
  have adapter := (releaseSlot_frame w i).2
  have transcript := releaseSlot_transcript used sound
  have histories : (w.releaseSlot i).transport.histories = w.transport.histories := by
    rw [transport]
    rfl
  have received : ∀ g, receivedBytes g (w.releaseSlot i).transport.transcript =
      receivedBytes g w.transport.transcript := by
    intro g
    rw [transcript, receivedBytes_append]
    exact List.append_nil _
  refine ⟨fun j inUse => ?_, fun j inUse live => ?_, ?_⟩
  · have same := releaseSlot_used inUse
    rw [same] at inUse ⊢
    obtain ⟨real, started⟩ := whole.connected j inUse
    rw [transcript]
    exact ⟨real, List.mem_append_left _ started⟩
  · have same := releaseSlot_used inUse
    rw [same, transcript] at live
    rw [same] at inUse
    refine ⟨fun e present => ?_, fun _ nonempty => absurd rfl nonempty⟩
    rw [same, adapter] at present
    rw [same, histories, received]
    exact (whole.settled j inUse (live.of_prefix (List.prefix_append ..))).1 e present
  · rw [transcript]
    exact whole.answers.append trivial

/-- A new stream has no entry yet, so that nothing is owed to it. -/
theorem WholeStreams.openSlot (whole : w.WholeStreams) {slot : StreamSlot}
    (unlisted : w.adapter.connection.entry slot.runtime.streamId = none) (real : slot.runtime.connection ≠ 0)
    (started : .streamStarted slot.runtime.connection slot.stream ∈ w.transport.transcript) :
    (w.setSlot i slot).WholeStreams := by
  have self : (w.setSlot i slot).slot i = slot := Transport.setSlot_self w.transport i slot
  have others : ∀ j, j ≠ i → (w.setSlot i slot).slot j = w.slot j :=
    fun j apart => Transport.setSlot_other w.transport apart slot
  refine ⟨fun j inUse => ?_, fun j inUse live => ?_, whole.answers⟩
  · by_cases here : j = i
    · rw [here, self]
      exact ⟨real, started⟩
    · rw [others j here] at inUse ⊢
      exact whole.connected j inUse
  · refine ⟨fun e present => ?_, fun _ nonempty => absurd rfl nonempty⟩
    by_cases here : j = i
    · rw [here, self] at present
      exact absurd (unlisted.symm.trans present) nofun
    · rw [others j here] at inUse live present ⊢
      exact (whole.settled j inUse live).1 e present

section Run

variable (generated : ∀ n, Format.Validates (fun input => decide (check n input ≠ 0))
  (Grammar.dnsUncompressedQuestion n))

include generated

theorem Serving.onMsquicReceive (accepts : List (Interaction n) → Bool) {buffers : List (List UInt8)} (fin : Bool)
    (serving : w.Serving i)
    (owed : w.Owed i buffers.flatten) (sound : w.Sound) (iso : Isolation w.adapter w.transport)
    (used : (w.slot i).inUse = true) (named : (w.slot i).stream = h) :
    (w.onMsquicReceive check accepts i h buffers fin).2.Serving i ∧
      ((w.onMsquicReceive check accepts i h buffers fin).1 = true →
        (w.onMsquicReceive check accepts i h buffers fin).2.Owed i []) := by
  obtain ⟨after, settled⟩ := serving.receiveBuffers generated buffers owed sound iso used named
  have pieces : Micros check accepts i h w (ConnectionRuntime.receiveBuffers check accepts i h buffers w).2 :=
    receiveBuffers_micros buffers sound.queue
  obtain ⟨soundAfter, streams⟩ := sound.micros pieces
  have isoAfter := iso.micros generated sound used named pieces
  obtain ⟨inUse, stream, -⟩ := streams i
  unfold ConnectionRuntime.onMsquicReceive
  generalize ConnectionRuntime.receiveBuffers check accepts i h buffers w = result at *
  obtain ⟨done, v⟩ := result
  cases done with
  | false => exact ⟨after, nofun⟩
  | true =>
    cases fin with
    | false => exact ⟨after, settled⟩
    | true =>
      exact after.onFin accepts generated (settled rfl) soundAfter isoAfter (inUse.trans used) (stream.trans named)

theorem WholeStreams.runtimeStreamCallback (whole : w.WholeStreams) (sound : w.Sound)
    (iso : Isolation w.adapter w.transport) (serves : registered h w.transport.transcript = some i)
    {event : StreamEvent n} (named : w.NamedStream (.stream h event)) (live : w.LiveStream (.stream h event))
    (unbroken : w.Unbroken (.stream h event)) :
    ((w.say (.streamCallback h event)).runtimeStreamCallback check accepts i h event).2.WholeStreams := by
  obtain ⟨used, handle, -⟩ := sound.transport.served h i serves
  replace handle : (w.slot i).stream = h := handle
  have isoTold : Isolation (w.say (.streamCallback h event)).adapter (w.say (.streamCallback h event)).transport :=
    iso.say trivial
  have told : (∀ g, receivedBytes g [.streamCallback (n := n) h event] = []) →
      (w.say (.streamCallback h event)).WholeStreams := fun silent => whole.say silent trivial
  cases event with
  | startComplete id => exact (told fun _ => rfl).record (named i serves).symm rfl
  | receive buffers fin =>
    have heard : (w.say (.streamCallback h (.receive buffers fin))).Sound := sound.hear serves nofun
    obtain ⟨serving, owed⟩ := whole.hearReceive sound serves live unbroken
    obtain ⟨after, settled⟩ := serving.onMsquicReceive generated accepts fin owed heard isoTold used handle
    obtain ⟨soundAfter, streams⟩ := heard.micros (onMsquicReceive_micros heard.queue buffers fin)
    exact after.deliveryStatus settled soundAfter ((streams i).1.trans used)
  | peerSendShutdown =>
    have heard : (w.say (.streamCallback h .peerSendShutdown)).Sound := sound.hear serves nofun
    have owed : (w.say (.streamCallback h .peerSendShutdown)).Owed i [] :=
      (whole.settled i used (handle ▸ live)).keep (Transport.SameStreams.refl _) (Transport.Grows.say _ fun _ => rfl)
        (fun _ present => present) rfl
    obtain ⟨after, settled⟩ := ((told fun _ => rfl).serving i).onFin accepts generated owed heard isoTold used handle
    obtain ⟨soundAfter, streams⟩ := heard.micros (onFin_micros heard.queue)
    exact after.deliveryStatus settled soundAfter ((streams i).1.trans used)
  | sendComplete clientContext canceled =>
    exact (told fun _ => rfl).sendComplete sound.queue sound.adapter clientContext canceled
  | peerSendAborted | peerReceiveAborted | shutdownComplete =>
    exact (told fun _ => rfl).onReset sound.queue sound.adapter
  | other => exact told fun _ => rfl

theorem WholeStreams.step (whole : w.WholeStreams) (sound : w.Sound) (iso : Isolation w.adapter w.transport)
    {callback : Callback n} (named : w.NamedStream callback) (live : w.LiveStream callback)
    (unbroken : w.Unbroken callback) (unlisted : w.UnlistedId callback) :
    (w.step check accepts callback).WholeStreams := by
  cases callback with
  | newConnection connection configured =>
    simp only [ConnectionRuntime.step, acceptConnection]
    split
    · exact whole
    · have handled : (w.say (.setConnectionHandler connection)).WholeStreams := whole.say (fun _ => rfl) trivial
      exact handled.say (fun _ => rfl) trivial
  | connection connection event =>
    cases event with
    | peerStreamStarted stream streamId =>
      have told : (w.say (.streamStarted connection stream)).WholeStreams := whole.say (fun _ => rfl) trivial
      simp only [ConnectionRuntime.step]
      rcases connectionCallback_started (w.say (.streamStarted connection stream)) connection stream streamId with
        same | closed | ⟨i, id, -, rfl, -, opened⟩
      · rw [same]
        exact told
      · rw [closed]
        exact told.say (fun _ => rfl) trivial
      · rw [opened]
        have taken : ((w.say (.streamStarted connection stream)).setSlot i (openedSlot connection stream id
            (w.slot i).ingressCapacity)).WholeStreams :=
          told.openSlot unlisted live (List.mem_append_right _ List.mem_cons_self)
        exact taken.say (fun _ => rfl) trivial
    | shutdownComplete =>
      simp only [ConnectionRuntime.step, connectionCallback]
      split
      · exact whole.say (fun _ => rfl) trivial
      · exact whole
    | other => exact whole
  | stream stream event =>
    simp only [ConnectionRuntime.step]
    split
    case h_2 => exact whole
    case h_1 i serves =>
      have served : ((w.say (.streamCallback stream event)).runtimeStreamCallback check accepts i stream
          event).2.WholeStreams := whole.runtimeStreamCallback generated sound iso serves named live unbroken
      obtain ⟨soundAfter, streams⟩ := sound.runtimeStreamCallback check accepts serves event
      simp only [ConnectionRuntime.streamCallback]
      split
      · exact served.releaseSlot soundAfter ((streams i).1.trans (sound.transport.served stream i serves).1)
      · exact served

end Run

instance (w : ConnectionRuntime n) : (callback : Callback n) → Decidable (w.Unbroken callback)
  | .stream h (.receive buffers _) => inferInstanceAs (Decidable (∀ i, registered h w.transport.transcript = some i →
      buffers.flatten ≠ [] → (w.slot i).runtime.receivedFin = false →
      w.adapter.connection.findStream (w.slot i).runtime.streamId = none → receivedBytes h w.transport.transcript = []))
  | .newConnection .. | .connection .. | .stream _ (.startComplete _) | .stream _ .peerSendShutdown
  | .stream _ (.sendComplete ..) | .stream _ .peerSendAborted | .stream _ .peerReceiveAborted
  | .stream _ .shutdownComplete | .stream _ .other => inferInstanceAs (Decidable True)

end ConnectionRuntime

/-- As long as no bytes arrive for a stream whose entry was removed in the middle, everything
that is sent answers a request that is all its stream has received. -/
theorem unbroken_streams_answered_whole {n : Nat} (check : Nat → List UInt8 → UInt8)
    (generated : ∀ n, Format.Validates (fun input => decide (check n input ≠ 0)) (Grammar.dnsUncompressedQuestion n))
    (accepts : List (Interaction n) → Bool) (configuration : Handle) (responseBuffer sendBuffer : Option (List UInt8))
    (responseCapacity sendCapacity : Nat) (responseRoom : ∀ b ∈ responseBuffer, responseCapacity ≤ b.length)
    (sendRoom : ∀ b ∈ sendBuffer, sendCapacity ≤ b.length) (events : Option (List ShellEvent)) (capacity : Nat)
    (small : capacity < 2 ^ 32) (room : ∀ stored ∈ events, capacity ≤ stored.length)
    (ingressCapacities : Fin n → Nat) (callbacks : List (Callback n))
    (apart : (callbacks.filterMap startedStreamId).Nodup) :
    let start := ConnectionRuntime.init configuration
      (Adapter.init responseBuffer responseCapacity sendBuffer sendCapacity) (EventQueue.init events capacity)
      ingressCapacities
    Guarded (fun w callback => w.step check accepts callback)
      (fun w callback => w.NamedStream callback ∧ w.LiveStream callback ∧ w.Unbroken callback) start callbacks →
    AnswersWholeStreams (start.run check accepts callbacks).transport.transcript := by
  intro start guarded
  have sound : start.Sound := ConnectionRuntime.init_sound (Adapter.init_valid responseRoom sendRoom)
    (EventQueue.init_idle small room) configuration ingressCapacities
  have initial : start.Sound ∧ Isolation start.adapter start.transport ∧ start.WholeStreams :=
    ⟨sound, init_isolation configuration (EventQueue.init events capacity) ingressCapacities, nofun, nofun,
      fun before interaction after split => by simp [start, ConnectionRuntime.init] at split⟩
  have keeps : ∀ (w : ConnectionRuntime n) callback,
      w.Sound ∧ Isolation w.adapter w.transport ∧ w.WholeStreams →
      (w.NamedStream callback ∧ w.LiveStream callback ∧ w.Unbroken callback) ∧ w.UnusedId callback ∧
        w.UnlistedId callback →
      (w.step check accepts callback).Sound ∧
        Isolation (w.step check accepts callback).adapter (w.step check accepts callback).transport ∧
        (w.step check accepts callback).WholeStreams := by
    rintro w callback ⟨before, iso, whole⟩ ⟨⟨named, live, unbroken⟩, unused, unlisted⟩
    exact ⟨before.step named.fresh, iso.step generated before named unused,
      whole.step generated before iso named live unbroken unlisted⟩
  have unused := sound.unusedIds (fun _ _ allowed => allowed.1) [] nofun
    (fun id present => absurd (connectionInit_entry id) present) apart guarded
  exact (unused.invariant keeps initial).2.2.answers

/-- Two streams; one peer stops receiving before it sends, the other one in the middle. -/
def earlyAborts : List (Callback 4) :=
  [.newConnection 1 .success, .connection 1 (.peerStreamStarted 11 (some 0)),
    .connection 1 (.peerStreamStarted 12 (some 4)), .stream 11 .peerReceiveAborted,
    .stream 11 (.receive [[0], 19 :: addressQuery.take 7] false), .stream 12 (.receive [[0, 19, 0]] false),
    .stream 12 .peerReceiveAborted, .stream 11 (.receive [addressQuery.drop 7] true)]

theorem unbroken_streams_answered_whole_early :
    let transcript := (smallServer.run checkQuestion (fun _ => true) earlyAborts).transport.transcript
    Interaction.streamSend 11 0 (be16 19 ++ minimalResponse addressQuery) true true
        [.bytes 11 [0], .bytes 11 (19 :: addressQuery.take 7), .bytes 11 (addressQuery.drop 7), .fin 11] ∈ transcript ∧
      AnswersWholeStreams transcript := by
  have answered := unbroken_streams_answered_whole checkQuestion checkQuestion_validates (fun _ => true) 9
    (some (List.replicate 64 255)) (some (List.replicate 64 7)) 64 64 (by simp) (by simp) (some [.readyResponse 0]) 1
    (by decide) (by simp) (fun _ => 4096) earlyAborts (by decide) (by decide +kernel)
  exact ⟨by decide +kernel, answered⟩

/-- A stream whose peer stops receiving after the first two octets, and goes on to send. -/
def abortedReceiver : List (Callback 4) :=
  [.newConnection 1 .success, .connection 1 (.peerStreamStarted 11 (some 0)), .stream 11 (.receive [[0, 19]] false),
    .stream 11 .peerReceiveAborted, .stream 11 (.receive [0 :: 19 :: addressQuery] true)]

/-- The middle of the stream is taken for a message of its own. -/
theorem stream_reopened_after_abort :
    let w := smallServer.run checkQuestion (fun _ => true) abortedReceiver
    Guarded (fun w callback => w.step checkQuestion (fun _ => true) callback)
      (fun w callback => w.NamedStream callback ∧ w.LiveStream callback) smallServer abortedReceiver ∧
    (abortedReceiver.filterMap startedStreamId).Nodup ∧ ¬ AnswersWholeStreams w.transport.transcript := by
  refine ⟨by decide +kernel, by decide, fun whole => ?_⟩
  have said : (smallServer.run checkQuestion (fun _ => true) abortedReceiver).transport.transcript =
      (smallServer.run checkQuestion (fun _ => true) abortedReceiver).transport.transcript.dropLast ++
        [.streamSend 11 0 (be16 19 ++ minimalResponse addressQuery) true true
          [.bytes 11 (0 :: 19 :: addressQuery), .fin 11]] := by decide +kernel
  obtain ⟨m, -, -, covers⟩ := whole _ _ [] said
  have received : receivedBytes 11
      (smallServer.run checkQuestion (fun _ => true) abortedReceiver).transport.transcript.dropLast =
        0 :: 19 :: 0 :: 19 :: addressQuery := by decide +kernel
  rw [received] at covers
  have long : m.length = 21 := by
    have length := congrArg List.length covers
    rw [List.length_append, be16_length] at length
    exact Nat.add_left_cancel length
  rw [long] at covers
  cases covers

end Ism
