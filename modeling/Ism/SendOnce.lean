import Ism.ApiUse

namespace Ism

open Lib ShellConnection

section Transcripts

variable {n : Nat}

/-- How often `StreamSend` was called on a stream, with success or without. -/
def sendCalls (stream : Handle) (transcript : List (Interaction n)) : Nat :=
  transcript.countP fun interaction =>
    match interaction with
    | .streamSend handle .. => decide (handle = stream)
    | _ => false

theorem sendCalls_append (stream : Handle) (transcript : List (Interaction n)) (interaction : Interaction n) :
    sendCalls stream (transcript ++ [interaction]) =
      sendCalls stream transcript + sendCalls stream [interaction] :=
  List.countP_append

theorem sendCalls_streamSend (stream handle : Handle) (slot : Fin n) (data : List UInt8) (fin accepted : Bool)
    (deliveries : List (Delivery Handle)) :
    sendCalls stream [.streamSend handle slot data fin accepted deliveries] = if handle = stream then 1 else 0 := by
  simp [sendCalls, List.countP_cons]

theorem sendCalls_silent {interaction : Interaction n}
    (silent : ∀ handle slot data fin accepted deliveries,
      interaction ≠ .streamSend handle slot data fin accepted deliveries) (stream : Handle)
    (transcript : List (Interaction n)) :
    sendCalls stream (transcript ++ [interaction]) = sendCalls stream transcript := by
  rw [sendCalls_append]
  cases interaction with
  | streamSend handle slot data fin accepted deliveries => exact absurd rfl (silent _ _ _ _ _ _)
  | _ => rfl

/-- A pending send was asked for. -/
theorem pending_of_sendCalls {stream : Handle} {transcript : List (Interaction n)}
    (silent : sendCalls stream transcript = 0) : pending stream transcript = none := by
  induction transcript using List.reverseRecOn with
  | nil => rfl
  | append_singleton before last ih =>
    rw [sendCalls_append, Nat.add_eq_zero_iff] at silent
    rw [pending_append, ih silent.1]
    cases last with
    | streamSend handle slot data fin accepted deliveries =>
      rw [sendCalls_streamSend] at silent
      have other : handle ≠ stream := by
        rintro rfl
        rw [if_pos rfl] at silent
        cases silent.2
      simp only [pendingStep, other, false_and, if_false]
    | streamCallback handle event =>
      cases event with
      | sendComplete clientContext canceled =>
        simp only [pendingStep]
        split
        · rfl
        · rfl
      | _ => rfl
    | _ => rfl

end Transcripts

namespace ConnectionRuntime

variable {n : Nat} {check : Nat → List UInt8 → UInt8} {accepts : List (Interaction n) → Bool}
  {w after : ConnectionRuntime n} {i : Fin n} {h : Handle} {settled : Handle → Prop} {count : Nat}

/-- A stream is sent on at most once, and not before its FIN is taken. The streams of
`settled` got `count` calls, and each of them that still has a slot has had its FIN. -/
structure Service (settled : Handle → Prop) (count : Nat) (w : ConnectionRuntime n) : Prop where
  distinct : w.transport.DistinctIds
  unsent : ∀ i, (w.slot i).inUse = true → (w.slot i).runtime.receivedFin = false →
    sendCalls (w.slot i).stream w.transport.transcript = 0
  once : ∀ h, sendCalls h w.transport.transcript ≤ 1
  fresh : ∀ h, ¬ Started h w.transport.transcript → sendCalls h w.transport.transcript = 0
  kept : ∀ h, settled h → Started h w.transport.transcript ∧ sendCalls h w.transport.transcript = count ∧
    ∀ i, (w.slot i).inUse = true → (w.slot i).stream = h → (w.slot i).runtime.receivedFin = true

/-- Nothing is sent, no slot is taken, and no FIN is forgotten. -/
theorem Service.quiet (service : w.Service settled count)
    (slots : ∀ j, (after.slot j).inUse = true → (w.slot j).inUse = true ∧ (after.slot j).stream = (w.slot j).stream ∧
      (after.slot j).runtime.streamId = (w.slot j).runtime.streamId ∧
      ((w.slot j).runtime.receivedFin = true → (after.slot j).runtime.receivedFin = true))
    (started : ∀ h, Started h w.transport.transcript → Started h after.transport.transcript)
    (said : ∀ h, sendCalls h after.transport.transcript = sendCalls h w.transport.transcript) :
    after.Service settled count where
  distinct := by
    intro j k usedJ usedK same
    obtain ⟨beforeJ, -, idJ, -⟩ := slots j usedJ
    obtain ⟨beforeK, -, idK, -⟩ := slots k usedK
    exact service.distinct j k beforeJ beforeK (idJ.symm.trans (same.trans idK))
  unsent := by
    intro j used unfinished
    obtain ⟨before, stream, -, flag⟩ := slots j used
    rw [said, stream]
    refine service.unsent j before ?_
    rw [← Bool.not_eq_true]
    intro finished
    rw [flag finished] at unfinished
    cases unfinished
  once h := said h ▸ service.once h
  fresh h unstarted := (said h).trans (service.fresh h fun begun => unstarted (started h begun))
  kept := by
    intro g member
    obtain ⟨begun, counted, finished⟩ := service.kept g member
    refine ⟨started g begun, (said g).trans counted, fun j used stream => ?_⟩
    obtain ⟨before, same, -, flag⟩ := slots j used
    exact flag (finished j before (same.symm.trans stream))

theorem Service.say (service : w.Service settled count) {interaction : Interaction n}
    (silent : ∀ handle slot data fin accepted deliveries,
      interaction ≠ .streamSend handle slot data fin accepted deliveries) :
    (w.say interaction).Service settled count :=
  service.quiet (fun _ used => ⟨used, rfl, rfl, id⟩) (fun _ begun => begun.append _) fun g =>
    sendCalls_silent silent g _

/-- The one call of a FIN is the first on its stream. -/
theorem Service.sent (service : w.Service settled count) (sound : w.Sound) (used : (w.slot i).inUse = true)
    (unfinished : (w.slot i).runtime.receivedFin = false) (taken : (after.slot i).runtime.receivedFin = true)
    (others : ∀ k, k ≠ i → (after.slot k).runtime.receivedFin = (w.slot k).runtime.receivedFin)
    (streams : Transport.SameStreams w.transport after.transport) {data : List UInt8} {fin accepted : Bool}
    {deliveries : List (Delivery Handle)}
    (said : after.transport.transcript = w.transport.transcript ++
      [.streamSend (w.slot i).stream i data fin accepted deliveries]) : after.Service settled count := by
  have calls : ∀ g, sendCalls g after.transport.transcript =
      sendCalls g w.transport.transcript + if (w.slot i).stream = g then 1 else 0 := by
    intro g
    rw [said, sendCalls_append, sendCalls_streamSend]
  have other : ∀ g, (w.slot i).stream ≠ g →
      sendCalls g after.transport.transcript = sendCalls g w.transport.transcript := by
    intro g apart
    rw [calls, if_neg apart, Nat.add_zero]
  have started : ∀ g, Started g w.transport.transcript → Started g after.transport.transcript := by
    intro g begun
    rw [said]
    exact begun.append _
  refine ⟨service.distinct.sameStreams streams, ?_, ?_, ?_, ?_⟩
  · intro k usedK unended
    have apart : k ≠ i := by
      rintro rfl
      rw [taken] at unended
      cases unended
    have before : (w.slot k).inUse = true := (streams k).1.symm.trans usedK
    have stream : (after.slot k).stream = (w.slot k).stream := (streams k).2.1
    have foreign : (w.slot i).stream ≠ (w.slot k).stream := fun same =>
      apart (sound.transport.apart used before same).symm
    rw [others k apart] at unended
    rw [stream, other _ foreign]
    exact service.unsent k before unended
  · intro g
    by_cases here : (w.slot i).stream = g
    · subst here
      have called : sendCalls (w.slot i).stream after.transport.transcript = 1 := by
        rw [calls, service.unsent i used unfinished, if_pos rfl]
      exact Nat.le_of_eq called
    · rw [other g here]
      exact service.once g
  · intro g unstarted
    have unknown : ¬ Started g w.transport.transcript := fun begun => unstarted (started g begun)
    have unserved := (sound.transport.fresh g unknown).1
    have owner := sound.transport.owner i used
    rw [other g, service.fresh g unknown]
    rintro rfl
    rw [slot, owner] at unserved
    cases unserved
  · intro g member
    obtain ⟨begun, counted, finished⟩ := service.kept g member
    have apart : (w.slot i).stream ≠ g := by
      intro same
      rw [finished i used same] at unfinished
      cases unfinished
    refine ⟨started g begun, (other g apart).trans counted, fun k usedK stream => ?_⟩
    have before : (w.slot k).inUse = true := (streams k).1.symm.trans usedK
    have same : (w.slot k).stream = g := (streams k).2.1.symm.trans stream
    have elsewhere : k ≠ i := by
      rintro rfl
      exact apart same
    rw [others k elsewhere]
    exact finished k before same

theorem Service.micro (service : w.Service settled count) (sound : w.Sound) (used : (w.slot i).inUse = true)
    (piece : Micro check accepts i h w after) : after.Service settled count := by
  have streams := sound.sameStreams piece
  have slots : (∀ j, (w.slot j).runtime.receivedFin = true → (after.slot j).runtime.receivedFin = true) → ∀ j,
      (after.slot j).inUse = true → (w.slot j).inUse = true ∧ (after.slot j).stream = (w.slot j).stream ∧
        (after.slot j).runtime.streamId = (w.slot j).runtime.streamId ∧
        ((w.slot j).runtime.receivedFin = true → (after.slot j).runtime.receivedFin = true) := fun flags j usedJ =>
    ⟨(streams j).1.symm.trans usedJ, (streams j).2.1, (streams j).2.2, flags j⟩
  cases sound.spoken piece with
  | nothing flags said =>
    refine service.quiet (slots flags) (fun g begun => ?_) fun g => ?_
    · rwa [said]
    · rw [said]
  | shut connection flags said =>
    refine service.quiet (slots fun j finished => (flags j).trans finished) (fun g begun => ?_) fun g => ?_
    · rw [said]
      exact begun.append _
    · rw [said]
      exact sendCalls_silent (by simp) g _
  | sent unfinished free taken others usedJ named quiet said =>
    obtain rfl := service.distinct _ i usedJ used named
    rw [slot, (sound.transport.bound _ used).2.1] at said
    exact service.sent sound used unfinished taken others streams said

theorem Service.micros (service : w.Service settled count) (sound : w.Sound) (used : (w.slot i).inUse = true)
    (pieces : Micros check accepts i h w after) : after.Service settled count := by
  have keeps : ∀ v v', Micro check accepts i h v v' → v.Sound ∧ (v.slot i).inUse = true ∧ v.Service settled count →
      v'.Sound ∧ (v'.slot i).inUse = true ∧ v'.Service settled count := by
    rintro v v' piece ⟨before, inUse, serves⟩
    exact ⟨before.micro piece, (before.sameStreams piece i).1.trans inUse, serves.micro before inUse piece⟩
  exact (pieces.invariant keeps ⟨sound, used, service⟩).2.2

theorem Service.heard (service : w.Service settled count) (i : Fin n) (h : Handle) (event : StreamEvent n) :
    (w.heard i h event).Service settled count := by
  have told : (w.say (.streamCallback h event)).Service settled count := service.say (by simp)
  rcases heard_cases w i h event with ⟨-, -, -, same⟩ | ⟨-, same⟩
  · rw [same]
    have streams :=
      sameStreams_modifyRuntime (i := i) (f := RuntimeStream.clearSend) (w.say (.streamCallback h event)) rfl
    refine told.quiet (fun j used => ⟨(streams j).1.symm.trans used, (streams j).2.1, (streams j).2.2, ?_⟩)
      (fun _ begun => begun) fun _ => rfl
    exact receivedFin_modifyRuntime (f := RuntimeStream.clearSend) (w.say (.streamCallback h event)) id j
  · rw [same]
    exact told

theorem Service.releaseSlot (service : w.Service settled count) (sound : w.Sound) (used : (w.slot i).inUse = true) :
    (w.releaseSlot i).Service settled count := by
  refine service.quiet (fun j usedJ => ?_) (fun g begun => ?_) fun g => ?_
  · have same := releaseSlot_used usedJ
    rw [same] at usedJ ⊢
    exact ⟨usedJ, rfl, rfl, id⟩
  · rw [releaseSlot_transcript used sound]
    exact begun.append _
  · rw [releaseSlot_transcript used sound]
    exact sendCalls_silent (by simp) g _

/-- A slot whose FIN was not taken has no send in flight. -/
theorem Service.idle (service : w.Service settled count) (sound : w.Sound) (used : (w.slot i).inUse = true)
    (unfinished : (w.slot i).runtime.receivedFin = false) : (w.slot i).runtime.sendInFlight = false := by
  have pends : pending (w.slot i).stream w.transport.transcript =
      if (w.slot i).runtime.sendInFlight = true then some i else none := sound.transport.sending i used
  rw [pending_of_sendCalls (service.unsent i used unfinished)] at pends
  rw [← Bool.not_eq_true]
  intro sending
  rw [if_pos sending] at pends
  cases pends

/-- A slot is taken for a stream that was never sent on. -/
theorem Service.take (service : w.Service settled count) (i : Fin n) {opened : StreamSlot}
    (unused : ∀ j, (w.slot j).inUse = true → (w.slot j).runtime.streamId ≠ opened.runtime.streamId)
    (silent : sendCalls opened.stream w.transport.transcript = 0) (unsettled : ¬ settled opened.stream) :
    (w.setSlot i opened).Service settled count := by
  have self : (w.setSlot i opened).slot i = opened := Transport.setSlot_self _ i _
  have others : ∀ j, j ≠ i → (w.setSlot i opened).slot j = w.slot j := fun j apart => Transport.setSlot_other _ apart _
  refine ⟨service.distinct.take unused, ?_, service.once, service.fresh, ?_⟩
  · intro j used unfinished
    by_cases here : j = i
    · rw [here, self]
      exact silent
    · rw [others j here] at used unfinished ⊢
      exact service.unsent j used unfinished
  · intro g member
    obtain ⟨begun, counted, finished⟩ := service.kept g member
    refine ⟨begun, counted, fun j used named => ?_⟩
    by_cases here : j = i
    · rw [here, self] at named
      exact absurd (named ▸ member) unsettled
    · rw [others j here] at used named ⊢
      exact finished j used named

theorem Service.started (service : w.Service settled count) {connection stream : Handle}
    (fresh : ¬ Started stream w.transport.transcript) (streamId : Option UInt64)
    (unused : ∀ id, streamId = some id → ∀ j, (w.slot j).inUse = true → (w.slot j).runtime.streamId ≠ id) :
    ((w.say (.streamStarted connection stream)).connectionCallback connection
      (.peerStreamStarted stream streamId)).2.Service settled count := by
  have told : (w.say (.streamStarted connection stream)).Service settled count := service.say (by simp)
  have silent : sendCalls stream (w.say (.streamStarted connection stream)).transport.transcript = 0 :=
    (sendCalls_silent (by simp) stream _).trans (service.fresh stream fresh)
  rcases connectionCallback_started (w.say (.streamStarted connection stream)) connection stream streamId with
    same | closed | ⟨i, id, -, rfl, -, opened⟩
  · rw [same]
    exact told
  · rw [closed]
    exact told.say (by simp)
  · rw [opened]
    have taken : ((w.say (.streamStarted connection stream)).setSlot i
        (openedSlot connection stream id (w.slot i).ingressCapacity)).Service settled count :=
      told.take i (unused id rfl) silent fun member => fresh (service.kept stream member).1
    exact taken.say (by simp)

theorem Service.streamCallback (service : w.Service settled count) (sound : w.Sound)
    (serves : registered h w.transport.transcript = some i) {event : StreamEvent n}
    (named : ∀ id, event = .startComplete id → (w.slot i).runtime.streamId = id) :
    ((w.say (.streamCallback h event)).streamCallback check accepts h i event).2.Service settled count := by
  obtain ⟨served, streams⟩ := sound.runtimeStreamCallback check accepts serves event
  have before := (sound.transport.served h i serves).1
  have used := ((streams i).1).trans before
  have done : ((w.say (.streamCallback h event)).runtimeStreamCallback check accepts i h event).2.Service settled
      count := by
    by_cases start : ∃ id, event = .startComplete id
    · obtain ⟨id, rfl⟩ := start
      have told : (w.say (.streamCallback h (.startComplete id))).Service settled count := service.say (by simp)
      have same := sameStreams_modifyRuntime (i := i) (f := fun runtime => { runtime with streamId := id })
        (w.say (.streamCallback h (.startComplete id))) (named id rfl).symm
      refine told.quiet (fun j usedJ => ⟨(same j).1.symm.trans usedJ, (same j).2.1, (same j).2.2, ?_⟩)
        (fun _ begun => begun) fun _ => rfl
      exact receivedFin_modifyRuntime (f := fun runtime => { runtime with streamId := id })
        (w.say (.streamCallback h (.startComplete id))) (fun finished => finished) j
    · have pieces : Micros check accepts i h (w.heard i h event)
          ((w.say (.streamCallback h event)).runtimeStreamCallback check accepts i h event).2 :=
        sound.serve fun id same => start ⟨id, same⟩
      obtain ⟨heard, same⟩ := sound.heard serves event
      exact (service.heard i h event).micros heard ((same i).1.trans before) pieces
  simp only [ConnectionRuntime.streamCallback]
  split
  · exact done.releaseSlot served used
  · exact done

theorem Service.step (service : w.Service settled count) (sound : w.Sound) {callback : Callback n}
    (named : w.NamedStream callback) (unused : w.UnusedId callback) :
    (w.step check accepts callback).Service settled count := by
  cases callback with
  | newConnection connection configured =>
    simp only [ConnectionRuntime.step, acceptConnection]
    split
    · exact service
    · have handled : (w.say (.setConnectionHandler connection)).Service settled count := service.say (by simp)
      exact handled.say (by simp)
  | connection connection event =>
    cases event with
    | peerStreamStarted stream streamId =>
      refine service.started named streamId ?_
      rintro id rfl
      exact unused
    | shutdownComplete =>
      simp only [ConnectionRuntime.step, connectionCallback]
      split
      · exact service.say (by simp)
      · exact service
    | other => exact service
  | stream stream event =>
    simp only [ConnectionRuntime.step]
    split
    case h_2 => exact service
    case h_1 i serves =>
      refine service.streamCallback sound serves ?_
      rintro id rfl
      exact named i serves

/-- MsQuic names its streams, and no stream starts under an ID in use. -/
def Distinguished (w : ConnectionRuntime n) (callback : Callback n) : Prop :=
  w.NamedStream callback ∧ w.UnusedId callback

instance (w : ConnectionRuntime n) (callback : Callback n) : Decidable (w.Distinguished callback) :=
  inferInstanceAs (Decidable (w.NamedStream callback ∧ w.UnusedId callback))

theorem Service.run (service : w.Service settled count) (sound : w.Sound) {callbacks : List (Callback n)}
    (guarded : Guarded (fun w callback => w.step check accepts callback) Distinguished w callbacks) :
    (w.run check accepts callbacks).Sound ∧ (w.run check accepts callbacks).Service settled count := by
  have keeps : ∀ (v : ConnectionRuntime n) callback, v.Sound ∧ v.Service settled count → v.Distinguished callback →
      (v.step check accepts callback).Sound ∧ (v.step check accepts callback).Service settled count := by
    rintro v callback ⟨before, serves⟩ ⟨named, unused⟩
    exact ⟨before.step named.fresh, serves.step before named unused⟩
  exact guarded.invariant keeps ⟨sound, service⟩

end ConnectionRuntime

end Ism
