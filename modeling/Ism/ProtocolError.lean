import Ism.Conformance

namespace Ism

open Lib ShellConnection

section Transcripts

variable {n : Nat}

/-- What an event brings to its stream. -/
def StreamEvent.fragment : StreamEvent n → Option StreamFragment
  | .receive buffers fin => some ⟨buffers.flatten, fin⟩
  | .peerSendShutdown => some ⟨[], true⟩
  | _ => none

/-- The fragments that were delivered on a stream. -/
def fragmentsOf (stream : Handle) (transcript : List (Interaction n)) : List StreamFragment :=
  transcript.filterMap fun interaction =>
    match interaction with
    | .streamCallback handle event => if handle = stream then event.fragment else none
    | _ => none

/-- No stream starts, no fragment is delivered, and no connection is shut down. -/
def Neutral : Interaction n → Prop
  | .streamStarted .. | .connectionShutdown .. => False
  | .streamCallback _ event => event.fragment = none
  | _ => True

/-- What was said since then is neutral. -/
structure Uneventful (transcript longer : List (Interaction n)) : Prop where
  grows : transcript <+: longer
  fragments : ∀ g, fragmentsOf g longer = fragmentsOf g transcript
  shut : shutConnections longer = shutConnections transcript
  started : ∀ c g, .streamStarted c g ∈ longer → .streamStarted c g ∈ transcript

variable {transcript longer : List (Interaction n)} {g h : Handle}

theorem fragmentsOf_append (g : Handle) (transcript : List (Interaction n)) (interaction : Interaction n) :
    fragmentsOf g (transcript ++ [interaction]) = fragmentsOf g transcript ++ fragmentsOf g [interaction] :=
  List.filterMap_append

theorem shutConnections_append (transcript : List (Interaction n)) (interaction : Interaction n) :
    shutConnections (transcript ++ [interaction]) = shutConnections transcript ++ shutConnections [interaction] :=
  List.filterMap_append

theorem fragmentsOf_callback {event : StreamEvent n} {fragment : StreamFragment}
    (brings : event.fragment = some fragment) (g h : Handle) (transcript : List (Interaction n)) :
    fragmentsOf g (transcript ++ [.streamCallback h event]) =
      fragmentsOf g transcript ++ if h = g then [fragment] else [] := by
  rw [fragmentsOf_append]
  congr 1
  by_cases here : h = g
  · simp [fragmentsOf, here, brings]
  · simp [fragmentsOf, here]

theorem receivedBytes_eq (h : Handle) (transcript : List (Interaction n)) :
    receivedBytes h transcript = (fragmentsOf h transcript).flatMap StreamFragment.data := by
  induction transcript using List.reverseRecOn with
  | nil => rfl
  | append_singleton before last ih =>
    rw [receivedBytes_append, fragmentsOf_append, List.flatMap_append, ih]
    congr 1
    cases last with
    | streamCallback handle event =>
      by_cases here : handle = h
      · cases event <;> simp [receivedBytes, fragmentsOf, StreamEvent.fragment, here]
      · cases event <;> simp [receivedBytes, fragmentsOf, here]
    | _ => rfl

theorem splitAtFin_of_silent {fragments : List StreamFragment} (silent : fragments.flatMap StreamFragment.data = []) :
    (splitAtFin fragments).1 = [] := by
  induction fragments with
  | nil => rfl
  | cons fragment rest ih =>
    rw [List.flatMap_cons, List.append_eq_nil_iff] at silent
    rw [splitAtFin]
    split
    · exact silent.1
    · rw [silent.1, ih silent.2]
      rfl

theorem Uneventful.refl (transcript : List (Interaction n)) : Uneventful transcript transcript :=
  ⟨List.prefix_refl _, fun _ => rfl, rfl, fun _ _ => id⟩

theorem Neutral.uneventful {interaction : Interaction n} (neutral : Neutral interaction)
    (transcript : List (Interaction n)) : Uneventful transcript (transcript ++ [interaction]) := by
  refine ⟨List.prefix_append .., fun g => ?_, ?_, fun c g member => ?_⟩
  · rw [fragmentsOf_append]
    cases interaction with
    | streamCallback handle event =>
      have silent : event.fragment = none := neutral
      simp [fragmentsOf, silent]
    | _ => exact List.append_nil _
  · rw [shutConnections_append]
    cases interaction with
    | connectionShutdown connection errorCode => exact neutral.elim
    | _ => exact List.append_nil _
  · rcases List.mem_append.mp member with before | last
    · exact before
    · rw [← List.mem_singleton.mp last] at neutral
      exact neutral.elim

end Transcripts

namespace ConnectionRuntime

variable {n : Nat} {check : Nat → List UInt8 → UInt8} {accepts : List (Interaction n) → Bool}
  {w after : ConnectionRuntime n} {i : Fin n} {h : Handle} {settled : Handle → Prop} {count : Nat}

/-- The buffers fit, and a stream whose FIN is still to come has its entry, or it has read
nothing so far and there is a place for it. -/
def Admits (w : ConnectionRuntime n) (h : Handle) (i : Fin n) (buffers : List (List UInt8)) : Prop :=
  (∀ buffer ∈ buffers, buffer.length ≤ (w.slot i).runtime.ingressCapacity) ∧
    ((w.slot i).runtime.receivedFin = false →
      w.adapter.connection.findStream (w.slot i).runtime.streamId = none →
        receivedBytes h w.transport.transcript = [] ∧ w.adapter.connection.ctx.ccNum < shellMaxStreams)

/-- Whatever is delivered finds the place it needs. -/
def Receptive (w : ConnectionRuntime n) : Callback n → Prop
  | .stream h (.receive buffers _) => ∀ i, registered h w.transport.transcript = some i → w.Admits h i buffers
  | .stream h .peerSendShutdown => ∀ i, registered h w.transport.transcript = some i → w.Admits h i []
  | _ => True

instance (w : ConnectionRuntime n) (h : Handle) (i : Fin n) (buffers : List (List UInt8)) :
    Decidable (w.Admits h i buffers) :=
  inferInstanceAs (Decidable ((∀ buffer ∈ buffers, buffer.length ≤ (w.slot i).runtime.ingressCapacity) ∧
    ((w.slot i).runtime.receivedFin = false →
      w.adapter.connection.findStream (w.slot i).runtime.streamId = none →
        receivedBytes h w.transport.transcript = [] ∧ w.adapter.connection.ctx.ccNum < shellMaxStreams)))

instance (w : ConnectionRuntime n) : (callback : Callback n) → Decidable (w.Receptive callback)
  | .stream h (.receive buffers _) => inferInstanceAs (Decidable (∀ i, registered h w.transport.transcript = some i →
      w.Admits h i buffers))
  | .stream h .peerSendShutdown => inferInstanceAs (Decidable (∀ i, registered h w.transport.transcript = some i →
      w.Admits h i []))
  | .newConnection .. | .connection .. | .stream _ (.startComplete _) | .stream _ (.sendComplete ..)
  | .stream _ .peerSendAborted | .stream _ .peerReceiveAborted | .stream _ .shutdownComplete | .stream _ .other =>
    inferInstanceAs (Decidable True)

/-- The connections that were shut down are those with a stream that does not conform, and
the slots know what was delivered to their streams as long as these are alive. -/
structure Policed (w : ConnectionRuntime n) : Prop where
  connected : w.Connected
  once : ∀ g c c', .streamStarted c g ∈ w.transport.transcript → .streamStarted c' g ∈ w.transport.transcript → c = c'
  known : ∀ g, fragmentsOf g w.transport.transcript ≠ [] → ∃ c, .streamStarted c g ∈ w.transport.transcript
  judged : ∀ c, c ∈ shutConnections w.transport.transcript ↔
    ∃ g, .streamStarted c g ∈ w.transport.transcript ∧ ¬ Conforms (fragmentsOf g w.transport.transcript)
  heeded : ∀ j, (w.slot j).inUse = true → Live (w.slot j).stream w.transport.transcript →
    w.Heeds j (fragmentsOf (w.slot j).stream w.transport.transcript)

theorem Heeds.keep {j : Fin n} {fragments : List StreamFragment} (heeds : w.Heeds j fragments)
    (named : (after.slot j).runtime.streamId = (w.slot j).runtime.streamId)
    (flag : (after.slot j).runtime.receivedFin = (w.slot j).runtime.receivedFin)
    (entry : ∀ e, after.adapter.connection.entry (w.slot j).runtime.streamId = some e →
      w.adapter.connection.entry (w.slot j).runtime.streamId = some e) : after.Heeds j fragments := by
  refine ⟨?_, fun unfinished e present => ?_⟩
  · rw [flag]
    exact heeds.finished
  · rw [named] at present
    exact heeds.reads (flag.symm.trans unfinished) e (entry e present)

/-- Nothing is delivered, and entries are only removed. -/
structure Settles (w after : ConnectionRuntime n) : Prop where
  streams : Transport.SameStreams w.transport after.transport
  connection : ∀ j, (after.slot j).runtime.connection = (w.slot j).runtime.connection
  flags : ∀ j, (after.slot j).runtime.receivedFin = (w.slot j).runtime.receivedFin
  entry : ∀ id e, after.adapter.connection.entry id = some e → w.adapter.connection.entry id = some e
  said : Uneventful w.transport.transcript after.transport.transcript

theorem Settles.refl (w : ConnectionRuntime n) : w.Settles w :=
  ⟨Transport.SameStreams.refl _, fun _ => rfl, fun _ => rfl, fun _ _ => id, Uneventful.refl _⟩

theorem Settles.trans {third : ConnectionRuntime n} (first : w.Settles after) (second : after.Settles third) :
    w.Settles third :=
  ⟨first.streams.trans second.streams, fun j => (second.connection j).trans (first.connection j),
    fun j => (second.flags j).trans (first.flags j), fun id e present => first.entry id e (second.entry id e present),
    first.said.grows.trans second.said.grows, fun g => (second.said.fragments g).trans (first.said.fragments g),
    second.said.shut.trans first.said.shut, fun c g member => first.said.started c g (second.said.started c g member)⟩

theorem Settles.say (w : ConnectionRuntime n) {interaction : Interaction n} (neutral : Neutral interaction) :
    w.Settles (w.say interaction) :=
  ⟨Transport.SameStreams.refl _, fun _ => rfl, fun _ => rfl, fun _ _ => id, neutral.uneventful _⟩

theorem Settles.record (w : ConnectionRuntime n) (i : Fin n) {f : RuntimeStream → RuntimeStream}
    (named : (f (w.slot i).runtime).streamId = (w.slot i).runtime.streamId)
    (connection : (f (w.slot i).runtime).connection = (w.slot i).runtime.connection)
    (flag : (f (w.slot i).runtime).receivedFin = (w.slot i).runtime.receivedFin) : w.Settles (w.modifyRuntime i f) := by
  refine ⟨sameStreams_modifyRuntime w named, (grows_modifyRuntime w connection).connection, fun j => ?_, fun _ _ => id,
    Uneventful.refl _⟩
  by_cases here : j = i
  · subst here
    simp only [ConnectionRuntime.modifyRuntime, slot, Transport.modifyRuntime_self]
    exact flag
  · simp only [ConnectionRuntime.modifyRuntime, slot, Transport.modifyRuntime_other _ here]

theorem Policed.keep (policed : w.Policed) (settles : w.Settles after) : after.Policed := by
  obtain ⟨streams, connection, flags, entry, grows, fragments, shut, started⟩ := settles
  have begun : ∀ c g, .streamStarted c g ∈ after.transport.transcript ↔ .streamStarted c g ∈ w.transport.transcript :=
    fun c g => ⟨started c g, fun member => grows.subset member⟩
  have received : ∀ g, receivedBytes g after.transport.transcript = receivedBytes g w.transport.transcript := by
    intro g
    rw [receivedBytes_eq, receivedBytes_eq, fragments]
  refine ⟨policed.connected.grows streams ⟨connection, grows, received⟩, fun g c c' => ?_, fun g => ?_, fun c => ?_,
    fun j used live => ?_⟩
  · rw [begun, begun]
    exact policed.once g c c'
  · simp only [fragments, begun]
    exact policed.known g
  · simp only [shut, fragments, begun]
    exact policed.judged c
  · obtain ⟨inUse, stream, named⟩ := streams j
    rw [show (after.slot j).stream = (w.slot j).stream from stream] at live ⊢
    rw [fragments]
    exact (policed.heeded j (inUse.symm.trans used) (live.of_prefix grows)).keep named (flags j) (entry _)

/-- A reset at most removes an entry. -/
theorem Settles.onReset (idle : w.queue.Idle) (valid : w.adapter.Valid) :
    w.Settles (w.onReset check accepts i h).2 := by
  unfold ConnectionRuntime.onReset
  split
  · exact Settles.record w i rfl rfl rfl
  · rw [resetStatus_snd]
    rcases onStreamReset_cases check accepts idle i h with refused | ⟨queue, -, -, done⟩
    · rw [refused]
      exact Settles.refl w
    · rw [done]
      refine ⟨fun _ => ⟨rfl, rfl, rfl⟩, fun _ => rfl, fun _ => rfl, fun id e present => ?_, Uneventful.refl _⟩
      simp only [dispatched, dispatchOutcome, EventQueue.dispatchEvent, valid.onStreamReset_eq] at present
      split_ifs at present
      · exact valid.connection.close_entry present
      · exact present
      · exact valid.connection.close_entry present

/-- So does the end of a send. -/
theorem Settles.sendComplete (idle : w.queue.Idle) (valid : w.adapter.Valid) (clientContext : Option (Fin n))
    (canceled : Bool) :
    w.Settles (w.runtimeStreamCallback check accepts i h (.sendComplete clientContext canceled)).2 := by
  have cleared : w.Settles (w.modifyRuntime i RuntimeStream.clearSend) := Settles.record w i rfl rfl rfl
  simp only [ConnectionRuntime.runtimeStreamCallback]
  split
  · exact Settles.refl w
  · split
    · exact cleared
    · rw [resetStatus_snd]
      simp only [onSendComplete]
      split
      · exact cleared
      · have idleNow : (w.modifyRuntime i RuntimeStream.clearSend).queue.Idle := idle
        rcases enqueueAndDispatch_cases check accepts idleNow h (.sendComplete
            ((w.modifyRuntime i RuntimeStream.clearSend).slot i).runtime.streamId (w.slot i).runtime.responseLen
            (canceled || (w.slot i).runtime.resetPending)) with ⟨-, refused⟩ | ⟨queue, -, -, -, done⟩
        · rw [refused]
          exact cleared
        · rw [done]
          refine cleared.trans ⟨fun _ => ⟨rfl, rfl, rfl⟩, fun _ => rfl, fun _ => rfl, fun id e present => ?_,
            Uneventful.refl _⟩
          have validNow : (w.modifyRuntime i RuntimeStream.clearSend).adapter.Valid := valid
          simp only [dispatched, dispatchOutcome, EventQueue.dispatchEvent, validNow.onSendComplete_eq] at present
          split at present
          · exact valid.connection.close_entry present
          · exact present

theorem Policed.releaseSlot (policed : w.Policed) (sound : w.Sound) (used : (w.slot i).inUse = true) :
    (w.releaseSlot i).Policed := by
  have transcript := releaseSlot_transcript used sound
  have adapter := (releaseSlot_frame w i).2
  have neutral : Neutral (n := n) (.streamClose (w.slot i).stream) := trivial
  obtain ⟨grows, fragments, shut, started⟩ := neutral.uneventful w.transport.transcript
  rw [← transcript] at grows fragments shut started
  have begun : ∀ c g, .streamStarted c g ∈ (w.releaseSlot i).transport.transcript ↔
      .streamStarted c g ∈ w.transport.transcript := fun c g => ⟨started c g, fun member => grows.subset member⟩
  refine ⟨fun j inUse => ?_, fun g c c' => ?_, fun g => ?_, fun c => ?_, fun j inUse live => ?_⟩
  · have same := releaseSlot_used inUse
    rw [same] at inUse ⊢
    obtain ⟨real, member⟩ := policed.connected j inUse
    exact ⟨real, grows.subset member⟩
  · rw [begun, begun]
    exact policed.once g c c'
  · simp only [fragments, begun]
    exact policed.known g
  · simp only [shut, fragments, begun]
    exact policed.judged c
  · have same := releaseSlot_used inUse
    rw [same] at inUse live ⊢
    rw [fragments]
    refine (policed.heeded j inUse (live.of_prefix grows)).keep ?_ ?_ fun e present => ?_
    · rw [same]
    · rw [same]
    · rwa [adapter] at present

/-- A stream that starts has no fragments yet. -/
theorem Policed.sayStarted (policed : w.Policed) (connection : Handle) {stream : Handle}
    (fresh : ¬ Started stream w.transport.transcript) :
    (w.say (.streamStarted connection stream)).Policed ∧ fragmentsOf stream w.transport.transcript = [] := by
  have unknown : ∀ c, .streamStarted c stream ∉ w.transport.transcript := fun c member =>
    fresh (List.mem_filterMap.mpr ⟨_, member, rfl⟩)
  have unheard : fragmentsOf stream w.transport.transcript = [] := by
    by_contra heard
    obtain ⟨c, member⟩ := policed.known stream heard
    exact unknown c member
  have fragments : ∀ g, fragmentsOf g (w.transport.transcript ++ [.streamStarted connection stream]) =
      fragmentsOf g w.transport.transcript := fun g => (fragmentsOf_append ..).trans (List.append_nil _)
  have shut : shutConnections (w.transport.transcript ++ [.streamStarted connection stream]) =
      shutConnections w.transport.transcript := (shutConnections_append ..).trans (List.append_nil _)
  have begun : ∀ c g, .streamStarted c g ∈ w.transport.transcript ++ [.streamStarted connection stream] ↔
      .streamStarted c g ∈ w.transport.transcript ∨ c = connection ∧ g = stream := by
    intro c g
    rw [List.mem_append, List.mem_singleton, Interaction.streamStarted.injEq]
  refine ⟨⟨fun j used => ?_, fun g c c' => ?_, fun g heard => ?_, fun c => ?_, fun j used live => ?_⟩, unheard⟩
  · obtain ⟨real, member⟩ := policed.connected j used
    exact ⟨real, List.mem_append_left _ member⟩
  · simp only [ConnectionRuntime.say, Transport.say, begun]
    rintro (old | ⟨rfl, rfl⟩) (old' | ⟨rfl, here⟩)
    · exact policed.once g c c' old old'
    · exact absurd (here ▸ old) (unknown c)
    · exact absurd old' (unknown c')
    · rfl
  · rw [ConnectionRuntime.say, Transport.say, fragments] at heard
    obtain ⟨c, member⟩ := policed.known g heard
    exact ⟨c, List.mem_append_left _ member⟩
  · simp only [ConnectionRuntime.say, Transport.say, begun, shut, fragments]
    rw [policed.judged c]
    constructor
    · rintro ⟨g, member, broken⟩
      exact ⟨g, Or.inl member, broken⟩
    · rintro ⟨g, member | ⟨rfl, rfl⟩, broken⟩
      · exact ⟨g, member, broken⟩
      · exact absurd (unheard ▸ conforms_nil) broken
  · have before := policed.heeded j used (live.of_prefix (List.prefix_append ..))
    have same : fragmentsOf ((w.say (.streamStarted connection stream)).slot j).stream
        (w.say (.streamStarted connection stream)).transport.transcript =
          fragmentsOf (w.slot j).stream w.transport.transcript := fragments _
    rw [same]
    exact before.keep rfl rfl fun _ => id

/-- A slot is taken for a stream without fragments. -/
theorem Policed.openSlot (policed : w.Policed) {slot : StreamSlot} (real : slot.runtime.connection ≠ 0)
    (started : .streamStarted slot.runtime.connection slot.stream ∈ w.transport.transcript)
    (unheard : fragmentsOf slot.stream w.transport.transcript = []) (unfinished : slot.runtime.receivedFin = false)
    (unlisted : w.adapter.connection.entry slot.runtime.streamId = none) : (w.setSlot i slot).Policed := by
  have self : (w.setSlot i slot).slot i = slot := Transport.setSlot_self w.transport i slot
  have others : ∀ j, j ≠ i → (w.setSlot i slot).slot j = w.slot j :=
    fun j apart => Transport.setSlot_other w.transport apart slot
  refine ⟨fun j used => ?_, policed.once, policed.known, policed.judged, fun j used live => ?_⟩
  · by_cases here : j = i
    · rw [here, self]
      exact ⟨real, started⟩
    · rw [others j here] at used ⊢
      exact policed.connected j used
  · by_cases here : j = i
    · subst here
      rw [self, show fragmentsOf slot.stream (w.setSlot j slot).transport.transcript = [] from unheard]
      refine ⟨?_, fun _ e present => ?_⟩
      · rw [self, unfinished]
        exact iff_of_false Bool.false_ne_true fun ended => ended rfl
      · rw [self] at present
        cases unlisted.symm.trans present
    · rw [others j here] at used live ⊢
      exact (policed.heeded j used live).keep (by rw [others j here]) (by rw [others j here]) fun _ => id

/-- One more fragment was delivered on the stream `h` of the slot `i`. -/
structure Hears (w : ConnectionRuntime n) (i : Fin n) (h : Handle) (fragment : StreamFragment)
    (after : ConnectionRuntime n) : Prop where
  streams : Transport.SameStreams w.transport after.transport
  connection : ∀ j, (after.slot j).runtime.connection = (w.slot j).runtime.connection
  flags : ∀ j, j ≠ i → (after.slot j).runtime.receivedFin = (w.slot j).runtime.receivedFin
  entry : ∀ id, id ≠ (w.slot i).runtime.streamId → ∀ e, after.adapter.connection.entry id = some e →
    w.adapter.connection.entry id = some e
  grows : w.transport.transcript <+: after.transport.transcript
  started : ∀ c g, .streamStarted c g ∈ after.transport.transcript → .streamStarted c g ∈ w.transport.transcript
  fragments : ∀ g, fragmentsOf g after.transport.transcript = fragmentsOf g w.transport.transcript ++
    if h = g then [fragment] else []

theorem Hears.of_aside {event : StreamEvent n} {fragment : StreamFragment} (brings : event.fragment = some fragment)
    (aside : (w.say (.streamCallback h event)).Aside i after) : w.Hears i h fragment after := by
  have said : Uneventful (w.transport.transcript ++ [.streamCallback h event]) after.transport.transcript := by
    rcases aside.said with same | ⟨stream, slot, data, fin, accepted, deliveries, same⟩
    · rw [same]
      exact Uneventful.refl _
    · rw [same]
      have neutral : Neutral (.streamSend stream slot data fin accepted deliveries) := trivial
      exact neutral.uneventful _
  refine ⟨aside.streams, aside.connection, aside.flags, aside.entry, (List.prefix_append ..).trans said.grows,
    fun c g member => ?_, fun g => (said.fragments g).trans (fragmentsOf_callback brings g h _)⟩
  simpa using said.started c g member

theorem Hears.shutdown {fragment : StreamFragment} (hears : w.Hears i h fragment after) (connection : Handle) :
    w.Hears i h fragment (after.say (.connectionShutdown connection 2)) := by
  refine ⟨hears.streams, hears.connection, hears.flags, hears.entry, hears.grows.trans (List.prefix_append ..),
    fun c g member => ?_, fun g => ?_⟩
  · refine hears.started c g ?_
    simpa [ConnectionRuntime.say, Transport.say] using member
  · rw [← hears.fragments g]
    exact (fragmentsOf_append ..).trans (List.append_nil _)

/-- If the connection of the stream is shut down exactly when the fragment breaks the rules,
the verdicts are right again. -/
theorem Policed.hears (policed : w.Policed) (sound : w.Sound) (service : w.Service settled count)
    (used : (w.slot i).inUse = true) (handle : (w.slot i).stream = h) {fragment : StreamFragment}
    (conforms : Conforms (fragmentsOf h w.transport.transcript)) (hears : w.Hears i h fragment after)
    (shut : ∀ c, c ∈ shutConnections after.transport.transcript ↔ c ∈ shutConnections w.transport.transcript ∨
      c = (w.slot i).runtime.connection ∧ ¬ Conforms (fragmentsOf h after.transport.transcript))
    (own : Live h after.transport.transcript → after.Heeds i (fragmentsOf h after.transport.transcript)) :
    after.Policed := by
  have started : .streamStarted (w.slot i).runtime.connection h ∈ w.transport.transcript :=
    handle ▸ (policed.connected i used).2
  have begun : ∀ c g, .streamStarted c g ∈ after.transport.transcript ↔ .streamStarted c g ∈ w.transport.transcript :=
    fun c g => ⟨hears.started c g, fun member => hears.grows.subset member⟩
  have elsewhere : ∀ g, h ≠ g → fragmentsOf g after.transport.transcript = fragmentsOf g w.transport.transcript := by
    intro g apart
    rw [hears.fragments, if_neg apart, List.append_nil]
  refine ⟨fun j inUse => ?_, fun g c c' => ?_, fun g nonempty => ?_, fun c => ?_, fun j inUse live => ?_⟩
  · obtain ⟨same, stream, -⟩ := hears.streams j
    obtain ⟨real, member⟩ := policed.connected j (same.symm.trans inUse)
    rw [hears.connection j, show (after.slot j).stream = (w.slot j).stream from stream]
    exact ⟨real, hears.grows.subset member⟩
  · rw [begun, begun]
    exact policed.once g c c'
  · simp only [begun]
    by_cases here : h = g
    · exact here ▸ ⟨_, started⟩
    · exact policed.known g (elsewhere g here ▸ nonempty)
  · rw [shut, policed.judged c]
    constructor
    · rintro (⟨g, member, broken⟩ | ⟨rfl, broken⟩)
      · have apart : h ≠ g := by
          rintro rfl
          exact broken conforms
        exact ⟨g, (begun c g).mpr member, elsewhere g apart ▸ broken⟩
      · exact ⟨h, (begun _ h).mpr started, broken⟩
    · rintro ⟨g, member, broken⟩
      rw [begun] at member
      by_cases here : h = g
      · subst here
        exact Or.inr ⟨policed.once h c _ member started, broken⟩
      · exact Or.inl ⟨g, member, elsewhere g here ▸ broken⟩
  · obtain ⟨same, stream, named⟩ := hears.streams j
    have before : (w.slot j).inUse = true := same.symm.trans inUse
    rw [show (after.slot j).stream = (w.slot j).stream from stream] at live ⊢
    by_cases here : j = i
    · subst here
      rw [handle] at live ⊢
      exact own live
    · have foreign : h ≠ (w.slot j).stream := fun same =>
        here (sound.transport.apart before used (same.symm.trans handle.symm))
      rw [elsewhere _ foreign]
      exact (policed.heeded j before (live.of_prefix hears.grows)).keep named (hears.flags j here)
        (hears.entry _ fun same => here (service.distinct j i before used same))

/-- A delivery is judged at once: the connection of the stream is shut down if and only if
the stream does not conform with what was delivered. -/
theorem Policed.deliver (policed : w.Policed) (sound : w.Sound) (service : w.Service settled count)
    (usable : w.queue.Usable) (serves : registered h w.transport.transcript = some i)
    (live : Live h w.transport.transcript) {event : StreamEvent n} (buffers : List (List UInt8)) (fin : Bool)
    (brings : event.fragment = some ⟨buffers.flatten, fin⟩) (heard : (w.say (.streamCallback h event)).Sound)
    (admits : w.Admits h i buffers) :
    (deliveryStatus i ((w.say (.streamCallback h event)).onMsquicReceive check accepts i h buffers fin)).2.Policed := by
  obtain ⟨used, handle, -⟩ := sound.transport.served h i serves
  replace handle : (w.slot i).stream = h := handle
  obtain ⟨real, started⟩ := policed.connected i used
  rw [handle] at started
  have heeds : w.Heeds i (fragmentsOf h w.transport.transcript) := handle ▸ policed.heeded i used (handle ▸ live)
  have conforms : Conforms (fragmentsOf h w.transport.transcript) := by
    by_contra broken
    refine live.2 (w.slot i).runtime.connection ?_ ((policed.judged _).mpr ⟨h, started, broken⟩)
    exact List.mem_filterMap.mpr ⟨_, started, if_pos rfl⟩
  have told : (w.say (.streamCallback h event)).Heeds i (fragmentsOf h w.transport.transcript) :=
    heeds.keep rfl rfl fun _ => id
  have serviceTold : (w.say (.streamCallback h event)).Service settled count := service.say (by simp)
  have pieces : Micros check accepts i h (w.say (.streamCallback h event))
      ((w.say (.streamCallback h event)).onMsquicReceive check accepts i h buffers fin).2 :=
    onMsquicReceive_micros heard.queue buffers fin
  have attached := ((heard.micros pieces).1.transport.bound i (((heard.micros pieces).2 i).1.trans used)).1
  obtain ⟨verdict, heeded, aside⟩ := told.onMsquicReceive check accepts h conforms heard serviceTold used usable buffers
    fin admits.1 fun unfinished absent => by
      obtain ⟨silent, room⟩ := admits.2 unfinished (entry_eq_none_iff.mp absent)
      rw [receivedBytes_eq] at silent
      exact ⟨splitAtFin_of_silent silent, room⟩
  generalize (w.say (.streamCallback h event)).onMsquicReceive check accepts i h buffers fin = result
    at attached verdict heeded aside
  obtain ⟨done, v⟩ := result
  have hears : w.Hears i h ⟨buffers.flatten, fin⟩ v := Hears.of_aside brings aside
  have here : fragmentsOf h v.transport.transcript = fragmentsOf h w.transport.transcript ++
      [⟨buffers.flatten, fin⟩] := by rw [hears.fragments, if_pos rfl]
  have shut : shutConnections v.transport.transcript = shutConnections w.transport.transcript := by
    have callback : shutConnections (w.transport.transcript ++ [.streamCallback h event]) =
        shutConnections w.transport.transcript := (shutConnections_append ..).trans (List.append_nil _)
    rcases aside.said with same | ⟨stream, slot, data, fin, accepted, deliveries, same⟩
    · rw [same]
      exact callback
    · rw [same]
      exact ((shutConnections_append ..).trans (List.append_nil _)).trans callback
  rw [← here] at verdict heeded
  cases done with
  | true =>
    refine policed.hears sound service used handle conforms hears (fun c => ?_) fun _ => heeded rfl
    rw [deliveryStatus, shut]
    exact (or_iff_left fun wrong => wrong.2 (verdict.mp rfl)).symm
  | false =>
    have connection : (v.slot i).runtime.connection = (w.slot i).runtime.connection := aside.connection i
    have shuts : (v.slot i).runtime.attached = true ∧ (v.slot i).runtime.connection ≠ 0 :=
      ⟨attached, connection ▸ real⟩
    have broken : ¬ Conforms (fragmentsOf h v.transport.transcript) := fun fine => by cases verdict.mpr fine
    have told : deliveryStatus i (false, v) = (.invalidState, v.say (.connectionShutdown
        (w.slot i).runtime.connection 2)) := by
      rw [deliveryStatus, protocolError, if_pos shuts, connection]
    have same : fragmentsOf h (v.say (.connectionShutdown (w.slot i).runtime.connection 2)).transport.transcript =
        fragmentsOf h v.transport.transcript := (fragmentsOf_append ..).trans (List.append_nil _)
    rw [told]
    refine policed.hears sound service used handle conforms (hears.shutdown _) (fun c => ?_) fun alive => ?_
    · rw [same, ConnectionRuntime.say, Transport.say, shutConnections_append, List.mem_append, shut]
      simp [shutConnections, broken]
    · exact absurd alive (not_live_of_shutdown (hears.grows.subset started) 2)

theorem Policed.runtimeStreamCallback (policed : w.Policed) (sound : w.Sound) (service : w.Service settled count)
    (usable : w.queue.Usable) (serves : registered h w.transport.transcript = some i) {event : StreamEvent n}
    (named : w.NamedStream (.stream h event)) (live : w.LiveStream (.stream h event))
    (receptive : w.Receptive (.stream h event)) :
    ((w.say (.streamCallback h event)).runtimeStreamCallback check accepts i h event).2.Policed := by
  have told (silent : event.fragment = none) : (w.say (.streamCallback h event)).Policed :=
    policed.keep (Settles.say w silent)
  have idle : (w.say (.streamCallback h event)).queue.Idle := sound.queue
  cases event with
  | receive buffers fin =>
    have heard : (w.say (.streamCallback h (.receive buffers fin))).Sound := sound.hear serves nofun
    exact policed.deliver sound service usable serves live buffers fin rfl heard (receptive i serves)
  | peerSendShutdown =>
    have heard : (w.say (.streamCallback h .peerSendShutdown)).Sound := sound.hear serves nofun
    exact policed.deliver sound service usable serves live [] true rfl heard (receptive i serves)
  | startComplete id => exact (told rfl).keep (Settles.record _ i (named i serves).symm rfl rfl)
  | sendComplete clientContext canceled =>
    exact (told rfl).keep (Settles.sendComplete idle sound.adapter clientContext canceled)
  | peerSendAborted | peerReceiveAborted | shutdownComplete =>
    exact (told rfl).keep (Settles.onReset idle sound.adapter)
  | other => exact told rfl

theorem Policed.step (policed : w.Policed) (sound : w.Sound) (service : w.Service settled count)
    (usable : w.queue.Usable) {callback : Callback n} (named : w.NamedStream callback) (live : w.LiveStream callback)
    (receptive : w.Receptive callback) (unlisted : w.UnlistedId callback) :
    (w.step check accepts callback).Policed := by
  cases callback with
  | newConnection connection configured =>
    simp only [ConnectionRuntime.step, acceptConnection]
    split
    · exact policed
    · have handled : (w.say (.setConnectionHandler connection)).Policed := policed.keep (Settles.say w trivial)
      exact handled.keep (Settles.say _ trivial)
  | connection connection event =>
    cases event with
    | peerStreamStarted stream streamId =>
      obtain ⟨told, unheard⟩ := policed.sayStarted connection named
      simp only [ConnectionRuntime.step]
      rcases connectionCallback_started (w.say (.streamStarted connection stream)) connection stream streamId with
        same | closed | ⟨i, id, -, rfl, -, opened⟩
      · rw [same]
        exact told
      · rw [closed]
        exact told.keep (Settles.say _ trivial)
      · rw [opened]
        have taken : ((w.say (.streamStarted connection stream)).setSlot i (openedSlot connection stream id
            (w.slot i).ingressCapacity)).Policed :=
          told.openSlot live (List.mem_append_right _ List.mem_cons_self)
            (((fragmentsOf_append ..).trans (List.append_nil _)).trans unheard) rfl unlisted
        exact taken.keep (Settles.say _ trivial)
    | shutdownComplete =>
      simp only [ConnectionRuntime.step, connectionCallback]
      split
      · exact policed.keep (Settles.say w trivial)
      · exact policed
    | other => exact policed
  | stream stream event =>
    simp only [ConnectionRuntime.step]
    split
    case h_2 => exact policed
    case h_1 i serves =>
      have served : ((w.say (.streamCallback stream event)).runtimeStreamCallback check accepts i stream
          event).2.Policed := policed.runtimeStreamCallback sound service usable serves named live receptive
      obtain ⟨soundAfter, streams⟩ := sound.runtimeStreamCallback check accepts serves event
      simp only [ConnectionRuntime.streamCallback]
      split
      · exact served.releaseSlot soundAfter ((streams i).1.trans (sound.transport.served stream i serves).1)
      · exact served

end ConnectionRuntime

end Ism
