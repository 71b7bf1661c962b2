import Ism.ConnectionRuntime
import Ism.EventRing

namespace Ism

open Lib

namespace EventQueue

/-- Nothing is queued, and the next event has a place. -/
structure Idle (queue : EventQueue) : Prop where
  count_eq : queue.count = 0
  capacity_lt : queue.capacity < 2 ^ 32
  head_lt : 0 < queue.capacity → queue.head < queue.capacity
  room : ∀ events ∈ queue.events, queue.capacity ≤ events.length

/-- The queue has storage for at least one event. -/
def Usable (queue : EventQueue) : Prop := queue.events ≠ none ∧ 0 < queue.capacity

instance (queue : EventQueue) : Decidable queue.Usable :=
  inferInstanceAs (Decidable (queue.events ≠ none ∧ 0 < queue.capacity))

theorem init_idle {events : Option (List ShellEvent)} {capacity : Nat} (small : capacity < 2 ^ 32)
    (room : ∀ stored ∈ events, capacity ≤ stored.length) : (init events capacity).Idle :=
  ⟨rfl, small, fun pos => pos, room⟩

variable {queue : EventQueue}

theorem enqueue_of_not_usable (unusable : ¬ queue.Usable) (event : ShellEvent) :
    queue.enqueue event = (false, queue) := by
  unfold enqueue
  cases stored : queue.events with
  | none => rfl
  | some events =>
    have empty : queue.capacity = 0 := by
      by_contra positive
      exact unusable ⟨by simp [stored], Nat.pos_of_ne_zero positive⟩
    exact if_pos (Or.inl empty)

theorem Idle.holds (idle : queue.Idle) (usable : queue.Usable) : queue.Holds [] := by
  obtain ⟨events, stored⟩ := Option.ne_none_iff_exists'.mp usable.1
  exact ⟨idle.count_eq, idle.capacity_lt, events, stored, idle.head_lt usable.2, Nat.zero_le _, idle.room events stored,
    by simp⟩

theorem Holds.usable {pending : List ShellEvent} (holds : queue.Holds pending) : queue.Usable := by
  obtain ⟨-, -, storage, stored, ring⟩ := holds
  exact ⟨by simp [stored], Nat.zero_lt_of_lt ring.head_lt⟩

theorem Holds.idle (holds : queue.Holds []) : queue.Idle := by
  obtain ⟨count, small, storage, stored, ring⟩ := holds
  refine ⟨count, small, fun _ => ring.head_lt, ?_⟩
  rw [stored]
  rintro _ ⟨⟩
  exact ring.room

/-- An event that is put into an idle queue is the one that comes out next. -/
theorem Idle.enqueue_dequeue (idle : queue.Idle) (usable : queue.Usable) (event : ShellEvent) :
    ∃ queued after, queue.enqueue event = (true, queued) ∧ queued.dequeue = (some event, after) ∧
      after.Idle ∧ after.Usable := by
  have empty := idle.holds usable
  obtain ⟨queued, entered, one, -⟩ := empty.enqueue_room usable.2 (Nat.lt_trans empty.head_lt empty.capacity_lt) event
  obtain ⟨after, taken, kept, -⟩ := one.dequeue_cons
  exact ⟨queued, after, entered, taken, kept.idle, kept.usable⟩

end EventQueue

section Transcripts

variable {n : Nat}

def pendingStep (stream : Handle) (current : Option (Fin n)) : Interaction n → Option (Fin n)
  | .streamSend handle slot _ _ accepted _ => if handle = stream ∧ accepted = true then some slot else current
  | .streamCallback handle (.sendComplete clientContext _) =>
    if handle = stream ∧ clientContext = current then none else current
  | _ => current

/-- The slot whose send context belongs to an accepted send that MsQuic has not completed. -/
def pending (stream : Handle) (transcript : List (Interaction n)) : Option (Fin n) :=
  transcript.foldl (pendingStep stream) none

/-- How often `StreamClose` was called on a stream. -/
def closes (stream : Handle) (transcript : List (Interaction n)) : Nat := transcript.count (.streamClose stream)

def startedStreams (transcript : List (Interaction n)) : List Handle :=
  transcript.filterMap fun interaction =>
    match interaction with
    | .streamStarted _ stream => some stream
    | _ => none

/-- MsQuic has reported the stream as started. -/
def Started (stream : Handle) (transcript : List (Interaction n)) : Prop := stream ∈ startedStreams transcript

instance (stream : Handle) (transcript : List (Interaction n)) : Decidable (Started stream transcript) :=
  inferInstanceAs (Decidable (stream ∈ startedStreams transcript))

variable (stream : Handle) (transcript : List (Interaction n)) (interaction : Interaction n)

@[simp] theorem registered_append : registered stream (transcript ++ [interaction]) =
    registeredStep stream (registered stream transcript) interaction := by
  simp [registered]

@[simp] theorem pending_append : pending stream (transcript ++ [interaction]) =
    pendingStep stream (pending stream transcript) interaction := by
  simp [pending]

@[simp] theorem closes_append : closes stream (transcript ++ [interaction]) =
    closes stream transcript + if interaction = .streamClose stream then 1 else 0 := by
  simp [closes, List.count_singleton]

theorem Started.append {stream : Handle} {transcript : List (Interaction n)} (started : Started stream transcript)
    (interaction : Interaction n) : Started stream (transcript ++ [interaction]) := by
  rw [Started, startedStreams, List.filterMap_append]
  exact List.mem_append_left _ started

theorem started_append (connection stream : Handle) (transcript : List (Interaction n)) :
    Started stream (transcript ++ [.streamStarted connection stream]) := by
  simp [Started, startedStreams]

end Transcripts

namespace Transport

variable {n : Nat} {transport : Transport n}

/-- The slots in use are exactly the ones that MsQuic knows about, each under its own
stream, and they know which sends are pending. -/
structure Sound (transport : Transport n) : Prop where
  owner : ∀ i, (transport.slots i).inUse = true →
    registered (transport.slots i).stream transport.transcript = some i
  bound : ∀ i, (transport.slots i).inUse = true → (transport.slots i).runtime.attached = true ∧
    (transport.slots i).runtime.stream = (transport.slots i).stream ∧ (transport.slots i).stream ≠ 0
  sending : ∀ i, (transport.slots i).inUse = true → pending (transport.slots i).stream transport.transcript =
    if (transport.slots i).runtime.sendInFlight = true then some i else none
  served : ∀ h i, registered h transport.transcript = some i → (transport.slots i).inUse = true ∧
    (transport.slots i).stream = h ∧ closes h transport.transcript = 0
  fresh : ∀ h, ¬ Started h transport.transcript → registered h transport.transcript = none ∧
    pending h transport.transcript = none ∧ closes h transport.transcript = 0

/-- The histories play no part in which slot serves which stream. -/
theorem Sound.withHistories (sound : transport.Sound) (histories : UInt64 → List (Delivery Handle)) :
    { transport with histories := histories }.Sound :=
  ⟨sound.owner, sound.bound, sound.sending, sound.served, sound.fresh⟩

theorem Sound.apart (sound : transport.Sound) {i j : Fin n} (used : (transport.slots i).inUse = true)
    (used' : (transport.slots j).inUse = true) (same : (transport.slots i).stream = (transport.slots j).stream) :
    i = j := by
  have left := sound.owner i used
  rw [same, sound.owner j used', Option.some.injEq] at left
  exact left.symm

/-- What is said changes nothing about which slot serves or sends for which stream. -/
theorem Sound.say (sound : transport.Sound) {interaction : Interaction n}
    (kept : ∀ h, registeredStep h (registered h transport.transcript) interaction = registered h transport.transcript ∧
      pendingStep h (pending h transport.transcript) interaction = pending h transport.transcript ∧
      interaction ≠ .streamClose h) : (transport.say interaction).Sound := by
  have register : ∀ h, registered h (transport.say interaction).transcript = registered h transport.transcript :=
    fun h => (registered_append h _ interaction).trans (kept h).1
  have pend : ∀ h, pending h (transport.say interaction).transcript = pending h transport.transcript :=
    fun h => (pending_append h _ interaction).trans (kept h).2.1
  have close : ∀ h, closes h (transport.say interaction).transcript = closes h transport.transcript :=
    fun h => (closes_append h _ interaction).trans (by rw [if_neg (kept h).2.2, Nat.add_zero])
  refine ⟨fun i used => (register _).trans (sound.owner i used), sound.bound,
    fun i used => (pend _).trans (sound.sending i used), ?_, ?_⟩
  · intro h i
    rw [register, close]
    exact sound.served h i
  · intro h unstarted
    rw [register, pend, close]
    exact sound.fresh h fun started => unstarted (started.append interaction)

theorem modifyRuntime_self (transport : Transport n) (i : Fin n) (f : RuntimeStream → RuntimeStream) :
    (transport.modifyRuntime i f).slots i = { transport.slots i with runtime := f (transport.slots i).runtime } :=
  Function.update_self ..

theorem modifyRuntime_other (transport : Transport n) {i j : Fin n} (apart : j ≠ i)
    (f : RuntimeStream → RuntimeStream) :
    (transport.modifyRuntime i f).slots j = transport.slots j :=
  Function.update_of_ne apart ..

theorem setSlot_self (transport : Transport n) (i : Fin n) (slot : StreamSlot) :
    (transport.setSlot i slot).slots i = slot :=
  Function.update_self ..

theorem setSlot_other (transport : Transport n) {i j : Fin n} (apart : j ≠ i) (slot : StreamSlot) :
    (transport.setSlot i slot).slots j = transport.slots j :=
  Function.update_of_ne apart ..

theorem modifyRuntime_slot (transport : Transport n) (i : Fin n) (f : RuntimeStream → RuntimeStream) (j : Fin n) :
    ((transport.modifyRuntime i f).slots j).inUse = (transport.slots j).inUse ∧
      ((transport.modifyRuntime i f).slots j).stream = (transport.slots j).stream := by
  by_cases here : j = i
  · rw [here, modifyRuntime_self]
    exact ⟨rfl, rfl⟩
  · rw [modifyRuntime_other _ here]
    exact ⟨rfl, rfl⟩

/-- A record may change as long as it stays bound to its stream and to its pending send. -/
theorem Sound.modifyRuntime (sound : transport.Sound) {i : Fin n} {f : RuntimeStream → RuntimeStream}
    (attached : (f (transport.slots i).runtime).attached = (transport.slots i).runtime.attached)
    (stream : (f (transport.slots i).runtime).stream = (transport.slots i).runtime.stream)
    (sending : (f (transport.slots i).runtime).sendInFlight = (transport.slots i).runtime.sendInFlight) :
    (transport.modifyRuntime i f).Sound := by
  have same : ∀ j, ((transport.modifyRuntime i f).slots j).inUse = (transport.slots j).inUse ∧
      ((transport.modifyRuntime i f).slots j).stream = (transport.slots j).stream ∧
      ((transport.modifyRuntime i f).slots j).runtime.attached = (transport.slots j).runtime.attached ∧
      ((transport.modifyRuntime i f).slots j).runtime.stream = (transport.slots j).runtime.stream ∧
      ((transport.modifyRuntime i f).slots j).runtime.sendInFlight = (transport.slots j).runtime.sendInFlight := by
    intro j
    by_cases here : j = i
    · rw [here, modifyRuntime_self]
      exact ⟨rfl, rfl, attached, stream, sending⟩
    · rw [modifyRuntime_other _ here]
      exact ⟨rfl, rfl, rfl, rfl, rfl⟩
  refine ⟨?_, ?_, ?_, ?_, sound.fresh⟩
  · intro j used
    rw [(same j).1] at used
    rw [(same j).2.1]
    exact sound.owner j used
  · intro j used
    rw [(same j).1] at used
    rw [(same j).2.1, (same j).2.2.1, (same j).2.2.2.1]
    exact sound.bound j used
  · intro j used
    rw [(same j).1] at used
    rw [(same j).2.1, (same j).2.2.2.2]
    exact sound.sending j used
  · intro h j serves
    rw [(same j).1, (same j).2.1]
    exact sound.served h j serves

/-- A send is accepted or completed: the transcript and the record of its slot change together. -/
theorem Sound.update (sound : transport.Sound) {i : Fin n} {f : RuntimeStream → RuntimeStream}
    {interaction : Interaction n} (used : (transport.slots i).inUse = true)
    (attached : (f (transport.slots i).runtime).attached = (transport.slots i).runtime.attached)
    (stream : (f (transport.slots i).runtime).stream = (transport.slots i).runtime.stream)
    (register : ∀ h current, registeredStep h current interaction = current)
    (noClose : ∀ h, interaction ≠ .streamClose h)
    (here : pendingStep (transport.slots i).stream (pending (transport.slots i).stream transport.transcript)
      interaction = if (f (transport.slots i).runtime).sendInFlight = true then some i else none)
    (others : ∀ h current, h ≠ (transport.slots i).stream → pendingStep h current interaction = current) :
    ((transport.say interaction).modifyRuntime i f).Sound := by
  have registerEq : ∀ h, registered h (transport.transcript ++ [interaction]) = registered h transport.transcript :=
    fun h => (registered_append h _ interaction).trans (register h _)
  have closeEq : ∀ h, closes h (transport.transcript ++ [interaction]) = closes h transport.transcript :=
    fun h => (closes_append h _ interaction).trans (by rw [if_neg (noClose h), Nat.add_zero])
  have self : ((transport.say interaction).modifyRuntime i f).slots i =
      { transport.slots i with runtime := f (transport.slots i).runtime } := modifyRuntime_self _ i f
  have rest : ∀ j, j ≠ i → ((transport.say interaction).modifyRuntime i f).slots j = transport.slots j :=
    fun j apart => modifyRuntime_other _ apart f
  have transcript : ((transport.say interaction).modifyRuntime i f).transcript =
    transport.transcript ++ [interaction] := rfl
  refine ⟨?_, ?_, ?_, ?_, ?_⟩
  · intro j inUse
    rw [transcript, registerEq]
    by_cases same : j = i
    · rw [same, self]
      exact sound.owner i used
    · rw [rest j same] at inUse ⊢
      exact sound.owner j inUse
  · intro j inUse
    by_cases same : j = i
    · rw [same, self]
      exact ⟨attached.trans (sound.bound i used).1, stream.trans (sound.bound i used).2.1, (sound.bound i used).2.2⟩
    · rw [rest j same] at inUse ⊢
      exact sound.bound j inUse
  · intro j inUse
    rw [transcript, pending_append]
    by_cases same : j = i
    · rw [same, self]
      exact here
    · rw [rest j same] at inUse ⊢
      rw [others _ _ fun equal => same (sound.apart inUse used equal)]
      exact sound.sending j inUse
  · intro h j
    rw [transcript, registerEq, closeEq]
    intro serves
    by_cases same : j = i
    · rw [same, self]
      exact same ▸ sound.served h j serves
    · rw [rest j same]
      exact sound.served h j serves
  · intro h unstarted
    obtain ⟨unserved, idle, unclosed⟩ := sound.fresh h fun started => unstarted (started.append interaction)
    have apart : h ≠ (transport.slots i).stream := by
      rintro rfl
      rw [sound.owner i used] at unserved
      cases unserved
    rw [transcript, registerEq, closeEq, pending_append, others h _ apart]
    exact ⟨unserved, idle, unclosed⟩

variable {accepts : List (Interaction n) → Bool}

theorem Sound.runtimeSend (sound : transport.Sound) {i : Fin n} (used : (transport.slots i).inUse = true)
    (call : SendCall) : (transport.runtimeSend accepts i call).2.Sound := by
  unfold Transport.runtimeSend
  simp only
  split
  case isTrue => exact sound
  case isFalse pass =>
    have quiet : (transport.slots i).runtime.sendInFlight = false := by
      rw [← Bool.not_eq_true]
      exact fun busy => pass (Or.inr (Or.inr (Or.inr (Or.inr busy))))
    have named := (sound.bound i used).2.1
    split
    case isTrue yes =>
      dsimp only
      refine sound.update used rfl rfl (fun _ _ => rfl) (fun _ => nofun) ?_ ?_
      · simp only [pendingStep, named, yes, and_self, if_true]
      · intro h current apart
        simp only [pendingStep, named, apart.symm, false_and, if_false]
    case isFalse no =>
      dsimp only
      refine sound.update used rfl rfl (fun _ _ => rfl) (fun _ => nofun) ?_ ?_
      · simp [pendingStep, no, sound.sending i used, quiet, RuntimeStream.clearSend]
      · intro h current _
        simp [pendingStep, no]

/-- A send says nothing, or it is the one call of `StreamSend`. -/
theorem runtimeSend_transcript (accepts : List (Interaction n) → Bool) (transport : Transport n) (j : Fin n)
    (call : SendCall) :
    (transport.runtimeSend accepts j call).2.transcript = transport.transcript ∨
    ∃ data fin accepted deliveries, (transport.runtimeSend accepts j call).2.transcript =
      transport.transcript ++ [.streamSend (transport.slots j).runtime.stream j data fin accepted deliveries] := by
  unfold Transport.runtimeSend
  simp only
  split
  · exact Or.inl rfl
  · split
    · exact Or.inr ⟨_, _, _, _, rfl⟩
    · exact Or.inr ⟨_, _, _, _, rfl⟩

theorem connectionRuntimeSend_cases (transport : Transport n) (call : SendCall) :
    transport.connectionRuntimeSend accepts call = (false, transport) ∨
    ∃ i, (transport.slots i).inUse = true ∧ (transport.slots i).runtime.streamId = call.streamId ∧
      transport.connectionRuntimeSend accepts call = transport.runtimeSend accepts i call := by
  unfold Transport.connectionRuntimeSend
  cases found : (List.finRange n).find? (fun i =>
      (transport.slots i).inUse && decide ((transport.slots i).runtime.streamId = call.streamId)) with
  | none => exact Or.inl rfl
  | some i =>
    have here := List.find?_some found
    rw [Bool.and_eq_true, decide_eq_true_eq] at here
    exact Or.inr ⟨i, here.1, here.2, rfl⟩

/-- No two slots in use have the same ID. -/
def DistinctIds (transport : Transport n) : Prop :=
  ∀ i j, (transport.slots i).inUse = true → (transport.slots j).inUse = true →
    (transport.slots i).runtime.streamId = (transport.slots j).runtime.streamId → i = j

/-- With IDs of their own, the slot that sends is the slot that was asked to. -/
theorem DistinctIds.connectionRuntimeSend_eq (distinct : transport.DistinctIds) {i : Fin n}
    (used : (transport.slots i).inUse = true) {call : SendCall}
    (named : call.streamId = (transport.slots i).runtime.streamId) :
    transport.connectionRuntimeSend accepts call = transport.runtimeSend accepts i call := by
  unfold Transport.connectionRuntimeSend
  cases found : (List.finRange n).find? (fun j =>
      (transport.slots j).inUse && decide ((transport.slots j).runtime.streamId = call.streamId)) with
  | none => simpa [used, named] using List.find?_eq_none.mp found i (List.mem_finRange i)
  | some j =>
    have here := List.find?_some found
    rw [Bool.and_eq_true, decide_eq_true_eq] at here
    obtain rfl := distinct j i here.1 used (here.2.trans named)
    rfl

/-- A send for a slot is handed to MsQuic on the slot's stream; the answer says whether it is in flight. -/
theorem Sound.runtimeSend_eq (sound : transport.Sound) {i : Fin n} (used : (transport.slots i).inUse = true)
    (quiet : (transport.slots i).runtime.sendInFlight = false) {call : SendCall}
    (named : call.streamId = (transport.slots i).runtime.streamId) (pos : 0 < call.len) :
    transport.runtimeSend accepts i call =
      (accepts transport.transcript,
        (transport.say (.streamSend (transport.slots i).stream i (call.buf.take call.len) call.fin
          (accepts transport.transcript) (transport.histories call.streamId))).modifyRuntime i
          (if accepts transport.transcript = true then
            fun runtime => { runtime with responseLen := call.len, sendInFlight := true, resetPending := false }
          else RuntimeStream.clearSend)) := by
  obtain ⟨attached, stream, real⟩ := sound.bound i used
  have pass : ¬ ((transport.slots i).runtime.attached = false ∨ (transport.slots i).runtime.stream = 0 ∨
      (transport.slots i).runtime.streamId ≠ call.streamId ∨ call.len = 0 ∨
      (transport.slots i).runtime.sendInFlight = true) := by
    rintro (off | null | other | empty | busy)
    · rw [attached] at off
      cases off
    · exact real (stream ▸ null)
    · exact other named.symm
    · omega
    · rw [quiet] at busy
      cases busy
  simp only [Transport.runtimeSend, if_neg pass]
  rw [stream]
  cases accepts transport.transcript <;> rfl

theorem Sound.connectionRuntimeSend (sound : transport.Sound) (call : SendCall) :
    (transport.connectionRuntimeSend accepts call).2.Sound := by
  rcases connectionRuntimeSend_cases transport call with refused | ⟨i, used, -, sends⟩
  · rw [refused]
    exact sound
  · rw [sends]
    exact sound.runtimeSend used call

/-- A slot that is given up closes its stream. -/
theorem Sound.close (sound : transport.Sound) {i : Fin n} {slot : StreamSlot}
    (used : (transport.slots i).inUse = true) (free : slot.inUse = false) :
    ((transport.say (.streamClose (transport.slots i).stream)).setSlot i slot).Sound := by
  have self : ((transport.say (.streamClose (transport.slots i).stream)).setSlot i slot).slots i = slot :=
    Function.update_self ..
  have rest : ∀ j, j ≠ i → ((transport.say (.streamClose (transport.slots i).stream)).setSlot i slot).slots j =
      transport.slots j := fun j apart => Function.update_of_ne apart ..
  have used' : ∀ j, (((transport.say (.streamClose (transport.slots i).stream)).setSlot i slot).slots j).inUse = true →
      j ≠ i ∧ (transport.slots j).inUse = true := by
    intro j inUse
    by_cases same : j = i
    · rw [same, self, free] at inUse
      cases inUse
    · rw [rest j same] at inUse
      exact ⟨same, inUse⟩
  have others : ∀ h, h ≠ (transport.slots i).stream →
      registered h (transport.transcript ++ [.streamClose (transport.slots i).stream]) =
        registered h transport.transcript ∧
      closes h (transport.transcript ++ [.streamClose (transport.slots i).stream]) = closes h transport.transcript := by
    intro h apart
    rw [registered_append, closes_append]
    simp [registeredStep, apart.symm]
  have pend : ∀ h, pending h (transport.transcript ++ [.streamClose (transport.slots i).stream]) =
      pending h transport.transcript := fun h => pending_append h _ _
  have transcript : ((transport.say (.streamClose (transport.slots i).stream)).setSlot i slot).transcript =
      transport.transcript ++ [.streamClose (transport.slots i).stream] := rfl
  refine ⟨?_, ?_, ?_, ?_, ?_⟩
  · intro j inUse
    obtain ⟨apart, before⟩ := used' j inUse
    rw [rest j apart, transcript, (others _ fun equal => apart (sound.apart before used equal)).1]
    exact sound.owner j before
  · intro j inUse
    obtain ⟨apart, before⟩ := used' j inUse
    rw [rest j apart]
    exact sound.bound j before
  · intro j inUse
    obtain ⟨apart, before⟩ := used' j inUse
    rw [rest j apart, transcript, pend]
    exact sound.sending j before
  · intro h j serves
    rw [transcript] at serves ⊢
    have apart : h ≠ (transport.slots i).stream := by
      rintro rfl
      simp [registeredStep] at serves
    rw [(others h apart).1] at serves
    obtain ⟨inUse, named, unclosed⟩ := sound.served h j serves
    have different : j ≠ i := by
      rintro rfl
      exact apart named.symm
    rw [rest j different, (others h apart).2]
    exact ⟨inUse, named, unclosed⟩
  · intro h unstarted
    obtain ⟨unserved, idle, unclosed⟩ := sound.fresh h fun started => unstarted (started.append _)
    have apart : h ≠ (transport.slots i).stream := by
      rintro rfl
      rw [sound.owner i used] at unserved
      cases unserved
    rw [transcript, (others h apart).1, (others h apart).2, pend]
    exact ⟨unserved, idle, unclosed⟩

/-- A stream that was just started gets a free slot. -/
theorem Sound.opened (sound : transport.Sound) {i : Fin n} {slot : StreamSlot}
    (unused : (transport.slots i).inUse = false) (taken : slot.inUse = true)
    (started : Started slot.stream transport.transcript)
    (unserved : registered slot.stream transport.transcript = none)
    (idle : pending slot.stream transport.transcript = none) (unclosed : closes slot.stream transport.transcript = 0)
    (attached : slot.runtime.attached = true) (bound : slot.runtime.stream = slot.stream) (real : slot.stream ≠ 0)
    (quiet : slot.runtime.sendInFlight = false) :
    ((transport.setSlot i slot).say (.setStreamHandler slot.stream i)).Sound := by
  have self : ((transport.setSlot i slot).say (.setStreamHandler slot.stream i)).slots i = slot :=
    Function.update_self ..
  have rest : ∀ j, j ≠ i → ((transport.setSlot i slot).say (.setStreamHandler slot.stream i)).slots j =
      transport.slots j := fun j apart => Function.update_of_ne apart ..
  have transcript : ((transport.setSlot i slot).say (.setStreamHandler slot.stream i)).transcript =
      transport.transcript ++ [.setStreamHandler slot.stream i] := rfl
  have others : ∀ h, h ≠ slot.stream → registered h (transport.transcript ++ [.setStreamHandler slot.stream i]) =
      registered h transport.transcript := by
    intro h apart
    rw [registered_append]
    simp [registeredStep, apart.symm]
  have here : registered slot.stream (transport.transcript ++ [.setStreamHandler slot.stream i]) = some i := by
    rw [registered_append]
    simp [registeredStep]
  have pend : ∀ h, pending h (transport.transcript ++ [.setStreamHandler slot.stream i]) =
      pending h transport.transcript := fun h => pending_append h _ _
  have close : ∀ h, closes h (transport.transcript ++ [.setStreamHandler slot.stream i]) =
      closes h transport.transcript := fun h => closes_append h _ _
  have different : ∀ j, (transport.slots j).inUse = true → (transport.slots j).stream ≠ slot.stream := by
    intro j inUse same
    rw [← same, sound.owner j inUse] at unserved
    cases unserved
  refine ⟨?_, ?_, ?_, ?_, ?_⟩
  · intro j inUse
    rw [transcript]
    by_cases same : j = i
    · rw [same, self]
      exact here
    · rw [rest j same] at inUse ⊢
      rw [others _ (different j inUse)]
      exact sound.owner j inUse
  · intro j inUse
    by_cases same : j = i
    · rw [same, self]
      exact ⟨attached, bound, real⟩
    · rw [rest j same] at inUse ⊢
      exact sound.bound j inUse
  · intro j inUse
    rw [transcript, pend]
    by_cases same : j = i
    · rw [same, self, idle, quiet]
      rfl
    · rw [rest j same] at inUse ⊢
      exact sound.sending j inUse
  · intro h j serves
    rw [transcript, close]
    rw [transcript] at serves
    by_cases same : h = slot.stream
    · rw [same, here, Option.some.injEq] at serves
      rw [← serves, self, same]
      exact ⟨taken, rfl, unclosed⟩
    · rw [others h same] at serves
      obtain ⟨inUse, named, unclosed⟩ := sound.served h j serves
      have apart : j ≠ i := by
        rintro rfl
        rw [unused] at inUse
        cases inUse
      rw [rest j apart]
      exact ⟨inUse, named, unclosed⟩
  · intro h unstarted
    have apart : h ≠ slot.stream := by
      rintro rfl
      exact unstarted (started.append _)
    rw [transcript, others h apart, pend, close]
    exact sound.fresh h fun begun => unstarted (begun.append _)

/-- A stream that was just started and gets no slot is closed. -/
theorem Sound.reject (sound : transport.Sound) {stream : Handle} (started : Started stream transport.transcript)
    (unserved : registered stream transport.transcript = none) : (transport.say (.streamClose stream)).Sound := by
  have register : ∀ h, registered h (transport.transcript ++ [.streamClose stream]) =
      registered h transport.transcript := by
    intro h
    rw [registered_append]
    by_cases same : stream = h
    · subst same
      simp [registeredStep, unserved]
    · simp [registeredStep, same]
  have pend : ∀ h, pending h (transport.transcript ++ [.streamClose stream]) = pending h transport.transcript :=
    fun h => pending_append h _ _
  have close : ∀ h, h ≠ stream → closes h (transport.transcript ++ [.streamClose stream]) =
      closes h transport.transcript := by
    intro h apart
    rw [closes_append]
    simp [apart.symm]
  refine ⟨fun i used => (register _).trans (sound.owner i used), sound.bound,
    fun i used => (pend _).trans (sound.sending i used), ?_, ?_⟩
  · intro h i serves
    have before : registered h transport.transcript = some i := (register h).symm.trans serves
    have apart : h ≠ stream := by
      rintro rfl
      rw [unserved] at before
      cases before
    obtain ⟨used, named, unclosed⟩ := sound.served h i before
    exact ⟨used, named, (close h apart).trans unclosed⟩
  · intro h unstarted
    have apart : h ≠ stream := by
      rintro rfl
      exact unstarted (started.append _)
    obtain ⟨idle, quiet, unclosed⟩ := sound.fresh h fun begun => unstarted (begun.append _)
    exact ⟨(register h).trans idle, (pend h).trans quiet, (close h apart).trans unclosed⟩

/-- The slots serve the same streams under the same IDs. -/
def SameStreams (transport after : Transport n) : Prop :=
  ∀ j, (after.slots j).inUse = (transport.slots j).inUse ∧ (after.slots j).stream = (transport.slots j).stream ∧
    (after.slots j).runtime.streamId = (transport.slots j).runtime.streamId

theorem SameStreams.refl (transport : Transport n) : SameStreams transport transport := fun _ => ⟨rfl, rfl, rfl⟩

theorem SameStreams.trans {first second third : Transport n} (left : SameStreams first second)
    (right : SameStreams second third) : SameStreams first third := fun j =>
  ⟨(right j).1.trans (left j).1, (right j).2.1.trans (left j).2.1, (right j).2.2.trans (left j).2.2⟩

theorem SameStreams.modifyRuntime (transport : Transport n) {i : Fin n} {f : RuntimeStream → RuntimeStream}
    (kept : (f (transport.slots i).runtime).streamId = (transport.slots i).runtime.streamId) :
    SameStreams transport (transport.modifyRuntime i f) := by
  intro j
  by_cases here : j = i
  · rw [here, modifyRuntime_self]
    exact ⟨rfl, rfl, kept⟩
  · rw [modifyRuntime_other _ here]
    exact ⟨rfl, rfl, rfl⟩

theorem SameStreams.runtimeSend (transport : Transport n) (i : Fin n) (call : SendCall) :
    SameStreams transport (transport.runtimeSend accepts i call).2 := by
  unfold Transport.runtimeSend
  simp only
  split
  · exact SameStreams.refl transport
  · have said : ∀ interaction, SameStreams transport (transport.say interaction) := fun _ _ => ⟨rfl, rfl, rfl⟩
    split
    · dsimp only
      exact (said _).trans (SameStreams.modifyRuntime _ rfl)
    · dsimp only
      exact (said _).trans (SameStreams.modifyRuntime _ rfl)

theorem SameStreams.connectionRuntimeSend (transport : Transport n) (call : SendCall) :
    SameStreams transport (transport.connectionRuntimeSend accepts call).2 := by
  rcases connectionRuntimeSend_cases transport call with refused | ⟨i, -, -, sends⟩
  · rw [refused]
    exact SameStreams.refl transport
  · rw [sends]
    exact SameStreams.runtimeSend transport i call

theorem DistinctIds.sameStreams {after : Transport n} (distinct : transport.DistinctIds)
    (same : SameStreams transport after) : after.DistinctIds := by
  intro j k
  rw [(same j).1, (same j).2.2, (same k).1, (same k).2.2]
  exact distinct j k

/-- A slot may be given up. -/
theorem DistinctIds.giveUp (distinct : transport.DistinctIds) {i : Fin n} {slot : StreamSlot}
    (free : slot.inUse = false) : (transport.setSlot i slot).DistinctIds := by
  have others : ∀ j, ((transport.setSlot i slot).slots j).inUse = true →
      (transport.setSlot i slot).slots j = transport.slots j := by
    intro j used
    by_cases here : j = i
    · rw [here, setSlot_self, free] at used
      cases used
    · exact setSlot_other transport here slot
  intro j k usedJ usedK
  have sameJ := others j usedJ
  have sameK := others k usedK
  rw [sameJ] at usedJ ⊢
  rw [sameK] at usedK ⊢
  exact distinct j k usedJ usedK

/-- A slot may be taken for a stream whose ID no slot in use has. -/
theorem DistinctIds.take (distinct : transport.DistinctIds) {i : Fin n} {slot : StreamSlot}
    (unnamed : ∀ j, (transport.slots j).inUse = true → (transport.slots j).runtime.streamId ≠ slot.runtime.streamId) :
    (transport.setSlot i slot).DistinctIds := by
  have self := setSlot_self transport i slot
  have others : ∀ j, j ≠ i → (transport.setSlot i slot).slots j = transport.slots j := fun j apart =>
    setSlot_other transport apart slot
  intro j k usedJ usedK same
  by_cases hereJ : j = i
  · by_cases hereK : k = i
    · rw [hereJ, hereK]
    · rw [hereJ, self, others k hereK] at same
      rw [others k hereK] at usedK
      exact absurd same.symm (unnamed k usedK)
  · rw [others j hereJ] at usedJ same
    by_cases hereK : k = i
    · rw [hereK, self] at same
      exact absurd same (unnamed j usedJ)
    · rw [others k hereK] at usedK same
      exact distinct j k usedJ usedK same

end Transport

end Ism
