import Ism.Ingress
import Ism.LateFin
import Ism.WholeStream

namespace Ism

open Lib ShellConnection

section Fragments

variable {fragments : List StreamFragment} {s data : List UInt8} {last : StreamFragment}

theorem tracePhase_done_append (broken : tracePhase s = .done) (data : List UInt8) :
    tracePhase (s ++ data) = .done := by
  rw [← fragmentPhase_tracePhase, broken]
  rfl

/-- Fragments that a request may begin with and, from the first FIN on, that are one. -/
def Conforms (fragments : List StreamFragment) : Prop :=
  match (splitAtFin fragments).2 with
  | none => tracePhase (splitAtFin fragments).1 ≠ .done
  | some _ => ∃ m, RequestOf fragments m

theorem conforms_nil : Conforms [] := by simp [Conforms, splitAtFin, tracePhase]

theorem conforms_open_iff (split : splitAtFin fragments = (s, none)) : Conforms fragments ↔ tracePhase s ≠ .done := by
  rw [Conforms, split]

theorem conforms_fin_iff (split : splitAtFin fragments = (s, some [])) :
    Conforms fragments ↔ ∃ m : List UInt8, m.length < 65536 ∧ CompleteRequest s m.length m := by
  simp only [Conforms, RequestOf, split, true_and]

/-- Behind a FIN nothing but empty fragments may come. -/
theorem conforms_append_ended_iff (ended : (splitAtFin fragments).2 ≠ none) (conforms : Conforms fragments) :
    Conforms (fragments ++ [last]) ↔ last.data = [] := by
  obtain ⟨after, ended⟩ := Option.ne_none_iff_exists'.mp ended
  rw [Conforms, ended] at conforms
  obtain ⟨m, asked⟩ := conforms
  rw [Conforms, splitAtFin_append_ended ended]
  constructor
  · rintro ⟨other, -, nothing, -⟩
    rw [splitAtFin_append_ended ended] at nothing
    exact (List.append_eq_nil_iff.mp (Option.some.inj nothing)).2
  · exact fun empty => ⟨m, asked.closed.mpr empty⟩

theorem CompleteRequest.tracePhase_ne_done {m : List UInt8} (small : m.length < 65536)
    (complete : CompleteRequest s m.length m) : tracePhase s ≠ .done := by
  obtain ⟨whole, -, low, -⟩ := complete
  have waiting : tracePhase s = .awaitingFin ⟨m.length, small⟩ := tracePhase_awaitingFin_iff.mpr ⟨m, whole, rfl, low⟩
  rw [waiting]
  exact StreamPhase.noConfusion

end Fragments

namespace ShellConnection

/-- An entry that has read the bytes `s` and no FIN. -/
def Entry.Reads (e : Entry) (s : List UInt8) : Prop :=
  ∃ before : List UInt8, 65535 ≤ before.length ∧ Accumulates before s e.phase e.message

variable {e : Entry} {s : List UInt8}

theorem Entry.reads_fresh (phase : e.phase = .readingLength) (room : e.message.length = shellStreamBufferSize) :
    e.Reads [] :=
  have start : e.ctx.scPhase = .readingLength := phase
  ⟨e.message, Nat.le_of_eq room.symm, Accumulates.fresh start e.message⟩

theorem Entry.Reads.feed (reads : e.Reads s) (data : List UInt8) : (e.feed data).Reads (s ++ data) := by
  obtain ⟨before, room, holds⟩ := reads
  have start : Accumulates before s e.ctx.scPhase e.message := holds
  exact ⟨before, room, start.step room data⟩

/-- Three is the code of a stream that broke the framing. -/
theorem Entry.Reads.code_iff (reads : e.Reads s) : shellPhaseCode e.phase = 3 ↔ tracePhase s = .done := by
  obtain ⟨before, -, holds⟩ := reads
  rw [← holds.phase_eq]
  cases e.phase <;> simp [shellPhaseCode]

/-- The FIN is taken exactly behind a request. -/
theorem Entry.Reads.finish_code_iff (reads : e.Reads s) :
    shellPhaseCode e.finish.phase = 2 ↔ ∃ m : List UInt8, m.length < 65536 ∧ CompleteRequest s m.length m := by
  obtain ⟨before, -, holds⟩ := reads
  have start : Accumulates before s e.ctx.scPhase e.message := holds
  constructor
  · intro ready
    obtain ⟨k, accepted⟩ := shellPhaseCode_eq_two ready
    obtain ⟨m, complete⟩ := (start.fin_iff k).mp accepted
    have length : m.length = k := complete.2.1
    exact ⟨m, length ▸ k.isLt, length ▸ complete⟩
  · rintro ⟨m, small, complete⟩
    have accepted : e.finish.phase = .processing ⟨m.length, small⟩ :=
      (start.fin_iff ⟨m.length, small⟩).mpr ⟨m, complete⟩
    rw [accepted]
    rfl

end ShellConnection

namespace ConnectionRuntime

variable {n : Nat} {check : Nat → List UInt8 → UInt8} {accepts : List (Interaction n) → Bool}
  {w after : ConnectionRuntime n} {i : Fin n} {h : Handle} {s : List UInt8}

/-- The stream of the slot `i` has read `s`, its FIN is still to come, and there is an entry or a place for one. -/
structure Reader (w : ConnectionRuntime n) (i : Fin n) (s : List UInt8) : Prop where
  used : (w.slot i).inUse = true
  unfinished : (w.slot i).runtime.receivedFin = false
  usable : w.queue.Usable
  reads : ∀ e, w.adapter.connection.Starts (w.slot i).runtime.streamId e → e.Reads s
  place : w.adapter.connection.entry (w.slot i).runtime.streamId = none →
    w.adapter.connection.ctx.ccNum < shellMaxStreams

/-- Bytes and FINs are dispatched for the slot `i`: at most a send is asked for, and the other
slots and their entries are left alone. -/
structure Aside (w : ConnectionRuntime n) (i : Fin n) (after : ConnectionRuntime n) : Prop where
  streams : Transport.SameStreams w.transport after.transport
  connection : ∀ j, (after.slot j).runtime.connection = (w.slot j).runtime.connection
  flags : ∀ j, j ≠ i → (after.slot j).runtime.receivedFin = (w.slot j).runtime.receivedFin
  entry : ∀ id, id ≠ (w.slot i).runtime.streamId → ∀ e, after.adapter.connection.entry id = some e →
    w.adapter.connection.entry id = some e
  said : after.transport.transcript = w.transport.transcript ∨ ∃ stream slot data fin accepted deliveries,
    after.transport.transcript = w.transport.transcript ++ [.streamSend stream slot data fin accepted deliveries]

theorem Aside.refl (w : ConnectionRuntime n) (i : Fin n) : w.Aside i w :=
  ⟨Transport.SameStreams.refl _, fun _ => rfl, fun _ _ => rfl, fun _ _ _ present => present, Or.inl rfl⟩

/-- Nothing is asked for in the first part. -/
theorem Aside.trans {between : ConnectionRuntime n} (first : w.Aside i between) (second : between.Aside i after)
    (silent : between.transport.transcript = w.transport.transcript) : w.Aside i after := by
  have named : (between.slot i).runtime.streamId = (w.slot i).runtime.streamId := (first.streams i).2.2
  refine ⟨first.streams.trans second.streams, fun j => (second.connection j).trans (first.connection j),
    fun j apart => (second.flags j apart).trans (first.flags j apart), fun id other e present => ?_, ?_⟩
  · exact first.entry id other e (second.entry id (named ▸ other) e present)
  · rw [← silent]
    exact second.said

theorem Reader.bytes (check : Nat → List UInt8 → UInt8) (accepts : List (Interaction n) → Bool) (h : Handle)
    (reader : w.Reader i s) (sound : w.Sound) {data : List UInt8} (nonempty : data ≠ []) {queue : EventQueue}
    (usable : queue.Usable) :
    ((w.dispatchOutcome check accepts h (.authenticatedStreamBytes (w.slot i).runtime.streamId data)).1 = true ↔
      tracePhase (s ++ data) ≠ .done) ∧
    (w.dispatched check accepts h (.authenticatedStreamBytes (w.slot i).runtime.streamId data) queue).Reader i
      (s ++ data) ∧
    w.Aside i (w.dispatched check accepts h (.authenticatedStreamBytes (w.slot i).runtime.streamId data) queue) := by
  have spec := sound.adapter.connection.dispatchAuthenticatedStreamData_spec (w.slot i).runtime.streamId data
  rw [dispatched_bytes sound nonempty]
  simp only [dispatchOutcome, EventQueue.dispatchEvent]
  generalize w.adapter.connection.dispatchAuthenticatedStreamData (w.slot i).runtime.streamId data = result at spec
  cases spec with
  | refused absent full => exact absurd full (Nat.ne_of_lt (reader.place absent))
  | @acted e after starts valid here others =>
    have fed : (e.feed data).Reads (s ++ data) := (reader.reads e starts).feed data
    have quiet : shellPhaseCode (e.feed data).phase ≠ 2 := by
      intro ready
      obtain ⟨k, processing⟩ := shellPhaseCode_eq_two ready
      exact Entry.feed_ne_processing _ nonempty k processing
    refine ⟨?_, ⟨reader.used, reader.unfinished, usable, fun e' starts' => ?_, fun absent => ?_⟩,
      ⟨fun _ => ⟨rfl, rfl, rfl⟩, fun _ => rfl, fun _ _ => rfl, fun id other e' present => ?_, Or.inl rfl⟩⟩
    · simp only [if_neg quiet, decide_eq_true_eq, ne_eq, fed.code_iff]
    · rcases starts' with known | ⟨absent, -⟩
      · obtain rfl : e.feed data = e' := Option.some.inj (here.symm.trans known)
        exact fed
      · cases here.symm.trans absent
    · cases here.symm.trans absent
    · exact (others id other).symm.trans present

theorem Reader.copyEnqueueAndDispatch_eq (check : Nat → List UInt8 → UInt8) (accepts : List (Interaction n) → Bool)
    (h : Handle) (reader : w.Reader i s) (sound : w.Sound) {data : List UInt8}
    (fits : data.length ≤ (w.slot i).runtime.ingressCapacity) :
    ∃ queue : EventQueue, queue.Idle ∧ queue.Usable ∧ w.copyEnqueueAndDispatch check accepts i h data =
      ((w.dispatchOutcome check accepts h (.authenticatedStreamBytes (w.slot i).runtime.streamId data)).1,
        w.dispatched check accepts h (.authenticatedStreamBytes (w.slot i).runtime.streamId data) queue) := by
  have attached : (w.slot i).runtime.attached = true := (sound.transport.bound i reader.used).1
  have pass : ¬ ((w.slot i).runtime.attached = false ∨ (w.slot i).runtime.ingressCapacity < data.length ∨
      w.queue.count ≠ 0 ∨ (w.slot i).runtime.receivedFin = true ∧ 0 < data.length) := by
    rw [attached, reader.unfinished, sound.queue.count_eq]
    simpa using fits
  simp only [copyEnqueueAndDispatch, if_neg pass]
  rcases enqueueAndDispatch_cases check accepts sound.queue h
      (.authenticatedStreamBytes (w.slot i).runtime.streamId data) with ⟨unusable, -⟩ | ⟨queue, idle, -, usable, done⟩
  · exact absurd reader.usable unusable
  · exact ⟨queue, idle, usable, done⟩

/-- The buffers of an event are taken if and only if they do not break the framing. -/
theorem Reader.receiveBuffers (check : Nat → List UInt8 → UInt8) (accepts : List (Interaction n) → Bool) (h : Handle)
    (buffers : List (List UInt8)) (reader : w.Reader i s) (sound : w.Sound) (alive : tracePhase s ≠ .done)
    (fits : ∀ buffer ∈ buffers, buffer.length ≤ (w.slot i).runtime.ingressCapacity) :
    let result := receiveBuffers check accepts i h buffers w
    (result.1 = true ↔ tracePhase (s ++ buffers.flatten) ≠ .done) ∧
      (result.1 = true → result.2.Reader i (s ++ buffers.flatten)) ∧
      w.Aside i result.2 ∧ result.2.transport.transcript = w.transport.transcript := by
  induction buffers generalizing w s with
  | nil =>
    rw [List.flatten_nil, List.append_nil]
    exact ⟨iff_of_true rfl alive, fun _ => reader, Aside.refl w i, rfl⟩
  | cons buffer buffers ih =>
    intro result
    have rest : ∀ other ∈ buffers, other.length ≤ (w.slot i).runtime.ingressCapacity :=
      fun other member => fits other (List.mem_cons_of_mem buffer member)
    by_cases empty : buffer = []
    · have skipped : result = ConnectionRuntime.receiveBuffers check accepts i h buffers w := by
        simp only [result, ConnectionRuntime.receiveBuffers, empty, List.length_nil, if_true]
      rw [skipped, empty, List.flatten_cons, List.nil_append]
      exact ih reader sound alive rest
    · obtain ⟨queue, idle, usable, taken⟩ :=
        reader.copyEnqueueAndDispatch_eq check accepts h sound (fits buffer List.mem_cons_self)
      obtain ⟨verdict, next, aside⟩ := reader.bytes check accepts h sound empty usable
      have after : (w.dispatched check accepts h (.authenticatedStreamBytes (w.slot i).runtime.streamId buffer)
          queue).Sound :=
        sound.micro (Micro.bytes idle empty reader.unfinished usable)
      have transport : (w.dispatched check accepts h (.authenticatedStreamBytes (w.slot i).runtime.streamId buffer)
          queue).transport = w.delivered h (.authenticatedStreamBytes (w.slot i).runtime.streamId buffer) := by
        rw [dispatched_bytes sound empty]
      have long : ¬ buffer.length = 0 := mt List.length_eq_zero_iff.mp empty
      simp only [result, ConnectionRuntime.receiveBuffers, if_neg long, taken, List.flatten_cons]
      generalize w.dispatched check accepts h (.authenticatedStreamBytes (w.slot i).runtime.streamId buffer) queue = v
        at next aside after transport
      generalize (w.dispatchOutcome check accepts h
        (.authenticatedStreamBytes (w.slot i).runtime.streamId buffer)).1 = accepted at verdict
      have quiet : v.transport.transcript = w.transport.transcript := by
        rw [transport]
        rfl
      cases accepted with
      | false =>
        have broken : tracePhase (s ++ buffer) = .done := by
          by_contra unbroken
          cases verdict.mpr unbroken
        refine ⟨iff_of_false Bool.false_ne_true fun unbroken => unbroken ?_,
          fun taken => absurd taken Bool.false_ne_true, aside, quiet⟩
        rw [← List.append_assoc]
        exact tracePhase_done_append broken _
      | true =>
        have capacity : ∀ other ∈ buffers, other.length ≤ (v.slot i).runtime.ingressCapacity := by
          rw [ConnectionRuntime.slot, transport]
          exact rest
        obtain ⟨all, settled, asideAll, silent⟩ := ih next after (verdict.mp rfl) capacity
        rw [← List.append_assoc]
        exact ⟨all, settled, aside.trans asideAll quiet, silent.trans quiet⟩

/-- Behind the FIN only empty buffers are taken, and nothing is done about them. -/
theorem receiveBuffers_finished (check : Nat → List UInt8 → UInt8) (accepts : List (Interaction n) → Bool) (h : Handle)
    (finished : (w.slot i).runtime.receivedFin = true) (buffers : List (List UInt8)) :
    receiveBuffers check accepts i h buffers w = (decide (buffers.flatten = []), w) := by
  induction buffers with
  | nil => rfl
  | cons buffer buffers ih =>
    rw [receiveBuffers]
    by_cases empty : buffer = []
    · simp only [empty, List.length_nil, if_true, List.flatten_cons, List.nil_append]
      exact ih
    · have long : 0 < buffer.length := List.length_pos_iff.mpr empty
      have refused : w.copyEnqueueAndDispatch check accepts i h buffer = (false, w) :=
        if_pos (Or.inr (Or.inr (Or.inr ⟨finished, long⟩)))
      simp only [if_neg (Nat.ne_of_gt long), refused, List.flatten_cons, List.append_eq_nil_iff, empty, false_and,
        decide_false]

theorem FinDispatched.slot_other {outcome : Bool × Adapter × Transport n}
    (dispatched : FinDispatched accepts w i h outcome) {j : Fin n} (apart : j ≠ i) :
    outcome.2.2.slots j = w.transport.slots j := by
  cases dispatched with
  | quiet => rfl
  | sent => exact Function.update_of_ne apart ..
  | refused => exact Function.update_of_ne apart ..

/-- The FIN of a stream is taken if and only if the stream is a request. -/
theorem Reader.onFin (check : Nat → List UInt8 → UInt8) (accepts : List (Interaction n) → Bool) (h : Handle)
    (reader : w.Reader i s) (sound : w.Sound) {settled : Handle → Prop} {count : Nat}
    (service : w.Service settled count) :
    let result := w.onFin check accepts i h
    (result.1 = true ↔ ∃ m : List UInt8, m.length < 65536 ∧ CompleteRequest s m.length m) ∧
      (result.2.slot i).runtime.receivedFin = result.1 ∧ w.Aside i result.2 := by
  intro result
  have pieces : Micros check accepts i h w result.2 := onFin_micros sound.queue
  have spec := sound.adapter.connection.onAuthenticatedStreamFin_spec (w.slot i).runtime.streamId
  have dispatched := sound.finDispatched check accepts service.distinct reader.used
    (fun _ => service.idle sound reader.used reader.unfinished) h
  obtain ⟨queue, -, done⟩ := sound.onFin_eq check accepts reader.used reader.unfinished reader.usable h
  have shape : result = ((w.dispatchOutcome check accepts h
      (.authenticatedStreamFin (w.slot i).runtime.streamId)).1, w.finWith i queue
        (w.dispatchOutcome check accepts h (.authenticatedStreamFin (w.slot i).runtime.streamId))) := done
  have streams := (sound.micros pieces).2
  have connection := (sound.grows_micros pieces).connection
  have verdict := dispatchOutcome_fin_fst check accepts w h (w.slot i).runtime.streamId
  generalize w.dispatchOutcome check accepts h (.authenticatedStreamFin (w.slot i).runtime.streamId) = outcome
    at dispatched shape verdict
  obtain ⟨entries, -, said⟩ := dispatched.leaves sound
  rw [shape] at streams connection ⊢
  refine ⟨?_, ?_, streams, connection, fun j apart => ?_, fun id other e present => ?_, ?_⟩
  · rw [verdict, decide_eq_true_eq]
    generalize w.adapter.connection.onAuthenticatedStreamFin (w.slot i).runtime.streamId = finished at spec
    cases spec with
    | refused absent full => exact absurd full (Nat.ne_of_lt (reader.place absent))
    | acted starts => exact (reader.reads _ starts).finish_code_iff
  · simp only [finWith, ConnectionRuntime.modifyRuntime, slot, Transport.modifyRuntime_self]
  · simp only [finWith, ConnectionRuntime.modifyRuntime, slot, Transport.modifyRuntime_other _ apart,
      dispatched.slot_other apart]
  · exact (Delivered.entry_other spec other).symm.trans (entries id e present)
  · rcases said with same | ⟨k, message, sendBuffer, len, accepted, -, same⟩
    · exact Or.inl same
    · exact Or.inr ⟨_, _, _, _, _, _, same⟩

/-- The slot `i` knows the fragments of its stream: whether a FIN was among them and, as long
as there was none, what its entry has read, if there is one. -/
structure Heeds (w : ConnectionRuntime n) (i : Fin n) (fragments : List StreamFragment) : Prop where
  finished : (w.slot i).runtime.receivedFin = true ↔ (splitAtFin fragments).2 ≠ none
  reads : (w.slot i).runtime.receivedFin = false → ∀ e,
    w.adapter.connection.entry (w.slot i).runtime.streamId = some e → e.Reads (splitAtFin fragments).1

/-- The next fragment is taken if and only if the stream conforms with it. -/
theorem Heeds.onMsquicReceive (check : Nat → List UInt8 → UInt8) (accepts : List (Interaction n) → Bool) (h : Handle)
    {fragments : List StreamFragment} (heeds : w.Heeds i fragments) (conforms : Conforms fragments) (sound : w.Sound)
    {settled : Handle → Prop} {count : Nat} (service : w.Service settled count) (used : (w.slot i).inUse = true)
    (usable : w.queue.Usable) (buffers : List (List UInt8)) (fin : Bool)
    (fits : ∀ buffer ∈ buffers, buffer.length ≤ (w.slot i).runtime.ingressCapacity)
    (place : (w.slot i).runtime.receivedFin = false →
      w.adapter.connection.entry (w.slot i).runtime.streamId = none →
        (splitAtFin fragments).1 = [] ∧ w.adapter.connection.ctx.ccNum < shellMaxStreams) :
    let result := w.onMsquicReceive check accepts i h buffers fin
    (result.1 = true ↔ Conforms (fragments ++ [⟨buffers.flatten, fin⟩])) ∧
      (result.1 = true → result.2.Heeds i (fragments ++ [⟨buffers.flatten, fin⟩])) ∧ w.Aside i result.2 := by
  intro result
  cases flag : (w.slot i).runtime.receivedFin with
  | true =>
    have ended := heeds.finished.mp flag
    obtain ⟨after, behind⟩ := Option.ne_none_iff_exists'.mp ended
    have again : w.Heeds i (fragments ++ [⟨buffers.flatten, fin⟩]) := by
      refine ⟨iff_of_true flag ?_, fun unfinished => ?_⟩
      · rw [splitAtFin_append_ended behind]
        exact Option.some_ne_none _
      · rw [flag] at unfinished
        cases unfinished
    have shape : result = (decide (buffers.flatten = []), w) := by
      have attached : ¬ (w.slot i).runtime.attached = false := by
        rw [slot, (sound.transport.bound i used).1]
        exact Bool.true_eq_false.mp
      have nothing : w.onFin check accepts i h = (true, w) := by
        rw [ConnectionRuntime.onFin, if_neg attached, if_pos flag]
      simp only [result, ConnectionRuntime.onMsquicReceive, receiveBuffers_finished check accepts h flag]
      by_cases empty : buffers.flatten = []
      · simp only [decide_eq_true empty, nothing, ite_self]
      · rw [decide_eq_false empty]
    rw [shape]
    refine ⟨?_, fun _ => again, Aside.refl w i⟩
    rw [conforms_append_ended_iff ended conforms, decide_eq_true_eq]
  | false =>
    have unended : (splitAtFin fragments).2 = none := by
      by_contra ended
      rw [heeds.finished.mpr ended] at flag
      cases flag
    have alive : tracePhase (splitAtFin fragments).1 ≠ .done := (conforms_open_iff (Prod.ext rfl unended)).mp conforms
    have reader : w.Reader i (splitAtFin fragments).1 := by
      refine ⟨used, flag, usable, fun e starts => ?_, fun absent => (place flag absent).2⟩
      rcases starts with known | ⟨absent, -, phase, room⟩
      · exact heeds.reads flag e known
      · rw [(place flag absent).1]
        exact Entry.reads_fresh phase room
    obtain ⟨verdict, next, aside, silent⟩ := reader.receiveBuffers check accepts h buffers sound alive fits
    have pieces : Micros check accepts i h w (ConnectionRuntime.receiveBuffers check accepts i h buffers w).2 :=
      receiveBuffers_micros buffers sound.queue
    have soundAfter := (sound.micros pieces).1
    have serviceAfter := service.micros sound used pieces
    have split := splitAtFin_append_open unended ⟨buffers.flatten, fin⟩
    simp only [result, ConnectionRuntime.onMsquicReceive]
    generalize ConnectionRuntime.receiveBuffers check accepts i h buffers w = received at *
    obtain ⟨done, v⟩ := received
    cases done with
    | false =>
      have broken : tracePhase ((splitAtFin fragments).1 ++ buffers.flatten) = .done := by
        by_contra more
        cases verdict.mpr more
      refine ⟨iff_of_false Bool.false_ne_true fun fine => ?_, fun taken => absurd taken Bool.false_ne_true, aside⟩
      cases fin with
      | false => exact (conforms_open_iff split).mp fine broken
      | true =>
        obtain ⟨m, small, complete⟩ := (conforms_fin_iff split).mp fine
        exact complete.tracePhase_ne_done small broken
    | true =>
      have reading := next rfl
      cases fin with
      | false =>
        refine ⟨iff_of_true rfl ((conforms_open_iff split).mpr (verdict.mp rfl)), fun _ => ⟨?_, fun _ e known => ?_⟩,
          aside⟩
        · rw [split]
          exact iff_of_false (Bool.eq_false_iff.mp reading.unfinished) fun ended => ended rfl
        · rw [split]
          exact reading.reads e (Or.inl known)
      | true =>
        obtain ⟨taken, told, asideFin⟩ := reading.onFin check accepts h soundAfter serviceAfter
        simp only [Bool.true_eq_false, if_false]
        generalize v.onFin check accepts i h = outcome at taken told asideFin
        refine ⟨taken.trans (conforms_fin_iff split).symm, fun accepted => ⟨?_, fun unfinished => ?_⟩,
          aside.trans asideFin silent⟩
        · rw [split]
          exact iff_of_true (told.trans accepted) (Option.some_ne_none _)
        · cases (told.trans accepted).symm.trans unfinished

end ConnectionRuntime

end Ism
