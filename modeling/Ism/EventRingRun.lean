import Ism.EventRing
import Ism.Responder

namespace Ism

open Lib

namespace EventQueue

section Dispatch

variable {queue : EventQueue} {pending : List ShellEvent}
variable {σ : Type} (check : Nat → List UInt8 → UInt8) (send : Option (SendCall → σ → Bool × σ))

/-- The events that `dispatchAll` takes out, the one whose dispatch fails included. -/
def dispatchTaken : Nat → EventQueue → Adapter → σ → List ShellEvent
  | 0, _, _, _ => []
  | left + 1, queue, adapter, ctx =>
    if 0 < queue.len then
      match dispatchOne check send queue adapter ctx with
      | (false, _) => queue.dequeue.1.toList
      | (true, after, adapter, ctx) => queue.dequeue.1.toList ++ dispatchTaken left after adapter ctx
    else []

/-- Whether each of a list of events, dispatched in turn, succeeds. -/
def dispatchAnswers (adapter : Adapter) (ctx : σ) : List ShellEvent → List Bool
  | [] => []
  | event :: events =>
    let (done, adapter, ctx) := dispatchEvent check send adapter ctx event
    done :: dispatchAnswers adapter ctx events

theorem dispatchAnswers_length (adapter : Adapter) (ctx : σ) (events : List ShellEvent) :
    (dispatchAnswers check send adapter ctx events).length = events.length := by
  induction events generalizing adapter ctx with
  | nil => rfl
  | cons event events ih => exact congrArg Nat.succ (ih _ _)

/-- The loop takes the oldest events and counts those that succeed. It stops at the limit, at the
end of the queue, or behind the first event that fails. -/
theorem Holds.dispatchAllLoop (holds : queue.Holds pending) (left dispatched : Nat) (adapter : Adapter) (ctx : σ) :
    let result := dispatchAllLoop check send left dispatched queue adapter ctx
    let taken := dispatchTaken check send left queue adapter ctx
    ∃ rest n, pending = taken ++ rest ∧ result.2.1.Holds rest ∧ result.2.1.capacity = queue.capacity ∧
      result.1 = dispatched + n ∧ taken.length ≤ left ∧
      (dispatchAnswers check send adapter ctx taken = List.replicate n true ∧ n = min left pending.length ∨
        dispatchAnswers check send adapter ctx taken = List.replicate n true ++ [false]) := by
  induction left generalizing queue pending dispatched adapter ctx with
  | zero => exact ⟨pending, 0, rfl, holds, rfl, rfl, Nat.le_refl 0, Or.inl ⟨rfl, (Nat.zero_min _).symm⟩⟩
  | succ left ih =>
    cases pending with
    | nil =>
      have stop : ¬ 0 < queue.len := Nat.not_lt.mpr (Nat.le_of_eq holds.count_eq)
      simp only [EventQueue.dispatchAllLoop, dispatchTaken, if_neg stop]
      exact ⟨[], 0, rfl, holds, trivial, rfl, Nat.zero_le _, Or.inl ⟨rfl, (Nat.min_zero _).symm⟩⟩
    | cons event pending =>
      have more : 0 < queue.len := by
        rw [len, holds.count_eq]
        exact Nat.zero_lt_succ _
      obtain ⟨after, taken, kept, capacity, -⟩ := holds.dequeue_cons
      simp only [EventQueue.dispatchAllLoop, dispatchTaken, if_pos more, dispatchOne, taken, Option.toList_some]
      rcases answer : dispatchEvent check send adapter ctx event with ⟨done, adapter', ctx'⟩
      cases done with
      | false =>
        refine ⟨pending, 0, rfl, kept, capacity, rfl, Nat.succ_le_succ (Nat.zero_le _), Or.inr ?_⟩
        simp only [dispatchAnswers, answer, List.replicate_zero, List.nil_append]
      | true =>
        obtain ⟨rest, n, split, holds', capacity', count, bounded, answers⟩ := ih kept (dispatched + 1) adapter' ctx'
        refine ⟨rest, n + 1, congrArg (event :: ·) split, holds', capacity'.trans capacity, ?_,
          Nat.succ_le_succ bounded, ?_⟩
        · rw [count, Nat.add_assoc, Nat.add_comm 1 n]
        · simp only [dispatchAnswers, answer, List.replicate_succ, List.cons_append, List.length_cons,
            List.cons_inj_right]
          exact answers.imp_left fun ⟨same, least⟩ => ⟨same, by rw [least, Nat.succ_min_succ]⟩

end Dispatch

end EventQueue

/-- The calls that put an event into the queue. -/
inductive EnqueueCall
  | authenticatedStreamBytes (streamId : UInt64) (data : Option (List UInt8)) (len : Nat)
  | authenticatedStreamFin (streamId : UInt64)
  | readyResponse (streamId : UInt64)
  | sendComplete (streamId : UInt64) (responseLen : Nat) (dropped : Bool)
  | streamReset (streamId : UInt64)
  deriving DecidableEq, Repr

/-- The event of a call that is well formed: octets need a pointer. -/
def EnqueueCall.event : EnqueueCall → Option ShellEvent
  | .authenticatedStreamBytes streamId data len =>
    if data = none ∧ 0 < len then none else some (.authenticatedStreamBytes streamId ((data.getD []).take len))
  | .authenticatedStreamFin streamId => some (.authenticatedStreamFin streamId)
  | .readyResponse streamId => some (.readyResponse streamId)
  | .sendComplete streamId responseLen dropped => some (.sendComplete streamId responseLen dropped)
  | .streamReset streamId => some (.streamReset streamId)

namespace EventQueue

def enqueueCall (queue : EventQueue) : EnqueueCall → Bool × EventQueue
  | .authenticatedStreamBytes streamId data len => queue.enqueueAuthenticatedStreamBytes streamId data len
  | .authenticatedStreamFin streamId => queue.enqueueAuthenticatedStreamFin streamId
  | .readyResponse streamId => queue.enqueueReadyResponse streamId
  | .sendComplete streamId responseLen dropped => queue.enqueueSendComplete streamId responseLen dropped
  | .streamReset streamId => queue.enqueueStreamReset streamId

theorem enqueueCall_malformed (queue : EventQueue) {call : EnqueueCall} (malformed : call.event = none) :
    queue.enqueueCall call = (false, queue) := by
  cases call with
  | authenticatedStreamBytes streamId data len =>
    simp only [EnqueueCall.event, ite_eq_left_iff, reduceCtorEq, imp_false, not_not] at malformed
    exact if_pos malformed
  | _ => cases malformed

theorem enqueueCall_eq (queue : EventQueue) {call : EnqueueCall} {event : ShellEvent}
    (formed : call.event = some event) : queue.enqueueCall call = queue.enqueue event := by
  cases call with
  | authenticatedStreamBytes streamId data len =>
    simp only [EnqueueCall.event] at formed
    split_ifs at formed with null
    cases formed
    exact if_neg null
  | _ =>
    cases formed
    rfl

end EventQueue

/-- A call on the queue. Each dispatch brings an adapter and a transport of its own, whatever has
become of them since the last one. -/
inductive QueueCall (σ : Type)
  | enqueue (call : EnqueueCall)
  | dequeue
  | dispatchAll (adapter : Adapter) (ctx : σ) (maxEvents : Nat)

/-- A queue with what was accepted and what left it, in order. -/
structure QueueTrace where
  queue : EventQueue
  accepted : List ShellEvent
  departed : List ShellEvent

namespace QueueTrace

variable {σ : Type} (check : Nat → List UInt8 → UInt8) (send : Option (SendCall → σ → Bool × σ))

def start (storage : List ShellEvent) (capacity : Nat) : QueueTrace := ⟨.init (some storage) capacity, [], []⟩

def step (trace : QueueTrace) : QueueCall σ → QueueTrace
  | .enqueue call =>
    let (taken, queue) := trace.queue.enqueueCall call
    ⟨queue, if taken = true then trace.accepted ++ call.event.toList else trace.accepted, trace.departed⟩
  | .dequeue =>
    let (event, queue) := trace.queue.dequeue
    ⟨queue, trace.accepted, trace.departed ++ event.toList⟩
  | .dispatchAll adapter ctx maxEvents =>
    ⟨(trace.queue.dispatchAll check send adapter ctx maxEvents).2.1, trace.accepted,
      trace.departed ++ trace.queue.dispatchTaken check send maxEvents adapter ctx⟩

def run (trace : QueueTrace) (calls : List (QueueCall σ)) : QueueTrace := calls.foldl (step check send) trace

/-- What was accepted has left the queue or waits in it, and all of it in order. -/
structure Ordered (trace : QueueTrace) (capacity : Nat) (pending : List ShellEvent) : Prop where
  holds : trace.queue.Holds pending
  capacity_eq : trace.queue.capacity = capacity
  accepted_eq : trace.accepted = trace.departed ++ pending

variable {trace : QueueTrace} {capacity : Nat} {pending : List ShellEvent}

theorem Ordered.enqueue (ordered : trace.Ordered capacity pending) (free : pending.length < capacity)
    (fits : trace.queue.head + pending.length < 2 ^ 32) {call : EnqueueCall} {event : ShellEvent}
    (formed : call.event = some event) :
    (trace.step check send (.enqueue call)).Ordered capacity (pending ++ [event]) ∧
      (trace.step check send (.enqueue call)).queue.head = trace.queue.head ∧
      (trace.step check send (.enqueue call)).departed = trace.departed := by
  obtain ⟨holds, rfl, accepted⟩ := ordered
  obtain ⟨after, taken, kept, same, head⟩ := holds.enqueue_room free fits event
  simp only [step, trace.queue.enqueueCall_eq formed, taken, formed, Option.toList_some, if_true, accepted,
    List.append_assoc]
  exact ⟨⟨kept, same, rfl⟩, head, trivial⟩

theorem Ordered.dequeue {event : ShellEvent} (ordered : trace.Ordered capacity (event :: pending)) :
    (trace.step check send .dequeue).Ordered capacity pending ∧
      (trace.step check send .dequeue).queue.head = wrap capacity (trace.queue.head + 1) ∧
      (trace.step check send .dequeue).departed = trace.departed ++ [event] := by
  obtain ⟨holds, rfl, accepted⟩ := ordered
  obtain ⟨after, taken, kept, same, head⟩ := holds.dequeue_cons
  simp only [step, taken, Option.toList_some]
  exact ⟨⟨kept, same, by rw [accepted, List.append_assoc, List.singleton_append]⟩, head, trivial⟩

variable {check send}

theorem step_refused {call : EnqueueCall} (refused : trace.queue.enqueueCall call = (false, trace.queue)) :
    trace.step check send (.enqueue call) = trace := by
  simp only [step, refused, Bool.false_eq_true, if_false]

/-- Up to half of the index range the tail never runs over. -/
theorem Ordered.step (ordered : trace.Ordered capacity pending) (half : capacity ≤ 2 ^ 31) (call : QueueCall σ) :
    ∃ after, (trace.step check send call).Ordered capacity after := by
  cases call with
  | enqueue call =>
    cases formed : call.event with
    | none =>
      rw [step_refused (trace.queue.enqueueCall_malformed formed)]
      exact ⟨pending, ordered⟩
    | some event =>
      have bounded := ordered.capacity_eq ▸ ordered.holds.length_le
      have inside := ordered.capacity_eq ▸ ordered.holds.head_lt
      rcases Nat.eq_or_lt_of_le bounded with full | free
      · have refused := ordered.holds.enqueue_full (full.trans ordered.capacity_eq.symm) event
        rw [step_refused ((trace.queue.enqueueCall_eq formed).trans refused)]
        exact ⟨pending, ordered⟩
      · exact ⟨_, (ordered.enqueue check send free (by omega) formed).1⟩
  | dequeue =>
    cases pending with
    | nil =>
      refine ⟨[], ?_⟩
      simpa only [QueueTrace.step, ordered.holds.dequeue_nil, Option.toList_none, List.append_nil] using ordered
    | cons event pending => exact ⟨pending, (ordered.dequeue check send).1⟩
  | dispatchAll adapter ctx maxEvents =>
    obtain ⟨holds, rfl, accepted⟩ := ordered
    obtain ⟨rest, n, split, kept, same, -⟩ := holds.dispatchAllLoop check send maxEvents 0 adapter ctx
    refine ⟨rest, kept, same, ?_⟩
    simp only [QueueTrace.step]
    rw [accepted, List.append_assoc, ← split]

theorem Ordered.run (ordered : trace.Ordered capacity pending) (half : capacity ≤ 2 ^ 31) (calls : List (QueueCall σ)) :
    ∃ after, (trace.run check send calls).Ordered capacity after :=
  List.foldlRecOn calls _ (motive := fun trace : QueueTrace => ∃ after, trace.Ordered capacity after) ⟨pending, ordered⟩
    fun _ ⟨_, before⟩ call _ => before.step half call

section Overrun

variable (check send)

theorem run_append (trace : QueueTrace) (before after : List (QueueCall σ)) :
    trace.run check send (before ++ after) = (trace.run check send before).run check send after := List.foldl_append

variable {call : EnqueueCall} {event : ShellEvent} (formed : call.event = some event)

include formed

/-- Events that leave as they come move the head on. -/
theorem Ordered.pairs (ordered : trace.Ordered capacity []) (n : Nat) (inside : trace.queue.head + n < capacity) :
    let after := trace.run check send (List.replicate n [.enqueue call, .dequeue]).flatten
    after.Ordered capacity [] ∧ after.queue.head = trace.queue.head + n ∧
      after.departed = trace.departed ++ List.replicate n event := by
  induction n generalizing trace with
  | zero => exact ⟨ordered, rfl, (List.append_nil _).symm⟩
  | succ n ih =>
    have free : 0 < capacity := Nat.lt_of_le_of_lt (Nat.zero_le _) inside
    have fits : trace.queue.head < 2 ^ 32 := Nat.lt_trans ordered.holds.head_lt ordered.holds.capacity_lt
    obtain ⟨entered, head, departed⟩ := ordered.enqueue check send free fits formed
    obtain ⟨left, head', departed'⟩ := entered.dequeue check send
    rw [head, wrap, if_neg (by omega)] at head'
    obtain ⟨done, head'', departed''⟩ := ih left (by omega)
    refine ⟨done, head''.trans (by omega), departed''.trans ?_⟩
    rw [departed', departed, List.append_assoc, List.singleton_append, List.replicate_succ]

theorem Ordered.fill (ordered : trace.Ordered capacity pending) (n : Nat) (free : pending.length + n ≤ capacity)
    (fits : trace.queue.head + pending.length + n ≤ 2 ^ 32) :
    let after := trace.run check send (List.replicate n (.enqueue call))
    after.Ordered capacity (pending ++ List.replicate n event) ∧ after.queue.head = trace.queue.head ∧
      after.departed = trace.departed := by
  induction n generalizing trace pending with
  | zero => exact ⟨(List.append_nil pending).symm ▸ ordered, rfl, rfl⟩
  | succ n ih =>
    obtain ⟨entered, head, departed⟩ := ordered.enqueue check send (by omega) (by omega) formed
    obtain ⟨done, head', departed'⟩ := ih entered (by simp; omega) (by simp; omega)
    refine ⟨?_, head'.trans head, departed'.trans departed⟩
    rwa [List.append_assoc, List.singleton_append, ← List.replicate_succ] at done

/-- One event too many takes the place of the second oldest, which never leaves the queue. -/
theorem Ordered.overrun {first second : ShellEvent} (ordered : trace.Ordered capacity (first :: second :: pending))
    (free : pending.length + 2 < capacity) (last : trace.queue.head + 1 = capacity)
    (beyond : trace.queue.head + (pending.length + 2) = 2 ^ 32) (other : event ≠ second) :
    let after := trace.run check send [.enqueue call, .dequeue, .dequeue]
    ¬ after.departed <+: after.accepted := by
  obtain ⟨holds, rfl, accepted⟩ := ordered
  obtain ⟨a, b, c, entered, oldest, newest⟩ := holds.enqueue_overrun free last beyond event
  have outcome : trace.run check send [.enqueue call, .dequeue, .dequeue] =
      ⟨c, trace.accepted ++ [event], trace.departed ++ [first] ++ [event]⟩ := by
    simp only [QueueTrace.run, List.foldl_cons, List.foldl_nil, QueueTrace.step, trace.queue.enqueueCall_eq formed,
      entered, oldest, newest, if_true, Option.toList_some, formed]
  rw [outcome]
  simp only [accepted, List.append_assoc, List.cons_append, List.nil_append, List.prefix_append_right_inj,
    List.cons_prefix_cons]
  exact fun same => other same.2.1

end Overrun

/-- Events that leave as they come bring the head to the last cell, and the queue then takes events
until its tail index runs over. -/
def overrunCalls (capacity : Nat) : List (QueueCall σ) :=
  (List.replicate (capacity - 1) [.enqueue (.readyResponse 0), .dequeue]).flatten ++
    [.enqueue (.readyResponse 0), .enqueue (.streamReset 0)] ++
    List.replicate (2 ^ 32 - capacity - 1) (.enqueue (.readyResponse 0)) ++
    [.enqueue (.readyResponse 0), .dequeue, .dequeue]

variable (check send) in
/-- Past half of the index range, the events that leave the queue need not be those accepted. -/
theorem overrunCalls_lose {storage : List ShellEvent} (past : 2 ^ 31 < capacity) (small : capacity < 2 ^ 32)
    (room : capacity ≤ storage.length) :
    let trace := (start storage capacity).run check send (overrunCalls capacity)
    ¬ trace.departed <+: trace.accepted := by
  have ready : (EnqueueCall.readyResponse 0).event = some (.readyResponse 0) := rfl
  have reset : (EnqueueCall.streamReset 0).event = some (.streamReset 0) := rfl
  have empty : (start storage capacity).Ordered capacity [] := ⟨EventQueue.init_holds (by omega) small room, rfl, rfl⟩
  have first : (start storage capacity).queue.head = 0 := rfl
  obtain ⟨n, more⟩ : ∃ n, 2 ^ 32 - capacity - 1 = n := ⟨_, rfl⟩
  obtain ⟨moved, head, -⟩ := empty.pairs check send ready (capacity - 1) (by omega)
  obtain ⟨one, head1, -⟩ := moved.enqueue check send (by simp; omega) (by simp; omega) ready
  obtain ⟨two, head2, -⟩ := one.enqueue check send (by simp; omega) (by simp; omega) reset
  obtain ⟨filled, head3, -⟩ := two.fill check send ready n (by simp; omega) (by simp; omega)
  have lost := filled.overrun check send ready (by simp; omega) (by omega) (by simp; omega) (by decide)
  rw [overrunCalls, more, run_append, run_append, run_append]
  exact lost

end QueueTrace

/-- The ring is a bounded queue for every capacity up to half of the index range: what leaves it is
what it accepted, in order, and it refuses an event only when it is full. For every larger capacity
some calls make it lose an event. -/
theorem event_ring_bounded_fifo {σ : Type} (check : Nat → List UInt8 → UInt8)
    (send : Option (SendCall → σ → Bool × σ)) :
    (∀ (capacity : Nat) (storage : List ShellEvent) (calls : List (QueueCall σ)),
      1 ≤ capacity → capacity ≤ 2 ^ 31 → capacity ≤ storage.length →
      let trace := (QueueTrace.start storage capacity).run check send calls
      let queue := trace.queue
      queue.head < capacity ∧ queue.count ≤ capacity ∧
      ∃ pending, trace.accepted = trace.departed ++ pending ∧ queue.len = pending.length ∧
        queue.dequeue.1 = pending.head? ∧
        (∀ call event, EnqueueCall.event call = some event →
          ((queue.enqueueCall call).1 = false ↔ pending.length = capacity) ∧
          ((queue.enqueueCall call).1 = false → (queue.enqueueCall call).2 = queue)) ∧
        ∀ (adapter : Adapter) (ctx : σ) (maxEvents : Nat),
          let result := queue.dispatchAll check send adapter ctx maxEvents
          let taken := queue.dispatchTaken check send maxEvents adapter ctx
          let answers := EventQueue.dispatchAnswers check send adapter ctx taken
          (∃ rest, pending = taken ++ rest ∧ result.2.1.len = rest.length) ∧ taken.length ≤ maxEvents ∧
            (taken.length = result.1 ∧ answers = List.replicate result.1 true ∨
              taken.length = result.1 + 1 ∧ answers = List.replicate result.1 true ++ [false])) ∧
    (∀ (capacity : Nat) (storage : List ShellEvent),
      2 ^ 31 < capacity → capacity < 2 ^ 32 → capacity ≤ storage.length →
      ∃ calls : List (QueueCall σ), (∀ call ∈ calls, call = .dequeue ∨ ∃ entering, call = .enqueue entering) ∧
        let trace := (QueueTrace.start storage capacity).run check send calls
        ¬ trace.departed <+: trace.accepted) := by
  constructor
  · intro capacity storage calls pos half room trace queue
    have empty : (QueueTrace.start storage capacity).Ordered capacity [] :=
      ⟨EventQueue.init_holds pos (by omega) room, rfl, rfl⟩
    obtain ⟨pending, holds, same, accepted⟩ := empty.run half calls
    have inside : queue.head < capacity := same ▸ holds.head_lt
    have bounded : pending.length ≤ capacity := same ▸ holds.length_le
    refine ⟨inside, holds.count_eq ▸ bounded, pending, accepted, holds.count_eq, ?_, ?_, ?_⟩
    · cases pending with
      | nil => exact congrArg Prod.fst holds.dequeue_nil
      | cons event pending =>
        obtain ⟨after, taken, -⟩ := holds.dequeue_cons
        exact congrArg Prod.fst taken
    · intro call event formed
      rw [queue.enqueueCall_eq formed]
      rcases Nat.eq_or_lt_of_le bounded with full | free
      · rw [holds.enqueue_full (full.trans same.symm)]
        exact ⟨iff_of_true rfl full, fun _ => rfl⟩
      · have fits : queue.head + pending.length < 2 ^ 32 := by omega
        obtain ⟨after, taken, -⟩ := holds.enqueue_room (same.symm ▸ free) fits event
        rw [taken]
        exact ⟨iff_of_false (by simp) (Nat.ne_of_lt free), by simp⟩
    · intro adapter ctx maxEvents
      obtain ⟨rest, n, split, kept, -, count, limit, answers⟩ := holds.dispatchAllLoop check send maxEvents 0
        adapter ctx
      rw [Nat.zero_add] at count
      have length := EventQueue.dispatchAnswers_length check send adapter ctx
        (queue.dispatchTaken check send maxEvents adapter ctx)
      refine ⟨⟨rest, split, kept.count_eq⟩, limit, ?_⟩
      rw [show (queue.dispatchAll check send adapter ctx maxEvents).1 = n from count, ← length]
      rcases answers with ⟨good, -⟩ | bad
      · exact Or.inl ⟨by rw [good, List.length_replicate], good⟩
      · exact Or.inr ⟨by rw [bad, List.length_append, List.length_replicate, List.length_singleton], bad⟩
  · intro capacity storage past small room
    refine ⟨QueueTrace.overrunCalls capacity, ?_, QueueTrace.overrunCalls_lose check send past small room⟩
    simp [QueueTrace.overrunCalls, or_imp, forall_and]

/-- The third event finds the queue full, and the last one takes the place that was freed. -/
def fullQueueCalls : List (QueueCall Unit) :=
  [.enqueue (.authenticatedStreamBytes 1 (some [0, 19]) 2), .enqueue (.readyResponse 2),
    .enqueue (.sendComplete 3 4 false), .dequeue, .enqueue (.streamReset 5)]

theorem event_ring_bounded_fifo_two :
    let trace := (QueueTrace.start (List.replicate 2 (.readyResponse 0)) 2).run checkQuestion none fullQueueCalls
    (trace.departed = [.authenticatedStreamBytes 1 [0, 19]] ∧ trace.queue.head = 1 ∧ trace.queue.count = 2 ∧
      (trace.queue.enqueueCall (.authenticatedStreamFin 7)).2 = trace.queue) ∧
    ∃ calls : List (QueueCall Unit),
      let trace := (QueueTrace.start (List.replicate (2 ^ 31 + 1) (.readyResponse 0)) (2 ^ 31 + 1)).run
        checkQuestion none calls
      ¬ trace.departed <+: trace.accepted := by
  obtain ⟨small, large⟩ := event_ring_bounded_fifo (σ := Unit) checkQuestion none
  obtain ⟨-, -, pending, -, -, -, refused, -⟩ := small 2 (List.replicate 2 (.readyResponse 0)) fullQueueCalls
    (by decide) (by decide) (Nat.le_of_eq List.length_replicate.symm)
  obtain ⟨calls, -, lost⟩ := large (2 ^ 31 + 1) (List.replicate (2 ^ 31 + 1) (.readyResponse 0))
    (by decide) (by decide) (Nat.le_of_eq List.length_replicate.symm)
  have unchanged := (refused (.authenticatedStreamFin 7) _ rfl).2 (by decide +kernel)
  exact ⟨⟨by decide +kernel, by decide +kernel, by decide +kernel, unchanged⟩, calls, lost⟩

end Ism
