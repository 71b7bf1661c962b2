import Ism.Adapter

namespace Ism

/-- The events of the shell's queue. Bytes are carried by value: an event is taken
out before the buffer behind its pointer is written again. -/
inductive ShellEvent
  | authenticatedStreamBytes (streamId : UInt64) (data : List UInt8)
  | readyResponse (streamId : UInt64)
  | sendComplete (streamId : UInt64) (len : Nat) (dropped : Bool)
  | streamReset (streamId : UInt64)
  | authenticatedStreamFin (streamId : UInt64)
  deriving DecidableEq, Repr

/-- A ring of events. Storage that is `none` is a null pointer; all indices are 32 bits wide. -/
structure EventQueue where
  events : Option (List ShellEvent)
  capacity : Nat
  head : Nat
  count : Nat

namespace EventQueue

def init (events : Option (List ShellEvent)) (capacity : Nat) : EventQueue := ⟨events, capacity, 0, 0⟩

def enqueue (queue : EventQueue) (event : ShellEvent) : Bool × EventQueue :=
  match queue.events with
  | none => (false, queue)
  | some events =>
    if queue.capacity = 0 ∨ queue.capacity ≤ queue.count then (false, queue)
    else
      let tail := (queue.head + queue.count) % 2 ^ 32
      let tail := if queue.capacity ≤ tail then tail - queue.capacity else tail
      (true, { queue with events := some (events.set tail event), count := (queue.count + 1) % 2 ^ 32 })

def len (queue : EventQueue) : Nat := queue.count

/-- The event carries the first `len` octets behind `data`; no pointer is fine when there are none. -/
def enqueueAuthenticatedStreamBytes (queue : EventQueue) (streamId : UInt64) (data : Option (List UInt8)) (len : Nat) :
    Bool × EventQueue :=
  if data = none ∧ 0 < len then (false, queue)
  else queue.enqueue (.authenticatedStreamBytes streamId ((data.getD []).take len))

def enqueueAuthenticatedStreamFin (queue : EventQueue) (streamId : UInt64) : Bool × EventQueue :=
  queue.enqueue (.authenticatedStreamFin streamId)

def enqueueReadyResponse (queue : EventQueue) (streamId : UInt64) : Bool × EventQueue :=
  queue.enqueue (.readyResponse streamId)

def enqueueSendComplete (queue : EventQueue) (streamId : UInt64) (responseLen : Nat) (dropped : Bool) :
    Bool × EventQueue :=
  queue.enqueue (.sendComplete streamId responseLen dropped)

def enqueueStreamReset (queue : EventQueue) (streamId : UInt64) : Bool × EventQueue :=
  queue.enqueue (.streamReset streamId)

def dequeue (queue : EventQueue) : Option ShellEvent × EventQueue :=
  match queue.events with
  | none => (none, queue)
  | some events =>
    if queue.capacity = 0 ∨ queue.count = 0 then (none, queue)
    else
      let event := events[queue.head]?
      let head := (queue.head + 1) % 2 ^ 32
      let head := if queue.capacity ≤ head then 0 else head
      (event, { queue with head := head, count := queue.count - 1 })

section Dispatch

variable {σ : Type} (check : Nat → List UInt8 → UInt8) (send : Option (SendCall → σ → Bool × σ))

/-- What an event does once it is out of the queue. -/
def dispatchEvent (adapter : Adapter) (ctx : σ) : ShellEvent → Bool × Adapter × σ
  | .authenticatedStreamBytes streamId data =>
    let (phase, connection) := adapter.connection.dispatchAuthenticatedStreamData streamId data
    let adapter := { adapter with connection := connection }
    if phase = 2 then
      let (len, adapter, ctx) := adapter.prepareReadyResponse check send streamId ctx
      (decide (0 < len), adapter, ctx)
    else (decide (phase ≠ 3), adapter, ctx)
  | .authenticatedStreamFin streamId =>
    let (phase, adapter, ctx) := adapter.onAuthenticatedStreamFin check send streamId ctx
    (decide (phase = 2), adapter, ctx)
  | .readyResponse streamId => (true, (adapter.prepareReadyResponse check send streamId ctx).2)
  | .sendComplete streamId len dropped =>
    let (completed, adapter) := adapter.onSendComplete streamId len dropped
    (completed, adapter, ctx)
  | .streamReset streamId =>
    let (reset, adapter) := adapter.onStreamReset streamId
    (reset, adapter, ctx)

def dispatchOne (queue : EventQueue) (adapter : Adapter) (ctx : σ) : Bool × EventQueue × Adapter × σ :=
  match queue.dequeue with
  | (none, queue) => (false, queue, adapter, ctx)
  | (some event, queue) =>
    let (done, adapter, ctx) := dispatchEvent check send adapter ctx event
    (done, queue, adapter, ctx)

/-- `left` is how far `dispatched` is from the limit. -/
def dispatchAllLoop : Nat → Nat → EventQueue → Adapter → σ → Nat × EventQueue × Adapter × σ
  | 0, dispatched, queue, adapter, ctx => (dispatched, queue, adapter, ctx)
  | left + 1, dispatched, queue, adapter, ctx =>
    if 0 < queue.len then
      match dispatchOne check send queue adapter ctx with
      | (false, queue, adapter, ctx) => (dispatched, queue, adapter, ctx)
      | (true, queue, adapter, ctx) => dispatchAllLoop left (dispatched + 1) queue adapter ctx
    else (dispatched, queue, adapter, ctx)

/-- The number of events dispatched without failure. -/
def dispatchAll (queue : EventQueue) (adapter : Adapter) (ctx : σ) (maxEvents : Nat) :
    Nat × EventQueue × Adapter × σ :=
  dispatchAllLoop check send maxEvents 0 queue adapter ctx

end Dispatch

end EventQueue

/-- Something that reached a stream, tagged with where it came from. -/
inductive Delivery (τ : Type)
  | bytes (source : τ) (data : List UInt8)
  | fin (source : τ)
  deriving DecidableEq, Repr

section Histories

variable {τ : Type}

def Delivery.data : Delivery τ → List UInt8
  | .bytes _ data => data
  | .fin _ => []

def Delivery.source : Delivery τ → τ
  | .bytes source _ => source
  | .fin source => source

/-- The history of every stream after one more delivery: a stream that is not in the
table starts over. -/
def Adapter.deliver (adapter : Adapter) (histories : UInt64 → List (Delivery τ)) (id : UInt64) (delivery : Delivery τ) :
    UInt64 → List (Delivery τ) :=
  Function.update histories id
    (if adapter.connection.findStream id = none then [delivery] else histories id ++ [delivery])

/-- The histories after an event that comes from `source`. -/
def ShellEvent.histories (source : τ) (adapter : Adapter) (before : UInt64 → List (Delivery τ)) :
    ShellEvent → UInt64 → List (Delivery τ)
  | .authenticatedStreamBytes streamId data => adapter.deliver before streamId (.bytes source data)
  | .authenticatedStreamFin streamId => adapter.deliver before streamId (.fin source)
  | _ => before

end Histories

end Ism
