import Ism.Runtime

namespace Ism

/-- The events of a connection callback. A started stream comes with what `GetParam`
answers for its ID. -/
inductive ConnectionEvent
  | peerStreamStarted (stream : Handle) (streamId : Option UInt64)
  | shutdownComplete
  | other
  deriving DecidableEq, Repr

namespace ConnectionRuntime

variable {n : Nat}

def init (configuration : Handle) (adapter : Adapter) (queue : EventQueue) (ingressCapacities : Fin n → Nat) :
    ConnectionRuntime n where
  configuration := configuration
  adapter := adapter
  queue := queue
  transport := { slots := fun i => StreamSlot.init (ingressCapacities i), transcript := [], histories := fun _ => [] }

def setSlot (w : ConnectionRuntime n) (i : Fin n) (slot : StreamSlot) : ConnectionRuntime n :=
  { w with transport := w.transport.setSlot i slot }

def releaseSlot (w : ConnectionRuntime n) (i : Fin n) : ConnectionRuntime n :=
  let slot := w.slot i
  let w := if slot.stream ≠ 0 then w.say (.streamClose slot.stream) else w
  w.setSlot i
    { runtime := RuntimeStream.init false 0 slot.ingressCapacity
      ingressCapacity := slot.ingressCapacity, stream := 0, inUse := false }

/-- The first slot that is free and has an ingress buffer. -/
def freeSlot (w : ConnectionRuntime n) : Option (Fin n) :=
  (List.finRange n).find? fun i => !(w.slot i).inUse && decide (0 < (w.slot i).ingressCapacity)

def allocateSlot (w : ConnectionRuntime n) (stream : Handle) (streamId : Option UInt64) :
    Option (Fin n) × ConnectionRuntime n :=
  if stream = 0 then (none, w)
  else
    match streamId with
    | none => (none, w)
    | some id =>
      match w.freeSlot with
      | none => (none, w)
      | some i =>
        let slot := w.slot i
        (some i, w.setSlot i
          { runtime := { RuntimeStream.init true id slot.ingressCapacity with stream := stream }
            ingressCapacity := slot.ingressCapacity, stream := stream, inUse := true })

def acceptConnection (w : ConnectionRuntime n) (connection : Handle) (configured : QuicStatus) :
    QuicStatus × ConnectionRuntime n :=
  if w.configuration = 0 ∨ connection = 0 then (.invalidParameter, w)
  else (configured, (w.say (.setConnectionHandler connection)).say (.connectionSetConfiguration connection))

def connectionCallback (w : ConnectionRuntime n) (connection : Handle) :
    ConnectionEvent → QuicStatus × ConnectionRuntime n
  | .peerStreamStarted stream streamId =>
    match w.allocateSlot stream streamId with
    | (none, w) => (.invalidState, if stream ≠ 0 then w.say (.streamClose stream) else w)
    | (some i, w) =>
      let w := w.modifyRuntime i fun runtime => { runtime with connection := connection }
      (.success, w.say (.setStreamHandler stream i))
  | .shutdownComplete => (.success, if connection ≠ 0 then w.say (.connectionClose connection) else w)
  | .other => (.success, w)

section Run

variable (check : Nat → List UInt8 → UInt8) (accepts : List (Interaction n) → Bool)

def streamCallback (w : ConnectionRuntime n) (stream : Handle) (i : Fin n) (event : StreamEvent n) :
    QuicStatus × ConnectionRuntime n :=
  match w.runtimeStreamCallback check accepts i stream event with
  | (status, w) =>
    if status = .success ∧ event = .shutdownComplete then (status, w.releaseSlot i) else (status, w)

end Run

end ConnectionRuntime

def registeredStep {n : Nat} (stream : Handle) (current : Option (Fin n)) : Interaction n → Option (Fin n)
  | .setStreamHandler handle slot => if handle = stream then some slot else current
  | .streamClose handle => if handle = stream then none else current
  | _ => current

/-- The slot that MsQuic passes to the callbacks of a stream: the last one registered
for the stream, until the stream is closed. -/
def registered {n : Nat} (stream : Handle) (transcript : List (Interaction n)) : Option (Fin n) :=
  transcript.foldl (registeredStep stream) none

/-- A callback of MsQuic. The callbacks of all connections and streams are serialized. -/
inductive Callback (n : Nat)
  | newConnection (connection : Handle) (configured : QuicStatus)
  | connection (connection : Handle) (event : ConnectionEvent)
  | stream (stream : Handle) (event : StreamEvent n)

namespace ConnectionRuntime

variable {n : Nat} (check : Nat → List UInt8 → UInt8) (accepts : List (Interaction n) → Bool)

/-- One callback. MsQuic has no one to call for a stream without a registered slot. -/
def step (w : ConnectionRuntime n) : Callback n → ConnectionRuntime n
  | .newConnection connection configured => (w.acceptConnection connection configured).2
  | .connection connection event =>
    match event with
    | .peerStreamStarted stream _ => ((w.say (.streamStarted connection stream)).connectionCallback connection event).2
    | _ => (w.connectionCallback connection event).2
  | .stream stream event =>
    match registered stream w.transport.transcript with
    | some i => ((w.say (.streamCallback stream event)).streamCallback check accepts stream i event).2
    | none => w

def run (w : ConnectionRuntime n) (callbacks : List (Callback n)) : ConnectionRuntime n :=
  callbacks.foldl (fun w callback => w.step check accepts callback) w

end ConnectionRuntime

end Ism
