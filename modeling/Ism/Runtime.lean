import Ism.EventQueue

namespace Ism

/-- A handle of MsQuic; zero is the null handle. -/
abbrev Handle := Nat

inductive QuicStatus
  | success
  | invalidParameter
  | invalidState
  deriving DecidableEq, Repr

/-- The record of one stream. `attached` says that the pointers to the adapter, the
queue and the API table are set; an ingress buffer without room is a missing one. -/
structure RuntimeStream where
  attached : Bool
  streamId : UInt64
  ingressCapacity : Nat
  receivedFin : Bool
  stream : Handle
  connection : Handle
  responseLen : Nat
  sendInFlight : Bool
  resetPending : Bool

def RuntimeStream.init (attached : Bool) (streamId : UInt64) (ingressCapacity : Nat) : RuntimeStream where
  attached := attached
  streamId := streamId
  ingressCapacity := ingressCapacity
  receivedFin := false
  stream := 0
  connection := 0
  responseLen := 0
  sendInFlight := false
  resetPending := false

/-- The record once its send is over or was refused. -/
def RuntimeStream.clearSend (runtime : RuntimeStream) : RuntimeStream :=
  { runtime with responseLen := 0, sendInFlight := false, resetPending := false }

structure StreamSlot where
  runtime : RuntimeStream
  ingressCapacity : Nat
  stream : Handle
  inUse : Bool

def StreamSlot.init (ingressCapacity : Nat) : StreamSlot where
  runtime := RuntimeStream.init false 0 0
  ingressCapacity := ingressCapacity
  stream := 0
  inUse := false

/-- The events of a stream callback. The client context of a completed send is named
by the slot whose send context it points to. -/
inductive StreamEvent (n : Nat)
  | startComplete (id : UInt64)
  | receive (buffers : List (List UInt8)) (fin : Bool)
  | peerSendShutdown
  | sendComplete (clientContext : Option (Fin n)) (canceled : Bool)
  | peerSendAborted
  | peerReceiveAborted
  | shutdownComplete
  | other
  deriving DecidableEq, Repr

/-- What passes between MsQuic and the shell: callbacks in, calls of the API out. A send
is noted with what had been delivered to its stream ID by then, and by which handles. -/
inductive Interaction (n : Nat)
  | streamStarted (connection stream : Handle)
  | streamCallback (stream : Handle) (event : StreamEvent n)
  | setConnectionHandler (connection : Handle)
  | setStreamHandler (stream : Handle) (slot : Fin n)
  | connectionSetConfiguration (connection : Handle)
  | streamSend (stream : Handle) (slot : Fin n) (data : List UInt8) (fin accepted : Bool)
    (deliveries : List (Delivery Handle))
  | streamClose (stream : Handle)
  | connectionShutdown (connection : Handle) (errorCode : Nat)
  | connectionClose (connection : Handle)
  deriving DecidableEq, Repr

/-- The part of the state that the send callback works on. The transcript and the
histories of the stream IDs stand beside the code. -/
structure Transport (n : Nat) where
  slots : Fin n → StreamSlot
  transcript : List (Interaction n)
  histories : UInt64 → List (Delivery Handle)

namespace Transport

variable {n : Nat}

def modifyRuntime (transport : Transport n) (i : Fin n) (f : RuntimeStream → RuntimeStream) : Transport n :=
  { transport with
    slots := Function.update transport.slots i
      { transport.slots i with runtime := f (transport.slots i).runtime } }

def setSlot (transport : Transport n) (i : Fin n) (slot : StreamSlot) : Transport n :=
  { transport with slots := Function.update transport.slots i slot }

def say (transport : Transport n) (interaction : Interaction n) : Transport n :=
  { transport with transcript := transport.transcript ++ [interaction] }

/- `accepts` is the answer of `StreamSend`, which may depend on everything before it. -/
variable (accepts : List (Interaction n) → Bool)

def runtimeSend (i : Fin n) (call : SendCall) (transport : Transport n) : Bool × Transport n :=
  let runtime := (transport.slots i).runtime
  if runtime.attached = false ∨ runtime.stream = 0 ∨ runtime.streamId ≠ call.streamId ∨ call.len = 0 ∨
      runtime.sendInFlight = true then
    (false, transport)
  else
    let accepted := accepts transport.transcript
    let transport := transport.say (.streamSend runtime.stream i (call.buf.take call.len) call.fin accepted
      (transport.histories call.streamId))
    if accepted = true then
      (true, transport.modifyRuntime i fun runtime =>
        { runtime with responseLen := call.len, sendInFlight := true, resetPending := false })
    else
      (false, transport.modifyRuntime i RuntimeStream.clearSend)

/-- The first slot in use that claims the stream ID sends. -/
def connectionRuntimeSend (call : SendCall) (transport : Transport n) : Bool × Transport n :=
  let slot := (List.finRange n).find? fun i =>
    (transport.slots i).inUse && decide ((transport.slots i).runtime.streamId = call.streamId)
  match slot with
  | some i => transport.runtimeSend accepts i call
  | none => (false, transport)

end Transport

/-- One connection runtime with its adapter and queue. -/
structure ConnectionRuntime (n : Nat) where
  configuration : Handle
  adapter : Adapter
  queue : EventQueue
  transport : Transport n

namespace ConnectionRuntime

variable {n : Nat}

def slot (w : ConnectionRuntime n) (i : Fin n) : StreamSlot := w.transport.slots i

def modifyRuntime (w : ConnectionRuntime n) (i : Fin n) (f : RuntimeStream → RuntimeStream) : ConnectionRuntime n :=
  { w with transport := w.transport.modifyRuntime i f }

def say (w : ConnectionRuntime n) (interaction : Interaction n) : ConnectionRuntime n :=
  { w with transport := w.transport.say interaction }

section Callbacks

variable (check : Nat → List UInt8 → UInt8) (accepts : List (Interaction n) → Bool)

/-- An event is queued and the event at the head is dispatched. `source` is the stream
whose callback is served; it only goes into the histories. -/
def enqueueAndDispatch (w : ConnectionRuntime n) (source : Handle) (event : ShellEvent) :
    Bool × ConnectionRuntime n :=
  match w.queue.enqueue event with
  | (false, queue) => (false, { w with queue := queue })
  | (true, queue) =>
    let delivered := { w.transport with
      histories := match queue.dequeue.1 with
        | some event => event.histories source w.adapter w.transport.histories
        | none => w.transport.histories }
    let (done, queue, adapter, transport) := queue.dispatchOne check
      (some (Transport.connectionRuntimeSend accepts)) w.adapter delivered
    (done, { w with queue := queue, adapter := adapter, transport := transport })

def copyEnqueueAndDispatch (w : ConnectionRuntime n) (i : Fin n) (source : Handle) (data : List UInt8) :
    Bool × ConnectionRuntime n :=
  let runtime := (w.slot i).runtime
  if runtime.attached = false ∨ runtime.ingressCapacity < data.length ∨ w.queue.count ≠ 0 ∨
      runtime.receivedFin = true ∧ 0 < data.length then
    (false, w)
  else w.enqueueAndDispatch check accepts source (.authenticatedStreamBytes runtime.streamId data)

def onFin (w : ConnectionRuntime n) (i : Fin n) (source : Handle) : Bool × ConnectionRuntime n :=
  let runtime := (w.slot i).runtime
  if runtime.attached = false then (false, w)
  else if runtime.receivedFin = true then (true, w)
  else if w.queue.count ≠ 0 then (false, w)
  else
    let (accepted, w) := w.enqueueAndDispatch check accepts source (.authenticatedStreamFin runtime.streamId)
    (accepted, w.modifyRuntime i fun runtime => { runtime with receivedFin := accepted })

def onSendComplete (w : ConnectionRuntime n) (i : Fin n) (source : Handle) (responseLen : Nat) (dropped : Bool) :
    Bool × ConnectionRuntime n :=
  let runtime := (w.slot i).runtime
  if runtime.attached = false then (false, w)
  else w.enqueueAndDispatch check accepts source (.sendComplete runtime.streamId responseLen dropped)

def onStreamReset (w : ConnectionRuntime n) (i : Fin n) (source : Handle) : Bool × ConnectionRuntime n :=
  let runtime := (w.slot i).runtime
  if runtime.attached = false then (false, w)
  else w.enqueueAndDispatch check accepts source (.streamReset runtime.streamId)

/-- The buffers of a receive event are taken one after another until one is refused. -/
def receiveBuffers (i : Fin n) (source : Handle) : List (List UInt8) → ConnectionRuntime n → Bool × ConnectionRuntime n
  | [], w => (true, w)
  | buffer :: buffers, w =>
    if buffer.length = 0 then receiveBuffers i source buffers w
    else
      match w.copyEnqueueAndDispatch check accepts i source buffer with
      | (true, w) => receiveBuffers i source buffers w
      | (false, w) => (false, w)

def onMsquicReceive (w : ConnectionRuntime n) (i : Fin n) (source : Handle) (buffers : List (List UInt8)) (fin : Bool) :
    Bool × ConnectionRuntime n :=
  match receiveBuffers check accepts i source buffers w with
  | (false, w) => (false, w)
  | (true, w) => if fin = false then (true, w) else w.onFin check accepts i source

def protocolError (w : ConnectionRuntime n) (i : Fin n) : QuicStatus × ConnectionRuntime n :=
  let runtime := (w.slot i).runtime
  if runtime.attached = true ∧ runtime.connection ≠ 0 then
    (.invalidState, w.say (.connectionShutdown runtime.connection 2))
  else (.invalidState, w)

/-- The outcome of a delivery, as the status that MsQuic gets. -/
def deliveryStatus (i : Fin n) : Bool × ConnectionRuntime n → QuicStatus × ConnectionRuntime n
  | (true, w) => (.success, w)
  | (false, w) => w.protocolError i

def resetStatus : Bool × ConnectionRuntime n → QuicStatus × ConnectionRuntime n
  | (true, w) => (.success, w)
  | (false, w) => (.invalidState, w)

def onReset (w : ConnectionRuntime n) (i : Fin n) (source : Handle) : QuicStatus × ConnectionRuntime n :=
  if (w.slot i).runtime.sendInFlight = true then
    (.success, w.modifyRuntime i fun runtime => { runtime with resetPending := true })
  else resetStatus (w.onStreamReset check accepts i source)

def runtimeStreamCallback (w : ConnectionRuntime n) (i : Fin n) (source : Handle) :
    StreamEvent n → QuicStatus × ConnectionRuntime n
  | .startComplete id => (.success, w.modifyRuntime i fun runtime => { runtime with streamId := id })
  | .receive buffers fin => deliveryStatus i (w.onMsquicReceive check accepts i source buffers fin)
  | .peerSendShutdown => deliveryStatus i (w.onFin check accepts i source)
  | .sendComplete clientContext canceled =>
    let runtime := (w.slot i).runtime
    if clientContext ≠ some i ∨ runtime.sendInFlight = false then (.invalidParameter, w)
    else
      let responseLen := runtime.responseLen
      let dropped := canceled || runtime.resetPending
      let w := w.modifyRuntime i RuntimeStream.clearSend
      if w.adapter.sendInFlight = false then (.success, w)
      else resetStatus (w.onSendComplete check accepts i source responseLen dropped)
  | .peerSendAborted => w.onReset check accepts i source
  | .peerReceiveAborted => w.onReset check accepts i source
  | .shutdownComplete => w.onReset check accepts i source
  | .other => (.success, w)

end Callbacks

end ConnectionRuntime

end Ism
