import Ism.GeneratedSubset
import Ism.Ingress
import Ism.Multiplexer
import Ism.Worker
import Ism.Zone

namespace Ism

/-- What a worker hands over for sending: the first `len` octets of its response buffer. -/
structure MsquicSendDescriptor where
  streamId : UInt64
  len : Nat
  fin : Bool
  deriving DecidableEq, Repr

def prepareResponseSend (response : MsquicSendDescriptor) : MsquicSendDescriptor where
  streamId := response.streamId
  len := response.len
  fin := response.fin

def prepareWorkerEmptyNoerrorResponseSend (scBuf responseBuffer : List UInt8) (responseCapacity requestLen : Nat) :
    Nat × List UInt8 :=
  if requestLen < 12 ∨ responseCapacity < 12 then (0, responseBuffer)
  else
    (12, upd responseBuffer [(0, scBuf.getD 0 0), (1, scBuf.getD 1 0), (2, noerrorResponseFlagsHi (scBuf.getD 2 0)),
      (3, noerrorResponseFlagsLo (scBuf.getD 3 0)), (4, 0), (5, 0), (6, 0), (7, 0), (8, 0), (9, 0), (10, 0), (11, 0)])

section Authoritative

variable (check : GeneratedChecks) (root : TreeNode)

def buildWorkerResponseBytesFromBuffer (requestBuffer : List UInt8) (requestLen : Nat) : Option (List UInt8) :=
  match parseDnsPacketBuffer check requestBuffer requestLen with
  | some request => buildWorkerResponseBytes root request
  | none => none

def copyResponseBytesToBuffer : List UInt8 → List UInt8 → Nat → List UInt8
  | [], out, _ => out
  | byte :: rest, out, pos => copyResponseBytesToBuffer rest (out.set pos byte) (pos + 1)

/-- `scId` and `scBuf` are those of the context; the new response buffer is returned beside
the descriptor. -/
def prepareWorkerResponseSend (scId : UInt64) (scBuf responseBuffer : List UInt8) (responseCapacity requestLen : Nat) :
    Option MsquicSendDescriptor × List UInt8 :=
  match buildWorkerResponseBytesFromBuffer check root scBuf requestLen with
  | some responseBytes =>
    if responseBytes.length ≤ responseCapacity then
      let descriptor := prepareResponseSend ⟨scId, responseBytes.length, true⟩
      (some descriptor, copyResponseBytesToBuffer responseBytes responseBuffer 0)
    else (none, responseBuffer)
  | none => (none, responseBuffer)

end Authoritative

/-- The verified core: a connection, the contexts that its slots point to, and the message
buffers that the contexts point to. -/
structure Core (π β : Type) where
  conn : ConnectionContext π
  heap : π → StreamContext β
  memory : β → List UInt8

namespace Core

variable {π β : Type}

def active (core : Core π β) : List π := core.conn.ccActive.take core.conn.ccNum

/-- The memory behind the `sc_buf` of a context. -/
def scBuf (core : Core π β) (p : π) : List UInt8 := core.memory (core.heap p).scBuf

section Ready

/-- What all entry points for a ready stream have in common: only a stream in the table
whose request is complete reaches the worker. -/
def processReadyStream {α : Type} (core : Core π β) (worker : UInt64 → List UInt8 → Nat → α) (otherwise : α)
    (streamId : UInt64) : α :=
  match findStream core.heap core.conn streamId with
  | some ctxPtr =>
    match (core.heap ctxPtr).scPhase with
    | .processing requestLen => worker (core.heap ctxPtr).scId (core.scBuf ctxPtr) requestLen
    | _ => otherwise
  | none => otherwise

variable (core : Core π β) (responseBuffer : List UInt8) (responseCapacity : Nat) (streamId : UInt64)

def processReadyStreamForResponse : Nat × List UInt8 :=
  core.processReadyStream
    (fun _ scBuf requestLen => prepareWorkerMinimalErrorResponseSend scBuf responseBuffer responseCapacity requestLen)
    (0, responseBuffer) streamId

def processReadyStreamForEmptyResponse : Nat × List UInt8 :=
  core.processReadyStream
    (fun _ scBuf requestLen => prepareWorkerEmptyNoerrorResponseSend scBuf responseBuffer responseCapacity requestLen)
    (0, responseBuffer) streamId

def processReadyStreamForValidatedMinimalResponse (check : Nat → List UInt8 → UInt8) : Nat × List UInt8 :=
  core.processReadyStream
    (fun _ scBuf requestLen =>
      prepareWorkerValidatedMinimalResponseSend check scBuf responseBuffer responseCapacity requestLen)
    (0, responseBuffer) streamId

/-- The worker drops its descriptor; what is left of its work is the response buffer. -/
def workerLoopWithRoot (check : GeneratedChecks) (root : TreeNode) : List UInt8 :=
  core.processReadyStream
    (fun scId scBuf requestLen =>
      (prepareWorkerResponseSend check root scId scBuf responseBuffer responseCapacity requestLen).2)
    responseBuffer streamId

end Ready

end Core

/-- What the shell asks of the core between two calls of a worker. A finished send and a
reset both close the stream. -/
inductive CoreEvent
  | allocateStream (id : UInt64)
  | authenticatedStreamData (id : UInt64) (fragment : StreamFragment)
  | responseSendFinished (id : UInt64)
  | streamReset (id : UInt64)

namespace Core

variable {π β : Type} [DecidableEq π] [DecidableEq β]

def handleFragment (core : Core π β) (ctxPtr : π) (fragment : StreamFragment) : Core π β :=
  let (_, ctx, buf) := handleAuthenticatedStreamFragment (core.heap ctxPtr) (core.scBuf ctxPtr) fragment
  { core with
    heap := Function.update core.heap ctxPtr ctx
    memory := Function.update core.memory (core.heap ctxPtr).scBuf buf }

/-- A fragment goes to the context that is found for its stream ID. -/
def dispatch (core : Core π β) : CoreEvent → Core π β
  | .allocateStream id =>
    let (_, heap, conn) := Ism.allocateStream core.heap core.conn id
    { core with heap := heap, conn := conn }
  | .authenticatedStreamData id fragment =>
    match findStream core.heap core.conn id with
    | some ctxPtr => core.handleFragment ctxPtr fragment
    | none => core
  | .responseSendFinished id => { core with conn := closeStream core.heap core.conn id }
  | .streamReset id => { core with conn := closeStream core.heap core.conn id }

def run (core : Core π β) (events : List CoreEvent) : Core π β := events.foldl dispatch core

end Core

end Ism
