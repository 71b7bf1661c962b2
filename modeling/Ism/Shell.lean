import Ism.Multiplexer
import Ism.Framing
import Ism.Worker

namespace Ism

abbrev shellMaxStreams : Nat := 4

def shellStreamBufferSize : Nat := 65535

/-- A position in the connection's array of streams. It serves as the pointer to the
context and to the message buffer that are stored there. -/
abbrev Slot := Fin shellMaxStreams

structure ShellStream where
  ctx : StreamContext Slot
  messageBuffer : List UInt8
  active : Bool

structure ShellConnection where
  ctx : ConnectionContext Slot
  streams : Slot → ShellStream

namespace ShellConnection

/-- The contexts that the slot array points to. -/
def heap (conn : ShellConnection) : Slot → StreamContext Slot := fun i => (conn.streams i).ctx

def resetStream (i : Slot) (stream : ShellStream) : ShellStream :=
  { stream with ctx := { scId := 0, scPhase := .readingLength, scBuf := i }, active := false }

def streamIsActivePtr (conn : ShellConnection) (stream : Slot) : Bool :=
  decide (stream ∈ conn.ctx.ccActive.take conn.ctx.ccNum)

def syncStreamSlots (conn : ShellConnection) : ShellConnection :=
  { conn with
    streams := fun i =>
      if conn.streamIsActivePtr i then { conn.streams i with active := true }
      else resetStream i (conn.streams i) }

def connectionInit : ShellConnection where
  ctx := { ccActive := List.finRange shellMaxStreams, ccNum := 0, ccCapacity := shellMaxStreams }
  streams := fun i => resetStream i
    { ctx := { scId := 0, scPhase := .readingLength, scBuf := i }
      messageBuffer := List.replicate shellStreamBufferSize 0
      active := false }

def findStream (conn : ShellConnection) (streamId : UInt64) : Option Slot :=
  findStreamFrom conn.heap streamId (conn.ctx.ccActive.take conn.ctx.ccNum)

/-- The slot `i` becomes the next one in use. -/
def takeSlot (conn : ShellConnection) (i : Slot) (streamId : UInt64) : ShellConnection where
  ctx := { conn.ctx with ccNum := conn.ctx.ccNum + 1 }
  streams := Function.update conn.streams i
    { conn.streams i with ctx := { scId := streamId, scPhase := .readingLength, scBuf := i }, active := true }

/-- A new ID takes the first slot behind those in use, if it is not marked active. -/
def openStream (conn : ShellConnection) (streamId : UInt64) : Option Slot × ShellConnection :=
  match conn.findStream streamId with
  | some existing => (some existing, conn)
  | none =>
    if conn.ctx.ccCapacity ≤ conn.ctx.ccNum ∨ shellMaxStreams ≤ conn.ctx.ccNum then (none, conn)
    else
      let slot := (List.finRange shellMaxStreams).find? fun i =>
        decide (conn.ctx.ccActive[conn.ctx.ccNum]? = some i) && !(conn.streams i).active
      match slot with
      | some i => (some i, conn.takeSlot i streamId)
      | none => (none, conn)

/-- The memory behind the `sc_buf` of a context. -/
def scBuf (conn : ShellConnection) (ptr : Slot) : List UInt8 :=
  (conn.streams (conn.streams ptr).ctx.scBuf).messageBuffer

def setCtx (conn : ShellConnection) (ptr : Slot) (ctx : StreamContext Slot) : ShellConnection :=
  { conn with streams := Function.update conn.streams ptr { conn.streams ptr with ctx := ctx } }

def setBuffer (conn : ShellConnection) (ptr : Slot) (bytes : List UInt8) : ShellConnection :=
  { conn with streams := Function.update conn.streams ptr { conn.streams ptr with messageBuffer := bytes } }

def onAuthenticatedStreamFin (conn : ShellConnection) (streamId : UInt64) : UInt8 × ShellConnection :=
  match conn.openStream streamId with
  | (none, conn) => (3, conn)
  | (some stream, conn) =>
    let (phase, ctx) := handleStreamFin (conn.streams stream).ctx (conn.scBuf stream)
    (shellPhaseCode phase, conn.setCtx stream ctx)

def dispatchAuthenticatedStreamData (conn : ShellConnection) (streamId : UInt64) (data : List UInt8) :
    UInt8 × ShellConnection :=
  match conn.openStream streamId with
  | (none, conn) => (shellPhaseCode .done, conn)
  | (some stream, conn) =>
    let (phase, ctx, buf) := handleStreamData (conn.streams stream).ctx (conn.scBuf stream) data
    (shellPhaseCode phase, (conn.setBuffer (conn.streams stream).ctx.scBuf buf).setCtx stream ctx)

/-- The entry point without the scheduler, which runs the same state machine. -/
def onAuthenticatedStreamData (conn : ShellConnection) (streamId : UInt64) (data : List UInt8) :
    UInt8 × ShellConnection :=
  match conn.openStream streamId with
  | (none, conn) => (shellPhaseCode .done, conn)
  | (some stream, conn) =>
    let (phase, ctx, buf) := handleStreamData (conn.streams stream).ctx (conn.scBuf stream) data
    (shellPhaseCode phase, (conn.setBuffer (conn.streams stream).ctx.scBuf buf).setCtx stream ctx)

/-- The response length, zero when there is no response, with the new response buffer. -/
def dispatchReadyStreamValidatedMinimalResponse (check : Nat → List UInt8 → UInt8) (conn : ShellConnection)
    (streamId : UInt64) (responseBuffer : List UInt8) (responseCapacity : Nat) : Nat × List UInt8 :=
  match Ism.findStream conn.heap conn.ctx streamId with
  | some ctxPtr =>
    match (conn.streams ctxPtr).ctx.scPhase with
    | .processing requestLen =>
      prepareWorkerValidatedMinimalResponseSend check (conn.scBuf ctxPtr) responseBuffer responseCapacity requestLen
    | _ => (0, responseBuffer)
  | none => (0, responseBuffer)

def prepareDoqResponseSend (conn : ShellConnection) (streamId : UInt64) (responseBuffer : List UInt8)
    (responseLen : Nat) (streamBuffer : List UInt8) (streamCapacity : Nat) : Nat × List UInt8 :=
  match conn.findStream streamId with
  | none => (0, streamBuffer)
  | some _ => prepareDoqResponseSendForStream responseBuffer responseLen streamBuffer streamCapacity

/-- The verified core closes a stream in the slot array only. -/
def closeStream (conn : ShellConnection) (streamId : UInt64) : ShellConnection :=
  { conn with ctx := Ism.closeStream conn.heap conn.ctx streamId }

/-- A finished or dropped send closes its stream; the slots are brought in line only
when one of them still claims the ID. -/
def dispatchResponseSendFinished (conn : ShellConnection) (streamId : UInt64) (_dropped : Bool) :
    UInt8 × ShellConnection :=
  let conn := conn.closeStream streamId
  if (List.finRange shellMaxStreams).any fun i =>
      (conn.streams i).active && decide ((conn.streams i).ctx.scId = streamId) then
    (1, conn.syncStreamSlots)
  else (1, conn)

/-- The same completion without the scheduler. -/
def completeResponseSend (conn : ShellConnection) (streamId : UInt64) (_dropped : Bool) : UInt8 × ShellConnection :=
  let conn := conn.closeStream streamId
  if (List.finRange shellMaxStreams).any fun i =>
      (conn.streams i).active && decide ((conn.streams i).ctx.scId = streamId) then
    (1, conn.syncStreamSlots)
  else (1, conn)

def dispatchStreamReset (conn : ShellConnection) (streamId : UInt64) : UInt8 × ShellConnection :=
  (1, (conn.closeStream streamId).syncStreamSlots)

end ShellConnection

end Ism
