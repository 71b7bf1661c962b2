import Ism.PulseMultiplexer
import Ism.ShellRun

namespace Ism

def uintptrMax : Nat := 0xffffffffffffffff

def rangeOk (p n : Nat) : Bool := decide (p ≠ 0 ∧ n ≤ uintptrMax - p)

/-- The ranges of `an` and `bn` bytes at the addresses `a` and `b` do not overlap. -/
def disjoint (a an b bn : Nat) : Bool :=
  rangeOk a an && rangeOk b bn && decide (a + an ≤ b ∨ b + bn ≤ a)

def responseDisjoint (a an b bn : Nat) : Bool :=
  rangeOk a an && rangeOk b bn && decide (an = 0 ∨ bn = 0 ∨ a + an ≤ b ∨ b + bn ≤ a)

/-- Where the parts of a connection lie in memory. -/
structure MemoryLayout where
  context : Slot → Nat
  contextSize : Nat
  message : Slot → Nat

/-- Where the locals and the buffers of one call lie in memory. -/
structure CallFrame where
  wire : Nat
  empty : Nat
  data : Nat
  response : Nat
  destination : Nat

/-- The phase that crosses between the compiler lanes. -/
structure PulsePhase where
  expected : Nat
  current : Nat
  tag : UInt8
  high : UInt8

structure PulseResult where
  phase : PulsePhase
  code : UInt8

namespace Pulse

def messageCapacity : Nat := 65535

def phaseToWire (phase : StreamPhase) : PulsePhase :=
  match phase with
  | .readingLength => ⟨0, 0, 0, 0⟩
  | .readingLengthHigh hi => ⟨0, 0, 1, hi⟩
  | .readingMessage expected current => ⟨expected, current, 2, 0⟩
  | .awaitingFin expected => ⟨expected, 0, 3, 0⟩
  | .processing expected => ⟨expected, 0, 4, 0⟩
  | .done => ⟨0, 0, 5, 0⟩

/-- The lengths that a phase can hold. -/
def toMessageLength (n : Nat) : Option MessageLength :=
  if small : n ≤ messageCapacity then some ⟨n, Nat.lt_succ_of_le small⟩ else none

def phaseFromWire (phase : PulsePhase) : StreamPhase :=
  if phase.tag = 0 then .readingLength
  else if phase.tag = 1 then .readingLengthHigh phase.high
  else
    match toMessageLength phase.expected with
    -- no phase has such a length
    | none => .done
    | some expected =>
      if phase.tag = 2 then .readingMessage expected phase.current
      else if phase.tag = 3 then .awaitingFin expected
      else if phase.tag = 4 then .processing expected
      else .done

/-- The side of the candidate rejects unknown tags and lengths. -/
def decodePhase (phase : PulsePhase) : Option StreamPhase :=
  if phase.tag = 0 then some .readingLength
  else if phase.tag = 1 then some (.readingLengthHigh phase.high)
  else if phase.tag = 2 then (toMessageLength phase.expected).map (.readingMessage · phase.current)
  else if phase.tag = 3 then (toMessageLength phase.expected).map .awaitingFin
  else if phase.tag = 4 then (toMessageLength phase.expected).map .processing
  else if phase.tag = 5 then some .done
  else none

def rejected : PulseResult := ⟨⟨0, 0, 5, 0⟩, 3⟩

def encode (phase : StreamPhase) : PulseResult :=
  match phase with
  | .readingLength => ⟨⟨0, 0, 0, 0⟩, 0⟩
  | .readingLengthHigh hi => ⟨⟨0, 0, 1, hi⟩, 0⟩
  | .readingMessage expected current => ⟨⟨expected, current, 2, 0⟩, 1⟩
  | .awaitingFin expected => ⟨⟨expected, 0, 3, 0⟩, 4⟩
  | .processing expected => ⟨⟨expected, 0, 4, 0⟩, 2⟩
  | .done => rejected

def copyRangeFrom (src : List UInt8) (source destination : Nat) : Nat → Nat → List UInt8 → List UInt8
  | 0, _, dst => dst
  | left + 1, i, dst =>
    copyRangeFrom src source destination left (i + 1) (dst.set (destination + i) (src.getD (source + i) 0))

def copyRange (src dst : List UInt8) (source destination count : Nat) : List UInt8 :=
  copyRangeFrom src source destination count 0 dst

section Context

variable {β : Type}

/-- `buf` is the memory that `ctx.scBuf` points to. -/
def handleStreamData (ctx : StreamContext β) (buf data : List UInt8) : StreamPhase × List UInt8 :=
  let first := data.getD 0 0
  let second := data.getD 1 0
  let plan := fragmentCopyPlan ctx.scPhase data.length first second
  (fragmentPhase ctx.scPhase data.length first second,
    copyRange data buf plan.sourceOffset plan.destinationOffset plan.count)

def handleStreamFin (ctx : StreamContext β) (buf : List UInt8) : StreamPhase :=
  finishDoqPhase ctx.scPhase (buf.getD 0 0) (buf.getD 1 0)

end Context

/-- The stream of `buf` at the address `message`, fed with `data` at the address `input`. -/
def streamData (phase : PulsePhase) (streamId : UInt64) (message capacity : Nat) (buf : List UInt8)
    (input inputCapacity : Nat) (data : List UInt8) : PulseResult × List UInt8 :=
  match decodePhase phase with
  | none => (rejected, buf)
  | some decoded =>
    if capacity < messageCapacity ∨ rangeOk message capacity = false ∨ inputCapacity < data.length then (rejected, buf)
    else if data.length ≠ 0 ∧ disjoint message capacity input inputCapacity = false then (rejected, buf)
    else
      let (phase, buf) := handleStreamData ⟨streamId, decoded, message⟩ buf data
      (encode phase, buf)

def streamFin (phase : PulsePhase) (streamId : UInt64) (message capacity : Nat) (buf : List UInt8) : PulseResult :=
  match decodePhase phase with
  | none => rejected
  | some decoded =>
    if capacity < 2 ∨ rangeOk message capacity = false then rejected
    else encode (handleStreamFin ⟨streamId, decoded, message⟩ buf)

def frameResponse (response destination : List UInt8) (length capacity : Nat) : Nat × List UInt8 :=
  let framed := framedLength length capacity
  if framed = 0 then (0, destination)
  else
    let destination := (destination.set 0 (prefixHi length)).set 1 (prefixLo length)
    (framed, copyRange response destination 0 2 length)

/-- An empty response is read from the local byte at `frame.empty`. -/
def responseFrame (frame : CallFrame) (response : List UInt8) (responseCapacity length : Nat) (destination : List UInt8)
    (destinationCapacity capacity : Nat) : Nat × List UInt8 :=
  if responseCapacity < length ∨ destinationCapacity < capacity ∨
      rangeOk frame.destination destinationCapacity = false then (0, destination)
  else
    let source := if responseCapacity = 0 then frame.empty else frame.response
    if responseDisjoint source responseCapacity frame.destination destinationCapacity = false then (0, destination)
    else frameResponse response destination length capacity

end Pulse

structure PulseTableSlot where
  id : UInt64
  phase : PulsePhase
  message : Nat
  messageCapacity : Nat

/-- The table that crosses between the compiler lanes. -/
structure PulseTable where
  slots : Slot → PulseTableSlot
  order : List Nat
  count : Nat
  capacity : Nat

inductive TableOperation
  | find
  | allocate
  | close

namespace PulseTable

def size : Nat := 184

def alignment : Nat := 8

def invalid : Nat := 0xffffffff

/-- The descriptor of a slot can be decoded, and its message overlaps neither the table nor
the message of an earlier slot. -/
def slotOk (address : Nat) (wire : PulseTable) (i : Slot) : Bool :=
  decide (Pulse.messageCapacity ≤ (wire.slots i).messageCapacity) &&
    disjoint address size (wire.slots i).message (wire.slots i).messageCapacity &&
    (Pulse.decodePhase (wire.slots i).phase).isSome &&
    (List.finRange shellMaxStreams).all fun j => !decide (j < i) ||
      disjoint (wire.slots i).message (wire.slots i).messageCapacity
        (wire.slots j).message (wire.slots j).messageCapacity

def contexts (wire : PulseTable) (i : Slot) : StreamContext Nat :=
  ⟨(wire.slots i).id, (Pulse.decodePhase (wire.slots i).phase).getD .done, (wire.slots i).message⟩

/-- The order is only read once all its entries are known to be slots. -/
def conn (wire : PulseTable) : ConnectionContext Slot :=
  ⟨wire.order.map (Fin.ofNat shellMaxStreams), wire.count, wire.capacity⟩

/-- The checks on the table itself, its counters, its order and its slots. -/
def accepted (address : Nat) (wire : PulseTable) : Bool :=
  rangeOk address size && decide (address % alignment = 0) &&
    decide (wire.count ≤ wire.capacity ∧ wire.capacity ≤ shellMaxStreams) &&
    (wire.order.all fun n => decide (n < shellMaxStreams)) && decide wire.order.Nodup &&
    (List.finRange shellMaxStreams).all fun i => slotOk address wire i

def operate (wire : PulseTable) (id : UInt64) : TableOperation → Nat × PulseTable
  | .find => (Pulse.findStream wire.contexts wire.conn id, wire)
  | .allocate =>
    let (result, contexts, conn) := Pulse.allocateStream wire.contexts wire.conn id
    if result < wire.capacity then
      let physical := Fin.ofNat shellMaxStreams (wire.order.getD result 0)
      let slot := { wire.slots physical with id := (contexts physical).scId, phase := ⟨0, 0, 0, 0⟩ }
      (result, { wire with slots := Function.update wire.slots physical slot, count := conn.ccNum })
    else (result, wire)
  | .close =>
    let (closed, conn) := Pulse.closeStream wire.contexts wire.conn id
    if closed then (1, { wire with order := conn.ccActive.map Fin.val, count := conn.ccNum }) else (0, wire)

def apply (address : Nat) (wire : PulseTable) (operation : TableOperation) (id : UInt64) : Nat × PulseTable :=
  if accepted address wire then operate wire id operation else (invalid, wire)

end PulseTable

-- The shell compiled with the candidate table, stream and response.
namespace PulseShell

section Adapter

variable (layout : MemoryLayout) (frame : CallFrame) (conn : ShellConnection)

/-- The slot that a pointer of the order stands for. -/
def physicalOf (ptr : Slot) : Nat := (List.finRange shellMaxStreams).findIdx fun physical => ptr = physical

/-- The positions of the pointers `ptrs`, if they are slots that were not `seen` before. -/
def snapshotOrder : List Nat → List Slot → Option (List Nat)
  | _, [] => some []
  | seen, ptr :: ptrs =>
    if physicalOf ptr = shellMaxStreams ∨ physicalOf ptr ∈ seen then none
    else (snapshotOrder (physicalOf ptr :: seen) ptrs).map (physicalOf ptr :: ·)

/-- The connection in neutral form, or nothing when its records do not agree. -/
def snapshot : Option PulseTable :=
  if conn.ctx.ccCapacity < conn.ctx.ccNum ∨ shellMaxStreams < conn.ctx.ccCapacity then none
  else
    match snapshotOrder [] conn.ctx.ccActive with
    | none => none
    | some order =>
      let active := fun i : Slot => decide (i.val ∈ order.take conn.ctx.ccNum)
      if (List.finRange shellMaxStreams).all fun i =>
          decide ((conn.streams i).ctx.scBuf = i) && decide ((conn.streams i).active = active i) then
        some
          { slots := fun i =>
              { id := (conn.streams i).ctx.scId
                phase := Pulse.phaseToWire (conn.streams i).ctx.scPhase
                message := layout.message i
                messageCapacity := shellStreamBufferSize }
            order := order
            count := conn.ctx.ccNum
            capacity := conn.ctx.ccCapacity }
      else none

def tableFind (id : UInt64) : Option Slot :=
  match snapshot layout conn with
  | none => none
  | some wire =>
    let index := (wire.apply frame.wire .find id).1
    if index < wire.count then some (Fin.ofNat shellMaxStreams (wire.order.getD index 0)) else none

/-- Opening a stream that is there gives the stream. -/
def tableOpen (id : UInt64) : Option Slot × ShellConnection :=
  match snapshot layout conn with
  | none => (none, conn)
  | some wire =>
    let index := (wire.apply frame.wire .find id).1
    if index = PulseTable.invalid then (none, conn)
    else if index < wire.count then (some (Fin.ofNat shellMaxStreams (wire.order.getD index 0)), conn)
    else
      let (index, wire) := wire.apply frame.wire .allocate id
      if wire.capacity ≤ index then (none, conn)
      else
        let physical := Fin.ofNat shellMaxStreams (wire.order.getD index 0)
        let ctx := (conn.streams physical).ctx
        let opened := { ctx with
          scId := (wire.slots physical).id, scPhase := Pulse.phaseFromWire (wire.slots physical).phase }
        (some physical,
          { ctx := { conn.ctx with ccNum := wire.count }
            streams := Function.update conn.streams physical
              { conn.streams physical with ctx := opened, active := true } })

/-- A missing stream counts as closed. -/
def tableClose (id : UInt64) : UInt8 × ShellConnection :=
  match snapshot layout conn with
  | none => (0, conn)
  | some wire =>
    let (result, wire) := wire.apply frame.wire .close id
    if result = PulseTable.invalid then (0, conn)
    else if result = 1 then
      (1, { conn with
        ctx := { conn.ctx with ccActive := wire.order.map (Fin.ofNat shellMaxStreams), ccNum := wire.count } })
    else (1, conn)

def reject (stream : Slot) : ShellConnection :=
  conn.setCtx stream { (conn.streams stream).ctx with scPhase := .done }

def ingressData (stream : Slot) (streamId : UInt64) (data : List UInt8) : UInt8 × ShellConnection :=
  let ctx := (conn.streams stream).ctx
  if ctx.scId ≠ streamId then (3, reject conn stream)
  else
    let (result, buf) := Pulse.streamData (Pulse.phaseToWire ctx.scPhase) streamId (layout.message ctx.scBuf)
      shellStreamBufferSize (conn.scBuf stream) frame.data data.length data
    (result.code,
      (conn.setBuffer ctx.scBuf buf).setCtx stream { ctx with scPhase := Pulse.phaseFromWire result.phase })

def ingressFin (stream : Slot) : UInt8 × ShellConnection :=
  let ctx := (conn.streams stream).ctx
  let result := Pulse.streamFin (Pulse.phaseToWire ctx.scPhase) ctx.scId (layout.message ctx.scBuf)
    shellStreamBufferSize (conn.scBuf stream)
  (result.code, conn.setCtx stream { ctx with scPhase := Pulse.phaseFromWire result.phase })

/-- The length that the descriptor hands over is the framed one. -/
def prepareDoqResponse (stream : Slot) (response : List UInt8) (length : Nat) (destination : List UInt8)
    (capacity : Nat) : Nat × List UInt8 :=
  if responseDisjoint (layout.context stream) layout.contextSize frame.destination capacity = false ∨
      layout.message (conn.streams stream).ctx.scBuf = 0 then (0, destination)
  else Pulse.responseFrame frame response length length destination capacity capacity

end Adapter

section Shell

variable (layout : MemoryLayout) (frame : CallFrame) (conn : ShellConnection)

def findStream (streamId : UInt64) : Option Slot := tableFind layout frame conn streamId

def openStream (streamId : UInt64) : Option Slot × ShellConnection := tableOpen layout frame conn streamId

def onAuthenticatedStreamFin (streamId : UInt64) : UInt8 × ShellConnection :=
  match openStream layout frame conn streamId with
  | (none, conn) => (3, conn)
  | (some stream, conn) => ingressFin layout conn stream

def onAuthenticatedStreamData (streamId : UInt64) (data : List UInt8) : UInt8 × ShellConnection :=
  match openStream layout frame conn streamId with
  | (none, conn) => (shellPhaseCode .done, conn)
  | (some stream, conn) => ingressData layout frame conn stream streamId data

/-- Both entry points lead to the same candidate call. -/
def dispatchAuthenticatedStreamData (streamId : UInt64) (data : List UInt8) : UInt8 × ShellConnection :=
  match openStream layout frame conn streamId with
  | (none, conn) => (shellPhaseCode .done, conn)
  | (some stream, conn) => ingressData layout frame conn stream streamId data

def prepareDoqResponseSend (streamId : UInt64) (responseBuffer : List UInt8) (responseLen : Nat)
    (streamBuffer : List UInt8) (streamCapacity : Nat) : Nat × List UInt8 :=
  match findStream layout frame conn streamId with
  | none => (0, streamBuffer)
  | some stream => prepareDoqResponse layout frame conn stream responseBuffer responseLen streamBuffer streamCapacity

/-- The slots are brought in line when one of them still claims the ID. -/
def syncAfterSend (conn : ShellConnection) (streamId : UInt64) : ShellConnection :=
  if (List.finRange shellMaxStreams).any fun i =>
      (conn.streams i).active && decide ((conn.streams i).ctx.scId = streamId) then conn.syncStreamSlots
  else conn

def completeResponseSend (streamId : UInt64) (_dropped : Bool) : UInt8 × ShellConnection :=
  let (result, conn) := tableClose layout frame conn streamId
  if result ≠ 1 then (result, conn) else (result, syncAfterSend conn streamId)

def dispatchResponseSendFinished (streamId : UInt64) (_dropped : Bool) : UInt8 × ShellConnection :=
  let (result, conn) := tableClose layout frame conn streamId
  if result ≠ 1 then (result, conn) else (result, syncAfterSend conn streamId)

def dispatchStreamReset (streamId : UInt64) : UInt8 × ShellConnection :=
  let (result, conn) := tableClose layout frame conn streamId
  if result = 1 then (result, conn.syncStreamSlots) else (result, conn)

end Shell

end PulseShell

end Ism
