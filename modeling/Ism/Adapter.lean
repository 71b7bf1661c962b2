import Ism.Shell

namespace Ism

/-- A call of the transport's send callback: the first `len` octets of `buf` go out
on the stream. -/
structure SendCall where
  streamId : UInt64
  buf : List UInt8
  len : Nat
  fin : Bool
  deriving DecidableEq, Repr

/-- The adapter between transport callbacks and one shell connection. A buffer that
is `none` is a null pointer. -/
structure Adapter where
  connection : ShellConnection
  responseBuffer : Option (List UInt8)
  responseCapacity : Nat
  sendBuffer : Option (List UInt8)
  sendCapacity : Nat
  sendInFlight : Bool
  sendStreamId : UInt64
  sendLen : Nat

namespace Adapter

def init (responseBuffer : Option (List UInt8)) (responseCapacity : Nat) (sendBuffer : Option (List UInt8))
    (sendCapacity : Nat) : Adapter where
  connection := ShellConnection.connectionInit
  responseBuffer := responseBuffer
  responseCapacity := responseCapacity
  sendBuffer := sendBuffer
  sendCapacity := sendCapacity
  sendInFlight := false
  sendStreamId := 0
  sendLen := 0

section Callbacks

/- `check` is the generated validator of the worker, `send` the callback given to
`init`, and `σ` the state behind its context pointer. -/
variable {σ : Type} (check : Nat → List UInt8 → UInt8) (send : Option (SendCall → σ → Bool × σ))

/-- The framed length of the response that was handed to the transport, or zero. -/
def prepareReadyResponse (adapter : Adapter) (streamId : UInt64) (ctx : σ) : Nat × Adapter × σ :=
  match adapter.responseBuffer, adapter.sendBuffer, send with
  | some responseBuffer, some sendBuffer, some send =>
    if adapter.responseCapacity = 0 ∨ adapter.sendCapacity = 0 ∨ adapter.sendInFlight = true then (0, adapter, ctx)
    else
      let (responseLen, responseBuffer) := adapter.connection.dispatchReadyStreamValidatedMinimalResponse check
        streamId responseBuffer adapter.responseCapacity
      let adapter := { adapter with responseBuffer := some responseBuffer }
      if responseLen = 0 then (0, adapter, ctx)
      else
        let (sendLen, sendBuffer) := adapter.connection.prepareDoqResponseSend
          streamId responseBuffer responseLen sendBuffer adapter.sendCapacity
        let adapter := { adapter with sendBuffer := some sendBuffer }
        if 0 < sendLen then
          let adapter := { adapter with sendInFlight := true, sendStreamId := streamId, sendLen := sendLen }
          let (sent, ctx) := send ⟨streamId, sendBuffer, sendLen, true⟩ ctx
          if sent = true then (sendLen, adapter, ctx)
          else
            (0, { adapter with
              connection := (adapter.connection.dispatchResponseSendFinished streamId true).2
              sendInFlight := false, sendStreamId := 0, sendLen := 0 }, ctx)
        else (sendLen, adapter, ctx)
  | _, _, _ => (0, adapter, ctx)

def onAuthenticatedStreamBytes (adapter : Adapter) (streamId : UInt64) (data : List UInt8) (ctx : σ) :
    UInt8 × Adapter × σ :=
  let (phase, connection) := adapter.connection.dispatchAuthenticatedStreamData streamId data
  let adapter := { adapter with connection := connection }
  if phase = 2 then (phase, (prepareReadyResponse check send adapter streamId ctx).2)
  else (phase, adapter, ctx)

def onAuthenticatedStreamFin (adapter : Adapter) (streamId : UInt64) (ctx : σ) : UInt8 × Adapter × σ :=
  let (phase, connection) := adapter.connection.onAuthenticatedStreamFin streamId
  let adapter := { adapter with connection := connection }
  if phase = 2 ∧ adapter.sendInFlight = false then
    (phase, (prepareReadyResponse check send adapter streamId ctx).2)
  else (phase, adapter, ctx)

end Callbacks

def onSendComplete (adapter : Adapter) (streamId : UInt64) (responseLen : Nat) (dropped : Bool) : Bool × Adapter :=
  if adapter.sendBuffer = none ∨ adapter.sendCapacity = 0 ∨ adapter.sendCapacity < responseLen ∨
      adapter.sendInFlight = false ∨ adapter.sendStreamId ≠ streamId ∨ adapter.sendLen ≠ responseLen then
    (false, adapter)
  else
    let (result, connection) := adapter.connection.dispatchResponseSendFinished streamId dropped
    let adapter := { adapter with connection := connection }
    if result = 1 then (true, { adapter with sendInFlight := false, sendStreamId := 0, sendLen := 0 })
    else (false, adapter)

def onStreamReset (adapter : Adapter) (streamId : UInt64) : Bool × Adapter :=
  if adapter.sendInFlight = true then
    if adapter.sendStreamId ≠ streamId then (false, adapter)
    else adapter.onSendComplete streamId adapter.sendLen true
  else
    let (result, connection) := adapter.connection.dispatchStreamReset streamId
    (decide (result = 1), { adapter with connection := connection })

end Adapter

end Ism
