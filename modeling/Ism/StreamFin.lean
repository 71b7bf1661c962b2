import Ism.Isolation

namespace Ism

open Lib ShellConnection

namespace ConnectionRuntime

variable {n : Nat} {w : ConnectionRuntime n} {i : Fin n}

/-- The adapter once the FIN of a slot reached its table. -/
def finished (w : ConnectionRuntime n) (i : Fin n) : Adapter :=
  { w.adapter with connection := (w.adapter.connection.onAuthenticatedStreamFin (w.slot i).runtime.streamId).2 }

/-- The transport once the histories know about the FIN of a slot. -/
def finDelivered (w : ConnectionRuntime n) (i : Fin n) (h : Handle) : Transport n :=
  w.delivered h (.authenticatedStreamFin (w.slot i).runtime.streamId)

/-- The call of `StreamSend` with the first `len` octets of the send buffer. -/
def sendOn (w : ConnectionRuntime n) (i : Fin n) (h : Handle) (sendBuffer : List UInt8) (len : Nat) (accepted : Bool) :
    Interaction n :=
  .streamSend (w.slot i).stream i (sendBuffer.take len) true accepted
    ((w.finDelivered i h).histories (w.slot i).runtime.streamId)

/-- The state once the FIN of a slot came to `outcome`. -/
def finWith (w : ConnectionRuntime n) (i : Fin n) (queue : EventQueue) (outcome : Bool × Adapter × Transport n) :
    ConnectionRuntime n :=
  { w with queue := queue, adapter := outcome.2.1, transport := outcome.2.2 }.modifyRuntime i fun runtime =>
    { runtime with receivedFin := outcome.1 }

/-- What the FIN of a slot comes to: no call at all, or one `StreamSend` on the slot's stream. -/
inductive FinDispatched (accepts : List (Interaction n) → Bool) (w : ConnectionRuntime n) (i : Fin n) (h : Handle) :
    Bool × Adapter × Transport n → Prop
  | quiet {ready : Bool} {responseBuffer sendBuffer : Option (List UInt8)}
    (kept : w.adapter.sendInFlight = true → sendBuffer = w.adapter.sendBuffer) :
    FinDispatched accepts w i h (ready, (w.finished i).withBuffers responseBuffer sendBuffer, w.finDelivered i h)
  | sent {k : MessageLength} {message responseBuffer sendBuffer : List UInt8} {len : Nat}
    (free : w.adapter.sendInFlight = false)
    (entry : (w.finished i).connection.entry (w.slot i).runtime.streamId = some ⟨.processing k, message⟩) :
    FinDispatched accepts w i h
      (true, ((w.finished i).withBuffers (some responseBuffer) (some sendBuffer)).inFlight
          (w.slot i).runtime.streamId len,
        ((w.finDelivered i h).say (w.sendOn i h sendBuffer len true)).modifyRuntime i fun runtime =>
          { runtime with responseLen := len, sendInFlight := true, resetPending := false })
  | refused {k : MessageLength} {message responseBuffer sendBuffer : List UInt8} {len : Nat}
    (free : w.adapter.sendInFlight = false)
    (entry : (w.finished i).connection.entry (w.slot i).runtime.streamId = some ⟨.processing k, message⟩) :
    FinDispatched accepts w i h
      (true, ((w.finished i).withBuffers (some responseBuffer) (some sendBuffer)).landed
          ((w.finished i).connection.closeStream (w.slot i).runtime.streamId).syncStreamSlots,
        ((w.finDelivered i h).say (w.sendOn i h sendBuffer len false)).modifyRuntime i RuntimeStream.clearSend)

theorem Sound.finDispatched (check : Nat → List UInt8 → UInt8) (accepts : List (Interaction n) → Bool) (sound : w.Sound)
    (distinct : w.transport.DistinctIds) (used : (w.slot i).inUse = true)
    (idle : w.adapter.sendInFlight = false → (w.slot i).runtime.sendInFlight = false) (h : Handle) :
    FinDispatched accepts w i h
      (w.dispatchOutcome check accepts h (.authenticatedStreamFin (w.slot i).runtime.streamId)) := by
  have spec := sound.adapter.connection.onAuthenticatedStreamFin_spec (w.slot i).runtime.streamId
  have valid : (w.finished i).Valid := sound.adapter.withConnection (Delivered.valid sound.adapter.connection spec)
  have prepared := Adapter.prepareReadyResponse_spec check (some (Transport.connectionRuntimeSend accepts)) valid
    (w.slot i).runtime.streamId (w.finDelivered i h)
  simp only [dispatchOutcome, EventQueue.dispatchEvent, Adapter.onAuthenticatedStreamFin]
  split
  case isFalse => exact FinDispatched.quiet fun _ => rfl
  case isTrue ready =>
    obtain ⟨phase, free⟩ := ready
    rw [decide_eq_true phase]
    change FinDispatched accepts w i h (true, (Adapter.prepareReadyResponse check
      (some (Transport.connectionRuntimeSend accepts)) (w.finished i) (w.slot i).runtime.streamId
        (w.finDelivered i h)).2)
    generalize Adapter.prepareReadyResponse check (some (Transport.connectionRuntimeSend accepts)) (w.finished i)
      (w.slot i).runtime.streamId (w.finDelivered i h) = result at prepared
    cases prepared with
    | silent responseBuffer sendBuffer =>
      refine FinDispatched.quiet fun flying => ?_
      rw [show w.adapter.sendInFlight = false from free] at flying
      cases flying
    | @called f k message responseBuffer sendBuffer len callback _ entry framed =>
      cases callback
      have delivered : (w.finDelivered i h).Sound := sound.transport.withHistories _
      have apart : (w.finDelivered i h).DistinctIds := distinct
      rw [apart.connectionRuntimeSend_eq used rfl,
        delivered.runtimeSend_eq used (idle free) rfl framed.len_le.1]
      cases answer : accepts (w.finDelivered i h).transcript with
      | true =>
        simp only [if_true]
        exact FinDispatched.sent free entry
      | false =>
        simp only [Bool.false_eq_true, if_false]
        exact FinDispatched.refused free entry

end ConnectionRuntime

end Ism
