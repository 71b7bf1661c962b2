import Ism.PulseMultiplexer

namespace Ism

/-- A response that the transport reads from while it is being sent. -/
structure Descriptor (π β : Type) where
  streamId : UInt64
  data : β
  length : UInt32
  fin : Bool
  context : π

structure Reservation (π β : Type) where
  send : Descriptor π β
  index : Nat

inductive SendOutcome
  | sendCompleted
  | sendDropped

/-- The memory that the operations work on: the connection with its pointer array, the
contexts behind the pointers, the byte arrays, and the send slot. -/
structure PulseMemory (π β : Type) where
  conn : ConnectionContext π
  heap : π → StreamContext β
  bytes : β → List UInt8
  slot : Option (Reservation π β)

namespace PulseMemory

section Operations

variable {π β : Type} (m : PulseMemory π β)

/-- The contexts in use. -/
def active : List π := m.conn.ccActive.take m.conn.ccNum

def closeIndex (index : Nat) : PulseMemory π β := { m with conn := Pulse.swapOut m.conn index }

def beginSend (response : β) (length : UInt32) (id : UInt64) (fin : Bool) :
    Option (Descriptor π β) × PulseMemory π β :=
  let found := Pulse.findStream m.heap m.conn id
  if found < m.conn.ccNum then
    match m.conn.ccActive[found]? with
    | some context =>
      let d : Descriptor π β := ⟨id, response, length, fin, context⟩
      (some d, { m with slot := some ⟨d, found⟩ })
    | none => (none, m)
  else (none, m)

def findWhilePending (id : UInt64) : Nat := Pulse.findStream m.heap m.conn id

def allocateWhilePending [DecidableEq π] (id : UInt64) : Nat × PulseMemory π β :=
  let (result, heap, conn) := Pulse.allocateStream m.heap m.conn id
  (result, { m with heap := heap, conn := conn })

/-- The stored index follows the reserved context when the swap moves it. -/
def closeOther (id : UInt64) : Bool × PulseMemory π β :=
  match m.slot with
  | none => (false, m)
  | some reservation =>
    if id = reservation.send.streamId then (false, m)
    else
      let found := Pulse.findStream m.heap m.conn id
      if found < m.conn.ccNum then
        let last := m.conn.ccNum - 1
        let index := if reservation.index = last then found else reservation.index
        (true, { m.closeIndex found with slot := some ⟨reservation.send, index⟩ })
      else (false, m)

/-- The outcome is not looked at. -/
def finishSend (completionId : UInt64) (_outcome : SendOutcome) : Bool × PulseMemory π β :=
  match m.slot with
  | none => (false, m)
  | some reservation =>
    if completionId = reservation.send.streamId then (true, { m.closeIndex reservation.index with slot := none })
    else (false, m)

end Operations

end PulseMemory

end Ism
