import Mathlib.Algebra.Group.Nat.Defs
import Ism.Lib.Buffer

namespace Ism

open Lib

/-- Lengths that a two-octet prefix can announce; every `expected` field of a
phase is refined to this range. -/
abbrev MessageLength := Fin 65536

/-- The state machine of a single QUIC stream. -/
inductive StreamPhase
  | readingLength
  | readingLengthHigh (hi : UInt8)
  | readingMessage (expected : MessageLength) (current : Nat)
  | awaitingFin (expected : MessageLength)
  | processing (expected : MessageLength)
  | done
  deriving DecidableEq, Repr

/-- A caller-owned stream context. `β` is what `sc_buf` points with: the message
bytes themselves live outside the context. -/
structure StreamContext (β : Type) where
  scId : UInt64
  scPhase : StreamPhase
  scBuf : β
  deriving DecidableEq, Repr

def u32FromBeU16Bytes (hi lo : UInt8) : MessageLength :=
  ⟨hi.toNat * 256 + lo.toNat, by have := hi.toNat_lt; have := lo.toNat_lt; omega⟩

def bodyBytesAfterPrefix (len : Nat) : Nat :=
  if 2 ≤ len then len - 2 else 0

def bodyBytesAfterStoredPrefix (len : Nat) : Nat :=
  if 1 ≤ len then len - 1 else 0

def advanceMessage (expected : MessageLength) (current incoming : Nat) : StreamPhase :=
  let totalLen := current + incoming
  if (expected : Nat) ≤ totalLen then .awaitingFin expected else .readingMessage expected totalLen

def remainingMessage (expected : MessageLength) (current : Nat) : Nat :=
  if (expected : Nat) ≤ current then 0 else expected - current

def advanceMessageChecked (expected : MessageLength) (current incoming : Nat) : StreamPhase :=
  if (expected : Nat) < 12 ∨ (expected : Nat) < current ∨ remainingMessage expected current < incoming
  then .done
  else advanceMessage expected current incoming

def advanceBodyPhase (phase : StreamPhase) (incoming : Nat) : StreamPhase :=
  match phase with
  | .readingMessage expected current => advanceMessageChecked expected current incoming
  | .awaitingFin _ | .processing _ => if 0 < incoming then .done else phase
  | _ => .done

def fragmentPhase (phase : StreamPhase) (len : Nat) (first second : UInt8) : StreamPhase :=
  match phase with
  | .readingLengthHigh hi =>
    if 1 ≤ len then
      advanceMessageChecked (u32FromBeU16Bytes hi first) 0 (bodyBytesAfterStoredPrefix len)
    else phase
  | .readingLength =>
    if 2 ≤ len then
      advanceMessageChecked (u32FromBeU16Bytes first second) 0 (bodyBytesAfterPrefix len)
    else if len = 1 then .readingLengthHigh first
    else phase
  | .readingMessage .. | .awaitingFin _ | .processing _ | .done => advanceBodyPhase phase len

def finishStreamPhase (phase : StreamPhase) : StreamPhase :=
  match phase with
  | .awaitingFin expected => .processing expected
  | .processing _ => phase
  | _ => .done

def finishDoqPhase (phase : StreamPhase) (idHi idLo : UInt8) : StreamPhase :=
  if idHi = 0 ∧ idLo = 0 then finishStreamPhase phase else .done

def boundedCopyLen (available wanted : Nat) : Nat :=
  if available < wanted then available else wanted

structure CopyPlan where
  sourceOffset : Nat
  destinationOffset : Nat
  count : Nat
  deriving DecidableEq, Repr

/-- Which bytes of a fragment go to the message buffer. Rejected input may still
be copied up to the announced length before its phase becomes `done`. -/
def fragmentCopyPlan (phase : StreamPhase) (len : Nat) (first second : UInt8) : CopyPlan :=
  match phase with
  | .readingLengthHigh hi =>
    if 1 ≤ len then
      ⟨1, 0, boundedCopyLen (bodyBytesAfterStoredPrefix len) (u32FromBeU16Bytes hi first)⟩
    else ⟨0, 0, 0⟩
  | .readingLength =>
    if 2 ≤ len then
      ⟨2, 0, boundedCopyLen (bodyBytesAfterPrefix len) (u32FromBeU16Bytes first second)⟩
    else ⟨0, 0, 0⟩
  | .readingMessage expected current =>
    if current < expected then
      ⟨0, current, boundedCopyLen len (remainingMessage expected current)⟩
    else ⟨0, 0, 0⟩
  | .awaitingFin _ | .processing _ | .done => ⟨0, 0, 0⟩

/-- The first and second octet of a fragment, read as zero when it is too short. -/
def firstByte (data : List UInt8) : UInt8 := data.getD 0 0

def secondByte (data : List UInt8) : UInt8 := data.getD 1 0

section Context

variable {β : Type}

def nextStreamPhase (ctx : StreamContext β) (data : List UInt8) : StreamPhase :=
  fragmentPhase ctx.scPhase data.length (firstByte data) (secondByte data)

/-- The contents of `sc_buf` after the body bytes of a fragment are copied in. -/
def copyBodyBytes (ctx : StreamContext β) (buf data : List UInt8) : List UInt8 :=
  let plan := fragmentCopyPlan ctx.scPhase data.length (firstByte data) (secondByte data)
  if 0 < plan.count then blit data plan.sourceOffset buf plan.destinationOffset plan.count else buf

/-- `buf` is the memory that `ctx.scBuf` points to; the new phase is returned with
the updated context and the updated memory. -/
def handleStreamData (ctx : StreamContext β) (buf data : List UInt8) :
    StreamPhase × StreamContext β × List UInt8 :=
  let phase := nextStreamPhase ctx data
  let buf := copyBodyBytes ctx buf data
  (phase, { ctx with scPhase := phase }, buf)

def handleStreamFin (ctx : StreamContext β) (buf : List UInt8) : StreamPhase × StreamContext β :=
  let phase := finishDoqPhase ctx.scPhase (buf.getD 0 0) (buf.getD 1 0)
  (phase, { ctx with scPhase := phase })

end Context

/-- The C-facing phase codes of the shell boundary. -/
def shellPhaseCode (phase : StreamPhase) : UInt8 :=
  match phase with
  | .readingLength => 0
  | .readingLengthHigh _ => 0
  | .readingMessage _ _ => 1
  | .processing _ => 2
  | .done => 3
  | .awaitingFin _ => 4

end Ism
