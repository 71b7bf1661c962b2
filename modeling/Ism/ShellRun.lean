import Mathlib.Data.List.Perm.Subperm
import Ism.ShellTable

namespace Ism

open Lib

/-- The calls of the shell that change a connection. -/
inductive ShellCall
  | openStream (id : UInt64)
  | onAuthenticatedStreamData (id : UInt64) (data : List UInt8)
  | dispatchAuthenticatedStreamData (id : UInt64) (data : List UInt8)
  | onAuthenticatedStreamFin (id : UInt64)
  | completeResponseSend (id : UInt64) (dropped : Bool)
  | dispatchResponseSendFinished (id : UInt64) (dropped : Bool)
  | dispatchStreamReset (id : UInt64)

namespace ShellCall

def streamId : ShellCall → UInt64
  | openStream id | onAuthenticatedStreamData id _ | dispatchAuthenticatedStreamData id _
  | onAuthenticatedStreamFin id | completeResponseSend id _ | dispatchResponseSendFinished id _
  | dispatchStreamReset id => id

/-- The calls that end a stream. -/
def closes : ShellCall → Bool
  | completeResponseSend .. | dispatchResponseSendFinished .. | dispatchStreamReset _ => true
  | openStream _ | onAuthenticatedStreamData .. | dispatchAuthenticatedStreamData ..
  | onAuthenticatedStreamFin _ => false

end ShellCall

namespace ShellConnection

def call (conn : ShellConnection) : ShellCall → ShellConnection
  | .openStream id => (conn.openStream id).2
  | .onAuthenticatedStreamData id data => (conn.onAuthenticatedStreamData id data).2
  | .dispatchAuthenticatedStreamData id data => (conn.dispatchAuthenticatedStreamData id data).2
  | .onAuthenticatedStreamFin id => (conn.onAuthenticatedStreamFin id).2
  | .completeResponseSend id dropped => (conn.completeResponseSend id dropped).2
  | .dispatchResponseSendFinished id dropped => (conn.dispatchResponseSendFinished id dropped).2
  | .dispatchStreamReset id => (conn.dispatchStreamReset id).2

def run (conn : ShellConnection) (calls : List ShellCall) : ShellConnection := calls.foldl call conn

variable {conn : ShellConnection}

/-- Whatever ends a stream removes its entry and brings the slots in line. -/
theorem Valid.call_closes (valid : conn.Valid) {c : ShellCall} (closes : c.closes = true) :
    conn.call c = (conn.closeStream c.streamId).syncStreamSlots := by
  cases c with
  | completeResponseSend id dropped => exact congrArg Prod.snd (valid.dispatchResponseSendFinished_eq id dropped)
  | dispatchResponseSendFinished id dropped =>
    exact congrArg Prod.snd (valid.dispatchResponseSendFinished_eq id dropped)
  | dispatchStreamReset id => rfl
  | openStream | onAuthenticatedStreamData | dispatchAuthenticatedStreamData | onAuthenticatedStreamFin => cases closes

theorem Delivered.others (before : conn.Valid) {id : UInt64} {f : Entry → Entry} {result : UInt8 × ShellConnection}
    (delivered : Delivered conn id f result) :
    result.2.Valid ∧ ∀ other, other ≠ id → result.2.entry other = conn.entry other := by
  cases delivered with
  | refused => exact ⟨before, fun _ _ => rfl⟩
  | acted _ valid _ others => exact ⟨valid, others⟩

/-- Every call keeps both records in line and leaves the other streams alone. -/
theorem Valid.call_spec (valid : conn.Valid) (c : ShellCall) :
    (conn.call c).Valid ∧ ∀ other, other ≠ c.streamId → (conn.call c).entry other = conn.entry other := by
  cases ended : c.closes with
  | true =>
    rw [valid.call_closes ended]
    obtain ⟨closed, -, others⟩ := valid.close_spec c.streamId
    exact ⟨closed, others⟩
  | false =>
    cases c with
    | openStream id =>
      rcases valid.opened id with ⟨opened, -, -⟩ | ⟨i, mid, opened, midValid, -, -, others⟩
      · rw [call, opened]
        exact ⟨valid, fun _ _ => rfl⟩
      · rw [call, opened]
        exact ⟨midValid, others⟩
    | onAuthenticatedStreamData id data => exact (valid.dispatchAuthenticatedStreamData_spec id data).others valid
    | dispatchAuthenticatedStreamData id data => exact (valid.dispatchAuthenticatedStreamData_spec id data).others valid
    | onAuthenticatedStreamFin id => exact (valid.onAuthenticatedStreamFin_spec id).others valid
    | completeResponseSend | dispatchResponseSendFinished | dispatchStreamReset => cases ended

theorem Valid.run (valid : conn.Valid) (calls : List ShellCall) : (conn.run calls).Valid := by
  induction calls generalizing conn with
  | nil => exact valid
  | cons c calls ih => exact ih (valid.call_spec c).1

theorem Valid.full_iff (valid : conn.Valid) :
    conn.ctx.ccNum = shellMaxStreams ↔ ∀ i, (conn.streams i).active = true := by
  have bound : conn.ctx.ccNum ≤ shellMaxStreams := valid.order_length ▸ valid.table.num_le
  constructor
  · intro full i
    have whole : conn.inUse = conn.ctx.ccActive :=
      List.take_of_length_le (Nat.le_of_eq (valid.order_length.trans full.symm))
    rw [valid.active_iff, whole, valid.table.order_perm.mem_iff]
    exact List.mem_finRange i
  · intro every
    have covered : List.finRange shellMaxStreams ⊆ conn.inUse := fun i _ => (valid.active_iff i).mp (every i)
    have long := (List.subperm_of_subset (List.nodup_finRange _) covered).length_le
    rw [List.length_finRange, inUse, List.length_take] at long
    omega

/-- A stream is refused a context only when every slot is taken by another one. -/
theorem Valid.openStream_none_iff (valid : conn.Valid) (id : UInt64) :
    (conn.openStream id).1 = none ↔ conn.entry id = none ∧ ∀ i, (conn.streams i).active = true := by
  rw [← valid.full_iff]
  rcases valid.openStream_cases id with ⟨i, opened, found⟩ | ⟨opened, absent, full⟩ | ⟨i, opened, absent, room, -⟩
  · rw [opened, entry_of_findStream found]
    simp
  · rw [opened]
    exact ⟨fun _ => ⟨entry_eq_none_iff.mpr absent, full⟩, fun _ => rfl⟩
  · rw [opened]
    constructor
    · nofun
    · rintro ⟨-, full⟩
      omega

theorem Valid.openStream_some (valid : conn.Valid) {id : UInt64} {i : Slot} (opened : (conn.openStream id).1 = some i) :
    (conn.openStream id).2.findStream id = some i := by
  rcases valid.opened id with ⟨refused, -, -⟩ | ⟨j, mid, taken, -, found, -, -⟩
  · rw [refused] at opened
    cases opened
  · rw [taken] at opened ⊢
    cases opened
    exact found

end ShellConnection

/-- After any calls the pointer order and the flags of the slots agree, each call touches
its own stream only, and the calls that end a stream remove exactly that one. -/
theorem shell_connection_invariant (calls : List ShellCall) :
    let conn := ShellConnection.connectionInit.run calls
    conn.ctx.ccActive.Perm (List.finRange shellMaxStreams) ∧
    (∀ i, (conn.streams i).active = true ↔ i ∈ conn.ctx.ccActive.take conn.ctx.ccNum) ∧
    ((conn.ctx.ccActive.take conn.ctx.ccNum).map fun i => (conn.streams i).ctx.scId).Nodup ∧
    (∀ i, (conn.streams i).active = false →
      (conn.streams i).ctx.scId = 0 ∧ (conn.streams i).ctx.scPhase = .readingLength) ∧
    (∀ i, (conn.streams i).ctx.scBuf = i) ∧
    (∀ call other, other ≠ call.streamId → (conn.call call).entry other = conn.entry other) ∧
    (∀ id, (conn.openStream id).1 = none ↔ conn.entry id = none ∧ ∀ i, (conn.streams i).active = true) ∧
    (∀ id i, (conn.openStream id).1 = some i →
      (conn.openStream id).2.findStream id = some i ∧ ((conn.openStream id).2.streams i).ctx.scId = id) ∧
    (∀ call, call.closes = true → (conn.call call).entry call.streamId = none ∧
      (conn.entry call.streamId = none → conn.call call = conn)) := by
  intro conn
  have valid : conn.Valid := ShellConnection.connectionInit_valid.run calls
  refine ⟨valid.table.order_perm, valid.active_iff, valid.table.keys_nodup, ?_, valid.own_buffer,
    fun call => (valid.call_spec call).2, valid.openStream_none_iff, ?_, ?_⟩
  · intro i inactive
    refine valid.idle i fun member => ?_
    rw [(valid.active_iff i).mpr member] at inactive
    cases inactive
  · intro id i opened
    have found := valid.openStream_some opened
    have after : (conn.openStream id).2.Valid := (valid.call_spec (.openStream id)).1
    exact ⟨found, (after.findStream_iff.mp found).2⟩
  · intro call closes
    rw [valid.call_closes closes]
    refine ⟨(valid.close_spec call.streamId).2.1, fun absent => ?_⟩
    rw [ShellConnection.Valid.closeStream_absent (ShellConnection.entry_eq_none_iff.mp absent),
      valid.syncStreamSlots_eq]

end Ism
