import Ism.Shell
import Ism.StreamTrace

namespace Ism

open Lib

namespace ShellConnection

/-- The slots in use. -/
def inUse (conn : ShellConnection) : List Slot := conn.ctx.ccActive.take conn.ctx.ccNum

/-- Membership is recorded twice, by the order of the pointers and by the flags of the
slots; both records agree, and a slot that is not in use is cleared. -/
structure Valid (conn : ShellConnection) : Prop where
  table : SlotTable (List.finRange shellMaxStreams) conn.ctx.ccActive conn.ctx.ccNum
    (fun i => (conn.streams i).ctx.scId)
  capacity : conn.ctx.ccCapacity = shellMaxStreams
  active_iff : ∀ i, (conn.streams i).active = true ↔ i ∈ conn.inUse
  idle : ∀ i, i ∉ conn.inUse → (conn.streams i).ctx.scId = 0 ∧ (conn.streams i).ctx.scPhase = .readingLength
  own_buffer : ∀ i, (conn.streams i).ctx.scBuf = i
  buffer_length : ∀ i, (conn.streams i).messageBuffer.length = shellStreamBufferSize

/-- What the connection knows about one stream. -/
structure Entry where
  phase : StreamPhase
  message : List UInt8

/-- The connection as a finite map: slots, order and flags are forgotten. -/
def entry (conn : ShellConnection) (id : UInt64) : Option Entry :=
  (conn.findStream id).map fun i => ⟨(conn.streams i).ctx.scPhase, (conn.streams i).messageBuffer⟩

variable {conn : ShellConnection} {id : UInt64} {i : Slot}

theorem findStream_eq_core (conn : ShellConnection) (id : UInt64) :
    Ism.findStream conn.heap conn.ctx id = conn.findStream id := by
  rw [findStream_eq_find?, findStream, findStreamFrom_eq_find?]

theorem entry_eq_none_iff : conn.entry id = none ↔ conn.findStream id = none := by
  simp [entry]

theorem entry_of_findStream (found : conn.findStream id = some i) :
    conn.entry id = some ⟨(conn.streams i).ctx.scPhase, (conn.streams i).messageBuffer⟩ := by
  rw [entry, found]
  rfl

theorem findStream_of_entry {e : Entry} (present : conn.entry id = some e) : ∃ i, conn.findStream id = some i := by
  cases found : conn.findStream id with
  | none => simp [entry, found] at present
  | some i => exact ⟨i, rfl⟩

theorem Valid.findStream_iff (valid : conn.Valid) :
    conn.findStream id = some i ↔ i ∈ conn.inUse ∧ (conn.streams i).ctx.scId = id := by
  rw [findStream, findStreamFrom_eq_find?]
  exact valid.table.find_eq_some_iff

theorem Valid.findStream_none_iff (valid : conn.Valid) :
    conn.findStream id = none ↔ ∀ i ∈ conn.inUse, (conn.streams i).ctx.scId ≠ id := by
  constructor
  · intro absent i member holds
    rw [valid.findStream_iff.mpr ⟨member, holds⟩] at absent
    cases absent
  · intro absent
    cases found : conn.findStream id with
    | none => rfl
    | some i => exact absurd (valid.findStream_iff.mp found).2 (absent i (valid.findStream_iff.mp found).1)

/-- Two connections that hold the same streams in the same slots hold the same entries. -/
theorem Valid.entry_congr {other : ShellConnection} (valid : conn.Valid) (valid' : other.Valid)
    (same : ∀ i, (i ∈ other.inUse ∧ (other.streams i).ctx.scId = id) ↔
      (i ∈ conn.inUse ∧ (conn.streams i).ctx.scId = id))
    (kept : ∀ i ∈ conn.inUse, (conn.streams i).ctx.scId = id →
      (other.streams i).ctx.scPhase = (conn.streams i).ctx.scPhase ∧
        (other.streams i).messageBuffer = (conn.streams i).messageBuffer) :
    other.entry id = conn.entry id := by
  cases found : conn.findStream id with
  | none =>
    rw [entry_eq_none_iff.mpr found, entry_eq_none_iff, valid'.findStream_none_iff]
    intro i member holds
    obtain ⟨used, key⟩ := (same i).mp ⟨member, holds⟩
    exact valid.findStream_none_iff.mp found i used key
  | some i =>
    have here := valid.findStream_iff.mp found
    obtain ⟨phase, bytes⟩ := kept i here.1 here.2
    rw [entry_of_findStream found, entry_of_findStream (valid'.findStream_iff.mpr ((same i).mpr here)),
      phase, bytes]

theorem connectionInit_valid : connectionInit.Valid where
  table := ⟨List.Perm.refl _, Nat.zero_le _, List.nodup_nil⟩
  capacity := rfl
  active_iff := fun i => by simp [connectionInit, resetStream, inUse]
  idle := fun _ _ => ⟨rfl, rfl⟩
  own_buffer := fun _ => rfl
  buffer_length := fun _ => List.length_replicate

theorem connectionInit_entry (id : UInt64) : connectionInit.entry id = none := rfl

theorem Valid.order_length (valid : conn.Valid) : conn.ctx.ccActive.length = shellMaxStreams := by
  rw [valid.table.order_perm.length_eq, List.length_finRange]

theorem Valid.takeSlot_spec (valid : conn.Valid) (absent : conn.findStream id = none)
    (next : conn.ctx.ccActive[conn.ctx.ccNum]? = some i) :
    (conn.takeSlot i id).Valid ∧ (conn.takeSlot i id).findStream id = some i ∧
      ∀ other, other ≠ id → (conn.takeSlot i id).entry other = conn.entry other := by
  obtain ⟨free, table⟩ := valid.table.insert (List.nodup_finRange _) next (valid.findStream_none_iff.mp absent)
  have self : (conn.takeSlot i id).streams i = { conn.streams i with
      ctx := { scId := id, scPhase := .readingLength, scBuf := i }, active := true } :=
    Function.update_self ..
  have rest : ∀ j, j ≠ i → (conn.takeSlot i id).streams j = conn.streams j :=
    fun j other => Function.update_of_ne other ..
  have used : ∀ j, j ∈ (conn.takeSlot i id).inUse ↔ j ∈ conn.inUse ∨ j = i := by
    intro j
    have grown : (conn.takeSlot i id).inUse = conn.inUse ++ [i] := SlotTable.take_succ next
    rw [grown, List.mem_append, List.mem_singleton]
  have opened : (conn.takeSlot i id).Valid := by
    refine ⟨table.congr_key ?_, valid.capacity, ?_, ?_, ?_, ?_⟩
    · intro j _
      by_cases here : j = i
      · rw [here, self, Function.update_self]
      · rw [rest j here, Function.update_of_ne here]
    · intro j
      by_cases here : j = i
      · simp [here, self, used]
      · rw [rest j here, used, valid.active_iff, or_iff_left here]
    · intro j unused
      obtain ⟨before, here⟩ := not_or.mp (mt (used j).mpr unused)
      rw [rest j here]
      exact valid.idle j before
    · intro j
      by_cases here : j = i
      · rw [here, self]
      · rw [rest j here, valid.own_buffer]
    · intro j
      by_cases here : j = i
      · rw [here, self, valid.buffer_length]
      · rw [rest j here, valid.buffer_length]
  refine ⟨opened, opened.findStream_iff.mpr ⟨(used i).mpr (Or.inr rfl), by rw [self]⟩, ?_⟩
  intro other different
  refine valid.entry_congr opened (fun j => ?_) (fun j member _ => ?_)
  · by_cases here : j = i
    · simp only [here, self, different.symm, and_false, false_iff, not_and]
      exact fun member => absurd member free
    · rw [rest j here, used, or_iff_left here]
  · have here : j ≠ i := fun same => free (same ▸ member)
    rw [rest j here]
    exact ⟨rfl, rfl⟩

/-- A stream that is not in the table gets a slot as long as there is one. -/
theorem Valid.openStream_cases (valid : conn.Valid) (id : UInt64) :
    (∃ i, conn.openStream id = (some i, conn) ∧ conn.findStream id = some i) ∨
    (conn.openStream id = (none, conn) ∧ conn.findStream id = none ∧ conn.ctx.ccNum = shellMaxStreams) ∨
    (∃ i, conn.openStream id = (some i, conn.takeSlot i id) ∧ conn.findStream id = none ∧
      conn.ctx.ccNum < shellMaxStreams ∧ conn.ctx.ccActive[conn.ctx.ccNum]? = some i) := by
  have bound : conn.ctx.ccNum ≤ shellMaxStreams := valid.order_length ▸ valid.table.num_le
  cases found : conn.findStream id with
  | some i => exact Or.inl ⟨i, by simp [openStream, found], rfl⟩
  | none =>
    refine Or.inr ?_
    rcases Nat.eq_or_lt_of_le bound with full | room
    · exact Or.inl ⟨by simp [openStream, found, full], rfl, full⟩
    · obtain ⟨i, next⟩ : ∃ i, conn.ctx.ccActive[conn.ctx.ccNum]? = some i :=
        ⟨_, List.getElem?_eq_getElem (valid.order_length ▸ room)⟩
      obtain ⟨free, -⟩ := valid.table.insert (List.nodup_finRange _) next (valid.findStream_none_iff.mp found)
      have idle : (conn.streams i).active = false := by
        rw [← Bool.not_eq_true, valid.active_iff]
        exact free
      have slot : (List.finRange shellMaxStreams).find? (fun j =>
          decide (conn.ctx.ccActive[conn.ctx.ccNum]? = some j) && !(conn.streams j).active) = some i := by
        cases scan : (List.finRange shellMaxStreams).find? (fun j =>
            decide (conn.ctx.ccActive[conn.ctx.ccNum]? = some j) && !(conn.streams j).active) with
        | none => simpa [next, idle] using List.find?_eq_none.mp scan i (List.mem_finRange i)
        | some j =>
          have here := List.find?_some scan
          simp only [next, Option.some.injEq, Bool.and_eq_true, decide_eq_true_eq] at here
          rw [here.1]
      refine Or.inr ⟨i, ?_, rfl, room, next⟩
      have notFull : ¬ (conn.ctx.ccCapacity ≤ conn.ctx.ccNum ∨ shellMaxStreams ≤ conn.ctx.ccNum) := by
        rw [valid.capacity]
        omega
      simp only [openStream, found, if_neg notFull, slot]

/-- Storing a phase and message bytes in the slot of a stream changes its entry only. -/
theorem Valid.store_spec (valid : conn.Valid) (found : conn.findStream id = some i) (phase : StreamPhase)
    {message : List UInt8} (length : message.length = shellStreamBufferSize) :
    let stored := (conn.setBuffer i message).setCtx i { (conn.streams i).ctx with scPhase := phase }
    stored.Valid ∧ stored.entry id = some ⟨phase, message⟩ ∧
      ∀ other, other ≠ id → stored.entry other = conn.entry other := by
  intro stored
  have self : stored.streams i = { conn.streams i with
      ctx := { (conn.streams i).ctx with scPhase := phase }, messageBuffer := message } := by
    simp [stored, setCtx, setBuffer]
  have rest : ∀ j, j ≠ i → stored.streams j = conn.streams j := by
    intro j other
    simp [stored, setCtx, setBuffer, other]
  have ids : ∀ j, (stored.streams j).ctx.scId = (conn.streams j).ctx.scId := by
    intro j
    by_cases here : j = i
    · rw [here, self]
    · rw [rest j here]
  have here := valid.findStream_iff.mp found
  have storedValid : stored.Valid := by
    refine ⟨valid.table.congr_key fun j _ => ids j, valid.capacity, ?_, ?_, ?_, ?_⟩
    · intro j
      by_cases same : j = i
      · rw [same, self]
        exact valid.active_iff i
      · rw [rest j same]
        exact valid.active_iff j
    · intro j unused
      rw [rest j fun same => unused (same ▸ here.1)]
      exact valid.idle j unused
    · intro j
      by_cases same : j = i
      · rw [same, self]
        exact valid.own_buffer i
      · rw [rest j same, valid.own_buffer]
    · intro j
      by_cases same : j = i
      · rw [same, self]
        exact length
      · rw [rest j same, valid.buffer_length]
  refine ⟨storedValid, ?_, ?_⟩
  · rw [entry_of_findStream (storedValid.findStream_iff.mpr ⟨here.1, (ids i).trans here.2⟩), self]
  · intro other different
    refine valid.entry_congr storedValid (fun j => by rw [ids j]; rfl) (fun j _ key => ?_)
    have apart : j ≠ i := fun same => different (key.symm.trans (same ▸ here.2))
    rw [rest j apart]
    exact ⟨rfl, rfl⟩

theorem resetStream_cleared {stream : ShellStream} (key : stream.ctx.scId = 0)
    (phase : stream.ctx.scPhase = .readingLength) (buf : stream.ctx.scBuf = i) (flag : stream.active = false) :
    resetStream i stream = stream := by
  obtain ⟨⟨_, _, _⟩, _, _⟩ := stream
  subst key phase buf flag
  rfl

theorem syncStreamSlots_used (member : i ∈ conn.inUse) (flag : (conn.streams i).active = true) :
    conn.syncStreamSlots.streams i = conn.streams i := by
  simp only [syncStreamSlots, streamIsActivePtr, show i ∈ conn.ctx.ccActive.take conn.ctx.ccNum from member,
    decide_true, if_true, ← flag]

theorem syncStreamSlots_unused (member : i ∉ conn.inUse) :
    conn.syncStreamSlots.streams i = resetStream i (conn.streams i) := by
  simp only [syncStreamSlots, streamIsActivePtr, show i ∉ conn.ctx.ccActive.take conn.ctx.ccNum from member,
    decide_false, Bool.false_eq_true, if_false]

/-- Bringing the slots in line does nothing to a connection whose records agree. -/
theorem Valid.syncStreamSlots_eq (valid : conn.Valid) : conn.syncStreamSlots = conn := by
  have same : conn.syncStreamSlots.streams = conn.streams := by
    funext i
    by_cases member : i ∈ conn.inUse
    · exact syncStreamSlots_used member ((valid.active_iff i).mpr member)
    · have flag : (conn.streams i).active = false := by
        rw [← Bool.not_eq_true, valid.active_iff]
        exact member
      rw [syncStreamSlots_unused member]
      exact resetStream_cleared (valid.idle i member).1 (valid.idle i member).2 (valid.own_buffer i) flag
  exact congrArg (ShellConnection.mk conn.ctx) same

theorem Valid.closeStream_absent (absent : conn.findStream id = none) : conn.closeStream id = conn := by
  rw [closeStream, Ism.closeStream_absent ((findStream_eq_core conn id).trans absent)]

/-- Closing a stream and bringing the slots in line removes exactly its entry. -/
theorem Valid.close_spec (valid : conn.Valid) (id : UInt64) :
    let closed := (conn.closeStream id).syncStreamSlots
    closed.Valid ∧ closed.entry id = none ∧ ∀ other, other ≠ id → closed.entry other = conn.entry other := by
  intro closed
  cases found : conn.findStream id with
  | none =>
    have same : closed = conn := by
      rw [show closed = (conn.closeStream id).syncStreamSlots from rfl, Valid.closeStream_absent found,
        valid.syncStreamSlots_eq]
    rw [same]
    exact ⟨valid, entry_eq_none_iff.mpr found, fun _ _ => rfl⟩
  | some i =>
    obtain ⟨table, -, capacity, members⟩ := closeStream_present valid.table
      (List.nodup_finRange _) ((findStream_eq_core conn id).trans found)
    have here := valid.findStream_iff.mp found
    have used : ∀ j, j ∈ closed.inUse ↔ j ∈ conn.inUse ∧ j ≠ i := members
    have kept : ∀ j ∈ closed.inUse, closed.streams j = conn.streams j := fun j member =>
      syncStreamSlots_used member ((valid.active_iff j).mpr ((used j).mp member).1)
    have cleared : ∀ j, j ∉ closed.inUse → closed.streams j = resetStream j (conn.streams j) := fun j member =>
      syncStreamSlots_unused member
    have closedValid : closed.Valid := by
      refine ⟨table.congr_key fun j member => ?_, capacity.trans valid.capacity, ?_, ?_, ?_, ?_⟩
      · rw [kept j member]
      · intro j
        by_cases member : j ∈ closed.inUse
        · rw [kept j member, valid.active_iff, iff_true_intro member, iff_true_intro ((used j).mp member).1]
        · simp [cleared j member, member, resetStream]
      · intro j member
        rw [cleared j member]
        exact ⟨rfl, rfl⟩
      · intro j
        by_cases member : j ∈ closed.inUse
        · rw [kept j member, valid.own_buffer]
        · rw [cleared j member]
          rfl
      · intro j
        by_cases member : j ∈ closed.inUse
        · rw [kept j member, valid.buffer_length]
        · rw [cleared j member]
          exact valid.buffer_length j
    refine ⟨closedValid, ?_, ?_⟩
    · rw [entry_eq_none_iff, closedValid.findStream_none_iff]
      intro j member holds
      rw [kept j member] at holds
      obtain ⟨before, apart⟩ := (used j).mp member
      exact apart (valid.table.key_inj before here.1 (holds.trans here.2.symm))
    · intro other different
      have apart : ∀ j, (conn.streams j).ctx.scId = other → j ≠ i := fun j key same =>
        different (key.symm.trans (same ▸ here.2))
      refine valid.entry_congr closedValid (fun j => ?_) (fun j member key => ?_)
      · constructor
        · rintro ⟨member, holds⟩
          rw [kept j member] at holds
          exact ⟨((used j).mp member).1, holds⟩
        · rintro ⟨member, holds⟩
          have stays := (used j).mpr ⟨member, apart j holds⟩
          exact ⟨stays, by rw [kept j stays, holds]⟩
      · rw [kept j ((used j).mpr ⟨member, apart j key⟩)]
        exact ⟨rfl, rfl⟩

/-- Closing a stream makes no entry and changes none. -/
theorem Valid.close_entry (valid : conn.Valid) {other : UInt64} {e : Entry}
    (present : (conn.closeStream id).syncStreamSlots.entry other = some e) : conn.entry other = some e := by
  obtain ⟨-, gone, kept⟩ := valid.close_spec id
  by_cases same : other = id
  · rw [same, gone] at present
    cases present
  · exact (kept other same).symm.trans present

/-- A finished send brings the slots in line whenever that makes a difference. -/
theorem Valid.dispatchResponseSendFinished_eq (valid : conn.Valid) (id : UInt64) (dropped : Bool) :
    conn.dispatchResponseSendFinished id dropped = (1, (conn.closeStream id).syncStreamSlots) := by
  simp only [dispatchResponseSendFinished]
  split
  · rfl
  · next stale =>
    cases found : conn.findStream id with
    | none => rw [Valid.closeStream_absent found, valid.syncStreamSlots_eq]
    | some i =>
      have here := valid.findStream_iff.mp found
      have flag := (valid.active_iff i).mpr here.1
      refine absurd (List.any_eq_true.mpr ⟨i, List.mem_finRange i, ?_⟩) stale
      simp [closeStream, flag, here.2]

/-- An entry on its own, as a context that is in no table. -/
def Entry.ctx (e : Entry) : StreamContext Unit := ⟨0, e.phase, ()⟩

/-- What a fragment and a FIN do to one stream, apart from the table. -/
def Entry.feed (e : Entry) (data : List UInt8) : Entry :=
  let after := handleStreamData e.ctx e.message data
  ⟨after.1, after.2.2⟩

def Entry.finish (e : Entry) : Entry := ⟨(handleStreamFin e.ctx e.message).1, e.message⟩

/-- The entry that a delivery to `id` starts from: a new one keeps the bytes that an
earlier stream left in its slot. -/
def Starts (conn : ShellConnection) (id : UInt64) (e : Entry) : Prop :=
  conn.entry id = some e ∨
    conn.entry id = none ∧ conn.ctx.ccNum < shellMaxStreams ∧ e.phase = .readingLength ∧
      e.message.length = shellStreamBufferSize

/-- A delivery to `id` is refused by a full table, or acts as `f` on its entry alone. -/
inductive Delivered (conn : ShellConnection) (id : UInt64) (f : Entry → Entry) : UInt8 × ShellConnection → Prop
  | refused (absent : conn.entry id = none) (full : conn.ctx.ccNum = shellMaxStreams) :
    Delivered conn id f (3, conn)
  | acted {e : Entry} {after : ShellConnection} (starts : conn.Starts id e) (valid : after.Valid)
    (here : after.entry id = some (f e)) (others : ∀ other, other ≠ id → after.entry other = conn.entry other) :
    Delivered conn id f (shellPhaseCode (f e).phase, after)

theorem Delivered.valid (before : conn.Valid) {f : Entry → Entry}
    {result : UInt8 × ShellConnection} (delivered : Delivered conn id f result) : result.2.Valid := by
  cases delivered with
  | refused => exact before
  | acted _ valid => exact valid

/-- A delivery to one stream leaves the entries of all others alone. -/
theorem Delivered.entry_other {other : UInt64} {f : Entry → Entry} {result : UInt8 × ShellConnection}
    (delivered : Delivered conn id f result) (apart : other ≠ id) : result.2.entry other = conn.entry other := by
  cases delivered with
  | refused => rfl
  | acted _ _ _ others => exact others other apart

theorem Valid.opened (valid : conn.Valid) (id : UInt64) :
    (conn.openStream id = (none, conn) ∧ conn.entry id = none ∧ conn.ctx.ccNum = shellMaxStreams) ∨
    ∃ i mid, conn.openStream id = (some i, mid) ∧ mid.Valid ∧ mid.findStream id = some i ∧
      conn.Starts id ⟨(mid.streams i).ctx.scPhase, (mid.streams i).messageBuffer⟩ ∧
      ∀ other, other ≠ id → mid.entry other = conn.entry other := by
  rcases valid.openStream_cases id with ⟨i, opened, found⟩ | ⟨opened, absent, full⟩ | ⟨i, opened, absent, room, next⟩
  · exact Or.inr ⟨i, conn, opened, valid, found, Or.inl (entry_of_findStream found), fun _ _ => rfl⟩
  · exact Or.inl ⟨opened, entry_eq_none_iff.mpr absent, full⟩
  · obtain ⟨taken, found, others⟩ := valid.takeSlot_spec absent next
    refine Or.inr ⟨i, _, opened, taken, found, Or.inr ⟨entry_eq_none_iff.mpr absent, room, ?_, ?_⟩, others⟩
    · simp [takeSlot]
    · exact taken.buffer_length i

theorem Valid.scBuf_eq (valid : conn.Valid) (i : Slot) : conn.scBuf i = (conn.streams i).messageBuffer := by
  rw [scBuf, valid.own_buffer]

theorem Valid.dispatchAuthenticatedStreamData_spec (valid : conn.Valid) (id : UInt64) (data : List UInt8) :
    Delivered conn id (fun e => e.feed data) (conn.dispatchAuthenticatedStreamData id data) := by
  rcases valid.opened id with ⟨opened, absent, full⟩ | ⟨i, mid, opened, midValid, found, starts, others⟩
  · rw [dispatchAuthenticatedStreamData, opened]
    exact Delivered.refused absent full
  · have room : 65535 ≤ (mid.streams i).messageBuffer.length := Nat.le_of_eq (midValid.buffer_length i).symm
    obtain ⟨stored, here, rest⟩ := midValid.store_spec found
      (nextStreamPhase (mid.streams i).ctx data)
      ((copyBodyBytes_length (mid.streams i).ctx room data).trans (midValid.buffer_length i))
    simp only [midValid.own_buffer] at stored here rest
    simp only [dispatchAuthenticatedStreamData, opened, handleStreamData, midValid.scBuf_eq, midValid.own_buffer]
    exact Delivered.acted starts stored here
      fun other different => (rest other different).trans (others other different)

theorem setBuffer_same (conn : ShellConnection) (i : Slot) :
    conn.setBuffer i (conn.streams i).messageBuffer = conn := by
  rw [setBuffer, Function.update_eq_self]

theorem Valid.onAuthenticatedStreamFin_spec (valid : conn.Valid) (id : UInt64) :
    Delivered conn id Entry.finish (conn.onAuthenticatedStreamFin id) := by
  rcases valid.opened id with ⟨opened, absent, full⟩ | ⟨i, mid, opened, midValid, found, starts, others⟩
  · rw [onAuthenticatedStreamFin, opened]
    exact Delivered.refused absent full
  · obtain ⟨stored, here, rest⟩ := midValid.store_spec found
      (handleStreamFin (mid.streams i).ctx (mid.streams i).messageBuffer).1 (midValid.buffer_length i)
    rw [setBuffer_same] at stored here rest
    simp only [onAuthenticatedStreamFin, opened, midValid.scBuf_eq]
    exact Delivered.acted starts stored here
      fun other different => (rest other different).trans (others other different)

end ShellConnection

end Ism
