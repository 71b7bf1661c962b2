import Mathlib.Data.List.Pairwise
import Ism.PulseShell

namespace Ism

open Lib

namespace Pulse

theorem toMessageLength_val (n : MessageLength) : toMessageLength n = some n :=
  dif_pos (Nat.le_of_lt_succ n.isLt)

/-- No phase is rejected on the way in. -/
theorem decodePhase_phaseToWire (phase : StreamPhase) : decodePhase (phaseToWire phase) = some phase := by
  cases phase with
  | readingLength | readingLengthHigh | done => rfl
  | readingMessage expected | awaitingFin expected | processing expected =>
    simp [decodePhase, phaseToWire, toMessageLength_val]

theorem phaseFromWire_phaseToWire (phase : StreamPhase) : phaseFromWire (phaseToWire phase) = phase := by
  cases phase with
  | readingLength | readingLengthHigh | done => rfl
  | readingMessage expected | awaitingFin expected | processing expected =>
    simp [phaseFromWire, phaseToWire, toMessageLength_val]

theorem encode_phase (phase : StreamPhase) : (encode phase).phase = phaseToWire phase := by
  cases phase <;> rfl

theorem encode_code (phase : StreamPhase) : (encode phase).code = shellPhaseCode phase := by
  cases phase <;> rfl

theorem copyRangeFrom_eq_blit {src dst : List UInt8} {source destination left i : Nat}
    (inside : source + i + left ≤ src.length) (room : destination + i + left ≤ dst.length) :
    copyRangeFrom src source destination left i dst = blit src (source + i) dst (destination + i) left := by
  induction left generalizing i dst with
  | zero => rw [copyRangeFrom, blit_zero]
  | succ left ih =>
    rw [copyRangeFrom, blit_succ (by omega) (by omega) 0]
    exact ih (by omega) (by rw [List.length_set]; omega)

/-- The copy loop of the candidate build copies what the stable one does. -/
theorem copyRange_eq_blit {src dst : List UInt8} {source destination count : Nat}
    (inside : source + count ≤ src.length) (room : destination + count ≤ dst.length) :
    copyRange src dst source destination count = blit src source dst destination count :=
  copyRangeFrom_eq_blit inside room

theorem handleStreamData_eq {β γ : Type} {ctx : StreamContext β} {other : StreamContext γ}
    (same : ctx.scPhase = other.scPhase) {buf : List UInt8} (room : 65535 ≤ buf.length) (data : List UInt8) :
    handleStreamData ctx buf data = (nextStreamPhase other data, copyBodyBytes other buf data) := by
  have bounds := fragmentCopyPlan_bounds other.scPhase data
  rw [copyBodyBytes_eq_blit, nextStreamPhase, handleStreamData, same]
  exact congrArg (Prod.mk _) (copyRange_eq_blit bounds.1 (Nat.le_trans bounds.2 room))

/-- Both builds frame a response alike. -/
theorem frameResponse_eq {response destination : List UInt8} :
    frameResponse response destination response.length destination.length =
      prepareDoqResponseSendForStream response response.length destination destination.length := by
  rw [frameResponse, prepareDoqResponseSendForStream]
  dsimp only
  split
  case isTrue => rfl
  case isFalse framed =>
    have room : response.length + 2 ≤ destination.length := by
      unfold framedLength at framed
      split at framed
      · exact absurd rfl framed
      · dsimp only at framed
        split at framed
        · exact absurd rfl framed
        · omega
    rw [copyResponseBytesWithPrefix,
      copyResponseBytesWithPrefixLoop_eq_blit (by omega) (by simp only [List.length_set]; omega),
      copyRange_eq_blit (by omega) (by simp only [List.length_set]; omega)]
    rfl

end Pulse

/-- A live object in memory. The address one past its end can be named, too. -/
structure Region where
  address : Nat
  size : Nat
  deriving DecidableEq

namespace Region

def Live (r : Region) : Prop := 0 < r.address ∧ r.address + r.size ≤ uintptrMax

def Apart (r s : Region) : Prop :=
  r.size = 0 ∨ s.size = 0 ∨ r.address + r.size ≤ s.address ∨ s.address + s.size ≤ r.address

instance (r : Region) : Decidable r.Live := inferInstanceAs (Decidable (_ ∧ _))

instance (r s : Region) : Decidable (r.Apart s) := inferInstanceAs (Decidable (_ ∨ _ ∨ _ ∨ _))

variable {r s : Region}

/-- The range test of the table passes every live object. -/
theorem Live.rangeOk (live : r.Live) : rangeOk r.address r.size = true := by
  obtain ⟨positive, fits⟩ := live
  exact decide_eq_true ⟨by omega, by omega⟩

theorem Apart.symm (apart : r.Apart s) : s.Apart r := by
  unfold Apart at *
  omega

theorem Apart.responseDisjoint (apart : r.Apart s) (left : r.Live) (right : s.Live) :
    responseDisjoint r.address r.size s.address s.size = true := by
  rw [Ism.responseDisjoint, left.rangeOk, right.rangeOk]
  exact decide_eq_true apart

/-- Its overlap test tells objects apart, unless one of them is empty. -/
theorem Apart.disjoint (apart : r.Apart s) (left : r.Live) (right : s.Live) (sized : r.size ≠ 0) (other : s.size ≠ 0) :
    disjoint r.address r.size s.address s.size = true := by
  rw [Ism.disjoint, left.rangeOk, right.rangeOk]
  exact decide_eq_true ((apart.resolve_left sized).resolve_left other)

end Region

/-- The calls of the shell, each with the buffers that it is given. -/
inductive ShellRequest
  | findStream (id : UInt64)
  | openStream (id : UInt64)
  | onAuthenticatedStreamData (id : UInt64) (data : List UInt8)
  | dispatchAuthenticatedStreamData (id : UInt64) (data : List UInt8)
  | onAuthenticatedStreamFin (id : UInt64)
  | completeResponseSend (id : UInt64) (dropped : Bool)
  | dispatchResponseSendFinished (id : UInt64) (dropped : Bool)
  | dispatchStreamReset (id : UInt64)
  | prepareDoqResponseSend (id : UInt64) (response destination : List UInt8) (fin : Bool)

inductive ShellReply
  | slot (found : Option Slot)
  | code (code : UInt8)
  | framed (length : Nat) (destination : List UInt8)
  deriving DecidableEq

namespace ShellConnection

def serve (conn : ShellConnection) : ShellRequest → ShellReply × ShellConnection
  | .findStream streamId => (.slot (conn.findStream streamId), conn)
  | .openStream streamId => (conn.openStream streamId).map .slot id
  | .onAuthenticatedStreamData streamId data => (conn.onAuthenticatedStreamData streamId data).map .code id
  | .dispatchAuthenticatedStreamData streamId data => (conn.dispatchAuthenticatedStreamData streamId data).map .code id
  | .onAuthenticatedStreamFin streamId => (conn.onAuthenticatedStreamFin streamId).map .code id
  | .completeResponseSend streamId dropped => (conn.completeResponseSend streamId dropped).map .code id
  | .dispatchResponseSendFinished streamId dropped => (conn.dispatchResponseSendFinished streamId dropped).map .code id
  | .dispatchStreamReset streamId => (conn.dispatchStreamReset streamId).map .code id
  | .prepareDoqResponseSend streamId response destination _ =>
    let (length, framed) := conn.prepareDoqResponseSend streamId response response.length destination destination.length
    (.framed length framed, conn)

end ShellConnection

namespace PulseShell

def serve (layout : MemoryLayout) (conn : ShellConnection) : CallFrame × ShellRequest → ShellReply × ShellConnection
  | (frame, .findStream streamId) => (.slot (findStream layout frame conn streamId), conn)
  | (frame, .openStream streamId) => (openStream layout frame conn streamId).map .slot id
  | (frame, .onAuthenticatedStreamData streamId data) =>
    (onAuthenticatedStreamData layout frame conn streamId data).map .code id
  | (frame, .dispatchAuthenticatedStreamData streamId data) =>
    (dispatchAuthenticatedStreamData layout frame conn streamId data).map .code id
  | (frame, .onAuthenticatedStreamFin streamId) => (onAuthenticatedStreamFin layout frame conn streamId).map .code id
  | (frame, .completeResponseSend streamId dropped) =>
    (completeResponseSend layout frame conn streamId dropped).map .code id
  | (frame, .dispatchResponseSendFinished streamId dropped) =>
    (dispatchResponseSendFinished layout frame conn streamId dropped).map .code id
  | (frame, .dispatchStreamReset streamId) => (dispatchStreamReset layout frame conn streamId).map .code id
  | (frame, .prepareDoqResponseSend streamId response destination _) =>
    let (length, framed) :=
      prepareDoqResponseSend layout frame conn streamId response response.length destination destination.length
    (.framed length framed, conn)

end PulseShell

/-- Serves the requests one after the other and collects the replies. -/
def serveAll {ι : Type} (serve : ShellConnection → ι → ShellReply × ShellConnection) :
    ShellConnection → List ι → List ShellReply × ShellConnection
  | conn, [] => ([], conn)
  | conn, request :: requests =>
    let (reply, conn) := serve conn request
    let (replies, conn) := serveAll serve conn requests
    (reply :: replies, conn)

/-- The buffers that a request hands over. -/
def ShellRequest.buffers (frame : CallFrame) : ShellRequest → List Region
  | onAuthenticatedStreamData _ data | dispatchAuthenticatedStreamData _ data => [⟨frame.data, data.length⟩]
  | prepareDoqResponseSend _ response destination _ =>
    [⟨frame.response, response.length⟩, ⟨frame.destination, destination.length⟩]
  | findStream _ | openStream _ | onAuthenticatedStreamFin _ | completeResponseSend .. | dispatchResponseSendFinished ..
  | dispatchStreamReset _ => []

namespace MemoryLayout

variable (layout : MemoryLayout)

/-- The objects that a call can reach: the table and the empty byte on the stack, the parts of
the connection, and the buffers of the request. -/
def regions (frame : CallFrame) (request : ShellRequest) : List Region :=
  ⟨frame.wire, PulseTable.size⟩ :: ⟨frame.empty, 1⟩ ::
    ((List.finRange shellMaxStreams).map (fun i => ⟨layout.message i, shellStreamBufferSize⟩) ++
      (List.finRange shellMaxStreams).map (fun i => ⟨layout.context i, layout.contextSize⟩) ++ request.buffers frame)

/-- The objects are live and do not overlap. -/
def Placed (frame : CallFrame) (request : ShellRequest) : Prop :=
  (∀ r ∈ layout.regions frame request, r.Live) ∧ (layout.regions frame request).Pairwise Region.Apart ∧
    frame.wire % PulseTable.alignment = 0

instance (frame : CallFrame) (request : ShellRequest) : Decidable (layout.Placed frame request) :=
  inferInstanceAs (Decidable (_ ∧ _ ∧ _))

/-- The connection as its neutral table should be. -/
def wireOf (conn : ShellConnection) : PulseTable where
  slots := fun i =>
    { id := (conn.streams i).ctx.scId
      phase := Pulse.phaseToWire (conn.streams i).ctx.scPhase
      message := layout.message i
      messageCapacity := shellStreamBufferSize }
  order := conn.ctx.ccActive.map Fin.val
  count := conn.ctx.ccNum
  capacity := conn.ctx.ccCapacity

end MemoryLayout

namespace PulseShell

theorem physicalOf_eq (ptr : Slot) : physicalOf ptr = ptr.val := by
  revert ptr
  decide

theorem snapshotOrder_eq {ptrs : List Slot} (nodup : ptrs.Nodup) {seen : List Nat}
    (fresh : ∀ ptr ∈ ptrs, ptr.val ∉ seen) : snapshotOrder seen ptrs = some (ptrs.map Fin.val) := by
  induction ptrs generalizing seen with
  | nil => rfl
  | cons ptr ptrs ih =>
    obtain ⟨absent, nodup⟩ := List.nodup_cons.mp nodup
    have pass : ¬ (physicalOf ptr = shellMaxStreams ∨ physicalOf ptr ∈ seen) := by
      rw [physicalOf_eq]
      rintro (outside | again)
      · exact absurd ptr.isLt (by omega)
      · exact fresh ptr List.mem_cons_self again
    have later : ∀ other ∈ ptrs, other.val ∉ physicalOf ptr :: seen := by
      intro other member again
      rw [physicalOf_eq] at again
      rcases List.mem_cons.mp again with same | old
      · exact absent (Fin.ext same ▸ member)
      · exact fresh other (List.mem_cons_of_mem _ member) old
    rw [snapshotOrder, if_neg pass, ih nodup later, physicalOf_eq]
    rfl

variable {layout : MemoryLayout} {frame : CallFrame} {conn : ShellConnection} {streamId : UInt64}

theorem valid_nodup (valid : conn.Valid) : conn.ctx.ccActive.Nodup :=
  valid.table.order_perm.nodup_iff.mpr (List.nodup_finRange _)

/-- A connection whose records agree is never rejected. -/
theorem snapshot_eq (valid : conn.Valid) : snapshot layout conn = some (layout.wireOf conn) := by
  have bound : conn.ctx.ccNum ≤ shellMaxStreams := valid.order_length ▸ valid.table.num_le
  have counters : ¬ (conn.ctx.ccCapacity < conn.ctx.ccNum ∨ shellMaxStreams < conn.ctx.ccCapacity) := by
    rw [valid.capacity]
    omega
  have agree : ((List.finRange shellMaxStreams).all fun i =>
      decide ((conn.streams i).ctx.scBuf = i) && decide ((conn.streams i).active =
        decide (i.val ∈ (conn.ctx.ccActive.map Fin.val).take conn.ctx.ccNum))) = true := by
    rw [List.all_eq_true]
    intro i _
    rw [Bool.and_eq_true, decide_eq_true_eq, decide_eq_true_eq]
    refine ⟨valid.own_buffer i, ?_⟩
    rw [Bool.eq_iff_iff, valid.active_iff, decide_eq_true_eq, ← List.map_take,
      List.mem_map_of_injective fun _ _ => Fin.ext]
    rfl
  rw [snapshot, if_neg counters, snapshotOrder_eq (valid_nodup valid) (fun _ _ => List.not_mem_nil)]
  dsimp only
  rw [if_pos agree]
  rfl

section Table

variable {request : ShellRequest}

theorem message_live (placed : layout.Placed frame request) (i : Slot) :
    Region.Live ⟨layout.message i, shellStreamBufferSize⟩ :=
  placed.1 _ (by simp [MemoryLayout.regions])

theorem wire_live (placed : layout.Placed frame request) : Region.Live ⟨frame.wire, PulseTable.size⟩ :=
  placed.1 _ (by simp [MemoryLayout.regions])

theorem wire_apart (placed : layout.Placed frame request) (i : Slot) :
    Region.Apart ⟨frame.wire, PulseTable.size⟩ ⟨layout.message i, shellStreamBufferSize⟩ :=
  List.rel_of_pairwise_cons placed.2.1 (by simp)

theorem messages_apart (placed : layout.Placed frame request) {i j : Slot} (other : i ≠ j) :
    Region.Apart ⟨layout.message i, shellStreamBufferSize⟩ ⟨layout.message j, shellStreamBufferSize⟩ := by
  have messages := (List.pairwise_append.mp (List.pairwise_append.mp placed.2.1.of_cons.of_cons).1).1
  have : Std.Symm fun i j : Slot => Region.Apart ⟨layout.message i, shellStreamBufferSize⟩
      ⟨layout.message j, shellStreamBufferSize⟩ := ⟨fun _ _ apart => apart.symm⟩
  exact (List.pairwise_map.mp messages).forall (List.mem_finRange i) (List.mem_finRange j) other

/-- Every slot of the neutral table passes its checks. -/
theorem slotOk_wireOf (placed : layout.Placed frame request) (i : Slot) :
    PulseTable.slotOk frame.wire (layout.wireOf conn) i = true := by
  have buffer : shellStreamBufferSize ≠ 0 := by decide
  have size : PulseTable.size ≠ 0 := by decide
  have apart : ∀ j, (!decide (j < i) || disjoint (layout.message i) shellStreamBufferSize (layout.message j)
      shellStreamBufferSize) = true := by
    intro j
    by_cases before : j < i
    · rw [(messages_apart placed (Fin.ne_of_gt before)).disjoint (message_live placed i) (message_live placed j) buffer
        buffer, Bool.or_true]
    · rw [decide_eq_false before, Bool.not_false, Bool.true_or]
  have table := (wire_apart placed i).disjoint (wire_live placed) (message_live placed i) size buffer
  have room : Pulse.messageCapacity ≤ shellStreamBufferSize := Nat.le_refl _
  simp only [PulseTable.slotOk, MemoryLayout.wireOf, Pulse.decodePhase_phaseToWire, table, apart, room, decide_true,
    Option.isSome_some, Bool.and_true, Bool.true_and, List.all_eq_true, implies_true]

theorem map_ofNat_val (ptrs : List Slot) : (ptrs.map Fin.val).map (Fin.ofNat shellMaxStreams) = ptrs := by
  rw [List.map_map]
  exact List.map_id'' (fun i => Fin.ofNat_val_eq_self i) _

theorem conn_wireOf : (layout.wireOf conn).conn = conn.ctx :=
  congrArg (fun order => ConnectionContext.mk order conn.ctx.ccNum conn.ctx.ccCapacity) (map_ofNat_val _)

/-- The table that stands for a connection passes every check. -/
theorem apply_wireOf (valid : conn.Valid) (placed : layout.Placed frame request) (operation : TableOperation) :
    (layout.wireOf conn).apply frame.wire operation streamId = (layout.wireOf conn).operate streamId operation := by
  have bound : conn.ctx.ccNum ≤ shellMaxStreams := valid.order_length ▸ valid.table.num_le
  have counters : conn.ctx.ccNum ≤ conn.ctx.ccCapacity ∧ conn.ctx.ccCapacity ≤ shellMaxStreams := by
    rw [valid.capacity]
    omega
  have entries : ((conn.ctx.ccActive.map Fin.val).all fun n => decide (n < shellMaxStreams)) = true := by
    simp [List.all_eq_true]
  have nodup : (conn.ctx.ccActive.map Fin.val).Nodup := (valid_nodup valid).map fun _ _ => Fin.ext
  have slots :
      ((List.finRange shellMaxStreams).all fun i => PulseTable.slotOk frame.wire (layout.wireOf conn) i) = true :=
    List.all_eq_true.mpr fun i _ => slotOk_wireOf placed i
  have accepted : PulseTable.accepted frame.wire (layout.wireOf conn) = true := by
    rw [PulseTable.accepted, (wire_live placed).rangeOk, slots, placed.2.2]
    simp only [MemoryLayout.wireOf, counters, entries, nodup]
    rfl
  rw [PulseTable.apply, if_pos accepted]

/-- The table is searched in the same order. -/
theorem findStream_wireOf :
    Pulse.findStream (layout.wireOf conn).contexts conn.ctx streamId =
      Pulse.findStream conn.heap conn.ctx streamId := by
  rw [Pulse.findStream_eq, Pulse.findStream_eq]
  rfl

/-- The index that the table finds leads to the slot that the stable scan finds. -/
theorem hit_iff (valid : conn.Valid) {i : Slot} :
    Pulse.findStream conn.heap conn.ctx streamId < conn.ctx.ccNum ∧
        conn.ctx.ccActive[Pulse.findStream conn.heap conn.ctx streamId]? = some i ↔
      conn.findStream streamId = some i := by
  rw [Pulse.findStream_hit_iff valid.table.num_le, ShellConnection.findStream_eq_core]

theorem ofNat_order {index : Nat} {i : Slot} (here : conn.ctx.ccActive[index]? = some i) :
    Fin.ofNat shellMaxStreams ((layout.wireOf conn).order.getD index 0) = i := by
  rw [MemoryLayout.wireOf, List.getD_eq_getElem?_getD, List.getElem?_map, here]
  exact Fin.ofNat_val_eq_self i

theorem operate_find : (layout.wireOf conn).operate streamId .find =
    (Pulse.findStream conn.heap conn.ctx streamId, layout.wireOf conn) := by
  rw [PulseTable.operate, conn_wireOf, findStream_wireOf]

theorem operate_allocate_full (full : conn.ctx.ccCapacity ≤ conn.ctx.ccNum) :
    (layout.wireOf conn).operate streamId .allocate = (conn.ctx.ccCapacity, layout.wireOf conn) := by
  have refused : Pulse.allocateStream (layout.wireOf conn).contexts conn.ctx streamId =
      (conn.ctx.ccCapacity, (layout.wireOf conn).contexts, conn.ctx) :=
    if_pos (Or.inr (Nat.not_lt.mpr full))
  rw [PulseTable.operate, conn_wireOf, refused]
  exact if_neg (Nat.lt_irrefl _)

/-- The search for a stream that is not in the table passes all entries. -/
theorem findStream_miss (valid : conn.Valid) (absent : conn.findStream streamId = none) :
    ¬ Pulse.findStream conn.heap conn.ctx streamId < conn.ctx.ccNum :=
  (Pulse.findStream_miss_iff valid.table.num_le).mpr ((ShellConnection.findStream_eq_core _ _).trans absent)

theorem operate_allocate_free (valid : conn.Valid) (absent : conn.findStream streamId = none)
    (room : conn.ctx.ccNum < conn.ctx.ccCapacity) {i : Slot} (next : conn.ctx.ccActive[conn.ctx.ccNum]? = some i) :
    (layout.wireOf conn).operate streamId .allocate =
      (conn.ctx.ccNum,
        { layout.wireOf conn with
          slots := Function.update (layout.wireOf conn).slots i
            { (layout.wireOf conn).slots i with id := streamId, phase := ⟨0, 0, 0, 0⟩ }
          count := conn.ctx.ccNum + 1 }) := by
  have miss : ¬ Pulse.findStream (layout.wireOf conn).contexts conn.ctx streamId < conn.ctx.ccNum := by
    rw [findStream_wireOf]
    exact findStream_miss valid absent
  have taken : Pulse.allocateStream (layout.wireOf conn).contexts conn.ctx streamId =
      (conn.ctx.ccNum,
        Function.update (layout.wireOf conn).contexts i
          { (layout.wireOf conn).contexts i with scId := streamId, scPhase := .readingLength },
        { conn.ctx with ccNum := conn.ctx.ccNum + 1 }) := by
    refine (if_neg (not_or.mpr ⟨miss, not_not.mpr room⟩)).trans ?_
    rw [next]
  rw [PulseTable.operate, conn_wireOf, taken]
  refine (if_pos room).trans ?_
  dsimp only
  rw [ofNat_order next, Function.update_self]

/-- The table finds the slot that the stable scan finds. -/
theorem tableFind_eq (valid : conn.Valid) (placed : layout.Placed frame request) :
    tableFind layout frame conn streamId = conn.findStream streamId := by
  rw [tableFind, snapshot_eq valid]
  dsimp only
  rw [apply_wireOf valid placed, operate_find]
  cases found : conn.findStream streamId with
  | none => exact if_neg (findStream_miss valid found)
  | some i =>
    obtain ⟨hit, here⟩ := (hit_iff valid).mpr found
    exact (if_pos hit).trans (congrArg some (ofNat_order here))

theorem findStream_ne_invalid (valid : conn.Valid) :
    Pulse.findStream conn.heap conn.ctx streamId ≠ PulseTable.invalid := by
  have short : (conn.ctx.ccActive.take conn.ctx.ccNum).length ≤ shellMaxStreams :=
    valid.order_length ▸ List.length_take_le' _ _
  have inside : Pulse.findStream conn.heap conn.ctx streamId ≤ shellMaxStreams := by
    rw [Pulse.findStream_eq]
    exact Nat.le_trans List.findIdx_le_length short
  exact Nat.ne_of_lt (Nat.lt_of_le_of_lt inside (by decide))

/-- The table opens a stream in the slot where the stable scan opens it. -/
theorem tableOpen_eq (valid : conn.Valid) (placed : layout.Placed frame request) :
    tableOpen layout frame conn streamId = conn.openStream streamId := by
  rw [tableOpen, snapshot_eq valid]
  dsimp only
  rw [apply_wireOf valid placed, apply_wireOf valid placed, operate_find, if_neg (findStream_ne_invalid valid)]
  rcases valid.openStream_cases streamId with
    ⟨i, opened, found⟩ | ⟨opened, absent, full⟩ | ⟨i, opened, absent, room, next⟩
  · obtain ⟨hit, here⟩ := (hit_iff valid).mpr found
    rw [opened]
    exact (if_pos hit).trans (congrArg (fun slot => (some slot, conn)) (ofNat_order here))
  · have miss := findStream_miss valid absent
    rw [opened, operate_allocate_full (Nat.le_of_eq (valid.capacity.trans full.symm))]
    exact (if_neg miss).trans (if_pos (Nat.le_refl _))
  · have miss := findStream_miss valid absent
    rw [← valid.capacity] at room
    rw [opened, operate_allocate_free valid absent room next]
    refine (if_neg miss).trans ((if_neg (Nat.not_le.mpr room)).trans ?_)
    dsimp only
    rw [ofNat_order next, Function.update_self, ShellConnection.takeSlot, valid.own_buffer]
    rfl

/-- The table closes a stream as the stable build does. -/
theorem operate_close (valid : conn.Valid) :
    (layout.wireOf conn).operate streamId .close =
      if Pulse.findStream conn.heap conn.ctx streamId < conn.ctx.ccNum then
        (1,
          { layout.wireOf conn with
            order := (Ism.closeStream conn.heap conn.ctx streamId).ccActive.map Fin.val
            count := (Ism.closeStream conn.heap conn.ctx streamId).ccNum })
      else (0, layout.wireOf conn) := by
  have same : Pulse.closeStream (layout.wireOf conn).contexts conn.ctx streamId =
      Pulse.closeStream conn.heap conn.ctx streamId := by
    rw [Pulse.closeStream, Pulse.closeStream, ← Pulse.findStream, ← Pulse.findStream, findStream_wireOf]
  rw [PulseTable.operate, conn_wireOf, same, Pulse.closeStream_eq valid.table.num_le]
  simp only [decide_eq_true_eq]

/-- The order that comes back is the order after the stable close. -/
theorem tableClose_eq (valid : conn.Valid) (placed : layout.Placed frame request) :
    tableClose layout frame conn streamId = (1, conn.closeStream streamId) := by
  rw [tableClose, snapshot_eq valid]
  dsimp only
  rw [apply_wireOf valid placed, operate_close valid]
  by_cases hit : Pulse.findStream conn.heap conn.ctx streamId < conn.ctx.ccNum
  · have capacity : (Ism.closeStream conn.heap conn.ctx streamId).ccCapacity = conn.ctx.ccCapacity :=
      Pulse.closeStream_ccCapacity ..
    have accepted : (1 : Nat) ≠ PulseTable.invalid := by decide
    rw [if_pos hit]
    refine (if_neg accepted).trans ((if_pos rfl).trans ?_)
    rw [map_ofNat_val, ← capacity]
    rfl
  · have absent := (Pulse.findStream_miss_iff valid.table.num_le).mp hit
    rw [if_neg hit, ShellConnection.closeStream, closeStream_absent absent]
    rfl

end Table

section Ingress

variable {request : ShellRequest} {r : Region} {i : Slot}

theorem buffer_live (placed : layout.Placed frame request) (member : r ∈ request.buffers frame) : r.Live :=
  placed.1 r (by simp [MemoryLayout.regions, member])

theorem message_apart (placed : layout.Placed frame request) (i : Slot) (member : r ∈ request.buffers frame) :
    Region.Apart ⟨layout.message i, shellStreamBufferSize⟩ r :=
  (List.pairwise_append.mp placed.2.1.of_cons.of_cons).2.2 _ (by simp) r member

theorem context_live (placed : layout.Placed frame request) (i : Slot) :
    Region.Live ⟨layout.context i, layout.contextSize⟩ :=
  placed.1 _ (by simp [MemoryLayout.regions])

theorem context_apart (placed : layout.Placed frame request) (i : Slot) (member : r ∈ request.buffers frame) :
    Region.Apart ⟨layout.context i, layout.contextSize⟩ r :=
  (List.pairwise_append.mp placed.2.1.of_cons.of_cons).2.2 _ (by simp) r member

theorem streamData_eq {β : Type} (ctx : StreamContext β) {buf data : List UInt8} {message input : Nat}
    (live : Region.Live ⟨message, shellStreamBufferSize⟩) (inputLive : Region.Live ⟨input, data.length⟩)
    (apart : Region.Apart ⟨message, shellStreamBufferSize⟩ ⟨input, data.length⟩) (room : 65535 ≤ buf.length) :
    Pulse.streamData (Pulse.phaseToWire ctx.scPhase) streamId message shellStreamBufferSize buf input data.length data =
      (Pulse.encode (nextStreamPhase ctx data), copyBodyBytes ctx buf data) := by
  have sizes : ¬ (shellStreamBufferSize < Pulse.messageCapacity ∨ rangeOk message shellStreamBufferSize = false ∨
      data.length < data.length) := by
    rw [live.rangeOk]
    simp [Pulse.messageCapacity, shellStreamBufferSize]
  have separate : ¬ (data.length ≠ 0 ∧ disjoint message shellStreamBufferSize input data.length = false) := by
    rintro ⟨sized, overlap⟩
    have buffer : shellStreamBufferSize ≠ 0 := by decide
    rw [apart.disjoint live inputLive buffer sized] at overlap
    cases overlap
  have handled : Pulse.handleStreamData (⟨streamId, ctx.scPhase, message⟩ : StreamContext Nat) buf data =
      (nextStreamPhase ctx data, copyBodyBytes ctx buf data) :=
    Pulse.handleStreamData_eq rfl room data
  rw [Pulse.streamData, Pulse.decodePhase_phaseToWire]
  refine (if_neg sizes).trans ((if_neg separate).trans ?_)
  rw [handled]

/-- Data goes through the value of the stream, and comes back as the stable update. -/
theorem ingressData_eq (valid : conn.Valid) (placed : layout.Placed frame request)
    (found : conn.findStream streamId = some i) {data : List UInt8}
    (buffer : ⟨frame.data, data.length⟩ ∈ request.buffers frame) :
    ingressData layout frame conn i streamId data =
      let after := handleStreamData (conn.streams i).ctx (conn.scBuf i) data
      (shellPhaseCode after.1, (conn.setBuffer (conn.streams i).ctx.scBuf after.2.2).setCtx i after.2.1) := by
  have matching : ¬ (conn.streams i).ctx.scId ≠ streamId := not_not.mpr (valid.findStream_iff.mp found).2
  have room : 65535 ≤ (conn.scBuf i).length := by
    rw [valid.scBuf_eq]
    exact Nat.le_of_eq (valid.buffer_length i).symm
  have fed : Pulse.streamData (Pulse.phaseToWire (conn.streams i).ctx.scPhase) streamId
      (layout.message (conn.streams i).ctx.scBuf) shellStreamBufferSize (conn.scBuf i) frame.data data.length data =
      (Pulse.encode (nextStreamPhase (conn.streams i).ctx data),
        copyBodyBytes (conn.streams i).ctx (conn.scBuf i) data) :=
    streamData_eq _ (message_live placed _) (buffer_live placed buffer) (message_apart placed _ buffer) room
  rw [ingressData]
  dsimp only
  rw [if_neg matching, fed]
  dsimp only
  rw [Pulse.encode_code, Pulse.encode_phase, Pulse.phaseFromWire_phaseToWire]
  rfl

/-- So does a FIN. -/
theorem ingressFin_eq (placed : layout.Placed frame request) (i : Slot) :
    ingressFin layout conn i =
      let after := handleStreamFin (conn.streams i).ctx (conn.scBuf i)
      (shellPhaseCode after.1, conn.setCtx i after.2) := by
  have sizes : ¬ (shellStreamBufferSize < 2 ∨
      rangeOk (layout.message (conn.streams i).ctx.scBuf) shellStreamBufferSize = false) := by
    rw [(message_live placed (conn.streams i).ctx.scBuf).rangeOk]
    decide
  have finished : Pulse.streamFin (Pulse.phaseToWire (conn.streams i).ctx.scPhase) (conn.streams i).ctx.scId
      (layout.message (conn.streams i).ctx.scBuf) shellStreamBufferSize (conn.scBuf i) =
      Pulse.encode (handleStreamFin (conn.streams i).ctx (conn.scBuf i)).1 := by
    rw [Pulse.streamFin, Pulse.decodePhase_phaseToWire]
    exact if_neg sizes
  rw [ingressFin, finished]
  dsimp only
  rw [Pulse.encode_code, Pulse.encode_phase, Pulse.phaseFromWire_phaseToWire]
  rfl

/-- The range tests in front of the framing never fail on objects in their places. -/
theorem prepareDoqResponse_eq (placed : layout.Placed frame request) (i : Slot) {response destination : List UInt8}
    (buffers : request.buffers frame = [⟨frame.response, response.length⟩, ⟨frame.destination, destination.length⟩]) :
    prepareDoqResponse layout frame conn i response response.length destination destination.length =
      prepareDoqResponseSendForStream response response.length destination destination.length := by
  have source : Region.mk frame.response response.length ∈ request.buffers frame := by simp [buffers]
  have target : Region.mk frame.destination destination.length ∈ request.buffers frame := by simp [buffers]
  have targetLive := buffer_live placed target
  have apart : Region.Apart ⟨frame.response, response.length⟩ ⟨frame.destination, destination.length⟩ := by
    have both := (List.pairwise_append.mp placed.2.1.of_cons.of_cons).2.1
    rw [buffers] at both
    exact List.rel_of_pairwise_cons both (by simp)
  have outer : ¬ (responseDisjoint (layout.context i) layout.contextSize frame.destination destination.length = false ∨
      layout.message (conn.streams i).ctx.scBuf = 0) := by
    rw [(context_apart placed i target).responseDisjoint (context_live placed i) targetLive]
    rintro (overlap | null)
    · cases overlap
    · exact absurd null (Nat.ne_of_gt (message_live placed (conn.streams i).ctx.scBuf).1)
  have sizes : ¬ (response.length < response.length ∨ destination.length < destination.length ∨
      rangeOk frame.destination destination.length = false) := by
    rw [targetLive.rangeOk]
    simp
  have inner : responseDisjoint (if response.length = 0 then frame.empty else frame.response) response.length
      frame.destination destination.length = true := by
    split
    case isTrue unsized =>
      have emptyLive : Region.Live ⟨frame.empty, 0⟩ := by
        obtain ⟨positive, fits⟩ := placed.1 ⟨frame.empty, 1⟩ (by simp [MemoryLayout.regions])
        exact ⟨positive, Nat.le_of_succ_le fits⟩
      rw [unsized]
      exact Region.Apart.responseDisjoint (Or.inl rfl) emptyLive targetLive
    case isFalse => exact apart.responseDisjoint (buffer_live placed source) targetLive
  rw [prepareDoqResponse, if_neg outer, Pulse.responseFrame, if_neg sizes]
  dsimp only
  rw [inner, if_neg (by decide), Pulse.frameResponse_eq]

end Ingress

section Serve

variable {request : ShellRequest}

theorem dispatchAuthenticatedStreamData_eq (valid : conn.Valid) (placed : layout.Placed frame request)
    {data : List UInt8} (buffer : ⟨frame.data, data.length⟩ ∈ request.buffers frame) :
    dispatchAuthenticatedStreamData layout frame conn streamId data =
      conn.dispatchAuthenticatedStreamData streamId data := by
  rw [dispatchAuthenticatedStreamData, openStream, tableOpen_eq valid placed,
    ShellConnection.dispatchAuthenticatedStreamData]
  rcases valid.opened streamId with ⟨opened, -, -⟩ | ⟨i, mid, opened, midValid, found, -, -⟩
  · rw [opened]
  · rw [opened]
    exact ingressData_eq midValid placed found buffer

theorem onAuthenticatedStreamFin_eq (valid : conn.Valid) (placed : layout.Placed frame request) :
    onAuthenticatedStreamFin layout frame conn streamId = conn.onAuthenticatedStreamFin streamId := by
  rw [onAuthenticatedStreamFin, openStream, tableOpen_eq valid placed, ShellConnection.onAuthenticatedStreamFin]
  rcases valid.opened streamId with ⟨opened, -, -⟩ | ⟨i, mid, opened, -, -, -, -⟩
  · rw [opened]
  · rw [opened]
    exact ingressFin_eq placed i

theorem dispatchResponseSendFinished_eq (valid : conn.Valid) (placed : layout.Placed frame request) (dropped : Bool) :
    dispatchResponseSendFinished layout frame conn streamId dropped =
      conn.dispatchResponseSendFinished streamId dropped := by
  rw [dispatchResponseSendFinished, tableClose_eq valid placed, ShellConnection.dispatchResponseSendFinished]
  dsimp only
  rw [if_neg (by decide), syncAfterSend]
  split <;> rfl

theorem dispatchStreamReset_eq (valid : conn.Valid) (placed : layout.Placed frame request) :
    dispatchStreamReset layout frame conn streamId = conn.dispatchStreamReset streamId := by
  rw [dispatchStreamReset, tableClose_eq valid placed]
  rfl

theorem prepareDoqResponseSend_eq (valid : conn.Valid) (placed : layout.Placed frame request)
    {response destination : List UInt8}
    (buffers : request.buffers frame = [⟨frame.response, response.length⟩, ⟨frame.destination, destination.length⟩]) :
    prepareDoqResponseSend layout frame conn streamId response response.length destination destination.length =
      conn.prepareDoqResponseSend streamId response response.length destination destination.length := by
  rw [prepareDoqResponseSend, findStream, tableFind_eq valid placed, ShellConnection.prepareDoqResponseSend]
  cases conn.findStream streamId with
  | none => rfl
  | some i => exact prepareDoqResponse_eq placed i buffers

/-- One call gives the same reply and the same connection in both builds. -/
theorem serve_eq (valid : conn.Valid) (placed : layout.Placed frame request) :
    serve layout conn (frame, request) = conn.serve request := by
  cases request with
  | findStream streamId => exact congrArg (fun found => (ShellReply.slot found, conn)) (tableFind_eq valid placed)
  | openStream streamId => exact congrArg (Prod.map ShellReply.slot id) (tableOpen_eq valid placed)
  | onAuthenticatedStreamData streamId data | dispatchAuthenticatedStreamData streamId data =>
    exact congrArg (Prod.map ShellReply.code id)
      (dispatchAuthenticatedStreamData_eq valid placed List.mem_cons_self)
  | onAuthenticatedStreamFin streamId =>
    exact congrArg (Prod.map ShellReply.code id) (onAuthenticatedStreamFin_eq valid placed)
  | completeResponseSend streamId dropped | dispatchResponseSendFinished streamId dropped =>
    exact congrArg (Prod.map ShellReply.code id) (dispatchResponseSendFinished_eq valid placed dropped)
  | dispatchStreamReset streamId =>
    exact congrArg (Prod.map ShellReply.code id) (dispatchStreamReset_eq valid placed)
  | prepareDoqResponseSend streamId response destination fin =>
    exact congrArg (fun framed => (ShellReply.framed framed.1 framed.2, conn))
      (prepareDoqResponseSend_eq valid placed rfl)

end Serve

end PulseShell

namespace ShellConnection

variable {conn : ShellConnection}

theorem Valid.serve (valid : conn.Valid) (request : ShellRequest) : (conn.serve request).2.Valid := by
  cases request with
  | findStream | prepareDoqResponseSend => exact valid
  | openStream streamId => exact (valid.call_spec (.openStream streamId)).1
  | onAuthenticatedStreamData streamId data => exact (valid.call_spec (.onAuthenticatedStreamData streamId data)).1
  | dispatchAuthenticatedStreamData streamId data =>
    exact (valid.call_spec (.dispatchAuthenticatedStreamData streamId data)).1
  | onAuthenticatedStreamFin streamId => exact (valid.call_spec (.onAuthenticatedStreamFin streamId)).1
  | completeResponseSend streamId dropped => exact (valid.call_spec (.completeResponseSend streamId dropped)).1
  | dispatchResponseSendFinished streamId dropped =>
    exact (valid.call_spec (.dispatchResponseSendFinished streamId dropped)).1
  | dispatchStreamReset streamId => exact (valid.call_spec (.dispatchStreamReset streamId)).1

/-- The builds stay together through any calls, and the connection stays valid. -/
theorem Valid.serveAll {layout : MemoryLayout} {calls : List (CallFrame × ShellRequest)}
    (placed : ∀ call ∈ calls, layout.Placed call.1 call.2) (valid : conn.Valid) :
    serveAll (PulseShell.serve layout) conn calls = serveAll ShellConnection.serve conn (calls.map Prod.snd) ∧
      (Ism.serveAll ShellConnection.serve conn (calls.map Prod.snd)).2.Valid := by
  induction calls generalizing conn with
  | nil => exact ⟨rfl, valid⟩
  | cons call calls ih =>
    obtain ⟨same, after⟩ := ih (fun other member => placed other (List.mem_cons_of_mem _ member)) (valid.serve call.2)
    have step := PulseShell.serve_eq valid (placed call List.mem_cons_self)
    refine ⟨?_, after⟩
    rw [List.map_cons, Ism.serveAll, Ism.serveAll, step]
    dsimp only
    rw [same]

end ShellConnection

/-- The build with the candidate parts gives the same replies and leaves the same connection as
the stable build, and its checks accept every connection that can be reached. -/
theorem pulse_build_equals_baseline (layout : MemoryLayout) (calls : List (CallFrame × ShellRequest))
    (placed : ∀ call ∈ calls, layout.Placed call.1 call.2) :
    let pulse := serveAll (PulseShell.serve layout) ShellConnection.connectionInit calls
    pulse = serveAll ShellConnection.serve ShellConnection.connectionInit (calls.map Prod.snd) ∧
      (PulseShell.snapshot layout pulse.2).isSome = true ∧
      ∀ i, Pulse.decodePhase (Pulse.phaseToWire (pulse.2.streams i).ctx.scPhase) =
        some (pulse.2.streams i).ctx.scPhase := by
  intro pulse
  obtain ⟨same, valid⟩ := ShellConnection.connectionInit_valid.serveAll placed
  refine ⟨same, ?_, fun i => Pulse.decodePhase_phaseToWire _⟩
  rw [← same] at valid
  rw [PulseShell.snapshot_eq valid]
  rfl

/-- A layout with room between the objects. -/
def spacedLayout : MemoryLayout := ⟨fun i => 10000 + 64 * i.val, 40, fun i => 100000 + 70000 * i.val⟩

def spacedFrame : CallFrame := ⟨8000, 9000, 20000, 30000, 40000⟩

/-- A stream is opened by its first octet, answered, and closed again. -/
theorem pulse_build_equals_baseline_spaced :
    (serveAll (PulseShell.serve spacedLayout) ShellConnection.connectionInit
      [(spacedFrame, .dispatchAuthenticatedStreamData 7 [0]), (spacedFrame, .findStream 7),
        (spacedFrame, .prepareDoqResponseSend 7 [1, 2] [9, 9, 9, 9, 9] true),
        (spacedFrame, .dispatchStreamReset 7), (spacedFrame, .findStream 7)]).1 =
      [.code 0, .slot (some 0), .framed 4 [0, 2, 1, 2, 9], .code 1, .slot none] := by
  rw [(pulse_build_equals_baseline spacedLayout _ (by decide +kernel)).1]
  decide +kernel

end Ism
