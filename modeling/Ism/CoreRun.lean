import Ism.Core
import Ism.MultiplexerRun

namespace Ism

open Lib

section Keys

variable {π β : Type} {heap other : π → StreamContext β} (same : ∀ p, (other p).scId = (heap p).scId)

include same

/-- The table is searched by ID alone. -/
theorem findStream_congr (conn : ConnectionContext π) (id : UInt64) :
    findStream other conn id = findStream heap conn id := by
  simp only [findStream_eq_find?, same]

theorem closeStreamFrom_congr (active : List π) (count : Nat) (id : UInt64) (ptrs : List π) (idx : Nat) :
    closeStreamFrom other active count id ptrs idx = closeStreamFrom heap active count id ptrs idx := by
  induction ptrs generalizing idx with
  | nil => rfl
  | cons p ptrs ih => simp only [closeStreamFrom, same, ih]

theorem closeStream_congr (conn : ConnectionContext π) (id : UInt64) :
    closeStream other conn id = closeStream heap conn id := by
  simp only [closeStream, closeStreamFrom_congr same]

/-- The slot that is taken depends on the IDs alone. -/
theorem allocateStream_congr [DecidableEq π] (conn : ConnectionContext π) (id : UInt64) :
    allocateStream heap conn id = match (allocateStream other conn id).1 with
      | some p => (some p, Function.update heap p { heap p with scId := id, scPhase := .readingLength },
          { conn with ccNum := conn.ccNum + 1 })
      | none => (none, heap, conn) := by
  simp only [allocateStream, findStream_congr same]
  split_ifs
  · rfl
  · cases conn.ccActive[conn.ccNum]? <;> rfl
  · rfl

end Keys

/-- What the core is for: which streams are open, and what was received on each of them
since it was opened. -/
structure CoreSpec where
  ids : Finset UInt64
  received : UInt64 → List StreamFragment

/-- Fragments and resets for an ID that is not open change nothing. -/
def CoreSpec.dispatch (capacity : Nat) (spec : CoreSpec) : CoreEvent → CoreSpec
  | .allocateStream id =>
    if id ∈ spec.ids ∨ spec.ids.card = capacity then spec
    else ⟨insert id spec.ids, Function.update spec.received id []⟩
  | .authenticatedStreamData id fragment =>
    if id ∈ spec.ids then { spec with received := Function.update spec.received id (spec.received id ++ [fragment]) }
    else spec
  | .responseSendFinished id => { spec with ids := spec.ids.erase id }
  | .streamReset id => { spec with ids := spec.ids.erase id }

def CoreSpec.run (capacity : Nat) (spec : CoreSpec) (events : List CoreEvent) : CoreSpec :=
  events.foldl (CoreSpec.dispatch capacity) spec

namespace Core

variable {π β : Type} {slots : List π} {capacity : Nat} {core : Core π β} {spec : CoreSpec}

/-- The slot array alone: a context keeps its ID and its buffer, and forgets its phase. -/
def table (core : Core π β) : Multiplexer π β :=
  ⟨fun p => { core.heap p with scPhase := .readingLength }, core.conn⟩

theorem findStream_table (core : Core π β) (id : UInt64) :
    findStream core.table.heap core.conn id = findStream core.heap core.conn id := by
  have same : ∀ p, (core.table.heap p).scId = (core.heap p).scId := fun _ => rfl
  exact findStream_congr same core.conn id

theorem closeStream_table (core : Core π β) (id : UInt64) :
    closeStream core.table.heap core.conn id = closeStream core.heap core.conn id := by
  have same : ∀ p, (core.table.heap p).scId = (core.heap p).scId := fun _ => rfl
  exact closeStream_congr same core.conn id

/-- The slots in use hold the open streams, every slot has a message buffer of its own, and
each open stream is where its fragments bring it. -/
structure Carries (slots : List π) (capacity : Nat) (core : Core π β) (spec : CoreSpec) : Prop where
  represents : Multiplexer.Represents slots capacity core.table spec.ids
  apart : ∀ p ∈ slots, ∀ q ∈ slots, (core.heap p).scBuf = (core.heap q).scBuf → p = q
  room : ∀ p ∈ slots, 65535 ≤ (core.scBuf p).length
  ingested : ∀ p ∈ core.active, ∃ before : List UInt8, 65535 ≤ before.length ∧
    Ingested before (spec.received (core.heap p).scId) (core.heap p).scPhase (core.scBuf p)

theorem Carries.mem_slots (carries : Carries slots capacity core spec) {p : π} (member : p ∈ core.active) :
    p ∈ slots :=
  carries.represents.table.order_perm.mem_iff.mp (List.mem_of_mem_take member)

theorem Carries.find_iff (carries : Carries slots capacity core spec) {id : UInt64} {p : π} :
    findStream core.heap core.conn id = some p ↔ p ∈ core.active ∧ (core.heap p).scId = id := by
  rw [← findStream_table]
  exact carries.represents.find_iff

/-- A stream is found if and only if it is open. -/
theorem Carries.find_none_iff (carries : Carries slots capacity core spec) {id : UInt64} :
    findStream core.heap core.conn id = none ↔ id ∉ spec.ids := by
  rw [← findStream_table]
  exact carries.represents.find_none_iff

/-- Closing takes an ID away and moves nothing that belongs to the others. -/
theorem Carries.closed (carries : Carries slots capacity core spec) (unique : slots.Nodup) (id : UInt64) :
    Carries slots capacity { core with conn := closeStream core.heap core.conn id }
      { spec with ids := spec.ids.erase id } := by
  obtain ⟨represents, left⟩ := carries.represents.closed unique id
  have conn : closeStream core.table.heap core.table.conn id = closeStream core.heap core.conn id :=
    closeStream_table core id
  rw [conn] at represents left
  exact ⟨represents, carries.apart, carries.room, fun p member => carries.ingested p ((left p).mp member).1⟩

/-- A worker is reached exactly with the request of an open stream, at the start of its buffer. -/
theorem Carries.processReadyStream_cases (carries : Carries slots capacity core spec) {α : Type}
    (worker : UInt64 → List UInt8 → Nat → α) (otherwise : α) (id : UInt64) :
    (∃ m rest, id ∈ spec.ids ∧ RequestOf (spec.received id) m ∧
      core.processReadyStream worker otherwise id = worker id (m ++ rest) m.length) ∨
    ((∀ m, ¬ (id ∈ spec.ids ∧ RequestOf (spec.received id) m)) ∧
      core.processReadyStream worker otherwise id = otherwise) := by
  rw [Core.processReadyStream]
  cases found : findStream core.heap core.conn id with
  | none => exact Or.inr ⟨fun m both => carries.find_none_iff.mp found both.1, rfl⟩
  | some p =>
    obtain ⟨here, holds⟩ := carries.find_iff.mp found
    have opened : id ∈ spec.ids := (carries.represents.mem_iff id).mpr ⟨p, here, holds⟩
    obtain ⟨before, -, ingested⟩ := carries.ingested p here
    rw [holds] at ingested
    by_cases asked : ∃ m, RequestOf (spec.received id) m
    · obtain ⟨m, asked⟩ := asked
      obtain ⟨rest, held⟩ := ingested.held asked
      have ready := (ingested.processing_iff (n := ⟨m.length, asked.1⟩)).mpr ⟨m, rfl, asked⟩
      refine Or.inl ⟨m, rest, opened, asked, ?_⟩
      simp only [ready, holds, held]
    · refine Or.inr ⟨fun m both => asked ⟨m, both.2⟩, ?_⟩
      dsimp only
      split
      · rename_i n ready
        obtain ⟨m, -, request⟩ := ingested.processing_iff.mp ready
        exact absurd ⟨m, request⟩ asked
      · rfl

theorem Carries.processReadyStream_eq (carries : Carries slots capacity core spec) {id : UInt64} {m : List UInt8}
    (opened : id ∈ spec.ids) (whole : RequestOf (spec.received id) m) {α : Type}
    (worker : UInt64 → List UInt8 → Nat → α) (otherwise : α) :
    ∃ rest, core.processReadyStream worker otherwise id = worker id (m ++ rest) m.length := by
  rcases carries.processReadyStream_cases worker otherwise id with ⟨n, rest, -, whole', reached⟩ | ⟨never, -⟩
  · rw [whole.unique whole']
    exact ⟨rest, reached⟩
  · exact absurd ⟨opened, whole⟩ (never m)

/-- A connection without streams over slots with a large enough buffer each. -/
theorem Carries.start {heap : π → StreamContext β} {memory : β → List UInt8}
    (apart : ∀ p ∈ slots, ∀ q ∈ slots, (heap p).scBuf = (heap q).scBuf → p = q)
    (large : ∀ p ∈ slots, 65535 ≤ (memory (heap p).scBuf).length) (capacity : Nat) :
    Carries slots capacity ⟨⟨slots, 0, capacity⟩, heap, memory⟩ ⟨∅, fun _ => []⟩ :=
  ⟨⟨⟨List.Perm.refl _, Nat.zero_le _, List.nodup_nil⟩, rfl, Nat.zero_le _, by simp [table, Multiplexer.active],
    by simp [table, Multiplexer.active]⟩, apart, large, by simp [active]⟩

variable [DecidableEq π]

/-- The core after a new ID was put into the slot `p`. -/
def opened (core : Core π β) (p : π) (id : UInt64) : Core π β :=
  { core with
    heap := Function.update core.heap p { core.heap p with scId := id, scPhase := .readingLength }
    conn := { core.conn with ccNum := core.conn.ccNum + 1 } }

/-- Opening a stream is what it is in the multiplexer. -/
theorem table_opened (core : Core π β) (p : π) (id : UInt64) : (core.opened p id).table = core.table.opened p id := by
  have heap : (core.opened p id).table.heap = (core.table.opened p id).heap := by
    funext q
    by_cases here : q = p
    · subst here
      simp only [table, opened, Multiplexer.opened, Function.update_self]
    · simp only [table, opened, Multiplexer.opened, Function.update_of_ne here]
  rw [table, Multiplexer.mk.injEq]
  exact ⟨heap, rfl⟩

/-- A stream that is opened starts with nothing received. -/
theorem Carries.opened (carries : Carries slots capacity core spec) (unique : slots.Nodup) {p : π} {id : UInt64}
    (absent : id ∉ spec.ids) (free : core.conn.ccNum < capacity)
    (next : core.conn.ccActive[core.conn.ccNum]? = some p) :
    Carries slots capacity (core.opened p id) ⟨insert id spec.ids, Function.update spec.received id []⟩ := by
  obtain ⟨fresh, grown, represents⟩ := carries.represents.opened unique absent free next
  have self : (core.opened p id).heap p = { core.heap p with scId := id, scPhase := .readingLength } :=
    Function.update_self ..
  have elsewhere : ∀ q, q ≠ p → (core.opened p id).heap q = core.heap q := fun q apart =>
    Function.update_of_ne apart ..
  have buffer : ∀ q, ((core.opened p id).heap q).scBuf = (core.heap q).scBuf := by
    intro q
    by_cases here : q = p
    · rw [here, self]
    · rw [elsewhere q here]
  have memory : ∀ q, (core.opened p id).scBuf q = core.scBuf q := fun q => congrArg core.memory (buffer q)
  refine ⟨?_, fun q first r second shared => ?_, fun q member => ?_, fun q member => ?_⟩
  · rw [table_opened]
    exact represents
  · rw [buffer, buffer] at shared
    exact carries.apart q first r second shared
  · rw [memory]
    exact carries.room q member
  · have active : (core.opened p id).active = core.active ++ [p] := grown
    rw [active] at member
    rw [memory]
    rcases List.mem_append.mp member with old | new
    · have other : q ≠ p := by
        rintro rfl
        exact fresh old
      have named : (core.heap q).scId ≠ id := fun same =>
        absent ((carries.represents.mem_iff id).mpr ⟨q, old, same⟩)
      simp only [elsewhere q other, Function.update_of_ne named]
      exact carries.ingested q old
    · obtain rfl := List.mem_singleton.mp new
      have slot : q ∈ slots :=
        carries.represents.table.order_perm.mem_iff.mp (List.mem_of_getElem? next)
      have reading : ((core.opened q id).heap q).scPhase = .readingLength := by rw [self]
      have named : ((core.opened q id).heap q).scId = id := by rw [self]
      refine ⟨core.scBuf q, carries.room q slot, ?_⟩
      simp only [named, Function.update_self]
      exact Ingested.fresh reading _

variable [DecidableEq β]

/-- An allocation is refused for an open ID and in a full table. -/
theorem Carries.allocateStream_cases (carries : Carries slots capacity core spec) (room : capacity ≤ slots.length)
    (small : slots.length < 2 ^ 32) (id : UInt64) :
    ((id ∈ spec.ids ∨ spec.ids.card = capacity) ∧ core.dispatch (.allocateStream id) = core) ∨
    (id ∉ spec.ids ∧ core.conn.ccNum < capacity ∧ ∃ p, core.conn.ccActive[core.conn.ccNum]? = some p ∧
      core.dispatch (.allocateStream id) = core.opened p id) := by
  have same : ∀ p, (core.table.heap p).scId = (core.heap p).scId := fun _ => rfl
  rcases carries.represents.allocateStream_cases room small id with ⟨refused, kept⟩ | ⟨absent, free, p, next, taken⟩
  · rw [← carries.represents.card_eq] at refused
    refine Or.inl ⟨refused, ?_⟩
    change allocateStream core.table.heap core.conn id = _ at kept
    rw [dispatch, allocateStream_congr same core.conn id, kept]
  · refine Or.inr ⟨absent, free, p, next, ?_⟩
    change allocateStream core.table.heap core.conn id = _ at taken
    rw [dispatch, allocateStream_congr same core.conn id, taken]
    rfl

/-- A fragment changes the phase of its own context. -/
theorem handleFragment_heap (core : Core π β) (p : π) (fragment : StreamFragment) :
    ∃ phase, (core.handleFragment p fragment).heap = Function.update core.heap p { core.heap p with scPhase := phase } ∧
      phase = (handleAuthenticatedStreamFragment (core.heap p) (core.scBuf p) fragment).2.1.scPhase := by
  refine ⟨_, ?_, rfl⟩
  rw [handleFragment, handleAuthenticatedStreamFragment]
  cases fragment.fin <;> rfl

theorem table_handleFragment (core : Core π β) (p : π) (fragment : StreamFragment) :
    (core.handleFragment p fragment).table = core.table := by
  obtain ⟨phase, heap, -⟩ := core.handleFragment_heap p fragment
  rw [table, table, Multiplexer.mk.injEq]
  refine ⟨?_, rfl⟩
  funext q
  rw [heap]
  by_cases here : q = p
  · rw [here, Function.update_self]
  · rw [Function.update_of_ne here]

/-- A fragment is appended to what its stream received, and no other stream notices. -/
theorem Carries.fragment (carries : Carries slots capacity core spec) {p : π} {id : UInt64}
    (found : findStream core.heap core.conn id = some p) (fragment : StreamFragment) :
    Carries slots capacity (core.handleFragment p fragment)
      { spec with received := Function.update spec.received id (spec.received id ++ [fragment]) } := by
  obtain ⟨here, holds⟩ := carries.find_iff.mp found
  obtain ⟨phase, heap, phase_eq⟩ := core.handleFragment_heap p fragment
  have buffer : ∀ q, ((core.handleFragment p fragment).heap q).scBuf = (core.heap q).scBuf := by
    intro q
    by_cases same : q = p
    · rw [heap, same, Function.update_self]
    · rw [heap, Function.update_of_ne same]
  have self : (core.handleFragment p fragment).scBuf p =
      (handleAuthenticatedStreamFragment (core.heap p) (core.scBuf p) fragment).2.2 := by
    rw [scBuf, buffer]
    exact Function.update_self ..
  have elsewhere : ∀ q ∈ slots, q ≠ p → (core.handleFragment p fragment).scBuf q = core.scBuf q := by
    intro q slot other
    rw [scBuf, buffer]
    exact Function.update_of_ne (fun shared => other (carries.apart q slot p (carries.mem_slots here) shared)) ..
  refine ⟨?_, fun q first r second shared => ?_, fun q slot => ?_, fun q member => ?_⟩
  · rw [table_handleFragment]
    exact carries.represents
  · rw [buffer, buffer] at shared
    exact carries.apart q first r second shared
  · by_cases same : q = p
    · have enough := carries.room p (carries.mem_slots here)
      rw [same, self, handleAuthenticatedStreamFragment_length _ enough]
      exact enough
    · rw [elsewhere q slot same]
      exact carries.room q slot
  · have old : q ∈ core.active := member
    by_cases same : q = p
    · subst same
      obtain ⟨before, enough, ingested⟩ := carries.ingested q old
      rw [holds] at ingested
      refine ⟨before, enough, ?_⟩
      simp only [heap, Function.update_self, holds, self, phase_eq]
      exact ingested.step enough fragment
    · have named : (core.heap q).scId ≠ id := fun shared =>
        same (carries.represents.table.key_inj old here (shared.trans holds.symm))
      simp only [heap, Function.update_of_ne same, Function.update_of_ne named,
        elsewhere q (carries.mem_slots old) same]
      exact carries.ingested q old

/-- One event keeps the core with its specification. -/
theorem Carries.dispatch (carries : Carries slots capacity core spec) (unique : slots.Nodup)
    (room : capacity ≤ slots.length) (small : slots.length < 2 ^ 32) (event : CoreEvent) :
    Carries slots capacity (core.dispatch event) (spec.dispatch capacity event) := by
  cases event with
  | allocateStream id =>
    rcases carries.allocateStream_cases room small id with ⟨refused, same⟩ | ⟨absent, free, p, next, taken⟩
    · rw [same, CoreSpec.dispatch, if_pos refused]
      exact carries
    · have pass : ¬ (id ∈ spec.ids ∨ spec.ids.card = capacity) := by
        rintro (present | full)
        · exact absent present
        · have count := carries.represents.card_eq
          have slots : core.table.conn.ccNum = core.conn.ccNum := rfl
          omega
      rw [taken, CoreSpec.dispatch, if_neg pass]
      exact carries.opened unique absent free next
  | authenticatedStreamData id fragment =>
    rw [Core.dispatch, CoreSpec.dispatch]
    cases found : findStream core.heap core.conn id with
    | none =>
      rw [if_neg (carries.find_none_iff.mp found)]
      exact carries
    | some p =>
      have member : id ∈ spec.ids := by
        by_contra absent
        rw [carries.find_none_iff.mpr absent] at found
        cases found
      rw [if_pos member]
      exact carries.fragment found fragment
  | responseSendFinished id => exact carries.closed unique id
  | streamReset id => exact carries.closed unique id

/-- So does any run. -/
theorem Carries.run (unique : slots.Nodup) (room : capacity ≤ slots.length) (small : slots.length < 2 ^ 32)
    (events : List CoreEvent) {core : Core π β} {spec : CoreSpec} (carries : Carries slots capacity core spec) :
    Carries slots capacity (core.run events) (spec.run capacity events) := by
  induction events generalizing core spec with
  | nil => exact carries
  | cons event events ih => exact ih (carries.dispatch unique room small event)

end Core

end Ism
