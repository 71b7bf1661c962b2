import Ism.EventQueue
import Ism.ShellTable

namespace Ism

open Lib

theorem upd_length (buffer : List UInt8) (stores : List (Nat × UInt8)) :
    (upd buffer stores).length = buffer.length := by
  induction stores generalizing buffer with
  | nil => rfl
  | cons store rest ih => exact (ih _).trans List.length_set

theorem copyQuestionBytesLoop_length (requestBuffer : List UInt8) (left idx : Nat) (responseBuffer : List UInt8) :
    (copyQuestionBytesLoop requestBuffer left idx responseBuffer).length = responseBuffer.length := by
  induction left generalizing idx responseBuffer with
  | zero => rfl
  | succ left ih => rw [copyQuestionBytesLoop, ih, List.length_set]

theorem prepareWorkerValidatedMinimalResponseSend_length (check : Nat → List UInt8 → UInt8)
    (scBuf responseBuffer : List UInt8) (responseCapacity requestLen : Nat) :
    (prepareWorkerValidatedMinimalResponseSend check scBuf responseBuffer responseCapacity requestLen).2.length =
      responseBuffer.length := by
  unfold prepareWorkerValidatedMinimalResponseSend prepareWorkerQuestionNoerrorResponseSend
    prepareWorkerMinimalErrorResponseSend
  split_ifs
  · rfl
  · rfl
  · rw [upd_length, copyQuestionBytes, copyQuestionBytesLoop_length]
  · rfl
  · rw [upd_length]

theorem copyResponseBytesWithPrefixLoop_length (responseBuffer : List UInt8) (left idx : Nat)
    (streamBuffer : List UInt8) :
    (copyResponseBytesWithPrefixLoop responseBuffer left idx streamBuffer).length = streamBuffer.length := by
  induction left generalizing idx streamBuffer with
  | zero => rfl
  | succ left ih => rw [copyResponseBytesWithPrefixLoop, ih, List.length_set]

theorem prepareDoqResponseSendForStream_length (responseBuffer : List UInt8) (responseLen : Nat)
    (streamBuffer : List UInt8) (streamCapacity : Nat) :
    (prepareDoqResponseSendForStream responseBuffer responseLen streamBuffer streamCapacity).2.length =
      streamBuffer.length := by
  simp only [prepareDoqResponseSendForStream]
  split
  · rfl
  · rw [copyResponseBytesWithPrefix, copyResponseBytesWithPrefixLoop_length, List.length_set, List.length_set]

theorem prepareDoqResponseSendForStream_le (responseBuffer : List UInt8) (responseLen : Nat)
    (streamBuffer : List UInt8) (streamCapacity : Nat) :
    (prepareDoqResponseSendForStream responseBuffer responseLen streamBuffer streamCapacity).1 ≤ streamCapacity := by
  have bounded : framedLength responseLen streamCapacity ≤ streamCapacity := by
    simp only [framedLength]
    split_ifs <;> omega
  simp only [prepareDoqResponseSendForStream]
  split
  · exact Nat.zero_le _
  · exact bounded

namespace Adapter

/-- Both buffers have the room that their capacity promises, and a response in
flight lies in the send buffer. -/
structure Valid (adapter : Adapter) : Prop where
  connection : adapter.connection.Valid
  response_room : ∀ b ∈ adapter.responseBuffer, adapter.responseCapacity ≤ b.length
  send_room : ∀ b ∈ adapter.sendBuffer, adapter.sendCapacity ≤ b.length
  in_flight : adapter.sendInFlight = true →
    adapter.sendBuffer ≠ none ∧ 0 < adapter.sendCapacity ∧ adapter.sendLen ≤ adapter.sendCapacity

theorem init_valid {responseBuffer sendBuffer : Option (List UInt8)} {responseCapacity sendCapacity : Nat}
    (responseRoom : ∀ b ∈ responseBuffer, responseCapacity ≤ b.length)
    (sendRoom : ∀ b ∈ sendBuffer, sendCapacity ≤ b.length) :
    (init responseBuffer responseCapacity sendBuffer sendCapacity).Valid :=
  ⟨ShellConnection.connectionInit_valid, responseRoom, sendRoom, nofun⟩

section Prepare

variable {σ : Type} {check : Nat → List UInt8 → UInt8} {send : Option (SendCall → σ → Bool × σ)}

/-- The response to the request in a message buffer, framed in the send buffer. -/
inductive Framed (check : Nat → List UInt8 → UInt8) (adapter : Adapter) (requestLen : MessageLength)
    (message responseBuffer sendBuffer : List UInt8) (len : Nat) : Prop
  | intro {oldResponse oldSend : List UInt8} {responseLen : Nat}
    (response_old : adapter.responseBuffer = some oldResponse) (send_old : adapter.sendBuffer = some oldSend)
    (worker : prepareWorkerValidatedMinimalResponseSend check message oldResponse adapter.responseCapacity requestLen =
      (responseLen, responseBuffer))
    (framing : prepareDoqResponseSendForStream responseBuffer responseLen oldSend adapter.sendCapacity =
      (len, sendBuffer))
    (response_pos : 0 < responseLen) (len_pos : 0 < len) :
    Framed check adapter requestLen message responseBuffer sendBuffer len

def withBuffers (adapter : Adapter) (responseBuffer sendBuffer : Option (List UInt8)) : Adapter :=
  { adapter with responseBuffer := responseBuffer, sendBuffer := sendBuffer }

/-- The adapter once a response of `len` octets is handed to the transport. -/
def inFlight (adapter : Adapter) (id : UInt64) (len : Nat) : Adapter :=
  { adapter with sendInFlight := true, sendStreamId := id, sendLen := len }

/-- The adapter once its response is finished or dropped. -/
def landed (adapter : Adapter) (connection : ShellConnection) : Adapter :=
  { adapter with connection := connection, sendInFlight := false, sendStreamId := 0, sendLen := 0 }

/-- Preparing a response makes no call at all, or makes one call whose answer
decides whether the send is in flight or its stream is dropped. -/
inductive Prepared (check : Nat → List UInt8 → UInt8) (send : Option (SendCall → σ → Bool × σ)) (adapter : Adapter)
    (id : UInt64) (ctx : σ) : Nat × Adapter × σ → Prop
  | silent (responseBuffer sendBuffer : Option (List UInt8))
    (valid : (adapter.withBuffers responseBuffer sendBuffer).Valid) :
    Prepared check send adapter id ctx (0, adapter.withBuffers responseBuffer sendBuffer, ctx)
  | called {f : SendCall → σ → Bool × σ} {requestLen : MessageLength} {message responseBuffer sendBuffer : List UInt8}
    {len : Nat} (callback : send = some f) (free : adapter.sendInFlight = false)
    (entry : adapter.connection.entry id = some ⟨.processing requestLen, message⟩)
    (framed : Framed check adapter requestLen message responseBuffer sendBuffer len)
    (valid : (adapter.withBuffers (some responseBuffer) (some sendBuffer)).Valid) :
    Prepared check send adapter id ctx
      (if (f ⟨id, sendBuffer, len, true⟩ ctx).1 = true then
        (len, (adapter.withBuffers (some responseBuffer) (some sendBuffer)).inFlight id len,
          (f ⟨id, sendBuffer, len, true⟩ ctx).2)
      else
        (0, (adapter.withBuffers (some responseBuffer) (some sendBuffer)).landed
          (adapter.connection.closeStream id).syncStreamSlots, (f ⟨id, sendBuffer, len, true⟩ ctx).2))

theorem Valid.withBuffers {adapter : Adapter} (valid : adapter.Valid) {responseBuffer sendBuffer : Option (List UInt8)}
    (responseRoom : ∀ b ∈ responseBuffer, adapter.responseCapacity ≤ b.length)
    (sendRoom : ∀ b ∈ sendBuffer, adapter.sendCapacity ≤ b.length) (stored : sendBuffer ≠ none) :
    (adapter.withBuffers responseBuffer sendBuffer).Valid :=
  ⟨valid.connection, responseRoom, sendRoom, fun busy => ⟨stored, (valid.in_flight busy).2⟩⟩

/-- A stream that is ready is answered from its message buffer. -/
theorem dispatchReady_of_entry (check : Nat → List UInt8 → UInt8) {conn : ShellConnection} (valid : conn.Valid)
    {id : UInt64} {requestLen : MessageLength} {message : List UInt8}
    (ready : conn.entry id = some ⟨.processing requestLen, message⟩) (responseBuffer : List UInt8)
    (responseCapacity : Nat) :
    conn.dispatchReadyStreamValidatedMinimalResponse check id responseBuffer responseCapacity =
      prepareWorkerValidatedMinimalResponseSend check message responseBuffer responseCapacity requestLen := by
  obtain ⟨i, found⟩ := ShellConnection.findStream_of_entry ready
  have here := (ShellConnection.entry_of_findStream found).symm.trans ready
  obtain ⟨phase, stream⟩ := ShellConnection.Entry.mk.inj (Option.some.inj here)
  unfold ShellConnection.dispatchReadyStreamValidatedMinimalResponse
  rw [ShellConnection.findStream_eq_core, found]
  simp only [phase, valid.scBuf_eq, stream]

theorem dispatchReady_cases (check : Nat → List UInt8 → UInt8) {conn : ShellConnection} (valid : conn.Valid)
    (id : UInt64) (responseBuffer : List UInt8) (responseCapacity : Nat) :
    conn.dispatchReadyStreamValidatedMinimalResponse check id responseBuffer responseCapacity = (0, responseBuffer) ∨
    ∃ requestLen message, conn.entry id = some ⟨.processing requestLen, message⟩ ∧
      conn.dispatchReadyStreamValidatedMinimalResponse check id responseBuffer responseCapacity =
        prepareWorkerValidatedMinimalResponseSend check message responseBuffer responseCapacity requestLen := by
  by_cases ready : ∃ requestLen message, conn.entry id = some ⟨.processing requestLen, message⟩
  · obtain ⟨requestLen, message, here⟩ := ready
    exact Or.inr ⟨requestLen, message, here, dispatchReady_of_entry check valid here responseBuffer responseCapacity⟩
  · refine Or.inl ?_
    unfold ShellConnection.dispatchReadyStreamValidatedMinimalResponse
    rw [ShellConnection.findStream_eq_core]
    cases found : conn.findStream id with
    | none => rfl
    | some i =>
      cases phase : (conn.streams i).ctx.scPhase with
      | processing requestLen =>
        refine absurd ⟨requestLen, (conn.streams i).messageBuffer, ?_⟩ ready
        rw [ShellConnection.entry_of_findStream found, phase]
      | _ => simp only [phase]

theorem prepareReadyResponse_spec (check : Nat → List UInt8 → UInt8) (send : Option (SendCall → σ → Bool × σ))
    {adapter : Adapter} (valid : adapter.Valid) (id : UInt64) (ctx : σ) :
    Prepared check send adapter id ctx (prepareReadyResponse check send adapter id ctx) := by
  have unchanged : Prepared check send adapter id ctx (0, adapter, ctx) :=
    Prepared.silent adapter.responseBuffer adapter.sendBuffer valid
  cases response : adapter.responseBuffer with
  | none => simpa only [prepareReadyResponse, response] using unchanged
  | some oldResponse =>
    cases stored : adapter.sendBuffer with
    | none => simpa only [prepareReadyResponse, response, stored] using unchanged
    | some oldSend =>
      cases callback : send with
      | none => simpa only [prepareReadyResponse, response, stored, callback] using unchanged
      | some f =>
        rw [callback] at unchanged
        by_cases blocked : adapter.responseCapacity = 0 ∨ adapter.sendCapacity = 0 ∨ adapter.sendInFlight = true
        · simpa only [prepareReadyResponse, response, stored, if_pos blocked] using unchanged
        have free : adapter.sendInFlight = false := by
          rw [← Bool.not_eq_true]
          exact fun busy => blocked (Or.inr (Or.inr busy))
        have sendRoom : ∀ b ∈ some oldSend, adapter.sendCapacity ≤ b.length := stored ▸ valid.send_room
        rcases dispatchReady_cases check valid.connection id oldResponse adapter.responseCapacity with
          quiet | ⟨requestLen, message, entry, ready⟩
        · simp only [prepareReadyResponse, response, stored, if_neg blocked, quiet, if_true]
          exact Prepared.silent (some oldResponse) (some oldSend)
            (valid.withBuffers (response ▸ valid.response_room) sendRoom nofun)
        obtain ⟨⟨responseLen, responseBuffer⟩, worker⟩ : ∃ result, prepareWorkerValidatedMinimalResponseSend check
            message oldResponse adapter.responseCapacity requestLen = result := ⟨_, rfl⟩
        have responseRoom : ∀ b ∈ some responseBuffer, adapter.responseCapacity ≤ b.length := by
          rintro b ⟨⟩
          have kept := prepareWorkerValidatedMinimalResponseSend_length check message oldResponse
            adapter.responseCapacity requestLen
          rw [worker] at kept
          exact kept ▸ valid.response_room oldResponse response
        rw [worker] at ready
        by_cases nothing : responseLen = 0
        · simp only [prepareReadyResponse, response, stored, if_neg blocked, ready, if_pos nothing]
          exact Prepared.silent (some responseBuffer) (some oldSend) (valid.withBuffers responseRoom sendRoom nofun)
        obtain ⟨i, found⟩ := ShellConnection.findStream_of_entry entry
        obtain ⟨⟨len, sendBuffer⟩, framing⟩ : ∃ result, prepareDoqResponseSendForStream responseBuffer responseLen
            oldSend adapter.sendCapacity = result := ⟨_, rfl⟩
        have sendRoomAfter : ∀ b ∈ some sendBuffer, adapter.sendCapacity ≤ b.length := by
          rintro b ⟨⟩
          have kept := prepareDoqResponseSendForStream_length responseBuffer responseLen oldSend adapter.sendCapacity
          rw [framing] at kept
          exact kept ▸ sendRoom oldSend rfl
        have buffered := valid.withBuffers responseRoom sendRoomAfter nofun
        simp only [prepareReadyResponse, response, stored, if_neg blocked, ready, if_neg nothing,
          ShellConnection.prepareDoqResponseSend, found, framing,
          valid.connection.dispatchResponseSendFinished_eq]
        by_cases framed : 0 < len
        · rw [if_pos framed]
          exact Prepared.called rfl free entry
            (Framed.intro response stored worker framing (Nat.pos_of_ne_zero nothing) framed) buffered
        · rw [if_neg framed, Nat.eq_zero_of_not_pos framed]
          exact Prepared.silent (some responseBuffer) (some sendBuffer) buffered

theorem Framed.len_le {adapter : Adapter} {requestLen : MessageLength} {message responseBuffer sendBuffer : List UInt8}
    {len : Nat} (framed : Framed check adapter requestLen message responseBuffer sendBuffer len) :
    0 < len ∧ len ≤ adapter.sendCapacity := by
  obtain @⟨_, oldSend, responseLen, -, -, -, framing, -, pos⟩ := framed
  have bounded := prepareDoqResponseSendForStream_le responseBuffer responseLen oldSend adapter.sendCapacity
  rw [framing] at bounded
  exact ⟨pos, bounded⟩

end Prepare

variable {adapter : Adapter}

theorem Valid.withConnection (valid : adapter.Valid) {connection : ShellConnection} (connected : connection.Valid) :
    { adapter with connection := connection }.Valid :=
  ⟨connected, valid.response_room, valid.send_room, valid.in_flight⟩

theorem Valid.landed (valid : adapter.Valid) {connection : ShellConnection} (connected : connection.Valid) :
    (adapter.landed connection).Valid :=
  ⟨connected, valid.response_room, valid.send_room, nofun⟩

theorem Valid.inFlight (valid : adapter.Valid) (id : UInt64) {len : Nat} (stored : adapter.sendBuffer ≠ none)
    (fits : 0 < len ∧ len ≤ adapter.sendCapacity) : (adapter.inFlight id len).Valid :=
  ⟨valid.connection, valid.response_room, valid.send_room, fun _ => ⟨stored, Nat.lt_of_lt_of_le fits.1 fits.2, fits.2⟩⟩

/-- A completion is taken exactly when it names the response in flight. -/
theorem Valid.onSendComplete_eq (valid : adapter.Valid) (id : UInt64) (len : Nat) (dropped : Bool) :
    adapter.onSendComplete id len dropped =
      if adapter.sendInFlight = true ∧ adapter.sendStreamId = id ∧ adapter.sendLen = len then
        (true, adapter.landed (adapter.connection.closeStream id).syncStreamSlots)
      else (false, adapter) := by
  by_cases matching : adapter.sendInFlight = true ∧ adapter.sendStreamId = id ∧ adapter.sendLen = len
  · obtain ⟨busy, sameId, sameLen⟩ := matching
    obtain ⟨stored, pos, bounded⟩ := valid.in_flight busy
    have pass : ¬ (adapter.sendBuffer = none ∨ adapter.sendCapacity = 0 ∨ adapter.sendCapacity < len ∨
        adapter.sendInFlight = false ∨ adapter.sendStreamId ≠ id ∨ adapter.sendLen ≠ len) := by
      rw [busy]
      rintro (null | zero | long | off | otherId | otherLen)
      · exact stored null
      · omega
      · omega
      · cases off
      · exact otherId sameId
      · exact otherLen sameLen
    simp only [onSendComplete, if_neg pass, valid.connection.dispatchResponseSendFinished_eq, if_true,
      if_pos (And.intro busy (And.intro sameId sameLen)), Adapter.landed]
  · have stop : adapter.sendBuffer = none ∨ adapter.sendCapacity = 0 ∨ adapter.sendCapacity < len ∨
        adapter.sendInFlight = false ∨ adapter.sendStreamId ≠ id ∨ adapter.sendLen ≠ len := by
      by_cases busy : adapter.sendInFlight = true
      · by_cases sameId : adapter.sendStreamId = id
        · exact Or.inr (Or.inr (Or.inr (Or.inr (Or.inr fun sameLen => matching ⟨busy, sameId, sameLen⟩))))
        · exact Or.inr (Or.inr (Or.inr (Or.inr (Or.inl sameId))))
      · exact Or.inr (Or.inr (Or.inr (Or.inl (Bool.not_eq_true _ ▸ busy))))
    rw [onSendComplete, if_pos stop, if_neg matching]

/-- A reset closes its stream unless another stream's response is in flight. -/
theorem Valid.onStreamReset_eq (valid : adapter.Valid) (id : UInt64) :
    adapter.onStreamReset id =
      if adapter.sendInFlight = true then
        if adapter.sendStreamId = id then
          (true, adapter.landed (adapter.connection.closeStream id).syncStreamSlots)
        else (false, adapter)
      else (true, { adapter with connection := (adapter.connection.closeStream id).syncStreamSlots }) := by
  unfold onStreamReset
  split
  case isTrue busy =>
    by_cases same : adapter.sendStreamId = id
    · rw [if_neg (not_not.mpr same), if_pos same, valid.onSendComplete_eq, if_pos ⟨busy, same, rfl⟩]
    · rw [if_pos same, if_neg same]
  case isFalse => rfl

/-- A reset fails only while the response of another stream is in flight. -/
theorem Valid.onStreamReset_iff (valid : adapter.Valid) (id : UInt64) :
    (adapter.onStreamReset id).1 = true ↔ (adapter.sendInFlight = true → adapter.sendStreamId = id) := by
  rw [valid.onStreamReset_eq]
  split_ifs with busy same
  · exact ⟨fun _ _ => same, fun _ => rfl⟩
  · exact ⟨nofun, fun own => absurd (own busy) same⟩
  · exact ⟨fun _ flying => absurd flying busy, fun _ => rfl⟩

theorem Valid.onStreamReset_entry (valid : adapter.Valid) {id : UInt64} (done : (adapter.onStreamReset id).1 = true) :
    (adapter.onStreamReset id).2.connection.entry id = none := by
  have gone := (valid.connection.close_spec id).2.1
  rw [valid.onStreamReset_eq] at done ⊢
  split_ifs at done ⊢ with busy same
  · exact gone
  · exact gone

variable {σ : Type} {check : Nat → List UInt8 → UInt8} {send : Option (SendCall → σ → Bool × σ)}

theorem Prepared.valid {id : UInt64} {ctx : σ} {result : Nat × Adapter × σ} (valid : adapter.Valid)
    (prepared : Prepared check send adapter id ctx result) : result.2.1.Valid := by
  cases prepared with
  | silent responseBuffer sendBuffer buffered => exact buffered
  | called callback free entry framed buffered =>
    split
    · exact buffered.inFlight id nofun framed.len_le
    · exact buffered.landed (valid.connection.close_spec id).1

/-- Preparing a response makes no entry. -/
theorem Prepared.entry_ne_none {id other : UInt64} {ctx : σ} {result : Nat × Adapter × σ} (valid : adapter.Valid)
    (prepared : Prepared check send adapter id ctx result) (present : result.2.1.connection.entry other ≠ none) :
    adapter.connection.entry other ≠ none := by
  cases prepared with
  | silent => exact present
  | called =>
    split at present
    · exact present
    · obtain ⟨-, gone, kept⟩ := valid.connection.close_spec id
      by_cases same : other = id
      · subst same
        exact absurd gone present
      · exact kept other same ▸ present

theorem Prepared.ctx {id : UInt64} {ctx : σ} {result : Nat × Adapter × σ}
    (prepared : Prepared check send adapter id ctx result) :
    result.2.2 = ctx ∨ ∃ f call, send = some f ∧ result.2.2 = (f call ctx).2 := by
  cases prepared with
  | silent => exact Or.inl rfl
  | called callback =>
    split
    · exact Or.inr ⟨_, _, callback, rfl⟩
    · exact Or.inr ⟨_, _, callback, rfl⟩

end Adapter

/-- An event keeps the adapter valid and calls the transport at most once. -/
theorem EventQueue.dispatchEvent_spec {σ : Type} (check : Nat → List UInt8 → UInt8)
    (send : Option (SendCall → σ → Bool × σ)) {adapter : Adapter} (valid : adapter.Valid) (ctx : σ)
    (event : ShellEvent) :
    (dispatchEvent check send adapter ctx event).2.1.Valid ∧
      ((dispatchEvent check send adapter ctx event).2.2 = ctx ∨
        ∃ f call, send = some f ∧ (dispatchEvent check send adapter ctx event).2.2 = (f call ctx).2) := by
  cases event with
  | authenticatedStreamBytes id data =>
    have connected := valid.withConnection (ShellConnection.Delivered.valid valid.connection
      (valid.connection.dispatchAuthenticatedStreamData_spec id data))
    have prepared := Adapter.prepareReadyResponse_spec check send connected id ctx
    simp only [dispatchEvent]
    split
    · exact ⟨prepared.valid connected, prepared.ctx⟩
    · exact ⟨connected, Or.inl rfl⟩
  | authenticatedStreamFin id =>
    have connected := valid.withConnection (ShellConnection.Delivered.valid valid.connection
      (valid.connection.onAuthenticatedStreamFin_spec id))
    have prepared := Adapter.prepareReadyResponse_spec check send connected id ctx
    simp only [dispatchEvent, Adapter.onAuthenticatedStreamFin]
    split
    · exact ⟨prepared.valid connected, prepared.ctx⟩
    · exact ⟨connected, Or.inl rfl⟩
  | readyResponse id =>
    have prepared := Adapter.prepareReadyResponse_spec check send valid id ctx
    exact ⟨prepared.valid valid, prepared.ctx⟩
  | sendComplete id len dropped =>
    simp only [dispatchEvent, valid.onSendComplete_eq]
    split
    · exact ⟨valid.landed (valid.connection.close_spec id).1, Or.inl trivial⟩
    · exact ⟨valid, Or.inl trivial⟩
  | streamReset id =>
    simp only [dispatchEvent, valid.onStreamReset_eq]
    split_ifs
    · exact ⟨valid.landed (valid.connection.close_spec id).1, Or.inl trivial⟩
    · exact ⟨valid, Or.inl trivial⟩
    · exact ⟨valid.withConnection (valid.connection.close_spec id).1, Or.inl trivial⟩

end Ism
