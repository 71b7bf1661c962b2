import Ism.AdapterTable
import Ism.Responder

namespace Ism

open Lib ShellConnection

section Histories

variable {τ : Type}

/-- The bytes that a history of deliveries adds up to. -/
def deliveredBytes (history : List (Delivery τ)) : List UInt8 := history.flatMap Delivery.data

@[simp] theorem deliveredBytes_append (first second : List (Delivery τ)) :
    deliveredBytes (first ++ second) = deliveredBytes first ++ deliveredBytes second :=
  List.flatMap_append

@[simp] theorem deliveredBytes_bytes (source : τ) (data : List UInt8) :
    deliveredBytes [.bytes source data] = data := by
  simp [deliveredBytes, Delivery.data]

@[simp] theorem deliveredBytes_fin (source : τ) (rest : List (Delivery τ)) :
    deliveredBytes (.fin source :: rest) = deliveredBytes rest := by
  simp [deliveredBytes, Delivery.data]

/-- A history whose bytes are the complete request `m`, with a FIN behind the last of them. -/
def Requests (history : List (Delivery τ)) (m : List UInt8) : Prop :=
  m.length < 65536 ∧ ∃ before after source, history = before ++ .fin source :: after ∧
    deliveredBytes after = [] ∧ CompleteRequest (deliveredBytes before) m.length m

theorem Requests.append {history : List (Delivery τ)} {m : List UInt8} (asked : Requests history m)
    {more : List (Delivery τ)} (empty : deliveredBytes more = []) : Requests (history ++ more) m := by
  obtain ⟨short, before, after, source, rfl, silent, complete⟩ := asked
  refine ⟨short, before, after ++ more, source, by simp, ?_, complete⟩
  rw [deliveredBytes_append, silent, empty]
  rfl

/-- The entry of a stream is a function of what was delivered to it since it was
opened, up to bytes of the message buffer that no request covers. -/
inductive Traced (history : List (Delivery τ)) (e : Entry) : Prop
  | reading {before : List UInt8} (room : 65535 ≤ before.length)
    (holds : Accumulates before (deliveredBytes history) e.phase e.message)
  | ready {m : List UInt8} {n : MessageLength} (phase : e.phase = .processing n) (length : m.length = n)
    (held : m <+: e.message) (asked : Requests history m)
  | ended (phase : e.phase = .done)

theorem Traced.fresh {e : Entry} (phase : e.phase = .readingLength)
    (room : e.message.length = shellStreamBufferSize) : Traced ([] : List (Delivery τ)) e :=
  have start : e.ctx.scPhase = .readingLength := phase
  Traced.reading (Nat.le_of_eq room.symm) (Accumulates.fresh start e.message)

theorem Entry.feed_nil {e : Entry} {n : MessageLength} (phase : e.phase = .processing n) : e.feed [] = e := by
  obtain ⟨_, message⟩ := e
  subst phase
  simp [Entry.feed, Entry.ctx, handleStreamData, nextStreamPhase, fragmentPhase, advanceBodyPhase, copyBodyBytes,
    fragmentCopyPlan]

theorem Entry.feed_cons {e : Entry} {n : MessageLength} (phase : e.phase = .processing n) (byte : UInt8)
    (rest : List UInt8) : (e.feed (byte :: rest)).phase = .done := by
  simp [Entry.feed, Entry.ctx, handleStreamData, nextStreamPhase, fragmentPhase, advanceBodyPhase, phase]

theorem Traced.feed {history : List (Delivery τ)} {e : Entry} (traced : Traced history e) (source : τ)
    (data : List UInt8) : Traced (history ++ [.bytes source data]) (e.feed data) := by
  cases traced with
  | reading room holds =>
    have before : Accumulates _ (deliveredBytes history) e.ctx.scPhase e.message := holds
    refine Traced.reading room ?_
    rw [deliveredBytes_append, deliveredBytes_bytes]
    exact before.step room data
  | ready phase length held asked =>
    cases data with
    | nil =>
      rw [Entry.feed_nil phase]
      exact Traced.ready phase length held (asked.append (deliveredBytes_bytes source []))
    | cons byte rest => exact Traced.ended (Entry.feed_cons phase byte rest)
  | ended phase =>
    have finished : e.ctx.scPhase = .done := phase
    exact Traced.ended (handleStreamData_done finished e.message data)

theorem Traced.finish {history : List (Delivery τ)} {e : Entry} (traced : Traced history e) (source : τ) :
    Traced (history ++ [.fin source]) e.finish := by
  rcases finishDoqPhase_processing_or_done e.phase (e.message.getD 0 0) (e.message.getD 1 0) with
    ⟨n, accepted⟩ | ended
  · have finished : e.finish.phase = .processing n := accepted
    cases traced with
    | reading room holds =>
      have before : Accumulates _ (deliveredBytes history) e.ctx.scPhase e.message := holds
      obtain ⟨m, complete⟩ := (before.fin_iff n).mp accepted
      have waiting : e.phase = .awaitingFin n := by
        obtain ⟨waiting | already, -⟩ := finishDoqPhase_eq_processing_iff.mp accepted
        · exact waiting
        · exact absurd (holds.phase_eq.symm.trans already) (tracePhase_ne_processing _ n)
      have front := (holds.body_eq n (Or.inr waiting)).1
      obtain ⟨whole, length, -⟩ := id complete
      rw [whole, List.drop_left' (be16_length n)] at front
      refine Traced.ready finished length (front ▸ List.take_prefix _ _)
        ⟨length ▸ n.isLt, history, [], source, rfl, rfl, ?_⟩
      rwa [length]
    | ready phase length held asked =>
      obtain ⟨waiting | already, -⟩ := finishDoqPhase_eq_processing_iff.mp accepted
      · rw [phase] at waiting
        cases waiting
      · rw [phase, StreamPhase.processing.injEq] at already
        exact Traced.ready finished (already ▸ length) held (asked.append (deliveredBytes_fin source []))
    | ended phase =>
      obtain ⟨waiting | already, -⟩ := finishDoqPhase_eq_processing_iff.mp accepted
      · rw [phase] at waiting
        cases waiting
      · rw [phase] at already
        cases already
  · exact Traced.ended ended

/-- An entry that waits for its response has the request of its history in front of its buffer. -/
theorem Traced.request {history : List (Delivery τ)} {k : MessageLength} {message : List UInt8}
    (traced : Traced history ⟨.processing k, message⟩) :
    ∃ m : List UInt8, m.length = k ∧ m <+: message ∧ Requests history m := by
  cases traced with
  | reading room holds => exact absurd holds.phase_eq.symm (tracePhase_ne_processing _ _)
  | ended phase => cases phase
  | @ready m l phase length held asked =>
    obtain rfl : k = l := StreamPhase.processing.inj phase
    exact ⟨m, length, held, asked⟩

theorem Requests.header {history : List (Delivery τ)} {m : List UInt8} (asked : Requests history m) :
    12 ≤ m.length ∧ m.getD 0 0 = 0 ∧ m.getD 1 0 = 0 := by
  obtain ⟨-, _, _, _, -, -, complete⟩ := asked
  exact ⟨complete.2.2.1, complete.id_zero⟩

/-- A send that carries the minimal response to the request of a history, and nothing else. -/
def Answers (history : List (Delivery τ)) (call : SendCall) : Prop :=
  call.fin = true ∧ ∃ m, Requests history m ∧ (minimalResponse m).length < 65536 ∧
    call.len ≤ call.buf.length ∧ call.buf.take call.len = be16 (minimalResponse m).length ++ minimalResponse m

end Histories

namespace Adapter

variable {τ σ : Type} {check : Nat → List UInt8 → UInt8} {adapter : Adapter} {id : UInt64}

/-- What is framed is the response to the request in front of the message buffer, and it fits. -/
theorem Framed.fits (generated : ∀ n, Format.Validates (fun input => decide (check n input ≠ 0))
      (Grammar.dnsUncompressedQuestion n)) (valid : adapter.Valid) {requestLen : MessageLength}
    {m message responseBuffer sendBuffer : List UInt8} {len : Nat} (length : m.length = requestLen)
    (held : m <+: message) (long : 12 ≤ m.length) (idHi : m.getD 0 0 = 0) (idLo : m.getD 1 0 = 0)
    (framed : Framed check adapter requestLen message responseBuffer sendBuffer len) :
    (minimalResponse m).length ≤ adapter.responseCapacity ∧ (minimalResponse m).length < 65536 ∧
      len = (minimalResponse m).length + 2 ∧ len ≤ adapter.sendCapacity ∧
      ∃ rest, sendBuffer = be16 (minimalResponse m).length ++ minimalResponse m ++ rest := by
  obtain @⟨oldResponse, oldSend, responseLen, responseOld, sendOld, worker, framing, responsePos, lenPos⟩ := framed
  obtain ⟨old, rfl⟩ := held
  rw [← length, prepareWorkerValidatedMinimalResponseSend_eq generated long idHi idLo
    (valid.response_room oldResponse responseOld)] at worker
  split at worker
  case isFalse => cases worker; exact absurd responsePos (Nat.lt_irrefl 0)
  case isTrue room =>
    cases worker
    have inside : (minimalResponse m).length ≤
        (minimalResponse m ++ oldResponse.drop (minimalResponse m).length).length := by
      rw [List.length_append]
      omega
    rw [prepareDoqResponseSendForStream_eq inside (valid.send_room oldSend sendOld), List.take_left] at framing
    split at framing
    case isFalse => cases framing; exact absurd lenPos (Nat.lt_irrefl 0)
    case isTrue small =>
      cases framing
      exact ⟨room, Nat.lt_succ_of_le small.1, rfl, small.2, _, rfl⟩

/-- The framed response depends on the request alone: not on what the slot, the
response buffer or the send buffer held before. -/
theorem Framed.answers (generated : ∀ n, Format.Validates (fun input => decide (check n input ≠ 0))
      (Grammar.dnsUncompressedQuestion n)) (valid : adapter.Valid) {history : List (Delivery τ)}
    {requestLen : MessageLength} {message responseBuffer sendBuffer : List UInt8} {len : Nat}
    (framed : Framed check adapter requestLen message responseBuffer sendBuffer len)
    (traced : Traced history ⟨.processing requestLen, message⟩) :
    Answers history ⟨id, sendBuffer, len, true⟩ := by
  obtain ⟨m, length, held, asked⟩ := traced.request
  obtain ⟨long, idHi, idLo⟩ := asked.header
  obtain ⟨-, short, rfl, -, rest, rfl⟩ := framed.fits generated valid length held long idHi idLo
  have size : (be16 (minimalResponse m).length ++ minimalResponse m).length = (minimalResponse m).length + 2 := by
    rw [List.length_append, be16_length, Nat.add_comm]
  refine ⟨rfl, m, asked, short, ?_, List.take_left' size⟩
  change (minimalResponse m).length + 2 ≤ (be16 (minimalResponse m).length ++ minimalResponse m ++ rest).length
  rw [List.length_append, size]
  exact Nat.le_add_right _ _

/-- Every stream of the table is in the state its history leads to. -/
def Follows (adapter : Adapter) (histories : UInt64 → List (Delivery τ)) : Prop :=
  ∀ id e, adapter.connection.entry id = some e → Traced (histories id) e

theorem Follows.close {histories : UInt64 → List (Delivery τ)} (valid : adapter.Valid)
    (follows : adapter.Follows histories) (id : UInt64) {after : Adapter}
    (closed : after.connection = (adapter.connection.closeStream id).syncStreamSlots) : after.Follows histories := by
  intro other e present
  obtain ⟨-, gone, kept⟩ := valid.connection.close_spec id
  rw [closed] at present
  by_cases same : other = id
  · rw [same, gone] at present
    cases present
  · rw [kept other same] at present
    exact follows other e present

theorem Follows.delivered {histories : UInt64 → List (Delivery τ)} (follows : adapter.Follows histories)
    {f : Entry → Entry} {delivery : Delivery τ} {result : UInt8 × ShellConnection}
    (traces : ∀ history e, Traced history e → Traced (history ++ [delivery]) (f e))
    (delivered : Delivered adapter.connection id f result) :
    { adapter with connection := result.2 }.Follows (adapter.deliver histories id delivery) := by
  intro other e present
  cases delivered with
  | refused absent =>
    have different : other ≠ id := by
      rintro rfl
      rw [show adapter.connection.entry other = none from absent] at present
      cases present
    rw [deliver, Function.update_of_ne different]
    exact follows other e present
  | @acted start after starts valid here others =>
    by_cases same : other = id
    · subst same
      obtain rfl : f start = e := Option.some.inj (here.symm.trans present)
      rw [deliver, Function.update_self]
      rcases starts with old | ⟨absent, -, phase, length⟩
      · have found : adapter.connection.findStream other ≠ none := fun missing => by
          rw [entry_eq_none_iff.mpr missing] at old
          cases old
        rw [if_neg found]
        exact traces _ _ (follows other start old)
      · rw [if_pos (entry_eq_none_iff.mp absent)]
        exact traces [] start (Traced.fresh phase length)
    · rw [deliver, Function.update_of_ne same]
      exact follows other e ((others other same).symm.trans present)

/-- One adapter operation keeps the histories right, and answers the request of the
stream `id` if it calls the transport at all. -/
structure Kept (send : Option (SendCall → σ → Bool × σ)) (histories : UInt64 → List (Delivery τ)) (id : UInt64)
    (ctx : σ) (after : Adapter × σ) : Prop where
  valid : after.1.Valid
  follows : after.1.Follows histories
  call : after.2 = ctx ∨ ∃ f call, send = some f ∧ call.streamId = id ∧ Answers (histories id) call ∧
    after.2 = (f call ctx).2

variable {send : Option (SendCall → σ → Bool × σ)} {histories : UInt64 → List (Delivery τ)}

theorem Prepared.kept (generated : ∀ n, Format.Validates (fun input => decide (check n input ≠ 0))
      (Grammar.dnsUncompressedQuestion n)) (valid : adapter.Valid) (follows : adapter.Follows histories)
    {ctx : σ} {result : Nat × Adapter × σ} (prepared : Prepared check send adapter id ctx result) :
    Kept send histories id ctx result.2 := by
  cases prepared with
  | silent responseBuffer sendBuffer buffered => exact ⟨buffered, follows, Or.inl rfl⟩
  | @called f requestLen message responseBuffer sendBuffer len callback _ entry framed buffered =>
    have answers : Answers (histories id) ⟨id, sendBuffer, len, true⟩ :=
      framed.answers generated valid (follows id _ entry)
    split
    · exact ⟨buffered.inFlight id nofun framed.len_le, follows, Or.inr ⟨f, _, callback, rfl, answers, rfl⟩⟩
    · exact ⟨buffered.landed (valid.connection.close_spec id).1, follows.close valid id rfl,
        Or.inr ⟨f, _, callback, rfl, answers, rfl⟩⟩

variable (generated : ∀ n, Format.Validates (fun input => decide (check n input ≠ 0))
  (Grammar.dnsUncompressedQuestion n))

include generated in
theorem onAuthenticatedStreamBytes_kept (valid : adapter.Valid) (follows : adapter.Follows histories) (id : UInt64)
    (source : τ) (data : List UInt8) (ctx : σ) :
    Kept send (adapter.deliver histories id (.bytes source data)) id ctx
      (adapter.onAuthenticatedStreamBytes check send id data ctx).2 := by
  have delivered := valid.connection.dispatchAuthenticatedStreamData_spec id data
  have connected := valid.withConnection (Delivered.valid valid.connection delivered)
  have traced := follows.delivered (fun _ _ traced => traced.feed source data) delivered
  simp only [onAuthenticatedStreamBytes]
  split
  · exact (prepareReadyResponse_spec check send connected id ctx).kept generated connected traced
  · exact ⟨connected, traced, Or.inl rfl⟩

include generated in
theorem onAuthenticatedStreamFin_kept (valid : adapter.Valid) (follows : adapter.Follows histories) (id : UInt64)
    (source : τ) (ctx : σ) :
    Kept send (adapter.deliver histories id (.fin source)) id ctx
      (adapter.onAuthenticatedStreamFin check send id ctx).2 := by
  have delivered := valid.connection.onAuthenticatedStreamFin_spec id
  have connected := valid.withConnection (Delivered.valid valid.connection delivered)
  have traced := follows.delivered (fun _ _ traced => traced.finish source) delivered
  simp only [onAuthenticatedStreamFin]
  split
  · exact (prepareReadyResponse_spec check send connected id ctx).kept generated connected traced
  · exact ⟨connected, traced, Or.inl rfl⟩

theorem onSendComplete_kept (valid : adapter.Valid) (follows : adapter.Follows histories) (id : UInt64) (len : Nat)
    (dropped : Bool) (ctx : σ) : Kept send histories id ctx ((adapter.onSendComplete id len dropped).2, ctx) := by
  rw [valid.onSendComplete_eq]
  split
  · exact ⟨valid.landed (valid.connection.close_spec id).1, follows.close valid id rfl, Or.inl rfl⟩
  · exact ⟨valid, follows, Or.inl rfl⟩

theorem onStreamReset_kept (valid : adapter.Valid) (follows : adapter.Follows histories) (id : UInt64) (ctx : σ) :
    Kept send histories id ctx ((adapter.onStreamReset id).2, ctx) := by
  rw [valid.onStreamReset_eq]
  split_ifs
  · exact ⟨valid.landed (valid.connection.close_spec id).1, follows.close valid id rfl, Or.inl rfl⟩
  · exact ⟨valid, follows, Or.inl rfl⟩
  · exact ⟨valid.withConnection (valid.connection.close_spec id).1, follows.close valid id rfl, Or.inl rfl⟩

end Adapter

namespace ShellEvent

variable {σ : Type} (check : Nat → List UInt8 → UInt8) (send : Option (SendCall → σ → Bool × σ))

def handle (adapter : Adapter) (ctx : σ) : ShellEvent → Adapter × σ
  | .authenticatedStreamBytes streamId data => (adapter.onAuthenticatedStreamBytes check send streamId data ctx).2
  | .authenticatedStreamFin streamId => (adapter.onAuthenticatedStreamFin check send streamId ctx).2
  | .readyResponse streamId => (adapter.prepareReadyResponse check send streamId ctx).2
  | .sendComplete streamId len dropped => ((adapter.onSendComplete streamId len dropped).2, ctx)
  | .streamReset streamId => ((adapter.onStreamReset streamId).2, ctx)

end ShellEvent

/-- An adapter with the state of its transport and, beside the code, what was delivered
to each stream since it was last put into the table. -/
structure AdapterSession (σ : Type) where
  adapter : Adapter
  ctx : σ
  histories : UInt64 → List (Delivery Unit)

namespace AdapterSession

variable {σ : Type} (check : Nat → List UInt8 → UInt8) (send : SendCall → σ → Bool × σ)

/-- A callback that also writes down the calls it gets. -/
def recorded (call : SendCall) (state : σ × List SendCall) : Bool × (σ × List SendCall) :=
  let (sent, ctx) := send call state.1
  (sent, ctx, state.2 ++ [call])

def start (responseBuffer : Option (List UInt8)) (responseCapacity : Nat) (sendBuffer : Option (List UInt8))
    (sendCapacity : Nat) (ctx : σ) : AdapterSession σ :=
  ⟨Adapter.init responseBuffer responseCapacity sendBuffer sendCapacity, ctx, fun _ => []⟩

/-- One event, with the calls that the adapter makes while it handles it. -/
def step (session : AdapterSession σ) (event : ShellEvent) : AdapterSession σ × List SendCall :=
  let (adapter, ctx, calls) := event.handle check (some (recorded send)) session.adapter (session.ctx, [])
  (⟨adapter, ctx, event.histories () session.adapter session.histories⟩, calls)

def run (session : AdapterSession σ) (events : List ShellEvent) : AdapterSession σ :=
  events.foldl (fun session event => (session.step check send event).1) session

structure Good (session : AdapterSession σ) : Prop where
  valid : session.adapter.Valid
  follows : session.adapter.Follows session.histories

variable {check send} (generated : ∀ n, Format.Validates (fun input => decide (check n input ≠ 0))
  (Grammar.dnsUncompressedQuestion n))

include generated in
theorem Good.step {session : AdapterSession σ} (good : session.Good) (event : ShellEvent) :
    (session.step check send event).1.Good ∧ ∀ call ∈ (session.step check send event).2,
      Answers ((session.step check send event).1.histories call.streamId) call := by
  obtain ⟨id, kept⟩ : ∃ id, Adapter.Kept (some (recorded send)) (event.histories () session.adapter session.histories)
      id (session.ctx, []) (event.handle check (some (recorded send)) session.adapter (session.ctx, [])) := by
    cases event with
    | authenticatedStreamBytes id data =>
      exact ⟨id, Adapter.onAuthenticatedStreamBytes_kept generated good.valid good.follows id () data _⟩
    | authenticatedStreamFin id =>
      exact ⟨id, Adapter.onAuthenticatedStreamFin_kept generated good.valid good.follows id () _⟩
    | readyResponse id =>
      exact ⟨id, (Adapter.prepareReadyResponse_spec check _ good.valid id _).kept generated good.valid good.follows⟩
    | sendComplete id len dropped => exact ⟨id, Adapter.onSendComplete_kept good.valid good.follows id len dropped _⟩
    | streamReset id => exact ⟨id, Adapter.onStreamReset_kept good.valid good.follows id _⟩
  refine ⟨⟨kept.valid, kept.follows⟩, fun call member => ?_⟩
  rcases kept.call with quiet | ⟨f, made, callback, sameId, answers, state⟩
  · have silent : (session.step check send event).2 = [] := congrArg Prod.snd quiet
    rw [silent] at member
    cases member
  · cases callback
    have single : (session.step check send event).2 = [made] := congrArg Prod.snd state
    rw [single, List.mem_singleton] at member
    rw [member, sameId]
    exact answers

include generated in
theorem Good.run {session : AdapterSession σ} (good : session.Good) (events : List ShellEvent) :
    (session.run check send events).Good :=
  List.foldlRecOn events _ good fun _ before event _ => (before.step generated event).1

end AdapterSession

/-- Whatever the interleaving of streams and the answers of the transport, a send goes
out only for a stream whose deliveries are one complete request and its FIN, and it
carries the minimal response to that request. -/
theorem adapter_request_response_trace {σ : Type} (check : Nat → List UInt8 → UInt8)
    (generated : ∀ n, Format.Validates (fun input => decide (check n input ≠ 0)) (Grammar.dnsUncompressedQuestion n))
    (send : SendCall → σ → Bool × σ) (ctx : σ) (responseBuffer sendBuffer : Option (List UInt8))
    (responseCapacity sendCapacity : Nat) (responseRoom : ∀ b ∈ responseBuffer, responseCapacity ≤ b.length)
    (sendRoom : ∀ b ∈ sendBuffer, sendCapacity ≤ b.length) (events : List ShellEvent) (event : ShellEvent) :
    let before := (AdapterSession.start responseBuffer responseCapacity sendBuffer sendCapacity ctx).run
      check send events
    let after := before.step check send event
    ∀ call ∈ after.2, call.fin = true ∧ ∃ m,
      (minimalResponse m).length < 65536 ∧ call.len ≤ call.buf.length ∧
      call.buf.take call.len = be16 (minimalResponse m).length ++ minimalResponse m ∧
      12 ≤ m.length ∧ m.length < 65536 ∧ m[0]? = some 0 ∧ m[1]? = some 0 ∧
      deliveredBytes (after.1.histories call.streamId) = be16 m.length ++ m ∧
      ∃ bytes rest, after.1.histories call.streamId = bytes ++ Delivery.fin () :: rest ∧ deliveredBytes rest = [] := by
  intro before after call member
  have start : (AdapterSession.start responseBuffer responseCapacity sendBuffer sendCapacity ctx).Good :=
    ⟨Adapter.init_valid responseRoom sendRoom, nofun⟩
  obtain ⟨-, answers⟩ := (start.run generated events).step generated event
  obtain ⟨fin, m, ⟨short, bytes, rest, source, history, silent, whole, -, long, first, second⟩, small, fits, framed⟩ :=
    answers call member
  refine ⟨fin, m, small, fits, framed, long, short, first, second, ?_, bytes, rest, history, silent⟩
  rw [show after.1.histories call.streamId = bytes ++ .fin source :: rest from history, deliveredBytes_append,
    deliveredBytes_fin, silent, List.append_nil, whole]

/-- Two streams take turns; the second one never completes its request. -/
def interleavedEvents : List ShellEvent :=
  [.authenticatedStreamBytes 4 [0, 12, 9], .authenticatedStreamBytes 0 (0 :: 19 :: addressQuery.take 7),
    .authenticatedStreamBytes 4 [9, 9], .authenticatedStreamBytes 0 (addressQuery.drop 7)]

theorem adapter_request_response_trace_interleaved :
    let before := (AdapterSession.start (some (List.replicate 64 255)) 64 (some (List.replicate 64 7)) 64 ()).run
      checkQuestion (fun _ ctx => (true, ctx)) interleavedEvents
    let after := before.step checkQuestion (fun _ ctx => (true, ctx)) (.authenticatedStreamFin 0)
    after.2.map (fun call => (call.streamId, call.len)) = [(0, 21)] ∧
      ∀ call ∈ after.2, call.fin = true ∧ ∃ m,
        call.buf.take call.len = be16 (minimalResponse m).length ++ minimalResponse m ∧
        deliveredBytes (after.1.histories call.streamId) = be16 m.length ++ m := by
  refine ⟨by decide +kernel, fun call member => ?_⟩
  obtain ⟨fin, m, -, -, framed, -, -, -, -, delivered, -⟩ := adapter_request_response_trace checkQuestion
    checkQuestion_validates (fun _ ctx => (true, ctx)) () (some (List.replicate 64 255)) (some (List.replicate 64 7))
    64 64 (by simp) (by simp) interleavedEvents (.authenticatedStreamFin 0) call member
  exact ⟨fin, m, framed, delivered⟩

end Ism
