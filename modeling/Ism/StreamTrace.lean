import Ism.Stream

namespace Ism

open Lib

variable {β : Type}

/-- Delivers fragments one by one through `handleStreamData`. -/
def deliver (ctx : StreamContext β) (buf : List UInt8) :
    List (List UInt8) → StreamContext β × List UInt8
  | [] => (ctx, buf)
  | data :: rest =>
    let next := handleStreamData ctx buf data
    deliver next.2.1 next.2.2 rest

/-- What the bytes received so far determine about the phase, without reference
to how they were cut into fragments. -/
def tracePhase : List UInt8 → StreamPhase
  | [] => .readingLength
  | [hi] => .readingLengthHigh hi
  | hi :: lo :: body =>
    let expected := u32FromBeU16Bytes hi lo
    if (expected : Nat) < 12 ∨ (expected : Nat) < body.length then .done
    else if body.length = expected then .awaitingFin expected
    else .readingMessage expected body.length

theorem u32FromBeU16Bytes_val (hi lo : UInt8) :
    (u32FromBeU16Bytes hi lo : Nat) = ofBe16 hi lo := rfl

/-- From a fresh body count, the checked advance is the byte-trace phase. -/
theorem advanceMessageChecked_zero (hi lo : UInt8) (body : List UInt8) :
    advanceMessageChecked (u32FromBeU16Bytes hi lo) 0 body.length = tracePhase (hi :: lo :: body) := by
  simp only [advanceMessageChecked, advanceMessage, remainingMessage, tracePhase, Nat.zero_add]
  by_cases short : (u32FromBeU16Bytes hi lo : Nat) < 12
  · simp [short]
  · have positive : ¬ (u32FromBeU16Bytes hi lo : Nat) ≤ 0 := by omega
    simp only [short, Nat.not_lt_zero, positive, if_false, Nat.sub_zero, false_or]
    by_cases long : (u32FromBeU16Bytes hi lo : Nat) < body.length
    · simp [long]
    · simp only [long, if_false]
      by_cases full : body.length = (u32FromBeU16Bytes hi lo : Nat)
      · simp [full]
      · simp [full, show ¬ (u32FromBeU16Bytes hi lo : Nat) ≤ body.length by omega]

/-- One fragment moves the phase as one longer byte string would. -/
theorem fragmentPhase_tracePhase (s data : List UInt8) :
    fragmentPhase (tracePhase s) data.length (firstByte data) (secondByte data) =
      tracePhase (s ++ data) := by
  match s with
  | [] =>
    match data with
    | [] => rfl
    | [hi] => rfl
    | hi :: lo :: body =>
      simp only [tracePhase, fragmentPhase, List.length_cons, firstByte, secondByte,
        bodyBytesAfterPrefix, List.nil_append]
      rw [if_pos (by omega), if_pos (by omega)]
      exact advanceMessageChecked_zero hi lo body
  | [hi] =>
    match data with
    | [] => rfl
    | lo :: body =>
      simp only [tracePhase, fragmentPhase, List.length_cons, firstByte,
        bodyBytesAfterStoredPrefix, List.cons_append, List.nil_append]
      rw [if_pos (by omega), if_pos (by omega)]
      exact advanceMessageChecked_zero hi lo body
  | hi :: lo :: body =>
    simp only [List.cons_append, tracePhase, List.length_append]
    generalize u32FromBeU16Bytes hi lo = expected
    by_cases bad : (expected : Nat) < 12 ∨ (expected : Nat) < body.length
    · rw [if_pos bad, if_pos (by omega)]
      rfl
    · rw [if_neg bad]
      by_cases full : body.length = expected
      · rw [if_pos full]
        simp only [fragmentPhase, advanceBodyPhase]
        by_cases more : 0 < data.length
        · rw [if_pos more, if_pos (by omega)]
        · rw [if_neg more, if_neg (by omega), if_pos (by omega)]
      · rw [if_neg full]
        have remaining : remainingMessage expected body.length = expected - body.length :=
          if_neg (by omega)
        simp only [fragmentPhase, advanceBodyPhase, advanceMessageChecked, advanceMessage, remaining]
        split_ifs <;> first | rfl | (exfalso; omega)

/-- The invariant that ties phase, buffer and the bytes `s` consumed since the
context was fresh; `before` is the buffer it started with. -/
structure Accumulates (before s : List UInt8) (phase : StreamPhase) (buf : List UInt8) : Prop where
  phase_eq : phase = tracePhase s
  length_eq : buf.length = before.length
  untouched : s.length < 2 → buf = before
  body_eq : ∀ expected : MessageLength,
    phase = .readingMessage expected (s.length - 2) ∨ phase = .awaitingFin expected →
      buf.take (s.length - 2) = s.drop 2 ∧ buf.drop expected = before.drop expected

theorem tracePhase_body {s : List UInt8} {expected : MessageLength}
    (reading : tracePhase s = .readingMessage expected (s.length - 2) ∨
      tracePhase s = .awaitingFin expected) :
    ∃ hi lo body, s = hi :: lo :: body ∧ u32FromBeU16Bytes hi lo = expected ∧
      12 ≤ (expected : Nat) ∧ body.length ≤ expected := by
  match s, reading with
  | hi :: lo :: body, reading =>
    refine ⟨hi, lo, body, rfl, ?_⟩
    simp only [tracePhase] at reading
    split at reading
    · simp at reading
    · rename_i good
      split at reading
      · have same : u32FromBeU16Bytes hi lo = expected := by simpa using reading
        subst same
        exact ⟨rfl, by omega, by omega⟩
      · have same : u32FromBeU16Bytes hi lo = expected := by simpa using reading
        subst same
        exact ⟨rfl, by omega, by omega⟩

/-- The copy plan never leaves the fragment, nor the largest message. -/
theorem fragmentCopyPlan_bounds (phase : StreamPhase) (data : List UInt8) :
    let plan := fragmentCopyPlan phase data.length (firstByte data) (secondByte data)
    plan.sourceOffset + plan.count ≤ data.length ∧ plan.destinationOffset + plan.count ≤ 65535 := by
  have bounded : ∀ available wanted, boundedCopyLen available wanted ≤ available ∧
      boundedCopyLen available wanted ≤ wanted := by
    intro available wanted
    unfold boundedCopyLen
    split <;> omega
  cases phase with
  | readingLength =>
    simp only [fragmentCopyPlan, bodyBytesAfterPrefix]
    have announced := (u32FromBeU16Bytes (firstByte data) (secondByte data)).isLt
    split <;> dsimp only
    · have := bounded (data.length - 2) (u32FromBeU16Bytes (firstByte data) (secondByte data))
      omega
    · simp
  | readingLengthHigh hi =>
    simp only [fragmentCopyPlan, bodyBytesAfterStoredPrefix]
    have announced := (u32FromBeU16Bytes hi (firstByte data)).isLt
    split <;> dsimp only
    · have := bounded (data.length - 1) (u32FromBeU16Bytes hi (firstByte data))
      omega
    · simp
  | readingMessage expected current =>
    simp only [fragmentCopyPlan, remainingMessage]
    have announced := expected.isLt
    split <;> dsimp only
    · rw [if_neg (by omega)]
      have := bounded data.length (expected - current)
      omega
    · simp
  | awaitingFin | processing | done => simp [fragmentCopyPlan]

theorem copyBodyBytes_eq_blit (ctx : StreamContext β) (buf data : List UInt8) :
    copyBodyBytes ctx buf data =
      let plan := fragmentCopyPlan ctx.scPhase data.length (firstByte data) (secondByte data)
      blit data plan.sourceOffset buf plan.destinationOffset plan.count := by
  unfold copyBodyBytes
  dsimp only
  split
  · rfl
  · rename_i none
    rw [Nat.eq_zero_of_not_pos none, blit_zero]

theorem boundedCopyLen_of_le {available wanted : Nat} (fits : available ≤ wanted) :
    boundedCopyLen available wanted = available := by
  unfold boundedCopyLen
  split <;> omega

theorem copyBodyBytes_length (ctx : StreamContext β) {buf : List UInt8} (room : 65535 ≤ buf.length)
    (data : List UInt8) : (copyBodyBytes ctx buf data).length = buf.length := by
  have bounds := fragmentCopyPlan_bounds ctx.scPhase data
  rw [copyBodyBytes_eq_blit]
  exact blit_length bounds.1 (Nat.le_trans bounds.2 room)

theorem Accumulates.step {before s buf : List UInt8} {ctx : StreamContext β}
    (holds : Accumulates before s ctx.scPhase buf) (room : 65535 ≤ before.length) (data : List UInt8) :
    Accumulates before (s ++ data) (nextStreamPhase ctx data) (copyBodyBytes ctx buf data) := by
  have phaseEq : nextStreamPhase ctx data = tracePhase (s ++ data) := by
    rw [nextStreamPhase, holds.phase_eq, fragmentPhase_tracePhase]
  have roomNow : 65535 ≤ buf.length := holds.length_eq ▸ room
  refine ⟨phaseEq, (copyBodyBytes_length ctx roomNow data).trans holds.length_eq, ?_, ?_⟩
  · intro short
    have small : s.length < 2 := by simp only [List.length_append] at short; omega
    rw [copyBodyBytes_eq_blit, holds.phase_eq]
    match s, data, short with
    | [], [], _ | [], [_], _ | [_], [], _ =>
      simpa [tracePhase, fragmentCopyPlan, blit_zero] using holds.untouched small
  · intro expected opened
    rw [phaseEq] at opened
    obtain ⟨hi, lo, body, split, announced, _, fits⟩ := tracePhase_body opened
    have limit := expected.isLt
    rw [copyBodyBytes_eq_blit, holds.phase_eq, split]
    -- where the two length octets fell decides the copy plan
    match s, holds, split with
    | [], holds, split =>
      have dataEq : data = hi :: lo :: body := split
      subst dataEq
      have start := holds.untouched (by simp)
      subst start
      simp only [tracePhase, fragmentCopyPlan, firstByte, secondByte, bodyBytesAfterPrefix,
        List.length_cons, show 2 ≤ body.length + 1 + 1 from by omega, if_true, List.getD_cons_zero,
        List.getD_cons_succ, announced]
      rw [show body.length + 1 + 1 - 2 = body.length by omega, boundedCopyLen_of_le fits]
      constructor
      · rw [blit_take_front (by simp only [List.length_cons]; omega) (by omega)]
        simp
      · exact blit_drop (by simp only [List.length_cons]; omega) (by omega) (by omega)
    | [first], holds, split =>
      obtain ⟨rfl, dataEq⟩ : first = hi ∧ data = lo :: body := by simpa using split
      subst dataEq
      have start := holds.untouched (by simp)
      subst start
      simp only [tracePhase, fragmentCopyPlan, firstByte, bodyBytesAfterStoredPrefix,
        List.length_cons, show 1 ≤ body.length + 1 from by omega, if_true, List.getD_cons_zero,
        announced]
      rw [show body.length + 1 + 1 - 2 = body.length by omega,
        show body.length + 1 - 1 = body.length by omega, boundedCopyLen_of_le fits]
      constructor
      · rw [blit_take_front (by simp only [List.length_cons]; omega) (by omega)]
        simp
      · exact blit_drop (by simp only [List.length_cons]; omega) (by omega) (by omega)
    | first :: second :: received, holds, split =>
      obtain ⟨rfl, rfl, bodyEq⟩ : first = hi ∧ second = lo ∧ received ++ data = body := by
        simpa using split
      subst bodyEq
      simp only [List.length_append] at fits
      have phaseNow := holds.phase_eq
      simp only [tracePhase, announced] at phaseNow ⊢
      rw [if_neg (by omega)] at phaseNow ⊢
      by_cases full : received.length = expected
      · have empty : data = [] := List.eq_nil_of_length_eq_zero (by omega)
        subst empty
        rw [if_pos full] at phaseNow ⊢
        simpa [fragmentCopyPlan, blit_zero] using holds.body_eq expected (Or.inr phaseNow)
      · rw [if_neg full] at phaseNow ⊢
        obtain ⟨front, back⟩ := holds.body_eq expected (Or.inl phaseNow)
        simp only [fragmentCopyPlan, remainingMessage, show received.length < (expected : Nat) by omega,
          show ¬ (expected : Nat) ≤ received.length by omega, if_true, if_false]
        rw [boundedCopyLen_of_le (by omega)]
        have count : (first :: second :: (received ++ data)).length - 2 =
            received.length + data.length := by simp
        simp only [List.length_cons, List.drop_succ_cons, List.drop_zero,
          show received.length + 1 + 1 - 2 = received.length by omega] at front
        constructor
        · rw [count, blit_take_end (by omega) (by omega), front]
          simp
        · rw [blit_drop (by omega) (by omega) (by omega), back]

theorem Accumulates.fresh {ctx : StreamContext β} (phase : ctx.scPhase = .readingLength)
    (buf : List UInt8) : Accumulates buf [] ctx.scPhase buf :=
  ⟨phase, rfl, fun _ => rfl, by simp [phase]⟩

theorem Accumulates.deliver {before s buf : List UInt8} {ctx : StreamContext β}
    (holds : Accumulates before s ctx.scPhase buf) (room : 65535 ≤ before.length)
    (fragments : List (List UInt8)) :
    Accumulates before (s ++ fragments.flatten) (deliver ctx buf fragments).1.scPhase
      (deliver ctx buf fragments).2 := by
  induction fragments generalizing s ctx buf with
  | nil => simpa [Ism.deliver] using holds
  | cons data rest ih =>
    have next : Accumulates before (s ++ data) (handleStreamData ctx buf data).2.1.scPhase
        (handleStreamData ctx buf data).2.2 := holds.step room data
    simpa only [Ism.deliver, List.flatten_cons, List.append_assoc] using ih next

/-- A complete DoQ request: the two-octet length, then exactly that many octets,
at least a DNS header, with a zero message ID. -/
def CompleteRequest (s : List UInt8) (n : Nat) (m : List UInt8) : Prop :=
  s = be16 n ++ m ∧ m.length = n ∧ 12 ≤ n ∧ m[0]? = some 0 ∧ m[1]? = some 0

theorem CompleteRequest.id_zero {s : List UInt8} {n : Nat} {m : List UInt8} (complete : CompleteRequest s n m) :
    m.getD 0 0 = 0 ∧ m.getD 1 0 = 0 := by
  obtain ⟨-, -, -, idHi, idLo⟩ := complete
  rw [List.getD_eq_getElem?_getD, List.getD_eq_getElem?_getD, idHi, idLo]
  exact ⟨rfl, rfl⟩

theorem tracePhase_awaitingFin_iff {s : List UInt8} {n : MessageLength} :
    tracePhase s = .awaitingFin n ↔ ∃ m, s = be16 n ++ m ∧ m.length = n ∧ 12 ≤ (n : Nat) := by
  constructor
  · intro waiting
    obtain ⟨hi, lo, body, rfl, rfl, lower, upper⟩ := tracePhase_body (Or.inr waiting)
    refine ⟨body, ?_, ?_, lower⟩
    · rw [u32FromBeU16Bytes_val, be16_ofBe16]
      rfl
    · simp only [tracePhase] at waiting
      rw [if_neg (by omega)] at waiting
      split at waiting
      · assumption
      · simp at waiting
  · rintro ⟨m, rfl, length, lower⟩
    have same : u32FromBeU16Bytes (UInt8.ofNat (n / 256)) (UInt8.ofNat (n % 256)) = n :=
      Fin.ext (ofBe16_be16 n.isLt)
    simp only [be16, List.cons_append, List.nil_append, tracePhase, same]
    rw [if_neg (by omega), if_pos length]

theorem finishDoqPhase_eq_processing_iff {phase : StreamPhase} {hi lo : UInt8} {n : MessageLength} :
    finishDoqPhase phase hi lo = .processing n ↔
      (phase = .awaitingFin n ∨ phase = .processing n) ∧ hi = 0 ∧ lo = 0 := by
  unfold finishDoqPhase finishStreamPhase
  split
  · cases phase <;> simp_all
  · simp_all

theorem finishDoqPhase_processing_or_done (phase : StreamPhase) (hi lo : UInt8) :
    (∃ n, finishDoqPhase phase hi lo = .processing n) ∨ finishDoqPhase phase hi lo = .done := by
  unfold finishDoqPhase finishStreamPhase
  split
  · cases phase <;> simp
  · simp

theorem tracePhase_ne_processing (s : List UInt8) (n : MessageLength) :
    tracePhase s ≠ .processing n := by
  match s with
  | [] | [_] => simp [tracePhase]
  | hi :: lo :: body =>
    simp only [tracePhase]
    split
    · simp
    · split <;> simp

/-- FIN after the bytes `s` reaches `processing` exactly on a complete request. -/
theorem Accumulates.fin_iff {before s buf : List UInt8} {ctx : StreamContext β}
    (holds : Accumulates before s ctx.scPhase buf) (n : MessageLength) :
    (handleStreamFin ctx buf).1 = .processing n ↔ ∃ m, CompleteRequest s n m := by
  rw [handleStreamFin, finishDoqPhase_eq_processing_iff]
  have notYet : ctx.scPhase ≠ .processing n := holds.phase_eq ▸ tracePhase_ne_processing s n
  constructor
  · rintro ⟨waiting | already, hi, lo⟩
    · obtain ⟨m, rfl, length, lower⟩ := tracePhase_awaitingFin_iff.mp (holds.phase_eq ▸ waiting)
      have front := (holds.body_eq n (Or.inr waiting)).1
      simp only [List.length_append, be16_length, Nat.add_sub_cancel_left, length] at front
      rw [List.drop_left' (be16_length n)] at front
      have first : m[0]? = some 0 := by
        rw [← front, List.getElem?_take_of_lt (by omega), ← hi]
        rw [List.getD_eq_getElem?_getD]
        have inside : 0 < buf.length := by have := congrArg List.length front; simp at this; omega
        simp [inside]
      have second : m[1]? = some 0 := by
        rw [← front, List.getElem?_take_of_lt (by omega), ← lo]
        rw [List.getD_eq_getElem?_getD]
        have inside : 1 < buf.length := by have := congrArg List.length front; simp at this; omega
        simp [inside]
      exact ⟨m, rfl, length, lower, first, second⟩
    · exact absurd already notYet
  · rintro ⟨m, rfl, length, lower, first, second⟩
    have waiting : ctx.scPhase = .awaitingFin n :=
      holds.phase_eq.trans (tracePhase_awaitingFin_iff.mpr ⟨m, rfl, length, lower⟩)
    have front := (holds.body_eq n (Or.inr waiting)).1
    simp only [List.length_append, be16_length, Nat.add_sub_cancel_left, length] at front
    rw [List.drop_left' (be16_length n)] at front
    have octet : ∀ i, i < 2 → buf.getD i 0 = m.getD i 0 := by
      intro i small
      rw [List.getD_eq_getElem?_getD, List.getD_eq_getElem?_getD, ← front,
        List.getElem?_take_of_lt (by omega)]
    refine ⟨Or.inl waiting, ?_, ?_⟩
    · rw [octet 0 (by omega), List.getD_eq_getElem?_getD, first]
      rfl
    · rw [octet 1 (by omega), List.getD_eq_getElem?_getD, second]
      rfl

theorem handleStreamData_done {ctx : StreamContext β} (ended : ctx.scPhase = .done)
    (buf data : List UInt8) : (handleStreamData ctx buf data).2.1.scPhase = .done := by
  simp [handleStreamData, nextStreamPhase, ended, fragmentPhase, advanceBodyPhase]

theorem handleStreamFin_done {ctx : StreamContext β} (ended : ctx.scPhase = .done)
    (buf : List UInt8) : (handleStreamFin ctx buf).2.scPhase = .done := by
  simp [handleStreamFin, finishDoqPhase, finishStreamPhase, ended]

/-- Any number of fragments, cut anywhere, act on a fresh context as their
concatenation does; FIN accepts exactly the complete requests. -/
theorem doq_byte_trace_refinement (ctx : StreamContext β) (fresh : ctx.scPhase = .readingLength)
    (before : List UInt8) (room : 65535 ≤ before.length) (fragments : List (List UInt8))
    (_short : ∀ data ∈ fragments, data.length < 2 ^ 32) :
    let s := fragments.flatten
    let after := deliver ctx before fragments
    (s = [] → after.1.scPhase = .readingLength) ∧
    (∀ hi, s = [hi] → after.1.scPhase = .readingLengthHigh hi) ∧
    (∀ hi lo body, s = hi :: lo :: body → ∀ e : MessageLength, (e : Nat) = 256 * hi.toNat + lo.toNat →
      ((e : Nat) < 12 ∨ (e : Nat) < body.length → after.1.scPhase = .done) ∧
      (12 ≤ (e : Nat) → body.length = e → after.1.scPhase = .awaitingFin e) ∧
      (12 ≤ (e : Nat) → body.length < e → after.1.scPhase = .readingMessage e body.length)) ∧
    (∀ e : MessageLength,
      after.1.scPhase = .awaitingFin e ∨ (∃ k, after.1.scPhase = .readingMessage e k) →
      after.2.take (s.length - 2) = s.drop 2 ∧ after.2.drop e = before.drop e) ∧
    (∀ n : MessageLength, (handleStreamFin after.1 after.2).1 = .processing n ↔
      ∃ m, CompleteRequest s n m) ∧
    ((∀ n m, ¬ CompleteRequest s n m) → (handleStreamFin after.1 after.2).1 = .done) ∧
    (∀ (later : StreamContext β) (buf : List UInt8), later.scPhase = .done →
      (∀ data, (handleStreamData later buf data).2.1.scPhase = .done) ∧
      (handleStreamFin later buf).2.scPhase = .done) := by
  intro s after
  have holds : Accumulates before s after.1.scPhase after.2 :=
    (Accumulates.fresh fresh before).deliver room fragments
  refine ⟨?_, ?_, ?_, ?_, holds.fin_iff, ?_, ?_⟩
  · intro empty
    rw [holds.phase_eq, empty]
    rfl
  · intro hi single
    rw [holds.phase_eq, single]
    rfl
  · intro hi lo body split e value
    have announced : u32FromBeU16Bytes hi lo = e := Fin.ext (by simp only [u32FromBeU16Bytes]; omega)
    rw [holds.phase_eq, split]
    simp only [tracePhase, announced]
    refine ⟨fun bad => if_pos bad, fun lower full => ?_, fun lower partly => ?_⟩
    · rw [if_neg (by omega), if_pos full]
    · rw [if_neg (by omega), if_neg (by omega)]
  · rintro e (waiting | ⟨k, reading⟩)
    · exact holds.body_eq e (Or.inr waiting)
    · refine holds.body_eq e (Or.inl ?_)
      have phaseEq := holds.phase_eq
      rw [reading] at phaseEq ⊢
      match s, phaseEq with
      | hi :: lo :: body, phaseEq =>
        simp only [tracePhase] at phaseEq
        split at phaseEq
        · simp at phaseEq
        · split at phaseEq
          · simp at phaseEq
          · simp only [StreamPhase.readingMessage.injEq] at phaseEq
            simp [phaseEq.2]
  · intro never
    rcases finishDoqPhase_processing_or_done after.1.scPhase (after.2.getD 0 0) (after.2.getD 1 0) with
      ⟨n, accepted⟩ | ended
    · obtain ⟨m, complete⟩ := (holds.fin_iff n).mp accepted
      exact absurd complete (never n m)
    · exact ended
  · intro later buf ended
    exact ⟨handleStreamData_done ended buf, handleStreamFin_done ended buf⟩

theorem doq_byte_trace_refinement_split_query :
    let query : List UInt8 := [0, 12, 0, 0, 1, 0, 0, 0, 0, 0, 0, 0, 0, 0]
    let ctx : StreamContext Unit := ⟨4, .readingLength, ()⟩
    let after := deliver ctx (List.replicate 65535 0) [query.take 1, [], query.drop 1]
    (handleStreamFin after.1 after.2).1 = .processing 12 := by
  intro query ctx after
  have trace := doq_byte_trace_refinement ctx rfl (List.replicate 65535 0)
    (Nat.le_of_eq List.length_replicate.symm) [query.take 1, [], query.drop 1] (by decide)
  exact (trace.2.2.2.2.1 12).mpr ⟨query.drop 2, by decide, by decide, by decide, by decide, by decide⟩

end Ism
