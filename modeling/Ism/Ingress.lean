import Mathlib.Data.List.GetD
import Mathlib.Data.List.Induction
import Ism.StreamTrace

namespace Ism

open Lib

/-- An authenticated fragment of a stream: its bytes, and whether the stream ends behind them. -/
structure StreamFragment where
  data : List UInt8
  fin : Bool
  deriving DecidableEq, Repr

section Fragments

variable {β : Type}

/-- `buf` is the memory that `ctx.scBuf` points to, as for `handleStreamData`. -/
def handleAuthenticatedStreamFragment (ctx : StreamContext β) (buf : List UInt8) (fragment : StreamFragment) :
    StreamPhase × StreamContext β × List UInt8 :=
  let (phase, ctx, buf) := handleStreamData ctx buf fragment.data
  if fragment.fin then
    let (phase, ctx) := handleStreamFin ctx buf
    (phase, ctx, buf)
  else (phase, ctx, buf)

def ingest (ctx : StreamContext β) (buf : List UInt8) (fragments : List StreamFragment) :
    StreamContext β × List UInt8 :=
  fragments.foldl (fun state fragment => (handleAuthenticatedStreamFragment state.1 state.2 fragment).2) (ctx, buf)

/-- The bytes up to the first FIN, and the bytes behind it if there is one. -/
def splitAtFin : List StreamFragment → List UInt8 × Option (List UInt8)
  | [] => ([], none)
  | fragment :: rest =>
    if fragment.fin then (fragment.data, some (rest.flatMap StreamFragment.data))
    else (fragment.data ++ (splitAtFin rest).1, (splitAtFin rest).2)

theorem splitAtFin_append_open {fragments : List StreamFragment} (unended : (splitAtFin fragments).2 = none)
    (last : StreamFragment) :
    splitAtFin (fragments ++ [last]) =
      ((splitAtFin fragments).1 ++ last.data, if last.fin then some [] else none) := by
  induction fragments with
  | nil => cases ended : last.fin <;> simp [splitAtFin, ended]
  | cons fragment rest ih =>
    rw [splitAtFin] at unended
    split at unended
    case isTrue => cases unended
    case isFalse more =>
      rw [List.cons_append, splitAtFin, if_neg more, ih unended, splitAtFin, if_neg more, List.append_assoc]

theorem splitAtFin_append_ended {fragments : List StreamFragment} {after : List UInt8}
    (ended : (splitAtFin fragments).2 = some after) (last : StreamFragment) :
    splitAtFin (fragments ++ [last]) = ((splitAtFin fragments).1, some (after ++ last.data)) := by
  induction fragments with
  | nil => cases ended
  | cons fragment rest ih =>
    rw [splitAtFin] at ended
    split at ended
    case isTrue fin =>
      cases ended
      rw [List.cons_append, splitAtFin, if_pos fin, splitAtFin, if_pos fin, List.flatMap_append]
      simp
    case isFalse more =>
      rw [List.cons_append, splitAtFin, if_neg more, ih ended, splitAtFin, if_neg more]

/-- Fragments that make up the request `m`: it is complete at the first FIN, and no byte follows. -/
def RequestOf (fragments : List StreamFragment) (m : List UInt8) : Prop :=
  m.length < 65536 ∧ (splitAtFin fragments).2 = some [] ∧ CompleteRequest (splitAtFin fragments).1 m.length m

theorem RequestOf.unique {fragments : List StreamFragment} {m other : List UInt8} (first : RequestOf fragments m)
    (second : RequestOf fragments other) : m = other := by
  obtain ⟨-, -, whole, -⟩ := first
  obtain ⟨-, -, whole', -⟩ := second
  rw [whole] at whole'
  exact (List.append_inj whole' rfl).2

/-- What fragments make of a context: before any FIN the bytes alone decide; from the first
FIN on the request stands or nothing will. -/
inductive Ingested (before : List UInt8) (fragments : List StreamFragment) (phase : StreamPhase) (buf : List UInt8) :
    Prop
  | reading (unended : (splitAtFin fragments).2 = none)
    (holds : Accumulates before (splitAtFin fragments).1 phase buf)
  | ready {m : List UInt8} {n : MessageLength} (asked : RequestOf fragments m) (length : m.length = n)
    (phase_eq : phase = .processing n) (held : m <+: buf)
  | ended (closed : (splitAtFin fragments).2 ≠ none) (unasked : ∀ m, ¬ RequestOf fragments m) (phase_eq : phase = .done)

variable {before buf : List UInt8} {fragments : List StreamFragment} {ctx : StreamContext β}

/-- The FIN behind `s` decides whether a request stands. -/
theorem Accumulates.ingested_fin {s : List UInt8} (holds : Accumulates before s ctx.scPhase buf)
    (ended : splitAtFin fragments = (s, some [])) :
    Ingested before fragments (handleStreamFin ctx buf).1 buf := by
  rcases finishDoqPhase_processing_or_done ctx.scPhase (buf.getD 0 0) (buf.getD 1 0) with ⟨n, accepted⟩ | refused
  · have finished : (handleStreamFin ctx buf).1 = .processing n := accepted
    obtain ⟨m, complete⟩ := (holds.fin_iff n).mp finished
    obtain ⟨whole, length, low, -⟩ := id complete
    have waiting : ctx.scPhase = .awaitingFin n := by
      rw [holds.phase_eq]
      exact tracePhase_awaitingFin_iff.mpr ⟨m, whole, length, low⟩
    have front := (holds.body_eq n (Or.inr waiting)).1
    rw [whole, List.drop_left' (be16_length n)] at front
    refine Ingested.ready ⟨length ▸ n.isLt, ?_, ?_⟩ length finished (front ▸ List.take_prefix _ _)
    · rw [ended]
    · rw [ended, length]
      exact complete
  · have finished : (handleStreamFin ctx buf).1 = .done := refused
    refine Ingested.ended (by rw [ended]; exact Option.some_ne_none _) ?_ finished
    rintro m ⟨small, -, complete⟩
    rw [ended] at complete
    have accepted := (holds.fin_iff ⟨m.length, small⟩).mpr ⟨m, complete⟩
    rw [finished] at accepted
    cases accepted

theorem handleStreamData_processing {n : MessageLength} (phase : ctx.scPhase = .processing n) (buf : List UInt8)
    (data : List UInt8) :
    (handleStreamData ctx buf data).2.1.scPhase = (if data = [] then .processing n else .done) ∧
      (handleStreamData ctx buf data).2.2 = buf := by
  cases data with
  | nil =>
    simp [handleStreamData, nextStreamPhase, fragmentPhase, advanceBodyPhase, copyBodyBytes, fragmentCopyPlan, phase]
  | cons byte rest =>
    simp [handleStreamData, nextStreamPhase, fragmentPhase, advanceBodyPhase, copyBodyBytes, fragmentCopyPlan, phase]

/-- A FIN once more changes nothing about a request that stands. -/
theorem RequestOf.finish {fragments : List StreamFragment} {m buf : List UInt8} (asked : RequestOf fragments m)
    (n : MessageLength) (held : m <+: buf) :
    finishDoqPhase (.processing n) (buf.getD 0 0) (buf.getD 1 0) = .processing n := by
  obtain ⟨-, -, -, -, low, first, second⟩ := asked
  obtain ⟨rest, rfl⟩ := held
  refine finishDoqPhase_eq_processing_iff.mpr ⟨Or.inr rfl, ?_, ?_⟩
  · rw [List.getD_append _ _ _ _ (by omega), List.getD_eq_getElem?_getD, first]
    rfl
  · rw [List.getD_append _ _ _ _ (by omega), List.getD_eq_getElem?_getD, second]
    rfl

theorem RequestOf.closed {fragments : List StreamFragment} {m : List UInt8} (asked : RequestOf fragments m)
    {last : StreamFragment} : RequestOf (fragments ++ [last]) m ↔ last.data = [] := by
  obtain ⟨small, ended, complete⟩ := asked
  rw [RequestOf, splitAtFin_append_ended ended]
  simp [small, complete]

theorem not_requestOf_append {fragments : List StreamFragment} (closed : (splitAtFin fragments).2 ≠ none)
    (unasked : ∀ m, ¬ RequestOf fragments m) (last : StreamFragment) (m : List UInt8) :
    ¬ RequestOf (fragments ++ [last]) m := by
  obtain ⟨after, ended⟩ := Option.ne_none_iff_exists'.mp closed
  rintro ⟨small, nothing, complete⟩
  rw [splitAtFin_append_ended ended] at nothing complete
  have empty : after = [] := (List.append_eq_nil_iff.mp (Option.some.inj nothing)).1
  exact unasked m ⟨small, empty ▸ ended, complete⟩

/-- One more fragment. The cases are those of what the fragments before it came to. -/
theorem Ingested.step (ingested : Ingested before fragments ctx.scPhase buf) (room : 65535 ≤ before.length)
    (last : StreamFragment) :
    Ingested before (fragments ++ [last]) (handleAuthenticatedStreamFragment ctx buf last).2.1.scPhase
      (handleAuthenticatedStreamFragment ctx buf last).2.2 := by
  obtain ⟨data, fin⟩ := last
  cases ingested with
  | reading unended holds =>
    have fed : Accumulates before ((splitAtFin fragments).1 ++ data) (handleStreamData ctx buf data).2.1.scPhase
        (handleStreamData ctx buf data).2.2 := holds.step room data
    have split := splitAtFin_append_open unended ⟨data, fin⟩
    cases fin with
    | false =>
      refine Ingested.reading ?_ ?_
      · rw [split]
        rfl
      · rw [split]
        exact fed
    | true => exact fed.ingested_fin split
  | @ready m n asked length phase held =>
    obtain ⟨fedPhase, fedBuf⟩ := handleStreamData_processing phase buf data
    have closed : (splitAtFin (fragments ++ [⟨data, fin⟩])).2 ≠ none := by
      rw [splitAtFin_append_ended asked.2.1]
      exact Option.some_ne_none _
    by_cases empty : data = []
    · have still : RequestOf (fragments ++ [⟨data, fin⟩]) m := asked.closed.mpr empty
      rw [if_pos empty] at fedPhase
      cases fin with
      | false => exact Ingested.ready still length fedPhase (fedBuf.symm ▸ held)
      | true =>
        have finished : (handleStreamFin (handleStreamData ctx buf data).2.1
            (handleStreamData ctx buf data).2.2).1 = .processing n := by
          rw [handleStreamFin, fedPhase, fedBuf]
          exact asked.finish n held
        exact Ingested.ready still length finished (fedBuf.symm ▸ held)
    · have gone : ∀ other, ¬ RequestOf (fragments ++ [⟨data, fin⟩]) other := by
        rintro other ⟨-, nothing, -⟩
        rw [splitAtFin_append_ended asked.2.1] at nothing
        exact empty (List.append_eq_nil_iff.mp (Option.some.inj nothing)).2
      rw [if_neg empty] at fedPhase
      cases fin with
      | false => exact Ingested.ended closed gone fedPhase
      | true => exact Ingested.ended closed gone (handleStreamFin_done fedPhase _)
  | ended closed unasked phase =>
    have stays : (splitAtFin (fragments ++ [⟨data, fin⟩])).2 ≠ none := by
      obtain ⟨after, ended⟩ := Option.ne_none_iff_exists'.mp closed
      rw [splitAtFin_append_ended ended]
      exact Option.some_ne_none _
    have done := handleStreamData_done phase buf data
    cases fin with
    | false => exact Ingested.ended stays (not_requestOf_append closed unasked _) done
    | true => exact Ingested.ended stays (not_requestOf_append closed unasked _) (handleStreamFin_done done _)

theorem handleAuthenticatedStreamFragment_length (ctx : StreamContext β) (room : 65535 ≤ buf.length)
    (fragment : StreamFragment) :
    (handleAuthenticatedStreamFragment ctx buf fragment).2.2.length = buf.length := by
  have kept := copyBodyBytes_length ctx room fragment.data
  unfold handleAuthenticatedStreamFragment
  cases fragment.fin with
  | false => exact kept
  | true => exact kept

theorem Ingested.fresh (phase : ctx.scPhase = .readingLength) (buf : List UInt8) :
    Ingested buf [] ctx.scPhase buf :=
  Ingested.reading rfl (Accumulates.fresh phase buf)

theorem Ingested.ingest (fresh : ctx.scPhase = .readingLength) (room : 65535 ≤ before.length)
    (fragments : List StreamFragment) :
    Ingested before fragments (ingest ctx before fragments).1.scPhase (ingest ctx before fragments).2 ∧
      (ingest ctx before fragments).2.length = before.length := by
  induction fragments using List.reverseRecOn with
  | nil => exact ⟨Ingested.fresh fresh before, rfl⟩
  | append_singleton fragments last ih =>
    obtain ⟨ingested, length⟩ := ih
    have one : Ism.ingest ctx before (fragments ++ [last]) = (handleAuthenticatedStreamFragment
        (Ism.ingest ctx before fragments).1 (Ism.ingest ctx before fragments).2 last).2 := by
      rw [Ism.ingest, List.foldl_append]
      rfl
    rw [one]
    exact ⟨ingested.step room last,
      (handleAuthenticatedStreamFragment_length _ (by rw [length]; exact room) last).trans length⟩

theorem Ingested.processing_iff {phase : StreamPhase} (ingested : Ingested before fragments phase buf)
    {n : MessageLength} : phase = .processing n ↔ ∃ m : List UInt8, m.length = n ∧ RequestOf fragments m := by
  cases ingested with
  | reading unended holds =>
    refine ⟨fun ready => ?_, ?_⟩
    · rw [holds.phase_eq] at ready
      exact absurd ready (tracePhase_ne_processing _ n)
    · rintro ⟨m, -, -, ended, -⟩
      rw [unended] at ended
      cases ended
  | @ready m k asked length phase_eq held =>
    rw [phase_eq]
    constructor
    · rintro ⟨⟩
      exact ⟨m, length, asked⟩
    · rintro ⟨other, length', asked'⟩
      cases asked.unique asked'
      rw [Fin.ext (length.symm.trans length')]
  | ended closed unasked phase_eq =>
    rw [phase_eq]
    refine ⟨nofun, ?_⟩
    rintro ⟨m, -, asked⟩
    exact absurd asked (unasked m)

theorem Ingested.held {phase : StreamPhase} (ingested : Ingested before fragments phase buf) {m : List UInt8}
    (asked : RequestOf fragments m) : m <+: buf := by
  cases ingested with
  | reading unended holds =>
    obtain ⟨-, ended, -⟩ := asked
    rw [unended] at ended
    cases ended
  | ready asked' length phase_eq held =>
    cases asked.unique asked'
    exact held
  | ended closed unasked => exact absurd asked (unasked m)

end Fragments

end Ism
