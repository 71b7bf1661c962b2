import Ism.Lib.Runs

namespace Ism

open Lib

namespace Pilot

inductive ShellPhase
  | migrationReading
  | migrationProcessing
  | migrationClosed
  deriving DecidableEq

structure StreamState where
  buffered : Nat
  capacity : Nat
  phase : ShellPhase
  deriving DecidableEq

namespace StreamState

variable (s : StreamState) (len : Nat)

def available : Nat := if s.buffered ≤ s.capacity then s.capacity - s.buffered else 0

def acceptsFragment : Bool := decide (len ≤ s.available)

/-- A closed stream goes on with the next fragment that fits. -/
def nextStateAfterAuthenticatedBytes : StreamState :=
  if s.acceptsFragment len then
    { buffered := s.buffered + len, capacity := s.capacity, phase := .migrationProcessing }
  else { buffered := s.buffered, capacity := s.capacity, phase := .migrationClosed }

/-- The verdict, and what is left behind the reference. -/
def dispatchAuthenticatedBytesPilot : Bool × StreamState :=
  (s.acceptsFragment len, s.nextStateAfterAuthenticatedBytes len)

end StreamState

end Pilot

namespace PilotValue

inductive ShellPhase
  | valueReading
  | valueProcessing
  | valueClosed
  deriving DecidableEq

/-- The state of the pilot in machine words, passed by value. -/
structure StreamState where
  buffered : UInt32
  capacity : UInt32
  phase : ShellPhase
  deriving DecidableEq

structure DispatchResult where
  accepted : Bool
  next : StreamState
  deriving DecidableEq

namespace StreamState

variable (s : StreamState) (len : UInt32)

def available : UInt32 := if s.buffered ≤ s.capacity then s.capacity - s.buffered else 0

def acceptsFragment : Bool := decide (len ≤ s.available)

def nextStateAfterAuthenticatedBytes : StreamState :=
  if s.acceptsFragment len then
    { buffered := s.buffered + len, capacity := s.capacity, phase := .valueProcessing }
  else { buffered := s.buffered, capacity := s.capacity, phase := .valueClosed }

def dispatchAuthenticatedBytesValue : DispatchResult where
  accepted := s.acceptsFragment len
  next := s.nextStateAfterAuthenticatedBytes len

end StreamState

end PilotValue

/-- The state as C passes it. A phase above two is a closed one. -/
structure DnsPulseStreamState where
  buffered : UInt32
  capacity : UInt32
  phase : UInt32
  deriving DecidableEq

structure DnsPulseDispatchResult where
  accepted : UInt8
  next : DnsPulseStreamState
  deriving DecidableEq

def toPilotPhase (phase : UInt32) : PilotValue.ShellPhase :=
  if phase = 0 then .valueReading else if phase = 1 then .valueProcessing else .valueClosed

def fromPilotPhase : PilotValue.ShellPhase → UInt32
  | .valueReading => 0
  | .valueProcessing => 1
  | .valueClosed => 2

def toPilotState (state : DnsPulseStreamState) : PilotValue.StreamState where
  buffered := state.buffered
  capacity := state.capacity
  phase := toPilotPhase state.phase

def fromPilotState (state : PilotValue.StreamState) : DnsPulseStreamState where
  buffered := state.buffered
  capacity := state.capacity
  phase := fromPilotPhase state.phase

def dnsPulseAvailable (state : DnsPulseStreamState) : UInt32 := (toPilotState state).available

def dnsPulseAcceptsFragment (state : DnsPulseStreamState) (len : UInt32) : UInt8 :=
  if (toPilotState state).acceptsFragment len then 1 else 0

def dnsPulseDispatchAuthenticatedBytes (state : DnsPulseStreamState) (len : UInt32) : DnsPulseDispatchResult :=
  let result := (toPilotState state).dispatchAuthenticatedBytesValue len
  { accepted := if result.accepted then 1 else 0, next := fromPilotState result.next }

section Refinement

theorem toPilotState_fromPilotState (state : PilotValue.StreamState) : toPilotState (fromPilotState state) = state := by
  obtain ⟨buffered, capacity, phase⟩ := state
  cases phase <;> rfl

/-- The pilot that the machine words stand for. -/
def PilotValue.StreamState.toPilot (s : PilotValue.StreamState) : Pilot.StreamState where
  buffered := s.buffered.toNat
  capacity := s.capacity.toNat
  phase :=
    match s.phase with
    | .valueReading => .migrationReading
    | .valueProcessing => .migrationProcessing
    | .valueClosed => .migrationClosed

namespace Pilot.StreamState

/-- The phase after a verdict. -/
def phaseOf (accepted : Bool) : ShellPhase := if accepted then .migrationProcessing else .migrationClosed

theorem available_eq (s : StreamState) : s.available = s.capacity - s.buffered := by
  rw [available]
  split_ifs <;> omega

/-- Dispatching asks for room and keeps the capacity. -/
theorem grant_available (s : StreamState) (len : Nat) :
    grant s.available len =
      ((s.dispatchAuthenticatedBytesPilot len).1, (s.dispatchAuthenticatedBytesPilot len).2.available) := by
  simp only [dispatchAuthenticatedBytesPilot, nextStateAfterAuthenticatedBytes, acceptsFragment, decide_eq_true_eq,
    available_eq, grant]
  split_ifs with enough
  · simp only [enough, decide_true, Nat.sub_sub]
  · simp only [enough, decide_false]

theorem capacity_run (s : StreamState) (lens : List Nat) :
    (answers dispatchAuthenticatedBytesPilot s lens).2.capacity = s.capacity := by
  induction lens generalizing s with
  | nil => rfl
  | cons len lens ih =>
    rw [answers, ih, dispatchAuthenticatedBytesPilot, nextStateAfterAuthenticatedBytes]
    split_ifs <;> rfl

theorem buffered_run (s : StreamState) (lens : List Nat) :
    (answers dispatchAuthenticatedBytesPilot s lens).2.buffered =
      s.buffered + granted lens (answers dispatchAuthenticatedBytesPilot s lens).1 := by
  induction lens generalizing s with
  | nil => rfl
  | cons len lens ih =>
    rw [answers, granted_cons, ih, dispatchAuthenticatedBytesPilot, ← Nat.add_assoc]
    congr 1
    rw [nextStateAfterAuthenticatedBytes]
    split_ifs <;> rfl

/-- The last fragment decides about the phase, whatever was closed before. -/
theorem phase_run (s : StreamState) (lens : List Nat) :
    (answers dispatchAuthenticatedBytesPilot s lens).2.phase =
      ((answers dispatchAuthenticatedBytesPilot s lens).1.getLast?.map phaseOf).getD s.phase := by
  induction lens generalizing s with
  | nil => rfl
  | cons len lens ih =>
    have next : (s.dispatchAuthenticatedBytesPilot len).2.phase =
        phaseOf (s.dispatchAuthenticatedBytesPilot len).1 := by
      rw [dispatchAuthenticatedBytesPilot, nextStateAfterAuthenticatedBytes]
      cases s.acceptsFragment len <;> rfl
    rw [answers, ih, List.getLast?_cons, next]
    cases (answers dispatchAuthenticatedBytesPilot (s.dispatchAuthenticatedBytesPilot len).2 lens).1.getLast? <;> rfl

/-- The pilot gives the verdicts of the room that is left. -/
theorem answers_room (s : StreamState) (lens : List Nat) :
    answers grant (s.capacity - s.buffered) lens =
      ((answers dispatchAuthenticatedBytesPilot s lens).1,
        (answers dispatchAuthenticatedBytesPilot s lens).2.available) := by
  have refined : answers grant s.available (lens.map id) =
      ((answers dispatchAuthenticatedBytesPilot s lens).1.map id,
        (answers dispatchAuthenticatedBytesPilot s lens).2.available) := answers_refines grant_available s lens
  rwa [List.map_id, List.map_id, available_eq] at refined

end Pilot.StreamState

namespace PilotValue.StreamState

theorem available_toNat (s : StreamState) : s.available.toNat = s.toPilot.available := by
  have order : s.buffered ≤ s.capacity ↔ s.toPilot.buffered ≤ s.toPilot.capacity := UInt32.le_iff_toNat_le
  rw [available, Pilot.StreamState.available]
  simp only [order]
  split_ifs with below
  · exact UInt32.toNat_sub_of_le _ _ (order.mpr below)
  · rfl

theorem acceptsFragment_toNat (s : StreamState) (len : UInt32) :
    s.acceptsFragment len = s.toPilot.acceptsFragment len.toNat := by
  rw [acceptsFragment, Pilot.StreamState.acceptsFragment, ← available_toNat]
  exact decide_eq_decide.mpr UInt32.le_iff_toNat_le

/-- The sum of an accepted fragment stays within the capacity, so that the words never wrap. -/
theorem dispatch_toPilot (s : StreamState) (len : UInt32) :
    s.toPilot.dispatchAuthenticatedBytesPilot len.toNat =
      ((s.dispatchAuthenticatedBytesValue len).accepted, (s.dispatchAuthenticatedBytesValue len).next.toPilot) := by
  simp only [Pilot.StreamState.dispatchAuthenticatedBytesPilot, dispatchAuthenticatedBytesValue,
    Pilot.StreamState.nextStateAfterAuthenticatedBytes, nextStateAfterAuthenticatedBytes, acceptsFragment_toNat]
  split_ifs with accepted
  · have fits : len.toNat ≤ s.capacity.toNat - s.buffered.toNat := by
      rw [Pilot.StreamState.acceptsFragment, Pilot.StreamState.available_eq] at accepted
      exact of_decide_eq_true accepted
    have small := s.capacity.toNat_lt
    have sum : (s.buffered + len).toNat = s.buffered.toNat + len.toNat := by
      have word := s.buffered.toNat_lt
      rw [UInt32.toNat_add, Nat.mod_eq_of_lt (by omega)]
    simp only [toPilot, sum]
  · rfl

end PilotValue.StreamState

/-- The number that the calling convention has for a verdict. -/
def verdictByte (accepted : Bool) : UInt8 := if accepted then 1 else 0

/-- A call from C as a step from one state to the next. -/
def dnsPulseCall (state : DnsPulseStreamState) (len : UInt32) : UInt8 × DnsPulseStreamState :=
  ((dnsPulseDispatchAuthenticatedBytes state len).accepted, (dnsPulseDispatchAuthenticatedBytes state len).next)

/-- The pilot behind the state that C holds. -/
def DnsPulseStreamState.toPilot (state : DnsPulseStreamState) : Pilot.StreamState := (toPilotState state).toPilot

theorem dnsPulseCall_toPilot (state : DnsPulseStreamState) (len : UInt32) :
    state.toPilot.dispatchAuthenticatedBytesPilot len.toNat =
      (decide ((dnsPulseCall state len).1 = 1), (dnsPulseCall state len).2.toPilot) := by
  have verdict (accepted : Bool) : decide (verdictByte accepted = 1) = accepted := by cases accepted <;> rfl
  have call : dnsPulseCall state len =
      (verdictByte ((toPilotState state).dispatchAuthenticatedBytesValue len).accepted,
        fromPilotState ((toPilotState state).dispatchAuthenticatedBytesValue len).next) := rfl
  rw [DnsPulseStreamState.toPilot, PilotValue.StreamState.dispatch_toPilot, call, verdict, DnsPulseStreamState.toPilot,
    toPilotState_fromPilotState]

/-- Every byte is one of the two verdicts. -/
theorem dnsPulseCall_bytes (state : DnsPulseStreamState) (fragments : List UInt32) :
    (answers dnsPulseCall state fragments).1 =
      ((answers dnsPulseCall state fragments).1.map fun byte => decide (byte = 1)).map verdictByte := by
  induction fragments generalizing state with
  | nil => rfl
  | cons len fragments ih =>
    have first : (dnsPulseCall state len).1 = verdictByte (decide ((dnsPulseCall state len).1 = 1)) := by
      simp only [dnsPulseCall, dnsPulseDispatchAuthenticatedBytes]
      split_ifs <;> rfl
    rw [answers, List.map_cons, List.map_cons, ← first, ← ih]

/-- A state that a call hands back. Its phase is one of the three that have a number. -/
def Returned (state : DnsPulseStreamState) : Prop := ∃ value, state = fromPilotState value

theorem returned_phase {state : DnsPulseStreamState} (returned : Returned state) {last : Bool}
    (phase : state.toPilot.phase = Pilot.StreamState.phaseOf last) : state.phase = if last then 1 else 2 := by
  obtain ⟨⟨buffered, capacity, code⟩, rfl⟩ := returned
  rw [DnsPulseStreamState.toPilot, toPilotState_fromPilotState] at phase
  cases code <;> cases last <;> first | rfl | cases phase

end Refinement

/-- In every run of calls from C the machine words hold what the unbounded pilot holds: a fragment
is accepted exactly if it fits into the room that is left, what is accepted is buffered without
wrapping, and the phase is that of the last fragment, also after a stream was closed. -/
theorem pulse_words_refine_pilot (state : DnsPulseStreamState) (fragments : List UInt32) :
    let run := answers dnsPulseCall state fragments
    let lens := fragments.map UInt32.toNat
    let room := state.capacity.toNat - state.buffered.toNat
    let verdicts := (answers grant room lens).1
    answers Pilot.StreamState.dispatchAuthenticatedBytesPilot state.toPilot lens = (verdicts, run.2.toPilot) ∧
    run.1 = verdicts.map verdictByte ∧
    (dnsPulseAvailable run.2).toNat + granted lens verdicts = room ∧
    (∀ len, dnsPulseAcceptsFragment run.2 len = verdictByte (decide (len.toNat ≤ room - granted lens verdicts))) ∧
    run.2.capacity = state.capacity ∧
    run.2.buffered.toNat = state.buffered.toNat + granted lens verdicts ∧
    run.2.buffered.toNat ≤ max state.buffered.toNat state.capacity.toNat ∧
    (fragments = [] → run.2 = state) ∧
    (fragments ≠ [] → run.2.phase = if verdicts.getLast? = some true then 1 else 2) := by
  intro run lens room verdicts
  have refined : answers Pilot.StreamState.dispatchAuthenticatedBytesPilot state.toPilot lens =
      (run.1.map fun byte => decide (byte = 1), run.2.toPilot) := answers_refines dnsPulseCall_toPilot state fragments
  have rooms := Pilot.StreamState.answers_room state.toPilot lens
  rw [refined] at rooms
  have same : verdicts = run.1.map fun byte => decide (byte = 1) := congrArg Prod.fst rooms
  have left : (answers grant room lens).2 = run.2.toPilot.available := congrArg Prod.snd rooms
  have available : (dnsPulseAvailable run.2).toNat = run.2.toPilot.available :=
    PilotValue.StreamState.available_toNat (toPilotState run.2)
  have total : granted lens verdicts + (answers grant room lens).2 = room := granted_add_room room lens
  have capacity : run.2.toPilot.capacity = state.toPilot.capacity := by
    rw [← Pilot.StreamState.capacity_run state.toPilot lens, refined]
  have buffered : run.2.toPilot.buffered = state.toPilot.buffered + granted lens verdicts := by
    have accepted := Pilot.StreamState.buffered_run state.toPilot lens
    rwa [refined, ← same] at accepted
  refine ⟨by rw [refined, same], ?_, by omega, fun len => ?_, UInt32.toNat_inj.mp capacity, buffered, ?_, ?_, ?_⟩
  · rw [same]
    exact dnsPulseCall_bytes state fragments
  · have rest : run.2.toPilot.available = room - granted lens verdicts := by omega
    rw [← rest, ← Pilot.StreamState.acceptsFragment, DnsPulseStreamState.toPilot,
      ← PilotValue.StreamState.acceptsFragment_toNat]
    rfl
  · have words : run.2.buffered.toNat = state.buffered.toNat + granted lens verdicts := buffered
    omega
  · rintro rfl
    rfl
  · intro nonempty
    have returned : Returned run.2 := answers_state (fun _ _ => ⟨_, rfl⟩) state nonempty
    have phase := Pilot.StreamState.phase_run state.toPilot lens
    rw [refined, ← same] at phase
    have asked : verdicts ≠ [] := by
      rw [← List.length_pos_iff, answers_length, List.length_map]
      exact List.length_pos_iff.mpr nonempty
    rw [List.getLast?_eq_some_getLast asked, Option.map_some, Option.getD_some] at phase
    rw [List.getLast?_eq_some_getLast asked, returned_phase returned phase]
    simp only [Option.some.injEq]

end Ism
