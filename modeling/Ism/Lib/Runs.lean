import Mathlib.Algebra.Ring.Nat
import Mathlib.Tactic.Common

namespace Ism.Lib

section Guarded

variable {S I : Type*} (step : S → I → S) (allowed : S → I → Prop)

/-- Every input of a run is allowed in the state that it meets. -/
def Guarded : S → List I → Prop
  | _, [] => True
  | s, i :: inputs => allowed s i ∧ Guarded (step s i) inputs

instance Guarded.decidable [∀ s i, Decidable (allowed s i)] :
    (s : S) → (inputs : List I) → Decidable (Guarded step allowed s inputs)
  | _, [] => inferInstanceAs (Decidable True)
  | s, i :: inputs =>
    have := Guarded.decidable (step s i) inputs
    inferInstanceAs (Decidable (allowed s i ∧ Guarded step allowed (step s i) inputs))

variable {step allowed}

/-- What every allowed step keeps holds at the end of a guarded run. -/
theorem Guarded.invariant {Inv : S → Prop} (keeps : ∀ s i, Inv s → allowed s i → Inv (step s i)) {s : S}
    {inputs : List I} (guarded : Guarded step allowed s inputs) (start : Inv s) : Inv (inputs.foldl step s) := by
  induction inputs generalizing s with
  | nil => exact start
  | cons i inputs ih => exact ih guarded.2 (keeps s i start guarded.1)

end Guarded

section Answers

variable {S I O : Type*}

/-- The answers to a list of inputs, and the state after them. -/
def answers (step : S → I → O × S) : S → List I → List O × S
  | s, [] => ([], s)
  | s, i :: inputs =>
    let rest := answers step (step s i).2 inputs
    ((step s i).1 :: rest.1, rest.2)

/-- A step that commutes with maps of states, inputs and answers does so over whole runs. -/
theorem answers_refines {S' I' O' : Type*} {step : S → I → O × S} {step' : S' → I' → O' × S'} {state : S → S'}
    {input : I → I'} {output : O → O'}
    (commutes : ∀ s i, step' (state s) (input i) = (output (step s i).1, state (step s i).2)) (s : S)
    (inputs : List I) :
    answers step' (state s) (inputs.map input) =
      ((answers step s inputs).1.map output, state (answers step s inputs).2) := by
  induction inputs generalizing s with
  | nil => rfl
  | cons i inputs ih =>
    rw [List.map_cons, answers, commutes, ih]
    rfl

theorem answers_length (step : S → I → O × S) (s : S) (inputs : List I) :
    (answers step s inputs).1.length = inputs.length := by
  induction inputs generalizing s with
  | nil => rfl
  | cons i inputs ih => exact congrArg Nat.succ (ih (step s i).2)

/-- What holds after every step holds at the end of a run, unless nothing ran. -/
theorem answers_state {holds : S → Prop} {step : S → I → O × S} (every : ∀ s i, holds (step s i).2) (s : S)
    {inputs : List I} (nonempty : inputs ≠ []) : holds (answers step s inputs).2 := by
  induction inputs generalizing s with
  | nil => exact absurd rfl nonempty
  | cons i inputs ih =>
    cases inputs with
    | nil => exact every s i
    | cons j inputs => exact ih (step s i).2 (List.cons_ne_nil j inputs)

end Answers

/-- Requests for room, each of which is granted as long as there is enough of it left. -/
def grant (room request : Nat) : Bool × Nat := if request ≤ room then (true, room - request) else (false, room)

/-- The sum of the requests that were granted. -/
def granted (requests : List Nat) (verdicts : List Bool) : Nat :=
  ((requests.zip verdicts).map fun (request, verdict) => if verdict then request else 0).sum

theorem granted_cons (request : Nat) (requests : List Nat) (verdict : Bool) (verdicts : List Bool) :
    granted (request :: requests) (verdict :: verdicts) =
      (if verdict then request else 0) + granted requests verdicts := rfl

/-- What is granted is taken from the room. -/
theorem granted_add_room (room : Nat) (requests : List Nat) :
    granted requests (answers grant room requests).1 + (answers grant room requests).2 = room := by
  induction requests generalizing room with
  | nil => exact Nat.zero_add room
  | cons request requests ih =>
    rw [answers, granted_cons, Nat.add_assoc, ih (grant room request).2, grant]
    by_cases fits : request ≤ room
    · rw [if_pos fits, if_pos rfl]
      exact Nat.add_sub_cancel' fits
    · rw [if_neg fits, if_neg Bool.false_ne_true]
      exact Nat.zero_add room

section Links

variable {α : Type*} (link : α → α → Prop)

/-- A chain of a given number of links. -/
inductive Linked : Nat → α → α → Prop
  | here (a : α) : Linked 0 a a
  | next {k : Nat} {a b c : α} (first : link a b) (rest : Linked k b c) : Linked (k + 1) a c

variable {link} {j k : Nat} {a b c : α}

theorem Linked.append (front : Linked link j a b) (back : Linked link k b c) : Linked link (k + j) a c := by
  induction front with
  | here => exact back
  | next first rest ih => exact .next first (ih back)

theorem Linked.split (chain : Linked link (k + j) a c) : ∃ b, Linked link j a b ∧ Linked link k b c := by
  induction j generalizing a with
  | zero => exact ⟨a, .here a, chain⟩
  | succ j ih =>
    obtain _ | ⟨first, rest⟩ := chain
    obtain ⟨b, front, back⟩ := ih rest
    exact ⟨b, .next first front, back⟩

/-- A cycle can be followed for as long as one likes. -/
theorem Linked.cycle_unbounded (cycle : Linked link (k + 1) a a) (n : Nat) : ∃ m, n ≤ m ∧ Linked link m a a := by
  induction n with
  | zero => exact ⟨0, Nat.le_refl 0, .here a⟩
  | succ n ih =>
    obtain ⟨m, long, chain⟩ := ih
    exact ⟨m + (k + 1), by omega, cycle.append chain⟩

end Links

end Ism.Lib
