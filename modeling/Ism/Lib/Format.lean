import Mathlib.Data.List.Basic
import Mathlib.Tactic.Common

namespace Ism.Lib

/-- The number that octets spell, most significant octet first. -/
def beValue (octets : List UInt8) : Nat := octets.foldl (fun value octet => value * 256 + octet.toNat) 0

/-- A binary format as a sequence of fields. The fields behind an integer may depend on
its value, and an array holds whole elements of a given total size. -/
inductive Format
  | done
  | uint (width : Nat) (accepts : Nat → Bool) (next : Nat → Format)
  | bytes (count : Nat) (next : Format)
  | array (element : Format) (size : Nat) (next : Format)
  | require (condition : Bool) (next : Format)

/-- Nonempty elements one after another. -/
inductive Elements (element : List UInt8 → Prop) : List UInt8 → Prop
  | nil : Elements element []
  | cons {first rest : List UInt8} : element first → first ≠ [] → Elements element rest →
      Elements element (first ++ rest)

namespace Format

/-- The byte strings of a format. -/
def Instance : Format → List UInt8 → Prop
  | done, input => input = []
  | uint width accepts next, input => ∃ octets rest, input = octets ++ rest ∧ octets.length = width ∧
      accepts (beValue octets) = true ∧ (next (beValue octets)).Instance rest
  | bytes count next, input => ∃ octets rest, input = octets ++ rest ∧ octets.length = count ∧ next.Instance rest
  | array element size next, input => ∃ octets rest, input = octets ++ rest ∧ octets.length = size ∧
      Elements element.Instance octets ∧ next.Instance rest
  | require condition next, input => condition = true ∧ next.Instance input

def validElements (element : List UInt8 → Option (List UInt8)) : Nat → List UInt8 → Bool
  | _, [] => true
  | 0, _ :: _ => false
  | fuel + 1, b :: bs =>
    match element (b :: bs) with
    | some rest => decide (rest.length < (b :: bs).length) && validElements element fuel rest
    | none => false

/-- Checks that an instance stands at the front of the input and returns what follows it. -/
def validate : Format → List UInt8 → Option (List UInt8)
  | done, input => some input
  | uint width accepts next, input =>
    if width ≤ input.length ∧ accepts (beValue (input.take width)) = true then
      (next (beValue (input.take width))).validate (input.drop width)
    else none
  | bytes count next, input => if count ≤ input.length then next.validate (input.drop count) else none
  | array element size next, input =>
    if size ≤ input.length ∧ validElements element.validate size (input.take size) = true then
      next.validate (input.drop size)
    else none
  | require condition next, input => if condition then next.validate input else none

/-- A validator for a format: it accepts the inputs that start with an instance. -/
def Validates (check : List UInt8 → Bool) (format : Format) : Prop :=
  ∀ input, check input = true ↔ ∃ front, format.Instance front ∧ front <+: input

theorem take_eq_of_append {front : List UInt8} {n : Nat} (width : front.length = n) (rest : List UInt8) :
    (front ++ rest).take n = front ∧ (front ++ rest).drop n = rest ∧ n ≤ (front ++ rest).length := by
  subst width
  refine ⟨List.take_left, List.drop_left, ?_⟩
  rw [List.length_append]
  omega

theorem validElements_iff {element : Format}
    (correct : ∀ input rest, element.validate input = some rest ↔
      ∃ front, element.Instance front ∧ input = front ++ rest)
    {fuel : Nat} {input : List UInt8} (enough : input.length ≤ fuel) :
    validElements element.validate fuel input = true ↔ Elements element.Instance input := by
  induction fuel generalizing input with
  | zero =>
    cases List.length_eq_zero_iff.mp (Nat.le_zero.mp enough)
    exact ⟨fun _ => .nil, fun _ => rfl⟩
  | succ fuel ih =>
    obtain _ | ⟨b, bs⟩ := input
    · exact ⟨fun _ => .nil, fun _ => rfl⟩
    simp only [validElements]
    constructor
    · intro valid
      split at valid
      · rename_i rest found
        obtain ⟨front, here, split⟩ := (correct _ _).mp found
        simp only [Bool.and_eq_true, decide_eq_true_eq] at valid
        have nonempty : front ≠ [] := by
          rintro rfl
          rw [split] at valid
          exact Nat.lt_irrefl _ valid.1
        rw [split]
        exact .cons here nonempty ((ih (by omega)).mp valid.2)
      · cases valid
    · intro elements
      generalize whole : b :: bs = input at elements enough
      cases elements with
      | nil => cases whole
      | @cons front rest here nonempty later =>
        rw [(correct _ _).mpr ⟨front, here, rfl⟩]
        have positive := List.length_pos_iff.mpr nonempty
        rw [List.length_append] at enough
        simp only [Bool.and_eq_true, decide_eq_true_eq, List.length_append]
        exact ⟨by omega, (ih (by omega)).mpr later⟩

/-- The validator is sound and complete, and leaves exactly what follows the instance. -/
theorem validate_eq_some_iff (format : Format) (input rest : List UInt8) :
    format.validate input = some rest ↔ ∃ front, format.Instance front ∧ input = front ++ rest := by
  induction format generalizing input rest with
  | done => simp [validate, Instance]
  | uint width accepts next ih =>
    simp only [validate, Instance]
    constructor
    · intro valid
      split at valid
      · rename_i checks
        obtain ⟨front, here, split⟩ := (ih _ _ _).mp valid
        refine ⟨input.take width ++ front, ⟨input.take width, front, rfl, ?_, checks.2, here⟩, ?_⟩
        · exact List.length_take_of_le checks.1
        · rw [List.append_assoc, ← split, List.take_append_drop]
      · cases valid
    · rintro ⟨_, ⟨octets, behind, rfl, length, accepted, here⟩, rfl⟩
      rw [List.append_assoc]
      obtain ⟨taken, dropped, room⟩ := take_eq_of_append length (behind ++ rest)
      rw [taken, dropped, if_pos ⟨room, accepted⟩]
      exact (ih _ _ _).mpr ⟨behind, here, rfl⟩
  | bytes count next ih =>
    simp only [validate, Instance]
    constructor
    · intro valid
      split at valid
      · rename_i room
        obtain ⟨front, here, split⟩ := (ih _ _).mp valid
        refine ⟨input.take count ++ front, ⟨input.take count, front, rfl, ?_, here⟩, ?_⟩
        · exact List.length_take_of_le room
        · rw [List.append_assoc, ← split, List.take_append_drop]
      · cases valid
    · rintro ⟨_, ⟨octets, behind, rfl, length, here⟩, rfl⟩
      rw [List.append_assoc]
      obtain ⟨-, dropped, room⟩ := take_eq_of_append length (behind ++ rest)
      rw [dropped, if_pos room]
      exact (ih _ _).mpr ⟨behind, here, rfl⟩
  | array element size next ihElement ih =>
    simp only [validate, Instance]
    constructor
    · intro valid
      split at valid
      · rename_i checks
        obtain ⟨front, here, split⟩ := (ih _ _).mp valid
        have length := List.length_take_of_le checks.1
        refine ⟨input.take size ++ front, ⟨input.take size, front, rfl, length, ?_, here⟩, ?_⟩
        · exact (validElements_iff ihElement (Nat.le_of_eq length)).mp checks.2
        · rw [List.append_assoc, ← split, List.take_append_drop]
      · cases valid
    · rintro ⟨_, ⟨octets, behind, rfl, length, elements, here⟩, rfl⟩
      rw [List.append_assoc]
      obtain ⟨taken, dropped, room⟩ := take_eq_of_append length (behind ++ rest)
      have valid := (validElements_iff ihElement (Nat.le_of_eq length)).mpr elements
      rw [taken, dropped, if_pos ⟨room, valid⟩]
      exact (ih _ _).mpr ⟨behind, here, rfl⟩
  | require condition next ih =>
    simp only [validate, Instance]
    cases condition with
    | false => simp
    | true => simpa using ih input rest

/-- The executable validator is one for its format. -/
theorem validates (format : Format) : Validates (fun input => (format.validate input).isSome) format := by
  intro input
  simp only [Option.isSome_iff_exists, validate_eq_some_iff]
  constructor
  · rintro ⟨rest, front, here, rfl⟩
    exact ⟨front, here, rest, rfl⟩
  · rintro ⟨front, here, rest, rfl⟩
    exact ⟨rest, front, here, rfl⟩

end Format

end Ism.Lib
