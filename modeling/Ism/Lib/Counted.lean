import Mathlib.Algebra.Ring.Nat
import Mathlib.Data.List.Basic
import Mathlib.Tactic.Common

namespace Ism.Lib

variable {α β : Type*}

/-- Reads `count` items one after another. Each item is told the offset at which
its input starts; `fuel` bounds the number of items. -/
def readCountedAt (item : Nat → List β → Option (α × List β)) :
    Nat → Nat → Nat → List β → Option (List α × List β)
  | _, _, 0, input => some ([], input)
  | _, 0, _ + 1, _ => none
  | offset, fuel + 1, count + 1, input =>
    match item offset input with
    | none => none
    | some (x, rest) =>
      match readCountedAt item (offset + (input.length - rest.length)) fuel count rest with
      | none => none
      | some (xs, tail) => some (x :: xs, tail)

/-- The same for items that do not look at their offset. -/
def readCounted (item : List β → Option (α × List β)) (fuel count : Nat) (input : List β) :
    Option (List α × List β) :=
  readCountedAt (fun _ => item) 0 fuel count input

/-- Writes the items one after another, or nothing at all. -/
def writeAll (write : α → Option (List β)) : List α → Option (List β)
  | [] => some []
  | x :: xs =>
    match write x, writeAll write xs with
    | some bytes, some rest => some (bytes ++ rest)
    | _, _ => none

/-- `item` reads back exactly what `write` writes for the accepted values,
whatever follows, and it accepts no other input. -/
def Inverts (item : List β → Option (α × List β)) (accepted : α → Prop)
    (write : α → Option (List β)) : Prop :=
  ∀ input x rest, item input = some (x, rest) ↔
    accepted x ∧ ∃ bytes, write x = some bytes ∧ input = bytes ++ rest

theorem writeAll_cons_eq_some {write : α → Option (List β)} {x : α} {xs : List α} {bytes : List β} :
    writeAll write (x :: xs) = some bytes ↔
      ∃ here later, write x = some here ∧ writeAll write xs = some later ∧ bytes = here ++ later := by
  simp only [writeAll]
  constructor
  · intro written
    split at written
    · rename_i here later first second
      exact ⟨here, later, first, second, (Option.some.inj written).symm⟩
    · cases written
  · rintro ⟨here, later, first, second, rfl⟩
    rw [first, second]

theorem writeAll_isSome_iff {write : α → Option (List β)} {xs : List α} :
    (∃ bytes, writeAll write xs = some bytes) ↔ ∀ x ∈ xs, ∃ bytes, write x = some bytes := by
  induction xs with
  | nil => simp [writeAll]
  | cons x xs ih =>
    simp only [writeAll_cons_eq_some, List.forall_mem_cons, ← ih]
    constructor
    · rintro ⟨_, here, later, first, second, _⟩
      exact ⟨⟨here, first⟩, later, second⟩
    · rintro ⟨⟨here, first⟩, later, second⟩
      exact ⟨here ++ later, here, later, first, second, rfl⟩

theorem writeAll_length {write : α → Option (List β)} {size : α → Nat}
    (sized : ∀ x bytes, write x = some bytes → bytes.length = size x) {xs : List α} {bytes : List β}
    (written : writeAll write xs = some bytes) : bytes.length = (xs.map size).sum := by
  induction xs generalizing bytes with
  | nil =>
    cases written
    rfl
  | cons x xs ih =>
    obtain ⟨here, later, first, second, rfl⟩ := writeAll_cons_eq_some.mp written
    rw [List.length_append, sized x here first, ih second, List.map_cons, List.sum_cons]

section Step

variable {item : Nat → List β → Option (α × List β)}

/-- Every way in which one more item can be read. -/
theorem readCountedAt_succ_eq_some {offset fuel count : Nat} {input : List β} {xs : List α}
    {tail : List β} :
    readCountedAt item offset (fuel + 1) (count + 1) input = some (xs, tail) ↔
      ∃ x later rest, item offset input = some (x, rest) ∧
        readCountedAt item (offset + (input.length - rest.length)) fuel count rest = some (later, tail) ∧
        xs = x :: later := by
  simp only [readCountedAt]
  constructor
  · intro run
    split at run
    · cases run
    · rename_i x rest first
      split at run
      · cases run
      · rename_i later tail second
        obtain ⟨rfl, rfl⟩ := Prod.mk.inj (Option.some.inj run)
        exact ⟨x, later, rest, first, second, rfl⟩
  · rintro ⟨x, later, rest, first, second, rfl⟩
    simp only [first, second]

theorem readCountedAt_zero (offset fuel : Nat) (input : List β) :
    readCountedAt item offset fuel 0 input = some ([], input) := by
  cases fuel <;> rfl

theorem readCountedAt_one {offset : Nat} {input : List β} {xs : List α} {tail : List β} :
    readCountedAt item offset 1 1 input = some (xs, tail) ↔ ∃ x, item offset input = some (x, tail) ∧ xs = [x] := by
  rw [readCountedAt_succ_eq_some]
  constructor
  · rintro ⟨x, later, rest, first, second, rfl⟩
    cases second
    exact ⟨x, first, rfl⟩
  · rintro ⟨x, first, rfl⟩
    exact ⟨x, [], tail, first, rfl, rfl⟩

/-- Where no item can be read, nothing is read. -/
theorem readCountedAt_stuck {offset fuel count : Nat} {input : List β} {xs : List α} {tail : List β}
    (stuck : ∀ offset, item offset input = none)
    (read : readCountedAt item offset fuel count input = some (xs, tail)) : count = 0 ∧ tail = input := by
  cases count with
  | zero =>
    rw [readCountedAt_zero] at read
    exact ⟨rfl, (Prod.mk.inj (Option.some.inj read)).2.symm⟩
  | succ count =>
    cases fuel with
    | zero => cases read
    | succ fuel =>
      rw [readCountedAt, stuck] at read
      cases read

/-- A reader that accepts whatever another one accepts reads the same items. -/
theorem readCountedAt_mono {other : Nat → List β → Option (α × List β)}
    (agree : ∀ offset offset' input result, item offset input = some result →
      other offset' input = some result)
    {offset offset' fuel count : Nat} {input : List β} {result : List α × List β}
    (run : readCountedAt item offset fuel count input = some result) :
    readCountedAt other offset' fuel count input = some result := by
  obtain ⟨xs, tail⟩ := result
  induction fuel generalizing offset offset' count input xs with
  | zero =>
    cases count with
    | zero => exact run
    | succ count => cases run
  | succ fuel ih =>
    cases count with
    | zero => exact run
    | succ count =>
      obtain ⟨x, later, rest, first, second, rfl⟩ := readCountedAt_succ_eq_some.mp run
      exact readCountedAt_succ_eq_some.mpr ⟨x, later, rest, agree _ _ _ _ first, ih _ second, rfl⟩

/-- Induction along a counted read. -/
theorem readCountedAt_induct {motive : Nat → Nat → List β → List α → List β → Prop}
    (none : ∀ offset input, motive offset 0 input [] input)
    (more : ∀ offset count input x rest xs tail, item offset input = some (x, rest) →
      motive (offset + (input.length - rest.length)) count rest xs tail →
      motive offset (count + 1) input (x :: xs) tail)
    {offset fuel count : Nat} {input : List β} {xs : List α} {tail : List β}
    (run : readCountedAt item offset fuel count input = some (xs, tail)) :
    motive offset count input xs tail := by
  induction fuel generalizing offset count input xs with
  | zero =>
    cases count with
    | zero => cases run; exact none _ _
    | succ count => cases run
  | succ fuel ih =>
    cases count with
    | zero => cases run; exact none _ _
    | succ count =>
      obtain ⟨x, later, rest, first, second, rfl⟩ := readCountedAt_succ_eq_some.mp run
      exact more _ _ _ _ _ _ _ first (ih second)

theorem readCountedAt_length {offset fuel count : Nat} {input : List β} {xs : List α} {tail : List β}
    (run : readCountedAt item offset fuel count input = some (xs, tail)) : xs.length = count := by
  refine readCountedAt_induct (motive := fun _ count _ xs _ => xs.length = count) ?_ ?_ run
  · exact fun _ _ => rfl
  · intro _ count _ x _ xs _ _ length
    rw [List.length_cons, length]

/-- What holds of every item that can be read holds of all the items read. -/
theorem readCountedAt_forall {holds : α → Prop}
    (each : ∀ offset input x rest, item offset input = some (x, rest) → holds x)
    {offset fuel count : Nat} {input : List β} {xs : List α} {tail : List β}
    (run : readCountedAt item offset fuel count input = some (xs, tail)) : ∀ x ∈ xs, holds x := by
  refine readCountedAt_induct (motive := fun _ _ _ xs _ => ∀ x ∈ xs, holds x) ?_ ?_ run
  · exact fun _ _ x member => by cases member
  · intro _ _ _ x _ xs _ first later
    exact List.forall_mem_cons.mpr ⟨each _ _ _ _ first, later⟩

/-- A reader that returns more about each item reads the same items, as long as it
reads whatever the first one reads. -/
theorem readCountedAt_refine {γ : Type*} {finer : Nat → List β → Option (γ × List β)} {forget : γ → α}
    (agree : ∀ offset input x rest, item offset input = some (x, rest) →
      ∃ y, finer offset input = some (y, rest) ∧ forget y = x)
    {offset fuel count : Nat} {input : List β} {xs : List α} {tail : List β}
    (run : readCountedAt item offset fuel count input = some (xs, tail)) :
    ∃ ys, readCountedAt finer offset fuel count input = some (ys, tail) ∧ ys.map forget = xs := by
  induction fuel generalizing offset count input xs with
  | zero =>
    cases count with
    | zero => cases run; exact ⟨[], rfl, rfl⟩
    | succ count => cases run
  | succ fuel ih =>
    cases count with
    | zero => cases run; exact ⟨[], rfl, rfl⟩
    | succ count =>
      obtain ⟨x, later, rest, first, second, rfl⟩ := readCountedAt_succ_eq_some.mp run
      obtain ⟨y, found, rfl⟩ := agree _ _ _ _ first
      obtain ⟨ys, founds, rfl⟩ := ih second
      exact ⟨y :: ys, readCountedAt_succ_eq_some.mpr ⟨y, ys, rest, found, founds, rfl⟩, rfl⟩

end Step

/-- Counted reading inverts writing item by item. -/
theorem Inverts.counted {item : List β → Option (α × List β)} {accepted : α → Prop}
    {write : α → Option (List β)} (inverts : Inverts item accepted write)
    {count : Nat} {input : List β} {xs : List α} {rest : List β} :
    readCounted item count count input = some (xs, rest) ↔
      xs.length = count ∧ (∀ x ∈ xs, accepted x) ∧
        ∃ bytes, writeAll write xs = some bytes ∧ input = bytes ++ rest := by
  unfold readCounted
  generalize (0 : Nat) = offset
  induction count generalizing offset input xs with
  | zero =>
    constructor
    · intro run
      cases run
      exact ⟨rfl, by simp, [], rfl, rfl⟩
    · rintro ⟨length, _, bytes, written, rfl⟩
      cases List.length_eq_zero_iff.mp length
      cases written
      rfl
  | succ count ih =>
    rw [readCountedAt_succ_eq_some]
    constructor
    · rintro ⟨x, later, middle, first, second, rfl⟩
      obtain ⟨okay, here, wrote, rfl⟩ := (inverts _ _ _).mp first
      obtain ⟨length, okays, after, wrotes, rfl⟩ := (ih _).mp second
      refine ⟨by rw [List.length_cons, length], List.forall_mem_cons.mpr ⟨okay, okays⟩, here ++ after, ?_, ?_⟩
      · exact writeAll_cons_eq_some.mpr ⟨here, after, wrote, wrotes, rfl⟩
      · rw [List.append_assoc]
    · rintro ⟨length, okays, bytes, written, rfl⟩
      obtain _ | ⟨x, later⟩ := xs
      · cases length
      obtain ⟨okay, okays⟩ := List.forall_mem_cons.mp okays
      obtain ⟨here, after, wrote, wrotes, rfl⟩ := writeAll_cons_eq_some.mp written
      refine ⟨x, later, after ++ rest, ?_, ?_, rfl⟩
      · exact (inverts _ _ _).mpr ⟨okay, here, wrote, by rw [List.append_assoc]⟩
      · exact (ih _).mpr ⟨Nat.succ.inj length, okays, after, wrotes, rfl⟩

end Ism.Lib
