import Ism.NameCodec

namespace Ism

open Lib

/-- Labels and strictly backward pointers expand an input to a name without any bound on
the steps. A step is a label, a pointer or the root octet. -/
inductive Expands (original : List UInt8) (known : List Nat) :
    Nat → List UInt8 → Qname → List UInt8 → Nat → Prop
  | root {limit : Nat} (rest : List UInt8) : Expands original known limit (0 :: rest) [] rest 1
  | label {limit : Nat} (l : Label) {next rest : List UInt8} {name : Qname} {steps : Nat}
    (more : Expands original known limit next name rest steps) :
    Expands original known limit (UInt8.ofNat l.val.length :: (l.val ++ next)) (l :: name) rest (steps + 1)
  | pointer {limit : Nat} {b lo : UInt8} {tail target after : List UInt8} {name : Qname} {steps : Nat}
    (high : isPointer b = true) (valid : validPointerTarget known limit (pointerOffset b lo) = true)
    (found : suffixAt (pointerOffset b lo) original = some target)
    (more : Expands original known (pointerOffset b lo) target name after steps) :
    Expands original known limit (b :: lo :: tail) name tail (steps + 1)

variable {original : List UInt8} {known : List Nat}

theorem pointer_ne_zero {b : UInt8} (high : isPointer b = true) : ¬ b = 0 := by
  rintro rfl
  exact absurd high (by decide)

theorem Expands.complete {limit : Nat} {input rest : List UInt8} {name : Qname} {steps : Nat}
    (expands : Expands original known limit input name rest steps) {fuel remaining : Nat} (enough : steps ≤ fuel)
    (short : dnsNameLength name ≤ remaining) :
    parseQnameCompressedBounded original known fuel remaining limit input = some (name, rest) := by
  induction expands generalizing fuel remaining with
  | root rest =>
    obtain ⟨fuel, rfl⟩ := Nat.exists_eq_add_of_le' enough
    simp only [dnsNameLength] at short
    rw [parseQnameCompressedBounded.eq_def]
    simp only [if_true, if_pos short]
  | @label limit l next rest name steps more ih =>
    obtain ⟨fuel, rfl⟩ := Nat.exists_eq_succ_of_ne_zero (Nat.ne_of_gt (Nat.lt_of_lt_of_le (Nat.succ_pos steps) enough))
    have positive := dnsNameLength_pos name
    simp only [dnsNameLength] at short
    rw [parseQnameCompressedBounded_label, if_neg (by omega), ih (by omega) (by omega)]
  | @pointer limit b lo tail target after name steps high valid found more ih =>
    obtain ⟨fuel, rfl⟩ := Nat.exists_eq_succ_of_ne_zero (Nat.ne_of_gt (Nat.lt_of_lt_of_le (Nat.succ_pos steps) enough))
    rw [parseQnameCompressedBounded.eq_def]
    simp only [if_neg (pointer_ne_zero high), high, valid, if_true, found, ih (Nat.le_of_succ_le_succ enough) short,
      if_pos short]

theorem Expands.sound {fuel remaining limit : Nat} {input rest : List UInt8} {name : Qname}
    (parsed : parseQnameCompressedBounded original known fuel remaining limit input = some (name, rest)) :
    ∃ steps ≤ fuel, Expands original known limit input name rest steps ∧ dnsNameLength name ≤ remaining := by
  induction fuel generalizing remaining limit input name rest with
  | zero => simp [parseQnameCompressedBounded] at parsed
  | succ fuel ih =>
    obtain _ | ⟨b, tail⟩ := input
    · simp [parseQnameCompressedBounded] at parsed
    by_cases sized : 1 ≤ b.toNat ∧ b.toNat ≤ 63 ∧ b.toNat ≤ tail.length
    · obtain ⟨l, next, length, -, shape⟩ := exists_label ⟨sized.1, sized.2.1⟩ sized.2.2
      rw [shape, parseQnameCompressedBounded_label] at parsed
      rw [shape]
      split at parsed
      · cases parsed
      split at parsed
      · rename_i small tl final inner
        cases parsed
        obtain ⟨steps, enough, expands, short⟩ := ih inner
        refine ⟨steps + 1, Nat.succ_le_succ enough, Expands.label l expands, ?_⟩
        rw [dnsNameLength]
        omega
      · cases parsed
    · rw [parseQnameCompressedBounded.eq_def] at parsed
      simp only at parsed
      split at parsed
      · rename_i zero
        subst zero
        split at parsed
        · rename_i positive
          cases parsed
          exact ⟨1, Nat.succ_le_succ (Nat.zero_le fuel), Expands.root _, positive⟩
        · cases parsed
      split at parsed
      · rename_i high
        obtain _ | ⟨lo, tail⟩ := tail
        · cases parsed
        simp only at parsed
        split at parsed
        · rename_i valid
          split at parsed
          · cases parsed
          · rename_i target found
            split at parsed
            · rename_i name' after inner
              split at parsed
              · rename_i short
                cases parsed
                obtain ⟨steps, enough, expands, -⟩ := ih inner
                exact ⟨steps + 1, Nat.succ_le_succ enough, Expands.pointer high valid found expands, short⟩
              · cases parsed
            · cases parsed
        · cases parsed
      · split at parsed
        · rename_i within
          split at parsed
          · rename_i room
            exact absurd ⟨within.1, within.2, room⟩ sized
          · cases parsed
        · cases parsed

theorem parseQnameCompressed_eq_some_iff {fuel limit : Nat} {input rest : List UInt8} {name : Qname} :
    parseQnameCompressed fuel original limit input = some (name, rest) ↔
      ∃ steps ≤ fuel, Expands original (messageNameOffsets original) limit input name rest steps ∧
        dnsNameLength name ≤ 255 := by
  constructor
  · exact Expands.sound
  · rintro ⟨steps, enough, expands, short⟩
    exact expands.complete enough short

/-- With less fuel than steps the parser gives up. -/
theorem Expands.starved {limit : Nat} {input rest : List UInt8} {name : Qname} {steps : Nat}
    (expands : Expands original known limit input name rest steps) {fuel : Nat} (short : fuel < steps)
    (remaining : Nat) : parseQnameCompressedBounded original known fuel remaining limit input = none := by
  induction expands generalizing fuel remaining with
  | root rest =>
    obtain rfl : fuel = 0 := by omega
    rw [parseQnameCompressedBounded]
  | label l more ih =>
    obtain _ | fuel := fuel
    · rw [parseQnameCompressedBounded]
    · rw [parseQnameCompressedBounded_label, ih (by omega)]
      split <;> rfl
  | pointer high valid found more ih =>
    obtain _ | fuel := fuel
    · rw [parseQnameCompressedBounded]
    · rw [parseQnameCompressedBounded.eq_def]
      simp only [if_neg (pointer_ne_zero high), high, valid, if_true, found, ih (by omega : fuel < _)]

/-- No expansion to a legal name takes more than 128 steps. -/
def Shallow (original : List UInt8) (limit : Nat) (input : List UInt8) : Prop :=
  ∀ name rest steps,
    Expands original (messageNameOffsets original) limit input name rest steps → dnsNameLength name ≤ 255 → steps ≤ 128

/-- More fuel makes a difference only to an input whose expansion takes more than 128 steps. -/
theorem compressed_name_fuel_iff (original : List UInt8) (limit : Nat) (input : List UInt8) :
    ((∀ fuel ≥ 128, parseQnameCompressed fuel original limit input = parseQnameCompressed 128 original limit input) ↔
      Shallow original limit input) ∧
    ((∀ name rest steps, Expands original (messageNameOffsets original) limit input name rest steps →
      dnsNameLength name ≤ 255 → parseQnameCompressed 128 original limit input = some (name, rest)) ↔
      Shallow original limit input) := by
  have deep : ∀ name rest steps, Expands original (messageNameOffsets original) limit input name rest steps →
      dnsNameLength name ≤ 255 → 128 < steps → parseQnameCompressed 128 original limit input = none ∧
        parseQnameCompressed steps original limit input = some (name, rest) := by
    intro name rest steps expands short many
    exact ⟨expands.starved many 255, expands.complete (Nat.le_refl steps) short⟩
  refine ⟨⟨?_, ?_⟩, ?_, ?_⟩
  · intro same name rest steps expands short
    by_contra many
    obtain ⟨starved, enough⟩ := deep name rest steps expands short (by omega)
    rw [same steps (by omega), starved] at enough
    cases enough
  · intro few fuel large
    cases more : parseQnameCompressed fuel original limit input with
    | some result =>
      obtain ⟨name, rest⟩ := result
      obtain ⟨steps, -, expands, short⟩ := parseQnameCompressed_eq_some_iff.mp more
      exact (parseQnameCompressed_eq_some_iff.mpr ⟨steps, few name rest steps expands short, expands, short⟩).symm
    | none =>
      cases less : parseQnameCompressed 128 original limit input with
      | none => rfl
      | some result =>
        obtain ⟨name, rest⟩ := result
        obtain ⟨steps, enough, expands, short⟩ := parseQnameCompressed_eq_some_iff.mp less
        rw [parseQnameCompressed_eq_some_iff.mpr ⟨steps, by omega, expands, short⟩] at more
        cases more
  · intro reads name rest steps expands short
    by_contra many
    rw [(deep name rest steps expands short (by omega)).1] at reads
    cases reads name rest steps expands short
  · intro few name rest steps expands short
    exact parseQnameCompressed_eq_some_iff.mpr ⟨steps, few name rest steps expands short, expands, short⟩

/-- A question whose name has 127 labels, and an address whose owner is a pointer to it. -/
def deepOwnerMessage : List UInt8 :=
  [0, 0, 0x81, 0x80, 0, 1, 0, 1, 0, 0, 0, 0] ++ (List.replicate 127 [1, 97]).flatten ++ [0, 0, 1, 0, 1] ++
    [0xc0, 12, 0, 1, 0, 1, 0, 0, 0, 60, 0, 4, 192, 0, 2, 1]

/-- The question is read and the pointer to it is not; one more unit of fuel would do. -/
theorem compressed_name_fuel_rejects_owner :
    let input := deepOwnerMessage.drop 271
    ((parseQname 128 (deepOwnerMessage.drop 12)).map fun parsed => parsed.1.length) = some 127 ∧
    input.take 2 = [0xc0, 12] ∧
    parseQnameCompressed 128 deepOwnerMessage 271 input = none ∧
    ((parseQnameCompressed 129 deepOwnerMessage 271 input).map fun parsed =>
      (parsed.1.length, dnsNameLength parsed.1, parsed.2)) = some (127, 255, input.drop 2) := by
  decide +kernel

end Ism
