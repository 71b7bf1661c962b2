import Ism.BoundaryLanguage
import Ism.UniqueDecoding

namespace Ism

inductive AeResult
  | success
  | failure
  deriving DecidableEq

section Gateway

-- takes the key, the nonce, the ciphertext, its length and the buffer for the plaintext
variable (decryptAuthenticated : List UInt8 → UInt8 → List UInt8 → Nat → List UInt8 → Bool × List UInt8)
variable (check : GeneratedChecks) (key : List UInt8) (iv : UInt8) (ciphertext : List UInt8) (ctLen : Nat)

def decrypt (ptBuffer : List UInt8) : AeResult × List UInt8 :=
  let (authenticated, pt) := decryptAuthenticated key iv ciphertext ctLen ptBuffer
  (if authenticated then .success else .failure, pt)

/-- The buffer for the plaintext starts as a copy of the ciphertext, and all of it is parsed. -/
def decryptAndValidate : Option Header :=
  if ctLen = 0 then none
  else
    let ptBuffer := ciphertext.take ctLen
    let (res, pt) := decrypt decryptAuthenticated key iv ciphertext ctLen ptBuffer
    if res = .success then
      match parseDnsPacketBuffer check pt ctLen with
      | some pkt => some pkt.header
      | none => none
    else none

theorem decryptAndValidate_eq_some_iff (h : Header) :
    decryptAndValidate decryptAuthenticated check key iv ciphertext ctLen = some h ↔
      ctLen ≠ 0 ∧ (decryptAuthenticated key iv ciphertext ctLen (ciphertext.take ctLen)).1 = true ∧
      ∃ p, parseDnsPacketBuffer check (decryptAuthenticated key iv ciphertext ctLen (ciphertext.take ctLen)).2 ctLen =
        some p ∧ h = p.header := by
  by_cases empty : ctLen = 0
  · simp [decryptAndValidate, empty]
  cases authentic : (decryptAuthenticated key iv ciphertext ctLen (ciphertext.take ctLen)).1 with
  | false => simp [decryptAndValidate, decrypt, authentic]
  | true =>
    simp only [decryptAndValidate, decrypt, authentic, if_neg empty, if_true]
    cases parseDnsPacketBuffer check (decryptAuthenticated key iv ciphertext ctLen (ciphertext.take ctLen)).2 ctLen with
    | none => simp
    | some p => simp [empty, eq_comm]

end Gateway

/-- What the gateway lets through: the header of a message that the boundary accepts and that takes
up the whole buffer of an authentic ciphertext. A message that ends before its ciphertext does never
gets through, whatever stands behind it. -/
theorem gateway_lets_through
    (decryptAuthenticated : List UInt8 → UInt8 → List UInt8 → Nat → List UInt8 → Bool × List UInt8)
    (inPlace : ∀ key iv ciphertext ctLen buffer,
      (decryptAuthenticated key iv ciphertext ctLen buffer).2.length = buffer.length)
    (check : GeneratedChecks) (correct : check.Correct) (key : List UInt8) (iv : UInt8) (ciphertext : List UInt8)
    (ctLen : Nat) (inside : ctLen ≤ ciphertext.length) :
    let opened := decryptAuthenticated key iv ciphertext ctLen (ciphertext.take ctLen)
    let result := decryptAndValidate decryptAuthenticated check key iv ciphertext ctLen
    (∀ h, result = some h ↔ opened.1 = true ∧
      ∃ p, parseDnsPacketBytes opened.2 = some p ∧ Covered rdataInOnePiece opened.2 p ∧ h = p.header) ∧
    ∀ m rest, opened.2 = m ++ rest → rest ≠ [] → (parseDnsPacketBytes m).isSome = true → result = none := by
  intro opened result
  have length : opened.2.length = ctLen := by rw [inPlace, List.length_take_of_le inside]
  have buffer : ∀ p, parseDnsPacketBuffer check opened.2 ctLen = some p ↔
      parseDnsPacketBytes opened.2 = some p ∧ Covered rdataInOnePiece opened.2 p := by
    intro p
    have held := parseDnsPacketBuffer_iff_covered (p := p) correct (List.prefix_refl opened.2)
    rwa [length] at held
  have passes : ∀ h, result = some h ↔ opened.1 = true ∧
      ∃ p, parseDnsPacketBytes opened.2 = some p ∧ Covered rdataInOnePiece opened.2 p ∧ h = p.header := by
    intro h
    simp only [result, decryptAndValidate_eq_some_iff, opened, buffer]
    constructor
    · rintro ⟨-, authentic, p, ⟨parsed, covered⟩, rfl⟩
      exact ⟨authentic, p, parsed, covered, rfl⟩
    · rintro ⟨authentic, p, parsed, covered, rfl⟩
      refine ⟨fun empty => ?_, authentic, p, ⟨parsed, covered⟩, rfl⟩
      rw [List.length_eq_zero_iff.mp (length.trans empty)] at parsed
      cases parsed
  refine ⟨passes, fun m rest split proper accepted => ?_⟩
  obtain ⟨p, parsed⟩ := Option.isSome_iff_exists.mp accepted
  rw [Option.eq_none_iff_forall_ne_some]
  intro h passed
  obtain ⟨-, p', parsed', -⟩ := (passes h).mp passed
  rw [split, parseDnsPacketBytes_append parsed proper] at parsed'
  cases parsed'

/-- A question as it comes out of the decryption, and the same one with an octet of a tag behind it. -/
theorem gateway_lets_through_question :
    let question : List UInt8 := [0, 0, 1, 0, 0, 1, 0, 0, 0, 0, 0, 0, 1, 98, 0, 0, 1, 0, 1]
    let unmask := fun (key : List UInt8) (iv : UInt8) (_ : List UInt8) (_ : Nat) (buffer : List UInt8) =>
      (decide (key = [iv]), buffer.map (· ^^^ iv))
    (decryptAndValidate unmask formatChecks [42] 42 (question.map (· ^^^ 42)) 19).isSome = true ∧
      decryptAndValidate unmask formatChecks [42] 42 ((question ++ [7]).map (· ^^^ 42)) 20 = none := by
  intro question unmask
  obtain ⟨p, parsed⟩ : ∃ p, parseDnsPacketBytes question = some p := Option.isSome_iff_exists.mp (by decide +kernel)
  have counted : counts 1 0 0 0 p.header = true := by
    have decided : (parseDnsPacketBytes question).all (fun p => counts 1 0 0 0 p.header) = true := by
      decide +kernel
    rw [parsed] at decided
    exact decided
  have whole := (gateway_lets_through unmask (fun _ _ _ _ _ => List.length_map _) formatChecks formatChecks_correct [42]
    42 (question.map (· ^^^ 42)) 19 (by decide)).1 p.header
  have tagged := (gateway_lets_through unmask (fun _ _ _ _ _ => List.length_map _) formatChecks formatChecks_correct
    [42] 42 ((question ++ [7]).map (· ^^^ 42)) 20 (by decide)).2 question [7] (by decide) (by decide)
  refine ⟨Option.isSome_iff_exists.mpr ⟨p.header, whole.mpr ⟨by decide, p, ?_, ?_, rfl⟩⟩, tagged ?_⟩
  · exact parsed
  · exact .question counted
  · rw [parsed, Option.isSome_some]

end Ism
