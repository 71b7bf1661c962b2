import Ism.Cache

namespace Ism

/-- The check goes label by label, and the length test only cuts off what cannot match any more. -/
theorem isSubdomain_iff {child parent : Qname} :
    isSubdomain child parent = true ↔ canonicalName parent <:+ canonicalName child := by
  rw [isSubdomain]
  induction child with
  | nil =>
    cases parent with
    | nil => simp [hasSuffix, qnameEq]
    | cons p parent => simp [hasSuffix, canonicalName]
  | cons l rest ih =>
    unfold hasSuffix
    split
    · rename_i long
      refine ⟨fun no => (Bool.false_ne_true no).elim, fun suffix => ?_⟩
      have short := suffix.length_le
      rw [canonicalName_length, canonicalName_length] at short
      omega
    · have step : canonicalName (l :: rest) = canonicalLabel l :: canonicalName rest := rfl
      rw [step, List.suffix_cons_iff, ← step, ← ih]
      split
      · rename_i same
        exact ⟨fun _ => Or.inl (qnameEq_iff.mp same).symm, fun _ => rfl⟩
      · rename_i different
        refine ⟨Or.inr, fun either => either.resolve_left fun same => different ?_⟩
        exact qnameEq_iff.mpr same.symm

/-- A suffix of the folded name is the folding of a suffix as it is spelled. -/
theorem isSubdomain_iff_append {child parent : Qname} :
    isSubdomain child parent = true ↔ ∃ front s, child = front ++ s ∧ qnameEq s parent = true := by
  rw [isSubdomain_iff, canonicalName, canonicalName, List.suffix_map_iff]
  constructor
  · rintro ⟨s, ⟨front, rfl⟩, same⟩
    exact ⟨front, s, rfl, qnameEq_iff.mpr same.symm⟩
  · rintro ⟨front, s, rfl, same⟩
    exact ⟨s, ⟨front, rfl⟩, (qnameEq_iff.mp same).symm⟩

theorem validateAnswer_eq (query authorityZone : Qname) (ans : ResourceRecord) :
    validateAnswer query authorityZone ans = isSubdomain ans.name authorityZone := by
  rw [validateAnswer]
  cases isSubdomain ans.name authorityZone <;> rfl

/-- The bailiwick check is containment as a suffix of labels, up to the case of letters. -/
theorem bailiwick_is_label_suffix :
    (∀ c p, isSubdomain c p = true ↔ ∃ front s, c = front ++ s ∧ qnameEq s p = true) ∧
    (∀ c, isSubdomain c c = true) ∧
    (∀ a b c, isSubdomain a b = true → isSubdomain b c = true → isSubdomain a c = true) ∧
    (∀ a b, isSubdomain a b = true → isSubdomain b a = true → qnameEq a b = true) ∧
    (∀ c, isSubdomain c [] = true) ∧
    (∀ c c' p p', qnameEq c c' = true → qnameEq p p' = true → isSubdomain c p = isSubdomain c' p') ∧
    ∀ query authorityZone ans, validateAnswer query authorityZone ans = true ↔
      ∃ front s, ans.name = front ++ s ∧ qnameEq s authorityZone = true := by
  refine ⟨fun c p => isSubdomain_iff_append, ?_, ?_, ?_, ?_, ?_, ?_⟩
  · intro c
    exact isSubdomain_iff.mpr (List.suffix_refl _)
  · intro a b c inner outer
    exact isSubdomain_iff.mpr ((isSubdomain_iff.mp outer).trans (isSubdomain_iff.mp inner))
  · intro a b below above
    have lower := isSubdomain_iff.mp above
    have upper := isSubdomain_iff.mp below
    exact qnameEq_iff.mpr (lower.eq_of_length (Nat.le_antisymm lower.length_le upper.length_le))
  · intro c
    exact isSubdomain_iff.mpr (List.nil_suffix)
  · intro c c' p p' child parent
    rw [Bool.eq_iff_iff, isSubdomain_iff, isSubdomain_iff, qnameEq_iff.mp child, qnameEq_iff.mp parent]
  · intro query authorityZone ans
    rw [validateAnswer_eq, isSubdomain_iff_append]

end Ism
