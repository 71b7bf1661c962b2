import Ism.Serializer

namespace Ism

open Lib

theorem suffixAt_eq_some_iff {offset : Nat} {input suffix : List UInt8} :
    suffixAt offset input = some suffix ↔ offset ≤ input.length ∧ suffix = input.drop offset := by
  induction offset generalizing input with
  | zero => simp [suffixAt, eq_comm]
  | succ offset ih =>
    cases input with
    | nil => simp [suffixAt]
    | cons b rest => simp [suffixAt, ih]

theorem serializeQnameLabels_length (name : Qname) : (serializeQnameLabels name).length = dnsNameLength name := by
  induction name with
  | nil => rfl
  | cons l rest ih =>
    simp only [serializeQnameLabels, dnsNameLength, List.cons_append, List.length_cons, List.length_append, ih]
    omega

theorem dnsNameLength_pos (name : Qname) : 1 ≤ dnsNameLength name := by
  cases name with
  | nil => exact Nat.le_refl 1
  | cons l rest =>
    rw [dnsNameLength]
    omega

/-- Each label takes at least two octets, so a name of at most 255 octets has at most 127 labels. -/
theorem length_lt_dnsNameLength (name : Qname) : 2 * name.length < dnsNameLength name := by
  induction name with
  | nil => simp [dnsNameLength]
  | cons l rest ih =>
    have := l.property.1
    simp only [dnsNameLength, List.length_cons]
    omega

/-- A length octet and the label after it, recovered from the bytes. -/
theorem exists_label {b : UInt8} {rest : List UInt8} (sized : 1 ≤ b.toNat ∧ b.toNat ≤ 63)
    (room : b.toNat ≤ rest.length) :
    ∃ (l : Label) (next : List UInt8), l.val.length = b.toNat ∧ next = rest.drop b.toNat ∧
      b :: rest = UInt8.ofNat l.val.length :: (l.val ++ next) := by
  refine ⟨⟨rest.take b.toNat, by rw [List.length_take_of_le room]; exact sized⟩, rest.drop b.toNat, ?_, rfl, ?_⟩
  · exact List.length_take_of_le room
  · simp only [List.length_take_of_le room, UInt8.ofNat_toNat, List.take_append_drop]

theorem parseQnameBounded_serialize {fuel remaining : Nat} {name : Qname} (rest : List UInt8)
    (deep : name.length < fuel) (short : dnsNameLength name ≤ remaining) :
    parseQnameBounded fuel remaining (serializeQnameLabels name ++ rest) = some (name, rest) := by
  induction name generalizing fuel remaining with
  | nil =>
    obtain ⟨fuel, rfl⟩ := Nat.exists_eq_succ_of_ne_zero (Nat.ne_of_gt deep)
    simp only [dnsNameLength] at short
    simp only [serializeQnameLabels, List.cons_append, List.nil_append, parseQnameBounded, if_true, if_pos short]
  | cons l tl ih =>
    obtain ⟨fuel, rfl⟩ := Nat.exists_eq_succ_of_ne_zero (Nat.ne_of_gt (Nat.zero_lt_of_lt deep))
    have positive := dnsNameLength_pos tl
    simp only [dnsNameLength, List.length_cons] at short deep
    have shape : serializeQnameLabels (l :: tl) ++ rest =
        UInt8.ofNat l.val.length :: (l.val ++ (serializeQnameLabels tl ++ rest)) := by
      simp only [serializeQnameLabels, List.cons_append, List.append_assoc]
    rw [shape, parseQnameBounded_label, if_neg (by omega), ih (by omega) (by omega)]

theorem parseQnameBounded_sound {fuel remaining : Nat} {input rest : List UInt8} {name : Qname}
    (parsed : parseQnameBounded fuel remaining input = some (name, rest)) :
    input = serializeQnameLabels name ++ rest ∧ dnsNameLength name ≤ remaining ∧ name.length < fuel := by
  induction fuel generalizing remaining input name with
  | zero => simp [parseQnameBounded] at parsed
  | succ fuel ih =>
    obtain _ | ⟨b, tail⟩ := input
    · simp [parseQnameBounded] at parsed
    by_cases sized : 1 ≤ b.toNat ∧ b.toNat ≤ 63 ∧ b.toNat ≤ tail.length
    · obtain ⟨l, next, length, -, shape⟩ := exists_label ⟨sized.1, sized.2.1⟩ sized.2.2
      rw [shape, parseQnameBounded_label] at parsed
      split at parsed
      · cases parsed
      split at parsed
      · rename_i small tl final inner
        obtain ⟨rfl, rfl⟩ := Prod.mk.inj (Option.some.inj parsed)
        obtain ⟨bytes, short, deep⟩ := ih inner
        refine ⟨?_, ?_, ?_⟩
        · rw [shape, bytes]
          simp only [serializeQnameLabels, List.cons_append, List.append_assoc]
        · simp only [dnsNameLength]
          omega
        · simp only [List.length_cons]
          omega
      · cases parsed
    · simp only [parseQnameBounded] at parsed
      split at parsed
      · rename_i zero
        split at parsed
        · rename_i positive
          obtain ⟨rfl, rfl⟩ := Prod.mk.inj (Option.some.inj parsed)
          refine ⟨?_, positive, Nat.succ_pos fuel⟩
          rw [zero]
          rfl
        · cases parsed
      · split at parsed
        · cases parsed
        split at parsed
        · rename_i small
          rw [dif_neg (fun room => sized ⟨small.1, small.2, room⟩)] at parsed
          cases parsed
        · cases parsed

/-- With fuel for half of the budget, the budget alone decides which names are accepted. -/
theorem parseQnameBounded_eq_some_iff {fuel remaining : Nat} {input rest : List UInt8} {name : Qname}
    (enough : remaining ≤ 2 * fuel) :
    parseQnameBounded fuel remaining input = some (name, rest) ↔
      input = serializeQnameLabels name ++ rest ∧ dnsNameLength name ≤ remaining := by
  constructor
  · intro parsed
    obtain ⟨bytes, short, -⟩ := parseQnameBounded_sound parsed
    exact ⟨bytes, short⟩
  · rintro ⟨rfl, short⟩
    have := length_lt_dnsNameLength name
    exact parseQnameBounded_serialize rest (by omega) short

/-- The uncompressed parser accepts exactly the wire form of names of at most 255 octets. -/
theorem parseQname_eq_some_iff {input rest : List UInt8} {name : Qname} :
    parseQname 128 input = some (name, rest) ↔
      input = serializeQnameLabels name ++ rest ∧ dnsNameLength name ≤ 255 :=
  parseQnameBounded_eq_some_iff (by decide)

/-- No wire form of a name is the beginning of another one. -/
theorem serializeQnameLabels_append_inj {name other : Qname} {rest rest' : List UInt8}
    (same : serializeQnameLabels name ++ rest = serializeQnameLabels other ++ rest') : name = other ∧ rest = rest' := by
  have left : parseQnameBounded (name.length + other.length + 1) (dnsNameLength name + dnsNameLength other)
      (serializeQnameLabels name ++ rest) = some (name, rest) :=
    parseQnameBounded_serialize rest (by omega) (by omega)
  have right : parseQnameBounded (name.length + other.length + 1) (dnsNameLength name + dnsNameLength other)
      (serializeQnameLabels other ++ rest') = some (other, rest') :=
    parseQnameBounded_serialize rest' (by omega) (by omega)
  rw [same, right] at left
  exact (Prod.mk.inj (Option.some.inj left)).imp Eq.symm Eq.symm

/-- The parser of plain names accepts exactly the grammar: its fuel turns away no name that
fits into 255 octets, and no other encoding of the name exists. -/
theorem parse_qname_accepts_name_grammar :
    (∀ input name rest, parseQname 128 input = some (name, rest) ↔
      input = serializeQnameLabels name ++ rest ∧ dnsNameLength name ≤ 255) ∧
    (∀ name other rest rest', serializeQnameLabels name ++ rest = serializeQnameLabels other ++ rest' →
      name = other ∧ rest = rest') ∧
    (∀ name rest, dnsNameLength name ≤ 255 → parseQname 128 (serializeQnameLabels name ++ rest) = some (name, rest)) ∧
    (∀ name, dnsNameLength name ≤ 255 → name.length ≤ 127) ∧
    (∃ name : Qname, name.length = 127 ∧ dnsNameLength name = 255) ∧
    ∀ fuel input, 128 ≤ fuel → parseQname fuel input = parseQname 128 input := by
  refine ⟨fun _ _ _ => parseQname_eq_some_iff, fun _ _ _ _ => serializeQnameLabels_append_inj, ?_, ?_, ?_, ?_⟩
  · intro name rest short
    exact parseQname_eq_some_iff.mpr ⟨rfl, short⟩
  · intro name short
    have := length_lt_dnsNameLength name
    omega
  · exact ⟨List.replicate 127 ⟨[97], by decide⟩, List.length_replicate, by decide +kernel⟩
  · intro fuel input enough
    refine Option.ext fun ⟨name, rest⟩ => ?_
    rw [parseQname_eq_some_iff, parseQname, parseQnameBounded_eq_some_iff (by omega)]

theorem parseQname_inverts : Inverts (parseQname 128) (fun _ => True) serializeQnameUncompressed := by
  intro input name rest
  rw [parseQname_eq_some_iff]
  simp only [serializeQnameUncompressed, true_and]
  constructor
  · rintro ⟨bytes, short⟩
    exact ⟨_, if_neg (by omega), bytes⟩
  · rintro ⟨bytes, written, rfl⟩
    split at written
    · cases written
    · cases written
      exact ⟨rfl, by omega⟩

/-- On a name without pointers the compression-aware parser agrees with the plain one,
whatever the message, the known offsets and the limit are. -/
theorem parseQnameCompressedBounded_of_plain {original : List UInt8} {known : List Nat}
    {fuel remaining limit : Nat} {input : List UInt8} {result : Qname × List UInt8}
    (parsed : parseQnameBounded fuel remaining input = some result) :
    parseQnameCompressedBounded original known fuel remaining limit input = some result := by
  obtain ⟨name, rest⟩ := result
  obtain ⟨rfl, short, deep⟩ := parseQnameBounded_sound parsed
  clear parsed
  induction name generalizing fuel remaining with
  | nil =>
    obtain ⟨fuel, rfl⟩ := Nat.exists_eq_succ_of_ne_zero (Nat.ne_of_gt deep)
    simp only [dnsNameLength] at short
    rw [parseQnameCompressedBounded.eq_def]
    simp only [serializeQnameLabels, List.cons_append, List.nil_append, if_true, if_pos short]
  | cons l tl ih =>
    obtain ⟨fuel, rfl⟩ := Nat.exists_eq_succ_of_ne_zero (Nat.ne_of_gt (Nat.zero_lt_of_lt deep))
    have positive := dnsNameLength_pos tl
    simp only [dnsNameLength, List.length_cons] at short deep
    have shape : serializeQnameLabels (l :: tl) ++ rest =
        UInt8.ofNat l.val.length :: (l.val ++ (serializeQnameLabels tl ++ rest)) := by
      simp only [serializeQnameLabels, List.cons_append, List.append_assoc]
    rw [shape, parseQnameCompressedBounded_label, if_neg (by omega), ih (by omega) (by omega)]

theorem parseQnameCompressed_of_plain {original : List UInt8} {limit : Nat} {input : List UInt8}
    {result : Qname × List UInt8} (parsed : parseQname 128 input = some result) :
    parseQnameCompressed 128 original limit input = some result :=
  parseQnameCompressedBounded_of_plain parsed

end Ism
