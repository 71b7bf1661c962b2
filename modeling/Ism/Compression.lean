import Ism.NameOffsets

namespace Ism

open Lib

section Jumps

variable {original : List UInt8} {known : List Nat} {t : NameTrace} {pos limit offset : Nat}

/-- The pointers of a trace lead further and further back. -/
theorem NameTrace.Bounded.descending (bounded : t.Bounded known limit) :
    (limit :: t.jumps.map Jump.target).Pairwise (· > ·) := by
  induction t generalizing limit with
  | root p => exact List.pairwise_singleton _ _
  | label p l next ih => exact ih bounded
  | pointer p target next ih =>
    obtain ⟨-, below, -, later⟩ := bounded
    have chain := ih later
    refine List.pairwise_cons.mpr ⟨?_, chain⟩
    intro further member
    rcases List.mem_cons.mp member with rfl | member
    · exact below
    · exact Nat.lt_trans (List.rel_of_pairwise_cons chain member) below

/-- A trace follows no pointer, or first the one that ends its own field. -/
theorem NameTrace.Bounded.first_jump (bounded : t.Bounded known limit) (reads : t.Reads original pos) :
    t.jumps = [] ∨ ∃ here target next, here ∈ t.starts ∧ t.jumps = ⟨here, target, next⟩ :: next.jumps ∧
      next.Reads original target ∧ 12 ≤ target ∧ target < limit ∧ target ∈ known := by
  induction t generalizing pos with
  | root p => exact .inl rfl
  | label p l next ih =>
    rcases ih bounded reads.2.2 with none | ⟨here, target, after, inside, facts⟩
    · exact .inl none
    · exact .inr ⟨here, target, after, List.mem_cons_of_mem _ inside, facts⟩
  | pointer p target next =>
    obtain ⟨low, below, member, -⟩ := bounded
    exact .inr ⟨p, target, next, List.mem_singleton_self _, rfl, reads.2.2.2, low, below, member⟩

theorem NameTrace.Reads.start_le (reads : t.Reads original pos) (member : offset ∈ t.starts) : pos ≤ offset := by
  induction t generalizing pos with
  | root p =>
    cases List.mem_singleton.mp member
    exact Nat.le_of_eq reads.1.symm
  | pointer p target next =>
    cases List.mem_singleton.mp member
    exact Nat.le_of_eq reads.1.symm
  | label p l next ih =>
    rcases List.mem_cons.mp member with rfl | member
    · exact Nat.le_of_eq reads.1.symm
    · have := ih reads.2.2 member
      omega

end Jumps

namespace Layout

variable {original : List UInt8} {pos offset : Nat} {layout : Layout} {t : NameTrace}

theorem mem_starts_iff : offset ∈ layout.starts ↔ ∃ t ∈ layout.fields, offset ∈ t.starts := by
  simp only [starts, fields, List.mem_flatMap, List.mem_filterMap]
  constructor
  · rintro ⟨segment, inside, member⟩
    cases segment with
    | field t => exact ⟨t, ⟨_, inside, rfl⟩, member⟩
    | gap kind octets => cases member
  · rintro ⟨t, ⟨segment, inside, same⟩, member⟩
    cases segment with
    | field u =>
      cases same
      exact ⟨_, inside, member⟩
    | gap kind octets => cases same

theorem Placed.decodes (placed : layout.Placed original pos) (member : t ∈ layout.fields) :
    t.Decodes original t.start := by
  induction layout generalizing pos with
  | nil => cases member
  | cons segment rest ih =>
    cases segment with
    | field u =>
      rcases List.mem_cons.mp member with rfl | member
      · have here := placed.1
        rw [← here.reads.start_eq] at here
        exact here
      · exact ih placed.2 member
    | gap kind octets => exact ih placed.2 member

end Layout

/-- The pointer of `jump` stands in a field of the message and leads before it, to a
component of an earlier field, and contributes that field's name from there on. -/
def Jump.Resolved (fields : List NameTrace) (jump : Jump) : Prop :=
  12 ≤ jump.target ∧ ∃ holder ∈ fields, jump.pos ∈ holder.starts ∧ jump.target < holder.start ∧
    ∃ earlier ∈ fields, earlier.start < holder.start ∧
      ∃ k, earlier.starts[k]? = some jump.target ∧ jump.next.name = earlier.name.drop k

/-- Every pointer met while decoding any field of a placed layout is resolved. The
induction is on where the field starts: a pointer leads to an earlier field, whose own
pointers are the ones met from there on. -/
theorem Layout.Placed.resolved {original : List UInt8} {layout : Layout} (placed : layout.Placed original 0)
    (offsets : messageNameOffsets original = layout.starts) {field : NameTrace} (member : field ∈ layout.fields) :
    ∀ jump ∈ field.jumps, jump.Resolved layout.fields := by
  induction bound : field.start using Nat.strongRecOn generalizing field with
  | _ start ih =>
    have decodes := placed.decodes member
    rcases decodes.bounded.first_jump decodes.reads with
      none | ⟨here, target, next, inside, jumps, reads, low, below, listed⟩
    · simp [none]
    rw [offsets] at listed
    obtain ⟨earlier, member', contains⟩ := Layout.mem_starts_iff.mp listed
    have decodes' := placed.decodes member'
    obtain ⟨k, found⟩ := List.getElem?_of_mem contains
    obtain ⟨later, readsLater, named, jumped⟩ := decodes'.reads.suffix found
    cases reads.unique readsLater
    have before : earlier.start < field.start := Nat.lt_of_le_of_lt (decodes'.reads.start_le contains) below
    rw [jumps]
    refine List.forall_mem_cons.mpr ⟨?_, ?_⟩
    · exact ⟨low, field, member, inside, below, earlier, member', before, k, found, named⟩
    · rw [jumped]
      exact ih earlier.start (bound ▸ before) member' rfl

section Owners

variable {original : List UInt8}

theorem traceRecord_owner {additionalSection : Bool} {offset : Nat} {input rest : List UInt8}
    {traced : ResourceRecord × Layout}
    (run : traceRecord original additionalSection offset input = some (traced, rest)) :
    ∃ owner ∈ Layout.fields traced.2, owner.name = traced.1.name := by
  unfold traceRecord at run
  split at run
  · cases run
  rename_i rr tail parsed
  split at run
  · cases run
  rename_i owner after found
  split at run
  · cases run
  cases run
  obtain ⟨t, again, same⟩ := traceQnameCompressed_erases offset (parseRecordWith_eq_some_iff.mp parsed).owned
  rw [found] at again
  cases again
  exact ⟨owner, List.mem_cons_self, same⟩

theorem fields_mem_of_section {records : List (ResourceRecord × Layout)}
    (each : ∀ traced ∈ records, ∃ owner ∈ Layout.fields traced.2, owner.name = traced.1.name)
    {rr : ResourceRecord} (member : rr ∈ records.map Prod.fst) :
    ∃ owner ∈ Layout.fields (records.flatMap Prod.snd), owner.name = rr.name := by
  obtain ⟨traced, inside, rfl⟩ := List.mem_map.mp member
  obtain ⟨owner, here, same⟩ := each traced inside
  refine ⟨owner, ?_, same⟩
  obtain ⟨segment, inLayout, isField⟩ := List.mem_filterMap.mp here
  exact List.mem_filterMap.mpr ⟨segment, List.mem_flatMap.mpr ⟨traced, inside, inLayout⟩, isField⟩

/-- The owner name of every record is the name of a field of the layout. -/
theorem tracePacketBytes_owners {p : DnsPacket} {layout : Layout}
    (run : tracePacketBytes original = some (p, layout)) :
    ∀ rr ∈ p.answers ++ p.authorities ++ p.additionals, ∃ owner ∈ layout.fields, owner.name = rr.name := by
  unfold tracePacketBytes at run
  split at run
  · cases run
  simp only at run
  split at run
  · cases run
  split at run
  · cases run
  rename_i answers afterAnswers answered
  split at run
  · cases run
  rename_i authorities afterAuthorities authorized
  split at run
  · cases run
  rename_i additionals tail added
  split at run
  swap
  · cases run
  cases run
  have owned {additionalSection : Bool} {offset fuel count : Nat} {input tail : List UInt8}
      {records : List (ResourceRecord × Layout)}
      (read : readCountedAt (traceRecord original additionalSection) offset fuel count input = some (records, tail)) :
      ∀ traced ∈ records, ∃ owner ∈ Layout.fields traced.2, owner.name = traced.1.name :=
    readCountedAt_forall (fun _ _ _ _ => traceRecord_owner) read
  intro rr member
  simp only [Layout.fields, List.filterMap_cons, Segment.nameField, List.filterMap_append, List.mem_append] at member ⊢
  rcases member with (inAnswers | inAuthorities) | inAdditionals
  · obtain ⟨owner, here, same⟩ := fields_mem_of_section (owned answered) inAnswers
    exact ⟨owner, .inr (.inl here), same⟩
  · obtain ⟨owner, here, same⟩ := fields_mem_of_section (owned authorized) inAuthorities
    exact ⟨owner, .inr (.inr (.inl here)), same⟩
  · obtain ⟨owner, here, same⟩ := fields_mem_of_section (owned added) inAdditionals
    exact ⟨owner, .inr (.inr (.inr here)), same⟩

end Owners

/-- Decompression in an accepted message. Every name field decodes, from its own start,
to a name of at most 255 octets; the targets along its pointers descend from its start;
and every pointer met is resolved to a component of an earlier field. -/
theorem name_decompression {b : List UInt8} {p : DnsPacket} (parsed : parseDnsPacketBytes b = some p) :
    ∃ layout, tracePacketBytes b = some (p, layout) ∧
      (∀ rr ∈ p.answers ++ p.authorities ++ p.additionals, ∃ owner ∈ layout.fields, owner.name = rr.name) ∧
      ∀ field ∈ layout.fields,
        (∃ rest, parseQnameCompressed 128 b field.start (b.drop field.start) = some (field.name, rest)) ∧
        dnsNameLength field.name ≤ 255 ∧
        (field.start :: field.jumps.map Jump.target).Pairwise (· > ·) ∧
        ∀ jump ∈ field.jumps, jump.Resolved layout.fields := by
  obtain ⟨layout, traced⟩ := tracePacketBytes_erases parsed
  obtain ⟨-, placed, scanned, -⟩ := tracePacketBytes_walk traced
  have offsets : messageNameOffsets b = layout.starts := by rw [messageNameOffsets, scanned]
  refine ⟨layout, traced, tracePacketBytes_owners traced, ?_⟩
  intro field member
  have decodes := placed.decodes member
  exact ⟨decodes.parsed, decodes.short, decodes.bounded.descending, placed.resolved offsets member⟩

/-- An owner pointer to the question name, and an MX exchange that ends in a pointer to
the owner field. -/
theorem name_decompression_chained_exchange :
    let b := [0, 0, 1, 0, 0, 1, 0, 1, 0, 0, 0, 0, 1, 97, 0, 0, 1, 0, 1,
      192, 12, 0, 15, 0, 1, 0, 0, 0, 60, 0, 6, 0, 10, 1, 98, 192, 19]
    (parseDnsPacketBytes b).isSome = true ∧
      ∃ p layout, tracePacketBytes b = some (p, layout) ∧ layout.fields.length = 3 ∧
        ∀ field ∈ layout.fields, ∀ jump ∈ field.jumps, jump.Resolved layout.fields := by
  intro b
  have accepted : (parseDnsPacketBytes b).isSome = true := by decide
  have fields : (tracePacketBytes b).map (fun traced => traced.2.fields.length) = some 3 := by decide
  obtain ⟨p, parsed⟩ := Option.isSome_iff_exists.mp accepted
  obtain ⟨layout, traced, -, each⟩ := name_decompression parsed
  rw [traced] at fields
  exact ⟨accepted, p, layout, traced, Option.some.inj fields, fun field member => (each field member).2.2.2⟩

end Ism
