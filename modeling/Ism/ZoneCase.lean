import Mathlib.Data.List.Forall2
import Ism.Authority

namespace Ism

theorem foldAscii_idem (b : UInt8) : foldAscii (foldAscii b) = foldAscii b := by
  by_cases letter : 65 ≤ b.toNat ∧ b.toNat ≤ 90
  · have lower : foldAscii b = UInt8.ofNat (b.toNat + 32) := if_pos letter
    have value : (UInt8.ofNat (b.toNat + 32)).toNat = b.toNat + 32 := Lib.toNat_ofNat_of_lt (by omega)
    rw [lower, foldAscii, value, if_neg (by omega)]
  · have same : foldAscii b = b := if_neg letter
    rw [same, same]

theorem canonicalLabel_idem (l : Label) : canonicalLabel (canonicalLabel l) = canonicalLabel l := by
  refine Subtype.ext ?_
  simp only [canonicalLabel, canonicalBytes, List.map_map]
  exact List.map_congr_left fun b _ => foldAscii_idem b

/-- The tree with all letters of its labels in lower case. Two trees differ only in the case
of letters if they have the same canonical tree. -/
def TreeNode.canonical : TreeNode → TreeNode
  | .node label records children => .node (canonicalLabel label) records (children.map canonical)

@[simp] theorem TreeNode.canonical_label (t : TreeNode) : t.canonical.label = canonicalLabel t.label := by
  cases t
  rw [canonical, label, label]

@[simp] theorem TreeNode.canonical_records (t : TreeNode) : t.canonical.records = t.records := by
  cases t
  rw [canonical, records, records]

@[simp] theorem TreeNode.canonical_children (t : TreeNode) : t.canonical.children = t.children.map canonical := by
  cases t
  rw [canonical, children, children]

/-- Looking for a child folds both sides, so it finds the same one in the canonical tree. -/
theorem findChild_canonical (children : List TreeNode) {l l' : Label} (same : canonicalLabel l = canonicalLabel l') :
    findChild (children.map TreeNode.canonical) l' = (findChild children l).map TreeNode.canonical := by
  rw [findChild, findChild, List.find?_map]
  have fold : ((fun child : TreeNode => labelEq child.label l') ∘ TreeNode.canonical) =
      fun child => labelEq child.label l := by
    funext child
    simp only [Function.comp, labelEq, TreeNode.canonical_label, canonicalLabel_idem, same]
  rw [fold]

theorem lookupWithWildcard_canonical (root : TreeNode) {query query' : Qname}
    (same : canonicalName query = canonicalName query') :
    lookupWithWildcard root.canonical query' = lookupWithWildcard root query := by
  induction query generalizing root query' with
  | nil =>
    obtain rfl : query' = [] := List.map_eq_nil_iff.mp same.symm
    simp only [lookupWithWildcard, TreeNode.canonical_records]
  | cons hd tl ih =>
    obtain ⟨hd', tl', rfl, head, tail⟩ := List.map_eq_cons_iff.mp same.symm
    simp only [lookupWithWildcard, TreeNode.canonical_children, findChild_canonical root.children head.symm,
      findChild_canonical root.children (rfl : canonicalLabel wildcardLabel = canonicalLabel wildcardLabel)]
    cases findChild root.children hd with
    | some child => exact ih child tail.symm
    | none =>
      cases findChild root.children wildcardLabel with
      | some wildcard => exact ih wildcard tail.symm
      | none => rfl

theorem lookupDnsName_canonical (root : TreeNode) {name name' : Qname}
    (same : canonicalName name = canonicalName name') :
    lookupDnsName root.canonical name' = lookupDnsName root name := by
  refine lookupWithWildcard_canonical root ?_
  simp only [canonicalName] at same
  simp only [nameToTreeKey, canonicalName, List.map_reverse, same]

/-- The targets of CNAMEs are taken from the records, which are the same in both trees. -/
theorem chaseCname_canonical (root : TreeNode) {name name' : Qname} (hops : Nat)
    (same : canonicalName name = canonicalName name') :
    chaseCname root.canonical name' hops = chaseCname root name hops := by
  induction hops generalizing name name' with
  | zero => rfl
  | succ hops ih =>
    rw [chaseCname, chaseCname, lookupDnsName_canonical root same]
    cases lookupDnsName root name with
    | none => rfl
    | some rrs =>
      cases target : findCnameTarget rrs with
      | noCname => simp only [target]
      | malformedCname => simp only [target]
      | cnameTarget next =>
        simp only [target]
        exact ih rfl

/-- Two questions that are spelled differently at most. -/
def Question.SameButCase (q q' : Question) : Prop :=
  qnameEq q.qname q'.qname = true ∧ q.qtype = q'.qtype ∧ q.qclass = q'.qclass

/-- Two packets whose question names are spelled differently at most. -/
structure DnsPacket.SameButCase (r r' : DnsPacket) : Prop where
  header : r.header = r'.header
  questions : List.Forall₂ Question.SameButCase r.questions r'.questions
  answers : r.answers = r'.answers
  authorities : r.authorities = r'.authorities
  additionals : r.additionals = r'.additionals

theorem Question.SameButCase.resolve {q q' : Question} (same : q.SameButCase q') (root : TreeNode) :
    resolveAuthoritativeQuestion root.canonical q' = resolveAuthoritativeQuestion root q := by
  obtain ⟨name, qtype, qclass⟩ := same
  have asked : rrMatchesQuestion q' = rrMatchesQuestion q := by
    funext rr
    simp only [rrMatchesQuestion, qtype, qclass]
  rw [resolveAuthoritativeQuestion, resolveAuthoritativeQuestion, chaseCname_canonical root 15 (qnameEq_iff.mp name)]
  simp only [filterQuestionRecords, asked]

theorem DnsPacket.SameButCase.resolve {r r' : DnsPacket} (same : r.SameButCase r') (root : TreeNode) :
    resolveAuthoritativeRequest root.canonical r' = resolveAuthoritativeRequest root r := by
  have questions := same.questions
  rw [resolveAuthoritativeRequest, resolveAuthoritativeRequest]
  revert questions
  generalize r.questions = asked
  generalize r'.questions = asked'
  rintro (_ | ⟨first, -⟩)
  · rfl
  · exact first.resolve root

theorem buildResultResponsePacket_questions {request response : DnsPacket} {result : DnsResult}
    (built : buildResultResponsePacket request result = some response) : response.questions = request.questions := by
  rw [buildResultResponsePacket_eq] at built
  split at built
  · cases built
  · cases built
    rfl

/-- A response takes from its request the ID, the flags, the number of questions and the questions. -/
theorem buildResultResponsePacket_respelled {r r' : DnsPacket} (header : r.header = r'.header)
    (count : r.questions.length = r'.questions.length) (result : DnsResult) :
    buildResultResponsePacket r' result =
      (buildResultResponsePacket r result).map fun response => { response with questions := r'.questions } := by
  rw [buildResultResponsePacket_eq, buildResultResponsePacket_eq, count]
  split
  · rfl
  · simp only [Option.map_some, resultResponse, header, count]

/-- The spelling of the zone and of the question names changes neither the result nor the
response, except that every response repeats the questions as they were asked. -/
theorem authority_ignores_case (t t' : TreeNode) (zones : t.canonical = t'.canonical) (r r' : DnsPacket)
    (requests : r.SameButCase r') :
    resolveAuthoritativeRequest t r = resolveAuthoritativeRequest t' r' ∧
    buildAuthoritativeResponsePacket t' r' =
      (buildAuthoritativeResponsePacket t r).map (fun response => { response with questions := r'.questions }) ∧
    (∀ response, buildAuthoritativeResponsePacket t r = some response → response.questions = r.questions) ∧
    ∀ response, buildAuthoritativeResponsePacket t' r' = some response → response.questions = r'.questions := by
  have itself : r'.SameButCase r' :=
    ⟨rfl, List.forall₂_same.mpr fun q _ => ⟨qnameEq_iff.mpr rfl, rfl, rfl⟩, rfl, rfl, rfl⟩
  have resolved : resolveAuthoritativeRequest t r = resolveAuthoritativeRequest t' r' := by
    rw [← requests.resolve t, ← itself.resolve t', zones]
  refine ⟨resolved, ?_, fun _ => buildResultResponsePacket_questions, fun _ => buildResultResponsePacket_questions⟩
  rw [buildAuthoritativeResponsePacket, buildAuthoritativeResponsePacket, resolved]
  exact buildResultResponsePacket_respelled requests.header requests.questions.length_eq _

/-- A zone with one name of one label. -/
def singleNameZone (l : Label) : TreeNode :=
  .node ⟨[122], by decide⟩ []
    [.node l [{ name := [], rtype := .A, rclass := 1, ttl := 60, rdlen := 4, rdata := [192, 0, 2, 1] }] []]

def singleNameRequest (l : Label) : DnsPacket where
  header := { id := 0, flags := uint16ToFlags 0x0100, qdcount := 1, ancount := 0, nscount := 0, arcount := 0 }
  questions := [{ qname := [l], qtype := .A, qclass := 1 }]
  answers := []
  authorities := []
  additionals := []

/-- The name `a` is found in the zone of `A`, and the name `A` in the zone of `a`. -/
theorem authority_ignores_case_letter :
    (resolveAuthoritativeRequest (singleNameZone ⟨[97], by decide⟩)
      (singleNameRequest ⟨[65], by decide⟩)).answers ≠ [] ∧
    (resolveAuthoritativeRequest (singleNameZone ⟨[65], by decide⟩)
      (singleNameRequest ⟨[97], by decide⟩)).answers ≠ [] := by
  have zones : (singleNameZone ⟨[97], by decide⟩).canonical = (singleNameZone ⟨[65], by decide⟩).canonical := by
    simp only [singleNameZone, TreeNode.canonical, List.map_cons, List.map_nil]
    rfl
  have requests : (singleNameRequest ⟨[65], by decide⟩).SameButCase (singleNameRequest ⟨[97], by decide⟩) :=
    ⟨rfl, .cons ⟨by decide, rfl, rfl⟩ .nil, rfl, rfl, rfl⟩
  have answered : (resolveAuthoritativeRequest (singleNameZone ⟨[97], by decide⟩)
      (singleNameRequest ⟨[65], by decide⟩)).answers ≠ [] := by decide +kernel
  refine ⟨answered, ?_⟩
  rw [← (authority_ignores_case _ _ zones _ _ requests).1]
  exact answered

end Ism
