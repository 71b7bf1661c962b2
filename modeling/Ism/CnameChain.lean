import Ism.Lib.Runs
import Ism.Zone

namespace Ism

open Lib

/-- The first record that is a CNAME, if there is one. -/
def firstCname (records : List ResourceRecord) : Option ResourceRecord :=
  records.find? fun rr => decide (rr.rtype = .CNAME)

/-- The name is found, and its first CNAME is the plain encoding of the next name and nothing else. -/
def CnameLink (root : TreeNode) (name next : Qname) : Prop :=
  ∃ rrs rr, lookupDnsName root name = some rrs ∧ firstCname rrs = some rr ∧ parseQname 128 rr.rdata = some (next, [])

/-- The name is found, but the target of its first CNAME cannot be decoded. -/
def BrokenCname (root : TreeNode) (name : Qname) : Prop :=
  ∃ rrs rr, lookupDnsName root name = some rrs ∧ firstCname rrs = some rr ∧
    ∀ next, parseQname 128 rr.rdata ≠ some (next, [])

theorem parseCnameTargetBytes_eq_some_iff {input : List UInt8} {target : Qname} :
    parseCnameTargetBytes input = some target ↔ parseQname 128 input = some (target, []) := by
  rw [parseCnameTargetBytes]
  split
  · rename_i found parsed
    simp [parsed]
  · rename_i other
    constructor
    · intro no
      cases no
    · intro parsed
      exact (other target parsed).elim

/-- Only the first CNAME decides what a list of records points to. -/
theorem findCnameTarget_eq (records : List ResourceRecord) :
    findCnameTarget records =
      match firstCname records with
      | none => .noCname
      | some rr =>
        match parseCnameTarget rr with
        | some target => .cnameTarget target
        | none => .malformedCname := by
  induction records with
  | nil => rfl
  | cons rr rest ih =>
    by_cases aliased : rr.rtype = .CNAME
    · have first : firstCname (rr :: rest) = some rr := List.find?_cons_of_pos (decide_eq_true aliased)
      rw [first]
      exact if_pos aliased
    · have later : firstCname (rr :: rest) = firstCname rest :=
        List.find?_cons_of_neg (Bool.eq_false_iff.mp (decide_eq_false aliased))
      rw [later, ← ih]
      exact if_neg aliased

section Chase

variable {root : TreeNode} {name next last : Qname} {rrs : List ResourceRecord} {k hops : Nat}

theorem chaseCname_of_link (link : CnameLink root name next) :
    chaseCname root name (hops + 1) = chaseCname root next hops := by
  obtain ⟨rrs, rr, found, first, decoded⟩ := link
  have target : parseCnameTarget rr = some next := parseCnameTargetBytes_eq_some_iff.mpr decoded
  rw [chaseCname]
  simp only [found, findCnameTarget_eq, first, target]

theorem chaseCname_of_broken (broken : BrokenCname root name) : chaseCname root name (hops + 1) = .error .servFail := by
  obtain ⟨rrs, rr, found, first, undecodable⟩ := broken
  have target : parseCnameTarget rr = none :=
    Option.eq_none_iff_forall_ne_some.mpr fun next decoded =>
      undecodable next (parseCnameTargetBytes_eq_some_iff.mp decoded)
  rw [chaseCname]
  simp only [found, findCnameTarget_eq, first, target]

theorem chaseCname_of_missing (missing : lookupDnsName root name = none) :
    chaseCname root name (hops + 1) = .error .nxDomain := by
  rw [chaseCname]
  simp only [missing]

theorem chaseCname_of_answer (found : lookupDnsName root name = some rrs) (plain : firstCname rrs = none) :
    chaseCname root name (hops + 1) = .success rrs := by
  rw [chaseCname]
  simp only [found, findCnameTarget_eq, plain]

/-- A chain of `k` links costs `k` hops. -/
theorem chaseCname_of_linked (chain : Linked (CnameLink root) k name last) :
    chaseCname root name (hops + k) = chaseCname root last hops := by
  induction chain with
  | here => rfl
  | next first rest ih =>
    rw [← ih]
    exact chaseCname_of_link first

/-- What can become of a name: it points on, it cannot be decoded, it is missing, or it answers. -/
theorem cname_cases (root : TreeNode) (name : Qname) :
    (∃ next, CnameLink root name next) ∨ BrokenCname root name ∨ lookupDnsName root name = none ∨
      ∃ rrs, lookupDnsName root name = some rrs ∧ firstCname rrs = none := by
  cases found : lookupDnsName root name with
  | none => exact Or.inr (Or.inr (Or.inl rfl))
  | some rrs =>
    cases first : firstCname rrs with
    | none => exact Or.inr (Or.inr (Or.inr ⟨rrs, rfl, first⟩))
    | some rr =>
      by_cases decodes : ∃ next, parseQname 128 rr.rdata = some (next, [])
      · obtain ⟨next, decoded⟩ := decodes
        exact Or.inl ⟨next, rrs, rr, found, first, decoded⟩
      · exact Or.inr (Or.inl ⟨rrs, rr, found, first, fun next decoded => decodes ⟨next, decoded⟩⟩)

/-- Every chase follows a chain to its end, or uses up its hops on the way. -/
theorem chaseCname_cases (root : TreeNode) (name : Qname) (hops : Nat) :
    (∃ last, Linked (CnameLink root) hops name last ∧ chaseCname root name hops = .error .servFail) ∨
    ∃ k last, k < hops ∧ Linked (CnameLink root) k name last ∧
      ((BrokenCname root last ∧ chaseCname root name hops = .error .servFail) ∨
        (lookupDnsName root last = none ∧ chaseCname root name hops = .error .nxDomain) ∨
        ∃ rrs, lookupDnsName root last = some rrs ∧ firstCname rrs = none ∧
          chaseCname root name hops = .success rrs) := by
  induction hops generalizing name with
  | zero => exact Or.inl ⟨name, .here name, rfl⟩
  | succ hops ih =>
    rcases cname_cases root name with ⟨next, link⟩ | broken | missing | ⟨rrs, found, plain⟩
    · rw [chaseCname_of_link link]
      rcases ih next with ⟨last, chain, used⟩ | ⟨k, last, short, chain, ends⟩
      · exact Or.inl ⟨last, .next link chain, used⟩
      · exact Or.inr ⟨k + 1, last, by omega, .next link chain, ends⟩
    · exact Or.inr ⟨0, name, by omega, .here name, Or.inl ⟨broken, chaseCname_of_broken broken⟩⟩
    · exact Or.inr ⟨0, name, by omega, .here name, Or.inr (Or.inl ⟨missing, chaseCname_of_missing missing⟩)⟩
    · exact Or.inr ⟨0, name, by omega, .here name,
        Or.inr (Or.inr ⟨rrs, found, plain, chaseCname_of_answer found plain⟩)⟩

end Chase

/-- The records of `rrs` that a question asks for, in their order. -/
def askedFor (q : Question) (rrs : List ResourceRecord) : List ResourceRecord :=
  rrs.filter fun rr => decide (rr.rtype = q.qtype ∧ rr.rclass = q.qclass)

theorem filterQuestionRecords_eq (q : Question) (rrs : List ResourceRecord) :
    filterQuestionRecords q rrs = askedFor q rrs := by
  simp only [filterQuestionRecords, askedFor, Bool.decide_and]
  rfl

theorem firstCname_eq_none_iff {rrs : List ResourceRecord} : firstCname rrs = none ↔ ∀ rr ∈ rrs, rr.rtype ≠ .CNAME := by
  simp [firstCname]

section Resolve

variable {root : TreeNode} {q : Question} {last : Qname} {rrs : List ResourceRecord} {k : Nat}

theorem resolve_of_answer (chain : Linked (CnameLink root) k q.qname last) (short : k ≤ 14)
    (found : lookupDnsName root last = some rrs) (plain : firstCname rrs = none) :
    resolveAuthoritativeQuestion root q = .success (askedFor q rrs) := by
  obtain ⟨left, hops⟩ : ∃ left, 15 = left + 1 + k := ⟨14 - k, by omega⟩
  rw [resolveAuthoritativeQuestion, hops, chaseCname_of_linked chain, chaseCname_of_answer found plain,
    ← filterQuestionRecords_eq]

theorem resolve_of_missing (chain : Linked (CnameLink root) k q.qname last) (short : k ≤ 14)
    (missing : lookupDnsName root last = none) : resolveAuthoritativeQuestion root q = .error .nxDomain := by
  obtain ⟨left, hops⟩ : ∃ left, 15 = left + 1 + k := ⟨14 - k, by omega⟩
  rw [resolveAuthoritativeQuestion, hops, chaseCname_of_linked chain, chaseCname_of_missing missing]

theorem resolve_of_broken (chain : Linked (CnameLink root) k q.qname last) (short : k ≤ 14)
    (broken : BrokenCname root last) : resolveAuthoritativeQuestion root q = .error .servFail := by
  obtain ⟨left, hops⟩ : ∃ left, 15 = left + 1 + k := ⟨14 - k, by omega⟩
  rw [resolveAuthoritativeQuestion, hops, chaseCname_of_linked chain, chaseCname_of_broken broken]

/-- The first fifteen links of a long chain use up the hops. -/
theorem resolve_of_long (chain : Linked (CnameLink root) k q.qname last) (long : 15 ≤ k) :
    resolveAuthoritativeQuestion root q = .error .servFail := by
  obtain ⟨left, rfl⟩ := Nat.exists_eq_add_of_le' long
  obtain ⟨middle, front, -⟩ := chain.split
  rw [resolveAuthoritativeQuestion, show (15 : Nat) = 0 + 15 from rfl, chaseCname_of_linked front, chaseCname]

end Resolve

/-- What an authoritative question resolves to, in terms of the chain of CNAMEs that starts at its name. -/
theorem authoritative_cname_semantics (root : TreeNode) (q : Question) :
    (∀ rs, resolveAuthoritativeQuestion root q = .success rs ↔
      ∃ k last rrs, k ≤ 14 ∧ Linked (CnameLink root) k q.qname last ∧ lookupDnsName root last = some rrs ∧
        (∀ rr ∈ rrs, rr.rtype ≠ .CNAME) ∧ rs = askedFor q rrs) ∧
    (resolveAuthoritativeQuestion root q = .error .nxDomain ↔
      ∃ k last, k ≤ 14 ∧ Linked (CnameLink root) k q.qname last ∧ lookupDnsName root last = none) ∧
    (resolveAuthoritativeQuestion root q = .error .servFail ↔
      ¬ ∃ k last, k ≤ 14 ∧ Linked (CnameLink root) k q.qname last ∧
        (lookupDnsName root last = none ∨
          ∃ rrs, lookupDnsName root last = some rrs ∧ ∀ rr ∈ rrs, rr.rtype ≠ .CNAME)) ∧
    (∀ j k last, Linked (CnameLink root) j q.qname last → Linked (CnameLink root) (k + 1) last last →
      resolveAuthoritativeQuestion root q = .error .servFail) ∧
    (∀ k last, k ≤ 14 → Linked (CnameLink root) k q.qname last → BrokenCname root last →
      resolveAuthoritativeQuestion root q = .error .servFail) ∧
    ∀ k last, 15 ≤ k → Linked (CnameLink root) k q.qname last →
      resolveAuthoritativeQuestion root q = .error .servFail := by
  have outcomes : (resolveAuthoritativeQuestion root q = .error .servFail) ∨ ∃ k last, k ≤ 14 ∧
      Linked (CnameLink root) k q.qname last ∧
        ((lookupDnsName root last = none ∧ resolveAuthoritativeQuestion root q = .error .nxDomain) ∨
          ∃ rrs, lookupDnsName root last = some rrs ∧ firstCname rrs = none ∧
            resolveAuthoritativeQuestion root q = .success (askedFor q rrs)) := by
    rcases chaseCname_cases root q.qname 15 with ⟨last, chain, -⟩ | ⟨k, last, short, chain, ends⟩
    · exact Or.inl (resolve_of_long chain (Nat.le_refl 15))
    · rcases ends with ⟨broken, -⟩ | ⟨missing, -⟩ | ⟨rrs, found, plain, -⟩
      · exact Or.inl (resolve_of_broken chain (by omega) broken)
      · exact Or.inr ⟨k, last, by omega, chain, Or.inl ⟨missing, resolve_of_missing chain (by omega) missing⟩⟩
      · exact Or.inr ⟨k, last, by omega, chain,
          Or.inr ⟨rrs, found, plain, resolve_of_answer chain (by omega) found plain⟩⟩
  refine ⟨?_, ?_, ?_, ?_, ?_, ?_⟩
  · intro rs
    constructor
    · intro answered
      rcases outcomes with failed | ⟨k, last, short, chain, ⟨-, missing⟩ | ⟨rrs, found, plain, resolved⟩⟩
      · rw [failed] at answered
        cases answered
      · rw [missing] at answered
        cases answered
      · rw [resolved] at answered
        cases answered
        exact ⟨k, last, rrs, short, chain, found, firstCname_eq_none_iff.mp plain, rfl⟩
    · rintro ⟨k, last, rrs, short, chain, found, plain, rfl⟩
      exact resolve_of_answer chain short found (firstCname_eq_none_iff.mpr plain)
  · constructor
    · intro missed
      rcases outcomes with failed | ⟨k, last, short, chain, ⟨missing, -⟩ | ⟨rrs, -, -, resolved⟩⟩
      · rw [failed] at missed
        cases missed
      · exact ⟨k, last, short, chain, missing⟩
      · rw [resolved] at missed
        cases missed
    · rintro ⟨k, last, short, chain, missing⟩
      exact resolve_of_missing chain short missing
  · constructor
    · rintro failed ⟨k, last, short, chain, missing | ⟨rrs, found, plain⟩⟩
      · rw [resolve_of_missing chain short missing] at failed
        cases failed
      · rw [resolve_of_answer chain short found (firstCname_eq_none_iff.mpr plain)] at failed
        cases failed
    · intro other
      rcases outcomes with failed | ⟨k, last, short, chain, ⟨missing, -⟩ | ⟨rrs, found, plain, -⟩⟩
      · exact failed
      · exact (other ⟨k, last, short, chain, Or.inl missing⟩).elim
      · exact (other ⟨k, last, short, chain, Or.inr ⟨rrs, found, firstCname_eq_none_iff.mp plain⟩⟩).elim
  · intro j k last chain cycle
    obtain ⟨m, long, around⟩ := cycle.cycle_unbounded 15
    exact resolve_of_long (chain.append around) (by omega)
  · intro k last short chain broken
    exact resolve_of_broken chain short broken
  · intro k last long chain
    exact resolve_of_long chain long

end Ism
