import Ism.PacketCodec
import Ism.Zone

namespace Ism

open Lib

/-- A property of the records of every node of a tree. -/
inductive TreeNode.Every (holds : List ResourceRecord → Prop) : TreeNode → Prop
  | node {label : Label} {records : List ResourceRecord} {children : List TreeNode} (here : holds records)
    (below : ∀ child ∈ children, TreeNode.Every holds child) : TreeNode.Every holds (.node label records children)

section Lookup

variable {holds : List ResourceRecord → Prop} {root : TreeNode}

theorem findChild_mem {children : List TreeNode} {l : Label} {child : TreeNode}
    (found : findChild children l = some child) : child ∈ children :=
  List.mem_of_find?_eq_some found

theorem TreeNode.Every.lookup (every : root.Every holds) {query : Qname} {rrs : List ResourceRecord}
    (found : lookupWithWildcard root query = some rrs) : holds rrs := by
  induction query generalizing root with
  | nil =>
    obtain ⟨here, -⟩ := every
    cases found
    exact here
  | cons hd tl ih =>
    obtain ⟨-, below⟩ := every
    rw [lookupWithWildcard] at found
    split at found
    · rename_i child matched
      exact ih (below child (findChild_mem matched)) found
    · split at found
      · rename_i wildcard starred
        exact ih (below wildcard (findChild_mem starred)) found
      · cases found

theorem TreeNode.Every.chase (every : root.Every holds) {target : Qname} {hops : Nat} {rrs : List ResourceRecord}
    (found : chaseCname root target hops = .success rrs) : holds rrs := by
  induction hops generalizing target with
  | zero => cases found
  | succ hops ih =>
    rw [chaseCname] at found
    split at found
    · rename_i records looked
      split at found
      · cases found
        exact every.lookup looked
      · exact ih found
      · cases found
    · cases found

end Lookup

/-- The records of a node can all be put into one answer section. -/
def Servable (records : List ResourceRecord) : Prop :=
  records.length ≤ 65535 ∧ ∀ rr ∈ records, wellFormedRecord rr = true ∧ rr.rtype ≠ .OPT

/-- The code and the answers that a result stands for. -/
def DnsResult.rcode : DnsResult → Rcode
  | success _ => .noError
  | error rcode => rcode

def DnsResult.answers : DnsResult → List ResourceRecord
  | success records => records
  | error _ => []

theorem Servable.filter {records : List ResourceRecord} (servable : Servable records) (q : Question) :
    Servable (filterQuestionRecords q records) :=
  ⟨Nat.le_trans (List.length_filter_le _ _) servable.1, fun rr member => servable.2 rr (List.mem_filter.mp member).1⟩

theorem TreeNode.Every.resolve {root : TreeNode} (every : root.Every Servable) (request : DnsPacket) :
    Servable (resolveAuthoritativeRequest root request).answers := by
  have nothing : Servable [] := ⟨Nat.zero_le _, by simp⟩
  rw [resolveAuthoritativeRequest]
  split
  · exact nothing
  · rename_i q _ _
    rw [resolveAuthoritativeQuestion]
    split
    · rename_i records found
      exact (every.chase found).filter q
    · exact nothing

/-- The packet that carries a result back, as long as the counts fit into its header. -/
def resultResponse (request : DnsPacket) (result : DnsResult) : DnsPacket where
  header :=
    { id := request.header.id
      flags := responseFlagsFromRequest request.header result.rcode
      qdcount := UInt16.ofNat request.questions.length
      ancount := UInt16.ofNat result.answers.length
      nscount := 0
      arcount := 0 }
  questions := request.questions
  answers := result.answers
  authorities := []
  additionals := []

theorem buildResultResponsePacket_eq (request : DnsPacket) (result : DnsResult) :
    buildResultResponsePacket request result =
      if 65535 < request.questions.length ∨ 65535 < result.answers.length then none
      else some (resultResponse request result) := by
  rw [ite_or]
  cases result <;> rfl

/-- Whatever the result, the response packet can be encoded. -/
theorem buildResultResponsePacket_encodable {request : DnsPacket} {result : DnsResult}
    (few : request.questions.length ≤ 65535)
    (asked : ∀ q ∈ request.questions, dnsNameLength q.qname ≤ 255 ∧ u16ToQtype (qtypeToU16 q.qtype) = q.qtype)
    (servable : Servable result.answers) :
    ∃ response, buildResultResponsePacket request result = some response ∧ Encodable response ∧
      response.header.id = request.header.id ∧
      response.header.flags = responseFlagsFromRequest request.header result.rcode ∧
      response.questions = request.questions ∧ response.answers = result.answers ∧ response.authorities = [] ∧
      response.additionals = [] := by
  have shape : buildResultResponsePacket request result = some (resultResponse request result) := by
    have counts := servable.1
    rw [buildResultResponsePacket_eq, if_neg (by omega)]
  refine ⟨_, shape, ?_, rfl, rfl, rfl, rfl, rfl, rfl⟩
  refine ⟨⟨?_, ?_, rfl, rfl⟩, asked, ?_, ?_, by simp [resultResponse]⟩
  · exact UInt16.toNat_ofNat_of_lt' (Nat.lt_succ_of_le few)
  · exact UInt16.toNat_ofNat_of_lt' (Nat.lt_succ_of_le servable.1)
  · intro rr member
    simp only [resultResponse, List.append_nil] at member
    exact (servable.2 rr member).1
  · intro rr member
    simp only [resultResponse, List.append_nil] at member
    exact (servable.2 rr member).2

/-- The worker answers every request that the parser accepts, with what the zone says about it. -/
theorem worker_answers_every_request (root : TreeNode) (every : root.Every Servable) (b : List UInt8)
    (request : DnsPacket) (parsed : parseDnsPacketBytes b = some request) :
    ∃ bytes response, buildWorkerResponseBytes root request = some bytes ∧ parseDnsPacketBytes bytes = some response ∧
      response.header.id = request.header.id ∧ response.header.flags.qr = true ∧
      response.header.flags.opcode = request.header.flags.opcode ∧
      response.header.flags.rd = request.header.flags.rd ∧ response.header.flags.cd = request.header.flags.cd ∧
      response.questions = request.questions ∧ response.authorities = [] ∧ response.additionals = [] ∧
      response.header.flags.rcode = rcodeToU4 (resolveAuthoritativeRequest root request).rcode ∧
      response.answers = (resolveAuthoritativeRequest root request).answers := by
  obtain ⟨few, asked⟩ := parseDnsPacketBytes_questions parsed
  obtain ⟨response, built, encodable, id, flags, questions, answers, authorities, additionals⟩ :=
    buildResultResponsePacket_encodable few asked (every.resolve request)
  obtain ⟨bytes, written⟩ := Option.isSome_iff_exists.mp ((serializeDnsPacketBytes_isSome_iff response).mpr encodable)
  have back : parseDnsPacketBytes bytes = some response :=
    parseDnsPacketBytes_of_plain (serializeDnsPacketBytes_iff_plain.mp written)
  refine ⟨bytes, response, ?_, back, id, ?_⟩
  · rw [buildWorkerResponseBytes, buildAuthoritativeResponsePacket, built]
    exact written
  · rw [flags]
    exact ⟨rfl, rfl, rfl, rfl, questions, authorities, additionals, rfl, answers⟩

/-- A zone where every name has one address. -/
def starredZone : TreeNode :=
  .node ⟨[90], by decide⟩ []
    [.node wildcardLabel
      [{ name := [⟨[97], by decide⟩], rtype := .A, rclass := 1, ttl := 60, rdlen := 4, rdata := [192, 0, 2, 1] }] []]

theorem starredZone_every : starredZone.Every Servable := by
  refine .node ⟨Nat.zero_le _, by simp⟩ fun child member => ?_
  obtain rfl := List.mem_singleton.mp member
  refine .node ⟨by decide, fun rr member => ?_⟩ (by simp)
  obtain rfl := List.mem_singleton.mp member
  exact ⟨by decide +kernel, by decide⟩

/-- The address of the name of one letter is asked for, and the response has one answer. -/
theorem worker_answers_every_request_starred :
    ∃ request bytes response,
      parseDnsPacketBytes [0, 0, 1, 0, 0, 1, 0, 0, 0, 0, 0, 0, 1, 98, 0, 0, 1, 0, 1] = some request ∧
        buildWorkerResponseBytes starredZone request = some bytes ∧ parseDnsPacketBytes bytes = some response ∧
        response.answers.map (·.rdata) = [[192, 0, 2, 1]] := by
  obtain ⟨request, parsed⟩ : ∃ request,
      parseDnsPacketBytes [0, 0, 1, 0, 0, 1, 0, 0, 0, 0, 0, 0, 1, 98, 0, 0, 1, 0, 1] = some request :=
    Option.isSome_iff_exists.mp (by decide +kernel)
  obtain ⟨bytes, response, built, back, -, -, -, -, -, -, -, -, -, answers⟩ :=
    worker_answers_every_request starredZone starredZone_every _ request parsed
  refine ⟨request, bytes, response, parsed, built, back, ?_⟩
  have resolved : (parseDnsPacketBytes [0, 0, 1, 0, 0, 1, 0, 0, 0, 0, 0, 0, 1, 98, 0, 0, 1, 0, 1]).map
      (fun request => (resolveAuthoritativeRequest starredZone request).answers.map (·.rdata)) =
      some [[192, 0, 2, 1]] := by
    decide +kernel
  rw [parsed] at resolved
  rw [answers]
  exact Option.some.inj resolved

end Ism
