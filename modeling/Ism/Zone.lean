import Ism.Serializer

namespace Ism

def wildcardLabel : Label := ⟨[0x2a], by decide⟩

/-- What the records at a name say about a CNAME. -/
inductive CnameLookup
  | noCname
  | cnameTarget (target : Qname)
  | malformedCname
  deriving DecidableEq

/-- An answer, or the code that says why there is none. -/
inductive DnsResult
  | success (records : List ResourceRecord)
  | error (rcode : Rcode)
  deriving DecidableEq

/-- A node of the zone tree. -/
inductive TreeNode
  | node (label : Label) (records : List ResourceRecord) (children : List TreeNode)

namespace TreeNode

def label : TreeNode → Label
  | node label _ _ => label

def records : TreeNode → List ResourceRecord
  | node _ records _ => records

def children : TreeNode → List TreeNode
  | node _ _ children => children

end TreeNode

/-- The first child that matches, in either case. -/
def findChild (children : List TreeNode) (l : Label) : Option TreeNode :=
  children.find? fun child => labelEq child.label l

/-- The query is in the order of the tree. A label without a child of its own is matched by a wildcard. -/
def lookupWithWildcard (root : TreeNode) : Qname → Option (List ResourceRecord)
  | [] => some root.records
  | hd :: tl =>
    match findChild root.children hd with
    | some child => lookupWithWildcard child tl
    | none =>
      match findChild root.children wildcardLabel with
      | some wildcard => lookupWithWildcard wildcard tl
      | none => none

/-- Names start at the host, the tree starts at the root. -/
def nameToTreeKey (name : Qname) : Qname := name.reverse

def lookupDnsName (root : TreeNode) (name : Qname) : Option (List ResourceRecord) :=
  lookupWithWildcard root (nameToTreeKey name)

def parseCnameTargetBytes (input : List UInt8) : Option Qname :=
  match parseQname 128 input with
  | some (target, []) => some target
  | _ => none

def parseCnameTarget (rr : ResourceRecord) : Option Qname := parseCnameTargetBytes rr.rdata

/-- The first CNAME decides. -/
def findCnameTarget : List ResourceRecord → CnameLookup
  | [] => .noCname
  | rr :: rest =>
    if rr.rtype = .CNAME then
      match parseCnameTarget rr with
      | some target => .cnameTarget target
      | none => .malformedCname
    else findCnameTarget rest

/-- `hops` bounds the chain. When it is used up the answer is a server failure. -/
def chaseCname (root : TreeNode) (target : Qname) : Nat → DnsResult
  | 0 => .error .servFail
  | hops + 1 =>
    match lookupDnsName root target with
    | some rrs =>
      match findCnameTarget rrs with
      | .noCname => .success rrs
      | .cnameTarget nextTarget => chaseCname root nextTarget hops
      | .malformedCname => .error .servFail
    | none => .error .nxDomain

def rrMatchesQuestion (q : Question) (rr : ResourceRecord) : Bool :=
  decide (rr.rtype = q.qtype) && decide (rr.rclass = q.qclass)

/-- Type and class of the question matter only here. -/
def filterQuestionRecords (q : Question) (records : List ResourceRecord) : List ResourceRecord :=
  records.filter (rrMatchesQuestion q)

def resolveAuthoritativeQuestion (root : TreeNode) (q : Question) : DnsResult :=
  match chaseCname root q.qname 15 with
  | .success records => .success (filterQuestionRecords q records)
  | .error rcode => .error rcode

/-- Only the first question is resolved. -/
def resolveAuthoritativeRequest (root : TreeNode) (request : DnsPacket) : DnsResult :=
  match request.questions with
  | [] => .error .formErr
  | q :: _ => resolveAuthoritativeQuestion root q

/-- The records of a success, or the code of an error and no records. -/
def buildResultResponsePacket (request : DnsPacket) (result : DnsResult) : Option DnsPacket :=
  let qd := request.questions.length
  if 65535 < qd then none
  else
    let (responseRcode, responseAnswers) :=
      match result with
      | .success records => (Rcode.noError, records)
      | .error rcode => (rcode, [])
    let an := responseAnswers.length
    if 65535 < an then none
    else
      some
        { header :=
            { id := request.header.id
              flags := responseFlagsFromRequest request.header responseRcode
              qdcount := UInt16.ofNat qd
              ancount := UInt16.ofNat an
              nscount := 0
              arcount := 0 }
          questions := request.questions
          answers := responseAnswers
          authorities := []
          additionals := [] }

def buildAuthoritativeResponsePacket (root : TreeNode) (request : DnsPacket) : Option DnsPacket :=
  buildResultResponsePacket request (resolveAuthoritativeRequest root request)

def buildWorkerResponseBytes (root : TreeNode) (request : DnsPacket) : Option (List UInt8) :=
  match buildAuthoritativeResponsePacket root request with
  | some response => serializeDnsPacketBytes response
  | none => none

end Ism
