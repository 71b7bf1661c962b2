import Ism.Name

namespace Ism

/-- Four-bit header fields. -/
abbrev U4 := { n : UInt16 // n.toNat ≤ 15 }

structure DnsFlags where
  qr : Bool
  opcode : U4
  aa : Bool
  tc : Bool
  rd : Bool
  ra : Bool
  z : Bool
  ad : Bool
  cd : Bool
  rcode : U4
  deriving DecidableEq

structure Header where
  id : UInt16
  flags : DnsFlags
  qdcount : UInt16
  ancount : UInt16
  nscount : UInt16
  arcount : UInt16
  deriving DecidableEq

/-- The record types with a name, and all others by their number. -/
inductive Qtype
  | A | AAAA | APL | CAA | CDNSKEY | CDS | CERT | CNAME | CSYNC | DHCID | DLV | DNAME
  | DNSKEY | DS | EUI48 | EUI64 | HINFO | HIP | HTTPS | IPSECKEY | KX | LOC | MX | NAPTR
  | NS | NSEC3 | NSEC3PARAM | OPT | PTR | RP | RRSIG | SMIMEA | SOA | SSHFP | SVCB | SRV
  | TA | TKEY | TLSA | TSIG | TXT | URI | ZONEMD
  | UNKNOWN (n : UInt16)
  deriving DecidableEq

structure Question where
  qname : Qname
  qtype : Qtype
  qclass : UInt16
  deriving DecidableEq

/-- RDLENGTH is kept beside the RDATA. -/
structure ResourceRecord where
  name : Qname
  rtype : Qtype
  rclass : UInt16
  ttl : UInt32
  rdlen : UInt16
  rdata : List UInt8
  deriving DecidableEq

/-- The counts of the header need not be those of the sections. -/
structure DnsPacket where
  header : Header
  questions : List Question
  answers : List ResourceRecord
  authorities : List ResourceRecord
  additionals : List ResourceRecord
  deriving DecidableEq

def qtypeToU16 : Qtype → UInt16
  | .A => 1 | .NS => 2
  | .CNAME => 5 | .SOA => 6
  | .PTR => 12 | .HINFO => 13
  | .MX => 15 | .TXT => 16
  | .RP => 17 | .AAAA => 28
  | .LOC => 29 | .SRV => 33
  | .NAPTR => 35 | .KX => 36
  | .CERT => 37 | .DNAME => 39
  | .OPT => 41 | .APL => 42
  | .DS => 43 | .SSHFP => 44
  | .IPSECKEY => 45 | .RRSIG => 46
  | .DNSKEY => 48 | .DHCID => 49
  | .NSEC3 => 50 | .NSEC3PARAM => 51
  | .TLSA => 52 | .SMIMEA => 53
  | .HIP => 55 | .CDS => 59
  | .CDNSKEY => 60 | .CSYNC => 62
  | .ZONEMD => 63 | .SVCB => 64
  | .HTTPS => 65 | .EUI48 => 108
  | .EUI64 => 109 | .TKEY => 249
  | .TSIG => 250 | .URI => 256
  | .CAA => 257 | .TA => 32768
  | .DLV => 32769 | .UNKNOWN n => n

def u16ToQtype (n : UInt16) : Qtype :=
  if n = 1 then .A else if n = 2 then .NS
  else if n = 5 then .CNAME else if n = 6 then .SOA
  else if n = 12 then .PTR else if n = 13 then .HINFO
  else if n = 15 then .MX else if n = 16 then .TXT
  else if n = 17 then .RP else if n = 28 then .AAAA
  else if n = 29 then .LOC else if n = 33 then .SRV
  else if n = 35 then .NAPTR else if n = 36 then .KX
  else if n = 37 then .CERT else if n = 39 then .DNAME
  else if n = 41 then .OPT else if n = 42 then .APL
  else if n = 43 then .DS else if n = 44 then .SSHFP
  else if n = 45 then .IPSECKEY else if n = 46 then .RRSIG
  else if n = 48 then .DNSKEY else if n = 49 then .DHCID
  else if n = 50 then .NSEC3 else if n = 51 then .NSEC3PARAM
  else if n = 52 then .TLSA else if n = 53 then .SMIMEA
  else if n = 55 then .HIP else if n = 59 then .CDS
  else if n = 60 then .CDNSKEY else if n = 62 then .CSYNC
  else if n = 63 then .ZONEMD else if n = 64 then .SVCB
  else if n = 65 then .HTTPS else if n = 108 then .EUI48
  else if n = 109 then .EUI64 else if n = 249 then .TKEY
  else if n = 250 then .TSIG else if n = 256 then .URI
  else if n = 257 then .CAA else if n = 32768 then .TA
  else if n = 32769 then .DLV else .UNKNOWN n

inductive Rcode
  | noError | formErr | servFail | nxDomain | notImp | refused | yxDomain | yxRRSet
  | nxRRSet | notAuth | notZone | dsoTypeNI | badVers
  | unknownR (n : U4)
  deriving DecidableEq

/-- The four-bit wire value; `badVers` travels in EDNS0 and uses 0 here. -/
def rcodeToU4 : Rcode → U4
  | .noError => ⟨0, by decide⟩ | .formErr => ⟨1, by decide⟩
  | .servFail => ⟨2, by decide⟩ | .nxDomain => ⟨3, by decide⟩
  | .notImp => ⟨4, by decide⟩ | .refused => ⟨5, by decide⟩
  | .yxDomain => ⟨6, by decide⟩ | .yxRRSet => ⟨7, by decide⟩
  | .nxRRSet => ⟨8, by decide⟩ | .notAuth => ⟨9, by decide⟩
  | .notZone => ⟨10, by decide⟩ | .dsoTypeNI => ⟨11, by decide⟩
  | .badVers => ⟨0, by decide⟩ | .unknownR n => n

theorem qtypeToU16_ite {n code : UInt16} {here later : Qtype} (head : qtypeToU16 here = code)
    (tail : qtypeToU16 later = n) : qtypeToU16 (if n = code then here else later) = n := by
  split
  · rename_i same
    rw [head, same]
  · exact tail

/-- No number is lost, whether its type has a name or not. -/
theorem qtypeToU16_u16ToQtype (n : UInt16) : qtypeToU16 (u16ToQtype n) = n := by
  unfold u16ToQtype
  repeat refine qtypeToU16_ite rfl ?_
  rfl

end Ism
