import Ism.RecordCodec

namespace Ism

open Lib

/-- One record of a zone file. -/
structure ZoneEntry where
  zeOrigin : Qname
  zeTtl : UInt32
  zeClass : UInt16
  zeRtype : Qtype
  zeRdata : List UInt8
  deriving DecidableEq

def validateZoneEntry (e : ZoneEntry) : Bool :=
  match e.zeRtype with
  | .A => decide (e.zeRdata.length = 4)
  | .AAAA => decide (e.zeRdata.length = 16)
  | _ => true

def validZoneRdataLength (rtype : Qtype) (rdlen : UInt16) : Bool :=
  match rtype with
  | .A => decide (rdlen = 4)
  | .AAAA => decide (rdlen = 16)
  | _ => true

def bytesOfList (input : List UInt8) : List UInt8 := if input.length ≤ 4294967295 then input else []

/-- The TTL stands before class and type, and the RDATA ends with the input. -/
def parseZoneEntryBytes (input : List UInt8) : Option ZoneEntry :=
  match parseQname 128 input with
  | none => none
  | some (origin, rest) =>
    if rest.length < 10 then none
    else
      match rest with
      | ttl0 :: ttl1 :: ttl2 :: ttl3 :: classHi :: classLo :: typeHi :: typeLo :: rdlenHi :: rdlenLo :: rdataInput =>
        let rdlen := u16FromBe rdlenHi rdlenLo
        let rtype := u16ToQtype (u16FromBe typeHi typeLo)
        if rdataInput.length ≠ rdlen.toNat then none
        else if validZoneRdataLength rtype rdlen = false then none
        else
          some
            { zeOrigin := origin
              zeTtl := u32FromBe ttl0 ttl1 ttl2 ttl3
              zeClass := u16FromBe classHi classLo
              zeRtype := rtype
              zeRdata := bytesOfList rdataInput }
      | _ => none

def parseZoneFile (input : List UInt8) : Option (List ZoneEntry) :=
  match parseZoneEntryBytes input with
  | some entry => some [entry]
  | none => none

/-- The octets of an entry: origin, TTL, class, type, and the RDATA after its length. -/
def zoneEntryBytes (e : ZoneEntry) : List UInt8 :=
  let rtype := qtypeToU16 e.zeRtype
  let rdlen := UInt16.ofNat e.zeRdata.length
  serializeQnameLabels e.zeOrigin ++
    ([u32B0 e.zeTtl, u32B1 e.zeTtl, u32B2 e.zeTtl, u32B3 e.zeTtl, u16Hi e.zeClass, u16Lo e.zeClass, u16Hi rtype,
      u16Lo rtype, u16Hi rdlen, u16Lo rdlen] ++ e.zeRdata)

/-- An entry that can stand in a zone file. -/
structure ZoneEntry.Fits (e : ZoneEntry) : Prop where
  origin : dnsNameLength e.zeOrigin ≤ 255
  canonical : u16ToQtype (qtypeToU16 e.zeRtype) = e.zeRtype
  short : e.zeRdata.length ≤ 65535
  valid : validateZoneEntry e = true

section Entry

variable {e : ZoneEntry} {input : List UInt8}

theorem bytesOfList_eq (small : input.length ≤ 65535) : bytesOfList input = input := if_pos (by omega)

/-- The check of the length field and the check of the entry are the same. -/
theorem validZoneRdataLength_eq {rdlen : UInt16} (length : e.zeRdata.length = rdlen.toNat) :
    validZoneRdataLength e.zeRtype rdlen = validateZoneEntry e := by
  have same (n : UInt16) : decide (rdlen = n) = decide (e.zeRdata.length = n.toNat) :=
    decide_eq_decide.mpr (by rw [length, UInt16.toNat_inj])
  unfold validZoneRdataLength validateZoneEntry
  cases e.zeRtype <;> first | rfl | exact same _

/-- An entry is read back as long as nothing follows it. -/
theorem parseZoneEntryBytes_append (fits : e.Fits) (more : List UInt8) :
    parseZoneEntryBytes (zoneEntryBytes e ++ more) = if more = [] then some e else none := by
  have named : parseQname 128 (zoneEntryBytes e ++ more) = some (e.zeOrigin, _) :=
    parseQname_eq_some_iff.mpr ⟨List.append_assoc .., fits.origin⟩
  have length : (UInt16.ofNat e.zeRdata.length).toNat = e.zeRdata.length :=
    UInt16.toNat_ofNat_of_lt' (Nat.lt_succ_of_le fits.short)
  have valid : validZoneRdataLength e.zeRtype (UInt16.ofNat e.zeRdata.length) = true :=
    (validZoneRdataLength_eq length.symm).trans fits.valid
  simp only [parseZoneEntryBytes, named, List.cons_append, List.nil_append, List.length_cons,
    u16FromBe_u16Hi_u16Lo, u32FromBe_u32Bytes, fits.canonical, length, valid]
  rw [if_neg (by omega)]
  by_cases last : more = []
  · rw [last, List.append_nil, if_pos rfl, if_neg (by simp), if_neg (by simp), bytesOfList_eq fits.short]
  · have longer := List.length_pos_iff.mpr last
    rw [if_neg last, if_pos (by rw [List.length_append]; omega)]

theorem parseZoneEntryBytes_eq_some_iff : parseZoneEntryBytes input = some e ↔ e.Fits ∧ input = zoneEntryBytes e := by
  constructor
  · intro parsed
    unfold parseZoneEntryBytes at parsed
    split at parsed
    · cases parsed
    rename_i origin rest named
    obtain ⟨rfl, short⟩ := parseQname_eq_some_iff.mp named
    split at parsed
    · cases parsed
    split at parsed
    · rename_i ttl0 ttl1 ttl2 ttl3 classHi classLo typeHi typeLo rdlenHi rdlenLo rdata _
      have small := (u16FromBe rdlenHi rdlenLo).toNat_lt
      simp only at parsed
      split_ifs at parsed with length valid
      rw [ne_eq, Decidable.not_not] at length
      rw [bytesOfList_eq (by omega)] at parsed
      obtain rfl := Option.some.inj parsed
      have field : UInt16.ofNat rdata.length = u16FromBe rdlenHi rdlenLo := by rw [length, UInt16.ofNat_toNat]
      refine ⟨⟨short, ?_, ?_, ?_⟩, ?_⟩
      · exact congrArg u16ToQtype (qtypeToU16_u16ToQtype _)
      · dsimp only
        omega
      · rw [← validZoneRdataLength_eq length]
        exact eq_true_of_ne_false valid
      · have ttl := u32Bytes_u32FromBe ttl0 ttl1 ttl2 ttl3
        simp only [List.cons.injEq, and_true] at ttl
        simp only [zoneEntryBytes, field, qtypeToU16_u16ToQtype, u16Hi_u16FromBe, u16Lo_u16FromBe, ttl,
          List.cons_append, List.nil_append]
    · cases parsed
  · rintro ⟨fits, rfl⟩
    have alone := parseZoneEntryBytes_append fits []
    rwa [List.append_nil, if_pos rfl] at alone

theorem parseZoneFile_eq_some_iff {entries : List ZoneEntry} :
    parseZoneFile input = some entries ↔ ∃ e, entries = [e] ∧ parseZoneEntryBytes input = some e := by
  rw [parseZoneFile]
  cases parseZoneEntryBytes input with
  | none => simp
  | some e => simp [eq_comm]

end Entry

/-- A zone file is one entry and nothing else: the parser accepts exactly the octets of the entries
that fit, reads every one of them back, and refuses whatever follows an entry, also another one. -/
theorem zone_file_exact_language :
    (∀ input entries, parseZoneFile input = some entries ↔ ∃ e : ZoneEntry, entries = [e] ∧ e.Fits ∧
      input = zoneEntryBytes e) ∧
    (∀ input other entries, parseZoneFile input = some entries → parseZoneFile other = some entries → input = other) ∧
    ∀ input entries more, parseZoneFile input = some entries → more ≠ [] → parseZoneFile (input ++ more) = none := by
  have language : ∀ input entries, parseZoneFile input = some entries ↔ ∃ e : ZoneEntry, entries = [e] ∧ e.Fits ∧
      input = zoneEntryBytes e := by
    intro input entries
    simp only [parseZoneFile_eq_some_iff, parseZoneEntryBytes_eq_some_iff]
  refine ⟨language, ?_, ?_⟩
  · intro input other entries first second
    obtain ⟨e, rfl, -, rfl⟩ := (language input entries).mp first
    obtain ⟨e', same, -, rfl⟩ := (language other _).mp second
    rw [List.singleton_inj.mp same]
  · intro input entries more parsed proper
    obtain ⟨e, -, fits, rfl⟩ := (language input entries).mp parsed
    rw [parseZoneFile, parseZoneEntryBytes_append fits more, if_neg proper]

end Ism
