import Ism.Lib.Buffer

namespace Ism

open Lib

/-- A label is a list of bytes with length between 1 and 63. -/
abbrev Label := { l : List UInt8 // 1 ≤ l.length ∧ l.length ≤ 63 }

/-- Names keep wire order and spelling. -/
abbrev Qname := List Label

def isPointer (b : UInt8) : Bool := 192 ≤ b.toNat

def pointerOffset (hi lo : UInt8) : Nat := (hi.toNat - 192) * 256 + lo.toNat

/-- What is left behind `offset` octets. -/
def suffixAt : Nat → List UInt8 → Option (List UInt8)
  | 0, input => some input
  | _ + 1, [] => none
  | offset + 1, _ :: tl => suffixAt offset tl

def takeLabel (len : Nat) (rest : List UInt8) (sized : 1 ≤ len ∧ len ≤ 63) (room : len ≤ rest.length) :
    Label × List UInt8 :=
  (⟨rest.take len, by rw [List.length_take_of_le room]; exact sized⟩, rest.drop len)

/-- The length on the wire, with nothing compressed. -/
def dnsNameLength : Qname → Nat
  | [] => 1
  | hd :: tl => hd.val.length + 1 + dnsNameLength tl

/-- The uncompressed name parser: `fuel` bounds the labels, `remaining` the octets. -/
def parseQnameBounded : Nat → Nat → List UInt8 → Option (Qname × List UInt8)
  | 0, _, _ => none
  | _ + 1, _, [] => none
  | fuel + 1, remaining, b :: rest =>
    if b = 0 then
      if 1 ≤ remaining then some ([], rest) else none
    else if isPointer b then none
    else if sized : 1 ≤ b.toNat ∧ b.toNat ≤ 63 then
      if room : b.toNat ≤ rest.length then
        if remaining ≤ b.toNat + 1 then none
        else
          let (l, next) := takeLabel b.toNat rest sized room
          match parseQnameBounded fuel (remaining - (b.toNat + 1)) next with
          | some (tl, final) => some (l :: tl, final)
          | none => none
      else none
    else none

def parseQname (fuel : Nat) (input : List UInt8) : Option (Qname × List UInt8) :=
  parseQnameBounded fuel 255 input

def wireU16 (hi lo : UInt8) : Nat := hi.toNat * 256 + lo.toNat

/-- Records the label, root and pointer boundaries met while walking a name field. -/
def scanWireName : Nat → Nat → List UInt8 → Option (List Nat × Nat × List UInt8)
  | 0, _, _ => none
  | _ + 1, _, [] => none
  | fuel + 1, pos, b :: rest =>
    if b = 0 then some ([pos], pos + 1, rest)
    else if isPointer b then
      match rest with
      | _ :: tail => some ([pos], pos + 2, tail)
      | [] => none
    else if 63 < b.toNat ∨ rest.length < b.toNat then none
    else
      match scanWireName fuel (pos + 1 + b.toNat) (rest.drop b.toNat) with
      | some (offsets, next, remaining) => some (pos :: offsets, next, remaining)
      | none => none

/-- The boundaries of the names in the RDATA, for the types that hold any. -/
def rdataNameOffsets (rtype pos : Nat) (payload : List UInt8) : List Nat :=
  let start := if rtype = 15 then 2 else if rtype = 33 then 6 else 0
  if rtype = 2 ∨ rtype = 5 ∨ rtype = 12 ∨ rtype = 15 ∨ rtype = 33 ∨ rtype = 6 then
    match suffixAt start payload with
    | none => []
    | some nameBytes =>
      match scanWireName 128 (pos + start) nameBytes with
      | none => []
      | some (first, next, rest) =>
        if rtype = 6 then
          match scanWireName 128 next rest with
          | some (second, _, timers) => if timers.length = 20 then first ++ second else []
          | none => []
        else if rest.length = 0 then first
        else []
  else []

def scanWireRecords : Nat → Nat → List UInt8 → Option (List Nat)
  | 0, _, input => if input.length = 0 then some [] else none
  | count + 1, pos, input =>
    match scanWireName 128 pos input with
    | none => none
    | some (owner, headerPos, rest) =>
      match rest with
      | th :: tl :: _ :: _ :: _ :: _ :: _ :: _ :: lh :: ll :: body =>
        let size := wireU16 lh ll
        if body.length < size then none
        else
          let dataPos := headerPos + 10
          match scanWireRecords count (dataPos + size) (body.drop size) with
          | none => none
          | some later =>
            some (owner ++ (rdataNameOffsets (wireU16 th tl) dataPos (body.take size) ++ later))
      | _ => none

def scanWireQuestions : Nat → Nat → Nat → List UInt8 → Option (List Nat)
  | 0, records, pos, input => scanWireRecords records pos input
  | count + 1, records, pos, input =>
    match scanWireName 128 pos input with
    | none => none
    | some (offsets, next, rest) =>
      match rest with
      | _ :: _ :: _ :: _ :: tail =>
        match scanWireQuestions count records (next + 4) tail with
        | some later => some (offsets ++ later)
        | none => none
      | _ => none

/-- The structural scan of a whole message, from the counts in its header. -/
def scanMessage (original : List UInt8) : Option (List Nat) :=
  match original with
  | _ :: _ :: _ :: _ :: qh :: ql :: ah :: al :: nh :: nl :: rh :: rl :: rest =>
    scanWireQuestions (wireU16 qh ql) (wireU16 ah al + wireU16 nh nl + wireU16 rh rl) 12 rest
  | _ => none

/-- No boundary is known in a message that the scan cannot walk. -/
def messageNameOffsets (original : List UInt8) : List Nat :=
  match scanMessage original with
  | some offsets => offsets
  | none => []

/-- A pointer leads behind the header, backwards, and to a known boundary. -/
def validPointerTarget (known : List Nat) (limit target : Nat) : Bool :=
  12 ≤ target && target < limit && known.contains target

/-- The compression-aware name parser. A pointer must name a known offset below
`limit`, and reading continues there with that offset as the new limit. -/
def parseQnameCompressedBounded (original : List UInt8) (known : List Nat) :
    Nat → Nat → Nat → List UInt8 → Option (Qname × List UInt8)
  | 0, _, _, _ => none
  | _ + 1, _, _, [] => none
  | fuel + 1, remaining, limit, b :: rest =>
    if b = 0 then
      if 1 ≤ remaining then some ([], rest) else none
    else if isPointer b then
      match rest with
      | lo :: tail =>
        let offset := pointerOffset b lo
        if validPointerTarget known limit offset then
          match suffixAt offset original with
          | none => none
          | some target =>
            match parseQnameCompressedBounded original known fuel remaining offset target with
            | some (name, _) => if dnsNameLength name ≤ remaining then some (name, tail) else none
            | none => none
        else none
      | [] => none
    else if sized : 1 ≤ b.toNat ∧ b.toNat ≤ 63 then
      if room : b.toNat ≤ rest.length then
        if remaining ≤ b.toNat + 1 then none
        else
          let (l, next) := takeLabel b.toNat rest sized room
          match parseQnameCompressedBounded original known fuel (remaining - (b.toNat + 1)) limit next with
          | some (tl, final) => some (l :: tl, final)
          | none => none
      else none
    else none

def parseQnameCompressed (fuel : Nat) (original : List UInt8) (limit : Nat) (input : List UInt8) :
    Option (Qname × List UInt8) :=
  parseQnameCompressedBounded original (messageNameOffsets original) fuel 255 limit input

theorem Label.toNat_length (l : Label) : (UInt8.ofNat l.val.length).toNat = l.val.length :=
  toNat_ofNat_of_lt (by have := l.property.2; omega)

theorem Label.length_octet_ne_zero (l : Label) : UInt8.ofNat l.val.length ≠ 0 := by
  intro zero
  have length := l.toNat_length
  rw [zero, UInt8.toNat_zero] at length
  have := l.property.1
  omega

theorem Label.length_octet_not_pointer (l : Label) : isPointer (UInt8.ofNat l.val.length) = false := by
  have := l.property.2
  simp only [isPointer, l.toNat_length, decide_eq_false_iff_not]
  omega

theorem takeLabel_append (l : Label) (next : List UInt8)
    (room : l.val.length ≤ (l.val ++ next).length) :
    takeLabel l.val.length (l.val ++ next) l.property room = (l, next) := by
  simp only [takeLabel, Prod.mk.injEq, List.drop_left, and_true]
  exact Subtype.ext List.take_left

theorem Label.room (l : Label) (next : List UInt8) : l.val.length ≤ (l.val ++ next).length := by
  rw [List.length_append]
  omega

/-- The reading of one label by the uncompressed parser. -/
theorem parseQnameBounded_label (fuel remaining : Nat) (l : Label) (next : List UInt8) :
    parseQnameBounded (fuel + 1) remaining (UInt8.ofNat l.val.length :: (l.val ++ next)) =
      if remaining ≤ l.val.length + 1 then none
      else
        match parseQnameBounded fuel (remaining - (l.val.length + 1)) next with
        | some (tl, final) => some (l :: tl, final)
        | none => none := by
  rw [parseQnameBounded, if_neg l.length_octet_ne_zero]
  simp only [l.length_octet_not_pointer, Bool.false_eq_true, if_false, l.toNat_length, dif_pos l.property,
    dif_pos (l.room next), takeLabel_append]

/-- The compression-aware parser reads a label in the same way. -/
theorem parseQnameCompressedBounded_label (original : List UInt8) (known : List Nat)
    (fuel remaining limit : Nat) (l : Label) (next : List UInt8) :
    parseQnameCompressedBounded original known (fuel + 1) remaining limit
        (UInt8.ofNat l.val.length :: (l.val ++ next)) =
      if remaining ≤ l.val.length + 1 then none
      else
        match parseQnameCompressedBounded original known fuel (remaining - (l.val.length + 1)) limit next with
        | some (tl, final) => some (l :: tl, final)
        | none => none := by
  rw [parseQnameCompressedBounded.eq_def]
  simp only [if_neg l.length_octet_ne_zero, l.length_octet_not_pointer, Bool.false_eq_true, if_false,
    l.toNat_length, dif_pos l.property, dif_pos (l.room next), takeLabel_append]

/-- Only comparisons fold ASCII letters; other octets stay as they are. -/
def foldAscii (b : UInt8) : UInt8 :=
  if 65 ≤ b.toNat ∧ b.toNat ≤ 90 then UInt8.ofNat (b.toNat + 32) else b

def canonicalBytes (bs : List UInt8) : List UInt8 := bs.map foldAscii

def canonicalLabel (l : Label) : Label :=
  ⟨canonicalBytes l.val, by rw [canonicalBytes, List.length_map]; exact l.property⟩

def canonicalName (name : Qname) : Qname := name.map canonicalLabel

def labelEq (a b : Label) : Bool := decide (canonicalLabel a = canonicalLabel b)

def qnameEq (a b : Qname) : Bool := decide (canonicalName a = canonicalName b)

/-- The suffixes of a name are tried from the longest to the root. -/
def hasSuffix (name suffix : Qname) : Bool :=
  if name.length < suffix.length then false
  else if qnameEq name suffix then true
  else
    match name with
    | [] => false
    | _ :: tl => hasSuffix tl suffix

def isSubdomain (child parent : Qname) : Bool := hasSuffix child parent

theorem qnameEq_iff {a b : Qname} : qnameEq a b = true ↔ canonicalName a = canonicalName b := decide_eq_true_iff

@[simp] theorem canonicalName_length (name : Qname) : (canonicalName name).length = name.length := List.length_map _

end Ism
