import Ism.PacketTrace

namespace Ism

open Lib

/-- A name field at `pos`: its octets spell the trace, its pointers stay in bounds, and
decoding the message there gives the name of the trace. -/
structure NameTrace.Decodes (original : List UInt8) (t : NameTrace) (pos : Nat) : Prop where
  reads : t.Reads original pos
  bounded : t.Bounded (messageNameOffsets original) pos
  short : dnsNameLength t.name ≤ 255
  deep : t.starts.length ≤ 128
  parsed : ∃ rest, parseQnameCompressed 128 original pos (original.drop pos) = some (t.name, rest)

def Segment.Fits (original : List UInt8) (pos : Nat) : Segment → Prop
  | .field t => t.Decodes original pos
  | .gap _ _ => True

namespace Layout

/-- Every segment stands where the ones before it end. -/
def Placed (original : List UInt8) : Nat → Layout → Prop
  | _, [] => True
  | pos, segment :: rest => segment.Fits original pos ∧ Placed original (pos + segment.bytes.length) rest

theorem bytes_append (front back : Layout) : bytes (front ++ back) = bytes front ++ bytes back :=
  List.flatMap_append

theorem starts_append (front back : Layout) : starts (front ++ back) = starts front ++ starts back :=
  List.flatMap_append

theorem Placed.append {original : List UInt8} {pos : Nat} {front back : Layout}
    (first : front.Placed original pos) (second : back.Placed original (pos + front.bytes.length)) :
    (front ++ back).Placed original pos := by
  induction front generalizing pos with
  | nil => exact second
  | cons segment rest ih =>
    refine ⟨first.1, ih first.2 ?_⟩
    have whole : bytes (segment :: rest) = segment.bytes ++ bytes rest := rfl
    rw [whole, List.length_append, ← Nat.add_assoc] at second
    exact second

end Layout

/-- `layout` is how `original` reads from `input` to `tail`, both suffixes of it. -/
structure Walk (original : List UInt8) (layout : Layout) (offset : Nat) (input tail : List UInt8) : Prop where
  bytes : input = layout.bytes ++ tail
  placed : layout.Placed original offset

theorem Walk.nil (original : List UInt8) (offset : Nat) (input : List UInt8) :
    Walk original [] offset input input :=
  ⟨rfl, trivial⟩

theorem Walk.append {original : List UInt8} {front back : Layout} {offset : Nat} {input middle tail : List UInt8}
    (first : Walk original front offset input middle)
    (second : Walk original back (offset + front.bytes.length) middle tail) :
    Walk original (front ++ back) offset input tail := by
  refine ⟨?_, first.placed.append second.placed⟩
  rw [first.bytes, second.bytes, Layout.bytes_append, List.append_assoc]

section Names

variable {original : List UInt8} {pos : Nat} {input rest : List UInt8} {t : NameTrace}

theorem traceQnameCompressed_decodes (run : traceQnameCompressed 128 original pos pos input = some (t, rest))
    (here : input <+: original.drop pos) : t.Decodes original pos ∧ input = t.literal ++ rest := by
  obtain ⟨bytes, short⟩ := traceQnameCompressedBounded_extent run
  obtain ⟨reads, bounded, deep⟩ := traceQnameCompressedBounded_sound run here
  refine ⟨⟨reads, bounded, short, deep, ?_⟩, bytes⟩
  have erased := traceQnameCompressedBounded_erases original (messageNameOffsets original) 128 255 pos pos input
  unfold traceQnameCompressed at run
  rw [run] at erased
  obtain ⟨more, whole⟩ := here
  exact ⟨rest ++ more, by rw [← whole]; exact parseQnameCompressedBounded_append erased.symm⟩

theorem traceQname_decodes (run : traceQname 128 pos input = some (t, rest))
    (here : input <+: original.drop pos) : t.Decodes original pos ∧ input = t.literal ++ rest :=
  traceQnameCompressed_decodes (traceQnameCompressedBounded_of_plain run) here

end Names

section Rdata

variable {original : List UInt8} {offset : Nat} {rtype : Qtype} {rdlen : UInt16} {input : List UInt8}
  {layout : Layout}

theorem rdataNameOffsets_of_name {least skip next : Nat} {starts : List Nat} {payload : List UInt8}
    (form : rdataForm rtype = .name least skip) (inside : skip ≤ payload.length)
    (found : scanWireName 128 (offset + skip) (payload.drop skip) = some (starts, next, [])) :
    rdataNameOffsets (qtypeToU16 rtype).toNat offset payload = starts := by
  have suffix : suffixAt skip payload = some (payload.drop skip) := suffixAt_eq_some_iff.mpr ⟨inside, rfl⟩
  cases rtype with
  | NS | CNAME | PTR =>
    cases form
    rw [Nat.add_zero, List.drop_zero] at found
    simp [rdataNameOffsets, qtypeToU16, suffixAt, found]
  | MX | SRV =>
    cases form
    simp [rdataNameOffsets, qtypeToU16, suffix, found]
  | _ => cases form

theorem rdataNameOffsets_of_twoNames {next next' : Nat} {first second : List Nat} {payload rest timers : List UInt8}
    (form : rdataForm rtype = .twoNames)
    (mname : scanWireName 128 offset payload = some (first, next, rest))
    (rname : scanWireName 128 next rest = some (second, next', timers)) (ended : timers.length = 20) :
    rdataNameOffsets (qtypeToU16 rtype).toNat offset payload = first ++ second := by
  cases rtype with
  | SOA => simp [rdataNameOffsets, qtypeToU16, suffixAt, mname, rname, ended]
  | _ => cases form

theorem rdataNameOffsets_of_other {payload : List UInt8} (form : rdataForm rtype = .other)
    (canonical : u16ToQtype (qtypeToU16 rtype) = rtype) :
    rdataNameOffsets (qtypeToU16 rtype).toNat offset payload = [] := by
  have differs (code : UInt16) (named : rdataForm (u16ToQtype code) ≠ .other) :
      (qtypeToU16 rtype).toNat ≠ code.toNat := by
    intro same
    rw [UInt16.toNat_inj.mp same] at canonical
    exact named (by rw [canonical, form])
  unfold rdataNameOffsets
  apply if_neg
  rintro (same | same | same | same | same | same)
  · exact differs 2 nofun same
  · exact differs 5 nofun same
  · exact differs 12 nofun same
  · exact differs 15 nofun same
  · exact differs 33 nofun same
  · exact differs 6 nofun same

theorem traceRdata_walk (run : traceRdata original offset rtype rdlen input = some layout)
    (here : input <+: original.drop offset) (room : rdlen.toNat ≤ input.length)
    (canonical : u16ToQtype (qtypeToU16 rtype) = rtype) :
    layout.bytes = input.take rdlen.toNat ∧ layout.Placed original offset ∧
      rdataNameOffsets (qtypeToU16 rtype).toNat offset (input.take rdlen.toNat) = layout.starts := by
  have front : input.take rdlen.toNat <+: original.drop offset := (List.take_prefix _ _).trans here
  have size : (input.take rdlen.toNat).length = rdlen.toNat := List.length_take_of_le room
  rw [traceRdata_eq] at run
  cases form : rdataForm rtype with
  | name least skip =>
    rw [form] at run
    obtain ⟨-, -, inside, t, decoded, rfl⟩ := traceNameAfter_eq_some_iff.mp run
    rw [← size] at inside
    have split := List.take_append_drop skip (input.take rdlen.toNat)
    have fixed : ((input.take rdlen.toNat).take skip).length = skip := List.length_take_of_le inside
    have behind := prefix_drop_add ((input.take rdlen.toNat).take skip) (by rw [split]; exact front)
    rw [fixed] at behind
    obtain ⟨decodes, bytes⟩ := traceQnameCompressed_decodes decoded behind
    refine ⟨?_, ⟨trivial, ?_, trivial⟩, ?_⟩
    · rw [List.append_nil] at bytes
      simp only [Layout.bytes, Segment.bytes, List.flatMap_cons, List.flatMap_nil, List.append_nil, ← bytes, split]
    · rw [Segment.bytes, fixed]
      exact decodes
    · have scanned := decodes.reads.scan decodes.deep []
      rw [← bytes] at scanned
      rw [rdataNameOffsets_of_name form inside scanned]
      simp [Layout.starts, Segment.starts]
  | twoNames =>
    rw [form] at run
    obtain ⟨-, -, mname, afterMname, rname, timers, first, second, ended, rfl⟩ := traceTwoNames_eq_some_iff.mp run
    obtain ⟨decodes, bytes⟩ := traceQnameCompressed_decodes first front
    have used : rdlen.toNat - afterMname.length = mname.literal.length := by
      rw [← size, bytes, List.length_append]
      omega
    rw [used] at second
    have behind := prefix_drop_add mname.literal (by rw [← bytes]; exact front)
    obtain ⟨decodes', bytes'⟩ := traceQnameCompressed_decodes second behind
    refine ⟨?_, ⟨decodes, decodes', trivial, trivial⟩, ?_⟩
    · simp only [Layout.bytes, Segment.bytes, List.flatMap_cons, List.flatMap_nil, List.append_nil, ← bytes']
      exact bytes.symm
    · have scanned := decodes.reads.scan decodes.deep afterMname
      have scanned' := decodes'.reads.scan decodes'.deep timers
      rw [← bytes, Nat.add_zero] at scanned
      rw [← bytes'] at scanned'
      rw [rdataNameOffsets_of_twoNames form scanned scanned' ended]
      simp [Layout.starts, Segment.starts]
  | other =>
    rw [form] at run
    simp only at run
    split at run
    · cases run
      refine ⟨?_, ⟨trivial, trivial⟩, rdataNameOffsets_of_other form canonical⟩
      simp [Layout.bytes, Segment.bytes]
    · cases run

end Rdata

section Sections

variable {original : List UInt8} {offset : Nat} {input tail : List UInt8}

theorem wireU16_u16Hi_u16Lo (n : UInt16) : wireU16 (u16Hi n) (u16Lo n) = n.toNat := by
  rw [← u16FromBe_toNat, u16FromBe_u16Hi_u16Lo]

theorem offsetFromTail_append (front back : List UInt8) : offsetFromTail (front ++ back) back = front.length := by
  rw [offsetFromTail, if_pos (by rw [List.length_append]; omega), List.length_append]
  omega

/-- One traced question: its layout, and the step of the structural scan over it. -/
theorem traceQuestion_walk {q : Question} {layout : Layout}
    (run : traceQuestion offset input = some ((q, layout), tail)) (here : input <+: original.drop offset) :
    Walk original layout offset input tail ∧ ∀ count records,
      scanWireQuestions (count + 1) records offset input =
        (scanWireQuestions count records (offset + layout.bytes.length) tail).map (layout.starts ++ ·) := by
  unfold traceQuestion at run
  split at run
  · cases run
  rename_i q' tail' parsed
  split at run
  · cases run
  rename_i qname rest traced
  cases run
  obtain ⟨decodes, bytes⟩ := traceQname_decodes traced here
  obtain ⟨qtHi, qtLo, qcHi, qcLo, named, -, -⟩ := parseQuestionBytes_eq_some_iff.mp parsed
  obtain ⟨t, again, -⟩ := traceQname_erases offset named
  rw [traced] at again
  cases again
  have scanned := decodes.reads.scan decodes.deep (qtHi :: qtLo :: qcHi :: qcLo :: tail)
  rw [← bytes] at scanned
  refine ⟨⟨?_, decodes, trivial, trivial⟩, ?_⟩
  · simp [bytes, Layout.bytes, Segment.bytes]
  · intro count records
    simp only [scanWireQuestions, scanned, Layout.bytes, Segment.bytes, Layout.starts, Segment.starts,
      List.flatMap_cons, List.flatMap_nil, List.append_nil, List.length_append]
    have width : (List.take 4 (qtHi :: qtLo :: qcHi :: qcLo :: tail)).length = 4 := rfl
    rw [width, ← Nat.add_assoc]
    cases scanWireQuestions count records (offset + qname.literal.length + 4) tail <;> rfl

/-- One traced record: its layout, and the step of the structural scan over it. -/
theorem traceRecord_walk {additionalSection : Bool} {rr : ResourceRecord} {layout : Layout}
    (run : traceRecord original additionalSection offset input = some ((rr, layout), tail))
    (here : input <+: original.drop offset) :
    Walk original layout offset input tail ∧ ∀ count,
      scanWireRecords (count + 1) offset input =
        (scanWireRecords count (offset + layout.bytes.length) tail).map (layout.starts ++ ·) := by
  unfold traceRecord at run
  split at run
  · cases run
  rename_i rr' tail' parsed
  split at run
  · cases run
  rename_i owner rest traced
  split at run
  · cases run
  rename_i rdata tracedRdata
  cases run
  have read := parseRecordWith_eq_some_iff.mp parsed
  obtain ⟨t, again, -⟩ := traceQnameCompressed_erases offset read.owned
  rw [traced] at again
  cases again
  obtain ⟨decodes, bytes⟩ := traceQnameCompressed_decodes traced here
  have behind := prefix_drop_add owner.literal (by rw [← bytes]; exact here)
  have body := prefix_drop_add (recordFixedBytes rr) behind
  have width : (recordFixedBytes rr).length = 10 := rfl
  have dropped : (recordFixedBytes rr ++ (rr.rdata ++ tail)).drop 10 = rr.rdata ++ tail := rfl
  have taken : (recordFixedBytes rr ++ (rr.rdata ++ tail)).take 10 = recordFixedBytes rr := rfl
  have used : offset + (offsetFromTail input (recordFixedBytes rr ++ (rr.rdata ++ tail)) + 10) =
      offset + owner.literal.length + 10 := by
    rw [bytes, offsetFromTail_append, Nat.add_assoc]
  have payload : (rr.rdata ++ tail).take rr.rdlen.toNat = rr.rdata := by rw [read.length, List.take_left]
  have after : (rr.rdata ++ tail).drop rr.rdlen.toNat = tail := by rw [read.length, List.drop_left]
  have room : rr.rdlen.toNat ≤ (rr.rdata ++ tail).length := by
    rw [List.length_append, read.length]
    omega
  rw [width] at body
  rw [used, dropped] at tracedRdata
  obtain ⟨rdataBytes, placed, offsets⟩ := traceRdata_walk tracedRdata body room read.canonical
  rw [payload] at rdataBytes offsets
  have scanned := decodes.reads.scan decodes.deep (recordFixedBytes rr ++ (rr.rdata ++ tail))
  rw [← bytes] at scanned
  have layoutBytes : Layout.bytes (.field owner :: .gap .recordFixed (recordFixedBytes rr) :: rdata) =
      owner.literal ++ (recordFixedBytes rr ++ rr.rdata) := by
    rw [← rdataBytes]
    rfl
  rw [taken]
  refine ⟨⟨?_, decodes, trivial, ?_⟩, ?_⟩
  · rw [layoutBytes, bytes, List.append_assoc, List.append_assoc]
  · exact placed
  · intro count
    have layoutStarts : Layout.starts (.field owner :: .gap .recordFixed (recordFixedBytes rr) :: rdata) =
        owner.starts ++ rdata.starts := rfl
    have size : offset + (owner.literal ++ (recordFixedBytes rr ++ rr.rdata)).length =
        offset + owner.literal.length + 10 + rr.rdlen.toNat := by
      rw [List.length_append, List.length_append, width, read.length]
      omega
    rw [layoutBytes, layoutStarts, size]
    simp only [scanWireRecords, scanned]
    simp only [recordFixedBytes, List.cons_append, List.nil_append, wireU16_u16Hi_u16Lo, payload, after, offsets]
    rw [if_neg (Nat.not_lt.mpr room)]
    cases scanWireRecords count (offset + owner.literal.length + 10 + rr.rdlen.toNat) tail with
    | none => rfl
    | some later => simp only [Option.map_some, List.append_assoc]

theorem Walk.behind {layout : Layout} (walk : Walk original layout offset input tail)
    (here : input <+: original.drop offset) : tail <+: original.drop (offset + layout.bytes.length) := by
  rw [walk.bytes] at here
  exact prefix_drop_add layout.bytes here

/-- A section of traced items: the layouts join up, and so do the steps of the scan. -/
theorem readCountedAt_walk {α : Type} {item : Nat → List UInt8 → Option ((α × Layout) × List UInt8)}
    (scan : Nat → Nat → List UInt8 → Option (List Nat))
    (step : ∀ offset input x (layout : Layout) tail, item offset input = some ((x, layout), tail) →
      input <+: original.drop offset → Walk original layout offset input tail ∧ ∀ count,
        scan (count + 1) offset input = (scan count (offset + layout.bytes.length) tail).map (layout.starts ++ ·))
    {fuel count : Nat} {xs : List (α × Layout)} (run : readCountedAt item offset fuel count input = some (xs, tail))
    (here : input <+: original.drop offset) :
    Walk original (xs.flatMap Prod.snd) offset input tail ∧ ∀ more,
      scan (count + more) offset input =
        (scan more (offset + (Layout.bytes (xs.flatMap Prod.snd)).length) tail).map
          (Layout.starts (xs.flatMap Prod.snd) ++ ·) := by
  revert here
  refine readCountedAt_induct (motive := fun offset count input xs tail => input <+: original.drop offset →
    Walk original (xs.flatMap Prod.snd) offset input tail ∧ ∀ more, scan (count + more) offset input =
      (scan more (offset + (Layout.bytes (xs.flatMap Prod.snd)).length) tail).map
        (Layout.starts (xs.flatMap Prod.snd) ++ ·)) ?_ ?_ run
  · intro offset input _
    refine ⟨Walk.nil original offset input, fun more => ?_⟩
    rw [Nat.zero_add]
    exact Option.map_id'.symm
  · rintro offset count input ⟨x, layout⟩ rest xs tail first ih here
    obtain ⟨walk, scanned⟩ := step _ _ _ _ _ first here
    have used : offset + (input.length - rest.length) = offset + (Layout.bytes layout).length := by
      rw [walk.bytes, List.length_append]
      omega
    rw [used] at ih
    obtain ⟨later, scannedLater⟩ := ih (walk.behind here)
    refine ⟨walk.append later, fun more => ?_⟩
    have count' : count + 1 + more = (count + more) + 1 := by omega
    rw [count', scanned, scannedLater, Option.map_map]
    simp only [List.flatMap_cons, Layout.bytes_append, Layout.starts_append, List.length_append, Nat.add_assoc]
    congr 1
    funext later
    exact (List.append_assoc _ _ _).symm

/-- The next section of a message, walked up to `middle` so far. -/
theorem Walk.counted {α : Type} {item : Nat → List UInt8 → Option ((α × Layout) × List UInt8)}
    (scan : Nat → Nat → List UInt8 → Option (List Nat))
    (step : ∀ offset input x (layout : Layout) tail, item offset input = some ((x, layout), tail) →
      input <+: original.drop offset → Walk original layout offset input tail ∧ ∀ count,
        scan (count + 1) offset input = (scan count (offset + layout.bytes.length) tail).map (layout.starts ++ ·))
    {front : Layout} {middle : List UInt8} (walk : Walk original front 0 original middle)
    {fuel count : Nat} {xs : List (α × Layout)}
    (run : readCountedAt item (offsetFromTail original middle) fuel count middle = some (xs, tail)) :
    Walk original (front ++ xs.flatMap Prod.snd) 0 original tail ∧ ∀ more,
      scan (count + more) front.bytes.length middle =
        (scan more (Layout.bytes (front ++ xs.flatMap Prod.snd)).length tail).map
          (Layout.starts (xs.flatMap Prod.snd) ++ ·) := by
  have place : offsetFromTail original middle = front.bytes.length := by
    have split := walk.bytes
    generalize original = whole at split
    rw [split, offsetFromTail_append]
  have here := walk.behind (List.prefix_refl _)
  rw [Nat.zero_add] at here
  rw [place] at run
  obtain ⟨later, scanned⟩ := readCountedAt_walk scan step run here
  rw [← Nat.zero_add front.bytes.length] at later
  refine ⟨walk.append later, fun more => ?_⟩
  rw [scanned, Layout.bytes_append, List.length_append]

end Sections

section Packets

variable {input : List UInt8} {p : DnsPacket} {layout : Layout}

theorem scanMessage_serializeHeaderBytes (h : Header) (rest : List UInt8) :
    scanMessage (serializeHeaderBytes h ++ rest) =
      scanWireQuestions h.qdcount.toNat (h.ancount.toNat + h.nscount.toNat + h.arcount.toNat) 12 rest := by
  simp only [serializeHeaderBytes, List.cons_append, List.nil_append, scanMessage, wireU16_u16Hi_u16Lo]

/-- The layout of an accepted message spells the message, and the structural scan of
the message finds the component starts of the layout. -/
theorem tracePacketBytes_walk (run : tracePacketBytes input = some (p, layout)) :
    layout.bytes = input ∧ layout.Placed input 0 ∧ scanMessage input = some layout.starts ∧
      12 ≤ input.length ∧ ∃ behind, layout = .gap .header (input.take 12) :: behind := by
  unfold tracePacketBytes at run
  split at run
  · cases run
  rename_i h rest header
  simp only at run
  split at run
  · cases run
  rename_i questions afterQuestions asked
  split at run
  · cases run
  rename_i answers afterAnswers answered
  split at run
  · cases run
  rename_i authorities afterAuthorities authorized
  split at run
  · cases run
  rename_i additionals tail added
  split at run
  swap
  · cases run
  rename_i ended
  cases List.length_eq_zero_iff.mp ended
  cases run
  have whole := parseHeaderBytes_eq_some_iff.mp header
  have octets : input.take 12 = serializeHeaderBytes h := by rw [whole]; rfl
  have walk : Walk input [.gap .header (input.take 12)] 0 input rest := by
    refine ⟨?_, trivial, trivial⟩
    rw [octets]
    exact whole
  have atQuestions : offsetFromTail input rest = 12 := by rw [whole, offsetFromTail_append]; rfl
  rw [← atQuestions] at asked
  obtain ⟨walkQ, scanQ⟩ := walk.counted
    (fun count => scanWireQuestions count (h.ancount.toNat + h.nscount.toNat + h.arcount.toNat))
    (fun _ _ _ _ _ run here => (traceQuestion_walk run here).imp id fun scanned count => scanned count _) asked
  obtain ⟨walkAn, scanAn⟩ := walkQ.counted scanWireRecords (fun _ _ _ _ _ => traceRecord_walk) answered
  obtain ⟨walkNs, scanNs⟩ := walkAn.counted scanWireRecords (fun _ _ _ _ _ => traceRecord_walk) authorized
  obtain ⟨walkAr, scanAr⟩ := walkNs.counted scanWireRecords (fun _ _ _ _ _ => traceRecord_walk) added
  have joined := walkAr.bytes
  rw [List.append_nil] at joined
  simp only [List.append_assoc, List.cons_append, List.nil_append] at joined
  refine ⟨joined.symm, ?_, ?_, by rw [whole, List.length_append]; exact Nat.le_add_right 12 _, _, rfl⟩
  · simpa only [List.append_assoc, List.cons_append, List.nil_append] using walkAr.placed
  · have first := scanQ 0
    have second := scanAn (h.nscount.toNat + h.arcount.toNat)
    have third := scanNs h.arcount.toNat
    have fourth := scanAr 0
    have front : Layout.bytes [.gap .header (input.take 12)] = serializeHeaderBytes h := by rw [octets]; rfl
    have width : (serializeHeaderBytes h).length = 12 := rfl
    rw [front, width, Nat.add_zero, scanWireQuestions] at first
    rw [Nat.add_zero] at fourth
    rw [whole, scanMessage_serializeHeaderBytes, first, Nat.add_assoc, second, third, fourth]
    simp [scanWireRecords, Layout.starts, Segment.starts]

end Packets

section Spans

/-- The octets of each component of a field. -/
def NameTrace.spans : NameTrace → List (Span (Option Gap))
  | root pos => [⟨pos, 1, none⟩]
  | label pos l next => ⟨pos, 1 + l.val.length, none⟩ :: next.spans
  | pointer pos _ _ => [⟨pos, 2, none⟩]

/-- The stretches of a message: one per name component, without a gap kind, and one
for the octets between two fields. -/
def Layout.spans : Nat → Layout → List (Span (Option Gap))
  | _, [] => []
  | pos, .field t :: rest => t.spans ++ spans (pos + t.literal.length) rest
  | pos, .gap kind octets :: rest => ⟨pos, octets.length, some kind⟩ :: spans (pos + octets.length) rest

variable {original : List UInt8} {pos offset : Nat}

theorem NameTrace.spans_totalSize (t : NameTrace) : totalSize t.spans = t.literal.length := by
  induction t with
  | root p => rfl
  | pointer p target next => rfl
  | label p l next ih =>
    simp only [totalSize, spans, List.map_cons, List.sum_cons, literal, List.length_cons, List.length_append] at ih ⊢
    omega

theorem NameTrace.Reads.contiguous {t : NameTrace} (reads : t.Reads original pos) : Contiguous pos t.spans := by
  induction t generalizing pos with
  | root p => exact ⟨reads.1, trivial⟩
  | pointer p target next => exact ⟨reads.1, trivial⟩
  | label p l next ih =>
    refine ⟨reads.1, ?_⟩
    have later := ih reads.2.2
    rw [Nat.add_assoc] at later
    exact later

theorem Layout.spans_totalSize (pos : Nat) (layout : Layout) :
    totalSize (layout.spans pos) = layout.bytes.length := by
  induction layout generalizing pos with
  | nil => rfl
  | cons segment rest ih =>
    have bytes : Layout.bytes (segment :: rest) = segment.bytes ++ Layout.bytes rest := rfl
    rw [bytes, List.length_append, ← ih (pos + segment.bytes.length)]
    cases segment with
    | field t =>
      have here := t.spans_totalSize
      simp only [totalSize, spans, Segment.bytes, List.map_append, List.sum_append] at here ⊢
      rw [here]
    | gap kind octets => simp only [totalSize, spans, Segment.bytes, List.map_cons, List.sum_cons]

theorem Layout.Placed.contiguous {layout : Layout} (placed : layout.Placed original pos) :
    Contiguous pos (layout.spans pos) := by
  induction layout generalizing pos with
  | nil => trivial
  | cons segment rest ih =>
    have later := ih placed.2
    cases segment with
    | field t =>
      refine placed.1.reads.contiguous.append ?_
      rw [t.spans_totalSize]
      exact later
    | gap kind octets => exact ⟨rfl, later⟩

theorem NameTrace.exists_span {t : NameTrace} (member : offset ∈ t.starts) :
    ∃ s ∈ t.spans, s.start = offset ∧ 0 < s.size ∧ s.kind = none := by
  induction t with
  | root p =>
    cases List.mem_singleton.mp member
    exact ⟨_, List.mem_singleton_self _, rfl, Nat.one_pos, rfl⟩
  | pointer p target next =>
    cases List.mem_singleton.mp member
    exact ⟨_, List.mem_singleton_self _, rfl, Nat.two_pos, rfl⟩
  | label p l next ih =>
    rcases List.mem_cons.mp member with rfl | member
    · exact ⟨_, List.mem_cons_self, rfl, by simp only; omega, rfl⟩
    · obtain ⟨s, inside, facts⟩ := ih member
      exact ⟨s, List.mem_cons_of_mem _ inside, facts⟩

theorem Layout.exists_span {layout : Layout} (member : offset ∈ layout.starts) :
    ∃ s ∈ layout.spans pos, s.start = offset ∧ 0 < s.size ∧ s.kind = none := by
  induction layout generalizing pos with
  | nil => cases member
  | cons segment rest ih =>
    rcases List.mem_append.mp member with here | later
    · cases segment with
      | field t =>
        obtain ⟨s, inside, facts⟩ := NameTrace.exists_span here
        exact ⟨s, List.mem_append_left _ inside, facts⟩
      | gap kind octets => cases here
    · cases segment with
      | field t =>
        obtain ⟨s, inside, facts⟩ := ih later
        exact ⟨s, List.mem_append_right _ inside, facts⟩
      | gap kind octets =>
        obtain ⟨s, inside, facts⟩ := ih later
        exact ⟨s, List.mem_cons_of_mem _ inside, facts⟩

/-- On every accepted message the structural scan succeeds and lists exactly the
positions at which the parser starts a component of a name field, in message order.
The components and the other stretches of the layout tile the message, and a listed
offset lies in no stretch but the component it starts. -/
theorem scan_parser_name_offsets {b : List UInt8} {p : DnsPacket} (parsed : parseDnsPacketBytes b = some p) :
    ∃ layout, tracePacketBytes b = some (p, layout) ∧ layout.bytes = b ∧
      scanMessage b = some layout.starts ∧ messageNameOffsets b = layout.starts ∧
      Contiguous 0 (layout.spans 0) ∧ totalSize (layout.spans 0) = b.length ∧
      ∀ offset ∈ messageNameOffsets b, 12 ≤ offset ∧ ∀ s ∈ layout.spans 0,
        s.start ≤ offset → offset < s.start + s.size → s.start = offset ∧ s.kind = none := by
  obtain ⟨layout, traced⟩ := tracePacketBytes_erases parsed
  obtain ⟨bytes, placed, scanned, long, behind, head⟩ := tracePacketBytes_walk traced
  have offsets : messageNameOffsets b = layout.starts := by rw [messageNameOffsets, scanned]
  have alone : ∀ offset ∈ messageNameOffsets b, ∀ s ∈ layout.spans 0,
      s.start ≤ offset → offset < s.start + s.size → s.start = offset ∧ s.kind = none := by
    intro offset member s inside above below
    rw [offsets] at member
    obtain ⟨u, inside', rfl, nonempty, kind⟩ := Layout.exists_span member
    cases placed.contiguous.unique inside inside' nonempty above below
    exact ⟨rfl, kind⟩
  refine ⟨layout, traced, bytes, scanned, offsets, placed.contiguous, ?_, ?_⟩
  · rw [Layout.spans_totalSize, bytes]
  · intro offset member
    refine ⟨?_, alone offset member⟩
    by_contra low
    have header : (⟨0, 12, some .header⟩ : Span (Option Gap)) ∈ layout.spans 0 := by
      rw [head, Layout.spans, List.length_take_of_le long]
      exact List.mem_cons_self
    have named := (alone offset member _ header (Nat.zero_le _) (by simp only; omega)).2
    cases named

theorem scan_parser_name_offsets_owner_pointer :
    let b := [0, 0, 1, 0, 0, 1, 0, 1, 0, 0, 0, 0, 1, 97, 0, 0, 1, 0, 1,
      192, 12, 0, 1, 0, 1, 0, 0, 0, 60, 0, 4, 127, 0, 0, 1]
    (parseDnsPacketBytes b).isSome = true ∧ messageNameOffsets b = [12, 14, 19] ∧
      ∃ p layout, tracePacketBytes b = some (p, layout) ∧ scanMessage b = some layout.starts := by
  intro b
  have accepted : (parseDnsPacketBytes b).isSome = true := by decide
  obtain ⟨p, parsed⟩ := Option.isSome_iff_exists.mp accepted
  obtain ⟨layout, traced, -, scanned, -⟩ := scan_parser_name_offsets parsed
  exact ⟨accepted, by decide, p, layout, traced, scanned⟩

end Spans

end Ism
