import Ism.NameCodec

namespace Ism

open Lib

/-- What a name decoder meets, in the order in which it reads it. Behind a pointer
stands what is met at its target. -/
inductive NameTrace
  | root (pos : Nat)
  | label (pos : Nat) (l : Label) (next : NameTrace)
  | pointer (pos target : Nat) (next : NameTrace)
  deriving DecidableEq

/-- One pointer followed, and what was met behind it. -/
structure Jump where
  pos : Nat
  target : Nat
  next : NameTrace

namespace NameTrace

def start : NameTrace → Nat
  | root pos => pos
  | label pos _ _ => pos
  | pointer pos _ _ => pos

/-- The name that the components spell. -/
def name : NameTrace → Qname
  | root _ => []
  | label _ l next => l :: next.name
  | pointer _ _ next => next.name

/-- Where the components of the field itself start, up to its root octet or first pointer. -/
def starts : NameTrace → List Nat
  | root pos => [pos]
  | label pos _ next => pos :: next.starts
  | pointer pos _ _ => [pos]

/-- The octets of the field itself. -/
def literal : NameTrace → List UInt8
  | root _ => [0]
  | label _ l next => UInt8.ofNat l.val.length :: (l.val ++ next.literal)
  | pointer _ target _ => [UInt8.ofNat (192 + target / 256), UInt8.ofNat (target % 256)]

def jumps : NameTrace → List Jump
  | root _ => []
  | label _ _ next => next.jumps
  | pointer pos target next => ⟨pos, target, next⟩ :: next.jumps

end NameTrace

/-- `parseQnameBounded` with the position of its input, keeping what it meets. -/
def traceQnameBounded : Nat → Nat → Nat → List UInt8 → Option (NameTrace × List UInt8)
  | 0, _, _, _ => none
  | _ + 1, _, _, [] => none
  | fuel + 1, remaining, pos, b :: rest =>
    if b = 0 then
      if 1 ≤ remaining then some (.root pos, rest) else none
    else if isPointer b then none
    else if sized : 1 ≤ b.toNat ∧ b.toNat ≤ 63 then
      if room : b.toNat ≤ rest.length then
        if remaining ≤ b.toNat + 1 then none
        else
          let (l, next) := takeLabel b.toNat rest sized room
          match traceQnameBounded fuel (remaining - (b.toNat + 1)) (pos + 1 + b.toNat) next with
          | some (tl, final) => some (.label pos l tl, final)
          | none => none
      else none
    else none

def traceQname (fuel pos : Nat) (input : List UInt8) : Option (NameTrace × List UInt8) :=
  traceQnameBounded fuel 255 pos input

/-- `parseQnameCompressedBounded` with the position of its input, keeping what it meets. -/
def traceQnameCompressedBounded (original : List UInt8) (known : List Nat) :
    Nat → Nat → Nat → Nat → List UInt8 → Option (NameTrace × List UInt8)
  | 0, _, _, _, _ => none
  | _ + 1, _, _, _, [] => none
  | fuel + 1, remaining, limit, pos, b :: rest =>
    if b = 0 then
      if 1 ≤ remaining then some (.root pos, rest) else none
    else if isPointer b then
      match rest with
      | lo :: tail =>
        let offset := pointerOffset b lo
        if validPointerTarget known limit offset then
          match suffixAt offset original with
          | none => none
          | some target =>
            match traceQnameCompressedBounded original known fuel remaining offset offset target with
            | some (next, _) =>
              if dnsNameLength next.name ≤ remaining then some (.pointer pos offset next, tail) else none
            | none => none
        else none
      | [] => none
    else if sized : 1 ≤ b.toNat ∧ b.toNat ≤ 63 then
      if room : b.toNat ≤ rest.length then
        if remaining ≤ b.toNat + 1 then none
        else
          let (l, next) := takeLabel b.toNat rest sized room
          match traceQnameCompressedBounded original known fuel (remaining - (b.toNat + 1)) limit
              (pos + 1 + b.toNat) next with
          | some (tl, final) => some (.label pos l tl, final)
          | none => none
      else none
    else none

def traceQnameCompressed (fuel : Nat) (original : List UInt8) (limit pos : Nat) (input : List UInt8) :
    Option (NameTrace × List UInt8) :=
  traceQnameCompressedBounded original (messageNameOffsets original) fuel 255 limit pos input

section Erasure

def forgetTrace (result : NameTrace × List UInt8) : Qname × List UInt8 := (result.1.name, result.2)

/-- Forgetting the trace gives back the plain parser. -/
theorem traceQnameBounded_erases (fuel remaining pos : Nat) (input : List UInt8) :
    (traceQnameBounded fuel remaining pos input).map forgetTrace = parseQnameBounded fuel remaining input := by
  induction fuel generalizing remaining pos input with
  | zero => rfl
  | succ fuel ih =>
    obtain _ | ⟨b, rest⟩ := input
    · rfl
    simp only [traceQnameBounded, parseQnameBounded, ← ih _ (pos + 1 + b.toNat)]
    split
    · split <;> rfl
    split
    · rfl
    split
    · split
      · split
        · rfl
        · split <;> rename_i found <;> rw [found] <;> rfl
      · rfl
    · rfl

/-- Forgetting the trace gives back the compression-aware parser. -/
theorem traceQnameCompressedBounded_erases (original : List UInt8) (known : List Nat)
    (fuel remaining limit pos : Nat) (input : List UInt8) :
    (traceQnameCompressedBounded original known fuel remaining limit pos input).map forgetTrace =
      parseQnameCompressedBounded original known fuel remaining limit input := by
  induction fuel generalizing remaining limit pos input with
  | zero => rfl
  | succ fuel ih =>
    obtain _ | ⟨b, rest⟩ := input
    · rfl
    rw [traceQnameCompressedBounded.eq_def, parseQnameCompressedBounded.eq_def]
    simp only
    split
    · split <;> rfl
    split
    · obtain _ | ⟨lo, tail⟩ := rest
      · rfl
      simp only
      split
      · cases suffixAt (pointerOffset b lo) original with
        | none => rfl
        | some target =>
          simp only [← ih remaining (pointerOffset b lo) (pointerOffset b lo) target]
          split
          · rename_i found
            simp only [found, Option.map_some, forgetTrace]
            split <;> rfl
          · rename_i missing
            rw [missing]
            rfl
      · rfl
    split
    · split
      · split
        · rfl
        · rw [← ih _ _ (pos + 1 + b.toNat)]
          split <;> rename_i found <;> rw [found] <;> rfl
      · rfl
    · rfl

end Erasure

section Bytes

/-- The two octets of a pointer, recovered from its target. -/
theorem pointer_octets {b : UInt8} (high : isPointer b = true) (lo : UInt8) :
    pointerOffset b lo < 16384 ∧ UInt8.ofNat (192 + pointerOffset b lo / 256) = b ∧
      UInt8.ofNat (pointerOffset b lo % 256) = lo := by
  simp only [isPointer, decide_eq_true_eq] at high
  have := b.toNat_lt
  have := lo.toNat_lt
  simp only [pointerOffset]
  refine ⟨by omega, ofNat_toNat_of_eq (by omega), ofNat_toNat_of_eq (by omega)⟩

theorem pointer_octet_toNat {target : Nat} (small : target < 16384) :
    (UInt8.ofNat (192 + target / 256)).toNat = 192 + target / 256 :=
  toNat_ofNat_of_lt (by omega)

theorem pointer_octet_isPointer {target : Nat} (small : target < 16384) :
    isPointer (UInt8.ofNat (192 + target / 256)) = true := by
  simp only [isPointer, pointer_octet_toNat small, decide_eq_true_eq]
  omega

theorem pointer_octet_ne_zero {target : Nat} (small : target < 16384) :
    UInt8.ofNat (192 + target / 256) ≠ 0 := by
  intro zero
  have value := pointer_octet_toNat small
  rw [zero, UInt8.toNat_zero] at value
  omega

end Bytes

namespace NameTrace

/-- The octets of `original` from `pos` on spell the components of the trace, and
those at the target of each pointer spell what follows it. -/
def Reads (original : List UInt8) : NameTrace → Nat → Prop
  | root p, pos => p = pos ∧ [0] <+: original.drop pos
  | label p l next, pos => p = pos ∧ UInt8.ofNat l.val.length :: l.val <+: original.drop pos ∧
      next.Reads original (pos + 1 + l.val.length)
  | pointer p target next, pos => p = pos ∧ target < 16384 ∧
      [UInt8.ofNat (192 + target / 256), UInt8.ofNat (target % 256)] <+: original.drop pos ∧
      next.Reads original target

/-- Each pointer names a known offset behind the header and below the one before it. -/
def Bounded (known : List Nat) : NameTrace → Nat → Prop
  | root _, _ => True
  | label _ _ next, limit => next.Bounded known limit
  | pointer _ target next, limit => 12 ≤ target ∧ target < limit ∧ target ∈ known ∧ next.Bounded known target

end NameTrace

/-- Everything the tracing decoder can do in one step. -/
theorem traceQnameCompressedBounded_cases {original : List UInt8} {known : List Nat}
    {fuel remaining limit pos : Nat} {input rest : List UInt8} {t : NameTrace}
    (run : traceQnameCompressedBounded original known fuel remaining limit pos input = some (t, rest)) :
    ∃ fuel', fuel = fuel' + 1 ∧
      ((t = .root pos ∧ input = 0 :: rest ∧ 1 ≤ remaining) ∨
      (∃ l next tl, t = .label pos l tl ∧ input = UInt8.ofNat l.val.length :: (l.val ++ next) ∧
        l.val.length + 1 < remaining ∧
        traceQnameCompressedBounded original known fuel' (remaining - (l.val.length + 1)) limit
          (pos + 1 + l.val.length) next = some (tl, rest)) ∨
      (∃ target next ignored, t = .pointer pos target next ∧ target < 16384 ∧ input = t.literal ++ rest ∧
        12 ≤ target ∧ target < limit ∧ target ∈ known ∧
        traceQnameCompressedBounded original known fuel' remaining target target (original.drop target) =
          some (next, ignored) ∧
        dnsNameLength next.name ≤ remaining)) := by
  obtain _ | fuel := fuel
  · cases run
  refine ⟨fuel, rfl, ?_⟩
  obtain _ | ⟨b, tail⟩ := input
  · cases run
  rw [traceQnameCompressedBounded.eq_def] at run
  simp only at run
  split at run
  · rename_i zero
    split at run
    · rename_i positive
      cases run
      exact .inl ⟨rfl, by rw [zero], positive⟩
    · cases run
  split at run
  · rename_i high
    obtain _ | ⟨lo, tail⟩ := tail
    · cases run
    simp only at run
    split at run
    · rename_i valid
      split at run
      · cases run
      · rename_i target found
        obtain ⟨-, rfl⟩ := suffixAt_eq_some_iff.mp found
        split at run
        · rename_i next ignored inner
          split at run
          · rename_i short
            cases run
            simp only [validPointerTarget, Bool.and_eq_true, decide_eq_true_eq, List.contains_iff_mem] at valid
            obtain ⟨small, first, second⟩ := pointer_octets high lo
            refine .inr (.inr ⟨_, next, ignored, rfl, small, ?_, valid.1.1, valid.1.2, valid.2, inner, short⟩)
            simp only [NameTrace.literal, first, second, List.cons_append, List.nil_append]
          · cases run
        · cases run
    · cases run
  split at run
  · rename_i sized
    split at run
    · rename_i room
      split at run
      · cases run
      rename_i small
      simp only [takeLabel] at run
      split at run
      · rename_i tl final inner
        cases run
        refine .inr (.inl ⟨_, tail.drop b.toNat, tl, rfl, ?_, ?_, ?_⟩)
        · simp only [List.length_take_of_le room, UInt8.ofNat_toNat, List.take_append_drop]
        · simp only [List.length_take_of_le room]
          omega
        · simpa only [List.length_take_of_le room] using inner
      · cases run
    · cases run
  · cases run

section Soundness

variable {original : List UInt8} {known : List Nat}

theorem prefix_drop_add (front : List UInt8) {back : List UInt8} {pos : Nat}
    (here : front ++ back <+: original.drop pos) :
    back <+: original.drop (pos + front.length) := by
  obtain ⟨more, whole⟩ := here
  refine ⟨more, ?_⟩
  rw [← List.drop_drop, ← whole, List.append_assoc, List.drop_left]

/-- A trace accounts for the octets in front of the rest, and its name stays within the length allowed. -/
theorem traceQnameCompressedBounded_extent {fuel remaining limit pos : Nat} {input rest : List UInt8} {t : NameTrace}
    (run : traceQnameCompressedBounded original known fuel remaining limit pos input = some (t, rest)) :
    input = t.literal ++ rest ∧ dnsNameLength t.name ≤ remaining := by
  induction fuel generalizing remaining limit pos input t rest with
  | zero => cases run
  | succ fuel ih =>
    obtain ⟨_, same, ⟨rfl, rfl, positive⟩ | ⟨l, next, tl, rfl, rfl, fits, inner⟩ |
      ⟨target, next, ignored, rfl, -, bytes, -, -, -, -, short⟩⟩ := traceQnameCompressedBounded_cases run
    · exact ⟨rfl, positive⟩
    · cases same
      obtain ⟨rfl, short⟩ := ih inner
      refine ⟨?_, ?_⟩
      · simp only [NameTrace.literal, List.cons_append, List.append_assoc]
      · simp only [NameTrace.name, dnsNameLength]
        omega
    · exact ⟨bytes, short⟩

/-- A trace read at its place in the message spells the octets there, keeps its pointers in
bounds, and stays within the depth allowed. -/
theorem traceQnameCompressedBounded_sound {fuel remaining limit pos : Nat} {input rest : List UInt8}
    {t : NameTrace}
    (run : traceQnameCompressedBounded original known fuel remaining limit pos input = some (t, rest))
    (here : input <+: original.drop pos) :
    t.Reads original pos ∧ t.Bounded known limit ∧ t.starts.length ≤ fuel := by
  induction fuel generalizing remaining limit pos input t rest with
  | zero => cases run
  | succ fuel ih =>
    obtain ⟨_, same, ⟨rfl, rfl, -⟩ | ⟨l, next, tl, rfl, rfl, -, inner⟩ |
      ⟨target, next, ignored, rfl, small, rfl, low, below, member, inner, -⟩⟩ :=
        traceQnameCompressedBounded_cases run
    · exact ⟨⟨rfl, (List.prefix_append [0] rest).trans here⟩, trivial, Nat.succ_pos fuel⟩
    · cases same
      have step := prefix_drop_add (UInt8.ofNat l.val.length :: l.val) here
      rw [List.length_cons, Nat.add_comm l.val.length, ← Nat.add_assoc] at step
      obtain ⟨reads, bounded, deep⟩ := ih inner step
      refine ⟨⟨rfl, ?_, reads⟩, bounded, ?_⟩
      · exact (List.prefix_append (UInt8.ofNat l.val.length :: l.val) _).trans here
      · simp only [NameTrace.starts, List.length_cons]
        omega
    · cases same
      obtain ⟨reads, bounded, -⟩ := ih inner (List.prefix_refl _)
      exact ⟨⟨rfl, small, (List.prefix_append _ rest).trans here, reads⟩, ⟨low, below, member, bounded⟩,
        Nat.succ_pos fuel⟩

/-- On a name without pointers the two tracing decoders meet the same components. -/
theorem traceQnameCompressedBounded_of_plain {fuel remaining limit pos : Nat} {input : List UInt8}
    {result : NameTrace × List UInt8} (run : traceQnameBounded fuel remaining pos input = some result) :
    traceQnameCompressedBounded original known fuel remaining limit pos input = some result := by
  induction fuel generalizing remaining pos input result with
  | zero => cases run
  | succ fuel ih =>
    obtain _ | ⟨b, rest⟩ := input
    · cases run
    rw [traceQnameCompressedBounded.eq_def]
    simp only [traceQnameBounded] at run ⊢
    split at run
    · rename_i zero
      rw [if_pos zero]
      exact run
    rename_i nonzero
    rw [if_neg nonzero]
    split at run
    · cases run
    rename_i low
    rw [if_neg low]
    split at run
    · rename_i sized
      rw [dif_pos sized]
      split at run
      · rename_i room
        rw [dif_pos room]
        split at run
        · cases run
        rename_i fits
        rw [if_neg fits]
        split at run
        · rename_i found
          simp only [ih found]
          exact run
        · cases run
      · cases run
    · cases run

/-- Bytes behind the name field do not change how it is read. -/
theorem parseQnameCompressedBounded_append {fuel remaining limit : Nat} {input rest more : List UInt8}
    {name : Qname}
    (run : parseQnameCompressedBounded original known fuel remaining limit input = some (name, rest)) :
    parseQnameCompressedBounded original known fuel remaining limit (input ++ more) =
      some (name, rest ++ more) := by
  induction fuel generalizing remaining limit input name rest with
  | zero => cases run
  | succ fuel ih =>
    obtain _ | ⟨b, tail⟩ := input
    · cases run
    rw [List.cons_append, parseQnameCompressedBounded.eq_def]
    rw [parseQnameCompressedBounded.eq_def] at run
    simp only at run ⊢
    split at run
    · rename_i zero
      rw [if_pos zero]
      split at run
      · rename_i positive
        cases run
        rw [if_pos positive]
      · cases run
    rename_i nonzero
    rw [if_neg nonzero]
    split at run
    · rename_i high
      rw [if_pos high]
      obtain _ | ⟨lo, tail⟩ := tail
      · cases run
      simp only [List.cons_append] at run ⊢
      split at run
      · rename_i valid
        rw [if_pos valid]
        split at run
        · cases run
        split at run
        · split at run
          · rename_i short
            cases run
            rw [if_pos short]
          · cases run
        · cases run
      · cases run
    rename_i low
    rw [if_neg low]
    split at run
    · rename_i sized
      rw [dif_pos sized]
      split at run
      · rename_i room
        rw [dif_pos (by rw [List.length_append]; omega)]
        split at run
        · cases run
        rename_i fits
        rw [if_neg fits]
        simp only [takeLabel, List.take_append_of_le_length room, List.drop_append_of_le_length room] at run ⊢
        split at run
        · rename_i inner
          cases run
          simp only [ih inner]
        · cases run
      · cases run
    · cases run

end Soundness

namespace NameTrace

variable {original : List UInt8} {known : List Nat} {t other : NameTrace} {pos : Nat}

theorem Reads.start_eq (reads : t.Reads original pos) : t.start = pos := by
  cases t <;> exact reads.1

theorem prefix_unique {front front' whole : List UInt8} (first : front <+: whole) (second : front' <+: whole)
    (length : front.length = front'.length) : front = front' :=
  (List.prefix_of_prefix_length_le first second (Nat.le_of_eq length)).eq_of_length length

theorem prefix_head_unique {a b : UInt8} {front front' whole : List UInt8} (first : a :: front <+: whole)
    (second : b :: front' <+: whole) : a = b := by
  cases whole with
  | nil => cases List.prefix_nil.mp first
  | cons c whole =>
    rw [(List.cons_prefix_cons.mp first).1, (List.cons_prefix_cons.mp second).1]

/-- What stands at a position can be read in one way only. -/
theorem Reads.unique (first : t.Reads original pos) (second : other.Reads original pos) : t = other := by
  induction t generalizing other pos with
  | root p =>
    obtain ⟨rfl, bytes⟩ := first
    cases other with
    | root p' =>
      obtain ⟨rfl, -⟩ := second
      rfl
    | label p' l next => exact (l.length_octet_ne_zero (prefix_head_unique second.2.1 bytes)).elim
    | pointer p' target next =>
      exact (pointer_octet_ne_zero second.2.1 (prefix_head_unique second.2.2.1 bytes)).elim
  | label p l next ih =>
    obtain ⟨rfl, bytes, reads⟩ := first
    cases other with
    | root p' => exact (l.length_octet_ne_zero (prefix_head_unique bytes second.2)).elim
    | label p' l' next' =>
      obtain ⟨rfl, bytes', reads'⟩ := second
      have length := congrArg UInt8.toNat (prefix_head_unique bytes bytes')
      rw [l.toNat_length, l'.toNat_length] at length
      have same := prefix_unique bytes bytes' (by rw [List.length_cons, List.length_cons, length])
      have labels : l = l' := Subtype.ext (List.cons.inj same).2
      subst labels
      rw [ih reads reads']
    | pointer p' target next' =>
      have octet := prefix_head_unique bytes second.2.2.1
      have plain := l.length_octet_not_pointer
      rw [octet, pointer_octet_isPointer second.2.1] at plain
      cases plain
  | pointer p target next ih =>
    obtain ⟨rfl, small, bytes, reads⟩ := first
    cases other with
    | root p' => exact (pointer_octet_ne_zero small (prefix_head_unique bytes second.2)).elim
    | label p' l next' =>
      have octet := prefix_head_unique second.2.1 bytes
      have plain := l.length_octet_not_pointer
      rw [octet, pointer_octet_isPointer small] at plain
      cases plain
    | pointer p' target' next' =>
      obtain ⟨rfl, small', bytes', reads'⟩ := second
      have same := prefix_unique bytes bytes' rfl
      simp only [List.cons.injEq, and_true] at same
      have high := congrArg UInt8.toNat same.1
      have low := congrArg UInt8.toNat same.2
      rw [pointer_octet_toNat small, pointer_octet_toNat small'] at high
      rw [toNat_ofNat_of_lt (by omega), toNat_ofNat_of_lt (by omega)] at low
      have targets : target = target' := by omega
      subst targets
      rw [ih reads reads']

theorem starts_zero (t : NameTrace) : t.starts[0]? = some t.start := by
  cases t <;> rfl

/-- The trace from the `k`-th component of a field on. -/
theorem Reads.suffix (reads : t.Reads original pos) {k offset : Nat} (found : t.starts[k]? = some offset) :
    ∃ later : NameTrace, later.Reads original offset ∧ later.name = t.name.drop k ∧ later.jumps = t.jumps := by
  induction t generalizing pos k with
  | label p l next ih =>
    obtain _ | k := k
    · rw [starts_zero, reads.start_eq] at found
      cases found
      exact ⟨label p l next, reads, rfl, rfl⟩
    · exact ih reads.2.2 found
  | root p =>
    obtain _ | k := k
    · rw [starts_zero, reads.start_eq] at found
      cases found
      exact ⟨root p, reads, rfl, rfl⟩
    · simp [starts] at found
  | pointer p target next =>
    obtain _ | k := k
    · rw [starts_zero, reads.start_eq] at found
      cases found
      exact ⟨pointer p target next, reads, rfl, rfl⟩
    · simp [starts] at found

/-- The structural scan of a field finds exactly the starts of its components. -/
theorem Reads.scan (reads : t.Reads original pos) {fuel : Nat} (deep : t.starts.length ≤ fuel) (rest : List UInt8) :
    scanWireName fuel pos (t.literal ++ rest) = some (t.starts, pos + t.literal.length, rest) := by
  induction t generalizing pos fuel with
  | root p =>
    obtain ⟨rfl, -⟩ := reads
    obtain ⟨fuel, rfl⟩ := Nat.exists_eq_succ_of_ne_zero (Nat.ne_of_gt deep)
    simp [literal, starts, scanWireName]
  | label p l next ih =>
    obtain ⟨rfl, -, readsNext⟩ := reads
    simp only [starts, List.length_cons] at deep
    obtain ⟨fuel, rfl⟩ := Nat.exists_eq_succ_of_ne_zero (Nat.ne_of_gt (Nat.lt_of_lt_of_le (Nat.succ_pos _) deep))
    have bound := l.property.2
    have room : ¬ (63 < l.val.length ∨ (l.val ++ (next.literal ++ rest)).length < l.val.length) := by
      rw [List.length_append]
      omega
    simp only [literal, List.cons_append, List.append_assoc, scanWireName, if_neg l.length_octet_ne_zero,
      l.length_octet_not_pointer, Bool.false_eq_true, if_false, l.toNat_length, if_neg room, List.drop_left,
      ih readsNext (by omega : next.starts.length ≤ fuel), starts]
    simp only [Option.some.injEq, Prod.mk.injEq, true_and, and_true, List.length_cons, List.length_append]
    omega
  | pointer p target next =>
    obtain ⟨rfl, small, -, -⟩ := reads
    obtain ⟨fuel, rfl⟩ := Nat.exists_eq_succ_of_ne_zero (Nat.ne_of_gt deep)
    simp only [literal, List.cons_append, List.nil_append, scanWireName, if_neg (pointer_octet_ne_zero small),
      pointer_octet_isPointer small, if_true, starts, List.length_cons, List.length_nil]

end NameTrace

end Ism
