import Mathlib.Logic.Function.Basic
import Ism.Cache

namespace Ism

/-- A cache as the shard table holds it: its slots are reached through a pointer. -/
structure Shard (κ : Type) where
  cEntries : κ
  cSize : UInt32

structure ShardedCache (κ : Type) where
  scShards : List (Shard κ)
  scNum : UInt32

/-- Every name is routed to the first shard. -/
def getShardIndex (_name : Qname) (_numShards : UInt32) : UInt32 := 0

/-- The slots behind the pointers. -/
abbrev Slots (κ : Type) := κ → List (Option CacheEntry)

def Shard.load {κ : Type} (shard : Shard κ) (memory : Slots κ) : DnsCache := ⟨memory shard.cEntries, shard.cSize⟩

/-- Only the first slot of a cache is ever written. -/
theorem DnsCache.run_getElem? {i : Nat} (apart : i ≠ 0) (cache : DnsCache) (calls : List CacheCall) :
    (cache.run calls).entries[i]? = cache.entries[i]? := by
  induction calls generalizing cache with
  | nil => rfl
  | cons c calls ih =>
    rw [DnsCache.run, List.foldl_cons, ← DnsCache.run, ih]
    cases c with
    | get => rfl
    | add query authorityZone record time =>
      rw [DnsCache.call, DnsCache.addToCache]
      split_ifs
      · rfl
      · exact List.getElem?_set_ne apart.symm

namespace ShardedCache

variable {κ : Type} [DecidableEq κ] (sc : ShardedCache κ) (memory : Slots κ)

def concurrentGet (name : Qname) (now : UInt64) : Option ResourceRecord :=
  if sc.scNum.toNat = 0 then none
  else
    match sc.scShards[(getShardIndex name sc.scNum).toNat]? with
    | some shard => (shard.load memory).getFromCache name now
    | none => none

def concurrentAdd (query authorityZone : Qname) (record : ResourceRecord) (now : UInt64) : Bool × Slots κ :=
  if sc.scNum.toNat = 0 then (false, memory)
  else
    match sc.scShards[(getShardIndex record.name sc.scNum).toNat]? with
    | some shard =>
      let added := (shard.load memory).addToCache query authorityZone record now
      (added.1, Function.update memory shard.cEntries added.2.entries)
    | none => (false, memory)

def call (memory : Slots κ) : CacheCall → Slots κ
  | .add query authorityZone record time => (sc.concurrentAdd memory query authorityZone record time).2
  | .get .. => memory

def run (calls : List CacheCall) : Slots κ := calls.foldl sc.call memory

section First

variable {sc memory} {shard : Shard κ} {others : List (Shard κ)}

omit [DecidableEq κ] in
theorem concurrentGet_eq (first : sc.scShards = shard :: others) (used : 1 ≤ sc.scNum.toNat) (name : Qname)
    (now : UInt64) : sc.concurrentGet memory name now = (shard.load memory).getFromCache name now := by
  rw [concurrentGet, if_neg (Nat.ne_of_gt used), first]
  rfl

theorem concurrentAdd_eq (first : sc.scShards = shard :: others) (used : 1 ≤ sc.scNum.toNat)
    (query authorityZone : Qname) (record : ResourceRecord) (now : UInt64) :
    sc.concurrentAdd memory query authorityZone record now =
      (((shard.load memory).addToCache query authorityZone record now).1,
        Function.update memory shard.cEntries
          ((shard.load memory).addToCache query authorityZone record now).2.entries) := by
  rw [concurrentAdd, if_neg (Nat.ne_of_gt used), first]
  rfl

/-- A call of the table is a call of the first shard, and no other slots are written. -/
theorem call_eq (first : sc.scShards = shard :: others) (used : 1 ≤ sc.scNum.toNat) (c : CacheCall) :
    sc.call memory c = Function.update memory shard.cEntries ((shard.load memory).call c).entries := by
  cases c with
  | get => exact (Function.update_eq_self ..).symm
  | add query authorityZone record time => exact congrArg Prod.snd (concurrentAdd_eq first used ..)

theorem load_call (first : sc.scShards = shard :: others) (used : 1 ≤ sc.scNum.toNat) (c : CacheCall) :
    shard.load (sc.call memory c) = (shard.load memory).call c := by
  have size : ((shard.load memory).call c).size = shard.cSize := by
    cases c with
    | get => rfl
    | add query authorityZone record time =>
      rw [DnsCache.call, DnsCache.addToCache]
      split_ifs <;> rfl
  rw [call_eq first used, Shard.load, Function.update_self, ← size]

theorem load_run (first : sc.scShards = shard :: others) (used : 1 ≤ sc.scNum.toNat) (calls : List CacheCall) :
    shard.load (sc.run memory calls) = (shard.load memory).run calls := by
  induction calls generalizing memory with
  | nil => rfl
  | cons c calls ih =>
    rw [run, List.foldl_cons, ← run, ih, load_call first used]
    rfl

theorem run_elsewhere (first : sc.scShards = shard :: others) (used : 1 ≤ sc.scNum.toNat) {k : κ}
    (apart : k ≠ shard.cEntries) (calls : List CacheCall) : sc.run memory calls k = memory k := by
  induction calls generalizing memory with
  | nil => rfl
  | cons c calls ih =>
    rw [run, List.foldl_cons, ← run, ih, call_eq first used, Function.update_of_ne apart]

theorem run_others (first : sc.scShards = shard :: others) (used : 1 ≤ sc.scNum.toNat) {k : κ} {i : Nat}
    (apart : k ≠ shard.cEntries ∨ i ≠ 0) (calls : List CacheCall) : (sc.run memory calls k)[i]? = (memory k)[i]? := by
  by_cases here : k = shard.cEntries
  · have ran : sc.run memory calls k = ((shard.load memory).run calls).entries := by
      rw [here, ← load_run first used]
      rfl
    rw [ran, DnsCache.run_getElem? (apart.resolve_left (not_not_intro here)), here]
    rfl
  · rw [run_elsewhere first used here]

theorem run_empty (empty : sc.scNum.toNat = 0) (calls : List CacheCall) : sc.run memory calls = memory := by
  induction calls with
  | nil => rfl
  | cons c calls ih =>
    have same : sc.call memory c = memory := by
      cases c with
      | get => rfl
      | add query authorityZone record time => rw [call, concurrentAdd, if_pos empty]
    rw [run, List.foldl_cons, ← run, same, ih]

end First

end ShardedCache

/-- However many shards there are, all names share the first slot of the first shard: if that starts
empty, then after any calls a name is answered exactly if the record that was put in last is its own
and still lives. No other slot of any shard is ever written, and without a shard nothing is kept. -/
theorem sharded_cache_is_one_slot {κ : Type} [DecidableEq κ] (sc : ShardedCache κ) (memory : Slots κ)
    (sized : sc.scNum.toNat ≤ sc.scShards.length) (calls : List CacheCall) (t : UInt64)
    (earlier : ∀ call ∈ calls, call.time ≤ t) :
    (sc.scNum.toNat = 0 → sc.run memory calls = memory ∧
      (∀ name, sc.concurrentGet (sc.run memory calls) name t = none) ∧
      ∀ query authorityZone record, (sc.concurrentAdd memory query authorityZone record t).1 = false) ∧
    (1 ≤ sc.scNum.toNat → ∃ shard others, sc.scShards = shard :: others ∧
      (1 ≤ shard.cSize.toNat → (memory shard.cEntries)[0]? = some none →
        ∀ name found, sc.concurrentGet (sc.run memory calls) name t = some found ↔
          ∃ r t0, lastAdded calls = some (r, t0) ∧ qnameEq r.name name = true ∧ t.toNat < expiryOf r t0 ∧
            found = { r with ttl := found.ttl } ∧ found.ttl.toNat = min r.ttl.toNat (expiryOf r t0 - t.toNat)) ∧
      ∀ k i, k ≠ shard.cEntries ∨ i ≠ 0 → (sc.run memory calls k)[i]? = (memory k)[i]?) := by
  constructor
  · intro empty
    refine ⟨ShardedCache.run_empty empty calls, fun name => if_pos empty, fun query authorityZone record => ?_⟩
    rw [ShardedCache.concurrentAdd, if_pos empty]
  · intro used
    obtain ⟨shard, others, first⟩ := List.exists_cons_of_length_pos (Nat.le_trans used sized)
    refine ⟨shard, others, first, fun size free name found => ?_, fun k i apart =>
      ShardedCache.run_others first used apart calls⟩
    have start : DnsCache.Remembers (shard.load memory) (shard.load memory) none := ⟨size, free, fun _ _ => rfl, rfl⟩
    have holds : DnsCache.Remembers (shard.load memory) ((shard.load memory).run calls) (lastAdded calls) :=
      start.run calls
    rw [ShardedCache.concurrentGet_eq first used, ShardedCache.load_run first used]
    refine holds.get_iff (fun r t0 last => ?_) name found
    rcases lastAdded_mem last with never | ⟨call, member, time⟩
    · cases never
    · rw [← show call.time = t0 from time]
      exact UInt64.le_iff_toNat_le.mp (earlier call member)

/-- Two shards and two names, of which the one that was put in first is gone. -/
theorem sharded_cache_is_one_slot_displaced :
    let zone : Qname := addressRecord.name.drop 1
    let mail : ResourceRecord := { addressRecord with name := ⟨[109, 120], by decide⟩ :: zone }
    let sc : ShardedCache (Fin 2) := ⟨[⟨0, 1⟩, ⟨1, 1⟩], 2⟩
    let memory := sc.run (fun _ => [none]) [.add zone zone addressRecord 10, .add zone zone mail 15]
    sc.concurrentGet memory addressRecord.name 20 = none ∧
      sc.concurrentGet memory mail.name 20 = some { mail with ttl := 55 } ∧ (memory 1)[0]? = some none := by
  intro zone mail sc memory
  obtain ⟨shard, others, first, served, kept⟩ := (sharded_cache_is_one_slot sc (fun _ => [none]) (by decide)
    [.add zone zone addressRecord 10, .add zone zone mail 15] 20 (by decide)).2 (by decide)
  obtain ⟨rfl, rfl⟩ := List.cons.inj first
  have last : lastAdded [.add zone zone addressRecord 10, .add zone zone mail 15] = some (mail, 15) := by
    decide +kernel
  refine ⟨?_, ?_, kept 1 0 (Or.inl (by decide))⟩
  · rw [Option.eq_none_iff_forall_ne_some]
    intro found answered
    obtain ⟨r, t0, last', same, -⟩ := (served (by decide) rfl addressRecord.name found).mp answered
    rw [last, Option.some.injEq, Prod.mk.injEq] at last'
    obtain ⟨rfl, rfl⟩ := last'
    exact absurd same (by decide)
  · exact (served (by decide) rfl mail.name _).mpr ⟨mail, 15, last, by decide, by decide, rfl, by decide⟩

end Ism
