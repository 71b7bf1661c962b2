import Mathlib.Algebra.Group.Nat.Defs
import Ism.Serializer

namespace Ism

/-- The bailiwick check of a recursive answer. The query takes no part in it. -/
def validateAnswer (_query authorityZone : Qname) (ans : ResourceRecord) : Bool :=
  if isSubdomain ans.name authorityZone then true else false

structure CacheEntry where
  data : ResourceRecord
  inserted : UInt64
  expiry : UInt64

structure DnsCache where
  entries : List (Option CacheEntry)
  size : UInt32

def CacheEntry.isValid (entry : CacheEntry) (currentTime : UInt64) : Bool :=
  decide (currentTime.toNat < entry.expiry.toNat)

def cacheEntryMatches (entry : CacheEntry) (name : Qname) (currentTime : UInt64) : Bool :=
  entry.isValid currentTime && qnameEq entry.data.name name

def cachedValue (entry : CacheEntry) (name : Qname) (now : UInt64) : Option ResourceRecord :=
  if cacheEntryMatches entry name now = false then none
  else
    let remaining := entry.expiry.toNat - now.toNat
    let ttl := if remaining < entry.data.ttl.toNat then UInt32.ofNat remaining else entry.data.ttl
    some { entry.data with ttl := ttl }

/-- The expiry stays at the end of the clock instead of going past it. -/
def newEntry (record : ResourceRecord) (now : UInt64) : CacheEntry where
  data := record
  inserted := now
  expiry := UInt64.ofNat (if 18446744073709551615 < now.toNat + record.ttl.toNat then 18446744073709551615
    else now.toNat + record.ttl.toNat)

namespace DnsCache

def getFromCache (cache : DnsCache) (name : Qname) (currentTime : UInt64) : Option ResourceRecord :=
  if cache.size.toNat = 0 then none
  else
    match cache.entries[0]? with
    | some (some entry) => cachedValue entry name currentTime
    | _ => none

def addToCache (cache : DnsCache) (query authorityZone : Qname) (record : ResourceRecord) (currentTime : UInt64) :
    Bool × DnsCache :=
  if cache.size.toNat = 0 ∨ validateAnswer query authorityZone record = false ∨ wellFormedRecord record = false then
    (false, cache)
  else (true, { cache with entries := cache.entries.set 0 (some (newEntry record currentTime)) })

end DnsCache

/-- A call of the cache, with the time at which it is made. -/
inductive CacheCall
  | add (query authorityZone : Qname) (record : ResourceRecord) (time : UInt64)
  | get (name : Qname) (time : UInt64)

namespace CacheCall

def time : CacheCall → UInt64
  | add _ _ _ time => time
  | get _ time => time

/-- The record that a call puts into the cache. -/
def added : CacheCall → Option (ResourceRecord × UInt64)
  | add _ authorityZone record time =>
    if isSubdomain record.name authorityZone = true ∧ wellFormedRecord record = true then some (record, time) else none
  | get .. => none

end CacheCall

namespace DnsCache

def call (cache : DnsCache) : CacheCall → DnsCache
  | .add query authorityZone record time => (cache.addToCache query authorityZone record time).2
  | .get .. => cache

def run (cache : DnsCache) (calls : List CacheCall) : DnsCache := calls.foldl call cache

end DnsCache

/-- The last record that any of the calls put into the cache, and when. -/
def lastAdded (calls : List CacheCall) : Option (ResourceRecord × UInt64) :=
  calls.foldl (fun last call => call.added.or last) none

theorem lastAdded_mem {calls : List CacheCall} {last : Option (ResourceRecord × UInt64)}
    {added : ResourceRecord × UInt64}
    (found : calls.foldl (fun last call => call.added.or last) last = some added) :
    last = some added ∨ ∃ call ∈ calls, call.time = added.2 := by
  induction calls generalizing last with
  | nil => exact Or.inl found
  | cons call calls ih =>
    rcases ih found with here | ⟨other, member, time⟩
    · dsimp only at here
      cases put : call.added with
      | none =>
        rw [put, Option.none_or] at here
        exact Or.inl here
      | some new =>
        rw [put, Option.some_or, Option.some.injEq] at here
        refine Or.inr ⟨call, List.mem_cons_self, ?_⟩
        cases call with
        | get => cases put
        | add query authorityZone record time =>
          simp only [CacheCall.added, Option.ite_none_right_eq_some, Option.some.injEq] at put
          rw [← here, ← put.2]
          rfl
    · exact Or.inr ⟨other, List.mem_cons_of_mem _ member, time⟩

section Entry

/-- When a record that is put in at `t0` expires. -/
def expiryOf (record : ResourceRecord) (t0 : UInt64) : Nat := min (t0.toNat + record.ttl.toNat) (2 ^ 64 - 1)

theorem newEntry_expiry (record : ResourceRecord) (t0 : UInt64) :
    (newEntry record t0).expiry.toNat = expiryOf record t0 := by
  have bound : (if 18446744073709551615 < t0.toNat + record.ttl.toNat then 18446744073709551615
      else t0.toNat + record.ttl.toNat) = expiryOf record t0 := by
    rw [expiryOf]
    split <;> omega
  have fits : expiryOf record t0 < 2 ^ 64 := by
    rw [expiryOf]
    omega
  rw [newEntry, bound, UInt64.toNat_ofNat_of_lt' fits]

/-- What a lookup finds in the slot: the record with its remaining time to live. -/
theorem cachedValue_eq_some_iff {record found : ResourceRecord} {t0 t : UInt64} {name : Qname} :
    cachedValue (newEntry record t0) name t = some found ↔
      qnameEq record.name name = true ∧ t.toNat < expiryOf record t0 ∧
        found = { record with ttl := UInt32.ofNat (min record.ttl.toNat (expiryOf record t0 - t.toNat)) } := by
  have aged : (if expiryOf record t0 - t.toNat < record.ttl.toNat then UInt32.ofNat (expiryOf record t0 - t.toNat)
      else record.ttl) = UInt32.ofNat (min record.ttl.toNat (expiryOf record t0 - t.toNat)) := by
    split
    case isTrue less => rw [Nat.min_eq_right (Nat.le_of_lt less)]
    case isFalse more => rw [Nat.min_eq_left (Nat.le_of_not_lt more), UInt32.ofNat_toNat]
  have data : (newEntry record t0).data = record := rfl
  simp only [cachedValue, cacheEntryMatches, CacheEntry.isValid, newEntry_expiry, data, aged]
  cases qnameEq record.name name <;> by_cases live : t.toNat < expiryOf record t0 <;> simp [live, eq_comm]

/-- The remaining time to live is positive, fits its 32 bits and never exceeds what is left. -/
theorem agedTtl_bounds {record : ResourceRecord} {t0 t : UInt64} (later : t0.toNat ≤ t.toNat)
    (live : t.toNat < expiryOf record t0) :
    (UInt32.ofNat (min record.ttl.toNat (expiryOf record t0 - t.toNat))).toNat =
        min record.ttl.toNat (expiryOf record t0 - t.toNat) ∧
      1 ≤ min record.ttl.toNat (expiryOf record t0 - t.toNat) ∧
      min record.ttl.toNat (expiryOf record t0 - t.toNat) + (t.toNat - t0.toNat) ≤ record.ttl.toNat := by
  have small := record.ttl.toNat_lt
  have fits : min record.ttl.toNat (expiryOf record t0 - t.toNat) < 2 ^ 32 := by omega
  have upper : expiryOf record t0 ≤ t0.toNat + record.ttl.toNat := Nat.min_le_left ..
  refine ⟨UInt32.toNat_ofNat_of_lt' fits, ?_, ?_⟩ <;> omega

end Entry

namespace DnsCache

variable {cache : DnsCache}

theorem addToCache_eq (sized : 1 ≤ cache.size.toNat) (query authorityZone : Qname) (record : ResourceRecord)
    (time : UInt64) :
    cache.addToCache query authorityZone record time =
      if isSubdomain record.name authorityZone = true ∧ wellFormedRecord record = true then
        (true, { cache with entries := cache.entries.set 0 (some (newEntry record time)) })
      else (false, cache) := by
  have used : ¬ cache.size.toNat = 0 := by omega
  cases zone : isSubdomain record.name authorityZone <;> cases formed : wellFormedRecord record <;>
    simp [addToCache, validateAnswer, zone, formed, used]

/-- The cache knows the record that was put in last, and all its other slots are as they were. -/
structure Remembers (first cache : DnsCache) (last : Option (ResourceRecord × UInt64)) : Prop where
  sized : 1 ≤ cache.size.toNat
  slot : cache.entries[0]? = some (last.map fun added => newEntry added.1 added.2)
  others : ∀ i, i ≠ 0 → cache.entries[i]? = first.entries[i]?
  size_eq : cache.size = first.size

theorem Remembers.call {first : DnsCache} {last : Option (ResourceRecord × UInt64)} (holds : Remembers first cache last)
    (c : CacheCall) : Remembers first (cache.call c) (c.added.or last) := by
  cases c with
  | get => exact holds
  | add query authorityZone record time =>
    simp only [DnsCache.call, addToCache_eq holds.sized, CacheCall.added]
    split
    case isFalse => exact holds
    case isTrue =>
      obtain ⟨room, -⟩ := List.getElem?_eq_some_iff.mp holds.slot
      refine ⟨holds.sized, ?_, fun i apart => ?_, holds.size_eq⟩
      · rw [List.getElem?_set_self room]
        rfl
      · rw [List.getElem?_set_ne (Ne.symm apart)]
        exact holds.others i apart

theorem Remembers.run {first : DnsCache} {last : Option (ResourceRecord × UInt64)} (holds : Remembers first cache last)
    (calls : List CacheCall) :
    Remembers first (cache.run calls) (calls.foldl (fun last call => call.added.or last) last) := by
  induction calls generalizing cache last with
  | nil => exact holds
  | cons c calls ih => exact ih (holds.call c)

theorem Remembers.getFromCache {first : DnsCache} {last : Option (ResourceRecord × UInt64)}
    (holds : Remembers first cache last) (name : Qname) (t : UInt64) :
    cache.getFromCache name t = last.bind fun added => cachedValue (newEntry added.1 added.2) name t := by
  have used : ¬ cache.size.toNat = 0 := Nat.ne_of_gt holds.sized
  rw [DnsCache.getFromCache, if_neg used, holds.slot]
  cases last <;> rfl

theorem Remembers.get_iff {first : DnsCache} {last : Option (ResourceRecord × UInt64)}
    (holds : Remembers first cache last) {t : UInt64}
    (earlier : ∀ r t0, last = some (r, t0) → t0.toNat ≤ t.toNat) (name : Qname) (found : ResourceRecord) :
    cache.getFromCache name t = some found ↔
      ∃ r t0, last = some (r, t0) ∧ qnameEq r.name name = true ∧ t.toNat < expiryOf r t0 ∧
        found = { r with ttl := found.ttl } ∧ found.ttl.toNat = min r.ttl.toNat (expiryOf r t0 - t.toNat) := by
  rw [holds.getFromCache, Option.bind_eq_some_iff]
  constructor
  · rintro ⟨⟨r, t0⟩, added, value⟩
    obtain ⟨same, live, rfl⟩ := cachedValue_eq_some_iff.mp value
    exact ⟨r, t0, added, same, live, rfl, (agedTtl_bounds (earlier r t0 added) live).1⟩
  · rintro ⟨r, t0, added, same, live, shape, ttl⟩
    refine ⟨(r, t0), added, cachedValue_eq_some_iff.mpr ⟨same, live, ?_⟩⟩
    rw [shape, ← ttl, UInt32.ofNat_toNat]

end DnsCache

/-- Over any calls at non-decreasing times, the cache holds the last accepted record until it
expires, and hands it out with what is left of its time to live. -/
theorem cache_serves_last_added (first : DnsCache) (sized : 1 ≤ first.size.toNat)
    (empty : first.entries[0]? = some none) (calls : List CacheCall) (call : CacheCall)
    (ordered : (calls ++ [call]).Pairwise fun before after => before.time ≤ after.time) :
    let cache := first.run calls
    (∀ query authorityZone record t, call = .add query authorityZone record t →
      ((cache.addToCache query authorityZone record t).1 = true ↔
        isSubdomain record.name authorityZone = true ∧ wellFormedRecord record = true) ∧
      ((cache.addToCache query authorityZone record t).1 = false →
        (cache.addToCache query authorityZone record t).2 = cache) ∧
      (newEntry record t).expiry.toNat = expiryOf record t) ∧
    (∀ name t, call = .get name t →
      (∀ found, cache.getFromCache name t = some found ↔
        ∃ r t0, lastAdded calls = some (r, t0) ∧ qnameEq r.name name = true ∧ t.toNat < expiryOf r t0 ∧
          found = { r with ttl := found.ttl } ∧
          found.ttl.toNat = min r.ttl.toNat (expiryOf r t0 - t.toNat)) ∧
      (∀ found r t0, cache.getFromCache name t = some found → lastAdded calls = some (r, t0) →
        1 ≤ found.ttl.toNat ∧ found.ttl.toNat ≤ r.ttl.toNat - (t.toNat - t0.toNat))) ∧
    (∀ i, i ≠ 0 → (cache.call call).entries[i]? = first.entries[i]?) := by
  intro cache
  have start : DnsCache.Remembers first first none := ⟨sized, empty, fun _ _ => rfl, rfl⟩
  have holds : DnsCache.Remembers first cache (lastAdded calls) := start.run calls
  have earlier : ∀ r t0, lastAdded calls = some (r, t0) → t0.toNat ≤ call.time.toNat := by
    intro r t0 last
    rcases lastAdded_mem last with never | ⟨before, member, time⟩
    · cases never
    · have first := (List.pairwise_append.mp ordered).2.2 before member call (by simp)
      rw [show before.time = t0 from time] at first
      exact UInt64.le_iff_toNat_le.mp first
  refine ⟨?_, ?_, (holds.call call).others⟩
  · rintro query authorityZone record t -
    rw [DnsCache.addToCache_eq holds.sized]
    refine ⟨?_, ?_, newEntry_expiry record t⟩
    · split <;> simp_all
    · split <;> simp
  · rintro name t rfl
    refine ⟨holds.get_iff earlier name, ?_⟩
    intro found r t0 got last
    obtain ⟨r', t0', last', -, live, -, ttl⟩ := (holds.get_iff earlier name found).mp got
    rw [last, Option.some.injEq, Prod.mk.injEq] at last'
    obtain ⟨rfl, rfl⟩ := last'
    obtain ⟨-, positive, bounded⟩ := agedTtl_bounds (earlier r t0 last) live
    rw [ttl]
    exact ⟨positive, Nat.le_sub_of_add_le bounded⟩

/-- An address of www.example.com that may be kept for a minute. -/
def addressRecord : ResourceRecord where
  name := [⟨[119, 119, 119], by decide⟩, ⟨[101, 120, 97, 109, 112, 108, 101], by decide⟩, ⟨[99, 111, 109], by decide⟩]
  rtype := .A
  rclass := 1
  ttl := 60
  rdlen := 4
  rdata := [192, 0, 2, 1]

/-- Put in at time 10, asked for in capitals at time 20. -/
theorem cache_serves_address_record :
    let zone : Qname := addressRecord.name.drop 1
    let asked : Qname := [⟨[87, 87, 87], by decide⟩] ++ zone
    let cache := (DnsCache.mk [none, none] 1).run [.add asked zone addressRecord 10]
    cache.getFromCache asked 20 = some { addressRecord with ttl := 50 } ∧
      cache.entries[1]? = some none := by
  have served := cache_serves_last_added ⟨[none, none], 1⟩ (by decide) rfl
    [.add (⟨[87, 87, 87], by decide⟩ :: addressRecord.name.drop 1) (addressRecord.name.drop 1) addressRecord 10]
    (.get (⟨[87, 87, 87], by decide⟩ :: addressRecord.name.drop 1) 20) (by decide)
  refine ⟨(served.2.1 _ _ rfl).1 _ |>.mpr ⟨addressRecord, 10, ?_, ?_, ?_, ?_, ?_⟩, served.2.2 1 (by decide)⟩
  all_goals decide +kernel

end Ism
