import CachingLayer.Cache.MemoryCalls
import CachingLayer.Cache.RedisCalls

/-!
# Expiry in the two backends

Redis sets a deadline when an entry is written, and only for a positive TTL; the in-memory
store compares ages when it searches, and only then.

Main results:

* `expiry_agrees_iff` — after any calls that leave an entry alone, the backends agree on
  whether a search may return it exactly when its TTL is positive.
* `expired_invisible_iff` — after any calls, `count`, `get`, `delete` and `clear` of the
  in-memory store pass over expired entries exactly when it holds none.
-/

namespace CachingLayer

open Text

/-! ## In Redis -/

namespace RedisVectorStore

section
variable {F : Type} (store : RedisVectorStore F)

/-- A search of its namespace may return the entry: its document is there, with its
namespace and an embedding. -/
def Eligible (r : Redis String String Bytes) (entry : CacheEntry F) : Prop :=
  ∃ h, r.hashes (store.key entry.id) = some h ∧ h.fields "namespace" = some (encode entry.namespaceKey) ∧
    (h.fields "embedding").isSome

/-- The command writes or removes the document under the id. -/
def Touches (id : String) (s : StoreState F) : StoreAction F → Prop
  | .command client _ =>
    match s.calls client with
    | some (.upserting entry) => entry.id = id
    | some (.expiring entry) => entry.id = id
    | some (.deleting keys) => store.key id ∈ keys
    | _ => False
  | _ => False

/-- The deadline an upsert sets. -/
def deadlineOf (entry : CacheEntry F) : Option ℚ :=
  if entry.ttlSeconds > 0 then some (entry.createdAt + entry.ttlSeconds) else none

/-- Up to its deadline the document is there as written; after it, what is under the key
has no namespace. -/
structure Until (entry : CacheEntry F) (r : Redis String String Bytes) : Prop where
  before : (∀ d ∈ deadlineOf entry, r.now < d) → ∃ h, r.hashes (store.key entry.id) = some h ∧
    h.fields "namespace" = some (encode entry.namespaceKey) ∧ (h.fields "embedding").isSome ∧
    h.deadline = deadlineOf entry
  after : ∀ d ∈ deadlineOf entry, d ≤ r.now → ∀ h, r.hashes (store.key entry.id) = some h →
    h.fields "namespace" = none

section
variable {store} {entry : CacheEntry F} {r : Redis String String Bytes}

theorem Until.eligible_iff (h : Until store entry r) :
    store.Eligible r entry ↔ ∀ d ∈ deadlineOf entry, r.now < d := by
  constructor
  · rintro ⟨hash, hhash, hns, -⟩ d hd
    by_contra hle
    rw [h.after d hd (not_lt.mp hle) hash hhash] at hns
    cases hns
  · intro hlt
    obtain ⟨hash, hhash, hns, hembedding, -⟩ := h.before hlt
    exact ⟨hash, hhash, hns, hembedding⟩

/-- What does not change the document under the key. -/
theorem Until.of_hashes_eq (h : Until store entry r) (r' : Redis String String Bytes) (hnow : r'.now = r.now)
    (hhash : r'.hashes (store.key entry.id) = r.hashes (store.key entry.id)) : Until store entry r' where
  before := by rw [hnow, hhash]; exact h.before
  after := by rw [hnow, hhash]; exact h.after

/-- What changes the document of another entry only. -/
theorem Until.of_other (h : Until store entry r) (r' : Redis String String Bytes) (hnow : r'.now = r.now)
    (id : String) (hid : id ≠ entry.id) (hother : ∀ k, k ≠ store.key id → r'.hashes k = r.hashes k) :
    Until store entry r' := by
  apply h.of_hashes_eq r' hnow
  apply hother
  intro hkey
  exact hid ((store.key_inj _ _).mp hkey).symm

/-- Time passing. -/
theorem Until.advance (h : Until store entry r) (now : ℚ) (hle : r.now ≤ now) :
    Until store entry (r.advance now) where
  before := by
    intro hlt
    obtain ⟨hash, hhash, hns, hembedding, hdeadline⟩ := h.before fun d hd => lt_of_le_of_lt hle (hlt d hd)
    refine ⟨hash, ?_, hns, hembedding, hdeadline⟩
    have hdue : hash.isDue now = false := by
      unfold RedisHash.isDue
      rw [hdeadline]
      cases hd : deadlineOf entry with
      | none => rfl
      | some d =>
        have hafter : now < d := hlt d hd
        simpa using hafter
    show (r.hashes _).filter _ = _
    rw [hhash, Option.filter_some_pos (by simp [hdue])]
  after := by
    intro d hd hdue hash hhash
    by_cases hold : d ≤ r.now
    · exact h.after d hd hold hash (r.advance_some now _ hash hhash)
    · -- the deadline has passed just now
      obtain ⟨hash', hhash', -, -, hdeadline⟩ := h.before fun d' hd' => by
        obtain rfl := Option.mem_unique hd hd'
        exact not_le.mp hold
      have hfilter : (r.hashes (store.key entry.id)).filter (fun h => !h.isDue now) = some hash := hhash
      rw [hhash'] at hfilter
      obtain ⟨-, hkept⟩ := Option.filter_eq_some_iff.mp hfilter
      obtain rfl := Option.some.inj (hhash'.symm.trans (r.advance_some now _ hash hhash))
      have hnot : hash'.isDue now = true := by
        unfold RedisHash.isDue
        have hpassed : d ≤ now := hdue
        rw [hdeadline, hd]
        simpa using hpassed
      rw [hnot] at hkept
      cases hkept

/-- An `increment_hit` on the document, or on none. -/
theorem Until.hset_data (h : Until store entry r) (data : Bytes) :
    Until store entry (r.hset (store.key entry.id) [("data", data)]) where
  before := by
    intro hlt
    obtain ⟨hash, hhash, hns, hembedding, hdeadline⟩ := h.before hlt
    rw [Redis.hset_self, hhash]
    exact ⟨_, rfl, hns, hembedding, hdeadline⟩
  after := by
    intro d hd hdue hash hhash
    rw [Redis.hset_self] at hhash
    obtain rfl := Option.some.inj hhash
    cases hold : r.hashes (store.key entry.id) with
    | none => rfl
    | some hash => exact h.after d hd hdue hash hold

end

/-- A new entry, written at the time it was created. -/
theorem until_upsert (entry : CacheEntry F) (r : Redis String String Bytes) (hnow : r.now = entry.createdAt)
    (hfresh : r.hashes (store.key entry.id) = none) : Until store entry (store.upsert entry r) := by
  obtain ⟨hash, hhash, hfields, hdeadline⟩ := store.upsert_hash entry r
  rw [hfresh, hnow] at hdeadline
  have hclock : (store.upsert entry r).now = entry.createdAt := by
    unfold upsert
    split
    · exact (Redis.expire_now _ _ _).trans hnow
    · exact hnow
  constructor
  · intro _
    exact ⟨hash, hhash, hfields _ _ rfl, by rw [hfields _ _ rfl]; rfl, hdeadline⟩
  · intro d hd hdue
    rw [hclock] at hdue
    unfold deadlineOf at hd
    split at hd
    · next hpos =>
      obtain rfl := Option.some.inj hd
      have : (0 : ℚ) < entry.ttlSeconds := by exact_mod_cast hpos
      linarith
    · cases hd

end

section
variable {F : Type} [Field F] [LinearOrder F] {store : RedisVectorStore F} {cache : SemanticCache F}

/-- **Step.**  Whatever does not write or remove the document. -/
theorem Until.step {entry : CacheEntry F} (s s' : StoreState F) (a : StoreAction F)
    (h : store.step cache s a = some s') (huntil : Until store entry s.redis)
    (htouches : ¬ store.Touches entry.id s a) : Until store entry s'.redis := by
  rcases store.step_cases cache s s' a h with ⟨now, rfl, hle, rfl⟩ | ⟨client, request, rfl, -, rfl⟩ |
    ⟨client, docs, call, rfl, hc, rfl⟩ | ⟨client, rfl, rfl⟩
  · exact huntil.advance now hle
  · exact huntil
  · simp only [Touches, hc] at htouches
    show Until store entry (store.run cache docs s.redis call).1
    cases call with
    | upserting e =>
      exact huntil.of_other _ rfl e.id htouches fun k hk => Redis.hset_of_ne _ _ k _ hk
    | expiring e =>
      exact huntil.of_other _ (Redis.expire_now _ _ _) e.id htouches fun k hk => Redis.expire_of_ne _ _ _ k hk
    | setting entryId e =>
      by_cases hid : entryId = entry.id
      · subst hid
        exact huntil.hset_data (store.codec.dumps e)
      · exact huntil.of_other _ rfl entryId hid fun k hk => Redis.hset_of_ne _ _ k _ hk
    | deleting keys => exact huntil.of_hashes_eq _ rfl (Redis.del_of_notMem _ keys _ htouches)
    | searching _ _ _ => exact huntil
    | getting _ => exact huntil
    | matching _ => exact huntil
  · exact huntil

/-- **Run.**  After calls that leave the document alone, a search may return it exactly
before the deadline, and always if there is none. -/
theorem eligible_iff {entry : CacheEntry F} {s₀ : StoreState F} (run : Run (store.step cache) s₀)
    (r : Redis String String Bytes) (hstart : s₀.redis = store.upsert entry r) (hnow : r.now = entry.createdAt)
    (hfresh : r.hashes (store.key entry.id) = none) (n : ℕ) (hn : n ≤ run.len)
    (hkept : ∀ k < n, ¬ store.Touches entry.id (run.state k) (run.act k)) :
    store.Eligible (run.state n).redis entry ↔ ∀ d ∈ deadlineOf entry, (run.state n).redis.now < d := by
  have huntil : ∀ m ≤ run.len, m ≤ n → Until store entry (run.state m).redis := by
    apply run.inv
    · intro _
      rw [run.init, hstart]
      exact store.until_upsert entry r hnow hfresh
    · intro m hm ih hmn
      exact (ih (by omega)).step _ _ _ (run.next m hm) (hkept m (by omega))
  exact (huntil n hn le_rfl).eligible_iff

end

end RedisVectorStore

/-! ## In memory -/

namespace InMemoryVectorStore

variable {F : Type}

def unexpired (now : ℚ) (e : CacheEntry F) : Bool := !e.isExpired (some now) now

/-- A search of its namespace may return the entry. -/
def Eligible (store : InMemoryVectorStore F) (now : ℚ) (entry : CacheEntry F) : Prop :=
  ∃ e ∈ store.liveEntries now entry.namespaceKey, e.SameRecord entry

theorem unexpired_iff (now : ℚ) (e : CacheEntry F) :
    unexpired now e = true ↔ 0 < e.ttlSeconds ∧ now - e.createdAt ≤ e.ttlSeconds := by
  unfold unexpired
  rw [Bool.not_eq_true', CacheEntry.isExpired_eq_false_iff]

theorem unexpired_sameRecord (now : ℚ) (e e' : CacheEntry F) (h : e.SameRecord e') :
    unexpired now e = unexpired now e' := by
  have httl : e.ttlSeconds = e'.ttlSeconds := congrArg (·.ttlSeconds) h
  have hcreated : e.createdAt = e'.createdAt := congrArg (·.createdAt) h
  rw [Bool.eq_iff_iff, unexpired_iff, unexpired_iff, httl, hcreated]

theorem eligible_iff (store : InMemoryVectorStore F) (now : ℚ) (entry : CacheEntry F) :
    store.Eligible now entry ↔ store.Holds entry ∧ unexpired now entry = true := by
  constructor
  · rintro ⟨e, he, hsame⟩
    obtain ⟨hmem, -, hlive⟩ := (store.mem_liveEntries now _ e).mp he
    rw [← unexpired_sameRecord now e entry hsame, unexpired_iff]
    exact ⟨⟨e, hmem, hsame⟩, hlive⟩
  · rintro ⟨⟨e, hmem, hsame⟩, hlive⟩
    have hns : e.namespaceKey = entry.namespaceKey := congrArg (·.namespaceKey) hsame
    rw [← unexpired_sameRecord now e entry hsame, unexpired_iff] at hlive
    exact ⟨e, (store.mem_liveEntries now _ e).mpr ⟨hmem, hns, hlive⟩, hsame⟩

end InMemoryVectorStore

/-! ## Agreement -/

section
variable {F : Type} [Field F] [LinearOrder F] {store : RedisVectorStore F} {cache : SemanticCache F}

/-- **Expiry.**  A new entry is written to both backends, and calls that leave it alone
follow.  At any time but that of its expiry, a search of the one may return it if and only
if a search of the other may, exactly when its TTL is positive. -/
theorem expiry_agrees_iff (entry : CacheEntry F) {s₀ : StoreState F} (run : Run (store.step cache) s₀)
    (r : Redis String String Bytes) (hstart : s₀.redis = store.upsert entry r) (hnow : r.now = entry.createdAt)
    (hfresh : r.hashes (store.key entry.id) = none) (n : ℕ) (hn : n ≤ run.len)
    (hkept : ∀ k < n, ¬ store.Touches entry.id (run.state k) (run.act k)) {t₀ : MemoryState F}
    (run' : Run InMemoryVectorStore.step t₀) (mem : InMemoryVectorStore F) (hstart' : t₀.store = mem.upsert entry)
    (m : ℕ) (hm : m ≤ run'.len) (hkept' : ∀ k < m, (run'.act k).call.removes entry = false)
    (htime : (run.state n).redis.now ≠ entry.createdAt + entry.ttlSeconds) :
    (store.Eligible (run.state n).redis entry ↔
        (run'.state m).store.Eligible (run.state n).redis.now entry) ↔ 0 < entry.ttlSeconds := by
  have hholds : (run'.state m).store.Holds entry := by
    rw [InMemoryVectorStore.holds_iff run' entry m hm]
    left
    rw [hstart']
    exact ⟨⟨entry, (Keyed.mem_put _ _ _).mpr (Or.inl rfl), rfl⟩, hkept'⟩
  rw [RedisVectorStore.eligible_iff run r hstart hnow hfresh n hn hkept, InMemoryVectorStore.eligible_iff,
    InMemoryVectorStore.unexpired_iff]
  unfold RedisVectorStore.deadlineOf
  by_cases hpos : 0 < entry.ttlSeconds
  · have hlt : (run.state n).redis.now < entry.createdAt + entry.ttlSeconds ↔
        (run.state n).redis.now - entry.createdAt ≤ entry.ttlSeconds := by
      constructor
      · intro h; linarith
      · intro h
        apply lt_of_le_of_ne _ htime
        linarith
    simp [hpos, hholds, hlt]
  · simp [hpos]

end

/-- An entry of `ttlSeconds` that `store_response` makes. -/
def madeEntry (ttlSeconds : Int) : CacheEntry ℚ :=
  plainCache.newEntry plainSignature "describe the ocean" [] ttlSeconds [] 0 0 storedEntry.id 1700000000

/-- Both backends just after the entry was written. -/
def writtenRedis (ttlSeconds : Int) : StoreState ℚ where
  redis := plainStore.upsert (madeEntry ttlSeconds) { now := 1700000000 }

def writtenMemory (ttlSeconds : Int) : MemoryState ℚ where
  now := 1700000000
  store := InMemoryVectorStore.upsert .new (madeEntry ttlSeconds)

/-- Half a minute later. -/
def redisWait (ttlSeconds : Int) : Run (plainStore.step plainCache) (writtenRedis ttlSeconds) :=
  .ofExec _ _ { writtenRedis ttlSeconds with redis := (writtenRedis ttlSeconds).redis.advance 1700000030 }
    [.tick 1700000030] (by
      have hnow : (writtenRedis ttlSeconds).redis.now = 1700000000 := by
        unfold writtenRedis RedisVectorStore.upsert
        split
        · exact Redis.expire_now _ _ _
        · rfl
      have hle : (writtenRedis ttlSeconds).redis.now ≤ 1700000030 := by rw [hnow]; norm_num
      rw [Run.exec_cons]
      simp only [RedisVectorStore.step, if_pos hle]
      rfl)

def memoryWait (ttlSeconds : Int) : Run InMemoryVectorStore.step (writtenMemory ttlSeconds) :=
  .ofExec _ _ { writtenMemory ttlSeconds with now := 1700000030 }
    [⟨1700000030, .search plainSignature.namespaceKey [1] 5⟩] (by
      have hle : (writtenMemory ttlSeconds).now ≤ 1700000030 := by norm_num [writtenMemory]
      rw [Run.exec_cons]
      simp only [InMemoryVectorStore.step, if_pos hle]
      rfl)

theorem redisWait_untouched (ttlSeconds : Int) : ∀ k < 1,
    ¬ plainStore.Touches (madeEntry ttlSeconds).id ((redisWait ttlSeconds).state k) ((redisWait ttlSeconds).act k) := by
  intro k hk
  obtain rfl : k = 0 := by omega
  exact id

theorem memoryWait_untouched (ttlSeconds : Int) : ∀ k < 1,
    ((memoryWait ttlSeconds).act k).call.removes (madeEntry ttlSeconds) = false := by
  intro k hk
  obtain rfl : k = 0 := by omega
  rfl

theorem expiry_agrees_minute :
    plainStore.Eligible ((redisWait 60).state 1).redis (madeEntry 60) ↔
      ((memoryWait 60).state 1).store.Eligible 1700000030 (madeEntry 60) :=
  (expiry_agrees_iff (madeEntry 60) (redisWait 60) { now := 1700000000 } rfl rfl rfl 1 le_rfl
    (redisWait_untouched 60) (memoryWait 60) .new rfl 1 le_rfl (memoryWait_untouched 60)
    (by decide +kernel)).mpr (by decide)

/-- With a TTL of zero Redis keeps the entry, and the in-memory store never returns it. -/
theorem expiry_zero :
    plainStore.Eligible ((redisWait 0).state 1).redis (madeEntry 0) ∧
      ¬ ((memoryWait 0).state 1).store.Eligible 1700000030 (madeEntry 0) := by
  constructor
  · rw [RedisVectorStore.eligible_iff (redisWait 0) { now := 1700000000 } rfl rfl rfl 1 le_rfl
      (redisWait_untouched 0)]
    intro d hd
    cases hd
  · rw [InMemoryVectorStore.eligible_iff, InMemoryVectorStore.unexpired_iff]
    rintro ⟨-, hpos, -⟩
    exact absurd hpos (by decide)

/-! ## Expired entries in memory -/

theorem MemoryCall.removes_sameRecord {F : Type} (call : MemoryCall F) (e e' : CacheEntry F)
    (h : e.SameRecord e') : call.removes e = call.removes e' := by
  have hid : e.id = e'.id := congrArg (·.id) h
  cases call with
  | upsert entry => simp only [removes, hid]
  | delete model systemPromptHash tag =>
    simp only [removes, InMemoryVectorStore.matchesFilter_sameRecord model systemPromptHash tag e e' h]
  | _ => rfl

namespace InMemoryVectorStore

variable {F : Type}

/-- What the store says of itself at a time is about its unexpired entries. -/
structure ExpiredInvisible (store : InMemoryVectorStore F) (now : ℚ) : Prop where
  count : store.count = (store.items.filter (unexpired now)).length
  get : ∀ entryId, ∀ e ∈ store.get entryId, unexpired now e = true
  delete : ∀ model systemPromptHash tag, ¬ (model = none ∧ systemPromptHash = none ∧ tag = none) →
    (store.delete model systemPromptHash tag).1 =
      ((store.items.filter (unexpired now)).filter (matchesFilter model systemPromptHash tag)).length
  clear : store.clear.1 = (store.items.filter (unexpired now)).length

theorem expiredInvisible_iff (store : InMemoryVectorStore F) (now : ℚ) :
    ExpiredInvisible store now ↔ ∀ e ∈ store.items, unexpired now e = true := by
  constructor
  · intro h
    have hcount : (store.items.filter (unexpired now)).length = store.items.length := h.count.symm
    exact List.length_filter_eq_length_iff.mp hcount
  · intro h
    have hall : store.items.filter (unexpired now) = store.items := List.filter_eq_self.mpr h
    refine ⟨?_, ?_, ?_, ?_⟩
    · rw [hall]; rfl
    · intro entryId e he
      exact h e (List.mem_of_find?_eq_some he)
    · intro model systemPromptHash tag hsome
      rw [hall, delete_eq store model systemPromptHash tag hsome]
    · rw [hall]; rfl

/-- **Visibility.**  After any calls and at any time, expired entries do not show exactly
when every entry that was put there, and neither replaced nor removed since, is unexpired. -/
theorem expired_invisible_iff (t₀ : ℚ) (run : Run step { now := t₀ : MemoryState F }) (n : ℕ) (hn : n ≤ run.len)
    (now : ℚ) :
    ExpiredInvisible (run.state n).store now ↔
      ∀ i < n, ∀ entry, (run.act i).call = .upsert entry →
        (∀ k, i < k → k < n → (run.act k).call.removes entry = false) → unexpired now entry = true := by
  rw [expiredInvisible_iff]
  constructor
  · intro h i hi entry hput hkept
    obtain ⟨e, he, hsame⟩ := (holds_iff run entry n hn).mpr (Or.inr ⟨i, hi, ⟨entry, hput, rfl⟩, hkept⟩)
    rw [← unexpired_sameRecord now e entry hsame]
    exact h e he
  · intro h e he
    rcases (holds_iff run e n hn).mp ⟨e, he, rfl⟩ with ⟨⟨e', he', -⟩, -⟩ | ⟨i, hi, ⟨entry, hput, hsame⟩, hkept⟩
    · cases he'
    · rw [← unexpired_sameRecord now entry e hsame]
      apply h i hi entry hput
      intro k hik hkn
      rw [(run.act k).call.removes_sameRecord entry e hsame]
      exact hkept k hik hkn

/-- An empty store, and one entry put there. -/
def oneUpsert (ttlSeconds : Int) : Run step { now := 1700000000 : MemoryState ℚ } :=
  .ofExec _ _ (writtenMemory ttlSeconds) [⟨1700000000, .upsert (madeEntry ttlSeconds)⟩] (by
    rw [Run.exec_cons]
    simp only [step, if_pos le_rfl]
    rfl)

theorem expired_invisible_minute : ExpiredInvisible ((oneUpsert 60).state 1).store 1700000030 := by
  apply (expired_invisible_iff 1700000000 (oneUpsert 60) 1 le_rfl 1700000030).mpr
  intro i hi entry hput _
  obtain rfl : i = 0 := by omega
  obtain rfl := MemoryCall.upsert.inj hput
  decide +kernel

/-- After two minutes the entry is counted, returned, and reported as removed. -/
theorem expired_visible :
    ((oneUpsert 60).state 1).store.items.all (fun e => !unexpired 1700000120 e) = true ∧
      ((oneUpsert 60).state 1).store.count = 1 ∧
      (((oneUpsert 60).state 1).store.get storedEntry.id).isSome ∧
      ((oneUpsert 60).state 1).store.clear.1 = 1 ∧
      ¬ ExpiredInvisible ((oneUpsert 60).state 1).store 1700000120 := by
  refine ⟨by decide +kernel, rfl, by decide +kernel, rfl, ?_⟩
  rw [expiredInvisible_iff]
  intro h
  have hlive : unexpired 1700000120 (madeEntry 60) = true := h _ (List.mem_singleton.mpr rfl)
  exact absurd hlive (by decide +kernel)

end InMemoryVectorStore

end CachingLayer
