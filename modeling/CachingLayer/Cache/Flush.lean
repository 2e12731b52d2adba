import CachingLayer.Cache.RedisCalls

/-!
# Flushing the Redis store

`clear` and `delete` remove what one page of `FT.SEARCH` returns, `pageSize` documents at
most.

Main result: `flush_complete_iff` — both are complete, and return the right number,
exactly while no more documents match than one page holds.
-/

namespace CachingLayer

open Text

namespace RedisVectorStore

section
variable {F : Type} (store : RedisVectorStore F)

/-- The ids under which a hash is kept that `selected` holds of. -/
def entryIds (r : Redis String String Bytes) (selected : RedisHash String Bytes → Bool) : Set String :=
  {id | ∃ h, r.hashes (store.key id) = some h ∧ selected h = true}

/-- The index lists each document that matches once, and no other. -/
structure Lists (r : Redis String String Bytes) (selected : RedisHash String Bytes → Bool)
    (matching : List String) : Prop where
  nodup : matching.Nodup
  mem : ∀ k, k ∈ matching ↔ ∃ id ∈ store.entryIds r selected, store.key id = k

/-- No entry that `selected` holds of is left, and their number is returned. -/
def Flushed (r : Redis String String Bytes) (selected : RedisHash String Bytes → Bool)
    (result : Nat × Redis String String Bytes) : Prop :=
  store.entryIds result.2 selected = ∅ ∧ result.1 = (store.entryIds r selected).ncard

/-! ## One page -/

section
variable {store} {r : Redis String String Bytes} {selected : RedisHash String Bytes → Bool}
  {matching : List String} (hlists : Lists store r selected matching)
include hlists

theorem Lists.ncard : (store.entryIds r selected).ncard = matching.length := by
  have himage : store.key '' store.entryIds r selected = {k | k ∈ matching.toFinset} := by
    ext k
    rw [Set.mem_ofPred_eq, List.mem_toFinset, hlists.mem]
    rfl
  rw [← Set.ncard_image_of_injective _ fun id id' => (store.key_inj id id').mp, himage,
    ← List.toFinset_card_of_nodup hlists.nodup]
  exact Set.ncard_coe_finset matching.toFinset

/-- Of what is listed, what is selected. -/
theorem Lists.filter (p : RedisHash String Bytes → Bool) :
    Lists store r (fun h => selected h && p h) (matching.filter fun k => (r.hashes k).any p) where
  nodup := hlists.nodup.filter _
  mem := by
    intro k
    rw [List.mem_filter, hlists.mem, Option.any_eq_true]
    constructor
    · rintro ⟨⟨id, ⟨h, hh, hselected⟩, rfl⟩, h', hh', hp⟩
      obtain rfl := Option.some.inj (hh.symm.trans hh')
      exact ⟨id, ⟨h, hh, Bool.and_eq_true_iff.mpr ⟨hselected, hp⟩⟩, rfl⟩
    · rintro ⟨id, ⟨h, hh, hboth⟩, rfl⟩
      obtain ⟨hselected, hp⟩ := Bool.and_eq_true_iff.mp hboth
      exact ⟨⟨id, ⟨h, hh, hselected⟩, rfl⟩, h, hh, hp⟩

omit hlists in
/-- What is left is what the page did not hold. -/
theorem mem_deleteMatching (id : String) :
    id ∈ store.entryIds (deleteMatching matching r).2 selected ↔
      id ∈ store.entryIds r selected ∧ store.key id ∉ matching.take pageSize := by
  unfold deleteMatching entryIds
  simp only [Set.mem_ofPred_eq]
  by_cases hnil : matching.take pageSize = []
  · rw [if_pos hnil, hnil]
    simp
  · rw [if_neg hnil]
    unfold Redis.del
    by_cases hmem : store.key id ∈ matching.take pageSize
    · simp [hmem]
    · simp [hmem]

/-- A flush is complete exactly when one page holds all documents. -/
theorem Lists.flushed_iff :
    store.Flushed r selected (deleteMatching matching r) ↔ matching.length ≤ pageSize := by
  unfold Flushed
  rw [hlists.ncard]
  constructor
  · rintro ⟨-, hnumber⟩
    have hnumber' : (matching.take pageSize).length = matching.length := hnumber
    rw [List.length_take] at hnumber'
    omega
  · intro hle
    have hall : matching.take pageSize = matching := List.take_of_length_le hle
    constructor
    · ext id
      rw [mem_deleteMatching, hall, hlists.mem]
      simp only [Set.mem_empty_iff_false, iff_false, not_and, not_not]
      exact fun hid => ⟨id, hid, rfl⟩
    · show (matching.take pageSize).length = _
      rw [hall]

omit hlists in
/-- A flush touches no other key. -/
theorem deleteMatching_of_notMem (k : String) (hk : k ∉ matching) :
    (deleteMatching matching r).2.hashes k = r.hashes k := by
  have hpage : k ∉ matching.take pageSize := fun h => hk (List.mem_of_mem_take h)
  unfold deleteMatching
  simp only []
  split
  · rfl
  · simp only [Redis.del, if_neg hpage]

end

/-! ## Any size -/

/-- The hashes that `delete`'s query matches; without a filter there is none. -/
def filterSelects (selects : String → RedisHash String Bytes → Bool) (model systemPromptHash tag : Option String)
    (h : RedisHash String Bytes) : Bool :=
  (deleteQuery model systemPromptHash tag).any fun query => selects query h

/-- **Flushing.**  Both removals are complete, and return the number removed, exactly
while no more entries match than one page holds. -/
theorem flush_complete_iff (selects : String → RedisHash String Bytes → Bool)
    (hstar : ∀ h, selects "*" h = true) (r : Redis String String Bytes) (matching : String → List String)
    (hlists : ∀ query, Lists store r (selects query) (matching query)) (model systemPromptHash tag : Option String) :
    (store.Flushed r (fun _ => true) (clear matching r) ↔
        (store.entryIds r fun _ => true).ncard ≤ pageSize) ∧
      (store.Flushed r (filterSelects selects model systemPromptHash tag)
          (delete model systemPromptHash tag matching r) ↔
        (store.entryIds r (filterSelects selects model systemPromptHash tag)).ncard ≤ pageSize) := by
  constructor
  · have hall : selects "*" = fun _ => true := funext hstar
    have hclear := hlists "*"
    rw [hall] at hclear
    rw [hclear.ncard]
    exact hclear.flushed_iff
  · cases hquery : deleteQuery model systemPromptHash tag with
    | none =>
      have hnone : store.entryIds r (filterSelects selects model systemPromptHash tag) = ∅ := by
        ext id
        simp [entryIds, filterSelects, hquery]
      unfold Flushed delete
      rw [hquery]
      simp only [hnone, Set.ncard_empty, Nat.zero_le, and_self]
    | some query =>
      have hfilter : filterSelects selects model systemPromptHash tag = selects query := by
        funext h
        unfold filterSelects
        rw [hquery]
        rfl
      unfold delete
      rw [hquery, hfilter, (hlists query).ncard]
      exact (hlists query).flushed_iff

end

/-! ## Stores -/

/-- A server with the entries upserted. -/
def filled (entries : List (CacheEntry ℚ)) : Redis String String Bytes :=
  entries.foldl (fun r entry => plainStore.upsert entry r) { now := 1700000000 }

theorem upsert_isSome (entry : CacheEntry ℚ) (r : Redis String String Bytes) (k : String) :
    ((plainStore.upsert entry r).hashes k).isSome ↔ k = plainStore.key entry.id ∨ (r.hashes k).isSome := by
  unfold upsert
  by_cases hk : k = plainStore.key entry.id
  · subst hk
    simp only [true_or, iff_true]
    split
    · next hpos =>
      rw [Redis.expire_self _ _ _ hpos, Redis.hset_self]
      rfl
    · rw [Redis.hset_self]
      rfl
  · simp only [hk, false_or]
    split
    · next hpos =>
      unfold Redis.expire
      rw [if_pos hpos]
      simp only [Function.update_of_ne hk, Redis.hset_of_ne _ _ _ _ hk]
    · rw [Redis.hset_of_ne _ _ _ _ hk]

theorem filled_isSome (entries : List (CacheEntry ℚ)) (k : String) :
    ((filled entries).hashes k).isSome ↔ k ∈ entries.map fun e => plainStore.key e.id := by
  have key : ∀ (r : Redis String String Bytes),
      ((entries.foldl (fun r entry => plainStore.upsert entry r) r).hashes k).isSome ↔
        k ∈ (entries.map fun e => plainStore.key e.id) ∨ (r.hashes k).isSome := by
    induction entries with
    | nil => simp
    | cons e entries ih =>
      intro r
      rw [List.foldl_cons, ih, upsert_isSome, List.map_cons, List.mem_cons]
      tauto
  rw [filled, key]
  simp

/-- All entries, listed in the order they were upserted in. -/
theorem lists_filled (entries : List (CacheEntry ℚ)) (hnodup : (entries.map CacheEntry.id).Nodup) :
    Lists plainStore (filled entries) (fun _ => true) (entries.map fun e => plainStore.key e.id) where
  nodup := by
    have hkeys : (entries.map fun e => plainStore.key e.id) = (entries.map CacheEntry.id).map plainStore.key := by
      rw [List.map_map]
      rfl
    rw [hkeys]
    exact hnodup.map fun id id' => (plainStore.key_inj id id').mp
  mem := by
    intro k
    rw [← filled_isSome]
    constructor
    · intro hsome
      obtain ⟨e, -, rfl⟩ := List.mem_map.mp ((filled_isSome entries k).mp hsome)
      obtain ⟨h, hh⟩ := Option.isSome_iff_exists.mp hsome
      exact ⟨e.id, ⟨h, hh, rfl⟩, rfl⟩
    · rintro ⟨id, ⟨h, hh, -⟩, rfl⟩
      rw [hh]
      rfl

/-- Two entries of one model and one of another. -/
def models : List (CacheEntry ℚ) := [
  { storedEntry with id := "a" },
  { storedEntry with id := "b", model := "gpt-4o" },
  { storedEntry with id := "c" }]

/-- `*` matches all, a model its own. -/
def modelSelects (query : String) (h : RedisHash String Bytes) : Bool :=
  query = "*" ∨ (deleteQuery (some "gpt-4o-mini") none none = some query ∧ h.fields "model" = some (encode "gpt-4o-mini"))

def modelMatching (query : String) : List String :=
  (models.map fun e => plainStore.key e.id).filter fun k => ((filled models).hashes k).any (modelSelects query)

/-- Two of the three are deleted by their model, and all by a flush. -/
theorem flush_complete_models :
    plainStore.Flushed (filled models) (fun _ => true) (clear modelMatching (filled models)) ∧
      plainStore.Flushed (filled models) (filterSelects modelSelects (some "gpt-4o-mini") none none)
        (delete (some "gpt-4o-mini") none none modelMatching (filled models)) ∧
      (clear modelMatching (filled models)).1 = 3 ∧
      (delete (some "gpt-4o-mini") none none modelMatching (filled models)).1 = 2 := by
  have hall := lists_filled models (by decide)
  have hiff := flush_complete_iff plainStore modelSelects (fun _ => rfl) (filled models) modelMatching
    (fun query => hall.filter (modelSelects query)) (some "gpt-4o-mini") none none
  have hclear : (clear modelMatching (filled models)).1 = 3 := by decide +kernel
  have hdelete : (delete (some "gpt-4o-mini") none none modelMatching (filled models)).1 = 2 := by decide +kernel
  have hthree : (plainStore.entryIds (filled models) fun _ => true).ncard ≤ pageSize := by
    rw [hall.ncard]
    decide
  have htwo : (plainStore.entryIds (filled models)
      (filterSelects modelSelects (some "gpt-4o-mini") none none)).ncard ≤ pageSize := by
    have hsubset : plainStore.entryIds (filled models) (filterSelects modelSelects (some "gpt-4o-mini") none none) ⊆
        plainStore.entryIds (filled models) fun _ => true := by
      rintro id ⟨h, hh, -⟩
      exact ⟨h, hh, rfl⟩
    refine (Set.ncard_le_ncard hsubset ?_).trans hthree
    exact Set.finite_of_ncard_ne_zero (by rw [hall.ncard]; decide)
  exact ⟨hiff.1.mpr hthree, hiff.2.mpr htwo, hclear, hdelete⟩

/-- One entry more than a page holds. -/
def crowd : List (CacheEntry ℚ) := (List.range (pageSize + 1)).map fun i => { storedEntry with id := i.repr }

theorem length_crowd : crowd.length = pageSize + 1 := by
  unfold crowd
  rw [List.length_map, List.length_range]

theorem nodup_crowd : (crowd.map CacheEntry.id).Nodup := by
  unfold crowd
  rw [List.map_map]
  exact List.nodup_range.map fun i j h => Nat.repr_injective h

/-- The last one stays, and is not counted. -/
theorem clear_crowd :
    Lists plainStore (filled crowd) (fun _ => true) (crowd.map fun e => plainStore.key e.id) ∧
      ¬ plainStore.Flushed (filled crowd) (fun _ => true)
        (clear (fun _ => crowd.map fun e => plainStore.key e.id) (filled crowd)) := by
  have hlists := lists_filled crowd nodup_crowd
  refine ⟨hlists, fun h => ?_⟩
  have hle := hlists.flushed_iff.mp h
  rw [List.length_map, length_crowd] at hle
  omega

end RedisVectorStore

end CachingLayer
