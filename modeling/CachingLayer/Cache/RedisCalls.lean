import CachingLayer.Cache.RedisStore

/-!
# Whole calls of the Redis store

`upsert`, `delete` and `clear` as they are when nothing comes between their commands, and
that they are what the commands do then (`exec_upsert`, `exec_deleteMatching`).  Which
documents match a query is given.
-/

namespace CachingLayer

open Text

namespace RedisVectorStore

section
variable {F : Type} (store : RedisVectorStore F)

def upsert (entry : CacheEntry F) (r : Redis String String Bytes) : Redis String String Bytes :=
  let r := r.hset (store.key entry.id) (store.mapping entry)
  if entry.ttlSeconds > 0 then r.expire (store.key entry.id) entry.ttlSeconds else r

/-- What an upsert leaves under its key. -/
theorem upsert_hash (entry : CacheEntry F) (r : Redis String String Bytes) :
    ∃ h, (store.upsert entry r).hashes (store.key entry.id) = some h ∧
      (∀ f v, (store.mapping entry).lookup f = some v → h.fields f = some v) ∧
      h.deadline = if entry.ttlSeconds > 0 then some (r.now + entry.ttlSeconds)
        else (r.hashes (store.key entry.id)).bind (·.deadline) := by
  have hset : (r.hset (store.key entry.id) (store.mapping entry)).hashes (store.key entry.id) = _ :=
    Redis.hset_self r _ _
  have hdeadline := Redis.hset_deadline r (store.key entry.id) (store.mapping entry) _ hset
  have hfields : ∀ f v, (store.mapping entry).lookup f = some v →
      (((r.hashes (store.key entry.id)).getD .empty).set (store.mapping entry)).fields f = some v := by
    intro f v hf
    show ((store.mapping entry).lookup f).or _ = _
    rw [hf]
    rfl
  unfold upsert
  by_cases hpos : entry.ttlSeconds > 0
  · simp only [if_pos hpos, Redis.expire_self _ _ _ hpos, hset]
    exact ⟨_, rfl, hfields, rfl⟩
  · simp only [if_neg hpos, hset]
    exact ⟨_, rfl, hfields, hdeadline⟩

/-- `paging(0, 10_000)`. -/
def pageSize : Nat := 10000

/-- `_delete_matching`: `matching` are the keys of the documents that match the query. -/
def deleteMatching (matching : List String) (r : Redis String String Bytes) : Nat × Redis String String Bytes :=
  let keys := matching.take pageSize
  (keys.length, if keys = [] then r else r.del keys)

def clear (matching : String → List String) (r : Redis String String Bytes) : Nat × Redis String String Bytes :=
  deleteMatching (matching "*") r

def delete (model systemPromptHash tag : Option String) (matching : String → List String)
    (r : Redis String String Bytes) : Nat × Redis String String Bytes :=
  match deleteQuery model systemPromptHash tag with
  | none => (0, r)
  | some query => deleteMatching (matching query) r

end

/-! ## The commands -/

section
variable {F : Type} [Field F] [LinearOrder F] (store : RedisVectorStore F) (cache : SemanticCache F)
  (s : StoreState F) (client : Nat)

theorem exec_command (docs : List (SearchDoc F)) (call : StoreCall F) (acts : List (StoreAction F))
    (hcall : s.calls client = some call) :
    Run.exec (store.step cache) s (.command client docs :: acts) =
      Run.exec (store.step cache)
        { redis := (store.run cache docs s.redis call).1
          calls := Function.update s.calls client (store.run cache docs s.redis call).2 } acts := by
  rw [Run.exec_cons]
  simp only [step, hcall]
  rfl

theorem exec_start (request : StoreRequest F) (acts : List (StoreAction F)) (hidle : s.calls client = none) :
    Run.exec (store.step cache) s (.start client request :: acts) =
      Run.exec (store.step cache) { s with calls := Function.update s.calls client (start cache request) } acts := by
  rw [Run.exec_cons]
  simp only [step, hidle]
  rfl

/-- An upsert that nothing comes between. -/
theorem exec_upsert (entry : CacheEntry F) (hidle : s.calls client = none) :
    Run.exec (store.step cache) s (.start client (.upsert entry) :: .command client [] ::
        if entry.ttlSeconds > 0 then [.command client []] else []) =
      some { s with redis := store.upsert entry s.redis } := by
  have hcalls : Function.update s.calls client none = s.calls := by
    rw [← hidle]
    exact Function.update_eq_self client s.calls
  rw [exec_start store cache s client _ _ hidle,
    exec_command store cache _ client [] (.upserting entry) _ (Function.update_self ..)]
  unfold upsert
  by_cases hpos : entry.ttlSeconds > 0
  · simp only [if_pos hpos, run]
    rw [exec_command store cache _ client [] (.expiring entry) _ (Function.update_self ..)]
    simp only [run, Function.update_idem, hcalls]
    rfl
  · simp only [if_neg hpos, run, Function.update_idem, hcalls]
    rfl

/-- The commands of `_delete_matching` when nothing comes between. -/
theorem exec_deleteMatching (request : StoreRequest F) (query : String)
    (hstart : start cache request = some (.matching query)) (hidle : s.calls client = none)
    (matching : List String) (docs : List (SearchDoc F)) (hdocs : docs.map (·.id) = matching.take pageSize) :
    Run.exec (store.step cache) s (.start client request :: .command client docs ::
        if docs = [] then [] else [.command client []]) =
      some { s with redis := (deleteMatching matching s.redis).2 } := by
  have hcalls : Function.update s.calls client none = s.calls := by
    rw [← hidle]
    exact Function.update_eq_self client s.calls
  rw [exec_start store cache s client _ _ hidle, hstart,
    exec_command store cache _ client docs (.matching query) _ (Function.update_self ..)]
  unfold deleteMatching
  simp only [← hdocs, List.map_eq_nil_iff]
  by_cases hnil : docs = []
  · simp only [if_pos hnil, run, Function.update_idem, hcalls]
    rfl
  · simp only [if_neg hnil, run]
    rw [exec_command store cache _ client [] (.deleting (docs.map (·.id))) _ (Function.update_self ..)]
    simp only [run, Function.update_idem, hcalls]
    rfl

end

end RedisVectorStore

end CachingLayer
