import CachingLayer.Basis.Redis
import CachingLayer.Basis.Run
import CachingLayer.Basis.Text
import CachingLayer.Cache.SemanticCache
import CachingLayer.Models.Codec

/-!
# The Redis store

`RedisVectorStore` as its clients run it against one server: a call is a sequence of
commands, and between two of them anything may happen.  A call in progress stands at its
next command (`StoreCall`); `run` issues it.  Around the calls the clock ticks and clients
stop (`StoreAction`).  What `FT.SEARCH` returns is part of the action, any documents at all.

What a step can do is said once: to the calls (`step_cases`), and to what is under a key
(`step_hash`).
-/

namespace CachingLayer

open Text

/-- A document found. -/
structure SearchDoc (F : Type) where
  id : String
  data : Bytes
  dist : F

structure RedisVectorStore (F : Type) where
  codec : EntryCodec F
  indexName : String := "semantic_cache"

/-- A call in progress, by the command it is at. -/
inductive StoreCall (F : Type)
  /-- `upsert`: `HSET`. -/
  | upserting (entry : CacheEntry F)
  /-- `upsert`: `EXPIRE`. -/
  | expiring (entry : CacheEntry F)
  /-- `lookup`: `FT.SEARCH`. -/
  | searching (namespaceKey : String) (vector : List F) (threshold : Option F)
  /-- `increment_hit`: `HGET`. -/
  | getting (entryId : String)
  /-- `increment_hit`: `HSET` of the entry read, its hit counted. -/
  | setting (entryId : String) (entry : CacheEntry F)
  /-- `_delete_matching`: `FT.SEARCH`. -/
  | matching (query : String)
  /-- `_delete_matching`: `DEL`. -/
  | deleting (keys : List String)

/-- A call of the store, or a `SemanticCache.lookup` on it. -/
inductive StoreRequest (F : Type)
  | upsert (entry : CacheEntry F)
  | lookup (signature : RequestSignature) (prompt : String) (threshold : Option F)
  | incrementHit (entryId : String)
  | delete (model systemPromptHash tag : Option String)
  | clear

inductive StoreAction (F : Type)
  | tick (now : ℚ)
  | start (client : Nat) (request : StoreRequest F)
  | command (client : Nat) (docs : List (SearchDoc F))
  /-- The client stops or loses its connection. -/
  | stop (client : Nat)

instance {F : Type} : Inhabited (StoreAction F) := ⟨.tick 0⟩

structure StoreState (F : Type) where
  redis : Redis String String Bytes
  calls : Nat → Option (StoreCall F) := fun _ => none

/-- `_escape_tag`. -/
def escapeTag (value : String) : String :=
  String.ofList (value.toList.flatMap fun ch => if ch ∈ "-.@\x7b\x7d|/ ".toList then ['\\', ch] else [ch])

/-- A filter that is given, and not empty, as a clause. -/
def tagClause (field : String) : Option String → Option String
  | some value => if value = "" then none else some ("@" ++ field ++ ":\x7b" ++ escapeTag value ++ "\x7d")
  | none => none

/-- `delete`'s query; without a clause there is none. -/
def deleteQuery (model systemPromptHash tag : Option String) : Option String :=
  match [tagClause "model" model, tagClause "system_prompt_hash" systemPromptHash,
      tagClause "tags" tag].reduceOption with
  | [] => none
  | clauses => some (" ".intercalate clauses)

namespace RedisVectorStore

section
variable {F : Type} (store : RedisVectorStore F)

/-- `_prefix`. -/
def keyPrefix : String := store.indexName ++ ":entry:"

/-- `_key`. -/
def key (entryId : String) : String := store.keyPrefix ++ entryId

def mapping (entry : CacheEntry F) : List (String × Bytes) :=
  [("namespace", encode entry.namespaceKey),
    ("model", encode entry.model),
    ("provider", encode entry.provider),
    ("system_prompt_hash", encode (if entry.systemPromptHash = "" then "none" else entry.systemPromptHash)),
    ("tags", encode (if entry.tags = [] then "none" else ",".intercalate entry.tags)),
    ("created_at", store.codec.float entry.createdAt),
    ("embedding", store.codec.vector entry.embedding),
    ("data", store.codec.dumps entry)]

theorem key_inj (id id' : String) : store.key id = store.key id' ↔ id = id' :=
  String.append_right_inj store.keyPrefix

end

section
variable {F : Type} [Field F] [LinearOrder F] (store : RedisVectorStore F) (cache : SemanticCache F)

/-- What `search` makes of the documents found. -/
def readDocs (docs : List (SearchDoc F)) : Except PyError (List (ScoredEntry F)) :=
  docs.mapM fun doc => do return { entry := ← store.codec.loads doc.data, score := 1 - doc.dist }

/-- The command a call is at, and where it goes from there. -/
def run (docs : List (SearchDoc F)) (r : Redis String String Bytes) :
    StoreCall F → Redis String String Bytes × Option (StoreCall F)
  | .upserting entry =>
    (r.hset (store.key entry.id) (store.mapping entry),
      if entry.ttlSeconds > 0 then some (.expiring entry) else none)
  | .expiring entry => (r.expire (store.key entry.id) entry.ttlSeconds, none)
  | .searching _ _ threshold =>
    (r,
      match store.readDocs docs with
      | .error _ => none
      | .ok found => (cache.outcome threshold found 0).served.map fun best => .getting best.id)
  | .getting entryId =>
    (r,
      match r.hget (store.key entryId) "data" with
      | none => none
      | some raw =>
        match store.codec.loads raw with
        | .error _ => none
        | .ok entry => some (.setting entryId { entry with hitCount := entry.hitCount + 1 }))
  | .setting entryId entry => (r.hset (store.key entryId) [("data", store.codec.dumps entry)], none)
  | .matching _ => (r, if docs = [] then none else some (.deleting (docs.map (·.id))))
  | .deleting keys => (r.del keys, none)

/-- The first command of a call. -/
def start : StoreRequest F → Option (StoreCall F)
  | .upsert entry => some (.upserting entry)
  | .lookup signature prompt threshold =>
    some (.searching signature.namespaceKey (cache.embed prompt) threshold)
  | .incrementHit entryId => some (.getting entryId)
  | .delete model systemPromptHash tag => (deleteQuery model systemPromptHash tag).map .matching
  | .clear => some (.matching "*")

def step (s : StoreState F) : StoreAction F → Option (StoreState F)
  | .tick now => if s.redis.now ≤ now then some { s with redis := s.redis.advance now } else none
  | .start client request =>
    match s.calls client with
    | some _ => none
    | none => some { s with calls := Function.update s.calls client (start cache request) }
  | .command client docs =>
    match s.calls client with
    | some call =>
      let (redis, next) := store.run cache docs s.redis call
      some { redis, calls := Function.update s.calls client next }
    | none => none
  | .stop client => some { s with calls := Function.update s.calls client none }

end

/-! ## What a step can do -/

section
variable {F : Type} [Field F] [LinearOrder F] (store : RedisVectorStore F) (cache : SemanticCache F)

theorem step_cases (s s' : StoreState F) (a : StoreAction F) (h : store.step cache s a = some s') :
    (∃ now, a = .tick now ∧ s.redis.now ≤ now ∧ s' = { s with redis := s.redis.advance now }) ∨
    (∃ client request, a = .start client request ∧ s.calls client = none ∧
      s' = { s with calls := Function.update s.calls client (start cache request) }) ∨
    (∃ client docs call, a = .command client docs ∧ s.calls client = some call ∧
      s' = { redis := (store.run cache docs s.redis call).1
             calls := Function.update s.calls client (store.run cache docs s.redis call).2 }) ∨
    (∃ client, a = .stop client ∧ s' = { s with calls := Function.update s.calls client none }) := by
  cases a with
  | tick now =>
    by_cases hle : s.redis.now ≤ now
    · simp only [step, if_pos hle, Option.some.injEq] at h
      exact Or.inl ⟨now, rfl, hle, h.symm⟩
    · simp only [step, if_neg hle, reduceCtorEq] at h
  | start client request =>
    cases hc : s.calls client with
    | some call => simp only [step, hc, reduceCtorEq] at h
    | none =>
      simp only [step, hc, Option.some.injEq] at h
      exact Or.inr (Or.inl ⟨client, request, rfl, hc, h.symm⟩)
  | command client docs =>
    cases hc : s.calls client with
    | none => simp only [step, hc, reduceCtorEq] at h
    | some call =>
      simp only [step, hc, Option.some.injEq] at h
      exact Or.inr (Or.inr (Or.inl ⟨client, docs, call, rfl, hc, h.symm⟩))
  | stop client =>
    simp only [step, Option.some.injEq] at h
    exact Or.inr (Or.inr (Or.inr ⟨client, rfl, h.symm⟩))

/-- A call's command is run as soon as its client issues it. -/
theorem step_command (s s' : StoreState F) (client : Nat) (docs : List (SearchDoc F)) (call : StoreCall F)
    (h : store.step cache s (.command client docs) = some s') (hc : s.calls client = some call) :
    s'.redis = (store.run cache docs s.redis call).1 ∧
      s'.calls = Function.update s.calls client (store.run cache docs s.redis call).2 := by
  simp only [step, hc, Option.some.injEq] at h
  rw [← h]
  exact ⟨rfl, rfl⟩

/-- An upsert goes on to its `EXPIRE` when its TTL is positive. -/
theorem run_expiring (docs : List (SearchDoc F)) (r : Redis String String Bytes) (call : StoreCall F)
    (entry : CacheEntry F) :
    (store.run cache docs r call).2 = some (.expiring entry) ↔ call = .upserting entry ∧ 0 < entry.ttlSeconds := by
  cases call with
  | upserting e =>
    simp only [run, gt_iff_lt, Option.ite_none_right_eq_some, Option.some.injEq, StoreCall.expiring.injEq,
      StoreCall.upserting.injEq]
    constructor
    · rintro ⟨hpos, rfl⟩
      exact ⟨rfl, hpos⟩
    · rintro ⟨rfl, hpos⟩
      exact ⟨hpos, rfl⟩
  | getting id =>
    simp only [run]
    split
    · simp
    · split <;> simp
  | searching ns v threshold =>
    simp only [run]
    split <;> simp
  | _ => simp [run]

/-- No command leads back to the `HSET` of an upsert. -/
theorem run_ne_upserting (docs : List (SearchDoc F)) (r : Redis String String Bytes) (call : StoreCall F)
    (entry : CacheEntry F) : (store.run cache docs r call).2 ≠ some (.upserting entry) := by
  cases call with
  | getting id =>
    simp only [run]
    split
    · simp
    · split <;> simp
  | searching ns v threshold =>
    simp only [run]
    split <;> simp
  | _ => simp [run]

/-- `increment_hit` is to write what it has just read, one hit more. -/
theorem run_setting (docs : List (SearchDoc F)) (r : Redis String String Bytes) (call : StoreCall F)
    (entryId : String) (entry : CacheEntry F)
    (h : (store.run cache docs r call).2 = some (.setting entryId entry)) :
    call = .getting entryId ∧ ∃ raw read, r.hget (store.key entryId) "data" = some raw ∧
      store.codec.loads raw = .ok read ∧ entry = { read with hitCount := read.hitCount + 1 } := by
  cases call with
  | getting id =>
    simp only [run] at h
    cases hraw : r.hget (store.key id) "data" with
    | none => rw [hraw] at h; cases h
    | some raw =>
      rw [hraw] at h
      cases hread : store.codec.loads raw with
      | error e => simp only [hread, reduceCtorEq] at h
      | ok read =>
        simp only [hread, Option.some.injEq, StoreCall.setting.injEq] at h
        obtain ⟨rfl, rfl⟩ := h
        exact ⟨rfl, raw, read, hraw, hread, rfl⟩
  | searching ns v threshold =>
    simp only [run] at h
    split at h
    · cases h
    · simp at h
  | _ => simp [run] at h

/-- Where a hash comes from: it was there, or a call has just written it. -/
theorem step_hash (s s' : StoreState F) (a : StoreAction F) (h : store.step cache s a = some s')
    (k : String) (hash : RedisHash String Bytes) (hk : s'.redis.hashes k = some hash) :
    s.redis.hashes k = some hash ∨
    ∃ client docs call, a = .command client docs ∧ s.calls client = some call ∧
      ((∃ entry, call = .upserting entry ∧ k = store.key entry.id ∧
          s'.redis = s.redis.hset k (store.mapping entry)) ∨
        (∃ entry h₀, call = .expiring entry ∧ k = store.key entry.id ∧ s.redis.hashes k = some h₀ ∧
          hash = { h₀ with deadline := some (s.redis.now + entry.ttlSeconds) }) ∨
        ∃ entryId entry, call = .setting entryId entry ∧ k = store.key entryId ∧
          s'.redis = s.redis.hset k [("data", store.codec.dumps entry)]) := by
  rcases store.step_cases cache s s' a h with ⟨now, rfl, -, rfl⟩ | ⟨client, request, rfl, -, rfl⟩ |
    ⟨client, docs, call, rfl, hc, rfl⟩ | ⟨client, rfl, rfl⟩
  · exact Or.inl (s.redis.advance_some now k hash hk)
  · exact Or.inl hk
  · simp only [run] at hk ⊢
    cases call with
    | upserting entry =>
      by_cases hkey : k = store.key entry.id
      · subst hkey
        exact Or.inr ⟨client, docs, _, rfl, hc, Or.inl ⟨entry, rfl, rfl, rfl⟩⟩
      · exact Or.inl ((s.redis.hset_of_ne _ k _ hkey).symm.trans hk)
    | expiring entry =>
      rcases s.redis.expire_some _ _ k hash hk with hold | ⟨hkey, -, h₀, hh₀, rfl⟩
      · exact Or.inl hold
      · exact Or.inr ⟨client, docs, _, rfl, hc, Or.inr (Or.inl ⟨entry, h₀, rfl, hkey, hh₀, rfl⟩)⟩
    | setting entryId entry =>
      by_cases hkey : k = store.key entryId
      · subst hkey
        exact Or.inr ⟨client, docs, _, rfl, hc, Or.inr (Or.inr ⟨entryId, entry, rfl, rfl, rfl⟩)⟩
      · exact Or.inl ((s.redis.hset_of_ne _ k _ hkey).symm.trans hk)
    | deleting keys => exact Or.inl (s.redis.del_some keys k hash hk)
    | searching _ _ _ => exact Or.inl hk
    | getting _ => exact Or.inl hk
    | matching _ => exact Or.inl hk
  · exact Or.inl hk

/-- Where a call comes from: it stood there, or was just begun, or has just come there. -/
theorem step_call (s s' : StoreState F) (a : StoreAction F) (h : store.step cache s a = some s')
    (client : Nat) (call : StoreCall F) (hc : s'.calls client = some call) :
    s.calls client = some call ∨ (∃ request, a = .start client request ∧ start cache request = some call) ∨
      ∃ docs before, a = .command client docs ∧ s.calls client = some before ∧
        (store.run cache docs s.redis before).2 = some call := by
  rcases store.step_cases cache s s' a h with ⟨now, rfl, -, rfl⟩ | ⟨other, request, rfl, -, rfl⟩ |
    ⟨other, docs, before, rfl, hb, rfl⟩ | ⟨other, rfl, rfl⟩
  · exact Or.inl hc
  · by_cases hne : client = other
    · subst hne
      simp only [Function.update_self] at hc
      exact Or.inr (Or.inl ⟨request, rfl, hc⟩)
    · exact Or.inl ((Function.update_of_ne hne ..).symm.trans hc)
  · by_cases hne : client = other
    · subst hne
      simp only [Function.update_self] at hc
      exact Or.inr (Or.inr ⟨docs, before, rfl, hb, hc⟩)
    · exact Or.inl ((Function.update_of_ne hne ..).symm.trans hc)
  · by_cases hne : client = other
    · subst hne
      simp only [Function.update_self, reduceCtorEq] at hc
    · exact Or.inl ((Function.update_of_ne hne ..).symm.trans hc)

/-- A call stays where it is until its client issues its command or stops. -/
theorem step_call_stays (s s' : StoreState F) (a : StoreAction F) (h : store.step cache s a = some s')
    (client : Nat) (call : StoreCall F) (hc : s.calls client = some call)
    (hcommand : ∀ docs, a ≠ .command client docs) (hstop : a ≠ .stop client) :
    s'.calls client = some call := by
  rcases store.step_cases cache s s' a h with ⟨now, rfl, -, rfl⟩ | ⟨other, request, rfl, hnone, rfl⟩ |
    ⟨other, docs, before, rfl, -, rfl⟩ | ⟨other, rfl, rfl⟩
  · exact hc
  · have hne : client ≠ other := by
      rintro rfl
      rw [hnone] at hc
      cases hc
    exact (Function.update_of_ne hne ..).trans hc
  · exact (Function.update_of_ne (by rintro rfl; exact hcommand docs rfl) ..).trans hc
  · exact (Function.update_of_ne (by rintro rfl; exact hstop rfl) ..).trans hc

/-- A client that begins no call is in none. -/
theorem calls_of_exec (acts : List (StoreAction F)) (client : Nat)
    (hstart : ∀ request, StoreAction.start client request ∉ acts) (s s' : StoreState F)
    (h : Run.exec (store.step cache) s acts = some s') (hnone : s.calls client = none) :
    s'.calls client = none := by
  induction acts generalizing s with
  | nil =>
    obtain rfl := Option.some.inj h
    exact hnone
  | cons a acts ih =>
    rw [Run.exec_cons] at h
    obtain ⟨u, hu, h⟩ := Option.bind_eq_some_iff.mp h
    refine ih (fun request hmem => hstart request (List.mem_cons_of_mem a hmem)) u h ?_
    cases hc : u.calls client with
    | none => rfl
    | some call =>
      rcases store.step_call cache s u a hu client call hc with hold | ⟨request, rfl, -⟩ |
        ⟨docs, before, -, hold, -⟩
      · rw [hnone] at hold
        cases hold
      · exact absurd List.mem_cons_self (hstart request)
      · rw [hnone] at hold
        cases hold

theorem calls_of_ofExec (acts : List (StoreAction F)) (client : Nat)
    (hstart : ∀ request, StoreAction.start client request ∉ acts) (s s' : StoreState F)
    (h : Run.exec (store.step cache) s acts = some s') (hnone : s.calls client = none) (n : Nat) :
    ((Run.ofExec (store.step cache) s s' acts h).state n).calls client = none :=
  store.calls_of_exec cache (acts.take n) client (fun request hmem => hstart request (List.mem_of_mem_take hmem))
    s _ (Run.exec_take_ofExec _ s s' acts h n) hnone

end

end RedisVectorStore

/-! ## A store -/

def storedEntry : CacheEntry ℚ where
  id := "fedcba9876543210fedcba9876543210"
  namespaceKey := "0123456789abcdef0123456789abcdef"
  prompt := "describe the ocean"
  embedding := [1]
  response := []
  model := "gpt-4o-mini"
  provider := "openai"
  systemPromptHash := ""
  temperature := .finite 1
  maxTokens := none
  createdAt := 1700000000
  ttlSeconds := 60
  promptTokens := 0
  completionTokens := 0
  tags := []

/-- The entry with its hits counted. -/
def storedEntryHit (hits : Nat) : CacheEntry ℚ := { storedEntry with hitCount := hits }

def plainStore : RedisVectorStore ℚ where
  codec := .ofEntries [storedEntryHit 0, storedEntryHit 1, storedEntryHit 2]

def plainCache : SemanticCache ℚ where
  embed := fun _ => [1]
  threshold := 19 / 20
  nearMissWindow := 1 / 20
  topK := 5

/-- An empty server. -/
def emptyStore : StoreState ℚ where
  redis := { now := 1700000000 }

end CachingLayer
