import CachingLayer.Cache.MemoryStore
import CachingLayer.Cache.Namespace

/-!
# Semantic cache

`lookup`: embed the prompt, search its namespace, compare the best score with the
threshold.  `store_response`: embed the prompt and write one entry (`newEntry`).  What a lookup
concludes from the matches found is `outcome`, apart, for a lookup that is
interrupted between its search and its end.
-/

namespace CachingLayer

inductive CacheStatus
  | hit
  | miss
deriving DecidableEq

/-- Outcome of a lookup; `best` is the source's `match`. -/
structure CacheLookup (F : Type) where
  status : CacheStatus
  score : F
  latencyMs : ℚ
  best : Option (ScoredEntry F) := none
  nearMiss : Bool := false

namespace CacheLookup

variable {F : Type}

def isHit (l : CacheLookup F) : Bool := l.status = .hit

/-- The match of a HIT: `lookup.is_hit and lookup.match is not None`. -/
def served (l : CacheLookup F) : Option (ScoredEntry F) := if l.isHit then l.best else none

end CacheLookup

/-- `perf_counter` and `time` as one lookup reads them. -/
structure LookupReadings where
  started : ℚ
  now : ℚ
  finished : ℚ

def LookupReadings.latencyMs (r : LookupReadings) : ℚ := (r.finished - r.started) * 1000

structure SemanticCache (F : Type) where
  embed : String → List F
  threshold : F
  nearMissWindow : F
  topK : Nat

namespace SemanticCache

section
variable {F : Type} (c : SemanticCache F)

/-- The threshold given, else the default one. -/
def effectiveThreshold (threshold : Option F) : F := threshold.getD c.threshold

/-- The entry `store_response` builds; `id` and `createdAt` are its default factories'. -/
def newEntry (signature : RequestSignature) (prompt : String) (response : Dict) (ttlSeconds : Int)
    (tags : List String) (promptTokens completionTokens : Int) (id : String) (createdAt : ℚ) :
    CacheEntry F where
  id := id
  namespaceKey := signature.namespaceKey
  prompt := prompt
  embedding := c.embed prompt
  response := response
  model := signature.model
  provider := signature.provider
  systemPromptHash := signature.systemPromptHash
  temperature := signature.temperature
  maxTokens := signature.maxTokens
  createdAt := createdAt
  ttlSeconds := ttlSeconds
  promptTokens := promptTokens
  completionTokens := completionTokens
  tags := tags

end

section
variable {F : Type} [Field F] [LinearOrder F] (np : Numpy F) (c : SemanticCache F)

/-- What the matches found say against the threshold. -/
def outcome (threshold : Option F) (found : List (ScoredEntry F)) (latencyMs : ℚ) : CacheLookup F :=
  let effective := c.effectiveThreshold threshold
  match found.head? with
  | none => { status := .miss, score := 0, latencyMs }
  | some best =>
    if effective ≤ best.score then
      { status := .hit, score := best.score, latencyMs, best := some best }
    else
      { status := .miss, score := best.score, latencyMs, best := some best
        nearMiss := effective - c.nearMissWindow ≤ best.score && best.score < effective }

/-- The outcome, and the store after: a HIT counts on its entry. -/
def lookup (store : InMemoryVectorStore F) (signature : RequestSignature) (prompt : String)
    (threshold : Option F) (r : LookupReadings) : Except PyError (CacheLookup F × InMemoryVectorStore F) := do
  let found ← store.search np r.now signature.namespaceKey (c.embed prompt) c.topK
  let l := c.outcome threshold found r.latencyMs
  return (l,
    match l.served with
    | some best => store.incrementHit best.id
    | none => store)

/-! ## Lemmas -/

/-- A HIT serves the first match found, and its score reaches the threshold. -/
theorem served_outcome (threshold : Option F) (found : List (ScoredEntry F)) (ms : ℚ) (s : ScoredEntry F) :
    (c.outcome threshold found ms).served = some s ↔
      found.head? = some s ∧ c.effectiveThreshold threshold ≤ s.score := by
  unfold outcome
  cases hf : found.head? with
  | none => simp [CacheLookup.served, CacheLookup.isHit]
  | some best =>
    simp only []
    by_cases h : c.effectiveThreshold threshold ≤ best.score
    · rw [if_pos h]
      simp only [CacheLookup.served, CacheLookup.isHit, decide_true, if_true, Option.some.injEq]
      constructor
      · rintro rfl; exact ⟨rfl, h⟩
      · exact fun h => h.1
    · rw [if_neg h]
      simp only [CacheLookup.served, CacheLookup.isHit, reduceCtorEq, decide_false, Bool.false_eq_true,
        if_false, Option.some.injEq, false_iff]
      rintro ⟨rfl, h'⟩
      exact h h'

/-- A match is served exactly on a HIT. -/
theorem served_outcome_eq_none_iff (threshold : Option F) (found : List (ScoredEntry F)) (ms : ℚ) :
    (c.outcome threshold found ms).served = none ↔ (c.outcome threshold found ms).status = .miss := by
  unfold outcome
  cases found.head? with
  | none => simp [CacheLookup.served, CacheLookup.isHit]
  | some best =>
    simp only []
    split <;> simp [CacheLookup.served, CacheLookup.isHit]

/-- The score of a HIT is its match's. -/
theorem score_outcome (threshold : Option F) (found : List (ScoredEntry F)) (ms : ℚ) (s : ScoredEntry F)
    (h : (c.outcome threshold found ms).served = some s) :
    (c.outcome threshold found ms).score = s.score := by
  obtain ⟨hf, ht⟩ := (c.served_outcome threshold found ms s).mp h
  unfold outcome
  rw [hf]
  simp only [if_pos ht]

/-- Only the first match counts. -/
theorem outcome_head (threshold : Option F) (found : List (ScoredEntry F)) (ms : ℚ) (best : ScoredEntry F)
    (h : found.head? = some best) : c.outcome threshold found ms = c.outcome threshold [best] ms := by
  unfold outcome
  rw [h]
  rfl

/-- What a lookup that goes through is. -/
theorem lookup_ok (store store' : InMemoryVectorStore F) (signature : RequestSignature) (prompt : String)
    (threshold : Option F) (r : LookupReadings) (l : CacheLookup F)
    (h : c.lookup np store signature prompt threshold r = .ok (l, store')) :
    ∃ found, store.search np r.now signature.namespaceKey (c.embed prompt) c.topK = .ok found ∧
      l = c.outcome threshold found r.latencyMs ∧
      store' = match l.served with
        | some best => store.incrementHit best.id
        | none => store := by
  unfold lookup at h
  cases hs : store.search np r.now signature.namespaceKey (c.embed prompt) c.topK with
  | error e => rw [hs] at h; cases h
  | ok found =>
    rw [hs] at h
    obtain ⟨rfl, rfl⟩ := Prod.mk.inj (Except.ok.inj h)
    exact ⟨found, rfl, rfl, rfl⟩

/-- A lookup raises what its search raises. -/
theorem lookup_error (store : InMemoryVectorStore F) (signature : RequestSignature) (prompt : String)
    (threshold : Option F) (r : LookupReadings) (e : PyError)
    (h : c.lookup np store signature prompt threshold r = .error e) :
    store.search np r.now signature.namespaceKey (c.embed prompt) c.topK = .error e := by
  unfold lookup at h
  cases hs : store.search np r.now signature.namespaceKey (c.embed prompt) c.topK with
  | error e' => rw [hs] at h; exact congrArg _ (Except.error.inj h)
  | ok found => rw [hs] at h; cases h

/-- With nothing live in its namespace a lookup misses. -/
theorem lookup_of_liveEntries_nil (store : InMemoryVectorStore F) (signature : RequestSignature) (prompt : String)
    (threshold : Option F) (r : LookupReadings)
    (h : store.liveEntries r.now signature.namespaceKey = []) :
    ∃ l, c.lookup np store signature prompt threshold r = .ok (l, store) ∧ l.status = .miss := by
  have hsearch : store.search np r.now signature.namespaceKey (c.embed prompt) c.topK = .ok [] := by
    unfold InMemoryVectorStore.search
    rw [h]
    rfl
  refine ⟨c.outcome threshold [] r.latencyMs, ?_, rfl⟩
  unfold lookup
  rw [hsearch]
  rfl

/-- A lookup that misses leaves the store. -/
theorem lookup_miss (store store' : InMemoryVectorStore F) (signature : RequestSignature) (prompt : String)
    (threshold : Option F) (r : LookupReadings) (l : CacheLookup F)
    (h : c.lookup np store signature prompt threshold r = .ok (l, store')) (hmiss : l.status = .miss) :
    l.served = none ∧ store' = store := by
  obtain ⟨found, -, rfl, rfl⟩ := c.lookup_ok np store store' signature prompt threshold r l h
  have hnone := (c.served_outcome_eq_none_iff threshold found r.latencyMs).mpr hmiss
  refine ⟨hnone, ?_⟩
  simp only [hnone]

end

end SemanticCache

end CachingLayer
