import CachingLayer.Cache.RedisStore

/-!
# A lookup is the nearest neighbour

In exact arithmetic, `lookup` finds the best of the unexpired entries of its
namespace and compares it with the threshold (`NearestNeighbour`), whatever else the
store holds.

`lookup_nearest`: so it does exactly where the entries can be compared with the prompt,
that is, have embeddings of the dimension of the prompt's; elsewhere numpy raises, or
finds nothing to score.
-/

namespace CachingLayer

namespace InMemoryVectorStore

section
variable {F : Type} [Field F] [LinearOrder F] (np : Numpy F) (store : InMemoryVectorStore F) (now : ℚ)
  (ns : String) (v : List F) (k : Nat)

/-- Empty embeddings have no scores. -/
theorem search_of_embeddings_nil (hnil : ∀ e ∈ store.liveEntries now ns, e.embedding = []) :
    store.search np now ns v k = .ok [] := by
  unfold search
  generalize store.liveEntries now ns = entries at hnil
  have hrow : ∀ row ∈ entries.map (·.embedding), row = [] := by
    intro row hrow
    obtain ⟨e, he, rfl⟩ := List.mem_map.mp hrow
    exact hnil e he
  have hmatrix : asMatrix (entries.map (·.embedding)) = .ok (entries.map (·.embedding)) := by
    unfold asMatrix
    rw [if_pos]
    intro row hmem
    have hhead : (entries.map (·.embedding)).headD [] = [] := by
      cases entries with
      | nil => rfl
      | cons e entries => exact hrow _ List.mem_cons_self
    rw [hrow row hmem, hhead]
  have hsum : ((entries.map (·.embedding)).map List.length).sum = 0 := by
    rw [List.sum_eq_zero_iff]
    intro n hn
    obtain ⟨row, hmem, rfl⟩ := List.mem_map.mp hn
    rw [hrow row hmem]
    rfl
  by_cases hempty : entries.isEmpty = true
  · rw [if_pos hempty]
  · rw [if_neg hempty, hmatrix]
    unfold cosineSimilarityMatrix
    simp only [bind, Except.bind, if_pos hsum]
    rfl

/-- An embedding that is not of the query's dimension raises, unless all are empty. -/
theorem search_of_length_ne (e e' : CacheEntry F) (he : e ∈ store.liveEntries now ns)
    (hne : e.embedding ≠ []) (he' : e' ∈ store.liveEntries now ns)
    (hlength : e'.embedding.length ≠ v.length) : store.search np now ns v k = .error .valueError := by
  unfold search
  generalize store.liveEntries now ns = entries at he he'
  have hempty : ¬ entries.isEmpty = true := by
    intro h
    rw [List.isEmpty_iff.mp h] at he
    cases he
  have hsum : ((entries.map (·.embedding)).map List.length).sum ≠ 0 := by
    rw [Ne, List.sum_eq_zero_iff]
    intro h
    have h0 := h e.embedding.length (List.mem_map_of_mem (List.mem_map_of_mem he))
    exact hne (List.length_eq_zero_iff.mp h0)
  have hrows : ¬ ∀ row ∈ entries.map (·.embedding), row.length = v.length :=
    fun h => hlength (h e'.embedding (List.mem_map_of_mem he'))
  rw [if_neg hempty]
  unfold asMatrix
  split
  · unfold cosineSimilarityMatrix
    simp only [bind, Except.bind, if_neg hsum, if_neg hrows]
  · rfl

end

end InMemoryVectorStore

namespace SemanticCache

section
variable {F : Type} [Field F] [LinearOrder F] (np : Numpy F) (c : SemanticCache F)

/-- The similarity of an entry to a prompt. -/
def similarity (prompt : String) (e : CacheEntry F) : F := rowSimilarity np (c.embed prompt) e.embedding

/-- What a lookup and its store say, `live` being the entries it may serve. -/
structure NearestNeighbour (store : InMemoryVectorStore F) (live : List (CacheEntry F)) (prompt : String)
    (threshold : Option F) (l : CacheLookup F) (store' : InMemoryVectorStore F) : Prop where
  hit_iff : l.status = .hit ↔ ∃ e ∈ live, c.effectiveThreshold threshold ≤ c.similarity np prompt e
  found : live ≠ [] → ∃ s, l.best = some s ∧ s.entry ∈ live ∧ s.score = c.similarity np prompt s.entry ∧
    l.score = s.score ∧ ∀ e ∈ live, c.similarity np prompt e ≤ l.score
  notFound : live = [] → l.best = none ∧ l.score = 0
  nearMiss_iff : l.nearMiss = true ↔ l.status = .miss ∧ live ≠ [] ∧
    c.effectiveThreshold threshold - c.nearMissWindow ≤ l.score ∧ l.score < c.effectiveThreshold threshold
  counted : l.status = .hit → ∃ s before after, l.best = some s ∧ store.items = before ++ s.entry :: after ∧
    store'.items = before ++ { s.entry with hitCount := s.entry.hitCount + 1 } :: after
  kept : l.status = .miss → store' = store

/-- The live entries have embeddings of the dimension of the prompt's, and not of none. -/
def Comparable (live : List (CacheEntry F)) (prompt : String) : Prop :=
  ∀ e ∈ live, e.embedding.length = (c.embed prompt).length ∧ e.embedding ≠ []

section
variable (store : InMemoryVectorStore F) (signature : RequestSignature) (prompt : String)
  (threshold : Option F) (r : LookupReadings)

/-- A lookup whose search goes through. -/
theorem lookup_of_search (found : List (ScoredEntry F))
    (hsearch : store.search np r.now signature.namespaceKey (c.embed prompt) c.topK = .ok found) :
    c.lookup np store signature prompt threshold r = .ok (c.outcome threshold found r.latencyMs,
      match (c.outcome threshold found r.latencyMs).served with
      | some best => store.incrementHit best.id
      | none => store) := by
  unfold lookup
  rw [hsearch]
  rfl

/-- A lookup whose search raises. -/
theorem lookup_of_length_ne (e e' : CacheEntry F)
    (he : e ∈ store.liveEntries r.now signature.namespaceKey) (hne : e.embedding ≠ [])
    (he' : e' ∈ store.liveEntries r.now signature.namespaceKey)
    (hlength : e'.embedding.length ≠ (c.embed prompt).length) :
    c.lookup np store signature prompt threshold r = .error .valueError := by
  unfold lookup
  rw [store.search_of_length_ne np r.now signature.namespaceKey (c.embed prompt) c.topK e e' he hne he' hlength]
  rfl

/-- With nothing to serve a lookup is a plain MISS. -/
theorem nearestNeighbour_nil (latencyMs : ℚ) :
    c.NearestNeighbour np store [] prompt threshold { status := .miss, score := 0, latencyMs } store where
  hit_iff := by simp
  found := by intro h; exact absurd rfl h
  notFound := by intro _; exact ⟨rfl, rfl⟩
  nearMiss_iff := by simp
  counted := by intro h; cases h
  kept := by intro _; rfl

/-- The best of the live entries, compared with the threshold and counted on a HIT. -/
theorem nearestNeighbour_of_best (live : List (CacheEntry F)) (best : ScoredEntry F)
    (rest : List (ScoredEntry F)) (latencyMs : ℚ) (hlive : best.entry ∈ live)
    (hstored : best.entry ∈ store.items) (hscore : best.score = c.similarity np prompt best.entry)
    (hbest : ∀ e ∈ live, c.similarity np prompt e ≤ best.score) :
    c.NearestNeighbour np store live prompt threshold (c.outcome threshold (best :: rest) latencyMs)
      (match (c.outcome threshold (best :: rest) latencyMs).served with
      | some best => store.incrementHit best.id
      | none => store) := by
  have hne : live ≠ [] := List.ne_nil_of_mem hlive
  have hreach : (∃ e ∈ live, c.effectiveThreshold threshold ≤ c.similarity np prompt e) ↔
      c.effectiveThreshold threshold ≤ best.score := by
    constructor
    · rintro ⟨e, he, hle⟩; exact le_trans hle (hbest e he)
    · intro hle; exact ⟨best.entry, hlive, hscore ▸ hle⟩
  unfold outcome
  simp only [List.head?_cons]
  by_cases hhit : c.effectiveThreshold threshold ≤ best.score
  · rw [if_pos hhit]
    refine ⟨?_, ?_, ?_, ?_, ?_, ?_⟩
    · rw [hreach]
      exact ⟨fun _ => hhit, fun _ => rfl⟩
    · intro _; exact ⟨best, rfl, hlive, hscore, rfl, hbest⟩
    · intro h; exact absurd h hne
    · constructor
      · intro h; cases h
      · rintro ⟨h, -⟩; cases h
    · intro _
      obtain ⟨before, after, hitems⟩ := List.append_of_mem hstored
      exact ⟨best, before, after, rfl, hitems, Keyed.items_modify_append_cons store
        (fun e => { e with hitCount := e.hitCount + 1 }) (fun _ => rfl) before after best.entry hitems⟩
    · intro h; cases h
  · rw [if_neg hhit]
    refine ⟨?_, ?_, ?_, ?_, ?_, ?_⟩
    · rw [hreach]
      constructor
      · intro h; cases h
      · intro h; exact absurd h hhit
    · intro _; exact ⟨best, rfl, hlive, hscore, rfl, hbest⟩
    · intro h; exact absurd h hne
    · rw [Bool.and_eq_true, decide_eq_true_eq, decide_eq_true_eq]
      exact ⟨fun h => ⟨rfl, hne, h⟩, fun h => h.2.2⟩
    · intro h; cases h
    · intro _; rfl

/-- Where the live entries can be compared with the prompt, the nearest is found. -/
theorem lookup_of_comparable (h : c.Comparable (store.liveEntries r.now signature.namespaceKey) prompt) :
    ∃ l store', c.lookup np store signature prompt threshold r = .ok (l, store') ∧
      c.NearestNeighbour np store (store.liveEntries r.now signature.namespaceKey) prompt threshold l store' := by
  by_cases hlive : store.liveEntries r.now signature.namespaceKey = []
  · have hsearch := store.search_of_embeddings_nil np r.now signature.namespaceKey (c.embed prompt) c.topK
      (by rw [hlive]; intro e he; cases he)
    rw [hlive]
    exact ⟨_, _, c.lookup_of_search np store signature prompt threshold r [] hsearch,
      c.nearestNeighbour_nil np store prompt threshold r.latencyMs⟩
  · obtain ⟨e, he⟩ := List.exists_mem_of_ne_nil _ hlive
    have hprompt : c.embed prompt ≠ [] := by
      have hlength := (h e he).1
      intro hnil
      rw [hnil] at hlength
      exact (h e he).2 (List.length_eq_zero_iff.mp hlength)
    obtain ⟨best, rest, hsearch, hbest⟩ := store.search_best np r.now signature.namespaceKey (c.embed prompt)
      c.topK hlive (fun e he => (h e he).1) hprompt
    obtain ⟨hmem, hscore⟩ := store.mem_search np r.now signature.namespaceKey (c.embed prompt) c.topK _
      hsearch best List.mem_cons_self
    have hstored := ((store.mem_liveEntries r.now signature.namespaceKey best.entry).mp hmem).1
    exact ⟨_, _, c.lookup_of_search np store signature prompt threshold r _ hsearch,
      c.nearestNeighbour_of_best np store prompt threshold _ best rest r.latencyMs hmem hstored hscore hbest⟩

/-- **Nearest neighbour.**  Where the live entries can be compared with the prompt, a
lookup is the nearest neighbour with a threshold; where they cannot, it misses without
a match if all embeddings are empty, and raises otherwise. -/
theorem lookup_nearest :
    (c.Comparable (store.liveEntries r.now signature.namespaceKey) prompt ∧
        ∃ l store', c.lookup np store signature prompt threshold r = .ok (l, store') ∧
          c.NearestNeighbour np store (store.liveEntries r.now signature.namespaceKey) prompt threshold l
            store') ∨
      (¬ c.Comparable (store.liveEntries r.now signature.namespaceKey) prompt ∧
        (∀ e ∈ store.liveEntries r.now signature.namespaceKey, e.embedding = []) ∧
        c.lookup np store signature prompt threshold r =
          .ok ({ status := .miss, score := 0, latencyMs := r.latencyMs }, store)) ∨
      (¬ c.Comparable (store.liveEntries r.now signature.namespaceKey) prompt ∧
        (∃ e ∈ store.liveEntries r.now signature.namespaceKey, e.embedding ≠ []) ∧
        c.lookup np store signature prompt threshold r = .error .valueError) := by
  by_cases h : c.Comparable (store.liveEntries r.now signature.namespaceKey) prompt
  · exact Or.inl ⟨h, c.lookup_of_comparable np store signature prompt threshold r h⟩
  · right
    by_cases hnil : ∀ e ∈ store.liveEntries r.now signature.namespaceKey, e.embedding = []
    · left
      refine ⟨h, hnil, ?_⟩
      exact c.lookup_of_search np store signature prompt threshold r []
        (store.search_of_embeddings_nil np r.now signature.namespaceKey (c.embed prompt) c.topK hnil)
    · right
      obtain ⟨e, he, hne⟩ : ∃ e ∈ store.liveEntries r.now signature.namespaceKey, e.embedding ≠ [] := by
        simpa only [not_forall, exists_prop] using hnil
      refine ⟨h, ⟨e, he, hne⟩, ?_⟩
      obtain ⟨e', he', hlength⟩ : ∃ e' ∈ store.liveEntries r.now signature.namespaceKey,
          e'.embedding.length ≠ (c.embed prompt).length := by
        by_contra hall
        simp only [not_exists, not_and, not_not] at hall
        -- equal lengths, one of them positive
        apply h
        intro e' he'
        refine ⟨hall e' he', fun hnil' => hne ?_⟩
        have h₁ := hall e he
        have h₂ := hall e' he'
        rw [hnil', List.length_nil] at h₂
        exact List.length_eq_zero_iff.mp (h₁.trans h₂.symm)
      exact c.lookup_of_length_ne np store signature prompt threshold r e e' he hne he' hlength

end

end

/-! ## Two dimensions -/

/-- An entry of `plainSignature`'s namespace. -/
def neighbour (id : String) (embedding : List ℚ) : CacheEntry ℚ :=
  { storedEntry with id, embedding, namespaceKey := plainSignature.namespaceKey }

/-- Two neighbours, of one and of two dimensions. -/
def twoDimensions : InMemoryVectorStore ℚ :=
  InMemoryVectorStore.upsert (InMemoryVectorStore.upsert .new (neighbour "a" [1])) (neighbour "b" [1, 0])

theorem mem_twoDimensions (e : CacheEntry ℚ) (he : e = neighbour "a" [1] ∨ e = neighbour "b" [1, 0]) :
    e ∈ twoDimensions.liveEntries 1700000000 plainSignature.namespaceKey := by
  rw [InMemoryVectorStore.mem_liveEntries]
  unfold twoDimensions InMemoryVectorStore.upsert
  rw [Keyed.mem_put, Keyed.mem_put]
  rcases he with rfl | rfl
  · refine ⟨Or.inr ⟨Or.inl rfl, by decide⟩, rfl, by decide, ?_⟩
    norm_num [neighbour, storedEntry]
  · refine ⟨Or.inl rfl, rfl, by decide, ?_⟩
    norm_num [neighbour, storedEntry]

/-- Beside an entry as near as can be, one of another dimension makes a lookup raise. -/
theorem lookup_twoDimensions :
    (∃ e ∈ twoDimensions.liveEntries 1700000000 plainSignature.namespaceKey,
      plainCache.effectiveThreshold none ≤
        plainCache.similarity (.sorting Rat.sqrt) "describe the ocean" e) ∧
    plainCache.lookup (.sorting Rat.sqrt) twoDimensions plainSignature "describe the ocean" none
      { started := 0, now := 1700000000, finished := 0 } = .error .valueError := by
  have ha := mem_twoDimensions (neighbour "a" [1]) (Or.inl rfl)
  have hb := mem_twoDimensions (neighbour "b" [1, 0]) (Or.inr rfl)
  constructor
  · exact ⟨_, ha, by decide +kernel⟩
  · exact plainCache.lookup_of_length_ne (.sorting Rat.sqrt) twoDimensions plainSignature "describe the ocean"
      none { started := 0, now := 1700000000, finished := 0 } _ _ ha (by simp [neighbour]) hb (by decide)

end SemanticCache

end CachingLayer
