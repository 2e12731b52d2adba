import CachingLayer.Cache.Similarity
import CachingLayer.Models.Cache

/-!
# In-memory vector store

`_entries` is an insertion-ordered dictionary keyed by the entries' own ids.
`search` scores the unexpired entries of one namespace and returns the best `topK`;
what it returns comes from those entries (`mem_search`), depends on nothing else
(`search_filter`), and begins with the best of them (`search_best`).
-/

namespace CachingLayer

abbrev InMemoryVectorStore (F : Type) := Keyed (CacheEntry F) String CacheEntry.id

namespace InMemoryVectorStore

section
variable {F : Type}

def new : InMemoryVectorStore F := Keyed.empty

def upsert (store : InMemoryVectorStore F) (entry : CacheEntry F) : InMemoryVectorStore F :=
  store.put entry

def liveEntries (store : InMemoryVectorStore F) (now : ℚ) (namespaceKey : String) : List (CacheEntry F) :=
  store.items.filter fun e => e.namespaceKey = namespaceKey && !e.isExpired (some now) now

def get (store : InMemoryVectorStore F) (entryId : String) : Option (CacheEntry F) :=
  store.find? entryId

def incrementHit (store : InMemoryVectorStore F) (entryId : String) : InMemoryVectorStore F :=
  store.modify entryId (fun e => { e with hitCount := e.hitCount + 1 }) fun _ => rfl

/-- `delete`'s inner `matches`. -/
def matchesFilter (model systemPromptHash tag : Option String) (e : CacheEntry F) : Bool :=
  (model.all fun m => e.model = m) && (systemPromptHash.all fun h => e.systemPromptHash = h) &&
    (tag.all fun t => t ∈ e.tags)

/-- The number removed, and the store after. -/
def delete (store : InMemoryVectorStore F) (model systemPromptHash tag : Option String) :
    Nat × InMemoryVectorStore F :=
  if model = none ∧ systemPromptHash = none ∧ tag = none then (0, store)
  else
    ((store.items.filter (matchesFilter model systemPromptHash tag)).length,
      store.filter fun e => !matchesFilter model systemPromptHash tag e)

def clear (store : InMemoryVectorStore F) : Nat × InMemoryVectorStore F := (store.items.length, new)

def count (store : InMemoryVectorStore F) : Nat := store.items.length

end

section
variable {F : Type} [Field F] [LinearOrder F] (np : Numpy F)

def search (store : InMemoryVectorStore F) (now : ℚ) (namespaceKey : String) (vector : List F) (topK : Nat) :
    Except PyError (List (ScoredEntry F)) :=
  let entries := store.liveEntries now namespaceKey
  if entries.isEmpty then .ok []
  else do
    let matrix ← asMatrix (entries.map (·.embedding))
    let scores ← cosineSimilarityMatrix np vector matrix
    return (topKIndices np scores topK).filterMap fun i => do
      return { entry := ← entries[i]?, score := ← scores[i]? }

end

/-! ## Lemmas -/

section
variable {F : Type}

theorem mem_liveEntries (store : InMemoryVectorStore F) (now : ℚ) (ns : String) (e : CacheEntry F) :
    e ∈ store.liveEntries now ns ↔
      e ∈ store.items ∧ e.namespaceKey = ns ∧ 0 < e.ttlSeconds ∧ now - e.createdAt ≤ e.ttlSeconds := by
  unfold liveEntries
  rw [List.mem_filter, Bool.and_eq_true, decide_eq_true_eq, Bool.not_eq_true',
    CacheEntry.isExpired_eq_false_iff]

/-- A filter that keeps a namespace's entries does not change its live entries. -/
theorem liveEntries_filter (store : InMemoryVectorStore F) (now : ℚ) (ns : String) (p : CacheEntry F → Bool)
    (hp : ∀ e ∈ store.items, e.namespaceKey = ns → p e = true) :
    liveEntries (store.filter p) now ns = store.liveEntries now ns := by
  show (store.items.filter p).filter _ = _
  rw [List.filter_filter]
  apply List.filter_congr
  intro e he
  by_cases hns : e.namespaceKey = ns
  · rw [hp e he hns, Bool.and_true]
  · simp [hns]

theorem mem_incrementHit (store : InMemoryVectorStore F) (id : String) (e : CacheEntry F)
    (h : e ∈ (store.incrementHit id).items) : ∃ e' ∈ store.items, e'.SameRecord e := by
  obtain ⟨e', he', rfl⟩ := (Keyed.mem_modify _ _ _ _ _).mp h
  refine ⟨e', he', ?_⟩
  split <;> rfl

/-- Deleting keeps entries and adds none. -/
theorem mem_delete (store : InMemoryVectorStore F) (m h t : Option String) (e : CacheEntry F)
    (he : e ∈ (store.delete m h t).2.items) : e ∈ store.items := by
  unfold delete at he
  split at he
  · exact he
  · exact ((Keyed.mem_filter _ _ _).mp he).1

theorem incrementHit_filter (store : InMemoryVectorStore F) (id : String) (p : CacheEntry F → Bool)
    (hp : ∀ e : CacheEntry F, p { e with hitCount := e.hitCount + 1 } = p e) :
    incrementHit (store.filter p) id = (store.incrementHit id).filter p := by
  unfold incrementHit
  rw [Keyed.filter_modify _ _ _ _ _ hp]

theorem incrementHit_of_notMem (store : InMemoryVectorStore F) (id : String)
    (h : ∀ e ∈ store.items, e.id ≠ id) : store.incrementHit id = store := by
  unfold incrementHit
  exact Keyed.modify_of_notMem store id _ _ h

theorem delete_filter (store : InMemoryVectorStore F) (m h t : Option String) (p : CacheEntry F → Bool) :
    (delete (store.filter p) m h t).2 = (store.delete m h t).2.filter p := by
  unfold delete
  split
  · rfl
  · exact Keyed.filter_filter store p _

end

/-! ## Deletion -/

section
variable {F : Type} (store : InMemoryVectorStore F) (model systemPromptHash tag : Option String)

theorem matchesFilter_iff (e : CacheEntry F) :
    matchesFilter model systemPromptHash tag e = true ↔
      (∀ m ∈ model, e.model = m) ∧ (∀ h ∈ systemPromptHash, e.systemPromptHash = h) ∧ ∀ t ∈ tag, t ∈ e.tags := by
  unfold matchesFilter
  cases model <;> cases systemPromptHash <;> cases tag <;> simp [and_assoc]

theorem matchesFilter_sameRecord (e e' : CacheEntry F) (h : e.SameRecord e') :
    matchesFilter model systemPromptHash tag e = matchesFilter model systemPromptHash tag e' := by
  have hmodel : e.model = e'.model := congrArg (·.model) h
  have hhash : e.systemPromptHash = e'.systemPromptHash := congrArg (·.systemPromptHash) h
  have htags : e.tags = e'.tags := congrArg (·.tags) h
  unfold matchesFilter
  rw [hmodel, hhash, htags]

/-- Without a filter nothing goes. -/
theorem delete_of_none (h : model = none ∧ systemPromptHash = none ∧ tag = none) :
    store.delete model systemPromptHash tag = (0, store) := by
  unfold delete
  rw [if_pos h]

/-- With a filter, the matching entries go and are counted. -/
theorem delete_eq (h : ¬ (model = none ∧ systemPromptHash = none ∧ tag = none)) :
    store.delete model systemPromptHash tag =
      ((store.items.filter (matchesFilter model systemPromptHash tag)).length,
        store.filter fun e => !matchesFilter model systemPromptHash tag e) := by
  unfold delete
  rw [if_neg h]

theorem length_delete (h : ¬ (model = none ∧ systemPromptHash = none ∧ tag = none)) :
    (store.delete model systemPromptHash tag).1 + (store.delete model systemPromptHash tag).2.items.length =
      store.items.length := by
  rw [delete_eq store model systemPromptHash tag h]
  show (store.items.filter _).length + (store.items.filter _).length = _
  have hsplit := List.length_eq_countP_add_countP (matchesFilter model systemPromptHash tag) (l := store.items)
  rw [← List.countP_eq_length_filter, ← List.countP_eq_length_filter, hsplit]
  simp

end

/-! ## Search -/

section
variable {F : Type} [Field F] [LinearOrder F] (np : Numpy F)

/-- **What a search returns.**  An unexpired entry of the namespace, with the
similarity of its embedding to the query. -/
theorem mem_search (store : InMemoryVectorStore F) (now : ℚ) (ns : String) (v : List F) (k : Nat)
    (found : List (ScoredEntry F)) (h : store.search np now ns v k = .ok found) (s : ScoredEntry F)
    (hs : s ∈ found) : s.entry ∈ store.liveEntries now ns ∧ s.score = rowSimilarity np v s.entry.embedding := by
  unfold search at h
  simp only [] at h
  split at h
  · cases h; cases hs
  · unfold asMatrix at h
    split at h
    · unfold cosineSimilarityMatrix at h
      simp only [bind, Except.bind, pure, Except.pure] at h
      split at h
      · cases h
      · next scores hscores =>
        obtain rfl := Except.ok.inj h
        obtain ⟨i, -, hi⟩ := List.mem_filterMap.mp hs
        cases he : (store.liveEntries now ns)[i]? with
        | none => rw [he] at hi; cases hi
        | some e =>
          cases hx : scores[i]? with
          | none => rw [he, hx] at hi; cases hi
          | some x =>
            rw [he, hx] at hi
            obtain rfl := Option.some.inj hi
            refine ⟨List.mem_of_getElem? he, ?_⟩
            split at hscores
            · obtain rfl := Except.ok.inj hscores
              cases hx
            · split at hscores
              · obtain rfl := Except.ok.inj hscores
                rw [List.getElem?_map, List.getElem?_map, he] at hx
                exact (Option.some.inj hx).symm
              · cases hscores
    · cases h

/-- Where the embeddings have the query's dimension, a search scores every live entry and
selects among the scores. -/
theorem search_of_length_eq (store : InMemoryVectorStore F) (now : ℚ) (ns : String) (v : List F) (k : Nat)
    (hdim : ∀ e ∈ store.liveEntries now ns, e.embedding.length = v.length) (hv : v ≠ []) :
    store.search np now ns v k = .ok
      ((topKIndices np ((store.liveEntries now ns).map fun e => rowSimilarity np v e.embedding) k).filterMap
        fun i => (store.liveEntries now ns)[i]?.map fun e => ⟨e, rowSimilarity np v e.embedding⟩) := by
  unfold search
  simp only []
  generalize store.liveEntries now ns = entries at hdim
  cases entries with
  | nil =>
    unfold topKIndices
    rfl
  | cons e₀ tail =>
    have hlength : ∀ row ∈ (e₀ :: tail).map (·.embedding), row.length = v.length := by
      intro row hrow
      obtain ⟨e, he, rfl⟩ := List.mem_map.mp hrow
      exact hdim e he
    have hmatrix : asMatrix ((e₀ :: tail).map (·.embedding)) = .ok ((e₀ :: tail).map (·.embedding)) := by
      unfold asMatrix
      rw [if_pos]
      intro row hrow
      rw [hlength row hrow]
      exact (hdim e₀ List.mem_cons_self).symm
    have hscores : cosineSimilarityMatrix np v ((e₀ :: tail).map (·.embedding)) =
        .ok ((e₀ :: tail).map fun e => rowSimilarity np v e.embedding) := by
      rw [cosineSimilarityMatrix_eq np v _ hv hlength, List.map_map]
      rfl
    rw [if_neg (by simp), hmatrix]
    simp only [bind, Except.bind, hscores, pure, Except.pure]
    congr 1
    apply List.filterMap_congr
    intro i _
    rw [List.getElem?_map]
    cases (e₀ :: tail)[i]? with
    | none => rfl
    | some e => rfl

/-- Where the embeddings have one dimension, a search finds the most similar entry first. -/
theorem search_best (store : InMemoryVectorStore F) (now : ℚ) (ns : String) (v : List F) (k : Nat)
    (hlive : store.liveEntries now ns ≠ [])
    (hdim : ∀ e ∈ store.liveEntries now ns, e.embedding.length = v.length) (hv : v ≠ []) :
    ∃ best rest, store.search np now ns v k = .ok (best :: rest) ∧
      ∀ e ∈ store.liveEntries now ns, rowSimilarity np v e.embedding ≤ best.score := by
  rw [search_of_length_eq np store now ns v k hdim hv]
  generalize store.liveEntries now ns = entries at hlive
  have hne : (entries.map fun e => rowSimilarity np v e.embedding) ≠ [] := by simpa using hlive
  have hget : ∀ (j : Nat) (e : CacheEntry F), entries[j]? = some e →
      (entries.map fun e => rowSimilarity np v e.embedding)[j]? = some (rowSimilarity np v e.embedding) := by
    intro j e he
    rw [List.getElem?_map, he]
    rfl
  obtain ⟨i, rest, htop, hi, hbest⟩ := exists_topKIndices np _ k hne
  rw [List.length_map] at hi
  have he : entries[i]? = some entries[i] := List.getElem?_eq_getElem hi
  rw [htop, List.filterMap_cons, he]
  refine ⟨_, _, rfl, fun e' he' => ?_⟩
  obtain ⟨j, hj⟩ := List.getElem?_of_mem he'
  exact hbest j _ (hget j e' hj) _ (hget i _ he)

/-- A search sees the live entries of its namespace only. -/
theorem search_filter (store : InMemoryVectorStore F) (now : ℚ) (ns : String) (v : List F) (k : Nat)
    (p : CacheEntry F → Bool) (hp : ∀ e ∈ store.items, e.namespaceKey = ns → p e = true) :
    search np (store.filter p) now ns v k = store.search np now ns v k := by
  unfold search
  rw [liveEntries_filter store now ns p hp]

end

end InMemoryVectorStore

end CachingLayer
