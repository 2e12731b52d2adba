import CachingLayer.Cache.NearestNeighbour

/-!
# The k best

What `top_k_indices` and the in-memory `search` are for: the best `k` of the scores
(`TopK`) and of the unexpired entries of a namespace (`BestFound`), ties included.

`search_topK_iff`: so they do for every `k` but zero, where `[-0:]` keeps everything; and
`search` where there is a score to every entry.
-/

namespace CachingLayer

/-! ## Among scores -/

section
variable {F : Type} [LinearOrder F]

/-- `is` are the positions of the `k` best scores, best first. -/
structure TopK (scores : List F) (k : Nat) (is : List Nat) : Prop where
  length : is.length = min k scores.length
  nodup : is.Nodup
  valid : ∀ i ∈ is, i < scores.length
  sorted : is.Pairwise fun i j => ∀ x ∈ scores[i]?, ∀ y ∈ scores[j]?, y ≤ x
  best : ∀ i ∈ is, ∀ j, j ∉ is → ∀ x ∈ scores[j]?, ∀ y ∈ scores[i]?, x ≤ y

end

section
variable {F : Type} [Field F] [LinearOrder F] (np : Numpy F) (scores : List F) (k : Nat)

/-- All are kept for a `k` of zero. -/
theorem length_topKIndices (hne : scores ≠ []) :
    (topKIndices np scores k).length = if k = 0 then scores.length else min k scores.length := by
  have hpos := List.length_pos_iff.mpr hne
  rw [(topKIndices_perm np scores k hne).length_eq]
  unfold keptPositions
  rw [List.length_drop, (np.argpartition_perm scores _ (fromEnd_lt scores.length k hpos)).length_eq,
    List.length_range]
  unfold fromEnd
  by_cases hk : k = 0
  · rw [if_pos hk, hk, Nat.zero_min, if_pos rfl]
    omega
  · rw [if_neg hk, if_neg (by omega)]
    omega

theorem nodup_topKIndices : (topKIndices np scores k).Nodup := by
  by_cases hne : scores = []
  · subst hne
    exact List.nodup_nil
  · have hstart := fromEnd_lt scores.length k (List.length_pos_iff.mpr hne)
    rw [(topKIndices_perm np scores k hne).nodup_iff]
    refine List.Nodup.sublist (List.drop_sublist _ _) ?_
    rw [(np.argpartition_perm scores _ hstart).nodup_iff]
    exact List.nodup_range

theorem topK_topKIndices_iff : TopK scores k (topKIndices np scores k) ↔ scores = [] ∨ 0 < k := by
  constructor
  · intro h
    by_contra hno
    obtain ⟨hne, hk⟩ := not_or.mp hno
    obtain rfl : k = 0 := by omega
    have hlength := h.length
    have hpos := List.length_pos_iff.mpr hne
    rw [length_topKIndices np scores 0 hne, if_pos rfl, Nat.zero_min] at hlength
    omega
  · intro h
    by_cases hne : scores = []
    · subst hne
      exact ⟨by simp [topKIndices], List.nodup_nil, by simp [topKIndices], List.Pairwise.nil, by simp [topKIndices]⟩
    · have hk : k ≠ 0 := by
        rcases h with hnil | hpos
        · exact absurd hnil hne
        · omega
      exact {
        length := by rw [length_topKIndices np scores k hne, if_neg hk]
        nodup := nodup_topKIndices np scores k
        valid := mem_topKIndices_lt np scores k hne
        sorted := topKIndices_sorted np scores k hne
        best := fun i hi j hj => le_of_notMem_topKIndices np scores k hne i j hi hj }

end

/-! ## Among entries -/

namespace InMemoryVectorStore

section
variable {F : Type} [Field F] [LinearOrder F] (np : Numpy F) (store : InMemoryVectorStore F) (now : ℚ)
  (ns : String) (v : List F) (k : Nat)

/-- The `k` best unexpired entries of the namespace, best first. -/
structure BestFound (found : List (ScoredEntry F)) : Prop where
  length : found.length = min k (store.liveEntries now ns).length
  live : ∀ s ∈ found, s.entry ∈ store.liveEntries now ns ∧ s.score = rowSimilarity np v s.entry.embedding
  distinct : (found.map (·.entry.id)).Nodup
  sorted : found.Pairwise fun s s' => s'.score ≤ s.score
  best : ∀ s ∈ found, ∀ e ∈ store.liveEntries now ns, e.id ∉ found.map (·.entry.id) →
    rowSimilarity np v e.embedding ≤ s.score

/-- The best positions, read as entries. -/
theorem bestFound_of_topK (is : List Nat)
    (h : TopK ((store.liveEntries now ns).map fun e => rowSimilarity np v e.embedding) k is) :
    store.BestFound np now ns v k (is.filterMap fun i =>
      (store.liveEntries now ns)[i]?.map fun e => ⟨e, rowSimilarity np v e.embedding⟩) := by
  have hids : ((store.liveEntries now ns).map CacheEntry.id).Nodup :=
    store.nodup.sublist (List.filter_sublist.map CacheEntry.id)
  -- what stands at a position that is kept
  have hat : ∀ i ∈ is, ∃ e, (store.liveEntries now ns)[i]? = some e := by
    intro i hi
    have hlt := h.valid i hi
    rw [List.length_map] at hlt
    exact ⟨_, List.getElem?_eq_getElem hlt⟩
  have hscore : ∀ (i : Nat) (e : CacheEntry F), (store.liveEntries now ns)[i]? = some e →
      ((store.liveEntries now ns).map fun e => rowSimilarity np v e.embedding)[i]? =
        some (rowSimilarity np v e.embedding) := by
    intro i e he
    rw [List.getElem?_map, he]
    rfl
  have hmem : ∀ s, (s ∈ is.filterMap fun i =>
      (store.liveEntries now ns)[i]?.map fun e => ScoredEntry.mk e (rowSimilarity np v e.embedding)) ↔
      ∃ i ∈ is, ∃ e, (store.liveEntries now ns)[i]? = some e ∧ s = ⟨e, rowSimilarity np v e.embedding⟩ := by
    intro s
    rw [List.mem_filterMap]
    refine exists_congr fun i => and_congr_right fun _ => ?_
    rw [Option.map_eq_some_iff]
    exact exists_congr fun e => and_congr_right fun _ => eq_comm
  constructor
  · rw [List.filterMap_length_eq_length.mpr, h.length, List.length_map]
    intro i hi
    obtain ⟨e, he⟩ := hat i hi
    rw [he]
    rfl
  · intro s hs
    obtain ⟨i, hi, e, he, rfl⟩ := (hmem s).mp hs
    exact ⟨List.mem_of_getElem? he, rfl⟩
  · show List.Pairwise _ _
    rw [List.pairwise_map, List.pairwise_filterMap]
    refine h.nodup.imp fun {i j} hij s hs s' hs' heq => ?_
    obtain ⟨e, he, rfl⟩ := Option.map_eq_some_iff.mp hs
    obtain ⟨e', he', rfl⟩ := Option.map_eq_some_iff.mp hs'
    have hlt : i < ((store.liveEntries now ns).map CacheEntry.id).length := by
      rw [List.length_map]
      exact (List.getElem?_eq_some_iff.mp he).1
    have hsame : ((store.liveEntries now ns).map CacheEntry.id)[i]? =
        ((store.liveEntries now ns).map CacheEntry.id)[j]? := by
      rw [List.getElem?_map, List.getElem?_map, he, he']
      exact congrArg some heq
    exact hij ((List.getElem?_inj hlt hids).mp hsame)
  · rw [List.pairwise_filterMap]
    refine h.sorted.imp fun {i j} hij s hs s' hs' => ?_
    obtain ⟨e, he, rfl⟩ := Option.map_eq_some_iff.mp hs
    obtain ⟨e', he', rfl⟩ := Option.map_eq_some_iff.mp hs'
    exact hij _ (hscore i e he) _ (hscore j e' he')
  · intro s hs e he hout
    obtain ⟨i, hi, e', he', rfl⟩ := (hmem s).mp hs
    obtain ⟨j, hj⟩ := List.getElem?_of_mem he
    have hleft : j ∉ is := by
      intro hmemj
      apply hout
      exact List.mem_map.mpr ⟨⟨e, rowSimilarity np v e.embedding⟩, (hmem _).mpr ⟨j, hmemj, e, hj, rfl⟩, rfl⟩
    exact h.best i hi j hleft _ (hscore j e hj) _ (hscore i e' he')

/-- Every live entry has a score, and some are asked for; or none are there to find, or
none asked for where none has a score. -/
def Selects : Prop :=
  store.liveEntries now ns = [] ∨
    (0 < k ∧ v ≠ [] ∧ ∀ e ∈ store.liveEntries now ns, e.embedding.length = v.length) ∨
    k = 0 ∧ ∀ e ∈ store.liveEntries now ns, e.embedding = []

theorem bestFound_iff :
    (∃ found, store.search np now ns v k = .ok found ∧ store.BestFound np now ns v k found) ↔
      store.Selects now ns v k := by
  unfold Selects
  by_cases hnone : store.liveEntries now ns = []
  · refine ⟨fun _ => Or.inl hnone, fun _ => ⟨[], ?_, ?_⟩⟩
    · apply search_of_embeddings_nil
      rw [hnone]
      simp
    · exact ⟨by rw [hnone]; simp, by simp, by simp, by simp, by simp⟩
  · obtain ⟨e₀, he₀⟩ := List.exists_mem_of_ne_nil _ hnone
    have hpos := List.length_pos_iff.mpr hnone
    by_cases hnil : ∀ e ∈ store.liveEntries now ns, e.embedding = []
    · -- nothing has a score
      rw [store.search_of_embeddings_nil np now ns v k hnil]
      constructor
      · rintro ⟨found, hfound, hbest⟩
        obtain rfl := Except.ok.inj hfound
        have hlength : 0 = min k (store.liveEntries now ns).length := hbest.length
        exact Or.inr (Or.inr ⟨by omega, hnil⟩)
      · rintro (hlive | ⟨hk, hv, hdim⟩ | ⟨rfl, -⟩)
        · exact absurd hlive hnone
        · have hlength := hdim e₀ he₀
          rw [hnil e₀ he₀] at hlength
          exact absurd (List.length_eq_zero_iff.mp hlength.symm) hv
        · exact ⟨[], rfl, by simp, by simp, by simp, by simp, by simp⟩
    · simp only [hnone, hnil, and_false, or_false, false_or]
      by_cases hdim : v ≠ [] ∧ ∀ e ∈ store.liveEntries now ns, e.embedding.length = v.length
      · obtain ⟨hv, hlength⟩ := hdim
        constructor
        · rintro ⟨found, hfound, hbest⟩
          refine ⟨?_, hv, hlength⟩
          obtain ⟨best, rest, hsearch, -⟩ := store.search_best np now ns v k hnone hlength hv
          obtain rfl := Except.ok.inj (hfound.symm.trans hsearch)
          have hcount := hbest.length
          rw [List.length_cons] at hcount
          omega
        · rintro ⟨hk, -⟩
          exact ⟨_, store.search_of_length_eq np now ns v k hlength hv, store.bestFound_of_topK np now ns v k _
            ((topK_topKIndices_iff np _ k).mpr (Or.inr hk))⟩
      · -- some entry has no score
        push Not at hnil
        obtain ⟨e, he, hne⟩ := hnil
        have hother : ∃ e' ∈ store.liveEntries now ns, e'.embedding.length ≠ v.length := by
          by_contra hall
          push Not at hall
          refine hdim ⟨?_, hall⟩
          rintro rfl
          exact hne (List.length_eq_zero_iff.mp (hall e he))
        obtain ⟨e', he', hlength⟩ := hother
        rw [store.search_of_length_ne np now ns v k e e' he hne he' hlength]
        constructor
        · rintro ⟨found, hfound, -⟩
          cases hfound
        · rintro ⟨-, hdim'⟩
          exact absurd hdim' hdim

end

/-- **The k best.**  `top_k_indices` selects the `k` best scores exactly when `k` is not zero
or there are none; `search` the `k` best entries exactly when besides every one has a score. -/
theorem search_topK_iff {F : Type} [Field F] [LinearOrder F] (np : Numpy F) :
    (∀ scores k, TopK scores k (topKIndices np scores k) ↔ scores = [] ∨ 0 < k) ∧
      ∀ (store : InMemoryVectorStore F) now ns v k,
        (∃ found, store.search np now ns v k = .ok found ∧ store.BestFound np now ns v k found) ↔
          store.Selects now ns v k :=
  ⟨topK_topKIndices_iff np, fun store now ns v k => store.bestFound_iff np now ns v k⟩

/-- Asked for none, both return one. -/
theorem search_topK_zero :
    topKIndices (.sorting Rat.sqrt) [1 / 2] 0 = [0] ∧ ¬ TopK [(1 : ℚ) / 2] 0 [0] ∧
      ∃ best rest, (InMemoryVectorStore.upsert .new storedEntry).search (.sorting Rat.sqrt) 1700000000
          storedEntry.namespaceKey [1] 0 = .ok (best :: rest) ∧
        ¬ (InMemoryVectorStore.upsert .new storedEntry).BestFound (.sorting Rat.sqrt) 1700000000
          storedEntry.namespaceKey [1] 0 (best :: rest) := by
  refine ⟨by decide +kernel, fun h => absurd h.length (by decide), ?_⟩
  have hmem : storedEntry ∈ (InMemoryVectorStore.upsert .new storedEntry).liveEntries 1700000000
      storedEntry.namespaceKey := by
    rw [mem_liveEntries]
    exact ⟨(Keyed.mem_put _ _ _).mpr (Or.inl rfl), rfl, by decide, by decide +kernel⟩
  have hdim : ∀ e ∈ (InMemoryVectorStore.upsert .new storedEntry).liveEntries 1700000000
      storedEntry.namespaceKey, e.embedding.length = [(1 : ℚ)].length := by
    intro e he
    obtain ⟨hitem, -⟩ := (mem_liveEntries _ _ _ _).mp he
    rcases (Keyed.mem_put _ _ _).mp hitem with rfl | ⟨hold, -⟩
    · rfl
    · cases hold
  obtain ⟨best, rest, hsearch, -⟩ := search_best (.sorting Rat.sqrt) _ _ _ [1] 0 (List.ne_nil_of_mem hmem) hdim
    (by simp)
  refine ⟨best, rest, hsearch, fun h => ?_⟩
  have hcount := h.length
  simp at hcount

end InMemoryVectorStore

end CachingLayer
