import CachingLayer.Analytics.Validation

/-!
# One similarity

The store scores by the batch similarity; the threshold sweep and the shadow validator use
the scalar one.  In exact arithmetic the two are the same (`similarity_agrees`), so the
analytics tune the threshold that serving compares with.
-/

namespace CachingLayer

section
variable {F : Type} [Field F] [LinearOrder F] (np : Numpy F)

/-- `x` is the similarity of `row` to `query`. -/
structure IsSimilarity (query row : List F) (x : F) : Prop where
  scalar : cosineSimilarity np query row = .ok x
  mem : x ∈ Set.Icc (-1) 1
  /-- A positive multiple of a non-zero query. -/
  multiple : ∀ c, 0 < c → (∃ y ∈ query, y ≠ 0) → row = scale c query → x = 1
  scale_query : ∀ c, 0 < c → cosineSimilarity np (scale c query) row = .ok x
  scale_row : ∀ c, 0 < c → cosineSimilarity np query (scale c row) = .ok x

/-- A positive multiple. -/
def Lengthened (row row' : List F) : Prop := ∃ c, 0 < c ∧ row' = scale c row

theorem length_lengthened (query : List F) (matrix matrix' : List (List F))
    (h : List.Forall₂ Lengthened matrix matrix') (hmatrix : ∀ row ∈ matrix, row.length = query.length) :
    ∀ row ∈ matrix', row.length = query.length := by
  induction h with
  | nil => exact hmatrix
  | cons hrow _ ih =>
    obtain ⟨c, -, rfl⟩ := hrow
    obtain ⟨hhead, htail⟩ := List.forall_mem_cons.mp hmatrix
    rw [List.forall_mem_cons, length_scale]
    exact ⟨hhead, ih htail⟩

variable [IsStrictOrderedRing F] (hexact : ExactSqrt np)
include hexact

theorem isSimilarity_rowSimilarity (query row : List F) (hlength : row.length = query.length) :
    IsSimilarity np query row (rowSimilarity np query row) := by
  have hq := hexact.exactNorm np
  refine ⟨cosineSimilarity_eq np query row (hq _) (hq _) hlength.symm,
    rowSimilarity_mem np query row (hq _) (hq _), ?_, ?_, ?_⟩
  · rintro c hc hne rfl
    rw [rowSimilarity_scale_row np hexact c hc]
    exact rowSimilarity_self np query (hq _) hne
  · intro c hc
    rw [← rowSimilarity_scale_query np hexact c hc]
    apply cosineSimilarity_eq np _ _ (hq _) (hq _)
    rw [length_scale, hlength]
  · intro c hc
    rw [← rowSimilarity_scale_row np hexact c hc]
    apply cosineSimilarity_eq np _ _ (hq _) (hq _)
    rw [length_scale, hlength]

theorem map_rowSimilarity_lengthened (query : List F) (matrix matrix' : List (List F))
    (h : List.Forall₂ Lengthened matrix matrix') :
    matrix'.map (rowSimilarity np query) = matrix.map (rowSimilarity np query) := by
  induction h with
  | nil => rfl
  | cons hrow _ ih =>
    obtain ⟨c, hc, rfl⟩ := hrow
    rw [List.map_cons, List.map_cons, ih, rowSimilarity_scale_row np hexact c hc]

theorem similarities_eq (a : ThresholdAnalyzer F) (cases : List ThresholdTestCase)
    (hlength : ∀ case ∈ cases, (a.embed case.candidate).length = (a.embed case.query).length) :
    a.similarities np cases =
      .ok (cases.map fun case => rowSimilarity np (a.embed case.query) (a.embed case.candidate)) := by
  have hq := hexact.exactNorm np
  unfold ThresholdAnalyzer.similarities
  induction cases with
  | nil => rfl
  | cons case cases ih =>
    obtain ⟨hcase, hrest⟩ := List.forall_mem_cons.mp hlength
    rw [List.mapM_cons, cosineSimilarity_eq np _ _ (hq _) (hq _) hcase.symm, ih hrest]
    rfl

/-- **One similarity.**  Row by row the batch similarity is the scalar one, between minus one
and one, one along a query, whatever the lengths of the vectors; and what the sweep and a
validation measure is what a search scores. -/
theorem similarity_agrees :
    (∀ query matrix, query ≠ [] → (∀ row ∈ matrix, row.length = query.length) →
      ∃ scores, cosineSimilarityMatrix np query matrix = .ok scores ∧
        List.Forall₂ (IsSimilarity np query) matrix scores ∧
        (∀ c, 0 < c → cosineSimilarityMatrix np (scale c query) matrix = .ok scores) ∧
        ∀ matrix', List.Forall₂ Lengthened matrix matrix' → cosineSimilarityMatrix np query matrix' = .ok scores) ∧
    (∀ (a : ThresholdAnalyzer F) cases,
      (∀ case ∈ cases, a.embed case.query ≠ [] ∧
        (a.embed case.candidate).length = (a.embed case.query).length) →
      ∃ sims, a.similarities np cases = .ok sims ∧
        List.Forall₂ (fun case x => cosineSimilarityMatrix np (a.embed case.query) [a.embed case.candidate] = .ok [x])
          cases sims) ∧
    ∀ (v : CacheValidator F) (d : Nat) (t t' : ValidationTask F d) s s' fresh cachedEmb embedding result, 0 < d →
      t.phase = .embeddingFresh fresh cachedEmb → v.advance np t s (.embedded embedding) = some (t', s') →
      t'.phase.result = some result →
        cosineSimilarityMatrix np cachedEmb.vector [embedding.vector] = .ok [result.responseSimilarity] := by
  refine ⟨fun query matrix hquery hmatrix => ?_, fun a cases hcases => ?_, ?_⟩
  · have hscaled : ∀ c, ∀ row ∈ matrix, row.length = (scale c query).length := by
      intro c row hrow
      rw [length_scale, hmatrix row hrow]
    refine ⟨_, cosineSimilarityMatrix_eq np query matrix hquery hmatrix, ?_, fun c hc => ?_, fun matrix' hmult => ?_⟩
    · rw [List.forall₂_map_right_iff, List.forall₂_same]
      exact fun row hrow => isSimilarity_rowSimilarity np hexact query row (hmatrix row hrow)
    · rw [cosineSimilarityMatrix_eq np _ matrix (by simpa [scale] using hquery) (hscaled c)]
      congr 1
      apply List.map_congr_left
      intro row _
      exact rowSimilarity_scale_query np hexact c hc query row
    · rw [cosineSimilarityMatrix_eq np query matrix' hquery (length_lengthened query matrix matrix' hmult hmatrix),
        map_rowSimilarity_lengthened np hexact query matrix matrix' hmult]
  · refine ⟨_, similarities_eq np hexact a cases fun case hcase => (hcases case hcase).2, ?_⟩
    rw [List.forall₂_map_right_iff, List.forall₂_same]
    intro case hcase
    obtain ⟨hne, hlength⟩ := hcases case hcase
    rw [cosineSimilarityMatrix_eq np _ _ hne (by simpa using hlength)]
    rfl
  · intro v d t t' s s' fresh cachedEmb embedding result hd hphase hadv hresult
    have hlength := embedding.length_vector.trans cachedEmb.length_vector.symm
    have hne : cachedEmb.vector ≠ [] := by
      intro hnil
      have := cachedEmb.length_vector
      rw [hnil, List.length_nil] at this
      omega
    rw [cosineSimilarityMatrix_eq np _ _ hne (by simpa using hlength)]
    rcases v.advance_cases np t t' s s' _ hadv with ⟨-, -, hnone⟩ |
      ⟨fresh', cachedEmb', embedding', similarity, hphase', hevent, hsim, rfl, -⟩
    · rw [hnone] at hresult
      cases hresult
    · rw [hphase] at hphase'
      obtain ⟨-, rfl⟩ := ValidationPhase.embeddingFresh.inj hphase'
      obtain rfl := ValidationEvent.embedded.inj hevent
      obtain rfl := Option.some.inj hresult
      rw [cosineSimilarity_eq np _ _ (hexact.exactNorm np _) (hexact.exactNorm np _) hlength.symm] at hsim
      obtain rfl := Except.ok.inj hsim
      rfl

end

theorem similarity_agrees_real :
    ∃ scores, cosineSimilarityMatrix (.sorting Real.sqrt) [3, 4] [[6, 8], [0, 0], [1, -1]] = .ok scores ∧
      List.Forall₂ (IsSimilarity (.sorting Real.sqrt) [3, 4]) [[6, 8], [0, 0], [1, -1]] scores := by
  have hexact : ExactSqrt (.sorting Real.sqrt) := ⟨fun x _ => Real.sqrt_nonneg x, fun x hx => Real.sq_sqrt hx⟩
  obtain ⟨scores, hscores, hrows, -, -⟩ :=
    (similarity_agrees (.sorting Real.sqrt) hexact).1 [3, 4] [[6, 8], [0, 0], [1, -1]] (by simp) (by simp)
  exact ⟨scores, hscores, hrows⟩

end CachingLayer
