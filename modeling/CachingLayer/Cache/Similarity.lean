import CachingLayer.Models.Json

/-!
# Cosine similarity and top-k selection

Exact arithmetic in an ordered field `F`.  `Numpy` is what the package supplies: a
square root, and the two sorting primitives with their documented contracts.

Where norms are exact, the batch similarity and the scalar one agree
(`cosineSimilarity_eq`), lie between minus one and one (`rowSimilarity_mem`), do not depend
on the lengths of the vectors (`rowSimilarity_scale_query`), and a non-zero vector's to
itself is one (`rowSimilarity_self`).  `topKIndices` gives the positions the
partition keeps, best first, and none left out is better (`topKIndices_perm`,
`topKIndices_sorted`, `le_of_notMem_topKIndices`).
-/

namespace CachingLayer

/-- numpy on scores in `F`; index lists point into the list given. -/
structure Numpy (F : Type) [LinearOrder F] where
  sqrt : F → F
  argsort : List F → List Nat
  argpartition : List F → Nat → List Nat
  argsort_perm : ∀ s, (argsort s).Perm (List.range s.length)
  argsort_sorted : ∀ s, (argsort s).Pairwise fun i j => ∀ x ∈ s[i]?, ∀ y ∈ s[j]?, x ≤ y
  argpartition_perm : ∀ s kth, kth < s.length → (argpartition s kth).Perm (List.range s.length)
  /-- What stands before position `kth` is no larger than what stands from it on. -/
  argpartition_le : ∀ s kth, kth < s.length → ∀ i ∈ (argpartition s kth).take kth,
    ∀ j ∈ (argpartition s kth).drop kth, ∀ x ∈ s[i]?, ∀ y ∈ s[j]?, x ≤ y

section
variable {F : Type} [Field F] [LinearOrder F] (np : Numpy F)

def dot (a b : List F) : F := (List.zipWith (· * ·) a b).sum

/-- `np.linalg.norm`. -/
def norm (a : List F) : F := np.sqrt (dot a a)

/-- One component of `cosine_similarity_matrix`: zero norms count as one. -/
def rowSimilarity (query row : List F) : F :=
  let denom := norm np row * (if norm np query = 0 then 1 else norm np query)
  dot row query / (if denom = 0 then 1 else denom)

/-- A zero norm gives zero; `np.dot` of vectors of two lengths raises. -/
def cosineSimilarity (a b : List F) : Except PyError F :=
  let denom := norm np a * norm np b
  if denom = 0 then .ok 0 else if a.length = b.length then .ok (dot a b / denom) else .error .valueError

/-- `np.asarray` of rows: ragged rows raise. -/
def asMatrix (rows : List (List F)) : Except PyError (List (List F)) :=
  if ∀ row ∈ rows, row.length = (rows.headD []).length then .ok rows else .error .valueError

/-- A matrix without elements has no scores; rows of another length than the query
raise in `matrix @ query`. -/
def cosineSimilarityMatrix (query : List F) (matrix : List (List F)) : Except PyError (List F) :=
  if (matrix.map List.length).sum = 0 then .ok []
  else if ∀ row ∈ matrix, row.length = query.length then .ok (matrix.map (rowSimilarity np query))
  else .error .valueError

/-- The position `-k` stands for in a list of `n`. -/
def fromEnd (n k : Nat) : Nat := if k = 0 then 0 else n - k

/-- Indices of the `k` highest scores, best first. -/
def topKIndices (scores : List F) (k : Nat) : List Nat :=
  if scores.length = 0 then []
  else
    let start := fromEnd scores.length (min k scores.length)
    let part := (np.argpartition scores start).drop start
    (np.argsort (part.map fun i => scores.getD i 0)).reverse.map fun j => part.getD j 0

end

/-! ## Similarities -/

/-- Vectors of one length have a similarity. -/
theorem exists_cosineSimilarity {F : Type} [Field F] [LinearOrder F] (np : Numpy F) (a b : List F)
    (h : a.length = b.length) : ∃ x, cosineSimilarity np a b = .ok x := by
  unfold cosineSimilarity
  simp only [if_pos h]
  split
  · exact ⟨0, rfl⟩
  · exact ⟨_, rfl⟩

/-- Rows of a non-empty query's length are scored one by one. -/
theorem cosineSimilarityMatrix_eq {F : Type} [Field F] [LinearOrder F] (np : Numpy F) (query : List F)
    (matrix : List (List F)) (hquery : query ≠ []) (hmatrix : ∀ row ∈ matrix, row.length = query.length) :
    cosineSimilarityMatrix np query matrix = .ok (matrix.map (rowSimilarity np query)) := by
  unfold cosineSimilarityMatrix
  cases matrix with
  | nil => rfl
  | cons row matrix =>
    have hpos := List.length_pos_iff.mpr hquery
    have hrow := hmatrix row List.mem_cons_self
    rw [if_neg, if_pos hmatrix]
    rw [List.map_cons, List.sum_cons]
    omega

section
variable {F : Type} [Field F]

theorem dot_cons (x y : F) (a b : List F) : dot (x :: a) (y :: b) = x * y + dot a b := by
  unfold dot
  rw [List.zipWith_cons_cons, List.sum_cons]

theorem dot_comm (a b : List F) : dot a b = dot b a := by
  unfold dot
  rw [List.zipWith_comm_of_comm mul_comm]

/-- `c * v`. -/
def scale (c : F) (v : List F) : List F := v.map (c * ·)

theorem length_scale (c : F) (v : List F) : (scale c v).length = v.length := List.length_map _

theorem dot_scale (c : F) (a b : List F) : dot (scale c a) b = c * dot a b := by
  induction a generalizing b with
  | nil => simp [scale, dot]
  | cons x a ih =>
    cases b with
    | nil => simp [scale, dot]
    | cons y b =>
      show dot (c * x :: scale c a) (y :: b) = _
      rw [dot_cons, dot_cons, ih b]
      ring

end

section
variable {F : Type} [Field F] [LinearOrder F] [IsStrictOrderedRing F]

theorem dot_self_nonneg (a : List F) : 0 ≤ dot a a := by
  induction a with
  | nil => exact le_refl 0
  | cons x a ih =>
    rw [dot_cons]
    have := mul_self_nonneg x
    linarith

theorem dot_self_pos (a : List F) (h : ∃ x ∈ a, x ≠ 0) : 0 < dot a a := by
  induction a with
  | nil => obtain ⟨x, hx, -⟩ := h; cases hx
  | cons y a ih =>
    rw [dot_cons]
    have hrest := dot_self_nonneg a
    have hsq := mul_self_nonneg y
    by_cases hy : y = 0
    · obtain ⟨x, hx, hne⟩ := h
      rcases List.mem_cons.mp hx with rfl | hx
      · exact absurd hy hne
      · have := ih ⟨x, hx, hne⟩
        linarith
    · have := mul_self_pos.mpr hy
      linarith

/-- Cauchy–Schwarz. -/
theorem sq_dot_le (a b : List F) : dot a b ^ 2 ≤ dot a a * dot b b := by
  induction a generalizing b with
  | nil =>
    show (0 : F) ^ 2 ≤ 0 * _
    simp
  | cons x a ih =>
    cases b with
    | nil =>
      show (0 : F) ^ 2 ≤ _ * 0
      simp
    | cons y b =>
      have hA := dot_self_nonneg a
      have hB := dot_self_nonneg b
      have hD := ih b
      rw [dot_cons, dot_cons, dot_cons]
      generalize dot a a = A at hA hD
      generalize dot b b = B at hB hD
      generalize dot a b = D at hD
      -- the cross term, by its square
      have hcross : 2 * (x * y) * D ≤ x ^ 2 * B + y ^ 2 * A := by
        have hsq : (2 * (x * y) * D) ^ 2 ≤ (x ^ 2 * B + y ^ 2 * A) ^ 2 := by
          have h1 : (x * y) ^ 2 * D ^ 2 ≤ (x * y) ^ 2 * (A * B) := mul_le_mul_of_nonneg_left hD (sq_nonneg _)
          have h2 := sq_nonneg (x ^ 2 * B - y ^ 2 * A)
          linarith
        exact le_of_abs_le (abs_le_of_sq_le_sq hsq (by positivity))
      linarith

/-- The norm of `v` is exact. -/
structure ExactNorm (np : Numpy F) (v : List F) : Prop where
  nonneg : 0 ≤ norm np v
  sq : norm np v ^ 2 = dot v v

/-- The square root is exact. -/
structure ExactSqrt (np : Numpy F) : Prop where
  nonneg : ∀ x, 0 ≤ x → 0 ≤ np.sqrt x
  sq : ∀ x, 0 ≤ x → np.sqrt x ^ 2 = x

variable (np : Numpy F)

theorem ExactSqrt.exactNorm (h : ExactSqrt np) (v : List F) : ExactNorm np v where
  nonneg := h.nonneg _ (dot_self_nonneg v)
  sq := h.sq _ (dot_self_nonneg v)

section
variable (a b : List F) (ha : ExactNorm np a) (hb : ExactNorm np b)
include ha hb

theorem abs_dot_le : |dot a b| ≤ norm np a * norm np b := by
  have hsq : dot a b ^ 2 ≤ (norm np a * norm np b) ^ 2 := by
    rw [mul_pow, ha.sq, hb.sq]
    exact sq_dot_le a b
  exact abs_le_of_sq_le_sq hsq (mul_nonneg ha.nonneg hb.nonneg)

/-- The guard against zero norms comes to dividing by zero. -/
theorem rowSimilarity_eq : rowSimilarity np a b = dot a b / (norm np a * norm np b) := by
  have hle := abs_dot_le np a b ha hb
  unfold rowSimilarity
  simp only []
  rw [dot_comm b a, mul_comm (norm np b)]
  by_cases hzero : norm np a * norm np b = 0
  · rw [hzero] at hle ⊢
    have hdot : dot a b = 0 := abs_nonpos_iff.mp hle
    rw [hdot, zero_div, zero_div]
  · rw [if_neg (left_ne_zero_of_mul hzero), if_neg hzero]

/-- So does the other guard. -/
theorem cosineSimilarity_eq (hlength : a.length = b.length) :
    cosineSimilarity np a b = .ok (rowSimilarity np a b) := by
  rw [rowSimilarity_eq np a b ha hb]
  unfold cosineSimilarity
  simp only []
  by_cases hzero : norm np a * norm np b = 0
  · rw [if_pos hzero, hzero, div_zero]
  · rw [if_neg hzero, if_pos hlength]

theorem rowSimilarity_mem : rowSimilarity np a b ∈ Set.Icc (-1) 1 := by
  have hle := abs_dot_le np a b ha hb
  have hnonneg : 0 ≤ norm np a * norm np b := mul_nonneg ha.nonneg hb.nonneg
  rw [rowSimilarity_eq np a b ha hb, Set.mem_Icc, ← abs_le, abs_div, abs_of_nonneg hnonneg]
  exact div_le_one_of_le₀ hle hnonneg

theorem rowSimilarity_le_one : rowSimilarity np a b ≤ 1 := (rowSimilarity_mem np a b ha hb).2

theorem rowSimilarity_comm : rowSimilarity np a b = rowSimilarity np b a := by
  rw [rowSimilarity_eq np a b ha hb, rowSimilarity_eq np b a hb ha, dot_comm, mul_comm]

end

theorem rowSimilarity_self (v : List F) (hexact : ExactNorm np v) (hv : ∃ x ∈ v, x ≠ 0) :
    rowSimilarity np v v = 1 := by
  have hdenom : norm np v * norm np v = dot v v := by rw [← hexact.sq]; ring
  rw [rowSimilarity_eq np v v hexact hexact, hdenom]
  exact div_self (dot_self_pos v hv).ne'

/-! ## Scaling -/

section
variable (hexact : ExactSqrt np) (c : F) (hc : 0 < c) (a b : List F)
include hexact hc

theorem norm_scale (v : List F) : norm np (scale c v) = c * norm np v := by
  have hv := hexact.exactNorm np v
  have hcv := hexact.exactNorm np (scale c v)
  rw [← sq_eq_sq₀ hcv.nonneg (mul_nonneg hc.le hv.nonneg), hcv.sq, mul_pow, hv.sq, dot_scale, dot_comm, dot_scale]
  ring

theorem rowSimilarity_scale_query : rowSimilarity np (scale c a) b = rowSimilarity np a b := by
  have ha := hexact.exactNorm np a
  have hb := hexact.exactNorm np b
  rw [rowSimilarity_eq np _ b (hexact.exactNorm np _) hb, rowSimilarity_eq np a b ha hb, norm_scale np hexact c hc,
    dot_scale, mul_assoc, mul_div_mul_left _ _ hc.ne']

theorem rowSimilarity_scale_row : rowSimilarity np a (scale c b) = rowSimilarity np a b := by
  have ha := hexact.exactNorm np a
  have hb := hexact.exactNorm np b
  rw [rowSimilarity_comm np a _ ha (hexact.exactNorm np _), rowSimilarity_scale_query np hexact c hc,
    rowSimilarity_comm np b a hb ha]

end

end

/-! ## The k best -/

section
variable {F : Type} [Field F] [LinearOrder F] (np : Numpy F) (scores : List F) (k : Nat)

/-- What the partition keeps. -/
def keptPositions : List Nat :=
  let start := fromEnd scores.length (min k scores.length)
  (np.argpartition scores start).drop start

theorem fromEnd_lt (n k : Nat) (hn : 0 < n) : fromEnd n (min k n) < n := by
  unfold fromEnd
  split <;> omega

theorem map_getD_range (l : List Nat) : (List.range l.length).map (fun j => l.getD j 0) = l := by
  apply List.ext_getElem
  · simp
  · intro n h1 h2
    rw [List.getElem_map, List.getElem_range]
    exact List.getD_eq_getElem _ _ h2

section
variable (hne : scores ≠ [])
include hne

theorem topKIndices_eq :
    topKIndices np scores k =
      (np.argsort ((keptPositions np scores k).map fun i => scores.getD i 0)).reverse.map fun j =>
        (keptPositions np scores k).getD j 0 := by
  have hlen : scores.length ≠ 0 := by simpa using hne
  unfold topKIndices
  rw [if_neg hlen]
  rfl

/-- The positions kept, in some order. -/
theorem topKIndices_perm : (topKIndices np scores k).Perm (keptPositions np scores k) := by
  rw [topKIndices_eq np scores k hne]
  have hperm := np.argsort_perm ((keptPositions np scores k).map fun i => scores.getD i 0)
  rw [List.length_map] at hperm
  have h := ((List.reverse_perm _).trans hperm).map fun j => (keptPositions np scores k).getD j 0
  rwa [map_getD_range] at h

theorem mem_topKIndices_lt (i : Nat) (hi : i ∈ topKIndices np scores k) : i < scores.length := by
  have hstart := fromEnd_lt scores.length k (List.length_pos_iff.mpr hne)
  have hkept := (topKIndices_perm np scores k hne).mem_iff.mp hi
  exact List.mem_range.mp ((np.argpartition_perm scores _ hstart).mem_iff.mp (List.mem_of_mem_drop hkept))

/-- Best first. -/
theorem topKIndices_sorted :
    (topKIndices np scores k).Pairwise fun i j => ∀ x ∈ scores[i]?, ∀ y ∈ scores[j]?, y ≤ x := by
  have hperm := np.argsort_perm ((keptPositions np scores k).map fun i => scores.getD i 0)
  rw [topKIndices_eq np scores k hne, List.pairwise_map, List.pairwise_reverse]
  refine (np.argsort_sorted _).imp_of_mem fun {a b} ha hb hab x hx y hy => ?_
  have hscore : ∀ c, c ∈ np.argsort ((keptPositions np scores k).map fun i => scores.getD i 0) →
      ∀ z ∈ scores[(keptPositions np scores k).getD c 0]?,
        z ∈ ((keptPositions np scores k).map fun i => scores.getD i 0)[c]? := by
    intro c hc z hz
    have hlt := List.mem_range.mp (hperm.mem_iff.mp hc)
    rw [List.length_map] at hlt
    rw [List.getD_eq_getElem _ _ hlt] at hz
    rw [List.getElem?_map, List.getElem?_eq_getElem hlt]
    show some (scores.getD _ 0) = some z
    rw [List.getD_eq_getElem?_getD, hz]
    rfl
  exact hab y (hscore a ha y hy) x (hscore b hb x hx)

/-- None left out is better. -/
theorem le_of_notMem_topKIndices (i j : Nat) (hi : i ∈ topKIndices np scores k)
    (hj : j ∉ topKIndices np scores k) : ∀ x ∈ scores[j]?, ∀ y ∈ scores[i]?, x ≤ y := by
  intro x hx y hy
  have hstart := fromEnd_lt scores.length k (List.length_pos_iff.mpr hne)
  have hperm := np.argpartition_perm scores _ hstart
  have hkept := topKIndices_perm np scores k hne
  have hjlt : j < scores.length := (List.getElem?_eq_some_iff.mp hx).1
  have hjmem := hperm.mem_iff.mpr (List.mem_range.mpr hjlt)
  rw [← List.take_append_drop (fromEnd scores.length (min k scores.length))
    (np.argpartition scores _), List.mem_append] at hjmem
  rcases hjmem with hjtake | hjdrop
  · exact np.argpartition_le scores _ hstart j hjtake i (hkept.mem_iff.mp hi) x hx y hy
  · exact absurd (hkept.mem_iff.mpr hjdrop) hj

/-- There is a first one, and it is the best of all. -/
theorem exists_topKIndices :
    ∃ (i : Nat) (rest : List Nat), topKIndices np scores k = i :: rest ∧ i < scores.length ∧
      ∀ j : Nat, ∀ x ∈ scores[j]?, ∀ y ∈ scores[i]?, x ≤ y := by
  have hstart := fromEnd_lt scores.length k (List.length_pos_iff.mpr hne)
  have hsorted := topKIndices_sorted np scores k hne
  have hrest := le_of_notMem_topKIndices np scores k hne
  have hlt := mem_topKIndices_lt np scores k hne
  have hlen : (topKIndices np scores k).length ≠ 0 := by
    rw [(topKIndices_perm np scores k hne).length_eq]
    unfold keptPositions
    rw [List.length_drop, (np.argpartition_perm scores _ hstart).length_eq, List.length_range]
    omega
  cases htop : topKIndices np scores k with
  | nil => rw [htop] at hlen; exact absurd rfl hlen
  | cons i rest =>
    rw [htop] at hsorted hrest hlt
    refine ⟨i, rest, rfl, hlt i List.mem_cons_self, fun j x hx y hy => ?_⟩
    by_cases hj : j ∈ i :: rest
    · rcases List.mem_cons.mp hj with rfl | hj
      · rw [hx] at hy
        exact le_of_eq (Option.some.inj hy)
      · exact (List.pairwise_cons.mp hsorted).1 j hj y hy x hx
    · exact hrest i j List.mem_cons_self hj x hx y hy

end

end

/-! ## A numpy -/

section
variable {F : Type} [LinearOrder F]

/-- Positions sorted by their scores. -/
def sortedPositions (s : List F) : List Nat := (s.zipIdx.insertionSort fun a b => a.1 ≤ b.1).map Prod.snd

theorem sortedPositions_perm (s : List F) : (sortedPositions s).Perm (List.range s.length) := by
  have h := (List.perm_insertionSort (fun a b : F × Nat => a.1 ≤ b.1) s.zipIdx).map Prod.snd
  rwa [List.zipIdx_map_snd, ← List.range_eq_range'] at h

theorem sortedPositions_sorted (s : List F) :
    (sortedPositions s).Pairwise fun i j => ∀ x ∈ s[i]?, ∀ y ∈ s[j]?, x ≤ y := by
  have hsort : (s.zipIdx.insertionSort fun a b => a.1 ≤ b.1).Pairwise fun a b => a.1 ≤ b.1 :=
    List.pairwise_insertionSort _ _
  unfold sortedPositions
  rw [List.pairwise_map]
  refine hsort.imp_of_mem fun {a b} ha hb hab x hx y hy => ?_
  have ha' := List.mem_zipIdx_iff_getElem?.mp ((List.mem_insertionSort _).mp ha)
  have hb' := List.mem_zipIdx_iff_getElem?.mp ((List.mem_insertionSort _).mp hb)
  rw [ha'] at hx
  rw [hb'] at hy
  obtain rfl := Option.some.inj hx
  obtain rfl := Option.some.inj hy
  exact hab

/-- A numpy that sorts in both primitives. -/
def Numpy.sorting (sqrt : F → F) : Numpy F where
  sqrt := sqrt
  argsort := sortedPositions
  argpartition s _ := sortedPositions s
  argsort_perm := sortedPositions_perm
  argsort_sorted := sortedPositions_sorted
  argpartition_perm s _ _ := sortedPositions_perm s
  argpartition_le s kth _ := by
    have h := sortedPositions_sorted s
    rw [← List.take_append_drop kth (sortedPositions s)] at h
    exact fun i hi j hj => (List.pairwise_append.mp h).2.2 i hi j hj

end

end CachingLayer
