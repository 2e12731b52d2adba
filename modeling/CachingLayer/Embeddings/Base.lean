import CachingLayer.Basis.Sha256
import CachingLayer.Basis.Text
import CachingLayer.Cache.Similarity
import CachingLayer.Policies.Patterns

/-!
# Embedding services

What every service makes of a vector before it hands it out, and the one that makes vectors
from a hash.

A vector is brought to length one, and a zero vector left alone: it is scaled by something
positive either way (`normalize_scale`).  So no similarity changes (`rowSimilarity_normalize`),
and those of normalized vectors are their dot products (`dot_normalize`).
-/

namespace CachingLayer

open Text

structure EmbeddingResult (F : Type) where
  vector : List F
  model : String
  dimensions : Int
  tokens : Int := 0

section
variable {F : Type} [Field F] [LinearOrder F] (np : Numpy F)

/-- `EmbeddingService.normalize`. -/
def normalize (vector : List F) : List F :=
  if norm np vector = 0 then vector else vector.map (· / norm np vector)

theorem length_normalize (v : List F) : (normalize np v).length = v.length := by
  unfold normalize
  split
  · rfl
  · exact List.length_map _

end

/-! ## A service without a network -/

structure FakeEmbeddingService where
  model : String := "fake-embed"
  dimensions : Nat := 1536

namespace FakeEmbeddingService

section
variable {F : Type} [Field F] [LinearOrder F] (np : Numpy F) (u : Unicode) (svc : FakeEmbeddingService)

/-- The first eight bytes of the digest, as a number. -/
def seed (text : String) : Nat :=
  let digest := Sha256.digest (encode (u.lower (strip text)))
  digest.a * 2 ^ 32 + digest.b

/-- `_vector_for`; `standardNormal` draws from a generator with a seed. -/
def vectorFor (standardNormal : Nat → Nat → List F) (text : String) : List F :=
  normalize np (standardNormal (seed u text) svc.dimensions)

def embed (standardNormal : Nat → Nat → List F) (text : String) : EmbeddingResult F where
  vector := svc.vectorFor np u standardNormal text
  model := svc.model
  dimensions := svc.dimensions
  tokens := max 1 (text.length / 4)

def embedBatch (standardNormal : Nat → Nat → List F) (texts : List String) : List (EmbeddingResult F) :=
  texts.map (svc.embed np u standardNormal)

end

end FakeEmbeddingService

/-! ## Normalized vectors -/

section
variable {F : Type} [Field F] [LinearOrder F] [IsStrictOrderedRing F] (np : Numpy F) (hexact : ExactSqrt np)
include hexact

theorem normalize_eq_scale (v : List F) (hne : norm np v ≠ 0) :
    0 < (norm np v)⁻¹ ∧ normalize np v = scale (norm np v)⁻¹ v := by
  have hpos : 0 < norm np v := lt_of_le_of_ne (hexact.exactNorm np v).nonneg (Ne.symm hne)
  refine ⟨inv_pos.mpr hpos, ?_⟩
  unfold normalize
  rw [if_neg hne]
  exact List.map_congr_left fun x _ => div_eq_inv_mul x _

theorem normalize_scale (v : List F) : ∃ c, 0 < c ∧ normalize np v = scale c v := by
  by_cases hzero : norm np v = 0
  · refine ⟨1, one_pos, ?_⟩
    unfold normalize scale
    rw [if_pos hzero]
    simp
  · exact ⟨_, normalize_eq_scale np hexact v hzero⟩

/-- A vector that has a length is brought to length one. -/
theorem norm_normalize (v : List F) (hne : norm np v ≠ 0) : norm np (normalize np v) = 1 := by
  obtain ⟨hpos, hscale⟩ := normalize_eq_scale np hexact v hne
  rw [hscale, norm_scale np hexact _ hpos, inv_mul_cancel₀ hne]

theorem rowSimilarity_normalize (a b : List F) :
    rowSimilarity np (normalize np a) (normalize np b) = rowSimilarity np a b := by
  obtain ⟨c, hc, ha⟩ := normalize_scale np hexact a
  obtain ⟨d, hd, hb⟩ := normalize_scale np hexact b
  rw [ha, hb, rowSimilarity_scale_query np hexact c hc, rowSimilarity_scale_row np hexact d hd]

/-- Of normalized vectors the dot product is the similarity. -/
theorem dot_normalize (a b : List F) :
    dot (normalize np a) (normalize np b) = rowSimilarity np (normalize np a) (normalize np b) := by
  have hzero : ∀ v w : List F, norm np v = 0 → dot v w = 0 := by
    intro v w hv
    have hle := abs_dot_le np v w (hexact.exactNorm np v) (hexact.exactNorm np w)
    rw [hv, zero_mul] at hle
    exact abs_nonpos_iff.mp hle
  have hunit : ∀ v : List F, norm np (normalize np v) = 0 ∨ norm np (normalize np v) = 1 := by
    intro v
    by_cases hne : norm np v = 0
    · left
      unfold normalize
      rw [if_pos hne, hne]
    · exact Or.inr (norm_normalize np hexact v hne)
  rw [rowSimilarity_eq np _ _ (hexact.exactNorm np _) (hexact.exactNorm np _)]
  rcases hunit a with ha | ha
  · rw [hzero _ _ ha, zero_div]
  · rcases hunit b with hb | hb
    · rw [dot_comm, hzero _ _ hb, zero_div]
    · rw [ha, hb, one_mul, div_one]

end

end CachingLayer
