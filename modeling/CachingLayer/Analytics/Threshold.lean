import CachingLayer.Basis.Fold
import CachingLayer.Basis.Rounding
import CachingLayer.Cache.Similarity

/-!
# Similarity-threshold analytics

A sweep of candidate thresholds over labelled pairs of prompts: at each threshold, one loop
counts hits and misses that are right and wrong (`countCase`), and rates are read off the
counts; `recommend` picks the threshold of the best F1.

Main result:

* `sweep_sound` — the rows of a sweep are consistent and monotone, and the threshold
  recommended is the best up to rounding.
-/

namespace CachingLayer

/-- A labelled pair: should these two prompts be treated as the same query? -/
structure ThresholdTestCase where
  query : String
  candidate : String
  expectedMatch : Bool

structure ThresholdMetrics (F : Type) where
  threshold : F
  hitRate : F
  precision : F
  /-- `recall`. -/
  recallRate : F
  falsePositiveRate : F
  falseNegativeRate : F
  truePositives : Nat
  falsePositives : Nat
  trueNegatives : Nat
  falseNegatives : Nat

structure ThresholdReport (F : Type) where
  sampleSize : Nat
  metrics : List (ThresholdMetrics F)
  recommendedThreshold : F

/-- `_Confusion`. -/
structure Confusion where
  tp : Nat := 0
  fp : Nat := 0
  tn : Nat := 0
  fn : Nat := 0

section
variable {F : Type} [Field F]

/-- `_safe_div`. -/
def safeDiv (numerator denominator : Nat) : F :=
  if denominator = 0 then 0 else (numerator : F) / denominator

variable [LinearOrder F]

/-- One round of `_metrics`'s loop. -/
def Confusion.countCase (threshold : F) (c : Confusion) (case : ThresholdTestCase × F) : Confusion :=
  let predicted := decide (threshold ≤ case.2)
  if case.1.expectedMatch && predicted then { c with tp := c.tp + 1 }
  else if case.1.expectedMatch && !predicted then { c with fn := c.fn + 1 }
  else if !case.1.expectedMatch && predicted then { c with fp := c.fp + 1 }
  else { c with tn := c.tn + 1 }

def ThresholdMetrics.ofConfusion (threshold : F) (c : Confusion) : ThresholdMetrics F :=
  let total := max 1 (c.tp + c.fp + c.tn + c.fn)
  { threshold
    hitRate := ((c.tp + c.fp : Nat) : F) / (total : Nat)
    precision := safeDiv c.tp (c.tp + c.fp)
    recallRate := safeDiv c.tp (c.tp + c.fn)
    falsePositiveRate := safeDiv c.fp (c.fp + c.tn)
    falseNegativeRate := safeDiv c.fn (c.fn + c.tp)
    truePositives := c.tp
    falsePositives := c.fp
    trueNegatives := c.tn
    falseNegatives := c.fn }

/-- `_metrics`; `zip(…, strict=True)` raises on lists of two lengths. -/
def thresholdMetrics (threshold : F) (cases : List ThresholdTestCase) (sims : List F) :
    Except PyError (ThresholdMetrics F) :=
  if cases.length = sims.length then
    .ok (.ofConfusion threshold ((cases.zip sims).foldl (Confusion.countCase threshold) {}))
  else .error .valueError

/-- `_recommend`'s inner `f1`. -/
def ThresholdMetrics.f1 (m : ThresholdMetrics F) : F :=
  if m.precision + m.recallRate = 0 then 0 else 2 * m.precision * m.recallRate / (m.precision + m.recallRate)

variable [FloorRing F]

/-- What `_recommend` maximises, in this order. -/
def ThresholdMetrics.rank (m : ThresholdMetrics F) : F ×ₗ F ×ₗ F :=
  toLex (roundTo 4 m.f1, toLex (m.precision, m.threshold))

/-- `_recommend`. -/
def recommend (metrics : List (ThresholdMetrics F)) : F :=
  match metrics.argmax ThresholdMetrics.rank with
  | some m => m.threshold
  | none => 0.95

end

structure ThresholdAnalyzer (F : Type) where
  embed : String → List F
  thresholds : List F

namespace ThresholdAnalyzer

section
variable {F : Type} [Field F] [LinearOrder F] (np : Numpy F) (a : ThresholdAnalyzer F)

/-- `DEFAULT_THRESHOLDS`. -/
def defaultThresholds : List F := [0.90, 0.92, 0.95, 0.98]

/-- `_similarities`. -/
def similarities (cases : List ThresholdTestCase) : Except PyError (List F) :=
  cases.mapM fun case => cosineSimilarity np (a.embed case.query) (a.embed case.candidate)

variable [FloorRing F]

/-- `evaluate` behind its awaits. -/
def sweep (cases : List ThresholdTestCase) (sims : List F) : Except PyError (ThresholdReport F) := do
  let metrics ← (a.thresholds.insertionSort (· ≤ ·)).mapM fun t => thresholdMetrics t cases sims
  return { sampleSize := cases.length, metrics, recommendedThreshold := recommend metrics }

def evaluate (cases : List ThresholdTestCase) : Except PyError (ThresholdReport F) := do
  let sims ← a.similarities np cases
  a.sweep cases sims

end

end ThresholdAnalyzer

/-! ## Counts -/

theorem countP_zip {F : Type} (cases : List ThresholdTestCase) (sims : List F)
    (hlength : sims.length = cases.length) (p : ThresholdTestCase → Bool) :
    (cases.zip sims).countP (fun x => p x.1) = cases.countP p := by
  have hmap : (cases.zip sims).map Prod.fst = cases := List.map_fst_zip hlength.ge
  rw [← hmap, List.countP_map, hmap]
  rfl

section
variable {F : Type} [LinearOrder F]

/-- The four counts, each over all pairs. -/
theorem foldl_countCase (t : F) (l : List (ThresholdTestCase × F)) (c : Confusion) :
    l.foldl (Confusion.countCase t) c =
      { tp := c.tp + l.countP fun x => x.1.expectedMatch && decide (t ≤ x.2)
        fp := c.fp + l.countP fun x => !x.1.expectedMatch && decide (t ≤ x.2)
        tn := c.tn + l.countP fun x => !x.1.expectedMatch && !decide (t ≤ x.2)
        fn := c.fn + l.countP fun x => x.1.expectedMatch && !decide (t ≤ x.2) } := by
  induction l generalizing c with
  | nil => rfl
  | cons x l ih =>
    rw [List.foldl_cons, ih]
    simp only [List.countP_cons]
    unfold Confusion.countCase
    cases x.1.expectedMatch <;> cases decide (t ≤ x.2) <;> simp <;> omega

/-- What `_metrics` counts at `t`. -/
def confusion (t : F) (cases : List ThresholdTestCase) (sims : List F) : Confusion :=
  (cases.zip sims).foldl (Confusion.countCase t) {}

section
variable (t : F) (cases : List ThresholdTestCase) (sims : List F)

/-- Predicted or not. -/
theorem countP_predicted_add (p : ThresholdTestCase × F → Bool) (l : List (ThresholdTestCase × F)) :
    (l.countP fun x => p x && decide (t ≤ x.2)) + (l.countP fun x => p x && !decide (t ≤ x.2)) = l.countP p := by
  rw [List.countP_eq_countP_filter_add l p fun x => decide (t ≤ x.2), List.countP_filter, List.countP_filter]

/-- The higher the threshold, the fewer. -/
theorem countP_predicted_le (p : ThresholdTestCase × F → Bool) (l : List (ThresholdTestCase × F)) (t' : F)
    (h : t ≤ t') : (l.countP fun x => p x && decide (t' ≤ x.2)) ≤ l.countP fun x => p x && decide (t ≤ x.2) := by
  apply List.countP_mono_left
  intro x _ hx
  rw [Bool.and_eq_true, decide_eq_true_eq] at hx ⊢
  exact ⟨hx.1, h.trans hx.2⟩

section
variable (hlength : sims.length = cases.length)
include hlength

theorem confusion_positives :
    (confusion t cases sims).tp + (confusion t cases sims).fn = cases.countP (·.expectedMatch) := by
  rw [← countP_zip cases sims hlength, ← countP_predicted_add t, confusion, foldl_countCase]
  simp only [Nat.zero_add]

theorem confusion_negatives :
    (confusion t cases sims).fp + (confusion t cases sims).tn = cases.countP (!·.expectedMatch) := by
  rw [← countP_zip cases sims hlength, ← countP_predicted_add t, confusion, foldl_countCase]
  simp only [Nat.zero_add]

end

variable (t' : F) (h : t ≤ t')
include h

theorem confusion_tp_le : (confusion t' cases sims).tp ≤ (confusion t cases sims).tp := by
  rw [confusion, confusion, foldl_countCase, foldl_countCase]
  exact Nat.add_le_add_left (countP_predicted_le t _ _ t' h) _

theorem confusion_fp_le : (confusion t' cases sims).fp ≤ (confusion t cases sims).fp := by
  rw [confusion, confusion, foldl_countCase, foldl_countCase]
  exact Nat.add_le_add_left (countP_predicted_le t _ _ t' h) _

end

end

/-! ## Rows and similarities -/

namespace ThresholdAnalyzer

section
variable {F : Type} [Field F] [LinearOrder F] (np : Numpy F) (a : ThresholdAnalyzer F)
  (cases : List ThresholdTestCase)

theorem length_similarities (sims : List F) (h : a.similarities np cases = .ok sims) :
    sims.length = cases.length := by
  unfold similarities at h
  induction cases generalizing sims with
  | nil =>
    obtain rfl := Except.ok.inj h
    rfl
  | cons case cases ih =>
    rw [List.mapM_cons, Fold.bind_eq_ok_iff] at h
    obtain ⟨x, -, hrest⟩ := h
    obtain ⟨xs, hxs, hret⟩ := (Fold.bind_eq_ok_iff _ _ _).mp hrest
    obtain rfl := Except.ok.inj hret
    rw [List.length_cons, List.length_cons, ih xs hxs]

variable [FloorRing F]

theorem sweep_eq (sims : List F) (hlength : sims.length = cases.length) :
    a.sweep cases sims =
      let metrics := (a.thresholds.insertionSort (· ≤ ·)).map fun t => .ofConfusion t (confusion t cases sims)
      .ok { sampleSize := cases.length, metrics, recommendedThreshold := recommend metrics } := by
  have hrow : ∀ (t : F) (m : ThresholdMetrics F), thresholdMetrics t cases sims = .ok m ↔
      true = true ∧ m = .ofConfusion t (confusion t cases sims) := by
    intro t m
    unfold thresholdMetrics
    rw [if_pos hlength.symm]
    simp [confusion, eq_comm]
  have hmap := (Fold.mapM_eq_ok_iff _ _ (fun _ => true) hrow (a.thresholds.insertionSort (· ≤ ·)) _).mpr
    ⟨fun _ _ => rfl, rfl⟩
  unfold sweep
  rw [hmap]
  rfl

end

end ThresholdAnalyzer

/-! ## Rates -/

section
variable {F : Type} [Field F] [LinearOrder F] [IsStrictOrderedRing F]

theorem safeDiv_mem (n d : Nat) (h : n ≤ d) : (safeDiv n d : F) ∈ Set.Icc 0 1 := by
  unfold safeDiv
  split
  · exact ⟨le_refl 0, zero_le_one⟩
  · have hcast : (n : F) ≤ d := by exact_mod_cast h
    exact ⟨by positivity, div_le_one_of_le₀ hcast (by positivity)⟩

theorem safeDiv_mono (n n' d : Nat) (h : n ≤ n') : (safeDiv n d : F) ≤ safeDiv n' d := by
  unfold safeDiv
  split
  · exact le_refl 0
  · have hcast : (n : F) ≤ n' := by exact_mod_cast h
    exact div_le_div_of_nonneg_right hcast (by positivity)

section
variable (t : F) (c : Confusion)

/-- `max(1, …)` guards what `_safe_div` does. -/
theorem hitRate_eq :
    (ThresholdMetrics.ofConfusion t c).hitRate = safeDiv (c.tp + c.fp) (c.tp + c.fp + c.tn + c.fn) := by
  unfold safeDiv ThresholdMetrics.ofConfusion
  simp only []
  split
  · have hzero : c.tp + c.fp = 0 := by omega
    rw [hzero]
    simp
  · rw [max_eq_right (by omega)]

end

/-- A row's counts compare the similarities with its threshold and split the cases, and its
rates are rates. -/
structure ThresholdMetrics.Consistent (cases : List ThresholdTestCase) (sims : List F) (m : ThresholdMetrics F) :
    Prop where
  truePositives :
    m.truePositives = (cases.zip sims).countP fun x => x.1.expectedMatch && decide (m.threshold ≤ x.2)
  falsePositives :
    m.falsePositives = (cases.zip sims).countP fun x => !x.1.expectedMatch && decide (m.threshold ≤ x.2)
  trueNegatives :
    m.trueNegatives = (cases.zip sims).countP fun x => !x.1.expectedMatch && !decide (m.threshold ≤ x.2)
  falseNegatives :
    m.falseNegatives = (cases.zip sims).countP fun x => x.1.expectedMatch && !decide (m.threshold ≤ x.2)
  counts : m.truePositives + m.falsePositives + m.trueNegatives + m.falseNegatives = cases.length
  positives : m.truePositives + m.falseNegatives = cases.countP (·.expectedMatch)
  negatives : m.falsePositives + m.trueNegatives = cases.countP (!·.expectedMatch)
  hitRate : m.hitRate ∈ Set.Icc 0 1
  precision : m.precision ∈ Set.Icc 0 1
  recallRate : m.recallRate ∈ Set.Icc 0 1
  falsePositiveRate : m.falsePositiveRate ∈ Set.Icc 0 1
  falseNegativeRate : m.falseNegativeRate ∈ Set.Icc 0 1

/-- The row `m'` comes after `m`. -/
structure ThresholdMetrics.Before (m m' : ThresholdMetrics F) : Prop where
  threshold : m.threshold ≤ m'.threshold
  truePositives : m'.truePositives ≤ m.truePositives
  falsePositives : m'.falsePositives ≤ m.falsePositives
  hitRate : m'.hitRate ≤ m.hitRate
  recallRate : m'.recallRate ≤ m.recallRate
  falsePositiveRate : m'.falsePositiveRate ≤ m.falsePositiveRate
  trueNegatives : m.trueNegatives ≤ m'.trueNegatives
  falseNegatives : m.falseNegatives ≤ m'.falseNegatives
  falseNegativeRate : m.falseNegativeRate ≤ m'.falseNegativeRate

section
variable (cases : List ThresholdTestCase) (sims : List F) (hlength : sims.length = cases.length) (t : F)
include hlength

theorem consistent_ofConfusion :
    (ThresholdMetrics.ofConfusion t (confusion t cases sims)).Consistent cases sims := by
  have hcounts := foldl_countCase t (cases.zip sims) {}
  simp only [Nat.zero_add] at hcounts
  have hpos := confusion_positives t cases sims hlength
  have hneg := confusion_negatives t cases sims hlength
  have hsum : cases.length = cases.countP (·.expectedMatch) + cases.countP (!·.expectedMatch) := by
    rw [List.length_eq_countP_add_countP fun c : ThresholdTestCase => c.expectedMatch]
    simp
  change confusion t cases sims = _ at hcounts
  generalize confusion t cases sims = c at hpos hneg hcounts
  refine ⟨congrArg Confusion.tp hcounts, congrArg Confusion.fp hcounts, congrArg Confusion.tn hcounts,
    congrArg Confusion.fn hcounts, ?_, hpos, hneg, ?_, ?_, ?_, ?_, ?_⟩
  · show c.tp + c.fp + c.tn + c.fn = _
    omega
  · rw [hitRate_eq]
    exact safeDiv_mem _ _ (by omega)
  · exact safeDiv_mem _ _ (by omega)
  · exact safeDiv_mem _ _ (by omega)
  · exact safeDiv_mem _ _ (by omega)
  · exact safeDiv_mem _ _ (by omega)

theorem before_ofConfusion (t' : F) (h : t ≤ t') :
    (ThresholdMetrics.ofConfusion t (confusion t cases sims)).Before
      (ThresholdMetrics.ofConfusion t' (confusion t' cases sims)) := by
  have hpos := confusion_positives t cases sims hlength
  have hneg := confusion_negatives t cases sims hlength
  have hpos' := confusion_positives t' cases sims hlength
  have hneg' := confusion_negatives t' cases sims hlength
  have htp := confusion_tp_le t cases sims t' h
  have hfp := confusion_fp_le t cases sims t' h
  generalize confusion t cases sims = c at hpos hneg htp hfp
  generalize confusion t' cases sims = c' at hpos' hneg' htp hfp
  -- the denominators are the same
  have hp : c'.tp + c'.fn = c.tp + c.fn := hpos'.trans hpos.symm
  have hn : c'.fp + c'.tn = c.fp + c.tn := hneg'.trans hneg.symm
  refine ⟨h, htp, hfp, ?_, ?_, ?_, ?_, ?_, ?_⟩
  · rw [hitRate_eq, hitRate_eq]
    have htotal : c'.tp + c'.fp + c'.tn + c'.fn = c.tp + c.fp + c.tn + c.fn := by omega
    rw [htotal]
    exact safeDiv_mono _ _ _ (by omega)
  · show safeDiv c'.tp (c'.tp + c'.fn) ≤ (safeDiv c.tp (c.tp + c.fn) : F)
    rw [hp]
    exact safeDiv_mono _ _ _ htp
  · show safeDiv c'.fp (c'.fp + c'.tn) ≤ (safeDiv c.fp (c.fp + c.tn) : F)
    rw [hn]
    exact safeDiv_mono _ _ _ hfp
  · show c.tn ≤ c'.tn
    omega
  · show c.fn ≤ c'.fn
    omega
  · show (safeDiv c.fn (c.fn + c.tp) : F) ≤ safeDiv c'.fn (c'.fn + c'.tp)
    rw [add_comm c'.fn, hp, add_comm c.tp]
    exact safeDiv_mono _ _ _ (by omega)

end

end

/-! ## The recommendation -/

section
variable {F : Type} [Field F] [LinearOrder F] [IsStrictOrderedRing F] [FloorRing F]

/-- `m` is best among the rows: by F1 up to rounding, then by precision. -/
structure ThresholdMetrics.Best (metrics : List (ThresholdMetrics F)) (m : ThresholdMetrics F) : Prop where
  mem : m ∈ metrics
  f1 : ∀ m' ∈ metrics, m'.f1 ≤ m.f1 + 1 / 10000
  precision : ∀ m' ∈ metrics, roundTo 4 m'.f1 = roundTo 4 m.f1 → m'.precision ≤ m.precision

theorem recommend_best (metrics : List (ThresholdMetrics F)) (hne : metrics ≠ []) :
    ∃ m, ThresholdMetrics.Best metrics m ∧ recommend metrics = m.threshold := by
  cases hmax : metrics.argmax ThresholdMetrics.rank with
  | none => exact absurd (List.argmax_eq_none.mp hmax) hne
  | some m =>
    have hrank : ∀ m' ∈ metrics, m'.rank ≤ m.rank := fun m' hm' => List.le_of_mem_argmax hm' hmax
    have hround : ∀ m' ∈ metrics, roundTo 4 m'.f1 ≤ roundTo 4 m.f1 ∧
        (roundTo 4 m'.f1 = roundTo 4 m.f1 → m'.precision ≤ m.precision) := by
      intro m' hm'
      rcases Prod.Lex.toLex_le_toLex.mp (hrank m' hm') with hlt | ⟨heq, hrest⟩
      · exact ⟨hlt.le, fun heq => absurd heq hlt.ne⟩
      · refine ⟨heq.le, fun _ => ?_⟩
        rcases Prod.Lex.toLex_le_toLex.mp hrest with hlt | ⟨heq', -⟩
        · exact hlt.le
        · exact heq'.le
    refine ⟨m, ⟨List.argmax_mem hmax, fun m' hm' => ?_, fun m' hm' => (hround m' hm').2⟩, ?_⟩
    · have hle := (hround m' hm').1
      have h1 := abs_le.mp (abs_roundTo_sub_le 4 m.f1)
      have h2 := abs_le.mp (abs_roundTo_sub_le 4 m'.f1)
      linarith [h1.2, h2.1]
    · unfold recommend
      rw [hmax]

/-- What a report says. -/
structure ThresholdReport.Sound (thresholds : List F) (cases : List ThresholdTestCase) (sims : List F)
    (report : ThresholdReport F) : Prop where
  sampleSize : report.sampleSize = cases.length
  ascending : report.metrics.map (·.threshold) = thresholds.insertionSort (· ≤ ·)
  consistent : ∀ m ∈ report.metrics, m.Consistent cases sims
  monotone : report.metrics.Pairwise ThresholdMetrics.Before
  recommended : ∃ m, ThresholdMetrics.Best report.metrics m ∧
    report.recommendedThreshold = m.threshold ∧ m.threshold ∈ thresholds

namespace ThresholdAnalyzer

variable (np : Numpy F) (a : ThresholdAnalyzer F) (cases : List ThresholdTestCase)

theorem sound_sweep (sims : List F) (hlength : sims.length = cases.length) (hne : a.thresholds ≠ []) :
    ∃ report, a.sweep cases sims = .ok report ∧ report.Sound a.thresholds cases sims := by
  have hsorted : (a.thresholds.insertionSort (· ≤ ·)).Pairwise (· ≤ ·) := List.pairwise_insertionSort _ _
  have hrows : (a.thresholds.insertionSort (· ≤ ·)).map
      (fun t => ThresholdMetrics.ofConfusion t (confusion t cases sims)) ≠ [] := by
    intro hnil
    apply hne
    have h := (List.perm_insertionSort (· ≤ ·) a.thresholds).length_eq
    rw [List.map_eq_nil_iff.mp hnil] at h
    exact List.eq_nil_of_length_eq_zero h.symm
  rw [sweep_eq a cases sims hlength]
  refine ⟨_, rfl, rfl, ?_, ?_, ?_, ?_⟩
  · rw [List.map_map]
    exact List.map_id _
  · intro m hm
    obtain ⟨t, -, rfl⟩ := List.mem_map.mp hm
    exact consistent_ofConfusion cases sims hlength t
  · rw [List.pairwise_map]
    exact hsorted.imp fun {t t'} h => before_ofConfusion cases sims hlength t t' h
  · obtain ⟨m, hbest, hrec⟩ := recommend_best _ hrows
    refine ⟨m, hbest, hrec, ?_⟩
    obtain ⟨t, ht, rfl⟩ := List.mem_map.mp hbest.mem
    exact (List.mem_insertionSort _).mp ht

end ThresholdAnalyzer

end

namespace ThresholdAnalyzer

end ThresholdAnalyzer

end CachingLayer
