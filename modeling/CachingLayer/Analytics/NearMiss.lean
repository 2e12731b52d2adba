import CachingLayer.Basis.Deque
import CachingLayer.Basis.Rounding
import CachingLayer.Basis.Sorted

/-!
# Near-miss analysis

A tracker keeps the last `capacity` near misses; `report` counts them into bins, averages
them, and from `minSamples` on recommends a threshold just below their lower quartile.

The bins hold every event (`sum_histogram`), and three quarters of the events score at least
what is recommended (`recommended_recovers`).  Whether the recommendation is below a given
threshold is a matter of counting (`recommended_lt_iff`).
-/

namespace CachingLayer

structure NearMiss (F : Type) where
  score : F
  threshold : F
  namespaceKey : String
  promptPreview : String

def NearMiss.gap {F : Type} [Sub F] (e : NearMiss F) : F := e.threshold - e.score

/-- `{x:.3f}` and `{x}` in a format string. -/
structure FloatFormat (F : Type) where
  fixed3 : F → String
  plain : F → String

structure NearMissReport (F : Type) where
  count : Nat
  windowSize : Nat
  meanScore : Option F := none
  meanGap : Option F := none
  histogram : List (String × Nat)
  recommendedThreshold : Option F := none
  recommendation : String

/-- `bins`, in the dictionary's order. -/
structure Bins where
  from90 : Nat := 0
  from92 : Nat := 0
  from94 : Nat := 0
  other : Nat := 0

def Bins.toDict (b : Bins) : List (String × Nat) :=
  [("0.90-0.92", b.from90), ("0.92-0.94", b.from92), ("0.94-0.95", b.from94), ("other", b.other)]

structure NearMissTracker (F : Type) where
  capacity : Nat := 1000
  minSamples : Int := 20
  events : Deque (NearMiss F) capacity := .empty

/-- `statistics.fmean`. -/
def fmean {F : Type} [Field F] (l : List F) : F := l.sum / l.length

namespace NearMissTracker

section
variable {F : Type} (t : NearMissTracker F)

def record (score threshold : F) (namespaceKey prompt : String) : NearMissTracker F :=
  { t with
    events := t.events.append
      { score, threshold, namespaceKey, promptPreview := String.ofList (prompt.toList.take 120) } }

variable [Field F] [LinearOrder F]

/-- One round of `_histogram`'s loop. -/
def countScore (b : Bins) (s : F) : Bins :=
  if 0.90 ≤ s ∧ s < 0.92 then { b with from90 := b.from90 + 1 }
  else if 0.92 ≤ s ∧ s < 0.94 then { b with from92 := b.from92 + 1 }
  else if 0.94 ≤ s ∧ s < 0.95 then { b with from94 := b.from94 + 1 }
  else { b with other := b.other + 1 }

/-- `_histogram`. -/
def histogram : List (String × Nat) :=
  ((t.events.toList.map (·.score)).foldl countScore {}).toDict

/-- `p25`; the subtraction stops at zero, as `max(0, …)` does. -/
def lowerQuartile (scores : List F) : F := (scores.insertionSort (· ≤ ·)).getD (scores.length / 4 - 1) 0

/-- What is recommended for the quartile `p25`. -/
def justBelow [FloorRing F] (p25 : F) : F := roundTo 3 (p25 - 0.005)

def report [FloorRing F] (fmt : FloatFormat F) : NearMissReport F :=
  let events := t.events.toList
  let count := events.length
  if count = 0 then
    { count := 0, windowSize := t.capacity, histogram := t.histogram
      recommendation := "No near misses observed yet." }
  else
    let scores := events.map (·.score)
    let meanScore := fmean scores
    let meanGap := fmean (events.map (·.gap))
    if t.minSamples ≤ count then
      let recommended := justBelow (lowerQuartile scores)
      { count, windowSize := t.capacity, meanScore := some (roundTo 4 meanScore)
        meanGap := some (roundTo 4 meanGap), histogram := t.histogram
        recommendedThreshold := some recommended
        recommendation :=
          toString count ++ " near misses observed (mean score " ++ fmt.fixed3 meanScore ++
            "). Lowering the threshold to ~" ++ fmt.plain recommended ++
            " would recover most of them; validate against /analytics/threshold-test before rolling out." }
    else
      { count, windowSize := t.capacity, meanScore := some (roundTo 4 meanScore)
        meanGap := some (roundTo 4 meanGap), histogram := t.histogram
        recommendation :=
          "Only " ++ toString count ++ " near misses so far (need " ++ toString t.minSamples ++
            " for a recommendation). Mean score " ++ fmt.fixed3 meanScore ++ "." }

end

/-! ## Reports -/

section
variable {F : Type} [Field F] [LinearOrder F]

theorem sum_foldl_countScore (l : List F) (b : Bins) :
    ((l.foldl countScore b).toDict.map Prod.snd).sum = (b.toDict.map Prod.snd).sum + l.length := by
  induction l generalizing b with
  | nil => rfl
  | cons s l ih =>
    have hone : ((countScore b s).toDict.map Prod.snd).sum = (b.toDict.map Prod.snd).sum + 1 := by
      unfold countScore
      split_ifs <;> simp only [Bins.toDict, List.map_cons, List.map_nil, List.sum_cons, List.sum_nil] <;> omega
    rw [List.foldl_cons, ih, hone, List.length_cons]
    omega

theorem sum_histogram (t : NearMissTracker F) : (t.histogram.map Prod.snd).sum = t.events.toList.length := by
  unfold histogram
  rw [sum_foldl_countScore, List.length_map]
  simp [Bins.toDict]

variable [FloorRing F] (t : NearMissTracker F) (fmt : FloatFormat F)

theorem report_counts :
    (t.report fmt).count = t.events.toList.length ∧
      ((t.report fmt).histogram.map Prod.snd).sum = (t.report fmt).count := by
  have hsum := t.sum_histogram
  unfold report
  simp only []
  split
  · next hzero => exact ⟨hzero.symm, hsum.trans hzero⟩
  · split
    · exact ⟨rfl, hsum⟩
    · exact ⟨rfl, hsum⟩

/-- When a threshold is recommended, and which. -/
theorem recommendedThreshold_iff (recommended : F) :
    (t.report fmt).recommendedThreshold = some recommended ↔
      t.events.toList ≠ [] ∧ t.minSamples ≤ t.events.toList.length ∧
        recommended = justBelow (lowerQuartile (t.events.toList.map (·.score))) := by
  unfold report
  simp only [List.length_eq_zero_iff]
  split
  · next hnil => simp [hnil]
  · next hne =>
    split
    · next hmin => simp [hne, hmin, eq_comm]
    · next hmin => simp [hmin]

end

/-! ## The quartile -/

section
variable {F : Type} [Field F] [LinearOrder F] [IsStrictOrderedRing F] [FloorRing F]

/-- Rounding does not make up for the offset. -/
theorem justBelow_lt (s : F) : justBelow s < s := by
  have hround := (abs_le.mp (abs_roundTo_sub_le 3 (s - 0.005))).2
  unfold justBelow
  linarith

theorem justBelow_mono (s s' : F) (h : s ≤ s') : justBelow s ≤ justBelow s' :=
  roundTo_mono 3 _ _ (sub_le_sub_right h _)

end

section
variable {F : Type} [Field F] [LinearOrder F] (scores : List F) (hne : scores ≠ [])
include hne

/-- The lower quartile is small exactly when a quarter of the scores is, and at least one. -/
theorem lowerQuartile_iff (p : F → Bool) (hp : ∀ a b, a ≤ b → p b = true → p a = true) :
    p (lowerQuartile scores) = true ↔ max 1 (scores.length / 4) ≤ scores.countP p := by
  have hpos := List.length_pos_iff.mpr hne
  have hlength := (List.perm_insertionSort (· ≤ ·) scores).length_eq
  have hlt : scores.length / 4 - 1 < (scores.insertionSort (· ≤ ·)).length := by omega
  unfold lowerQuartile
  rw [List.getD_eq_getElem _ _ hlt, getElem_insertionSort_iff scores p hp _ hlt]
  omega

variable [IsStrictOrderedRing F] [FloorRing F]

/-- Three quarters of the scores reach what is recommended. -/
theorem recommended_recovers :
    3 * scores.length ≤ 4 * scores.countP fun s => justBelow (lowerQuartile scores) ≤ s := by
  have hlt := justBelow_lt (lowerQuartile scores)
  generalize justBelow (lowerQuartile scores) = recommended at hlt
  have hfew := (lowerQuartile_iff scores hne (fun s => decide (s < recommended)) (by
    intro a b hab hb
    rw [decide_eq_true_eq] at hb ⊢
    exact hab.trans_lt hb)).not.mp (by simpa using hlt.le)
  have hsplit : scores.length =
      (scores.countP fun s => decide (s < recommended)) + scores.countP fun s => recommended ≤ s := by
    rw [List.length_eq_countP_add_countP fun s => decide (s < recommended)]
    simp
  omega

/-- The recommendation is below `threshold` exactly when a quarter of the scores would give one
that is. -/
theorem recommended_lt_iff (threshold : F) :
    justBelow (lowerQuartile scores) < threshold ↔
      max 1 (scores.length / 4) ≤ scores.countP fun s => justBelow s < threshold := by
  have h := lowerQuartile_iff scores hne (fun s => decide (justBelow s < threshold)) (by
    intro a b hab hb
    rw [decide_eq_true_eq] at hb ⊢
    exact (justBelow_mono a b hab).trans_lt hb)
  rwa [decide_eq_true_eq] at h

end

end NearMissTracker

end CachingLayer
