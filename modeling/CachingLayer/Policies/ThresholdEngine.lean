import Mathlib.Algebra.Order.Field.Basic
import CachingLayer.Models.Chat
import CachingLayer.Policies.Patterns

/-!
# Adaptive thresholds

Each category of prompts has a similarity threshold of its own, moved by feedback and
clamped to the category's bounds.  In exact arithmetic feedback keeps a table whose
thresholds lie within their bounds (`Adjusted.recordFeedback`), moves no other category
(`recordFeedback_of_ne`) and moves its own the way it says (`le_recordFeedback`,
`recordFeedback_le`).
-/

namespace CachingLayer

open Text

inductive ThresholdCategory
  | classification
  | programming
  | creative
  | general
deriving DecidableEq

def ThresholdCategory.value : ThresholdCategory → String
  | classification => "classification"
  | programming => "programming"
  | creative => "creative"
  | general => "general"

/-- A category's current threshold and the bounds it may adapt within. -/
structure CategoryPolicy (F : Type) where
  base : F
  minimum : F
  maximum : F
  step : F
  current : F

namespace CategoryPolicy

section
variable {F : Type} [Field F] [LinearOrder F]

/-- `__post_init__`: `current` starts at `base`. -/
def new (base minimum maximum : F) (step : F := 5 / 1000) : CategoryPolicy F :=
  { base, minimum, maximum, step, current := base }

def adjust (p : CategoryPolicy F) (delta : F) : CategoryPolicy F :=
  { p with current := min p.maximum (max p.minimum (p.current + delta)) }

end

end CategoryPolicy

/-- `_CREATIVE_RE`, its three alternatives. -/
def creativePatterns : List Pattern := [
  ⟨"\\b(write|compose|draft|brainstorm)\\b.*\\b(poem|story|song|essay|tagline|fiction|lyrics|joke|haiku)\\b",
    [.boundary, .oneOf ["write", "compose", "draft", "brainstorm"], .boundary, .line, .boundary,
      .oneOf ["poem", "story", "song", "essay", "tagline", "fiction", "lyrics", "joke", "haiku"], .boundary]⟩,
  ⟨"\\bcreative\\b", [.boundary, .text "creative", .boundary]⟩,
  ⟨"\\bimagine\\b", [.boundary, .text "imagine", .boundary]⟩]

/-- `_PROGRAMMING_KEYWORDS`. -/
def programmingKeywords : List String := [
  "code", "python", "javascript", "java", "c++", "rust", "golang", "function",
  "bug", "stack trace", "compile", "regex", "sql", "algorithm", "implement",
  "refactor", "unit test", "exception", "api endpoint"]

/-- `_CLASSIFICATION_KEYWORDS`. -/
def classificationKeywords : List String := [
  "classify", "categorize", "sentiment", "is this", "label this", "yes or no",
  "true or false", "which category", "detect the", "is the following"]

def categorize (u : Unicode) (prompt : String) : ThresholdCategory :=
  let text := strip (u.lower prompt)
  if creativePatterns.any (u.search · text) then .creative
  else if programmingKeywords.any (occursIn · text) then .programming
  else if classificationKeywords.any (occursIn · text) then .classification
  else .general

structure AdaptiveThresholdEngine (F : Type) where
  policies : ThresholdCategory → CategoryPolicy F

namespace AdaptiveThresholdEngine

section
variable {F : Type} [Field F] [LinearOrder F]

/-- `_DEFAULT_POLICIES`. -/
def defaultPolicies : ThresholdCategory → CategoryPolicy F
  | .classification => .new (91 / 100) (88 / 100) (95 / 100)
  | .programming => .new (95 / 100) (93 / 100) (98 / 100)
  | .creative => .new (985 / 1000) (97 / 100) (995 / 1000)
  | .general => .new (95 / 100) (92 / 100) (98 / 100)

def thresholdForPrompt (u : Unicode) (engine : AdaptiveThresholdEngine F) (prompt : String) : F :=
  (engine.policies (categorize u prompt)).current

/-- What it returns is the category's new `current`. -/
def recordFeedback (category : ThresholdCategory) (falseHit : Bool) (engine : AdaptiveThresholdEngine F) :
    AdaptiveThresholdEngine F where
  policies :=
    let policy := engine.policies category
    Function.update engine.policies category (policy.adjust (if falseHit then policy.step else -policy.step))

def snapshot (engine : AdaptiveThresholdEngine F) : List (String × F) :=
  [.classification, .programming, .creative, .general].map fun category =>
    (ThresholdCategory.value category, (engine.policies category).current)

/-- `build_threshold_policy`. -/
def buildThresholdPolicy (u : Unicode) (engine : AdaptiveThresholdEngine F) (request : ChatCompletionRequest) :
    Option F := some (engine.thresholdForPrompt u request.latestUserPrompt)

end

end AdaptiveThresholdEngine

/-! ## Bounds -/

section
variable {F : Type} [Field F] [LinearOrder F]

namespace CategoryPolicy

/-- A policy that may be given to an engine. -/
structure Valid (p : CategoryPolicy F) : Prop where
  minimum_le_base : p.minimum ≤ p.base
  base_le_maximum : p.base ≤ p.maximum
  step_nonneg : 0 ≤ p.step
  current_eq : p.current = p.base

/-- What feedback makes of the policy `p`: the same bounds, and a threshold within them. -/
structure Adjusted (p q : CategoryPolicy F) : Prop where
  minimum_eq : q.minimum = p.minimum
  maximum_eq : q.maximum = p.maximum
  step_eq : q.step = p.step
  minimum_le : p.minimum ≤ q.current
  le_maximum : q.current ≤ p.maximum

theorem Valid.adjusted (p : CategoryPolicy F) (h : p.Valid) : p.Adjusted p where
  minimum_eq := rfl
  maximum_eq := rfl
  step_eq := rfl
  minimum_le := by rw [h.current_eq]; exact h.minimum_le_base
  le_maximum := by rw [h.current_eq]; exact h.base_le_maximum

theorem Adjusted.adjust (p q : CategoryPolicy F) (h : p.Adjusted q) (delta : F) : p.Adjusted (q.adjust delta) where
  minimum_eq := h.minimum_eq
  maximum_eq := h.maximum_eq
  step_eq := h.step_eq
  minimum_le := by
    show p.minimum ≤ min q.maximum (max q.minimum (q.current + delta))
    rw [h.minimum_eq, h.maximum_eq]
    exact le_min (h.minimum_le.trans h.le_maximum) (le_max_left _ _)
  le_maximum := by
    show min q.maximum (max q.minimum (q.current + delta)) ≤ p.maximum
    rw [h.maximum_eq]
    exact min_le_left _ _

variable [IsStrictOrderedRing F]

/-- Within the bounds a step up is none down. -/
theorem Adjusted.le_adjust (p q : CategoryPolicy F) (h : p.Adjusted q) (delta : F) (hdelta : 0 ≤ delta) :
    q.current ≤ (q.adjust delta).current := by
  show q.current ≤ min q.maximum (max q.minimum (q.current + delta))
  have hup : q.current ≤ q.current + delta := le_add_of_nonneg_right hdelta
  have hmax : q.current ≤ q.maximum := by rw [h.maximum_eq]; exact h.le_maximum
  exact le_min hmax (hup.trans (le_max_right _ _))

theorem Adjusted.adjust_le (p q : CategoryPolicy F) (h : p.Adjusted q) (delta : F) (hdelta : delta ≤ 0) :
    (q.adjust delta).current ≤ q.current := by
  show min q.maximum (max q.minimum (q.current + delta)) ≤ q.current
  have hdown : q.current + delta ≤ q.current := add_le_of_nonpos_right hdelta
  have hmin : q.minimum ≤ q.current := by rw [h.minimum_eq]; exact h.minimum_le
  exact (min_le_right _ _).trans (max_le hmin hdown)

end CategoryPolicy

namespace AdaptiveThresholdEngine

/-- Every policy of the table `policies` may be given to an engine. -/
def Valid (policies : ThresholdCategory → CategoryPolicy F) : Prop := ∀ c, (policies c).Valid

/-- An engine that was given the table `policies`, after any feedback. -/
def Adjusted (policies : ThresholdCategory → CategoryPolicy F) (engine : AdaptiveThresholdEngine F) : Prop :=
  ∀ c, (policies c).Adjusted (engine.policies c)

variable (policies : ThresholdCategory → CategoryPolicy F) (engine : AdaptiveThresholdEngine F)
  (category : ThresholdCategory) (falseHit : Bool)

theorem recordFeedback_self :
    (engine.recordFeedback category falseHit).policies category =
      (engine.policies category).adjust
        (if falseHit then (engine.policies category).step else -(engine.policies category).step) :=
  Function.update_self ..

/-- Feedback moves its own category only. -/
theorem recordFeedback_of_ne (c : ThresholdCategory) (hne : c ≠ category) :
    (engine.recordFeedback category falseHit).policies c = engine.policies c := Function.update_of_ne hne ..

theorem Adjusted.recordFeedback (h : Adjusted policies engine) :
    Adjusted policies (engine.recordFeedback category falseHit) := by
  intro c
  by_cases hc : c = category
  · subst hc
    rw [recordFeedback_self]
    exact (h c).adjust _ _ _
  · rw [engine.recordFeedback_of_ne category falseHit c hc]
    exact h c

theorem step_nonneg (hvalid : Valid policies) (h : Adjusted policies engine) (c : ThresholdCategory) :
    0 ≤ (engine.policies c).step := by
  rw [(h c).step_eq]
  exact (hvalid c).step_nonneg

variable [IsStrictOrderedRing F]

/-- A false hit never loosens. -/
theorem le_recordFeedback (hvalid : Valid policies) (h : Adjusted policies engine) :
    (engine.policies category).current ≤ ((engine.recordFeedback category true).policies category).current := by
  rw [recordFeedback_self, if_pos rfl]
  exact (h category).le_adjust _ _ _ (step_nonneg policies engine hvalid h category)

/-- A missed hit never tightens. -/
theorem recordFeedback_le (hvalid : Valid policies) (h : Adjusted policies engine) :
    ((engine.recordFeedback category false).policies category).current ≤ (engine.policies category).current := by
  rw [recordFeedback_self, if_neg (by decide)]
  exact (h category).adjust_le _ _ _ (neg_nonpos.mpr (step_nonneg policies engine hvalid h category))

theorem valid_defaultPolicies : Valid (defaultPolicies : ThresholdCategory → CategoryPolicy F) := by
  intro c
  cases c <;> constructor <;> norm_num [defaultPolicies, CategoryPolicy.new]

end AdaptiveThresholdEngine

end

end CachingLayer
