import CachingLayer.Models.Chat
import CachingLayer.Policies.Patterns

/-!
# TTL classification

`classify` sorts a prompt by seven patterns and two keyword lists into a freshness class
and gives it that class's TTL; `buildTtlPolicy` makes it the proxy's policy.
-/

namespace CachingLayer

open Text

/-! ## The classifier -/

inductive TtlClass
  | long
  | short
  | noCache
deriving DecidableEq

def TtlClass.value : TtlClass → String
  | long => "long"
  | short => "short"
  | noCache => "no_cache"

/-- The classes in order. -/
def TtlClass.longevity : TtlClass → Nat
  | noCache => 0
  | short => 1
  | long => 2

structure TtlDecision where
  ttlClass : TtlClass
  ttlSeconds : Int
  reason : String

namespace TtlDecision

def cacheable (d : TtlDecision) : Bool := d.ttlClass ≠ .noCache

def tag (d : TtlDecision) : String := "ttl:" ++ d.ttlClass.value

end TtlDecision

/-- `_NO_CACHE_PATTERNS`. -/
def noCachePatterns : List Pattern := [
  ⟨"\\bright now\\b", [.boundary, .text "right now", .boundary]⟩,
  ⟨"\\blive\\b", [.boundary, .text "live", .boundary]⟩,
  ⟨"\\bcurrently\\b", [.boundary, .text "currently", .boundary]⟩,
  ⟨"\\bat this (moment|time)\\b", [.boundary, .text "at this ", .oneOf ["moment", "time"], .boundary]⟩,
  ⟨"\\bscore\\b.*\\b(game|match)\\b",
    [.boundary, .text "score", .boundary, .line, .boundary, .oneOf ["game", "match"], .boundary]⟩,
  ⟨"\\bbreaking news\\b", [.boundary, .text "breaking news", .boundary]⟩,
  ⟨"\\bas of (today|now)\\b", [.boundary, .text "as of ", .oneOf ["today", "now"], .boundary]⟩]

/-- `_SHORT_KEYWORDS`. -/
def shortKeywords : List String := [
  "stock price", "share price", "stock market", "exchange rate", "crypto",
  "bitcoin price", "weather", "forecast", "news", "headline", "today",
  "this week", "current events", "trending", "latest"]

/-- `_LONG_KEYWORDS`. -/
def longKeywords : List String := [
  "what is", "what are", "who was", "who is", "explain", "define",
  "definition", "how does", "how do i", "difference between", "history of",
  "example of", "concept", "algorithm", "complexity", "python", "javascript",
  "sql", "regex", "function", "recursion", "data structure"]

structure TtlClassifier where
  longTtlSeconds : Int := 86400
  shortTtlSeconds : Int := 3600

namespace TtlClassifier

def classify (u : Unicode) (c : TtlClassifier) (prompt : String) : TtlDecision :=
  let text := strip (u.lower prompt)
  match noCachePatterns.find? (u.search · text) with
  | some p => { ttlClass := .noCache, ttlSeconds := 0, reason := "matched volatile pattern '" ++ p.pattern ++ "'" }
  | none =>
    if shortKeywords.any (occursIn · text) then
      { ttlClass := .short, ttlSeconds := c.shortTtlSeconds, reason := "time-sensitive keyword" }
    else if longKeywords.any (occursIn · text) then
      { ttlClass := .long, ttlSeconds := c.longTtlSeconds, reason := "stable-knowledge keyword" }
    else { ttlClass := .long, ttlSeconds := c.longTtlSeconds, reason := "default stable" }

def classTtl (c : TtlClassifier) : TtlClass → Int
  | .long => c.longTtlSeconds
  | .short => c.shortTtlSeconds
  | .noCache => 0

/-- The TTL is that of the class. -/
theorem ttlSeconds_classify (u : Unicode) (c : TtlClassifier) (prompt : String) :
    (c.classify u prompt).ttlSeconds = c.classTtl (c.classify u prompt).ttlClass := by
  unfold classify
  simp only []
  split
  · rfl
  · split
    · rfl
    · split <;> rfl

/-- What has a TTL may be kept. -/
theorem cacheable_of_ttlSeconds_pos (u : Unicode) (c : TtlClassifier) (prompt : String)
    (h : 0 < (c.classify u prompt).ttlSeconds) : (c.classify u prompt).cacheable = true := by
  rw [ttlSeconds_classify] at h
  unfold TtlDecision.cacheable
  rw [decide_eq_true_eq]
  intro hclass
  rw [hclass] at h
  exact absurd h (lt_irrefl 0)

/-- `build_ttl_policy`. -/
def buildTtlPolicy (u : Unicode) (c : TtlClassifier) (request : ChatCompletionRequest)
    (_response : ChatCompletionResponse) : Int × List String :=
  let decision := c.classify u request.latestUserPrompt
  (decision.ttlSeconds, request.cacheTags.getD [] ++ [decision.tag])

theorem ttlSeconds_buildTtlPolicy (u : Unicode) (c : TtlClassifier) (request : ChatCompletionRequest)
    (response : ChatCompletionResponse) :
    (c.buildTtlPolicy u request response).1 = (c.classify u request.latestUserPrompt).ttlSeconds := by
  simp only [buildTtlPolicy]

/-! ## Surrounded prompts -/

theorem classTtl_mono (c : TtlClassifier) (k k' : TtlClass)
    (hordered : 0 ≤ c.shortTtlSeconds ∧ c.shortTtlSeconds ≤ c.longTtlSeconds) (h : k.longevity ≤ k'.longevity) :
    c.classTtl k ≤ c.classTtl k' := by
  obtain ⟨hshort, hlong⟩ := hordered
  cases k <;> cases k' <;> simp only [TtlClass.longevity, classTtl] at h ⊢ <;> omega

section
variable (u : Unicode) (c : TtlClassifier)

theorem ttlClass_classify (prompt : String) :
    (c.classify u prompt).ttlClass =
      if noCachePatterns.any (u.search · (strip (u.lower prompt))) then .noCache
      else if shortKeywords.any (occursIn · (strip (u.lower prompt))) then .short
      else .long := by
  unfold classify
  simp only []
  generalize strip (u.lower prompt) = text
  generalize noCachePatterns = patterns
  have hany : patterns.any (u.search · text) = (patterns.find? (u.search · text)).isSome :=
    List.isSome_find?.symm
  rw [hany]
  cases patterns.find? (u.search · text) with
  | some p => rfl
  | none =>
    by_cases hshort : shortKeywords.any (occursIn · text) = true
    · simp only [hshort, if_true]
      rfl
    · by_cases hlong : longKeywords.any (occursIn · text) = true <;> simp [hshort, hlong]

/-- Nothing is found in a blank prompt. -/
theorem ttlClass_blank (prompt : String) (h : strip (u.lower prompt) = "") :
    (c.classify u prompt).ttlClass = .long := by
  have hpatterns : noCachePatterns.any (u.search · "") = false := by
    simp [noCachePatterns, Unicode.search, Unicode.searchFrom, Unicode.matchesHere, Unicode.isWord]
  have hkeywords : shortKeywords.any (occursIn · "") = false := by decide +kernel
  rw [ttlClass_classify, h, hpatterns, hkeywords]
  rfl

theorem longevity_surrounded (a p b : String) :
    (c.classify u (a ++ " " ++ p ++ " " ++ b)).ttlClass.longevity ≤ (c.classify u p).ttlClass.longevity := by
  by_cases hblank : strip (u.lower p) = ""
  · rw [ttlClass_blank u c p hblank]
    cases (c.classify u (a ++ " " ++ p ++ " " ++ b)).ttlClass <;> decide
  · have hstands := standsIn_surrounded u a p b hblank
    rw [ttlClass_classify, ttlClass_classify]
    generalize strip (u.lower p) = text at hstands
    generalize strip (u.lower (a ++ " " ++ p ++ " " ++ b)) = text' at hstands
    have hpatterns : noCachePatterns.any (u.search · text) = true → noCachePatterns.any (u.search · text') = true := by
      intro h
      obtain ⟨q, hq, hsearch⟩ := List.any_eq_true.mp h
      exact List.any_eq_true.mpr ⟨q, hq, hstands.search u q _ _ hsearch⟩
    have hkeywords : shortKeywords.any (occursIn · text) = true → shortKeywords.any (occursIn · text') = true := by
      intro h
      obtain ⟨k, hk, hoccurs⟩ := List.any_eq_true.mp h
      exact List.any_eq_true.mpr ⟨k, hk, hstands.occursIn k _ _ hoccurs⟩
    by_cases hvolatile : noCachePatterns.any (u.search · text) = true
    · rw [if_pos hvolatile, if_pos (hpatterns hvolatile)]
    · rw [if_neg hvolatile]
      by_cases hshort : shortKeywords.any (occursIn · text) = true
      · rw [if_pos hshort, if_pos (hkeywords hshort)]
        split <;> decide
      · rw [if_neg hshort]
        split_ifs <;> decide

theorem cacheable_eq_false_iff (prompt : String) :
    (c.classify u prompt).cacheable = false ↔ (c.classify u prompt).ttlClass.longevity = 0 := by
  unfold TtlDecision.cacheable
  cases (c.classify u prompt).ttlClass <;> decide

end

/-- **Surrounded prompts.**  Text around a prompt never makes its class longer-lived or an
uncacheable prompt cacheable, nor lengthens its TTL where the TTLs are ordered as the classes are. -/
theorem classify_surrounded (u : Unicode) (c : TtlClassifier) (a p b : String) :
    let inner := classify u c p
    let outer := classify u c (a ++ " " ++ p ++ " " ++ b)
    outer.ttlClass.longevity ≤ inner.ttlClass.longevity ∧
      (inner.cacheable = false → outer.cacheable = false) ∧
      (0 ≤ c.shortTtlSeconds ∧ c.shortTtlSeconds ≤ c.longTtlSeconds → outer.ttlSeconds ≤ inner.ttlSeconds) := by
  intro inner outer
  have hle : outer.ttlClass.longevity ≤ inner.ttlClass.longevity := longevity_surrounded u c a p b
  refine ⟨hle, fun h => ?_, fun hordered => ?_⟩
  · have hzero : inner.ttlClass.longevity = 0 := (cacheable_eq_false_iff u c p).mp h
    apply (cacheable_eq_false_iff u c _).mpr
    exact Nat.le_zero.mp (hle.trans hzero.le)
  · have houter : outer.ttlSeconds = c.classTtl outer.ttlClass := ttlSeconds_classify u c _
    have hinner : inner.ttlSeconds = c.classTtl inner.ttlClass := ttlSeconds_classify u c _
    rw [houter, hinner]
    exact c.classTtl_mono _ _ hordered hle

end TtlClassifier

/-- `.*` stays within its line. -/
example : (TtlClassifier.classify .ascii {} "What is the SCORE of this\tgame?").ttlClass = .noCache ∧
    (TtlClassifier.classify .ascii {} "What is the SCORE of this\ngame?").ttlClass = .long := by
  decide +kernel

end CachingLayer
