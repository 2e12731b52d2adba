import CachingLayer.Basis.Keyed
import CachingLayer.Models.Json

/-!
# Cache entries

Scores and vector components are in an ordered field `F`; times are exact
rationals, the values `time.time()` returns.
-/

namespace CachingLayer

structure CacheEntry (F : Type) where
  id : String
  namespaceKey : String
  prompt : String
  embedding : List F
  response : Dict
  model : String
  provider : String
  systemPromptHash : String
  temperature : PyFloat
  maxTokens : Option Int
  createdAt : ℚ
  ttlSeconds : Int
  hitCount : Nat := 0
  promptTokens : Int
  completionTokens : Int
  tags : List String

namespace CacheEntry

variable {F : Type}

/-- `(now or time.time()) - created_at`; `clock` is what `time.time()` would say. -/
def ageSeconds (e : CacheEntry F) (now : Option ℚ) (clock : ℚ) : ℚ :=
  (match now with
    | some t => if t = 0 then clock else t
    | none => clock) - e.createdAt

def isExpired (e : CacheEntry F) (now : Option ℚ) (clock : ℚ) : Bool :=
  if e.ttlSeconds ≤ 0 then true else decide (e.ageSeconds now clock > e.ttlSeconds)

/-- The same record up to its hit counter. -/
def SameRecord (e e' : CacheEntry F) : Prop := { e with hitCount := 0 } = { e' with hitCount := 0 }

theorem isExpired_eq_false_iff (e : CacheEntry F) (now : ℚ) :
    e.isExpired (some now) now = false ↔ 0 < e.ttlSeconds ∧ now - e.createdAt ≤ e.ttlSeconds := by
  have hage : e.ageSeconds (some now) now = now - e.createdAt := by
    unfold ageSeconds; simp only [ite_self]
  unfold isExpired
  rw [hage]
  split
  · next h => simp; omega
  · next h => simp; omega

end CacheEntry

structure ScoredEntry (F : Type) where
  entry : CacheEntry F
  score : F

def ScoredEntry.id {F : Type} (s : ScoredEntry F) : String := s.entry.id

end CachingLayer
