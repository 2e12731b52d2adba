import CachingLayer.Models.Json

/-!
# Settings

`Settings`, as far as the rest reads them: what the environment gives is taken only when
the three shares are within the unit interval, and a setting that was taken carries that
(`unitInterval`).
-/

namespace CachingLayer

inductive VectorBackend
  | redis
  | memory
deriving DecidableEq

inductive EmbeddingProvider
  | openai
  | fake
deriving DecidableEq

inductive CompleterBackend
  | router
  | echo
deriving DecidableEq

/-- `0.0 <= v <= 1.0`. -/
def PyFloat.inUnitInterval : PyFloat → Bool
  | .finite x => 0 ≤ x ∧ x ≤ 1
  | .negZero => true
  | .inf _ => false
  | .nan => false

/-- The number a float stands for; infinities and `nan` stand for none. -/
def PyFloat.toRat : PyFloat → ℚ
  | .finite x => x
  | _ => 0

/-- The fields with their defaults, types checked. -/
structure SettingsFields where
  vectorBackend : VectorBackend := .redis
  cacheIndexName : String := "semantic_cache"
  embeddingProvider : EmbeddingProvider := .openai
  embeddingModel : String := "text-embedding-3-small"
  embeddingDimensions : Int := 1536
  similarityThreshold : PyFloat := .finite (95 / 100)
  defaultTtlSeconds : Int := 86400
  shortTtlSeconds : Int := 3600
  nearMissWindow : PyFloat := .finite (5 / 100)
  adaptiveThresholdsEnabled : Bool := true
  validationEnabled : Bool := true
  validationSampleRate : PyFloat := .finite (2 / 100)
  validationDriftThreshold : PyFloat := .finite (90 / 100)
  completerBackend : CompleterBackend := .router
  openaiApiKey : String := ""
  openaiBaseUrl : String := "https://api.openai.com/v1"
  anthropicApiKey : String := ""
  anthropicBaseUrl : String := "https://api.anthropic.com/v1"
  ollamaBaseUrl : String := "http://localhost:11434/v1"
  rateLimitEnabled : Bool := true
  rateLimitRps : Int := 50

/-- The fields `_check_unit_interval` is asked about. -/
def SettingsFields.shares (s : SettingsFields) : List PyFloat :=
  [s.similarityThreshold, s.validationSampleRate, s.nearMissWindow]

/-- `_check_unit_interval`. -/
def checkUnitInterval (v : PyFloat) : Except PyError PyFloat :=
  if ¬ v.inUnitInterval then .error .validationError else .ok v

structure Settings extends SettingsFields where
  unitInterval : ∀ v ∈ toSettingsFields.shares, v.inUnitInterval = true

/-- `Settings()`, given the fields. -/
def Settings.validate (fields : SettingsFields) : Except PyError Settings :=
  if h : ∀ v ∈ fields.shares, checkUnitInterval v = .ok v then
    .ok { fields with
      unitInterval := by
        intro v hv
        have hok := h v hv
        unfold checkUnitInterval at hok
        split at hok
        · cases hok
        · next hin => simpa using hin }
  else .error .validationError

/-- The defaults pass their own check. -/
def defaultSettings : Settings where
  unitInterval := by decide +kernel

end CachingLayer
