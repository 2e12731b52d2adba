import CachingLayer.Basis.Fold
import CachingLayer.Proxy.Service

/-!
# Metrics

`CacheMetrics`, the sink of what the service records.  The collectors are a package's: a
counter goes up by what it is told and refuses to go down, a histogram counts what it
observes (`Prometheus`).

A record adds to the series it is about and to no other (`reading_record`), so the metrics
are the sum of what was recorded, in whatever order (`reading_recordAll`), and the hit rate
is the share of hits.  Nothing but savings below zero makes recording
raise (`exists_recordAll`).
-/

namespace CachingLayer

open Fold

/-- `prometheus_client`, as far as the metrics use it. -/
structure Prometheus (F : Type) [Field F] [LinearOrder F] where
  Counter : Type
  Histogram : Type
  counter : Counter
  value : Counter → F
  inc : Counter → F → Except PyError Counter
  histogram : Histogram
  count : Histogram → ℕ
  observe : Histogram → F → Histogram
  value_counter : value counter = 0
  inc_ok : ∀ c x, 0 ≤ x → ∃ c', inc c x = .ok c' ∧ value c' = value c + x
  inc_neg : ∀ c x, x < 0 → inc c x = .error .valueError
  count_histogram : count histogram = 0
  count_observe : ∀ h x, count (observe h x) = count h + 1

/-- `DEFAULT_PRICING`: dollars for a thousand tokens, of the prompt and of the completion. -/
def defaultPricing {F : Type} [Field F] : List (String × F × F) := [
  ("gpt-4o", 0.0025, 0.01),
  ("gpt-4o-mini", 0.00015, 0.0006),
  ("gpt-4-turbo", 0.01, 0.03),
  ("gpt-3.5-turbo", 0.0005, 0.0015),
  ("claude-3-5-sonnet", 0.003, 0.015),
  ("claude-3-opus", 0.015, 0.075),
  ("claude-3-haiku", 0.00025, 0.00125)]

/-- `_FALLBACK_PRICE`. -/
def fallbackPrice {F : Type} [Field F] : F × F := (0.0005, 0.0015)

def CacheStatus.value : CacheStatus → String
  | hit => "HIT"
  | miss => "MISS"

section
variable {F : Type} [Field F] [LinearOrder F]

/-- What is recorded of requests. -/
structure CacheMetrics (prom : Prometheus F) where
  pricing : List (String × F × F) := defaultPricing
  cacheHits : String × String → prom.Counter := fun _ => prom.counter
  cacheMisses : String × String → prom.Counter := fun _ => prom.counter
  hitRate : F := 0
  lookupLatency : prom.Histogram := prom.histogram
  providerLatency : String → prom.Histogram := fun _ => prom.histogram
  similarity : prom.Histogram := prom.histogram
  costSaved : prom.Counter := prom.counter
  tokensSaved : prom.Counter := prom.counter
  requestsByProvider : String → prom.Counter := fun _ => prom.counter
  requestsByModel : String → prom.Counter := fun _ => prom.counter
  /-- `_hits` and `_total`. -/
  hits : ℕ := 0
  total : ℕ := 0

/-- What the tokens would have cost. -/
def dollars (pricing : List (String × F × F)) (model : String) (promptTokens completionTokens : Int) : F :=
  let price := (pricing.lookup model).getD fallbackPrice
  (promptTokens : F) / 1000.0 * price.1 + (completionTokens : F) / 1000.0 * price.2

namespace CacheMetrics

variable {prom : Prometheus F} (m : CacheMetrics prom)

/-- `counter.labels(label).inc()`. -/
def incLabel {L : Type} [DecidableEq L] (counters : L → prom.Counter) (label : L) :
    Except PyError (L → prom.Counter) := do
  return Function.update counters label (← prom.inc (counters label) 1)

def recordLookup (status provider model : String) (similarity latencyMs : F) :
    Except PyError (CacheMetrics prom) := do
  let m := { m with
    requestsByProvider := ← incLabel m.requestsByProvider provider
    requestsByModel := ← incLabel m.requestsByModel model
    lookupLatency := prom.observe m.lookupLatency latencyMs
    similarity := prom.observe m.similarity (max 0 similarity)
    total := m.total + 1 }
  let m ←
    if status = "HIT" then do
      pure { m with cacheHits := ← incLabel m.cacheHits (provider, model), hits := m.hits + 1 }
    else do
      pure { m with cacheMisses := ← incLabel m.cacheMisses (provider, model) }
  return { m with hitRate := if m.total ≠ 0 then (m.hits : F) / m.total else 0 }

def recordProviderLatency (provider : String) (latencyMs : F) : CacheMetrics prom :=
  { m with
    providerLatency := Function.update m.providerLatency provider
      (prom.observe (m.providerLatency provider) latencyMs) }

def recordSavings (model : String) (promptTokens completionTokens : Int) :
    Except PyError (CacheMetrics prom) := do
  let costSaved ← prom.inc m.costSaved (dollars m.pricing model promptTokens completionTokens)
  let tokensSaved ← prom.inc m.tokensSaved ((promptTokens : F) + (completionTokens : F))
  return { m with costSaved, tokensSaved }

/-- What the service records goes to its method; near misses and validations go elsewhere. -/
def record : Effect F → Except PyError (CacheMetrics prom)
  | .recordLookup status provider model score latencyMs =>
    m.recordLookup status.value provider model score latencyMs
  | .recordProviderLatency provider latencyMs => .ok (m.recordProviderLatency provider latencyMs)
  | .recordSavings model promptTokens completionTokens => m.recordSavings model promptTokens completionTokens
  | .nearMiss .. | .validate .. => .ok m

def recordAll (effects : List (Effect F)) : Except PyError (CacheMetrics prom) := effects.foldlM record m

end CacheMetrics

/-! ## Series -/

/-- What the metrics count: a labelled counter, a histogram's observations, or one of the
plain numbers. -/
inductive Series
  | cacheHits (provider model : String)
  | cacheMisses (provider model : String)
  | requestsByProvider (provider : String)
  | requestsByModel (model : String)
  | lookupLatency
  | similarity
  | providerLatency (provider : String)
  | costSaved
  | tokensSaved
  | hits
  | total
deriving DecidableEq

def CacheMetrics.reading {prom : Prometheus F} (m : CacheMetrics prom) : Series → F
  | .cacheHits provider model => prom.value (m.cacheHits (provider, model))
  | .cacheMisses provider model => prom.value (m.cacheMisses (provider, model))
  | .requestsByProvider provider => prom.value (m.requestsByProvider provider)
  | .requestsByModel model => prom.value (m.requestsByModel model)
  | .lookupLatency => (prom.count m.lookupLatency : F)
  | .similarity => (prom.count m.similarity : F)
  | .providerLatency provider => (prom.count (m.providerLatency provider) : F)
  | .costSaved => prom.value m.costSaved
  | .tokensSaved => prom.value m.tokensSaved
  | .hits => (m.hits : F)
  | .total => (m.total : F)

/-- The series a lookup counts in. -/
def lookupSeries (provider model : String) : CacheStatus → List Series
  | .hit => [.requestsByProvider provider, .requestsByModel model, .lookupLatency, .similarity, .total,
      .cacheHits provider model, .hits]
  | .miss => [.requestsByProvider provider, .requestsByModel model, .lookupLatency, .similarity, .total,
      .cacheMisses provider model]

namespace Effect

/-- What a record adds to a series. -/
def adds (pricing : List (String × F × F)) : Effect F → Series → F
  | .recordLookup status provider model _ _, s => if s ∈ lookupSeries provider model status then 1 else 0
  | .recordProviderLatency provider _, s => if s = .providerLatency provider then 1 else 0
  | .recordSavings model promptTokens completionTokens, .costSaved =>
    dollars pricing model promptTokens completionTokens
  | .recordSavings _ promptTokens completionTokens, .tokensSaved => (promptTokens : F) + (completionTokens : F)
  | _, _ => 0

/-- Savings that are not below zero; anything else is. -/
def Creditable (pricing : List (String × F × F)) : Effect F → Prop
  | .recordSavings model promptTokens completionTokens =>
    0 ≤ dollars pricing model promptTokens completionTokens ∧ 0 ≤ (promptTokens : F) + (completionTokens : F)
  | _ => True

end Effect

/-- The rate shown is the share of hits. -/
def CacheMetrics.Rated {prom : Prometheus F} (m : CacheMetrics prom) : Prop :=
  m.hitRate = if m.total ≠ 0 then (m.hits : F) / m.total else 0

namespace CacheMetrics

variable {prom : Prometheus F}

theorem reading_new (s : Series) : ({} : CacheMetrics prom).reading s = 0 := by
  cases s with
  | cacheHits => exact prom.value_counter
  | cacheMisses => exact prom.value_counter
  | requestsByProvider => exact prom.value_counter
  | requestsByModel => exact prom.value_counter
  | lookupLatency => exact congrArg Nat.cast prom.count_histogram |>.trans Nat.cast_zero
  | similarity => exact congrArg Nat.cast prom.count_histogram |>.trans Nat.cast_zero
  | providerLatency => exact congrArg Nat.cast prom.count_histogram |>.trans Nat.cast_zero
  | costSaved => exact prom.value_counter
  | tokensSaved => exact prom.value_counter
  | hits => exact Nat.cast_zero
  | total => exact Nat.cast_zero

theorem rated_new : ({} : CacheMetrics prom).Rated := rfl

/-- A counter that went up went up by what it was told, and that was not below zero. -/
theorem value_of_inc (c c' : prom.Counter) (x : F) (h : prom.inc c x = .ok c') :
    0 ≤ x ∧ prom.value c' = prom.value c + x := by
  rcases lt_or_ge x 0 with hx | hx
  · rw [prom.inc_neg c x hx] at h
    cases h
  · obtain ⟨c'', hc, hvalue⟩ := prom.inc_ok c x hx
    rw [h] at hc
    obtain rfl := Except.ok.inj hc
    exact ⟨hx, hvalue⟩

section
variable {L : Type} [DecidableEq L] (counters counters' : L → prom.Counter) (label : L)

/-- One more on its label. -/
theorem value_of_incLabel (h : incLabel counters label = .ok counters') (l : L) :
    prom.value (counters' l) = prom.value (counters l) + if l = label then 1 else 0 := by
  unfold incLabel at h
  obtain ⟨c', hc, h⟩ := (bind_eq_ok_iff _ _ _).mp h
  obtain rfl := Except.ok.inj h
  by_cases hl : l = label
  · subst hl
    rw [Function.update_self, (value_of_inc _ _ _ hc).2, if_pos rfl]
  · rw [Function.update_of_ne hl, if_neg hl, add_zero]

theorem exists_incLabel [IsStrictOrderedRing F] : ∃ counters', incLabel counters label = .ok counters' := by
  obtain ⟨c', hc, -⟩ := prom.inc_ok (counters label) 1 zero_le_one
  exact ⟨Function.update counters label c', (bind_eq_ok_iff _ _ _).mpr ⟨c', hc, rfl⟩⟩

end

section
variable (m m' : CacheMetrics prom)

/-! ## A record adds to its series -/

section
variable (status : CacheStatus) (provider model : String) (score latencyMs : F)

/-- A lookup recorded: one more for the provider and the model, and on the side of its
status; nothing else raises. -/
theorem recordLookup_eq_ok (h : m.recordLookup status.value provider model score latencyMs = .ok m') :
    ∃ byProvider byModel byHit byMiss,
      incLabel m.requestsByProvider provider = .ok byProvider ∧ incLabel m.requestsByModel model = .ok byModel ∧
      (match status with
        | .hit => incLabel m.cacheHits (provider, model) = .ok byHit ∧ byMiss = m.cacheMisses
        | .miss => byHit = m.cacheHits ∧ incLabel m.cacheMisses (provider, model) = .ok byMiss) ∧
      ∃ hits, hits = (m.hits + match status with
        | .hit => 1
        | .miss => 0) ∧
      m' = { m with
        requestsByProvider := byProvider, requestsByModel := byModel, cacheHits := byHit, cacheMisses := byMiss
        lookupLatency := prom.observe m.lookupLatency latencyMs
        similarity := prom.observe m.similarity (max 0 score), total := m.total + 1, hits
        hitRate := if m.total + 1 ≠ 0 then (hits : F) / ((m.total + 1 : ℕ) : F) else 0 } := by
  unfold recordLookup at h
  obtain ⟨byProvider, hprovider, h⟩ := (bind_eq_ok_iff _ _ _).mp h
  obtain ⟨byModel, hmodel, h⟩ := (bind_eq_ok_iff _ _ _).mp h
  cases status with
  | hit =>
    obtain ⟨byHit, hhit, h⟩ := (bind_eq_ok_iff _ _ _).mp h
    exact ⟨byProvider, byModel, byHit, m.cacheMisses, hprovider, hmodel, ⟨hhit, rfl⟩, _, rfl, (Except.ok.inj h).symm⟩
  | miss =>
    obtain ⟨byMiss, hmiss, h⟩ := (bind_eq_ok_iff _ _ _).mp h
    exact ⟨byProvider, byModel, m.cacheHits, byMiss, hprovider, hmodel, ⟨rfl, hmiss⟩, _, rfl,
      (Except.ok.inj h).symm⟩

theorem reading_recordLookup (h : m.recordLookup status.value provider model score latencyMs = .ok m')
    (s : Series) :
    m'.reading s = m.reading s + if s ∈ lookupSeries provider model status then 1 else 0 := by
  obtain ⟨byProvider, byModel, byHit, byMiss, hprovider, hmodel, hside, hits, hhits, rfl⟩ :=
    recordLookup_eq_ok m m' status provider model score latencyMs h
  have hprovider' := value_of_incLabel _ _ _ hprovider
  have hmodel' := value_of_incLabel _ _ _ hmodel
  cases status with
  | hit =>
    obtain ⟨hhit, rfl⟩ := hside
    have hhit' := value_of_incLabel _ _ _ hhit
    cases s <;> simp [reading, lookupSeries, prom.count_observe, hprovider', hmodel', hhit', hhits]
  | miss =>
    obtain ⟨rfl, hmiss⟩ := hside
    have hmiss' := value_of_incLabel _ _ _ hmiss
    cases s <;> simp [reading, lookupSeries, prom.count_observe, hprovider', hmodel', hmiss', hhits]

theorem rated_recordLookup (h : m.recordLookup status.value provider model score latencyMs = .ok m') :
    m'.Rated ∧ m'.pricing = m.pricing := by
  obtain ⟨_, _, _, _, -, -, -, hits, -, rfl⟩ :=
    recordLookup_eq_ok m m' status provider model score latencyMs h
  exact ⟨rfl, rfl⟩

theorem exists_recordLookup [IsStrictOrderedRing F] :
    ∃ m', m.recordLookup status.value provider model score latencyMs = .ok m' := by
  obtain ⟨byProvider, hprovider⟩ := exists_incLabel m.requestsByProvider provider
  obtain ⟨byModel, hmodel⟩ := exists_incLabel m.requestsByModel model
  unfold recordLookup
  cases status with
  | hit =>
    obtain ⟨byHit, hhit⟩ := exists_incLabel m.cacheHits (provider, model)
    exact ⟨_, (bind_eq_ok_iff _ _ _).mpr ⟨_, hprovider, (bind_eq_ok_iff _ _ _).mpr ⟨_, hmodel,
      (bind_eq_ok_iff _ _ _).mpr ⟨_, hhit, rfl⟩⟩⟩⟩
  | miss =>
    obtain ⟨byMiss, hmiss⟩ := exists_incLabel m.cacheMisses (provider, model)
    exact ⟨_, (bind_eq_ok_iff _ _ _).mpr ⟨_, hprovider, (bind_eq_ok_iff _ _ _).mpr ⟨_, hmodel,
      (bind_eq_ok_iff _ _ _).mpr ⟨_, hmiss, rfl⟩⟩⟩⟩

end

section
variable (model : String) (promptTokens completionTokens : Int)

/-- Savings are two counters' business, and each refuses what is below zero. -/
theorem recordSavings_eq_ok (h : m.recordSavings model promptTokens completionTokens = .ok m') :
    0 ≤ dollars m.pricing model promptTokens completionTokens ∧ 0 ≤ (promptTokens : F) + (completionTokens : F) ∧
      ∃ costSaved tokensSaved, m' = { m with costSaved, tokensSaved } ∧
        prom.value costSaved = prom.value m.costSaved + dollars m.pricing model promptTokens completionTokens ∧
        prom.value tokensSaved = prom.value m.tokensSaved + ((promptTokens : F) + (completionTokens : F)) := by
  unfold recordSavings at h
  obtain ⟨costSaved, hcost, h⟩ := (bind_eq_ok_iff _ _ _).mp h
  obtain ⟨tokensSaved, htokens, h⟩ := (bind_eq_ok_iff _ _ _).mp h
  obtain ⟨hcost0, hcost⟩ := value_of_inc _ _ _ hcost
  obtain ⟨htokens0, htokens⟩ := value_of_inc _ _ _ htokens
  exact ⟨hcost0, htokens0, costSaved, tokensSaved, (Except.ok.inj h).symm, hcost, htokens⟩

theorem exists_recordSavings
    (h : 0 ≤ dollars m.pricing model promptTokens completionTokens ∧ 0 ≤ (promptTokens : F) + (completionTokens : F)) :
    ∃ m', m.recordSavings model promptTokens completionTokens = .ok m' := by
  obtain ⟨costSaved, hcost, -⟩ := prom.inc_ok m.costSaved _ h.1
  obtain ⟨tokensSaved, htokens, -⟩ := prom.inc_ok m.tokensSaved _ h.2
  unfold recordSavings
  exact ⟨_, (bind_eq_ok_iff _ _ _).mpr ⟨_, hcost, (bind_eq_ok_iff _ _ _).mpr ⟨_, htokens, rfl⟩⟩⟩

end

/-- **Step.**  A record adds to its series, and to no other. -/
theorem reading_record (e : Effect F) (h : m.record e = .ok m') (s : Series) :
    m'.reading s = m.reading s + e.adds m.pricing s := by
  cases e with
  | recordLookup status provider model score latencyMs =>
    exact reading_recordLookup m m' status provider model score latencyMs h s
  | nearMiss =>
    obtain rfl := Except.ok.inj h
    exact (add_zero _).symm
  | recordSavings model promptTokens completionTokens =>
    obtain ⟨-, -, costSaved, tokensSaved, rfl, hcost, htokens⟩ :=
      recordSavings_eq_ok m m' model promptTokens completionTokens h
    cases s with
    | costSaved => exact hcost
    | tokensSaved => exact htokens
    | _ => exact (add_zero _).symm
  | recordProviderLatency provider latencyMs =>
    obtain rfl := Except.ok.inj h
    cases s <;> simp [reading, recordProviderLatency, Effect.adds]
    case providerLatency provider' =>
      by_cases hp : provider' = provider
      · subst hp
        simp [prom.count_observe]
      · simp [hp]
  | validate =>
    obtain rfl := Except.ok.inj h
    exact (add_zero _).symm

theorem rated_record (e : Effect F) (hrated : m.Rated) (h : m.record e = .ok m') :
    m'.Rated ∧ m'.pricing = m.pricing := by
  cases e with
  | recordLookup status provider model score latencyMs =>
    exact rated_recordLookup m m' status provider model score latencyMs h
  | nearMiss =>
    obtain rfl := Except.ok.inj h
    exact ⟨hrated, rfl⟩
  | recordSavings model promptTokens completionTokens =>
    obtain ⟨-, -, costSaved, tokensSaved, rfl, -, -⟩ :=
      recordSavings_eq_ok m m' model promptTokens completionTokens h
    exact ⟨hrated, rfl⟩
  | recordProviderLatency provider latencyMs =>
    obtain rfl := Except.ok.inj h
    exact ⟨hrated, rfl⟩
  | validate =>
    obtain rfl := Except.ok.inj h
    exact ⟨hrated, rfl⟩

/-- What can be recorded. -/
theorem exists_record_iff [IsStrictOrderedRing F] (e : Effect F) :
    (∃ m', m.record e = .ok m') ↔ e.Creditable m.pricing := by
  constructor
  · rintro ⟨m', h⟩
    cases e with
    | recordSavings model promptTokens completionTokens =>
      obtain ⟨hcost, htokens, -⟩ := recordSavings_eq_ok m m' model promptTokens completionTokens h
      exact ⟨hcost, htokens⟩
    | _ => trivial
  · intro h
    cases e with
    | recordLookup status provider model score latencyMs =>
      exact exists_recordLookup m status provider model score latencyMs
    | recordSavings model promptTokens completionTokens =>
      exact exists_recordSavings m model promptTokens completionTokens h
    | nearMiss => exact ⟨m, rfl⟩
    | recordProviderLatency provider latencyMs => exact ⟨_, rfl⟩
    | validate => exact ⟨m, rfl⟩

/-! ## Everything recorded -/

/-- **Run.**  The metrics are the sum of what was recorded. -/
theorem reading_recordAll (effects : List (Effect F)) (hrated : m.Rated) (h : m.recordAll effects = .ok m') :
    (∀ s, m'.reading s = m.reading s + (effects.map (Effect.adds m.pricing · s)).sum) ∧ m'.Rated ∧
      m'.pricing = m.pricing := by
  unfold recordAll at h
  induction effects generalizing m with
  | nil =>
    obtain rfl := Except.ok.inj h
    exact ⟨fun s => (add_zero _).symm, hrated, rfl⟩
  | cons e effects ih =>
    rw [List.foldlM_cons] at h
    obtain ⟨mid, hmid, h⟩ := (bind_eq_ok_iff _ _ _).mp h
    obtain ⟨hrated', hpricing⟩ := rated_record m mid e hrated hmid
    obtain ⟨hsum, hrated'', hpricing'⟩ := ih mid hrated' h
    refine ⟨fun s => ?_, hrated'', hpricing'.trans hpricing⟩
    rw [hsum s, reading_record m mid e hmid s, hpricing, List.map_cons, List.sum_cons, add_assoc]

/-- Recording raises nothing exactly when no savings are below zero. -/
theorem exists_recordAll [IsStrictOrderedRing F] (effects : List (Effect F)) (hrated : m.Rated) :
    (∃ m', m.recordAll effects = .ok m') ↔ ∀ e ∈ effects, e.Creditable m.pricing := by
  unfold recordAll
  induction effects generalizing m with
  | nil => exact ⟨fun _ e he => absurd he List.not_mem_nil, fun _ => ⟨m, rfl⟩⟩
  | cons e effects ih =>
    rw [List.foldlM_cons, List.forall_mem_cons]
    constructor
    · rintro ⟨m', h⟩
      obtain ⟨mid, hmid, h⟩ := (bind_eq_ok_iff _ _ _).mp h
      obtain ⟨hrated', hpricing⟩ := rated_record m mid e hrated hmid
      have htail := (ih mid hrated').mp ⟨m', h⟩
      rw [hpricing] at htail
      exact ⟨(exists_record_iff m e).mp ⟨mid, hmid⟩, htail⟩
    · rintro ⟨he, htail⟩
      obtain ⟨mid, hmid⟩ := (exists_record_iff m e).mpr he
      obtain ⟨hrated', hpricing⟩ := rated_record m mid e hrated hmid
      rw [← hpricing] at htail
      obtain ⟨m', h⟩ := (ih mid hrated').mpr htail
      exact ⟨m', (bind_eq_ok_iff _ _ _).mpr ⟨mid, hmid, h⟩⟩

end

end CacheMetrics

end

end CachingLayer
