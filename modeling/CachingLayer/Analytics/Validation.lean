import CachingLayer.Analytics.Threshold
import CachingLayer.Proxy.Machine

/-!
# Shadow validation

Sampled HITs are replayed beside the service: a `validate` task asks the upstream again,
embeds the cached and the fresh answer and compares them.  A task stands at one of three
awaits (`ValidationPhase`); what comes back there is an event, or an exception.  Between its
awaits it touches the validator's counters and gauges once, when the third has returned
(`advance_cases`).

`step` interleaves any number of tasks with the service, whose HITs begin them.
-/

namespace CachingLayer

/-- `EmbeddingResult` of a service of `d` dimensions. -/
structure Embedding (F : Type) (d : Nat) where
  vector : List F
  length_vector : vector.length = d

structure ValidationResult (F : Type) where
  responseSimilarity : F
  drift : Bool
  falseHit : Bool

structure ValidationStats (F : Type) where
  validations : Nat
  driftCount : Nat
  falseHitCount : Nat
  cacheValidationAccuracy : F
  semanticDriftRate : F
  falseHitRate : F
  sampleRate : F
  driftThreshold : F

/-- What `record_validation` sets. -/
structure ValidationGauges (F : Type) where
  accuracy : F
  driftRate : F
  falseHitRate : F

/-- Its counters, and the gauges last set. -/
structure ValidatorState (F : Type) where
  validations : Nat := 0
  drift : Nat := 0
  falseHits : Nat := 0
  gauges : Option (ValidationGauges F) := none

/-- Where a task stands: the await it is at, or how it ended. -/
inductive ValidationPhase (F : Type) (d : Nat)
  /-- The upstream's `complete`. -/
  | completing
  /-- `embed` of the cached answer. -/
  | embeddingCached (fresh : ChatCompletionResponse)
  /-- `embed` of the fresh one. -/
  | embeddingFresh (fresh : ChatCompletionResponse) (cachedEmb : Embedding F d)
  | done (result : ValidationResult F)
  | failed (e : PyError)

namespace ValidationPhase

variable {F : Type} {d : Nat}

def running : ValidationPhase F d → Bool
  | completing | embeddingCached _ | embeddingFresh .. => true
  | done _ | failed _ => false

def result : ValidationPhase F d → Option (ValidationResult F)
  | done r => some r
  | _ => none

end ValidationPhase

structure ValidationTask (F : Type) (d : Nat) where
  request : ChatCompletionRequest
  cached : ChatCompletionResponse
  phase : ValidationPhase F d := .completing

def ValidationTask.concluded {F : Type} {d : Nat} (t : ValidationTask F d) (result : ValidationResult F) :
    ValidationTask F d := { t with phase := .done result }

/-- What comes back at an await. -/
inductive ValidationEvent (F : Type) (d : Nat)
  | completed (fresh : ChatCompletionResponse)
  | embedded (embedding : Embedding F d)
  | raised (e : PyError)

structure CacheValidator (F : Type) where
  sampleRate : F
  driftThreshold : F
  hasMetrics : Bool

namespace CacheValidator

section
variable {F : Type} [Field F] [LinearOrder F] (v : CacheValidator F)

def stats (s : ValidatorState F) : ValidationStats F :=
  let n := s.validations
  let driftRate : F := if n = 0 then 0 else s.drift / n
  let falseHitRate : F := if n = 0 then 0 else s.falseHits / n
  { validations := n
    driftCount := s.drift
    falseHitCount := s.falseHits
    cacheValidationAccuracy := 1 - falseHitRate
    semanticDriftRate := driftRate
    falseHitRate
    sampleRate := v.sampleRate
    driftThreshold := v.driftThreshold }

/-- The arguments of `record_validation`. -/
def gauges (s : ValidatorState F) : ValidationGauges F where
  accuracy := (v.stats s).cacheValidationAccuracy
  driftRate := (v.stats s).semanticDriftRate
  falseHitRate := (v.stats s).falseHitRate

/-- `validate` behind its awaits. -/
def conclude (s : ValidatorState F) (similarity : F) : ValidationResult F × ValidatorState F :=
  let drift := decide (similarity < v.driftThreshold)
  let counted : ValidatorState F :=
    { s with
      validations := s.validations + 1
      drift := if drift then s.drift + 1 else s.drift
      falseHits := if drift then s.falseHits + 1 else s.falseHits }
  ({ responseSimilarity := similarity, drift, falseHit := drift },
    if v.hasMetrics then { counted with gauges := some (v.gauges counted) } else counted)

end

section
variable {F : Type} [Field F] [LinearOrder F] (np : Numpy F) (v : CacheValidator F) {d : Nat}

/-- The task runs from its await to the next one; `_safe_validate` swallows what it raises. -/
def advance (t : ValidationTask F d) (s : ValidatorState F) :
    ValidationEvent F d → Option (ValidationTask F d × ValidatorState F)
  | .completed fresh =>
    match t.phase with
    | .completing => some ({ t with phase := .embeddingCached fresh }, s)
    | _ => none
  | .embedded embedding =>
    match t.phase with
    | .embeddingCached fresh => some ({ t with phase := .embeddingFresh fresh embedding }, s)
    | .embeddingFresh _ cachedEmb =>
      match cosineSimilarity np cachedEmb.vector embedding.vector with
      | .error e => some ({ t with phase := .failed e }, s)
      | .ok similarity =>
        let (result, s') := v.conclude s similarity
        some (t.concluded result, s')
    | _ => none
  | .raised e => if t.phase.running then some ({ t with phase := .failed e }, s) else none

/-- **Inversion.**  A task goes on to another await or fails, and leaves the counters and the
gauges; or it has both embeddings, and concludes. -/
theorem advance_cases (t t' : ValidationTask F d) (s s' : ValidatorState F) (event : ValidationEvent F d)
    (h : v.advance np t s event = some (t', s')) :
    (s' = s ∧ t.phase.result = none ∧ t'.phase.result = none) ∨
      ∃ fresh cachedEmb embedding similarity, t.phase = .embeddingFresh fresh cachedEmb ∧
        event = .embedded embedding ∧ cosineSimilarity np cachedEmb.vector embedding.vector = .ok similarity ∧
        t' = t.concluded (v.conclude s similarity).1 ∧ s' = (v.conclude s similarity).2 := by
  cases event with
  | completed fresh =>
    cases hp : t.phase with
    | completing =>
      simp only [advance, hp, Option.some.injEq, Prod.mk.injEq] at h
      obtain ⟨rfl, rfl⟩ := h
      exact Or.inl ⟨rfl, rfl, rfl⟩
    | _ => simp only [advance, hp, reduceCtorEq] at h
  | embedded embedding =>
    cases hp : t.phase with
    | embeddingCached fresh =>
      simp only [advance, hp, Option.some.injEq, Prod.mk.injEq] at h
      obtain ⟨rfl, rfl⟩ := h
      exact Or.inl ⟨rfl, rfl, rfl⟩
    | embeddingFresh fresh cachedEmb =>
      obtain ⟨similarity, hsim⟩ := exists_cosineSimilarity np cachedEmb.vector embedding.vector
        (cachedEmb.length_vector.trans embedding.length_vector.symm)
      simp only [advance, hp, hsim, Option.some.injEq, Prod.mk.injEq] at h
      obtain ⟨rfl, rfl⟩ := h
      exact Or.inr ⟨fresh, cachedEmb, embedding, similarity, rfl, rfl, hsim, rfl, rfl⟩
    | _ => simp only [advance, hp, reduceCtorEq] at h
  | raised e =>
    cases hp : t.phase with
    | done result => simp [advance, hp, ValidationPhase.running] at h
    | failed e' => simp [advance, hp, ValidationPhase.running] at h
    | _ =>
      simp only [advance, hp, ValidationPhase.running, if_true, Option.some.injEq, Prod.mk.injEq] at h
      obtain ⟨rfl, rfl⟩ := h
      exact Or.inl ⟨rfl, rfl, rfl⟩

end

end CacheValidator

/-! ## Beside the service -/

/-- The service, and the validation tasks begun so far. -/
structure ShadowState (F E : Type) (d : Nat) where
  service : State F E
  validator : ValidatorState F := {}
  tasks : List (ValidationTask F d) := []

inductive ShadowAction (F E : Type) (d : Nat)
  /-- The service goes on; the validations it schedules begin. -/
  | service (action : Action E)
  /-- `validate` is called. -/
  | validate (request : ChatCompletionRequest) (cached : ChatCompletionResponse)
  /-- Something comes back where task `i` waits. -/
  | resume (i : Nat) (event : ValidationEvent F d)

instance {F E : Type} {d : Nat} : Inhabited (ShadowAction F E d) := ⟨.service default⟩

/-- The task that a scheduled validation is. -/
def Effect.validationTask {F : Type} {d : Nat} : Effect F → Option (ValidationTask F d)
  | .validate request cached => some { request, cached }
  | _ => none

theorem Effect.result_validationTask {F : Type} {d : Nat} (e : Effect F) (t : ValidationTask F d)
    (h : e.validationTask = some t) : t.phase.result = none := by
  cases e with
  | validate request cached =>
    obtain rfl := Option.some.inj h
    rfl
  | _ => cases h

namespace CacheValidator

section
variable {F E : Type} [Field F] [LinearOrder F] (np : Numpy F) (oj : Orjson) (pyd : Pydantic)
  (svc : ProxyService F E) (v : CacheValidator F) {d : Nat}

def step (s : ShadowState F E d) : ShadowAction F E d → Option (ShadowState F E d)
  | .service action =>
    match svc.step np oj pyd s.service action with
    | none => none
    | some service =>
      let scheduled := (service.effects.drop s.service.effects.length).filterMap Effect.validationTask
      some { s with service, tasks := s.tasks ++ scheduled }
  | .validate request cached => some { s with tasks := s.tasks ++ [{ request, cached }] }
  | .resume i event =>
    match s.tasks[i]? with
    | none => none
    | some t =>
      match v.advance np t s.validator event with
      | none => none
      | some (t', validator) => some { s with validator, tasks := s.tasks.set i t' }

/-- What a step can do: begin tasks, or take one of them on. -/
theorem step_cases (s s' : ShadowState F E d) (a : ShadowAction F E d)
    (h : v.step np oj pyd svc s a = some s') :
    (s'.validator = s.validator ∧ (∀ i event, a ≠ .resume i event) ∧
      ∃ begun, s'.tasks = s.tasks ++ begun ∧ ∀ t ∈ begun, t.phase.result = none) ∨
    ∃ i event t t' validator, a = .resume i event ∧ s.tasks[i]? = some t ∧
      v.advance np t s.validator event = some (t', validator) ∧
      s' = { s with validator, tasks := s.tasks.set i t' } := by
  cases a with
  | service action =>
    cases hs : svc.step np oj pyd s.service action with
    | none => simp only [step, hs, reduceCtorEq] at h
    | some service =>
      simp only [step, hs, Option.some.injEq] at h
      subst h
      refine Or.inl ⟨rfl, by simp, _, rfl, ?_⟩
      intro t ht
      obtain ⟨e, -, he⟩ := List.mem_filterMap.mp ht
      exact e.result_validationTask t he
  | validate request cached =>
    obtain rfl := Option.some.inj h
    refine Or.inl ⟨rfl, by simp, [{ request, cached }], rfl, ?_⟩
    intro t ht
    obtain rfl := List.mem_singleton.mp ht
    rfl
  | resume i event =>
    cases ht : s.tasks[i]? with
    | none => simp only [step, ht, reduceCtorEq] at h
    | some t =>
      cases ha : v.advance np t s.validator event with
      | none => simp only [step, ht, ha, reduceCtorEq] at h
      | some r =>
        obtain ⟨t', validator⟩ := r
        simp only [step, ht, ha, Option.some.injEq] at h
        exact Or.inr ⟨i, event, t, t', validator, rfl, ht, ha, h.symm⟩

end

/-! ## Counting -/

section
variable {F : Type} {d : Nat}

/-- The task is past its three awaits. -/
def isDone (t : ValidationTask F d) : Bool := t.phase.result.isSome

/-- And the answers it compared are apart. -/
def isApart [LinearOrder F] (v : CacheValidator F) (t : ValidationTask F d) : Bool :=
  t.phase.result.any fun r => decide (r.responseSimilarity < v.driftThreshold)

/-- Tasks that have no result count for nothing. -/
theorem countP_append_begun (p : ValidationTask F d → Bool) (tasks begun : List (ValidationTask F d))
    (hp : ∀ t, t.phase.result = none → p t = false) (hbegun : ∀ t ∈ begun, t.phase.result = none) :
    (tasks ++ begun).countP p = tasks.countP p := by
  have hnone : begun.countP p = 0 := by
    rw [List.countP_eq_zero]
    intro t ht
    rw [hp t (hbegun t ht)]
    decide
  rw [List.countP_append, hnone, Nat.add_zero]

/-- One task replaced. -/
theorem countP_set_task (p : ValidationTask F d → Bool) (tasks : List (ValidationTask F d)) (i : Nat)
    (t t' : ValidationTask F d) (ht : tasks[i]? = some t) (hold : p t = false) :
    (tasks.set i t').countP p = tasks.countP p + if p t' then 1 else 0 := by
  obtain ⟨hi, rfl⟩ := List.getElem?_eq_some_iff.mp ht
  rw [List.countP_set hi, hold]
  rfl

end

section
variable {F E : Type} [Field F] [LinearOrder F] {d : Nat} (v : CacheValidator F)

/-- What the counters and the gauges say of the tasks. -/
structure Counts (s : ShadowState F E d) : Prop where
  validations : s.validator.validations = s.tasks.countP isDone
  drift : s.validator.drift = s.tasks.countP v.isApart
  falseHits : s.validator.falseHits = s.validator.drift
  gauges : s.validator.gauges =
    if v.hasMetrics ∧ s.validator.validations ≠ 0 then some (v.gauges s.validator) else none

/-- The gauges are published as the counters move. -/
theorem gauges_conclude (s : ValidatorState F) (similarity : F)
    (h : s.gauges = if v.hasMetrics ∧ s.validations ≠ 0 then some (v.gauges s) else none) :
    (v.conclude s similarity).2.gauges =
      if v.hasMetrics ∧ (v.conclude s similarity).2.validations ≠ 0 then
        some (v.gauges (v.conclude s similarity).2) else none := by
  unfold conclude
  by_cases hm : v.hasMetrics = true
  · simp [hm]
    rfl
  · simp [hm] at h ⊢
    exact h

/-- A conclusion counts once, and once more when the answers are apart. -/
theorem counters_conclude (s : ValidatorState F) (similarity : F) :
    (v.conclude s similarity).2.validations = s.validations + 1 ∧
      (v.conclude s similarity).2.drift = s.drift + (if similarity < v.driftThreshold then 1 else 0) ∧
      (v.conclude s similarity).2.falseHits = s.falseHits + if similarity < v.driftThreshold then 1 else 0 := by
  unfold conclude
  by_cases hm : v.hasMetrics = true <;> by_cases hd : similarity < v.driftThreshold <;> simp [hm, hd]

theorem isApart_concluded (t : ValidationTask F d) (s : ValidatorState F) (similarity : F) :
    v.isApart (t.concluded (v.conclude s similarity).1) = decide (similarity < v.driftThreshold) := rfl

variable (np : Numpy F) (oj : Orjson) (pyd : Pydantic) (svc : ProxyService F E)

/-- **Step.** -/
theorem counts_step (s s' : ShadowState F E d) (a : ShadowAction F E d)
    (h : v.step np oj pyd svc s a = some s') (hs : v.Counts s) : v.Counts s' := by
  rcases v.step_cases np oj pyd svc s s' a h with ⟨hsame, -, begun, htasks, hbegun⟩ |
    ⟨i, event, t, t', validator, -, ht, hadv, rfl⟩
  · have hdone := countP_append_begun isDone s.tasks begun (fun t hnone => by unfold isDone; rw [hnone]; rfl) hbegun
    have hapart := countP_append_begun v.isApart s.tasks begun (fun t hnone => by unfold isApart; rw [hnone]; rfl)
      hbegun
    constructor
    · rw [hsame, htasks, hdone]
      exact hs.validations
    · rw [hsame, htasks, hapart]
      exact hs.drift
    · rw [hsame]
      exact hs.falseHits
    · rw [hsame]
      exact hs.gauges
  · rcases v.advance_cases np t t' s.validator validator event hadv with ⟨rfl, hold, hnew⟩ |
      ⟨fresh, cachedEmb, embedding, similarity, hp, -, -, rfl, rfl⟩
    · have hdone := countP_set_task isDone s.tasks i t t' ht (by unfold isDone; rw [hold]; rfl)
      have hapart := countP_set_task v.isApart s.tasks i t t' ht (by unfold isApart; rw [hold]; rfl)
      rw [isDone, hnew] at hdone
      rw [isApart, hnew] at hapart
      exact ⟨hs.validations.trans hdone.symm, hs.drift.trans hapart.symm, hs.falseHits, hs.gauges⟩
    · have hold : t.phase.result = none := by rw [hp]; rfl
      have hdone := countP_set_task isDone s.tasks i t (t.concluded (v.conclude s.validator similarity).1) ht
        (by unfold isDone; rw [hold]; rfl)
      have hapart := countP_set_task v.isApart s.tasks i t (t.concluded (v.conclude s.validator similarity).1) ht
        (by unfold isApart; rw [hold]; rfl)
      obtain ⟨hvalidations, hdrift, hfalse⟩ := v.counters_conclude s.validator similarity
      rw [v.isApart_concluded t s.validator similarity] at hapart
      simp only [decide_eq_true_eq] at hapart
      constructor
      · rw [hvalidations, hs.validations]
        exact hdone.symm
      · rw [hdrift, hs.drift]
        exact hapart.symm
      · rw [hfalse, hdrift, hs.falseHits]
      · exact v.gauges_conclude s.validator similarity hs.gauges

end

/-! ## What is reported -/

section
variable {F E : Type} [Field F] [LinearOrder F] {d : Nat} (v : CacheValidator F)

/-- `stats` and the gauges are right about the tasks. -/
structure Reported (s : ShadowState F E d) : Prop where
  validations : (v.stats s.validator).validations = s.tasks.countP isDone
  driftCount : (v.stats s.validator).driftCount = s.tasks.countP v.isApart
  falseHitCount : (v.stats s.validator).falseHitCount = (v.stats s.validator).driftCount
  driftCount_le : (v.stats s.validator).driftCount ≤ (v.stats s.validator).validations
  /-- Of none, the rates are `0 / 0`, which is `0`. -/
  driftRate_eq : (v.stats s.validator).semanticDriftRate = (s.tasks.countP v.isApart : ℕ) / (s.tasks.countP isDone : ℕ)
  falseHitRate_eq : (v.stats s.validator).falseHitRate = (s.tasks.countP v.isApart : ℕ) / (s.tasks.countP isDone : ℕ)
  accuracy : (v.stats s.validator).cacheValidationAccuracy ∈ Set.Icc 0 1
  driftRate : (v.stats s.validator).semanticDriftRate ∈ Set.Icc 0 1
  falseHitRate : (v.stats s.validator).falseHitRate ∈ Set.Icc 0 1
  accuracy_add : (v.stats s.validator).cacheValidationAccuracy + (v.stats s.validator).falseHitRate = 1
  /-- Nothing is published before the first validation. -/
  published : v.hasMetrics = true →
    s.validator.gauges = if s.validator.validations = 0 then none else some (v.gauges s.validator)

variable [IsStrictOrderedRing F]

/-- Only a task past its awaits can have been found apart. -/
theorem Counts.reported (s : ShadowState F E d) (h : v.Counts s) : v.Reported s := by
  have hle : s.validator.drift ≤ s.validator.validations := by
    rw [h.drift, h.validations]
    refine List.countP_mono_left fun t _ hapart => ?_
    unfold isApart at hapart
    unfold isDone
    cases hr : t.phase.result with
    | none => rw [hr] at hapart; cases hapart
    | some r => rfl
  have hfalse : s.validator.falseHits ≤ s.validator.validations := by rw [h.falseHits]; exact hle
  have hrate : safeDiv s.validator.falseHits s.validator.validations ∈ Set.Icc (0 : F) 1 := safeDiv_mem _ _ hfalse
  have hquotient : ∀ n : ℕ, (if s.validator.validations = 0 then 0 else (n : F) / s.validator.validations) =
      n / (s.tasks.countP isDone : ℕ) := by
    intro n
    rw [← h.validations]
    split
    · next hzero => rw [hzero, Nat.cast_zero, div_zero]
    · rfl
  refine ⟨h.validations, h.drift, h.falseHits, hle, ?_, ?_, ?_, safeDiv_mem _ _ hle, hrate, sub_add_cancel 1 _, ?_⟩
  · rw [← h.drift]
    exact hquotient s.validator.drift
  · rw [← h.drift, ← h.falseHits]
    exact hquotient s.validator.falseHits
  · exact ⟨sub_nonneg.mpr hrate.2, sub_le_self 1 hrate.1⟩
  · intro hmetrics
    rw [h.gauges]
    by_cases hzero : s.validator.validations = 0
    · rw [if_neg fun hc => hc.2 hzero, if_pos hzero]
    · rw [if_pos ⟨hmetrics, hzero⟩, if_neg hzero]

variable {np : Numpy F} {oj : Orjson} {pyd : Pydantic} {svc : ProxyService F E} (service : State F E)
  (run : Run (v.step np oj pyd svc) ({ service } : ShadowState F E d))

/-- **Shadow validation.**  Any number of tasks, interleaved with the service and failing at
any await: the reports are right about the tasks at every moment; a task that gets its third
answer is done, with the similarity of the two embeddings; a step that leaves its task
without a result leaves the counters and the gauges; and no step of a task touches the
service, its store included. -/
theorem validations_counted :
    (∀ n ≤ run.len, v.Reported (run.state n)) ∧
    (∀ n < run.len, ∀ i embedding t fresh cachedEmb, run.act n = .resume i (.embedded embedding) →
      (run.state n).tasks[i]? = some t → t.phase = .embeddingFresh fresh cachedEmb →
        ∃ similarity, cosineSimilarity np cachedEmb.vector embedding.vector = .ok similarity ∧
          ∃ result, result.responseSimilarity = similarity ∧
            (run.state (n + 1)).tasks[i]? = some (t.concluded result)) ∧
    (∀ n < run.len, ∀ i event, run.act n = .resume i event →
      (∀ t', (run.state (n + 1)).tasks[i]? = some t' → t'.phase.result = none) →
        (run.state (n + 1)).validator = (run.state n).validator) ∧
    (∀ n < run.len, ∀ i event, run.act n = .resume i event →
      (run.state (n + 1)).service = (run.state n).service) := by
  have hresume : ∀ n < run.len, ∀ i event, run.act n = .resume i event →
      ∃ t t' validator, (run.state n).tasks[i]? = some t ∧
        v.advance np t (run.state n).validator event = some (t', validator) ∧
        run.state (n + 1) = { run.state n with validator, tasks := (run.state n).tasks.set i t' } := by
    intro n hn i event hact
    rcases v.step_cases np oj pyd svc _ _ _ (run.next n hn) with ⟨-, hnone, -⟩ |
      ⟨j, event', t, t', validator, hact', ht, hadv, hstate⟩
    · exact absurd hact (hnone i event)
    · obtain ⟨rfl, rfl⟩ := ShadowAction.resume.inj (hact.symm.trans hact')
      exact ⟨t, t', validator, ht, hadv, hstate⟩
  have hget : ∀ (tasks : List (ValidationTask F d)) i (t t' : ValidationTask F d), tasks[i]? = some t →
      (tasks.set i t')[i]? = some t' := by
    intro tasks i t t' ht
    rw [List.getElem?_set_self (List.getElem?_eq_some_iff.mp ht).1]
  refine ⟨?_, ?_, ?_, ?_⟩
  · have hcounts : ∀ n ≤ run.len, v.Counts (run.state n) := by
      refine run.inv _ ?_ fun n hn ih => v.counts_step np oj pyd svc _ _ _ (run.next n hn) ih
      rw [run.init]
      exact ⟨rfl, rfl, rfl, by simp⟩
    exact fun n hn => (hcounts n hn).reported v
  · intro n hn i embedding t fresh cachedEmb hact ht hp
    obtain ⟨q, t', validator, hq, hadv, hstate⟩ := hresume n hn i _ hact
    obtain rfl := Option.some.inj (ht.symm.trans hq)
    rcases v.advance_cases np t t' _ validator _ hadv with ⟨-, -, hnew⟩ |
      ⟨fresh', cachedEmb', embedding', similarity, hp', hevent, hsim, rfl, -⟩
    · obtain ⟨similarity, hsim⟩ := exists_cosineSimilarity np cachedEmb.vector embedding.vector
        (cachedEmb.length_vector.trans embedding.length_vector.symm)
      simp only [advance, hp, hsim, Option.some.injEq, Prod.mk.injEq] at hadv
      obtain ⟨rfl, -⟩ := hadv
      cases hnew
    · rw [hp] at hp'
      obtain ⟨rfl, rfl⟩ := ValidationPhase.embeddingFresh.inj hp'
      obtain rfl := ValidationEvent.embedded.inj hevent
      refine ⟨similarity, hsim, (v.conclude (run.state n).validator similarity).1, rfl, ?_⟩
      rw [hstate]
      exact hget _ i t _ ht
  · intro n hn i event hact hnone
    obtain ⟨t, t', validator, ht, hadv, hstate⟩ := hresume n hn i event hact
    rw [hstate] at hnone ⊢
    rcases v.advance_cases np t t' _ validator _ hadv with ⟨rfl, -, -⟩ | ⟨-, -, -, similarity, -, -, -, rfl, -⟩
    · rfl
    · cases hnone _ (hget _ i t _ ht)
  · intro n hn i event hact
    obtain ⟨t, t', validator, -, -, hstate⟩ := hresume n hn i event hact
    rw [hstate]

end

/-! ## Two validations -/

def plainValidator : CacheValidator ℚ where
  sampleRate := 1 / 50
  driftThreshold := 9 / 10
  hasMetrics := true

/-- Two begin; one loses its upstream, the other finds its answers apart. -/
def shadowActions : List (ShadowAction ℚ Unit 2) := [
  .validate ProxyService.oceanRequest framedText,
  .validate ProxyService.oceanRequest framedText,
  .resume 0 (.completed framedText),
  .resume 1 (.raised (.external "overloaded")),
  .resume 0 (.embedded ⟨[1, 0], rfl⟩),
  .resume 0 (.embedded ⟨[0, 1], rfl⟩)]

theorem shadowActions_exec :
    (Run.exec (plainValidator.step (.sorting Rat.sqrt) framedCodec .strict ProxyService.plainService)
      { service := ProxyService.plainStart } shadowActions).isSome := by
  decide +kernel

def shadowRun : Run (plainValidator.step (.sorting Rat.sqrt) framedCodec .strict ProxyService.plainService)
    ({ service := ProxyService.plainStart } : ShadowState ℚ Unit 2) :=
  .ofExec _ _ _ shadowActions (Option.some_get shadowActions_exec).symm

theorem validations_counted_shadowRun :
    plainValidator.Reported (shadowRun.state 6) ∧
      (plainValidator.stats (shadowRun.state 6).validator).validations = 1 ∧
      (plainValidator.stats (shadowRun.state 6).validator).falseHitRate = 1 :=
  ⟨(plainValidator.validations_counted ProxyService.plainStart shadowRun).1 6 le_rfl, by decide +kernel,
    by decide +kernel⟩

end CacheValidator

end CachingLayer
