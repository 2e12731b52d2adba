import CachingLayer.Policies.ThresholdEngine
import CachingLayer.Proxy.Soundness

/-!
# Adaptive thresholds in service

The service with an `AdaptiveThresholdEngine` as its threshold policy, requests and feedback
interleaved.  Feedback keeps the engine within its table's bounds (`adjusted`), a request
takes its threshold from the engine as it comes in (`Started`), and a lookup that missed
says so against that threshold (`missInv`).  Together: every category stays within its
bounds, and a HIT and a MISS stand on their sides of them (`thresholds_kept`).
-/

namespace CachingLayer

open Text

namespace ProxyService

/-! ## What a MISS says -/

/-- The best match of a lookup that missed was below the task's threshold. -/
def Below {F E : Type} [LinearOrder F] (svc : ProxyService F E) (t : Task F) (l : CacheLookup F) : Prop :=
  ∀ best, l.best = some best → l.score = best.score ∧ best.score < svc.cache.effectiveThreshold t.threshold

def MissInv {F E : Type} [LinearOrder F] (svc : ProxyService F E) (t : Task F) : Phase F → Prop
  | .completing l _ => svc.Below t l
  | .forwarding l _ => svc.Below t l
  | .storing l _ _ _ => svc.Below t l
  | .upserting l _ _ => svc.Below t l
  | .missed l _ => svc.Below t l
  | _ => True

section
variable {F E : Type} [Field F] [LinearOrder F] (svc : ProxyService F E)

theorem below_outcome (t : Task F) (hits : List (ScoredEntry F)) (ms : ℚ)
    (hmiss : (svc.cache.outcome t.threshold hits ms).status = .miss) :
    svc.Below t (svc.cache.outcome t.threshold hits ms) := by
  intro best hbest
  unfold SemanticCache.outcome at hmiss hbest ⊢
  cases hhead : hits.head? with
  | none =>
    rw [hhead] at hbest
    cases hbest
  | some first =>
    rw [hhead] at hmiss hbest
    simp only [] at hmiss hbest ⊢
    by_cases hreach : svc.cache.effectiveThreshold t.threshold ≤ first.score
    · rw [if_pos hreach] at hmiss
      cases hmiss
    · rw [if_neg hreach] at hbest ⊢
      obtain rfl := Option.some.inj hbest
      exact ⟨rfl, lt_of_not_ge hreach⟩

omit [Field F] in
theorem missInv_keep (t : Task F) (l : CacheLookup F) (response : ChatCompletionResponse) (h : svc.Below t l) :
    svc.MissInv (svc.keep t l response) (svc.keep t l response).phase := by
  rcases svc.keep_cases t l response with ⟨-, heq⟩ | heq
  · rw [heq]
    exact h
  · rw [heq]
    exact h

end

section
variable {F E : Type} [Field F] [LinearOrder F] {np : Numpy F} {oj : Orjson} {pyd : Pydantic}
  {svc : ProxyService F E} {s₀ : State F E} (run : Run (svc.step np oj pyd) s₀)

/-- **Step.** -/
theorem missInv_advance (rid : RequestId) (t t' : Task F) (now perf : ℚ)
    (found : Except PyError (List (ScoredEntry F))) (event : Event) (op : StoreOp F) (effects : List (Effect F))
    (hinv : svc.MissInv t t.phase)
    (h : svc.Advances oj pyd rid t now perf found event t' op effects) : svc.MissInv t' t'.phase := by
  cases h with
  | unmatchedStream hits l hp hfound hl hmiss =>
    subst hl
    exact svc.below_outcome t hits _ hmiss
  | unmatchedBuffered hits l hp hfound hl hmiss =>
    subst hl
    exact svc.below_outcome t hits _ hmiss
  | completed l started response hp =>
    rw [hp] at hinv
    exact svc.missInv_keep t l response hinv
  | chunk l a a' bytes hp =>
    rw [hp] at hinv
    exact hinv
  | incomplete l a uuid hp =>
    rw [hp] at hinv
    exact hinv
  | built l a uuid response hp =>
    rw [hp] at hinv
    exact svc.missInv_keep t l response hinv
  | storeEmbedded l response ttlSeconds tags id hp =>
    rw [hp] at hinv
    exact hinv
  | upserted l response entry hp =>
    rw [hp] at hinv
    exact hinv
  | taken l best response chunk hp =>
    show svc.MissInv _ t.phase
    rw [hp]
    exact trivial
  | _ => exact trivial

/-- **Run.** -/
theorem missInv (htasks : ∀ rid, s₀.tasks rid = none) :
    ∀ n ≤ run.len, ∀ rid t, (run.state n).tasks rid = some t → svc.MissInv t t.phase := by
  refine run.inv _ ?_ ?_
  · intro rid t ht
    rw [run.init, htasks rid] at ht
    cases ht
  · intro n hn ih rid t' ht'
    rcases svc.step_tasks np oj pyd _ _ _ (run.next n hn) rid t' ht' with
      hold | ⟨streaming, request, -, -, rfl⟩ | ⟨t, event, op, effects, -, ht, hadv⟩
    · exact ih rid t' hold
    · exact trivial
    · exact missInv_advance rid t t' _ _ _ event op effects (ih rid t ht) hadv

end

/-! ## The engine as the policy -/

section
variable {F : Type} [Field F] [LinearOrder F] [IsStrictOrderedRing F] {np : Numpy F} {oj : Orjson} {pyd : Pydantic}
  {svc : ProxyService F (AdaptiveThresholdEngine F)} {s₀ : State F (AdaptiveThresholdEngine F)}
  (run : Run (svc.step np oj pyd) s₀) (u : Unicode)

/-- Feedback comes in by `record_feedback` only. -/
def FeedbackRecorded : Prop :=
  ∀ n < run.len, ∀ update, run.act n = .feedback update →
    ∃ category falseHit, update = AdaptiveThresholdEngine.recordFeedback category falseHit

section
variable (policies : ThresholdCategory → CategoryPolicy F)
  (hvalid : AdaptiveThresholdEngine.Valid policies) (hengine : s₀.policy = ⟨policies⟩)
  (hfeedback : FeedbackRecorded run)
include hvalid hengine hfeedback

omit [IsStrictOrderedRing F] in
/-- **Run.**  The engine stays within the bounds of its table. -/
theorem adjusted : ∀ n ≤ run.len, AdaptiveThresholdEngine.Adjusted policies (run.state n).policy := by
  refine run.inv _ ?_ ?_
  · rw [run.init, hengine]
    intro c
    exact (hvalid c).adjusted
  · intro n hn ih
    rcases svc.step_policy np oj pyd _ _ _ (run.next n hn) with hsame | ⟨update, hact, hnew⟩
    · rw [hsame]
      exact ih
    · obtain ⟨category, falseHit, rfl⟩ := hfeedback n hn update hact
      rw [hnew]
      exact AdaptiveThresholdEngine.Adjusted.recordFeedback policies _ category falseHit ih

variable (hpolicy : svc.thresholdPolicy = some (AdaptiveThresholdEngine.buildThresholdPolicy u))
include hpolicy

omit [IsStrictOrderedRing F] in
/-- A task's threshold was its category's when its request came in, within the bounds. -/
theorem threshold_bounds (n : ℕ) (hn : n ≤ run.len) (rid : RequestId) (t : Task F) (h : Started run n rid t) :
    (policies (categorize u t.request.latestUserPrompt)).minimum ≤ svc.cache.effectiveThreshold t.threshold ∧
      svc.cache.effectiveThreshold t.threshold ≤
        (policies (categorize u t.request.latestUserPrompt)).maximum := by
  obtain ⟨m, hm, -, hthreshold⟩ := h
  have hbounds := adjusted run policies hvalid hengine hfeedback m (by omega)
    (categorize u t.request.latestUserPrompt)
  have heffective : svc.cache.effectiveThreshold t.threshold =
      ((run.state m).policy.policies (categorize u t.request.latestUserPrompt)).current := by
    rw [hthreshold]
    unfold thresholdFor
    rw [hpolicy]
    rfl
  rw [heffective]
  exact ⟨hbounds.minimum_le, hbounds.le_maximum⟩

variable (htasks : ∀ rid, s₀.tasks rid = none)
include htasks

/-- **Adaptive thresholds.**  For a table whose bases lie within their bounds, any feedback
interleaved with any requests: every category's threshold lies within its bounds; feedback
moves its own category only, and the way it says, and nothing else moves any; every HIT
scores at least the minimum of its prompt's category; a best match that reaches its maximum
is a HIT, and none that missed reached it. -/
theorem thresholds_kept :
    (∀ n ≤ run.len, ∀ c, (policies c).minimum ≤ ((run.state n).policy.policies c).current ∧
      ((run.state n).policy.policies c).current ≤ (policies c).maximum) ∧
    (∀ n < run.len, ∀ category falseHit,
      run.act n = .feedback (AdaptiveThresholdEngine.recordFeedback category falseHit) →
        (∀ c, c ≠ category → (run.state (n + 1)).policy.policies c = (run.state n).policy.policies c) ∧
        (falseHit = true → ((run.state n).policy.policies category).current ≤
          ((run.state (n + 1)).policy.policies category).current) ∧
        (falseHit = false → ((run.state (n + 1)).policy.policies category).current ≤
          ((run.state n).policy.policies category).current)) ∧
    (∀ n < run.len, (∀ update, run.act n ≠ .feedback update) →
      (run.state (n + 1)).policy = (run.state n).policy) ∧
    (∀ n ≤ run.len, ∀ rid t l best cached, (run.state n).tasks rid = some t → t.phase = .hit l best cached →
      l.score = best.score ∧ (policies (categorize u t.request.latestUserPrompt)).minimum ≤ l.score) ∧
    (∀ n < run.len, ∀ rid t found best, run.act n = .task rid .searched → (run.state n).tasks rid = some t →
      svc.search np rid t.request (run.state n).now (run.state n).store = .ok found → found.head? = some best →
      (policies (categorize u t.request.latestUserPrompt)).maximum ≤ best.score →
        (run.state (n + 1)).tasks rid = some { t with phase := .incrementing best }) ∧
    (∀ n ≤ run.len, ∀ rid t l response best, (run.state n).tasks rid = some t → t.phase = .missed l response →
      l.best = some best → best.score < (policies (categorize u t.request.latestUserPrompt)).maximum) := by
  have hadjusted := adjusted run policies hvalid hengine hfeedback
  refine ⟨?_, ?_, ?_, ?_, ?_, ?_⟩
  · intro n hn c
    exact ⟨(hadjusted n hn c).minimum_le, (hadjusted n hn c).le_maximum⟩
  · intro n hn category falseHit hact
    have hnext := run.next n hn
    rw [hact] at hnext
    have hpolicy' : (run.state (n + 1)).policy = (run.state n).policy.recordFeedback category falseHit := by
      rw [← Option.some.inj hnext]
    rw [hpolicy']
    refine ⟨fun c hc => AdaptiveThresholdEngine.recordFeedback_of_ne _ category falseHit c hc, ?_, ?_⟩
    · rintro rfl
      exact AdaptiveThresholdEngine.le_recordFeedback policies _ category hvalid (hadjusted n (by omega))
    · rintro rfl
      exact AdaptiveThresholdEngine.recordFeedback_le policies _ category hvalid (hadjusted n (by omega))
  · intro n hn hnone
    rcases svc.step_policy np oj pyd _ _ _ (run.next n hn) with hsame | ⟨update, hact, -⟩
    · exact hsame
    · exact absurd hact (hnone update)
  · intro n hn rid t l best cached ht hp
    obtain ⟨hstarted, hphase⟩ := tasksInv run htasks n hn rid t ht
    rw [hp] at hphase
    obtain ⟨⟨-, -, -, -, -, hreach⟩, -, hscore, -⟩ := hphase
    rw [hscore]
    exact ⟨rfl, (threshold_bounds run u policies hvalid hengine hfeedback hpolicy n hn rid t hstarted).1.trans hreach⟩
  · intro n hn rid t found best hact ht hfound hhead hmaximum
    obtain ⟨hstarted, -⟩ := tasksInv run htasks n (by omega) rid t ht
    have hnext := run.next n hn
    rw [hact] at hnext
    exact svc.step_searched_hit np oj pyd _ _ rid t found best hnext ht hfound hhead
      ((threshold_bounds run u policies hvalid hengine hfeedback hpolicy n (by omega) rid t hstarted).2.trans hmaximum)
  · intro n hn rid t l response best ht hp hbest
    obtain ⟨hstarted, -⟩ := tasksInv run htasks n hn rid t ht
    have hmiss := missInv run htasks n hn rid t ht
    rw [hp] at hmiss
    exact (hmiss best hbest).2.trans_le
      (threshold_bounds run u policies hvalid hengine hfeedback hpolicy n hn rid t hstarted).2

end

end

/-! ## A run with feedback -/

def adaptiveService : ProxyService ℚ (AdaptiveThresholdEngine ℚ) where
  cache := plainService.cache
  resolveProvider := plainService.resolveProvider
  thresholdPolicy := some (AdaptiveThresholdEngine.buildThresholdPolicy .ascii)

def adaptiveStart : State ℚ (AdaptiveThresholdEngine ℚ) where
  now := 1700000000
  perf := 0
  policy := ⟨AdaptiveThresholdEngine.defaultPolicies⟩

/-- The ocean is described and asked for again; feedback comes in before and during the
second request. -/
def adaptiveActions : List (Action (AdaptiveThresholdEngine ℚ)) := [
  .request ⟨"team", 0⟩ false oceanRequest,
  .task ⟨"team", 0⟩ .embedded,
  .task ⟨"team", 0⟩ .searched,
  .task ⟨"team", 0⟩ (.completed framedText),
  .task ⟨"team", 0⟩ (.storeEmbedded someReadings.entryId),
  .task ⟨"team", 0⟩ .upserted,
  .feedback (AdaptiveThresholdEngine.recordFeedback .general true),
  .request ⟨"team", 1⟩ false oceanRequest,
  .task ⟨"team", 1⟩ .embedded,
  .feedback (AdaptiveThresholdEngine.recordFeedback .general false),
  .task ⟨"team", 1⟩ .searched,
  .task ⟨"team", 1⟩ (.incremented someReadings.uuid false)]

theorem adaptiveActions_exec :
    (Run.exec (adaptiveService.step (.sorting Rat.sqrt) framedCodec .strict) adaptiveStart
      adaptiveActions).isSome := by
  decide +kernel

def adaptiveRun : Run (adaptiveService.step (.sorting Rat.sqrt) framedCodec .strict) adaptiveStart :=
  .ofExec _ _ _ adaptiveActions (Option.some_get adaptiveActions_exec).symm

theorem feedbackRecorded_adaptiveRun : FeedbackRecorded adaptiveRun := by
  intro n hn update hact
  have hmem := Run.act_mem_ofExec _ _ _ adaptiveActions (Option.some_get adaptiveActions_exec).symm n hn
  replace hact : (Run.ofExec _ _ _ adaptiveActions (Option.some_get adaptiveActions_exec).symm).act n = _ := hact
  rw [hact] at hmem
  simp only [adaptiveActions, List.mem_cons, Action.feedback.injEq, reduceCtorEq, List.not_mem_nil, or_false,
    false_or] at hmem
  obtain rfl | rfl := hmem
  · exact ⟨.general, true, rfl⟩
  · exact ⟨.general, false, rfl⟩

theorem thresholds_kept_adaptiveRun :
    ((adaptiveRun.state 12).policy.policies .general).current ≤ 98 / 100 ∧
      ∃ q l best cached, (adaptiveRun.state 12).tasks ⟨"team", 1⟩ = some q ∧ q.phase = .hit l best cached ∧
        92 / 100 ≤ l.score := by
  obtain ⟨hbounds, -, -, hhits, -, -⟩ := thresholds_kept adaptiveRun .ascii AdaptiveThresholdEngine.defaultPolicies
    AdaptiveThresholdEngine.valid_defaultPolicies rfl feedbackRecorded_adaptiveRun rfl (fun _ => rfl)
  refine ⟨(hbounds 12 le_rfl .general).2, ?_⟩
  obtain ⟨q, l, best, cached, hq, hp, hprompt⟩ := exists_hit ((adaptiveRun.state 12).tasks ⟨"team", 1⟩)
    (fun q _ => decide (categorize .ascii q.request.latestUserPrompt = .general)) (by decide +kernel)
  obtain ⟨-, hscore⟩ := hhits 12 le_rfl ⟨"team", 1⟩ q l best cached hq hp
  rw [of_decide_eq_true hprompt] at hscore
  exact ⟨q, l, best, cached, hq, hp, hscore⟩

end ProxyService

end CachingLayer
