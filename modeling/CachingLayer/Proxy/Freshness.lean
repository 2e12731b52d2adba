import CachingLayer.Policies.TtlClassifier
import CachingLayer.Proxy.Soundness

/-!
# Freshness

The TTL policy is asked once, when a MISS is about to store its response, and for that
MISS's own prompt (`policyInv`).  With the classifier as the policy, what a HIT serves is
no older than the class of the prompt it was stored for allows, and prompts of class
`noCache` store nothing (`hit_fresh`).  The asker's own class is not consulted
(`hit_volatile`).
-/

namespace CachingLayer

open Text

namespace ProxyService

section
variable {F E : Type} (svc : ProxyService F E)

/-- A response on its way into the store has the TTL and the tags of the policy. -/
def PolicyInv (rid : RequestId) (t : Task F) : Phase F → Prop
  | .storing _ response ttlSeconds tags => (ttlSeconds, tags) = svc.resolvePolicy t.request response
  | .upserting _ response entry =>
    ∃ id createdAt, entry = svc.entryFor (svc.requestSignature t.request rid.tenant) t.request.latestUserPrompt
      response (svc.resolvePolicy t.request response).1 (svc.resolvePolicy t.request response).2 id createdAt
  | _ => True

theorem policyInv_keep (rid : RequestId) (t : Task F) (l : CacheLookup F) (response : ChatCompletionResponse) :
    svc.PolicyInv rid (svc.keep t l response) (svc.keep t l response).phase := by
  rcases svc.keep_cases t l response with ⟨-, heq⟩ | heq
  · rw [heq]; exact rfl
  · rw [heq]; exact trivial

end

section
variable {F E : Type} [Field F] [LinearOrder F] {np : Numpy F} {oj : Orjson} {pyd : Pydantic}
  {svc : ProxyService F E} {s₀ : State F E} (run : Run (svc.step np oj pyd) s₀)

/-- **Step.** -/
theorem policyInv_advance (rid : RequestId) (t t' : Task F) (now perf : ℚ)
    (found : Except PyError (List (ScoredEntry F))) (event : Event) (op : StoreOp F) (effects : List (Effect F))
    (hinv : svc.PolicyInv rid t t.phase)
    (h : svc.Advances oj pyd rid t now perf found event t' op effects) : svc.PolicyInv rid t' t'.phase := by
  cases h with
  | completed l started response => exact policyInv_keep svc rid t l response
  | built l a uuid response => exact policyInv_keep svc rid t l response
  | storeEmbedded l response ttlSeconds tags id hp =>
    rw [hp] at hinv
    obtain ⟨rfl, rfl⟩ := Prod.mk.inj hinv
    exact ⟨id, now, rfl⟩
  | taken l best response chunk hp =>
    show svc.PolicyInv rid _ t.phase
    rw [hp]
    exact trivial
  | _ => exact trivial

section
variable (htasks : ∀ rid, s₀.tasks rid = none)
include htasks

/-- **Run.** -/
theorem policyInv : ∀ n ≤ run.len, ∀ rid t, (run.state n).tasks rid = some t → svc.PolicyInv rid t t.phase := by
  refine run.inv _ ?_ ?_
  · intro rid t ht
    rw [run.init, htasks rid] at ht
    cases ht
  · intro n hn ih rid t' ht'
    rcases svc.step_tasks np oj pyd _ _ _ (run.next n hn) rid t' ht' with
      hold | ⟨streaming, request, -, -, rfl⟩ | ⟨t, event, op, effects, -, ht, hadv⟩
    · exact ih rid t' hold
    · exact trivial
    · exact policyInv_advance rid t t' _ _ _ event op effects (ih rid t ht) hadv

/-- A stored entry's TTL is the policy's. -/
theorem ttlSeconds_stored (i : ℕ) (hi : i ≤ run.len) (rid : RequestId) (t : Task F) (l : CacheLookup F)
    (response : ChatCompletionResponse) (e : CacheEntry F) (h : StoredAt run i rid t l response e) :
    e.ttlSeconds = (svc.resolvePolicy t.request response).1 := by
  have hinv := policyInv run htasks i hi rid t h.2.1
  rw [h.2.2] at hinv
  obtain ⟨id, createdAt, rfl⟩ := hinv
  rfl

/-- **Freshness.**  With the classifier as TTL policy: a response is stored for a prompt that
may be cached, under the TTL of the prompt's class; and a HIT's response was stored, by the
time it was searched for, no longer ago than the class of the prompt it was stored for allows. -/
theorem hit_fresh (u : Unicode) (c : TtlClassifier) (hpolicy : svc.ttlPolicy = some (c.buildTtlPolicy u))
    (hstore : s₀.store.items = []) (hcol : CollisionFree (signatures run)) :
    (∀ i ≤ run.len, ∀ rid t l response e, StoredAt run i rid t l response e →
      (c.classify u t.request.latestUserPrompt).ttlClass ≠ .noCache ∧
        e.ttlSeconds = c.classTtl (c.classify u t.request.latestUserPrompt).ttlClass) ∧
    ∀ n ≤ run.len, ∀ rid q, (run.state n).tasks rid = some q → ∀ l best cached, q.phase = .hit l best cached →
      ∃ i j rid' q' l' e, j < n ∧ Backs run i j rid rid' q q' l.score cached l' e ∧
        (c.classify u q'.request.latestUserPrompt).ttlClass ≠ .noCache ∧
        (run.state j).now - e.createdAt ≤ c.classTtl (c.classify u q'.request.latestUserPrompt).ttlClass := by
  have hstored : ∀ i ≤ run.len, ∀ rid t l response e, StoredAt run i rid t l response e →
      (c.classify u t.request.latestUserPrompt).ttlClass ≠ .noCache ∧
        e.ttlSeconds = c.classTtl (c.classify u t.request.latestUserPrompt).ttlClass := by
    intro i hi rid t l response e h
    have httl : e.ttlSeconds = (c.classify u t.request.latestUserPrompt).ttlSeconds := by
      rw [ttlSeconds_stored run htasks i hi rid t l response e h]
      unfold resolvePolicy
      rw [hpolicy]
      exact c.ttlSeconds_buildTtlPolicy u t.request response
    obtain ⟨-, -, ttlSeconds, tags, id, createdAt, hpos, he⟩ := stored_entry run htasks i hi rid t l response e h
    have hown : e.ttlSeconds = ttlSeconds := by rw [he]; rfl
    have hcacheable := c.cacheable_of_ttlSeconds_pos u t.request.latestUserPrompt (by omega)
    exact ⟨of_decide_eq_true hcacheable, httl.trans (c.ttlSeconds_classify u _)⟩
  refine ⟨hstored, fun n hn rid q hq l best cached hhit => ?_⟩
  obtain ⟨i, j, rid', q', l', e, hj, hbacks⟩ :=
    backs_of_hit run htasks hstore hcol n hn rid q hq l best cached hhit
  have hi : i ≤ run.len := by
    have := hbacks.earlier
    omega
  obtain ⟨hclass, httl⟩ := hstored i hi rid' q' l' cached e hbacks.stored
  exact ⟨i, j, rid', q', l', e, hj, hbacks, hclass, by rw [← httl]; exact hbacks.age⟩

end

end

/-! ## A volatile question -/

def classifiedService : ProxyService ℚ Unit :=
  { plainService with ttlPolicy := some (TtlClassifier.buildTtlPolicy .ascii {}) }

def volatileRequest : ChatCompletionRequest :=
  { oceanRequest with messages := [{ role := .user, content := some "describe the ocean right now" }] }

/-- The ocean is described, and a minute later asked for as it is right now. -/
def volatileActions : List (Action Unit) := [
  .request ⟨"team", 0⟩ false oceanRequest,
  .task ⟨"team", 0⟩ .embedded,
  .task ⟨"team", 0⟩ .searched,
  .task ⟨"team", 0⟩ (.completed framedText),
  .task ⟨"team", 0⟩ (.storeEmbedded someReadings.entryId),
  .task ⟨"team", 0⟩ .upserted,
  .tick 1700000060 60,
  .request ⟨"team", 1⟩ false volatileRequest,
  .task ⟨"team", 1⟩ .embedded,
  .task ⟨"team", 1⟩ .searched,
  .task ⟨"team", 1⟩ (.incremented someReadings.uuid false)]

theorem volatileActions_exec :
    (Run.exec (classifiedService.step (.sorting Rat.sqrt) framedCodec .strict) plainStart volatileActions).isSome := by
  decide +kernel

def volatileRun : Run (classifiedService.step (.sorting Rat.sqrt) framedCodec .strict) plainStart :=
  .ofExec _ _ _ volatileActions (Option.some_get volatileActions_exec).symm

theorem volatileRun_hit : ∃ q l best cached, (volatileRun.state 11).tasks ⟨"team", 1⟩ = some q ∧
    q.phase = .hit l best cached ∧ q.request.latestUserPrompt = volatileRequest.latestUserPrompt := by
  obtain ⟨q, l, best, cached, hq, hp, hprompt⟩ := exists_hit ((volatileRun.state 11).tasks ⟨"team", 1⟩)
    (fun q _ => q.request.latestUserPrompt == volatileRequest.latestUserPrompt) (by decide +kernel)
  exact ⟨q, l, best, cached, hq, hp, beq_iff_eq.mp hprompt⟩

/-- A prompt that is not to be cached is answered from the cache. -/
theorem hit_volatile :
    (TtlClassifier.classify .ascii {} volatileRequest.latestUserPrompt).ttlClass = .noCache ∧
      ∃ q l best cached, (volatileRun.state 11).tasks ⟨"team", 1⟩ = some q ∧
        q.request.latestUserPrompt = volatileRequest.latestUserPrompt ∧ q.phase = .hit l best cached := by
  obtain ⟨q, l, best, cached, hq, hp, hprompt⟩ := volatileRun_hit
  exact ⟨by decide +kernel, q, l, best, cached, hq, hprompt, hp⟩

theorem hit_fresh_volatile :
    ∃ q score cached i j rid' q' l' e, Backs volatileRun i j ⟨"team", 1⟩ rid' q q' score cached l' e ∧
      (TtlClassifier.classify .ascii {} q'.request.latestUserPrompt).ttlClass ≠ .noCache := by
  have hcol : CollisionFree (signatures volatileRun) := by
    refine collisionFree_signatures_ofExec volatileActions _ (plainService.requestSignature oceanRequest "team") ?_
    intro rid streaming request hmem
    simp only [volatileActions, List.mem_cons, Action.request.injEq, reduceCtorEq, List.not_mem_nil, or_false,
      false_or] at hmem
    obtain ⟨rfl, -, rfl⟩ | ⟨rfl, -, rfl⟩ := hmem <;> rfl
  obtain ⟨-, hhits⟩ := hit_fresh volatileRun (fun _ => rfl) .ascii {} rfl rfl hcol
  obtain ⟨q, l, best, cached, hq, hp, -⟩ := volatileRun_hit
  obtain ⟨i, j, rid', q', l', e, -, hbacks, hclass, -⟩ := hhits 11 le_rfl ⟨"team", 1⟩ q hq l best cached hp
  exact ⟨q, l.score, cached, i, j, rid', q', l', e, hbacks, hclass⟩

end ProxyService

end CachingLayer
