import CachingLayer.Proxy.Freshness
import CachingLayer.Proxy.Invalidation

/-!
# Flushing a freshness class

With the classifier as TTL policy an entry has the tags its request gave, and last the tag of
its own prompt's class (`tags_of_mem`).  So a deletion by tag removes those that were given the
tag and those whose class it is, and no others; the two classes that are kept make up the
store; and no HIT serves an answer to a prompt of a flushed class, one searched for before the
flush or stored after it apart (`class_flush`).
-/

namespace CachingLayer

open Text

/-- The tag of a class. -/
def TtlClass.tag (k : TtlClass) : String := "ttl:" ++ k.value

namespace InMemoryVectorStore

variable {F : Type} (store : InMemoryVectorStore F) (tag : String)

theorem delete_tag :
    (store.delete none none (some tag)).2.items = store.items.filter fun e => tag ∉ e.tags := by
  rw [delete_eq _ _ _ _ (by simp)]
  show store.items.filter _ = _
  refine List.filter_congr fun e _ => ?_
  simp [matchesFilter]

theorem mem_delete_tag (e : CacheEntry F) :
    e ∈ (store.delete none none (some tag)).2.items ↔ e ∈ store.items ∧ tag ∉ e.tags := by
  rw [delete_tag, List.mem_filter, decide_eq_true_iff]

end InMemoryVectorStore

namespace ProxyService

section
variable {F E : Type} [Field F] [LinearOrder F] {np : Numpy F} {oj : Orjson} {pyd : Pydantic}
  {svc : ProxyService F E} {s₀ : State F E} (run : Run (svc.step np oj pyd) s₀) (u : Unicode) (c : TtlClassifier)
  (hpolicy : svc.ttlPolicy = some (c.buildTtlPolicy u)) (htasks : ∀ rid, s₀.tasks rid = none)
include hpolicy htasks

/-- What is stored is tagged. -/
theorem tags_stored (i : ℕ) (hi : i ≤ run.len) (rid : RequestId) (t : Task F) (l : CacheLookup F)
    (response : ChatCompletionResponse) (e : CacheEntry F) (h : StoredAt run i rid t l response e) :
    e.prompt = t.request.latestUserPrompt ∧
      e.tags = t.request.cacheTags.getD [] ++ [(c.classify u e.prompt).ttlClass.tag] ∧
      (c.classify u e.prompt).ttlClass ≠ .noCache := by
  have hinv := policyInv run htasks i hi rid t h.2.1
  rw [h.2.2] at hinv
  obtain ⟨id, createdAt, rfl⟩ := hinv
  obtain ⟨-, -, ttlSeconds, tags, id', createdAt', hpos, he⟩ := stored_entry run htasks i hi rid t l response _ h
  have hresolve : svc.resolvePolicy t.request response = c.buildTtlPolicy u t.request response := by
    unfold resolvePolicy
    rw [hpolicy]
  have httl : (c.classify u t.request.latestUserPrompt).ttlSeconds = ttlSeconds := by
    rw [← c.ttlSeconds_buildTtlPolicy u t.request response, ← hresolve]
    exact congrArg CacheEntry.ttlSeconds he
  refine ⟨rfl, ?_, ?_⟩
  · show (svc.resolvePolicy t.request response).2 = _
    rw [hresolve]
    rfl
  · exact of_decide_eq_true (c.cacheable_of_ttlSeconds_pos u t.request.latestUserPrompt (by omega))

variable (hstore : s₀.store.items = [])
include hstore

/-- **Run.**  An entry's tags are those its request gave, and that of its prompt's class. -/
theorem tags_of_mem (n : ℕ) (hn : n ≤ run.len) (e : CacheEntry F) (he : e ∈ (run.state n).store.items) :
    ∃ i < n, ∃ rid t l response e', StoredAt run i rid t l response e' ∧ e'.SameRecord e ∧
      e.prompt = t.request.latestUserPrompt ∧
      e.tags = t.request.cacheTags.getD [] ++ [(c.classify u e.prompt).ttlClass.tag] ∧
      (c.classify u e.prompt).ttlClass ≠ .noCache := by
  obtain ⟨i, hi, ⟨rid, t, l, response, e', hstored, hsame⟩, -⟩ := stored_of_mem run hstore n hn e he
  have hprompt : e'.prompt = e.prompt := congrArg (·.prompt) hsame
  have htags : e'.tags = e.tags := congrArg (·.tags) hsame
  have htagged := tags_stored run u c hpolicy htasks i (by omega) rid t l response e' hstored
  rw [hprompt, htags] at htagged
  exact ⟨i, hi, rid, t, l, response, e', hstored, hsame, htagged⟩

omit hpolicy in
/-- What a HIT serves was not removed between its being stored and its being found. -/
theorem not_removed_between (hcol : CollisionFree (signatures run)) (n : ℕ) (hn : n < run.len) (m : ℕ)
    (hm : m ≤ run.len) (rid : RequestId) (q : Task F) (hq : (run.state m).tasks rid = some q) (l : CacheLookup F)
    (best : ScoredEntry F) (cached : ChatCompletionResponse) (hhit : q.phase = .hit l best cached) :
    ∃ i j rid' q' l' e, j < m ∧ Backs run i j rid rid' q q' l.score cached l' e ∧
      (i < n → n < j → (run.act n).evicts e = false) := by
  obtain ⟨i, j, rid', q', l', e, hj, hbacks⟩ :=
    backs_of_hit run htasks hstore hcol m hm rid q hq l best cached hhit
  refine ⟨i, j, rid', q', l', e, hj, hbacks, fun hin hnj => Bool.eq_false_iff.mpr fun hevicts => ?_⟩
  exact not_present_of_evicts run n hn e hevicts (hbacks.present (n + 1) (by omega) (by omega))

/-- **Flushing.**  In every state of every run: a deletion by a tag removes the entries whose
request gave the tag or whose prompt's class has it, and no others; and no entry is of the
class that is not to be kept, so that to flush the other two, in any order, is to empty the
store.  Unless digests collide, a HIT serves an answer to a prompt of a flushed class only when
it was searched for before the flush, or the answer was stored after it. -/
theorem class_flush :
    (∀ n ≤ run.len, ∀ e ∈ (run.state n).store.items, ∃ i < n, ∃ rid t l response e',
      StoredAt run i rid t l response e' ∧ e'.SameRecord e ∧ e.prompt = t.request.latestUserPrompt ∧
        (c.classify u e.prompt).ttlClass ≠ .noCache ∧
        ∀ tag, e ∉ ((run.state n).store.delete none none (some tag)).2.items ↔
          tag ∈ t.request.cacheTags.getD [] ∨ tag = "ttl:" ++ (c.classify u e.prompt).ttlClass.value) ∧
    (∀ n ≤ run.len, ∀ k k' : TtlClass, k ≠ .noCache → k' ≠ .noCache → k ≠ k' →
      let first := (run.state n).store.delete none none (some ("ttl:" ++ k.value))
      let second := first.2.delete none none (some ("ttl:" ++ k'.value))
      second.2.items = [] ∧ first.1 + second.1 = (run.state n).store.count) ∧
    (CollisionFree (signatures run) →
      ∀ n < run.len, ∀ k : TtlClass, run.act n = .delete none none (some ("ttl:" ++ k.value)) →
        ∀ m ≤ run.len, ∀ rid q, (run.state m).tasks rid = some q → ∀ l best cached, q.phase = .hit l best cached →
          ∃ i j rid' q' l' e, j < m ∧ Backs run i j rid rid' q q' l.score cached l' e ∧
            ((c.classify u q'.request.latestUserPrompt).ttlClass = k → j < n ∨ n < i)) := by
  refine ⟨fun n hn e he => ?_, ?_, ?_⟩
  · obtain ⟨i, hi, rid, t, l, response, e', hstored, hsame, hprompt, htags, hclass⟩ :=
      tags_of_mem run u c hpolicy htasks hstore n hn e he
    refine ⟨i, hi, rid, t, l, response, e', hstored, hsame, hprompt, hclass, fun tag => ?_⟩
    rw [InMemoryVectorStore.mem_delete_tag, and_iff_right he, not_not, htags, List.mem_append, List.mem_singleton]
    rfl
  · intro n hn k k' hk hk' hne first second
    have hempty : second.2.items = [] := by
      rw [List.eq_nil_iff_forall_not_mem]
      intro e he
      obtain ⟨hfirst, hnot'⟩ := (InMemoryVectorStore.mem_delete_tag first.2 _ e).mp he
      obtain ⟨hmem, hnot⟩ := (InMemoryVectorStore.mem_delete_tag _ _ e).mp hfirst
      obtain ⟨_, _, _, t, _, _, _, _, _, _, htags, hclass⟩ :=
        tags_of_mem run u c hpolicy htasks hstore n hn e hmem
      rw [htags, List.mem_append, List.mem_singleton, not_or] at hnot hnot'
      -- there are three classes, and the entry's is none of them
      cases hof : (c.classify u e.prompt).ttlClass <;> rw [hof] at hclass hnot hnot' <;>
        cases k <;> cases k' <;> simp_all [TtlClass.tag]
    refine ⟨hempty, ?_⟩
    have hfirst := InMemoryVectorStore.length_delete (run.state n).store none none (some ("ttl:" ++ k.value)) (by simp)
    have hsecond := InMemoryVectorStore.length_delete first.2 none none (some ("ttl:" ++ k'.value)) (by simp)
    change second.1 + second.2.items.length = _ at hsecond
    rw [hempty] at hsecond
    show first.1 + second.1 = (run.state n).store.items.length
    rw [← hfirst, ← hsecond]
    rfl
  · intro hcol n hn k hact m hm rid q hq l best cached hhit
    obtain ⟨i, j, rid', q', l', e, hj, hbacks, hkept⟩ :=
      not_removed_between run htasks hstore hcol n hn m hm rid q hq l best cached hhit
    refine ⟨i, j, rid', q', l', e, hj, hbacks, fun hclass => ?_⟩
    by_contra hbetween
    have hi : i ≠ n := by
      rintro rfl
      rw [hbacks.stored.1] at hact
      cases hact
    have hj : j ≠ n := by
      rintro rfl
      rw [hbacks.searched] at hact
      cases hact
    have hlen : i ≤ run.len := by
      have := hbacks.earlier
      omega
    obtain ⟨hprompt, htags, -⟩ := tags_stored run u c hpolicy htasks i hlen rid' q' l' cached e hbacks.stored
    have hevicts := hkept (by omega) (by omega)
    rw [hact] at hevicts
    rw [hprompt, hclass] at htags
    simp [Action.evicts, InMemoryVectorStore.matchesFilter, htags, TtlClass.tag] at hevicts

end

/-- The ocean is described and kept, its class is flushed, and it is described and kept once
more, for the last request to be served. -/
def flushedActions : List (Action Unit) := [
  .request ⟨"team", 0⟩ false oceanRequest,
  .task ⟨"team", 0⟩ .embedded,
  .task ⟨"team", 0⟩ .searched,
  .task ⟨"team", 0⟩ (.completed framedText),
  .task ⟨"team", 0⟩ (.storeEmbedded someReadings.entryId),
  .task ⟨"team", 0⟩ .upserted,
  .delete none none (some "ttl:long"),
  .request ⟨"team", 1⟩ false oceanRequest,
  .task ⟨"team", 1⟩ .embedded,
  .task ⟨"team", 1⟩ .searched,
  .task ⟨"team", 1⟩ (.completed framedText),
  .task ⟨"team", 1⟩ (.storeEmbedded someReadings.uuid),
  .task ⟨"team", 1⟩ .upserted,
  .request ⟨"team", 2⟩ false oceanRequest,
  .task ⟨"team", 2⟩ .embedded,
  .task ⟨"team", 2⟩ .searched,
  .task ⟨"team", 2⟩ (.incremented someReadings.uuid false)]

theorem flushedActions_exec :
    (Run.exec (classifiedService.step (.sorting Rat.sqrt) framedCodec .strict) plainStart flushedActions).isSome := by
  decide +kernel

def flushedRun : Run (classifiedService.step (.sorting Rat.sqrt) framedCodec .strict) plainStart :=
  .ofExec _ _ _ flushedActions (Option.some_get flushedActions_exec).symm

theorem collisionFree_flushedRun : CollisionFree (signatures flushedRun) := by
  refine collisionFree_signatures_ofExec flushedActions _ (plainService.requestSignature oceanRequest "team") ?_
  intro rid streaming request hmem
  simp only [flushedActions, List.mem_cons, Action.request.injEq, reduceCtorEq, List.not_mem_nil, or_false,
    false_or] at hmem
  obtain ⟨rfl, -, rfl⟩ | ⟨rfl, -, rfl⟩ | ⟨rfl, -, rfl⟩ := hmem <;> rfl

theorem flushedRun_stored (i : ℕ) (hi : i < 17) (rid : RequestId) (h : flushedRun.act i = .task rid .upserted) :
    (i = 5 ∧ rid = ⟨"team", 0⟩) ∨ (i = 12 ∧ rid = ⟨"team", 1⟩) := by
  interval_cases i <;> cases h
  · exact Or.inl ⟨rfl, rfl⟩
  · exact Or.inr ⟨rfl, rfl⟩

theorem flushedRun_searched (j : ℕ) (hj : j < 17) (h : flushedRun.act j = .task ⟨"team", 2⟩ .searched) : j = 15 := by
  interval_cases j <;> first | rfl | cases h

/-- Whose entry it is, the prompt is the ocean's. -/
theorem flushedRun_class (i : ℕ) (hi : i < 17) (rid : RequestId) (t : Task ℚ) (l : CacheLookup ℚ)
    (response : ChatCompletionResponse) (e : CacheEntry ℚ) (h : StoredAt flushedRun i rid t l response e) :
    (TtlClassifier.classify .ascii {} t.request.latestUserPrompt).ttlClass = .long := by
  obtain ⟨hact, ht, -⟩ := h
  have hfirst : ((flushedRun.state 5).tasks ⟨"team", 0⟩).all (fun t =>
      (TtlClassifier.classify .ascii {} t.request.latestUserPrompt).ttlClass = .long) = true := by decide +kernel
  have hsecond : ((flushedRun.state 12).tasks ⟨"team", 1⟩).all (fun t =>
      (TtlClassifier.classify .ascii {} t.request.latestUserPrompt).ttlClass = .long) = true := by decide +kernel
  obtain ⟨rfl, rfl⟩ | ⟨rfl, rfl⟩ := flushedRun_stored i hi rid hact
  · rw [ht, Option.all_some, decide_eq_true_iff] at hfirst
    exact hfirst
  · rw [ht, Option.all_some, decide_eq_true_iff] at hsecond
    exact hsecond

/-- The last request is served what was stored after the flush; and to flush what is there
then is to take one entry out. -/
theorem class_flush_flushedRun :
    (∃ q score cached i rid' q' l' e, Backs flushedRun i 15 ⟨"team", 2⟩ rid' q q' score cached l' e ∧ 6 < i) ∧
      ((flushedRun.state 17).store.delete none none (some "ttl:short")).1 +
          (((flushedRun.state 17).store.delete none none (some "ttl:short")).2.delete none none
            (some "ttl:long")).1 = 1 := by
  obtain ⟨-, hboth, hhits⟩ := class_flush flushedRun .ascii {} rfl (fun _ => rfl) rfl
  constructor
  · obtain ⟨q, l, best, cached, hq, hp, -⟩ := exists_hit ((flushedRun.state 17).tasks ⟨"team", 2⟩) (fun _ _ => true)
      (by decide +kernel)
    obtain ⟨i, j, rid', q', l', e, hj, hbacks, hflushed⟩ := hhits collisionFree_flushedRun 6 (by decide) .long rfl 17
      le_rfl ⟨"team", 2⟩ q hq l best cached hp
    obtain rfl := flushedRun_searched j hj hbacks.searched
    have hclass := flushedRun_class i (hbacks.earlier.trans hj) rid' q' l' cached e hbacks.stored
    exact ⟨q, l.score, cached, i, rid', q', l', e, hbacks, (hflushed hclass).resolve_left (by decide)⟩
  · exact (hboth 17 le_rfl .short .long (by decide) (by decide) (by decide)).2.trans (by decide +kernel)

end ProxyService

end CachingLayer
