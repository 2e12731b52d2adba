import CachingLayer.Cache.MemoryCalls
import CachingLayer.Proxy.Soundness

/-!
# Invalidation

A step of the service makes one call on the store (`step_call`), so that what is there
after it was put there or neither removed nor replaced (`present_next_iff`).

Deletion goes by an entry's own fields, lookup by its namespace.  Every entry carries the
model and the prompt hash of the signature its namespace was made from
(`signature_of_mem`), so a deletion by either is complete for the signatures it is about
and touches no other (`invalidation_exact`).

What an invalidation cannot reach is what is not in the store yet, or not any more: the
response of a MISS in flight, and the match of a search before it.  Those apart, no HIT
serves what was invalidated (`hit_not_invalidated`).
-/

namespace CachingLayer

/-- The entries an action is to remove. -/
def Action.evicts {F E : Type} (e : CacheEntry F) : Action E → Bool
  | .delete model systemPromptHash tag =>
    ¬ (model = none ∧ systemPromptHash = none ∧ tag = none) ∧
      InMemoryVectorStore.matchesFilter model systemPromptHash tag e
  | .clear => true
  | _ => false

namespace ProxyService

theorem evicts_sameRecord {F E : Type} (a : Action E) (e e' : CacheEntry F) (h : e.SameRecord e') :
    a.evicts e = a.evicts e' := by
  cases a with
  | delete m p tag =>
    simp only [Action.evicts]
    rw [InMemoryVectorStore.matchesFilter_sameRecord m p tag e e' h]
  | _ => rfl

section
variable {F E : Type} [Field F] [LinearOrder F] {np : Numpy F} {oj : Orjson} {pyd : Pydantic}
  {svc : ProxyService F E} {s₀ : State F E} (run : Run (svc.step np oj pyd) s₀)

/-- **Refinement.**  A step makes one call on the store: it puts there what a task has come
with, and removes what the action is to remove or that replaces. -/
theorem step_call (s s' : State F E) (a : Action E) (h : svc.step np oj pyd s a = some s') :
    ∃ call : MemoryCall F, s'.store = call.apply s.store ∧
      (∀ entry, call = .upsert entry ↔ ∃ rid t l response, a = .task rid .upserted ∧ s.tasks rid = some t ∧
        t.phase = .upserting l response entry) ∧
      ∀ e, call.removes e = true ↔ a.evicts e = true ∨ ∃ entry, call = .upsert entry ∧ entry.id = e.id := by
  cases svc.steps_of_step np oj pyd s s' a h with
  | delete m p tag => exact ⟨.delete m p tag, rfl, by simp, by simp [MemoryCall.removes, Action.evicts]⟩
  | clear => exact ⟨.clear, rfl, by simp, by simp [MemoryCall.removes, Action.evicts]⟩
  | task rid event t t' op effects ht hadvances =>
    have hput : ∀ entry, (∃ rid' t₁ l response, Action.task (E := E) rid event = .task rid' .upserted ∧
        s.tasks rid' = some t₁ ∧ t₁.phase = .upserting l response entry) → op = .upsert entry := by
      rintro entry ⟨rid', t₁, l, response, hact, ht₁, hp⟩
      obtain ⟨rfl, rfl⟩ := Action.task.inj hact
      obtain rfl := Option.some.inj (ht.symm.trans ht₁)
      exact Advances.op_of_upserting oj pyd svc rid t t' _ _ _ _ op effects hadvances l response entry rfl hp
    rcases Advances.storeOp oj pyd svc rid t t' _ _ _ event op effects hadvances with
      rfl | ⟨best, -, rfl⟩ | ⟨l, response, entry, hp, rfl, rfl⟩
    · refine ⟨.search "" [] 0, rfl, fun entry => ⟨fun heq => ?_, fun hex => ?_⟩, by
        simp [MemoryCall.removes, Action.evicts]⟩
      · cases heq
      · cases hput entry hex
    · refine ⟨.incrementHit best.id, rfl, fun entry => ⟨fun heq => ?_, fun hex => ?_⟩, by
        simp [MemoryCall.removes, Action.evicts]⟩
      · cases heq
      · cases hput entry hex
    · refine ⟨.upsert entry, rfl, fun entry' => ⟨fun heq => ?_, fun hex => ?_⟩, by
        simp [MemoryCall.removes, Action.evicts]⟩
      · obtain rfl := MemoryCall.upsert.inj heq
        exact ⟨rid, t, l, response, rfl, ht, hp⟩
      · obtain rfl := StoreOp.upsert.inj (hput entry' hex)
        rfl
  | _ => exact ⟨.search "" [] 0, rfl, by simp, by simp [MemoryCall.removes, Action.evicts]⟩

/-- **Step.**  A record is in the store if it has just been put there, or was there and is
neither removed nor replaced. -/
theorem present_next_iff (n : ℕ) (hn : n < run.len) (e : CacheEntry F) :
    Present (run.state (n + 1)).store e ↔
      (∃ rid t l response e', StoredAt run n rid t l response e' ∧ e'.SameRecord e) ∨
        (Present (run.state n).store e ∧ (run.act n).evicts e = false ∧
          ∀ rid t l response e', StoredAt run n rid t l response e' → e'.id ≠ e.id) := by
  obtain ⟨call, happly, hputs, hremoves⟩ := step_call _ _ _ (run.next n hn)
  have hstored : ∀ e', call = .upsert e' ↔ ∃ rid t l response, StoredAt run n rid t l response e' := hputs
  have hkept : call.removes e = false ↔ (run.act n).evicts e = false ∧
      ∀ rid t l response e', StoredAt run n rid t l response e' → e'.id ≠ e.id := by
    rw [Bool.eq_false_iff, ne_eq, hremoves, not_or, Bool.not_eq_true]
    refine and_congr_right fun _ => ⟨fun hno rid t l response e' h hid => ?_, fun hno => ?_⟩
    · exact hno ⟨e', (hstored e').mpr ⟨rid, t, l, response, h⟩, hid⟩
    · rintro ⟨e', heq, hid⟩
      obtain ⟨rid, t, l, response, h⟩ := (hstored e').mp heq
      exact hno rid t l response e' h hid
  show InMemoryVectorStore.Holds (run.state (n + 1)).store e ↔ _
  rw [happly, InMemoryVectorStore.holds_apply_iff, hkept]
  refine or_congr ⟨?_, ?_⟩ Iff.rfl
  · rintro ⟨e', heq, hsame⟩
    obtain ⟨rid, t, l, response, h⟩ := (hstored e').mp heq
    exact ⟨rid, t, l, response, e', h, hsame⟩
  · rintro ⟨rid, t, l, response, e', h, hsame⟩
    exact ⟨e', (hstored e').mpr ⟨rid, t, l, response, h⟩, hsame⟩

/-- A record that is removed is not in the store after. -/
theorem not_present_of_evicts (n : ℕ) (hn : n < run.len) (e : CacheEntry F) (h : (run.act n).evicts e = true) :
    ¬ Present (run.state (n + 1)).store e := by
  intro hpresent
  rcases (present_next_iff run n hn e).mp hpresent with ⟨rid, t, l, response, e', ⟨hact, -⟩, -⟩ | ⟨-, hkept, -⟩
  · rw [hact] at h
    cases h
  · rw [h] at hkept
    cases hkept

/-- **Run.**  Once removed, no matching entry is there until one is stored. -/
theorem not_evicts_of_mem (n : ℕ) (hn : n < run.len) :
    ∀ k ≤ run.len, n < k →
      (∀ i, n < i → i < k → ∀ rid t l response e, StoredAt run i rid t l response e →
        (run.act n).evicts e = false) →
      ∀ e ∈ (run.state k).store.items, (run.act n).evicts e = false := by
  intro k hk hnk
  refine run.inv_from (fun k => (∀ i, n < i → i < k → ∀ rid t l response e, StoredAt run i rid t l response e →
    (run.act n).evicts e = false) → ∀ e ∈ (run.state k).store.items, (run.act n).evicts e = false)
    (n + 1) ?_ ?_ k hnk hk
  · intro _ e he
    by_contra h
    exact not_present_of_evicts run n hn e (by simpa using h) ⟨e, he, rfl⟩
  · intro k hnk hk ih hstored e he
    rcases svc.step_entries np oj pyd _ _ _ (run.next k hk) e he with
      ⟨e', he', hsame⟩ | ⟨rid, t, l, response, hact, ht, hp⟩
    · rw [← evicts_sameRecord (run.act n) e' e hsame]
      exact ih (fun i hi hik => hstored i hi (by omega)) e' he'
    · exact hstored k (by omega) (by omega) rid t l response e ⟨hact, ht, hp⟩

/-! ## Entries and signatures -/

section
variable (htasks : ∀ rid, s₀.tasks rid = none) (hstore : s₀.store.items = [])
include htasks hstore

/-- An entry's namespace, model and prompt hash are those of one request. -/
theorem signature_of_mem (n : ℕ) (hn : n ≤ run.len) (e : CacheEntry F) (he : e ∈ (run.state n).store.items) :
    ∃ s ∈ signatures run, e.namespaceKey = s.namespaceKey ∧ e.model = s.model ∧
      e.systemPromptHash = s.systemPromptHash := by
  obtain ⟨i, hi, ⟨rid, t, l, response, e', hstored, hsame⟩, -⟩ := stored_of_mem run hstore n hn e he
  obtain ⟨-, -, ttlSeconds, tags, id, createdAt, -, he'⟩ :=
    stored_entry run htasks i (by omega) rid t l response e' hstored
  obtain ⟨hstarted, -⟩ := tasksInv run htasks i (by omega) rid t hstored.2.1
  have hns : e'.namespaceKey = e.namespaceKey := congrArg (·.namespaceKey) hsame
  have hmodel : e'.model = e.model := congrArg (·.model) hsame
  have hhash : e'.systemPromptHash = e.systemPromptHash := congrArg (·.systemPromptHash) hsame
  rw [← hns, ← hmodel, ← hhash, he']
  exact ⟨_, mem_signatures run (by omega) hstarted, svc.entryFor_signature _ _ _ _ _ _ _⟩

/-- What is found under a signature has its model and its prompt hash. -/
theorem fields_of_namespaceKey (s : RequestSignature) (hcol : CollisionFree (insert s (signatures run))) (n : ℕ)
    (hn : n ≤ run.len) (e : CacheEntry F) (he : e ∈ (run.state n).store.items)
    (hns : e.namespaceKey = s.namespaceKey) : e.model = s.model ∧ e.systemPromptHash = s.systemPromptHash := by
  obtain ⟨s', hs', hns', hmodel, hhash⟩ := signature_of_mem run htasks hstore n hn e he
  have hpair : ({s', s} : Set RequestSignature) ⊆ insert s (signatures run) := by
    rintro x (rfl | rfl)
    · exact Set.mem_insert_of_mem _ hs'
    · exact Set.mem_insert _ _
  have hd := RequestSignature.namespaceKey_inj s' s (hcol.mono hpair) (hns'.symm.trans hns)
  refine ⟨hmodel.trans hd.model, hhash.trans ?_⟩
  unfold RequestSignature.systemPromptHash hashSystemPrompt
  rw [hd.systemPrompt]

/-- **Invalidation.**  In every state of every run: a deletion removes exactly the entries
that meet its filters, and says how many.  After a deletion by model, by prompt hash or by
both, a lookup with a signature that has them is a MISS until such an entry is stored; and
a lookup with a signature that differs in one of them concludes what it would have before. -/
theorem invalidation_exact :
    (∀ n ≤ run.len, ∀ model hash tag, ¬ (model = none ∧ hash = none ∧ tag = none) →
      ((run.state n).store.delete model hash tag).2.items = (run.state n).store.items.filter (fun e =>
        ¬ ((∀ m ∈ model, e.model = m) ∧ (∀ h ∈ hash, e.systemPromptHash = h) ∧ ∀ t ∈ tag, t ∈ e.tags)) ∧
      ((run.state n).store.delete model hash tag).1 +
          ((run.state n).store.delete model hash tag).2.items.length = (run.state n).store.items.length) ∧
    (∀ s, CollisionFree (insert s (signatures run)) →
      ∀ n < run.len, ∀ model hash, run.act n = .delete model hash none → ¬ (model = none ∧ hash = none) →
      (∀ m ∈ model, s.model = m) → (∀ h ∈ hash, s.systemPromptHash = h) →
      ∀ k ≤ run.len, n < k →
        (∀ i, n < i → i < k → ∀ rid t l response e, StoredAt run i rid t l response e →
          ¬ ((∀ m ∈ model, e.model = m) ∧ ∀ h ∈ hash, e.systemPromptHash = h)) →
        ∀ prompt threshold r, ∃ l,
          svc.cache.lookup np (run.state k).store s prompt threshold r = .ok (l, (run.state k).store) ∧
            l.status = .miss) ∧
    ∀ s, CollisionFree (insert s (signatures run)) → ∀ n ≤ run.len, ∀ model hash tag,
      ((∃ m ∈ model, s.model ≠ m) ∨ ∃ h ∈ hash, s.systemPromptHash ≠ h) →
      ∀ prompt threshold r,
        (svc.cache.lookup np ((run.state n).store.delete model hash tag).2 s prompt threshold r).map Prod.fst =
          (svc.cache.lookup np (run.state n).store s prompt threshold r).map Prod.fst := by
  refine ⟨fun n hn model hash tag hsome => ⟨?_, InMemoryVectorStore.length_delete _ model hash tag hsome⟩, ?_, ?_⟩
  · rw [InMemoryVectorStore.delete_eq _ model hash tag hsome]
    show (run.state n).store.items.filter _ = _
    refine List.filter_congr fun e _ => ?_
    rw [Bool.eq_iff_iff, decide_eq_true_iff, ← InMemoryVectorStore.matchesFilter_iff, Bool.not_eq_true',
      Bool.not_eq_true]
  · intro s hcol n hn model hash hact hsome hmodel hhash k hk hnk hstored prompt threshold r
    have hevicts : ∀ e : CacheEntry F, (run.act n).evicts e = true ↔
        (∀ m ∈ model, e.model = m) ∧ ∀ h ∈ hash, e.systemPromptHash = h := by
      intro e
      have := InMemoryVectorStore.matchesFilter_iff model hash none e
      rw [hact]
      simp_all [Action.evicts]
    refine svc.cache.lookup_of_liveEntries_nil np _ s prompt threshold r ?_
    rw [List.eq_nil_iff_forall_not_mem]
    intro e he
    obtain ⟨hmem, hns, -, -⟩ := (InMemoryVectorStore.mem_liveEntries _ _ _ _).mp he
    obtain ⟨hem, heh⟩ := fields_of_namespaceKey run htasks hstore s hcol k hk e hmem hns
    have hkept := not_evicts_of_mem run n hn k hk hnk
      (fun i hi hik rid t l response e' h' =>
        Bool.eq_false_iff.mpr fun h => hstored i hi hik rid t l response e' h' ((hevicts e').mp h)) e hmem
    rw [Bool.eq_false_iff] at hkept
    exact hkept ((hevicts e).mpr ⟨fun m hm => hem.trans (hmodel m hm), fun h hh => heh.trans (hhash h hh)⟩)
  · intro s hcol n hn model hash tag hother prompt threshold r
    have hsome : ¬ (model = none ∧ hash = none ∧ tag = none) := by
      rintro ⟨rfl, rfl, -⟩
      rcases hother with ⟨m, hm, -⟩ | ⟨h, hh, -⟩ <;> contradiction
    have hsearch : InMemoryVectorStore.search np ((run.state n).store.delete model hash tag).2 r.now s.namespaceKey
        (svc.cache.embed prompt) svc.cache.topK =
          (run.state n).store.search np r.now s.namespaceKey (svc.cache.embed prompt) svc.cache.topK := by
      rw [InMemoryVectorStore.delete_eq _ model hash tag hsome]
      refine InMemoryVectorStore.search_filter np _ _ _ _ _ _ fun e he hns => ?_
      obtain ⟨hem, heh⟩ := fields_of_namespaceKey run htasks hstore s hcol n hn e he hns
      rw [Bool.not_eq_true', Bool.eq_false_iff]
      intro hmatch
      obtain ⟨hm', hh', -⟩ := (InMemoryVectorStore.matchesFilter_iff model hash tag e).mp hmatch
      rcases hother with ⟨m, hm, hne⟩ | ⟨h, hh, hne⟩
      · exact hne (hem.symm.trans (hm' m hm))
      · exact hne (heh.symm.trans (hh' h hh))
    unfold SemanticCache.lookup
    rw [hsearch]
    cases (run.state n).store.search np r.now s.namespaceKey (svc.cache.embed prompt) svc.cache.topK <;> rfl

/-- **Invalidation and requests in flight.**  A HIT serves a response that an invalidation
was to remove only when its search ran before the invalidation, or the response was stored
after it. -/
theorem hit_not_invalidated (hcol : CollisionFree (signatures run)) (n : ℕ) (hn : n < run.len) (k : ℕ)
    (hk : k ≤ run.len) (rid : RequestId) (q : Task F) (hq : (run.state k).tasks rid = some q) (l : CacheLookup F)
    (best : ScoredEntry F) (cached : ChatCompletionResponse) (hhit : q.phase = .hit l best cached) :
    ∃ i j rid' q' l' e, j < k ∧ Backs run i j rid rid' q q' l.score cached l' e ∧
      ((run.act n).evicts e = true → j < n ∨ n < i) := by
  obtain ⟨i, j, rid', q', l', e, hjk, hbacks⟩ :=
    backs_of_hit run htasks hstore hcol k hk rid q hq l best cached hhit
  refine ⟨i, j, rid', q', l', e, hjk, hbacks, fun hevicts => ?_⟩
  by_contra hbetween
  -- neither the store nor the search is the invalidation itself
  have hi : i ≠ n := by
    rintro rfl
    rw [hbacks.stored.1] at hevicts
    cases hevicts
  have hj : j ≠ n := by
    rintro rfl
    rw [hbacks.searched] at hevicts
    cases hevicts
  exact not_present_of_evicts run n hn e hevicts (hbacks.present (n + 1) (by omega) (by omega))

end

end

/-! ## Runs with invalidations -/

def flushActions : List (Action Unit) := oceanActions ++ [.delete (some "gpt-4o-mini") none none]

theorem flushActions_exec :
    (Run.exec (plainService.step (.sorting Rat.sqrt) framedCodec .strict) plainStart flushActions).isSome := by
  decide +kernel

/-- The ocean's run, and its model invalidated. -/
def flushRun : Run (plainService.step (.sorting Rat.sqrt) framedCodec .strict) plainStart :=
  .ofExec _ _ _ flushActions (Option.some_get flushActions_exec).symm

theorem collisionFree_flushRun :
    CollisionFree (insert (plainService.requestSignature oceanRequest "team") (signatures flushRun)) := by
  refine collisionFree_ofExec flushActions _ _ fun rid streaming request hmem => ?_
  rcases List.mem_append.mp hmem with hmem | hmem
  · exact oceanActions_signature rid streaming request hmem
  · simp at hmem

/-- One entry was there; afterwards the ocean is a MISS. -/
theorem invalidation_exact_flush :
    ((flushRun.state 12).store.delete (some "gpt-4o-mini") none none).1 +
        ((flushRun.state 12).store.delete (some "gpt-4o-mini") none none).2.items.length = 1 ∧
      ∃ l, plainService.cache.lookup (.sorting Rat.sqrt) (flushRun.state 13).store
          (plainService.requestSignature oceanRequest "team") "describe the ocean" none someReadings.lookup =
            .ok (l, (flushRun.state 13).store) ∧ l.status = .miss := by
  obtain ⟨hexact, hcomplete, -⟩ := invalidation_exact flushRun (fun _ => rfl) rfl
  constructor
  · exact (hexact 12 (by decide) (some "gpt-4o-mini") none none (by simp)).2.trans (by decide +kernel)
  · exact hcomplete _ collisionFree_flushRun 12 (by decide) (some "gpt-4o-mini") none rfl (by simp) (by simp [
      requestSignature, signature, oceanRequest]) (by simp) 13 (by decide) (by decide) (fun i h1 h2 => by omega) _ _ _

/-- The invalidation falls into the upstream call of a MISS; the same request comes again. -/
def inFlightActions : List (Action Unit) := [
  .request ⟨"team", 0⟩ false oceanRequest,
  .task ⟨"team", 0⟩ .embedded,
  .task ⟨"team", 0⟩ .searched,
  .delete (some "gpt-4o-mini") none none,
  .task ⟨"team", 0⟩ (.completed framedText),
  .task ⟨"team", 0⟩ (.storeEmbedded someReadings.entryId),
  .task ⟨"team", 0⟩ .upserted,
  .request ⟨"team", 1⟩ false oceanRequest,
  .task ⟨"team", 1⟩ .embedded,
  .task ⟨"team", 1⟩ .searched,
  .task ⟨"team", 1⟩ (.incremented someReadings.uuid false)]

theorem inFlightActions_exec :
    (Run.exec (plainService.step (.sorting Rat.sqrt) framedCodec .strict) plainStart inFlightActions).isSome := by
  decide +kernel

def inFlightRun : Run (plainService.step (.sorting Rat.sqrt) framedCodec .strict) plainStart :=
  .ofExec _ _ _ inFlightActions (Option.some_get inFlightActions_exec).symm

theorem inFlightRun_hit : ∃ q l best cached, (inFlightRun.state 11).tasks ⟨"team", 1⟩ = some q ∧
    q.phase = .hit l best cached ∧ best.entry.id = someReadings.entryId ∧
      (inFlightRun.act 3).evicts best.entry = true := by
  obtain ⟨q, l, best, cached, hq, hp, hbest⟩ := exists_hit ((inFlightRun.state 11).tasks ⟨"team", 1⟩)
    (fun _ best => best.entry.id = someReadings.entryId ∧ (inFlightRun.act 3).evicts best.entry = true)
    (by decide +kernel)
  exact ⟨q, l, best, cached, hq, hp, of_decide_eq_true hbest⟩

/-- The upstream call was under way at the invalidation, whose filter the answer meets; it
is stored after, and the next request is answered with it. -/
theorem hit_invalidated_inFlight :
    inFlightRun.act 3 = .delete (some "gpt-4o-mini") none none ∧
      (∃ t l started, (inFlightRun.state 3).tasks ⟨"team", 0⟩ = some t ∧ t.phase = .completing l started) ∧
      inFlightRun.act 5 = .task ⟨"team", 0⟩ (.storeEmbedded someReadings.entryId) ∧
      ∃ q l best cached, (inFlightRun.state 11).tasks ⟨"team", 1⟩ = some q ∧ q.phase = .hit l best cached ∧
        best.entry.id = someReadings.entryId ∧ (inFlightRun.act 3).evicts best.entry = true := by
  refine ⟨rfl, ?_, rfl, inFlightRun_hit⟩
  exact exists_completing _ (by decide +kernel)

/-- In that run the answer was stored after the invalidation, or searched for before it. -/
theorem hit_not_invalidated_inFlight :
    ∃ q score cached i j rid' q' l' e, Backs inFlightRun i j ⟨"team", 1⟩ rid' q q' score cached l' e ∧
      ((inFlightRun.act 3).evicts e = true → j < 3 ∨ 3 < i) := by
  have hcol : CollisionFree (signatures inFlightRun) := by
    refine collisionFree_signatures_ofExec inFlightActions _ (plainService.requestSignature oceanRequest "team") ?_
    intro rid streaming request hmem
    simp only [inFlightActions, List.mem_cons, Action.request.injEq, reduceCtorEq, List.not_mem_nil, or_false,
      false_or] at hmem
    obtain ⟨rfl, -, rfl⟩ | ⟨rfl, -, rfl⟩ := hmem <;> rfl
  obtain ⟨q, l, best, cached, hq, hp, -⟩ := inFlightRun_hit
  obtain ⟨i, j, rid', q', l', e, -, hbacks⟩ := hit_not_invalidated inFlightRun (fun _ => rfl) rfl hcol 3 (by decide)
    11 le_rfl ⟨"team", 1⟩ q hq l best cached hp
  exact ⟨q, l.score, cached, i, j, rid', q', l', e, hbacks⟩

end ProxyService

end CachingLayer
