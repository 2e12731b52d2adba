import CachingLayer.Cache.NearestNeighbour
import CachingLayer.Proxy.Invalidation

/-!
# Retention

An entry put into the store stays there until an invalidation removes it
(`present_of_stored`): nothing else takes entries out, and no other entry comes under its
id.  A search under its namespace for its own prompt then finds a similarity of one, which
no other entry exceeds, and every threshold up to one lets it through: the request is a
HIT (`stored_answer_found`).  A lookup at any point of a run is a nearest neighbour
(`lookup_nearest_run`).
-/

namespace CachingLayer

open Text

/-- What ends a request from outside. -/
def Event.interrupts : Event → Bool
  | .raised _ | .abandoned => true
  | _ => false

namespace ProxyService

section
variable {F E : Type} [Field F] [LinearOrder F] {np : Numpy F} {oj : Orjson} {pyd : Pydantic}
  {svc : ProxyService F E} {s₀ : State F E} (run : Run (svc.step np oj pyd) s₀)

/-- No id is drawn twice. -/
def IdsUnique : Prop :=
  ∀ i < run.len, ∀ j < run.len, ∀ rid rid' id, run.act i = .task rid (.storeEmbedded id) →
    run.act j = .task rid' (.storeEmbedded id) → i = j

/-! ## An entry stays -/

/-- A request that is done stays so. -/
theorem missed_stays (n : ℕ) (rid : RequestId) (t : Task F) (l : CacheLookup F)
    (response : Option ChatCompletionResponse) (ht : (run.state n).tasks rid = some t)
    (hp : t.phase = .missed l response) :
    ∀ k, n ≤ k → k ≤ run.len → (run.state k).tasks rid = some t := by
  refine run.inv_from _ n ht ?_
  intro k _ hk ih
  obtain ⟨t', ht', rfl | ⟨event, op, effects, -, hadv⟩⟩ :=
    svc.step_tasks_of_some np oj pyd _ _ _ (run.next k hk) rid t ih
  · exact ht'
  · exfalso
    cases hadv <;> simp_all [Phase.running]

/-- A request whose entry is stored is done. -/
theorem stored_next (i : ℕ) (hi : i < run.len) (rid : RequestId) (t : Task F) (l : CacheLookup F)
    (response : ChatCompletionResponse) (e : CacheEntry F) (h : StoredAt run i rid t l response e) :
    ∃ t', (run.state (i + 1)).tasks rid = some t' ∧ t'.phase = .missed l (some response) := by
  obtain ⟨hact, ht, hp⟩ := h
  have hnext := run.next i hi
  rw [hact] at hnext
  obtain ⟨t₁, t', op, effects, ht₁, hadv, hs⟩ := svc.step_task np oj pyd _ _ rid _ hnext
  obtain rfl := Option.some.inj (ht.symm.trans ht₁)
  cases svc.advances_of_advance oj pyd rid t t' _ _ _ _ op effects hadv with
  | upserted l' response' entry hp' =>
    obtain ⟨rfl, rfl, rfl⟩ := Phase.upserting.inj (hp.symm.trans hp')
    rw [hs]
    exact ⟨_, Function.update_self rid _ _, rfl⟩

/-- A request that found a match it can read from can be answered with it. -/
theorem step_incremented (best : ScoredEntry F)
    (hvalid : ∀ uuid now, ∃ cached, ChatCompletionResponse.modelValidate pyd uuid now best.entry.response = .ok cached)
    (s : State F E) (rid : RequestId) (t : Task F) (ht : s.tasks rid = some t) (hp : t.phase = .incrementing best)
    (uuid : String) (sampled : Bool) :
    ∃ s' l cached, svc.step np oj pyd s (.task rid (.incremented uuid sampled)) = some s' ∧
      s'.tasks rid = some { t with phase := .hit l best cached } := by
  obtain ⟨cached, hok⟩ := hvalid uuid (truncate s.now)
  have hadv : ∃ l op effects, svc.advance oj pyd rid t s.now s.perf
      (svc.search np rid t.request s.now s.store) (.incremented uuid sampled) =
        some ({ t with phase := .hit l best cached }, op, effects) := by
    unfold advance
    simp only [hp, hok]
    exact ⟨_, _, _, rfl⟩
  obtain ⟨l, op, effects, hadv⟩ := hadv
  exact ⟨_, l, cached, svc.step_task_of_advance np oj pyd s rid t _ _ op effects ht hadv,
    Function.update_self rid _ _⟩

/-- A request that found a match it can read from is answered with it, unless it is
interrupted. -/
theorem hit_of_incrementing (best : ScoredEntry F)
    (hvalid : ∀ uuid now, ∃ cached, ChatCompletionResponse.modelValidate pyd uuid now best.entry.response = .ok cached)
    (n : ℕ) (rid : RequestId) (t : Task F) (ht : (run.state n).tasks rid = some t)
    (hp : t.phase = .incrementing best) :
    ∀ k, n ≤ k → k ≤ run.len → ∃ t', (run.state k).tasks rid = some t' ∧
      (t'.phase = .incrementing best ∨ (∃ l cached, t'.phase = .hit l best cached) ∨
        ∃ m event, n ≤ m ∧ m < k ∧ run.act m = .task rid event ∧ event.interrupts = true) := by
  refine run.inv_from _ n ⟨t, ht, Or.inl hp⟩ ?_
  rintro k hnk hk ⟨u, hu, hphase⟩
  obtain ⟨u', hu', hgo⟩ := svc.step_tasks_of_some np oj pyd _ _ _ (run.next k hk) rid u hu
  refine ⟨u', hu', ?_⟩
  rcases hphase with hinc | hhit | ⟨m, event, hm, hmk, hact, hint⟩
  · rcases hgo with rfl | ⟨event, op, effects, hact, hadv⟩
    · exact Or.inl hinc
    · cases hadv with
      | cachedInvalid best' uuid sampled e l hp' hl hv =>
        obtain rfl := Phase.incrementing.inj (hinc.symm.trans hp')
        obtain ⟨cached, hok⟩ := hvalid uuid (truncate (run.state k).now)
        rw [hok] at hv
        cases hv
      | cached best' uuid sampled response l hp' =>
        obtain rfl := Phase.incrementing.inj (hinc.symm.trans hp')
        exact Or.inr (Or.inl ⟨l, response, rfl⟩)
      | raised e => exact Or.inr (Or.inr ⟨k, _, hnk, by omega, hact, rfl⟩)
      | abandoned => exact Or.inr (Or.inr ⟨k, _, hnk, by omega, hact, rfl⟩)
      | _ => simp_all
  · obtain ⟨l, cached, hhit⟩ := hhit
    rcases hgo with rfl | ⟨event, op, effects, hact, hadv⟩
    · exact Or.inr (Or.inl ⟨l, cached, hhit⟩)
    · cases hadv with
      | taken => exact Or.inr (Or.inl ⟨l, cached, hhit⟩)
      | raised e hp' => rw [hhit] at hp'; cases hp'
      | abandoned hp' => rw [hhit] at hp'; cases hp'
      | _ => simp_all
  · exact Or.inr (Or.inr ⟨m, event, hm, by omega, hact, hint⟩)

section
variable (htasks : ∀ rid, s₀.tasks rid = none)
include htasks

/-- The id of an entry on its way into the store was drawn for it. -/
theorem drawn_of_upserting : ∀ n ≤ run.len, ∀ rid t, (run.state n).tasks rid = some t →
    ∀ l response e, t.phase = .upserting l response e → ∃ m < n, run.act m = .task rid (.storeEmbedded e.id) := by
  refine run.inv _ ?_ ?_
  · intro rid t ht
    rw [run.init, htasks rid] at ht
    cases ht
  · intro n hn ih rid t' ht' l response e hp
    rcases svc.step_tasks np oj pyd _ _ _ (run.next n hn) rid t' ht' with
      hold | ⟨streaming, request, -, -, rfl⟩ | ⟨t, event, op, effects, hact, ht, hadv⟩
    · obtain ⟨m, hm, hdrawn⟩ := ih rid t' hold l response e hp
      exact ⟨m, by omega, hdrawn⟩
    · cases hp
    · obtain ⟨id, ttlSeconds, tags, rfl, he⟩ :=
        Advances.upserting oj pyd svc rid t t' _ _ _ event op effects hadv l response e hp
      exact ⟨n, by omega, by rw [hact, he]; rfl⟩

/-- Two entries stored under one id are stored at one step. -/
theorem stored_once (hids : IdsUnique run) (i k : ℕ) (hik : i < k) (hk : k < run.len) (rid rid' : RequestId)
    (t t' : Task F) (l l' : CacheLookup F) (response response' : ChatCompletionResponse) (e e' : CacheEntry F)
    (h : StoredAt run i rid t l response e) (h' : StoredAt run k rid' t' l' response' e') : e'.id ≠ e.id := by
  intro hid
  obtain ⟨m, hm, hdrawn⟩ := drawn_of_upserting run htasks i (by omega) rid t h.2.1 l response e h.2.2
  obtain ⟨m', hm', hdrawn'⟩ := drawn_of_upserting run htasks k (by omega) rid' t' h'.2.1 l' response' e' h'.2.2
  rw [hid] at hdrawn'
  obtain rfl := hids m (by omega) m' (by omega) rid rid' e.id hdrawn hdrawn'
  obtain ⟨rfl, -⟩ := Action.task.inj (hdrawn.symm.trans hdrawn')
  -- the first of them is done with its request
  obtain ⟨u, hu, hmissed⟩ := stored_next run i (by omega) rid t l response e h
  have hstays := missed_stays run (i + 1) rid u l (some response) hu hmissed k (by omega) (by omega)
  obtain rfl := Option.some.inj (hstays.symm.trans h'.2.1)
  rw [h'.2.2] at hmissed
  cases hmissed

/-- **Run.**  A stored entry is there until it is removed. -/
theorem present_of_stored (hids : IdsUnique run) (i : ℕ) (hi : i < run.len) (rid : RequestId) (t : Task F)
    (l : CacheLookup F) (response : ChatCompletionResponse) (e : CacheEntry F)
    (h : StoredAt run i rid t l response e) (j : ℕ) (hij : i < j) (hj : j ≤ run.len)
    (hkept : ∀ k, i < k → k < j → (run.act k).evicts e = false) : Present (run.state j).store e := by
  have hfirst : Present (run.state (i + 1)).store e :=
    (present_next_iff run i hi e).mpr (Or.inl ⟨rid, t, l, response, e, h, rfl⟩)
  refine run.inv_from (fun k => k ≤ j → Present (run.state k).store e) (i + 1) (fun _ => hfirst) ?_ j hij hj le_rfl
  intro k hik hk ih hkj
  refine (present_next_iff run k hk e).mpr (Or.inr ⟨ih (by omega), hkept k (by omega) (by omega), ?_⟩)
  intro rid' t' l' response' e' h'
  exact stored_once run htasks hids i k (by omega) hk rid rid' t t' l l' response response' e e' h h'

/-- An entry holds the embedding of a prompt, and a response. -/
theorem content_of_mem (hstore : s₀.store.items = []) (n : ℕ) (hn : n ≤ run.len) (e : CacheEntry F)
    (he : e ∈ (run.state n).store.items) :
    ∃ prompt response, e.embedding = svc.cache.embed prompt ∧
      e.response = ChatCompletionResponse.modelDump response := by
  obtain ⟨i, hi, ⟨rid, t, l, response, e', hstored, hsame⟩, -⟩ := stored_of_mem run hstore n hn e he
  obtain ⟨-, -, ttlSeconds, tags, id, createdAt, -, he'⟩ :=
    stored_entry run htasks i (by omega) rid t l response e' hstored
  have hembedding : e'.embedding = e.embedding := congrArg (·.embedding) hsame
  have hresponse : e'.response = e.response := congrArg (·.response) hsame
  exact ⟨t.request.latestUserPrompt, response, by rw [← hembedding, he']; rfl, by rw [← hresponse, he']; rfl⟩

/-- Where the embedding service has one dimension, whatever a run has stored can be
compared with any prompt, so that every lookup is a nearest neighbour. -/
theorem lookup_nearest_run (hstore : s₀.store.items = [])
    (hdim : ∀ p p', (svc.cache.embed p).length = (svc.cache.embed p').length)
    (hpos : ∀ p, svc.cache.embed p ≠ []) (n : ℕ) (hn : n ≤ run.len) (signature : RequestSignature)
    (prompt : String) (threshold : Option F) (r : LookupReadings) :
    ∃ l store', svc.cache.lookup np (run.state n).store signature prompt threshold r = .ok (l, store') ∧
      svc.cache.NearestNeighbour np (run.state n).store
        ((run.state n).store.liveEntries r.now signature.namespaceKey) prompt threshold l store' := by
  apply svc.cache.lookup_of_comparable
  intro e he
  obtain ⟨p, -, hembedding, -⟩ := content_of_mem run htasks hstore n hn e
    ((InMemoryVectorStore.mem_liveEntries _ _ _ _).mp he).1
  rw [hembedding]
  exact ⟨hdim p prompt, hpos p⟩

end

end

/-! ## An entry is found -/

section
variable {F E : Type} [Field F] [LinearOrder F] [IsStrictOrderedRing F] {np : Numpy F} {oj : Orjson} {pyd : Pydantic}
  {svc : ProxyService F E} {s₀ : State F E} (run : Run (svc.step np oj pyd) s₀)
  (htasks : ∀ rid, s₀.tasks rid = none) (hstore : s₀.store.items = [])
  (hdim : ∀ p p', (svc.cache.embed p).length = (svc.cache.embed p').length)
  (hexact : ∀ p, ExactNorm np (svc.cache.embed p))

include htasks hstore hdim hexact

/-- A search for the prompt of a live entry of its namespace finds a similarity of one, and
a response that can be read. -/
theorem search_own (n : ℕ) (hn : n ≤ run.len) (e : CacheEntry F)
    (he : e ∈ (run.state n).store.liveEntries (run.state n).now e.namespaceKey) (prompt : String)
    (hembedding : e.embedding = svc.cache.embed prompt) (hnonzero : ∃ x ∈ svc.cache.embed prompt, x ≠ 0) :
    ∃ best rest, (run.state n).store.search np (run.state n).now e.namespaceKey (svc.cache.embed prompt)
        svc.cache.topK = .ok (best :: rest) ∧ best.score = 1 ∧
      ∀ uuid now, ∃ cached, ChatCompletionResponse.modelValidate pyd uuid now best.entry.response = .ok cached := by
  have hcontent : ∀ e' ∈ (run.state n).store.liveEntries (run.state n).now e.namespaceKey, ∃ prompt response,
      e'.embedding = svc.cache.embed prompt ∧ e'.response = ChatCompletionResponse.modelDump response := by
    intro e' he'
    exact content_of_mem run htasks hstore n hn e' ((InMemoryVectorStore.mem_liveEntries _ _ _ _).mp he').1
  obtain ⟨best, rest, hsearch, hbest⟩ := InMemoryVectorStore.search_best np (run.state n).store (run.state n).now
    e.namespaceKey (svc.cache.embed prompt) svc.cache.topK (List.ne_nil_of_mem he)
    (fun e' he' => by
      obtain ⟨p, -, hp, -⟩ := hcontent e' he'
      rw [hp]
      exact hdim p prompt)
    (fun h => by
      obtain ⟨x, hx, -⟩ := hnonzero
      rw [h] at hx
      cases hx)
  obtain ⟨hlive, hscore⟩ := InMemoryVectorStore.mem_search np _ _ _ _ _ _ hsearch best List.mem_cons_self
  obtain ⟨p, response, hp, hresponse⟩ := hcontent best.entry hlive
  refine ⟨best, rest, hsearch, le_antisymm ?_ ?_, fun uuid now => ⟨response, ?_⟩⟩
  · rw [hscore, hp]
    exact rowSimilarity_le_one np _ _ (hexact prompt) (hexact p)
  · have hown := hbest e he
    rwa [hembedding, rowSimilarity_self np _ (hexact prompt) hnonzero] at hown
  · rw [hresponse]
    exact ChatCompletionResponse.modelValidate_modelDump pyd uuid now response

/-- **Retention.**  After a MISS stored its answer, and as long as no invalidation removes
it: a request of the same signature and the same prompt whose search runs within the TTL
finds a similarity of one, and is from then on being answered with it or has been, as a
HIT of that similarity, unless it is interrupted from outside. -/
theorem stored_answer_found
    (hthreshold : ∀ policy request, svc.cache.effectiveThreshold (svc.thresholdFor policy request) ≤ 1)
    (hids : IdsUnique run) (i : ℕ) (hi : i < run.len) (rid₀ : RequestId) (t₀ : Task F) (l₀ : CacheLookup F)
    (response : ChatCompletionResponse) (e : CacheEntry F) (hstored : StoredAt run i rid₀ t₀ l₀ response e)
    (hnonzero : ∃ x ∈ svc.cache.embed t₀.request.latestUserPrompt, x ≠ 0) (j : ℕ) (hij : i < j) (hj : j < run.len)
    (hkept : ∀ k, i < k → k < j → (run.act k).evicts e = false) (rid : RequestId) (q : Task F)
    (hq : (run.state j).tasks rid = some q) (hsearched : run.act j = .task rid .searched)
    (hsignature : (svc.requestSignature q.request rid.tenant).namespaceKey =
      (svc.requestSignature t₀.request rid₀.tenant).namespaceKey)
    (hprompt : q.request.latestUserPrompt = t₀.request.latestUserPrompt)
    (hage : (run.state j).now ≤ e.createdAt + e.ttlSeconds) :
    ∃ best, best.score = 1 ∧ (run.state (j + 1)).tasks rid = some { q with phase := .incrementing best } ∧
      (∀ uuid sampled, ∃ s' l cached,
        svc.step np oj pyd (run.state (j + 1)) (.task rid (.incremented uuid sampled)) = some s' ∧
          s'.tasks rid = some { q with phase := .hit l best cached }) ∧
      ∀ k, j < k → k ≤ run.len → ∃ q', (run.state k).tasks rid = some q' ∧
        (q'.phase = .incrementing best ∨
          (∃ l cached, q'.phase = .hit l best cached ∧ l.status = .hit ∧ l.score = 1) ∨
          ∃ m event, j < m ∧ m < k ∧ run.act m = .task rid event ∧ event.interrupts = true) := by
  -- the entry is still there, and unexpired
  obtain ⟨-, -, ttlSeconds, tags, id, createdAt, httl, he⟩ :=
    stored_entry run htasks i (by omega) rid₀ t₀ l₀ response e hstored
  obtain ⟨e₀, he₀, hsame⟩ := present_of_stored run htasks hids i hi rid₀ t₀ l₀ response e hstored j hij (by omega) hkept
  have hns : e₀.namespaceKey = e.namespaceKey := congrArg (·.namespaceKey) hsame
  have hembedding : e₀.embedding = e.embedding := congrArg (·.embedding) hsame
  have hcreated : e₀.createdAt = e.createdAt := congrArg (·.createdAt) hsame
  have httls : e₀.ttlSeconds = e.ttlSeconds := congrArg (·.ttlSeconds) hsame
  have hlive : e₀ ∈ (run.state j).store.liveEntries (run.state j).now e₀.namespaceKey := by
    refine (InMemoryVectorStore.mem_liveEntries _ _ _ _).mpr ⟨he₀, rfl, ?_, ?_⟩
    · rw [httls, he]
      exact httl
    · rw [hcreated, httls]
      linarith
  -- so the request's search finds a similarity of one
  obtain ⟨best, rest, hsearch, hscore, hvalid⟩ := search_own run htasks hstore hdim hexact j (by omega) e₀ hlive
    t₀.request.latestUserPrompt (by rw [hembedding, he]; rfl) hnonzero
  have hfound : svc.search np rid q.request (run.state j).now (run.state j).store = .ok (best :: rest) := by
    unfold search
    rw [hsignature, hprompt]
    rw [hns, he] at hsearch
    exact hsearch
  -- which reaches its threshold
  obtain ⟨⟨m, -, -, hthr⟩, -⟩ := tasksInv run htasks j (by omega) rid q hq
  have hreached : svc.cache.effectiveThreshold q.threshold ≤ best.score := by
    rw [hthr, hscore]
    exact hthreshold _ _
  have hnext := run.next j hj
  rw [hsearched] at hnext
  have hincrementing := svc.step_searched_hit np oj pyd _ _ rid q _ best hnext hq hfound rfl hreached
  refine ⟨best, hscore, hincrementing,
    step_incremented best hvalid _ rid { q with phase := .incrementing best } hincrementing rfl, fun k hjk hk => ?_⟩
  obtain ⟨q'', hq'', hphase⟩ :=
    hit_of_incrementing run best hvalid (j + 1) rid _ hincrementing rfl k hjk hk
  refine ⟨q'', hq'', ?_⟩
  rcases hphase with hinc | ⟨l, cached, hhit⟩ | ⟨m, event, hm, hmk, hact, hint⟩
  · exact Or.inl hinc
  · obtain ⟨-, hinv⟩ := tasksInv run htasks k hk rid q'' hq''
    rw [hhit] at hinv
    obtain ⟨-, hstatus, hl, -⟩ := hinv
    exact Or.inr (Or.inl ⟨l, cached, hhit, hstatus, hl.trans hscore⟩)
  · exact Or.inr (Or.inr ⟨m, event, by omega, hmk, hact, hint⟩)

end

theorem idsUnique_oceanRun : IdsUnique oceanRun := by
  have hdrawn : ∀ i < 12, (match oceanRun.act i with
      | .task _ (.storeEmbedded _) => decide (i = 4)
      | _ => true) = true := by
    decide
  intro i hi j hj rid rid' id h h'
  have hi4 := hdrawn i hi
  have hj4 := hdrawn j hj
  simp only [h, decide_eq_true_eq] at hi4
  simp only [h', decide_eq_true_eq] at hj4
  omega

/-- The second request of the ocean's run, at its search. -/
theorem stored_answer_found_ocean :
    ∃ (q : Task ℚ) (best : ScoredEntry ℚ), best.score = 1 ∧
      (oceanRun.state 10).tasks ⟨"team", 1⟩ = some { q with phase := .incrementing best } := by
  obtain ⟨t, l, response, e, ht, hp, hphase⟩ := exists_upserting ((oceanRun.state 5).tasks ⟨"team", 0⟩)
    (fun t e => t.request.latestUserPrompt == "describe the ocean" && e.createdAt == 1700000000 &&
      e.ttlSeconds == 86400 && decide ((plainService.requestSignature t.request "team").namespaceKey =
        (plainService.requestSignature oceanRequest "team").namespaceKey)) (by decide +kernel)
  have hsearching : ((oceanRun.state 9).tasks ⟨"team", 1⟩).any (fun q =>
      q.request.latestUserPrompt == "describe the ocean" &&
        decide ((plainService.requestSignature q.request "team").namespaceKey =
          (plainService.requestSignature oceanRequest "team").namespaceKey)) = true := by
    decide +kernel
  obtain ⟨q, hq, hquery⟩ := (Option.any_eq_true _ _).mp hsearching
  have hexact : ExactNorm (Numpy.sorting Rat.sqrt) ([1] : List ℚ) := ⟨by decide +kernel, by decide +kernel⟩
  simp only [Bool.and_eq_true, beq_iff_eq, decide_eq_true_eq] at hphase hquery
  obtain ⟨⟨⟨hprompt, hcreated⟩, httl⟩, hns⟩ := hphase
  obtain ⟨best, hscore, hnext, -⟩ := stored_answer_found oceanRun (fun _ => rfl) rfl (fun _ _ => rfl)
    (fun _ => hexact) (fun _ _ => by show (19 / 20 : ℚ) ≤ 1; norm_num) idsUnique_oceanRun 5 (by decide)
    ⟨"team", 0⟩ t l response e ⟨rfl, ht, hp⟩
    ⟨1, List.mem_singleton.mpr rfl, by decide⟩ 9 (by decide) (by decide)
    (fun k h1 h2 => by
      obtain rfl | rfl | rfl : k = 6 ∨ k = 7 ∨ k = 8 := by omega
      · rfl
      · rfl
      · rfl)
    ⟨"team", 1⟩ q hq rfl (hquery.2.trans hns.symm) (hquery.1.trans hprompt.symm)
    (by rw [hcreated, httl]; decide +kernel)
  exact ⟨q, best, hscore, hnext⟩

end ProxyService

end CachingLayer
