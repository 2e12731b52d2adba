import CachingLayer.Proxy.Machine

/-!
# Cache soundness over whole runs

What a task knows at each await (`PhaseInv`) and where each entry in the store comes
from, kept by every step under every interleaving.  Together: a HIT serves exactly the
response of an earlier MISS with the same dimensions, from an entry that was in the
store all along, unexpired, and similar enough (`hit_sound`).
-/

namespace CachingLayer

open Text

namespace ProxyService

section
variable {F E : Type} [Field F] [LinearOrder F] {np : Numpy F} {oj : Orjson} {pyd : Pydantic}
  {svc : ProxyService F E} {s₀ : State F E} (run : Run (svc.step np oj pyd) s₀)

/-- The task's request came in before step `n`, and its threshold is what the policy said then. -/
def Started (n : ℕ) (rid : RequestId) (t : Task F) : Prop :=
  ∃ m < n, run.act m = .request rid t.streaming t.request ∧
    t.threshold = svc.thresholdFor (run.state m).policy t.request

/-- The task's search ran before step `n`, with `best` its first match, and `best` reached
the task's threshold. -/
def Found (n : ℕ) (rid : RequestId) (t : Task F) (best : ScoredEntry F) : Prop :=
  ∃ j < n, run.act j = .task rid .searched ∧ Started run j rid t ∧
    (∃ found, svc.search np rid t.request (run.state j).now (run.state j).store = .ok found ∧
      found.head? = some best) ∧
    svc.cache.effectiveThreshold t.threshold ≤ best.score

/-- The upstream produced the response for the task: it answered with it, or the chunks
sent make it up. -/
def Produced (n : ℕ) (rid : RequestId) (t : Task F) (response : ChatCompletionResponse) : Prop :=
  if t.streaming then ∃ uuid now, Assembles oj pyd t.request.model t.sent uuid now response
  else ∃ m < n, run.act m = .task rid (.completed response)

/-- What a task knows at each await. -/
def PhaseInv (n : ℕ) (rid : RequestId) (t : Task F) : Phase F → Prop
  | .embedding | .searching => t.sent = []
  | .incrementing best => Found run n rid t best ∧ t.sent = []
  | .hit l best cached =>
    Found run n rid t best ∧ l.status = .hit ∧ l.score = best.score ∧ t.sent <+: responseToSse oj cached ∧
      ∃ uuid now, ChatCompletionResponse.modelValidate pyd uuid now best.entry.response = .ok cached
  | .completing l _ => l.status = .miss ∧ t.streaming = false
  | .forwarding l a =>
    l.status = .miss ∧ t.streaming = true ∧ (StreamAssembler.new t.request.model).pushAll oj t.sent = .ok a
  | .storing l response ttlSeconds _ => l.status = .miss ∧ Produced run n rid t response ∧ 0 < ttlSeconds
  | .upserting l response entry =>
    l.status = .miss ∧ Produced run n rid t response ∧
      ∃ ttlSeconds tags id createdAt, 0 < ttlSeconds ∧
        entry = svc.entryFor (svc.requestSignature t.request rid.tenant) t.request.latestUserPrompt response
          ttlSeconds tags id createdAt
  | .missed l _ => l.status = .miss
  | _ => True

theorem Started.mono {n n' : ℕ} {rid : RequestId} {t t' : Task F} (h : Started run n rid t) (hn : n ≤ n')
    (hs : t'.streaming = t.streaming) (hr : t'.request = t.request) (ht : t'.threshold = t.threshold) :
    Started run n' rid t' := by
  obtain ⟨m, hm, hact, hthr⟩ := h
  refine ⟨m, by omega, ?_, ?_⟩
  · rw [hs, hr]; exact hact
  · rw [ht, hr]; exact hthr

theorem Found.mono {n n' : ℕ} {rid : RequestId} {t t' : Task F} {best : ScoredEntry F}
    (h : Found run n rid t best) (hn : n ≤ n') (hs : t'.streaming = t.streaming) (hr : t'.request = t.request)
    (ht : t'.threshold = t.threshold) : Found run n' rid t' best := by
  obtain ⟨j, hj, hact, hstarted, hsearch, hthr⟩ := h
  refine ⟨j, by omega, hact, hstarted.mono run le_rfl hs hr ht, ?_, ?_⟩
  · rw [hr]; exact hsearch
  · rw [ht]; exact hthr

theorem Produced.mono {n n' : ℕ} {rid : RequestId} {t t' : Task F} {response : ChatCompletionResponse}
    (h : Produced run n rid t response) (hn : n ≤ n') (hs : t'.streaming = t.streaming)
    (hr : t'.request = t.request) (hsent : t'.sent = t.sent) : Produced run n' rid t' response := by
  unfold Produced at h ⊢
  rw [hs, hr, hsent]
  split at h
  · next hstream => rw [if_pos hstream]; exact h
  · next hstream =>
    obtain ⟨m, hm, hact⟩ := h
    rw [if_neg hstream]
    exact ⟨m, by omega, hact⟩

theorem PhaseInv.mono {n n' : ℕ} {rid : RequestId} {t : Task F} {phase : Phase F}
    (h : PhaseInv run n rid t phase) (hn : n ≤ n') : PhaseInv run n' rid t phase := by
  cases phase with
  | incrementing best => exact ⟨Found.mono run h.1 hn rfl rfl rfl, h.2⟩
  | hit l best cached => exact ⟨Found.mono run h.1 hn rfl rfl rfl, h.2⟩
  | storing l response ttl tags => exact ⟨h.1, Produced.mono run h.2.1 hn rfl rfl rfl, h.2.2⟩
  | upserting l response entry => exact ⟨h.1, Produced.mono run h.2.1 hn rfl rfl rfl, h.2.2⟩
  | embedding => exact h
  | searching => exact h
  | completing l started => exact h
  | forwarding l a => exact h
  | missed l response => exact h
  | failed e => exact trivial
  | abandoned => exact trivial

/-- A response on its way into the cache is one the task produced. -/
theorem phaseInv_keep (n : ℕ) (rid : RequestId) (t : Task F) (l : CacheLookup F)
    (response : ChatCompletionResponse) (hl : l.status = .miss) (h : Produced run n rid t response) :
    PhaseInv run n rid (svc.keep t l response) (svc.keep t l response).phase := by
  rcases svc.keep_cases t l response with ⟨ht, heq⟩ | heq
  · rw [heq]; exact ⟨hl, h, ht⟩
  · rw [heq]; exact hl

/-- **Step.**  What a task knows, from one await to the next. -/
theorem phaseInv_advance (n : ℕ) (rid : RequestId) (t t' : Task F) (event : Event)
    (op : StoreOp F) (effects : List (Effect F)) (hact : run.act n = .task rid event)
    (hstarted : Started run n rid t) (hinv : PhaseInv run n rid t t.phase)
    (h : svc.Advances oj pyd rid t (run.state n).now (run.state n).perf
      (svc.search np rid t.request (run.state n).now (run.state n).store) event t' op effects) :
    PhaseInv run (n + 1) rid t' t'.phase := by
  cases h with
  | embedded hp =>
    rw [hp] at hinv
    exact hinv
  | searchRaised e => exact trivial
  | matched hits best hp hfound hhead hscore =>
    rw [hp] at hinv
    exact ⟨⟨n, by omega, hact, hstarted.mono run le_rfl rfl rfl rfl, ⟨hits, hfound, hhead⟩, hscore⟩, hinv⟩
  | unmatchedStream hits l hp hfound hl hmiss hstream =>
    rw [hp] at hinv
    have hsent : t.sent = [] := hinv
    refine ⟨hmiss, hstream, ?_⟩
    show (StreamAssembler.new t.request.model).pushAll oj t.sent = _
    rw [hsent]
    rfl
  | unmatchedBuffered hits l hp hfound hl hmiss hstream => exact ⟨hmiss, hstream⟩
  | cachedInvalid best uuid sampled e => exact trivial
  | cached best uuid sampled response l hp hl hvalid =>
    rw [hp] at hinv
    obtain ⟨⟨j, hj, hsearched, -, hsearch, hscore⟩, hsent⟩ := id hinv
    have hserved : l.served = some best := by
      rw [hl]; exact (svc.cache.served_outcome _ _ _ _).mpr ⟨rfl, hscore⟩
    have hhit : l.status = .hit := by
      cases hst : l.status with
      | hit => rfl
      | miss =>
        rw [hl] at hst hserved
        rw [(svc.cache.served_outcome_eq_none_iff _ _ _).mpr hst] at hserved
        cases hserved
    refine ⟨Found.mono run hinv.1 (by omega) rfl rfl rfl, hhit, ?_, ?_, uuid, _, hvalid⟩
    · rw [hl] at hserved ⊢
      exact svc.cache.score_outcome _ _ _ _ hserved
    · show t.sent <+: _
      rw [hsent]
      exact List.nil_prefix
  | completed l started response hp =>
    rw [hp] at hinv
    apply phaseInv_keep run (n + 1) rid t l response hinv.1
    unfold Produced
    rw [if_neg (by rw [hinv.2]; decide)]
    exact ⟨n, by omega, hact⟩
  | chunkRaised l a bytes e => exact trivial
  | chunk l a a' bytes hp hpush =>
    rw [hp] at hinv
    refine ⟨hinv.1, hinv.2.1, ?_⟩
    show (StreamAssembler.new t.request.model).pushAll oj (t.sent ++ [bytes]) = .ok a'
    have hsent := hinv.2.2
    unfold StreamAssembler.pushAll at hsent ⊢
    rw [List.foldlM_append, hsent]
    show [bytes].foldlM (StreamAssembler.push oj) a = _
    rw [List.foldlM_cons, hpush]
    rfl
  | incomplete l a uuid hp =>
    rw [hp] at hinv
    exact hinv.1
  | buildRaised l a uuid e => exact trivial
  | built l a uuid response hp hc hbuild =>
    rw [hp] at hinv
    apply phaseInv_keep run (n + 1) rid t l response hinv.1
    unfold Produced
    rw [if_pos hinv.2.1]
    exact ⟨uuid, _, a, hinv.2.2, (completed_iff oj t.sent _ a hinv.2.2).mp hc, hbuild⟩
  | storeEmbedded l response ttlSeconds tags id hp =>
    rw [hp] at hinv
    exact ⟨hinv.1, Produced.mono run hinv.2.1 (by omega) rfl rfl rfl, ttlSeconds, tags, id, _, hinv.2.2, rfl⟩
  | upserted l response entry hp =>
    rw [hp] at hinv
    exact hinv.1
  | taken l best response chunk hp hstream hchunk =>
    simp only [hp] at hinv ⊢
    obtain ⟨hfound, hhit, hscore, hsent, hvalid⟩ := hinv
    obtain ⟨hlen, rfl⟩ := List.getElem?_eq_some_iff.mp hchunk
    exact ⟨Found.mono run hfound (by omega) rfl rfl rfl, hhit, hscore, List.concat_get_prefix hsent hlen, hvalid⟩
  | raised e => exact trivial
  | abandoned => exact trivial

/-- What holds of every task there is. -/
def TasksInv (n : ℕ) : Prop :=
  ∀ rid t, (run.state n).tasks rid = some t → Started run n rid t ∧ PhaseInv run n rid t t.phase

/-- **Run.** -/
theorem tasksInv (h0 : ∀ rid, s₀.tasks rid = none) : ∀ n ≤ run.len, TasksInv run n := by
  refine run.inv _ ?_ ?_
  · intro rid t ht
    rw [run.init, h0 rid] at ht
    cases ht
  · intro n hn ih rid t' ht'
    rcases svc.step_tasks np oj pyd _ _ _ (run.next n hn) rid t' ht' with
      hold | ⟨streaming, request, hact, -, rfl⟩ | ⟨t, event, op, effects, hact, ht, hadv⟩
    · obtain ⟨hstarted, hphase⟩ := ih rid t' hold
      exact ⟨Started.mono run hstarted (by omega) rfl rfl rfl, PhaseInv.mono run hphase (by omega)⟩
    · exact ⟨⟨n, by omega, hact, rfl⟩, rfl⟩
    · obtain ⟨hstarted, hphase⟩ := ih rid t ht
      obtain ⟨hs, hr, hthr⟩ := Advances.request oj pyd svc rid t t' _ _ _ event op effects hadv
      exact ⟨Started.mono run hstarted (by omega) hs hr hthr,
        phaseInv_advance run n rid t t' event op effects hact hstarted hphase hadv⟩

/-! ## Where entries come from -/

/-- Step `n` is a MISS putting its entry into the store. -/
def StoredAt (n : ℕ) (rid : RequestId) (t : Task F) (l : CacheLookup F) (response : ChatCompletionResponse)
    (entry : CacheEntry F) : Prop :=
  run.act n = .task rid .upserted ∧ (run.state n).tasks rid = some t ∧ t.phase = .upserting l response entry

/-- A record is in the store: its entry, hits apart. -/
def Present (store : InMemoryVectorStore F) (entry : CacheEntry F) : Prop :=
  ∃ e ∈ store.items, e.SameRecord entry

/-- **Step.**  A record gets into the store by a MISS putting it there. -/
theorem present_next (n : ℕ) (hn : n < run.len) (entry : CacheEntry F)
    (h : Present (run.state (n + 1)).store entry) :
    Present (run.state n).store entry ∨
      ∃ rid t l response e, StoredAt run n rid t l response e ∧ e.SameRecord entry := by
  obtain ⟨e, he, hsame⟩ := h
  rcases svc.step_entries np oj pyd _ _ _ (run.next n hn) e he with
    ⟨e', he', hsame'⟩ | ⟨rid, t, l, response, hact, ht, hp⟩
  · exact Or.inl ⟨e', he', hsame'.trans hsame⟩
  · exact Or.inr ⟨rid, t, l, response, e, ⟨hact, ht, hp⟩, hsame⟩

/-! ## Soundness -/

/-- The signatures of the requests that came in. -/
def signatures : Set RequestSignature :=
  {s | ∃ m < run.len, ∃ rid streaming request, run.act m = .request rid streaming request ∧
    s = svc.requestSignature request rid.tenant}

theorem mem_signatures {n : ℕ} (hn : n ≤ run.len) {rid : RequestId} {t : Task F} (h : Started run n rid t) :
    svc.requestSignature t.request rid.tenant ∈ signatures run := by
  obtain ⟨m, hm, hact, -⟩ := h
  exact ⟨m, by omega, rid, t.streaming, t.request, hact, rfl⟩

/-- What backs an answer `cached` with score `score` to the request `q` of `rid`, which
searched at step `j`: the MISS `q'` of `rid'`, whose own response `cached` went into the
store at step `i` as the entry `e`. -/
structure Backs (i j : ℕ) (rid rid' : RequestId) (q q' : Task F) (score : F) (cached : ChatCompletionResponse)
    (l' : CacheLookup F) (e : CacheEntry F) : Prop where
  earlier : i < j
  searched : run.act j = .task rid .searched
  started : Started run j rid q
  stored : StoredAt run i rid' q' l' cached e
  missed : l'.status = .miss
  produced : Produced run i rid' q' cached
  dimensions : (svc.requestSignature q.request rid.tenant).SameDimensions
    (svc.requestSignature q'.request rid'.tenant)
  /-- In the store when `q` searched, and never out of it since it was stored. -/
  present : ∀ k, i < k → k ≤ j → Present (run.state k).store e
  ttl : 0 < e.ttlSeconds
  age : (run.state j).now - e.createdAt ≤ e.ttlSeconds
  similarity : score = rowSimilarity np (svc.cache.embed q.request.latestUserPrompt)
    (svc.cache.embed q'.request.latestUserPrompt)
  threshold : svc.cache.effectiveThreshold q.threshold ≤ score

section
variable (htasks : ∀ rid, s₀.tasks rid = none) (hstore : s₀.store.items = [])

include hstore in
/-- Every entry in the store was put there by a MISS, and has been there since. -/
theorem stored_of_mem (n : ℕ) (hn : n ≤ run.len) (entry : CacheEntry F)
    (hmem : entry ∈ (run.state n).store.items) :
    ∃ i < n, (∃ rid t l response e, StoredAt run i rid t l response e ∧ e.SameRecord entry) ∧
      ∀ k, i < k → k ≤ n → Present (run.state k).store entry := by
  refine run.since (fun s entry => Present s.store entry)
    (fun n entry => ∃ rid t l response e, StoredAt run n rid t l response e ∧ e.SameRecord entry)
    ?_ (fun n hn entry => present_next run n hn entry) n hn entry ⟨entry, hmem, rfl⟩
  rintro entry ⟨e, he, -⟩
  rw [hstore] at he
  cases he

include htasks

/-- What a MISS stores: its own response, under a positive TTL. -/
theorem stored_entry (i : ℕ) (hi : i ≤ run.len) (rid : RequestId) (t : Task F) (l : CacheLookup F)
    (response : ChatCompletionResponse) (e : CacheEntry F) (h : StoredAt run i rid t l response e) :
    l.status = .miss ∧ Produced run i rid t response ∧
      ∃ ttlSeconds tags id createdAt, 0 < ttlSeconds ∧
        e = svc.entryFor (svc.requestSignature t.request rid.tenant) t.request.latestUserPrompt response
          ttlSeconds tags id createdAt := by
  obtain ⟨-, hphase⟩ := tasksInv run htasks i hi rid t h.2.1
  rw [h.2.2] at hphase
  exact hphase

include hstore

/-- What a search found, and a body can be read from, is backed by a MISS. -/
theorem backs_of_found (hcol : CollisionFree (signatures run)) (n : ℕ) (hn : n ≤ run.len) (rid : RequestId)
    (q : Task F) (best : ScoredEntry F) (hfound : Found run n rid q best) (uuid : String) (now : Int)
    (cached : ChatCompletionResponse)
    (hvalid : ChatCompletionResponse.modelValidate pyd uuid now best.entry.response = .ok cached) :
    ∃ i j rid' q' l' e, j < n ∧ Backs run i j rid rid' q q' best.score cached l' e := by
  obtain ⟨j, hj, hsearched, hstarted, ⟨found, hfound, hhead⟩, hthr⟩ := hfound
  -- the search's best match was a live entry of the request's namespace
  obtain ⟨hlive, hsim⟩ := InMemoryVectorStore.mem_search np _ _ _ _ _ found hfound best
    (List.mem_of_mem_head? hhead)
  obtain ⟨hmem, hns, httl, hage⟩ := (InMemoryVectorStore.mem_liveEntries _ _ _ _).mp hlive
  -- it was put there by a MISS, and stayed
  obtain ⟨i, hi, ⟨rid', q', l', response, e, hstored, hsame⟩, hpresent⟩ :=
    stored_of_mem run hstore j (by omega) best.entry hmem
  obtain ⟨hmiss, hproduced, ttlSeconds, tags, id, createdAt, httl', he⟩ :=
    stored_entry run htasks i (by omega) rid' q' l' response e hstored
  obtain ⟨hstarted', -⟩ := tasksInv run htasks i (by omega) rid' q' hstored.2.1
  have hns' : e.namespaceKey = best.entry.namespaceKey := congrArg (·.namespaceKey) hsame
  have hembedding : e.embedding = best.entry.embedding := congrArg (·.embedding) hsame
  have hresponse : e.response = best.entry.response := congrArg (·.response) hsame
  have hcreated : e.createdAt = best.entry.createdAt := congrArg (·.createdAt) hsame
  have httls : e.ttlSeconds = best.entry.ttlSeconds := congrArg (·.ttlSeconds) hsame
  -- what the entry holds is what the MISS was answered
  have hdump : e.response = response.modelDump := by rw [he]; rfl
  obtain rfl : response = cached := by
    rw [← hresponse, hdump, ChatCompletionResponse.modelValidate_modelDump] at hvalid
    exact Except.ok.inj hvalid
  have hkey : (svc.requestSignature q.request rid.tenant).namespaceKey =
      (svc.requestSignature q'.request rid'.tenant).namespaceKey := by
    rw [← hns, ← hns', he]; rfl
  have hpair : ({svc.requestSignature q.request rid.tenant, svc.requestSignature q'.request rid'.tenant} :
      Set RequestSignature) ⊆ signatures run := by
    rintro s (rfl | rfl)
    · exact mem_signatures run (by omega) hstarted
    · exact mem_signatures run (by omega) hstarted'
  refine ⟨i, j, rid', q', l', e, hj, {
    earlier := hi
    searched := hsearched
    started := hstarted
    stored := hstored
    missed := hmiss
    produced := hproduced
    dimensions := RequestSignature.namespaceKey_inj _ _ (hcol.mono hpair) hkey
    present := ?_
    ttl := by rw [httls]; exact httl
    age := by rw [httls, hcreated]; exact hage
    similarity := ?_
    threshold := hthr }⟩
  · intro k hik hkj
    obtain ⟨e', he', hsame'⟩ := hpresent k hik hkj
    exact ⟨e', he', hsame'.trans hsame.symm⟩
  · rw [hsim, ← hembedding, he]
    rfl

/-- A task answered from the cache is backed by a MISS. -/
theorem backs_of_hit (hcol : CollisionFree (signatures run)) (n : ℕ) (hn : n ≤ run.len) (rid : RequestId)
    (q : Task F) (hq : (run.state n).tasks rid = some q) (l : CacheLookup F) (best : ScoredEntry F)
    (cached : ChatCompletionResponse) (hhit : q.phase = .hit l best cached) :
    ∃ i j rid' q' l' e, j < n ∧ Backs run i j rid rid' q q' l.score cached l' e := by
  obtain ⟨-, hphase⟩ := tasksInv run htasks n hn rid q hq
  rw [hhit] at hphase
  obtain ⟨hfound, -, hscore, -, uuid, now, hvalid⟩ := hphase
  rw [hscore]
  exact backs_of_found run htasks hstore hcol n hn rid q best hfound uuid now cached hvalid

end

/-- **Cache soundness.**  In every state of every run, a task answered from the cache is
backed by a MISS, and what its body has sent is the start of that MISS's response. -/
theorem hit_sound (htasks : ∀ rid, s₀.tasks rid = none) (hstore : s₀.store.items = [])
    (hcol : CollisionFree (signatures run)) (n : ℕ) (hn : n ≤ run.len) (rid : RequestId) (q : Task F)
    (hq : (run.state n).tasks rid = some q) (l : CacheLookup F) (best : ScoredEntry F)
    (cached : ChatCompletionResponse) (hhit : q.phase = .hit l best cached) :
    l.status = .hit ∧ q.sent <+: responseToSse oj cached ∧
      ∃ i j rid' q' l' e, j < n ∧ Backs run i j rid rid' q q' l.score cached l' e := by
  obtain ⟨-, hphase⟩ := tasksInv run htasks n hn rid q hq
  rw [hhit] at hphase
  obtain ⟨-, hstatus, -, hsent, -⟩ := hphase
  exact ⟨hstatus, hsent, backs_of_hit run htasks hstore hcol n hn rid q hq l best cached hhit⟩

end

/-! ## A run -/

/-- The signatures of a run whose requests share one. -/
theorem collisionFree_ofExec {F E : Type} [Field F] [LinearOrder F] {np : Numpy F} {oj : Orjson} {pyd : Pydantic}
    {svc : ProxyService F E} {s₀ s' : State F E} (acts : List (Action E))
    (h : Run.exec (svc.step np oj pyd) s₀ acts = some s') (s : RequestSignature)
    (hall : ∀ rid streaming request, Action.request rid streaming request ∈ acts →
      svc.requestSignature request rid.tenant = s) :
    CollisionFree (insert s (signatures (.ofExec _ _ _ acts h))) := by
  have hone : ∀ t ∈ insert s (signatures (.ofExec _ _ _ acts h)), t = s := by
    rintro t (rfl | ⟨m, hm, rid, streaming, request, hact, rfl⟩)
    · rfl
    · have hmem := Run.act_mem_ofExec _ s₀ s' acts h m hm
      rw [hact] at hmem
      exact hall rid streaming request hmem
  refine .of_sameDimensions fun t ht u hu => ?_
  rw [hone t ht, hone u hu]
  exact ⟨rfl, rfl, rfl, rfl, rfl, rfl⟩

theorem collisionFree_signatures_ofExec {F E : Type} [Field F] [LinearOrder F] {np : Numpy F} {oj : Orjson}
    {pyd : Pydantic} {svc : ProxyService F E} {s₀ s' : State F E} (acts : List (Action E))
    (h : Run.exec (svc.step np oj pyd) s₀ acts = some s') (s : RequestSignature)
    (hall : ∀ rid streaming request, Action.request rid streaming request ∈ acts →
      svc.requestSignature request rid.tenant = s) :
    CollisionFree (signatures (.ofExec _ _ _ acts h)) :=
  (collisionFree_ofExec acts h s hall).mono (Set.subset_insert _ _)

/-- A buffered request, and a streaming one after it. -/
def oceanActions : List (Action Unit) := [
  .request ⟨"team", 0⟩ false oceanRequest,
  .task ⟨"team", 0⟩ .embedded,
  .task ⟨"team", 0⟩ .searched,
  .task ⟨"team", 0⟩ (.completed framedText),
  .task ⟨"team", 0⟩ (.storeEmbedded someReadings.entryId),
  .task ⟨"team", 0⟩ .upserted,
  .request ⟨"team", 1⟩ true oceanRequest,
  .tick 1700000060 60,
  .task ⟨"team", 1⟩ .embedded,
  .task ⟨"team", 1⟩ .searched,
  .task ⟨"team", 1⟩ (.incremented someReadings.uuid false),
  .task ⟨"team", 1⟩ .taken]

theorem oceanActions_exec :
    (Run.exec (plainService.step (.sorting Rat.sqrt) framedCodec .strict) plainStart oceanActions).isSome := by
  decide +kernel

def oceanRun : Run (plainService.step (.sorting Rat.sqrt) framedCodec .strict) plainStart :=
  .ofExec _ _ _ oceanActions (Option.some_get oceanActions_exec).symm

theorem oceanActions_signature (rid : RequestId) (streaming : Bool) (request : ChatCompletionRequest)
    (hmem : Action.request rid streaming request ∈ oceanActions) :
    plainService.requestSignature request rid.tenant = plainService.requestSignature oceanRequest "team" := by
  simp only [oceanActions, List.mem_cons, Action.request.injEq, reduceCtorEq, List.not_mem_nil, or_false,
    false_or] at hmem
  obtain ⟨rfl, -, rfl⟩ | ⟨rfl, -, rfl⟩ := hmem <;> rfl

theorem collisionFree_oceanRun : CollisionFree (signatures oceanRun) :=
  collisionFree_signatures_ofExec oceanActions _ _ oceanActions_signature

/-- The second request of the run is answered from the cache, and its body is under way. -/
theorem oceanRun_hit : ∃ q l best cached, (oceanRun.state 12).tasks ⟨"team", 1⟩ = some q ∧
    q.phase = .hit l best cached ∧ q.sent.length = 1 := by
  obtain ⟨q, l, best, cached, hq, hp, hlen⟩ := exists_hit ((oceanRun.state 12).tasks ⟨"team", 1⟩)
    (fun q _ => q.sent.length == 1) (by decide +kernel)
  exact ⟨q, l, best, cached, hq, hp, beq_iff_eq.mp hlen⟩

theorem hit_sound_ocean : ∃ q score cached, (oceanRun.state 12).tasks ⟨"team", 1⟩ = some q ∧
    q.sent.length = 1 ∧ q.sent <+: responseToSse framedCodec cached ∧
      ∃ i j rid' q' l' e, j < 12 ∧ Backs oceanRun i j ⟨"team", 1⟩ rid' q q' score cached l' e := by
  obtain ⟨q, l, best, cached, hq, hp, hlen⟩ := oceanRun_hit
  obtain ⟨-, hsent, hbacked⟩ := hit_sound oceanRun (fun _ => rfl) rfl collisionFree_oceanRun 12 le_rfl ⟨"team", 1⟩
    q hq l best cached hp
  exact ⟨q, l.score, cached, hq, hlen, hsent, hbacked⟩

end ProxyService

end CachingLayer
