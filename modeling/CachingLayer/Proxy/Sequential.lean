import CachingLayer.Proxy.Machine

/-!
# One request alone

The steps of the service agree with the request flow.  A request run by itself, nothing
in between, answers as `complete` does and leaves the same store and log
(`complete_alone`), or as `stream` does and its body after it (`stream_alone`).
-/

namespace CachingLayer

open Text

section
variable {F E : Type}

/-- What a buffered request has returned or raised. -/
def Phase.completion (provider : String) : Phase F → Option (Except PyError (ProxyResult F))
  | .hit l _ cached =>
    some (.ok {
      response := cached, cacheStatus := .hit, similarityScore := l.score, cacheLatencyMs := l.latencyMs
      provider })
  | .missed l (some response) =>
    some (.ok {
      response, cacheStatus := .miss, similarityScore := l.score, cacheLatencyMs := l.latencyMs, provider })
  | .failed e => some (.error e)
  | _ => none

/-- The cache headers of a streaming response, unprinted. -/
def Phase.headers : Phase F → Option (CacheStatus × F × ℚ)
  | .hit l _ _ => some (.hit, l.score, l.latencyMs)
  | .forwarding l _ => some (.miss, l.score, l.latencyMs)
  | _ => none

/-- Ticks, and the request's own actions. -/
def Action.isOf (rid : RequestId) : Action E → Prop
  | .tick .. => True
  | .request rid' .. => rid' = rid
  | .task rid' _ => rid' = rid
  | _ => False

/-- What a run returns or raises. -/
def resultOf {α : Type} (m : ProxyM F α) (w : World F) : Except PyError α :=
  match m.run w with
  | .ok a _ => .ok a
  | .error e _ => .error e

section
variable {α : Type} (m : ProxyM F α) (w w' : World F)

theorem resultOf_ok (a : α) (h : m w = .ok a w') : resultOf m w = .ok a := by
  unfold resultOf EStateM.run; rw [h]

theorem resultOf_error (e : PyError) (h : m w = .error e w') : resultOf m w = .error e := by
  unfold resultOf EStateM.run; rw [h]

theorem worldAfter_ok (a : α) (h : m w = .ok a w') : worldAfter m w = w' := by
  unfold worldAfter EStateM.run; rw [h]

theorem worldAfter_error (e : PyError) (h : m w = .error e w') : worldAfter m w = w' := by
  unfold worldAfter EStateM.run; rw [h]

end

def State.world (s : State F E) : World F := ⟨s.store, s.effects⟩

def State.setTask (s : State F E) (rid : RequestId) (t : Task F) (w : World F) (now perf : ℚ) : State F E :=
  { s with store := w.store, effects := w.effects, now, perf, tasks := Function.update s.tasks rid (some t) }

@[simp] theorem State.setTask_tasks (s : State F E) (rid : RequestId) (t : Task F) (w : World F) (now perf : ℚ) :
    (s.setTask rid t w now perf).tasks rid = some t := Function.update_self rid _ _

@[simp] theorem State.setTask_world (s : State F E) (rid : RequestId) (t : Task F) (w : World F) (now perf : ℚ) :
    (s.setTask rid t w now perf).world = w := rfl

end

theorem truncate_intCast (i : Int) : truncate i = i := by
  unfold truncate
  split <;> simp

namespace ProxyService

section
variable {F E : Type} [Field F] [LinearOrder F] (np : Numpy F) (oj : Orjson) (pyd : Pydantic)
  (svc : ProxyService F E)

/-- From `s` to `s'` with nothing in between but the request. -/
def Alone (rid : RequestId) (s s' : State F E) : Prop :=
  ∃ acts, (∀ a ∈ acts, Action.isOf rid a) ∧ Run.exec (svc.step np oj pyd) s acts = some s'

theorem alone_refl (rid : RequestId) (s : State F E) : svc.Alone np oj pyd rid s s :=
  ⟨[], by simp, rfl⟩

theorem alone_trans (rid : RequestId) (s s' s'' : State F E) (h : svc.Alone np oj pyd rid s s')
    (h' : svc.Alone np oj pyd rid s' s'') : svc.Alone np oj pyd rid s s'' := by
  obtain ⟨acts, hacts, hrun⟩ := h
  obtain ⟨acts', hacts', hrun'⟩ := h'
  refine ⟨acts ++ acts', ?_, ?_⟩
  · intro a ha
    rcases List.mem_append.mp ha with ha | ha
    · exact hacts a ha
    · exact hacts' a ha
  · rw [Run.exec_append, hrun]
    exact hrun'

section
variable (s : State F E) (rid : RequestId)

/-- The clocks are set, and the request comes in. -/
theorem alone_request (streaming : Bool) (request : ChatCompletionRequest) (now perf : ℚ)
    (hnew : s.tasks rid = none) :
    svc.Alone np oj pyd rid s (s.setTask rid {
      streaming, request, threshold := svc.thresholdFor s.policy request, started := perf } s.world now perf) := by
  refine ⟨[.tick now perf, .request rid streaming request], ?_, ?_⟩
  · intro a ha
    simp only [List.mem_cons, List.not_mem_nil, or_false] at ha
    rcases ha with rfl | rfl
    · exact trivial
    · exact rfl
  · rw [Run.exec_cons]
    show Run.exec (svc.step np oj pyd) { s with now, perf } [.request rid streaming request] = _
    rw [Run.exec_cons, svc.step_request_of_new np oj pyd { s with now, perf } rid streaming request hnew]
    rfl

/-- The clocks are set, and the task goes on. -/
theorem alone_advance (t t' : Task F) (w : World F) (now perf now' perf' : ℚ) (event : Event) (op : StoreOp F)
    (effects : List (Effect F))
    (h : svc.advance oj pyd rid t now' perf' (svc.search np rid t.request now' w.store) event =
      some (t', op, effects)) :
    svc.Alone np oj pyd rid (s.setTask rid t w now perf)
      (s.setTask rid t' ⟨op.apply w.store, w.effects ++ effects⟩ now' perf') := by
  refine ⟨[.tick now' perf', .task rid event], ?_, ?_⟩
  · intro a ha
    simp only [List.mem_cons, List.not_mem_nil, or_false] at ha
    rcases ha with rfl | rfl
    · exact trivial
    · exact rfl
  · rw [Run.exec_cons]
    show Run.exec (svc.step np oj pyd) (s.setTask rid t w now' perf') [.task rid event] = _
    rw [Run.exec_cons, svc.step_task_of_advance np oj pyd (s.setTask rid t w now' perf') rid t t' event op effects
      (s.setTask_tasks rid t w now' perf') h]
    show some _ = some _
    unfold State.setTask
    simp only [Function.update_idem]

/-- The task goes on, and does nothing beside. -/
theorem alone_quiet (t t' : Task F) (w : World F) (now perf now' perf' : ℚ) (event : Event)
    (h : svc.advance oj pyd rid t now' perf' (svc.search np rid t.request now' w.store) event =
      some (t', .keep, [])) :
    svc.Alone np oj pyd rid (s.setTask rid t w now perf) (s.setTask rid t' w now' perf') := by
  have hadv := svc.alone_advance np oj pyd s rid t t' w now perf now' perf' event .keep [] h
  rw [List.append_nil] at hadv
  exact hadv

end

/-! ## The lookup -/

/-- The task of a request that came in at `s`. -/
def asked (s : State F E) (streaming : Bool) (request : ChatCompletionRequest) (r : Readings) : Task F where
  streaming := streaming
  request := request
  threshold := svc.thresholdFor s.policy request
  started := r.lookup.started

section
variable (s : State F E) (rid : RequestId) (streaming : Bool) (request : ChatCompletionRequest) (r : Readings)
  (hnew : s.tasks rid = none)
include hnew

theorem alone_searching :
    svc.Alone np oj pyd rid s
      (s.setTask rid { svc.asked s streaming request r with phase := .searching } s.world r.lookup.now
        r.lookup.started) :=
  svc.alone_trans np oj pyd rid _ _ _
    (svc.alone_request np oj pyd s rid streaming request r.lookup.now r.lookup.started hnew)
    (svc.alone_quiet np oj pyd s rid _ _ _ _ _ _ _ .embedded rfl)

theorem alone_lookup_error (e : PyError)
    (h : svc.cache.lookup np s.store (svc.requestSignature request rid.tenant) request.latestUserPrompt
      (svc.thresholdFor s.policy request) r.lookup = .error e) :
    svc.Alone np oj pyd rid s
      (s.setTask rid { svc.asked s streaming request r with phase := .failed e } s.world r.lookup.now
        r.lookup.finished) := by
  have hsearch : svc.search np rid request r.lookup.now s.store = .error e :=
    svc.cache.lookup_error np _ _ _ _ _ e h
  refine svc.alone_trans np oj pyd rid _ _ _ (svc.alone_searching np oj pyd s rid streaming request r hnew)
    (svc.alone_quiet np oj pyd s rid _ _ _ _ _ _ _ .searched ?_)
  show svc.advance oj pyd rid _ _ _ (svc.search np rid request r.lookup.now s.store) .searched = _
  rw [hsearch]
  rfl

section
variable (l : CacheLookup F) (store : InMemoryVectorStore F)
  (h : svc.cache.lookup np s.store (svc.requestSignature request rid.tenant) request.latestUserPrompt
    (svc.thresholdFor s.policy request) r.lookup = .ok (l, store))
include h

theorem alone_lookup_miss (hserved : l.served = none) :
    svc.Alone np oj pyd rid s
      (s.setTask rid
        { svc.asked s streaming request r with
          phase := if streaming then .forwarding l (.new request.model) else .completing l r.lookup.finished }
        ⟨store, s.effects ++ svc.lookupEffects request rid.tenant (svc.thresholdFor s.policy request) l⟩
        r.lookup.now r.lookup.finished) := by
  obtain ⟨found, hsearch, hl, hstore⟩ := svc.cache.lookup_ok np _ _ _ _ _ _ l h
  simp only [hserved] at hstore
  rw [hstore]
  refine svc.alone_trans np oj pyd rid _ _ _ (svc.alone_searching np oj pyd s rid streaming request r hnew)
    (svc.alone_advance np oj pyd s rid _ _ _ _ _ _ _ .searched .keep _ ?_)
  have hsearch' : svc.search np rid request r.lookup.now s.store = .ok found := hsearch
  show svc.advance oj pyd rid _ _ _ (svc.search np rid request r.lookup.now s.store) .searched = _
  rw [hsearch']
  have hserved' : (svc.cache.outcome (svc.thresholdFor s.policy request) found
      ((r.lookup.finished - r.lookup.started) * 1000)).served = none := hl ▸ hserved
  unfold advance
  simp only [asked, hserved', hl]
  rfl

theorem alone_lookup_hit (best : ScoredEntry F) (hserved : l.served = some best) :
    svc.Alone np oj pyd rid s
        (s.setTask rid { svc.asked s streaming request r with phase := .incrementing best } s.world r.lookup.now
          r.lookup.finished) ∧
      store = s.store.incrementHit best.id ∧
      svc.cache.outcome (svc.thresholdFor s.policy request) [best]
        ((r.lookup.finished - r.lookup.started) * 1000) = l := by
  obtain ⟨found, hsearch, hl, hstore⟩ := svc.cache.lookup_ok np _ _ _ _ _ _ l h
  simp only [hserved] at hstore
  have hserved' : (svc.cache.outcome (svc.thresholdFor s.policy request) found
      ((r.lookup.finished - r.lookup.started) * 1000)).served = some best := hl ▸ hserved
  obtain ⟨hhead, -⟩ := (svc.cache.served_outcome _ _ _ _).mp hserved'
  refine ⟨?_, hstore, ?_⟩
  · refine svc.alone_trans np oj pyd rid _ _ _ (svc.alone_searching np oj pyd s rid streaming request r hnew)
      (svc.alone_quiet np oj pyd s rid _ _ _ _ _ _ _ .searched ?_)
    have hsearch' : svc.search np rid request r.lookup.now s.store = .ok found := hsearch
    show svc.advance oj pyd rid _ _ _ (svc.search np rid request r.lookup.now s.store) .searched = _
    rw [hsearch']
    unfold advance
    simp only [asked, hserved']
  · rw [hl, ← svc.cache.outcome_head _ found _ best hhead]
    rfl

theorem alone_hit_error (best : ScoredEntry F) (hserved : l.served = some best) (e : PyError)
    (hvalid : ChatCompletionResponse.modelValidate pyd r.uuid r.now best.entry.response = .error e) :
    svc.Alone np oj pyd rid s
      (s.setTask rid { svc.asked s streaming request r with phase := .failed e }
        ⟨store, s.effects ++ svc.lookupEffects request rid.tenant (svc.thresholdFor s.policy request) l⟩
        r.now r.lookup.finished) := by
  obtain ⟨hfound, rfl, hl⟩ := svc.alone_lookup_hit np oj pyd s rid streaming request r hnew l store h best hserved
  refine svc.alone_trans np oj pyd rid _ _ _ hfound
    (svc.alone_advance np oj pyd s rid _ _ _ _ _ _ _ (.incremented r.uuid r.sampled) (.incrementHit best.id) _ ?_)
  unfold advance
  simp only [asked, hl, truncate_intCast, hvalid]

theorem alone_hit (best : ScoredEntry F) (hserved : l.served = some best) (cached : ChatCompletionResponse)
    (hvalid : ChatCompletionResponse.modelValidate pyd r.uuid r.now best.entry.response = .ok cached) :
    svc.Alone np oj pyd rid s
      (s.setTask rid { svc.asked s streaming request r with phase := .hit l best cached }
        ⟨store, s.effects ++ (svc.lookupEffects request rid.tenant (svc.thresholdFor s.policy request) l ++
          recordSavings request cached :: if streaming then [] else svc.maybeValidate request cached r.sampled)⟩
        r.now r.lookup.finished) := by
  obtain ⟨hfound, rfl, hl⟩ := svc.alone_lookup_hit np oj pyd s rid streaming request r hnew l store h best hserved
  refine svc.alone_trans np oj pyd rid _ _ _ hfound
    (svc.alone_advance np oj pyd s rid _ _ _ _ _ _ _ (.incremented r.uuid r.sampled) (.incrementHit best.id) _ ?_)
  unfold advance
  simp only [asked, hl, truncate_intCast, hvalid]
  rfl

end

end

/-! ## Keeping the response -/

/-- From the response on, a task keeps it as `cacheResponse` does. -/
theorem alone_keep (s : State F E) (rid : RequestId) (t : Task F) (w : World F) (now perf : ℚ)
    (l : CacheLookup F) (response : ChatCompletionResponse) (r : Readings) :
    ∃ now', svc.Alone np oj pyd rid (s.setTask rid (svc.keep t l response) w now perf)
      (s.setTask rid { t with phase := .missed l (some response) }
        ⟨svc.cacheResponse t.request (svc.requestSignature t.request rid.tenant) t.request.latestUserPrompt response
            r w.store, w.effects⟩ now' perf) := by
  unfold keep cacheResponse
  simp only []
  split
  · let entry := svc.entryFor (svc.requestSignature t.request rid.tenant) t.request.latestUserPrompt response
      (svc.resolvePolicy t.request response).1 (svc.resolvePolicy t.request response).2 r.entryId r.createdAt
    have hupsert := svc.alone_advance np oj pyd s rid { t with phase := .upserting l response entry }
      { t with phase := .missed l (some response) } w r.createdAt perf r.createdAt perf .upserted (.upsert entry) []
      rfl
    rw [List.append_nil] at hupsert
    exact ⟨r.createdAt, svc.alone_trans np oj pyd rid _ _ _
      (svc.alone_quiet np oj pyd s rid _ _ w now perf r.createdAt perf (.storeEmbedded r.entryId) rfl) hupsert⟩
  · exact ⟨now, svc.alone_refl np oj pyd rid _⟩

/-! ## Buffered requests -/

/-- **A buffered request alone.** -/
theorem complete_alone (s : State F E) (rid : RequestId) (request : ChatCompletionRequest)
    (upstream : Except PyError ChatCompletionResponse) (r : Readings) (hnew : s.tasks rid = none)
    (hstarted : r.upstreamStarted = r.lookup.finished) :
    ∃ s' t, svc.Alone np oj pyd rid s s' ∧ s'.tasks rid = some t ∧
      t.phase.completion (svc.resolveProvider request) =
        some (resultOf (svc.complete np pyd request rid.tenant s.policy upstream r) s.world) ∧
      s'.world = worldAfter (svc.complete np pyd request rid.tenant s.policy upstream r) s.world := by
  have heq := svc.complete_eq np pyd request rid.tenant s.policy r s.world upstream
  cases hl : svc.cache.lookup np s.world.store (svc.requestSignature request rid.tenant)
    request.latestUserPrompt (svc.thresholdFor s.policy request) r.lookup with
  | error e =>
    rw [hl] at heq
    refine ⟨_, _, svc.alone_lookup_error np oj pyd s rid false request r hnew e hl, State.setTask_tasks .., ?_, ?_⟩
    · rw [resultOf_error _ _ _ _ heq]; rfl
    · rw [worldAfter_error _ _ _ _ heq]; rfl
  | ok ls =>
    obtain ⟨l, store⟩ := ls
    rw [hl] at heq
    cases hserved : l.served with
    | some best =>
      simp only [hserved] at heq
      cases hvalid : ChatCompletionResponse.modelValidate pyd r.uuid r.now best.entry.response with
      | error e =>
        rw [hvalid] at heq
        refine ⟨_, _, svc.alone_hit_error np oj pyd s rid false request r hnew l store hl best hserved e hvalid,
          State.setTask_tasks .., ?_, ?_⟩
        · rw [resultOf_error _ _ _ _ heq]; rfl
        · rw [worldAfter_error _ _ _ _ heq]; rfl
      | ok cached =>
        rw [hvalid] at heq
        refine ⟨_, _, svc.alone_hit np oj pyd s rid false request r hnew l store hl best hserved cached hvalid,
          State.setTask_tasks .., ?_, ?_⟩
        · rw [resultOf_ok _ _ _ _ heq]; rfl
        · rw [worldAfter_ok _ _ _ _ heq, State.setTask_world, ← List.append_assoc]; rfl
    | none =>
      simp only [hserved] at heq
      have hmiss := svc.alone_lookup_miss np oj pyd s rid false request r hnew l store hl hserved
      cases upstream with
      | error e =>
        have hraised := svc.alone_trans np oj pyd rid _ _ _ hmiss (svc.alone_quiet np oj pyd s rid _ _ _ _ _
          r.lookup.now r.lookup.finished (.raised e) rfl)
        refine ⟨_, _, hraised, State.setTask_tasks .., ?_, ?_⟩
        · rw [resultOf_error _ _ _ _ heq]; rfl
        · rw [worldAfter_error _ _ _ _ heq]; rfl
      | ok response =>
        have hcompleted := svc.alone_trans np oj pyd rid _ _ _ hmiss (svc.alone_advance np oj pyd s rid _ _ _ _ _
          r.lookup.now r.upstreamFinished (.completed response) _ _ rfl)
        obtain ⟨now', hkept⟩ := svc.alone_keep np oj pyd s rid _ _ r.lookup.now r.upstreamFinished l response r
        refine ⟨_, _, svc.alone_trans np oj pyd rid _ _ _ hcompleted hkept, State.setTask_tasks .., ?_, ?_⟩
        · rw [resultOf_ok _ _ _ _ heq]; rfl
        · rw [worldAfter_ok _ _ _ _ heq, hstarted]; rfl

/-! ## Streaming requests -/

section
variable (s : State F E) (rid : RequestId) (w : World F) (now perf : ℚ)

/-- A `hit_body` is taken to its end. -/
theorem alone_taken (t : Task F) (l : CacheLookup F) (best : ScoredEntry F) (cached : ChatCompletionResponse)
    (rest : List Bytes) (hphase : t.phase = .hit l best cached) (hstreaming : t.streaming = true)
    (hrest : t.sent ++ rest = responseToSse oj cached) :
    svc.Alone np oj pyd rid (s.setTask rid t w now perf)
      (s.setTask rid { t with sent := responseToSse oj cached } w now perf) := by
  induction rest generalizing t with
  | nil =>
    rw [List.append_nil] at hrest
    rw [← hrest]
    exact svc.alone_refl np oj pyd rid _
  | cons chunk rest ih =>
    have hnext : (responseToSse oj cached)[t.sent.length]? = some chunk := by
      rw [← hrest, List.getElem?_append_right le_rfl, Nat.sub_self]; rfl
    refine svc.alone_trans np oj pyd rid _ _ _
      (svc.alone_quiet np oj pyd s rid t { t with sent := t.sent ++ [chunk] } w now perf now perf .taken ?_)
      (ih { t with sent := t.sent ++ [chunk] } hphase hstreaming (by rw [← hrest]; simp))
    unfold advance
    simp only [hphase, hstreaming, if_true, hnext]
    rfl

/-- A `miss_body` is given chunks. -/
theorem alone_chunks (t : Task F) (l : CacheLookup F) (a : StreamAssembler) (chunks : List Bytes)
    (hphase : t.phase = .forwarding l a) :
    svc.Alone np oj pyd rid (s.setTask rid t w now perf)
      (s.setTask rid
        { t with
          sent := t.sent ++ (forward oj a chunks).1
          phase :=
            match (forward oj a chunks).2 with
            | .error e => .failed e
            | .ok a' => .forwarding l a' } w now perf) := by
  induction chunks generalizing t a with
  | nil =>
    have hsame : { t with sent := t.sent ++ [], phase := .forwarding l a } = t := by
      rw [List.append_nil, ← hphase]
    show svc.Alone np oj pyd rid _ (s.setTask rid { t with sent := t.sent ++ [], phase := .forwarding l a } w now perf)
    rw [hsame]
    exact svc.alone_refl np oj pyd rid _
  | cons chunk chunks ih =>
    unfold forward
    cases hpush : a.push oj chunk with
    | error e =>
      apply svc.alone_quiet np oj pyd s rid _ _ w now perf now perf (.chunk chunk)
      unfold advance
      simp only [hphase, hpush, List.append_nil]
    | ok a' =>
      have hstep := svc.alone_quiet np oj pyd s rid t
        { t with sent := t.sent ++ [chunk], phase := .forwarding l a' } w now perf now perf (.chunk chunk)
        (by unfold advance; simp only [hphase, hpush])
      have hrest := ih { t with sent := t.sent ++ [chunk], phase := .forwarding l a' } a' rfl
      simp only [List.append_assoc, List.singleton_append] at hrest
      exact svc.alone_trans np oj pyd rid _ _ _ hstep hrest

/-- A `miss_body` runs as `missBody` does. -/
theorem alone_missBody (t : Task F) (l : CacheLookup F) (chunks : List Bytes) (fin : StreamEnd) (r : Readings)
    (hphase : t.phase = .forwarding l (.new t.request.model)) (hsent : t.sent = []) :
    ∃ s' t', svc.Alone np oj pyd rid (s.setTask rid t w now perf) s' ∧ s'.tasks rid = some t' ∧
      t'.sent = (svc.missBody oj pyd t.request (svc.requestSignature t.request rid.tenant)
        t.request.latestUserPrompt chunks fin r w).yielded ∧
      s'.world = (svc.missBody oj pyd t.request (svc.requestSignature t.request rid.tenant)
        t.request.latestUserPrompt chunks fin r w).world := by
  have hchunks := svc.alone_chunks np oj pyd s rid w now perf t l _ chunks hphase
  rw [hsent, List.nil_append] at hchunks
  unfold missBody
  generalize forward oj (.new t.request.model) chunks = forwarded at hchunks ⊢
  obtain ⟨yielded, pushed⟩ := forwarded
  cases pushed with
  | error e => exact ⟨_, _, hchunks, State.setTask_tasks .., rfl, rfl⟩
  | ok a =>
    cases fin with
    | raised e =>
      have hend := svc.alone_trans np oj pyd rid _ _ _ hchunks
        (svc.alone_quiet np oj pyd s rid _ _ w now perf now perf (.raised e) rfl)
      exact ⟨_, _, hend, State.setTask_tasks .., rfl, rfl⟩
    | abandoned =>
      have hend := svc.alone_trans np oj pyd rid _ _ _ hchunks
        (svc.alone_quiet np oj pyd s rid _ _ w now perf now perf .abandoned rfl)
      exact ⟨_, _, hend, State.setTask_tasks .., rfl, rfl⟩
    | ended =>
      simp only [] at hchunks ⊢
      split
      · next hc =>
        have hend := svc.alone_trans np oj pyd rid _ _ _ hchunks
          (svc.alone_quiet np oj pyd s rid _ { t with sent := yielded, phase := .missed l none } w now perf r.now perf
            (.ended r.uuid) (by unfold advance; simp only [if_pos hc]))
        exact ⟨_, _, hend, State.setTask_tasks .., rfl, rfl⟩
      · next hc =>
        cases hbuild : a.buildResponse pyd r.uuid r.now with
        | error e =>
          have hend := svc.alone_trans np oj pyd rid _ _ _ hchunks
            (svc.alone_quiet np oj pyd s rid _ { t with sent := yielded, phase := .failed e } w now perf r.now perf
              (.ended r.uuid) (by unfold advance; simp only [if_neg hc, truncate_intCast, hbuild]))
          exact ⟨_, _, hend, State.setTask_tasks .., rfl, rfl⟩
        | ok response =>
          have hbuilt := svc.alone_trans np oj pyd rid _ _ _ hchunks
            (svc.alone_quiet np oj pyd s rid _ (svc.keep { t with sent := yielded } l response) w now perf r.now perf
              (.ended r.uuid) (by unfold advance; simp only [if_neg hc, truncate_intCast, hbuild]; rfl))
          obtain ⟨now', hkept⟩ := svc.alone_keep np oj pyd s rid { t with sent := yielded } w r.now perf l response r
          exact ⟨_, _, svc.alone_trans np oj pyd rid _ _ _ hbuilt hkept, State.setTask_tasks .., rfl, rfl⟩

end

/-- **A streaming request alone.** -/
theorem stream_alone (s : State F E) (rid : RequestId) (request : ChatCompletionRequest) (r : Readings)
    (hnew : s.tasks rid = none) :
    (∀ e w, svc.stream np oj pyd request rid.tenant s.policy r s.world = .error e w →
      ∃ s' t, svc.Alone np oj pyd rid s s' ∧ s'.tasks rid = some t ∧ t.phase = .failed e ∧ s'.world = w) ∧
    ∀ result w, svc.stream np oj pyd request rid.tenant s.policy r s.world = .ok result w →
      ∃ s₁ t₁, svc.Alone np oj pyd rid s s₁ ∧ s₁.tasks rid = some t₁ ∧
        t₁.phase.headers = some (result.cacheStatus, result.similarityScore, result.cacheLatencyMs) ∧
        s₁.world = w ∧
        ∀ chunks fin r₂, ∃ s' t, svc.Alone np oj pyd rid s₁ s' ∧ s'.tasks rid = some t ∧
          t.sent = (svc.runBody oj pyd chunks fin r₂ w result.body).yielded ∧
          s'.world = (svc.runBody oj pyd chunks fin r₂ w result.body).world := by
  rw [stream_eq]
  cases hl : svc.cache.lookup np s.world.store (svc.requestSignature request rid.tenant)
    request.latestUserPrompt (svc.thresholdFor s.policy request) r.lookup with
  | error e =>
    constructor
    · intro e' w h
      obtain ⟨rfl, rfl⟩ := EStateM.Result.error.inj h
      exact ⟨_, _, svc.alone_lookup_error np oj pyd s rid true request r hnew e hl, State.setTask_tasks .., rfl, rfl⟩
    · intro result w h
      cases h
  | ok ls =>
    obtain ⟨l, store⟩ := ls
    cases hserved : l.served with
    | some best =>
      simp only [hserved]
      cases hvalid : ChatCompletionResponse.modelValidate pyd r.uuid r.now best.entry.response with
      | error e =>
        constructor
        · intro e' w h
          obtain ⟨rfl, rfl⟩ := EStateM.Result.error.inj h
          exact ⟨_, _, svc.alone_hit_error np oj pyd s rid true request r hnew l store hl best hserved e hvalid,
            State.setTask_tasks .., rfl, rfl⟩
        · intro result w h
          cases h
      | ok cached =>
        constructor
        · intro e w h
          cases h
        · intro result w h
          obtain ⟨rfl, rfl⟩ := EStateM.Result.ok.inj h
          refine ⟨_, _, svc.alone_hit np oj pyd s rid true request r hnew l store hl best hserved cached hvalid,
            State.setTask_tasks .., rfl, ?_, ?_⟩
          · rw [State.setTask_world, ← List.append_assoc]; rfl
          · intro chunks fin r₂
            refine ⟨_, _, svc.alone_taken np oj pyd s rid _ _ _ _ l best cached (responseToSse oj cached) rfl rfl rfl,
              State.setTask_tasks .., rfl, ?_⟩
            rw [State.setTask_world, ← List.append_assoc]; rfl
    | none =>
      simp only [hserved]
      constructor
      · intro e w h
        cases h
      · intro result w h
        obtain ⟨rfl, rfl⟩ := EStateM.Result.ok.inj h
        refine ⟨_, _, svc.alone_lookup_miss np oj pyd s rid true request r hnew l store hl hserved,
          State.setTask_tasks .., rfl, rfl, ?_⟩
        intro chunks fin r₂
        exact svc.alone_missBody np oj pyd s rid _ _ _ _ l chunks fin r₂ rfl rfl

end

end ProxyService

end CachingLayer
