import CachingLayer.Cache.SemanticCache
import CachingLayer.Proxy.Reassembly
import CachingLayer.Proxy.Wire

/-!
# Proxy service

The request flow behind `/v1/chat/completions`, one request at a time: `complete` for
buffered requests, `stream` and its bodies for streaming ones.  What the outside says
during a request (clocks, `uuid4`, the sampling decision, the upstream's answer) is
an argument; what the proxy does beside its answer (metrics, near misses, validation
tasks) is a log of `Effect`s.

A MISS adds one entry when the generation is whole and the policy wants it kept, and
none otherwise (`miss_adds`).
-/

namespace CachingLayer

open Text

inductive Effect (F : Type)
  | recordLookup (status : CacheStatus) (provider model : String) (score : F) (latencyMs : ℚ)
  | nearMiss (score threshold : F) (namespaceKey prompt : String)
  | recordSavings (model : String) (promptTokens completionTokens : Int)
  | recordProviderLatency (provider : String) (latencyMs : ℚ)
  | validate (request : ChatCompletionRequest) (cached : ChatCompletionResponse)

structure World (F : Type) where
  store : InMemoryVectorStore F
  effects : List (Effect F) := []

abbrev ProxyM (F : Type) := EStateM PyError (World F)

def emit {F : Type} (effects : List (Effect F)) : ProxyM F Unit :=
  modify fun w => { w with effects := w.effects ++ effects }

/-- The world a run leaves, whether it returns or raises. -/
def worldAfter {F α : Type} (m : ProxyM F α) (w : World F) : World F :=
  match m.run w with
  | .ok _ w' => w'
  | .error _ w' => w'

/-- What the outside says during one request. -/
structure Readings where
  lookup : LookupReadings
  /-- `uuid4` and `int(time.time())` in the response models' default factories. -/
  uuid : String
  now : Int
  upstreamStarted : ℚ
  upstreamFinished : ℚ
  /-- The new cache entry's `id` and `created_at`. -/
  entryId : String
  createdAt : ℚ
  /-- `should_validate()`. -/
  sampled : Bool

structure ProxyResult (F : Type) where
  response : ChatCompletionResponse
  cacheStatus : CacheStatus
  similarityScore : F
  cacheLatencyMs : ℚ
  provider : String

inductive StreamBody
  /-- `hit_body`, over the chunks of a cached response. -/
  | hit (chunks : List Bytes)
  /-- `miss_body`, with what it closes over. -/
  | miss (request : ChatCompletionRequest) (signature : RequestSignature) (prompt : String)

/-- The headers unprinted. -/
structure StreamResult (F : Type) where
  similarityScore : F
  cacheLatencyMs : ℚ
  provider : String
  body : StreamBody
  cacheStatus : CacheStatus

/-- How an upstream stream goes on after the chunks it gave: it ends, it raises, or
the client is gone after the last one. -/
inductive StreamEnd
  | ended
  | raised (e : PyError)
  | abandoned
deriving DecidableEq

/-- A body run: what the client got, how it ended, what it left. -/
structure BodyRun (F : Type) where
  yielded : List Bytes
  result : Except PyError Unit
  world : World F

/-- `E` is the state a threshold policy reads. -/
structure ProxyService (F E : Type) where
  cache : SemanticCache F
  resolveProvider : ChatCompletionRequest → String
  defaultTtlSeconds : Int := 86400
  ttlPolicy : Option (ChatCompletionRequest → ChatCompletionResponse → Int × List String) := none
  thresholdPolicy : Option (E → ChatCompletionRequest → Option F) := none
  hasNearMissTracker : Bool := false
  hasValidator : Bool := false

namespace ProxyService

section
variable {F E : Type} (svc : ProxyService F E)

/-- `_signature`. -/
def signature (request : ChatCompletionRequest) (tenant provider : String) : RequestSignature where
  model := request.model
  provider := provider
  systemPrompt := request.systemPrompt
  temperature := request.temperature
  maxTokens := request.maxTokens
  tenant := tenant

/-- The signature a request is looked up and stored under. -/
def requestSignature (request : ChatCompletionRequest) (tenant : String) : RequestSignature :=
  signature request tenant (svc.resolveProvider request)

def thresholdFor (policy : E) (request : ChatCompletionRequest) : Option F :=
  match svc.thresholdPolicy with
  | some f => f policy request
  | none => none

def resolvePolicy (request : ChatCompletionRequest) (response : ChatCompletionResponse) :
    Int × List String :=
  match svc.ttlPolicy with
  | some f => f request response
  | none => (svc.defaultTtlSeconds, request.cacheTags.getD [])

/-- `_record_near_miss`. -/
def recordNearMiss (l : CacheLookup F) (signature : RequestSignature) (prompt : String)
    (threshold : Option F) : List (Effect F) :=
  if svc.hasNearMissTracker ∧ l.nearMiss then
    [.nearMiss l.score (svc.cache.effectiveThreshold threshold) signature.namespaceKey prompt]
  else []

/-- What a request logs once its lookup is back. -/
def lookupEffects (request : ChatCompletionRequest) (tenant : String) (threshold : Option F)
    (l : CacheLookup F) : List (Effect F) :=
  .recordLookup l.status (svc.resolveProvider request) request.model l.score l.latencyMs ::
    svc.recordNearMiss l (svc.requestSignature request tenant) request.latestUserPrompt threshold

def recordSavings (request : ChatCompletionRequest) (cached : ChatCompletionResponse) : Effect F :=
  .recordSavings request.model cached.usage.promptTokens cached.usage.completionTokens

/-- `_maybe_validate`. -/
def maybeValidate (request : ChatCompletionRequest) (cached : ChatCompletionResponse) (sampled : Bool) :
    List (Effect F) :=
  if svc.hasValidator ∧ sampled then [.validate request cached] else []

def providerLatency (request : ChatCompletionRequest) (started finished : ℚ) : Effect F :=
  .recordProviderLatency (svc.resolveProvider request) ((finished - started) * 1000)

/-- The entry a response is kept as. -/
def entryFor (signature : RequestSignature) (prompt : String) (response : ChatCompletionResponse)
    (ttlSeconds : Int) (tags : List String) (id : String) (createdAt : ℚ) : CacheEntry F :=
  svc.cache.newEntry signature prompt response.modelDump ttlSeconds tags response.usage.promptTokens
    response.usage.completionTokens id createdAt

/-- An entry carries the signature its namespace is made from. -/
theorem entryFor_signature (signature : RequestSignature) (prompt : String) (response : ChatCompletionResponse)
    (ttlSeconds : Int) (tags : List String) (id : String) (createdAt : ℚ) :
    (svc.entryFor signature prompt response ttlSeconds tags id createdAt).namespaceKey = signature.namespaceKey ∧
      (svc.entryFor signature prompt response ttlSeconds tags id createdAt).model = signature.model ∧
      (svc.entryFor signature prompt response ttlSeconds tags id createdAt).systemPromptHash =
        signature.systemPromptHash :=
  ⟨rfl, rfl, rfl⟩

/-- The policy, and `store_response` when its TTL is positive. -/
def cacheResponse (request : ChatCompletionRequest) (signature : RequestSignature) (prompt : String)
    (response : ChatCompletionResponse) (r : Readings) (store : InMemoryVectorStore F) :
    InMemoryVectorStore F :=
  let policy := svc.resolvePolicy request response
  if policy.1 > 0 then
    store.upsert (svc.entryFor signature prompt response policy.1 policy.2 r.entryId r.createdAt)
  else store

theorem cacheResponse_items (request : ChatCompletionRequest) (signature : RequestSignature)
    (prompt : String) (response : ChatCompletionResponse) (r : Readings) (store : InMemoryVectorStore F)
    (hfresh : r.entryId ∉ store.items.map CacheEntry.id) :
    (svc.cacheResponse request signature prompt response r store).items =
      store.items ++
        if 0 < (svc.resolvePolicy request response).1 then
          [svc.entryFor signature prompt response (svc.resolvePolicy request response).1
            (svc.resolvePolicy request response).2 r.entryId r.createdAt]
        else [] := by
  unfold cacheResponse
  by_cases h : 0 < (svc.resolvePolicy request response).1
  · rw [if_pos h, if_pos h]
    exact Keyed.items_put_of_notMem store _ hfresh
  · rw [if_neg h, if_neg h, List.append_nil]

end

/-! ## Requests -/

section
variable {F E : Type} [Field F] [LinearOrder F] (np : Numpy F) (oj : Orjson) (pyd : Pydantic)
  (svc : ProxyService F E)

/-- The cache's lookup, on the store of the world. -/
def lookup (request : ChatCompletionRequest) (tenant : String) (threshold : Option F) (r : Readings) :
    ProxyM F (CacheLookup F) := do
  let (l, store) ← MonadExcept.ofExcept (svc.cache.lookup np (← get).store
    (svc.requestSignature request tenant) request.latestUserPrompt threshold r.lookup)
  modify fun w => { w with store }
  return l

def complete (request : ChatCompletionRequest) (tenant : String) (policy : E)
    (upstream : Except PyError ChatCompletionResponse) (r : Readings) : ProxyM F (ProxyResult F) := do
  let provider := svc.resolveProvider request
  let signature := svc.requestSignature request tenant
  let prompt := request.latestUserPrompt
  let threshold := svc.thresholdFor policy request
  let l ← svc.lookup np request tenant threshold r
  emit (svc.lookupEffects request tenant threshold l)
  match l.served with
  | some best =>
    let cached ← MonadExcept.ofExcept (ChatCompletionResponse.modelValidate pyd r.uuid r.now best.entry.response)
    emit (recordSavings request cached :: svc.maybeValidate request cached r.sampled)
    return {
      response := cached, cacheStatus := .hit, similarityScore := l.score
      cacheLatencyMs := l.latencyMs, provider }
  | none =>
    let response ← MonadExcept.ofExcept upstream
    emit [svc.providerLatency request r.upstreamStarted r.upstreamFinished]
    modify fun w => { w with store := svc.cacheResponse request signature prompt response r w.store }
    return {
      response, cacheStatus := .miss, similarityScore := l.score
      cacheLatencyMs := l.latencyMs, provider }

def stream (request : ChatCompletionRequest) (tenant : String) (policy : E) (r : Readings) :
    ProxyM F (StreamResult F) := do
  let provider := svc.resolveProvider request
  let signature := svc.requestSignature request tenant
  let prompt := request.latestUserPrompt
  let threshold := svc.thresholdFor policy request
  let l ← svc.lookup np request tenant threshold r
  emit (svc.lookupEffects request tenant threshold l)
  match l.served with
  | some best =>
    let cached ← MonadExcept.ofExcept (ChatCompletionResponse.modelValidate pyd r.uuid r.now best.entry.response)
    emit [recordSavings request cached]
    return {
      similarityScore := l.score, cacheLatencyMs := l.latencyMs, provider
      body := .hit (responseToSse oj cached), cacheStatus := .hit }
  | none =>
    return {
      similarityScore := l.score, cacheLatencyMs := l.latencyMs, provider
      body := .miss request signature prompt, cacheStatus := .miss }

end

/-! ## Bodies -/

section
variable {F E : Type} (oj : Orjson) (pyd : Pydantic) (svc : ProxyService F E)

/-- The loop of `miss_body`: a chunk is pushed, then yielded. -/
def forward (a : StreamAssembler) : List Bytes → List Bytes × Except PyError StreamAssembler
  | [] => ([], .ok a)
  | chunk :: chunks =>
    match a.push oj chunk with
    | .error e => ([], .error e)
    | .ok a' => (chunk :: (forward a' chunks).1, (forward a' chunks).2)

def missBody (request : ChatCompletionRequest) (signature : RequestSignature) (prompt : String)
    (chunks : List Bytes) (fin : StreamEnd) (r : Readings) (w : World F) : BodyRun F :=
  let (yielded, pushed) := forward oj (.new request.model) chunks
  match pushed, fin with
  | .error e, _ => { yielded, result := .error e, world := w }
  | .ok _, .raised e => { yielded, result := .error e, world := w }
  | .ok _, .abandoned => { yielded, result := .ok (), world := w }
  | .ok assembler, .ended =>
    if ¬ assembler.parts.completed then { yielded, result := .ok (), world := w }
    else
      match assembler.buildResponse pyd r.uuid r.now with
      | .error e => { yielded, result := .error e, world := w }
      | .ok response =>
        { yielded, result := .ok ()
          world := { w with store := svc.cacheResponse request signature prompt response r w.store } }

/-- A body consumed against `chunks` of the upstream. -/
def runBody (chunks : List Bytes) (fin : StreamEnd) (r : Readings) (w : World F) : StreamBody → BodyRun F
  | .hit sse => { yielded := sse, result := .ok (), world := w }
  | .miss request signature prompt => svc.missBody oj pyd request signature prompt chunks fin r w

theorem forward_snd (a : StreamAssembler) (chunks : List Bytes) :
    (forward oj a chunks).2 = a.pushAll oj chunks := by
  induction chunks generalizing a with
  | nil => rfl
  | cons c chunks ih =>
    unfold forward StreamAssembler.pushAll
    rw [List.foldlM_cons]
    cases a.push oj c with
    | error e => rfl
    | ok a' => exact ih a'

/-- Chunks are yielded up to the first one whose push raises. -/
theorem forward_fst (a a' : StreamAssembler) (chunks : List Bytes) (h : a.pushAll oj chunks = .ok a') :
    (forward oj a chunks).1 = chunks := by
  induction chunks generalizing a with
  | nil => rfl
  | cons c chunks ih =>
    unfold StreamAssembler.pushAll at h
    rw [List.foldlM_cons] at h
    unfold forward
    cases hc : a.push oj c with
    | error e => rw [hc] at h; cases h
    | ok b =>
      rw [hc] at h
      show c :: (forward oj b chunks).1 = _
      rw [ih b h]

/-- The chunks make up a whole generation: nothing raises, a complete event says
`[DONE]`, and what is built is `response`. -/
def Assembles (model : String) (chunks : List Bytes) (uuid : String) (now : Int)
    (response : ChatCompletionResponse) : Prop :=
  ∃ a, (StreamAssembler.new model).pushAll oj chunks = .ok a ∧
    doneMarker ∈ streamPayloads chunks.flatten ∧ a.buildResponse pyd uuid now = .ok response

section
variable (request : ChatCompletionRequest) (signature : RequestSignature) (prompt : String)
  (chunks : List Bytes) (r : Readings) (w : World F)

theorem completed_iff (model : String) (a : StreamAssembler)
    (h : (StreamAssembler.new model).pushAll oj chunks = .ok a) :
    a.parts.completed = true ↔ doneMarker ∈ streamPayloads chunks.flatten := by
  obtain ⟨-, rfl⟩ := (StreamAssembler.pushAll_eq_ok_iff oj model chunks a).mp h
  exact decide_eq_true_iff

/-- The chunks of a response are whole. -/
theorem assembles_sse (response : ChatCompletionResponse) (model finish : String) (c : ChatCompletionChoice)
    (cs : List ChatCompletionChoice) (hoj : oj.RoundTrips (sseValues response)) (hid : response.id ≠ "")
    (hcreated : response.created ≠ 0) (hchoices : response.choices = c :: cs)
    (hfinish : c.finishReason = some finish) (hne : finish ≠ "") (uuid : String) (now : Int) :
    Assembles oj pyd model (responseToSse oj response) uuid now
      { id := response.id, created := response.created, model
        usage := StreamAssembler.estimateUsage response.firstText
        choices := [{ message := { role := .assistant, content := some response.firstText }
                      finishReason := some finish }] } := by
  have hpush := pushAll_responseToSse oj response model finish c cs hoj hchoices hfinish hne _ rfl
  refine ⟨_, hpush, (completed_iff oj _ _ _ hpush).mp rfl, ?_⟩
  exact buildResponse_sseParts pyd uuid now response model finish hid hcreated hne

/-- A push that raises ends the body. -/
theorem missBody_push_error (fin : StreamEnd) (e : PyError)
    (hpush : (StreamAssembler.new request.model).pushAll oj chunks = .error e) :
    svc.missBody oj pyd request signature prompt chunks fin r w =
      { yielded := (forward oj (.new request.model) chunks).1, result := .error e, world := w } := by
  unfold missBody
  simp only [forward_snd, hpush]

section
variable (a : StreamAssembler) (hpush : (StreamAssembler.new request.model).pushAll oj chunks = .ok a)
include hpush

theorem missBody_incomplete (hdone : doneMarker ∉ streamPayloads chunks.flatten) :
    svc.missBody oj pyd request signature prompt chunks .ended r w =
      { yielded := chunks, result := .ok (), world := w } := by
  have hc : ¬ a.parts.completed = true := fun h => hdone ((completed_iff oj chunks _ a hpush).mp h)
  unfold missBody
  simp only [forward_snd, forward_fst oj _ a chunks hpush, hpush]
  rw [if_pos hc]

theorem missBody_complete (hdone : doneMarker ∈ streamPayloads chunks.flatten) :
    svc.missBody oj pyd request signature prompt chunks .ended r w =
      match a.buildResponse pyd r.uuid r.now with
      | .error e => { yielded := chunks, result := .error e, world := w }
      | .ok response =>
        { yielded := chunks, result := .ok ()
          world := { w with store := svc.cacheResponse request signature prompt response r w.store } } := by
  have hc := (completed_iff oj chunks _ a hpush).mpr hdone
  unfold missBody
  simp only [forward_snd, forward_fst oj _ a chunks hpush, hpush]
  rw [if_neg (not_not.mpr hc)]

end

theorem missBody_assembles (response : ChatCompletionResponse)
    (h : Assembles oj pyd request.model chunks r.uuid r.now response) :
    svc.missBody oj pyd request signature prompt chunks .ended r w =
      { yielded := chunks, result := .ok ()
        world := { w with store := svc.cacheResponse request signature prompt response r w.store } } := by
  obtain ⟨a, hpush, hdone, hbuild⟩ := h
  rw [svc.missBody_complete oj pyd request signature prompt chunks r w a hpush hdone, hbuild]

/-- Every other body leaves the world as it was. -/
theorem missBody_not_assembles (fin : StreamEnd)
    (h : ¬ (fin = .ended ∧ ∃ response, Assembles oj pyd request.model chunks r.uuid r.now response)) :
    (svc.missBody oj pyd request signature prompt chunks fin r w).world = w := by
  cases hpush : (StreamAssembler.new request.model).pushAll oj chunks with
  | error e => rw [svc.missBody_push_error oj pyd request signature prompt chunks r w fin e hpush]
  | ok a =>
    cases fin with
    | raised e => unfold missBody; simp only [forward_snd, hpush]
    | abandoned => unfold missBody; simp only [forward_snd, hpush]
    | ended =>
      by_cases hdone : doneMarker ∈ streamPayloads chunks.flatten
      · rw [svc.missBody_complete oj pyd request signature prompt chunks r w a hpush hdone]
        cases hbuild : a.buildResponse pyd r.uuid r.now with
        | error e => rfl
        | ok response => exact absurd ⟨rfl, response, a, hpush, hdone, hbuild⟩ h
      · rw [svc.missBody_incomplete oj pyd request signature prompt chunks r w a hpush hdone]

end

/-- The store after is the store before and one entry more under `cond`, else the same. -/
def AddsOne (cond : Prop) (before after : InMemoryVectorStore F) : Prop :=
  (cond → ∃ e, after.items = before.items ++ [e]) ∧ (¬ cond → after.items = before.items)

theorem addsOne_cacheResponse (request : ChatCompletionRequest) (signature : RequestSignature)
    (prompt : String) (response : ChatCompletionResponse) (r : Readings) (store : InMemoryVectorStore F)
    (hfresh : r.entryId ∉ store.items.map CacheEntry.id) :
    AddsOne (0 < (svc.resolvePolicy request response).1) store
      (svc.cacheResponse request signature prompt response r store) := by
  have h := svc.cacheResponse_items request signature prompt response r store hfresh
  constructor
  · intro ht
    rw [if_pos ht] at h
    exact ⟨_, h⟩
  · intro ht
    rw [if_neg ht, List.append_nil] at h
    exact h

theorem AddsOne.congr {p q : Prop} {before after : InMemoryVectorStore F} (h : AddsOne p before after)
    (hpq : p ↔ q) : AddsOne q before after := by
  rwa [← propext hpq]

end

/-! ## What a request does to the store -/

section
variable {F E : Type} [Field F] [LinearOrder F] (np : Numpy F) (oj : Orjson) (pyd : Pydantic)
  (svc : ProxyService F E)

section
variable (request : ChatCompletionRequest) (tenant : String) (policy : E) (r : Readings) (w : World F)

theorem lookup_eq (threshold : Option F) :
    svc.lookup np request tenant threshold r w =
      match svc.cache.lookup np w.store (svc.requestSignature request tenant) request.latestUserPrompt
        threshold r.lookup with
      | .error e => .error e w
      | .ok (l, store) => .ok l { w with store } := by
  unfold lookup
  simp only [bind, EStateM.bind, get, getThe, MonadStateOf.get, EStateM.get]
  cases svc.cache.lookup np w.store (svc.requestSignature request tenant) request.latestUserPrompt
    threshold r.lookup <;> rfl

/-- What a buffered request does, case by case. -/
theorem complete_eq (upstream : Except PyError ChatCompletionResponse) :
    svc.complete np pyd request tenant policy upstream r w =
      match svc.cache.lookup np w.store (svc.requestSignature request tenant) request.latestUserPrompt
        (svc.thresholdFor policy request) r.lookup with
      | .error e => .error e w
      | .ok (l, store) =>
        let effects := w.effects ++ svc.lookupEffects request tenant (svc.thresholdFor policy request) l
        match l.served with
        | some best =>
          match ChatCompletionResponse.modelValidate pyd r.uuid r.now best.entry.response with
          | .error e => .error e { store, effects }
          | .ok cached =>
            .ok { response := cached, cacheStatus := .hit, similarityScore := l.score
                  cacheLatencyMs := l.latencyMs, provider := svc.resolveProvider request }
              { store
                effects := effects ++ recordSavings request cached :: svc.maybeValidate request cached r.sampled }
        | none =>
          match upstream with
          | .error e => .error e { store, effects }
          | .ok response =>
            .ok { response, cacheStatus := .miss, similarityScore := l.score
                  cacheLatencyMs := l.latencyMs, provider := svc.resolveProvider request }
              { store := svc.cacheResponse request (svc.requestSignature request tenant)
                  request.latestUserPrompt response r store
                effects := effects ++ [svc.providerLatency request r.upstreamStarted r.upstreamFinished] } := by
  unfold complete
  simp only [bind, EStateM.bind, lookup_eq]
  cases svc.cache.lookup np w.store (svc.requestSignature request tenant) request.latestUserPrompt
    (svc.thresholdFor policy request) r.lookup with
  | error e => rfl
  | ok ls =>
    obtain ⟨l, store⟩ := ls
    simp only [emit, modify, modifyGet, MonadStateOf.modifyGet, EStateM.modifyGet]
    cases l.served with
    | some best =>
      dsimp only
      cases ChatCompletionResponse.modelValidate pyd r.uuid r.now best.entry.response <;> rfl
    | none => cases upstream <;> rfl

/-- What a streaming request does before its body runs. -/
theorem stream_eq :
    svc.stream np oj pyd request tenant policy r w =
      match svc.cache.lookup np w.store (svc.requestSignature request tenant) request.latestUserPrompt
        (svc.thresholdFor policy request) r.lookup with
      | .error e => .error e w
      | .ok (l, store) =>
        let effects := w.effects ++ svc.lookupEffects request tenant (svc.thresholdFor policy request) l
        match l.served with
        | some best =>
          match ChatCompletionResponse.modelValidate pyd r.uuid r.now best.entry.response with
          | .error e => .error e { store, effects }
          | .ok cached =>
            .ok { similarityScore := l.score, cacheLatencyMs := l.latencyMs
                  provider := svc.resolveProvider request, body := .hit (responseToSse oj cached)
                  cacheStatus := .hit }
              { store, effects := effects ++ [recordSavings request cached] }
        | none =>
          .ok { similarityScore := l.score, cacheLatencyMs := l.latencyMs
                provider := svc.resolveProvider request
                body := .miss request (svc.requestSignature request tenant) request.latestUserPrompt
                cacheStatus := .miss }
            { store, effects } := by
  unfold stream
  simp only [bind, EStateM.bind, lookup_eq]
  cases svc.cache.lookup np w.store (svc.requestSignature request tenant) request.latestUserPrompt
    (svc.thresholdFor policy request) r.lookup with
  | error e => rfl
  | ok ls =>
    obtain ⟨l, store⟩ := ls
    simp only [emit, modify, modifyGet, MonadStateOf.modifyGet, EStateM.modifyGet]
    cases l.served with
    | some best =>
      dsimp only
      cases ChatCompletionResponse.modelValidate pyd r.uuid r.now best.entry.response <;> rfl
    | none => rfl

/-- The body of a streaming MISS. -/
theorem stream_body_of_miss (w' : World F) (result : StreamResult F)
    (h : svc.stream np oj pyd request tenant policy r w = .ok result w') (hmiss : result.cacheStatus = .miss) :
    result.body = .miss request (svc.requestSignature request tenant) request.latestUserPrompt := by
  rw [stream_eq] at h
  split at h
  · cases h
  · next l store _ =>
    simp only [] at h
    split at h
    · split at h
      · cases h
      · obtain ⟨rfl, -⟩ := EStateM.Result.ok.inj h
        cases hmiss
    · obtain ⟨rfl, -⟩ := EStateM.Result.ok.inj h
      rfl

end

/-- **A MISS adds one entry or none.**  Buffered: one when the upstream answered and the
policy's TTL is positive.  Streaming: none by the call; one by the body, whenever it is
consumed, when the upstream ended, the chunks make up a whole generation and the
policy's TTL is positive. -/
theorem miss_adds (request : ChatCompletionRequest) (tenant : String) (policy : E) (r : Readings)
    (w : World F) (l : CacheLookup F) (store : InMemoryVectorStore F)
    (hlookup : svc.cache.lookup np w.store (svc.requestSignature request tenant) request.latestUserPrompt
      (svc.thresholdFor policy request) r.lookup = .ok (l, store))
    (hmiss : l.status = .miss) (hfresh : r.entryId ∉ w.store.items.map CacheEntry.id) :
    (∀ upstream, AddsOne (∃ response, upstream = .ok response ∧ 0 < (svc.resolvePolicy request response).1)
      w.store (worldAfter (svc.complete np pyd request tenant policy upstream r) w).store) ∧
    ∃ result w', svc.stream np oj pyd request tenant policy r w = .ok result w' ∧
      result.cacheStatus = .miss ∧ w'.store = w.store ∧
      ∀ (w₂ : World F) (r₂ : Readings) (chunks : List Bytes) (fin : StreamEnd),
        r₂.entryId ∉ w₂.store.items.map CacheEntry.id →
        AddsOne (fin = .ended ∧ ∃ response, Assembles oj pyd request.model chunks r₂.uuid r₂.now response ∧
            0 < (svc.resolvePolicy request response).1)
          w₂.store (svc.runBody oj pyd chunks fin r₂ w₂ result.body).world.store := by
  obtain ⟨hserved, rfl⟩ := svc.cache.lookup_miss np _ _ _ _ _ _ l hlookup hmiss
  constructor
  · intro upstream
    unfold worldAfter EStateM.run
    rw [complete_eq, hlookup]
    simp only [hserved]
    cases upstream with
    | error e => exact ⟨by simp, fun _ => rfl⟩
    | ok response =>
      refine (svc.addsOne_cacheResponse request _ _ response r w.store hfresh).congr ?_
      simp
  · rw [stream_eq, hlookup]
    simp only [hserved]
    refine ⟨_, _, rfl, rfl, rfl, ?_⟩
    intro w₂ r₂ chunks fin hfresh₂
    show AddsOne _ _ (svc.missBody oj pyd request _ _ chunks fin r₂ w₂).world.store
    by_cases h : fin = .ended ∧ ∃ response, Assembles oj pyd request.model chunks r₂.uuid r₂.now response
    · obtain ⟨rfl, response, hwhole⟩ := h
      rw [svc.missBody_assembles oj pyd request _ _ chunks r₂ w₂ response hwhole]
      refine (svc.addsOne_cacheResponse request _ _ response r₂ w₂.store hfresh₂).congr ?_
      constructor
      · exact fun ht => ⟨rfl, response, hwhole, ht⟩
      · rintro ⟨-, response', hwhole', ht⟩
        obtain ⟨a, hpush, -, hbuild⟩ := hwhole
        obtain ⟨a', hpush', -, hbuild'⟩ := hwhole'
        rw [hpush] at hpush'
        obtain rfl := Except.ok.inj hpush'
        rw [hbuild] at hbuild'
        obtain rfl := Except.ok.inj hbuild'
        exact ht
    · rw [svc.missBody_not_assembles oj pyd request _ _ chunks r₂ w₂ fin h]
      refine ⟨?_, fun _ => rfl⟩
      rintro ⟨rfl, response, hwhole, -⟩
      exact absurd ⟨rfl, response, hwhole⟩ h

end

/-! ## A service -/

def plainService : ProxyService ℚ Unit where
  cache := { embed := fun _ => [1], threshold := 19 / 20, nearMissWindow := 1 / 20, topK := 5 }
  resolveProvider := fun _ => "openai"

def oceanRequest : ChatCompletionRequest where
  model := "gpt-4o-mini"
  messages := [{ role := .user, content := some "describe the ocean" }]

def someReadings : Readings where
  lookup := { started := 0, now := 1700000000, finished := 0 }
  uuid := "0123456789abcdef0123456789abcdef"
  now := 1700000000
  upstreamStarted := 0
  upstreamFinished := 1
  entryId := "fedcba9876543210fedcba9876543210"
  createdAt := 1700000000
  sampled := false

theorem assembles_framedText : Assembles framedCodec .strict "gpt-4o-mini"
    (responseToSse framedCodec framedText) someReadings.uuid someReadings.now
    { id := framedText.id, created := framedText.created, model := "gpt-4o-mini"
      usage := StreamAssembler.estimateUsage framedText.firstText
      choices := [{ message := { role := .assistant, content := some framedText.firstText }
                    finishReason := some "stop" }] } :=
  assembles_sse framedCodec .strict framedText "gpt-4o-mini" "stop" _ [] framedCodec_roundTrips (by decide)
    (by decide) rfl rfl (by decide) _ _

/-- On an empty cache: a buffered answer is kept, a streamed one is kept when it ended
and not when the client left after its last chunk. -/
theorem miss_adds_ocean :
    (∃ e, (worldAfter (plainService.complete (.sorting Rat.sqrt) .strict oceanRequest "team" ()
      (.ok framedText) someReadings) ⟨.new, []⟩).store.items = [e]) ∧
    ∃ result w', plainService.stream (.sorting Rat.sqrt) framedCodec .strict oceanRequest "team" ()
        someReadings ⟨.new, []⟩ = .ok result w' ∧
      (∃ e, (plainService.runBody framedCodec .strict (responseToSse framedCodec framedText) .ended
        someReadings w' result.body).world.store.items = [e]) ∧
      (plainService.runBody framedCodec .strict (responseToSse framedCodec framedText) .abandoned
        someReadings w' result.body).world.store.items = [] := by
  obtain ⟨hbuffered, result, w', hrun, -, hstore, hbody⟩ :=
    miss_adds (.sorting Rat.sqrt) framedCodec .strict plainService oceanRequest "team" () someReadings
      ⟨.new, []⟩ _ _ rfl rfl (by simp [InMemoryVectorStore.new, Keyed.empty])
  have hfresh : someReadings.entryId ∉ w'.store.items.map CacheEntry.id := by
    rw [hstore]; simp [InMemoryVectorStore.new, Keyed.empty]
  have hnil : w'.store.items = [] := by rw [hstore]; rfl
  refine ⟨(hbuffered (.ok framedText)).1 ⟨_, rfl, by decide⟩, result, w', hrun, ?_, ?_⟩
  · obtain ⟨e, he⟩ := (hbody w' someReadings _ .ended hfresh).1 ⟨rfl, _, assembles_framedText, by decide⟩
    exact ⟨e, by rw [he, hnil]; rfl⟩
  · rw [(hbody w' someReadings _ .abandoned hfresh).2 (by rintro ⟨h, -⟩; cases h), hnil]

end ProxyService

end CachingLayer
