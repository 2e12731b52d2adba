import CachingLayer.Analytics.Validation
import CachingLayer.Core.Config
import CachingLayer.Core.Middleware
import CachingLayer.Policies.TtlClassifier
import CachingLayer.Proxy.Isolation
import CachingLayer.Proxy.NearMisses

/-!
# The application

What `create_app` puts together: the rate limiter in front, the endpoints behind it, and all
of them on one service with its store, its threshold engine, its near-miss tracker and its
validator.  Calls come in one after another while the tasks of the earlier ones go on
(`AppAction`); a call is refused, or answered at once, or begins a task.

Tenants are kept apart in both layers, by the limiter's buckets and by the cache's
namespaces; so the other tenants' chats do not show to a tenant that names itself, neither in
what it is refused nor in what it is answered (`tenants_apart`).
-/

namespace CachingLayer

/-- A request taken by a route, its parameters and its body read. -/
inductive Endpoint (F : Type)
  | root
  | healthz
  | readyz
  | metrics
  | chatCompletions (request : ChatCompletionRequest)
  | invalidateModel (model : String)
  | invalidateSystemPrompt (promptHash : String)
  | invalidateTag (tag : String)
  | invalidateAll
  | nearMisses
  | validationStats
  | thresholdTest (cases : List ThresholdTestCase) (nonempty : cases ≠ []) (thresholds : Option (List F))
  | currentThresholds
  | thresholdFeedback (category : ThresholdCategory) (falseHit : Bool)

namespace Endpoint

variable {F : Type}

def path : Endpoint F → String
  | root => "/"
  | healthz => "/healthz"
  | readyz => "/readyz"
  | metrics => "/metrics"
  | chatCompletions _ => "/v1/chat/completions"
  | invalidateModel model => "/cache/model/" ++ model
  | invalidateSystemPrompt promptHash => "/cache/system-prompt/" ++ promptHash
  | invalidateTag tag => "/cache/tag/" ++ tag
  | invalidateAll => "/cache/all"
  | nearMisses => "/analytics/near-misses"
  | validationStats => "/analytics/validation"
  | thresholdTest .. => "/analytics/threshold-test"
  | currentThresholds => "/analytics/thresholds"
  | thresholdFeedback .. => "/analytics/threshold-feedback"

end Endpoint

structure HttpCall (F : Type) where
  endpoint : Endpoint F
  /-- `X-Tenant-Id`. -/
  tenantId : Option String := none
  clientHost : Option String := none
  /-- `x-correlation-id`, `x-request-id`. -/
  correlationHeaders : List (Option String) := [none, none]

namespace HttpCall

variable {F : Type} (call : HttpCall F)

/-- What the limiter sees. -/
def toHttpRequest : HttpRequest where
  path := call.endpoint.path
  tenantId := call.tenantId
  clientHost := call.clientHost

/-- `get_tenant`. -/
def tenant : String := call.tenantId.getD "default"

/-- The first header there is, or a new id where there is none or it is empty. -/
def correlationId (uuid : String) : String :=
  let given := (call.correlationHeaders.reduceOption.head?).getD ""
  if given ≠ "" then given else uuid

def isChat : Bool :=
  match call.endpoint with
  | .chatCompletions _ => true
  | _ => false

/-- What an endpoint asks of the service; the others only read. -/
def action [Field F] [LinearOrder F] (seq : Nat) : Option (Action (AdaptiveThresholdEngine F)) :=
  match call.endpoint with
  | .chatCompletions request => some (.request ⟨call.tenant, seq⟩ request.stream request)
  | .invalidateModel model => some (.delete (some model) none none)
  | .invalidateSystemPrompt promptHash => some (.delete none (some promptHash) none)
  | .invalidateTag tag => some (.delete none none (some tag))
  | .invalidateAll => some .clear
  | .thresholdFeedback category falseHit => some (.feedback (AdaptiveThresholdEngine.recordFeedback category falseHit))
  | _ => none

end HttpCall

inductive Reply (F : Type)
  | refused (response : JsonResponse)
  /-- The chat goes on as a task. -/
  | begun (rid : RequestId)
  | json (content : Json)
  /-- A scrape, with the cache size it has set. -/
  | metrics (cacheSize : Nat)
  | nearMisses (report : NearMissReport F)
  | validation (stats : ValidationStats F)
  | thresholdTest (report : Except PyError (ThresholdReport F))
  | thresholds (snapshot : List (String × F))
  | feedback (category : String) (threshold : F)

structure Answered (F : Type) where
  call : HttpCall F
  reply : Reply F
  /-- `X-Correlation-ID` of the response. -/
  correlationId : String

inductive AppAction (F K : Type) (d : Nat)
  | tick (now perf : ℚ)
  /-- A call, the clock's readings for the limiter, and a new id should it need one. -/
  | call (seq : Nat) (call : HttpCall F) (made now : K) (uuid : String)
  /-- A task goes on. -/
  | task (rid : RequestId) (event : Event)
  /-- A validation goes on. -/
  | resume (i : Nat) (event : ValidationEvent F d)

instance {F K : Type} {d : Nat} : Inhabited (AppAction F K d) := ⟨.tick 0 0⟩

structure AppState (F K : Type) (d : Nat) where
  buckets : String → Option (TokenBucket K) := fun _ => none
  shadow : ShadowState F (AdaptiveThresholdEngine F) d
  log : List (Answered F) := []

/-- An answer goes out. -/
def AppState.answered {F K : Type} {d : Nat} (s : AppState F K d) (buckets : String → Option (TokenBucket K))
    (call : HttpCall F) (uuid : String) (reply : Reply F) : AppState F K d :=
  { s with buckets, log := s.log ++ [{ call, reply, correlationId := call.correlationId uuid }] }

structure Application (F : Type) where
  limiter : Option RateLimitMiddleware
  proxy : ProxyService F (AdaptiveThresholdEngine F)
  /-- Asked where the proxy has a validator. -/
  validator : CacheValidator F
  trackerCapacity : Nat := 1000
  trackerMinSamples : Int := 20
  serviceName : String := "semantic-cache-layer"
  version : String

namespace Application

/-! ## Wiring -/

section
variable {F : Type} [Field F]

/-- `lifespan` with the store in memory; `resolveProvider` is the completer's. -/
def ofSettings (settings : Settings) (u : Unicode) (embed : String → List F) [LinearOrder F]
    (resolveProvider : ChatCompletionRequest → String) (version : String) : Application F where
  limiter :=
    if settings.rateLimitEnabled then
      some { ratePerSec := settings.rateLimitRps.toNat, exemptPaths := ["/healthz", "/readyz", "/metrics"] }
    else none
  proxy := {
    cache := {
      embed, threshold := (settings.similarityThreshold.toRat : F)
      nearMissWindow := (settings.nearMissWindow.toRat : F), topK := 5 }
    resolveProvider
    defaultTtlSeconds := settings.defaultTtlSeconds
    ttlPolicy := some (TtlClassifier.buildTtlPolicy u {
      longTtlSeconds := settings.defaultTtlSeconds, shortTtlSeconds := settings.shortTtlSeconds })
    thresholdPolicy :=
      if settings.adaptiveThresholdsEnabled then some (AdaptiveThresholdEngine.buildThresholdPolicy u) else none
    hasNearMissTracker := true
    hasValidator := settings.validationEnabled }
  validator := {
    sampleRate := (settings.validationSampleRate.toRat : F)
    driftThreshold := (settings.validationDriftThreshold.toRat : F), hasMetrics := true }
  version

end

section
variable {F K : Type} [Field F] [LinearOrder F] {d : Nat} (np : Numpy F) (oj : Orjson) (pyd : Pydantic)
  (fmt : FloatFormat F) (app : Application F)

/-! ## Endpoints -/

def invalidated (removed : Nat) (scope : Dict) : Reply F := .json (.obj (("invalidated", .int removed) :: scope))

/-- What an endpoint answers in a state, where it answers at once. -/
def reply [FloorRing F] (s : ShadowState F (AdaptiveThresholdEngine F) d) (seq : Nat) (call : HttpCall F) : Reply F :=
  match call.endpoint with
  | .root => .json (.obj [("service", .str app.serviceName), ("version", .str app.version)])
  | .healthz => .json (.obj [("status", .str "ok")])
  | .readyz => .json (.obj [("status", .str "ready")])
  | .metrics => .metrics s.service.store.count
  | .chatCompletions _ => .begun ⟨call.tenant, seq⟩
  | .invalidateModel model =>
    invalidated (s.service.store.delete (some model) none none).1 [("scope", .str "model"), ("model", .str model)]
  | .invalidateSystemPrompt promptHash =>
    invalidated (s.service.store.delete none (some promptHash) none).1
      [("scope", .str "system_prompt"), ("hash", .str promptHash)]
  | .invalidateTag tag =>
    invalidated (s.service.store.delete none none (some tag)).1 [("scope", .str "tag"), ("tag", .str tag)]
  | .invalidateAll => invalidated s.service.store.clear.1 [("scope", .str "all")]
  | .nearMisses => .nearMisses ((s.service.tracker app.trackerCapacity app.trackerMinSamples).report fmt)
  | .validationStats =>
    if app.proxy.hasValidator then .validation (app.validator.stats s.validator)
    else .validation {
      validations := 0, driftCount := 0, falseHitCount := 0, cacheValidationAccuracy := 1, semanticDriftRate := 0
      falseHitRate := 0, sampleRate := 0, driftThreshold := 0 }
  | .thresholdTest cases _ thresholds =>
    let given := thresholds.getD []
    let analyzer : ThresholdAnalyzer F := {
      embed := app.proxy.cache.embed
      thresholds := if given ≠ [] then given else ThresholdAnalyzer.defaultThresholds }
    .thresholdTest (analyzer.evaluate np cases)
  | .currentThresholds => .thresholds s.service.policy.snapshot
  | .thresholdFeedback category falseHit =>
    .feedback category.value ((s.service.policy.recordFeedback category falseHit).policies category).current

/-! ## The stack -/

/-- The limiter, where there is one. -/
def limit [Field K] [LinearOrder K] (buckets : String → Option (TokenBucket K)) (a : Arrival K) :
    Option JsonResponse × (String → Option (TokenBucket K)) :=
  match app.limiter with
  | none => (none, buckets)
  | some mw => mw.dispatch buckets a

/-- The service and its validations take an action. -/
def serve (s : AppState F K d) (a : ShadowAction F (AdaptiveThresholdEngine F) d) : Option (AppState F K d) :=
  (app.validator.step np oj pyd app.proxy s.shadow a).map fun shadow => { s with shadow }

def step [FloorRing F] [Field K] [LinearOrder K] (s : AppState F K d) : AppAction F K d → Option (AppState F K d)
  | .tick now perf => app.serve np oj pyd s (.service (.tick now perf))
  | .task rid event => app.serve np oj pyd s (.service (.task rid event))
  | .resume i event => app.serve np oj pyd s (.resume i event)
  | .call seq call made now uuid =>
    let limited := app.limit s.buckets ⟨call.toHttpRequest, made, now⟩
    match limited.1 with
    | some response => some (s.answered limited.2 call uuid (.refused response))
    | none =>
      let s' := s.answered limited.2 call uuid (app.reply np fmt s.shadow seq call)
      match call.action seq with
      | none => some s'
      | some a => app.serve np oj pyd s' (.service a)

end

end Application

/-! ## What the tenants see -/

/-- What a run of the application asks of the service, refusals left aside. -/
def AppAction.action {F K : Type} {d : Nat} [Field F] [LinearOrder F] :
    AppAction F K d → Option (Action (AdaptiveThresholdEngine F))
  | .tick now perf => some (.tick now perf)
  | .call seq c .. => c.action seq
  | .task rid event => some (.task rid event)
  | .resume .. => none

/-- Another tenant's chat. -/
def HttpCall.isRival {F : Type} (tenant : String) (call : HttpCall F) : Bool :=
  call.isChat && call.tenant ≠ tenant

/-- The other tenants' chats are left out, with what follows them, and the validations, which
do not bear on the service. -/
def AppAction.keptFor {F K : Type} {d : Nat} (tenant : String) : AppAction F K d → Bool
  | .tick .. => true
  | .call _ c .. => !c.isRival tenant
  | .task rid _ => rid.tenant = tenant
  | .resume .. => false

/-- A tenant's chat, with what it was answered. -/
def Answered.isChatOf {F : Type} (tenant : String) (answered : Answered F) : Bool :=
  answered.call.isChat && answered.call.tenant = tenant

namespace HttpCall

section
variable {F : Type} (call : HttpCall F)

/-- A named tenant has a bucket to itself. -/
theorem clientKey_eq_tenant_iff (tenant : String) (hempty : tenant ≠ "") (hdefault : tenant ≠ "default") :
    RateLimitMiddleware.clientKey call.toHttpRequest = "tenant:" ++ tenant ↔ call.tenant = tenant := by
  have hip : ∀ host, "ip:" ++ host ≠ "tenant:" ++ tenant := by
    intro host h
    have hhead := congrArg (fun s => s.toList.head?) h
    simp [String.toList_append] at hhead
  unfold RateLimitMiddleware.clientKey HttpCall.tenant toHttpRequest
  cases ht : call.tenantId with
  | none =>
    rw [Option.getD_none, if_neg (by decide)]
    exact ⟨fun h => absurd h (hip _), fun h => absurd h.symm hdefault⟩
  | some t =>
    rw [Option.getD_some]
    by_cases he : t = ""
    · rw [if_neg (by simp [he])]
      exact ⟨fun h => absurd h (hip _), fun h => absurd (h.symm.trans he) hempty⟩
    · rw [if_pos he]
      exact String.append_right_inj _

end

section
variable {F : Type} [Field F] [LinearOrder F] (call : HttpCall F)

theorem action_of_isChat (seq : Nat) (h : call.isChat = true) :
    ∃ streaming request, call.action seq = some (.request ⟨call.tenant, seq⟩ streaming request) := by
  unfold isChat at h
  unfold action
  cases hend : call.endpoint with
  | chatCompletions request => exact ⟨request.stream, request, rfl⟩
  | _ => rw [hend] at h; cases h

/-- What is no chat is asked in nobody's name. -/
theorem keptFor_of_not_isChat (seq : Nat) (a : Action (AdaptiveThresholdEngine F)) (tenant : String)
    (h : call.isChat = false) (ha : call.action seq = some a) : a.keptFor tenant = true := by
  unfold isChat at h
  unfold action at ha
  cases hend : call.endpoint with
  | chatCompletions request => rw [hend] at h; cases h
  | _ => simp only [hend, Option.some.injEq, reduceCtorEq] at ha <;> (subst ha; rfl)

end

end HttpCall

namespace Application

section
variable {F K : Type} [Field K] [LinearOrder K] (app : Application F)
  (buckets buckets' : String → Option (TokenBucket K)) (a : Arrival K) (key : String)

/-- What a client is answered is up to its bucket. -/
theorem limit_of_eq (hkey : RateLimitMiddleware.clientKey a.request = key) (h : buckets key = buckets' key) :
    (app.limit buckets a).1 = (app.limit buckets' a).1 := by
  subst hkey
  unfold limit
  cases app.limiter with
  | none => rfl
  | some mw =>
    simp only [RateLimitMiddleware.dispatch, h]
    split <;> rfl

theorem limit_other (hkey : RateLimitMiddleware.clientKey a.request ≠ key) :
    (app.limit buckets a).2 key = buckets key := by
  unfold limit
  cases app.limiter with
  | none => rfl
  | some mw =>
    apply mw.dispatch_not_ofKey
    unfold RateLimitMiddleware.ofKey
    simp [hkey]

/-- Buckets that were the same are the same after it. -/
theorem limit_alike (h : buckets key = buckets' key) : (app.limit buckets a).2 key = (app.limit buckets' a).2 key := by
  by_cases hkey : RateLimitMiddleware.clientKey a.request = key
  · subst hkey
    unfold limit
    cases app.limiter with
    | none => exact h
    | some mw =>
      simp only [RateLimitMiddleware.dispatch, h]
      split
      · exact h
      · simp only [Function.update_self]
  · rw [app.limit_other buckets a key hkey, app.limit_other buckets' a key hkey, h]

end

section
variable {F K : Type} [Field F] [LinearOrder F] [FloorRing F] [Field K] [LinearOrder K] {d : Nat} (np : Numpy F)
  (oj : Orjson) (pyd : Pydantic) (fmt : FloatFormat F) (app : Application F)

/-! ### Steps -/

omit [FloorRing F] [Field K] [LinearOrder K] in
/-- The service goes on, and nothing else but the validations. -/
theorem serve_service (s s' : AppState F K d) (a : Action (AdaptiveThresholdEngine F))
    (h : app.serve np oj pyd s (.service a) = some s') :
    app.proxy.step np oj pyd s.shadow.service a = some s'.shadow.service ∧ s'.buckets = s.buckets ∧ s'.log = s.log := by
  unfold serve CacheValidator.step at h
  cases hstep : app.proxy.step np oj pyd s.shadow.service a with
  | none => simp only [hstep, Option.map_none, reduceCtorEq] at h
  | some u =>
    simp only [hstep, Option.map_some, Option.some.injEq] at h
    subst h
    exact ⟨rfl, rfl, rfl⟩

omit [FloorRing F] [Field K] [LinearOrder K] in
theorem serve_of_step (s : AppState F K d) (u : State F (AdaptiveThresholdEngine F))
    (a : Action (AdaptiveThresholdEngine F)) (h : app.proxy.step np oj pyd s.shadow.service a = some u) :
    ∃ s', app.serve np oj pyd s (.service a) = some s' ∧ s'.shadow.service = u ∧ s'.buckets = s.buckets ∧
      s'.log = s.log := by
  unfold serve CacheValidator.step
  simp only [h, Option.map_some]
  exact ⟨_, rfl, rfl, rfl, rfl⟩

omit [FloorRing F] [Field K] [LinearOrder K] in
theorem serve_resume (s s' : AppState F K d) (i : Nat) (event : ValidationEvent F d)
    (h : app.serve np oj pyd s (.resume i event) = some s') :
    s'.shadow.service = s.shadow.service ∧ s'.buckets = s.buckets ∧ s'.log = s.log := by
  unfold serve at h
  obtain ⟨shadow, hstep, rfl⟩ := Option.map_eq_some_iff.mp h
  rcases app.validator.step_cases np oj pyd app.proxy s.shadow shadow _ hstep with
    ⟨-, hnot, -⟩ | ⟨_, _, _, _, _, -, -, -, rfl⟩
  · exact absurd rfl (hnot i event)
  · exact ⟨rfl, rfl, rfl⟩

section
variable (s : AppState F K d) (seq : Nat) (call : HttpCall F) (made now : K) (uuid : String)

theorem step_refused (response : JsonResponse)
    (h : (app.limit s.buckets ⟨call.toHttpRequest, made, now⟩).1 = some response) :
    app.step np oj pyd fmt s (.call seq call made now uuid) =
      some (s.answered (app.limit s.buckets ⟨call.toHttpRequest, made, now⟩).2 call uuid (.refused response)) := by
  unfold step
  simp only [h]

theorem step_read (h : (app.limit s.buckets ⟨call.toHttpRequest, made, now⟩).1 = none)
    (ha : call.action seq = none) :
    app.step np oj pyd fmt s (.call seq call made now uuid) =
      some (s.answered (app.limit s.buckets ⟨call.toHttpRequest, made, now⟩).2 call uuid
        (app.reply np fmt s.shadow seq call)) := by
  unfold step
  simp only [h, ha]

theorem step_served (h : (app.limit s.buckets ⟨call.toHttpRequest, made, now⟩).1 = none)
    (a : Action (AdaptiveThresholdEngine F)) (ha : call.action seq = some a) :
    app.step np oj pyd fmt s (.call seq call made now uuid) =
      app.serve np oj pyd (s.answered (app.limit s.buckets ⟨call.toHttpRequest, made, now⟩).2 call uuid
        (app.reply np fmt s.shadow seq call)) (.service a) := by
  unfold step
  simp only [h, ha]

/-- What asks nothing of the service is answered in any case. -/
theorem step_of_action_none (ha : call.action seq = none) :
    ∃ r, app.step np oj pyd fmt s (.call seq call made now uuid) =
      some (s.answered (app.limit s.buckets ⟨call.toHttpRequest, made, now⟩).2 call uuid r) := by
  cases hlimit : (app.limit s.buckets ⟨call.toHttpRequest, made, now⟩).1 with
  | some response => exact ⟨_, app.step_refused np oj pyd fmt s seq call made now uuid response hlimit⟩
  | none => exact ⟨_, app.step_read np oj pyd fmt s seq call made now uuid hlimit ha⟩

end

omit [Field K] [LinearOrder K] in
/-- A chat is begun whatever the state. -/
theorem reply_of_isChat (s s' : ShadowState F (AdaptiveThresholdEngine F) d) (seq : Nat) (call : HttpCall F)
    (h : call.isChat = true) : app.reply np fmt s seq call = app.reply np fmt s' seq call := by
  unfold HttpCall.isChat at h
  unfold reply
  cases hend : call.endpoint with
  | chatCompletions request => rfl
  | _ => simp [hend] at h

/-- The service takes the action there is, if it takes one. -/
theorem step_service (s s' : AppState F K d) (a : AppAction F K d) (h : app.step np oj pyd fmt s a = some s') :
    s'.shadow.service = s.shadow.service ∨
      ∃ b, a.action = some b ∧ app.proxy.step np oj pyd s.shadow.service b = some s'.shadow.service := by
  cases a with
  | tick now perf => exact Or.inr ⟨_, rfl, (app.serve_service np oj pyd s s' _ h).1⟩
  | task rid event => exact Or.inr ⟨_, rfl, (app.serve_service np oj pyd s s' _ h).1⟩
  | resume i event => exact Or.inl (app.serve_resume np oj pyd s s' i event h).1
  | call seq call made now uuid =>
    cases hlimit : (app.limit s.buckets ⟨call.toHttpRequest, made, now⟩).1 with
    | some response =>
      rw [app.step_refused np oj pyd fmt s seq call made now uuid response hlimit] at h
      obtain rfl := Option.some.inj h
      exact Or.inl rfl
    | none =>
      cases ha : call.action seq with
      | none =>
        rw [app.step_read np oj pyd fmt s seq call made now uuid hlimit ha] at h
        obtain rfl := Option.some.inj h
        exact Or.inl rfl
      | some b =>
        rw [app.step_served np oj pyd fmt s seq call made now uuid hlimit b ha] at h
        exact Or.inr ⟨b, ha, (app.serve_service np oj pyd _ s' b h).1⟩

/-! ### The relation -/

/-- A client that chats for another tenant. -/
def RivalClient (acts : List (AppAction F K d)) (tenant key : String) : Prop :=
  ∃ seq call made now uuid, .call seq call made now uuid ∈ acts ∧ call.isRival tenant = true ∧
    RateLimitMiddleware.clientKey call.toHttpRequest = key

/-- `σ` is `s` without the other tenants' chats. -/
structure Alike (acts : List (AppAction F K d)) (tenant : String) (s σ : AppState F K d) : Prop where
  service : app.proxy.SeenBy (acts.filterMap AppAction.action) tenant s.shadow.service σ.shadow.service
  buckets : ∀ key, ¬ RivalClient acts tenant key → s.buckets key = σ.buckets key
  log : σ.log.filter (Answered.isChatOf tenant) = s.log.filter (Answered.isChatOf tenant)

section
variable (acts : List (AppAction F K d)) (tenant : String)

omit [FloorRing F] [Field K] [LinearOrder K] in
/-- Both answer the call. -/
theorem alike_answered (s σ : AppState F K d) (buckets buckets' : String → Option (TokenBucket K))
    (call : HttpCall F) (uuid : String) (r r' : Reply F) (hs : app.Alike acts tenant s σ)
    (hbuckets : ∀ key, ¬ RivalClient acts tenant key → buckets key = buckets' key)
    (hr : call.isChat = true → r = r') :
    app.Alike acts tenant (s.answered buckets call uuid r) (σ.answered buckets' call uuid r') := by
  refine ⟨hs.service, hbuckets, ?_⟩
  show (σ.log ++ [_]).filter _ = (s.log ++ [_]).filter _
  rw [List.filter_append, List.filter_append, hs.log]
  by_cases hchat : call.isChat = true
  · rw [hr hchat]
  · simp [Answered.isChatOf, hchat]

omit [FloorRing F] [Field K] [LinearOrder K] in
/-- One of them answers a rival's chat. -/
theorem alike_answered_rival (s σ : AppState F K d) (buckets : String → Option (TokenBucket K))
    (call : HttpCall F) (uuid : String) (r : Reply F) (hs : app.Alike acts tenant s σ)
    (hbuckets : ∀ key, ¬ RivalClient acts tenant key → buckets key = σ.buckets key)
    (hrival : call.isRival tenant = true) : app.Alike acts tenant (s.answered buckets call uuid r) σ := by
  refine ⟨hs.service, hbuckets, ?_⟩
  have hnot : Answered.isChatOf tenant
      ({ call, reply := r, correlationId := call.correlationId uuid } : Answered F) = false := by
    simp only [HttpCall.isRival, Bool.and_eq_true, decide_eq_true_eq] at hrival
    simp [Answered.isChatOf, hrival.2]
  show _ = (s.log ++ [_]).filter _
  rw [List.filter_append, List.filter_singleton, hnot, hs.log]
  simp

section
variable (hcol : CollisionFree (app.proxy.requested (acts.filterMap AppAction.action)))
  (hids : ProxyService.IdsApart (acts.filterMap AppAction.action)) (s σ : AppState F K d)
  (howned : app.proxy.StoreOwned (acts.filterMap AppAction.action) s.shadow.service)
  (hs : app.Alike acts tenant s σ)
include hcol hids howned hs

omit [FloorRing F] [Field K] [LinearOrder K] in
/-- Both services take an action that the tenant keeps. -/
theorem alike_serve (s' : AppState F K d) (a : Action (AdaptiveThresholdEngine F))
    (ha : a ∈ acts.filterMap AppAction.action) (hkept : a.keptFor tenant = true)
    (h : app.serve np oj pyd s (.service a) = some s') :
    ∃ σ', app.serve np oj pyd σ (.service a) = some σ' ∧ app.Alike acts tenant s' σ' := by
  obtain ⟨hstep, hbuckets, hlog⟩ := app.serve_service np oj pyd s s' a h
  obtain ⟨u, hu, hseen⟩ := app.proxy.seenBy_kept np oj pyd _ hcol hids tenant _ howned _ _ a hkept ha hs.service hstep
  obtain ⟨σ', hσ', rfl, hbuckets', hlog'⟩ := app.serve_of_step np oj pyd σ u a hu
  refine ⟨σ', hσ', hseen, fun key hkey => ?_, ?_⟩
  · rw [hbuckets, hbuckets', hs.buckets key hkey]
  · rw [hlog, hlog', hs.log]

omit [FloorRing F] [Field K] [LinearOrder K] in
/-- One takes an action that the tenant does not keep. -/
theorem alike_serve_dropped (s' : AppState F K d) (a : Action (AdaptiveThresholdEngine F))
    (hkept : a.keptFor tenant = false) (h : app.serve np oj pyd s (.service a) = some s') :
    app.Alike acts tenant s' σ := by
  obtain ⟨hstep, hbuckets, hlog⟩ := app.serve_service np oj pyd s s' a h
  refine ⟨app.proxy.seenBy_dropped np oj pyd _ hcol hids tenant _ howned _ _ a hkept hs.service hstep,
    fun key hkey => ?_, ?_⟩
  · rw [hbuckets, hs.buckets key hkey]
  · rw [hlog, hs.log]

end

/-- What acts on every tenant's entries does not come from the clients that chat for the
others. -/
def Administered : Prop :=
  ∀ seq call made now uuid, .call seq call made now uuid ∈ acts → call.isChat = false →
    call.action seq ≠ none → ¬ RivalClient acts tenant (RateLimitMiddleware.clientKey call.toHttpRequest)

omit [Field F] [LinearOrder F] [FloorRing F] [Field K] [LinearOrder K] in
/-- A named tenant's own client chats for nobody else. -/
theorem not_rivalClient (hempty : tenant ≠ "") (hdefault : tenant ≠ "default") (call : HttpCall F)
    (htenant : call.tenant = tenant) :
    ¬ RivalClient acts tenant (RateLimitMiddleware.clientKey call.toHttpRequest) := by
  rintro ⟨seq, call', made, now, uuid, -, hrival, hkey⟩
  rw [(call.clientKey_eq_tenant_iff tenant hempty hdefault).mpr htenant,
    call'.clientKey_eq_tenant_iff tenant hempty hdefault] at hkey
  simp [HttpCall.isRival, hkey] at hrival

section
variable (hcol : CollisionFree (app.proxy.requested (acts.filterMap AppAction.action)))
  (hids : ProxyService.IdsApart (acts.filterMap AppAction.action)) (hempty : tenant ≠ "")
  (hdefault : tenant ≠ "default") (hadmin : Administered acts tenant) (s σ s' : AppState F K d)
  (howned : app.proxy.StoreOwned (acts.filterMap AppAction.action) s.shadow.service)
  (hs : app.Alike acts tenant s σ)
include hcol hids howned hs

include hempty hdefault hadmin in
/-- A kept action does the same to both. -/
theorem alike_kept (a : AppAction F K d) (ha : a ∈ acts) (hkept : a.keptFor tenant = true)
    (h : app.step np oj pyd fmt s a = some s') :
    ∃ σ', app.step np oj pyd fmt σ a = some σ' ∧ app.Alike acts tenant s' σ' := by
  cases a with
  | tick now perf =>
    exact app.alike_serve np oj pyd acts tenant hcol hids s σ howned hs s' _ (List.mem_filterMap.mpr ⟨_, ha, rfl⟩) rfl h
  | task rid event =>
    refine app.alike_serve np oj pyd acts tenant hcol hids s σ howned hs s' _
      (List.mem_filterMap.mpr ⟨_, ha, rfl⟩) ?_ h
    simpa [AppAction.keptFor, Action.keptFor, Action.tenant] using hkept
  | resume i event => cases hkept
  | call seq call made now uuid =>
    have hbuckets : ∀ key, ¬ RivalClient acts tenant key →
        (app.limit s.buckets ⟨call.toHttpRequest, made, now⟩).2 key =
          (app.limit σ.buckets ⟨call.toHttpRequest, made, now⟩).2 key :=
      fun key hkey => app.limit_alike _ _ _ key (hs.buckets key hkey)
    cases hb : call.action seq with
    | none =>
      obtain ⟨r, hr⟩ := app.step_of_action_none np oj pyd fmt s seq call made now uuid hb
      obtain ⟨r', hr'⟩ := app.step_of_action_none np oj pyd fmt σ seq call made now uuid hb
      obtain rfl := Option.some.inj (hr.symm.trans h)
      refine ⟨_, hr', app.alike_answered acts tenant s σ _ _ call uuid r r' hs hbuckets fun hchat => ?_⟩
      obtain ⟨streaming, request, hsome⟩ := call.action_of_isChat seq hchat
      rw [hb] at hsome
      cases hsome
    | some b =>
      -- The client is the tenant's own, or one that administers.
      have hclient : ¬ RivalClient acts tenant (RateLimitMiddleware.clientKey call.toHttpRequest) ∧
          b.keptFor tenant = true := by
        by_cases hchat : call.isChat = true
        · have htenant : call.tenant = tenant := by
            simpa [AppAction.keptFor, HttpCall.isRival, hchat] using hkept
          obtain ⟨streaming, request, hsome⟩ := call.action_of_isChat seq hchat
          obtain rfl := Option.some.inj (hsome.symm.trans hb)
          exact ⟨not_rivalClient acts tenant hempty hdefault call htenant, by
            simp [Action.keptFor, Action.tenant, htenant]⟩
        · rw [Bool.not_eq_true] at hchat
          exact ⟨hadmin seq call made now uuid ha hchat (by rw [hb]; exact Option.some_ne_none b),
            call.keptFor_of_not_isChat seq b tenant hchat hb⟩
      have hsame := app.limit_of_eq s.buckets σ.buckets ⟨call.toHttpRequest, made, now⟩ _ rfl
        (hs.buckets _ hclient.1)
      cases hlimit : (app.limit s.buckets ⟨call.toHttpRequest, made, now⟩).1 with
      | some response =>
        rw [app.step_refused np oj pyd fmt s seq call made now uuid response hlimit] at h
        obtain rfl := Option.some.inj h
        exact ⟨_, app.step_refused np oj pyd fmt σ seq call made now uuid response (hsame ▸ hlimit),
          app.alike_answered acts tenant s σ _ _ call uuid _ _ hs hbuckets fun _ => rfl⟩
      | none =>
        rw [app.step_served np oj pyd fmt s seq call made now uuid hlimit b hb] at h
        rw [app.step_served np oj pyd fmt σ seq call made now uuid (hsame ▸ hlimit) b hb]
        refine app.alike_serve np oj pyd acts tenant hcol hids (s.answered _ call uuid _) _ howned ?_ s' b
          (List.mem_filterMap.mpr ⟨_, ha, hb⟩) hclient.2 h
        exact app.alike_answered acts tenant s σ _ _ call uuid _ _ hs hbuckets fun hchat =>
          app.reply_of_isChat np fmt s.shadow σ.shadow seq call hchat

/-- A dropped one does nothing that the tenant sees. -/
theorem alike_dropped (a : AppAction F K d) (ha : a ∈ acts) (hkept : a.keptFor tenant = false)
    (h : app.step np oj pyd fmt s a = some s') : app.Alike acts tenant s' σ := by
  cases a with
  | tick now perf => cases hkept
  | task rid event =>
    refine app.alike_serve_dropped np oj pyd acts tenant hcol hids s σ howned hs s' _ ?_ h
    simpa [AppAction.keptFor, Action.keptFor, Action.tenant] using hkept
  | resume i event =>
    obtain ⟨hservice, hbuckets, hlog⟩ := app.serve_resume np oj pyd s s' i event h
    exact ⟨hservice ▸ hs.service, fun key hkey => (congrFun hbuckets key).trans (hs.buckets key hkey),
      hs.log.trans (by rw [hlog])⟩
  | call seq call made now uuid =>
    have hrival : call.isRival tenant = true := by simpa [AppAction.keptFor] using hkept
    obtain ⟨hchat, htenant⟩ : call.isChat = true ∧ call.tenant ≠ tenant := by
      simpa [HttpCall.isRival] using hrival
    have hbuckets : ∀ key, ¬ RivalClient acts tenant key →
        (app.limit s.buckets ⟨call.toHttpRequest, made, now⟩).2 key = σ.buckets key := by
      intro key hkey
      rw [app.limit_other _ _ key fun heq => hkey ⟨seq, call, made, now, uuid, ha, hrival, heq⟩, hs.buckets key hkey]
    cases hlimit : (app.limit s.buckets ⟨call.toHttpRequest, made, now⟩).1 with
    | some response =>
      rw [app.step_refused np oj pyd fmt s seq call made now uuid response hlimit] at h
      obtain rfl := Option.some.inj h
      exact app.alike_answered_rival acts tenant s σ _ call uuid _ hs hbuckets hrival
    | none =>
      obtain ⟨streaming, request, hb⟩ := call.action_of_isChat seq hchat
      rw [app.step_served np oj pyd fmt s seq call made now uuid hlimit _ hb] at h
      refine app.alike_serve_dropped np oj pyd acts tenant hcol hids (s.answered _ call uuid _) σ howned ?_ s' _ ?_ h
      · exact app.alike_answered_rival acts tenant s σ _ call uuid _ hs hbuckets hrival
      · simp [Action.keptFor, Action.tenant, htenant]

end

/-- **The tenants are apart.**  Take a tenant that names itself, and leave the other tenants'
chats out of a run: the run goes through, each chat of the tenant is refused or begun as it
was, every task of it is as it was, and the store holds what the tenant had in it. -/
theorem tenants_apart (s₀ s : AppState F K d) (htasks : ∀ rid, s₀.shadow.service.tasks rid = none)
    (hstore : s₀.shadow.service.store.items = [])
    (hcol : CollisionFree (app.proxy.requested (acts.filterMap AppAction.action)))
    (hids : ProxyService.IdsApart (acts.filterMap AppAction.action)) (hempty : tenant ≠ "")
    (hdefault : tenant ≠ "default") (hadmin : Administered acts tenant)
    (hrun : Run.exec (app.step np oj pyd fmt) s₀ acts = some s) :
    ∃ s', Run.exec (app.step np oj pyd fmt) s₀ (acts.filter (AppAction.keptFor tenant)) = some s' ∧
      s'.log.filter (Answered.isChatOf tenant) = s.log.filter (Answered.isChatOf tenant) ∧
      (∀ rid, rid.tenant = tenant → s'.shadow.service.tasks rid = s.shadow.service.tasks rid) ∧
      s'.shadow.service.store.items =
        s.shadow.service.store.items.filter (app.proxy.isOf (acts.filterMap AppAction.action) tenant) := by
  have howned : app.proxy.StoreOwned (acts.filterMap AppAction.action) s₀.shadow.service := by
    constructor
    · intro rid t ht; rw [htasks rid] at ht; cases ht
    · intro e he; rw [hstore] at he; cases he
  have hstart : app.Alike acts tenant s₀ s₀ := by
    refine ⟨⟨rfl, rfl, rfl, fun _ _ => rfl, fun rid _ => htasks rid, ?_⟩, fun _ _ => rfl, rfl⟩
    apply Keyed.ext_items
    show s₀.shadow.service.store.items = s₀.shadow.service.store.items.filter _
    rw [hstore]
    rfl
  have howned_step : ∀ u u' a, a ∈ acts → app.proxy.StoreOwned (acts.filterMap AppAction.action) u.shadow.service →
      app.step np oj pyd fmt u a = some u' →
      app.proxy.StoreOwned (acts.filterMap AppAction.action) u'.shadow.service := by
    intro u u' a ha hu hstep
    rcases app.step_service np oj pyd fmt u u' a hstep with hsame | ⟨b, hb, hb'⟩
    · exact hsame ▸ hu
    · exact app.proxy.storeOwned_step np oj pyd _ _ _ b (List.mem_filterMap.mpr ⟨a, ha, hb⟩) hu hb'
  obtain ⟨s', hs', -, halike⟩ := Run.exec_filter (app.step np oj pyd fmt) (AppAction.keptFor tenant)
    (fun s σ => app.proxy.StoreOwned (acts.filterMap AppAction.action) s.shadow.service ∧ app.Alike acts tenant s σ)
    acts
    (by
      rintro a ha hkept u u' σ ⟨hu, halike⟩ hstep
      obtain ⟨σ', hσ', halike'⟩ := app.alike_kept np oj pyd fmt acts tenant hcol hids hempty hdefault hadmin u σ u' hu
        halike a ha hkept hstep
      exact ⟨σ', hσ', howned_step u u' a ha hu hstep, halike'⟩)
    (by
      rintro a ha hkept u u' σ ⟨hu, halike⟩ hstep
      exact ⟨howned_step u u' a ha hu hstep,
        app.alike_dropped np oj pyd fmt acts tenant hcol hids u σ u' hu halike a ha hkept hstep⟩)
    s₀ s s₀ ⟨howned, hstart⟩ hrun
  exact ⟨s', hs', halike.log, halike.service.own, congrArg Keyed.items halike.service.store⟩

end

end

/-! ## Two tenants and an operator -/

/-- The defaults, at a request a second. -/
def slowApplication : Application ℚ :=
  ofSettings { defaultSettings with rateLimitRps := 1, unitInterval := by decide +kernel } .ascii
    ProxyService.plainService.cache.embed ProxyService.plainService.resolveProvider "0.1.0"

def chatOf (tenant : String) : HttpCall ℚ := { endpoint := .chatCompletions ProxyService.oceanRequest, tenantId := some tenant }

/-- A tenant asks twice within a second, and once more later; a rival asks the same in
between, and an operator flushes another model. -/
def rivalCalls : List (AppAction ℚ ℚ 2) := [
  .call 0 (chatOf "team") 0 0 "a",
  .task ⟨"team", 0⟩ .embedded,
  .task ⟨"team", 0⟩ .searched,
  .call 0 (chatOf "rival") 0 0 "b",
  .task ⟨"rival", 0⟩ .embedded,
  .task ⟨"team", 0⟩ (.completed framedText),
  .task ⟨"team", 0⟩ (.storeEmbedded ProxyService.someReadings.entryId),
  .task ⟨"team", 0⟩ .upserted,
  .task ⟨"rival", 0⟩ .searched,
  .task ⟨"rival", 0⟩ (.completed framedText),
  .task ⟨"rival", 0⟩ (.storeEmbedded ProxyService.someReadings.uuid),
  .task ⟨"rival", 0⟩ .upserted,
  .call 1 (chatOf "team") (1 / 2) (1 / 2) "c",
  .call 0 { endpoint := .invalidateModel "gpt-4", clientHost := some "10.0.0.7" } (1 / 2) (1 / 2) "d",
  .call 2 (chatOf "team") 1 1 "e",
  .task ⟨"team", 2⟩ .embedded,
  .task ⟨"team", 2⟩ .searched,
  .task ⟨"team", 2⟩ (.incremented ProxyService.someReadings.uuid false)]

def isRefused {F : Type} : Reply F → Bool
  | .refused _ => true
  | _ => false

/-- No report is asked for. -/
def noFormat : FloatFormat ℚ := ⟨toString, toString⟩

theorem rivalCalls_exec :
    ((Run.exec (slowApplication.step (.sorting Rat.sqrt) framedCodec .strict noFormat)
      { shadow := { service := ProxyService.adaptiveStart } } rivalCalls).any fun s =>
        (s.shadow.service.tasks ⟨"team", 2⟩).any (fun t => t.phase.isHit) &&
        s.log.map (fun answered => isRefused answered.reply) == [false, false, true, false, false] &&
        s.shadow.service.store.items.length == 2) = true := by
  decide +kernel

theorem rivalCalls_collisionFree :
    CollisionFree (slowApplication.proxy.requested (rivalCalls.filterMap AppAction.action)) := by
  have hsigs : ∀ s ∈ slowApplication.proxy.requested (rivalCalls.filterMap AppAction.action),
      s = ProxyService.plainService.requestSignature ProxyService.oceanRequest "team" ∨
        s = ProxyService.plainService.requestSignature ProxyService.oceanRequest "rival" := by
    rintro s ⟨rid, streaming, request, hmem, rfl⟩
    simp only [rivalCalls, chatOf, List.filterMap_cons, List.filterMap_nil, AppAction.action, HttpCall.action,
      HttpCall.tenant, Option.getD_some, List.mem_cons, Action.request.injEq, reduceCtorEq, List.not_mem_nil,
      or_false, false_or] at hmem
    obtain ⟨rfl, -, rfl⟩ | ⟨rfl, -, rfl⟩ | ⟨rfl, -, rfl⟩ | ⟨rfl, -, rfl⟩ := hmem
    · exact Or.inl rfl
    · exact Or.inr rfl
    · exact Or.inl rfl
    · exact Or.inl rfl
  have hdigest : digestPrefix 20 (ProxyService.plainService.requestSignature ProxyService.oceanRequest "team").raw ≠
      digestPrefix 20 (ProxyService.plainService.requestSignature ProxyService.oceanRequest "rival").raw := by
    decide +kernel
  constructor
  · rintro _ ⟨s, hs, rfl⟩ _ ⟨t, ht, rfl⟩ h
    obtain rfl | rfl := hsigs s hs <;> obtain rfl | rfl := hsigs t ht
    · rfl
    · exact absurd h hdigest
    · exact absurd h.symm hdigest
    · rfl
  · rintro _ ⟨s, hs, rfl⟩ _ ⟨t, ht, rfl⟩ -
    obtain rfl | rfl := hsigs s hs <;> obtain rfl | rfl := hsigs t ht <;> rfl

theorem rivalCalls_idsApart : ProxyService.IdsApart (rivalCalls.filterMap AppAction.action) := by
  intro rid rid' id h h'
  simp only [rivalCalls, chatOf, List.filterMap_cons, List.filterMap_nil, AppAction.action, HttpCall.action,
    List.mem_cons, Action.task.injEq, Event.storeEmbedded.injEq, reduceCtorEq, List.not_mem_nil, and_false,
    or_false, false_or] at h h'
  obtain ⟨rfl, rfl⟩ | ⟨rfl, rfl⟩ := h <;> obtain ⟨rfl, hid⟩ | ⟨rfl, hid⟩ := h'
  · rfl
  · exact absurd hid (by decide)
  · exact absurd hid (by decide)
  · rfl

/-- The operator's client is its own. -/
theorem rivalCalls_administered : Administered rivalCalls "team" := by
  rintro seq call made now uuid hmem hchat - ⟨seq', call', made', now', uuid', hmem', hrival, hkey⟩
  simp only [rivalCalls, List.mem_cons, AppAction.call.injEq, reduceCtorEq, List.not_mem_nil, or_false,
    false_or] at hmem hmem'
  obtain ⟨-, rfl, -⟩ | ⟨-, rfl, -⟩ | ⟨-, rfl, -⟩ | ⟨-, rfl, -⟩ | ⟨-, rfl, -⟩ := hmem
  · cases hchat
  · cases hchat
  · cases hchat
  · obtain ⟨-, rfl, -⟩ | ⟨-, rfl, -⟩ | ⟨-, rfl, -⟩ | ⟨-, rfl, -⟩ | ⟨-, rfl, -⟩ := hmem'
    · exact absurd hkey (by decide)
    · exact absurd hkey (by decide)
    · exact absurd hkey (by decide)
    · cases hrival
    · exact absurd hkey (by decide)
  · cases hchat

/-- The rival's entry is in the store, and the second call is refused and the third a HIT just
as they are without it. -/
theorem tenants_apart_rival : ∃ s s',
    Run.exec (slowApplication.step (.sorting Rat.sqrt) framedCodec .strict noFormat)
      { shadow := { service := ProxyService.adaptiveStart } } rivalCalls = some s ∧
    Run.exec (slowApplication.step (.sorting Rat.sqrt) framedCodec .strict noFormat)
      { shadow := { service := ProxyService.adaptiveStart } } (rivalCalls.filter (AppAction.keptFor "team")) = some s' ∧
    (s.shadow.service.tasks ⟨"team", 2⟩).any (fun t => t.phase.isHit) = true ∧
    s.log.map (fun answered => isRefused answered.reply) = [false, false, true, false, false] ∧
    s.shadow.service.store.items.length = 2 ∧
    s'.log.filter (Answered.isChatOf "team") = s.log.filter (Answered.isChatOf "team") ∧
    s'.shadow.service.tasks ⟨"team", 2⟩ = s.shadow.service.tasks ⟨"team", 2⟩ := by
  obtain ⟨s, hs, hend⟩ := (Option.any_eq_true _ _).mp rivalCalls_exec
  rw [Bool.and_eq_true, Bool.and_eq_true, beq_iff_eq, beq_iff_eq] at hend
  obtain ⟨s', hs', hlog, hown, -⟩ := tenants_apart (.sorting Rat.sqrt) framedCodec .strict noFormat slowApplication
    rivalCalls "team" { shadow := { service := ProxyService.adaptiveStart } } s (fun _ => rfl) rfl
    rivalCalls_collisionFree rivalCalls_idsApart (by decide) (by decide) rivalCalls_administered hs
  exact ⟨s, s', hs, hs', hend.1.1, hend.1.2, hend.2, hlog, hown ⟨"team", 2⟩ rfl⟩

end Application

end CachingLayer
