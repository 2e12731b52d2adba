import CachingLayer.Basis.Run
import CachingLayer.Proxy.Service

/-!
# The service under concurrency

Requests interleaved at their awaits.  A request is a task that stands at one await
(`Phase`); an `Event` is what comes back there, and `advance` runs the task on to its
next await: the task after, what it does to the store in between, and its effects.
Around the tasks, the clocks tick, threshold feedback comes in, entries are invalidated
(`Action`).  `step` takes one action and refuses those that do not fit the state.

What a step can do is said once: to the task that goes on (`Advances`) and to the whole
state (`Steps`).  What it does to the tasks there are (`step_tasks`, `step_tasks_of_some`),
to the store (`step_store`) and the entries in it (`step_entries`), to the policy and the
effects follows from the two.

The clocks may be set anywhere: nothing below asks them to be monotone.
-/

namespace CachingLayer

open Text

structure RequestId where
  tenant : String
  seq : Nat
deriving DecidableEq

/-- Where a task stands: the await it is at, or how it ended. -/
inductive Phase (F : Type)
  /-- `embed`, in `lookup`. -/
  | embedding
  /-- `search`. -/
  | searching
  /-- `increment_hit` on the best match. -/
  | incrementing (best : ScoredEntry F)
  /-- The upstream's `complete`. -/
  | completing (l : CacheLookup F) (started : ℚ)
  /-- The next chunk of the upstream's `stream`. -/
  | forwarding (l : CacheLookup F) (assembler : StreamAssembler)
  /-- `embed`, in `store_response`. -/
  | storing (l : CacheLookup F) (response : ChatCompletionResponse) (ttlSeconds : Int) (tags : List String)
  /-- `upsert`. -/
  | upserting (l : CacheLookup F) (response : ChatCompletionResponse) (entry : CacheEntry F)
  /-- Answered from the cache. -/
  | hit (l : CacheLookup F) (best : ScoredEntry F) (cached : ChatCompletionResponse)
  /-- Answered by the upstream. -/
  | missed (l : CacheLookup F) (response : Option ChatCompletionResponse)
  | failed (e : PyError)
  | abandoned

def Phase.running {F : Type} : Phase F → Bool
  | embedding | searching | incrementing _ | completing .. | forwarding .. | storing .. | upserting .. => true
  | hit .. | missed .. | failed _ | abandoned => false

def Phase.isHit {F : Type} : Phase F → Bool
  | hit .. => true
  | _ => false

structure Task (F : Type) where
  streaming : Bool
  request : ChatCompletionRequest
  /-- What the threshold policy said when the request came in. -/
  threshold : Option F
  started : ℚ
  /-- The chunks the body has yielded. -/
  sent : List Bytes := []
  phase : Phase F := .embedding

/-- A task checked to be answered from the cache. -/
theorem exists_hit {F : Type} (t : Option (Task F)) (p : Task F → ScoredEntry F → Bool)
    (h : t.any (fun q =>
      match q.phase with
      | .hit _ best _ => p q best
      | _ => false) = true) :
    ∃ q l best cached, t = some q ∧ q.phase = .hit l best cached ∧ p q best = true := by
  obtain ⟨q, hq, hphase⟩ := (Option.any_eq_true _ _).mp h
  cases hp : q.phase with
  | hit l best cached =>
    rw [hp] at hphase
    exact ⟨q, l, best, cached, hq, hp, hphase⟩
  | _ => rw [hp] at hphase; cases hphase

/-- The same of one whose upstream is working on it. -/
theorem exists_completing {F : Type} (t : Option (Task F))
    (h : t.any (fun q =>
      match q.phase with
      | .completing _ _ => true
      | _ => false) = true) :
    ∃ q l started, t = some q ∧ q.phase = .completing l started := by
  obtain ⟨q, hq, hphase⟩ := (Option.any_eq_true _ _).mp h
  cases hp : q.phase with
  | completing l started => exact ⟨q, l, started, hq, hp⟩
  | _ => rw [hp] at hphase; cases hphase

/-- And of one whose entry is on its way into the store. -/
theorem exists_upserting {F : Type} (t : Option (Task F)) (p : Task F → CacheEntry F → Bool)
    (h : t.any (fun q =>
      match q.phase with
      | .upserting _ _ e => p q e
      | _ => false) = true) :
    ∃ q l response e, t = some q ∧ q.phase = .upserting l response e ∧ p q e = true := by
  obtain ⟨q, hq, hphase⟩ := (Option.any_eq_true _ _).mp h
  cases hp : q.phase with
  | upserting l response e =>
    rw [hp] at hphase
    exact ⟨q, l, response, e, hq, hp, hphase⟩
  | _ => rw [hp] at hphase; cases hphase

/-- What comes back at an await. -/
inductive Event
  | embedded
  | searched
  | incremented (uuid : String) (sampled : Bool)
  | completed (response : ChatCompletionResponse)
  | chunk (bytes : Bytes)
  | ended (uuid : String)
  | storeEmbedded (entryId : String)
  | upserted
  /-- The client takes the next chunk of a `hit_body`. -/
  | taken
  | raised (e : PyError)
  /-- The client is gone. -/
  | abandoned

inductive StoreOp (F : Type)
  | keep
  | incrementHit (entryId : String)
  | upsert (entry : CacheEntry F)

def StoreOp.apply {F : Type} : StoreOp F → InMemoryVectorStore F → InMemoryVectorStore F
  | keep, store => store
  | incrementHit id, store => store.incrementHit id
  | upsert e, store => store.upsert e

inductive Action (E : Type)
  | tick (now perf : ℚ)
  | feedback (update : E → E)
  | delete (model systemPromptHash tag : Option String)
  | clear
  | request (rid : RequestId) (streaming : Bool) (request : ChatCompletionRequest)
  | task (rid : RequestId) (event : Event)

instance {E : Type} : Inhabited (Action E) := ⟨.clear⟩

structure State (F E : Type) where
  store : InMemoryVectorStore F := .new
  /-- `time.time()`. -/
  now : ℚ
  /-- `time.perf_counter()`. -/
  perf : ℚ
  policy : E
  tasks : RequestId → Option (Task F) := fun _ => none
  effects : List (Effect F) := []

/-- `int(x)`. -/
def truncate (x : ℚ) : Int := if 0 ≤ x then ⌊x⌋ else ⌈x⌉

namespace ProxyService

section
variable {F E : Type} (svc : ProxyService F E)

/-- The policy, and on to `store_response` when its TTL is positive. -/
def keep (t : Task F) (l : CacheLookup F) (response : ChatCompletionResponse) : Task F :=
  let policy := svc.resolvePolicy t.request response
  { t with
    phase :=
      if policy.1 > 0 then .storing l response policy.1 policy.2 else .missed l (some response) }

/-- A task to be kept is on its way to the store, or done. -/
theorem keep_cases (t : Task F) (l : CacheLookup F) (response : ChatCompletionResponse) :
    (0 < (svc.resolvePolicy t.request response).1 ∧
      svc.keep t l response = { t with
        phase := .storing l response (svc.resolvePolicy t.request response).1
          (svc.resolvePolicy t.request response).2 }) ∨
      svc.keep t l response = { t with phase := .missed l (some response) } := by
  unfold keep
  simp only []
  split
  · next ht => exact Or.inl ⟨ht, rfl⟩
  · exact Or.inr rfl

end

section
variable {F E : Type} [Field F] [LinearOrder F] (np : Numpy F) (oj : Orjson) (pyd : Pydantic)
  (svc : ProxyService F E)

/-- What a request's search finds in a store. -/
def search (rid : RequestId) (request : ChatCompletionRequest) (now : ℚ) (store : InMemoryVectorStore F) :
    Except PyError (List (ScoredEntry F)) :=
  store.search np now (svc.requestSignature request rid.tenant).namespaceKey
    (svc.cache.embed request.latestUserPrompt) svc.cache.topK

/-- The task runs from its await to the next one.  `found` is what a search would find. -/
def advance (rid : RequestId) (t : Task F) (now perf : ℚ) (found : Except PyError (List (ScoredEntry F))) :
    Event → Option (Task F × StoreOp F × List (Effect F))
  | .embedded =>
    match t.phase with
    | .embedding => some ({ t with phase := .searching }, .keep, [])
    | _ => none
  | .searched =>
    match t.phase, found with
    | .searching, .error e => some ({ t with phase := .failed e }, .keep, [])
    | .searching, .ok found =>
      let l := svc.cache.outcome t.threshold found ((perf - t.started) * 1000)
      match l.served with
      | some best => some ({ t with phase := .incrementing best }, .keep, [])
      | none =>
        some ({ t with
            phase := if t.streaming then .forwarding l (.new t.request.model) else .completing l perf },
          .keep, svc.lookupEffects t.request rid.tenant t.threshold l)
    | _, _ => none
  | .incremented uuid sampled =>
    match t.phase with
    | .incrementing best =>
      let l := svc.cache.outcome t.threshold [best] ((perf - t.started) * 1000)
      let effects := svc.lookupEffects t.request rid.tenant t.threshold l
      match ChatCompletionResponse.modelValidate pyd uuid (truncate now) best.entry.response with
      | .error e => some ({ t with phase := .failed e }, .incrementHit best.id, effects)
      | .ok cached =>
        some ({ t with phase := .hit l best cached }, .incrementHit best.id,
          effects ++ recordSavings t.request cached ::
            if t.streaming then [] else svc.maybeValidate t.request cached sampled)
    | _ => none
  | .completed response =>
    match t.phase with
    | .completing l started =>
      some (svc.keep t l response, .keep, [svc.providerLatency t.request started perf])
    | _ => none
  | .chunk bytes =>
    match t.phase with
    | .forwarding l a =>
      match a.push oj bytes with
      | .error e => some ({ t with phase := .failed e }, .keep, [])
      | .ok a' => some ({ t with sent := t.sent ++ [bytes], phase := .forwarding l a' }, .keep, [])
    | _ => none
  | .ended uuid =>
    match t.phase with
    | .forwarding l a =>
      if ¬ a.parts.completed then some ({ t with phase := .missed l none }, .keep, [])
      else
        match a.buildResponse pyd uuid (truncate now) with
        | .error e => some ({ t with phase := .failed e }, .keep, [])
        | .ok response => some (svc.keep t l response, .keep, [])
    | _ => none
  | .storeEmbedded id =>
    match t.phase with
    | .storing l response ttlSeconds tags =>
      some ({ t with
          phase := .upserting l response
            (svc.entryFor (svc.requestSignature t.request rid.tenant) t.request.latestUserPrompt response
              ttlSeconds tags id now) }, .keep, [])
    | _ => none
  | .upserted =>
    match t.phase with
    | .upserting l response entry =>
      some ({ t with phase := .missed l (some response) }, .upsert entry, [])
    | _ => none
  | .taken =>
    match t.phase with
    | .hit _ _ cached =>
      if t.streaming then
        (responseToSse oj cached)[t.sent.length]?.map fun chunk =>
          ({ t with sent := t.sent ++ [chunk] }, .keep, [])
      else none
    | _ => none
  | .raised e => if t.phase.running then some ({ t with phase := .failed e }, .keep, []) else none
  | .abandoned => if t.phase.running then some ({ t with phase := .abandoned }, .keep, []) else none

def step (s : State F E) : Action E → Option (State F E)
  | .tick now perf => some { s with now, perf }
  | .feedback update => some { s with policy := update s.policy }
  | .delete model systemPromptHash tag =>
    some { s with store := (s.store.delete model systemPromptHash tag).2 }
  | .clear => some { s with store := s.store.clear.2 }
  | .request rid streaming request =>
    match s.tasks rid with
    | some _ => none
    | none =>
      some { s with
        tasks := Function.update s.tasks rid (some {
          streaming, request, threshold := svc.thresholdFor s.policy request, started := s.perf }) }
  | .task rid event =>
    match s.tasks rid with
    | none => none
    | some t =>
      match svc.advance oj pyd rid t s.now s.perf (svc.search np rid t.request s.now s.store) event with
      | none => none
      | some (t', op, effects) =>
        some { s with
          store := op.apply s.store
          tasks := Function.update s.tasks rid (some t')
          effects := s.effects ++ effects }

/-! ## What a step can do -/

theorem step_task (s s' : State F E) (rid : RequestId) (event : Event)
    (h : svc.step np oj pyd s (.task rid event) = some s') :
    ∃ t t' op effects, s.tasks rid = some t ∧
      svc.advance oj pyd rid t s.now s.perf (svc.search np rid t.request s.now s.store) event =
        some (t', op, effects) ∧
      s' = { s with
        store := op.apply s.store, tasks := Function.update s.tasks rid (some t')
        effects := s.effects ++ effects } := by
  unfold step at h
  cases ht : s.tasks rid with
  | none => simp only [ht] at h; cases h
  | some t =>
    simp only [ht] at h
    cases ha : svc.advance oj pyd rid t s.now s.perf (svc.search np rid t.request s.now s.store) event with
    | none => rw [ha] at h; cases h
    | some r =>
      obtain ⟨t', op, effects⟩ := r
      rw [ha] at h
      exact ⟨t, t', op, effects, rfl, ha, (Option.some.inj h).symm⟩

theorem step_task_of_advance (s : State F E) (rid : RequestId) (t t' : Task F) (event : Event) (op : StoreOp F)
    (effects : List (Effect F)) (ht : s.tasks rid = some t)
    (h : svc.advance oj pyd rid t s.now s.perf (svc.search np rid t.request s.now s.store) event =
      some (t', op, effects)) :
    svc.step np oj pyd s (.task rid event) = some { s with
      store := op.apply s.store, tasks := Function.update s.tasks rid (some t')
      effects := s.effects ++ effects } := by
  unfold step
  simp only [ht, h]

theorem step_request (s s' : State F E) (rid : RequestId) (streaming : Bool) (request : ChatCompletionRequest)
    (h : svc.step np oj pyd s (.request rid streaming request) = some s') :
    s.tasks rid = none ∧
      s' = { s with
        tasks := Function.update s.tasks rid (some {
          streaming, request, threshold := svc.thresholdFor s.policy request, started := s.perf }) } := by
  unfold step at h
  cases ht : s.tasks rid with
  | none => simp only [ht] at h; exact ⟨rfl, (Option.some.inj h).symm⟩
  | some t => simp only [ht] at h; cases h

theorem step_request_of_new (s : State F E) (rid : RequestId) (streaming : Bool) (request : ChatCompletionRequest)
    (h : s.tasks rid = none) :
    svc.step np oj pyd s (.request rid streaming request) = some { s with
      tasks := Function.update s.tasks rid (some {
        streaming, request, threshold := svc.thresholdFor s.policy request, started := s.perf }) } := by
  unfold step
  simp only [h]

/-! ## What a task can do -/

/-- What a task can do at its await, branch by branch. -/
inductive Advances (rid : RequestId) (t : Task F) (now perf : ℚ)
    (found : Except PyError (List (ScoredEntry F))) : Event → Task F → StoreOp F → List (Effect F) → Prop
  | embedded (hp : t.phase = .embedding) :
    Advances rid t now perf found .embedded { t with phase := .searching } .keep []
  | searchRaised (e : PyError) (hp : t.phase = .searching) (hfound : found = .error e) :
    Advances rid t now perf found .searched { t with phase := .failed e } .keep []
  | matched (hits : List (ScoredEntry F)) (best : ScoredEntry F) (hp : t.phase = .searching)
    (hfound : found = .ok hits) (hhead : hits.head? = some best)
    (hscore : svc.cache.effectiveThreshold t.threshold ≤ best.score) :
    Advances rid t now perf found .searched { t with phase := .incrementing best } .keep []
  | unmatchedStream (hits : List (ScoredEntry F)) (l : CacheLookup F) (hp : t.phase = .searching)
    (hfound : found = .ok hits) (hl : l = svc.cache.outcome t.threshold hits ((perf - t.started) * 1000))
    (hmiss : l.status = .miss) (hstream : t.streaming = true) :
    Advances rid t now perf found .searched { t with phase := .forwarding l (.new t.request.model) } .keep
      (svc.lookupEffects t.request rid.tenant t.threshold l)
  | unmatchedBuffered (hits : List (ScoredEntry F)) (l : CacheLookup F) (hp : t.phase = .searching)
    (hfound : found = .ok hits) (hl : l = svc.cache.outcome t.threshold hits ((perf - t.started) * 1000))
    (hmiss : l.status = .miss) (hstream : t.streaming = false) :
    Advances rid t now perf found .searched { t with phase := .completing l perf } .keep
      (svc.lookupEffects t.request rid.tenant t.threshold l)
  | cachedInvalid (best : ScoredEntry F) (uuid : String) (sampled : Bool) (e : PyError) (l : CacheLookup F)
    (hp : t.phase = .incrementing best)
    (hl : l = svc.cache.outcome t.threshold [best] ((perf - t.started) * 1000))
    (hvalid : ChatCompletionResponse.modelValidate pyd uuid (truncate now) best.entry.response = .error e) :
    Advances rid t now perf found (.incremented uuid sampled) { t with phase := .failed e }
      (.incrementHit best.id) (svc.lookupEffects t.request rid.tenant t.threshold l)
  | cached (best : ScoredEntry F) (uuid : String) (sampled : Bool) (response : ChatCompletionResponse)
    (l : CacheLookup F) (hp : t.phase = .incrementing best)
    (hl : l = svc.cache.outcome t.threshold [best] ((perf - t.started) * 1000))
    (hvalid : ChatCompletionResponse.modelValidate pyd uuid (truncate now) best.entry.response = .ok response) :
    Advances rid t now perf found (.incremented uuid sampled) { t with phase := .hit l best response }
      (.incrementHit best.id)
      (svc.lookupEffects t.request rid.tenant t.threshold l ++ recordSavings t.request response ::
        if t.streaming then [] else svc.maybeValidate t.request response sampled)
  | completed (l : CacheLookup F) (started : ℚ) (response : ChatCompletionResponse)
    (hp : t.phase = .completing l started) :
    Advances rid t now perf found (.completed response) (svc.keep t l response) .keep
      [svc.providerLatency t.request started perf]
  | chunkRaised (l : CacheLookup F) (a : StreamAssembler) (bytes : Bytes) (e : PyError)
    (hp : t.phase = .forwarding l a) (hpush : a.push oj bytes = .error e) :
    Advances rid t now perf found (.chunk bytes) { t with phase := .failed e } .keep []
  | chunk (l : CacheLookup F) (a a' : StreamAssembler) (bytes : Bytes) (hp : t.phase = .forwarding l a)
    (hpush : a.push oj bytes = .ok a') :
    Advances rid t now perf found (.chunk bytes)
      { t with sent := t.sent ++ [bytes], phase := .forwarding l a' } .keep []
  | incomplete (l : CacheLookup F) (a : StreamAssembler) (uuid : String) (hp : t.phase = .forwarding l a)
    (hc : ¬ a.parts.completed = true) :
    Advances rid t now perf found (.ended uuid) { t with phase := .missed l none } .keep []
  | buildRaised (l : CacheLookup F) (a : StreamAssembler) (uuid : String) (e : PyError)
    (hp : t.phase = .forwarding l a) (hc : a.parts.completed = true)
    (hbuild : a.buildResponse pyd uuid (truncate now) = .error e) :
    Advances rid t now perf found (.ended uuid) { t with phase := .failed e } .keep []
  | built (l : CacheLookup F) (a : StreamAssembler) (uuid : String) (response : ChatCompletionResponse)
    (hp : t.phase = .forwarding l a) (hc : a.parts.completed = true)
    (hbuild : a.buildResponse pyd uuid (truncate now) = .ok response) :
    Advances rid t now perf found (.ended uuid) (svc.keep t l response) .keep []
  | storeEmbedded (l : CacheLookup F) (response : ChatCompletionResponse) (ttlSeconds : Int)
    (tags : List String) (id : String) (hp : t.phase = .storing l response ttlSeconds tags) :
    Advances rid t now perf found (.storeEmbedded id)
      { t with
        phase := .upserting l response
          (svc.entryFor (svc.requestSignature t.request rid.tenant) t.request.latestUserPrompt response
            ttlSeconds tags id now) } .keep []
  | upserted (l : CacheLookup F) (response : ChatCompletionResponse) (entry : CacheEntry F)
    (hp : t.phase = .upserting l response entry) :
    Advances rid t now perf found .upserted { t with phase := .missed l (some response) } (.upsert entry) []
  | taken (l : CacheLookup F) (best : ScoredEntry F) (response : ChatCompletionResponse) (chunk : Bytes)
    (hp : t.phase = .hit l best response) (hstream : t.streaming = true)
    (hchunk : (responseToSse oj response)[t.sent.length]? = some chunk) :
    Advances rid t now perf found .taken { t with sent := t.sent ++ [chunk] } .keep []
  | raised (e : PyError) (hp : t.phase.running = true) :
    Advances rid t now perf found (.raised e) { t with phase := .failed e } .keep []
  | abandoned (hp : t.phase.running = true) :
    Advances rid t now perf found .abandoned { t with phase := .abandoned } .keep []

section
variable (rid : RequestId) (t t' : Task F) (now perf : ℚ) (found : Except PyError (List (ScoredEntry F)))
  (event : Event) (op : StoreOp F) (effects : List (Effect F))

/-- **Inversion.**  A task does one of the things of `Advances`, or nothing. -/
theorem advances_of_advance
    (h : svc.advance oj pyd rid t now perf found event = some (t', op, effects)) :
    svc.Advances oj pyd rid t now perf found event t' op effects := by
  cases event <;> unfold advance at h <;> simp only [] at h
  case embedded =>
    split at h
    · next hp => obtain ⟨rfl, rfl, rfl⟩ := h; exact .embedded hp
    · cases h
  case searched =>
    split at h
    · next e hp => obtain ⟨rfl, rfl, rfl⟩ := h; exact .searchRaised e hp rfl
    · next hits hp =>
      split at h
      · next best hserved =>
        obtain ⟨rfl, rfl, rfl⟩ := h
        obtain ⟨hhead, hscore⟩ := (svc.cache.served_outcome _ _ _ _).mp hserved
        exact .matched hits best hp rfl hhead hscore
      · next hserved =>
        obtain ⟨rfl, rfl, rfl⟩ := h
        have hmiss := (svc.cache.served_outcome_eq_none_iff _ _ _).mp hserved
        by_cases hstream : t.streaming = true
        · rw [if_pos hstream]; exact .unmatchedStream hits _ hp rfl rfl hmiss hstream
        · rw [if_neg hstream]
          exact .unmatchedBuffered hits _ hp rfl rfl hmiss (Bool.eq_false_iff.mpr hstream)
    · cases h
  case incremented uuid sampled =>
    split at h
    · next best hp =>
      split at h
      · next e hvalid => obtain ⟨rfl, rfl, rfl⟩ := h; exact .cachedInvalid best uuid sampled e _ hp rfl hvalid
      · next response hvalid => obtain ⟨rfl, rfl, rfl⟩ := h; exact .cached best uuid sampled response _ hp rfl hvalid
    · cases h
  case completed response =>
    split at h
    · next l started hp => obtain ⟨rfl, rfl, rfl⟩ := h; exact .completed l started response hp
    · cases h
  case chunk bytes =>
    split at h
    · next l a hp =>
      split at h
      · next e hpush => obtain ⟨rfl, rfl, rfl⟩ := h; exact .chunkRaised l a bytes e hp hpush
      · next a' hpush => obtain ⟨rfl, rfl, rfl⟩ := h; exact .chunk l a a' bytes hp hpush
    · cases h
  case ended uuid =>
    split at h
    · next l a hp =>
      split at h
      · next hc => obtain ⟨rfl, rfl, rfl⟩ := h; exact .incomplete l a uuid hp hc
      · next hc =>
        split at h
        · next e hbuild => obtain ⟨rfl, rfl, rfl⟩ := h; exact .buildRaised l a uuid e hp (not_not.mp hc) hbuild
        · next response hbuild =>
          obtain ⟨rfl, rfl, rfl⟩ := h
          exact .built l a uuid response hp (not_not.mp hc) hbuild
    · cases h
  case storeEmbedded id =>
    split at h
    · next l response ttlSeconds tags hp =>
      obtain ⟨rfl, rfl, rfl⟩ := h
      exact .storeEmbedded l response ttlSeconds tags id hp
    · cases h
  case upserted =>
    split at h
    · next l response entry hp => obtain ⟨rfl, rfl, rfl⟩ := h; exact .upserted l response entry hp
    · cases h
  case taken =>
    split at h
    · next l best response hp =>
      split at h
      · next hstream =>
        obtain ⟨chunk, hchunk, hc⟩ := Option.map_eq_some_iff.mp h
        obtain ⟨rfl, rfl, rfl⟩ := hc
        exact .taken l best response chunk hp hstream hchunk
      · cases h
    · cases h
  case raised e =>
    split at h
    · next hp => obtain ⟨rfl, rfl, rfl⟩ := h; exact .raised e hp
    · cases h
  case abandoned =>
    split at h
    · next hp => obtain ⟨rfl, rfl, rfl⟩ := h; exact .abandoned hp
    · cases h

section
variable (h : svc.Advances oj pyd rid t now perf found event t' op effects)
include h

/-- A task keeps its request. -/
theorem Advances.request :
    t'.streaming = t.streaming ∧ t'.request = t.request ∧ t'.threshold = t.threshold := by
  have hkeep : ∀ l response, (svc.keep t l response).streaming = t.streaming ∧
      (svc.keep t l response).request = t.request ∧ (svc.keep t l response).threshold = t.threshold :=
    fun _ _ => ⟨rfl, rfl, rfl⟩
  cases h with
  | completed l started response => exact hkeep l response
  | built l a uuid response => exact hkeep l response
  | _ => exact ⟨rfl, rfl, rfl⟩

/-- A task touches the store at two awaits only. -/
theorem Advances.storeOp :
    op = .keep ∨
      (∃ best, t.phase = .incrementing best ∧ op = .incrementHit best.id) ∨
      ∃ l response entry, t.phase = .upserting l response entry ∧ event = .upserted ∧ op = .upsert entry := by
  cases h with
  | cachedInvalid best uuid sampled e l hp => exact Or.inr (Or.inl ⟨best, hp, rfl⟩)
  | cached best uuid sampled response l hp => exact Or.inr (Or.inl ⟨best, hp, rfl⟩)
  | upserted l response entry hp => exact Or.inr (Or.inr ⟨l, response, entry, hp, rfl, rfl⟩)
  | _ => exact Or.inl rfl

/-- A task whose entry comes back from the store has put it there. -/
theorem Advances.op_of_upserting (l : CacheLookup F) (response : ChatCompletionResponse) (entry : CacheEntry F)
    (hevent : event = .upserted) (hp : t.phase = .upserting l response entry) : op = .upsert entry := by
  subst hevent
  cases h with
  | upserted l' response' entry' hp' =>
    obtain ⟨-, -, rfl⟩ := Phase.upserting.inj (hp'.symm.trans hp)
    rfl

/-- A match gets its hit by being the first one found. -/
theorem Advances.incrementing (best : ScoredEntry F) (hp' : t'.phase = .incrementing best) :
    ∃ hits, found = .ok hits ∧ hits.head? = some best := by
  have hkeep : ∀ l response, (svc.keep t l response).phase ≠ .incrementing best := by
    intro l response hk
    rcases svc.keep_cases t l response with ⟨-, heq⟩ | heq <;> rw [heq] at hk <;> cases hk
  cases h with
  | matched hits best' hp hfound hhead =>
    obtain rfl := Phase.incrementing.inj hp'
    exact ⟨hits, hfound, hhead⟩
  | completed l started response => exact absurd hp' (hkeep l response)
  | built l a uuid response => exact absurd hp' (hkeep l response)
  | taken l best' response chunk hp => rw [hp] at hp'; cases hp'
  | _ => cases hp'

/-- An entry on its way into the store is the request's own, under the id drawn for it. -/
theorem Advances.upserting (l : CacheLookup F) (response : ChatCompletionResponse) (entry : CacheEntry F)
    (hp' : t'.phase = .upserting l response entry) :
    ∃ id ttlSeconds tags, event = .storeEmbedded id ∧
      entry = svc.entryFor (svc.requestSignature t.request rid.tenant) t.request.latestUserPrompt response
        ttlSeconds tags id now := by
  have hkeep : ∀ l' response', (svc.keep t l' response').phase ≠ .upserting l response entry := by
    intro l' response' hk
    rcases svc.keep_cases t l' response' with ⟨-, heq⟩ | heq <;> rw [heq] at hk <;> cases hk
  cases h with
  | storeEmbedded l' response' ttlSeconds tags id hp =>
    obtain ⟨rfl, rfl, rfl⟩ := Phase.upserting.inj hp'
    exact ⟨id, ttlSeconds, tags, rfl, rfl⟩
  | completed l' started response' => exact absurd hp' (hkeep l' response')
  | built l' a uuid response' => exact absurd hp' (hkeep l' response')
  | taken l' best response' chunk hp => rw [hp] at hp'; cases hp'
  | _ => cases hp'

end

end

/-! ## What a step can do to tasks and entries -/

/-- What a step can do, action by action. -/
inductive Steps (s : State F E) : Action E → State F E → Prop
  | tick (now perf : ℚ) : Steps s (.tick now perf) { s with now, perf }
  | feedback (update : E → E) : Steps s (.feedback update) { s with policy := update s.policy }
  | delete (model systemPromptHash tag : Option String) :
    Steps s (.delete model systemPromptHash tag)
      { s with store := (s.store.delete model systemPromptHash tag).2 }
  | clear : Steps s .clear { s with store := s.store.clear.2 }
  | request (rid : RequestId) (streaming : Bool) (request : ChatCompletionRequest)
    (hnew : s.tasks rid = none) :
    Steps s (.request rid streaming request) { s with
      tasks := Function.update s.tasks rid (some {
        streaming, request, threshold := svc.thresholdFor s.policy request, started := s.perf }) }
  | task (rid : RequestId) (event : Event) (t t' : Task F) (op : StoreOp F) (effects : List (Effect F))
    (ht : s.tasks rid = some t)
    (hadv : svc.Advances oj pyd rid t s.now s.perf (svc.search np rid t.request s.now s.store) event t' op
      effects) :
    Steps s (.task rid event) { s with
      store := op.apply s.store, tasks := Function.update s.tasks rid (some t')
      effects := s.effects ++ effects }

section
variable (s s' : State F E) (a : Action E) (h : svc.step np oj pyd s a = some s')
include h

/-- **Inversion.**  A step does one of the things of `Steps`. -/
theorem steps_of_step : svc.Steps np oj pyd s a s' := by
  cases a with
  | tick now perf => obtain rfl := Option.some.inj h; exact .tick now perf
  | feedback update => obtain rfl := Option.some.inj h; exact .feedback update
  | delete m p tag => obtain rfl := Option.some.inj h; exact .delete m p tag
  | clear => obtain rfl := Option.some.inj h; exact .clear
  | request rid streaming request =>
    obtain ⟨hnew, rfl⟩ := svc.step_request np oj pyd s s' rid streaming request h
    exact .request rid streaming request hnew
  | task rid event =>
    obtain ⟨t, t', op, effects, ht, hadv, rfl⟩ := svc.step_task np oj pyd s s' rid event h
    exact .task rid event t t' op effects ht
      (svc.advances_of_advance oj pyd rid t t' _ _ _ event op effects hadv)

/-- A task was there already, or its request just came in, or it just went on. -/
theorem step_tasks (rid : RequestId) (t' : Task F) (ht' : s'.tasks rid = some t') :
    s.tasks rid = some t' ∨
      (∃ streaming request, a = .request rid streaming request ∧ s.tasks rid = none ∧
        t' = { streaming, request, threshold := svc.thresholdFor s.policy request, started := s.perf }) ∨
      ∃ t event op effects, a = .task rid event ∧ s.tasks rid = some t ∧
        svc.Advances oj pyd rid t s.now s.perf (svc.search np rid t.request s.now s.store) event t' op effects := by
  cases svc.steps_of_step np oj pyd s s' a h with
  | request rid₁ streaming request hnew =>
    by_cases hrid : rid = rid₁
    · subst hrid
      obtain rfl := Option.some.inj ((Function.update_self rid _ _).symm.trans ht')
      exact Or.inr (Or.inl ⟨streaming, request, rfl, hnew, rfl⟩)
    · exact Or.inl ((Function.update_of_ne hrid _ _).symm.trans ht')
  | task rid₁ event t t₁ op effects ht hadv =>
    by_cases hrid : rid = rid₁
    · subst hrid
      obtain rfl := Option.some.inj ((Function.update_self rid _ _).symm.trans ht')
      exact Or.inr (Or.inr ⟨t, event, op, effects, rfl, ht, hadv⟩)
    · exact Or.inl ((Function.update_of_ne hrid _ _).symm.trans ht')
  | _ => exact Or.inl ht'

/-- A task there is stays, or goes on. -/
theorem step_tasks_of_some (rid : RequestId) (t : Task F) (ht : s.tasks rid = some t) :
    ∃ t', s'.tasks rid = some t' ∧ (t' = t ∨ ∃ event op effects, a = .task rid event ∧
      svc.Advances oj pyd rid t s.now s.perf (svc.search np rid t.request s.now s.store) event t' op effects) := by
  cases svc.steps_of_step np oj pyd s s' a h with
  | request rid₁ streaming request hnew =>
    have hrid : rid ≠ rid₁ := by
      rintro rfl
      rw [hnew] at ht
      cases ht
    exact ⟨t, (Function.update_of_ne hrid _ _).trans ht, Or.inl rfl⟩
  | task rid₁ event t₁ t' op effects ht₁ hadv =>
    by_cases hrid : rid = rid₁
    · subst hrid
      obtain rfl := Option.some.inj (ht.symm.trans ht₁)
      exact ⟨t', Function.update_self rid _ _, Or.inr ⟨event, op, effects, rfl, hadv⟩⟩
    · exact ⟨t, (Function.update_of_ne hrid _ _).trans ht, Or.inl rfl⟩
  | _ => exact ⟨t, ht, Or.inl rfl⟩

/-- The store is as it was, or lost entries, or counted a hit, or a task put an entry into it. -/
theorem step_store :
    s'.store = s.store ∨
      (∃ m p tag, a = .delete m p tag ∧ s'.store = (s.store.delete m p tag).2) ∨
      (a = .clear ∧ s'.store = s.store.clear.2) ∨
      (∃ id, s'.store = s.store.incrementHit id) ∨
      ∃ rid t l response entry, a = .task rid .upserted ∧ s.tasks rid = some t ∧
        t.phase = .upserting l response entry ∧ s'.store = s.store.upsert entry := by
  cases svc.steps_of_step np oj pyd s s' a h with
  | delete m p tag => exact Or.inr (Or.inl ⟨m, p, tag, rfl, rfl⟩)
  | clear => exact Or.inr (Or.inr (Or.inl ⟨rfl, rfl⟩))
  | task rid event t t' op effects ht hadv =>
    rcases Advances.storeOp oj pyd svc rid t t' _ _ _ event op effects hadv with
      rfl | ⟨best, -, rfl⟩ | ⟨l, response, entry, hp, rfl, rfl⟩
    · exact Or.inl rfl
    · exact Or.inr (Or.inr (Or.inr (Or.inl ⟨best.id, rfl⟩)))
    · exact Or.inr (Or.inr (Or.inr (Or.inr ⟨rid, t, l, response, entry, rfl, ht, hp, rfl⟩)))
  | _ => exact Or.inl rfl

/-- Only feedback changes what the threshold policy reads. -/
theorem step_policy : s'.policy = s.policy ∨ ∃ update, a = .feedback update ∧ s'.policy = update s.policy := by
  cases svc.steps_of_step np oj pyd s s' a h with
  | feedback update => exact Or.inr ⟨update, rfl, rfl⟩
  | _ => exact Or.inl rfl

/-- A task going on adds its effects, and nothing else adds any. -/
theorem step_effects :
    s'.effects = s.effects ∨ ∃ rid t event t' op effects, a = .task rid event ∧ s.tasks rid = some t ∧
      svc.Advances oj pyd rid t s.now s.perf (svc.search np rid t.request s.now s.store) event t' op effects ∧
      s'.effects = s.effects ++ effects := by
  cases svc.steps_of_step np oj pyd s s' a h with
  | task rid event t t' op effects ht hadv =>
    exact Or.inr ⟨rid, t, event, t', op, effects, rfl, ht, hadv, rfl⟩
  | _ => exact Or.inl rfl

/-- An entry was there already, up to its hits, or a task just put it there. -/
theorem step_entries (e : CacheEntry F) (he : e ∈ s'.store.items) :
    (∃ e' ∈ s.store.items, e'.SameRecord e) ∨
      ∃ rid t l response, a = .task rid .upserted ∧ s.tasks rid = some t ∧ t.phase = .upserting l response e := by
  rcases svc.step_store np oj pyd s s' a h with
    hs | ⟨m, p, tag, -, hs⟩ | ⟨-, hs⟩ | ⟨id, hs⟩ | ⟨rid, t, l, response, entry, hact, ht, hp, hs⟩ <;> rw [hs] at he
  · exact Or.inl ⟨e, he, rfl⟩
  · exact Or.inl ⟨e, InMemoryVectorStore.mem_delete _ m p tag e he, rfl⟩
  · cases he
  · exact Or.inl (InMemoryVectorStore.mem_incrementHit _ _ e he)
  · rcases (Keyed.mem_put _ entry e).mp he with rfl | ⟨hold, -⟩
    · exact Or.inr ⟨rid, t, l, response, hact, ht, hp⟩
    · exact Or.inl ⟨e, hold, rfl⟩

end

/-- A search whose first match reaches the task's threshold is a HIT. -/
theorem step_searched_hit (s s' : State F E) (rid : RequestId) (t : Task F) (found : List (ScoredEntry F))
    (best : ScoredEntry F) (h : svc.step np oj pyd s (.task rid .searched) = some s') (ht : s.tasks rid = some t)
    (hfound : svc.search np rid t.request s.now s.store = .ok found) (hhead : found.head? = some best)
    (hreach : svc.cache.effectiveThreshold t.threshold ≤ best.score) :
    s'.tasks rid = some { t with phase := .incrementing best } := by
  obtain ⟨q, t', op, effects, hq, hadv, rfl⟩ := svc.step_task np oj pyd s s' rid .searched h
  obtain rfl := Option.some.inj (ht.symm.trans hq)
  have hadv' := svc.advances_of_advance oj pyd rid t t' _ _ _ _ op effects hadv
  rw [hfound] at hadv'
  have hserved := (svc.cache.served_outcome t.threshold found ((s.perf - t.started) * 1000) best).mpr
    ⟨hhead, hreach⟩
  have htask : t' = { t with phase := .incrementing best } := by
    cases hadv' with
    | searchRaised e hp herror => cases herror
    | matched hits first hp hhits hfirst =>
      obtain rfl := Except.ok.inj hhits
      rw [hhead] at hfirst
      obtain rfl := Option.some.inj hfirst
      rfl
    | unmatchedStream hits l hp hhits hl hmiss =>
      obtain rfl := Except.ok.inj hhits
      rw [hl, ← svc.cache.served_outcome_eq_none_iff, hserved] at hmiss
      cases hmiss
    | unmatchedBuffered hits l hp hhits hl hmiss =>
      obtain rfl := Except.ok.inj hhits
      rw [hl, ← svc.cache.served_outcome_eq_none_iff, hserved] at hmiss
      cases hmiss
  rw [htask]
  exact Function.update_self rid _ _

end

/-- `plainService`, just started. -/
def plainStart : State ℚ Unit := { now := 1700000000, perf := 0, policy := () }

end ProxyService

end CachingLayer
