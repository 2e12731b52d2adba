import CachingLayer.Proxy.Service

/-!
# The two ways of delivery

`complete` and `stream` are two copies of one request flow.

* What they record (`Effect`) is the same exactly when the lookup raises, or finds a match
  and nothing is validated: `stream` neither samples a HIT for validation nor times the
  upstream (`same_effects_iff`).
* What a client has in the end, who folds a stream choice by choice (`received`), is the
  cached answer exactly when that is one assistant choice of text and nothing else
  (`same_answer_iff`).
-/

namespace CachingLayer

open Text

/-! ## Effects -/

inductive EffectKind
  | recordLookup
  | nearMiss
  | recordSavings
  | recordProviderLatency
  | validate
deriving DecidableEq

def Effect.kind {F : Type} : Effect F → EffectKind
  | .recordLookup .. => .recordLookup
  | .nearMiss .. => .nearMiss
  | .recordSavings .. => .recordSavings
  | .recordProviderLatency .. => .recordProviderLatency
  | .validate .. => .validate

namespace ProxyService

section
variable {F E : Type} [Field F] [LinearOrder F] (np : Numpy F) (oj : Orjson) (pyd : Pydantic)
  (svc : ProxyService F E)

/-- What is on record after a buffered request. -/
def bufferedEffects (request : ChatCompletionRequest) (tenant : String) (policy : E)
    (response : ChatCompletionResponse) (r : Readings) (w : World F) : List (Effect F) :=
  (worldAfter (svc.complete np pyd request tenant policy (.ok response) r) w).effects

/-- What is on record after a streaming request whose body was consumed to its end. -/
def streamedEffects (request : ChatCompletionRequest) (tenant : String) (policy : E) (chunks : List Bytes)
    (r : Readings) (w : World F) : List (Effect F) :=
  match svc.stream np oj pyd request tenant policy r w with
  | .ok result w' => (svc.runBody oj pyd chunks .ended r w' result.body).world.effects
  | .error _ w' => w'.effects

/-- What a request's search finds in the store as it is. -/
def foundIn (request : ChatCompletionRequest) (tenant : String) (r : Readings) (store : InMemoryVectorStore F) :
    Except PyError (List (ScoredEntry F)) :=
  store.search np r.lookup.now (svc.requestSignature request tenant).namespaceKey
    (svc.cache.embed request.latestUserPrompt) svc.cache.topK

/-- The first match reaches the threshold. -/
def Matches (request : ChatCompletionRequest) (tenant : String) (policy : E) (r : Readings)
    (store : InMemoryVectorStore F) (best : ScoredEntry F) : Prop :=
  (∃ found, svc.foundIn np request tenant r store = .ok found ∧ found.head? = some best) ∧
    svc.cache.effectiveThreshold (svc.thresholdFor policy request) ≤ best.score

section
variable (request : ChatCompletionRequest) (tenant : String) (policy : E) (r : Readings)
  (store : InMemoryVectorStore F)

/-- A lookup serves the match there is. -/
theorem matches_iff_served (l : CacheLookup F) (store' : InMemoryVectorStore F)
    (h : svc.cache.lookup np store (svc.requestSignature request tenant) request.latestUserPrompt
      (svc.thresholdFor policy request) r.lookup = .ok (l, store')) (best : ScoredEntry F) :
    svc.Matches np request tenant policy r store best ↔ l.served = some best := by
  obtain ⟨found, hfound, rfl, -⟩ := svc.cache.lookup_ok np _ _ _ _ _ _ l h
  rw [svc.cache.served_outcome]
  unfold Matches foundIn
  rw [hfound]
  simp

/-- A lookup goes through when its search does. -/
theorem lookup_of_matches (best : ScoredEntry F) (h : svc.Matches np request tenant policy r store best) :
    ∃ l store', svc.cache.lookup np store (svc.requestSignature request tenant) request.latestUserPrompt
      (svc.thresholdFor policy request) r.lookup = .ok (l, store') ∧ l.served = some best := by
  cases hl : svc.cache.lookup np store (svc.requestSignature request tenant) request.latestUserPrompt
      (svc.thresholdFor policy request) r.lookup with
  | error e =>
    obtain ⟨⟨found, hfound, -⟩, -⟩ := h
    unfold foundIn at hfound
    rw [svc.cache.lookup_error np _ _ _ _ _ e hl] at hfound
    cases hfound
  | ok ls =>
    obtain ⟨l, store'⟩ := ls
    exact ⟨l, store', rfl, (svc.matches_iff_served np request tenant policy r store l store' hl best).mp h⟩

end

end

section
variable {F E : Type} (oj : Orjson) (pyd : Pydantic) (svc : ProxyService F E)

/-- Consuming a body puts nothing on record. -/
theorem effects_runBody (chunks : List Bytes) (fin : StreamEnd) (r : Readings) (w : World F) (body : StreamBody) :
    (svc.runBody oj pyd chunks fin r w body).world.effects = w.effects := by
  cases body with
  | hit sse => rfl
  | miss request signature prompt =>
    show (svc.missBody oj pyd request signature prompt chunks fin r w).world.effects = _
    by_cases h : fin = .ended ∧ ∃ response, Assembles oj pyd request.model chunks r.uuid r.now response
    · obtain ⟨rfl, response, hwhole⟩ := h
      rw [svc.missBody_assembles oj pyd request signature prompt chunks r w response hwhole]
    · rw [svc.missBody_not_assembles oj pyd request signature prompt chunks r w fin h]

theorem maybeValidate_eq_nil_iff (request : ChatCompletionRequest) (cached : ChatCompletionResponse)
    (sampled : Bool) :
    svc.maybeValidate request cached sampled = [] ↔ ¬ (svc.hasValidator = true ∧ sampled = true) := by
  unfold maybeValidate
  by_cases h : svc.hasValidator = true ∧ sampled = true
  · rw [if_pos h]; simp [h]
  · rw [if_neg h]; simp [h]

end

section
variable {F E : Type} [Field F] [LinearOrder F] (np : Numpy F) (oj : Orjson) (pyd : Pydantic)
  (svc : ProxyService F E)

section
variable (request : ChatCompletionRequest) (tenant : String) (policy : E) (response : ChatCompletionResponse)
  (chunks : List Bytes) (r : Readings) (w : World F)

/-- What both ways have on record once the lookup is back. -/
def effectsSoFar (l : CacheLookup F) : List (Effect F) :=
  w.effects ++ svc.lookupEffects request tenant (svc.thresholdFor policy request) l

section
variable (e : PyError)
  (h : svc.cache.lookup np w.store (svc.requestSignature request tenant) request.latestUserPrompt
    (svc.thresholdFor policy request) r.lookup = .error e)
include h

/-- A lookup that raises leaves nothing on record. -/
theorem effects_of_error :
    svc.bufferedEffects np pyd request tenant policy response r w = w.effects ∧
      svc.streamedEffects np oj pyd request tenant policy chunks r w = w.effects := by
  constructor
  · unfold bufferedEffects worldAfter EStateM.run
    rw [complete_eq, h]
  · unfold streamedEffects
    rw [stream_eq, h]

end

section
variable (l : CacheLookup F) (store : InMemoryVectorStore F)
  (h : svc.cache.lookup np w.store (svc.requestSignature request tenant) request.latestUserPrompt
    (svc.thresholdFor policy request) r.lookup = .ok (l, store))
include h

theorem effects_of_unread (best : ScoredEntry F) (hserved : l.served = some best) (e : PyError)
    (hread : ChatCompletionResponse.modelValidate pyd r.uuid r.now best.entry.response = .error e) :
    svc.bufferedEffects np pyd request tenant policy response r w =
        svc.effectsSoFar request tenant policy w l ∧
      svc.streamedEffects np oj pyd request tenant policy chunks r w =
        svc.effectsSoFar request tenant policy w l := by
  constructor
  · unfold bufferedEffects worldAfter EStateM.run
    rw [complete_eq, h]
    simp only [hserved, hread]
    rfl
  · unfold streamedEffects
    rw [stream_eq, h]
    simp only [hserved, hread]
    rfl

/-- Only `complete` hands a HIT to the validator. -/
theorem effects_of_hit (best : ScoredEntry F) (hserved : l.served = some best) (cached : ChatCompletionResponse)
    (hread : ChatCompletionResponse.modelValidate pyd r.uuid r.now best.entry.response = .ok cached) :
    svc.bufferedEffects np pyd request tenant policy response r w =
        svc.effectsSoFar request tenant policy w l ++
          recordSavings request cached :: svc.maybeValidate request cached r.sampled ∧
      svc.streamedEffects np oj pyd request tenant policy chunks r w =
        svc.effectsSoFar request tenant policy w l ++ [recordSavings request cached] := by
  constructor
  · unfold bufferedEffects worldAfter EStateM.run
    rw [complete_eq, h]
    simp only [hserved, hread]
    rfl
  · unfold streamedEffects
    rw [stream_eq, h]
    simp only [hserved, hread]
    rfl

/-- Only `complete` times the upstream. -/
theorem effects_of_miss (hserved : l.served = none) :
    svc.bufferedEffects np pyd request tenant policy response r w =
        svc.effectsSoFar request tenant policy w l ++
          [svc.providerLatency request r.upstreamStarted r.upstreamFinished] ∧
      svc.streamedEffects np oj pyd request tenant policy chunks r w =
        svc.effectsSoFar request tenant policy w l := by
  constructor
  · unfold bufferedEffects worldAfter EStateM.run
    rw [complete_eq, h]
    simp only [hserved]
    rfl
  · unfold streamedEffects
    rw [stream_eq, h]
    simp only [hserved]
    rw [effects_runBody]
    rfl

end

end

/-- **Effects.**  The two ways put the same on record exactly when the lookup raises, or it
is a HIT whose entry cannot be read, or one that is not validated.  On a MISS they never do. -/
theorem same_effects_iff (request : ChatCompletionRequest) (tenant : String) (policy : E)
    (response : ChatCompletionResponse) (chunks : List Bytes) (r : Readings) (w : World F) :
    ((svc.bufferedEffects np pyd request tenant policy response r w).map Effect.kind =
        (svc.streamedEffects np oj pyd request tenant policy chunks r w).map Effect.kind ↔
      (∃ e, svc.foundIn np request tenant r w.store = .error e) ∨
        ∃ best, svc.Matches np request tenant policy r w.store best ∧
          (svc.hasValidator = true ∧ r.sampled = true →
            ∃ e, ChatCompletionResponse.modelValidate pyd r.uuid r.now best.entry.response = .error e)) ∧
    ((svc.bufferedEffects np pyd request tenant policy response r w).map Effect.kind =
        (svc.streamedEffects np oj pyd request tenant policy chunks r w).map Effect.kind →
      svc.bufferedEffects np pyd request tenant policy response r w =
        svc.streamedEffects np oj pyd request tenant policy chunks r w) := by
  cases hl : svc.cache.lookup np w.store (svc.requestSignature request tenant) request.latestUserPrompt
      (svc.thresholdFor policy request) r.lookup with
  | error e =>
    obtain ⟨hb, hs⟩ := svc.effects_of_error np oj pyd request tenant policy response chunks r w e hl
    have hfound : svc.foundIn np request tenant r w.store = .error e := svc.cache.lookup_error np _ _ _ _ _ e hl
    rw [hb, hs]
    simp [hfound]
  | ok ls =>
    obtain ⟨l, store⟩ := ls
    have hfound : ¬ ∃ e, svc.foundIn np request tenant r w.store = .error e := by
      obtain ⟨found, hfound, -⟩ := svc.cache.lookup_ok np _ _ _ _ _ _ l hl
      rintro ⟨e, he⟩
      unfold foundIn at he
      rw [hfound] at he
      cases he
    have hmatch := svc.matches_iff_served np request tenant policy r w.store l store hl
    simp only [hmatch, hfound, false_or]
    cases hserved : l.served with
    | none =>
      obtain ⟨hb, hs⟩ := svc.effects_of_miss np oj pyd request tenant policy response chunks r w l store hl hserved
      rw [hb, hs]
      simp
    | some best =>
      simp only [Option.some.injEq, exists_eq_left']
      cases hread : ChatCompletionResponse.modelValidate pyd r.uuid r.now best.entry.response with
      | error e =>
        obtain ⟨hb, hs⟩ := svc.effects_of_unread np oj pyd request tenant policy response chunks r w l store hl
          best hserved e hread
        rw [hb, hs]
        simp
      | ok cached =>
        obtain ⟨hb, hs⟩ := svc.effects_of_hit np oj pyd request tenant policy response chunks r w l store hl
          best hserved cached hread
        have hnil := svc.maybeValidate_eq_nil_iff request cached r.sampled
        rw [hb, hs]
        simp [hnil]

end

/-- On an empty cache: only the buffered request times the upstream. -/
theorem effects_ocean :
    (plainService.bufferedEffects (.sorting Rat.sqrt) .strict oceanRequest "team" () framedText someReadings
        ⟨.new, []⟩).map Effect.kind = [.recordLookup, .recordProviderLatency] ∧
      (plainService.streamedEffects (.sorting Rat.sqrt) framedCodec .strict oceanRequest "team" ()
        (responseToSse framedCodec framedText) someReadings ⟨.new, []⟩).map Effect.kind = [.recordLookup] := by
  obtain ⟨l, hl, hmiss⟩ := plainService.cache.lookup_of_liveEntries_nil (.sorting Rat.sqrt) .new
    (plainService.requestSignature oceanRequest "team") oceanRequest.latestUserPrompt
    (plainService.thresholdFor () oceanRequest) someReadings.lookup rfl
  obtain ⟨hserved, -⟩ := plainService.cache.lookup_miss _ _ _ _ _ _ _ l hl hmiss
  obtain ⟨hb, hs⟩ := plainService.effects_of_miss (.sorting Rat.sqrt) framedCodec .strict oceanRequest "team" ()
    framedText (responseToSse framedCodec framedText) someReadings ⟨.new, []⟩ l .new hl hserved
  rw [hb, hs]
  exact ⟨rfl, rfl⟩

end ProxyService

/-! ## The client -/

/-- A choice as a client holds it; a field that is `null` is a field not there. -/
structure ChoiceView where
  index : Int
  content : Option String := none
  fields : Dict := []
  finishReason : Json := .null

namespace ChoiceView

/-- One field of a delta: text is appended, any other field is kept as last sent. -/
def take (v : ChoiceView) (kv : String × Json) : ChoiceView :=
  match kv with
  | (_, .null) => v
  | ("content", .str text) => { v with content := some (v.content.getD "" ++ text) }
  | (key, value) => { v with fields := v.fields.set key value }

def finish (v : ChoiceView) : Json → ChoiceView
  | .null => v
  | reason => { v with finishReason := reason }

/-- A reason is taken as it is where there was none. -/
theorem finish_of_null (v : ChoiceView) (h : v.finishReason = .null) (reason : Json) :
    v.finish reason = { v with finishReason := reason } := by
  cases reason with
  | null => exact congrArg (fun x => { v with finishReason := x }) h
  | _ => rfl

/-- A streamed choice on what is held of its index. -/
def read (v : ChoiceView) (choice : Dict) : ChoiceView :=
  match choice.get "delta" (.obj []) with
  | .obj delta => (delta.foldl take v).finish (choice.get "finish_reason" .null)
  | _ => v

/-- The text and the names of the other fields. -/
def outline (v : ChoiceView) : Option String × List String := (v.content, v.fields.map Prod.fst)

end ChoiceView

def readChoice (views : List ChoiceView) (choice : Json) : List ChoiceView :=
  match choice with
  | .obj d =>
    match Dict.get d "index" (.int 0) with
    | .int index =>
      if views.any (·.index = index) then views.map fun v => if v.index = index then v.read d else v
      else views ++ [ChoiceView.read { index } d]
    | _ => views
  | _ => views

def readChunk (views : List ChoiceView) (data : Json) : List ChoiceView :=
  match data with
  | .obj d =>
    match Dict.get d "choices" (.arr []) with
    | .arr choices => choices.foldl readChoice views
    | _ => views
  | _ => views

/-- The choices a client has when `[DONE]` comes. -/
def received (oj : Orjson) (b : Bytes) : List ChoiceView :=
  (((streamPayloads b).takeWhile (· ≠ doneMarker)).filterMap oj.loads).foldl readChunk []

/-- The choice as a buffered answer has it. -/
def ChatCompletionChoice.view (c : ChatCompletionChoice) : ChoiceView where
  index := c.index
  content := c.message.content
  fields := ChatCompletionRequest.dropNone (c.message.modelDump.filter (·.1 ≠ "content"))
  finishReason := .opt .str c.finishReason

/-- An assistant's text and no more. -/
structure ChatCompletionChoice.PlainText (c : ChatCompletionChoice) : Prop where
  index : c.index = 0
  role : c.message.role = .assistant
  content : c.message.content ≠ none
  name : c.message.name = none
  extra : ∀ kv ∈ c.message.extra.kvs, kv.2.isNone

/-- The first chunk of a stream opens choice 0 … -/
theorem readChunk_sseChunk_nil (r : ChatCompletionResponse) (delta : Dict) (finish : Json) :
    readChunk [] (sseChunk r delta finish) = [(delta.foldl ChoiceView.take { index := 0 }).finish finish] := rfl

/-- … and the others go on with it. -/
theorem readChunk_sseChunk (r : ChatCompletionResponse) (delta : Dict) (finish : Json) (v : ChoiceView)
    (hv : v.index = 0) :
    readChunk [v] (sseChunk r delta finish) = [(delta.foldl ChoiceView.take v).finish finish] := by
  show (if [v].any (·.index = 0) then
      [v].map fun u => if u.index = 0 then (delta.foldl ChoiceView.take u).finish finish else u
    else _) = _
  simp [hv]

/-- What is received of a rendered response, whatever the response. -/
theorem received_responseToSse (oj : Orjson) (r : ChatCompletionResponse) (hoj : oj.RoundTrips (sseValues r)) :
    received oj (responseToSse oj r).flatten =
      [{ index := 0, content := some r.firstText, fields := [("role", .str "assistant")]
         finishReason := match r.choices with
           | [] => .str "stop"
           | c :: _ => .opt .str c.finishReason }] := by
  have hclean := ssePayloads_clean oj r hoj
  have hne : ∀ j ∈ sseValues r, oj.dumps j ≠ doneMarker := by
    intro j hj h
    have hload := hoj.loads_dumps j hj
    rw [h, hoj.done] at hload
    cases hload
  have hrole : roleChunk r ∈ sseValues r := by simp [sseValues]
  have hcontent : contentChunk r ∈ sseValues r := by simp [sseValues]
  have hfinal : finalChunk r ∈ sseValues r := by simp [sseValues]
  have hpayloads : ((ssePayloads oj r).takeWhile (· ≠ doneMarker)).filterMap oj.loads =
      [roleChunk r, contentChunk r, finalChunk r] := by
    simp [ssePayloads, hne _ hrole, hne _ hcontent, hne _ hfinal, hoj.loads_dumps _ hrole,
      hoj.loads_dumps _ hcontent, hoj.loads_dumps _ hfinal]
  unfold received
  rw [responseToSse_flatten, streamPayloads_frames _ (fun x hx => (hclean x hx).1) (fun x hx => (hclean x hx).2),
    hpayloads]
  unfold roleChunk contentChunk finalChunk
  rw [List.foldl_cons, List.foldl_cons, List.foldl_cons, List.foldl_nil, readChunk_sseChunk_nil,
    readChunk_sseChunk _ _ _ _ rfl, readChunk_sseChunk _ _ _ _ rfl]
  have htext : "" ++ r.firstText = r.firstText := String.empty_append
  cases r.choices with
  | nil => simp [ChoiceView.take, Dict.set, ChoiceView.finish_of_null, htext]
  | cons c cs => simp [ChoiceView.take, Dict.set, ChoiceView.finish_of_null, htext]

/-- The fields beside the text are the role alone. -/
theorem view_fields_iff (m : ChatMessage) :
    ChatCompletionRequest.dropNone (m.modelDump.filter (·.1 ≠ "content")) = [("role", .str "assistant")] ↔
      m.role = .assistant ∧ m.name = none ∧ ∀ kv ∈ m.extra.kvs, kv.2.isNone := by
  have hextra : m.extra.kvs.filter (·.1 ≠ "content") = m.extra.kvs := by
    rw [List.filter_eq_self]
    intro kv hkv
    have hne := m.extra.undeclared kv hkv
    simp only [List.mem_cons, not_or] at hne
    simpa using hne.2.1
  have hfields : m.modelDump.filter (·.1 ≠ "content") =
      ("role", .str m.role.value) :: ("name", .opt .str m.name) :: m.extra.kvs := by
    rw [← hextra]
    rfl
  have hrole : m.role.value = "assistant" ↔ m.role = .assistant := by
    cases m.role <;> decide
  unfold ChatCompletionRequest.dropNone
  rw [hfields, List.filter_cons_of_pos (by rfl)]
  cases hname : m.name with
  | none =>
    rw [List.filter_cons_of_neg (by decide)]
    simp [hrole, List.filter_eq_nil_iff]
  | some name =>
    rw [List.filter_cons_of_pos (by rfl)]
    simp

/-- The two views are one exactly for one choice of plain text. -/
theorem received_eq_view_iff (oj : Orjson) (r : ChatCompletionResponse) (hoj : oj.RoundTrips (sseValues r)) :
    received oj (responseToSse oj r).flatten = r.choices.map ChatCompletionChoice.view ↔
      ∃ c, r.choices = [c] ∧ c.PlainText := by
  rw [received_responseToSse oj r hoj]
  unfold ChatCompletionResponse.firstText
  constructor
  · intro h
    rcases hr : r.choices with _ | ⟨c, cs⟩
    · rw [hr] at h
      cases h
    · rw [hr, List.map_cons, List.cons.injEq] at h
      obtain ⟨hview, hcs⟩ := h
      simp only [ChatCompletionChoice.view, ChoiceView.mk.injEq] at hview
      obtain ⟨hindex, hcontent, hfields, -⟩ := hview
      obtain ⟨hrole, hname, hextra⟩ := (view_fields_iff c.message).mp hfields.symm
      rw [List.map_eq_nil_iff.mp hcs.symm]
      refine ⟨c, rfl, hindex.symm, hrole, ?_, hname, hextra⟩
      rw [← hcontent]
      simp
  · rintro ⟨c, hr, hplain⟩
    obtain ⟨text, htext⟩ := Option.ne_none_iff_exists'.mp hplain.content
    rw [hr]
    simp only [List.map_cons, List.map_nil, ChatCompletionChoice.view, hplain.index, htext, Option.getD_some,
      (view_fields_iff c.message).mpr ⟨hplain.role, hplain.name, hplain.extra⟩]

namespace ProxyService

section
variable {F E : Type} [Field F] [LinearOrder F] (np : Numpy F) (oj : Orjson) (pyd : Pydantic)
  (svc : ProxyService F E)

section
variable (request : ChatCompletionRequest) (tenant : String) (policy : E) (r : Readings) (w : World F)
  (stored : ChatCompletionResponse) (best : ScoredEntry F)
  (hmatch : svc.Matches np request tenant policy r w.store best) (hentry : best.entry.response = stored.modelDump)
include hmatch hentry

theorem complete_of_matches (upstream : Except PyError ChatCompletionResponse) :
    ∃ p w', svc.complete np pyd request tenant policy upstream r w = .ok p w' ∧ p.cacheStatus = .hit ∧
      p.response = stored := by
  obtain ⟨l, store, hl, hserved⟩ := svc.lookup_of_matches np request tenant policy r w.store best hmatch
  rw [complete_eq, hl]
  simp only [hserved, hentry, ChatCompletionResponse.modelValidate_modelDump]
  exact ⟨_, _, rfl, rfl, rfl⟩

theorem stream_of_matches :
    ∃ result w', svc.stream np oj pyd request tenant policy r w = .ok result w' ∧ result.cacheStatus = .hit ∧
      result.body = .hit (responseToSse oj stored) := by
  obtain ⟨l, store, hl, hserved⟩ := svc.lookup_of_matches np request tenant policy r w.store best hmatch
  rw [stream_eq, hl]
  simp only [hserved, hentry, ChatCompletionResponse.modelValidate_modelDump]
  exact ⟨_, _, rfl, rfl, rfl⟩

end

/-- **Answers.**  Of a stored response both ways find, the buffered HIT returns the
choices a client of the streaming HIT has in the end, exactly when it is one choice of
plain text. -/
theorem same_answer_iff (request request' : ChatCompletionRequest) (tenant tenant' : String) (policy policy' : E)
    (r r' : Readings) (w w' : World F) (upstream : Except PyError ChatCompletionResponse) (chunks : List Bytes)
    (fin : StreamEnd) (stored : ChatCompletionResponse) (hoj : oj.RoundTrips (sseValues stored))
    (best best' : ScoredEntry F) (hmatch : svc.Matches np request tenant policy r w.store best)
    (hmatch' : svc.Matches np request' tenant' policy' r' w'.store best')
    (hentry : best.entry.response = stored.modelDump) (hentry' : best'.entry.response = stored.modelDump) :
    ∃ p u result u', svc.complete np pyd request tenant policy upstream r w = .ok p u ∧ p.cacheStatus = .hit ∧
      svc.stream np oj pyd request' tenant' policy' r' w' = .ok result u' ∧ result.cacheStatus = .hit ∧
      (received oj (svc.runBody oj pyd chunks fin r' u' result.body).yielded.flatten =
          p.response.choices.map ChatCompletionChoice.view ↔
        ∃ c, stored.choices = [c] ∧ c.PlainText) := by
  obtain ⟨p, u, hp, hhit, rfl⟩ :=
    svc.complete_of_matches np pyd request tenant policy r w stored best hmatch hentry upstream
  obtain ⟨result, u', hresult, hhit', hbody⟩ :=
    svc.stream_of_matches np oj pyd request' tenant' policy' r' w' p.response best' hmatch' hentry'
  refine ⟨p, u, result, u', hp, hhit, hresult, hhit', ?_⟩
  rw [hbody]
  exact received_eq_view_iff oj p.response hoj

end

/-! ## A stored answer -/

/-- The world after a buffered MISS that `response` answered. -/
def oceanStored (response : ChatCompletionResponse) : World ℚ :=
  worldAfter (plainService.complete (.sorting Rat.sqrt) .strict oceanRequest "team" () (.ok response) someReadings)
    ⟨.new, []⟩

/-- Whatever answered, the same request finds it. -/
theorem oceanStored_matches (response : ChatCompletionResponse) :
    ∃ best, plainService.Matches (.sorting Rat.sqrt) oceanRequest "team" () someReadings
      (oceanStored response).store best ∧ best.entry.response = response.modelDump := by
  let e : CacheEntry ℚ := plainService.entryFor (plainService.requestSignature oceanRequest "team")
    oceanRequest.latestUserPrompt response 86400 [] someReadings.entryId someReadings.createdAt
  have hitems : (oceanStored response).store.items = [e] := by
    obtain ⟨l, hl, hmiss⟩ := plainService.cache.lookup_of_liveEntries_nil (.sorting Rat.sqrt) .new
      (plainService.requestSignature oceanRequest "team") oceanRequest.latestUserPrompt
      (plainService.thresholdFor () oceanRequest) someReadings.lookup rfl
    obtain ⟨hserved, -⟩ := plainService.cache.lookup_miss _ _ _ _ _ _ _ l hl hmiss
    unfold oceanStored worldAfter EStateM.run
    rw [complete_eq, hl]
    simp only [hserved]
    rfl
  have hlive : ∀ x, x ∈ (oceanStored response).store.liveEntries someReadings.lookup.now
      (plainService.requestSignature oceanRequest "team").namespaceKey ↔ x = e := by
    intro x
    rw [InMemoryVectorStore.mem_liveEntries, hitems, List.mem_singleton]
    constructor
    · exact fun h => h.1
    · rintro rfl
      have httl : (0 : Int) < 86400 := by decide
      exact ⟨rfl, rfl, httl, by norm_num [e, entryFor, SemanticCache.newEntry, someReadings]⟩
  have hexact : ExactNorm (Numpy.sorting Rat.sqrt) ([1] : List ℚ) := ⟨by decide +kernel, by decide +kernel⟩
  obtain ⟨best, rest, hfound, hbest⟩ := (oceanStored response).store.search_best (.sorting Rat.sqrt)
    someReadings.lookup.now (plainService.requestSignature oceanRequest "team").namespaceKey [1]
    plainService.cache.topK (List.ne_nil_of_mem ((hlive e).mpr rfl))
    (by intro x hx; rw [(hlive x).mp hx]; rfl) (by simp)
  have hentry : best.entry = e := (hlive _).mp
    ((oceanStored response).store.mem_search _ _ _ _ _ _ hfound best List.mem_cons_self).1
  refine ⟨best, ⟨⟨_, hfound, rfl⟩, ?_⟩, by rw [hentry]; rfl⟩
  calc plainService.cache.effectiveThreshold (plainService.thresholdFor () oceanRequest)
      ≤ 1 := by decide +kernel
    _ = rowSimilarity (.sorting Rat.sqrt) [1] e.embedding :=
        (rowSimilarity_self _ [1] hexact ⟨1, by simp, one_ne_zero⟩).symm
    _ ≤ best.score := hbest e ((hlive e).mpr rfl)

theorem same_answer_iff_framedText :
    ∃ p u result u', plainService.complete (.sorting Rat.sqrt) .strict oceanRequest "team" () (.error .typeError)
        someReadings (oceanStored framedText) = .ok p u ∧
      plainService.stream (.sorting Rat.sqrt) framedCodec .strict oceanRequest "team" () someReadings
        (oceanStored framedText) = .ok result u' ∧
      received framedCodec (plainService.runBody framedCodec .strict [] .ended someReadings u'
        result.body).yielded.flatten = p.response.choices.map ChatCompletionChoice.view := by
  obtain ⟨best, hmatch, hentry⟩ := oceanStored_matches framedText
  obtain ⟨p, u, result, u', hp, -, hresult, -, hiff⟩ :=
    same_answer_iff (.sorting Rat.sqrt) framedCodec .strict plainService oceanRequest oceanRequest "team" "team"
      () () someReadings someReadings (oceanStored framedText) (oceanStored framedText) (.error .typeError) []
      .ended framedText framedCodec_roundTrips best best hmatch hmatch hentry hentry
  refine ⟨p, u, result, u', hp, hresult, hiff.mpr ⟨_, rfl, rfl, rfl, by decide, rfl, ?_⟩⟩
  intro kv hkv
  cases hkv

/-- An answer without text: the assistant calls a tool. -/
def toolAnswer : ChatCompletionResponse where
  id := "chatcmpl-2"
  created := 1700000000
  model := "gpt-4o-mini"
  choices := [{
    message := {
      role := .assistant
      extra := ⟨[("tool_calls", .arr [.obj [("id", .str "call_1"), ("type", .str "function")]])], by simp⟩ }
    finishReason := some "tool_calls" }]

def toolCodec : Orjson := .ofValues [roleChunk toolAnswer, contentChunk toolAnswer, finalChunk toolAnswer]

theorem toolCodec_roundTrips : toolCodec.RoundTrips (sseValues toolAnswer) := by
  have h := Orjson.ofValues_roundTrips [roleChunk toolAnswer, contentChunk toolAnswer, finalChunk toolAnswer]
    (by decide +kernel) (by decide +kernel)
  rwa [← sseValues_eq] at h

/-- A stored tool call: the streaming client has an empty text and no call. -/
theorem answers_toolAnswer :
    ∃ p u result u', plainService.complete (.sorting Rat.sqrt) .strict oceanRequest "team" () (.error .typeError)
        someReadings (oceanStored toolAnswer) = .ok p u ∧ p.cacheStatus = .hit ∧
      plainService.stream (.sorting Rat.sqrt) toolCodec .strict oceanRequest "team" () someReadings
        (oceanStored toolAnswer) = .ok result u' ∧ result.cacheStatus = .hit ∧
      (p.response.choices.map ChatCompletionChoice.view).map ChoiceView.outline =
        [(none, ["role", "tool_calls"])] ∧
      (received toolCodec (plainService.runBody toolCodec .strict [] .ended someReadings u'
        result.body).yielded.flatten).map ChoiceView.outline = [(some "", ["role"])] ∧
      received toolCodec (plainService.runBody toolCodec .strict [] .ended someReadings u'
        result.body).yielded.flatten ≠ p.response.choices.map ChatCompletionChoice.view := by
  obtain ⟨best, hmatch, hentry⟩ := oceanStored_matches toolAnswer
  obtain ⟨p, u, hp, hhit, hresponse⟩ := plainService.complete_of_matches (.sorting Rat.sqrt) .strict oceanRequest
    "team" () someReadings (oceanStored toolAnswer) toolAnswer best hmatch hentry (.error .typeError)
  obtain ⟨result, u', hresult, hhit', hbody⟩ := plainService.stream_of_matches (.sorting Rat.sqrt) toolCodec .strict
    oceanRequest "team" () someReadings (oceanStored toolAnswer) toolAnswer best hmatch hentry
  have hbuffered : (p.response.choices.map ChatCompletionChoice.view).map ChoiceView.outline =
      [(none, ["role", "tool_calls"])] := by
    rw [hresponse]
    rfl
  have hstreamed : (received toolCodec (plainService.runBody toolCodec .strict [] .ended someReadings u'
      result.body).yielded.flatten).map ChoiceView.outline = [(some "", ["role"])] := by
    rw [hbody]
    show (received toolCodec (responseToSse toolCodec toolAnswer).flatten).map _ = _
    rw [received_responseToSse toolCodec toolAnswer toolCodec_roundTrips]
    rfl
  refine ⟨p, u, result, u', hp, hhit, hresult, hhit', hbuffered, hstreamed, ?_⟩
  intro hsame
  rw [hsame, hbuffered] at hstreamed
  cases hstreamed

end ProxyService

end CachingLayer
