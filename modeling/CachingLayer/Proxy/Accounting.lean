import CachingLayer.Proxy.StreamedMiss

/-!
# Accounting of cached entries

A completer without a stream of its own streams what `complete` returned
(`bufferedStream`).  The entry a MISS leaves is then made of the completion itself when the
request is buffered, and of what an assembler reads of its chunks when it streams.  The two
account alike exactly when the completion's usage is what the assembler would have
estimated, and its model the one asked for (`same_accounting_iff`).
-/

namespace CachingLayer

open Text

/-! ## Completers -/

/-- `ChatProvider.stream` and `EchoCompleter.stream`: the chunks of the completion, or
what `complete` raised. -/
def bufferedStream (oj : Orjson) : Except PyError ChatCompletionResponse → List Bytes × StreamEnd
  | .ok response => (responseToSse oj response, .ended)
  | .error e => ([], .raised e)

namespace EchoCompleter

/-- `max(1, len(text) // 4)`. -/
def countTokens (text : String) : Int := max 1 (text.length / 4)

def completion (request : ChatCompletionRequest) : String :=
  "[echo:" ++ request.model ++ "] " ++ request.latestUserPrompt

/-- `uuid` and `now` feed the response's default factories. -/
def complete (uuid : String) (now : Int) (request : ChatCompletionRequest) : ChatCompletionResponse where
  id := ChatCompletionResponse.freshId uuid
  created := now
  model := request.model
  choices :=
    [{ index := 0, message := { role := .assistant, content := some (completion request) }
       finishReason := some "stop" }]
  usage :=
    { promptTokens := countTokens request.latestUserPrompt
      completionTokens := countTokens (completion request)
      totalTokens := countTokens request.latestUserPrompt + countTokens (completion request) }

end EchoCompleter

/-! ## What an entry accounts for -/

/-- The token counts of an entry, and the usage and model of its response. -/
structure Accounting where
  promptTokens : Int
  completionTokens : Int
  usage : Option Json
  model : Option Json

namespace CacheEntry

variable {F : Type}

def accounting (e : CacheEntry F) : Accounting where
  promptTokens := e.promptTokens
  completionTokens := e.completionTokens
  usage := e.response.lookup "usage"
  model := e.response.lookup "model"

/-- What a HIT on the entry credits. -/
def savings (pyd : Pydantic) (uuid : String) (now : Int) (request : ChatCompletionRequest) (e : CacheEntry F) :
    Except PyError (Effect F) :=
  ProxyService.recordSavings request <$> ChatCompletionResponse.modelValidate pyd uuid now e.response

/-- The two entries account alike, and so does every later HIT on them. -/
def AccountsAs (pyd : Pydantic) (e e' : CacheEntry F) : Prop :=
  e.accounting = e'.accounting ∧
    ∀ uuid now request, e.savings pyd uuid now request = e'.savings pyd uuid now request

end CacheEntry

/-- A usage is determined by its dump. -/
theorem CompletionUsage.modelDump_inj (u u' : CompletionUsage) : u.modelDump = u'.modelDump ↔ u = u' := by
  constructor
  · intro h
    have hu := CompletionUsage.modelValidate_modelDump .strict u
    rw [h, CompletionUsage.modelValidate_modelDump] at hu
    exact (Except.ok.inj hu).symm
  · rintro rfl
    rfl

/-! ## What an assembler reads of a completion's chunks -/

section
variable (oj : Orjson) (r : ChatCompletionResponse) (hoj : oj.RoundTrips (sseValues r))
include hoj

theorem streamValues_responseToSse :
    streamValues oj (responseToSse oj r) = [roleChunk r, contentChunk r, finalChunk r] := by
  have hne : ∀ j ∈ sseValues r, oj.dumps j ≠ doneMarker := by
    intro j hj h
    have hloads := hoj.loads_dumps j hj
    rw [h, hoj.done] at hloads
    cases hloads
  have h1 : roleChunk r ∈ sseValues r := by simp [sseValues]
  have h2 : contentChunk r ∈ sseValues r := by simp [sseValues]
  have h3 : finalChunk r ∈ sseValues r := by simp [sseValues]
  unfold streamValues decoded
  rw [streamPayloads_responseToSse oj r hoj]
  unfold ssePayloads
  simp [hne _ h1, hne _ h2, hne _ h3, hoj.loads_dumps _ h1, hoj.loads_dumps _ h2, hoj.loads_dumps _ h3]

/-- No chunk says a usage. -/
theorem usage_responseToSse : (streamParts oj (responseToSse oj r)).usage = .null := by
  unfold streamParts
  rw [streamValues_responseToSse oj r hoj]
  rfl

/-- The content read is the first text. -/
theorem content_responseToSse :
    String.join ((streamParts oj (responseToSse oj r)).contentParts.map Json.text) = r.firstText := by
  have hcontents : (streamParts oj (responseToSse oj r)).contentParts =
      [Json.str r.firstText].filter Json.truthy := by
    unfold streamParts
    rw [streamValues_responseToSse oj r hoj]
    show [] ++ ([Json.str r.firstText].filter Json.truthy ++ ([] ++ [])) = _
    simp only [List.nil_append, List.append_nil]
  rw [hcontents]
  by_cases ht : r.firstText = ""
  · rw [ht]
    rfl
  · have htruthy : (Json.str r.firstText).truthy = true := by simpa [Json.truthy] using ht
    rw [List.filter_cons_of_pos htruthy]
    show String.join [r.firstText] = _
    simp [String.join]

/-- What is built of the chunks: usage is estimated, the model is the one asked for. -/
theorem assembles_responseToSse (pyd : Pydantic) (model : String) (uuid : String) (now : Int)
    (response : ChatCompletionResponse)
    (h : ProxyService.Assembles oj pyd model (responseToSse oj r) uuid now response) :
    response.usage = StreamAssembler.estimateUsage r.firstText ∧ response.model = model := by
  obtain ⟨-, -, -, rfl⟩ := (ProxyService.assembles_iff oj pyd model _ uuid now response).mp h
  refine ⟨?_, rfl⟩
  show (if (streamParts oj (responseToSse oj r)).usage.truthy = true then _ else _) = _
  rw [usage_responseToSse oj r hoj, content_responseToSse oj r hoj]
  rfl

end

/-! ## The entries -/

namespace ProxyService

section
variable {F E : Type} (svc : ProxyService F E) (request : ChatCompletionRequest) (signature : RequestSignature)
  (prompt : String) (response response' : ChatCompletionResponse)

/-- An entry added is the response's. -/
theorem entry_of_cacheResponse (r : Readings) (store : InMemoryVectorStore F) (e : CacheEntry F)
    (h : (svc.cacheResponse request signature prompt response r store).items = store.items ++ [e]) :
    e = svc.entryFor signature prompt response (svc.resolvePolicy request response).1
      (svc.resolvePolicy request response).2 r.entryId r.createdAt := by
  have hlength := congrArg List.length h
  rw [List.length_append, List.length_singleton] at hlength
  by_cases hid : r.entryId ∈ store.items.map CacheEntry.id
  · -- an entry written over another adds none
    exfalso
    unfold cacheResponse at hlength
    simp only [] at hlength
    split at hlength
    · rw [InMemoryVectorStore.upsert, Keyed.length_put_of_mem store _ hid] at hlength
      omega
    · omega
  · rw [svc.cacheResponse_items request signature prompt response r store hid] at h
    have hadded := List.append_cancel_left h
    split at hadded
    · exact (List.singleton_inj.mp hadded).symm
    · cases hadded

variable (ttlSeconds ttlSeconds' : Int) (tags tags' : List String) (id id' : String) (createdAt createdAt' : ℚ)

theorem accounting_entryFor :
    (svc.entryFor signature prompt response ttlSeconds tags id createdAt).accounting =
      { promptTokens := response.usage.promptTokens, completionTokens := response.usage.completionTokens
        usage := some (.obj response.usage.modelDump), model := some (.str response.model) } := rfl

theorem savings_entryFor (pyd : Pydantic) (uuid : String) (now : Int) (request' : ChatCompletionRequest) :
    (svc.entryFor signature prompt response ttlSeconds tags id createdAt).savings pyd uuid now request' =
      .ok (recordSavings request' response) := by
  unfold CacheEntry.savings
  show recordSavings request' <$> ChatCompletionResponse.modelValidate pyd uuid now response.modelDump = _
  rw [ChatCompletionResponse.modelValidate_modelDump]
  rfl

/-- Entries of two responses account alike exactly when the responses have one usage and
one model. -/
theorem accountsAs_entryFor (pyd : Pydantic) :
    (svc.entryFor signature prompt response ttlSeconds tags id createdAt).AccountsAs pyd
        (svc.entryFor signature prompt response' ttlSeconds' tags' id' createdAt') ↔
      response.usage = response'.usage ∧ response.model = response'.model := by
  unfold CacheEntry.AccountsAs
  simp only [accounting_entryFor, savings_entryFor, Accounting.mk.injEq, Option.some.injEq, Json.obj.injEq,
    Json.str.injEq, CompletionUsage.modelDump_inj]
  constructor
  · rintro ⟨⟨-, -, husage, hmodel⟩, -⟩
    exact ⟨husage, hmodel⟩
  · rintro ⟨husage, hmodel⟩
    unfold recordSavings
    rw [husage]
    exact ⟨⟨rfl, rfl, rfl, hmodel⟩, fun _ _ _ => rfl⟩

end

section
variable {F E : Type} [Field F] [LinearOrder F] (np : Numpy F) (oj : Orjson) (pyd : Pydantic)
  (svc : ProxyService F E) (request : ChatCompletionRequest) (tenant : String) (policy : E)

/-- What a buffered MISS leaves in the store. -/
theorem store_of_complete_miss (response : ChatCompletionResponse) (r : Readings) (w w' : World F)
    (result : ProxyResult F) (h : svc.complete np pyd request tenant policy (.ok response) r w = .ok result w')
    (hmiss : result.cacheStatus = .miss) :
    w'.store = svc.cacheResponse request (svc.requestSignature request tenant) request.latestUserPrompt response r
      w.store := by
  rw [complete_eq] at h
  split at h
  · cases h
  · next l store hlookup =>
    simp only [] at h
    split at h
    · split at h
      · cases h
      · obtain ⟨rfl, -⟩ := EStateM.Result.ok.inj h
        cases hmiss
    · next hserved =>
      obtain ⟨-, rfl⟩ := EStateM.Result.ok.inj h
      obtain ⟨found, -, rfl, rfl⟩ := svc.cache.lookup_ok np _ _ _ _ _ _ l hlookup
      simp only [hserved]

section
variable (response : ChatCompletionResponse) (hoj : oj.RoundTrips (sseValues response))
  (r : Readings) (w w' : World F) (result : ProxyResult F)
  (hcomplete : svc.complete np pyd request tenant policy (.ok response) r w = .ok result w')
  (hmiss : result.cacheStatus = .miss) (e : CacheEntry F) (he : w'.store.items = w.store.items ++ [e])
  (policy₂ : E) (r₂ : Readings) (w₂ w₂' : World F) (result₂ : StreamResult F)
  (hstream : svc.stream np oj pyd request tenant policy₂ r₂ w₂ = .ok result₂ w₂')
  (hmiss₂ : result₂.cacheStatus = .miss) (r₃ : Readings) (w₃ : World F) (e' : CacheEntry F)
  (he' : (svc.runBody oj pyd (bufferedStream oj (.ok response)).1 (bufferedStream oj (.ok response)).2 r₃ w₃
    result₂.body).world.store.items = w₃.store.items ++ [e'])
include hoj hcomplete hmiss he hstream hmiss₂ he'

/-- The entries of a buffered and of a streaming MISS of one completion. -/
theorem accountsAs_misses :
    e'.AccountsAs pyd e ↔
      StreamAssembler.estimateUsage response.firstText = response.usage ∧ request.model = response.model := by
  -- the buffered entry is the completion's
  have hbuffered := svc.store_of_complete_miss np pyd request tenant policy response r w w' result hcomplete hmiss
  rw [hbuffered] at he
  obtain rfl := svc.entry_of_cacheResponse request _ _ response r w.store e he
  -- the streamed one is that of what was assembled
  rw [svc.stream_body_of_miss np oj pyd request tenant policy₂ r₂ w₂ w₂' result₂ hstream hmiss₂] at he'
  replace he' : (svc.missBody oj pyd request _ _ (responseToSse oj response) .ended r₃ w₃).world.store.items = _ := he'
  obtain ⟨built, hbuilt⟩ : ∃ built,
      Assembles oj pyd request.model (responseToSse oj response) r₃.uuid r₃.now built := by
    by_contra hnone
    rw [svc.missBody_not_assembles oj pyd request _ _ _ r₃ w₃ .ended fun h => hnone h.2] at he'
    simp at he'
  rw [svc.missBody_assembles oj pyd request _ _ _ r₃ w₃ built hbuilt] at he'
  obtain rfl := svc.entry_of_cacheResponse request _ _ built r₃ w₃.store e' he'
  obtain ⟨husage, hmodel⟩ := assembles_responseToSse oj response hoj pyd request.model r₃.uuid r₃.now built hbuilt
  rw [accountsAs_entryFor, husage, hmodel]

/-- **Accounting.**  The same single-choice text completion, returned by `complete` to a
buffered MISS and streamed by the buffered default to a streaming one: the two entries
account alike, now and at every later HIT, exactly when its usage is no prompt tokens and
one token for four letters of its text, and its model the one asked for. -/
theorem same_accounting_iff (c : ChatCompletionChoice) (text : String) (hchoices : response.choices = [c])
    (htext : c.message.content = some text) :
    e'.AccountsAs pyd e ↔
      response.usage.promptTokens = 0 ∧ response.usage.completionTokens = max 1 (text.length / 4 : Int) ∧
        response.usage.totalTokens = max 1 (text.length / 4 : Int) ∧ response.usage.extra = .none _ ∧
        response.model = request.model := by
  have hfirst : response.firstText = text := by
    unfold ChatCompletionResponse.firstText
    rw [hchoices]
    show c.message.content.getD "" = text
    rw [htext]
    rfl
  rw [svc.accountsAs_misses np oj pyd request tenant policy response hoj r w w' result hcomplete hmiss e he policy₂
    r₂ w₂ w₂' result₂ hstream hmiss₂ r₃ w₃ e' he', hfirst]
  unfold StreamAssembler.estimateUsage
  constructor
  · rintro ⟨h, hm⟩
    rw [← h]
    exact ⟨rfl, rfl, rfl, rfl, hm.symm⟩
  · rintro ⟨h1, h2, h3, h4, hm⟩
    refine ⟨?_, hm.symm⟩
    cases hu : response.usage with
    | mk p q t x =>
      rw [hu] at h1 h2 h3 h4
      simp only at h1 h2 h3 h4
      rw [h1, h2, h3, h4]

end

/-- The echo's entries never account alike: it counts a prompt token at least. -/
theorem echo_accounts_apart (uuid : String) (now : Int)
    (hoj : oj.RoundTrips (sseValues (EchoCompleter.complete uuid now request)))
    (r : Readings) (w w' : World F) (result : ProxyResult F)
    (hcomplete : svc.complete np pyd request tenant policy (.ok (EchoCompleter.complete uuid now request)) r w =
      .ok result w')
    (hmiss : result.cacheStatus = .miss) (e : CacheEntry F) (he : w'.store.items = w.store.items ++ [e])
    (policy₂ : E) (r₂ : Readings) (w₂ w₂' : World F) (result₂ : StreamResult F)
    (hstream : svc.stream np oj pyd request tenant policy₂ r₂ w₂ = .ok result₂ w₂')
    (hmiss₂ : result₂.cacheStatus = .miss) (r₃ : Readings) (w₃ : World F) (e' : CacheEntry F)
    (he' : (svc.runBody oj pyd (bufferedStream oj (.ok (EchoCompleter.complete uuid now request))).1
      (bufferedStream oj (.ok (EchoCompleter.complete uuid now request))).2 r₃ w₃
      result₂.body).world.store.items = w₃.store.items ++ [e']) : ¬ e'.AccountsAs pyd e := by
  rw [svc.accountsAs_misses np oj pyd request tenant policy _ hoj r w w' result hcomplete hmiss e he policy₂ r₂ w₂ w₂'
    result₂ hstream hmiss₂ r₃ w₃ e' he']
  rintro ⟨husage, -⟩
  have hprompt : (0 : Int) = max 1 ((request.latestUserPrompt.length : Int) / 4) :=
    congrArg CompletionUsage.promptTokens husage
  omega

end

/-! ## Two completions -/

/-- A completion whose usage is the estimate. -/
def estimatedText : ChatCompletionResponse where
  id := "chatcmpl-1"
  created := 1700000000
  model := "gpt-4o-mini"
  choices := [{ message := { role := .assistant, content := some "hello world" } }]
  usage := { completionTokens := 2, totalTokens := 2 }

def echoText : ChatCompletionResponse :=
  EchoCompleter.complete someReadings.uuid someReadings.now oceanRequest

/-- A codec for the chunks of a response. -/
def sseCodec (r : ChatCompletionResponse) : Orjson := .ofValues [roleChunk r, contentChunk r, finalChunk r]

theorem sseCodec_roundTrips (r : ChatCompletionResponse)
    (hnodup : ([roleChunk r, contentChunk r, finalChunk r].map fun j => encode j.compact).Nodup)
    (hclean : ∀ j ∈ [roleChunk r, contentChunk r, finalChunk r], newline ∉ encode j.compact ∧
      stripBytes (encode j.compact) = encode j.compact ∧ encode j.compact ≠ doneMarker) :
    (sseCodec r).RoundTrips (sseValues r) := by
  have h := Orjson.ofValues_roundTrips _ hnodup hclean
  rwa [← sseValues_eq] at h

theorem estimatedText_roundTrips : (sseCodec estimatedText).RoundTrips (sseValues estimatedText) :=
  sseCodec_roundTrips _ (by decide +kernel) (by decide +kernel)

theorem echoText_roundTrips : (sseCodec echoText).RoundTrips (sseValues echoText) :=
  sseCodec_roundTrips _ (by decide +kernel) (by decide +kernel)

/-- On an empty cache both MISSes of a completion leave an entry. -/
theorem exists_misses (response : ChatCompletionResponse) (finish : String) (c : ChatCompletionChoice)
    (cs : List ChatCompletionChoice) (hoj : (sseCodec response).RoundTrips (sseValues response))
    (hid : response.id ≠ "") (hcreated : response.created ≠ 0) (hchoices : response.choices = c :: cs)
    (hfinish : c.finishReason = some finish) (hne : finish ≠ "") :
    ∃ result w' result₂ w₂' e e',
      plainService.complete (.sorting Rat.sqrt) .strict oceanRequest "team" () (.ok response) someReadings
          ⟨.new, []⟩ = .ok result w' ∧ result.cacheStatus = .miss ∧ w'.store.items = [e] ∧
        plainService.stream (.sorting Rat.sqrt) (sseCodec response) .strict oceanRequest "team" () someReadings
          ⟨.new, []⟩ = .ok result₂ w₂' ∧ result₂.cacheStatus = .miss ∧
        (plainService.runBody (sseCodec response) .strict (responseToSse (sseCodec response) response) .ended
          someReadings ⟨.new, []⟩ result₂.body).world.store.items = [e'] := by
  have hadds := fun built : ChatCompletionResponse =>
    (plainService.addsOne_cacheResponse oceanRequest (plainService.requestSignature oceanRequest "team")
      oceanRequest.latestUserPrompt built someReadings .new List.not_mem_nil).1 (show (0 : Int) < 86400 by decide)
  have hwhole := assembles_sse (sseCodec response) .strict response "gpt-4o-mini" finish c cs hoj hid hcreated
    hchoices hfinish hne someReadings.uuid someReadings.now
  have hbody := plainService.missBody_assembles (sseCodec response) .strict oceanRequest
    (plainService.requestSignature oceanRequest "team") oceanRequest.latestUserPrompt _ someReadings ⟨.new, []⟩ _
    hwhole
  obtain ⟨e, he⟩ := hadds response
  obtain ⟨e', he'⟩ := hadds _
  exact ⟨_, _, _, _, e, e', rfl, rfl, he, rfl, rfl, (congrArg (fun b => b.world.store.items) hbody).trans he'⟩

/-- Usage as estimated: the entries account alike. -/
theorem same_accounting_estimatedText : ∃ w' result₂ w₂' e e',
    worldAfter (plainService.complete (.sorting Rat.sqrt) .strict oceanRequest "team" () (.ok estimatedText)
        someReadings) ⟨.new, []⟩ = w' ∧ w'.store.items = [e] ∧
      plainService.stream (.sorting Rat.sqrt) (sseCodec estimatedText) .strict oceanRequest "team" () someReadings
        ⟨.new, []⟩ = .ok result₂ w₂' ∧
      (plainService.runBody (sseCodec estimatedText) .strict
        (responseToSse (sseCodec estimatedText) estimatedText) .ended someReadings ⟨.new, []⟩
        result₂.body).world.store.items = [e'] ∧
      e'.AccountsAs .strict e := by
  obtain ⟨result, w', result₂, w₂', e, e', hcomplete, hmiss, he, hstream, hmiss₂, he'⟩ :=
    exists_misses estimatedText "stop" _ [] estimatedText_roundTrips (by decide) (by decide) rfl rfl (by decide)
  refine ⟨w', result₂, w₂', e, e', ?_, he, hstream, he', ?_⟩
  · unfold worldAfter EStateM.run
    rw [hcomplete]
  · exact (plainService.same_accounting_iff (.sorting Rat.sqrt) (sseCodec estimatedText) .strict oceanRequest "team"
      () estimatedText estimatedText_roundTrips someReadings ⟨.new, []⟩ w' result hcomplete hmiss e he ()
      someReadings ⟨.new, []⟩ w₂' result₂ hstream hmiss₂ someReadings ⟨.new, []⟩ e' he' _ "hello world" rfl rfl).mpr
      ⟨rfl, by decide, by decide, rfl, rfl⟩

/-- The echo's entry, streamed, has no prompt tokens. -/
theorem accounting_echoText : ∃ w' result₂ w₂' e e',
    worldAfter (plainService.complete (.sorting Rat.sqrt) .strict oceanRequest "team" () (.ok echoText)
        someReadings) ⟨.new, []⟩ = w' ∧ w'.store.items = [e] ∧
      plainService.stream (.sorting Rat.sqrt) (sseCodec echoText) .strict oceanRequest "team" () someReadings
        ⟨.new, []⟩ = .ok result₂ w₂' ∧
      (plainService.runBody (sseCodec echoText) .strict (bufferedStream (sseCodec echoText) (.ok echoText)).1
        (bufferedStream (sseCodec echoText) (.ok echoText)).2 someReadings ⟨.new, []⟩
        result₂.body).world.store.items = [e'] ∧
      ¬ e'.AccountsAs .strict e := by
  obtain ⟨result, w', result₂, w₂', e, e', hcomplete, hmiss, he, hstream, hmiss₂, he'⟩ :=
    exists_misses echoText "stop" _ [] echoText_roundTrips (by decide) (by decide) rfl rfl (by decide)
  refine ⟨w', result₂, w₂', e, e', ?_, he, hstream, he', ?_⟩
  · unfold worldAfter EStateM.run
    rw [hcomplete]
  · intro h
    have husage := ((plainService.accountsAs_misses (.sorting Rat.sqrt) (sseCodec echoText) .strict oceanRequest
      "team" () echoText echoText_roundTrips someReadings ⟨.new, []⟩ w' result hcomplete hmiss e he () someReadings
      ⟨.new, []⟩ w₂' result₂ hstream hmiss₂ someReadings ⟨.new, []⟩ e' he').mp h).1
    have hprompt := congrArg CompletionUsage.promptTokens husage
    revert hprompt
    decide +kernel

end ProxyService

end CachingLayer
