import CachingLayer.Providers.Answers
import CachingLayer.Proxy.Accounting
import CachingLayer.Proxy.Delivery

/-!
# Translated answers

An answer of the Messages API on its way to the clients: translated, sent or streamed,
kept as what was sent or as what was read of the stream, served again in one way or the
other.  On all of these ways a client receives one choice of the assistant, the text of the
answer's text blocks and its finish reason (`answer_received`).
-/

namespace CachingLayer

open Text

/-- The one choice received, whether the response is sent or streamed. -/
structure ChatCompletionResponse.Tells (oj : Orjson) (r : ChatCompletionResponse) (said : ChoiceView) : Prop where
  sent : r.choices.map ChatCompletionChoice.view = [said]
  streamed : oj.RoundTrips (sseValues r) → received oj (responseToSse oj r).flatten = [said]

/-- A choice of the assistant that is text alone. -/
def plainChoice (text finish : String) : ChatCompletionChoice where
  message := { role := .assistant, content := some text }
  finishReason := some finish

theorem tells_of_plainChoice (oj : Orjson) (r : ChatCompletionResponse) (text finish : String)
    (h : r.choices = [plainChoice text finish]) : r.Tells oj (plainChoice text finish).view where
  sent := by rw [h]; rfl
  streamed := by
    intro hoj
    have hfirst : r.firstText = text := by
      unfold ChatCompletionResponse.firstText
      rw [h]
      rfl
    rw [received_responseToSse oj r hoj, h, hfirst]
    rfl

/-! ## What is read of the stream -/

section
variable (oj : Orjson) (r : ChatCompletionResponse) (text finish : String)
  (h : r.choices = [plainChoice text finish]) (hne : finish ≠ "")
include h hne

theorem finishReason_responseToSse (hoj : oj.RoundTrips (sseValues r)) :
    (streamParts oj (responseToSse oj r)).finishReason = .str finish := by
  have htrue : (Json.str finish).truthy = true := by simpa [Json.truthy] using hne
  have hfinal : (finalChunk r).finishes = [.str finish] := by
    unfold finalChunk
    rw [h]
    show [Json.str finish].filter Json.truthy = _
    rw [List.filter_cons_of_pos htrue]
    rfl
  have hnone : (roleChunk r).finishes = [] ∧ (contentChunk r).finishes = [] := ⟨rfl, rfl⟩
  unfold streamParts
  rw [streamValues_responseToSse oj r hoj]
  show (List.flatMap Json.finishes [roleChunk r, contentChunk r, finalChunk r]).getLastD .null = _
  rw [List.flatMap_cons, List.flatMap_cons, List.flatMap_cons, hnone.1, hnone.2, hfinal]
  rfl

/-- Any cut of the chunks is read as the same choice. -/
theorem choices_of_assembles (hoj : oj.RoundTrips (sseValues r)) (pyd : Pydantic) (model : String)
    (chunks : List Bytes) (hcut : chunks.flatten = (responseToSse oj r).flatten) (uuid : String) (now : Int)
    (built : ChatCompletionResponse) (hbuilt : ProxyService.Assembles oj pyd model chunks uuid now built) :
    built.choices = [plainChoice text finish] := by
  obtain ⟨-, -, -, rfl⟩ := (ProxyService.assembles_iff oj pyd model chunks uuid now built).mp hbuilt
  have hparts : streamParts oj chunks = streamParts oj (responseToSse oj r) := by
    unfold streamParts streamValues
    rw [hcut]
  have htrue : (Json.str finish).truthy = true := by simpa [Json.truthy] using hne
  have hfirst : r.firstText = text := by
    unfold ChatCompletionResponse.firstText
    rw [h]
    rfl
  unfold Parts.response
  simp only []
  rw [hparts, content_responseToSse oj r hoj, finishReason_responseToSse oj r text finish h hne hoj, hfirst]
  unfold Parts.orKeep
  rw [if_pos htrue]
  rfl

end

namespace AnthropicProvider

theorem finishReasons_ne_empty (s : String) : (finishReasons.lookup s).getD "stop" ≠ "" := by
  cases h : finishReasons.lookup s with
  | none => decide
  | some reason =>
    have hmem : reason ∈ finishReasons.map Prod.snd := by
      obtain ⟨front, back, hsplit, -⟩ := List.lookup_eq_some_iff.mp h
      rw [hsplit]
      simp
    revert hmem
    simp only [finishReasons, List.map_cons, List.map_nil, List.mem_cons, List.not_mem_nil, or_false]
    rintro (rfl | rfl | rfl | rfl) <;> decide

theorem saidFinish_ne_empty (body : Json) : saidFinish body ≠ "" := by
  unfold saidFinish
  split
  · exact finishReasons_ne_empty _
  · decide

/-- What every client is to receive. -/
def saidView (body : Json) : ChoiceView := (plainChoice (saidText body) (saidFinish body)).view

end AnthropicProvider

/-! ## Every way to a client -/

namespace ProxyService

section
variable {F E : Type} [Field F] [LinearOrder F] (np : Numpy F) (oj : Orjson) (pyd : Pydantic)
  (svc : ProxyService F E) (request : ChatCompletionRequest) (tenant : String)

/-- An entry that a MISS adds when its upstream completes with `r`: a buffered one, or one
that streams `r`, however the chunks are cut. -/
inductive KeptFrom (r : ChatCompletionResponse) (e : CacheEntry F) : Prop
  | buffered (policy : E) (rd : Readings) (w w' : World F) (result : ProxyResult F)
      (run : svc.complete np pyd request tenant policy (.ok r) rd w = .ok result w')
      (miss : result.cacheStatus = .miss) (added : w'.store.items = w.store.items ++ [e])
  | streamed (policy : E) (rd : Readings) (w w' : World F) (result : StreamResult F)
      (run : svc.stream np oj pyd request tenant policy rd w = .ok result w') (miss : result.cacheStatus = .miss)
      (chunks : List Bytes) (cut : chunks.flatten = (responseToSse oj r).flatten) (rd₂ : Readings) (w₂ : World F)
      (added : (svc.runBody oj pyd chunks .ended rd₂ w₂ result.body).world.store.items = w₂.store.items ++ [e])

/-- What is kept of one choice of text is that choice. -/
theorem KeptFrom.choices (r : ChatCompletionResponse) (e : CacheEntry F) (text finish : String)
    (h : r.choices = [plainChoice text finish]) (hne : finish ≠ "") (hoj : oj.RoundTrips (sseValues r))
    (hkept : svc.KeptFrom np oj pyd request tenant r e) :
    ∃ kept : ChatCompletionResponse, e.response = kept.modelDump ∧ kept.choices = [plainChoice text finish] := by
  cases hkept with
  | buffered policy rd w w' result run miss added =>
    rw [svc.store_of_complete_miss np pyd request tenant policy r rd w w' result run miss] at added
    obtain rfl := svc.entry_of_cacheResponse request _ _ r rd w.store e added
    exact ⟨r, rfl, h⟩
  | streamed policy rd w w' result run miss chunks cut rd₂ w₂ added =>
    rw [svc.stream_body_of_miss np oj pyd request tenant policy rd w w' result run miss] at added
    change (svc.missBody oj pyd request _ _ chunks .ended rd₂ w₂).world.store.items = _ at added
    obtain ⟨built, hbuilt⟩ : ∃ built, Assembles oj pyd request.model chunks rd₂.uuid rd₂.now built := by
      by_contra hnone
      rw [svc.missBody_not_assembles oj pyd request _ _ _ rd₂ w₂ .ended fun h => hnone h.2] at added
      simp at added
    rw [svc.missBody_assembles oj pyd request _ _ _ rd₂ w₂ built hbuilt] at added
    obtain rfl := svc.entry_of_cacheResponse request _ _ built rd₂ w₂.store e added
    exact ⟨built, rfl, choices_of_assembles oj r text finish h hne hoj pyd request.model chunks cut _ _ built hbuilt⟩

/-- **One answer.**  When Anthropic's answer is taken, the asker receives its text and its
finish reason, sent or streamed; and so does every later client that is served what was
kept of it, by a buffered MISS or by a streaming one. -/
theorem answer_received (fl : FloatSums) (uuid : String) (now : Int) (body : Json) (r : ChatCompletionResponse)
    (hread : AnthropicProvider.toOpenaiResponse fl pyd uuid now body request.model = .ok r)
    (hoj : oj.RoundTrips (sseValues r)) :
    r.Tells oj (AnthropicProvider.saidView body) ∧
      ∀ e : CacheEntry F, svc.KeptFrom np oj pyd request tenant r e → ∀ uuid' now',
        ∃ cached, ChatCompletionResponse.modelValidate pyd uuid' now' e.response = .ok cached ∧
          cached.Tells oj (AnthropicProvider.saidView body) := by
  obtain ⟨-, rfl⟩ := (AnthropicProvider.toOpenaiResponse_eq_ok_iff fl pyd uuid now body request.model r).mp hread
  have hchoices : (AnthropicProvider.reading fl pyd uuid now body request.model).choices =
      [plainChoice (AnthropicProvider.saidText body) (AnthropicProvider.saidFinish body)] := rfl
  refine ⟨tells_of_plainChoice oj _ _ _ hchoices, fun e hkept uuid' now' => ?_⟩
  obtain ⟨kept, hresponse, hkept⟩ := hkept.choices np oj pyd svc request tenant _ e _ _ hchoices
    (AnthropicProvider.saidFinish_ne_empty body) hoj
  refine ⟨kept, ?_, tells_of_plainChoice oj kept _ _ hkept⟩
  rw [hresponse]
  exact ChatCompletionResponse.modelValidate_modelDump pyd uuid' now' kept

end

/-- Two text blocks around another one. -/
def bonjour : Json := .obj [
  ("id", .str "msg_1"),
  ("type", .str "message"),
  ("model", .str "gpt-4o-mini"),
  ("content", .arr [
    .obj [("type", .str "text"), ("text", .str "Bon")],
    .obj [("type", .str "thinking"), ("thinking", .str "...")],
    .obj [("type", .str "text"), ("text", .str "jour")]]),
  ("stop_reason", .str "max_tokens"),
  ("usage", .obj [("input_tokens", .int 10), ("output_tokens", .int 3)])]

def bonjourRead : ChatCompletionResponse :=
  AnthropicProvider.reading .exact .strict someReadings.uuid someReadings.now bonjour oceanRequest.model

theorem bonjourRead_roundTrips : (sseCodec bonjourRead).RoundTrips (sseValues bonjourRead) :=
  sseCodec_roundTrips _ (by decide +kernel) (by decide +kernel)

/-- Kept by either MISS, it is read as `Bonjour`. -/
theorem answer_received_bonjour :
    bonjourRead.Tells (sseCodec bonjourRead) (plainChoice "Bonjour" "length").view ∧
      ∃ e e' : CacheEntry ℚ, ∃ cached cached',
        ChatCompletionResponse.modelValidate .strict someReadings.uuid someReadings.now e.response = .ok cached ∧
        cached.Tells (sseCodec bonjourRead) (plainChoice "Bonjour" "length").view ∧
        ChatCompletionResponse.modelValidate .strict someReadings.uuid someReadings.now e'.response = .ok cached' ∧
        cached'.Tells (sseCodec bonjourRead) (plainChoice "Bonjour" "length").view := by
  have hsaid : AnthropicProvider.saidView bonjour = (plainChoice "Bonjour" "length").view := by
    unfold AnthropicProvider.saidView
    rw [show AnthropicProvider.saidText bonjour = "Bonjour" by decide +kernel,
      show AnthropicProvider.saidFinish bonjour = "length" by decide +kernel]
  have hread : AnthropicProvider.toOpenaiResponse .exact .strict someReadings.uuid someReadings.now bonjour
      oceanRequest.model = .ok bonjourRead :=
    (AnthropicProvider.toOpenaiResponse_eq_ok_iff _ _ _ _ _ _ _).mpr ⟨by decide +kernel, rfl⟩
  obtain ⟨result, w', result₂, w₂', e, e', hcomplete, hmiss, he, hstream, hmiss₂, he'⟩ :=
    exists_misses bonjourRead "length" _ [] bonjourRead_roundTrips (by decide) (by decide) rfl
      (congrArg some (show AnthropicProvider.saidFinish bonjour = "length" by decide +kernel)) (by decide)
  obtain ⟨htells, hkept⟩ := plainService.answer_received (.sorting Rat.sqrt) (sseCodec bonjourRead) .strict
    oceanRequest "team" .exact someReadings.uuid someReadings.now bonjour bonjourRead hread bonjourRead_roundTrips
  rw [hsaid] at htells hkept
  obtain ⟨cached, hcached, hserved⟩ := hkept e (.buffered () someReadings ⟨.new, []⟩ w' result hcomplete hmiss he)
    someReadings.uuid someReadings.now
  obtain ⟨cached', hcached', hserved'⟩ := hkept e'
    (.streamed () someReadings ⟨.new, []⟩ w₂' result₂ hstream hmiss₂ _ rfl someReadings ⟨.new, []⟩ he')
    someReadings.uuid someReadings.now
  exact ⟨htells, e, e', cached, cached', hcached, hserved, hcached', hserved'⟩

end ProxyService

end CachingLayer
