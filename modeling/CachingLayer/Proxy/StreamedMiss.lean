import CachingLayer.Proxy.Service

/-!
# A streamed MISS

What reassembly means for the client and for the cache, exactly: when the body
forwards every chunk (`forwards_iff`), and when what it caches is free of gaps
(`cached_noGap_iff`).
-/

namespace CachingLayer

open Text

/-- The payloads of a stream that are decoded. -/
def streamValues (oj : Orjson) (chunks : List Bytes) : List Json :=
  decoded oj (streamPayloads chunks.flatten)

/-- What an assembler holds of a stream. -/
def streamParts (oj : Orjson) (chunks : List Bytes) : Parts := reassembled (streamValues oj chunks)

namespace ProxyService

section
variable {F E : Type} (oj : Orjson) (pyd : Pydantic) (svc : ProxyService F E)

/-- In closed form: the chunks are whole exactly when every decoded payload is mergeable,
`[DONE]` is there and the parts are buildable. -/
theorem assembles_iff (model : String) (chunks : List Bytes) (uuid : String) (now : Int)
    (response : ChatCompletionResponse) :
    Assembles oj pyd model chunks uuid now response ↔
      (∀ j ∈ streamValues oj chunks, j.mergeable = true) ∧ doneMarker ∈ streamPayloads chunks.flatten ∧
        (streamParts oj chunks).buildable pyd = true ∧
        response = (streamParts oj chunks).response pyd uuid now model := by
  unfold Assembles
  constructor
  · rintro ⟨a, hpush, hdone, hbuild⟩
    obtain ⟨hm, rfl⟩ := (StreamAssembler.pushAll_eq_ok_iff oj model chunks a).mp hpush
    obtain ⟨hb, rfl⟩ := (StreamAssembler.buildResponse_eq_ok_iff pyd uuid now _ response).mp hbuild
    exact ⟨hm, hdone, hb, rfl⟩
  · rintro ⟨hm, hdone, hb, rfl⟩
    exact ⟨_, (StreamAssembler.pushAll_eq_ok_iff oj model chunks _).mpr ⟨hm, rfl⟩, hdone,
      (StreamAssembler.buildResponse_eq_ok_iff pyd uuid now _ _).mpr ⟨hb, rfl⟩⟩

section
variable (request : ChatCompletionRequest) (signature : RequestSignature) (prompt : String)
  (chunks : List Bytes) (r : Readings) (w : World F)

/-- The upstream having ended, the body yields every chunk and fails nowhere exactly
when no push and no build raises. -/
theorem missBody_ended_ok_iff :
    (svc.missBody oj pyd request signature prompt chunks .ended r w).yielded = chunks ∧
        (svc.missBody oj pyd request signature prompt chunks .ended r w).result = .ok () ↔
      (∀ j ∈ streamValues oj chunks, j.mergeable = true) ∧
        (doneMarker ∈ streamPayloads chunks.flatten → (streamParts oj chunks).buildable pyd = true) := by
  cases hpush : (StreamAssembler.new request.model).pushAll oj chunks with
  | error e =>
    rw [svc.missBody_push_error oj pyd request signature prompt chunks r w .ended e hpush]
    constructor
    · rintro ⟨-, h⟩; cases h
    · rintro ⟨hm, -⟩
      rw [(StreamAssembler.pushAll_eq_ok_iff oj request.model chunks _).mpr ⟨hm, rfl⟩] at hpush
      cases hpush
  | ok a =>
    have hpush' := (StreamAssembler.pushAll_eq_ok_iff oj request.model chunks a).mp hpush
    by_cases hdone : doneMarker ∈ streamPayloads chunks.flatten
    · have hbuildable : (streamParts oj chunks).buildable pyd = a.parts.buildable pyd := by
        rw [hpush'.2]; rfl
      rw [svc.missBody_complete oj pyd request signature prompt chunks r w a hpush hdone, hbuildable]
      cases hbuild : a.buildResponse pyd r.uuid r.now with
      | error e =>
        constructor
        · rintro ⟨-, h⟩; cases h
        · rintro ⟨-, hb⟩
          rw [(StreamAssembler.buildResponse_eq_ok_iff pyd r.uuid r.now a _).mpr ⟨hb hdone, rfl⟩] at hbuild
          cases hbuild
      | ok response =>
        have hb := ((StreamAssembler.buildResponse_eq_ok_iff pyd r.uuid r.now a response).mp hbuild).1
        exact ⟨fun _ => ⟨hpush'.1, fun _ => hb⟩, fun _ => ⟨rfl, rfl⟩⟩
    · rw [svc.missBody_incomplete oj pyd request signature prompt chunks r w a hpush hdone]
      exact ⟨fun _ => ⟨hpush'.1, fun h => absurd h hdone⟩, fun _ => ⟨rfl, rfl⟩⟩

/-- The upstream having ended, the body writes an entry exactly when the chunks are whole
and the policy's TTL for the response they make is positive. -/
theorem missBody_writes_iff (hfresh : r.entryId ∉ w.store.items.map CacheEntry.id) :
    (svc.missBody oj pyd request signature prompt chunks .ended r w).world.store.items ≠ w.store.items ↔
      (∀ j ∈ streamValues oj chunks, j.mergeable = true) ∧ doneMarker ∈ streamPayloads chunks.flatten ∧
        (streamParts oj chunks).buildable pyd = true ∧
        0 < (svc.resolvePolicy request
          ((streamParts oj chunks).response pyd r.uuid r.now request.model)).1 := by
  by_cases h : ∃ response, Assembles oj pyd request.model chunks r.uuid r.now response
  · obtain ⟨response, hwhole⟩ := h
    rw [svc.missBody_assembles oj pyd request signature prompt chunks r w response hwhole]
    obtain ⟨hm, hdone, hb, rfl⟩ := (assembles_iff oj pyd request.model chunks r.uuid r.now response).mp hwhole
    have hitems := svc.cacheResponse_items request signature prompt
      ((streamParts oj chunks).response pyd r.uuid r.now request.model) r w.store hfresh
    show (svc.cacheResponse request signature prompt _ r w.store).items ≠ _ ↔ _
    rw [hitems]
    constructor
    · intro hne
      refine ⟨hm, hdone, hb, ?_⟩
      by_contra ht
      rw [if_neg ht, List.append_nil] at hne
      exact hne rfl
    · rintro ⟨-, -, -, ht⟩
      rw [if_pos ht]
      simp
  · rw [svc.missBody_not_assembles oj pyd request signature prompt chunks r w .ended fun h' => h h'.2]
    constructor
    · intro hne; exact absurd rfl hne
    · rintro ⟨hm, hdone, hb, -⟩
      exact absurd ⟨_, (assembles_iff oj pyd request.model chunks r.uuid r.now _).mpr ⟨hm, hdone, hb, rfl⟩⟩ h

end

end

/-! ## Forwarding -/

section
variable {F E : Type} [Field F] [LinearOrder F] (np : Numpy F) (oj : Orjson) (pyd : Pydantic)
  (svc : ProxyService F E)

/-- **Forwarding.**  The body of a streaming MISS hands on exactly the upstream's chunks and
raises nothing, when and only when every payload that decodes is of a shape `_merge`
takes apart and, if `[DONE]` came, what was read has the response model's types. -/
theorem forwards_iff (request : ChatCompletionRequest) (tenant : String) (policy : E) (r : Readings)
    (w w' : World F) (result : StreamResult F)
    (hstream : svc.stream np oj pyd request tenant policy r w = .ok result w')
    (hmiss : result.cacheStatus = .miss) (chunks : List Bytes) (r₂ : Readings) (w₂ : World F) :
    ((svc.runBody oj pyd chunks .ended r₂ w₂ result.body).yielded = chunks ∧
        (svc.runBody oj pyd chunks .ended r₂ w₂ result.body).result = .ok ()) ↔
      (∀ j ∈ streamValues oj chunks, j.mergeable = true) ∧
        (doneMarker ∈ streamPayloads chunks.flatten → (streamParts oj chunks).buildable pyd = true) := by
  rw [svc.stream_body_of_miss np oj pyd request tenant policy r w w' result hstream hmiss]
  exact svc.missBody_ended_ok_iff oj pyd request _ _ chunks r₂ w₂

end

/-- A response's own events and `[DONE]` are handed on. -/
theorem forwards_iff_framedText :
    ∃ result w', plainService.stream (.sorting Rat.sqrt) framedCodec .strict oceanRequest "team" ()
        someReadings ⟨.new, []⟩ = .ok result w' ∧
      doneMarker ∈ streamPayloads (responseToSse framedCodec framedText).flatten ∧
      (plainService.runBody framedCodec .strict (responseToSse framedCodec framedText) .ended someReadings w'
        result.body).yielded = responseToSse framedCodec framedText ∧
      (plainService.runBody framedCodec .strict (responseToSse framedCodec framedText) .ended someReadings w'
        result.body).result = .ok () := by
  obtain ⟨hmergeable, hdone, hbuildable, -⟩ := (assembles_iff framedCodec .strict "gpt-4o-mini"
    (responseToSse framedCodec framedText) _ _ _).mp assembles_framedText
  refine ⟨_, _, rfl, hdone, ?_⟩
  exact (forwards_iff (.sorting Rat.sqrt) framedCodec .strict plainService oceanRequest "team" () someReadings
    ⟨.new, []⟩ _ _ rfl rfl (responseToSse framedCodec framedText) someReadings _).mpr
    ⟨hmergeable, fun _ => hbuildable⟩

/-- `null` is JSON and no dict: its push raises before its chunk is yielded. -/
theorem forwards_null :
    ∃ result w', plainService.stream (.sorting Rat.sqrt) (.ofValues [.null]) .strict oceanRequest "team" ()
        someReadings ⟨.new, []⟩ = .ok result w' ∧ result.cacheStatus = .miss ∧
      (plainService.runBody (.ofValues [.null]) .strict [encode "data: null\n\n"] .ended someReadings w'
        result.body).yielded = [] ∧
      (plainService.runBody (.ofValues [.null]) .strict [encode "data: null\n\n"] .ended someReadings w'
        result.body).result = .error .attributeError := by
  refine ⟨_, _, rfl, rfl, ?_, ?_⟩
  · decide +kernel
  · decide +kernel

/-! ## Gaps -/

/-- The payloads before `[DONE]`. -/
def beforeDone (chunks : List Bytes) : List Bytes :=
  (streamPayloads chunks.flatten).takeWhile (· ≠ doneMarker)

/-- An upstream's error object. -/
def isErrorObject (j : Json) : Bool := !(j.entries.get "error" .null).isNone

def carriesFinish (j : Json) : Bool := j.choiceList.any fun c => !c.choiceFinish.isNone

/-- Nothing is missing before `[DONE]`: every payload decodes, none reports an error, and
some choice is finished. -/
structure NoGap (oj : Orjson) (chunks : List Bytes) : Prop where
  decoded : ∀ p ∈ beforeDone chunks, (oj.loads p).isSome
  noError : ∀ p ∈ beforeDone chunks, ∀ j ∈ oj.loads p, isErrorObject j = false
  finished : ∃ p ∈ beforeDone chunks, ∃ j ∈ oj.loads p, carriesFinish j = true

/-- **Gaps.**  What is written is free of gaps exactly when the stream is, or it is one
that is not written at all: without `[DONE]`, with a payload `_merge` cannot take apart,
not buildable, or with a response the policy does not keep. -/
theorem cached_noGap_iff {F E : Type} (oj : Orjson) (pyd : Pydantic) (svc : ProxyService F E)
    (request : ChatCompletionRequest) (signature : RequestSignature) (prompt : String)
    (chunks : List Bytes) (r : Readings) (w : World F)
    (hfresh : r.entryId ∉ w.store.items.map CacheEntry.id) :
    ((svc.missBody oj pyd request signature prompt chunks .ended r w).world.store.items ≠ w.store.items →
        NoGap oj chunks) ↔
      NoGap oj chunks ∨ doneMarker ∉ streamPayloads chunks.flatten ∨
        (∃ j ∈ streamValues oj chunks, j.mergeable = false) ∨ (streamParts oj chunks).buildable pyd = false ∨
        (svc.resolvePolicy request
          ((streamParts oj chunks).response pyd r.uuid r.now request.model)).1 ≤ 0 := by
  rw [svc.missBody_writes_iff oj pyd request signature prompt chunks r w hfresh]
  constructor
  · intro h
    by_cases hgap : NoGap oj chunks
    · exact Or.inl hgap
    · right
      by_contra hno
      simp only [not_or, not_exists, not_and, not_not, not_le, Bool.not_eq_false] at hno
      exact hgap (h ⟨hno.2.1, hno.1, hno.2.2.1, hno.2.2.2⟩)
  · rintro h ⟨hm, hdone, hb, ht⟩
    rcases h with h | h | ⟨j, hj, h⟩ | h | h
    · exact h
    · exact absurd hdone h
    · rw [hm j hj] at h; cases h
    · rw [hb] at h; cases h
    · omega

theorem framedText_payloads :
    streamPayloads (responseToSse framedCodec framedText).flatten = ssePayloads framedCodec framedText :=
  streamPayloads_responseToSse framedCodec framedText framedCodec_roundTrips

theorem framedText_noGap : NoGap framedCodec (responseToSse framedCodec framedText) := by
  have hbefore : beforeDone (responseToSse framedCodec framedText) =
      (ssePayloads framedCodec framedText).takeWhile (· ≠ doneMarker) := by
    unfold beforeDone; rw [framedText_payloads]
  constructor <;> rw [hbefore]
  · decide +kernel
  · decide +kernel
  · decide +kernel

/-- A whole stream is written, and it has no gap. -/
theorem cached_noGap_iff_framedText :
    (plainService.missBody framedCodec .strict oceanRequest (plainService.requestSignature oceanRequest "team")
        oceanRequest.latestUserPrompt (responseToSse framedCodec framedText) .ended someReadings
        ⟨.new, []⟩).world.store.items ≠ [] ∧
      NoGap framedCodec (responseToSse framedCodec framedText) := by
  have hwritten : (plainService.missBody framedCodec .strict oceanRequest
      (plainService.requestSignature oceanRequest "team") oceanRequest.latestUserPrompt
      (responseToSse framedCodec framedText) .ended someReadings ⟨.new, []⟩).world.store.items ≠ [] := by
    rw [ne_eq, ← List.length_eq_zero_iff]
    decide +kernel
  exact ⟨hwritten, (cached_noGap_iff framedCodec .strict plainService oceanRequest _ _ _ someReadings
    ⟨.new, []⟩ (by simp [InMemoryVectorStore.new, Keyed.empty])).mpr (Or.inl framedText_noGap) hwritten⟩

def overloaded : Json := .obj [("error", .obj [("message", .str "overloaded")])]

/-- An upstream error and `[DONE]`: an empty answer is cached. -/
theorem cached_overloaded :
    (plainService.missBody (.ofValues [overloaded]) .strict oceanRequest
        (plainService.requestSignature oceanRequest "team") oceanRequest.latestUserPrompt
        [sse (.ofValues [overloaded]) overloaded, sseDone] .ended someReadings ⟨.new, []⟩).world.store.items ≠ [] ∧
      ¬ NoGap (.ofValues [overloaded]) [sse (.ofValues [overloaded]) overloaded, sseDone] := by
  constructor
  · rw [ne_eq, ← List.length_eq_zero_iff]
    decide +kernel
  · intro h
    have := h.noError
    revert this
    decide +kernel

end ProxyService

end CachingLayer
