import CachingLayer.Models.Codec
import CachingLayer.Proxy.Streaming

/-!
# Decoding undoes encoding on the wire

The bytes of `responseToSse r`, cut anywhere, make an assembler hold `r`'s id,
creation time, first text and finish reason (`pushAll_responseToSse`), and the
response it builds says the same (`responseToSse_roundTrip`).  Text that looks like
framing is safe because a dumped payload has no raw newline.
-/

namespace CachingLayer

open Text

/-- What the wire needs of `orjson` on the values `S`. -/
structure Orjson.RoundTrips (oj : Orjson) (S : Set Json) : Prop where
  /-- `loads` undoes `dumps`. -/
  loads_dumps : ∀ j ∈ S, oj.loads (oj.dumps j) = some j
  /-- `dumps` emits no raw newline … -/
  newline : ∀ j ∈ S, newline ∉ oj.dumps j
  /-- … and no surrounding whitespace. -/
  strip : ∀ j ∈ S, stripBytes (oj.dumps j) = oj.dumps j
  /-- `[DONE]` is not JSON. -/
  done : oj.loads doneMarker = none

/-! ## Framing one payload -/

theorem stripBy_cons_space {α : Type} (ws : α → Bool) (x : α) (l : List α) (hx : ws x = true) :
    stripBy ws (x :: l) = stripBy ws l := by
  unfold stripBy; rw [List.dropWhile_cons_of_pos hx]

theorem linePayload_data (x : Bytes) (hx : stripBytes x = x) :
    linePayload (encode "data: " ++ x) = some x := by
  have hsplit : encode "data: " ++ x = dataPrefix ++ 32 :: x := rfl
  have hline : stripBytes (dataPrefix ++ 32 :: x) = dataPrefix ++ 32 :: x ∨
      (x = [] ∧ stripBytes (dataPrefix ++ 32 :: x) = dataPrefix) := by
    by_cases hne : x = []
    · subst hne; exact Or.inr ⟨rfl, by decide⟩
    · left
      apply stripBy_eq_self
      · intro b hb
        have hd : dataPrefix = [100, 97, 116, 97, 58] := by decide
        obtain rfl : (100 : UInt8) = b := by simpa [hd] using hb
        rfl
      · intro b hb
        have hlast : b ∈ x.getLast? := by
          rwa [List.getLast?_append_of_ne_nil _ (by simp), List.getLast?_cons_of_ne_nil hne] at hb
        rw [← hx] at hlast
        exact getLast?_stripBy isByteSpace x b hlast
  unfold linePayload
  rw [hsplit]
  rcases hline with h | ⟨rfl, h⟩
  · rw [h, if_pos (List.prefix_append _ _), List.drop_left]
    show some (stripBy isByteSpace (32 :: x)) = some x
    rw [stripBy_cons_space _ _ _ (by decide)]
    exact congrArg some hx
  · rw [h]; decide

/-- One payload to an event. -/
def frames (xs : List Bytes) : Bytes := (xs.map fun x => encode "data: " ++ x ++ encode "\n\n").flatten

section
variable (xs : List Bytes) (hnl : ∀ x ∈ xs, newline ∉ x)
include hnl

theorem newline_notMem_data : ∀ u ∈ xs.map (fun x => encode "data: " ++ x), newline ∉ u := by
  intro u hu
  obtain ⟨x, hx, rfl⟩ := List.mem_map.mp hu
  rw [List.mem_append]
  rintro (h | h)
  · revert h; decide
  · exact hnl x hx h

theorem splitAll_frames :
    Framing.splitAll blankLine (frames xs) = (xs.map (fun x => encode "data: " ++ x), []) := by
  have hbytes : frames xs = (xs.map fun x => encode "data: " ++ x).flatMap fun u => u ++ blankLine := by
    rw [List.flatMap_map]; rfl
  rw [hbytes]
  exact Framing.splitAll_frames _ _ _ (newline_notMem_data xs hnl)

/-- Payloads written one to an event are the payloads read. -/
theorem streamPayloads_frames (hst : ∀ x ∈ xs, stripBytes x = x) : streamPayloads (frames xs) = xs := by
  have hev : ∀ x ∈ xs, eventPayloads (encode "data: " ++ x) = [x] := by
    intro x hx
    have hx' := newline_notMem_data xs hnl _ (List.mem_map_of_mem hx)
    unfold eventPayloads
    rw [List.splitOn_eq_singleton hx', List.filterMap_cons, linePayload_data x (hst x hx)]
    rfl
  unfold streamPayloads
  rw [splitAll_frames xs hnl, List.flatMap_map]
  calc xs.flatMap (fun x => eventPayloads (encode "data: " ++ x))
      = xs.flatMap (fun x => [x]) := List.flatMap_congr hev
    _ = xs := by simp

end

/-- The payloads of `r`'s stream. -/
def ssePayloads (oj : Orjson) (r : ChatCompletionResponse) : List Bytes :=
  [oj.dumps (roleChunk r), oj.dumps (contentChunk r), oj.dumps (finalChunk r), doneMarker]

theorem responseToSse_flatten (oj : Orjson) (r : ChatCompletionResponse) :
    (responseToSse oj r).flatten = frames (ssePayloads oj r) := rfl

/-! ## Merging the chunks of a response -/

/-- The values `r` is rendered as. -/
def sseValues (r : ChatCompletionResponse) : Set Json :=
  {roleChunk r, contentChunk r, finalChunk r}

theorem sseValues_eq (r : ChatCompletionResponse) :
    sseValues r = {j | j ∈ [roleChunk r, contentChunk r, finalChunk r]} := by
  ext j
  simp [sseValues]

theorem consumePayload_dumps (oj : Orjson) (S : Set Json) (hoj : oj.RoundTrips S) (p : Parts) (j : Json)
    (hj : j ∈ S) : p.consumePayload oj (oj.dumps j) = p.merge j := by
  have hne : oj.dumps j ≠ doneMarker := by
    intro h
    have := hoj.loads_dumps j hj
    rw [h, hoj.done] at this
    cases this
  unfold Parts.consumePayload
  rw [if_neg hne, hoj.loads_dumps j hj]

theorem merge_sseChunk (p : Parts) (r : ChatCompletionResponse) (delta : Dict) (finish : Json) :
    p.merge (sseChunk r delta finish) = .ok
      { p with
        id := .str r.id
        created := .int r.created
        contentParts :=
          if (Dict.get delta "content" .null).truthy then
            p.contentParts ++ [Dict.get delta "content" .null]
          else p.contentParts
        finishReason := Parts.orKeep finish p.finishReason } := rfl

/-- What an assembler holds after the chunks of `r`. -/
def sseParts (r : ChatCompletionResponse) (finish : String) : Parts where
  contentParts := if r.firstText = "" then [] else [.str r.firstText]
  finishReason := .str finish
  id := .str r.id
  created := .int r.created
  completed := true

section
variable (oj : Orjson) (r : ChatCompletionResponse) (model finish : String)
  (c : ChatCompletionChoice) (cs : List ChatCompletionChoice) (hoj : oj.RoundTrips (sseValues r))
  (hchoices : r.choices = c :: cs) (hfinish : c.finishReason = some finish) (hne : finish ≠ "")
include hoj

theorem ssePayloads_clean : ∀ x ∈ ssePayloads oj r, newline ∉ x ∧ stripBytes x = x := by
  intro x hx
  simp only [ssePayloads, List.mem_cons, List.not_mem_nil, or_false] at hx
  rcases hx with rfl | rfl | rfl | rfl
  · exact ⟨hoj.newline _ (by simp [sseValues]), hoj.strip _ (by simp [sseValues])⟩
  · exact ⟨hoj.newline _ (by simp [sseValues]), hoj.strip _ (by simp [sseValues])⟩
  · exact ⟨hoj.newline _ (by simp [sseValues]), hoj.strip _ (by simp [sseValues])⟩
  · decide

/-- The payloads written are the payloads read. -/
theorem streamPayloads_responseToSse : streamPayloads (responseToSse oj r).flatten = ssePayloads oj r := by
  have hclean := ssePayloads_clean oj r hoj
  rw [responseToSse_flatten]
  exact streamPayloads_frames _ (fun x hx => (hclean x hx).1) fun x hx => (hclean x hx).2

include hchoices hfinish hne

theorem merge_ssePayloads :
    (ssePayloads oj r).foldlM (Parts.consumePayload oj) {} = .ok (sseParts r finish) := by
  have hfin : finalChunk r = sseChunk r [] (.str finish) := by
    unfold finalChunk; rw [hchoices]; simp only [hfinish]; rfl
  have htrue : (Json.str finish).truthy = true := by simpa [Json.truthy] using hne
  unfold ssePayloads
  simp only [List.foldlM_cons, List.foldlM_nil]
  rw [consumePayload_dumps oj _ hoj _ _ (by simp [sseValues]), roleChunk, merge_sseChunk]
  show (Parts.consumePayload oj _ (oj.dumps (contentChunk r)) >>= _) = _
  rw [consumePayload_dumps oj _ hoj _ _ (by simp [sseValues]), contentChunk, merge_sseChunk]
  show (Parts.consumePayload oj _ (oj.dumps (finalChunk r)) >>= _) = _
  rw [consumePayload_dumps oj _ hoj _ _ (by simp [sseValues]), hfin, merge_sseChunk]
  show Except.ok _ = Except.ok _
  unfold sseParts
  congr 2
  · by_cases ht : r.firstText = "" <;> simp [ht, Json.truthy, Dict.get, List.lookup]
  · simp [Parts.orKeep, htrue]

theorem pushAll_responseToSse (chunks : List Bytes) (hcut : chunks.flatten = (responseToSse oj r).flatten) :
    (StreamAssembler.new model).pushAll oj chunks = .ok ⟨model, [], sseParts r finish⟩ := by
  have hclean := ssePayloads_clean oj r hoj
  rw [StreamAssembler.pushAll_new, hcut, responseToSse_flatten,
    splitAll_frames _ (fun x hx => (hclean x hx).1),
    streamPayloads_frames _ (fun x hx => (hclean x hx).1) (fun x hx => (hclean x hx).2),
    merge_ssePayloads oj r finish c cs hoj hchoices hfinish hne]
  rfl

end

/-- The response built from the chunks of `r`. -/
theorem buildResponse_sseParts (pyd : Pydantic) (uuid : String) (now : Int) (r : ChatCompletionResponse)
    (model finish : String) (hid : r.id ≠ "") (hcreated : r.created ≠ 0) (hne : finish ≠ "") :
    StreamAssembler.buildResponse pyd uuid now ⟨model, [], sseParts r finish⟩ = .ok
      { id := r.id, created := r.created, model, usage := StreamAssembler.estimateUsage r.firstText
        choices := [{ message := { role := .assistant, content := some r.firstText }
                      finishReason := some finish }] } := by
  have hjoin : StreamAssembler.joinContent (sseParts r finish).contentParts = .ok r.firstText := by
    unfold sseParts
    by_cases ht : r.firstText = ""
    · simp only [ht, if_true]; rfl
    · simp only [ht, if_false, StreamAssembler.joinContent]
      show Except.ok (String.join [r.firstText]) = _
      simp [String.join]
  have h1 : (Json.str finish).truthy = true := by simpa [Json.truthy] using hne
  have h2 : (Json.str r.id).truthy = true := by simpa [Json.truthy] using hid
  have h3 : (Json.int r.created).truthy = true := by simpa [Json.truthy] using hcreated
  unfold StreamAssembler.buildResponse
  simp only [hjoin]
  simp only [sseParts, Parts.orKeep, h1, h2, h3, if_true, validateInt_int, validateStr,
    StreamAssembler.buildUsage]
  rfl

/-- **Round trip.**  Whatever the text, pushing any cut of `r`'s stream raises nothing
and completes, and the response built has `r`'s id, creation time, first text and
first finish reason, in one assistant choice. -/
theorem responseToSse_roundTrip (oj : Orjson) (r : ChatCompletionResponse) (model finish : String)
    (c : ChatCompletionChoice) (cs : List ChatCompletionChoice) (hoj : oj.RoundTrips (sseValues r))
    (hid : r.id ≠ "") (hcreated : r.created ≠ 0) (hchoices : r.choices = c :: cs)
    (hfinish : c.finishReason = some finish) (hne : finish ≠ "") (chunks : List Bytes)
    (hcut : chunks.flatten = (responseToSse oj r).flatten) (pyd : Pydantic) (uuid : String) (now : Int) :
    ∃ a r', (StreamAssembler.new model).pushAll oj chunks = .ok a ∧ a.parts.completed = true ∧
      a.buildResponse pyd uuid now = .ok r' ∧ r'.id = r.id ∧ r'.created = r.created ∧ r'.model = model ∧
      ∃ c', r'.choices = [c'] ∧ c'.message.role = .assistant ∧
        c'.message.content = some r.firstText ∧ c'.finishReason = some finish := by
  have hpush := pushAll_responseToSse oj r model finish c cs hoj hchoices hfinish hne chunks hcut
  have hbuild := buildResponse_sseParts pyd uuid now r model finish hid hcreated hne
  exact ⟨_, _, hpush, rfl, hbuild, rfl, rfl, rfl, _, rfl, rfl, rfl, rfl⟩

/-! ## A concrete codec -/

theorem Orjson.ofValues_roundTrips (js : List Json) (hnodup : (js.map fun j => encode j.compact).Nodup)
    (hclean : ∀ j ∈ js, newline ∉ encode j.compact ∧ stripBytes (encode j.compact) = encode j.compact ∧
      encode j.compact ≠ doneMarker) : (ofValues js).RoundTrips {j | j ∈ js} where
  loads_dumps := ofValues_loads_dumps js hnodup
  newline := fun j hj => (hclean j hj).1
  strip := fun j hj => (hclean j hj).2.1
  done := by
    show List.find? _ _ = none
    rw [List.find?_eq_none]
    intro j hj
    simpa using (hclean j hj).2.2

/-- A text that looks like framing. -/
def framedText : ChatCompletionResponse where
  id := "chatcmpl-1"
  created := 1700000000
  model := "gpt-4o-mini"
  choices := [{ message := { role := .assistant, content := some "a\n\ndata: [DONE]\n\n" } }]

def framedCodec : Orjson :=
  .ofValues [roleChunk framedText, contentChunk framedText, finalChunk framedText]

theorem framedCodec_roundTrips : framedCodec.RoundTrips (sseValues framedText) := by
  have h := Orjson.ofValues_roundTrips [roleChunk framedText, contentChunk framedText, finalChunk framedText]
    (by decide +kernel) (by decide +kernel)
  rwa [← sseValues_eq] at h

theorem responseToSse_roundTrip_framedText :
    ∃ a r', (StreamAssembler.new "m").pushAll framedCodec (responseToSse framedCodec framedText) = .ok a ∧
      a.buildResponse .strict "" 0 = .ok r' ∧
      r'.firstText = "a\n\ndata: [DONE]\n\n" := by
  obtain ⟨a, r', h1, -, h2, -, -, -, c, hc, -, htext, -⟩ :=
    responseToSse_roundTrip framedCodec framedText "m" "stop" _ [] framedCodec_roundTrips (by decide)
      (by decide) rfl rfl (by decide) _ rfl .strict "" 0
  refine ⟨a, r', h1, h2, ?_⟩
  unfold ChatCompletionResponse.firstText
  rw [hc]
  simp only [htext]
  rfl

end CachingLayer
