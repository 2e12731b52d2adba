import CachingLayer.Proxy.StreamedMiss

/-!
# The choices of a stream

Deltas of several choices may be interleaved in one stream, each under its index.
`KeepsApart` is what a response rebuilt from them should be: one choice for each index
that appeared, with its own text and finish reason.  The one choice the assembler
builds is that exactly when the only index is 0 (`keepsApart_iff`).
-/

namespace CachingLayer

open Text

namespace ProxyService

/-! ## Well-formed chunks -/

inductive FinishReason
  | stop
  | length
  | toolCalls
  | contentFilter
  | functionCall
deriving DecidableEq

def FinishReason.value : FinishReason → String
  | stop => "stop"
  | length => "length"
  | toolCalls => "tool_calls"
  | contentFilter => "content_filter"
  | functionCall => "function_call"

/-- One entry of a stream chunk's `choices`. -/
structure ChoiceDelta where
  index : Int
  content : Option String := none
  finishReason : Option FinishReason := none

/-- The dict says what the delta says, among other things. -/
structure ChoiceDelta.Encodes (c : ChoiceDelta) (d : Dict) : Prop where
  index : d.lookup "index" = some (.int c.index)
  delta : ∃ delta, d.lookup "delta" = some (.obj delta) ∧ Dict.get delta "content" .null = .opt .str c.content
  finishReason : Dict.get d "finish_reason" .null = .opt (fun f => .str f.value) c.finishReason

/-- A usage object: integers under the declared names. -/
def UsageObject (u : Dict) : Prop := ∀ name ∈ usageFields, ∀ v ∈ u.lookup name, ∃ i, v = .int i

/-- `j` is a well-formed chunk with the choices `cs`. -/
structure ChunkOf (cs : List ChoiceDelta) (j : Json) : Prop where
  obj : j.isObj = true
  id : ∃ s, j.given "id" = some (.str s)
  created : ∃ i, j.given "created" = some (.int i)
  choices : ∃ ds : List Dict, j.given "choices" = some (.arr (ds.map .obj)) ∧
    List.Forall₂ ChoiceDelta.Encodes cs ds
  usage : j.entries.get "usage" .null = .null ∨
    ∃ u, j.entries.get "usage" .null = .obj u ∧ UsageObject u

/-- The payload of a well-formed chunk. -/
def PayloadOf (oj : Orjson) (p : Bytes) (cs : List ChoiceDelta) : Prop :=
  p ≠ doneMarker ∧ ∃ j, oj.loads p = some j ∧ ChunkOf cs j

/-- The content deltas that carry an index, in order. -/
def textOf (deltas : List ChoiceDelta) (i : Int) : String :=
  String.join ((deltas.filter (·.index = i)).filterMap (·.content))

/-- The last finish reason sent for an index. -/
def finishOf (deltas : List ChoiceDelta) (i : Int) : Option FinishReason :=
  ((deltas.filter (·.index = i)).filterMap (·.finishReason)).getLast?

/-- One choice for each index that appeared, with its own text and finish reason. -/
structure KeepsApart (deltas : List ChoiceDelta) (r : ChatCompletionResponse) : Prop where
  once : (r.choices.map (·.index)).Nodup
  indices : ∀ i, i ∈ r.choices.map (·.index) ↔ ∃ c ∈ deltas, c.index = i
  content : ∀ c ∈ r.choices, c.message.content = some (textOf deltas c.index)
  finishReason : ∀ c ∈ r.choices, ∀ f ∈ finishOf deltas c.index, c.finishReason = some f.value

theorem ChoiceDelta.Encodes.content_eq {c : ChoiceDelta} {d : Dict} (h : c.Encodes d) :
    (Json.obj d).choiceContent = .opt .str c.content := by
  obtain ⟨delta, hd, hc⟩ := h.delta
  unfold Json.choiceContent Json.entries Dict.get
  rw [hd]
  exact hc

theorem ChoiceDelta.Encodes.mergeable {c : ChoiceDelta} {d : Dict} (h : c.Encodes d) :
    (Json.obj d).mergeableChoice = true := by
  obtain ⟨delta, hd, -⟩ := h.delta
  unfold Json.mergeableChoice Json.entries Dict.get
  rw [hd]
  rfl

theorem FinishReason.value_ne (f : FinishReason) : f.value ≠ "" := by
  cases f <;> decide

section
variable {cs : List ChoiceDelta} {ds : List Dict} (h : List.Forall₂ ChoiceDelta.Encodes cs ds)
include h

theorem contents_of_encodes :
    ((ds.map Json.obj).map Json.choiceContent).filter Json.truthy =
      ((cs.filterMap (·.content)).filter (· ≠ "")).map .str := by
  induction h with
  | nil => rfl
  | @cons c d cs ds hc _ ih =>
    rw [List.map_cons, List.map_cons, hc.content_eq, List.filter_cons, ih, List.filterMap_cons]
    cases c.content with
    | none => rfl
    | some t =>
      by_cases ht : t = ""
      · subst ht; rfl
      · simp [Json.opt, Json.truthy, ht]

theorem finishes_of_encodes :
    ((ds.map Json.obj).map Json.choiceFinish).filter Json.truthy =
      (cs.filterMap (·.finishReason)).map fun f => .str f.value := by
  induction h with
  | nil => rfl
  | @cons c d cs ds hc _ ih =>
    have hf : (Json.obj d).choiceFinish = .opt (fun f => .str f.value) c.finishReason := hc.finishReason
    rw [List.map_cons, List.map_cons, hf, List.filter_cons, ih, List.filterMap_cons]
    cases c.finishReason with
    | none => rfl
    | some f => simp [Json.opt, Json.truthy, f.value_ne]

theorem mergeable_of_encodes : (ds.map Json.obj).all Json.mergeableChoice = true := by
  induction h with
  | nil => rfl
  | @cons c d cs ds hc _ ih => rw [List.map_cons, List.all_cons, hc.mergeable, ih]; rfl

end

namespace ChunkOf

variable {cs : List ChoiceDelta} {j : Json} (h : ChunkOf cs j)
include h

theorem choices_eq : ∃ ds : List Dict, j.choices = .ok (ds.map .obj) ∧
    List.Forall₂ ChoiceDelta.Encodes cs ds := by
  obtain ⟨ds, hds, henc⟩ := h.choices
  refine ⟨ds, ?_, henc⟩
  have hget : j.entries.get "choices" (.arr []) = .arr (ds.map .obj) := by
    show (j.given "choices").getD _ = _
    rw [hds]; rfl
  unfold Json.choices
  rw [hget]
  rfl

theorem mergeable : j.mergeable = true := by
  obtain ⟨ds, hch, henc⟩ := h.choices_eq
  unfold Json.mergeable
  rw [h.obj, hch]
  exact mergeable_of_encodes henc

theorem contents_eq : j.contents = ((cs.filterMap (·.content)).filter (· ≠ "")).map .str := by
  obtain ⟨ds, hch, henc⟩ := h.choices_eq
  unfold Json.contents Json.choiceList
  rw [hch]
  exact contents_of_encodes henc

theorem finishes_eq : j.finishes = (cs.filterMap (·.finishReason)).map fun f => .str f.value := by
  obtain ⟨ds, hch, henc⟩ := h.choices_eq
  unfold Json.finishes Json.choiceList
  rw [hch]
  exact finishes_of_encodes henc

end ChunkOf

theorem getLastD_null (P : Json → Bool) (l : List Json) (h : ∀ x ∈ l, P x = true) :
    (!(l.getLastD .null).truthy || P (l.getLastD .null)) = true := by
  rcases List.mem_cons.mp (List.getLastD_mem_cons (l := l) (a := Json.null)) with he | he
  · rw [he]; rfl
  · rw [h _ he, Bool.or_true]

/-- A list of well-formed chunks, and their deltas. -/
abbrev ChunksOf (css : List (List ChoiceDelta)) (js : List Json) : Prop := List.Forall₂ ChunkOf css js

theorem decoded_of_payloads (oj : Orjson) (ps : List Bytes) (css : List (List ChoiceDelta))
    (h : List.Forall₂ (PayloadOf oj) ps css) : ChunksOf css (decoded oj (ps ++ [doneMarker])) := by
  induction h with
  | nil => unfold decoded; simp
  | @cons p cs ps css hp _ ih =>
    obtain ⟨hne, j, hj, hchunk⟩ := hp
    have hcons : decoded oj ((p :: ps) ++ [doneMarker]) = j :: decoded oj (ps ++ [doneMarker]) := by
      unfold decoded
      rw [List.cons_append, List.filter_cons_of_pos (by simpa using hne), List.filterMap_cons, hj]
    rw [hcons]
    exact .cons hchunk ih

section
variable {css : List (List ChoiceDelta)} {js : List Json} (h : ChunksOf css js)
include h

theorem ChunksOf.mem : ∀ j ∈ js, ∃ cs, ChunkOf cs j := by
  induction h with
  | nil => intro j hj; cases hj
  | @cons cs j css js hc _ ih =>
    intro j' hj'
    rcases List.mem_cons.mp hj' with rfl | hj'
    · exact ⟨cs, hc⟩
    · exact ih j' hj'

theorem ChunksOf.contents_eq :
    js.flatMap Json.contents = ((css.flatten.filterMap (·.content)).filter (· ≠ "")).map .str := by
  induction h with
  | nil => rfl
  | @cons cs j css js hc _ ih =>
    rw [List.flatMap_cons, ih, hc.contents_eq, List.flatten_cons, List.filterMap_append,
      List.filter_append, List.map_append]

theorem ChunksOf.finishes_eq :
    js.flatMap Json.finishes = (css.flatten.filterMap (·.finishReason)).map fun f => .str f.value := by
  induction h with
  | nil => rfl
  | @cons cs j css js hc _ ih =>
    rw [List.flatMap_cons, ih, hc.finishes_eq, List.flatten_cons, List.filterMap_append, List.map_append]

/-- Well-formed chunks always build. -/
theorem ChunksOf.buildable (pyd : Pydantic) : (reassembled js).buildable pyd = true := by
  have hcontent : ∀ x ∈ js.flatMap Json.contents, x.isStr = true := by
    rw [h.contents_eq]
    intro x hx
    obtain ⟨t, -, rfl⟩ := List.mem_map.mp hx
    rfl
  have hfinish : ∀ x ∈ js.flatMap Json.finishes, x.isStr = true := by
    rw [h.finishes_eq]
    intro x hx
    obtain ⟨f, -, rfl⟩ := List.mem_map.mp hx
    rfl
  have husage : ∀ x ∈ js.flatMap Json.usages, (x.isObj && usageValid pyd x.entries) = true := by
    intro x hx
    obtain ⟨j, hj, hx⟩ := List.mem_flatMap.mp hx
    obtain ⟨cs, hc⟩ := h.mem j hj
    obtain ⟨hx, ht⟩ := List.mem_filter.mp hx
    obtain rfl := List.mem_singleton.mp hx
    rcases hc.usage with hnull | ⟨u, hu, hint⟩
    · rw [hnull] at ht; cases ht
    · rw [hu]
      show usageValid pyd u = true
      unfold usageValid
      rw [List.all_eq_true]
      intro name hname
      rw [Option.all_eq_true]
      intro v hv
      obtain ⟨i, rfl⟩ := hint name hname v hv
      rw [pyd.int_int]; rfl
  have hid : ∀ x ∈ js.filterMap (Json.given "id"), x.isStr = true := by
    intro x hx
    obtain ⟨j, hj, hx⟩ := List.mem_filterMap.mp hx
    obtain ⟨cs, hc⟩ := h.mem j hj
    obtain ⟨t, ht⟩ := hc.id
    obtain rfl := Option.some.inj (ht.symm.trans hx)
    rfl
  have hcreated : ∀ x ∈ js.filterMap (Json.given "created"), (pyd.int x).isSome = true := by
    intro x hx
    obtain ⟨j, hj, hx⟩ := List.mem_filterMap.mp hx
    obtain ⟨cs, hc⟩ := h.mem j hj
    obtain ⟨i, hi⟩ := hc.created
    obtain rfl := Option.some.inj (hi.symm.trans hx)
    rw [pyd.int_int]; rfl
  unfold Parts.buildable reassembled
  simp only [Bool.and_eq_true]
  exact ⟨⟨⟨⟨List.all_eq_true.mpr hcontent,
    getLastD_null (fun x => x.isObj && usageValid pyd x.entries) _ husage⟩,
    getLastD_null Json.isStr _ hfinish⟩, getLastD_null Json.isStr _ hid⟩,
    getLastD_null (fun x => (pyd.int x).isSome) _ hcreated⟩

/-- The one choice built: every content delta, and the last finish reason of any index. -/
theorem ChunksOf.choices_eq (pyd : Pydantic) (uuid : String) (now : Int) (model : String) :
    ((reassembled js).response pyd uuid now model).choices =
      [{ index := 0
         message := { role := .assistant
                      content := some (String.join (css.flatten.filterMap (·.content))) }
         finishReason :=
          some (((css.flatten.filterMap (·.finishReason)).getLast?.map FinishReason.value).getD "stop") }] := by
  have htext : String.join ((js.flatMap Json.contents).map Json.text) =
      String.join (css.flatten.filterMap (·.content)) := by
    rw [h.contents_eq, List.map_map]
    show String.join (List.map (fun t => t) _) = _
    rw [List.map_id']
    induction css.flatten.filterMap (·.content) with
    | nil => rfl
    | cons t ts ih =>
      rw [List.filter_cons]
      by_cases ht : t = ""
      · subst ht
        apply String.toList_inj.mp
        have := congrArg String.toList ih
        simpa using this
      · apply String.toList_inj.mp
        have := congrArg String.toList ih
        simpa [ht] using this
  have hfin : (Parts.orKeep ((js.flatMap Json.finishes).getLastD .null) (.str "stop")).text =
      ((css.flatten.filterMap (·.finishReason)).getLast?.map FinishReason.value).getD "stop" := by
    rw [h.finishes_eq, List.getLastD_eq_getLast?, List.getLast?_map]
    cases (css.flatten.filterMap (·.finishReason)).getLast? with
    | none => rfl
    | some f =>
      have ht : (Json.str f.value).truthy = true := by simp [Json.truthy, f.value_ne]
      show (Parts.orKeep (.str f.value) _).text = f.value
      unfold Parts.orKeep
      rw [if_pos ht]; rfl
  unfold Parts.response reassembled
  simp only [htext, hfin]

end

section
variable (oj : Orjson) (pyd : Pydantic) (model : String) (chunks : List Bytes) (uuid : String) (now : Int)
  (ps : List Bytes) (css : List (List ChoiceDelta))
  (hpayloads : streamPayloads chunks.flatten = ps ++ [doneMarker])
  (hchunks : List.Forall₂ (PayloadOf oj) ps css)
include hpayloads hchunks

theorem streamValues_chunks : ChunksOf css (streamValues oj chunks) := by
  unfold streamValues
  rw [hpayloads]
  exact decoded_of_payloads oj ps css hchunks

/-- A stream of well-formed chunks is whole. -/
theorem assembles_chunks :
    Assembles oj pyd model chunks uuid now ((streamParts oj chunks).response pyd uuid now model) := by
  have hjs := streamValues_chunks oj chunks ps css hpayloads hchunks
  refine (assembles_iff oj pyd model chunks uuid now _).mpr ⟨?_, ?_, hjs.buildable pyd, rfl⟩
  · intro j hj
    obtain ⟨cs, hc⟩ := hjs.mem j hj
    exact hc.mergeable
  · rw [hpayloads]; simp

end

/-- **Choices.**  Of a stream of well-formed chunks that ends in `[DONE]` the body always
builds and keeps a response; it keeps the choices apart exactly when 0 is the index
that appeared, and the only one. -/
theorem keepsApart_iff {F E : Type} (oj : Orjson) (pyd : Pydantic) (svc : ProxyService F E)
    (request : ChatCompletionRequest) (signature : RequestSignature) (prompt : String)
    (chunks : List Bytes) (r : Readings) (w : World F) (ps : List Bytes) (css : List (List ChoiceDelta))
    (hpayloads : streamPayloads chunks.flatten = ps ++ [doneMarker])
    (hchunks : List.Forall₂ (PayloadOf oj) ps css) :
    ∃ response, Assembles oj pyd request.model chunks r.uuid r.now response ∧
      svc.missBody oj pyd request signature prompt chunks .ended r w =
        { yielded := chunks, result := .ok ()
          world := { w with store := svc.cacheResponse request signature prompt response r w.store } } ∧
      (KeepsApart css.flatten response ↔ {i | ∃ c ∈ css.flatten, c.index = i} = {0}) := by
  have hwhole := assembles_chunks oj pyd request.model chunks r.uuid r.now ps css hpayloads hchunks
  have hone := (streamValues_chunks oj chunks ps css hpayloads hchunks).choices_eq pyd r.uuid r.now
    request.model
  refine ⟨_, hwhole, svc.missBody_assembles oj pyd request signature prompt chunks r w _ hwhole, ?_⟩
  constructor
  · intro hk
    ext i
    have := hk.indices i
    unfold streamParts at this
    rw [hone] at this
    simpa [eq_comm] using this.symm
  · intro hzero
    have hmem : ∀ i, i ∈ ({0} : Set Int) ↔ ∃ c ∈ css.flatten, c.index = i := by
      intro i; rw [← hzero]; exact Iff.rfl
    have hfilter : css.flatten.filter (·.index = 0) = css.flatten := by
      rw [List.filter_eq_self]
      intro c hc
      simpa using (hmem c.index).mpr ⟨c, hc, rfl⟩
    constructor <;> unfold streamParts <;> rw [hone]
    · simp
    · intro i
      rw [← hmem]
      simp
    · intro c hc
      obtain rfl := List.mem_singleton.mp hc
      show _ = some (textOf css.flatten 0)
      unfold textOf
      rw [hfilter]
    · intro c hc f hf
      obtain rfl := List.mem_singleton.mp hc
      unfold finishOf at hf
      simp only [hfilter] at hf
      rw [Option.mem_def.mp hf]
      rfl

/-! ## Streams of single deltas -/

/-- A chunk with one choice. -/
def ChoiceDelta.chunk (c : ChoiceDelta) : Json :=
  .obj [("id", .str "chatcmpl-1"), ("object", .str "chat.completion.chunk"), ("created", .int 1700000000),
    ("model", .str "gpt-4o-mini"),
    ("choices", .arr [.obj [("index", .int c.index), ("delta", .obj [("content", .opt .str c.content)]),
      ("finish_reason", .opt (fun f => .str f.value) c.finishReason)]])]

theorem ChoiceDelta.chunkOf_chunk (c : ChoiceDelta) : ChunkOf [c] c.chunk where
  obj := rfl
  id := ⟨_, rfl⟩
  created := ⟨_, rfl⟩
  choices := ⟨[_], rfl, .cons ⟨rfl, ⟨_, rfl, rfl⟩, rfl⟩ .nil⟩
  usage := Or.inl rfl

def deltaStream (oj : Orjson) (deltas : List ChoiceDelta) : List Bytes :=
  deltas.map (fun c => sse oj c.chunk) ++ [sseDone]

section
variable (oj : Orjson) (deltas : List ChoiceDelta) (hoj : oj.RoundTrips {j | ∃ c ∈ deltas, j = c.chunk})
include hoj

theorem deltaStream_payloads : streamPayloads (deltaStream oj deltas).flatten =
    deltas.map (fun c => oj.dumps c.chunk) ++ [doneMarker] := by
  have hframes : (deltaStream oj deltas).flatten =
      frames (deltas.map (fun c => oj.dumps c.chunk) ++ [doneMarker]) := by
    unfold deltaStream frames
    rw [List.map_append, List.map_map]
    rfl
  have hclean : ∀ x ∈ deltas.map (fun c => oj.dumps c.chunk) ++ [doneMarker],
      newline ∉ x ∧ stripBytes x = x := by
    intro x hx
    rcases List.mem_append.mp hx with hx | hx
    · obtain ⟨c, hc, rfl⟩ := List.mem_map.mp hx
      exact ⟨hoj.newline _ ⟨c, hc, rfl⟩, hoj.strip _ ⟨c, hc, rfl⟩⟩
    · obtain rfl := List.mem_singleton.mp hx
      decide
  rw [hframes]
  exact streamPayloads_frames _ (fun x hx => (hclean x hx).1) fun x hx => (hclean x hx).2

theorem deltaStream_chunks : List.Forall₂ (PayloadOf oj) (deltas.map fun c => oj.dumps c.chunk)
    (deltas.map fun c => [c]) := by
  rw [List.forall₂_map_left_iff, List.forall₂_map_right_iff, List.forall₂_same]
  intro c hc
  have hload := hoj.loads_dumps _ ⟨c, hc, rfl⟩
  refine ⟨?_, c.chunk, hload, c.chunkOf_chunk⟩
  intro hdone
  rw [hdone, hoj.done] at hload
  cases hload

end

def oneAnswer : List ChoiceDelta :=
  [{ index := 0, content := some "It is " }, { index := 0, content := some "vast." },
    { index := 0, finishReason := some .stop }]

def twoAnswers : List ChoiceDelta :=
  [{ index := 0, content := some "Yes" }, { index := 1, content := some "No" },
    { index := 0, finishReason := some .stop }, { index := 1, finishReason := some .length }]

def deltaCodec (deltas : List ChoiceDelta) : Orjson := .ofValues (deltas.map ChoiceDelta.chunk)

theorem deltaCodec_roundTrips (deltas : List ChoiceDelta)
    (hnodup : ((deltas.map ChoiceDelta.chunk).map fun j => encode j.compact).Nodup)
    (hclean : ∀ c ∈ deltas, newline ∉ encode c.chunk.compact ∧
      stripBytes (encode c.chunk.compact) = encode c.chunk.compact ∧ encode c.chunk.compact ≠ doneMarker) :
    (deltaCodec deltas).RoundTrips {j | ∃ c ∈ deltas, j = c.chunk} := by
  have h := Orjson.ofValues_roundTrips (deltas.map ChoiceDelta.chunk) hnodup (by simpa using hclean)
  have hset : {j | j ∈ deltas.map ChoiceDelta.chunk} = {j | ∃ c ∈ deltas, j = c.chunk} := by
    ext j
    simp [eq_comm]
  rwa [hset] at h

theorem oneAnswer_roundTrips : (deltaCodec oneAnswer).RoundTrips {j | ∃ c ∈ oneAnswer, j = c.chunk} :=
  deltaCodec_roundTrips _ (by decide +kernel) (by decide +kernel)

theorem twoAnswers_roundTrips : (deltaCodec twoAnswers).RoundTrips {j | ∃ c ∈ twoAnswers, j = c.chunk} :=
  deltaCodec_roundTrips _ (by decide +kernel) (by decide +kernel)

theorem keepsApart_iff_oneAnswer :
    ∃ response, Assembles (deltaCodec oneAnswer) .strict "gpt-4o-mini"
        (deltaStream (deltaCodec oneAnswer) oneAnswer) someReadings.uuid someReadings.now response ∧
      KeepsApart (oneAnswer.map fun c => [c]).flatten response := by
  obtain ⟨response, hwhole, -, hiff⟩ :=
    keepsApart_iff (deltaCodec oneAnswer) .strict plainService oceanRequest
      (plainService.requestSignature oceanRequest "team") oceanRequest.latestUserPrompt
      (deltaStream (deltaCodec oneAnswer) oneAnswer) someReadings ⟨.new, []⟩ _ _
      (deltaStream_payloads _ _ oneAnswer_roundTrips) (deltaStream_chunks _ _ oneAnswer_roundTrips)
  refine ⟨response, hwhole, hiff.mpr ?_⟩
  ext i
  simp [oneAnswer, eq_comm]

/-- Two answers, interleaved in well-formed chunks: one choice is cached, with the text of
both. -/
theorem keepsApart_twoAnswers :
    streamPayloads (deltaStream (deltaCodec twoAnswers) twoAnswers).flatten =
        (twoAnswers.map fun c => (deltaCodec twoAnswers).dumps c.chunk) ++ [doneMarker] ∧
      List.Forall₂ (PayloadOf (deltaCodec twoAnswers))
        (twoAnswers.map fun c => (deltaCodec twoAnswers).dumps c.chunk) (twoAnswers.map fun c => [c]) ∧
      ∃ response, (plainService.missBody (deltaCodec twoAnswers) .strict oceanRequest
          (plainService.requestSignature oceanRequest "team") oceanRequest.latestUserPrompt
          (deltaStream (deltaCodec twoAnswers) twoAnswers) .ended someReadings
          ⟨.new, []⟩).world.store.items.map (·.response) = [response.modelDump] ∧
        response.choices.map (·.index) = [0] ∧ response.firstText = "YesNo" ∧
        ¬ KeepsApart (twoAnswers.map fun c => [c]).flatten response := by
  have hpayloads := deltaStream_payloads _ _ twoAnswers_roundTrips
  have hchunks := deltaStream_chunks _ _ twoAnswers_roundTrips
  have hwhole := assembles_chunks _ .strict "gpt-4o-mini" _ someReadings.uuid someReadings.now _ _ hpayloads hchunks
  have hone := (streamValues_chunks _ _ _ _ hpayloads hchunks).choices_eq .strict someReadings.uuid
    someReadings.now "gpt-4o-mini"
  refine ⟨hpayloads, hchunks,
    (streamParts (deltaCodec twoAnswers) (deltaStream (deltaCodec twoAnswers) twoAnswers)).response .strict
      someReadings.uuid someReadings.now "gpt-4o-mini", ?_, ?_, ?_, ?_⟩
  · rw [plainService.missBody_assembles _ .strict oceanRequest _ _ _ someReadings ⟨.new, []⟩ _ hwhole]
    rfl
  · unfold streamParts; rw [hone]; rfl
  · unfold streamParts ChatCompletionResponse.firstText; rw [hone]; decide
  · intro hk
    have := (hk.indices 1).mpr ⟨{ index := 1, content := some "No" }, by simp [twoAnswers], rfl⟩
    unfold streamParts at this
    rw [hone] at this
    simp at this

end ProxyService

end CachingLayer
