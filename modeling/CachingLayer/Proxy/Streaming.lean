import CachingLayer.Basis.Fold
import CachingLayer.Basis.Framing
import CachingLayer.Basis.Text
import CachingLayer.Models.Chat

/-!
# Server-Sent Events

* `responseToSse`: a stored response as stream chunks (cache HIT).
* `StreamAssembler`: the response rebuilt from chunks as they arrive (cache MISS);
  `push` cuts complete events off its buffer and merges their `data:` payloads,
  `buildResponse` makes the response.

What an assembler holds after any chunks is a function of the concatenated bytes:
the `data:` payloads of the complete events, merged in order (`pushAll_new`).
-/

namespace CachingLayer

open Text

/-! ## A response as chunks -/

abbrev newline : UInt8 := 10

/-- The blank line that ends an event. -/
abbrev blankLine : Bytes := [10, 10]

def dataPrefix : Bytes := encode "data:"

def doneMarker : Bytes := encode "[DONE]"

def sseDone : Bytes := encode "data: [DONE]\n\n"

def sse (oj : Orjson) (data : Json) : Bytes := encode "data: " ++ oj.dumps data ++ encode "\n\n"

/-- One stream chunk of `r`. -/
def sseChunk (r : ChatCompletionResponse) (delta : Dict) (finish : Json) : Json :=
  .obj [("id", .str r.id), ("object", .str "chat.completion.chunk"), ("created", .int r.created),
    ("model", .str r.model),
    ("choices", .arr [.obj [("index", .int 0), ("delta", .obj delta), ("finish_reason", finish)]])]

def roleChunk (r : ChatCompletionResponse) : Json := sseChunk r [("role", .str "assistant")] .null

def contentChunk (r : ChatCompletionResponse) : Json := sseChunk r [("content", .str r.firstText)] .null

def finalChunk (r : ChatCompletionResponse) : Json :=
  sseChunk r []
    (match r.choices with
    | [] => .str "stop"
    | c :: _ => .opt .str c.finishReason)

def responseToSse (oj : Orjson) (r : ChatCompletionResponse) : List Bytes :=
  [sse oj (roleChunk r), sse oj (contentChunk r), sse oj (finalChunk r), sseDone]

/-! ## The assembler -/

/-- What has been accumulated; `null` stands for `None`. -/
structure Parts where
  contentParts : List Json := []
  finishReason : Json := .null
  id : Json := .null
  created : Json := .null
  usage : Json := .null
  completed : Bool := false

structure StreamAssembler where
  model : String
  buffer : Bytes := []
  parts : Parts := {}

namespace Parts

/-- A falsy value leaves what was there. -/
def orKeep (new old : Json) : Json := if new.truthy then new else old

/-- The body of `for choice in …` in `_merge`. -/
def mergeChoice (p : Parts) (choice : Json) : Except PyError Parts := do
  let c ← choice.asDict
  let delta ← (c.get "delta" (.obj [])).asDict
  let content := delta.get "content" .null
  return { p with
    contentParts := if content.truthy then p.contentParts ++ [content] else p.contentParts
    finishReason := orKeep (c.get "finish_reason" .null) p.finishReason }

def merge (p : Parts) (data : Json) : Except PyError Parts := do
  let d ← data.asDict
  let choices ← (d.get "choices" (.arr [])).iter
  choices.foldlM mergeChoice { p with
    id := d.get "id" p.id
    created := d.get "created" p.created
    usage := orKeep (d.get "usage" .null) p.usage }

/-- The body of `for line in …` in `_consume_event`. -/
def consumeLine (oj : Orjson) (p : Parts) (line : Bytes) : Except PyError Parts :=
  let line := stripBytes line
  if ¬ dataPrefix <+: line then .ok p
  else
    let payload := stripBytes (line.drop dataPrefix.length)
    if payload = doneMarker then .ok { p with completed := true }
    else
      match oj.loads payload with
      | none => .ok p
      | some data => p.merge data

def consumeEvent (oj : Orjson) (p : Parts) (event : Bytes) : Except PyError Parts :=
  (event.splitOn newline).foldlM (consumeLine oj) p

end Parts

namespace StreamAssembler

def new (model : String) : StreamAssembler := { model }

def push (oj : Orjson) (a : StreamAssembler) (chunk : Bytes) : Except PyError StreamAssembler := do
  let (parts, buffer) ← Framing.feed blankLine (Parts.consumeEvent oj) (a.parts, a.buffer) chunk
  return { a with parts, buffer }

def pushAll (oj : Orjson) (a : StreamAssembler) (chunks : List Bytes) : Except PyError StreamAssembler :=
  chunks.foldlM (push oj) a

/-- `"".join` takes strings only. -/
def joinPart : Json → Except PyError String
  | .str s => .ok s
  | _ => .error .typeError

/-- `"".join(self._content_parts)`. -/
def joinContent (contentParts : List Json) : Except PyError String :=
  String.join <$> contentParts.mapM joinPart

/-- One token for four letters. -/
def estimateUsage (content : String) : CompletionUsage :=
  let completionTokens : Int := max 1 (content.length / 4)
  { completionTokens, totalTokens := completionTokens }

/-- Usage as sent, else estimated. -/
def buildUsage (pyd : Pydantic) (usage : Json) (content : String) : Except PyError CompletionUsage :=
  if usage.truthy then do
    let d ← usage.asDict
    CompletionUsage.modelValidate pyd (d.filter fun kv => kv.1 ∈ usageFields)
  else .ok (estimateUsage content)

def buildResponse (pyd : Pydantic) (uuid : String) (now : Int) (a : StreamAssembler) :
    Except PyError ChatCompletionResponse := do
  let content ← joinContent a.parts.contentParts
  let usage ← buildUsage pyd a.parts.usage content
  let finishReason ← validateStr (Parts.orKeep a.parts.finishReason (.str "stop"))
  let id ← validateStr (Parts.orKeep a.parts.id (.str (ChatCompletionResponse.freshId uuid)))
  let created ← validateInt pyd (Parts.orKeep a.parts.created (.int now))
  return {
    id, created, model := a.model, usage
    choices := [{ index := 0, message := { role := .assistant, content := some content }
                  finishReason := some finishReason }] }

end StreamAssembler

/-! ## Payloads -/

/-- The payload of a `data:` line. -/
def linePayload (line : Bytes) : Option Bytes :=
  if dataPrefix <+: stripBytes line then
    some (stripBytes ((stripBytes line).drop dataPrefix.length))
  else none

def eventPayloads (event : Bytes) : List Bytes := (event.splitOn newline).filterMap linePayload

/-- The payloads of every event that a blank line ends. -/
def streamPayloads (b : Bytes) : List Bytes :=
  (Framing.splitAll blankLine b).1.flatMap eventPayloads

def Parts.consumePayload (oj : Orjson) (p : Parts) (payload : Bytes) : Except PyError Parts :=
  if payload = doneMarker then .ok { p with completed := true }
  else
    match oj.loads payload with
    | none => .ok p
    | some data => p.merge data

theorem consumeLine_eq (oj : Orjson) (p : Parts) (line : Bytes) :
    p.consumeLine oj line =
      match linePayload line with
      | some payload => p.consumePayload oj payload
      | none => pure p := by
  unfold Parts.consumeLine linePayload
  by_cases h : dataPrefix <+: stripBytes line
  · simp only [h, not_true, if_false, if_true]; rfl
  · simp only [h, not_false_eq_true, if_true, if_false]; rfl

theorem consumeEvent_eq (oj : Orjson) (p : Parts) (event : Bytes) :
    p.consumeEvent oj event = (eventPayloads event).foldlM (Parts.consumePayload oj) p := by
  unfold Parts.consumeEvent eventPayloads
  rw [List.foldlM_filterMap]
  congr 1
  funext p line
  rw [consumeLine_eq]
  cases linePayload line <;> rfl

namespace StreamAssembler

theorem pushAll_eq_feed (oj : Orjson) (a : StreamAssembler) (chunks : List Bytes) :
    pushAll oj a chunks = (fun st => { a with parts := st.1, buffer := st.2 }) <$>
      chunks.foldlM (Framing.feed blankLine (Parts.consumeEvent oj)) (a.parts, a.buffer) := by
  induction chunks generalizing a with
  | nil => rfl
  | cons c chunks ih =>
    unfold pushAll
    rw [List.foldlM_cons, List.foldlM_cons]
    unfold push
    cases Framing.feed blankLine (Parts.consumeEvent oj) (a.parts, a.buffer) c with
    | error e => rfl
    | ok st => exact ih { a with parts := st.1, buffer := st.2 }

/-- **What an assembler holds.**  After any chunks: the payloads of the complete
events of their concatenation, merged in order, and the unfinished rest. -/
theorem pushAll_new (oj : Orjson) (model : String) (chunks : List Bytes) :
    pushAll oj (new model) chunks =
      (fun p => ⟨model, (Framing.splitAll blankLine chunks.flatten).2, p⟩) <$>
        (streamPayloads chunks.flatten).foldlM (Parts.consumePayload oj) {} := by
  rw [pushAll_eq_feed, Framing.feedAll_eq _ (by decide) _ rfl, streamPayloads, ← Fold.foldlM_flatMap]
  simp only [funext fun p => funext (consumeEvent_eq oj p), new, List.nil_append, Functor.map_map]

/-- Chunk boundaries do not matter: two cuts of one byte string either both raise or
end in the same state. -/
theorem pushAll_chunking (oj : Orjson) (model : String) (b : Bytes) (chunks chunks' : List Bytes)
    (h : chunks.flatten = b) (h' : chunks'.flatten = b) :
    pushAll oj (new model) chunks = pushAll oj (new model) chunks' := by
  rw [pushAll_eq_feed, pushAll_eq_feed,
    Framing.feedAll_congr _ (by decide) _ rfl chunks chunks' (h.trans h'.symm)]

/-- Three newlines in a row, cut inside the delimiter and right behind it. -/
theorem pushAll_chunking_newlines :
    pushAll ⟨fun _ => none, fun _ => []⟩ (new "m") [[97, 10], [10, 10, 98]] =
      pushAll ⟨fun _ => none, fun _ => []⟩ (new "m") [[97, 10, 10], [], [10], [98]] :=
  pushAll_chunking _ "m" [97, 10, 10, 10, 98] _ _ rfl rfl

end StreamAssembler

end CachingLayer
