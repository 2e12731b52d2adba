import CachingLayer.Models.Json

/-!
# Chat completion schemas

The request and response models with their pass-through fields, what a request
sends upstream (`upstreamPayload`), and the round trip a cached response makes:
`model_validate` undoes `model_dump` (`modelValidate_modelDump`).
-/

namespace CachingLayer

inductive Role
  | system
  | user
  | assistant
  | tool
  | function
deriving DecidableEq

def Role.value : Role → String
  | system => "system"
  | user => "user"
  | assistant => "assistant"
  | tool => "tool"
  | function => "function"

def validateRole : Json → Except PyError Role
  | .str "system" => .ok .system
  | .str "user" => .ok .user
  | .str "assistant" => .ok .assistant
  | .str "tool" => .ok .tool
  | .str "function" => .ok .function
  | _ => .error .validationError

abbrev messageFields : List String := ["role", "content", "name"]

structure ChatMessage where
  role : Role
  content : Option String := none
  name : Option String := none
  extra : Extra messageFields := .none _

def ChatMessage.modelDump (m : ChatMessage) : Dict :=
  [("role", .str m.role.value), ("content", .opt .str m.content), ("name", .opt .str m.name)] ++
    m.extra.kvs

def ChatMessage.modelValidate (d : Dict) : Except PyError ChatMessage := do
  return {
    role := ← field d "role" none validateRole
    content := ← field d "content" (some none) (validateOpt validateStr)
    name := ← field d "name" (some none) (validateOpt validateStr)
    extra := .of _ d }

/-! ## Requests -/

/-- `str | list[str]`. -/
inductive Stop
  | one (s : String)
  | many (ss : List String)
deriving DecidableEq

def Stop.dump : Stop → Json
  | one s => .str s
  | many ss => .arr (ss.map .str)

abbrev requestFields : List String :=
  ["model", "messages", "temperature", "top_p", "max_tokens", "n", "stream", "stop", "user",
    "cache_tags"]

structure ChatCompletionRequest where
  model : String
  messages : List ChatMessage
  temperature : PyFloat := .finite 1
  topP : PyFloat := .finite 1
  maxTokens : Option Int := none
  n : Int := 1
  stream : Bool := false
  stop : Option Stop := none
  user : Option String := none
  cacheTags : Option (List String) := none
  extra : Extra requestFields := .none _

namespace ChatCompletionRequest

/-- The first system message's content. -/
def systemPrompt (r : ChatCompletionRequest) : Option String :=
  match r.messages.find? (·.role = .system) with
  | some m => m.content
  | none => none

/-- The last user message with text, else everything joined. -/
def latestUserPrompt (r : ChatCompletionRequest) : String :=
  match r.messages.reverse.find? fun m => m.role = .user ∧ m.content.getD "" ≠ "" with
  | some m => m.content.getD ""
  | none => "\n".intercalate (r.messages.map fun m => m.content.getD "")

/-- `exclude_none` on one model's entries. -/
def dropNone (d : Dict) : Dict := d.filter fun kv => !kv.2.isNone

/-- The declared fields, `cache_tags` excluded. -/
def sentFields (r : ChatCompletionRequest) : Dict :=
  [("model", .str r.model),
    ("messages", .arr (r.messages.map fun m => .obj (dropNone m.modelDump))),
    ("temperature", .float r.temperature),
    ("top_p", .float r.topP),
    ("max_tokens", .opt .int r.maxTokens),
    ("n", .int r.n),
    ("stream", .bool r.stream),
    ("stop", .opt Stop.dump r.stop),
    ("user", .opt .str r.user)]

def upstreamPayload (r : ChatCompletionRequest) : Dict := dropNone (r.sentFields ++ r.extra.kvs)

theorem lookup_dropNone_eq_none (d : Dict) (name : String) (h : ∀ kv ∈ d, kv.1 ≠ name) :
    (dropNone d).lookup name = none := by
  rw [List.lookup_eq_none_iff]
  intro kv hkv
  rw [bne_iff_ne]
  exact (h kv (List.mem_of_mem_filter hkv)).symm

theorem upstreamPayload_lookup (r : ChatCompletionRequest) (name : String) :
    r.upstreamPayload.lookup name =
      ((dropNone r.sentFields).lookup name).or ((dropNone r.extra.kvs).lookup name) := by
  unfold upstreamPayload dropNone
  rw [List.filter_append, List.lookup_append]

/-- The declared generation parameters in the payload: `None` is left out. -/
theorem upstreamPayload_declared (r : ChatCompletionRequest) :
    r.upstreamPayload.lookup "top_p" = some (.float r.topP) ∧
      r.upstreamPayload.lookup "max_tokens" = r.maxTokens.map .int ∧
      r.upstreamPayload.lookup "n" = some (.int r.n) ∧
      r.upstreamPayload.lookup "stop" = r.stop.map Stop.dump := by
  have hextra : ∀ name ∈ requestFields, (dropNone r.extra.kvs).lookup name = none := by
    intro name hname
    refine lookup_dropNone_eq_none _ _ fun kv hkv => ?_
    rintro rfl
    exact r.extra.undeclared kv hkv hname
  rw [upstreamPayload_lookup, upstreamPayload_lookup, upstreamPayload_lookup, upstreamPayload_lookup,
    hextra "top_p" (by simp), hextra "max_tokens" (by simp), hextra "n" (by simp), hextra "stop" (by simp)]
  unfold sentFields dropNone
  cases r.maxTokens <;> cases r.user <;> rcases r.stop with _ | s | ss <;> exact ⟨rfl, rfl, rfl, rfl⟩

/-- The pass-through fields in the payload. -/
theorem upstreamPayload_extra (r : ChatCompletionRequest) (name : String) (h : name ∉ requestFields) :
    r.upstreamPayload.lookup name = (dropNone r.extra.kvs).lookup name := by
  have hfields : ∀ kv ∈ r.sentFields, kv.1 ∈ requestFields := by simp [sentFields]
  have hnone : (dropNone r.sentFields).lookup name = none := by
    refine lookup_dropNone_eq_none _ _ fun kv hkv => ?_
    rintro rfl
    exact h (hfields kv hkv)
  rw [upstreamPayload_lookup, hnone]
  rfl

end ChatCompletionRequest

theorem Stop.dump_inj (s t : Stop) (h : s.dump = t.dump) : s = t := by
  cases s <;> cases t <;> simp only [dump, Json.str.injEq, Json.arr.injEq, reduceCtorEq] at h
  · rw [h]
  · rw [(List.map_injective_iff.mpr fun _ _ h => Json.str.inj h) h]

/-! ## Responses -/

abbrev choiceFields : List String := ["index", "message", "finish_reason"]

structure ChatCompletionChoice where
  index : Int := 0
  message : ChatMessage
  finishReason : Option String := some "stop"
  extra : Extra choiceFields := .none _

def ChatCompletionChoice.modelDump (c : ChatCompletionChoice) : Dict :=
  [("index", .int c.index), ("message", .obj c.message.modelDump),
    ("finish_reason", .opt .str c.finishReason)] ++ c.extra.kvs

def ChatCompletionChoice.modelValidate (pyd : Pydantic) (d : Dict) :
    Except PyError ChatCompletionChoice := do
  return {
    index := ← field d "index" (some 0) (validateInt pyd)
    message := ← field d "message" none (validateDict ChatMessage.modelValidate)
    finishReason := ← field d "finish_reason" (some (some "stop")) (validateOpt validateStr)
    extra := .of _ d }

abbrev usageFields : List String := ["prompt_tokens", "completion_tokens", "total_tokens"]

structure CompletionUsage where
  promptTokens : Int := 0
  completionTokens : Int := 0
  totalTokens : Int := 0
  extra : Extra usageFields := .none _

def CompletionUsage.modelDump (u : CompletionUsage) : Dict :=
  [("prompt_tokens", .int u.promptTokens), ("completion_tokens", .int u.completionTokens),
    ("total_tokens", .int u.totalTokens)] ++ u.extra.kvs

def CompletionUsage.modelValidate (pyd : Pydantic) (d : Dict) : Except PyError CompletionUsage := do
  return {
    promptTokens := ← field d "prompt_tokens" (some 0) (validateInt pyd)
    completionTokens := ← field d "completion_tokens" (some 0) (validateInt pyd)
    totalTokens := ← field d "total_tokens" (some 0) (validateInt pyd)
    extra := .of _ d }

abbrev responseFields : List String := ["id", "object", "created", "model", "choices", "usage"]

structure ChatCompletionResponse where
  id : String
  object : String := "chat.completion"
  created : Int
  model : String
  choices : List ChatCompletionChoice
  usage : CompletionUsage := {}
  extra : Extra responseFields := .none _

namespace ChatCompletionResponse

def modelDump (r : ChatCompletionResponse) : Dict :=
  [("id", .str r.id), ("object", .str r.object), ("created", .int r.created),
    ("model", .str r.model), ("choices", .arr (r.choices.map fun c => .obj c.modelDump)),
    ("usage", .obj r.usage.modelDump)] ++ r.extra.kvs

/-- `f"chatcmpl-{uuid.uuid4().hex[:24]}"`. -/
def freshId (uuid : String) : String := "chatcmpl-" ++ String.ofList (uuid.toList.take 24)

/-- `uuid` and `now` feed the two default factories. -/
def modelValidate (pyd : Pydantic) (uuid : String) (now : Int) (d : Dict) :
    Except PyError ChatCompletionResponse := do
  return {
    id := ← field d "id" (some (freshId uuid)) validateStr
    object := ← field d "object" (some "chat.completion") validateStr
    created := ← field d "created" (some now) (validateInt pyd)
    model := ← field d "model" none validateStr
    choices := ← field d "choices" none (validateList (validateDict (ChatCompletionChoice.modelValidate pyd)))
    usage := ← field d "usage" (some {}) (validateDict (CompletionUsage.modelValidate pyd))
    extra := .of _ d }

def firstText (r : ChatCompletionResponse) : String :=
  match r.choices with
  | [] => ""
  | c :: _ => c.message.content.getD ""

end ChatCompletionResponse

/-! ## `model_validate` undoes `model_dump` -/

@[simp] theorem validateRole_value (r : Role) : validateRole (.str r.value) = .ok r := by
  cases r <;> rfl

@[simp] theorem validateOpt_opt_str (s : Option String) :
    validateOpt validateStr (.opt .str s) = .ok s := by
  cases s <;> rfl

@[simp] theorem validateInt_ok (pyd : Pydantic) (i : Int) : validateInt pyd (.int i) = .ok i :=
  validateInt_int pyd i

theorem ChatMessage.modelValidate_modelDump (m : ChatMessage) :
    modelValidate m.modelDump = .ok m := by
  have hx : Extra.of messageFields m.modelDump = m.extra := Extra.of_append _ _ _ (by simp)
  unfold modelValidate
  rw [hx]
  simp [modelDump, field, List.lookup, bind, Except.bind, pure, Except.pure]

theorem ChatCompletionChoice.modelValidate_modelDump (pyd : Pydantic) (c : ChatCompletionChoice) :
    modelValidate pyd c.modelDump = .ok c := by
  have hx : Extra.of choiceFields c.modelDump = c.extra := Extra.of_append _ _ _ (by simp)
  unfold modelValidate
  rw [hx]
  simp [modelDump, field, List.lookup, bind, Except.bind, pure, Except.pure, validateDict,
    ChatMessage.modelValidate_modelDump]

theorem CompletionUsage.modelValidate_modelDump (pyd : Pydantic) (u : CompletionUsage) :
    modelValidate pyd u.modelDump = .ok u := by
  have hx : Extra.of usageFields u.modelDump = u.extra := Extra.of_append _ _ _ (by simp)
  unfold modelValidate
  rw [hx]
  simp [modelDump, field, List.lookup, bind, Except.bind, pure, Except.pure]

theorem ChatCompletionResponse.modelValidate_modelDump (pyd : Pydantic) (uuid : String) (now : Int)
    (r : ChatCompletionResponse) : modelValidate pyd uuid now r.modelDump = .ok r := by
  have hx : Extra.of responseFields r.modelDump = r.extra := Extra.of_append _ _ _ (by simp)
  have hc : (r.choices.map fun c => Json.obj c.modelDump).mapM
      (validateDict (ChatCompletionChoice.modelValidate pyd)) = .ok r.choices :=
    mapM_map_ok (fun c => Json.obj c.modelDump) _
      (fun c => ChatCompletionChoice.modelValidate_modelDump pyd c) r.choices
  unfold modelValidate
  rw [hx]
  simp [modelDump, field, List.lookup, bind, Except.bind, pure, Except.pure, validateDict,
    validateList, validateStr, hc, CompletionUsage.modelValidate_modelDump]

end CachingLayer
