import CachingLayer.Proxy.Soundness

/-!
# Pass-through providers

What OpenAI and Ollama are sent: the request's own payload, its `stream` flag set.  The
system messages in it are read back (`sentInstructions`) and compared with the one the
namespace is made from: requests of one namespace send the same instructions exactly
when their later system messages agree as well (`sameInstructions_iff`).
-/

namespace CachingLayer

open Text

/-- The `payload` of `OpenAIProvider` and of `OllamaProvider`: in `complete` with `stream`
false, in `stream` with it true. -/
def passThroughPayload (request : ChatCompletionRequest) (stream : Bool) : Dict :=
  request.upstreamPayload.set "stream" (.bool stream)

/-- The content of a system message, stripped; an empty one is no instruction. -/
def instruction (role : Role) (content : Option String) : Option String :=
  if role = .system ∧ normalizePrompt content ≠ "" then some (normalizePrompt content) else none

/-- One message as the provider reads it. -/
def sentInstruction : Json → Option String
  | .obj m =>
    match List.lookup "role" m, List.lookup "content" m with
    | some (.str "system"), some (.str s) => instruction .system (some s)
    | _, _ => none
  | _ => none

/-- The system messages in a payload. -/
def sentInstructions (payload : Dict) : List String :=
  match List.lookup "messages" payload with
  | some (.arr ms) => ms.filterMap sentInstruction
  | _ => []

namespace ChatCompletionRequest

def instructions (messages : List ChatMessage) : List String :=
  messages.filterMap fun m => instruction m.role m.content

/-- The system messages after the first one. -/
def laterInstructions (r : ChatCompletionRequest) : List String :=
  instructions ((r.messages.dropWhile fun m => m.role ≠ .system).drop 1)

/-! ## The payload's messages -/

theorem sentInstruction_message (m : ChatMessage) :
    sentInstruction (.obj (dropNone m.modelDump)) = instruction m.role m.content := by
  have hextra : ∀ name ∈ messageFields, (dropNone m.extra.kvs).lookup name = none := by
    intro name hname
    refine lookup_dropNone_eq_none _ _ fun kv hkv => ?_
    rintro rfl
    exact m.extra.undeclared kv hkv hname
  have hrole : (dropNone m.modelDump).lookup "role" = some (.str m.role.value) := by
    show (("role", Json.str m.role.value) :: _).lookup "role" = _
    rw [List.lookup_cons_self]
  have hcontent : (dropNone m.modelDump).lookup "content" = m.content.map .str := by
    have hsplit : dropNone m.modelDump =
        dropNone [("role", .str m.role.value), ("content", .opt .str m.content), ("name", .opt .str m.name)] ++
          dropNone m.extra.kvs := List.filter_append ..
    rw [hsplit, List.lookup_append, hextra "content" (by simp), Option.or_none]
    cases m.content <;> cases m.name <;> rfl
  unfold sentInstruction
  simp only [hrole, hcontent]
  cases m.role <;> cases m.content <;> rfl

theorem sentInstructions_payload (r : ChatCompletionRequest) (stream : Bool) :
    sentInstructions (passThroughPayload r stream) = instructions r.messages := by
  have hmessages : (passThroughPayload r stream).lookup "messages" =
      some (.arr (r.messages.map fun m => .obj (dropNone m.modelDump))) := by
    unfold passThroughPayload
    rw [Dict.lookup_set_of_ne _ _ _ _ (by decide), upstreamPayload_lookup]
    rfl
  unfold sentInstructions instructions
  simp only [hmessages, List.filterMap_map]
  refine List.filterMap_congr fun m _ => ?_
  exact sentInstruction_message m

/-- What is sent: the system prompt of the key, then the later ones. -/
theorem instructions_messages (r : ChatCompletionRequest) :
    instructions r.messages =
      (instruction .system r.systemPrompt).toList ++ r.laterInstructions := by
  unfold instructions laterInstructions systemPrompt
  induction r.messages with
  | nil => rfl
  | cons m ms ih =>
    by_cases hm : m.role = .system
    · rw [List.filterMap_cons, List.find?_cons_of_pos (by simpa using hm),
        List.dropWhile_cons_of_neg (by simpa using hm), hm]
      cases h : instruction .system m.content <;> rfl
    · have hnone : instruction m.role m.content = none := if_neg fun h => hm h.1
      rw [List.filterMap_cons, hnone, List.find?_cons_of_neg (by simpa using hm),
        List.dropWhile_cons_of_pos (by simpa using hm)]
      exact ih

end ChatCompletionRequest

/-! ## Instructions and the namespace -/

namespace ProxyService

section
variable {F E : Type} [Field F] [LinearOrder F] {np : Numpy F} {oj : Orjson} {pyd : Pydantic}
  {svc : ProxyService F E} {s₀ : State F E}

/-- With the system prompt of the key the same, the later ones make the difference. -/
theorem sentInstructions_eq_iff (q q' : ChatCompletionRequest) (stream stream' : Bool)
    (h : normalizePrompt q.systemPrompt = normalizePrompt q'.systemPrompt) :
    sentInstructions (passThroughPayload q stream) = sentInstructions (passThroughPayload q' stream') ↔
      q.laterInstructions = q'.laterInstructions := by
  have hfirst : instruction .system q.systemPrompt = instruction .system q'.systemPrompt := by
    unfold instruction; rw [h]
  rw [ChatCompletionRequest.sentInstructions_payload, ChatCompletionRequest.sentInstructions_payload,
    ChatCompletionRequest.instructions_messages, ChatCompletionRequest.instructions_messages, hfirst,
    List.append_right_inj]

/-- **System instructions.**  Two requests that are given one namespace send the same system
instructions exactly when they differ in a dimension of the key after all, or agree on the
system messages after the first, which the key does not take.  So a HIT is served across
requests of different instructions exactly when their later ones differ. -/
theorem sameInstructions_iff (run : Run (svc.step np oj pyd) s₀) (htasks : ∀ rid, s₀.tasks rid = none)
    (hstore : s₀.store.items = []) (hcol : CollisionFree (signatures run)) :
    (∀ (tenant tenant' : String) (q q' : ChatCompletionRequest) (stream stream' : Bool),
      CollisionFree {svc.requestSignature q tenant, svc.requestSignature q' tenant'} →
      (((svc.requestSignature q tenant).namespaceKey = (svc.requestSignature q' tenant').namespaceKey →
          sentInstructions (passThroughPayload q stream) = sentInstructions (passThroughPayload q' stream')) ↔
        ¬ (svc.requestSignature q tenant).SameDimensions (svc.requestSignature q' tenant') ∨
          q.laterInstructions = q'.laterInstructions)) ∧
    ∀ n ≤ run.len, ∀ rid q, (run.state n).tasks rid = some q → ∀ l best cached, q.phase = .hit l best cached →
      ∃ i j rid' q' l' e, j < n ∧ Backs run i j rid rid' q q' l.score cached l' e ∧
        (sentInstructions (passThroughPayload q.request q.streaming) =
            sentInstructions (passThroughPayload q'.request q'.streaming) ↔
          q.request.laterInstructions = q'.request.laterInstructions) := by
  constructor
  · intro tenant tenant' q q' stream stream' hcol'
    constructor
    · intro h
      by_cases hd : (svc.requestSignature q tenant).SameDimensions (svc.requestSignature q' tenant')
      · right
        exact (sentInstructions_eq_iff q q' stream stream' hd.systemPrompt).mp (h hd.namespaceKey_eq)
      · exact Or.inl hd
    · intro h hns
      have hd := RequestSignature.namespaceKey_inj _ _ hcol' hns
      rcases h with h | h
      · exact absurd hd h
      · exact (sentInstructions_eq_iff q q' stream stream' hd.systemPrompt).mpr h
  · intro n hn rid q hq l best cached hhit
    obtain ⟨i, j, rid', q', l', e, hj, hbacks⟩ :=
      backs_of_hit run htasks hstore hcol n hn rid q hq l best cached hhit
    exact ⟨i, j, rid', q', l', e, hj, hbacks,
      sentInstructions_eq_iff q.request q'.request _ _ hbacks.dimensions.systemPrompt⟩

end

/-- A question under two system messages, the second one given. -/
def instructedRequest (second : String) : ChatCompletionRequest where
  model := "gpt-4o-mini"
  messages := [
    { role := .system, content := some "You are helpful." },
    { role := .system, content := some second },
    { role := .user, content := some "describe the ocean" }]

theorem sameInstructions_iff_instructed :
    sentInstructions (passThroughPayload (instructedRequest "Answer in French.") false) =
        sentInstructions (passThroughPayload (instructedRequest " Answer in French.\n") true) ∧
      ∃ q i j rid' q' score cached l' e, Backs oceanRun i j ⟨"team", 1⟩ rid' q q' score cached l' e ∧
        (sentInstructions (passThroughPayload q.request q.streaming) =
            sentInstructions (passThroughPayload q'.request q'.streaming) ↔
          q.request.laterInstructions = q'.request.laterInstructions) := by
  obtain ⟨hpairs, hhits⟩ := sameInstructions_iff oceanRun (fun _ => rfl) rfl collisionFree_oceanRun
  constructor
  · refine (hpairs "team" "team" _ _ false true ?_).mpr (Or.inr ?_) rfl
    · refine .of_sameDimensions ?_
      rintro _ (rfl | rfl) _ (rfl | rfl) <;> exact ⟨rfl, rfl, rfl, rfl, rfl, rfl⟩
    · decide
  · obtain ⟨q, l, best, cached, hq, hp, -⟩ := oceanRun_hit
    obtain ⟨i, j, rid', q', l', e, -, hbacks⟩ := hhits 12 le_rfl ⟨"team", 1⟩ q hq l best cached hp
    exact ⟨q, i, j, rid', q', l.score, cached, l', e, hbacks⟩

/-- Two requests that differ in their second system message only share their namespace. -/
theorem sameInstructions_second :
    (plainService.requestSignature (instructedRequest "Answer in French.") "team").namespaceKey =
        (plainService.requestSignature (instructedRequest "Answer in German.") "team").namespaceKey ∧
      sentInstructions (passThroughPayload (instructedRequest "Answer in French.") false) ≠
        sentInstructions (passThroughPayload (instructedRequest "Answer in German.") false) := by
  refine ⟨rfl, fun h => ?_⟩
  have := (sentInstructions_eq_iff (instructedRequest "Answer in French.")
    (instructedRequest "Answer in German.") false false rfl).mp h
  revert this
  decide

end ProxyService

end CachingLayer
