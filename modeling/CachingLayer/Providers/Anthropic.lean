import CachingLayer.Models.Chat

/-!
# Anthropic's Messages API

What `AnthropicProvider` makes of a request: the system prompt as a field of its own, the
user's and the assistant's turns, the token limit and the temperature.

What a translation has to carry over is stated of any payload (`Carries`).  The turns and the
temperature always are; the system messages are up to the first, the token limit unless it
is zero, and `top_p` and the stop sequences never (`carries_iff`).
-/

namespace CachingLayer

namespace AnthropicProvider

/-- `_DEFAULT_MAX_TOKENS`. -/
def defaultMaxTokens : Int := 1024

/-- `request.max_tokens or _DEFAULT_MAX_TOKENS`: zero is no number of tokens. -/
def maxTokens : Option Int → Int
  | some n => if n = 0 then defaultMaxTokens else n
  | none => defaultMaxTokens

/-- One of the translated `messages`. -/
def message (m : ChatMessage) : Option Json :=
  if m.role = .user ∨ m.role = .assistant then
    some (.obj [("role", .str m.role.value), ("content", .str (m.content.getD ""))])
  else none

/-- `_to_anthropic_payload`. -/
def toAnthropicPayload (request : ChatCompletionRequest) : Dict :=
  let payload : Dict := [
    ("model", .str request.model),
    ("messages", .arr (request.messages.filterMap message)),
    ("max_tokens", .int (maxTokens request.maxTokens)),
    ("temperature", .float request.temperature)]
  let system := request.systemPrompt.getD ""
  if system ≠ "" then payload.set "system" (.str system) else payload

end AnthropicProvider

/-! ## What there is to carry over -/

namespace ChatCompletionRequest

/-- The contents of the system messages, empty ones apart. -/
def systemContents (messages : List ChatMessage) : List String :=
  messages.filterMap fun m =>
    if m.role = .system ∧ m.content.getD "" ≠ "" then some (m.content.getD "") else none

/-- Those after the first system message. -/
def laterSystemContents (r : ChatCompletionRequest) : List String :=
  systemContents ((r.messages.dropWhile fun m => m.role ≠ .system).drop 1)

/-- Role and content of the user's and the assistant's messages. -/
def turns (r : ChatCompletionRequest) : List (String × String) :=
  r.messages.filterMap fun m =>
    if m.role = .user ∨ m.role = .assistant then some (m.role.value, m.content.getD "") else none

def stopSequences (r : ChatCompletionRequest) : List String :=
  match r.stop with
  | none => []
  | some (.one s) => [s]
  | some (.many ss) => ss

/-- `model_fields_set`: what was not set has its default. -/
structure FieldsSet (r : ChatCompletionRequest) where
  names : List String
  topP : "top_p" ∉ names → r.topP = .finite 1

theorem systemContents_messages (r : ChatCompletionRequest) :
    systemContents r.messages =
      (if r.systemPrompt.getD "" ≠ "" then [r.systemPrompt.getD ""] else []) ++ r.laterSystemContents := by
  unfold systemContents laterSystemContents systemPrompt
  induction r.messages with
  | nil => rfl
  | cons m ms ih =>
    by_cases hm : m.role = .system
    · rw [List.filterMap_cons, List.find?_cons_of_pos (by simpa using hm),
        List.dropWhile_cons_of_neg (by simpa using hm)]
      by_cases hcontent : m.content.getD "" = ""
      · simp only [hcontent, ne_eq, not_true, and_false, if_false]
        rfl
      · simp only [hm, hcontent, ne_eq, not_false_iff, and_self, if_true]
        rfl
    · have hnone : ¬ (m.role = .system ∧ m.content.getD "" ≠ "") := fun h => hm h.1
      rw [List.filterMap_cons, if_neg hnone, List.find?_cons_of_neg (by simpa using hm),
        List.dropWhile_cons_of_pos (by simpa using hm)]
      exact ih

theorem ne_empty_of_mem_systemContents (messages : List ChatMessage) (s : String)
    (h : s ∈ systemContents messages) : s ≠ "" := by
  obtain ⟨m, -, hm⟩ := List.mem_filterMap.mp h
  split at hm
  · next hsystem =>
    obtain rfl := Option.some.inj hm
    exact hsystem.2
  · cases hm

end ChatCompletionRequest

/-- The texts stand in `text` one after another. -/
def ContainsInOrder {α : Type} : List (List α) → List α → Prop
  | [], _ => True
  | c :: cs, text => ∃ before after, text = before ++ c ++ after ∧ ContainsInOrder cs after

theorem containsInOrder_self_iff {α : Type} (c : List α) (cs : List (List α)) (hne : ∀ x ∈ cs, x ≠ []) :
    ContainsInOrder (c :: cs) c ↔ cs = [] := by
  constructor
  · rintro ⟨before, after, heq, hrest⟩
    have hlength := congrArg List.length heq
    rw [List.length_append, List.length_append] at hlength
    obtain rfl : after = [] := List.eq_nil_of_length_eq_zero (by omega)
    cases cs with
    | nil => rfl
    | cons x xs =>
      obtain ⟨b, a, hnil, -⟩ := hrest
      have hx : x = [] := by
        have := congrArg List.length hnil
        rw [List.length_append, List.length_append, List.length_nil] at this
        exact List.eq_nil_of_length_eq_zero (by omega)
      exact absurd hx (hne x List.mem_cons_self)
  · rintro rfl
    exact ⟨[], [], by simp, trivial⟩

namespace AnthropicProvider

open ChatCompletionRequest

def sentTurn : Json → Option (String × String)
  | .obj m =>
    match List.lookup "role" m, List.lookup "content" m with
    | some (.str role), some (.str content) => some (role, content)
    | _, _ => none
  | _ => none

/-- The turns in a payload. -/
def sentTurns (payload : Dict) : List (String × String) :=
  match List.lookup "messages" payload with
  | some (.arr ms) => ms.filterMap sentTurn
  | _ => []

/-- The system field has the system messages' contents in order. -/
def CarriesSystem (r : ChatCompletionRequest) (payload : Dict) : Prop :=
  systemContents r.messages ≠ [] →
    ∃ text, payload.lookup "system" = some (.str text) ∧
      ContainsInOrder ((systemContents r.messages).map String.toList) text.toList

/-- A payload of the Messages API says what the request says. -/
structure Carries (r : ChatCompletionRequest) (set : r.FieldsSet) (payload : Dict) : Prop where
  system : CarriesSystem r payload
  turns : sentTurns payload = r.turns
  maxTokens : ∀ n, r.maxTokens = some n → payload.lookup "max_tokens" = some (.int n)
  temperature : payload.lookup "temperature" = some (.float r.temperature)
  topP : "top_p" ∈ set.names → payload.lookup "top_p" = some (.float r.topP)
  stop : r.stopSequences ≠ [] → payload.lookup "stop_sequences" = some (.arr (r.stopSequences.map .str))

/-! ## The payload -/

section
variable (r : ChatCompletionRequest)

theorem lookup_system :
    (toAnthropicPayload r).lookup "system" =
      if r.systemPrompt.getD "" ≠ "" then some (.str (r.systemPrompt.getD "")) else none := by
  unfold toAnthropicPayload
  simp only []
  split <;> rfl

/-- The fields that are always there, and those that never are. -/
theorem lookup_payload :
    (toAnthropicPayload r).lookup "messages" = some (.arr (r.messages.filterMap message)) ∧
      (toAnthropicPayload r).lookup "max_tokens" = some (.int (maxTokens r.maxTokens)) ∧
      (toAnthropicPayload r).lookup "temperature" = some (.float r.temperature) ∧
      (toAnthropicPayload r).lookup "top_p" = none ∧ (toAnthropicPayload r).lookup "stop_sequences" = none := by
  unfold toAnthropicPayload
  simp only []
  split <;> exact ⟨rfl, rfl, rfl, rfl, rfl⟩

theorem sentTurns_payload : sentTurns (toAnthropicPayload r) = r.turns := by
  unfold sentTurns turns
  rw [(lookup_payload r).1]
  show (r.messages.filterMap message).filterMap sentTurn = _
  rw [List.filterMap_filterMap]
  apply List.filterMap_congr
  intro m _
  unfold message
  split
  · rfl
  · rfl

/-- The first system message is the only one carried. -/
theorem carriesSystem_iff : CarriesSystem r (toAnthropicPayload r) ↔ r.laterSystemContents = [] := by
  have hne : ∀ x ∈ r.laterSystemContents.map String.toList, x ≠ [] := by
    intro x hx
    obtain ⟨s, hs, rfl⟩ := List.mem_map.mp hx
    rw [Ne, String.toList_eq_nil_iff]
    exact ne_empty_of_mem_systemContents _ s hs
  unfold CarriesSystem
  rw [lookup_system, systemContents_messages]
  by_cases hfirst : r.systemPrompt.getD "" = ""
  · rw [if_neg (not_not.mpr hfirst), if_neg (not_not.mpr hfirst), List.nil_append]
    constructor
    · intro h
      by_contra hlater
      obtain ⟨text, htext, -⟩ := h hlater
      cases htext
    · exact fun h hlater => absurd h hlater
  · rw [if_pos hfirst, if_pos hfirst, List.singleton_append, List.map_cons]
    have hself := containsInOrder_self_iff (r.systemPrompt.getD "").toList _ hne
    rw [List.map_eq_nil_iff] at hself
    rw [← hself]
    constructor
    · intro h
      obtain ⟨text, htext, hcontains⟩ := h (List.cons_ne_nil _ _)
      obtain rfl := Json.str.inj (Option.some.inj htext)
      exact hcontains
    · exact fun h _ => ⟨_, rfl, h⟩

theorem carriesMaxTokens_iff :
    (∀ n, r.maxTokens = some n → (toAnthropicPayload r).lookup "max_tokens" = some (.int n)) ↔
      r.maxTokens ≠ some 0 := by
  rw [(lookup_payload r).2.1]
  constructor
  · intro h hzero
    have hsent := Json.int.inj (Option.some.inj (h 0 hzero))
    rw [hzero] at hsent
    exact absurd hsent (by decide)
  · intro hzero n hn
    rw [hn] at hzero ⊢
    have hne : n ≠ 0 := fun h => hzero (by rw [h])
    show some (Json.int (if n = 0 then defaultMaxTokens else n)) = _
    rw [if_neg hne]

/-- **Translation.**  The payload says what the request says exactly when no system message but
the first has content, the token limit is not zero, `top_p` was not set, and there are no
stop sequences; a `top_p` it never has. -/
theorem carries_iff (set : r.FieldsSet) :
    (Carries r set (toAnthropicPayload r) ↔
      r.laterSystemContents = [] ∧ r.maxTokens ≠ some 0 ∧ "top_p" ∉ set.names ∧ r.stopSequences = []) ∧
    (toAnthropicPayload r).lookup "top_p" = none := by
  obtain ⟨-, -, htemperature, htopP, hstop⟩ := lookup_payload r
  refine ⟨?_, htopP⟩
  constructor
  · intro h
    refine ⟨(carriesSystem_iff r).mp h.system, (carriesMaxTokens_iff r).mp h.maxTokens, fun hset => ?_, ?_⟩
    · have := h.topP hset
      rw [htopP] at this
      cases this
    · by_contra hne
      have := h.stop hne
      rw [hstop] at this
      cases this
  · rintro ⟨hsystem, hmax, hset, hnone⟩
    exact {
      system := (carriesSystem_iff r).mpr hsystem
      turns := sentTurns_payload r
      maxTokens := (carriesMaxTokens_iff r).mpr hmax
      temperature := htemperature
      topP := fun h => absurd h hset
      stop := fun h => absurd hnone h }

end

/-- Two system messages, and parameters of its own. -/
def instructedRequest : ChatCompletionRequest where
  model := "claude-3-5-sonnet"
  messages := [
    { role := .system, content := some "You are helpful." },
    { role := .system, content := some "Answer in French." },
    { role := .user, content := some "describe the ocean" }]
  topP := .finite (1 / 2)
  maxTokens := some 0
  stop := some (.one "END")

def instructedFields : instructedRequest.FieldsSet where
  names := ["model", "messages", "top_p", "max_tokens", "stop"]
  topP := by decide

/-- Each of them is lost. -/
theorem not_carries_instructed :
    ¬ CarriesSystem instructedRequest (toAnthropicPayload instructedRequest) ∧
      (toAnthropicPayload instructedRequest).lookup "max_tokens" = some (.int 1024) ∧
      (toAnthropicPayload instructedRequest).lookup "top_p" = none ∧
      (toAnthropicPayload instructedRequest).lookup "stop_sequences" = none ∧
      ¬ Carries instructedRequest instructedFields (toAnthropicPayload instructedRequest) := by
  have hsystem : ¬ CarriesSystem instructedRequest (toAnthropicPayload instructedRequest) := by
    rw [carriesSystem_iff]
    decide
  exact ⟨hsystem, rfl, rfl, rfl, fun h => hsystem h.system⟩

end AnthropicProvider

end CachingLayer
