import CachingLayer.Core.Config
import CachingLayer.Policies.Patterns
import CachingLayer.Providers.Answers
import CachingLayer.Providers.Base
import CachingLayer.Providers.PassThrough

/-!
# Provider router

The adapters, and the router that picks one by the model's name: the first rule that
matches, else the default.

No model matches two rules of the default table, so their order does not matter
(`find?_perm`); and every name the table can give is that of an adapter of `build_router`.
What a call posts goes to that vendor and no other (`buildRouter_complete`).
-/

namespace CachingLayer

/-! ## Adapters -/

def openaiProvider (pyd : Pydantic) (apiKey baseUrl : String) : ChatProvider where
  name := "openai"
  baseUrl := baseUrl
  path := "/chat/completions"
  headers := [("Authorization", "Bearer " ++ apiKey)]
  payload request := passThroughPayload request false
  streamPayload := some fun request => passThroughPayload request true
  parse uuid now _ := validateDict (ChatCompletionResponse.modelValidate pyd uuid now)

def ollamaProvider (pyd : Pydantic) (baseUrl : String) : ChatProvider where
  name := "ollama"
  baseUrl := baseUrl
  path := "/chat/completions"
  payload request := passThroughPayload request false
  streamPayload := some fun request => passThroughPayload request true
  parse uuid now _ := validateDict (ChatCompletionResponse.modelValidate pyd uuid now)

def anthropicProvider (fl : FloatSums) (pyd : Pydantic) (apiKey baseUrl : String)
    (anthropicVersion : String := "2023-06-01") : ChatProvider where
  name := "anthropic"
  baseUrl := baseUrl
  path := "/messages"
  headers := [
    ("x-api-key", apiKey),
    ("anthropic-version", anthropicVersion),
    ("content-type", "application/json")]
  payload := AnthropicProvider.toAnthropicPayload
  parse uuid now request body := AnthropicProvider.toOpenaiResponse fl pyd uuid now body request.model

/-! ## Rules -/

structure Rule where
  predicate : String → Bool
  provider : String

/-- `m.startswith(prefixes)`. -/
def startsWithAny (prefixes : List String) (m : String) : Bool := prefixes.any fun p => p.toList <+: m.toList

/-- A rule by prefixes. -/
def Rule.ofPrefixes (entry : List String × String) : Rule := ⟨startsWithAny entry.1, entry.2⟩

/-- The table of `_DEFAULT_RULES`. -/
def defaultPrefixes : List (List String × String) := [
  (["gpt-", "o1", "o3", "chatgpt", "text-davinci"], "openai"),
  (["claude"], "anthropic"),
  (["llama", "mistral", "qwen", "gemma", "phi", "deepseek"], "ollama")]

/-- `_DEFAULT_RULES`. -/
def defaultRules : List Rule := defaultPrefixes.map .ofPrefixes

structure ProviderRouter where
  /-- `dict[str, ChatProvider]`. -/
  providers : List (String × ChatProvider)
  rules : List Rule := defaultRules
  default : String := "openai"

namespace ProviderRouter

variable (u : Unicode) (router : ProviderRouter) (request : ChatCompletionRequest)

def resolveProvider : String :=
  match router.rules.find? (·.predicate (u.lower request.model)) with
  | some rule => rule.provider
  | none => router.default

/-- `_provider_for`. -/
def providerFor : Except ProviderError ChatProvider :=
  let name := router.resolveProvider u request
  match router.providers.lookup name with
  | some provider => .ok provider
  | none => .error {
      message := "no provider configured for '" ++ name ++ "' (model=" ++ request.model ++ ")"
      statusCode := 400
      provider := name }

def complete (network : Network) (uuid : String) (now : Int) (sent : List Post) :
    Except CompletionError ChatCompletionResponse × List Post :=
  match router.providerFor u request with
  | .error e => (.error (.provider e), sent)
  | .ok provider => provider.complete network uuid now request sent

end ProviderRouter

def buildRouter (fl : FloatSums) (pyd : Pydantic) (settings : Settings) : ProviderRouter where
  providers := [
    ("openai", openaiProvider pyd settings.openaiApiKey settings.openaiBaseUrl),
    ("anthropic", anthropicProvider fl pyd settings.anthropicApiKey settings.anthropicBaseUrl),
    ("ollama", ollamaProvider pyd settings.ollamaBaseUrl)]

/-! ## No model matches two rules -/

/-- No prefix of the one begins a prefix of the other. -/
def Apart (ps qs : List String) : Prop := ∀ p ∈ ps, ∀ q ∈ qs, ¬ p.toList <+: q.toList ∧ ¬ q.toList <+: p.toList

instance (ps qs : List String) : Decidable (Apart ps qs) :=
  inferInstanceAs (Decidable (∀ p ∈ ps, ∀ q ∈ qs, ¬ p.toList <+: q.toList ∧ ¬ q.toList <+: p.toList))

theorem startsWithAny_apart (ps qs : List String) (hapart : Apart ps qs) (m : String)
    (hp : startsWithAny ps m = true) : startsWithAny qs m = false := by
  rw [Bool.eq_false_iff]
  intro hq
  obtain ⟨p, hpmem, hpm⟩ := List.any_eq_true.mp hp
  obtain ⟨q, hqmem, hqm⟩ := List.any_eq_true.mp hq
  obtain ⟨hpq, hqp⟩ := hapart p hpmem q hqmem
  rcases List.prefix_or_prefix_of_prefix (of_decide_eq_true hpm) (of_decide_eq_true hqm) with h | h
  · exact hpq h
  · exact hqp h

theorem defaultPrefixes_apart : defaultPrefixes.Pairwise fun x y => Apart x.1 y.1 := by decide

/-- A model matches one rule of the table at most. -/
theorem defaultRules_exclusive (m : String) :
    defaultRules.Pairwise fun x y => ¬ (x.predicate m = true ∧ y.predicate m = true) := by
  unfold defaultRules
  rw [List.pairwise_map]
  refine defaultPrefixes_apart.imp ?_
  rintro x y hapart ⟨hx, hy⟩
  rw [show (Rule.ofPrefixes y).predicate m = false from startsWithAny_apart x.1 y.1 hapart m hx] at hy
  cases hy

/-- Where no two match, any order finds the same. -/
theorem find?_perm {α : Type} (p : α → Bool) (l l' : List α) (hperm : l.Perm l')
    (hone : l.Pairwise fun x y => ¬ (p x = true ∧ p y = true)) : l.find? p = l'.find? p := by
  induction hperm with
  | nil => rfl
  | cons x _ ih =>
    rw [List.pairwise_cons] at hone
    rw [List.find?_cons, List.find?_cons, ih hone.2]
  | swap x y l =>
    rw [List.pairwise_cons] at hone
    have hne := hone.1 x List.mem_cons_self
    rw [List.find?_cons, List.find?_cons, List.find?_cons, List.find?_cons]
    cases hx : p x <;> cases hy : p y <;> simp_all
  | trans hfirst _ ih ih' =>
    have hsymm : ∀ x y : α, ¬ (p x = true ∧ p y = true) → ¬ (p y = true ∧ p x = true) := fun _ _ h => fun h' => h h'.symm
    exact (ih hone).trans (ih' (hfirst.pairwise hone fun {x y} => hsymm x y))

/-! ## The router that is built -/

section
variable (u : Unicode) (fl : FloatSums) (pyd : Pydantic) (settings : Settings) (request : ChatCompletionRequest)

/-- The order of the default rules does not matter. -/
theorem resolveProvider_perm (router : ProviderRouter) (hrules : router.rules = defaultRules) (rules : List Rule)
    (hperm : rules.Perm defaultRules) :
    ProviderRouter.resolveProvider u { router with rules := rules } request = router.resolveProvider u request := by
  unfold ProviderRouter.resolveProvider
  rw [hrules, find?_perm _ _ _ hperm.symm (defaultRules_exclusive _)]

theorem resolveProvider_mem :
    (buildRouter fl pyd settings).resolveProvider u request ∈ ["openai", "anthropic", "ollama"] := by
  unfold ProviderRouter.resolveProvider
  cases h : (buildRouter fl pyd settings).rules.find? (·.predicate (u.lower request.model)) with
  | none => exact List.mem_cons_self
  | some rule =>
    have hmem : rule ∈ defaultRules := List.mem_of_find?_eq_some h
    obtain ⟨entry, hentry, rfl⟩ := List.mem_map.mp hmem
    have hall : ∀ entry ∈ defaultPrefixes, entry.2 ∈ ["openai", "anthropic", "ollama"] := by decide
    exact hall entry hentry

/-- Whatever the model, the adapter picked is there, and is called what it was picked as. -/
theorem buildRouter_providerFor :
    ∃ p, (buildRouter fl pyd settings).providerFor u request = .ok p ∧
      p.name = (buildRouter fl pyd settings).resolveProvider u request := by
  have hmem := resolveProvider_mem u fl pyd settings request
  unfold ProviderRouter.providerFor
  simp only [List.mem_cons, List.not_mem_nil, or_false] at hmem
  rcases hmem with h | h | h
  · rw [h]; exact ⟨_, rfl, rfl⟩
  · rw [h]; exact ⟨_, rfl, rfl⟩
  · rw [h]; exact ⟨_, rfl, rfl⟩

/-- A routed call is a call of that adapter. -/
theorem buildRouter_complete (network : Network) (uuid : String) (now : Int) (sent : List Post) :
    ∃ p k, (buildRouter fl pyd settings).providerFor u request = .ok p ∧
      p.name = (buildRouter fl pyd settings).resolveProvider u request ∧ p.Posts network request sent k ∧
      (buildRouter fl pyd settings).complete u request network uuid now sent =
        (p.outcome network uuid now request (p.sentAfter request sent (k + 1)), p.sentAfter request sent (k + 1)) := by
  obtain ⟨p, hp, hname⟩ := buildRouter_providerFor u fl pyd settings request
  obtain ⟨k, hposts, hcomplete⟩ := p.complete_posts network uuid now request sent
  refine ⟨p, k, hp, hname, hposts, ?_⟩
  unfold ProviderRouter.complete
  rw [hp]
  exact hcomplete

end

end CachingLayer
