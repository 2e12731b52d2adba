import CachingLayer.Providers.Router
import CachingLayer.Proxy.Streaming

/-!
# Streams of the providers

What an adapter's `stream` posts, and what comes of it.  OpenAI and Ollama are asked for a
stream: one post, not tried again, and its chunks, empty ones left out.  Anthropic is asked
for a completion, which is streamed once it is there; so what is posted is what `complete`
posts.

Both are said by `Streams`, and a routed stream is one of the adapter the router picks
(`buildRouter_stream`).
-/

namespace CachingLayer

open Text

/-- What a streamed post is answered. -/
structure StreamedResponse where
  statusCode : Nat
  /-- `aread()`. -/
  body : Except HttpxError Bytes := .ok []
  /-- `aiter_bytes()`, and what it raises in the end, if it does. -/
  chunks : List Bytes := []
  raises : Option HttpxError := none

/-- A network that is streamed from. -/
abbrev StreamNetwork := List Post → Except HttpxError StreamedResponse

/-- An upstream stream: its chunks, and how it ends. -/
structure Upstream where
  chunks : List Bytes := []
  result : Except CompletionError Unit

/-! ## `repr` of bytes -/

def reprByte (quote : Char) (b : UInt8) : List Char :=
  let c := Char.ofNat b.toNat
  if c = '\\' ∨ c = quote then ['\\', c]
  else if c = '\t' then ['\\', 't']
  else if c = '\n' then ['\\', 'n']
  else if c = '\r' then ['\\', 'r']
  else if b < 32 ∨ 127 ≤ b then ['\\', 'x', Sha256.hexDigit (b.toNat / 16), Sha256.hexDigit b.toNat]
  else [c]

/-- `repr(b)`: in double quotes where only single ones are inside. -/
def reprBytes (b : Bytes) : String :=
  let single := Char.ofNat 39
  let quote := if 39 ∈ b ∧ 34 ∉ b then Char.ofNat 34 else single
  String.ofList ('b' :: quote :: b.flatMap (reprByte quote) ++ [quote])

/-! ## Adapters -/

namespace ChatProvider

section
variable (p : ChatProvider) (network : Network) (streams : StreamNetwork) (oj : Orjson) (uuid : String) (now : Int)
  (request : ChatCompletionRequest)

/-- What is raised for an answer of 400 and up. -/
def streamError (statusCode : Nat) (body : Bytes) : ProviderError where
  message := p.name ++ " stream returned " ++ toString statusCode ++ ": " ++ reprBytes (body.take 200)
  statusCode := statusCode
  provider := p.name

/-- What comes of a streamed post. -/
def relay (resp : StreamedResponse) : Upstream :=
  if 400 ≤ resp.statusCode then
    match resp.body with
    | .error e => { result := .error (.httpx e) }
    | .ok body => { result := .error (.provider (p.streamError resp.statusCode body)) }
  else
    { chunks := resp.chunks.filter (· ≠ [])
      result :=
        match resp.raises with
        | some e => .error (.httpx e)
        | none => .ok () }

def streamPost (payload : ChatCompletionRequest → Dict) : Post := { p.post request with json := payload request }

def stream (sent : List Post) : Upstream × List Post :=
  match p.streamPayload with
  | some payload =>
    let sent := sent ++ [p.streamPost request payload]
    match streams sent with
    | .error e => ({ result := .error (.httpx e) }, sent)
    | .ok resp => (p.relay resp, sent)
  | none =>
    -- the base class
    match p.complete network uuid now request sent with
    | (.error e, sent) => ({ result := .error e }, sent)
    | (.ok response, sent) => ({ chunks := responseToSse oj response, result := .ok () }, sent)

/-! ## What a stream posts -/

/-- An upstream stream, and what was posted for it. -/
inductive Streams (sent : List Post) : Upstream → List Post → Prop
  /-- No answer to the post. -/
  | unanswered (payload : ChatCompletionRequest → Dict) (native : p.streamPayload = some payload) (e : HttpxError)
      (lost : streams (sent ++ [p.streamPost request payload]) = .error e) :
    Streams sent { result := .error (.httpx e) } (sent ++ [p.streamPost request payload])
  | relayed (payload : ChatCompletionRequest → Dict) (native : p.streamPayload = some payload)
      (resp : StreamedResponse) (heard : streams (sent ++ [p.streamPost request payload]) = .ok resp) :
    Streams sent (p.relay resp) (sent ++ [p.streamPost request payload])
  /-- A completion, streamed. -/
  | buffered (buffers : p.streamPayload = none) (k : ℕ) (posts : p.Posts network request sent k)
      (response : ChatCompletionResponse)
      (completed : p.outcome network uuid now request (p.sentAfter request sent (k + 1)) = .ok response) :
    Streams sent { chunks := responseToSse oj response, result := .ok () } (p.sentAfter request sent (k + 1))
  | failed (buffers : p.streamPayload = none) (k : ℕ) (posts : p.Posts network request sent k) (e : CompletionError)
      (raised : p.outcome network uuid now request (p.sentAfter request sent (k + 1)) = .error e) :
    Streams sent { result := .error e } (p.sentAfter request sent (k + 1))

theorem stream_streams (sent : List Post) :
    p.Streams network streams oj uuid now request sent (p.stream network streams oj uuid now request sent).1
      (p.stream network streams oj uuid now request sent).2 := by
  unfold stream
  cases hp : p.streamPayload with
  | some payload =>
    simp only []
    cases hs : streams (sent ++ [p.streamPost request payload]) with
    | error e => exact .unanswered payload hp e hs
    | ok resp => exact .relayed payload hp resp hs
  | none =>
    simp only []
    obtain ⟨k, hposts, hcomplete⟩ := p.complete_posts network uuid now request sent
    rw [hcomplete]
    cases hout : p.outcome network uuid now request (p.sentAfter request sent (k + 1)) with
    | error e => exact .failed hp k hposts e hout
    | ok response => exact .buffered hp k hposts response hout

/-- An answer of 400 and up is no stream. -/
theorem relay_ok_iff (resp : StreamedResponse) :
    (p.relay resp).result = .ok () ↔ resp.statusCode < 400 ∧ resp.raises = none := by
  unfold relay
  by_cases hstatus : 400 ≤ resp.statusCode
  · rw [if_pos hstatus]
    constructor
    · intro h
      cases hbody : resp.body <;> rw [hbody] at h <;> cases h
    · intro h
      omega
  · rw [if_neg hstatus]
    cases hraises : resp.raises with
    | none => simp; omega
    | some e => simp

end

end ChatProvider

/-! ## The router -/

namespace ProviderRouter

def stream (u : Unicode) (router : ProviderRouter) (request : ChatCompletionRequest) (network : Network)
    (streams : StreamNetwork) (oj : Orjson) (uuid : String) (now : Int) (sent : List Post) : Upstream × List Post :=
  match router.providerFor u request with
  | .error e => ({ result := .error (.provider e) }, sent)
  | .ok provider => provider.stream network streams oj uuid now request sent

end ProviderRouter

section
variable (u : Unicode) (fl : FloatSums) (pyd : Pydantic) (settings : Settings) (request : ChatCompletionRequest)

/-- A routed stream is one of the adapter picked. -/
theorem buildRouter_stream (network : Network) (streams : StreamNetwork) (oj : Orjson) (uuid : String) (now : Int)
    (sent : List Post) :
    ∃ p, (buildRouter fl pyd settings).providerFor u request = .ok p ∧
      p.name = (buildRouter fl pyd settings).resolveProvider u request ∧
      p.Streams network streams oj uuid now request sent
        ((buildRouter fl pyd settings).stream u request network streams oj uuid now sent).1
        ((buildRouter fl pyd settings).stream u request network streams oj uuid now sent).2 := by
  obtain ⟨p, hp, hname⟩ := buildRouter_providerFor u fl pyd settings request
  refine ⟨p, hp, hname, ?_⟩
  unfold ProviderRouter.stream
  rw [hp]
  exact p.stream_streams network streams oj uuid now request sent

/-- Who is asked for a stream: the vendors whose chat completions the proxy speaks. -/
theorem streamPayload_isSome_iff (p : ChatProvider) (hp : (buildRouter fl pyd settings).providerFor u request = .ok p) :
    p.streamPayload.isSome = true ↔ p.name ≠ "anthropic" := by
  have hmem := resolveProvider_mem u fl pyd settings request
  unfold ProviderRouter.providerFor at hp
  simp only [List.mem_cons, List.not_mem_nil, or_false] at hmem
  rcases hmem with h | h | h <;> rw [h] at hp <;> obtain rfl := Except.ok.inj hp
  · have hname : "openai" ≠ "anthropic" := by decide
    exact ⟨fun _ => hname, fun _ => rfl⟩
  · exact ⟨fun hsome => (nomatch hsome), fun hne => absurd rfl hne⟩
  · have hname : "ollama" ≠ "anthropic" := by decide
    exact ⟨fun _ => hname, fun _ => rfl⟩

end

end CachingLayer
