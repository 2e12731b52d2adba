import CachingLayer.Basis.Retry
import CachingLayer.Basis.Text
import CachingLayer.Models.Chat

/-!
# Chat providers

What the adapters share: one `POST` to the vendor, tried three times at most while the
transport fails, and what becomes of its answer.  The network is an argument: given all
that was posted up to now, it says what the last post is answered.

A call posts the same request every time, and no more once the vendor has answered
(`complete_posts`).
-/

namespace CachingLayer

open Text

/-- `ProviderError`. -/
structure ProviderError where
  message : String
  statusCode : Nat := 502
  provider : String := ""
deriving DecidableEq

/-- What `httpx` raises: `TransportError`, or another of its exceptions. -/
inductive HttpxError
  | transport (message : String)
  | other (message : String)
deriving DecidableEq

inductive CompletionError
  | httpx (e : HttpxError)
  | provider (e : ProviderError)
  | python (e : PyError)
deriving DecidableEq

/-- `retry_if_exception_type(httpx.TransportError)`. -/
def CompletionError.isTransport : CompletionError → Bool
  | httpx (.transport _) => true
  | _ => false

structure Post where
  url : String
  headers : List (String × String)
  json : Dict

structure HttpResponse where
  statusCode : Nat
  text : String
  /-- `resp.json()`; `none` where it raises. -/
  json : Option Json

abbrev Network := List Post → Except HttpxError HttpResponse

/-- A vendor's adapter. -/
structure ChatProvider where
  name : String
  baseUrl : String
  path : String
  headers : List (String × String) := []
  payload : ChatCompletionRequest → Dict
  /-- What `stream` posts; `none` where it is the one of the base class. -/
  streamPayload : Option (ChatCompletionRequest → Dict) := none
  /-- What is read of a vendor's answer; `uuid` and `now` feed the default factories. -/
  parse : String → Int → ChatCompletionRequest → Json → Except PyError ChatCompletionResponse

/-- `base_url.rstrip("/")`. -/
def rstripSlash (url : String) : String := String.ofList (url.toList.rdropWhile (· = '/'))

namespace ChatProvider

section
variable (p : ChatProvider) (network : Network) (uuid : String) (now : Int) (request : ChatCompletionRequest)

def post : Post where
  url := rstripSlash p.baseUrl ++ p.path
  headers := p.headers
  json := p.payload request

/-- What is raised for an answer of 400 and up. -/
def statusError (resp : HttpResponse) : ProviderError where
  message := p.name ++ " returned " ++ toString resp.statusCode ++ ": " ++ String.ofList (resp.text.toList.take 200)
  statusCode := resp.statusCode
  provider := p.name

def read (resp : HttpResponse) : Except CompletionError ChatCompletionResponse :=
  if 400 ≤ resp.statusCode then .error (.provider (p.statusError resp))
  else
    match resp.json with
    | none => .error (.python .valueError)
    | some body => (p.parse uuid now request body).mapError .python

/-- What one try answers, once its post is the last of `sent`. -/
def outcome (sent : List Post) : Except CompletionError ChatCompletionResponse :=
  match network sent with
  | .error e => .error (.httpx e)
  | .ok resp => p.read uuid now request resp

def attempt : List Post → Except CompletionError ChatCompletionResponse × List Post :=
  sending (p.outcome network uuid now request) (p.post request)

/-- `complete`: `stop_after_attempt(3)`. -/
def complete (sent : List Post) : Except CompletionError ChatCompletionResponse × List Post :=
  retry CompletionError.isTransport (p.attempt network uuid now request) 2 sent

/-- All that was posted once `n` posts more are. -/
abbrev sentAfter (sent : List Post) (n : ℕ) : List Post := afterSending (p.post request) sent n

theorem read_error (resp : HttpResponse) (e : CompletionError) (h : p.read uuid now request resp = .error e) :
    (400 ≤ resp.statusCode ∧ e = .provider (p.statusError resp)) ∨
      (resp.statusCode < 400 ∧ ∃ e', e = .python e') := by
  unfold read at h
  by_cases hstatus : 400 ≤ resp.statusCode
  · rw [if_pos hstatus] at h
    exact Or.inl ⟨hstatus, (Except.error.inj h).symm⟩
  · rw [if_neg hstatus] at h
    refine Or.inr ⟨Nat.lt_of_not_le hstatus, ?_⟩
    cases hjson : resp.json with
    | none =>
      rw [hjson] at h
      exact ⟨_, (Except.error.inj h).symm⟩
    | some body =>
      simp only [hjson] at h
      cases hparse : p.parse uuid now request body with
      | error e' =>
        rw [hparse] at h
        exact ⟨e', (Except.error.inj h).symm⟩
      | ok response => rw [hparse] at h; cases h

/-- What is read of an answer is never tried again. -/
theorem isTransport_of_read (resp : HttpResponse) (e : CompletionError)
    (h : p.read uuid now request resp = .error e) : e.isTransport = false := by
  rcases p.read_error uuid now request resp e h with ⟨-, rfl⟩ | ⟨-, e', rfl⟩
  · rfl
  · rfl

theorem outcome_transport (sent : List Post) (e : CompletionError)
    (h : p.outcome network uuid now request sent = .error e) :
    e.isTransport = true ↔ ∃ message, network sent = .error (.transport message) := by
  unfold outcome at h
  cases hn : network sent with
  | error e' =>
    rw [hn] at h
    obtain rfl := Except.error.inj h
    cases e' with
    | transport message => exact ⟨fun _ => ⟨message, rfl⟩, fun _ => rfl⟩
    | other message =>
      constructor
      · intro htransport
        cases (show false = true from htransport)
      · rintro ⟨_, hm⟩
        cases hm
  | ok resp =>
    rw [hn] at h
    rw [p.isTransport_of_read uuid now request resp e h]
    constructor
    · intro htransport
      cases htransport
    · rintro ⟨_, hm⟩
      cases hm

/-- How many posts a call takes: `k + 1`, of three at most; all but the last were lost in
transport, and so was the last if all three were used up and it failed as well. -/
structure Posts (sent : List Post) (k : ℕ) : Prop where
  le : k ≤ 2
  lost : ∀ j < k, ∃ message, network (p.sentAfter request sent (j + 1)) = .error (.transport message)
  heard : k = 2 ∨ ∀ message, network (p.sentAfter request sent (k + 1)) ≠ .error (.transport message)

/-- **Posts of a call.**  The vendor is posted the same request until the transport brings
an answer, three times at most; the answer of the call is the last post's. -/
theorem complete_posts (sent : List Post) :
    ∃ k, p.Posts network request sent k ∧
      p.complete network uuid now request sent =
        (p.outcome network uuid now request (p.sentAfter request sent (k + 1)),
          p.sentAfter request sent (k + 1)) := by
  obtain ⟨k, hsent, hk⟩ := exists_sent CompletionError.isTransport (p.outcome network uuid now request)
    (p.post request) 2 sent
  refine ⟨k, ⟨hsent.le, fun j hj => ?_, hsent.settled.imp_right fun hsettled message hlost => ?_⟩, hk⟩
  · obtain ⟨e, he, hagain⟩ := hsent.failed j hj
    exact (p.outcome_transport network uuid now request _ e he).mp hagain
  · have he : p.outcome network uuid now request (p.sentAfter request sent (k + 1)) =
        .error (.httpx (.transport message)) := by
      unfold outcome
      rw [hlost]
    have hfalse := hsettled _ he
    cases hfalse

end

end ChatProvider

end CachingLayer
