import CachingLayer.Core.Middleware
import CachingLayer.Proxy.Replays
import CachingLayer.Proxy.Sequential

/-!
# Routed requests

The buffered chat endpoint over the provider router: the service calls its completer when
a MISS gets there, the completer posts to the vendor, and errors become replies.  A sampled
HIT begins a validation, which calls the same completer once the request is over.

`completeVia` is `complete` with the completer's answer for its upstream, and while it runs
the completer is called on a MISS only (`completeVia_eq`).  So of one request all is said by
`Routed`: what is replied, what is posted, and what the store keeps (`chat_routed`); and of
requests with the validations between them, who is posted what and how often
(`chats_posted`).
-/

namespace CachingLayer

/-- An error of the completer, as the service lets it through. -/
def CompletionError.asPython : CompletionError → PyError
  | httpx (.transport message) | httpx (.other message) => .external message
  | provider e => .external e.message
  | python e => e

/-- One request to the endpoint. -/
structure Call (E : Type) where
  tenant : String
  request : ChatCompletionRequest
  policy : E
  readings : Readings

inductive ChatReply (F : Type)
  /-- The response dumped, its headers from the result. -/
  | completed (result : ProxyResult F)
  | failed (response : JsonResponse)
  /-- No handler: the server's own 500. -/
  | crashed (e : CompletionError)

namespace ChatReply

variable {F : Type}

def isHit : ChatReply F → Bool
  | completed result => result.cacheStatus = .hit
  | _ => false

def statusCode : ChatReply F → ℕ
  | completed _ => 200
  | failed response => response.statusCode
  | crashed _ => 500

end ChatReply

/-- `_provider_error_handler`. -/
def providerErrorHandler (exc : ProviderError) : JsonResponse where
  content := .obj [("error", .obj [
    ("message", .str exc.message),
    ("type", .str "provider_error"),
    ("provider", .str exc.provider)])]
  statusCode := if exc.statusCode < 500 then exc.statusCode else 502
  headers := []

def replyOf {F : Type} : Except CompletionError (ProxyResult F) → ChatReply F
  | .ok result => .completed result
  | .error (.provider exc) => .failed (providerErrorHandler exc)
  | .error e => .crashed e

namespace ProxyService

section
variable {F E σ : Type} [Field F] [LinearOrder F] (np : Numpy F) (pyd : Pydantic) (svc : ProxyService F E)
  (completer : σ → Except CompletionError ChatCompletionResponse × σ) (call : Call E) (w : World F) (s : σ)

/-- `complete`, its completer a function on a state. -/
def completeVia : Except CompletionError (ProxyResult F) × World F × σ :=
  let request := call.request
  let provider := svc.resolveProvider request
  let signature := svc.requestSignature request call.tenant
  let prompt := request.latestUserPrompt
  let threshold := svc.thresholdFor call.policy request
  let r := call.readings
  match svc.lookup np request call.tenant threshold r w with
  | .error e w => (.error (.python e), w, s)
  | .ok l w =>
    let w := { w with effects := w.effects ++ svc.lookupEffects request call.tenant threshold l }
    match l.served with
    | some best =>
      match ChatCompletionResponse.modelValidate pyd r.uuid r.now best.entry.response with
      | .error e => (.error (.python e), w, s)
      | .ok cached =>
        (.ok {
          response := cached, cacheStatus := .hit, similarityScore := l.score
          cacheLatencyMs := l.latencyMs, provider },
          { w with effects := w.effects ++ recordSavings request cached :: svc.maybeValidate request cached r.sampled }, s)
    | none =>
      let (answer, s) := completer s
      match answer with
      | .error e => (.error e, w, s)
      | .ok response =>
        (.ok {
          response, cacheStatus := .miss, similarityScore := l.score
          cacheLatencyMs := l.latencyMs, provider },
          { store := svc.cacheResponse request signature prompt response r w.store
            effects := w.effects ++ [svc.providerLatency request r.upstreamStarted r.upstreamFinished] }, s)

/-- The lookup finds nothing to serve. -/
def misses : Bool :=
  match svc.cache.lookup np w.store (svc.requestSignature call.request call.tenant) call.request.latestUserPrompt
    (svc.thresholdFor call.policy call.request) call.readings.lookup with
  | .ok (l, _) => l.served.isNone
  | .error _ => false

/-- The request with the upstream's answer given. -/
def completeWith (upstream : Except PyError ChatCompletionResponse) : ProxyM F (ProxyResult F) :=
  svc.complete np pyd call.request call.tenant call.policy upstream call.readings

/-- **Refinement.**  Answer and world are those of `complete`, given what the completer
answers; during the request the completer is called if it is a MISS, and only then. -/
theorem completeVia_eq :
    (svc.completeVia np pyd completer call w s).1.mapError CompletionError.asPython =
        resultOf (svc.completeWith np pyd call ((completer s).1.mapError CompletionError.asPython)) w ∧
      (svc.completeVia np pyd completer call w s).2.1 =
        worldAfter (svc.completeWith np pyd call ((completer s).1.mapError CompletionError.asPython)) w ∧
      (svc.completeVia np pyd completer call w s).2.2 = if svc.misses np call w then (completer s).2 else s := by
  unfold completeVia misses completeWith resultOf worldAfter EStateM.run
  rw [complete_eq]
  simp only [lookup_eq]
  cases svc.cache.lookup np w.store (svc.requestSignature call.request call.tenant) call.request.latestUserPrompt
      (svc.thresholdFor call.policy call.request) call.readings.lookup with
  | error e => exact ⟨rfl, rfl, rfl⟩
  | ok ls =>
    obtain ⟨l, store⟩ := ls
    cases hserved : l.served with
    | some best =>
      simp only [hserved]
      cases ChatCompletionResponse.modelValidate pyd call.readings.uuid call.readings.now best.entry.response <;>
        exact ⟨rfl, rfl, rfl⟩
    | none =>
      simp only [hserved]
      rcases completer s with ⟨_ | response, s'⟩ <;> exact ⟨rfl, rfl, rfl⟩

theorem completeVia_of_served (h : svc.misses np call w = false) :
    (svc.completeVia np pyd completer call w s).2.2 = s ∧
      ((∃ result, (svc.completeVia np pyd completer call w s).1 = .ok result ∧ result.cacheStatus = .hit) ∨
        ∃ e, (svc.completeVia np pyd completer call w s).1 = .error (.python e)) := by
  unfold misses at h
  unfold completeVia
  simp only [lookup_eq]
  cases hl : svc.cache.lookup np w.store (svc.requestSignature call.request call.tenant)
      call.request.latestUserPrompt (svc.thresholdFor call.policy call.request) call.readings.lookup with
  | error e => exact ⟨rfl, Or.inr ⟨e, rfl⟩⟩
  | ok ls =>
    obtain ⟨l, store⟩ := ls
    rw [hl] at h
    cases hserved : l.served with
    | none => simp only [hserved, Option.isNone_none, reduceCtorEq] at h
    | some best =>
      simp only [hserved]
      cases ChatCompletionResponse.modelValidate pyd call.readings.uuid call.readings.now best.entry.response with
      | error e => exact ⟨rfl, Or.inr ⟨e, rfl⟩⟩
      | ok cached => exact ⟨rfl, Or.inl ⟨_, rfl, rfl⟩⟩

/-- What a reply leaves to be replayed: the request, if it was a HIT that is sampled. -/
def replays (reply : ChatReply F) : List ChatCompletionRequest :=
  if reply.isHit ∧ svc.hasValidator ∧ call.readings.sampled then [call.request] else []

omit [Field F] [LinearOrder F] in
theorem replayed_lookupEffects (threshold : Option F) (l : CacheLookup F) :
    (svc.lookupEffects call.request call.tenant threshold l).filterMap Effect.replayed = [] := by
  unfold lookupEffects recordNearMiss
  split <;> rfl

/-- A buffered request begins the validation that its reply says. -/
theorem completeVia_replays :
    w.replaysSince (svc.completeVia np pyd completer call w s).2.1 =
      svc.replays call (replyOf (svc.completeVia np pyd completer call w s).1) := by
  have herror : ∀ e : CompletionError, svc.replays call (replyOf (F := F) (.error e)) = [] := by
    intro e
    cases e <;> rfl
  unfold completeVia World.replaysSince
  simp only [lookup_eq]
  cases svc.cache.lookup np w.store (svc.requestSignature call.request call.tenant) call.request.latestUserPrompt
      (svc.thresholdFor call.policy call.request) call.readings.lookup with
  | error e =>
    simp only [List.drop_length, List.filterMap_nil]
    exact (herror _).symm
  | ok ls =>
    obtain ⟨l, store⟩ := ls
    cases hserved : l.served with
    | some best =>
      simp only [hserved]
      cases ChatCompletionResponse.modelValidate pyd call.readings.uuid call.readings.now best.entry.response with
      | error e =>
        simp only [List.drop_left, replayed_lookupEffects]
        exact (herror _).symm
      | ok cached =>
        simp only [List.append_assoc, List.drop_left, List.filterMap_append, replayed_lookupEffects, List.nil_append]
        unfold replays maybeValidate replyOf ChatReply.isHit
        simp only [decide_true, true_and]
        split <;> rfl
    | none =>
      simp only [hserved]
      rcases completer s with ⟨e | response, s'⟩
      · simp only [List.drop_left, replayed_lookupEffects]
        exact (herror _).symm
      · simp only [List.append_assoc, List.drop_left, List.filterMap_append, replayed_lookupEffects]
        rfl

/-- On a MISS the completer answers, and what it answers is kept as the policy says. -/
theorem completeVia_of_missed (h : svc.misses np call w = true) :
    (svc.completeVia np pyd completer call w s).2.2 = (completer s).2 ∧
      (∀ e, (completer s).1 = .error e → (svc.completeVia np pyd completer call w s).1 = .error e ∧
        (svc.completeVia np pyd completer call w s).2.1.store = w.store) ∧
      ∀ response, (completer s).1 = .ok response → ∃ result,
        (svc.completeVia np pyd completer call w s).1 = .ok result ∧ result.response = response ∧
          result.cacheStatus = .miss ∧ result.provider = svc.resolveProvider call.request ∧
          (svc.completeVia np pyd completer call w s).2.1.store =
            svc.cacheResponse call.request (svc.requestSignature call.request call.tenant)
              call.request.latestUserPrompt response call.readings w.store := by
  unfold misses at h
  unfold completeVia
  simp only [lookup_eq]
  cases hl : svc.cache.lookup np w.store (svc.requestSignature call.request call.tenant)
      call.request.latestUserPrompt (svc.thresholdFor call.policy call.request) call.readings.lookup with
  | error e => simp only [hl, reduceCtorEq] at h
  | ok ls =>
    obtain ⟨l, store⟩ := ls
    rw [hl] at h
    have hserved : l.served = none := Option.isNone_iff_eq_none.mp h
    obtain ⟨found, -, -, hstore⟩ := svc.cache.lookup_ok np _ _ _ _ _ _ l hl
    rw [hserved] at hstore
    obtain rfl := hstore
    simp only [hserved]
    rcases completer s with ⟨_ | response, s'⟩
    · refine ⟨rfl, fun e he => ?_, fun response hresponse => by cases hresponse⟩
      obtain rfl := Except.error.inj he
      exact ⟨rfl, rfl⟩
    · refine ⟨rfl, fun e he => (by cases he), fun response' hresponse => ?_⟩
      obtain rfl := Except.ok.inj hresponse
      exact ⟨_, rfl, rfl, rfl, rfl, rfl⟩

end

/-! ## The endpoint -/

section
variable {F E : Type} [Field F] [LinearOrder F] (np : Numpy F) (u : Unicode) (fl : FloatSums) (pyd : Pydantic)
  (svc : ProxyService F E) (settings : Settings) (network : Network)

/-- `chat_completions`, buffered, over the router that is built. -/
def chat (call : Call E) (w : World F) (sent : List Post) : ChatReply F × World F × List Post :=
  let out := svc.completeVia np pyd
    ((buildRouter fl pyd settings).complete u call.request network call.readings.uuid call.readings.now) call w sent
  (replyOf out.1, out.2)

/-- What becomes of a request when its vendor is asked, and when not. -/
inductive Routed (call : Call E) (w : World F) (sent : List Post) : ChatReply F → World F → List Post → Prop
  | served (result : ProxyResult F) (w' : World F) (hit : result.cacheStatus = .hit) :
    Routed call w sent (.completed result) w' sent
  /-- The lookup raises, or the entry cannot be read. -/
  | unserved (e : PyError) (w' : World F) : Routed call w sent (.crashed (.python e)) w' sent
  | answered (p : ChatProvider) (k : ℕ) (picked : Picks u fl pyd settings call.request p)
      (posts : p.Posts network call.request sent k) (resp : HttpResponse)
      (heard : network (p.sentAfter call.request sent (k + 1)) = .ok resp) (result : ProxyResult F)
      (read : p.read call.readings.uuid call.readings.now call.request resp = .ok result.response)
      (miss : result.cacheStatus = .miss) (provider : result.provider = p.name) (w' : World F)
      (kept : w'.store = svc.cacheResponse call.request (svc.requestSignature call.request call.tenant)
        call.request.latestUserPrompt result.response call.readings w.store) :
    Routed call w sent (.completed result) w' (p.sentAfter call.request sent (k + 1))
  /-- The vendor answers 400 or more. -/
  | refused (p : ChatProvider) (k : ℕ) (picked : Picks u fl pyd settings call.request p)
      (posts : p.Posts network call.request sent k) (resp : HttpResponse)
      (heard : network (p.sentAfter call.request sent (k + 1)) = .ok resp) (status : 400 ≤ resp.statusCode)
      (w' : World F) (kept : w'.store = w.store) :
    Routed call w sent (.failed (providerErrorHandler (p.statusError resp))) w'
      (p.sentAfter call.request sent (k + 1))
  /-- The transport fails three times, `httpx` raises otherwise, or an answer below 400
  cannot be read. -/
  | broken (p : ChatProvider) (k : ℕ) (picked : Picks u fl pyd settings call.request p)
      (posts : p.Posts network call.request sent k) (e : CompletionError)
      (lost : (k = 2 ∧ ∃ message, e = .httpx (.transport message)) ∨ (∃ message, e = .httpx (.other message)) ∨
        ∃ resp e', network (p.sentAfter call.request sent (k + 1)) = .ok resp ∧ resp.statusCode < 400 ∧
          e = .python e')
      (w' : World F) (kept : w'.store = w.store) :
    Routed call w sent (.crashed e) w' (p.sentAfter call.request sent (k + 1))

/-- **One request.**  Behind the router that names its namespaces, every request is served
from the cache and nothing is posted; or fails before anything is; or misses, and what is
replied and kept comes of the one vendor its model routes to. -/
theorem chat_routed (hwired : svc.resolveProvider = (buildRouter fl pyd settings).resolveProvider u) (call : Call E)
    (w : World F) (sent : List Post) :
    svc.Routed u fl pyd settings network call w sent (svc.chat np u fl pyd settings network call w sent).1
      (svc.chat np u fl pyd settings network call w sent).2.1
      (svc.chat np u fl pyd settings network call w sent).2.2 := by
  obtain ⟨p, k, hp, hname, hposts, hcomplete⟩ := buildRouter_complete u fl pyd settings call.request network
    call.readings.uuid call.readings.now sent
  have hchat : svc.chat np u fl pyd settings network call w sent =
      (replyOf (svc.completeVia np pyd ((buildRouter fl pyd settings).complete u call.request network
        call.readings.uuid call.readings.now) call w sent).1,
        (svc.completeVia np pyd ((buildRouter fl pyd settings).complete u call.request network call.readings.uuid
          call.readings.now) call w sent).2) := rfl
  rw [hchat]
  generalize hcompleter : (buildRouter fl pyd settings).complete u call.request network call.readings.uuid
    call.readings.now = completer
  rw [hcompleter] at hcomplete
  cases hmisses : svc.misses np call w with
  | false =>
    obtain ⟨hsent, ⟨result, hresult, hhit⟩ | ⟨e, herror⟩⟩ := svc.completeVia_of_served np pyd completer call w sent
      hmisses
    · rw [hsent, hresult]
      exact .served result _ hhit
    · rw [hsent, herror]
      exact .unserved e _
  | true =>
    obtain ⟨hsent, hfails, hanswers⟩ := svc.completeVia_of_missed np pyd completer call w sent hmisses
    rw [hcomplete] at hsent hfails hanswers
    rw [hsent]
    cases hout : p.outcome network call.readings.uuid call.readings.now call.request
        (p.sentAfter call.request sent (k + 1)) with
    | ok response =>
      obtain ⟨result, hresult, rfl, hmiss, hprovider, hkept⟩ := hanswers response hout
      rw [hresult]
      have hown : result.provider = p.name := by rw [hprovider, hwired, hname]
      unfold ChatProvider.outcome at hout
      split at hout
      · cases hout
      · next resp hheard => exact .answered p k hp hposts resp hheard result hout hmiss hown _ hkept
    | error e =>
      obtain ⟨hresult, hkept⟩ := hfails e hout
      rw [hresult]
      unfold ChatProvider.outcome at hout
      split at hout
      · next e' hlost =>
        obtain rfl := Except.error.inj hout
        refine .broken p k hp hposts _ ?_ _ hkept
        cases e' with
        | other message => exact Or.inr (Or.inl ⟨message, rfl⟩)
        | transport message => exact Or.inl ⟨hposts.heard.resolve_right fun h => h message hlost, message, rfl⟩
      · next resp hheard =>
        rcases p.read_error _ _ _ resp e hout with ⟨hstatus, rfl⟩ | ⟨hstatus, e', rfl⟩
        · exact .refused p k hp hposts resp hheard hstatus _ hkept
        · exact .broken p k hp hposts _ (Or.inr (Or.inr ⟨resp, e', hheard, hstatus, rfl⟩)) _ hkept

/-- Requests one after another, and validations of theirs between them. -/
def chats (s : ProxyState F) (actions : List (ProxyAction (Call E))) :
    List (Happened (Call E) (ChatReply F)) × ProxyState F :=
  s.traffic u (buildRouter fl pyd settings) network (svc.chat np u fl pyd settings network) actions

/-- What was posted: nothing while a HIT is served; for any other request, and for a
validation, the same three times at most, to the vendor its model routes to.  A request that
fails is told a 4xx or a 502 if the vendor refused it, and a 500 if not. -/
structure Posted (happened : Happened (Call E) (ChatReply F)) (block : List Post) : Prop where
  length_le : block.length ≤ 3
  hit : ∀ reply ∈ happened.reply, reply.isHit = true → block = []
  own : ∃ p, Picks u fl pyd settings (happened.asks Call.request) p ∧
    p.name = (buildRouter fl pyd settings).resolveProvider u (happened.asks Call.request) ∧
    ∀ post ∈ block, post = p.post (happened.asks Call.request)
  status : ∀ reply ∈ happened.reply,
    (∃ result, reply = .completed result) ∧ reply.statusCode = 200 ∨
    (∃ response, reply = .failed response) ∧
      (400 ≤ reply.statusCode ∧ reply.statusCode < 500 ∨ reply.statusCode = 502) ∨
    (∃ e, reply = .crashed e) ∧ reply.statusCode = 500

variable {np u fl pyd svc settings network}

theorem ownPosts (request : ChatCompletionRequest) (p : ChatProvider) (hp : Picks u fl pyd settings request p) (n : ℕ) :
    ∃ q, Picks u fl pyd settings request q ∧ q.name = (buildRouter fl pyd settings).resolveProvider u request ∧
      ∀ post ∈ List.replicate n (p.post request), post = q.post request := by
  obtain ⟨own, hown, hname⟩ := buildRouter_providerFor u fl pyd settings request
  obtain rfl : p = own := Except.ok.inj (hp.symm.trans hown)
  exact ⟨p, hp, hname, fun post hmem => List.eq_of_mem_replicate hmem⟩

omit [Field F] [LinearOrder F] in
theorem Routed.posted (call : Call E) (w w' : World F) (sent sent' : List Post) (reply : ChatReply F)
    (h : svc.Routed u fl pyd settings network call w sent reply w' sent') :
    ∃ block, sent' = sent ++ block ∧ Posted u fl pyd settings (.replied call reply) block := by
  obtain ⟨own, hown, -⟩ := buildRouter_providerFor u fl pyd settings call.request
  cases h with
  | served result _ hit =>
    refine ⟨[], (List.append_nil sent).symm, by simp, fun _ _ _ => rfl, ownPosts _ own hown 0, ?_⟩
    rintro _ ⟨⟩
    exact Or.inl ⟨⟨result, rfl⟩, rfl⟩
  | unserved e _ =>
    refine ⟨[], (List.append_nil sent).symm, by simp, fun _ _ _ => rfl, ownPosts _ own hown 0, ?_⟩
    rintro _ ⟨⟩
    exact Or.inr (Or.inr ⟨⟨_, rfl⟩, rfl⟩)
  | answered p k picked posts resp heard result read miss provider _ kept =>
    refine ⟨_, rfl, ?_, ?_, ownPosts _ p picked (k + 1), ?_⟩
    · rw [List.length_replicate]
      exact Nat.succ_le_succ posts.le
    · rintro _ ⟨⟩ hhit
      have hstatus : result.cacheStatus = .hit := of_decide_eq_true hhit
      rw [miss] at hstatus
      cases hstatus
    · rintro _ ⟨⟩
      exact Or.inl ⟨⟨result, rfl⟩, rfl⟩
  | refused p k picked posts resp heard status _ kept =>
    refine ⟨_, rfl, ?_, ?_, ownPosts _ p picked (k + 1), ?_⟩
    · rw [List.length_replicate]
      exact Nat.succ_le_succ posts.le
    · rintro _ ⟨⟩ hhit
      cases hhit
    · rintro _ ⟨⟩
      refine Or.inr (Or.inl ⟨⟨_, rfl⟩, ?_⟩)
      show (400 ≤ ite (resp.statusCode < 500) _ _ ∧ ite (resp.statusCode < 500) _ _ < 500) ∨
        ite (resp.statusCode < 500) _ _ = 502
      by_cases hgateway : resp.statusCode < 500
      · rw [if_pos hgateway]
        exact Or.inl ⟨status, hgateway⟩
      · rw [if_neg hgateway]
        exact Or.inr rfl
  | broken p k picked posts e lost _ kept =>
    refine ⟨_, rfl, ?_, ?_, ownPosts _ p picked (k + 1), ?_⟩
    · rw [List.length_replicate]
      exact Nat.succ_le_succ posts.le
    · rintro _ ⟨⟩ hhit
      cases hhit
    · rintro _ ⟨⟩
      exact Or.inr (Or.inr ⟨⟨e, rfl⟩, rfl⟩)

variable (np u fl pyd svc settings network) in
/-- Its posts are a block, and it begins what its reply says. -/
theorem chat_served (hwired : svc.resolveProvider = (buildRouter fl pyd settings).resolveProvider u) (call : Call E)
    (w : World F) (sent : List Post) :
    ∃ block, (svc.chat np u fl pyd settings network call w sent).2.2 = sent ++ block ∧
      svc.Routed u fl pyd settings network call w sent (svc.chat np u fl pyd settings network call w sent).1
        (svc.chat np u fl pyd settings network call w sent).2.1 (sent ++ block) ∧
      w.replaysSince (svc.chat np u fl pyd settings network call w sent).2.1 =
        svc.replays call (svc.chat np u fl pyd settings network call w sent).1 := by
  have hrouted := svc.chat_routed np u fl pyd settings network hwired call w sent
  obtain ⟨block, hblock, -⟩ := hrouted.posted
  exact ⟨block, hblock, hblock ▸ hrouted, svc.completeVia_replays np pyd _ call w sent⟩

omit [Field F] [LinearOrder F] in
/-- What is posted in a turn. -/
theorem posted_turn (s s' : ProxyState F) (happened : Happened (Call E) (ChatReply F)) (block : List Post)
    (turn : Turn u fl pyd settings network (svc.Routed u fl pyd settings network) svc.replays s happened block s') :
    Posted u fl pyd settings happened block := by
  cases turn with
  | replied call reply w block served =>
    obtain ⟨block', hblock, hposted⟩ := served.posted
    obtain rfl := List.append_cancel_left hblock
    exact hposted
  | validated i request waits p picked k posts =>
    refine ⟨?_, ?_, ownPosts request p picked (k + 1), ?_⟩
    · rw [List.length_replicate]
      exact Nat.succ_le_succ posts.le
    · rintro _ ⟨⟩
    · rintro _ ⟨⟩

end

/-- The transport fails once, and the vendor answers; then it is down, and at last cannot
be reached. -/
def failingNetwork : Network := fun sent =>
  if sent.length = 2 then .ok { statusCode := 200, text := "", json := some (.obj framedText.modelDump) }
  else if sent.length = 3 ∨ sent.length = 4 then .ok { statusCode := 503, text := "down", json := none }
  else .error (.transport "connect")

def routedService : ProxyService ℚ Unit :=
  { plainService with
    resolveProvider := (buildRouter .exact .strict defaultSettings).resolveProvider .ascii, hasValidator := true }

def oceanCall : Call Unit := { tenant := "team", request := oceanRequest, policy := (), readings := someReadings }

/-- A MISS, a HIT that is sampled, the validation it begins, and two requests of another
tenant's. -/
def oceanTraffic : List (ProxyAction (Call Unit)) := [
  .call oceanCall,
  .call { oceanCall with readings := { someReadings with sampled := true } },
  .validate 0 "0123456789abcdef0123456789abcdef" 1700000000,
  .call { oceanCall with tenant := "rival" },
  .call { oceanCall with tenant := "rival" }]

end ProxyService

end CachingLayer
