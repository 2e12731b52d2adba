import CachingLayer.Providers.Streams
import CachingLayer.Proxy.Routed

/-!
# Routed streams

The whole chat endpoint over the provider router: buffered requests as in `Routed`, and
streaming ones, whose body calls the upstream once the headers are out.  So what a vendor
refuses is a broken body, not a status; and what is asked for as a stream is asked for once.
A streamed HIT begins no validation.

Of one streaming request all is said by `StreamRouted` (`stream_routed`), and of requests of
both kinds with the validations between them, who is posted what and how often
(`completions_posted`).
-/

namespace CachingLayer

open Text

/-- One request to the endpoint, and its client. -/
structure ClientCall (E : Type) extends Call E where
  /-- What is read once the body runs. -/
  bodyReadings : Readings
  /-- The chunks the client stays for; all of them if there is no number. -/
  stays : Option ℕ := none

inductive EndpointReply (F : Type)
  | buffered (reply : ChatReply F)
  /-- The headers, and the body run. -/
  | streamed (result : StreamResult F) (body : BodyRun F)
  | crashed (e : PyError)

def EndpointReply.isHit {F : Type} : EndpointReply F → Bool
  | buffered reply => reply.isHit
  | streamed result _ => result.cacheStatus = .hit
  | crashed _ => false

namespace Upstream

variable (up : Upstream)

/-- What a body that runs to the end gets of a stream. -/
def whole : List Bytes × StreamEnd :=
  (up.chunks,
    match up.result with
    | .ok () => .ended
    | .error e => .raised e.asPython)

/-- What a body gets whose client stays for so many chunks. -/
def consumed : Option ℕ → List Bytes × StreamEnd
  | some k => if k ≤ up.chunks.length then (up.chunks.take k, .abandoned) else up.whole
  | none => up.whole

theorem consumed_prefix (stays : Option ℕ) : (up.consumed stays).1 <+: up.chunks := by
  cases stays with
  | none => exact List.prefix_refl _
  | some k =>
    show (ite (k ≤ up.chunks.length) _ up.whole).1 <+: _
    by_cases hk : k ≤ up.chunks.length
    · rw [if_pos hk]
      exact List.take_prefix k up.chunks
    · rw [if_neg hk]
      exact List.prefix_refl _

/-- A body gets to the end of a stream that has one, and whose client stays. -/
theorem consumed_ended (stays : Option ℕ) (h : (up.consumed stays).2 = .ended) :
    up.result = .ok () ∧ (∀ k ∈ stays, up.chunks.length < k) ∧ (up.consumed stays).1 = up.chunks := by
  have hwhole : up.whole.2 = .ended → up.result = .ok () := by
    intro hend
    unfold whole at hend
    cases hresult : up.result with
    | ok _ => rfl
    | error e => rw [hresult] at hend; cases hend
  cases stays with
  | none => exact ⟨hwhole h, fun _ hk => (nomatch hk), rfl⟩
  | some k =>
    change (ite (k ≤ up.chunks.length) _ up.whole).2 = _ at h
    show _ ∧ _ ∧ (ite (k ≤ up.chunks.length) _ up.whole).1 = _
    by_cases hk : k ≤ up.chunks.length
    · rw [if_pos hk] at h
      cases h
    · rw [if_neg hk] at h ⊢
      refine ⟨hwhole h, fun k' hk' => ?_, rfl⟩
      obtain rfl := Option.some.inj hk'
      omega

end Upstream

namespace ProxyService

section
variable {F E σ : Type} [Field F] [LinearOrder F] (np : Numpy F) (oj : Orjson) (pyd : Pydantic)
  (svc : ProxyService F E)

/-- What a body yields is a prefix of what it is given. -/
theorem forward_prefix (a : StreamAssembler) (chunks : List Bytes) : (forward oj a chunks).1 <+: chunks := by
  induction chunks generalizing a with
  | nil => exact List.prefix_refl _
  | cons c chunks ih =>
    unfold forward
    cases a.push oj c with
    | error e => exact List.nil_prefix
    | ok a' => exact (List.prefix_cons_inj c).mpr (ih a')

omit [Field F] [LinearOrder F] in
theorem missBody_prefix (request : ChatCompletionRequest) (signature : RequestSignature) (prompt : String)
    (chunks : List Bytes) (fin : StreamEnd) (r : Readings) (w : World F) :
    (svc.missBody oj pyd request signature prompt chunks fin r w).yielded <+: chunks := by
  have hforward := forward_prefix oj (.new request.model) chunks
  unfold missBody
  simp only []
  split
  · exact hforward
  · exact hforward
  · exact hforward
  · split
    · exact hforward
    · split
      · exact hforward
      · exact hforward

/-- `stream` and its body, the completer's stream a function on a state. -/
def streamVia (upstream : σ → Upstream × σ) (call : ClientCall E) (w : World F) (s : σ) :
    EndpointReply F × World F × σ :=
  match svc.stream np oj pyd call.request call.tenant call.policy call.readings w with
  | .error e w => (.crashed e, w, s)
  | .ok result w =>
    match result.body with
    | .hit chunks =>
      let yielded := (call.stays.map chunks.take).getD chunks
      (.streamed result { yielded, result := .ok (), world := w }, w, s)
    | .miss request signature prompt =>
      let (up, s) := upstream s
      let (chunks, fin) := up.consumed call.stays
      let run := svc.runBody oj pyd chunks fin call.bodyReadings w (.miss request signature prompt)
      (.streamed result run, run.world, s)

end

section
variable {F E : Type} [Field F] [LinearOrder F] (np : Numpy F) (u : Unicode) (fl : FloatSums) (oj : Orjson)
  (pyd : Pydantic) (svc : ProxyService F E) (settings : Settings) (network : Network) (streams : StreamNetwork)

/-- `chat_completions`, over the router that is built. -/
def chatCompletions (call : ClientCall E) (w : World F) (sent : List Post) :
    EndpointReply F × World F × List Post :=
  if call.request.stream then
    svc.streamVia np oj pyd ((buildRouter fl pyd settings).stream u call.request network streams oj
      call.readings.uuid call.readings.now) call w sent
  else
    let out := svc.chat np u fl pyd settings network call.toCall w sent
    (.buffered out.1, out.2)

/-- What becomes of a streaming request. -/
inductive StreamRouted (call : ClientCall E) (w : World F) (sent : List Post) :
    EndpointReply F → World F → List Post → Prop
  | served (result : StreamResult F) (hit : result.cacheStatus = .hit) (cached : ChatCompletionResponse)
      (body : BodyRun F) (yielded : body.yielded <+: responseToSse oj cached) (w' : World F) :
    StreamRouted call w sent (.streamed result body) w' sent
  /-- The lookup raises, or the entry cannot be read. -/
  | unserved (e : PyError) (w' : World F) : StreamRouted call w sent (.crashed e) w' sent
  /-- The vendor's chunks are passed on.  What they make up is kept when the stream got to
  its end, and the client as well. -/
  | relayed (p : ChatProvider) (picked : Picks u fl pyd settings call.request p) (up : Upstream) (sent' : List Post)
      (posted : p.Streams network streams oj call.readings.uuid call.readings.now call.request sent up sent')
      (result : StreamResult F) (miss : result.cacheStatus = .miss) (provider : result.provider = p.name)
      (body : BodyRun F) (yielded : body.yielded <+: up.chunks) (w' : World F)
      (kept : w'.store = w.store ∨ up.result = .ok () ∧ (∀ k ∈ call.stays, up.chunks.length < k) ∧
        ∃ response, Assembles oj pyd call.request.model up.chunks call.bodyReadings.uuid call.bodyReadings.now
            response ∧
          w'.store = svc.cacheResponse call.request (svc.requestSignature call.request call.tenant)
                call.request.latestUserPrompt response call.bodyReadings w.store) :
    StreamRouted call w sent (.streamed result body) w' sent'

omit [Field F] [LinearOrder F] in
/-- A body keeps what it assembled to the end, or nothing. -/
theorem missBody_kept (request : ChatCompletionRequest) (signature : RequestSignature) (prompt : String)
    (up : Upstream) (stays : Option ℕ) (r : Readings) (w : World F) :
    (svc.missBody oj pyd request signature prompt (up.consumed stays).1 (up.consumed stays).2 r w).world = w ∨
      up.result = .ok () ∧ (∀ k ∈ stays, up.chunks.length < k) ∧
        ∃ response, Assembles oj pyd request.model up.chunks r.uuid r.now response ∧
          (svc.missBody oj pyd request signature prompt (up.consumed stays).1 (up.consumed stays).2 r w).world =
            { w with store := svc.cacheResponse request signature prompt response r w.store } := by
  by_cases h : (up.consumed stays).2 = .ended ∧
      ∃ response, Assembles oj pyd request.model (up.consumed stays).1 r.uuid r.now response
  · obtain ⟨hended, response, hwhole⟩ := h
    obtain ⟨hresult, hstays, hchunks⟩ := up.consumed_ended stays hended
    refine Or.inr ⟨hresult, hstays, response, hchunks ▸ hwhole, ?_⟩
    rw [hended, svc.missBody_assembles oj pyd request signature prompt _ r w response hwhole]
  · exact Or.inl (svc.missBody_not_assembles oj pyd request signature prompt _ r w _ h)

/-- **One streaming request.**  It is served from the cache, or fails before its body, and
nothing is posted; or its body passes on what the one vendor its model routes to gives. -/
theorem stream_routed (hwired : svc.resolveProvider = (buildRouter fl pyd settings).resolveProvider u)
    (call : ClientCall E) (hstream : call.request.stream = true) (w : World F) (sent : List Post) :
    svc.StreamRouted u fl oj pyd settings network streams call w sent
      (svc.chatCompletions np u fl oj pyd settings network streams call w sent).1
      (svc.chatCompletions np u fl oj pyd settings network streams call w sent).2.1
      (svc.chatCompletions np u fl oj pyd settings network streams call w sent).2.2 := by
  obtain ⟨p, hp, hname, hposted⟩ := buildRouter_stream u fl pyd settings call.request network streams oj
    call.readings.uuid call.readings.now sent
  unfold chatCompletions
  rw [if_pos hstream]
  unfold streamVia
  rw [stream_eq]
  generalize (buildRouter fl pyd settings).stream u call.request network streams oj call.readings.uuid
    call.readings.now = upstream at hposted
  cases hl : svc.cache.lookup np w.store (svc.requestSignature call.request call.tenant)
      call.request.latestUserPrompt (svc.thresholdFor call.policy call.request) call.readings.lookup with
  | error e => exact .unserved e _
  | ok ls =>
    obtain ⟨l, store⟩ := ls
    obtain ⟨found, -, -, hstore⟩ := svc.cache.lookup_ok np _ _ _ _ _ _ l hl
    cases hserved : l.served with
    | some best =>
      simp only [hserved]
      cases ChatCompletionResponse.modelValidate pyd call.readings.uuid call.readings.now best.entry.response with
      | error e => exact .unserved e _
      | ok cached =>
        refine .served _ rfl cached _ ?_ _
        show (call.stays.map (responseToSse oj cached).take).getD (responseToSse oj cached) <+: _
        cases call.stays with
        | none => exact List.prefix_refl _
        | some k => exact List.take_prefix k _
    | none =>
      rw [hserved] at hstore
      obtain rfl := hstore
      simp only [hserved]
      refine .relayed p hp _ _ hposted _ rfl ?_ _ ?_ _ ?_
      · show svc.resolveProvider call.request = p.name
        rw [hwired, hname]
      · exact (svc.missBody_prefix oj pyd _ _ _ _ _ _ _).trans (Upstream.consumed_prefix _ _)
      · rcases svc.missBody_kept oj pyd call.request (svc.requestSignature call.request call.tenant)
            call.request.latestUserPrompt (upstream sent).1 call.stays call.bodyReadings { w with
              effects := w.effects ++ svc.lookupEffects call.request call.tenant
                (svc.thresholdFor call.policy call.request) l } with
          hworld | ⟨hresult, hstays, response, hwhole, hworld⟩
        · have hstore := congrArg World.store hworld
          exact Or.inl hstore
        · have hstore := congrArg World.store hworld
          exact Or.inr ⟨hresult, hstays, response, hwhole, hstore⟩

/-! ## Runs -/

/-- What is posted when a request is posted: for a stream, where the vendor gives any. -/
def postFor (p : ChatProvider) (request : ChatCompletionRequest) : Post :=
  match p.streamPayload with
  | some payload => if request.stream then p.streamPost request payload else p.post request
  | none => p.post request

/-- How often a request may be posted: a stream once, a completion three times. -/
def tries (p : ChatProvider) (request : ChatCompletionRequest) : ℕ :=
  if request.stream ∧ p.streamPayload.isSome then 1 else 3

/-- What is posted, and how often it may be; a validation asks for a completion. -/
def happenedPost (p : ChatProvider) : Happened (ClientCall E) (EndpointReply F) → Post × ℕ
  | .replied call _ => (postFor p call.request, tries p call.request)
  | .validated request => (p.post request, 3)

/-- What was posted: nothing while a HIT is served; for any other request, and for a
validation, the same, to the vendor its model routes to, as often as it may be. -/
structure PostedFor (happened : Happened (ClientCall E) (EndpointReply F)) (block : List Post) : Prop where
  hit : ∀ reply ∈ happened.reply, reply.isHit = true → block = []
  own : ∃ p, Picks u fl pyd settings (happened.asks fun call => call.request) p ∧
    p.name = (buildRouter fl pyd settings).resolveProvider u (happened.asks fun call => call.request) ∧
    (∀ post ∈ block, post = (happenedPost p happened).1) ∧ block.length ≤ (happenedPost p happened).2

/-- What a reply leaves to be replayed: of a stream nothing. -/
def endpointReplays (call : ClientCall E) : EndpointReply F → List ChatCompletionRequest
  | .buffered reply => svc.replays call.toCall reply
  | .streamed _ _ | .crashed _ => []

/-- What becomes of a request. -/
def EndpointRouted (call : ClientCall E) (w : World F) (sent : List Post) (reply : EndpointReply F) (w' : World F)
    (sent' : List Post) : Prop :=
  if call.request.stream then svc.StreamRouted u fl oj pyd settings network streams call w sent reply w' sent'
  else ∃ reply', reply = .buffered reply' ∧ svc.Routed u fl pyd settings network call.toCall w sent reply' w' sent'

theorem completion_routed (hwired : svc.resolveProvider = (buildRouter fl pyd settings).resolveProvider u)
    (call : ClientCall E) (w : World F) (sent : List Post) :
    svc.EndpointRouted u fl oj pyd settings network streams call w sent
      (svc.chatCompletions np u fl oj pyd settings network streams call w sent).1
      (svc.chatCompletions np u fl oj pyd settings network streams call w sent).2.1
      (svc.chatCompletions np u fl oj pyd settings network streams call w sent).2.2 := by
  unfold EndpointRouted
  cases hstream : call.request.stream with
  | true =>
    rw [if_pos rfl]
    exact svc.stream_routed np u fl oj pyd settings network streams hwired call hstream w sent
  | false =>
    have hchat : svc.chatCompletions np u fl oj pyd settings network streams call w sent =
        (.buffered (svc.chat np u fl pyd settings network call.toCall w sent).1,
          (svc.chat np u fl pyd settings network call.toCall w sent).2) := by
      unfold chatCompletions
      rw [if_neg (by rw [hstream]; decide)]
    rw [if_neg (by decide), hchat]
    exact ⟨_, rfl, svc.chat_routed np u fl pyd settings network hwired call.toCall w sent⟩

omit [Field F] [LinearOrder F] in
theorem missBody_effects (request : ChatCompletionRequest) (signature : RequestSignature) (prompt : String)
    (up : Upstream) (stays : Option ℕ) (r : Readings) (w : World F) :
    (svc.missBody oj pyd request signature prompt (up.consumed stays).1 (up.consumed stays).2 r w).world.effects =
      w.effects := by
  rcases svc.missBody_kept oj pyd request signature prompt up stays r w with hworld | ⟨-, -, response, -, hworld⟩
  · rw [hworld]
  · rw [hworld]

/-- A streaming request begins no validation, whether it is a HIT or not. -/
theorem streamVia_replays {σ : Type} (upstream : σ → Upstream × σ) (call : ClientCall E) (w : World F) (s : σ) :
    w.replaysSince (svc.streamVia np oj pyd upstream call w s).2.1 = [] ∧
      svc.endpointReplays call (svc.streamVia np oj pyd upstream call w s).1 = [] := by
  unfold streamVia World.replaysSince
  rw [stream_eq]
  cases svc.cache.lookup np w.store (svc.requestSignature call.request call.tenant)
      call.request.latestUserPrompt (svc.thresholdFor call.policy call.request) call.readings.lookup with
  | error e =>
    simp only [List.drop_length, List.filterMap_nil]
    exact ⟨trivial, rfl⟩
  | ok ls =>
    obtain ⟨l, store⟩ := ls
    cases hserved : l.served with
    | some best =>
      simp only [hserved]
      cases ChatCompletionResponse.modelValidate pyd call.readings.uuid call.readings.now best.entry.response with
      | error e =>
        simp only [List.drop_left, svc.replayed_lookupEffects call.toCall]
        exact ⟨trivial, rfl⟩
      | ok cached =>
        simp only [List.append_assoc, List.drop_left, List.filterMap_append, svc.replayed_lookupEffects call.toCall]
        exact ⟨rfl, rfl⟩
    | none =>
      simp only [hserved, runBody, missBody_effects, List.drop_left, svc.replayed_lookupEffects call.toCall]
      exact ⟨trivial, rfl⟩

theorem completion_replays (call : ClientCall E) (w : World F) (sent : List Post) :
    w.replaysSince (svc.chatCompletions np u fl oj pyd settings network streams call w sent).2.1 =
      svc.endpointReplays call (svc.chatCompletions np u fl oj pyd settings network streams call w sent).1 := by
  unfold chatCompletions
  by_cases hstream : call.request.stream = true
  · rw [if_pos hstream]
    obtain ⟨hbegun, hreplays⟩ := svc.streamVia_replays np oj pyd ((buildRouter fl pyd settings).stream u call.request
      network streams oj call.readings.uuid call.readings.now) call w sent
    rw [hbegun, hreplays]
  · rw [if_neg hstream]
    exact svc.completeVia_replays np pyd _ call.toCall w sent

/-- Requests one after another, and validations of theirs between them. -/
def completions (s : ProxyState F) (actions : List (ProxyAction (ClientCall E))) :
    List (Happened (ClientCall E) (EndpointReply F)) × ProxyState F :=
  s.traffic u (buildRouter fl pyd settings) network
    (svc.chatCompletions np u fl oj pyd settings network streams) actions

variable {np u fl oj pyd svc settings network streams}

omit [Field F] [LinearOrder F] in
/-- What a stream posts is a block of the one post. -/
theorem postFor_of_streams (p : ChatProvider) (request : ChatCompletionRequest) (hstream : request.stream = true)
    (uuid : String) (now : Int) (sent sent' : List Post) (up : Upstream)
    (h : p.Streams network streams oj uuid now request sent up sent') :
    ∃ n, sent' = sent ++ List.replicate n (postFor p request) ∧ n ≤ tries p request := by
  have hnative : ∀ payload, p.streamPayload = some payload →
      [p.streamPost request payload] = List.replicate 1 (postFor p request) ∧ 1 ≤ tries p request := by
    intro payload hp
    unfold postFor tries
    rw [hp, hstream]
    exact ⟨rfl, le_rfl⟩
  have hbuffers : p.streamPayload = none → ∀ k ≤ 2,
      p.sentAfter request sent (k + 1) = sent ++ List.replicate (k + 1) (postFor p request) ∧
        k + 1 ≤ tries p request := by
    intro hp k hk
    unfold postFor tries ChatProvider.sentAfter
    rw [hp]
    refine ⟨rfl, ?_⟩
    simp
    omega
  cases h with
  | unanswered payload native e lost =>
    obtain ⟨hblock, hle⟩ := hnative payload native
    exact ⟨1, by rw [hblock], hle⟩
  | relayed payload native resp heard =>
    obtain ⟨hblock, hle⟩ := hnative payload native
    exact ⟨1, by rw [hblock], hle⟩
  | buffered buffers k posts response completed =>
    obtain ⟨hblock, hle⟩ := hbuffers buffers k posts.le
    exact ⟨k + 1, hblock, hle⟩
  | failed buffers k posts e raised =>
    obtain ⟨hblock, hle⟩ := hbuffers buffers k posts.le
    exact ⟨k + 1, hblock, hle⟩

omit [Field F] [LinearOrder F] in
theorem EndpointRouted.posted (call : ClientCall E) (w w' : World F) (sent sent' : List Post)
    (reply : EndpointReply F) (h : svc.EndpointRouted u fl oj pyd settings network streams call w sent reply w' sent') :
    ∃ block, sent' = sent ++ block ∧ PostedFor u fl pyd settings (.replied call reply) block := by
  obtain ⟨own, hown, hname⟩ := buildRouter_providerFor u fl pyd settings call.request
  have hnone : PostedFor u fl pyd settings (.replied call reply) [] :=
    ⟨fun _ _ _ => rfl, own, hown, hname, fun _ hmem => (nomatch hmem), Nat.zero_le _⟩
  unfold EndpointRouted at h
  cases hstream : call.request.stream with
  | true =>
    rw [hstream, if_pos rfl] at h
    cases h with
    | served => exact ⟨[], (List.append_nil sent).symm, hnone⟩
    | unserved => exact ⟨[], (List.append_nil sent).symm, hnone⟩
    | relayed p picked up _ posted result miss =>
      obtain rfl : p = own := Except.ok.inj (picked.symm.trans hown)
      obtain ⟨n, hblock, hle⟩ := postFor_of_streams p call.request hstream _ _ sent sent' up posted
      refine ⟨_, hblock, ?_, p, hown, hname, fun post hmem => List.eq_of_mem_replicate hmem, ?_⟩
      · rintro _ ⟨⟩ hhit
        have hstatus : result.cacheStatus = .hit := of_decide_eq_true hhit
        rw [miss] at hstatus
        cases hstatus
      · rw [List.length_replicate]
        exact hle
  | false =>
    rw [hstream, if_neg (by decide)] at h
    obtain ⟨reply', rfl, hrouted⟩ := h
    obtain ⟨block, hblock, hposted⟩ := hrouted.posted
    obtain ⟨p, hp, hpname, hpost⟩ := hposted.own
    refine ⟨block, hblock, ?_, p, hp, hpname, fun post hmem => ?_, ?_⟩
    · rintro _ ⟨⟩ hhit
      exact hposted.hit reply' rfl hhit
    · rw [hpost post hmem]
      show p.post call.request = postFor p call.request
      unfold postFor
      cases p.streamPayload <;> simp [hstream]
    · have htries : tries p call.request = 3 := if_neg (by simp [hstream])
      show block.length ≤ tries p call.request
      rw [htries]
      exact hposted.length_le

variable (np u fl oj pyd svc settings network streams) in
/-- Its posts are a block, and it begins what its reply says. -/
theorem completion_served (hwired : svc.resolveProvider = (buildRouter fl pyd settings).resolveProvider u)
    (call : ClientCall E) (w : World F) (sent : List Post) :
    ∃ block, (svc.chatCompletions np u fl oj pyd settings network streams call w sent).2.2 = sent ++ block ∧
      svc.EndpointRouted u fl oj pyd settings network streams call w sent
        (svc.chatCompletions np u fl oj pyd settings network streams call w sent).1
        (svc.chatCompletions np u fl oj pyd settings network streams call w sent).2.1 (sent ++ block) ∧
      w.replaysSince (svc.chatCompletions np u fl oj pyd settings network streams call w sent).2.1 =
        svc.endpointReplays call (svc.chatCompletions np u fl oj pyd settings network streams call w sent).1 := by
  have hrouted := svc.completion_routed np u fl oj pyd settings network streams hwired call w sent
  obtain ⟨block, hblock, -⟩ := hrouted.posted
  exact ⟨block, hblock, hblock ▸ hrouted, svc.completion_replays np u fl oj pyd settings network streams call w sent⟩

omit [Field F] [LinearOrder F] in
/-- What is posted in a turn. -/
theorem postedFor_turn (s s' : ProxyState F) (happened : Happened (ClientCall E) (EndpointReply F)) (block : List Post)
    (turn : Turn u fl pyd settings network (svc.EndpointRouted u fl oj pyd settings network streams)
      svc.endpointReplays s happened block s') : PostedFor u fl pyd settings happened block := by
  cases turn with
  | replied call reply w block served =>
    obtain ⟨block', hblock, hposted⟩ := served.posted
    obtain rfl := List.append_cancel_left hblock
    exact hposted
  | validated i request waits p picked k posts =>
    obtain ⟨own, hown, hname⟩ := buildRouter_providerFor u fl pyd settings request
    obtain rfl : p = own := Except.ok.inj (picked.symm.trans hown)
    refine ⟨?_, p, picked, hname, fun post hmem => List.eq_of_mem_replicate hmem, ?_⟩
    · rintro _ ⟨⟩
    · rw [List.length_replicate]
      exact Nat.succ_le_succ posts.le

omit [Field F] [LinearOrder F] in
theorem happenedPost_le (p : ChatProvider) (happened : Happened (ClientCall E) (EndpointReply F)) :
    (happenedPost p happened).2 ≤ 3 := by
  cases happened with
  | validated request => exact le_rfl
  | replied call reply =>
    show tries p call.request ≤ 3
    unfold tries
    split <;> omega

variable (np u fl oj pyd svc settings network streams) in
/-- **What leaves the proxy**, streaming requests and all.  Of any requests and the
validations of their HITs, over any network: what is posted is each one's own block of
posts, in order, a stream's no longer than one where the vendor streams, and with it comes
what is replied and kept; and no validation posts but those of buffered HITs, each once. -/
theorem completions_posted (hwired : svc.resolveProvider = (buildRouter fl pyd settings).resolveProvider u)
    (s : ProxyState F) (actions : List (ProxyAction (ClientCall E))) :
    ∃ blocks : List (List Post),
      (svc.completions np u fl oj pyd settings network streams s actions).2.sent = s.sent ++ blocks.flatten ∧
        Turns u fl pyd settings network (svc.EndpointRouted u fl oj pyd settings network streams)
          svc.endpointReplays s (svc.completions np u fl oj pyd settings network streams s actions).1 blocks
          (svc.completions np u fl oj pyd settings network streams s actions).2 ∧
        List.Forall₂ (PostedFor u fl pyd settings)
          (svc.completions np u fl oj pyd settings network streams s actions).1 blocks ∧
        blocks.flatten.length ≤ 3 * (svc.completions np u fl oj pyd settings network streams s actions).1.countP
          (Happened.asksUpstream EndpointReply.isHit) ∧
        ((svc.completions np u fl oj pyd settings network streams s actions).1.filterMap Happened.replayed ++
            (svc.completions np u fl oj pyd settings network streams s actions).2.waiting).Perm
          (s.waiting ++ (svc.completions np u fl oj pyd settings network streams s actions).1.flatMap
            (Happened.begun svc.endpointReplays)) := by
  obtain ⟨blocks, hturns⟩ := traffic_turns u network fl pyd settings
    (svc.completion_served np u fl oj pyd settings network streams hwired) s actions
  have hposted := hturns.forall₂ postedFor_turn
  have hlength := hposted.imp fun happened block h => happened.length_le EndpointReply.isHit block 3
    (by obtain ⟨p, -, -, -, hle⟩ := h.own; exact hle.trans (happenedPost_le p happened)) h.hit
  exact ⟨blocks, hturns.sent, hturns, hposted, length_flatten_le 3 _ hlength, hturns.perm⟩

end

/-- The first stream does not come about; the others do, an empty chunk ahead. -/
def brokenStreams : StreamNetwork := fun sent =>
  if sent.length = 1 then .error (.transport "connect")
  else .ok { statusCode := 200, chunks := [] :: responseToSse framedCodec framedText }

def streamCall : ClientCall Unit where
  tenant := "team"
  request := { oceanRequest with stream := true }
  policy := ()
  readings := someReadings
  bodyReadings := someReadings

/-- Three streams of one request, and the request as a buffered one; its HIT is sampled, and
the validation that it begins runs. -/
def streamTraffic : List (ProxyAction (ClientCall Unit)) := [
  .call streamCall,
  .call streamCall,
  .call streamCall,
  .call { streamCall with request := oceanRequest, readings := { someReadings with sampled := true } },
  .validate 0 "0123456789abcdef0123456789abcdef" 1700000000]

/-- One post is lost, and not made again; the next request posts once more and is kept, the
last two are served what it kept, and the validation posts once. -/
theorem completions_posted_streamTraffic :
    ((routedService.completions (.sorting Rat.sqrt) .ascii .exact framedCodec .strict defaultSettings failingNetwork
        brokenStreams ⟨⟨.new, []⟩, [], []⟩ streamTraffic).1.map fun happened =>
          happened.reply.map EndpointReply.isHit) = [some false, some false, some true, some true, none] ∧
      ∃ blocks : List (List Post), blocks.flatten.length = 3 ∧
        (routedService.completions (.sorting Rat.sqrt) .ascii .exact framedCodec .strict defaultSettings failingNetwork
          brokenStreams ⟨⟨.new, []⟩, [], []⟩ streamTraffic).2.sent = blocks.flatten := by
  obtain ⟨blocks, hblocks, -⟩ := completions_posted (.sorting Rat.sqrt) .ascii .exact framedCodec .strict
    routedService defaultSettings failingNetwork brokenStreams rfl ⟨⟨.new, []⟩, [], []⟩ streamTraffic
  have hlength : (routedService.completions (.sorting Rat.sqrt) .ascii .exact framedCodec .strict defaultSettings
      failingNetwork brokenStreams ⟨⟨.new, []⟩, [], []⟩ streamTraffic).2.sent.length = 3 := by decide +kernel
  rw [hblocks] at hlength
  exact ⟨by decide +kernel, blocks, hlength, hblocks⟩

end ProxyService

end CachingLayer
