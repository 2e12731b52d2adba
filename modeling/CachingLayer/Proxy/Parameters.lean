import CachingLayer.Proxy.Service

/-!
# Generation parameters and the namespace

The signature takes six dimensions of a request; the upstream payload carries more of
them.  Requests of one namespace send the same parameters exactly when they also agree
on those the signature leaves out (`sameParameters_iff`).
-/

namespace CachingLayer

namespace ProxyService

/-- The payloads agree on the generation parameters, with `extras` the names of the
pass-through fields that change the output; temperatures up to their bucket. -/
structure SameParameters (extras : Set String) (q q' : ChatCompletionRequest) : Prop where
  declared : ∀ name ∈ ["top_p", "max_tokens", "n", "stop"],
    q.upstreamPayload.lookup name = q'.upstreamPayload.lookup name
  extra : ∀ name ∈ extras, q.upstreamPayload.lookup name = q'.upstreamPayload.lookup name
  temperature : q.temperature.round1 = q'.temperature.round1

/-- The requests agree on the parameters the signature leaves out. -/
structure SameUnkeyed (extras : Set String) (q q' : ChatCompletionRequest) : Prop where
  topP : q.topP = q'.topP
  n : q.n = q'.n
  stop : q.stop = q'.stop
  extra : ∀ name ∈ extras, (ChatCompletionRequest.dropNone q.extra.kvs).lookup name =
    (ChatCompletionRequest.dropNone q'.extra.kvs).lookup name

/-- Beside temperature and `max_tokens`, the parameters sent are the unkeyed ones. -/
theorem sameParameters_iff_sameUnkeyed (extras : Set String) (q q' : ChatCompletionRequest)
    (hextras : ∀ name ∈ extras, name ∉ requestFields) (hmax : q.maxTokens = q'.maxTokens)
    (htemp : q.temperature.round1 = q'.temperature.round1) :
    SameParameters extras q q' ↔ SameUnkeyed extras q q' := by
  obtain ⟨h1, h2, h3, h4⟩ := q.upstreamPayload_declared
  obtain ⟨h1', h2', h3', h4'⟩ := q'.upstreamPayload_declared
  constructor
  · intro h
    have htop := h.declared "top_p" (by simp)
    have hn := h.declared "n" (by simp)
    have hstop := h.declared "stop" (by simp)
    rw [h1, h1'] at htop
    rw [h3, h3'] at hn
    rw [h4, h4'] at hstop
    refine ⟨Json.float.inj (Option.some.inj htop), Json.int.inj (Option.some.inj hn),
      Option.map_injective Stop.dump_inj hstop, fun name hname => ?_⟩
    rw [← q.upstreamPayload_extra name (hextras name hname),
      ← q'.upstreamPayload_extra name (hextras name hname)]
    exact h.extra name hname
  · intro h
    refine ⟨fun name hname => ?_, fun name hname => ?_, htemp⟩
    · simp only [List.mem_cons, List.not_mem_nil, or_false] at hname
      rcases hname with rfl | rfl | rfl | rfl
      · rw [h1, h1', h.topP]
      · rw [h2, h2', hmax]
      · rw [h3, h3', h.n]
      · rw [h4, h4', h.stop]
    · rw [q.upstreamPayload_extra name (hextras name hname),
        q'.upstreamPayload_extra name (hextras name hname)]
      exact h.extra name hname

/-- **Parameters.**  Two requests of a tenant that are given one namespace send the same
generation parameters exactly when they differ in a dimension of the key after all, or
agree on `top_p`, `n`, `stop` and the pass-through fields, none of which the key takes. -/
theorem sameParameters_iff {F E : Type} (svc : ProxyService F E) (tenant : String) (extras : Set String)
    (q q' : ChatCompletionRequest) (hextras : ∀ name ∈ extras, name ∉ requestFields)
    (hcol : CollisionFree {svc.requestSignature q tenant, svc.requestSignature q' tenant}) :
    ((svc.requestSignature q tenant).namespaceKey = (svc.requestSignature q' tenant).namespaceKey →
        SameParameters extras q q') ↔
      ¬ (svc.requestSignature q tenant).SameDimensions (svc.requestSignature q' tenant) ∨
        SameUnkeyed extras q q' := by
  constructor
  · intro h
    by_cases hd : (svc.requestSignature q tenant).SameDimensions (svc.requestSignature q' tenant)
    · right
      exact (sameParameters_iff_sameUnkeyed extras q q' hextras hd.maxTokens hd.temperature).mp
        (h hd.namespaceKey_eq)
    · exact Or.inl hd
  · intro h hns
    have hd := RequestSignature.namespaceKey_inj _ _ hcol hns
    rcases h with h | h
    · exact absurd hd h
    · exact (sameParameters_iff_sameUnkeyed extras q q' hextras hd.maxTokens hd.temperature).mpr h

def toolsRequest : ChatCompletionRequest :=
  { oceanRequest with
    stop := some (.one "END")
    extra := ⟨[("tools", .arr []), ("seed", .int 7)], by simp⟩ }

/-- Other messages, the same parameters. -/
theorem sameParameters_iff_tools :
    SameParameters {"tools", "response_format"} toolsRequest
      { toolsRequest with messages := [{ role := .user, content := some "what is the ocean" }] } := by
  have hcol : CollisionFree {plainService.requestSignature toolsRequest "team",
      plainService.requestSignature
        { toolsRequest with messages := [{ role := .user, content := some "what is the ocean" }] } "team"} := by
    refine .of_sameDimensions ?_
    rintro _ (rfl | rfl) _ (rfl | rfl) <;> exact ⟨rfl, rfl, rfl, rfl, rfl, rfl⟩
  exact (sameParameters_iff plainService "team" {"tools", "response_format"} toolsRequest _
    (by simp) hcol).mpr (Or.inr ⟨rfl, rfl, rfl, fun _ _ => rfl⟩) rfl

/-- Two requests that differ in `top_p` only share their namespace. -/
theorem sameParameters_topP :
    (plainService.requestSignature oceanRequest "team").namespaceKey =
        (plainService.requestSignature { oceanRequest with topP := .finite (1 / 10) } "team").namespaceKey ∧
      ¬ SameParameters ∅ oceanRequest { oceanRequest with topP := .finite (1 / 10) } := by
  refine ⟨rfl, fun h => ?_⟩
  have htop := h.declared "top_p" (by simp)
  rw [(ChatCompletionRequest.upstreamPayload_declared _).1,
    (ChatCompletionRequest.upstreamPayload_declared _).1] at htop
  have := Json.float.inj (Option.some.inj htop)
  revert this
  decide +kernel

end ProxyService

end CachingLayer
