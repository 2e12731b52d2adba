import CachingLayer.Proxy.Machine

/-!
# Tenant isolation

Leaving the other tenants' requests out of a run changes nothing for a tenant
(`tenant_isolation`).  Every entry in the store is of the tenant it was stored for,
since namespaces of different tenants differ (`isOf_iff`); what the others do is to
entries of their own, and a tenant's searches do not see those.
-/

namespace CachingLayer

open Text

/-- The tenant a request's actions are of; ticks, feedback and invalidation are of none. -/
def Action.tenant {E : Type} : Action E → Option String
  | request rid .. => some rid.tenant
  | task rid _ => some rid.tenant
  | _ => none

/-- The other tenants' requests are left out. -/
def Action.keptFor {E : Type} (tenant : String) (a : Action E) : Bool := a.tenant.all fun t => t = tenant

namespace ProxyService

section
variable {F E : Type} (svc : ProxyService F E) (acts : List (Action E))

/-- The signatures of the requests that come in. -/
def requested : Set RequestSignature :=
  {s | ∃ rid streaming request, .request rid streaming request ∈ acts ∧
    s = svc.requestSignature request rid.tenant}

/-- `uuid4` gives no id to two tenants. -/
def IdsApart : Prop :=
  ∀ rid rid' id, .task rid (.storeEmbedded id) ∈ acts → .task rid' (.storeEmbedded id) ∈ acts →
    rid.tenant = rid'.tenant

/-- The entry lies in the namespace of a request of the tenant. -/
def isOf (tenant : String) (e : CacheEntry F) : Bool :=
  acts.any fun
    | .request rid _ request =>
      rid.tenant = tenant && e.namespaceKey = (svc.requestSignature request rid.tenant).namespaceKey
    | _ => false

/-- The entry was stored for a request, under an id drawn for it. -/
def StoredFor (rid : RequestId) (e : CacheEntry F) : Prop :=
  .task rid (.storeEmbedded e.id) ∈ acts ∧ ∃ streaming request, .request rid streaming request ∈ acts ∧
    e.namespaceKey = (svc.requestSignature request rid.tenant).namespaceKey

/-- The request came in, and the entry it is at is its own, or was found in its namespace. -/
structure TaskOwns (rid : RequestId) (t : Task F) : Prop where
  requested : .request rid t.streaming t.request ∈ acts
  incrementing : ∀ best, t.phase = .incrementing best →
    (∃ rid', svc.StoredFor acts rid' best.entry) ∧
      best.entry.namespaceKey = (svc.requestSignature t.request rid.tenant).namespaceKey
  upserting : ∀ l response entry, t.phase = .upserting l response entry → svc.StoredFor acts rid entry

/-- Every entry there is was stored for a request. -/
structure StoreOwned (s : State F E) : Prop where
  tasks : ∀ rid t, s.tasks rid = some t → svc.TaskOwns acts rid t
  entries : ∀ e ∈ s.store.items, ∃ rid, svc.StoredFor acts rid e

/-! ## Whose entry it is -/

theorem storedFor_sameRecord (rid : RequestId) (e e' : CacheEntry F) (h : svc.StoredFor acts rid e)
    (hsame : e.SameRecord e') : svc.StoredFor acts rid e' := by
  obtain ⟨hid, streaming, request, hreq, hns⟩ := h
  have hid' : e.id = e'.id := congrArg (·.id) hsame
  have hns' : e.namespaceKey = e'.namespaceKey := congrArg (·.namespaceKey) hsame
  exact ⟨hid' ▸ hid, streaming, request, hreq, hns' ▸ hns⟩

section
variable (hcol : CollisionFree (svc.requested acts)) (tenant : String)
include hcol

/-- An entry is of the tenant whose request's namespace it lies in. -/
theorem isOf_iff (e : CacheEntry F) (rid : RequestId) (streaming : Bool) (request : ChatCompletionRequest)
    (hreq : .request rid streaming request ∈ acts)
    (hns : e.namespaceKey = (svc.requestSignature request rid.tenant).namespaceKey) :
    svc.isOf acts tenant e = true ↔ rid.tenant = tenant := by
  unfold isOf
  rw [List.any_eq_true]
  constructor
  · rintro ⟨a, ha, hof⟩
    cases a with
    | request rid' streaming' request' =>
      simp only [Bool.and_eq_true, decide_eq_true_eq] at hof
      have hpair : ({svc.requestSignature request rid.tenant, svc.requestSignature request' rid'.tenant} :
          Set RequestSignature) ⊆ svc.requested acts := by
        rintro s (rfl | rfl)
        · exact ⟨rid, streaming, request, hreq, rfl⟩
        · exact ⟨rid', streaming', request', ha, rfl⟩
      have hsame := RequestSignature.namespaceKey_inj _ _ (hcol.mono hpair) (hns.symm.trans hof.2)
      have htenant : rid.tenant = rid'.tenant := hsame.tenant
      rw [htenant, hof.1]
    | _ => cases hof
  · intro htenant
    exact ⟨_, hreq, by simp [htenant, hns]⟩

theorem isOf_storedFor (rid : RequestId) (e : CacheEntry F) (h : svc.StoredFor acts rid e) :
    svc.isOf acts tenant e = true ↔ rid.tenant = tenant := by
  obtain ⟨-, streaming, request, hreq, hns⟩ := h
  exact svc.isOf_iff acts hcol tenant e rid streaming request hreq hns

/-- Entries of one id are of one tenant. -/
theorem isOf_eq_of_id_eq (hids : IdsApart acts) (rid rid' : RequestId) (e e' : CacheEntry F)
    (h : svc.StoredFor acts rid e) (h' : svc.StoredFor acts rid' e') (hid : e.id = e'.id) :
    svc.isOf acts tenant e = svc.isOf acts tenant e' := by
  have htenant : rid.tenant = rid'.tenant := hids rid rid' e.id h.1 (hid ▸ h'.1)
  rw [Bool.eq_iff_iff, svc.isOf_storedFor acts hcol tenant rid e h,
    svc.isOf_storedFor acts hcol tenant rid' e' h', htenant]

end

end

section
variable {F E : Type} [Field F] [LinearOrder F] (np : Numpy F) (oj : Orjson) (pyd : Pydantic)
  (svc : ProxyService F E) (acts : List (Action E))

/-! ## The invariant -/

theorem taskOwns_advance (s : State F E) (rid : RequestId) (t t' : Task F) (event : Event) (op : StoreOp F)
    (effects : List (Effect F)) (ha : .task rid event ∈ acts)
    (hs : ∀ e ∈ s.store.items, ∃ rid, svc.StoredFor acts rid e) (ht : svc.TaskOwns acts rid t)
    (h : svc.Advances oj pyd rid t s.now s.perf (svc.search np rid t.request s.now s.store) event t' op effects) :
    svc.TaskOwns acts rid t' := by
  obtain ⟨hstreaming, hrequest, -⟩ := Advances.request oj pyd svc rid t t' _ _ _ event op effects h
  constructor
  · rw [hstreaming, hrequest]; exact ht.requested
  · intro best hp
    obtain ⟨found, hfound, hhead⟩ := Advances.incrementing oj pyd svc rid t t' _ _ _ event op effects h best hp
    obtain ⟨hlive, -⟩ := InMemoryVectorStore.mem_search np _ _ _ _ _ found hfound best
      (List.mem_of_mem_head? hhead)
    obtain ⟨hmem, hns, -⟩ := (InMemoryVectorStore.mem_liveEntries _ _ _ _).mp hlive
    rw [hrequest]
    exact ⟨hs best.entry hmem, hns⟩
  · intro l response entry hp
    obtain ⟨id, ttlSeconds, tags, rfl, rfl⟩ :=
      Advances.upserting oj pyd svc rid t t' _ _ _ event op effects h l response entry hp
    exact ⟨ha, t.streaming, t.request, ht.requested, rfl⟩

/-- **Step.** -/
theorem storeOwned_step (s s' : State F E) (a : Action E) (ha : a ∈ acts) (hs : svc.StoreOwned acts s)
    (h : svc.step np oj pyd s a = some s') : svc.StoreOwned acts s' := by
  constructor
  · intro rid t' ht'
    rcases svc.step_tasks np oj pyd s s' a h rid t' ht' with
      hold | ⟨streaming, request, rfl, -, rfl⟩ | ⟨t, event, op, effects, rfl, ht, hadv⟩
    · exact hs.tasks rid t' hold
    · exact ⟨ha, (fun _ hp => by cases hp), (fun _ _ _ hp => by cases hp)⟩
    · exact svc.taskOwns_advance np oj pyd acts s rid t t' event op effects ha hs.entries (hs.tasks rid t ht) hadv
  · intro e he
    rcases svc.step_entries np oj pyd s s' a h e he with ⟨e', he', hsame⟩ | ⟨rid, t, l, response, -, ht, hp⟩
    · obtain ⟨rid, hstored⟩ := hs.entries e' he'
      exact ⟨rid, svc.storedFor_sameRecord acts rid e' e hstored hsame⟩
    · exact ⟨rid, (hs.tasks rid t ht).upserting l response e hp⟩

/-! ## What a tenant sees -/

/-- `s'` is `s` without the other tenants' tasks and entries. -/
structure SeenBy (tenant : String) (s s' : State F E) : Prop where
  now : s'.now = s.now
  perf : s'.perf = s.perf
  policy : s'.policy = s.policy
  own : ∀ rid, rid.tenant = tenant → s'.tasks rid = s.tasks rid
  others : ∀ rid, rid.tenant ≠ tenant → s'.tasks rid = none
  store : s'.store = s.store.filter (svc.isOf acts tenant)

section
variable (hcol : CollisionFree (svc.requested acts)) (hids : IdsApart acts) (tenant : String)
  (s : State F E) (hs : svc.StoreOwned acts s)
include hcol hids hs

/-- What a task does to the store shows to its own tenant. -/
theorem apply_own (rid : RequestId) (t t' : Task F) (event : Event) (op : StoreOp F) (effects : List (Effect F))
    (htenant : rid.tenant = tenant) (ht : s.tasks rid = some t)
    (h : svc.Advances oj pyd rid t s.now s.perf (svc.search np rid t.request s.now s.store) event t' op effects) :
    (op.apply s.store).filter (svc.isOf acts tenant) = op.apply (s.store.filter (svc.isOf acts tenant)) := by
  rcases Advances.storeOp oj pyd svc rid t t' _ _ _ event op effects h with
    rfl | ⟨best, -, rfl⟩ | ⟨l, response, entry, hp, -, rfl⟩
  · rfl
  · exact (InMemoryVectorStore.incrementHit_filter s.store best.id _ fun _ => rfl).symm
  · have hentry := (hs.tasks rid t ht).upserting l response entry hp
    have hof := (svc.isOf_storedFor acts hcol tenant rid entry hentry).mpr htenant
    refine (Keyed.filter_put _ entry _ fun b hb hid => ?_).trans (if_pos hof)
    obtain ⟨rid', hstored⟩ := hs.entries b hb
    exact svc.isOf_eq_of_id_eq acts hcol tenant hids rid' rid b entry hstored hentry hid

/-- It does not show to another tenant. -/
theorem apply_other (rid : RequestId) (t t' : Task F) (event : Event) (op : StoreOp F)
    (effects : List (Effect F)) (htenant : rid.tenant ≠ tenant) (ht : s.tasks rid = some t)
    (h : svc.Advances oj pyd rid t s.now s.perf (svc.search np rid t.request s.now s.store) event t' op effects) :
    (op.apply s.store).filter (svc.isOf acts tenant) = s.store.filter (svc.isOf acts tenant) := by
  have howns := hs.tasks rid t ht
  rcases Advances.storeOp oj pyd svc rid t t' _ _ _ event op effects h with
    rfl | ⟨best, hp, rfl⟩ | ⟨l, response, entry, hp, -, rfl⟩
  · rfl
  · obtain ⟨⟨rid', hbest⟩, hns⟩ := howns.incrementing best hp
    have hnot : ¬ svc.isOf acts tenant best.entry = true := fun hof => htenant
      ((svc.isOf_iff acts hcol tenant best.entry rid _ _ howns.requested hns).mp hof)
    refine (InMemoryVectorStore.incrementHit_filter s.store best.id _ fun _ => rfl).symm.trans
      (InMemoryVectorStore.incrementHit_of_notMem _ _ ?_)
    intro b hb hid
    obtain ⟨hb, hof⟩ := (Keyed.mem_filter _ _ _).mp hb
    obtain ⟨rid'', hstored⟩ := hs.entries b hb
    exact hnot (by rw [← svc.isOf_eq_of_id_eq acts hcol tenant hids rid'' rid' b best.entry hstored hbest hid, hof])
  · have hentry := howns.upserting l response entry hp
    have hnot : ¬ svc.isOf acts tenant entry = true := fun hof => htenant
      ((svc.isOf_storedFor acts hcol tenant rid entry hentry).mp hof)
    refine (Keyed.filter_put _ entry _ fun b hb hid => ?_).trans (if_neg hnot)
    obtain ⟨rid', hstored⟩ := hs.entries b hb
    exact svc.isOf_eq_of_id_eq acts hcol tenant hids rid' rid b entry hstored hentry hid

/-- A kept action does the same to what the tenant sees. -/
theorem seenBy_kept (s' σ : State F E) (a : Action E) (hkept : a.keptFor tenant = true) (ha : a ∈ acts)
    (hseen : svc.SeenBy acts tenant s σ) (h : svc.step np oj pyd s a = some s') :
    ∃ σ', svc.step np oj pyd σ a = some σ' ∧ svc.SeenBy acts tenant s' σ' := by
  obtain ⟨hnow, hperf, hpolicy, hown, hothers, hstore⟩ := hseen
  cases a with
  | tick now perf =>
    obtain rfl := Option.some.inj h
    exact ⟨_, rfl, rfl, rfl, hpolicy, hown, hothers, hstore⟩
  | feedback update =>
    obtain rfl := Option.some.inj h
    refine ⟨_, rfl, hnow, hperf, ?_, hown, hothers, hstore⟩
    show update σ.policy = update s.policy
    rw [hpolicy]
  | delete m p tag =>
    obtain rfl := Option.some.inj h
    refine ⟨_, rfl, hnow, hperf, hpolicy, hown, hothers, ?_⟩
    show (σ.store.delete m p tag).2 = _
    rw [hstore]
    exact InMemoryVectorStore.delete_filter s.store m p tag _
  | clear =>
    obtain rfl := Option.some.inj h
    exact ⟨_, rfl, hnow, hperf, hpolicy, hown, hothers, rfl⟩
  | request rid streaming request =>
    have htenant : rid.tenant = tenant := by simpa [Action.keptFor, Action.tenant] using hkept
    obtain ⟨hnone, rfl⟩ := svc.step_request np oj pyd s s' rid streaming request h
    have hnone' : σ.tasks rid = none := (hown rid htenant).trans hnone
    refine ⟨_, svc.step_request_of_new np oj pyd σ rid streaming request hnone', hnow, hperf, hpolicy, ?_, ?_,
      hstore⟩
    · intro rid' htenant'
      show Function.update σ.tasks rid _ rid' = Function.update s.tasks rid _ rid'
      rw [hpolicy, hperf]
      by_cases hrid : rid' = rid
      · rw [hrid, Function.update_self, Function.update_self]
      · rw [Function.update_of_ne hrid, Function.update_of_ne hrid, hown rid' htenant']
    · intro rid' htenant'
      have hrid : rid' ≠ rid := fun hrid => htenant' (hrid ▸ htenant)
      exact (Function.update_of_ne hrid _ _).trans (hothers rid' htenant')
  | task rid event =>
    have htenant : rid.tenant = tenant := by simpa [Action.keptFor, Action.tenant] using hkept
    obtain ⟨t, t', op, effects, ht, hadv, rfl⟩ := svc.step_task np oj pyd s s' rid event h
    have ht' : σ.tasks rid = some t := (hown rid htenant).trans ht
    have hreq := (hs.tasks rid t ht).requested
    have hsearch : svc.search np rid t.request σ.now σ.store = svc.search np rid t.request s.now s.store := by
      unfold search
      rw [hnow, hstore]
      apply InMemoryVectorStore.search_filter
      intro e _ hns
      exact (svc.isOf_iff acts hcol tenant e rid _ _ hreq hns).mpr htenant
    have hadv' : svc.advance oj pyd rid t σ.now σ.perf (svc.search np rid t.request σ.now σ.store) event =
        some (t', op, effects) := by
      rw [hsearch, hnow, hperf]; exact hadv
    refine ⟨_, svc.step_task_of_advance np oj pyd σ rid t t' event op effects ht' hadv', hnow, hperf, hpolicy,
      ?_, ?_, ?_⟩
    · intro rid' htenant'
      show Function.update σ.tasks rid _ rid' = Function.update s.tasks rid _ rid'
      by_cases hrid : rid' = rid
      · rw [hrid, Function.update_self, Function.update_self]
      · rw [Function.update_of_ne hrid, Function.update_of_ne hrid, hown rid' htenant']
    · intro rid' htenant'
      have hrid : rid' ≠ rid := fun hrid => htenant' (hrid ▸ htenant)
      exact (Function.update_of_ne hrid _ _).trans (hothers rid' htenant')
    · show op.apply σ.store = _
      rw [hstore]
      exact (svc.apply_own np oj pyd acts hcol hids tenant s hs rid t t' event op effects htenant ht
        (svc.advances_of_advance oj pyd rid t t' _ _ _ event op effects hadv)).symm

/-- A dropped action changes nothing of what the tenant sees. -/
theorem seenBy_dropped (s' σ : State F E) (a : Action E) (hkept : a.keptFor tenant = false)
    (hseen : svc.SeenBy acts tenant s σ) (h : svc.step np oj pyd s a = some s') :
    svc.SeenBy acts tenant s' σ := by
  obtain ⟨hnow, hperf, hpolicy, hown, hothers, hstore⟩ := hseen
  cases svc.steps_of_step np oj pyd s s' a h with
  | request rid streaming request hnew =>
    have htenant : rid.tenant ≠ tenant := by simpa [Action.keptFor, Action.tenant] using hkept
    refine ⟨hnow, hperf, hpolicy, ?_, hothers, hstore⟩
    intro rid' htenant'
    have hrid : rid' ≠ rid := fun hrid => htenant (hrid ▸ htenant')
    exact (hown rid' htenant').trans (Function.update_of_ne hrid _ _).symm
  | task rid event t t' op effects ht hadv =>
    have htenant : rid.tenant ≠ tenant := by simpa [Action.keptFor, Action.tenant] using hkept
    refine ⟨hnow, hperf, hpolicy, ?_, hothers, ?_⟩
    · intro rid' htenant'
      have hrid : rid' ≠ rid := fun hrid => htenant (hrid ▸ htenant')
      exact (hown rid' htenant').trans (Function.update_of_ne hrid _ _).symm
    · show σ.store = _
      rw [hstore]
      exact (svc.apply_other np oj pyd acts hcol hids tenant s hs rid t t' event op effects htenant ht hadv).symm
  -- The other actions are kept.
  | _ => cases hkept

end

/-! ## Noninterference -/

/-- **Tenant noninterference.**  Leave the other tenants' requests out of a run: the run goes
through, every task of the tenant is as it was, and the store holds what the tenant had in
it, hit counts and all. -/
theorem tenant_isolation (s₀ s : State F E) (htasks : ∀ rid, s₀.tasks rid = none)
    (hstore : s₀.store.items = []) (hcol : CollisionFree (svc.requested acts)) (hids : IdsApart acts)
    (hrun : Run.exec (svc.step np oj pyd) s₀ acts = some s) (tenant : String) :
    ∃ s', Run.exec (svc.step np oj pyd) s₀ (acts.filter (Action.keptFor tenant)) = some s' ∧
      (∀ rid, rid.tenant = tenant → s'.tasks rid = s.tasks rid) ∧
      s'.store.items = s.store.items.filter (svc.isOf acts tenant) := by
  have hstart : svc.SeenBy acts tenant s₀ s₀ := by
    refine ⟨rfl, rfl, rfl, fun _ _ => rfl, fun rid _ => htasks rid, ?_⟩
    apply Keyed.ext_items
    show s₀.store.items = s₀.store.items.filter _
    rw [hstore]
    rfl
  have howned : svc.StoreOwned acts s₀ := by
    constructor
    · intro rid t ht; rw [htasks rid] at ht; cases ht
    · intro e he; rw [hstore] at he; cases he
  obtain ⟨s', hs', -, hseen⟩ := Run.exec_filter (svc.step np oj pyd) (Action.keptFor tenant)
    (fun s σ => svc.StoreOwned acts s ∧ svc.SeenBy acts tenant s σ) acts
    (by
      rintro a ha hkept u u' σ ⟨hu, hseen⟩ hstep
      obtain ⟨σ', hσ', hseen'⟩ := svc.seenBy_kept np oj pyd acts hcol hids tenant u hu u' σ a hkept ha hseen hstep
      exact ⟨σ', hσ', svc.storeOwned_step np oj pyd acts u u' a ha hu hstep, hseen'⟩)
    (by
      rintro a ha hkept u u' σ ⟨hu, hseen⟩ hstep
      exact ⟨svc.storeOwned_step np oj pyd acts u u' a ha hu hstep,
        svc.seenBy_dropped np oj pyd acts hcol hids tenant u hu u' σ a hkept hseen hstep⟩)
    s₀ s s₀ ⟨howned, hstart⟩ hrun
  exact ⟨s', hs', hseen.own, congrArg Keyed.items hseen.store⟩

end

/-! ## Two tenants -/

/-- A buffered request of one tenant, the same one of another before it is stored, and a
streaming one of the first. -/
def rivalActions : List (Action Unit) := [
  .request ⟨"team", 0⟩ false oceanRequest,
  .task ⟨"team", 0⟩ .embedded,
  .task ⟨"team", 0⟩ .searched,
  .request ⟨"rival", 0⟩ false oceanRequest,
  .task ⟨"rival", 0⟩ .embedded,
  .task ⟨"team", 0⟩ (.completed framedText),
  .task ⟨"team", 0⟩ (.storeEmbedded someReadings.entryId),
  .task ⟨"team", 0⟩ .upserted,
  .task ⟨"rival", 0⟩ .searched,
  .task ⟨"rival", 0⟩ (.completed framedText),
  .task ⟨"rival", 0⟩ (.storeEmbedded someReadings.uuid),
  .task ⟨"rival", 0⟩ .upserted,
  .request ⟨"team", 1⟩ true oceanRequest,
  .task ⟨"team", 1⟩ .embedded,
  .task ⟨"team", 1⟩ .searched,
  .task ⟨"team", 1⟩ (.incremented someReadings.uuid false)]

theorem rivalActions_exec :
    ((Run.exec (plainService.step (.sorting Rat.sqrt) framedCodec .strict) plainStart rivalActions).any fun s =>
      (s.tasks ⟨"team", 1⟩).any (fun t => t.phase.isHit) && s.store.items.length == 2) = true := by
  decide +kernel

theorem rivalActions_collisionFree : CollisionFree (plainService.requested rivalActions) := by
  have hsigs : ∀ s ∈ plainService.requested rivalActions,
      s = plainService.requestSignature oceanRequest "team" ∨
        s = plainService.requestSignature oceanRequest "rival" := by
    rintro s ⟨rid, streaming, request, hmem, rfl⟩
    simp only [rivalActions, List.mem_cons, Action.request.injEq, reduceCtorEq, List.not_mem_nil, or_false,
      false_or] at hmem
    obtain ⟨rfl, -, rfl⟩ | ⟨rfl, -, rfl⟩ | ⟨rfl, -, rfl⟩ := hmem
    · exact Or.inl rfl
    · exact Or.inr rfl
    · exact Or.inl rfl
  have hdigest : digestPrefix 20 (plainService.requestSignature oceanRequest "team").raw ≠
      digestPrefix 20 (plainService.requestSignature oceanRequest "rival").raw := by
    decide +kernel
  constructor
  · rintro _ ⟨s, hs, rfl⟩ _ ⟨t, ht, rfl⟩ h
    obtain rfl | rfl := hsigs s hs <;> obtain rfl | rfl := hsigs t ht
    · rfl
    · exact absurd h hdigest
    · exact absurd h.symm hdigest
    · rfl
  · rintro _ ⟨s, hs, rfl⟩ _ ⟨t, ht, rfl⟩ -
    obtain rfl | rfl := hsigs s hs <;> obtain rfl | rfl := hsigs t ht <;> rfl

/-- The rival's entry is in the store, and the HIT is the same without it. -/
theorem tenant_isolation_rival : ∃ s s',
    Run.exec (plainService.step (.sorting Rat.sqrt) framedCodec .strict) plainStart rivalActions = some s ∧
    Run.exec (plainService.step (.sorting Rat.sqrt) framedCodec .strict) plainStart
      (rivalActions.filter (Action.keptFor "team")) = some s' ∧
    (s.tasks ⟨"team", 1⟩).any (fun t => t.phase.isHit) = true ∧ s.store.items.length = 2 ∧
    s'.tasks ⟨"team", 1⟩ = s.tasks ⟨"team", 1⟩ ∧
    s'.store.items = s.store.items.filter (plainService.isOf rivalActions "team") := by
  obtain ⟨s, hs, hhit⟩ := (Option.any_eq_true _ _).mp rivalActions_exec
  rw [Bool.and_eq_true, beq_iff_eq] at hhit
  have hids : IdsApart rivalActions := by
    intro rid rid' id h h'
    simp only [rivalActions, List.mem_cons, Action.task.injEq, Event.storeEmbedded.injEq, reduceCtorEq,
      List.not_mem_nil, and_false, or_false, false_or] at h h'
    obtain ⟨rfl, rfl⟩ | ⟨rfl, rfl⟩ := h <;> obtain ⟨rfl, hid⟩ | ⟨rfl, hid⟩ := h'
    · rfl
    · exact absurd hid (by decide)
    · exact absurd hid (by decide)
    · rfl
  obtain ⟨s', hs', hown, hstore⟩ := tenant_isolation (.sorting Rat.sqrt) framedCodec .strict plainService
    rivalActions plainStart s (fun _ => rfl) rfl rivalActions_collisionFree hids hs "team"
  exact ⟨s, s', hs, hs', hhit.1, hhit.2, hown ⟨"team", 1⟩ rfl, hstore⟩

end ProxyService

end CachingLayer
