import CachingLayer.Basis.Ledger
import CachingLayer.Monitoring.Metrics
import CachingLayer.Proxy.Soundness

/-!
# What the metrics say of a run

The service records as it goes, task by task, under any interleaving.  From a fresh start,
the records of hits and savings are those of the tasks answered from the cache, one of each
for every such task (`credited_balanced`), and a task is looked up at most once
(`lookups_le`).  So in every state the metrics can be read off the tasks (`metered`).
-/

namespace CachingLayer

open Text

/-! ## Records -/

namespace Effect

variable {F : Type}

/-- The records only a HIT makes. -/
def ofHit : Effect F → Multiset (Effect F)
  | .recordLookup .hit provider model score latencyMs => {.recordLookup .hit provider model score latencyMs}
  | .recordSavings model promptTokens completionTokens => {.recordSavings model promptTokens completionTokens}
  | _ => 0

/-- One for a lookup of the kind. -/
def lookedUp (kind : CacheStatus → String → String → Bool) : Effect F → ℕ
  | .recordLookup status provider model _ _ => if kind status provider model then 1 else 0
  | _ => 0

end Effect

/-- The label of a provider and a model. -/
def label (provider model : String) : String → String → Bool := fun p q => provider = p ∧ model = q

def anyLabel : String → String → Bool := fun _ _ => true

def hitsOf (kind : String → String → Bool) : CacheStatus → String → String → Bool :=
  fun status p q => status = .hit ∧ kind p q

def missesOf (kind : String → String → Bool) : CacheStatus → String → String → Bool :=
  fun status p q => status = .miss ∧ kind p q

namespace Series

/-- The series only a HIT counts in. -/
def isOfHit : Series → Bool
  | cacheHits .. | hits | costSaved | tokensSaved => true
  | _ => false

/-- The lookups a series counts; none if it counts anything else. -/
def kind : Series → Option (CacheStatus → String → String → Bool)
  | cacheHits provider model => some (hitsOf (label provider model))
  | cacheMisses provider model => some (missesOf (label provider model))
  | requestsByProvider provider => some fun _ p _ => provider = p
  | requestsByModel model => some fun _ _ q => model = q
  | lookupLatency | similarity | total => some fun _ => anyLabel
  | hits => some (hitsOf anyLabel)
  | providerLatency _ | costSaved | tokensSaved => none

end Series

section
variable {F : Type} [Field F] [LinearOrder F] (pricing : List (String × F × F))

/-- What a record adds to a series, as a map on records. -/
def addsHom (s : Series) : Multiset (Effect F) →+ F :=
  Multiset.sumAddMonoidHom.comp (Multiset.mapAddMonoidHom fun e => e.adds pricing s)

omit [LinearOrder F] in
theorem addsHom_ofHit (s : Series) (hs : s.isOfHit = true) (e : Effect F) :
    addsHom pricing s e.ofHit = e.adds pricing s := by
  cases e with
  | recordLookup status provider model score latencyMs =>
    cases status with
    | hit => exact Multiset.sum_singleton _
    | miss =>
      have hnot : s ∉ lookupSeries provider model .miss := by
        intro hmem
        simp only [lookupSeries, List.mem_cons, List.not_mem_nil, or_false] at hmem
        obtain rfl | rfl | rfl | rfl | rfl | rfl := hmem <;> cases hs
      exact (if_neg hnot).symm
  | recordSavings model promptTokens completionTokens => exact Multiset.sum_singleton _
  | recordProviderLatency provider latencyMs =>
    have hne : s ≠ .providerLatency provider := by
      rintro rfl
      cases hs
    exact (if_neg hne).symm
  | nearMiss => rfl
  | validate => rfl

omit [LinearOrder F] in
theorem adds_of_kind (s : Series) (kind : CacheStatus → String → String → Bool) (hkind : s.kind = some kind)
    (e : Effect F) : e.adds pricing s = (e.lookedUp kind : F) := by
  cases e with
  | recordLookup status provider model score latencyMs =>
    cases s <;> simp only [Series.kind, Option.some.injEq, reduceCtorEq] at hkind <;> subst hkind <;>
      cases status <;> simp [Effect.adds, Effect.lookedUp, lookupSeries, hitsOf, missesOf, label, anyLabel]
  | _ => cases s <;> simp only [Series.kind, reduceCtorEq] at hkind <;> simp [Effect.adds, Effect.lookedUp]

end

/-- A lookup is a hit or a miss. -/
theorem lookedUp_hits_add_misses {F : Type} (kind : String → String → Bool) (effects : List (Effect F)) :
    (effects.map (Effect.lookedUp (hitsOf kind))).sum + (effects.map (Effect.lookedUp (missesOf kind))).sum =
      (effects.map (Effect.lookedUp fun _ => kind)).sum := by
  rw [← List.sum_map_add]
  refine congrArg List.sum (List.map_congr_left fun e _ => ?_)
  cases e with
  | recordLookup status => cases status <;> simp [Effect.lookedUp, hitsOf, missesOf]
  | _ => rfl

/-! ## Tasks -/

/-- Its lookup is over, without a match. -/
def Phase.pastMiss {F : Type} : Phase F → Bool
  | completing .. | forwarding .. | storing .. | upserting .. | missed .. => true
  | _ => false

/-- Its lookup is over. -/
def Phase.pastLookup {F : Type} : Phase F → Bool
  | embedding | searching | incrementing _ => false
  | _ => true

namespace ProxyService

section
variable {F E : Type} (svc : ProxyService F E)

/-- The records of a task answered from the cache. -/
def credited (t : Task F) : Multiset (Effect F) :=
  match t.phase with
  | .hit l _ cached =>
    {.recordLookup .hit (svc.resolveProvider t.request) t.request.model l.score l.latencyMs,
      recordSavings t.request cached}
  | _ => 0

theorem credited_of_not_isHit (t : Task F) (h : t.phase.isHit = false) : svc.credited t = 0 := by
  unfold credited
  cases hp : t.phase with
  | hit l best cached => rw [hp] at h; cases h
  | _ => rfl

/-- One for a task whose phase is such, if its lookup would be of the kind. -/
def taskOf (phase : Phase F → Bool) (kind : String → String → Bool) (t : Task F) : ℕ :=
  if phase t.phase ∧ kind (svc.resolveProvider t.request) t.request.model then 1 else 0

end

section
variable {F E : Type} [Field F] [LinearOrder F] {np : Numpy F} {oj : Orjson} {pyd : Pydantic}
  {svc : ProxyService F E}

/-! ## Keeping the books -/

/-- A step keeps the books of the tasks if a task going on does. -/
theorem books_of_step {M : Type} [AddCommMonoid M] (r : M → M → Prop) (cost : Effect F → M) (held : Task F → M)
    (s s' : State F E) (a : Action E) (h : svc.step np oj pyd s a = some s')
    (hopened : ∀ t : Task F, t.phase = .embedding → r 0 (held t))
    (hmoved : ∀ rid t event t' op effects, a = .task rid event → s.tasks rid = some t →
      svc.Advances oj pyd rid t s.now s.perf (svc.search np rid t.request s.now s.store) event t' op effects →
      r (held t + (effects.map cost).sum) (held t')) :
    Ledger.Books r cost held s.tasks s'.tasks s.effects s'.effects := by
  cases svc.steps_of_step np oj pyd s s' a h with
  | request rid streaming request hnew => exact .opened rid _ hnew rfl rfl (hopened _ rfl)
  | task rid event t t' op effects ht hadv =>
    exact .moved rid t t' effects ht rfl rfl (hmoved rid t event t' op effects rfl ht hadv)
  | _ => exact .same rfl rfl

omit [Field F] [LinearOrder F] in
/-- Nothing of a near miss is a lookup or savings. -/
theorem cost_lookupEffects {M : Type} [AddCommMonoid M] (cost : Effect F → M)
    (hnear : ∀ score threshold ns prompt, cost (.nearMiss score threshold ns prompt) = 0)
    (request : ChatCompletionRequest) (tenant : String) (threshold : Option F) (l : CacheLookup F) :
    ((svc.lookupEffects request tenant threshold l).map cost).sum =
      cost (.recordLookup l.status (svc.resolveProvider request) request.model l.score l.latencyMs) := by
  unfold lookupEffects recordNearMiss
  rw [List.map_cons, List.sum_cons]
  split
  · rw [List.map_singleton, List.sum_singleton, hnear, add_zero]
  · rw [List.map_nil, List.sum_nil, add_zero]

omit [Field F] [LinearOrder F] in
theorem cost_maybeValidate {M : Type} [AddCommMonoid M] (cost : Effect F → M)
    (hvalidate : ∀ request cached, cost (.validate request cached) = 0) (streaming sampled : Bool)
    (request : ChatCompletionRequest) (cached : ChatCompletionResponse) :
    ((if streaming then [] else svc.maybeValidate request cached sampled).map cost).sum = 0 := by
  unfold maybeValidate
  split
  · rfl
  · split
    · rw [List.map_singleton, List.sum_singleton, hvalidate]
    · rfl

omit [Field F] [LinearOrder F] in
/-- On its way into the store, or done. -/
theorem phase_keep (t : Task F) (l : CacheLookup F) (response : ChatCompletionResponse) :
    (svc.keep t l response).phase.isHit = false ∧ (svc.keep t l response).phase.pastLookup = true := by
  rcases svc.keep_cases t l response with ⟨-, heq⟩ | heq <;> rw [heq] <;> exact ⟨rfl, rfl⟩

/-- **Step.**  A task going on has its lookup recorded, or no lookup is. -/
theorem lookup_of_advance (kind : CacheStatus → String → String → Bool) (rid : RequestId) (t t' : Task F)
    (now perf : ℚ) (found : Except PyError (List (ScoredEntry F))) (event : Event) (op : StoreOp F)
    (effects : List (Effect F)) (h : svc.Advances oj pyd rid t now perf found event t' op effects) :
    (∃ status, t.phase.pastLookup = false ∧ t'.phase.pastLookup = true ∧
        (status = .miss ∨ t'.phase.pastMiss = false) ∧ (effects.map (Effect.lookedUp kind)).sum =
          if kind status (svc.resolveProvider t.request) t.request.model then 1 else 0) ∨
      (effects.map (Effect.lookedUp kind)).sum = 0 ∧
        (t.phase.pastLookup = true → t'.phase.pastLookup = true) ∧
        (t'.phase.pastMiss = true → t.phase.pastMiss = true) := by
  have hlookup : ∀ l, ((svc.lookupEffects t.request rid.tenant t.threshold l).map (Effect.lookedUp kind)).sum =
      if kind l.status (svc.resolveProvider t.request) t.request.model then 1 else 0 :=
    fun l => cost_lookupEffects (Effect.lookedUp kind) (fun _ _ _ _ => rfl) t.request rid.tenant t.threshold l
  cases h with
  | embedded hp => exact Or.inr ⟨rfl, fun hb => (by rw [hp] at hb; cases hb), fun hm => (nomatch hm)⟩
  | searchRaised e hp => exact Or.inr ⟨rfl, fun _ => rfl, fun hm => (nomatch hm)⟩
  | matched hits best hp => exact Or.inr ⟨rfl, fun hb => (by rw [hp] at hb; cases hb), fun hm => (nomatch hm)⟩
  | unmatchedStream hits l hp hfound hl hmiss =>
    exact Or.inl ⟨l.status, by rw [hp]; rfl, rfl, Or.inl hmiss, hlookup l⟩
  | unmatchedBuffered hits l hp hfound hl hmiss =>
    exact Or.inl ⟨l.status, by rw [hp]; rfl, rfl, Or.inl hmiss, hlookup l⟩
  | cachedInvalid best uuid sampled e l hp =>
    exact Or.inl ⟨l.status, by rw [hp]; rfl, rfl, Or.inr rfl, hlookup l⟩
  | cached best uuid sampled response l hp =>
    refine Or.inl ⟨l.status, by rw [hp]; rfl, rfl, Or.inr rfl, ?_⟩
    rw [List.map_append, List.sum_append, List.map_cons, List.sum_cons,
      cost_maybeValidate (Effect.lookedUp kind) (fun _ _ => rfl), hlookup l]
    rfl
  | completed l started response hp =>
    exact Or.inr ⟨rfl, fun _ => (phase_keep t l response).2, fun _ => by rw [hp]; rfl⟩
  | chunkRaised l a bytes e hp => exact Or.inr ⟨rfl, fun _ => rfl, fun hm => (nomatch hm)⟩
  | chunk l a a' bytes hp => exact Or.inr ⟨rfl, fun _ => rfl, fun _ => by rw [hp]; rfl⟩
  | incomplete l a uuid hp => exact Or.inr ⟨rfl, fun _ => rfl, fun _ => by rw [hp]; rfl⟩
  | buildRaised l a uuid e hp => exact Or.inr ⟨rfl, fun _ => rfl, fun hm => (nomatch hm)⟩
  | built l a uuid response hp =>
    exact Or.inr ⟨rfl, fun _ => (phase_keep t l response).2, fun _ => by rw [hp]; rfl⟩
  | storeEmbedded l response ttlSeconds tags id hp =>
    exact Or.inr ⟨rfl, fun _ => rfl, fun _ => by rw [hp]; rfl⟩
  | upserted l response entry hp => exact Or.inr ⟨rfl, fun _ => rfl, fun _ => by rw [hp]; rfl⟩
  | taken l best response chunk hp => exact Or.inr ⟨rfl, id, id⟩
  | raised e hp => exact Or.inr ⟨rfl, fun _ => rfl, fun hm => (nomatch hm)⟩
  | abandoned hp => exact Or.inr ⟨rfl, fun _ => rfl, fun hm => (nomatch hm)⟩

section
variable {s₀ : State F E} (run : Run (svc.step np oj pyd) s₀) (htasks : ∀ rid, s₀.tasks rid = none)
  (heffects : s₀.effects = []) (kind : String → String → Bool)
include htasks heffects

/-- **Run.**  A task is looked up once at most. -/
theorem lookups_le (n : ℕ) (hn : n ≤ run.len) :
    Ledger.Balanced (· ≤ ·) (Effect.lookedUp fun _ => kind) (svc.taskOf Phase.pastLookup kind)
      (run.state n).tasks (run.state n).effects := by
  have htrans : ∀ a b c : ℕ, a ≤ b → b ≤ c → a ≤ c := fun a b c => le_trans
  have hadd : ∀ a b c : ℕ, a ≤ b → a + c ≤ b + c := fun a b c h => Nat.add_le_add_right h c
  refine Ledger.Books.run htrans hadd run.state run.len State.tasks State.effects ?_ (fun n hn => ?_) n hn
  · rw [run.init, heffects]
    refine Ledger.balanced_nil ?_ s₀.tasks htasks
    exact le_refl
  · refine books_of_step _ _ _ _ _ _ (run.next n hn) (fun t _ => Nat.zero_le _) ?_
    intro rid t event t' op effects hact ht hadv
    obtain ⟨-, hrequest, -⟩ := Advances.request oj pyd svc rid t t' _ _ _ event op effects hadv
    unfold taskOf
    rw [hrequest]
    rcases lookup_of_advance (fun _ => kind) rid t t' _ _ _ event op effects hadv with
      ⟨status, hbefore, hafter, -, hsum⟩ | ⟨hsum, hbefore, -⟩
    · rw [hsum, hbefore, hafter]
      simp
    · rw [hsum, add_zero]
      split
      · next h => rw [if_pos ⟨hbefore h.1, h.2⟩]
      · exact Nat.zero_le _

/-- **Run.**  A task past a lookup without a match has had it recorded. -/
theorem misses_ge (n : ℕ) (hn : n ≤ run.len) :
    Ledger.Balanced (fun a b => b ≤ a) (Effect.lookedUp (missesOf kind))
      (svc.taskOf Phase.pastMiss kind) (run.state n).tasks (run.state n).effects := by
  have hadd : ∀ a b c : ℕ, b ≤ a → b + c ≤ a + c := fun a b c h => Nat.add_le_add_right h c
  have htrans : ∀ a b c : ℕ, b ≤ a → c ≤ b → c ≤ a := fun a b c hab hbc => le_trans hbc hab
  refine Ledger.Books.run htrans hadd run.state run.len State.tasks State.effects ?_ (fun n hn => ?_) n hn
  · rw [run.init, heffects]
    refine Ledger.balanced_nil ?_ s₀.tasks htasks
    exact le_refl
  · refine books_of_step _ _ _ _ _ _ (run.next n hn) ?_ ?_
    · intro t hp
      unfold taskOf
      rw [hp]
      simp [Phase.pastMiss]
    · intro rid t event t' op effects hact ht hadv
      obtain ⟨-, hrequest, -⟩ := Advances.request oj pyd svc rid t t' _ _ _ event op effects hadv
      unfold taskOf
      rw [hrequest]
      rcases lookup_of_advance (missesOf kind) rid t t' _ _ _ event op effects hadv
        with ⟨status, -, -, hmiss, hsum⟩ | ⟨hsum, -, hpast⟩
      · rw [hsum]
        rcases hmiss with rfl | hnot
        · unfold missesOf
          split <;> simp_all
        · simp [hnot]
      · rw [hsum, add_zero]
        split
        · next h => rw [if_pos ⟨hpast h.1, h.2⟩]
        · exact Nat.zero_le _

end

section
variable {s₀ : State F E} (run : Run (svc.step np oj pyd) s₀) (htasks : ∀ rid, s₀.tasks rid = none)
  (hstore : s₀.store.items = [])
include htasks hstore

/-- What a search found can be read back: a MISS put it there. -/
theorem exists_modelValidate (n : ℕ) (hn : n ≤ run.len) (rid : RequestId) (t : Task F) (best : ScoredEntry F)
    (hfound : Found run n rid t best) (uuid : String) (now : Int) :
    ∃ cached, ChatCompletionResponse.modelValidate pyd uuid now best.entry.response = .ok cached := by
  obtain ⟨j, hj, -, -, ⟨found, hsearch, hhead⟩, -⟩ := hfound
  obtain ⟨hlive, -⟩ := InMemoryVectorStore.mem_search np _ _ _ _ _ found hsearch best (List.mem_of_mem_head? hhead)
  obtain ⟨hmem, -⟩ := (InMemoryVectorStore.mem_liveEntries _ _ _ _).mp hlive
  obtain ⟨i, hi, ⟨rid', q', l', response, e, hstored, hsame⟩, -⟩ :=
    stored_of_mem run hstore j (by omega) best.entry hmem
  obtain ⟨-, -, ttlSeconds, tags, id, createdAt, -, he⟩ :=
    stored_entry run htasks i (by omega) rid' q' l' response e hstored
  have hdump : best.entry.response = response.modelDump := by
    rw [← show e.response = best.entry.response from congrArg (·.response) hsame, he]
    rfl
  exact ⟨response, by rw [hdump, ChatCompletionResponse.modelValidate_modelDump]⟩

/-- **Step.**  A task going on credits what it is answered from the cache. -/
theorem credited_advance (n : ℕ) (hn : n < run.len) (rid : RequestId) (t t' : Task F) (event : Event)
    (op : StoreOp F) (effects : List (Effect F)) (hact : run.act n = .task rid event)
    (ht : (run.state n).tasks rid = some t)
    (h : svc.Advances oj pyd rid t (run.state n).now (run.state n).perf
      (svc.search np rid t.request (run.state n).now (run.state n).store) event t' op effects) :
    svc.credited t + (effects.map Effect.ofHit).sum = svc.credited t' := by
  obtain ⟨hstarted, hinv⟩ := tasksInv run htasks n (by omega) rid t ht
  have hnext := phaseInv_advance run n rid t t' event op effects hact hstarted hinv h
  have hnone : ∀ {p : Phase F}, t.phase = p → p.isHit = false → svc.credited t = 0 :=
    fun hp hnot => svc.credited_of_not_isHit t (by rw [hp]; exact hnot)
  have hrunning : t.phase.running = true → svc.credited t = 0 := by
    intro hrun
    apply svc.credited_of_not_isHit
    cases hp : t.phase with
    | hit l best cached => rw [hp] at hrun; cases hrun
    | _ => rfl
  cases h with
  | embedded hp => rw [hnone hp rfl]; rfl
  | searchRaised e hp => rw [hnone hp rfl]; rfl
  | matched hits best hp => rw [hnone hp rfl]; rfl
  | unmatchedStream hits l hp hfound hl hmiss =>
    rw [hnone hp rfl, cost_lookupEffects Effect.ofHit (fun _ _ _ _ => rfl), hmiss]
    rfl
  | unmatchedBuffered hits l hp hfound hl hmiss =>
    rw [hnone hp rfl, cost_lookupEffects Effect.ofHit (fun _ _ _ _ => rfl), hmiss]
    rfl
  | cachedInvalid best uuid sampled e l hp hl hvalid =>
    rw [hp] at hinv
    obtain ⟨cached, hcached⟩ := exists_modelValidate run htasks hstore n (by omega) rid t best hinv.1 uuid
      (truncate (run.state n).now)
    rw [hcached] at hvalid
    cases hvalid
  | cached best uuid sampled response l hp hl hvalid =>
    have hhit : l.status = .hit := hnext.2.1
    rw [hnone hp rfl, List.map_append, List.sum_append, List.map_cons, List.sum_cons,
      cost_lookupEffects Effect.ofHit (fun _ _ _ _ => rfl),
      cost_maybeValidate Effect.ofHit (fun _ _ => rfl), hhit, zero_add, add_zero]
    rfl
  | completed l started response hp =>
    rw [hnone hp rfl, svc.credited_of_not_isHit _ (phase_keep t l response).1]
    rfl
  | chunkRaised l a bytes e hp => rw [hnone hp rfl]; rfl
  | chunk l a a' bytes hp => rw [hnone hp rfl]; rfl
  | incomplete l a uuid hp => rw [hnone hp rfl]; rfl
  | buildRaised l a uuid e hp => rw [hnone hp rfl]; rfl
  | built l a uuid response hp =>
    rw [hnone hp rfl, svc.credited_of_not_isHit _ (phase_keep t l response).1]
    rfl
  | storeEmbedded l response ttlSeconds tags id hp => rw [hnone hp rfl]; rfl
  | upserted l response entry hp => rw [hnone hp rfl]; rfl
  | taken l best response chunk hp =>
    unfold credited
    simp only [hp]
    exact add_zero _
  | raised e hp => rw [hrunning hp]; rfl
  | abandoned hp => rw [hrunning hp]; rfl

/-- **Run.**  The records of hits and savings are those of the tasks answered from the cache. -/
theorem credited_balanced (heffects : s₀.effects = []) (n : ℕ) (hn : n ≤ run.len) :
    Ledger.Balanced Eq Effect.ofHit svc.credited (run.state n).tasks (run.state n).effects := by
  have htrans : ∀ a b c : Multiset (Effect F), a = b → b = c → a = c := fun a b c => Eq.trans
  have hadd : ∀ a b c : Multiset (Effect F), a = b → a + c = b + c := fun a b c h => congrArg (· + c) h
  refine Ledger.Books.run htrans hadd run.state run.len State.tasks State.effects ?_ (fun n hn => ?_) n hn
  · rw [run.init, heffects]
    exact Ledger.balanced_nil (fun _ => rfl) s₀.tasks htasks
  · refine books_of_step _ _ _ _ _ _ (run.next n hn) (fun t hp => ?_) ?_
    · exact (svc.credited_of_not_isHit t (by rw [hp]; rfl)).symm
    · exact fun rid t event t' op effects hact ht hadv =>
        credited_advance run htasks hstore n hn rid t t' event op effects hact ht hadv

end

end

/-! ## Reading the metrics -/

section
variable {F E : Type} (svc : ProxyService F E)

/-- How many of the tasks are in such a phase, for such a provider and model. -/
def count (ids : Finset RequestId) (tasks : RequestId → Option (Task F)) (phase : Phase F → Bool)
    (kind : String → String → Bool) : ℕ :=
  (ids.filter fun rid => (tasks rid).any fun t =>
    phase t.phase && kind (svc.resolveProvider t.request) t.request.model).card

theorem sum_heldAt_taskOf (ids : Finset RequestId) (tasks : RequestId → Option (Task F)) (phase : Phase F → Bool)
    (kind : String → String → Bool) :
    ∑ rid ∈ ids, Ledger.heldAt (svc.taskOf phase kind) tasks rid = svc.count ids tasks phase kind := by
  unfold count
  rw [Finset.card_filter]
  refine Finset.sum_congr rfl fun rid _ => ?_
  unfold Ledger.heldAt taskOf
  cases tasks rid with
  | none => rfl
  | some t => simp

end

/-- The tokens a task answered from the cache did not cost. -/
def tokensOf {F : Type} [Field F] (t : Task F) : F :=
  match t.phase with
  | .hit _ _ cached => (cached.usage.promptTokens : F) + (cached.usage.completionTokens : F)
  | _ => 0

/-- The dollars. -/
def dollarsOf {F : Type} [Field F] (pricing : List (String × F × F)) (t : Task F) : F :=
  match t.phase with
  | .hit _ _ cached => dollars pricing t.request.model cached.usage.promptTokens cached.usage.completionTokens
  | _ => 0

section
variable {F E : Type} [Field F] [LinearOrder F] (svc : ProxyService F E)

/-- What the metrics say, of the tasks there are. -/
structure Metered {prom : Prometheus F} (m : CacheMetrics prom) (ids : Finset RequestId)
    (tasks : RequestId → Option (Task F)) : Prop where
  /-- Hits are counted exactly. -/
  cacheHits : ∀ provider model, prom.value (m.cacheHits (provider, model)) =
    (svc.count ids tasks Phase.isHit (label provider model) : F)
  tokensSaved : prom.value m.tokensSaved = ∑ rid ∈ ids, Ledger.heldAt tokensOf tasks rid
  costSaved : prom.value m.costSaved = ∑ rid ∈ ids, Ledger.heldAt (dollarsOf defaultPricing) tasks rid
  /-- Misses are those past their lookup without a match, and some that failed since. -/
  cacheMisses : ∀ provider model, (svc.count ids tasks Phase.pastMiss (label provider model) : F) ≤
    prom.value (m.cacheMisses (provider, model))
  /-- No task is counted twice. -/
  lookups : ∀ provider model, prom.value (m.cacheHits (provider, model)) +
    prom.value (m.cacheMisses (provider, model)) ≤ (svc.count ids tasks Phase.pastLookup (label provider model) : F)
  hits : m.hits = svc.count ids tasks Phase.isHit anyLabel
  total : svc.count ids tasks Phase.isHit anyLabel + svc.count ids tasks Phase.pastMiss anyLabel ≤ m.total ∧
    m.total ≤ svc.count ids tasks Phase.pastLookup anyLabel
  hitRate : m.hitRate = (if m.total ≠ 0 then (m.hits : F) / m.total else 0) ∧ 0 ≤ m.hitRate ∧ m.hitRate ≤ 1

end

/-! ### One series at a time -/

section
variable {F E : Type} [Field F] [LinearOrder F] {svc : ProxyService F E} {prom : Prometheus F}
  (m : CacheMetrics prom) (effects : List (Effect F)) (h : ({} : CacheMetrics prom).recordAll effects = .ok m)
include h

theorem reading_eq_sum (s : Series) : m.reading s = (effects.map fun e => e.adds defaultPricing s).sum := by
  obtain ⟨hread, -⟩ := CacheMetrics.reading_recordAll _ m effects CacheMetrics.rated_new h
  rw [hread s, CacheMetrics.reading_new, zero_add]

theorem reading_eq_lookups (s : Series) (kind : CacheStatus → String → String → Bool) (hkind : s.kind = some kind) :
    m.reading s = ((effects.map (Effect.lookedUp kind)).sum : ℕ) := by
  rw [reading_eq_sum m effects h s, Nat.cast_list_sum, List.map_map]
  exact congrArg List.sum (List.map_congr_left fun e _ => adds_of_kind defaultPricing s kind hkind e)

/-- A series only HITs count in says what is credited to the tasks. -/
theorem reading_eq_credited (s : Series) (hs : s.isOfHit = true) (tasks : RequestId → Option (Task F))
    (hbal : Ledger.Balanced Eq Effect.ofHit svc.credited tasks effects) (ids : Finset RequestId)
    (hids : ∀ rid, rid ∈ ids ↔ (tasks rid).isSome = true) :
    m.reading s = ∑ rid ∈ ids, Ledger.heldAt (fun t => addsHom defaultPricing s (svc.credited t)) tasks rid := by
  rw [reading_eq_sum m effects h s]
  have hsum := (hbal.map (addsHom defaultPricing s)).sum ids hids
  have hcost : (effects.map fun e => e.adds defaultPricing s) = effects.map (addsHom defaultPricing s ∘ Effect.ofHit) :=
    List.map_congr_left fun e _ => (addsHom_ofHit defaultPricing s hs e).symm
  rw [hcost]
  exact hsum

end

section
variable {F E : Type} [Field F] (svc : ProxyService F E) (pricing : List (String × F × F)) (t : Task F)

theorem addsHom_credited (s : Series) :
    addsHom pricing s (svc.credited t) =
      match t.phase with
      | .hit _ _ cached =>
        (if s ∈ lookupSeries (svc.resolveProvider t.request) t.request.model .hit then 1 else 0) +
          (recordSavings t.request cached).adds pricing s
      | _ => 0 := by
  unfold credited
  cases t.phase with
  | hit l best cached => exact Multiset.sum_pair _ _
  | _ => rfl

theorem addsHom_credited_hits (s : Series) (kind : String → String → Bool)
    (hkind : s.kind = some (hitsOf kind)) :
    addsHom pricing s (svc.credited t) = (svc.taskOf Phase.isHit kind t : F) := by
  rw [addsHom_credited]
  unfold taskOf
  cases hp : t.phase with
  | hit l best cached =>
    have hlookup := adds_of_kind pricing s _ hkind
      (.recordLookup .hit (svc.resolveProvider t.request) t.request.model l.score l.latencyMs)
    have hsavings := adds_of_kind pricing s _ hkind (recordSavings t.request cached)
    refine (congrArg₂ (· + ·) hlookup hsavings).trans ?_
    simp [Effect.lookedUp, recordSavings, hitsOf, Phase.isHit]
  | _ => simp [Phase.isHit]

theorem addsHom_credited_tokens : addsHom pricing .tokensSaved (svc.credited t) = (tokensOf t : F) := by
  rw [addsHom_credited]
  unfold tokensOf
  cases t.phase with
  | hit l best cached => exact zero_add _
  | _ => rfl

theorem addsHom_credited_cost : addsHom pricing .costSaved (svc.credited t) = dollarsOf pricing t := by
  rw [addsHom_credited]
  unfold dollarsOf
  cases t.phase with
  | hit l best cached => exact zero_add _
  | _ => rfl

end

/-! ### All of them -/

section
variable {F E : Type} [Field F] [LinearOrder F] [IsStrictOrderedRing F] {np : Numpy F} {oj : Orjson}
  {pyd : Pydantic} {svc : ProxyService F E} {s₀ : State F E} (run : Run (svc.step np oj pyd) s₀)
  (htasks : ∀ rid, s₀.tasks rid = none) (hstore : s₀.store.items = []) (heffects : s₀.effects = [])
  (n : ℕ) (hn : n ≤ run.len) (ids : Finset RequestId)
  (hids : ∀ rid, rid ∈ ids ↔ ((run.state n).tasks rid).isSome = true)
include htasks hstore heffects hn hids

theorem metered_of_recordAll {prom : Prometheus F} (m : CacheMetrics prom)
    (h : ({} : CacheMetrics prom).recordAll (run.state n).effects = .ok m) :
    Metered svc m ids (run.state n).tasks := by
  have hbal := credited_balanced run htasks hstore heffects n hn
  have hcredited := fun s hs => reading_eq_credited m _ h s hs _ hbal ids hids
  have hlookups := fun s kind hkind => reading_eq_lookups m _ h s kind hkind
  have hhits : ∀ s kind, s.isOfHit = true → s.kind = some (hitsOf kind) →
      m.reading s = (svc.count ids (run.state n).tasks Phase.isHit kind : ℕ) := by
    intro s kind hs hkind
    rw [hcredited s hs, ← sum_heldAt_taskOf, Nat.cast_sum]
    refine Finset.sum_congr rfl fun rid _ => ?_
    unfold Ledger.heldAt
    cases (run.state n).tasks rid with
    | none => exact Nat.cast_zero.symm
    | some t => exact addsHom_credited_hits svc defaultPricing t s kind hkind
  have hmisses : ∀ kind, svc.count ids (run.state n).tasks Phase.pastMiss kind ≤
      ((run.state n).effects.map (Effect.lookedUp (missesOf kind))).sum := by
    intro kind
    rw [← sum_heldAt_taskOf]
    exact (misses_ge run htasks heffects kind n hn).sum ids hids
  have hboth : ∀ kind, ((run.state n).effects.map (Effect.lookedUp fun _ => kind)).sum ≤
      svc.count ids (run.state n).tasks Phase.pastLookup kind := by
    intro kind
    rw [← sum_heldAt_taskOf]
    exact (lookups_le run htasks heffects kind n hn).sum ids hids
  have hhits' : m.hits = svc.count ids (run.state n).tasks Phase.isHit anyLabel :=
    Nat.cast_injective (hhits .hits anyLabel rfl rfl)
  have htotal : m.total = ((run.state n).effects.map (Effect.lookedUp fun _ => anyLabel)).sum :=
    Nat.cast_injective (hlookups .total _ rfl)
  have hrecorded : m.hits = ((run.state n).effects.map (Effect.lookedUp (hitsOf anyLabel))).sum :=
    Nat.cast_injective (hlookups .hits _ rfl)
  have hle : m.hits ≤ m.total := by
    rw [hrecorded, htotal, ← lookedUp_hits_add_misses]
    exact Nat.le_add_right _ _
  obtain ⟨-, hrated, -⟩ := CacheMetrics.reading_recordAll _ m _ CacheMetrics.rated_new h
  exact {
    cacheHits := fun provider model => hhits (.cacheHits provider model) (label provider model) rfl rfl
    tokensSaved := by
      refine (hcredited .tokensSaved rfl).trans ?_
      simp only [addsHom_credited_tokens]
    costSaved := by
      refine (hcredited .costSaved rfl).trans ?_
      simp only [addsHom_credited_cost]
    cacheMisses := fun provider model => by
      refine le_of_le_of_eq ?_ (hlookups (.cacheMisses provider model) _ rfl).symm
      exact Nat.cast_le.mpr (hmisses (label provider model))
    lookups := fun provider model => by
      have hsum := congrArg₂ (· + ·) (hlookups (.cacheHits provider model) _ rfl)
        (hlookups (.cacheMisses provider model) _ rfl)
      refine le_of_eq_of_le hsum ?_
      rw [← Nat.cast_add, lookedUp_hits_add_misses]
      exact Nat.cast_le.mpr (hboth (label provider model))
    hits := hhits'
    total := by
      constructor
      · rw [htotal, ← lookedUp_hits_add_misses, ← hrecorded, hhits']
        exact Nat.add_le_add_left (hmisses anyLabel) _
      · rw [htotal]
        exact hboth anyLabel
    hitRate := by
      refine ⟨hrated, ?_⟩
      rw [show m.hitRate = _ from hrated]
      split
      · next hne =>
        have hpos : (0 : F) < m.total := Nat.cast_pos.mpr (Nat.pos_of_ne_zero hne)
        exact ⟨div_nonneg (Nat.cast_nonneg _) hpos.le, (div_le_one hpos).mpr (Nat.cast_le.mpr hle)⟩
      · exact ⟨le_rfl, zero_le_one⟩ }

omit [IsStrictOrderedRing F] in
/-- Whose hits and savings are in the log. -/
theorem mem_effects_iff (e : Effect F) (he : e.ofHit = {e}) :
    e ∈ (run.state n).effects ↔ ∃ rid t, (run.state n).tasks rid = some t ∧ e ∈ svc.credited t := by
  have hsum := (credited_balanced run htasks hstore heffects n hn).sum ids hids
  have hlog : ∀ es : List (Effect F), e ∈ (es.map Effect.ofHit).sum ↔ e ∈ es := by
    intro es
    induction es with
    | nil => simp
    | cons e' es ih =>
      rw [List.map_cons, List.sum_cons, Multiset.mem_add, ih, List.mem_cons]
      refine or_congr ⟨fun hmem => ?_, fun heq => ?_⟩ Iff.rfl
      · cases e' with
        | recordLookup status =>
          cases status with
          | hit => exact Multiset.mem_singleton.mp hmem
          | miss => exact absurd hmem (Multiset.notMem_zero e)
        | recordSavings => exact Multiset.mem_singleton.mp hmem
        | _ => exact absurd hmem (Multiset.notMem_zero e)
      · rw [← heq, he]
        exact Multiset.mem_singleton_self e
  rw [← hlog, hsum, Multiset.mem_sum]
  constructor
  · rintro ⟨rid, -, hmem⟩
    unfold Ledger.heldAt at hmem
    cases ht : (run.state n).tasks rid with
    | none =>
      rw [ht] at hmem
      exact absurd hmem (Multiset.notMem_zero e)
    | some t =>
      rw [ht] at hmem
      exact ⟨rid, t, ht, hmem⟩
  · rintro ⟨rid, t, ht, hmem⟩
    refine ⟨rid, (hids rid).mpr (by rw [ht]; rfl), ?_⟩
    unfold Ledger.heldAt
    rw [ht]
    exact hmem

omit hids

/-- **Metering.**  In every state of every run from a fresh start: recording what was done
raises exactly when a HIT's savings are below zero, and else the metrics say of each
provider and model how many tasks were answered from the cache, and in all what their
answers would have cost. -/
theorem metered (prom : Prometheus F) :
    ∃ ids : Finset RequestId, (∀ rid, rid ∈ ids ↔ ((run.state n).tasks rid).isSome = true) ∧
      ((∃ m, ({} : CacheMetrics prom).recordAll (run.state n).effects = .ok m) ↔
        ∀ rid t l best cached, (run.state n).tasks rid = some t → t.phase = .hit l best cached →
          (recordSavings t.request cached : Effect F).Creditable defaultPricing) ∧
      ∀ m, ({} : CacheMetrics prom).recordAll (run.state n).effects = .ok m →
        Metered svc m ids (run.state n).tasks := by
  obtain ⟨ids, hids, -⟩ := credited_balanced run htasks hstore heffects n hn
  refine ⟨ids, hids, ?_, fun m h => metered_of_recordAll run htasks hstore heffects n hn ids hids m h⟩
  rw [CacheMetrics.exists_recordAll _ _ CacheMetrics.rated_new]
  constructor
  · intro h rid t l best cached ht hp
    refine h _ ((mem_effects_iff run htasks hstore heffects n hn ids hids (recordSavings t.request cached) rfl).mpr
      ⟨rid, t, ht, ?_⟩)
    unfold credited
    rw [hp]
    exact Multiset.mem_cons_of_mem (Multiset.mem_singleton_self _)
  · intro h e he
    cases e with
    | recordSavings model promptTokens completionTokens =>
      obtain ⟨rid, t, ht, hmem⟩ := (mem_effects_iff run htasks hstore heffects n hn ids hids _ rfl).mp he
      unfold credited at hmem
      cases hp : t.phase with
      | hit l best cached =>
        rw [hp] at hmem
        obtain heq | heq := Multiset.mem_cons.mp hmem
        · cases heq
        · rw [Multiset.mem_singleton.mp heq]
          exact h rid t l best cached ht hp
      | _ => rw [hp] at hmem; exact absurd hmem (Multiset.notMem_zero _)
    | _ => trivial

end

/-- Collectors that are numbers. -/
def numbers : Prometheus ℚ where
  Counter := ℚ
  Histogram := ℕ
  counter := 0
  value := id
  inc c x := if x < 0 then .error .valueError else .ok (c + x)
  histogram := 0
  count := id
  observe h _ := h + 1
  value_counter := rfl
  inc_ok c x hx := ⟨c + x, if_neg (not_lt.mpr hx), rfl⟩
  inc_neg _ _ hx := if_pos hx
  count_histogram := rfl
  count_observe _ _ := rfl

theorem oceanRun_recorded :
    (({} : CacheMetrics numbers).recordAll (oceanRun.state 12).effects).toOption.any
      (fun m => m.hits = 1 ∧ m.total = 2) = true := by
  decide +kernel

/-- Of the two requests of the run one was answered from the cache, and counted. -/
theorem metered_ocean : ∃ (ids : Finset RequestId) (m : CacheMetrics numbers), (⟨"team", 1⟩ : RequestId) ∈ ids ∧
    Metered plainService m ids (oceanRun.state 12).tasks ∧ m.hits = 1 ∧ m.total = 2 := by
  obtain ⟨ids, hids, -, hmetered⟩ := metered oceanRun (fun _ => rfl) rfl rfl 12 le_rfl numbers
  obtain ⟨m, hm, hcounts⟩ := (Option.any_eq_true _ _).mp oceanRun_recorded
  obtain ⟨hhits, htotal⟩ := of_decide_eq_true hcounts
  obtain ⟨q, -, -, -, hq, -⟩ := oceanRun_hit
  refine ⟨ids, m, (hids _).mpr (by rw [hq]; rfl), hmetered m ?_, hhits, htotal⟩
  cases hrecorded : ({} : CacheMetrics numbers).recordAll (oceanRun.state 12).effects with
  | error e => rw [hrecorded] at hm; cases hm
  | ok m' =>
    rw [hrecorded] at hm
    exact congrArg Except.ok (Option.some.inj hm)

end ProxyService

end CachingLayer
