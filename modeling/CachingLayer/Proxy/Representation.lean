import CachingLayer.Embeddings.Base
import CachingLayer.Proxy.Soundness

/-!
# Vectors are seen through their similarities

Two services that differ in how they embed prompts, but not in the similarity of any two of
them, run alike: request by request, and step by step, they do the same, and their states are
the same up to the vectors kept with the entries (`exec_reembed`).  A service of vectors brought to length one
is such a service (`vectors_unseen`).

`reembed` replaces the vector of every entry by the one that another embedding gives its prompt.
-/

namespace CachingLayer

open Text

section
variable {F : Type} (embed : String → List F)

def CacheEntry.reembed (e : CacheEntry F) : CacheEntry F := { e with embedding := embed e.prompt }

def ScoredEntry.reembed (s : ScoredEntry F) : ScoredEntry F := { s with entry := s.entry.reembed embed }

def CacheLookup.reembed (l : CacheLookup F) : CacheLookup F := { l with best := l.best.map (·.reembed embed) }

def Phase.reembed : Phase F → Phase F
  | .embedding => .embedding
  | .searching => .searching
  | .incrementing best => .incrementing (best.reembed embed)
  | .completing l started => .completing (l.reembed embed) started
  | .forwarding l assembler => .forwarding (l.reembed embed) assembler
  | .storing l response ttlSeconds tags => .storing (l.reembed embed) response ttlSeconds tags
  | .upserting l response entry => .upserting (l.reembed embed) response (entry.reembed embed)
  | .hit l best cached => .hit (l.reembed embed) (best.reembed embed) cached
  | .missed l response => .missed (l.reembed embed) response
  | .failed e => .failed e
  | .abandoned => .abandoned

def Task.reembed (t : Task F) : Task F := { t with phase := t.phase.reembed embed }

def InMemoryVectorStore.reembed (store : InMemoryVectorStore F) : InMemoryVectorStore F :=
  store.mapItems (·.reembed embed) fun _ => rfl

def StoreOp.reembed : StoreOp F → StoreOp F
  | keep => keep
  | incrementHit id => incrementHit id
  | upsert entry => upsert (entry.reembed embed)

def State.reembed {E : Type} (s : State F E) : State F E :=
  { s with store := InMemoryVectorStore.reembed embed s.store, tasks := fun rid => (s.tasks rid).map (·.reembed embed) }

def SemanticCache.reembed (c : SemanticCache F) : SemanticCache F := { c with embed }

def ProxyService.reembed {E : Type} (svc : ProxyService F E) : ProxyService F E :=
  { svc with cache := svc.cache.reembed embed }

/-! ## The store -/

theorem InMemoryVectorStore.delete_reembed (store : InMemoryVectorStore F) (m h t : Option String) :
    ((store.reembed embed).delete m h t).2 = InMemoryVectorStore.reembed embed (store.delete m h t).2 := by
  unfold InMemoryVectorStore.delete
  split
  · rfl
  · exact Keyed.filter_mapItems store _ _ _ fun e => rfl

theorem StoreOp.apply_reembed (op : StoreOp F) (store : InMemoryVectorStore F) :
    (op.reembed embed).apply (store.reembed embed) = InMemoryVectorStore.reembed embed (op.apply store) := by
  cases op with
  | keep => rfl
  | incrementHit id =>
    exact Keyed.modify_mapItems _ _ store id (fun e => { e with hitCount := e.hitCount + 1 }) (fun _ => rfl) fun _ => rfl
  | upsert entry => exact Keyed.put_mapItems _ _ store entry

end

section
variable {F : Type} [Field F] [LinearOrder F] (np : Numpy F) (embed : String → List F)

theorem SemanticCache.outcome_reembed (c : SemanticCache F) (threshold : Option F) (found : List (ScoredEntry F))
    (ms : ℚ) :
    (c.reembed embed).outcome threshold (found.map (·.reembed embed)) ms = (c.outcome threshold found ms).reembed embed := by
  unfold SemanticCache.outcome
  rw [List.head?_map]
  cases found.head? with
  | none => rfl
  | some best =>
    show (if c.effectiveThreshold threshold ≤ best.score then _ else _) =
      (if c.effectiveThreshold threshold ≤ best.score then _ else _ : CacheLookup F).reembed embed
    split <;> rfl

omit [Field F] [LinearOrder F] in
theorem CacheLookup.served_reembed (l : CacheLookup F) :
    (l.reembed embed).served = l.served.map (·.reembed embed) := by
  unfold CacheLookup.served
  show (if l.isHit then _ else _) = _
  split <;> rfl

/-- The same similarities, and vectors one can compare. -/
structure SameSimilarities (embed embed' : String → List F) : Prop where
  comparable : ∃ d, 0 < d ∧ ∀ p, (embed p).length = d
  comparable' : ∃ d, 0 < d ∧ ∀ p, (embed' p).length = d
  same : ∀ p q, rowSimilarity np (embed' p) (embed' q) = rowSimilarity np (embed p) (embed q)

/-- A search finds the same entries, under the same scores. -/
theorem InMemoryVectorStore.search_reembed (embed' : String → List F) (h : SameSimilarities np embed embed')
    (store : InMemoryVectorStore F) (hstore : ∀ e ∈ store.items, e.embedding = embed e.prompt) (now : ℚ) (ns : String)
    (prompt : String) (k : Nat) :
    (store.reembed embed').search np now ns (embed' prompt) k =
      (store.search np now ns (embed prompt) k).map (List.map (·.reembed embed')) := by
  obtain ⟨d, hd, hlength⟩ := h.comparable
  obtain ⟨d', hd', hlength'⟩ := h.comparable'
  have hlive : (store.reembed embed').liveEntries now ns = (store.liveEntries now ns).map (·.reembed embed') := by
    show (store.items.map _).filter _ = _
    rw [List.filter_map]
    rfl
  have hown : ∀ e ∈ store.liveEntries now ns, e.embedding = embed e.prompt :=
    fun e he => hstore e (List.mem_of_mem_filter he)
  rw [search_of_length_eq np store now ns _ k (fun e he => by rw [hown e he, hlength, hlength])
      (List.ne_nil_of_length_pos (by rw [hlength]; exact hd)),
    search_of_length_eq np _ now ns _ k ?_ (List.ne_nil_of_length_pos (by rw [hlength']; exact hd')), hlive]
  · have hscores : ((store.liveEntries now ns).map (·.reembed embed')).map
        (fun e => rowSimilarity np (embed' prompt) e.embedding) =
          (store.liveEntries now ns).map fun e => rowSimilarity np (embed prompt) e.embedding := by
      rw [List.map_map]
      refine List.map_congr_left fun e he => ?_
      rw [hown e he]
      exact h.same prompt e.prompt
    rw [hscores]
    show Except.ok _ = Except.ok _
    congr 1
    rw [List.map_filterMap]
    refine List.filterMap_congr fun i _ => ?_
    rw [List.getElem?_map]
    cases hi : (store.liveEntries now ns)[i]? with
    | none => rfl
    | some e =>
      have hscore : rowSimilarity np (embed' prompt) (e.reembed embed').embedding =
          rowSimilarity np (embed prompt) e.embedding := by
        rw [hown e (List.mem_of_getElem? hi)]
        exact h.same prompt e.prompt
      show some (⟨e.reembed embed', _⟩ : ScoredEntry F) = some (ScoredEntry.reembed embed' ⟨e, _⟩)
      rw [hscore]
      rfl
  · rw [hlive]
    intro e he
    obtain ⟨e', -, rfl⟩ := List.mem_map.mp he
    exact (hlength' _).trans (hlength' _).symm

end

namespace ProxyService

/-! ## A step -/

section
variable {F E : Type} [Field F] [LinearOrder F] (np : Numpy F) (oj : Orjson) (pyd : Pydantic)
  (svc : ProxyService F E) (embed : String → List F)

omit [Field F] [LinearOrder F] in
theorem keep_reembed (t : Task F) (l : CacheLookup F) (response : ChatCompletionResponse) :
    (svc.reembed embed).keep (t.reembed embed) (l.reembed embed) response = (svc.keep t l response).reembed embed := by
  unfold keep
  have hpolicy : (svc.reembed embed).resolvePolicy (t.reembed embed).request response =
      svc.resolvePolicy t.request response := rfl
  simp only [hpolicy]
  by_cases hpos : (svc.resolvePolicy t.request response).1 > 0
  · simp only [if_pos hpos]
    rfl
  · simp only [if_neg hpos]
    rfl

theorem advance_reembed (rid : RequestId) (t : Task F) (now perf : ℚ)
    (found : Except PyError (List (ScoredEntry F))) (event : Event) :
    (svc.reembed embed).advance oj pyd rid (t.reembed embed) now perf (found.map (List.map (·.reembed embed))) event =
      (svc.advance oj pyd rid t now perf found event).map fun r => (r.1.reembed embed, r.2.1.reembed embed, r.2.2) := by
  obtain ⟨streaming, request, threshold, started, sent, phase⟩ := t
  cases event with
  | searched =>
    cases phase with
    | searching =>
      cases found with
      | error e => rfl
      | ok found =>
        have hout := svc.cache.outcome_reembed embed threshold found ((perf - started) * 1000)
        have hserved := CacheLookup.served_reembed embed (svc.cache.outcome threshold found ((perf - started) * 1000))
        rw [← hout] at hserved
        unfold advance
        simp only [Task.reembed, Phase.reembed, Except.map]
        change (svc.reembed embed).cache.outcome _ _ _ = _ at hout
        rw [hout]
        generalize svc.cache.outcome threshold found ((perf - started) * 1000) = l
        rw [CacheLookup.served_reembed]
        cases l.served with
        | none => cases streaming <;> rfl
        | some best => rfl
    | _ => rfl
  | incremented uuid sampled =>
    cases phase with
    | incrementing best =>
      have hout := svc.cache.outcome_reembed embed threshold [best] ((perf - started) * 1000)
      unfold advance
      simp only [Task.reembed, Phase.reembed]
      change (svc.reembed embed).cache.outcome _ [best.reembed embed] _ = _ at hout
      rw [hout]
      generalize svc.cache.outcome threshold [best] ((perf - started) * 1000) = l
      have hresponse : (best.reembed embed).entry.response = best.entry.response := rfl
      simp only [hresponse]
      cases ChatCompletionResponse.modelValidate pyd uuid (truncate now) best.entry.response <;> rfl
    | _ => rfl
  | completed response =>
    cases phase with
    | completing l began =>
      have hkeep := svc.keep_reembed embed ⟨streaming, request, threshold, started, sent, .completing l began⟩ l response
      exact congrArg (fun t' => some (t', StoreOp.keep, [svc.providerLatency request began perf])) hkeep
    | _ => rfl
  | chunk bytes =>
    cases phase with
    | forwarding l a =>
      unfold advance
      simp only [Task.reembed, Phase.reembed]
      cases a.push oj bytes <;> rfl
    | _ => rfl
  | ended uuid =>
    cases phase with
    | forwarding l a =>
      unfold advance
      simp only [Task.reembed, Phase.reembed]
      by_cases hcompleted : a.parts.completed = true
      · simp only [hcompleted, not_true_eq_false, if_false]
        cases a.buildResponse pyd uuid (truncate now) with
        | error e => rfl
        | ok response =>
          have hkeep := svc.keep_reembed embed ⟨streaming, request, threshold, started, sent, .forwarding l a⟩ l response
          exact congrArg (fun t' => some (t', StoreOp.keep, [])) hkeep
      · simp only [hcompleted]
        rfl
    | _ => rfl
  | taken =>
    cases phase with
    | hit l best cached =>
      unfold advance
      simp only [Task.reembed, Phase.reembed]
      cases streaming with
      | false => rfl
      | true =>
        simp only [if_true, Option.map_map]
        rfl
    | _ => rfl
  | _ => cases phase <;> rfl

/-- What is kept has the vector of its prompt. -/
structure Embedded (s : State F E) : Prop where
  entries : ∀ e ∈ s.store.items, e.embedding = svc.cache.embed e.prompt
  upserting : ∀ rid t l response e, s.tasks rid = some t → t.phase = .upserting l response e →
    e.embedding = svc.cache.embed e.prompt

theorem embedded_step (s s' : State F E) (a : Action E) (hs : svc.Embedded s)
    (h : svc.step np oj pyd s a = some s') : svc.Embedded s' := by
  constructor
  · intro e he
    rcases svc.step_entries np oj pyd s s' a h e he with ⟨e', he', hsame⟩ | ⟨rid, t, l, response, -, ht, hp⟩
    · have hembedding : e'.embedding = e.embedding := congrArg (·.embedding) hsame
      have hprompt : e'.prompt = e.prompt := congrArg (·.prompt) hsame
      rw [← hembedding, ← hprompt]
      exact hs.entries e' he'
    · exact hs.upserting rid t l response e ht hp
  · intro rid t' l response e ht' hp
    rcases svc.step_tasks np oj pyd s s' a h rid t' ht' with
      hold | ⟨streaming, request, -, -, rfl⟩ | ⟨t, event, op, effects, -, ht, hadv⟩
    · exact hs.upserting rid t' l response e hold hp
    · cases hp
    · obtain ⟨id, ttlSeconds, tags, -, rfl⟩ :=
        Advances.upserting oj pyd svc rid t t' _ _ _ event op effects hadv l response e hp
      rfl

/-- **Step.** -/
theorem step_reembed (hsame : SameSimilarities np svc.cache.embed embed) (s : State F E) (a : Action E)
    (hs : svc.Embedded s) :
    (svc.reembed embed).step np oj pyd (s.reembed embed) a = (svc.step np oj pyd s a).map (State.reembed embed) := by
  have hupdate : ∀ rid (t : Task F), Function.update (s.reembed embed).tasks rid (some (t.reembed embed)) =
      fun rid' => (Function.update s.tasks rid (some t) rid').map (·.reembed embed) := by
    intro rid t
    funext rid'
    by_cases h : rid' = rid
    · rw [h, Function.update_self, Function.update_self]
      rfl
    · rw [Function.update_of_ne h, Function.update_of_ne h]
      rfl
  cases a with
  | tick now perf => rfl
  | feedback update => rfl
  | delete m p tag =>
    have hdelete := InMemoryVectorStore.delete_reembed embed s.store m p tag
    exact congrArg (fun store => some { s.reembed embed with store }) hdelete
  | clear => rfl
  | request rid streaming request =>
    cases ht : s.tasks rid with
    | some t =>
      have ht' : (s.reembed embed).tasks rid = some (t.reembed embed) := congrArg (Option.map (Task.reembed embed)) ht
      unfold step
      simp only [ht, ht']
      rfl
    | none =>
      have ht' : (s.reembed embed).tasks rid = none := congrArg (Option.map (Task.reembed embed)) ht
      rw [svc.step_request_of_new np oj pyd s rid streaming request ht,
        (svc.reembed embed).step_request_of_new np oj pyd _ rid streaming request ht']
      have htasks := hupdate rid {
        streaming, request, threshold := svc.thresholdFor s.policy request, started := s.perf }
      exact congrArg (fun tasks => some { s.reembed embed with tasks }) htasks
  | task rid event =>
    cases ht : s.tasks rid with
    | none =>
      have ht' : (s.reembed embed).tasks rid = none := congrArg (Option.map (Task.reembed embed)) ht
      unfold step
      simp only [ht, ht']
      rfl
    | some t =>
      have ht' : (s.reembed embed).tasks rid = some (t.reembed embed) := congrArg (Option.map (Task.reembed embed)) ht
      have hsearch : (svc.reembed embed).search np rid t.request s.now (s.reembed embed).store =
          (svc.search np rid t.request s.now s.store).map (List.map (·.reembed embed)) :=
        InMemoryVectorStore.search_reembed np svc.cache.embed embed hsame s.store hs.entries _ _ _ _
      have hadv := svc.advance_reembed oj pyd embed rid t s.now s.perf (svc.search np rid t.request s.now s.store) event
      rw [← hsearch] at hadv
      cases hgo : svc.advance oj pyd rid t s.now s.perf (svc.search np rid t.request s.now s.store) event with
      | none =>
        rw [hgo] at hadv
        have hnone : svc.step np oj pyd s (.task rid event) = none := by
          unfold step
          simp only [ht, hgo]
        rw [hnone]
        -- Did the other go on, its `advance` would be a step.
        cases hstep : (svc.reembed embed).step np oj pyd (s.reembed embed) (.task rid event) with
        | none => rfl
        | some s' =>
          obtain ⟨t₁, t', op, effects, ht₁, hgo', -⟩ := (svc.reembed embed).step_task np oj pyd _ s' rid event hstep
          obtain rfl := Option.some.inj (ht'.symm.trans ht₁)
          cases hadv.symm.trans hgo'
      | some r =>
        obtain ⟨t', op, effects⟩ := r
        rw [hgo] at hadv
        rw [svc.step_task_of_advance np oj pyd s rid t t' event op effects ht hgo,
          (svc.reembed embed).step_task_of_advance np oj pyd _ rid _ _ event _ effects ht' hadv]
        have happly := StoreOp.apply_reembed embed op s.store
        have htasks := hupdate rid t'
        exact congrArg₂ (fun store tasks => some { s.reembed embed with store, tasks, effects := s.effects ++ effects })
          happly htasks

/-- **Run.**  On the same actions, from states alike but for the vectors, states alike but for them. -/
theorem exec_reembed (hsame : SameSimilarities np svc.cache.embed embed) (acts : List (Action E)) (s : State F E)
    (hs : svc.Embedded s) :
    Run.exec ((svc.reembed embed).step np oj pyd) (s.reembed embed) acts =
      (Run.exec (svc.step np oj pyd) s acts).map (State.reembed embed) :=
  Run.exec_map _ _ (State.reembed embed) svc.Embedded (svc.embedded_step np oj pyd)
    (svc.step_reembed np oj pyd embed hsame) acts s hs

section
variable [IsStrictOrderedRing F]

omit svc in
/-- Vectors brought to length one have the similarities they had. -/
theorem sameSimilarities_normalize (hexact : ExactSqrt np) (embed : String → List F)
    (hcomparable : ∃ d, 0 < d ∧ ∀ p, (embed p).length = d) :
    SameSimilarities np embed fun p => normalize np (embed p) where
  comparable := hcomparable
  comparable' := by
    obtain ⟨d, hd, hlength⟩ := hcomparable
    exact ⟨d, hd, fun p => (length_normalize np _).trans (hlength p)⟩
  same p q := rowSimilarity_normalize np hexact (embed p) (embed q)

/-- **Vectors unseen.**  Take any actions, in any order, from a fresh start: services whose
embeddings have the same similarities refuse the same ones, and else end in the same state, up
to the vectors of the entries; in particular a service that brings its vectors to length one,
where square roots are exact, and the same service without. -/
theorem vectors_unseen (hcomparable : ∃ d, 0 < d ∧ ∀ p, (svc.cache.embed p).length = d) (s₀ : State F E)
    (htasks : ∀ rid, s₀.tasks rid = none) (hstore : s₀.store.items = []) (acts : List (Action E)) :
    (∀ embed, SameSimilarities np svc.cache.embed embed →
      Run.exec ((svc.reembed embed).step np oj pyd) s₀ acts =
        (Run.exec (svc.step np oj pyd) s₀ acts).map (State.reembed embed)) ∧
    (ExactSqrt np →
      Run.exec ((svc.reembed fun p => normalize np (svc.cache.embed p)).step np oj pyd) s₀ acts =
        (Run.exec (svc.step np oj pyd) s₀ acts).map (State.reembed fun p => normalize np (svc.cache.embed p))) := by
  have hsame : ∀ embed, SameSimilarities np svc.cache.embed embed →
      Run.exec ((svc.reembed embed).step np oj pyd) s₀ acts =
        (Run.exec (svc.step np oj pyd) s₀ acts).map (State.reembed embed) := by
    intro embed hsame
    have hembedded : svc.Embedded s₀ := by
      constructor
      · intro e he
        rw [hstore] at he
        cases he
      · intro rid t l response e ht
        rw [htasks rid] at ht
        cases ht
    -- there is no vector yet to be replaced
    have hfresh : s₀.reembed embed = s₀ := by
      have hempty : InMemoryVectorStore.reembed embed s₀.store = s₀.store := by
        apply Keyed.ext_items
        show s₀.store.items.map _ = s₀.store.items
        rw [hstore]
        rfl
      have hnone : (fun rid => (s₀.tasks rid).map (·.reembed embed)) = s₀.tasks := by
        funext rid
        rw [htasks rid]
        rfl
      unfold State.reembed
      rw [hempty, hnone]
    have hexec := svc.exec_reembed np oj pyd embed hsame acts s₀ hembedded
    rw [hfresh] at hexec
    exact hexec
  exact ⟨hsame, fun hexact => hsame _ (sameSimilarities_normalize np hexact svc.cache.embed hcomparable)⟩

end

end

/-- The ocean's requests, with vectors of one direction in the plane. -/
theorem vectors_unseen_ocean :
    ∃ s, Run.exec (plainService.step (.sorting Rat.sqrt) framedCodec .strict) plainStart oceanActions = some s ∧
      Run.exec ((plainService.reembed fun _ => [3, 4]).step (.sorting Rat.sqrt) framedCodec .strict) plainStart
        oceanActions = some (s.reembed fun _ => [3, 4]) := by
  have hone : rowSimilarity (.sorting Rat.sqrt) [(3 : ℚ), 4] [3, 4] = rowSimilarity (.sorting Rat.sqrt) [1] [1] := by
    decide +kernel
  have hsame : SameSimilarities (.sorting Rat.sqrt) plainService.cache.embed fun _ => [3, 4] :=
    ⟨⟨1, one_pos, fun _ => rfl⟩, ⟨2, two_pos, fun _ => rfl⟩, fun _ _ => hone⟩
  obtain ⟨hall, -⟩ := vectors_unseen (.sorting Rat.sqrt) framedCodec .strict plainService ⟨1, one_pos, fun _ => rfl⟩
    plainStart (fun _ => rfl) rfl oceanActions
  obtain ⟨s, hs⟩ := Option.isSome_iff_exists.mp oceanActions_exec
  refine ⟨s, hs, ?_⟩
  rw [hall _ hsame, hs]
  rfl

end ProxyService

end CachingLayer
