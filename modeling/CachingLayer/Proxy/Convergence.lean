import CachingLayer.Cache.MemoryCalls
import CachingLayer.Cache.NearestNeighbour
import CachingLayer.Proxy.Sequential

/-!
# Warming up

A workload of buffered requests, one after another, against an empty cache.  While
nothing expires, what is in the store after some of them is what those of them that
missed put there (`Warmed`), so a request is a HIT exactly when an earlier MISS of its
namespace is similar enough (`hit_iff_nearby`).  What embeds alike is similar: of the
requests of a namespace with one embedding one misses at most, and the misses of a workload
are no more than its different embeddings (`load_converges`).
-/

namespace CachingLayer

/-- One request of a workload, the threshold policy's state when it comes in, and what the
outside says to it. -/
structure Asked (E : Type) where
  tenant : String
  request : ChatCompletionRequest
  policy : E
  upstream : Except PyError ChatCompletionResponse
  readings : Readings

structure Served (F E : Type) where
  asked : Asked E
  result : Except PyError (ProxyResult F)

/-- `X-Cache-Status`, of a request that did not raise. -/
def Served.status {F E : Type} (s : Served F E) : Option CacheStatus :=
  match s.result with
  | .ok r => some r.cacheStatus
  | .error _ => none

/-- Every request is a HIT, a MISS, or raises. -/
theorem length_eq_statuses {F E : Type} (served : List (Served F E)) :
    served.length = served.countP (·.status = some .hit) + served.countP (·.status = some .miss) +
      served.countP (·.status = none) := by
  induction served with
  | nil => rfl
  | cons s served ih =>
    rw [List.length_cons, List.countP_cons, List.countP_cons, List.countP_cons, ih]
    rcases s.status with _ | _ | _ <;> simp <;> omega

namespace ProxyService

section
variable {F E : Type} (svc : ProxyService F E)

/-- What a request is looked up by: its namespace and its prompt. -/
def askedKey (a : Asked E) : String × String :=
  ((svc.requestSignature a.request a.tenant).namespaceKey, a.request.latestUserPrompt)

/-- Where it is looked up: its namespace and its prompt's embedding. -/
def askedPoint (a : Asked E) : String × List F := ((svc.askedKey a).1, svc.cache.embed (svc.askedKey a).2)

/-- The threshold in force for a request. -/
def askedThreshold (a : Asked E) : F := svc.cache.effectiveThreshold (svc.thresholdFor a.policy a.request)

/-- The entry a request has left. -/
def storedBy (s : Served F E) : Option (CacheEntry F) :=
  match s.result with
  | .ok r =>
    if r.cacheStatus = .miss then
      let policy := svc.resolvePolicy s.asked.request r.response
      some (svc.entryFor (svc.requestSignature s.asked.request s.asked.tenant) s.asked.request.latestUserPrompt
        r.response policy.1 policy.2 s.asked.readings.entryId s.asked.readings.createdAt)
    else none
  | .error _ => none

/-- Those that missed left an entry, under their key. -/
theorem storedBy_isSome_iff (s : Served F E) : (svc.storedBy s).isSome ↔ s.status = some .miss := by
  unfold storedBy Served.status
  cases s.result with
  | error e => simp
  | ok r => cases r.cacheStatus <;> simp

theorem storedBy_fields (s : Served F E) (entry : CacheEntry F) (h : svc.storedBy s = some entry) :
    entry.id = s.asked.readings.entryId ∧ entry.namespaceKey = (svc.askedKey s.asked).1 ∧
      entry.embedding = svc.cache.embed (svc.askedKey s.asked).2 ∧
      ∃ response, entry.response = ChatCompletionResponse.modelDump response := by
  unfold storedBy at h
  cases hr : s.result with
  | error e => rw [hr] at h; cases h
  | ok r =>
    rw [hr] at h
    simp only [] at h
    split at h
    · obtain rfl := Option.some.inj h
      exact ⟨rfl, rfl, rfl, r.response, rfl⟩
    · cases h

/-- The store is what the requests before have left, hits apart, and none of it expires. -/
structure Warmed (asked : List (Asked E)) (before : List (Served F E)) (store : InMemoryVectorStore F) : Prop where
  holds_iff : ∀ e, InMemoryVectorStore.Holds store e ↔
    ∃ m ∈ before, ∃ entry, svc.storedBy m = some entry ∧ entry.SameRecord e
  live : ∀ m ∈ before, ∀ entry, svc.storedBy m = some entry →
    0 < entry.ttlSeconds ∧ ∀ b ∈ asked, b.readings.lookup.now - entry.createdAt ≤ entry.ttlSeconds

theorem warmed_new (asked : List (Asked E)) : svc.Warmed asked [] (InMemoryVectorStore.new : InMemoryVectorStore F) where
  holds_iff e := by
    constructor
    · rintro ⟨e', he', -⟩
      cases he'
    · rintro ⟨m, hm, -⟩
      cases hm
  live := by intro m hm; cases hm

section
variable (asked : List (Asked E)) (before : List (Served F E)) (store : InMemoryVectorStore F)
  (hwarm : svc.Warmed asked before store) (a : Asked E) (ha : a ∈ asked)
include hwarm ha

/-- What is live is what the misses of the namespace left. -/
theorem mem_liveEntries_iff (e : CacheEntry F) :
    e ∈ store.liveEntries a.readings.lookup.now (svc.askedKey a).1 ↔
      e ∈ store.items ∧ ∃ m ∈ before, ∃ entry, svc.storedBy m = some entry ∧ entry.SameRecord e ∧
        (svc.askedKey m.asked).1 = (svc.askedKey a).1 := by
  rw [InMemoryVectorStore.mem_liveEntries]
  constructor
  · rintro ⟨he, hns, -, -⟩
    obtain ⟨m, hm, entry, hentry, hsame⟩ := (hwarm.holds_iff e).mp ⟨e, he, rfl⟩
    refine ⟨he, m, hm, entry, hentry, hsame, ?_⟩
    rw [← (svc.storedBy_fields m entry hentry).2.1, ← hns]
    exact congrArg (·.namespaceKey) hsame
  · rintro ⟨he, m, hm, entry, hentry, hsame, hns⟩
    obtain ⟨hpos, hage⟩ := hwarm.live m hm entry hentry
    have hkey : entry.namespaceKey = e.namespaceKey := congrArg (·.namespaceKey) hsame
    have httl : entry.ttlSeconds = e.ttlSeconds := congrArg (·.ttlSeconds) hsame
    have hcreated : entry.createdAt = e.createdAt := congrArg (·.createdAt) hsame
    refine ⟨he, ?_, httl ▸ hpos, ?_⟩
    · rw [← hkey, (svc.storedBy_fields m entry hentry).2.1, hns]
    · rw [← hcreated, ← httl]
      exact hage a ha

/-- What is live was made by the service. -/
theorem live_fields (e : CacheEntry F) (he : e ∈ store.liveEntries a.readings.lookup.now (svc.askedKey a).1) :
    ∃ m ∈ before, m.status = some .miss ∧ (svc.askedKey m.asked).1 = (svc.askedKey a).1 ∧
      e.embedding = svc.cache.embed (svc.askedKey m.asked).2 ∧
      ∃ response, e.response = ChatCompletionResponse.modelDump response := by
  obtain ⟨-, m, hm, entry, hentry, hsame, hns⟩ :=
    (svc.mem_liveEntries_iff asked before store hwarm a ha e).mp he
  obtain ⟨-, -, hembedding, response, hresponse⟩ := svc.storedBy_fields m entry hentry
  refine ⟨m, hm, (svc.storedBy_isSome_iff m).mp (by rw [hentry]; rfl), hns, ?_, response, ?_⟩
  · rw [← hembedding]
    exact (congrArg (·.embedding) hsame).symm
  · rw [← hresponse]
    exact (congrArg (·.response) hsame).symm

omit ha in
/-- A request that leaves no entry leaves the store as it was, hits apart. -/
theorem Warmed.append_of_none (s : Served F E) (hnone : svc.storedBy s = none) (store' : InMemoryVectorStore F)
    (hholds : ∀ e, InMemoryVectorStore.Holds store' e ↔ InMemoryVectorStore.Holds store e) :
    svc.Warmed asked (before ++ [s]) store' where
  holds_iff e := by
    rw [hholds, hwarm.holds_iff]
    simp [hnone]
  live := by
    intro m hm entry hentry
    rcases List.mem_append.mp hm with hm | hm
    · exact hwarm.live m hm entry hentry
    · obtain rfl := List.mem_singleton.mp hm
      rw [hnone] at hentry
      cases hentry

omit ha in
/-- An entry under a new id replaces none. -/
theorem Warmed.append_of_some (s : Served F E) (entry : CacheEntry F) (hsome : svc.storedBy s = some entry)
    (hfresh : ∀ m ∈ before, m.asked.readings.entryId ≠ s.asked.readings.entryId)
    (hlive : 0 < entry.ttlSeconds ∧ ∀ b ∈ asked, b.readings.lookup.now - entry.createdAt ≤ entry.ttlSeconds) :
    svc.Warmed asked (before ++ [s]) (store.upsert entry) where
  holds_iff e := by
    have hput := InMemoryVectorStore.holds_apply_iff store (.upsert entry) e
    have hid := (svc.storedBy_fields s entry hsome).1
    refine hput.trans ⟨?_, ?_⟩
    · rintro (⟨_, heq, hsame⟩ | ⟨hold, -⟩)
      · obtain rfl := MemoryCall.upsert.inj heq
        exact ⟨s, List.mem_append_right _ List.mem_cons_self, _, hsome, hsame⟩
      · obtain ⟨m, hm, entry', hentry', hsame⟩ := (hwarm.holds_iff e).mp hold
        exact ⟨m, List.mem_append_left _ hm, entry', hentry', hsame⟩
    · rintro ⟨m, hm, entry', hentry', hsame⟩
      rcases List.mem_append.mp hm with hm | hm
      · have hne : entry.id ≠ e.id := by
          have heid : entry'.id = e.id := congrArg (·.id) hsame
          rw [hid, ← heid, (svc.storedBy_fields m entry' hentry').1]
          exact (hfresh m hm).symm
        exact Or.inr ⟨(hwarm.holds_iff e).mpr ⟨m, hm, entry', hentry', hsame⟩, decide_eq_false hne⟩
      · obtain rfl := List.mem_singleton.mp hm
        obtain rfl := Option.some.inj (hentry'.symm.trans hsome)
        exact Or.inl ⟨entry', rfl, hsame⟩
  live := by
    intro m hm entry' hentry'
    rcases List.mem_append.mp hm with hm | hm
    · exact hwarm.live m hm entry' hentry'
    · obtain rfl := List.mem_singleton.mp hm
      obtain rfl := Option.some.inj (hentry'.symm.trans hsome)
      exact hlive

end

end

section
variable {F E : Type} [Field F] [LinearOrder F] (np : Numpy F) (pyd : Pydantic) (svc : ProxyService F E)

def ask (a : Asked E) : ProxyM F (ProxyResult F) :=
  svc.complete np pyd a.request a.tenant a.policy a.upstream a.readings

/-- A workload, request by request. -/
def serve : World F → List (Asked E) → List (Served F E)
  | _, [] => []
  | w, a :: asked => ⟨a, resultOf (svc.ask np pyd a) w⟩ :: serve (worldAfter (svc.ask np pyd a) w) asked

/-- An earlier MISS of the request's namespace is similar enough to it. -/
def Nearby (before : List (Served F E)) (a : Asked E) : Prop :=
  ∃ m ∈ before, m.status = some .miss ∧ (svc.askedKey m.asked).1 = (svc.askedKey a).1 ∧
    svc.askedThreshold a ≤
      rowSimilarity np (svc.cache.embed (svc.askedKey a).2) (svc.cache.embed (svc.askedKey m.asked).2)

/-- A workload in which no embedding is zero, no id drawn twice, and nothing expires. -/
structure Steady (asked : List (Asked E)) : Prop where
  dim : ∀ p p', (svc.cache.embed p).length = (svc.cache.embed p').length
  exact : ∀ p, ExactNorm np (svc.cache.embed p)
  nonzero : ∀ p, ∃ x ∈ svc.cache.embed p, x ≠ 0
  fresh : (asked.map (·.readings.entryId)).Nodup
  kept : ∀ a ∈ asked, ∀ response, a.upstream = .ok response →
    0 < (svc.resolvePolicy a.request response).1 ∧
      ∀ b ∈ asked, b.readings.lookup.now - a.readings.createdAt ≤ (svc.resolvePolicy a.request response).1

/-! ## What a lookup finds -/

section
variable (asked : List (Asked E)) (before : List (Served F E)) (store : InMemoryVectorStore F)
  (hsteady : svc.Steady np asked) (hwarm : svc.Warmed asked before store) (a : Asked E) (ha : a ∈ asked)
include hsteady hwarm ha

/-- A lookup hits exactly when an earlier MISS of the namespace is similar enough. -/
theorem lookup_warmed :
    ∃ l store', svc.cache.lookup np store (svc.requestSignature a.request a.tenant) a.request.latestUserPrompt
        (svc.thresholdFor a.policy a.request) a.readings.lookup = .ok (l, store') ∧
      (l.status = .hit ↔ svc.Nearby np before a) ∧
      (∀ best, l.served = some best →
        ∃ response, best.entry.response = ChatCompletionResponse.modelDump response) := by
  have hcomparable : svc.cache.Comparable
      (store.liveEntries a.readings.lookup.now (svc.askedKey a).1) (svc.askedKey a).2 := by
    intro e he
    obtain ⟨m, -, -, -, hembedding, -⟩ := svc.live_fields asked before store hwarm a ha e he
    rw [hembedding]
    refine ⟨hsteady.dim _ _, fun hnil => ?_⟩
    obtain ⟨x, hx, -⟩ := hsteady.nonzero (svc.askedKey m.asked).2
    rw [hnil] at hx
    cases hx
  obtain ⟨l, store', hlookup, hnearest⟩ := svc.cache.lookup_of_comparable np store
    (svc.requestSignature a.request a.tenant) a.request.latestUserPrompt (svc.thresholdFor a.policy a.request)
    a.readings.lookup hcomparable
  refine ⟨l, store', hlookup, hnearest.hit_iff.trans ⟨?_, ?_⟩, ?_⟩
  · rintro ⟨e, he, hreach⟩
    obtain ⟨m, hm, hmiss, hns, hembedding, -⟩ := svc.live_fields asked before store hwarm a ha e he
    unfold SemanticCache.similarity at hreach
    rw [hembedding] at hreach
    exact ⟨m, hm, hmiss, hns, hreach⟩
  · rintro ⟨m, hm, hmiss, hns, hreach⟩
    obtain ⟨entry, hentry⟩ := Option.isSome_iff_exists.mp ((svc.storedBy_isSome_iff m).mpr hmiss)
    obtain ⟨e, he, hsame⟩ := (hwarm.holds_iff entry).mpr ⟨m, hm, entry, hentry, rfl⟩
    have hembedding : e.embedding = entry.embedding := congrArg (·.embedding) hsame
    refine ⟨e, (svc.mem_liveEntries_iff asked before store hwarm a ha e).mpr
      ⟨he, m, hm, entry, hentry, hsame.symm, hns⟩, ?_⟩
    unfold SemanticCache.similarity
    rw [hembedding, (svc.storedBy_fields m entry hentry).2.2.1]
    exact hreach
  · intro best hserved
    obtain ⟨found, hsearch, rfl, -⟩ := svc.cache.lookup_ok np store store' _ _ _ _ l hlookup
    obtain ⟨hhead, -⟩ := (svc.cache.served_outcome _ _ _ _).mp hserved
    obtain ⟨hlive, -⟩ := store.mem_search np _ _ _ _ found hsearch best (List.mem_of_head? hhead)
    obtain ⟨-, -, -, -, -, hresponse⟩ := svc.live_fields asked before store hwarm a ha best.entry hlive
    exact hresponse

end

/-- **Step.**  One request more: it is a HIT exactly when an earlier MISS is similar enough,
raises exactly when there is none and the upstream raised, and what it leaves is in the store. -/
theorem warmed_ask (asked : List (Asked E)) (hsteady : svc.Steady np asked) (before : List (Served F E))
    (w : World F) (hwarm : svc.Warmed asked before w.store) (a : Asked E) (ha : a ∈ asked)
    (hfresh : ∀ m ∈ before, m.asked.readings.entryId ≠ a.readings.entryId) :
    let s : Served F E := ⟨a, resultOf (svc.ask np pyd a) w⟩
    (s.status = some .hit ↔ svc.Nearby np before a) ∧
      (s.status = none ↔ ¬ svc.Nearby np before a ∧ ∃ e, a.upstream = .error e) ∧
      svc.Warmed asked (before ++ [s]) (worldAfter (svc.ask np pyd a) w).store := by
  obtain ⟨store, effects⟩ := w
  obtain ⟨l, store', hlookup, hhit, hdumped⟩ := svc.lookup_warmed np asked before store hsteady hwarm a ha
  have hcomplete := svc.complete_eq np pyd a.request a.tenant a.policy a.readings ⟨store, effects⟩ a.upstream
  rw [hlookup] at hcomplete
  obtain ⟨found, -, hl, hstore'⟩ := svc.cache.lookup_ok np store store' _ _ _ _ l hlookup
  have hserved := svc.cache.served_outcome_eq_none_iff (svc.thresholdFor a.policy a.request) found
    a.readings.lookup.latencyMs
  rw [← hl] at hserved
  cases hs : l.served with
  | some best =>
    have hnearby : svc.Nearby np before a := by
      rw [← hhit]
      cases hst : l.status with
      | hit => rfl
      | miss => rw [hserved.mpr hst] at hs; cases hs
    obtain ⟨response, hresponse⟩ := hdumped best hs
    simp only [hs, hresponse, ChatCompletionResponse.modelValidate_modelDump] at hcomplete hstore'
    have hresult := resultOf_ok _ _ _ _ hcomplete
    have hworld := worldAfter_ok _ _ _ _ hcomplete
    refine ⟨⟨fun _ => hnearby, fun _ => ?_⟩, ⟨fun h => ?_, fun h => absurd hnearby h.1⟩, ?_⟩
    · unfold Served.status ask
      rw [hresult]
    · unfold Served.status ask at h
      rw [hresult] at h
      cases h
    · unfold ask
      rw [hworld, hresult, hstore']
      refine hwarm.append_of_none svc asked before store _ rfl _ fun e => ?_
      have hcounted := InMemoryVectorStore.holds_apply_iff store (.incrementHit best.id) e
      simpa [MemoryCall.apply, MemoryCall.removes] using hcounted
  | none =>
    have hfar : ¬ svc.Nearby np before a := by
      rw [← hhit, hserved.mp hs]
      decide
    simp only [hs] at hcomplete hstore'
    cases hup : a.upstream with
    | error e =>
      rw [hup] at hcomplete
      have hresult := resultOf_error _ _ _ _ hcomplete
      have hworld := worldAfter_error _ _ _ _ hcomplete
      refine ⟨⟨fun h => ?_, fun h => absurd h hfar⟩, ⟨fun _ => ⟨hfar, e, rfl⟩, fun _ => ?_⟩, ?_⟩
      · unfold Served.status ask at h
        rw [hup, hresult] at h
        cases h
      · unfold Served.status ask
        rw [hup, hresult]
      · unfold ask
        rw [hup, hworld, hresult, hstore']
        exact hwarm.append_of_none svc asked before store _ rfl _ fun _ => Iff.rfl
    | ok response =>
      rw [hup] at hcomplete
      have hresult := resultOf_ok _ _ _ _ hcomplete
      have hworld := worldAfter_ok _ _ _ _ hcomplete
      obtain ⟨hpos, hage⟩ := hsteady.kept a ha response hup
      refine ⟨⟨fun h => ?_, fun h => absurd h hfar⟩, ⟨fun h => ?_, fun h => ?_⟩, ?_⟩
      · unfold Served.status ask at h
        rw [hup, hresult] at h
        cases h
      · unfold Served.status ask at h
        rw [hup, hresult] at h
        cases h
      · obtain ⟨-, e, he⟩ := h
        cases he
      · unfold ask
        rw [hup, hworld, hresult, hstore']
        unfold cacheResponse
        rw [if_pos hpos]
        exact hwarm.append_of_some svc asked before store _ _ rfl hfresh ⟨hpos, hage⟩

/-! ## Workloads -/

theorem map_asked_serve (w : World F) (asked : List (Asked E)) : (svc.serve np pyd w asked).map (·.asked) = asked := by
  induction asked generalizing w with
  | nil => rfl
  | cons a asked ih =>
    unfold serve
    rw [List.map_cons, ih]

/-- **Run.**  Every request of a workload, against those before it. -/
theorem hit_iff_nearby (all : List (Asked E)) (hsteady : svc.Steady np all) (asked : List (Asked E))
    (hasked : ∀ a ∈ asked, a ∈ all) (before : List (Served F E)) (w : World F)
    (hwarm : svc.Warmed all before w.store)
    (hfresh : (before.map (·.asked.readings.entryId) ++ asked.map (·.readings.entryId)).Nodup)
    (front back : List (Served F E)) (s : Served F E) (hsplit : svc.serve np pyd w asked = front ++ s :: back) :
    (s.status = some .hit ↔ svc.Nearby np (before ++ front) s.asked) ∧
      (s.status = none ↔ ¬ svc.Nearby np (before ++ front) s.asked ∧ ∃ e, s.asked.upstream = .error e) := by
  induction asked generalizing before w front with
  | nil =>
    unfold serve at hsplit
    cases front <;> cases hsplit
  | cons a asked ih =>
    rw [List.map_cons, List.nodup_append] at hfresh
    obtain ⟨hbefore, hrest, hdisjoint⟩ := hfresh
    have hids : ∀ m ∈ before, m.asked.readings.entryId ≠ a.readings.entryId := fun m hm =>
      hdisjoint _ (List.mem_map_of_mem hm) _ List.mem_cons_self
    obtain ⟨hhit, hnone, hwarm'⟩ := svc.warmed_ask np pyd all hsteady before w hwarm a
      (hasked a List.mem_cons_self) hids
    unfold serve at hsplit
    cases front with
    | nil =>
      obtain ⟨rfl, -⟩ := List.cons.inj hsplit
      rw [List.append_nil]
      exact ⟨hhit, hnone⟩
    | cons s₀ front =>
      obtain ⟨rfl, htail⟩ := List.cons.inj hsplit
      have hnext := ih (fun b hb => hasked b (List.mem_cons_of_mem a hb)) _ _ hwarm' (by
        rw [List.map_append, List.append_assoc]
        exact List.nodup_append.mpr ⟨hbefore, hrest, hdisjoint⟩) front htail
      rw [List.append_assoc] at hnext
      exact hnext

/-- Where requests are HITs by earlier MISSes, and thresholds are one at most, no two MISSes
are at one point: the second is similar to the first. -/
theorem nodup_missed [IsStrictOrderedRing F] (served : List (Served F E)) (asked : List (Asked E))
    (hsteady : svc.Steady np asked)
    (hthreshold : ∀ s ∈ served, svc.askedThreshold s.asked ≤ 1)
    (hhit : ∀ front s back, served = front ++ s :: back →
      (s.status = some .hit ↔ svc.Nearby np front s.asked)) :
    ((served.filter (·.status = some .miss)).map fun s => svc.askedPoint s.asked).Nodup := by
  have hpairs : served.Pairwise fun m s =>
      m.status = some .miss → s.status = some .miss → svc.askedPoint m.asked ≠ svc.askedPoint s.asked := by
    rw [List.pairwise_iff_getElem]
    intro i j hi hj hij hm hs hpoint
    obtain ⟨hns, hembed⟩ := Prod.mk.inj hpoint
    have hsplit : served = served.take j ++ served[j] :: served.drop (j + 1) := by
      rw [List.getElem_cons_drop, List.take_append_drop]
    have hnear : svc.Nearby np (served.take j) served[j].asked := by
      refine ⟨served[i], List.mem_take_iff_getElem.mpr ⟨i, by omega, rfl⟩, hm, hns, ?_⟩
      rw [hembed, rowSimilarity_self np _ (hsteady.exact _) (hsteady.nonzero _)]
      exact hthreshold _ (List.getElem_mem hj)
    rw [← hhit _ _ _ hsplit, hs] at hnear
    cases hnear
  rw [List.Nodup, List.pairwise_map, List.pairwise_filter]
  refine hpairs.imp fun h hm hs => h ?_ ?_
  · exact of_decide_eq_true hm
  · exact of_decide_eq_true hs

/-- **Warming up.**  In a steady workload from an empty cache a request is a HIT exactly when
an earlier MISS of its namespace is similar enough, and raises only when its upstream does.
With thresholds of one at most, no two MISSes share namespace and embedding; so all but as
many requests as there are different ones by these are HITs, upstream failures apart. -/
theorem load_converges [IsStrictOrderedRing F] (asked : List (Asked E)) (hsteady : svc.Steady np asked) :
    let served := svc.serve np pyd ⟨.new, []⟩ asked
    (∀ front s back, served = front ++ s :: back →
      (s.status = some .hit ↔ svc.Nearby np front s.asked) ∧
        (s.status = none ↔ ¬ svc.Nearby np front s.asked ∧ ∃ e, s.asked.upstream = .error e)) ∧
    ((∀ a ∈ asked, svc.askedThreshold a ≤ 1) →
      ((served.filter (·.status = some .miss)).map fun s => svc.askedPoint s.asked).Nodup ∧
        asked.length ≤ served.countP (·.status = some .hit) + (asked.map svc.askedPoint).toFinset.card +
          served.countP (·.status = none)) := by
  intro served
  have hrun : ∀ front s back, served = front ++ s :: back →
      (s.status = some .hit ↔ svc.Nearby np front s.asked) ∧
        (s.status = none ↔ ¬ svc.Nearby np front s.asked ∧ ∃ e, s.asked.upstream = .error e) :=
    fun front s back => svc.hit_iff_nearby np pyd asked hsteady asked (fun _ ha => ha) [] ⟨.new, []⟩
      (svc.warmed_new asked) hsteady.fresh front back s
  refine ⟨hrun, fun hthreshold => ?_⟩
  have hasked : served.map (·.asked) = asked := svc.map_asked_serve np pyd _ asked
  have hmem : ∀ s ∈ served, s.asked ∈ asked := fun s hs => hasked ▸ List.mem_map_of_mem hs
  have hnodup := svc.nodup_missed np served asked hsteady (fun s hs => hthreshold _ (hmem s hs))
    fun front s back h => (hrun front s back h).1
  refine ⟨hnodup, ?_⟩
  have hmisses : served.countP (·.status = some .miss) ≤ (asked.map svc.askedPoint).toFinset.card := by
    rw [List.countP_eq_length_filter, ← List.length_map fun s => svc.askedPoint s.asked,
      ← List.toFinset_card_of_nodup hnodup]
    apply Finset.card_le_card
    intro point hpoint
    rw [List.mem_toFinset] at hpoint ⊢
    obtain ⟨s, hs, rfl⟩ := List.mem_map.mp hpoint
    exact List.mem_map_of_mem (hmem s (List.mem_filter.mp hs).1)
  have hlength : asked.length = served.countP (·.status = some .hit) + served.countP (·.status = some .miss) +
      served.countP (·.status = none) := by
    rw [← hasked, List.length_map]
    exact length_eq_statuses served
  omega

end

/-- Two prompts that embed alike, one of them asked twice. -/
def repeatedWorkload : List (Asked Unit) :=
  [("a", "describe the ocean"), ("b", "what is the ocean like"), ("c", "describe the ocean")].map fun x => {
    tenant := "team"
    request := { oceanRequest with messages := [{ role := .user, content := some x.2 }] }
    policy := (), upstream := .ok framedText, readings := { someReadings with entryId := x.1 } }

theorem steady_repeatedWorkload : plainService.Steady (.sorting Rat.sqrt) repeatedWorkload where
  dim _ _ := rfl
  exact _ := by
    have hone : ExactNorm (Numpy.sorting Rat.sqrt) ([1] : List ℚ) := ⟨by decide +kernel, by decide +kernel⟩
    exact hone
  nonzero _ := ⟨1, List.mem_singleton.mpr rfl, by decide⟩
  fresh := by decide
  kept := by
    intro a ha response _
    refine ⟨(by decide : (0 : Int) < 86400), fun b hb => ?_⟩
    have hclock : ∀ a ∈ repeatedWorkload,
        a.readings.lookup.now = 1700000000 ∧ a.readings.createdAt = 1700000000 := by
      intro a ha
      obtain ⟨id, -, rfl⟩ := List.mem_map.mp ha
      exact ⟨rfl, rfl⟩
    rw [(hclock b hb).1, (hclock a ha).2]
    show (1700000000 : ℚ) - 1700000000 ≤ ((86400 : Int) : ℚ)
    norm_num

/-- Of three, two at least are HITs or raise. -/
theorem load_converges_repeatedWorkload :
    let served := plainService.serve (.sorting Rat.sqrt) .strict ⟨.new, []⟩ repeatedWorkload
    3 ≤ served.countP (·.status = some .hit) + 1 + served.countP (·.status = none) := by
  have hpoints : (repeatedWorkload.map plainService.askedPoint).toFinset.card ≤ 1 := by
    refine Finset.card_le_one.mpr fun p hp p' hp' => ?_
    simp only [List.mem_toFinset, repeatedWorkload, List.map_map, List.mem_map] at hp hp'
    obtain ⟨_, -, rfl⟩ := hp
    obtain ⟨_, -, rfl⟩ := hp'
    rfl
  obtain ⟨-, hmany⟩ := plainService.load_converges (.sorting Rat.sqrt) .strict repeatedWorkload
    steady_repeatedWorkload
  have hcount := (hmany (by
    intro a _
    show (19 / 20 : ℚ) ≤ 1
    norm_num)).2
  have hthree : repeatedWorkload.length = 3 := rfl
  intro served
  change _ ≤ served.countP _ + _ + served.countP _ at hcount
  omega

end ProxyService

end CachingLayer
