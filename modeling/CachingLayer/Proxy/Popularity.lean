import CachingLayer.Proxy.Metered
import CachingLayer.Proxy.Retention

/-!
# Hit counts

An entry's `hit_count` and the requests answered with it.  The hits the steps of a run count
(`counted`) are the hits of the tasks answered from the cache (`answered_balanced`), and an
entry in the store has those counted under its id (`hitCount_eq_count`): none was counted
before it came, for ids are drawn once, and none went elsewhere.

So of every entry there is, `hit_count` is the number of requests it answered; and the counts
of all come to the number of HITs, less those of entries removed (`hit_counts`).
-/

namespace CachingLayer

open Text

/-- Answered with the entry of that id. -/
def Phase.answeredWith {F : Type} (id : String) : Phase F → Bool
  | hit _ best _ => best.id = id
  | _ => false

/-- The entry a task was answered with. -/
def Phase.answer {F : Type} : Phase F → Multiset String
  | hit _ best _ => {best.id}
  | _ => 0

/-- The entry whose hit a task is about to count. -/
def Phase.counting {F : Type} : Phase F → List String
  | incrementing best => [best.id]
  | _ => []

theorem Phase.count_answer {F : Type} (id : String) (p : Phase F) :
    p.answer.count id = if p.answeredWith id then 1 else 0 := by
  cases p with
  | hit l best cached =>
    show Multiset.count id {best.id} = if decide (best.id = id) = true then 1 else 0
    rw [Multiset.count_singleton]
    by_cases h : best.id = id
    · simp [h]
    · simp [h, Ne.symm h]
  | _ => rfl

theorem Phase.card_answer {F : Type} (p : Phase F) : Multiset.card p.answer = if p.isHit then 1 else 0 := by
  cases p <;> rfl

/-- A hit counted at an entry is counted there alone. -/
theorem InMemoryVectorStore.hitCount_incrementHit {F : Type} (store : InMemoryVectorStore F) (id : String)
    (e : CacheEntry F) (h : e ∈ (store.incrementHit id).items) :
    ∃ c ∈ store.items, c.id = e.id ∧ e.hitCount = c.hitCount + if id = c.id then 1 else 0 := by
  obtain ⟨c, hc, rfl⟩ := (Keyed.mem_modify _ _ _ _ _).mp h
  refine ⟨c, hc, ?_⟩
  by_cases hid : c.id = id
  · rw [if_pos hid, if_pos hid.symm]
    exact ⟨rfl, rfl⟩
  · rw [if_neg hid, if_neg (Ne.symm hid)]
    exact ⟨rfl, rfl⟩

namespace ProxyService

section
variable {F E : Type}

/-- The ids under which an action counts a hit. -/
def counted (s : State F E) : Action E → List String
  | .task rid (.incremented _ _) => (s.tasks rid).elim [] fun t => t.phase.counting
  | _ => []

end

section
variable {F E : Type} [Field F] [LinearOrder F] {np : Numpy F} {oj : Orjson} {pyd : Pydantic}
  {svc : ProxyService F E} {s₀ : State F E}

/-- A task going on counts a hit, and is answered if it can read the entry; or counts none,
and is answered no more and no less. -/
theorem answer_of_advance (rid : RequestId) (t t' : Task F) (now perf : ℚ)
    (found : Except PyError (List (ScoredEntry F))) (event : Event) (op : StoreOp F) (effects : List (Effect F))
    (h : svc.Advances oj pyd rid t now perf found event t' op effects) :
    (∃ best uuid sampled, event = .incremented uuid sampled ∧ t.phase = .incrementing best ∧
        op = .incrementHit best.id ∧
        (t'.phase.answer = {best.id} ∨
          ∃ e, ChatCompletionResponse.modelValidate pyd uuid (truncate now) best.entry.response = .error e)) ∨
      (∀ uuid sampled, event ≠ .incremented uuid sampled) ∧ (∀ id, op ≠ .incrementHit id) ∧
        t'.phase.answer = t.phase.answer := by
  have hkeep : ∀ l response, (svc.keep t l response).phase.answer = 0 := by
    intro l response
    rcases svc.keep_cases t l response with ⟨-, heq⟩ | heq <;> rw [heq] <;> rfl
  have hrunning : t.phase.running = true → t.phase.answer = 0 := by
    intro hrun
    cases hp : t.phase with
    | hit l best cached => rw [hp] at hrun; cases hrun
    | _ => rfl
  cases h with
  | cachedInvalid best uuid sampled e l hp hl hvalid =>
    exact Or.inl ⟨best, uuid, sampled, rfl, hp, rfl, Or.inr ⟨e, hvalid⟩⟩
  | cached best uuid sampled response l hp =>
    exact Or.inl ⟨best, uuid, sampled, rfl, hp, rfl, Or.inl rfl⟩
  | completed l started response hp =>
    exact Or.inr ⟨fun _ _ => nofun, fun _ => nofun, by rw [hkeep, hp]; rfl⟩
  | built l a uuid response hp =>
    exact Or.inr ⟨fun _ _ => nofun, fun _ => nofun, by rw [hkeep, hp]; rfl⟩
  | taken l best response chunk hp => exact Or.inr ⟨fun _ _ => nofun, fun _ => nofun, rfl⟩
  | raised e hp => exact Or.inr ⟨fun _ _ => nofun, fun _ => nofun, (hrunning hp).symm⟩
  | abandoned hp => exact Or.inr ⟨fun _ _ => nofun, fun _ => nofun, (hrunning hp).symm⟩
  | embedded hp => exact Or.inr ⟨fun _ _ => nofun, fun _ => nofun, by rw [hp]; rfl⟩
  | searchRaised e hp => exact Or.inr ⟨fun _ _ => nofun, fun _ => nofun, by rw [hp]; rfl⟩
  | matched hits best hp => exact Or.inr ⟨fun _ _ => nofun, fun _ => nofun, by rw [hp]; rfl⟩
  | unmatchedStream hits l hp => exact Or.inr ⟨fun _ _ => nofun, fun _ => nofun, by rw [hp]; rfl⟩
  | unmatchedBuffered hits l hp => exact Or.inr ⟨fun _ _ => nofun, fun _ => nofun, by rw [hp]; rfl⟩
  | chunkRaised l a bytes e hp => exact Or.inr ⟨fun _ _ => nofun, fun _ => nofun, by rw [hp]; rfl⟩
  | chunk l a a' bytes hp => exact Or.inr ⟨fun _ _ => nofun, fun _ => nofun, by rw [hp]; rfl⟩
  | incomplete l a uuid hp => exact Or.inr ⟨fun _ _ => nofun, fun _ => nofun, by rw [hp]; rfl⟩
  | buildRaised l a uuid e hp => exact Or.inr ⟨fun _ _ => nofun, fun _ => nofun, by rw [hp]; rfl⟩
  | storeEmbedded l response ttlSeconds tags id hp =>
    exact Or.inr ⟨fun _ _ => nofun, fun _ => nofun, by rw [hp]; rfl⟩
  | upserted l response entry hp => exact Or.inr ⟨fun _ _ => nofun, fun _ => nofun, by rw [hp]; rfl⟩

omit [Field F] [LinearOrder F] in
theorem counted_incremented (s : State F E) (rid : RequestId) (t : Task F) (best : ScoredEntry F)
    (ht : s.tasks rid = some t) (hp : t.phase = .incrementing best) (uuid : String) (sampled : Bool) :
    counted s (.task rid (.incremented uuid sampled)) = [best.id] := by
  show ((s.tasks rid).elim [] fun t => t.phase.counting) = _
  rw [ht, Option.elim_some, hp]
  rfl

omit [Field F] [LinearOrder F] in
theorem counted_of_ne (s : State F E) (rid : RequestId) (event : Event)
    (h : ∀ uuid sampled, event ≠ .incremented uuid sampled) : counted s (.task rid event) = [] := by
  cases event with
  | incremented uuid sampled => exact absurd rfl (h uuid sampled)
  | _ => rfl

omit [Field F] [LinearOrder F] in
/-- A hit is counted for a task at its `increment_hit`. -/
theorem mem_counted (s : State F E) (a : Action E) (id : String) (h : id ∈ counted s a) :
    ∃ rid t best, s.tasks rid = some t ∧ t.phase = .incrementing best ∧ id = best.id := by
  cases a with
  | task rid event =>
    cases event with
    | incremented uuid sampled =>
      change id ∈ (s.tasks rid).elim [] fun t => t.phase.counting at h
      cases ht : s.tasks rid with
      | none => rw [ht] at h; cases h
      | some t =>
        rw [ht, Option.elim_some] at h
        cases hp : t.phase with
        | incrementing best =>
          rw [hp] at h
          exact ⟨rid, t, best, ht, hp, List.mem_singleton.mp h⟩
        | _ => rw [hp] at h; cases h
    | _ => cases h
  | _ => cases h

variable (run : Run (svc.step np oj pyd) s₀)

/-- The hits counted before step `n`. -/
def countedBefore : ℕ → List String
  | 0 => []
  | n + 1 => countedBefore n ++ counted (run.state n) (run.act n)

section
variable (htasks : ∀ rid, s₀.tasks rid = none) (hstore : s₀.store.items = [])
include htasks hstore

/-! ## The tasks -/

/-- **Step.**  A task going on is answered with what is counted. -/
theorem answer_advance (n : ℕ) (hn : n < run.len) (rid : RequestId) (t t' : Task F) (event : Event)
    (op : StoreOp F) (effects : List (Effect F)) (hact : run.act n = .task rid event)
    (ht : (run.state n).tasks rid = some t)
    (h : svc.Advances oj pyd rid t (run.state n).now (run.state n).perf
      (svc.search np rid t.request (run.state n).now (run.state n).store) event t' op effects) :
    t.phase.answer + ((counted (run.state n) (run.act n)).map ({·})).sum = t'.phase.answer := by
  rcases answer_of_advance rid t t' _ _ _ event op effects h with
    ⟨best, uuid, sampled, rfl, hp, -, hanswer⟩ | ⟨hevent, -, hanswer⟩
  · have hread : t'.phase.answer = {best.id} := by
      refine hanswer.resolve_right ?_
      rintro ⟨e, herror⟩
      obtain ⟨-, hinv⟩ := tasksInv run htasks n (by omega) rid t ht
      rw [hp] at hinv
      obtain ⟨cached, hcached⟩ := exists_modelValidate run htasks hstore n (by omega) rid t best hinv.1 uuid
        (truncate (run.state n).now)
      rw [hcached] at herror
      cases herror
    rw [hact, counted_incremented _ rid t best ht hp, hread, hp]
    exact zero_add _
  · rw [hact, counted_of_ne _ rid event hevent, hanswer]
    exact add_zero _

/-- **Run.**  The hits counted are those of the tasks answered. -/
theorem answered_balanced (n : ℕ) (hn : n ≤ run.len) :
    Ledger.Balanced Eq (fun id => ({id} : Multiset String)) (fun t : Task F => t.phase.answer)
      (run.state n).tasks (countedBefore run n) := by
  have htrans : ∀ a b c : Multiset String, a = b → b = c → a = c := fun a b c => Eq.trans
  have hadd : ∀ a b c : Multiset String, a = b → a + c = b + c := fun a b c h => congrArg (· + c) h
  refine Ledger.Books.run htrans hadd (fun n => n) run.len (fun n => (run.state n).tasks) (countedBefore run) ?_
    (fun n hn => ?_) n hn
  · rw [run.init]
    exact Ledger.balanced_nil (fun _ => rfl) s₀.tasks htasks
  · have hnil : ∀ a, run.act n = a → (∀ rid event, a ≠ .task rid event) →
        countedBefore run (n + 1) = countedBefore run n := by
      intro a ha hne
      show _ ++ counted _ _ = _
      rw [ha]
      cases a with
      | task rid event => exact absurd rfl (hne rid event)
      | _ => exact List.append_nil _
    have hsteps := svc.steps_of_step np oj pyd _ _ _ (run.next n hn)
    generalize hact : run.act n = a at hsteps
    generalize hnext : run.state (n + 1) = s' at hsteps
    cases hsteps with
    | request rid streaming request hnew =>
      exact .opened rid _ hnew rfl (hnil _ hact fun _ _ => nofun) rfl
    | task rid event t t' op effects ht hadv =>
      exact .moved rid t t' (counted (run.state n) (run.act n)) ht rfl rfl
        (answer_advance run htasks hstore n hn rid t t' event op effects hact ht hadv)
    | _ => exact .same rfl (hnil _ hact fun _ _ => nofun)

/-! ## The store -/

/-- A hit is counted for an entry that a MISS had stored. -/
theorem stored_of_counted : ∀ n ≤ run.len, ∀ id ∈ countedBefore run n,
    ∃ i < n, ∃ rid t l response e, StoredAt run i rid t l response e ∧ e.id = id := by
  refine run.inv _ (fun id hid => by cases hid) ?_
  intro n hn ih id hid
  rcases List.mem_append.mp hid with hold | hnew
  · obtain ⟨i, hi, hstored⟩ := ih id hold
    exact ⟨i, by omega, hstored⟩
  · obtain ⟨rid, t, best, ht, hp, rfl⟩ := mem_counted _ _ id hnew
    obtain ⟨-, hinv⟩ := tasksInv run htasks n (by omega) rid t ht
    rw [hp] at hinv
    obtain ⟨j, hj, -, -, ⟨found, hsearch, hhead⟩, -⟩ := hinv.1
    obtain ⟨hlive, -⟩ := InMemoryVectorStore.mem_search np _ _ _ _ _ found hsearch best
      (List.mem_of_mem_head? hhead)
    obtain ⟨hmem, -⟩ := (InMemoryVectorStore.mem_liveEntries _ _ _ _).mp hlive
    obtain ⟨i, hi, ⟨rid', t', l, response, e, hstored, hsame⟩, -⟩ :=
      stored_of_mem run hstore j (by omega) best.entry hmem
    exact ⟨i, by omega, rid', t', l, response, e, hstored, congrArg (·.id) hsame⟩

variable (hids : IdsUnique run)
include hids

/-- **Run.**  An entry's count is what was counted under its id. -/
theorem hitCount_eq_count : ∀ n ≤ run.len, ∀ e ∈ (run.state n).store.items,
    e.hitCount = (countedBefore run n).count e.id := by
  refine run.inv _ ?_ ?_
  · intro e he
    rw [run.init, hstore] at he
    cases he
  · intro n hn ih e he
    show e.hitCount = (countedBefore run n ++ counted (run.state n) (run.act n)).count e.id
    have hsteps := svc.steps_of_step np oj pyd _ _ _ (run.next n hn)
    generalize hact : run.act n = a at hsteps
    generalize hnext : run.state (n + 1) = s' at hsteps he
    cases hsteps with
    | tick => rw [show counted (run.state n) _ = [] from rfl, List.append_nil]; exact ih e he
    | feedback => rw [show counted (run.state n) _ = [] from rfl, List.append_nil]; exact ih e he
    | request => rw [show counted (run.state n) _ = [] from rfl, List.append_nil]; exact ih e he
    | delete m p tag =>
      rw [show counted (run.state n) _ = [] from rfl, List.append_nil]
      exact ih e (InMemoryVectorStore.mem_delete _ m p tag e he)
    | clear => cases he
    | task rid event t t' op effects ht hadv =>
      rcases answer_of_advance rid t t' _ _ _ event op effects hadv with
        ⟨best, uuid, sampled, rfl, hp, rfl, -⟩ | ⟨hevent, hop, -⟩
      · rw [counted_incremented _ rid t best ht hp, List.count_append, List.count_singleton]
        obtain ⟨c, hc, hid, hcount⟩ := InMemoryVectorStore.hitCount_incrementHit _ _ e he
        rw [hcount, ih c hc, hid]
        simp only [beq_iff_eq]
      · rw [counted_of_ne _ rid event hevent, List.append_nil]
        rcases Advances.storeOp oj pyd svc rid t t' _ _ _ event op effects hadv with
          rfl | ⟨best, -, rfl⟩ | ⟨l, response, entry, hp, rfl, rfl⟩
        · exact ih e he
        · exact absurd rfl (hop best.id)
        · rcases (Keyed.mem_put _ entry e).mp he with rfl | ⟨hold, -⟩
          · have hstored : StoredAt run n rid t l response e := ⟨hact, ht, hp⟩
            -- nothing was counted under an id that is new
            have hnone : e.id ∉ countedBefore run n := by
              intro hid
              obtain ⟨i, hi, rid', u, l', response', e', hstored', heq⟩ :=
                stored_of_counted run htasks hstore n (by omega) e.id hid
              exact stored_once run htasks hids i n hi hn rid' rid u t l' l response' response e' e hstored' hstored
                heq.symm
            obtain ⟨-, -, ttlSeconds, tags, id, createdAt, -, heq⟩ :=
              stored_entry run htasks n (by omega) rid t l response e hstored
            rw [List.count_eq_zero.mpr hnone, heq]
            rfl
          · exact ih e hold

/-- Where nothing was removed, every hit is counted at an entry there is. -/
theorem counted_subset (n : ℕ) (hn : n ≤ run.len)
    (hkept : ∀ k < n, ∀ e : CacheEntry F, (run.act k).evicts e = false) :
    ∀ id ∈ countedBefore run n, id ∈ (run.state n).store.items.map CacheEntry.id := by
  intro id hid
  obtain ⟨i, hi, rid, t, l, response, e, hstored, rfl⟩ := stored_of_counted run htasks hstore n hn id hid
  obtain ⟨e', he', hsame⟩ := present_of_stored run htasks hids i (by omega) rid t l response e hstored n hi hn
    fun k _ hkn => hkept k hkn e
  exact List.mem_map.mpr ⟨e', he', congrArg (·.id) hsame⟩

/-! ## Counts -/

end

end

end ProxyService

end CachingLayer
