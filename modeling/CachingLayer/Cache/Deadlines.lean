import CachingLayer.Cache.RedisStore

/-!
# Deadlines in Redis

An entry is due `ttl_seconds` after the upsert whose entry it is wrote it, whoever has
written it back since (`Dues`).  Where no call is in progress every hash of the store has a
deadline, and none later than that, as long as no step leaves an entry that runs over, and
no upsert to set a deadline in time (`deadlines`).  Four kinds of step do (`Overruns`): a
client stops between the `HSET` and the `EXPIRE` of its upsert, or time goes on between
them; an `EXPIRE` finds the entry of another upsert; an `increment_hit` writes to a key that
is gone, or writes an entry back over another.  Each has a run (`immortal`).
-/

namespace CachingLayer

open Text

/-- When the entry in a hash is due, and the one a client has read. -/
structure Dues where
  held : String → Option ℚ := fun _ => none
  read : Nat → Option ℚ := fun _ => none

/-- An upsert's `HSET` writes its entry, that of `increment_hit` the one its `HGET` read. -/
def Dues.step {F : Type} (dues : Dues) (s : StoreState F) : StoreAction F → Dues
  | .command client _ =>
    match s.calls client with
    | some (.upserting entry) =>
      { dues with held := Function.update dues.held entry.id (some (s.redis.now + entry.ttlSeconds)) }
    | some (.getting id) => { dues with read := Function.update dues.read client (dues.held id) }
    | some (.setting id _) => { dues with held := Function.update dues.held id (dues.read client) }
    | _ => dues
  | _ => dues

/-- There is a deadline, and it is not past what is due. -/
def InTime (due deadline : Option ℚ) : Prop := ∃ t ∈ due, ∃ d ∈ deadline, d ≤ t

namespace RedisVectorStore

/-- An upsert of `id` is at its `EXPIRE`, which sets a deadline in time if it runs at `now`. -/
def Awaits {F : Type} (s : StoreState F) (id : String) (due : Option ℚ) (now : ℚ) (client : Nat) : Prop :=
  ∃ entry, s.calls client = some (.expiring entry) ∧ entry.id = id ∧ InTime due (some (now + entry.ttlSeconds))

/-- The step leaves an entry that is not gone in time, and no upsert to see to it. -/
inductive Overruns {F : Type} (store : RedisVectorStore F) (s : StoreState F) (dues : Dues) : StoreAction F → Prop
  /-- Time goes on, and an entry stays that waited for its `EXPIRE`. -/
  | tick (now : ℚ) (id : String) (hash : RedisHash String Bytes)
    (hk : s.redis.hashes (store.key id) = some hash) (hstays : hash.isDue now = false)
    (hlate : ¬ InTime (dues.held id) hash.deadline)
    (hnone : ∀ client, ¬ Awaits s id (dues.held id) now client) : Overruns store s dues (.tick now)
  /-- A client stops between `HSET` and `EXPIRE`. -/
  | stop (client : Nat) (entry : CacheEntry F) (hash : RedisHash String Bytes)
    (hc : s.calls client = some (.expiring entry)) (hk : s.redis.hashes (store.key entry.id) = some hash)
    (hlate : ¬ InTime (dues.held entry.id) hash.deadline)
    (hnone : ∀ other, other ≠ client → ¬ Awaits s entry.id (dues.held entry.id) s.redis.now other) :
    Overruns store s dues (.stop client)
  /-- `EXPIRE` gives the entry of another upsert more time than that entry has. -/
  | expire (client : Nat) (docs : List (SearchDoc F)) (entry : CacheEntry F) (hash : RedisHash String Bytes)
    (hc : s.calls client = some (.expiring entry)) (hk : s.redis.hashes (store.key entry.id) = some hash)
    (hlate : ¬ InTime (dues.held entry.id) (some (s.redis.now + entry.ttlSeconds)))
    (hnone : ∀ other, other ≠ client → ¬ Awaits s entry.id (dues.held entry.id) s.redis.now other) :
    Overruns store s dues (.command client docs)
  /-- `increment_hit` writes where there is nothing, or something that may stay longer. -/
  | set (client : Nat) (docs : List (SearchDoc F)) (id : String) (entry : CacheEntry F)
    (hc : s.calls client = some (.setting id entry))
    (hlate : ¬ InTime (dues.read client) ((s.redis.hashes (store.key id)).bind (·.deadline)))
    (hnone : ∀ other, ¬ Awaits s id (dues.read client) s.redis.now other) : Overruns store s dues (.command client docs)

/-- The hash is gone in time, or an upsert sees to it. -/
def Seen {F : Type} (s : StoreState F) (dues : Dues) (id : String) (hash : RedisHash String Bytes) : Prop :=
  InTime (dues.held id) hash.deadline ∨ ∃ client, Awaits s id (dues.held id) s.redis.now client

/-! ## Steps -/

section
variable {F : Type} (s s' : StoreState F) (dues dues' : Dues) (id : String) (hash : RedisHash String Bytes)

/-- Where the upserts of `id` are still at their `EXPIRE`. -/
theorem seen_stays (h : Seen s dues id hash) (hheld : dues'.held id = dues.held id)
    (hnow : s'.redis.now = s.redis.now)
    (hcalls : ∀ client entry, s.calls client = some (.expiring entry) → entry.id = id →
      s'.calls client = some (.expiring entry)) : Seen s' dues' id hash := by
  unfold Seen
  rw [hheld, hnow]
  rcases h with hin | ⟨client, entry, hc, hid, hin⟩
  · exact Or.inl hin
  · exact Or.inr ⟨client, entry, hcalls client entry hc hid, hid, hin⟩

/-- What a command of another call leaves of the upserts at their `EXPIRE`. -/
theorem expiring_of_command (client : Nat) (call : StoreCall F) (next : Option (StoreCall F))
    (hc : s.calls client = some call) (hcall : ∀ entry, call = .expiring entry → entry.id ≠ id)
    (other : Nat) (entry : CacheEntry F) (ho : s.calls other = some (.expiring entry)) (hid : entry.id = id) :
    Function.update s.calls client next other = some (.expiring entry) := by
  have hne : other ≠ client := by
    rintro rfl
    exact hcall entry (Option.some.inj (hc.symm.trans ho)) hid
  exact (Function.update_of_ne hne ..).trans ho

end

section
variable {F : Type} [Field F] [LinearOrder F] (store : RedisVectorStore F) (cache : SemanticCache F)
  (s s' : StoreState F) (dues : Dues)
  (ih : ∀ id hash, s.redis.hashes (store.key id) = some hash → Seen s dues id hash)
  (id : String) (hash : RedisHash String Bytes) (hk : s'.redis.hashes (store.key id) = some hash)
include ih hk

/-- A command. -/
theorem seen_command (client : Nat) (docs : List (SearchDoc F)) (call : StoreCall F)
    (hc : s.calls client = some call) (h : store.step cache s (.command client docs) = some s')
    (hupsert : ∀ entry, call = .upserting entry → 0 < entry.ttlSeconds)
    (hexpire : ∀ entry, call = .expiring entry → 0 < entry.ttlSeconds)
    (hover : ¬ Overruns store s dues (.command client docs)) :
    Seen s' (dues.step s (.command client docs)) id hash := by
  obtain ⟨hredis, hcalls⟩ := store.step_command cache s s' client docs call h hc
  have hother := expiring_of_command s id client call (store.run cache docs s.redis call).2 hc
  rw [← hcalls] at hother
  rw [hredis] at hk
  unfold Dues.step
  simp only [hc]
  cases call with
  | upserting entry =>
    by_cases hid : entry.id = id
    · -- Its own `EXPIRE` is next.
      subst hid
      refine Or.inr ⟨client, entry, ?_, rfl, _, Function.update_self .., _, rfl, ?_⟩
      · rw [hcalls, Function.update_self]
        exact if_pos (hupsert entry rfl)
      · rw [hredis]
        exact le_rfl
    · have hkey : store.key id ≠ store.key entry.id := fun hkey => hid ((store.key_inj _ _).mp hkey).symm
      exact seen_stays s s' dues _ id hash (ih id hash ((Redis.hset_of_ne _ _ _ _ hkey).symm.trans hk))
        (Function.update_of_ne (Ne.symm hid) ..) (by rw [hredis]; rfl) (hother fun _ h => by cases h)
  | expiring entry =>
    by_cases hid : entry.id = id
    · subst hid
      have hset := (Redis.expire_self s.redis (store.key entry.id) _ (hexpire entry rfl)).symm.trans hk
      obtain ⟨h₀, hh₀, rfl⟩ := Option.map_eq_some_iff.mp hset
      unfold Seen
      have hnow : s'.redis.now = s.redis.now := by rw [hredis]; exact Redis.expire_now _ _ _
      rw [hnow]
      by_contra hnot
      rw [not_or] at hnot
      refine hover (.expire client docs entry h₀ hc hh₀ hnot.1 fun other hne hawaits => hnot.2 ⟨other, ?_⟩)
      obtain ⟨entry', ho, hid', hin⟩ := hawaits
      refine ⟨entry', ?_, hid', hin⟩
      rw [hcalls, Function.update_of_ne hne]
      exact ho
    · have hkey : store.key id ≠ store.key entry.id := fun hkey => hid ((store.key_inj _ _).mp hkey).symm
      refine seen_stays s s' dues _ id hash (ih id hash ((Redis.expire_of_ne _ _ _ _ hkey).symm.trans hk)) rfl ?_
        (hother fun e h => ?_)
      · rw [hredis]
        exact Redis.expire_now _ _ _
      · obtain rfl := StoreCall.expiring.inj h
        exact hid
  | setting id' entry =>
    by_cases hid : id' = id
    · subst hid
      have hdeadline := Redis.hset_deadline _ _ _ hash hk
      have hnow : s'.redis.now = s.redis.now := by rw [hredis]; rfl
      show InTime (Function.update dues.held id' (dues.read client) id') _ ∨
        ∃ client', Awaits _ _ (Function.update dues.held id' (dues.read client) id') _ client'
      rw [hnow, Function.update_self, hdeadline]
      by_contra hnot
      rw [not_or] at hnot
      refine hover (.set client docs id' entry hc hnot.1 fun other hawaits => hnot.2 ⟨other, ?_⟩)
      obtain ⟨entry', ho, hid', hin⟩ := hawaits
      exact ⟨entry', hother (fun _ h => by cases h) other entry' ho hid', hid', hin⟩
    · have hkey : store.key id ≠ store.key id' := fun hkey => hid ((store.key_inj _ _).mp hkey).symm
      exact seen_stays s s' dues _ id hash (ih id hash ((Redis.hset_of_ne _ _ _ _ hkey).symm.trans hk))
        (Function.update_of_ne (Ne.symm hid) ..) (by rw [hredis]; rfl) (hother fun _ h => by cases h)
  | deleting keys =>
    exact seen_stays s s' dues _ id hash (ih id hash (Redis.del_some _ _ _ _ hk)) rfl (by rw [hredis]; rfl)
      (hother fun _ h => by cases h)
  | _ => exact seen_stays s s' dues _ id hash (ih id hash hk) rfl (by rw [hredis]; rfl) (hother fun _ h => by cases h)

/-- **Step.** -/
theorem seen_step (a : StoreAction F) (h : store.step cache s a = some s')
    (hupsert : ∀ client entry, s.calls client = some (.upserting entry) → 0 < entry.ttlSeconds)
    (hexpire : ∀ client entry, s.calls client = some (.expiring entry) → 0 < entry.ttlSeconds)
    (hover : ¬ Overruns store s dues a) : Seen s' (dues.step s a) id hash := by
  rcases store.step_cases cache s s' a h with ⟨now, rfl, -, rfl⟩ | ⟨client, request, rfl, hnone, rfl⟩ |
    ⟨client, docs, call, rfl, hc, -⟩ | ⟨client, rfl, rfl⟩
  · have hold := s.redis.advance_some now _ hash hk
    have hstays : hash.isDue now = false := by simpa using (Option.filter_eq_some_iff.mp hk).2
    by_contra hnot
    unfold Seen at hnot
    rw [not_or] at hnot
    exact hover (.tick now id hash hold hstays hnot.1 fun client hawaits => hnot.2 ⟨client, hawaits⟩)
  · refine seen_stays s _ dues _ id hash (ih id hash hk) rfl rfl fun other entry ho _ => ?_
    have hne : other ≠ client := by
      rintro rfl
      rw [hnone] at ho
      cases ho
    exact (Function.update_of_ne hne ..).trans ho
  · exact seen_command store cache s s' dues ih id hash hk client docs call hc h
      (fun entry hcall => hupsert client entry (hcall ▸ hc)) (fun entry hcall => hexpire client entry (hcall ▸ hc))
      hover
  · -- Another upsert is to see to it where the client did.
    have hothers : ∀ other, other ≠ client → Awaits s id (dues.held id) s.redis.now other →
        Awaits { s with calls := Function.update s.calls client none } id (dues.held id) s.redis.now other := by
      rintro other hne ⟨entry, ho, hid, hin⟩
      exact ⟨entry, (Function.update_of_ne hne ..).trans ho, hid, hin⟩
    rcases ih id hash hk with hin | ⟨other, hawaits⟩
    · exact Or.inl hin
    · by_cases hne : other = client
      · subst hne
        by_contra hnot
        unfold Seen at hnot
        rw [not_or] at hnot
        obtain ⟨entry, ho, rfl, -⟩ := hawaits
        exact hover (.stop other entry hash ho hk hnot.1 fun other' hne hawaits =>
          hnot.2 ⟨other', hothers other' hne hawaits⟩)
      · exact Or.inr ⟨other, hothers other hne hawaits⟩

end

/-! ## Runs -/

section
variable {F : Type} [Field F] [LinearOrder F] {store : RedisVectorStore F} {cache : SemanticCache F}
  {s₀ : StoreState F} (run : Run (store.step cache) s₀)

/-- What is due in the states of a run. -/
def dues : ℕ → Dues
  | 0 => {}
  | n + 1 => (dues n).step (run.state n) (run.act n)

section
variable (hidle : ∀ client, s₀.calls client = none)
  (httl : ∀ n < run.len, ∀ client entry, run.act n = .start client (.upsert entry) → 0 < entry.ttlSeconds)
include hidle httl

/-- Upserts in progress have a TTL. -/
theorem ttl_pos : ∀ n ≤ run.len, ∀ client entry,
    (run.state n).calls client = some (.upserting entry) ∨ (run.state n).calls client = some (.expiring entry) →
      0 < entry.ttlSeconds := by
  apply run.inv
  · intro client entry hc
    rw [run.init, hidle] at hc
    rcases hc with hc | hc <;> cases hc
  · intro n hn ih client entry hc
    rcases hc with hc | hc
    · rcases store.step_call cache _ _ _ (run.next n hn) client _ hc with hold | ⟨request, hact, hstart⟩ |
        ⟨docs, before, -, -, hrun⟩
      · exact ih client entry (Or.inl hold)
      · cases request with
        | upsert e =>
          obtain rfl : e = entry := by simpa [start] using hstart
          exact httl n hn client e hact
        | _ => simp [start] at hstart
      · exact absurd hrun (store.run_ne_upserting cache docs _ before entry)
    · rcases store.step_call cache _ _ _ (run.next n hn) client _ hc with hold | ⟨request, -, hstart⟩ |
        ⟨docs, before, -, -, hrun⟩
      · exact ih client entry (Or.inr hold)
      · cases request <;> simp [start] at hstart
      · exact ((store.run_expiring cache docs _ before entry).mp hrun).2

end

end

/-! ## A run that keeps to it -/

/-- An entry is stored, and its hits are counted ten seconds later. -/
def countedActions : List (StoreAction ℚ) := [
  .start 0 (.upsert storedEntry),
  .command 0 [],
  .command 0 [],
  .tick 1700000010,
  .start 1 (.incrementHit storedEntry.id),
  .command 1 [],
  .command 1 []]

theorem countedActions_exec : (Run.exec (plainStore.step plainCache) emptyStore countedActions).isSome := by
  decide +kernel

def countedRun : Run (plainStore.step plainCache) emptyStore :=
  .ofExec _ _ _ countedActions (Option.some_get countedActions_exec).symm

instance (due deadline : Option ℚ) : Decidable (InTime due deadline) :=
  inferInstanceAs (Decidable (∃ t ∈ due, ∃ d ∈ deadline, d ≤ t))

/-- The deadline under the entry's key. -/
def storedDeadline (s : StoreState ℚ) : Option ℚ :=
  (s.redis.hashes (plainStore.key storedEntry.id)).bind (·.deadline)

/-- The entry whose hits a call is about to write back. -/
def StoreCall.sets : StoreCall ℚ → Option String
  | .setting id _ => some id
  | _ => none

theorem countedRun_keeps (n : ℕ) (hn : n < 7) :
    ¬ Overruns plainStore (countedRun.state n) (dues countedRun n) (countedRun.act n) := by
  intro hover
  match n, hn with
  | 0, _ => cases hover
  | 1, _ =>
    cases hover with
    | expire _ _ entry _ hc => cases hc
    | set _ _ _ _ hc => cases hc
  | 2, _ =>
    cases hover with
    | expire _ _ entry _ hc _ hlate =>
      obtain rfl := StoreCall.expiring.inj (Option.some.inj hc)
      exact hlate (by decide +kernel)
    | set _ _ _ _ hc => cases hc
  | 3, _ =>
    cases hover with
    | tick _ id hash hk _ hlate =>
      by_cases hid : id = storedEntry.id
      · subst hid
        have hin : InTime ((dues countedRun 3).held storedEntry.id) (storedDeadline (countedRun.state 3)) := by
          decide +kernel
        unfold storedDeadline at hin
        rw [hk] at hin
        exact hlate hin
      · have hkey : plainStore.key id ≠ plainStore.key storedEntry.id := fun h => hid ((plainStore.key_inj _ _).mp h)
        have hstate : (countedRun.state 3).redis =
            (emptyStore.redis.hset (plainStore.key storedEntry.id) (plainStore.mapping storedEntry)).expire
              (plainStore.key storedEntry.id) 60 := rfl
        rw [hstate, Redis.expire_of_ne _ _ _ _ hkey, Redis.hset_of_ne _ _ _ _ hkey] at hk
        cases hk
  | 4, _ => cases hover
  | 5, _ =>
    cases hover with
    | expire _ _ entry _ hc => cases hc
    | set _ _ _ _ hc => cases hc
  | 6, _ =>
    have hsets : ((countedRun.state 6).calls 1).bind StoreCall.sets = some storedEntry.id := by decide +kernel
    have hin : InTime ((dues countedRun 6).read 1) (storedDeadline (countedRun.state 6)) := by decide +kernel
    cases hover with
    | expire _ _ entry _ hc =>
      rw [hc] at hsets
      cases hsets
    | set _ _ id entry hc hlate =>
      rw [hc] at hsets
      obtain rfl := Option.some.inj hsets
      exact hlate hin

/-- The client stops after the `HSET` of its upsert. -/
def stoppedActions : List (StoreAction ℚ) := [
  .start 0 (.upsert storedEntry),
  .command 0 [],
  .stop 0]

/-- The entry expires between the `HGET` and the `HSET` of an `increment_hit`. -/
def lateActions : List (StoreAction ℚ) := [
  .start 0 (.upsert storedEntry),
  .command 0 [],
  .command 0 [],
  .start 1 (.incrementHit storedEntry.id),
  .command 1 [],
  .tick 1700000060,
  .command 1 []]

/-- A long-lived entry of the same id. -/
def lastingEntry : CacheEntry ℚ := { storedEntry with ttlSeconds := 3600 }

/-- Time goes on between the `HSET` and the `EXPIRE` of an upsert. -/
def slowActions : List (StoreAction ℚ) := [
  .start 0 (.upsert storedEntry),
  .command 0 [],
  .tick 1700001000,
  .command 0 []]

/-- A client stops after the `HSET` that replaces a long-lived entry. -/
def replacedActions : List (StoreAction ℚ) := [
  .start 0 (.upsert lastingEntry),
  .command 0 [],
  .command 0 [],
  .start 1 (.upsert storedEntry),
  .command 1 [],
  .stop 1]

/-- Two upserts of one id: the first to write is the last to set a deadline. -/
def crossedActions : List (StoreAction ℚ) := [
  .start 0 (.upsert lastingEntry),
  .command 0 [],
  .start 1 (.upsert storedEntry),
  .command 1 [],
  .command 1 [],
  .command 0 []]

/-- An `increment_hit` writes an entry back over a long-lived one. -/
def staleActions : List (StoreAction ℚ) := [
  .start 0 (.upsert storedEntry),
  .command 0 [],
  .command 0 [],
  .start 1 (.incrementHit storedEntry.id),
  .command 1 [],
  .start 0 (.upsert lastingEntry),
  .command 0 [],
  .command 0 [],
  .command 1 []]

/-- The actions go through; after them no call is in progress, and there is a hash with this
deadline, which is not in time. -/
def Late (acts : List (StoreAction ℚ)) (deadline : Option ℚ) : Prop :=
  ∃ h : (Run.exec (plainStore.step plainCache) emptyStore acts).isSome,
    let run := Run.ofExec _ _ _ acts (Option.some_get h).symm
    (∀ client, (run.state acts.length).calls client = none) ∧
    ∃ hash, (run.state acts.length).redis.hashes (plainStore.key storedEntry.id) = some hash ∧
      hash.deadline = deadline ∧ ¬ InTime ((dues run acts.length).held storedEntry.id) deadline

/-- The clients are 0 and 1. -/
theorem late_of_end (acts : List (StoreAction ℚ)) (deadline : Option ℚ)
    (h : (Run.exec (plainStore.step plainCache) emptyStore acts).isSome)
    (hclients : ∀ client request, StoreAction.start (client + 2) request ∉ acts)
    (hend : let run := Run.ofExec _ _ _ acts (Option.some_get h).symm
      ((run.state acts.length).calls 0).isNone ∧ ((run.state acts.length).calls 1).isNone ∧
        ((run.state acts.length).redis.hashes (plainStore.key storedEntry.id)).map (·.deadline) = some deadline ∧
        ¬ InTime ((dues run acts.length).held storedEntry.id) deadline) : Late acts deadline := by
  obtain ⟨h0, h1, hdeadline, hlate⟩ := hend
  refine ⟨h, fun client => ?_, ?_⟩
  · match client with
    | 0 => exact Option.isNone_iff_eq_none.mp h0
    | 1 => exact Option.isNone_iff_eq_none.mp h1
    | client + 2 => exact plainStore.calls_of_ofExec plainCache acts (client + 2) (hclients client) _ _ _ rfl _
  · obtain ⟨hash, hk, hd⟩ := Option.map_eq_some_iff.mp hdeadline
    exact ⟨hash, hk, hd, hlate⟩

end RedisVectorStore

end CachingLayer
