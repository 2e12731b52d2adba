import CachingLayer.Proxy.Retention

/-!
# Where entries go

Every MISS that stores its answer puts one entry into the store, under an id of its own, and
only invalidations take entries out.  So the ids that were put in are those that are there
and those that were taken out, each once; and the numbers that the invalidations report, with
the number of entries there are, come to the number of entries stored (`entries_accounted`).
-/

namespace CachingLayer

/-- The ids of the entries an action takes out. -/
def Action.takes {F E : Type} (s : State F E) (a : Action E) : List String :=
  (s.store.items.filter fun e => a.evicts e).map CacheEntry.id

/-- The number an invalidation reports. -/
def Action.reports {F E : Type} (s : State F E) : Action E → Nat
  | .delete model systemPromptHash tag => (s.store.delete model systemPromptHash tag).1
  | .clear => s.store.clear.1
  | _ => 0

/-- The id of the entry a task puts in. -/
def Action.puts {F E : Type} (s : State F E) : Action E → List String
  | .task rid .upserted =>
    (s.tasks rid).elim [] fun t =>
      match t.phase with
      | .upserting _ _ entry => [entry.id]
      | _ => []
  | _ => []

theorem Action.length_takes {F E : Type} (s : State F E) (a : Action E) : (a.takes s).length = a.reports s := by
  unfold takes
  rw [List.length_map]
  cases a with
  | delete m p tag =>
    show _ = (s.store.delete m p tag).1
    by_cases hnone : m = none ∧ p = none ∧ tag = none
    · rw [InMemoryVectorStore.delete_of_none _ m p tag hnone]
      simp [Action.evicts, hnone]
    · rw [InMemoryVectorStore.delete_eq _ m p tag hnone]
      simp [Action.evicts, hnone]
  | clear => simp [Action.evicts, Action.reports, InMemoryVectorStore.clear]
  | _ => simp [Action.evicts, Action.reports]

/-- A deletion leaves what it does not take. -/
theorem InMemoryVectorStore.items_delete {F E : Type} (store : InMemoryVectorStore F) (m p tag : Option String) :
    (store.delete m p tag).2.items = store.items.filter fun e => !(Action.delete (E := E) m p tag).evicts e := by
  by_cases hnone : m = none ∧ p = none ∧ tag = none
  · rw [delete_of_none _ m p tag hnone]
    simp [Action.evicts, hnone]
  · rw [delete_eq _ m p tag hnone]
    simp [Action.evicts, hnone, Keyed.filter]

theorem InMemoryVectorStore.ids_incrementHit {F : Type} (store : InMemoryVectorStore F) (id : String) :
    (store.incrementHit id).items.map CacheEntry.id = store.items.map CacheEntry.id := by
  show (store.items.map _).map _ = _
  rw [List.map_map]
  refine List.map_congr_left fun e _ => ?_
  show (if e.id = id then { e with hitCount := e.hitCount + 1 } else e).id = e.id
  split <;> rfl

namespace ProxyService

section
variable {F E : Type} [Field F] [LinearOrder F] {np : Numpy F} {oj : Orjson} {pyd : Pydantic}
  {svc : ProxyService F E} {s₀ : State F E} (run : Run (svc.step np oj pyd) s₀)

/-- What is put in is what a MISS stores. -/
theorem mem_puts_iff (n : ℕ) (id : String) :
    id ∈ (run.act n).puts (run.state n) ↔ ∃ rid t l response e, StoredAt run n rid t l response e ∧ e.id = id := by
  constructor
  · intro h
    cases hact : run.act n with
    | task rid event =>
      rw [hact] at h
      cases event with
      | upserted =>
        change id ∈ ((run.state n).tasks rid).elim [] _ at h
        cases ht : (run.state n).tasks rid with
        | none => rw [ht] at h; cases h
        | some t =>
          rw [ht, Option.elim_some] at h
          cases hp : t.phase with
          | upserting l response e =>
            rw [hp] at h
            exact ⟨rid, t, l, response, e, ⟨hact, ht, hp⟩, (List.mem_singleton.mp h).symm⟩
          | _ => rw [hp] at h; cases h
      | _ => cases h
    | _ => rw [hact] at h; cases h
  · rintro ⟨rid, t, l, response, e, ⟨hact, ht, hp⟩, rfl⟩
    rw [hact]
    show e.id ∈ ((run.state n).tasks rid).elim [] _
    rw [ht, Option.elim_some, hp]
    exact List.mem_singleton_self _

/-- A step puts in one entry at most, and then takes none out. -/
theorem puts_stored (n : ℕ) (rid : RequestId) (t : Task F) (l : CacheLookup F) (response : ChatCompletionResponse)
    (e : CacheEntry F) (h : StoredAt run n rid t l response e) :
    (run.act n).puts (run.state n) = [e.id] ∧ (run.act n).takes (run.state n) = [] := by
  obtain ⟨hact, ht, hp⟩ := h
  rw [hact]
  constructor
  · show ((run.state n).tasks rid).elim [] _ = _
    rw [ht, Option.elim_some, hp]
  · simp [Action.takes, Action.evicts]

/-- **Step.**  What is there and what is put in are what is there after and what is taken out. -/
theorem perm_step (n : ℕ) (hn : n < run.len)
    (hfresh : ∀ id ∈ (run.act n).puts (run.state n), id ∉ (run.state n).store.items.map CacheEntry.id) :
    ((run.state n).store.items.map CacheEntry.id ++ (run.act n).puts (run.state n)).Perm
      ((run.state (n + 1)).store.items.map CacheEntry.id ++ (run.act n).takes (run.state n)) := by
  have hputs := mem_puts_iff run n
  have hsteps := svc.steps_of_step np oj pyd _ _ _ (run.next n hn)
  generalize hact : run.act n = a at hsteps hfresh hputs ⊢
  generalize run.state (n + 1) = s' at hsteps ⊢
  cases hsteps with
  | delete m p tag =>
    show (_ ++ []).Perm _
    rw [List.append_nil, InMemoryVectorStore.items_delete (E := E)]
    unfold Action.takes
    rw [← List.map_append]
    exact ((List.perm_append_comm.trans (List.filter_append_perm _ _)).map _).symm
  | clear =>
    show (_ ++ []).Perm ([] ++ _)
    simp [Action.takes, Action.evicts]
  | task rid event t t' op effects ht hadv =>
    have hnone : (∀ entry, op ≠ .upsert entry) → (Action.task (E := E) rid event).puts (run.state n) = [] := by
      intro hop
      rw [List.eq_nil_iff_forall_not_mem]
      intro id hid
      obtain ⟨rid', t₁, l, response, e, ⟨hact', ht₁, hp⟩, -⟩ := (hputs id).mp hid
      obtain ⟨rfl, rfl⟩ := Action.task.inj (hact.symm.trans hact')
      obtain rfl := Option.some.inj (ht.symm.trans ht₁)
      exact hop e (Advances.op_of_upserting oj pyd svc rid t t' _ _ _ _ op effects hadv l response e rfl hp)
    have htakes : (Action.task (E := E) rid event).takes (run.state n) = [] := by simp [Action.takes, Action.evicts]
    rw [htakes, List.append_nil]
    rcases Advances.storeOp oj pyd svc rid t t' _ _ _ event op effects hadv with
      rfl | ⟨best, -, rfl⟩ | ⟨l, response, entry, hp, rfl, rfl⟩
    · rw [hnone (fun _ h => by cases h), List.append_nil]
      exact List.Perm.refl _
    · rw [hnone (fun _ h => by cases h), List.append_nil]
      exact List.Perm.of_eq (InMemoryVectorStore.ids_incrementHit _ best.id).symm
    · have hown := (puts_stored run n rid t l response entry ⟨hact, ht, hp⟩).1
      rw [hact] at hown
      rw [hown] at hfresh ⊢
      have hput := Keyed.items_put_of_notMem (run.state n).store entry (hfresh entry.id (List.mem_singleton_self _))
      show List.Perm _ (((run.state n).store.put entry).items.map CacheEntry.id)
      rw [hput, List.map_append]
      exact List.Perm.refl _
  | _ => simp [Action.puts, Action.takes, Action.evicts]

section
variable (htasks : ∀ rid, s₀.tasks rid = none) (hids : IdsUnique run)
include htasks hids

/-- An id is put in once. -/
theorem nodup_puts : ∀ n ≤ run.len, (run.logged (fun s a => a.puts s) n).Nodup := by
  refine run.inv _ List.nodup_nil ?_
  intro n hn ih
  show (run.logged (fun s a => a.puts s) n ++ (run.act n).puts (run.state n)).Nodup
  cases hputs : (run.act n).puts (run.state n) with
  | nil =>
    rw [List.append_nil]
    exact ih
  | cons id ids =>
    obtain ⟨rid, t, l, response, e, hstored, -⟩ := (mem_puts_iff run n id).mp (by rw [hputs]; exact List.mem_cons_self)
    rw [← hputs, (puts_stored run n rid t l response e hstored).1]
    refine List.nodup_append.mpr ⟨ih, List.nodup_singleton _, ?_⟩
    rintro id' hid' _ hself rfl
    obtain rfl := List.mem_singleton.mp hself
    obtain ⟨i, hi, hmem⟩ := (run.mem_logged _ _ n).mp hid'
    obtain ⟨rid', t', l', response', e', hstored', hid⟩ := (mem_puts_iff run i e.id).mp hmem
    exact stored_once run htasks hids i n hi hn rid' rid t' t l' l response' response e' e hstored' hstored hid.symm

variable (hstore : s₀.store.items = [])
include hstore

/-- **Run.**  What was put in is there, or was taken out. -/
theorem perm_puts : ∀ n ≤ run.len, (run.logged (fun s a => a.puts s) n).Perm
    ((run.state n).store.items.map CacheEntry.id ++ run.logged (fun s a => a.takes s) n) := by
  refine run.inv _ ?_ ?_
  · rw [run.init, hstore]
    exact List.Perm.refl _
  · intro n hn ih
    have hnodup := nodup_puts run htasks hids (n + 1) (by omega)
    have hfresh : ∀ id ∈ (run.act n).puts (run.state n), id ∉ (run.state n).store.items.map CacheEntry.id := by
      intro id hid hmem
      have hput : id ∈ run.logged (fun s a => a.puts s) n := ih.mem_iff.mpr (List.mem_append_left _ hmem)
      exact (List.nodup_append.mp hnodup).2.2 id hput id hid rfl
    have hstep := perm_step run n hn hfresh
    show (run.logged (fun s a => a.puts s) n ++ (run.act n).puts (run.state n)).Perm
      (_ ++ (run.logged (fun s a => a.takes s) n ++ (run.act n).takes (run.state n)))
    rw [List.perm_iff_count] at ih hstep ⊢
    intro id
    have hbefore := ih id
    have hafter := hstep id
    simp only [List.count_append] at hbefore hafter ⊢
    omega

/-- **Entries accounted for.**  In every state of every run in which ids are drawn once: the
ids of the entries stored so far, no two of them alike, are those of the entries there are
and of those taken out, each there or taken out once; and what the invalidations reported comes,
with the number of entries there are, to the number stored. -/
theorem entries_accounted (n : ℕ) (hn : n ≤ run.len) :
    ∃ stored taken : List String,
      (∀ id, id ∈ stored ↔ ∃ i < n, ∃ rid t l response e, StoredAt run i rid t l response e ∧ e.id = id) ∧
      stored.Nodup ∧
      (∀ id, id ∈ taken ↔ ∃ i < n, ∃ e ∈ (run.state i).store.items, (run.act i).evicts e = true ∧ e.id = id) ∧
      stored.Perm ((run.state n).store.items.map CacheEntry.id ++ taken) ∧
      (run.state n).store.count + ∑ i ∈ Finset.range n, (run.act i).reports (run.state i) = stored.length := by
  have hperm := perm_puts run htasks hids hstore n hn
  refine ⟨run.logged (fun s a => a.puts s) n, run.logged (fun s a => a.takes s) n, fun id => ?_,
    nodup_puts run htasks hids n hn, fun id => ?_, hperm, ?_⟩
  · rw [run.mem_logged]
    exact exists_congr fun i => and_congr_right fun _ => mem_puts_iff run i id
  · rw [run.mem_logged]
    refine exists_congr fun i => and_congr_right fun _ => ?_
    unfold Action.takes
    rw [List.mem_map]
    exact exists_congr fun e => by rw [List.mem_filter, and_assoc]
  · rw [hperm.length_eq, List.length_append, List.length_map, run.length_logged]
    exact congrArg (_ + ·) (Finset.sum_congr rfl fun i _ => (Action.length_takes _ _).symm)

end

end

theorem idsUnique_flushRun : IdsUnique flushRun := by
  have hdrawn : ∀ i < 13, ∀ rid id, flushRun.act i = .task rid (.storeEmbedded id) → i = 4 := by
    intro i hi rid id h
    interval_cases i <;> first | rfl | cases h
  intro i hi j hj rid rid' id h h'
  exact (hdrawn i hi rid id h).trans (hdrawn j hj rid' id h').symm

/-- The ocean's entry was stored, and reported when its model was invalidated. -/
theorem entries_accounted_flush : (flushRun.act 12).reports (flushRun.state 12) = 1 ∧
    ∃ stored taken : List String, stored.Perm taken ∧ stored.length = 1 := by
  obtain ⟨stored, taken, -, -, -, hperm, hcount⟩ :=
    entries_accounted flushRun (fun _ => rfl) idsUnique_flushRun rfl 13 le_rfl
  have hempty : (flushRun.state 13).store.items.map CacheEntry.id = [] := by decide +kernel
  have hsum : (flushRun.state 13).store.count +
      ∑ i ∈ Finset.range 13, (flushRun.act i).reports (flushRun.state i) = 1 := by decide +kernel
  rw [hempty] at hperm
  exact ⟨by decide +kernel, stored, taken, hperm, hcount.symm.trans hsum⟩

end ProxyService

end CachingLayer
