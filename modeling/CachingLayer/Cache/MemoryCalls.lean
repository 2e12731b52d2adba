import CachingLayer.Basis.Run
import CachingLayer.Cache.MemoryStore

/-!
# Runs of the in-memory store

Its calls one after another, at times that do not decrease.  What is in the store after
them is known from the calls alone, hits apart: what was put there, and neither replaced
nor removed since (`holds_iff`).
-/

namespace CachingLayer

inductive MemoryCall (F : Type)
  | upsert (entry : CacheEntry F)
  | search (namespaceKey : String) (vector : List F) (topK : Nat)
  | incrementHit (entryId : String)
  | delete (model systemPromptHash tag : Option String)
  | clear

/-- A call and when it is made. -/
structure MemoryAction (F : Type) where
  time : ℚ
  call : MemoryCall F

instance {F : Type} : Inhabited (MemoryAction F) := ⟨0, .clear⟩

structure MemoryState (F : Type) where
  now : ℚ
  store : InMemoryVectorStore F := .new

namespace MemoryCall

variable {F : Type}

/-- The store after the call; a search leaves it. -/
def apply (store : InMemoryVectorStore F) : MemoryCall F → InMemoryVectorStore F
  | upsert entry => store.upsert entry
  | search _ _ _ => store
  | incrementHit entryId => store.incrementHit entryId
  | delete model systemPromptHash tag => (store.delete model systemPromptHash tag).2
  | clear => store.clear.2

/-- The call replaces the entry or removes it. -/
def removes (e : CacheEntry F) : MemoryCall F → Bool
  | upsert entry => entry.id = e.id
  | delete model systemPromptHash tag =>
    ¬ (model = none ∧ systemPromptHash = none ∧ tag = none) ∧
      InMemoryVectorStore.matchesFilter model systemPromptHash tag e
  | clear => true
  | _ => false

end MemoryCall

namespace InMemoryVectorStore

variable {F : Type}

def step (s : MemoryState F) (a : MemoryAction F) : Option (MemoryState F) :=
  if s.now ≤ a.time then some { now := a.time, store := a.call.apply s.store } else none

/-- The entry is in the store, hits apart. -/
def Holds (store : InMemoryVectorStore F) (e : CacheEntry F) : Prop := ∃ e' ∈ store.items, e'.SameRecord e

theorem step_eq_some_iff (s s' : MemoryState F) (a : MemoryAction F) :
    step s a = some s' ↔ s.now ≤ a.time ∧ s' = { now := a.time, store := a.call.apply s.store } := by
  unfold step
  by_cases h : s.now ≤ a.time
  · rw [if_pos h, Option.some.injEq]
    exact ⟨fun heq => ⟨h, heq.symm⟩, fun heq => heq.2.symm⟩
  · simp [h]

/-- **Step.**  What a call leaves in the store: what it puts there, and what it neither
replaces nor removes. -/
theorem holds_apply_iff (store : InMemoryVectorStore F) (call : MemoryCall F) (e : CacheEntry F) :
    Holds (call.apply store) e ↔
      (∃ entry, call = .upsert entry ∧ entry.SameRecord e) ∨ (Holds store e ∧ call.removes e = false) := by
  cases call with
  | upsert entry =>
    show (∃ e' ∈ (store.put entry).items, e'.SameRecord e) ↔ _
    constructor
    · rintro ⟨e', he', hsame⟩
      rcases (Keyed.mem_put _ _ _).mp he' with rfl | ⟨hold, hid⟩
      · exact Or.inl ⟨e', rfl, hsame⟩
      · have hkey : e'.id = e.id := congrArg (·.id) hsame
        rw [hkey] at hid
        exact Or.inr ⟨⟨e', hold, hsame⟩, decide_eq_false (Ne.symm hid)⟩
    · rintro (⟨entry', heq, hsame⟩ | ⟨⟨e', he', hsame⟩, hkept⟩)
      · obtain rfl := MemoryCall.upsert.inj heq
        exact ⟨entry, (Keyed.mem_put _ _ _).mpr (Or.inl rfl), hsame⟩
      · have hkey : e'.id = e.id := congrArg (·.id) hsame
        have hid : entry.id ≠ e.id := of_decide_eq_false hkept
        exact ⟨e', (Keyed.mem_put _ _ _).mpr (Or.inr ⟨he', by rw [hkey]; exact hid.symm⟩), hsame⟩
  | search ns v k => simp [MemoryCall.apply, MemoryCall.removes]
  | incrementHit id =>
    simp only [MemoryCall.apply, MemoryCall.removes, reduceCtorEq, false_and, exists_false, false_or, and_true]
    constructor
    · rintro ⟨e', he', hsame⟩
      obtain ⟨e'', he'', hsame'⟩ := mem_incrementHit store id e' he'
      exact ⟨e'', he'', hsame'.trans hsame⟩
    · rintro ⟨e', he', hsame⟩
      refine ⟨_, (Keyed.mem_modify _ _ _ _ _).mpr ⟨e', he', rfl⟩, ?_⟩
      split
      · exact hsame
      · exact hsame
  | delete model systemPromptHash tag =>
    simp only [MemoryCall.apply, MemoryCall.removes, reduceCtorEq, false_and, exists_false, false_or]
    by_cases hnone : model = none ∧ systemPromptHash = none ∧ tag = none
    · rw [delete_of_none store model systemPromptHash tag hnone]
      simp [hnone]
    · rw [delete_eq store model systemPromptHash tag hnone]
      simp only [hnone, not_false_eq_true, true_and, Bool.decide_eq_true]
      constructor
      · rintro ⟨e', he', hsame⟩
        obtain ⟨hold, hkept⟩ := (Keyed.mem_filter _ _ _).mp he'
        rw [matchesFilter_sameRecord _ _ _ e' e hsame] at hkept
        exact ⟨⟨e', hold, hsame⟩, by simpa using hkept⟩
      · rintro ⟨⟨e', he', hsame⟩, hkept⟩
        refine ⟨e', (Keyed.mem_filter _ _ _).mpr ⟨he', ?_⟩, hsame⟩
        rw [matchesFilter_sameRecord _ _ _ e' e hsame, hkept]
        rfl
  | clear =>
    simp only [MemoryCall.apply, MemoryCall.removes, reduceCtorEq, false_and, exists_false, and_false, or_false,
      iff_false]
    rintro ⟨e', he', -⟩
    cases he'

/-- The entry was put there by step `i`, and neither replaced nor removed before step `n`. -/
def PutAt {s₀ : MemoryState F} (run : Run step s₀) (i n : ℕ) (e : CacheEntry F) : Prop :=
  (∃ entry, (run.act i).call = .upsert entry ∧ entry.SameRecord e) ∧
    ∀ k, i < k → k < n → (run.act k).call.removes e = false

/-- **Run.**  What is in the store was there at the start or put there, and is kept since. -/
theorem holds_iff {s₀ : MemoryState F} (run : Run step s₀) (e : CacheEntry F) :
    ∀ n ≤ run.len, (Holds (run.state n).store e ↔
      (Holds s₀.store e ∧ ∀ k < n, (run.act k).call.removes e = false) ∨ ∃ i < n, PutAt run i n e) := by
  refine run.inv _ ?_ ?_
  · rw [run.init]
    simp
  · intro n hn ih
    obtain ⟨-, hnext⟩ := (step_eq_some_iff _ _ _).mp (run.next n hn)
    rw [hnext]
    show Holds ((run.act n).call.apply (run.state n).store) e ↔ _
    rw [holds_apply_iff, ih]
    constructor
    · rintro (hput | ⟨⟨hstart, hkept⟩ | ⟨i, hi, hput, hkept⟩, hlast⟩)
      · exact Or.inr ⟨n, by omega, hput, fun k hik hkn => by omega⟩
      · refine Or.inl ⟨hstart, fun k hk => ?_⟩
        rcases Nat.lt_succ_iff_lt_or_eq.mp hk with hk | rfl
        · exact hkept k hk
        · exact hlast
      · refine Or.inr ⟨i, by omega, hput, fun k hik hk => ?_⟩
        rcases Nat.lt_succ_iff_lt_or_eq.mp hk with hk | rfl
        · exact hkept k hik hk
        · exact hlast
    · rintro (⟨hstart, hkept⟩ | ⟨i, hi, hput, hkept⟩)
      · exact Or.inr ⟨Or.inl ⟨hstart, fun k hk => hkept k (by omega)⟩, hkept n (by omega)⟩
      · by_cases hin : i = n
        · subst hin
          exact Or.inl hput
        · exact Or.inr ⟨Or.inr ⟨i, by omega, hput, fun k hik hk => hkept k hik (by omega)⟩,
            hkept n (by omega) (by omega)⟩

end InMemoryVectorStore

end CachingLayer
