import Mathlib

/-!
# Ledgers

A system with parts under keys and a log.  Parts are opened and moved on, one at a time,
and only a part that moves on writes to the log.  When what a part holds changes by what
it writes, the whole log comes to what all the parts hold (`Books.run`): exactly, or as a
bound, whichever the relation says.
-/

namespace Ledger

section
variable {κ τ ε M : Type} [DecidableEq κ] [AddCommMonoid M] (r : M → M → Prop) (cost : ε → M) (held : τ → M)

/-- What is held under a key. -/
def heldAt (parts : κ → Option τ) (k : κ) : M := (parts k).elim 0 held

/-- One step's bookkeeping. -/
inductive Books (parts parts' : κ → Option τ) (log log' : List ε) : Prop
  | same (hparts : parts' = parts) (hlog : log' = log)
  | opened (k : κ) (t : τ) (hnew : parts k = none) (hparts : parts' = Function.update parts k (some t))
      (hlog : log' = log) (hheld : r 0 (held t))
  | moved (k : κ) (t t' : τ) (es : List ε) (hold : parts k = some t)
      (hparts : parts' = Function.update parts k (some t')) (hlog : log' = log ++ es)
      (hheld : r (held t + (es.map cost).sum) (held t'))

/-- The log comes to what the parts there are hold. -/
def Balanced (parts : κ → Option τ) (log : List ε) : Prop :=
  ∃ keys : Finset κ, (∀ k, k ∈ keys ↔ (parts k).isSome = true) ∧
    r (log.map cost).sum (∑ k ∈ keys, heldAt held parts k)

variable {r cost held}

omit [DecidableEq κ] in
theorem Balanced.sum {parts : κ → Option τ} {log : List ε} (h : Balanced r cost held parts log) (keys : Finset κ)
    (hkeys : ∀ k, k ∈ keys ↔ (parts k).isSome = true) :
    r (log.map cost).sum (∑ k ∈ keys, heldAt held parts k) := by
  obtain ⟨keys', hkeys', hsum⟩ := h
  obtain rfl : keys' = keys := Finset.ext fun k => (hkeys' k).trans (hkeys k).symm
  exact hsum

theorem sum_heldAt_update (parts : κ → Option τ) (keys : Finset κ) (k : κ) (hk : k ∉ keys) (t : τ) :
    ∑ j ∈ keys, heldAt held (Function.update parts k (some t)) j = ∑ j ∈ keys, heldAt held parts j := by
  refine Finset.sum_congr rfl fun j hj => ?_
  have hne : j ≠ k := fun h => hk (h ▸ hj)
  unfold heldAt
  rw [Function.update_of_ne hne]

theorem heldAt_update_self (parts : κ → Option τ) (k : κ) (t : τ) :
    heldAt held (Function.update parts k (some t)) k = held t := by
  unfold heldAt
  rw [Function.update_self]
  rfl

section
variable (hrefl : ∀ a, r a a) (htrans : ∀ a b c, r a b → r b c → r a c)
  (hadd : ∀ a b c, r a b → r (a + c) (b + c))
include hrefl

omit [DecidableEq κ] in
theorem balanced_nil (parts : κ → Option τ) (hparts : ∀ k, parts k = none) : Balanced r cost held parts [] := by
  refine ⟨∅, fun k => ?_, hrefl 0⟩
  rw [hparts k]
  simp

omit hrefl
include htrans hadd

/-- **Step.** -/
theorem Books.balanced {parts parts' : κ → Option τ} {log log' : List ε} (h : Books r cost held parts parts' log log')
    (hbal : Balanced r cost held parts log) : Balanced r cost held parts' log' := by
  obtain ⟨keys, hkeys, hsum⟩ := hbal
  cases h with
  | same hparts hlog =>
    rw [hparts, hlog]
    exact ⟨keys, hkeys, hsum⟩
  | opened k t hnew hparts hlog hheld =>
    have hk : k ∉ keys := by
      rw [hkeys, hnew]
      simp
    refine ⟨insert k keys, fun j => ?_, ?_⟩
    · rw [Finset.mem_insert, hkeys, hparts]
      by_cases hj : j = k
      · rw [hj, Function.update_self]
        simp
      · rw [Function.update_of_ne hj]
        simp [hj]
    · rw [Finset.sum_insert hk, hparts, heldAt_update_self, sum_heldAt_update parts keys k hk, hlog]
      have hopened := hadd _ _ (∑ j ∈ keys, heldAt held parts j) hheld
      rw [zero_add] at hopened
      exact htrans _ _ _ hsum hopened
  | moved k t t' es hold hparts hlog hheld =>
    have hk : k ∈ keys := by
      rw [hkeys, hold]
      rfl
    refine ⟨keys, fun j => ?_, ?_⟩
    · rw [hkeys, hparts]
      by_cases hj : j = k
      · rw [hj, Function.update_self, hold]
        simp
      · rw [Function.update_of_ne hj]
    · have hself : heldAt held parts k = held t := by
        unfold heldAt
        rw [hold]
        rfl
      rw [← Finset.add_sum_erase keys _ hk, hself] at hsum
      rw [← Finset.add_sum_erase keys _ hk, hparts, heldAt_update_self,
        sum_heldAt_update parts _ k (Finset.notMem_erase k keys), hlog, List.map_append, List.sum_append]
      have hwritten := hadd _ _ (es.map cost).sum hsum
      rw [add_right_comm] at hwritten
      exact htrans _ _ _ hwritten (hadd _ _ _ hheld)

/-- **Run.** -/
theorem Books.run {σ : Type} (state : ℕ → σ) (len : ℕ) (parts : σ → κ → Option τ) (log : σ → List ε)
    (h0 : Balanced r cost held (parts (state 0)) (log (state 0)))
    (hstep : ∀ n < len, Books r cost held (parts (state n)) (parts (state (n + 1))) (log (state n))
      (log (state (n + 1)))) :
    ∀ n ≤ len, Balanced r cost held (parts (state n)) (log (state n)) := by
  intro n
  induction n with
  | zero => exact fun _ => h0
  | succ n ih => exact fun hn => (hstep n hn).balanced htrans hadd (ih (Nat.le_of_succ_le hn))

end

omit [DecidableEq κ] in
/-- An exact balance is one in any other currency. -/
theorem Balanced.map {N : Type} [AddCommMonoid N] (φ : M →+ N) (parts : κ → Option τ) (log : List ε)
    (h : Balanced Eq cost held parts log) : Balanced Eq (φ ∘ cost) (φ ∘ held) parts log := by
  obtain ⟨keys, hkeys, hsum⟩ := h
  refine ⟨keys, hkeys, ?_⟩
  have hheld : ∀ k, heldAt (φ ∘ held) parts k = φ (heldAt held parts k) := by
    intro k
    unfold heldAt
    cases parts k with
    | none => exact (map_zero φ).symm
    | some t => rfl
  rw [← List.map_map, ← map_list_sum, hsum, map_sum]
  exact Finset.sum_congr rfl fun k _ => (hheld k).symm

end

end Ledger
