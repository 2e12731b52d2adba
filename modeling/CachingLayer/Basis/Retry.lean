import Mathlib

/-!
# Retrying

An operation on a state, tried again while it fails in a way worth another try, at most
so many times more; the last failure is handed on as it is.

How a retried run goes is said once (`Tries`, `exists_tries`): some failures worth another
try, then a try that is the answer.

The state may be all that was sent so far, and a try send one thing more: then the tries of
a run send the same thing as often as there are tries (`exists_sent`).
-/

section
variable {σ ε α : Type} (again : ε → Bool) (op : σ → Except ε α × σ)

def retry : ℕ → σ → Except ε α × σ
  | 0, s => op s
  | n + 1, s =>
    match op s with
    | (.ok a, s') => (.ok a, s')
    | (.error e, s') => if again e then retry n s' else (.error e, s')

/-- The state that so many tries leave. -/
def triedState (s : σ) (k : ℕ) : σ := (fun s => (op s).2)^[k] s

/-- `k` tries failed and were worth another one, of `n` that may be; the next is the answer. -/
structure Tries (n : ℕ) (s : σ) (k : ℕ) : Prop where
  le : k ≤ n
  failed : ∀ j < k, ∃ e, (op (triedState op s j)).1 = .error e ∧ again e = true
  settled : k = n ∨ ∀ e, (op (triedState op s k)).1 = .error e → again e = false

variable {again op}

theorem triedState_succ (s : σ) (k : ℕ) : triedState op s (k + 1) = (op (triedState op s k)).2 :=
  Function.iterate_succ_apply' _ k s

theorem triedState_snd (s : σ) (k : ℕ) : triedState op (op s).2 k = triedState op s (k + 1) :=
  (Function.iterate_succ_apply _ k s).symm

theorem Tries.next {n : ℕ} {s : σ} {k : ℕ} {e : ε} (h : Tries again op n (op s).2 k)
    (he : (op s).1 = .error e) (hagain : again e = true) : Tries again op (n + 1) s (k + 1) where
  le := Nat.succ_le_succ h.le
  failed := by
    intro j hj
    cases j with
    | zero => exact ⟨e, he, hagain⟩
    | succ j =>
      rw [← triedState_snd]
      exact h.failed j (Nat.lt_of_succ_lt_succ hj)
  settled := by
    rw [← triedState_snd]
    exact h.settled.imp_left (congrArg (· + 1))

variable (again op) in
/-- **Retried runs.**  The answer, and the state it leaves, are the last try's. -/
theorem exists_tries (n : ℕ) (s : σ) :
    ∃ k, Tries again op n s k ∧ retry again op n s = op (triedState op s k) := by
  induction n generalizing s with
  | zero => exact ⟨0, ⟨le_rfl, fun _ hj => absurd hj (Nat.not_lt_zero _), Or.inl rfl⟩, rfl⟩
  | succ n ih =>
    have hstop : (∀ e, (op s).1 = .error e → again e = false) → Tries again op (n + 1) s 0 := fun h =>
      ⟨Nat.zero_le _, fun _ hj => absurd hj (Nat.not_lt_zero _), Or.inr h⟩
    unfold retry
    rcases hop : op s with ⟨_ | a, s'⟩
    · next e =>
      by_cases hagain : again e = true
      · obtain ⟨k, htries, hk⟩ := ih (op s).2
        refine ⟨k + 1, htries.next (by rw [hop]) hagain, ?_⟩
        rw [← triedState_snd, ← hk, hop]
        exact if_pos hagain
      · refine ⟨0, hstop fun e' he' => ?_, (if_neg hagain).trans hop.symm⟩
        rw [hop] at he'
        obtain rfl := Except.error.inj he'
        exact Bool.eq_false_iff.mpr hagain
    · refine ⟨0, hstop fun e' he' => ?_, hop.symm⟩
      rw [hop] at he'
      cases he'

end

/-! ## Sending -/

section
variable {π ε α : Type} (again : ε → Bool) (answer : List π → Except ε α) (x : π)

/-- Send `x`; the answer is to all that was sent. -/
def sending (sent : List π) : Except ε α × List π := (answer (sent ++ [x]), sent ++ [x])

/-- All that was sent once `x` is sent `n` times more. -/
def afterSending (sent : List π) (n : ℕ) : List π := sent ++ List.replicate n x

theorem afterSending_succ (sent : List π) (n : ℕ) : afterSending x sent n ++ [x] = afterSending x sent (n + 1) := by
  unfold afterSending
  rw [List.append_assoc, ← List.replicate_succ']

theorem triedState_sending (sent : List π) (k : ℕ) : triedState (sending answer x) sent k = afterSending x sent k := by
  induction k with
  | zero => exact (List.append_nil sent).symm
  | succ k ih =>
    rw [triedState_succ, ih]
    exact afterSending_succ x sent k

theorem sending_triedState (sent : List π) (k : ℕ) :
    sending answer x (triedState (sending answer x) sent k) =
      (answer (afterSending x sent (k + 1)), afterSending x sent (k + 1)) := by
  rw [triedState_sending, ← afterSending_succ]
  rfl

/-- `x` is sent `k` times and once more, of `n` times more that it may be: all but the last
were answered with a failure worth another try, and so was the last if there were `n`. -/
structure Sent (n : ℕ) (sent : List π) (k : ℕ) : Prop where
  le : k ≤ n
  failed : ∀ j < k, ∃ e, answer (afterSending x sent (j + 1)) = .error e ∧ again e = true
  settled : k = n ∨ ∀ e, answer (afterSending x sent (k + 1)) = .error e → again e = false

/-- **Sent again.** -/
theorem exists_sent (n : ℕ) (sent : List π) :
    ∃ k, Sent again answer x n sent k ∧
      retry again (sending answer x) n sent = (answer (afterSending x sent (k + 1)), afterSending x sent (k + 1)) := by
  obtain ⟨k, htries, hk⟩ := exists_tries again (sending answer x) n sent
  rw [sending_triedState] at hk
  refine ⟨k, ⟨htries.le, fun j hj => ?_, htries.settled.imp_right fun hsettled e he => ?_⟩, hk⟩
  · obtain ⟨e, he, hagain⟩ := htries.failed j hj
    rw [sending_triedState] at he
    exact ⟨e, he, hagain⟩
  · refine hsettled e ?_
    rw [sending_triedState]
    exact he

end
