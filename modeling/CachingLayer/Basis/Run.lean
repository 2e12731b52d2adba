import Mathlib

/-!
# Runs of a transition system

`step : σ → α → Option σ`, an action being refused in some states.  `exec` runs a list
of actions; `Run` is a run with its states laid out, for statements about what was the
case when.  `Run.inv` is the invariant rule, `Run.exec_inv` that of `exec`; `Run.since` says when a thing that is the
case now and was not at the start came to be, and that it has been the case since;
`Run.exec_filter` is for leaving actions out of a run, `Run.exec_map` for running the same
actions on the images of the states.
-/

variable {σ α : Type}

/-- `len` actions from `s₀`, with the states between them. -/
structure Run (step : σ → α → Option σ) (s₀ : σ) where
  len : ℕ
  act : ℕ → α
  state : ℕ → σ
  init : state 0 = s₀
  next : ∀ n < len, step (state n) (act n) = some (state (n + 1))

namespace Run

/-- The actions one after another; none if one is refused. -/
def exec (step : σ → α → Option σ) (s : σ) (acts : List α) : Option σ := acts.foldlM step s

theorem exec_cons (step : σ → α → Option σ) (s : σ) (a : α) (acts : List α) :
    exec step s (a :: acts) = (step s a).bind fun s' => exec step s' acts := by
  unfold exec; rw [List.foldlM_cons]; rfl

theorem exec_append (step : σ → α → Option σ) (s : σ) (acts acts' : List α) :
    exec step s (acts ++ acts') = (exec step s acts).bind fun s' => exec step s' acts' := by
  unfold exec; rw [List.foldlM_append]; rfl

/-- The invariant rule for a list of actions. -/
theorem exec_inv (step : σ → α → Option σ) (P : σ → Prop)
    (hstep : ∀ s s' a, P s → step s a = some s' → P s') (acts : List α) (s s' : σ) (hs : P s)
    (h : exec step s acts = some s') : P s' := by
  induction acts generalizing s with
  | nil => exact Option.some.inj h ▸ hs
  | cons a acts ih =>
    rw [exec_cons] at h
    obtain ⟨u, hu, h⟩ := Option.bind_eq_some_iff.mp h
    exact ih u (hstep s u a hs hu) h

/-- Unwinding.  If the actions kept act alike on related states, and the others keep a
state related, then a run and what is kept of it end in related states. -/
theorem exec_filter (step : σ → α → Option σ) (keep : α → Bool) (R : σ → σ → Prop) (acts : List α)
    (hkeep : ∀ a ∈ acts, keep a = true → ∀ s s' t, R s t → step s a = some s' →
      ∃ t', step t a = some t' ∧ R s' t')
    (hdrop : ∀ a ∈ acts, keep a = false → ∀ s s' t, R s t → step s a = some s' → R s' t)
    (s s' t : σ) (hst : R s t) (h : exec step s acts = some s') :
    ∃ t', exec step t (acts.filter keep) = some t' ∧ R s' t' := by
  induction acts generalizing s t with
  | nil =>
    obtain rfl := Option.some.inj h
    exact ⟨t, rfl, hst⟩
  | cons a acts ih =>
    rw [exec_cons] at h
    obtain ⟨u, hu, h⟩ := Option.bind_eq_some_iff.mp h
    have ih' := ih (fun b hb => hkeep b (List.mem_cons_of_mem a hb))
      (fun b hb => hdrop b (List.mem_cons_of_mem a hb))
    cases ha : keep a with
    | true =>
      obtain ⟨t', ht', hut'⟩ := hkeep a List.mem_cons_self ha s u t hst hu
      rw [List.filter_cons_of_pos ha, exec_cons, ht']
      exact ih' u t' hut' h
    | false =>
      rw [List.filter_cons_of_neg (by rw [ha]; decide)]
      exact ih' u t (hdrop a List.mem_cons_self ha s u t hst hu) h

/-- Functional simulation.  If a step taken on images is the image of the step, where an
invariant holds that steps keep, then so it is for runs. -/
theorem exec_map {τ : Type} (step : σ → α → Option σ) (step' : τ → α → Option τ) (φ : σ → τ) (I : σ → Prop)
    (hkeep : ∀ s s' a, I s → step s a = some s' → I s') (hstep : ∀ s a, I s → step' (φ s) a = (step s a).map φ)
    (acts : List α) (s : σ) (hs : I s) : exec step' (φ s) acts = (exec step s acts).map φ := by
  induction acts generalizing s with
  | nil => rfl
  | cons a acts ih =>
    rw [exec_cons, exec_cons, hstep s a hs]
    cases h : step s a with
    | none => rfl
    | some s' => exact ih s' (hkeep s s' a hs h)

variable {step : σ → α → Option σ} {s₀ : σ}

/-- What holds at the start and is kept by every step holds all along. -/
theorem inv (run : Run step s₀) (P : ℕ → Prop) (h0 : P 0) (hstep : ∀ n < run.len, P n → P (n + 1)) :
    ∀ n ≤ run.len, P n := by
  intro n
  induction n with
  | zero => intro _; exact h0
  | succ n ih => intro hn; exact hstep n hn (ih (by omega))

/-- The same from state `i` on. -/
theorem inv_from (run : Run step s₀) (P : ℕ → Prop) (i : ℕ) (hi : P i)
    (hstep : ∀ n, i ≤ n → n < run.len → P n → P (n + 1)) : ∀ n, i ≤ n → n ≤ run.len → P n := by
  intro n hin
  induction n, hin using Nat.le_induction with
  | base => intro _; exact hi
  | succ n hin ih => intro hn; exact hstep n hin hn (ih (by omega))

/-- If `P` of a thing comes to hold by steps of kind `C` only, then what `P` holds of now
was brought about by such a step, and `P` has held since. -/
theorem since {β : Type} (run : Run step s₀) (P : σ → β → Prop) (C : ℕ → β → Prop)
    (h0 : ∀ b, ¬ P s₀ b)
    (hstep : ∀ n < run.len, ∀ b, P (run.state (n + 1)) b → P (run.state n) b ∨ C n b) :
    ∀ n ≤ run.len, ∀ b, P (run.state n) b →
      ∃ i < n, C i b ∧ ∀ k, i < k → k ≤ n → P (run.state k) b := by
  refine run.inv _ ?_ ?_
  · intro b hb
    rw [run.init] at hb
    exact absurd hb (h0 b)
  · intro n hn ih b hb
    have hlast : ∀ k, k = n + 1 → P (run.state k) b := by rintro _ rfl; exact hb
    rcases hstep n hn b hb with hold | hnew
    · obtain ⟨i, hi, hC, hsince⟩ := ih b hold
      refine ⟨i, by omega, hC, fun k hik hkn => ?_⟩
      by_cases hk : k ≤ n
      · exact hsince k hik hk
      · exact hlast k (by omega)
    · exact ⟨n, by omega, hnew, fun k hik hkn => hlast k (by omega)⟩

/-- What the first `n` steps log. -/
def logged {β : Type} (run : Run step s₀) (f : σ → α → List β) : ℕ → List β
  | 0 => []
  | n + 1 => logged run f n ++ f (run.state n) (run.act n)

theorem mem_logged {β : Type} (run : Run step s₀) (f : σ → α → List β) (b : β) (n : ℕ) :
    b ∈ run.logged f n ↔ ∃ i < n, b ∈ f (run.state i) (run.act i) := by
  induction n with
  | zero => simp [logged]
  | succ n ih =>
    unfold logged
    rw [List.mem_append, ih]
    constructor
    · rintro (⟨i, hi, hb⟩ | hb)
      · exact ⟨i, by omega, hb⟩
      · exact ⟨n, by omega, hb⟩
    · rintro ⟨i, hi, hb⟩
      by_cases hin : i = n
      · exact Or.inr (hin ▸ hb)
      · exact Or.inl ⟨i, by omega, hb⟩

theorem length_logged {β : Type} (run : Run step s₀) (f : σ → α → List β) (n : ℕ) :
    (run.logged f n).length = ∑ k ∈ Finset.range n, (f (run.state k) (run.act k)).length := by
  induction n with
  | zero => rfl
  | succ n ih =>
    rw [Finset.sum_range_succ, ← ih]
    exact List.length_append

/-- A run of a list of actions. -/
def ofExec [Inhabited α] (step : σ → α → Option σ) (s₀ s : σ) (acts : List α)
    (h : exec step s₀ acts = some s) : Run step s₀ where
  len := acts.length
  act n := acts.getD n default
  state n := (exec step s₀ (acts.take n)).getD s₀
  init := rfl
  next := by
    intro n hn
    have hsplit : acts = acts.take n ++ acts[n] :: acts.drop (n + 1) := by
      rw [List.getElem_cons_drop, List.take_append_drop]
    have hget : acts.getD n default = acts[n] := by
      rw [List.getD_eq_getElem?_getD, List.getElem?_eq_getElem hn]; rfl
    rw [hsplit, exec_append] at h
    rw [List.take_succ_eq_append_getElem hn, exec_append, hget]
    cases hs : exec step s₀ (acts.take n) with
    | none => rw [hs] at h; cases h
    | some t =>
      rw [hs] at h
      simp only [Option.bind_some, exec_cons] at h ⊢
      cases hstep : step t acts[n] with
      | none => rw [hstep] at h; cases h
      | some t' => rw [Option.getD_some, hstep]; rfl

/-- Its states are where the first actions lead. -/
theorem exec_take_ofExec [Inhabited α] (step : σ → α → Option σ) (s₀ s : σ) (acts : List α)
    (h : exec step s₀ acts = some s) (n : ℕ) :
    exec step s₀ (acts.take n) = some ((ofExec step s₀ s acts h).state n) := by
  show _ = some ((exec step s₀ (acts.take n)).getD s₀)
  cases ht : exec step s₀ (acts.take n) with
  | some t => rfl
  | none =>
    rw [← List.take_append_drop n acts, exec_append, ht] at h
    cases h

theorem act_mem_ofExec [Inhabited α] (step : σ → α → Option σ) (s₀ s : σ) (acts : List α)
    (h : exec step s₀ acts = some s) (n : ℕ) (hn : n < acts.length) :
    (ofExec step s₀ s acts h).act n ∈ acts := by
  show acts.getD n default ∈ acts
  rw [List.getD_eq_getElem _ _ hn]
  exact List.getElem_mem hn

/-- `check` of every state and the action taken there. -/
def scan (step : σ → α → Option σ) (check : σ → α → Bool) : σ → List α → Bool
  | _, [] => true
  | s, a :: acts =>
    check s a &&
      match step s a with
      | some s' => scan step check s' acts
      | none => false

theorem scan_ofExec [Inhabited α] (step : σ → α → Option σ) (check : σ → α → Bool) (s₀ s : σ) (acts : List α)
    (h : exec step s₀ acts = some s) (hscan : scan step check s₀ acts = true) (n : ℕ) (hn : n < acts.length) :
    check ((ofExec step s₀ s acts h).state n) ((ofExec step s₀ s acts h).act n) = true := by
  induction acts generalizing s₀ n with
  | nil => simp at hn
  | cons a acts ih =>
    unfold scan at hscan
    rw [Bool.and_eq_true] at hscan
    rw [exec_cons] at h
    obtain ⟨u, hu, h'⟩ := Option.bind_eq_some_iff.mp h
    cases n with
    | zero => exact hscan.1
    | succ n =>
      rw [hu] at hscan
      have hstate : (ofExec step s₀ s (a :: acts) h).state (n + 1) = (ofExec step u s acts h').state n := by
        have htake := exec_take_ofExec step s₀ s (a :: acts) h (n + 1)
        rw [List.take_succ_cons, exec_cons, hu, Option.bind_some, exec_take_ofExec step u s acts h' n] at htake
        exact (Option.some.inj htake).symm
      rw [hstate]
      exact ih u h' hscan.2 n (by simpa using hn)

end Run
