import Mathlib

/-!
# Folds that can raise

`l.foldlM f s` in `Except`: over a flattened list, and when whether a step raises does
not depend on the state (`foldlM_eq_ok_iff`): then the fold is a plain one, guarded by
one condition on the elements.
-/

namespace Fold

variable {α β σ ε : Type}

theorem bind_eq_ok_iff (x : Except ε α) (f : α → Except ε β) (b : β) :
    (x >>= f) = .ok b ↔ ∃ a, x = .ok a ∧ f a = .ok b := by
  cases x with
  | error e =>
    constructor
    · intro h; cases h
    · rintro ⟨a, h, -⟩; cases h
  | ok a =>
    constructor
    · exact fun h => ⟨a, rfl, h⟩
    · rintro ⟨a', h, h'⟩
      obtain rfl := Except.ok.inj h
      exact h'

theorem map_eq_ok_iff (f : α → β) (x : Except ε α) (b : β) :
    f <$> x = .ok b ↔ ∃ a, x = .ok a ∧ b = f a := by
  cases x with
  | error e =>
    constructor
    · intro h; cases h
    · rintro ⟨a, h, -⟩; cases h
  | ok a =>
    constructor
    · exact fun h => ⟨a, rfl, (Except.ok.inj h).symm⟩
    · rintro ⟨a', h, rfl⟩
      obtain rfl := Except.ok.inj h
      rfl

theorem foldlM_flatMap (g : α → List β) (f : σ → β → Except ε σ) (s : σ) (l : List α) :
    l.foldlM (fun s a => (g a).foldlM f s) s = (l.flatMap g).foldlM f s := by
  induction l generalizing s with
  | nil => rfl
  | cons a l ih =>
    rw [List.foldlM_cons, List.flatMap_cons, List.foldlM_append]
    cases (g a).foldlM f s with
    | error e => rfl
    | ok s' => exact ih s'

theorem foldlM_eq_ok_iff (f : σ → α → Except ε σ) (g : σ → α → σ) (ok : α → Bool)
    (h : ∀ s a s', f s a = .ok s' ↔ ok a = true ∧ s' = g s a) (l : List α) (s s' : σ) :
    l.foldlM f s = .ok s' ↔ (∀ a ∈ l, ok a = true) ∧ s' = l.foldl g s := by
  induction l generalizing s with
  | nil =>
    rw [List.foldlM_nil, List.foldl_nil]
    constructor
    · intro hs
      exact ⟨by simp, (Except.ok.inj hs).symm⟩
    · rintro ⟨-, rfl⟩; rfl
  | cons a l ih =>
    rw [List.foldlM_cons, List.foldl_cons, List.forall_mem_cons]
    cases hf : f s a with
    | error e =>
      have hno : ¬ ok a = true := fun ha => by
        have := (h s a (g s a)).mpr ⟨ha, rfl⟩
        rw [hf] at this
        cases this
      constructor
      · intro hs; cases hs
      · rintro ⟨⟨ha, -⟩, -⟩; exact absurd ha hno
    | ok t =>
      obtain ⟨ha, rfl⟩ := (h s a t).mp hf
      show l.foldlM f (g s a) = .ok s' ↔ _
      rw [ih, and_assoc]
      exact ⟨fun hs => ⟨ha, hs⟩, fun hs => hs.2⟩

theorem mapM_eq_ok_iff (f : α → Except ε β) (g : α → β) (ok : α → Bool)
    (h : ∀ a b, f a = .ok b ↔ ok a = true ∧ b = g a) (l : List α) (bs : List β) :
    l.mapM f = .ok bs ↔ (∀ a ∈ l, ok a = true) ∧ bs = l.map g := by
  induction l generalizing bs with
  | nil =>
    rw [List.mapM_nil]
    constructor
    · intro hs
      exact ⟨by simp, (Except.ok.inj hs).symm⟩
    · rintro ⟨-, rfl⟩; rfl
  | cons a l ih =>
    rw [List.mapM_cons, bind_eq_ok_iff, List.forall_mem_cons, List.map_cons]
    constructor
    · rintro ⟨b, hb, hrest⟩
      obtain ⟨bs', hbs', hret⟩ := (bind_eq_ok_iff _ _ _).mp hrest
      obtain rfl := Except.ok.inj hret
      obtain ⟨ha, rfl⟩ := (h a b).mp hb
      obtain ⟨hl, rfl⟩ := (ih bs').mp hbs'
      exact ⟨⟨ha, hl⟩, rfl⟩
    · rintro ⟨⟨ha, hl⟩, rfl⟩
      refine ⟨g a, (h a _).mpr ⟨ha, rfl⟩, ?_⟩
      rw [(ih _).mpr ⟨hl, rfl⟩]
      rfl

theorem getLastD_append (l l' : List α) (d : α) : (l ++ l').getLastD d = l'.getLastD (l.getLastD d) := by
  induction l generalizing d with
  | nil => rfl
  | cons a l ih => rw [List.cons_append, List.getLastD_cons, List.getLastD_cons, ih]

end Fold
