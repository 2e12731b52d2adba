import Mathlib

/-!
# Sorted lists and counts

In a sorted list what is small stands first: an element is among the small ones exactly when
fewer than so many stand before it (`getElem_iff_lt_countP`).  So an order statistic is
small exactly when enough elements are (`getElem_insertionSort_iff`).

Sorting by a key that tells the elements apart brings any order of them to the one
(`insertionSort_of_perm`).
-/

section
variable {α : Type} [LinearOrder α]

theorem getElem_iff_lt_countP (l : List α) (hsorted : l.Pairwise (· ≤ ·)) (p : α → Bool)
    (hp : ∀ a b, a ≤ b → p b = true → p a = true) (i : ℕ) (hi : i < l.length) :
    p l[i] = true ↔ i < l.countP p := by
  induction l generalizing i with
  | nil => cases hi
  | cons a l ih =>
    obtain ⟨hhead, htail⟩ := List.pairwise_cons.mp hsorted
    by_cases ha : p a = true
    · rw [List.countP_cons_of_pos ha]
      cases i with
      | zero => simp [ha]
      | succ i =>
        rw [List.getElem_cons_succ, ih htail i (by simpa using hi)]
        omega
    · -- no later one is small
      have hnone : l.countP p = 0 := by
        rw [List.countP_eq_zero]
        intro b hb hpb
        exact ha (hp a b (hhead b hb) hpb)
      have hbig : ¬ p (a :: l)[i] = true := by
        intro hpi
        apply ha
        cases i with
        | zero => exact hpi
        | succ i => exact hp a _ (hhead _ (List.getElem_mem _)) hpi
      rw [List.countP_cons_of_neg ha, hnone]
      simp [hbig]

/-- The order statistic `i` is small exactly when more than `i` elements are. -/
theorem getElem_insertionSort_iff (l : List α) (p : α → Bool) (hp : ∀ a b, a ≤ b → p b = true → p a = true)
    (i : ℕ) (hi : i < (l.insertionSort (· ≤ ·)).length) :
    p (l.insertionSort (· ≤ ·))[i] = true ↔ i < l.countP p := by
  rw [getElem_iff_lt_countP _ (List.pairwise_insertionSort _ _) p hp i hi,
    (List.perm_insertionSort _ l).countP_eq]

/-- Elements in the order of their keys come out of any order of them. -/
theorem insertionSort_of_perm {β : Type} (key : β → α) (l l' : List β) (hperm : l'.Perm l)
    (hsorted : l.Pairwise fun a b => key a < key b) : l'.insertionSort (fun a b => key a ≤ key b) = l := by
  have : IsTrans β fun a b => key a ≤ key b := ⟨fun _ _ _ => le_trans⟩
  have : Std.Total fun a b : β => key a ≤ key b := ⟨fun a b => le_total (key a) (key b)⟩
  have hnodup : (l.map key).Nodup := List.pairwise_map.mpr (hsorted.imp ne_of_lt)
  refine ((List.perm_insertionSort _ l').trans hperm).eq_of_pairwise (fun a b ha hb hab hba => ?_)
    (List.pairwise_insertionSort _ l') (hsorted.imp le_of_lt)
  have hmem : a ∈ l := hperm.mem_iff.mp ((List.mem_insertionSort _).mp ha)
  exact List.inj_on_of_nodup_map hnodup hmem hb (le_antisymm hab hba)

end
