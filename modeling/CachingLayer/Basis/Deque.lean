import Mathlib

/-!
# Bounded deques

`deque(maxlen=…)`: what is appended at the right pushes the oldest out at the left.  After any
appends the deque holds the last ones (`toList_foldl_append`).
-/

structure Deque (α : Type) (maxlen : ℕ) where
  toList : List α
  length_le : toList.length ≤ maxlen

namespace Deque

variable {α : Type} {maxlen : ℕ}

theorem length_rtake (l : List α) (n : ℕ) : (l.rtake n).length = min n l.length := by
  unfold List.rtake
  rw [List.length_drop]
  omega

theorem rtake_of_length_le (l : List α) (n : ℕ) (h : l.length ≤ n) : l.rtake n = l := by
  unfold List.rtake
  rw [Nat.sub_eq_zero_of_le h]
  rfl

/-- What is cut off first is cut off later. -/
theorem rtake_rtake_append (l l' : List α) (n : ℕ) : (l.rtake n ++ l').rtake n = (l ++ l').rtake n := by
  by_cases h : l.length ≤ n
  · rw [rtake_of_length_le l n h]
  · have hlength := length_rtake l n
    unfold List.rtake at hlength ⊢
    rw [← List.drop_append_of_le_length (by omega), List.drop_drop, List.length_drop, List.length_append]
    congr 1
    omega

def empty : Deque α maxlen := ⟨[], Nat.zero_le _⟩

def append (d : Deque α maxlen) (a : α) : Deque α maxlen where
  toList := (d.toList ++ [a]).rtake maxlen
  length_le := by
    rw [length_rtake]
    exact min_le_left _ _

theorem toList_foldl_append (l : List α) (d : Deque α maxlen) :
    (l.foldl append d).toList = (d.toList ++ l).rtake maxlen := by
  induction l generalizing d with
  | nil => rw [List.foldl_nil, List.append_nil, rtake_of_length_le _ _ d.length_le]
  | cons a l ih =>
    rw [List.foldl_cons, ih]
    show ((d.toList ++ [a]).rtake maxlen ++ l).rtake maxlen = _
    rw [rtake_rtake_append, List.append_assoc, List.singleton_append]

end Deque
