import Mathlib

/-!
# Cutting a growing list at a delimiter

A reader receives a list in pieces, keeps what it has not used in a buffer and, as
long as the buffer contains the delimiter `d`, cuts off what stands before the
first occurrence and consumes it.

* `cutAt d l`: the first occurrence of `d`, as (before, after).
* `splitAll d l`: every complete frame of `l`, and the unfinished rest.
* `drain`: the reader's loop, `feed`: one piece received.

`feedAll_eq`: for any consumer that may fail, receiving any pieces one by one is
consuming the frames of their concatenation — so where the pieces were cut does
not matter (`feedAll_congr`).
-/

namespace Framing

section
variable {α : Type} [DecidableEq α] (d : List α)

/-- First occurrence of `d`: what stands before it and what stands after it. -/
def cutAt : List α → Option (List α × List α)
  | [] => none
  | x :: xs =>
    if d <+: x :: xs then some ([], (x :: xs).drop d.length)
    else (cutAt xs).map fun p => (x :: p.1, p.2)

/-- Frames of `l` for at most `n` cuts, and what is left. -/
def pieces : Nat → List α → List (List α) × List α
  | 0, l => ([], l)
  | n + 1, l =>
    match cutAt d l with
    | none => ([], l)
    | some (u, v) => (u :: (pieces n v).1, (pieces n v).2)

/-- Every complete frame of `l`, and the unfinished rest. -/
def splitAll (l : List α) : List (List α) × List α := pieces d l.length l

/-! ## First occurrence -/

theorem cutAt_eq_append (l u v : List α) (h : cutAt d l = some (u, v)) : l = u ++ d ++ v := by
  induction l generalizing u v with
  | nil => cases h
  | cons x xs ih =>
    unfold cutAt at h
    split at h
    · next hp =>
      obtain ⟨t, ht⟩ := hp
      simp only [Option.some.injEq, Prod.mk.injEq] at h
      obtain ⟨rfl, rfl⟩ := h
      rw [← ht, List.drop_left]; simp
    · cases hc : cutAt d xs with
      | none => rw [hc] at h; cases h
      | some p =>
        rw [hc] at h
        simp only [Option.map_some, Option.some.injEq, Prod.mk.injEq] at h
        obtain ⟨rfl, rfl⟩ := h
        rw [ih p.1 p.2 (by rw [hc])]; simp

/-- What follows does not move the first occurrence. -/
theorem cutAt_append (l m u v : List α) (h : cutAt d l = some (u, v)) :
    cutAt d (l ++ m) = some (u, v ++ m) := by
  induction l generalizing u v with
  | nil => cases h
  | cons x xs ih =>
    unfold cutAt at h
    rw [List.cons_append]
    unfold cutAt
    split at h
    · next hp =>
      simp only [Option.some.injEq, Prod.mk.injEq] at h
      obtain ⟨rfl, rfl⟩ := h
      have hp' : d <+: x :: (xs ++ m) := hp.trans (List.prefix_append (x :: xs) m)
      have hl : d.length ≤ (x :: xs).length := hp.length_le
      rw [if_pos hp', ← List.cons_append, List.drop_append_of_le_length hl]
    · next hp =>
      cases hc : cutAt d xs with
      | none => rw [hc] at h; cases h
      | some p =>
        rw [hc] at h
        simp only [Option.map_some, Option.some.injEq, Prod.mk.injEq] at h
        obtain ⟨rfl, rfl⟩ := h
        -- the occurrence found further on shows that `l` is long enough to decide `hp`
        have hlen : d.length ≤ (x :: xs).length := by
          have := congrArg List.length (cutAt_eq_append d xs p.1 p.2 hc)
          simp only [List.length_append, List.length_cons] at this ⊢; omega
        have hp' : ¬ d <+: x :: (xs ++ m) := by
          intro h2
          exact hp (List.prefix_of_prefix_length_le h2 (List.prefix_append (x :: xs) m) hlen)
        rw [if_neg hp', ih p.1 p.2 hc]; rfl

/-- A frame without the delimiter's first letter ends at the first delimiter. -/
theorem cutAt_of_notMem (c : α) (d' u v : List α) (hu : c ∉ u) :
    cutAt (c :: d') (u ++ (c :: d') ++ v) = some (u, v) := by
  induction u with
  | nil =>
    show (if c :: d' <+: c :: d' ++ v then some ([], (c :: d' ++ v).drop (c :: d').length) else _) = _
    rw [if_pos (List.prefix_append (c :: d') v), List.drop_left]
  | cons x u ih =>
    rw [List.cons_append, List.cons_append]
    unfold cutAt
    have hx : c ≠ x := fun e => hu (by simp [e])
    rw [if_neg (fun h => hx (List.cons_prefix_cons.mp h).1), ih (fun h => hu (List.mem_cons_of_mem x h))]
    rfl

/-! ## All frames -/

section
variable {d} (hd : d ≠ [])
include hd

theorem cutAt_length_lt (l u v : List α) (h : cutAt d l = some (u, v)) : v.length < l.length := by
  have := congrArg List.length (cutAt_eq_append d l u v h)
  have := List.length_pos_iff.mpr hd
  simp only [List.length_append] at *; omega

/-- There is no first occurrence exactly when there is none. -/
theorem cutAt_eq_none_iff (l : List α) : cutAt d l = none ↔ ¬ d <:+: l := by
  induction l with
  | nil =>
    rw [List.infix_nil]
    exact ⟨fun _ => hd, fun _ => rfl⟩
  | cons x xs ih =>
    unfold cutAt
    rw [List.infix_cons_iff]
    by_cases hp : d <+: x :: xs
    · rw [if_pos hp]
      constructor
      · intro h; cases h
      · intro h; exact absurd (Or.inl hp) h
    · rw [if_neg hp, Option.map_eq_none_iff, ih, or_iff_right hp]

/-- Enough cuts are enough. -/
theorem pieces_eq_splitAll (n : Nat) (l : List α) (hn : l.length ≤ n) :
    pieces d n l = splitAll d l := by
  have key : ∀ (n k : Nat) (l : List α), l.length ≤ n → l.length ≤ k → pieces d n l = pieces d k l := by
    intro n
    induction n with
    | zero =>
      intro k l hn hk
      obtain rfl : l = [] := List.length_eq_zero_iff.mp (by omega)
      cases k <;> rfl
    | succ n ih =>
      intro k l hn hk
      cases k with
      | zero =>
        obtain rfl : l = [] := List.length_eq_zero_iff.mp (by omega)
        rfl
      | succ k =>
        unfold pieces
        cases hc : cutAt d l with
        | none => rfl
        | some p =>
          have := cutAt_length_lt hd l p.1 p.2 hc
          simp only [ih k p.2 (by omega) (by omega)]
  exact key n l.length l hn (Nat.le_refl _)

theorem splitAll_some (l u v : List α) (h : cutAt d l = some (u, v)) :
    splitAll d l = (u :: (splitAll d v).1, (splitAll d v).2) := by
  have hv := cutAt_length_lt hd l u v h
  obtain ⟨n, hn⟩ : ∃ n, l.length = n + 1 := ⟨l.length - 1, by omega⟩
  rw [splitAll, hn, pieces, h]
  simp only [pieces_eq_splitAll hd n v (by omega)]

omit hd in
theorem splitAll_none (l : List α) (h : cutAt d l = none) : splitAll d l = ([], l) := by
  unfold splitAll
  cases l.length with
  | zero => rfl
  | succ n => rw [pieces, h]

/-- Induction along the cuts of a list. -/
theorem cut_induction {P : List α → Prop} (hn : ∀ l, cutAt d l = none → P l)
    (hs : ∀ l u v, cutAt d l = some (u, v) → P v → P l) (l : List α) : P l := by
  have key : ∀ (n : Nat) (l : List α), l.length ≤ n → P l := by
    intro n
    induction n with
    | zero =>
      intro l hl
      obtain rfl : l = [] := List.length_eq_zero_iff.mp (by omega)
      exact hn [] rfl
    | succ n ih =>
      intro l hl
      cases hc : cutAt d l with
      | none => exact hn l hc
      | some p =>
        have := cutAt_length_lt hd l p.1 p.2 hc
        exact hs l p.1 p.2 hc (ih p.2 (by omega))
  exact key l.length l (Nat.le_refl _)

/-- The unfinished rest holds no delimiter. -/
theorem cutAt_rest (l : List α) : cutAt d (splitAll d l).2 = none := by
  induction l using cut_induction hd with
  | hn l h => rw [splitAll_none l h]; exact h
  | hs l u v h ih => rw [splitAll_some hd l u v h]; exact ih

/-- Frames of a concatenation: those of the first part, then those of its rest
followed by the second part. -/
theorem splitAll_append (l m : List α) :
    splitAll d (l ++ m) =
      ((splitAll d l).1 ++ (splitAll d ((splitAll d l).2 ++ m)).1,
        (splitAll d ((splitAll d l).2 ++ m)).2) := by
  induction l using cut_induction hd with
  | hn l h => rw [splitAll_none l h]; rfl
  | hs l u v h ih =>
    rw [splitAll_some hd l u v h, splitAll_some hd (l ++ m) u (v ++ m) (cutAt_append d l m u v h), ih]
    rfl

omit hd in
/-- Frames written one after the other, none of them holding the delimiter's first
letter, are read back. -/
theorem splitAll_frames (c : α) (d' : List α) (us : List (List α)) (hus : ∀ u ∈ us, c ∉ u) :
    splitAll (c :: d') (us.flatMap fun u => u ++ (c :: d')) = (us, []) := by
  induction us with
  | nil => rfl
  | cons u us ih =>
    rw [List.flatMap_cons, splitAll_some (List.cons_ne_nil c d') _ u _
      (cutAt_of_notMem c d' u _ (hus u List.mem_cons_self)),
      ih fun v hv => hus v (List.mem_cons_of_mem u hv)]

end

/-! ## The reader -/

section
variable {σ ε : Type} (f : σ → List α → Except ε σ)

/-- `while d in buffer: cut off and consume the first frame`, at most `n` rounds. -/
def drain : Nat → σ → List α → Except ε (σ × List α)
  | 0, s, buf => .ok (s, buf)
  | n + 1, s, buf =>
    match cutAt d buf with
    | none => .ok (s, buf)
    | some (u, v) => do drain n (← f s u) v

/-- One piece received: append it to the buffer, then drain the buffer. -/
def feed (st : σ × List α) (piece : List α) : Except ε (σ × List α) :=
  drain d f (st.2 ++ piece).length st.1 (st.2 ++ piece)

variable {d} (hd : d ≠ [])
include hd

theorem drain_eq (n : Nat) (s : σ) (buf : List α) (hn : buf.length ≤ n) :
    drain d f n s buf = (fun s' => (s', (splitAll d buf).2)) <$> (splitAll d buf).1.foldlM f s := by
  induction n generalizing s buf with
  | zero =>
    obtain rfl : buf = [] := List.length_eq_zero_iff.mp (by omega)
    rfl
  | succ n ih =>
    unfold drain
    cases hc : cutAt d buf with
    | none => rw [splitAll_none buf hc]; rfl
    | some p =>
      have := cutAt_length_lt hd buf p.1 p.2 hc
      rw [splitAll_some hd buf p.1 p.2 hc]
      simp only [List.foldlM_cons, map_bind]
      cases f s p.1 with
      | error e => rfl
      | ok s' => exact ih s' p.2 (by omega)

theorem feed_eq (st : σ × List α) (piece : List α) :
    feed d f st piece = (fun s' => (s', (splitAll d (st.2 ++ piece)).2)) <$>
      (splitAll d (st.2 ++ piece)).1.foldlM f st.1 :=
  drain_eq f hd _ st.1 _ (Nat.le_refl _)

/-- **Any pieces.**  Receiving pieces one by one consumes the frames of the
concatenation and keeps its unfinished rest. -/
theorem feedAll_eq (st : σ × List α) (hst : cutAt d st.2 = none) (ps : List (List α)) :
    ps.foldlM (feed d f) st = (fun s' => (s', (splitAll d (st.2 ++ ps.flatten)).2)) <$>
      (splitAll d (st.2 ++ ps.flatten)).1.foldlM f st.1 := by
  induction ps generalizing st with
  | nil => simp [splitAll_none _ hst]
  | cons p ps ih =>
    rw [List.foldlM_cons, feed_eq f hd, List.flatten_cons, ← List.append_assoc,
      splitAll_append hd (st.2 ++ p), List.foldlM_append]
    cases (splitAll d (st.2 ++ p)).1.foldlM f st.1 with
    | error e => rfl
    | ok s' => exact ih (s', (splitAll d (st.2 ++ p)).2) (cutAt_rest hd _)

/-- Where the pieces were cut does not matter. -/
theorem feedAll_congr (st : σ × List α) (hst : cutAt d st.2 = none) (ps qs : List (List α))
    (h : ps.flatten = qs.flatten) : ps.foldlM (feed d f) st = qs.foldlM (feed d f) st := by
  rw [feedAll_eq f hd st hst, feedAll_eq f hd st hst, h]

end
end
end Framing
