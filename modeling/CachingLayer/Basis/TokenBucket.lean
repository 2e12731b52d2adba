import Mathlib

/-!
# Token buckets

A counter of at most `cap` tokens, filled lazily: what came in since the last request,
`rate` for each unit of time, is added when the next one arrives, and a request takes a
token when there is a whole one.

The level a request finds is the least of what the windows that end with it leave
(`le_level_after_iff`).  So a request is granted exactly when there is room for it in
every such window (`exact_events`), and no stretch of length `d` sees more than
`cap + rate * d` grants (`Exact.countP_stretch_le`).
-/

structure Bucket (K : Type) where
  tokens : K
  updated : K

namespace Bucket

section
variable {K : Type} [Field K] [LinearOrder K] (cap rate : K)

def level (b : Bucket K) (now : K) : K := min cap (b.tokens + (now - b.updated) * rate)

/-- A request at `now`: whether it is granted, and the bucket after it. -/
def take (b : Bucket K) (now : K) : Bool × Bucket K :=
  if 1 ≤ b.level cap rate now then (true, ⟨b.level cap rate now - 1, now⟩)
  else (false, ⟨b.level cap rate now, now⟩)

/-- Requests at `ts`, one after another. -/
def after (b : Bucket K) (ts : List K) : Bucket K := ts.foldl (fun b t => (b.take cap rate t).2) b

/-- The requests with their answers. -/
def events : Bucket K → List K → List (K × Bool)
  | _, [] => []
  | b, t :: ts => (t, (b.take cap rate t).1) :: events (b.take cap rate t).2 ts

end

/-- How many were granted. -/
def granted {K : Type} (es : List (K × Bool)) : ℕ := es.countP (·.2)

/-- A request is granted exactly when every window that ends with it, itself counted,
keeps within `cap` and what came in during the window. -/
def Exact {K : Type} [Field K] [LinearOrder K] (cap rate : K) (es : List (K × Bool)) : Prop :=
  ∀ (i : ℕ) (hi : i < es.length), es[i].2 = true ↔
    ∀ (j : ℕ) (hj : j ≤ i),
      ((granted ((es.take i).drop j) : ℕ) : K) + 1 ≤ cap + rate * (es[i].1 - es[j].1)

section
variable {K : Type} [Field K] [LinearOrder K] (cap rate : K) (b : Bucket K)

theorem updated_take (now : K) : (b.take cap rate now).2.updated = now := by
  unfold take
  split <;> rfl

theorem tokens_take (now : K) :
    (b.take cap rate now).2.tokens =
      b.level cap rate now - granted [(now, (b.take cap rate now).1)] := by
  unfold take
  split
  · show _ = _ - ((1 : ℕ) : K)
    rw [Nat.cast_one]
  · show _ = _ - ((0 : ℕ) : K)
    rw [Nat.cast_zero, sub_zero]

theorem map_fst_events (ts : List K) : (b.events cap rate ts).map (·.1) = ts := by
  induction ts generalizing b with
  | nil => rfl
  | cons t ts ih =>
    show t :: (events cap rate _ ts).map (·.1) = _
    rw [ih]

theorem length_events (ts : List K) : (b.events cap rate ts).length = ts.length := by
  conv => rhs; rw [← map_fst_events cap rate b ts]
  rw [List.length_map]

theorem events_append (ts us : List K) :
    b.events cap rate (ts ++ us) = b.events cap rate ts ++ (b.after cap rate ts).events cap rate us := by
  induction ts generalizing b with
  | nil => rfl
  | cons t ts ih =>
    show _ :: events cap rate _ (ts ++ us) = _ :: (events cap rate _ ts ++ _)
    rw [ih]
    rfl

theorem after_append_singleton (ts : List K) (t : K) :
    b.after cap rate (ts ++ [t]) = ((b.after cap rate ts).take cap rate t).2 := by
  unfold after
  rw [List.foldl_append]
  rfl

end

theorem granted_append {K : Type} (es es' : List (K × Bool)) :
    granted (es ++ es') = granted es + granted es' :=
  List.countP_append ..

section
variable {K : Type} [Field K] [LinearOrder K] [IsStrictOrderedRing K] (cap rate : K) (hrate : 0 ≤ rate)

include hrate

/-- **The level is a minimum over windows.**  A request at `now`, after requests at `ts`,
finds `x` tokens when the cap allows them, and every window from an earlier request on. -/
theorem le_level_after_iff (b : Bucket K) (hfull : b.tokens = cap) (ts : List K) (now x : K)
    (hclock : List.Pairwise (· ≤ ·) (b.updated :: (ts ++ [now]))) :
    x ≤ (b.after cap rate ts).level cap rate now ↔
      x ≤ cap ∧ ∀ (j : ℕ) (hj : j < ts.length),
        x + granted ((b.events cap rate ts).drop j) ≤ cap + rate * (now - ts[j]) := by
  induction ts using List.reverseRecOn generalizing now x with
  | nil =>
    have hpast : b.updated ≤ now := by
      rw [List.nil_append, List.pairwise_cons] at hclock
      exact hclock.1 now (by simp)
    have hlevel : b.level cap rate now = cap := by
      unfold level
      rw [hfull, min_eq_left]
      have := mul_nonneg (sub_nonneg.mpr hpast) hrate
      linarith
    show x ≤ b.level cap rate now ↔ _
    rw [hlevel]
    simp
  | append_singleton ts t ih =>
    have hclock' : List.Pairwise (· ≤ ·) (b.updated :: (ts ++ [t])) := by
      refine hclock.sublist ?_
      rw [List.append_assoc]
      exact (List.Sublist.append_left (by simp) ts).cons_cons b.updated
    have hlen : (b.events cap rate ts).length = ts.length := length_events cap rate b ts
    rw [after_append_singleton, events_append]
    generalize hd : ((b.after cap rate ts).take cap rate t).1 = d
    have hlast : (b.after cap rate ts).events cap rate [t] = [(t, d)] := by rw [← hd]; rfl
    have hlevel : ((b.after cap rate ts).take cap rate t).2.level cap rate now =
        min cap ((b.after cap rate ts).level cap rate t - granted [(t, d)] + (now - t) * rate) := by
      rw [level, tokens_take, updated_take, hd]
    have hih := ih t (x + granted [(t, d)] - (now - t) * rate) hclock'
    have hown : (b.events cap rate ts ++ [(t, d)]).drop ts.length = [(t, d)] := List.drop_left' hlen
    have hlast' : ts.length < (ts ++ [t]).length := by simp
    have htime : (ts ++ [t])[ts.length] = t := List.getElem_concat_length rfl _
    rw [hlevel, hlast, le_min_iff]
    constructor
    · rintro ⟨hcap, hx⟩
      obtain ⟨hnow, hold⟩ := hih.mp (by linarith)
      refine ⟨hcap, fun j hj => ?_⟩
      rcases Nat.lt_or_ge j ts.length with hjts | hjts
      · have := hold j hjts
        rw [List.drop_append_of_le_length (by omega), granted_append, List.getElem_append_left hjts]
        push_cast
        linarith
      · obtain rfl : j = ts.length := by simp at hj; omega
        rw [hown, htime]
        linarith
    · rintro ⟨hcap, hall⟩
      refine ⟨hcap, ?_⟩
      have hnow := hall ts.length (by simp)
      rw [hown, htime] at hnow
      have := hih.mpr ⟨by linarith, fun j hj => ?_⟩
      · linarith
      · have hj' := hall j (by simp; omega)
        rw [List.drop_append_of_le_length (by omega), granted_append, List.getElem_append_left hj] at hj'
        push_cast at hj'
        linarith

/-- **Exactness** of a bucket that starts full. -/
theorem exact_events (b : Bucket K) (hfull : b.tokens = cap) (ts : List K)
    (hclock : List.Pairwise (· ≤ ·) (b.updated :: ts)) : Exact cap rate (b.events cap rate ts) := by
  intro i hi
  have hlen := length_events cap rate b ts
  have hievents := hi
  rw [hlen] at hi
  have hfst : ∀ (j : ℕ) (hj : j < ts.length) (hj' : j < (b.events cap rate ts).length),
      (b.events cap rate ts)[j].1 = ts[j] := by
    intro j hj hj'
    have := List.getElem_of_eq (map_fst_events cap rate b ts) (i := j) (by rw [List.length_map]; omega)
    rwa [List.getElem_map] at this
  have hsplit : b.events cap rate ts = b.events cap rate (ts.take i) ++
      (b.after cap rate (ts.take i)).events cap rate (ts[i] :: ts.drop (i + 1)) := by
    rw [← events_append, ← List.drop_eq_getElem_cons hi, List.take_append_drop]
  have hlen' : (b.events cap rate (ts.take i)).length = i := by
    rw [length_events, List.length_take]; omega
  have htake : (b.events cap rate ts).take i = b.events cap rate (ts.take i) := by
    conv => lhs; rw [hsplit]
    rw [List.take_append_of_le_length (by omega), List.take_of_length_le (by omega)]
  have hthis : (b.events cap rate ts)[i].2 =
      ((b.after cap rate (ts.take i)).take cap rate ts[i]).1 := by
    simp only [hsplit]
    rw [List.getElem_append_right (by omega)]
    simp only [hlen', Nat.sub_self]
    rfl
  have hclock' : List.Pairwise (· ≤ ·) (b.updated :: (ts.take i ++ [ts[i]])) := by
    refine hclock.sublist (List.Sublist.cons_cons _ ?_)
    rw [← List.take_succ_eq_append_getElem hi]
    exact List.take_sublist _ _
  have hlevel := le_level_after_iff cap rate hrate b hfull (ts.take i) ts[i] 1 hclock'
  rw [hthis, htake, hfst i hi hievents]
  have htaken : ((b.after cap rate (ts.take i)).take cap rate ts[i]).1 = true ↔
      1 ≤ (b.after cap rate (ts.take i)).level cap rate ts[i] := by
    unfold take
    split <;> simp_all
  rw [htaken, hlevel]
  constructor
  · rintro ⟨hcap, hall⟩ j hj
    rw [hfst j (by omega) (by omega)]
    rcases Nat.lt_or_ge j i with hji | hji
    · have := hall j (by rw [List.length_take]; omega)
      rw [List.getElem_take] at this
      linarith
    · obtain rfl : j = i := by omega
      rw [List.drop_of_length_le (by omega)]
      show ((0 : ℕ) : K) + 1 ≤ _
      rw [Nat.cast_zero, sub_self]
      linarith
  · intro hall
    constructor
    · have hown := hall i le_rfl
      rw [hfst i hi hievents, List.drop_of_length_le (by omega)] at hown
      have : ((granted ([] : List (K × Bool)) : ℕ) : K) = 0 := Nat.cast_zero
      rw [this, sub_self] at hown
      linarith
    · intro j hj
      rw [List.length_take] at hj
      have := hall j (by omega)
      rw [hfst j (by omega) (by omega)] at this
      rw [List.getElem_take]
      linarith

/-- **Stretches.**  A stretch of length `d` sees at most `cap + rate * d` grants. -/
theorem Exact.countP_stretch_le (hcap : 0 ≤ cap) (es : List (K × Bool)) (hexact : Exact cap rate es)
    (s d : K) (hd : 0 ≤ d) :
    ((es.countP fun e => e.2 ∧ s ≤ e.1 ∧ e.1 ≤ s + d : ℕ) : K) ≤ cap + rate * d := by
  have hzero : 0 ≤ rate * d := mul_nonneg hrate hd
  -- up to the last grant of the stretch, counted from its first request on
  suffices h : ∀ n ≤ es.length,
      (((es.take n).countP fun e => e.2 ∧ s ≤ e.1 ∧ e.1 ≤ s + d : ℕ) : K) ≤ cap + rate * d by
    have := h es.length le_rfl
    rwa [List.take_length] at this
  intro n
  induction n with
  | zero => intro _; simp; linarith
  | succ n ih =>
    intro hn
    rw [List.take_succ_eq_append_getElem (by omega), List.countP_append]
    by_cases he : es[n].2 = true ∧ s ≤ es[n].1 ∧ es[n].1 ≤ s + d
    · obtain ⟨hgranted, hs, hsd⟩ := he
      -- the window from the first request of the stretch to this one
      have hex : ∃ j, ∃ hj : j < es.length, s ≤ es[j].1 := ⟨n, by omega, hs⟩
      obtain ⟨hjlen, hsj⟩ := Nat.find_spec hex
      have hjn : Nat.find hex ≤ n := Nat.find_min' hex ⟨by omega, hs⟩
      generalize hj : Nat.find hex = j at hjlen hsj hjn
      have hbefore : ((es.take n).take j).countP (fun e => e.2 ∧ s ≤ e.1 ∧ e.1 ≤ s + d) = 0 := by
        rw [List.countP_eq_zero]
        intro e he
        rw [List.take_take, min_eq_left hjn] at he
        obtain ⟨k, hk, rfl⟩ := List.mem_take_iff_getElem.mp he
        have hearlier := Nat.find_min hex (m := k) (by omega)
        intro hstretch
        rw [decide_eq_true_eq] at hstretch
        exact hearlier ⟨by omega, hstretch.2.1⟩
      have hwindow := (hexact n (by omega)).mp hgranted j hjn
      have hlength : es[n].1 - es[j].1 ≤ d := by linarith
      have hfits := mul_le_mul_of_nonneg_left hlength hrate
      have hcount : (es.take n).countP (fun e => e.2 ∧ s ≤ e.1 ∧ e.1 ≤ s + d) ≤
          granted ((es.take n).drop j) := by
        conv => lhs; rw [← List.take_append_drop j (es.take n)]
        rw [List.countP_append, hbefore, Nat.zero_add]
        refine List.countP_mono_left fun e _ he => ?_
        rw [decide_eq_true_eq] at he
        exact he.1
      have hone : [es[n]].countP (fun e => e.2 ∧ s ≤ e.1 ∧ e.1 ≤ s + d) ≤ 1 := List.countP_le_length
      have : (((es.take n).countP (fun e => e.2 ∧ s ≤ e.1 ∧ e.1 ≤ s + d) +
          [es[n]].countP (fun e => e.2 ∧ s ≤ e.1 ∧ e.1 ≤ s + d) : ℕ) : K) ≤
            ((granted ((es.take n).drop j) + 1 : ℕ) : K) := by
        exact_mod_cast Nat.add_le_add hcount hone
      push_cast at this ⊢
      linarith
    · rw [List.countP_singleton, if_neg (by simpa using he), Nat.add_zero]
      exact ih (by omega)

omit [IsStrictOrderedRing K] hrate in
/-- An answer, and the level after it, come from the level before. -/
theorem take_of_level_eq (b b' : Bucket K) (t : K) (h : b.level cap rate t = b'.level cap rate t) :
    b.take cap rate t = b'.take cap rate t := by
  unfold take
  rw [h]

/-- A request that is refused changes no level to come. -/
theorem level_take_of_refused (b : Bucket K) (t t' : K) (ht : t ≤ t') (h : (b.take cap rate t).1 = false) :
    (b.take cap rate t).2.level cap rate t' = b.level cap rate t' := by
  have hafter : (b.take cap rate t).2 = ⟨b.level cap rate t, t⟩ := by
    unfold take at h ⊢
    split
    · next hone => rw [if_pos hone] at h; cases h
    · rfl
  have hpast : 0 ≤ (t' - t) * rate := mul_nonneg (sub_nonneg.mpr ht) hrate
  have hsum : b.tokens + (t' - b.updated) * rate = b.tokens + (t - b.updated) * rate + (t' - t) * rate := by ring
  rw [hafter]
  unfold level
  simp only []
  rw [hsum]
  rcases le_total cap (b.tokens + (t - b.updated) * rate) with hfull | hroom
  · rw [min_eq_left hfull, min_eq_left (le_add_of_nonneg_right hpast), min_eq_left (by linarith)]
  · rw [min_eq_right hroom]

end

end Bucket
