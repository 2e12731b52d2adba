import Mathlib

/-!
# Clamped translations

A shift followed by a clamp: what a move does to a counter that is kept between two walls.
One after another they make one of the same kind (`apply_comp`), so a walk between two
walls, however long, is one shift and one clamp (`apply_walk`), the shift the sum of its
moves.  So a walk whose moves come to the distance of the walls, either way, forgets where it
began (`foldl_forget`).
-/

structure Clamped (K : Type) [LE K] where
  lo : K
  hi : K
  shift : K
  lo_le_hi : lo ≤ hi

namespace Clamped

section
variable {K : Type} [AddCommGroup K] [LinearOrder K]

/-- One move between two walls. -/
def bounce (lo hi x d : K) : K := min hi (max lo (x + d))

def apply (f : Clamped K) (x : K) : K := bounce f.lo f.hi x f.shift

section
variable (f : Clamped K) (x : K)

theorem lo_le_apply : f.lo ≤ f.apply x := le_min f.lo_le_hi (le_max_left _ _)

theorem apply_le_hi : f.apply x ≤ f.hi := min_le_left _ _

theorem apply_eq_hi (h : f.hi ≤ x + f.shift) : f.apply x = f.hi :=
  min_eq_left (h.trans (le_max_right _ _))

theorem apply_eq_lo (h : x + f.shift ≤ f.lo) : f.apply x = f.lo := by
  show min f.hi (max f.lo (x + f.shift)) = f.lo
  rw [max_eq_left h, min_eq_right f.lo_le_hi]

theorem apply_of_mem (hlo : f.lo ≤ x + f.shift) (hhi : x + f.shift ≤ f.hi) : f.apply x = x + f.shift := by
  show min f.hi (max f.lo (x + f.shift)) = x + f.shift
  rw [max_eq_right hlo, min_eq_right hhi]

end

variable [IsOrderedAddMonoid K]

theorem bounce_mono (lo hi x y d e : K) (hxy : x ≤ y) (hde : d ≤ e) : bounce lo hi x d ≤ bounce lo hi y e :=
  min_le_min_left hi (max_le_max_left lo (add_le_add hxy hde))

theorem apply_mono (f : Clamped K) : Monotone f.apply := fun x y h => bounce_mono f.lo f.hi x y _ _ h le_rfl

/-- `g` after `f`. -/
def comp (g f : Clamped K) : Clamped K where
  lo := g.apply f.lo
  hi := g.apply f.hi
  shift := f.shift + g.shift
  lo_le_hi := g.apply_mono f.lo_le_hi

omit [AddCommGroup K] [IsOrderedAddMonoid K] in
/-- The outer of two clamps does not see the wider one inside. -/
theorem min_max_narrow (a l u b z : K) (hal : a ≤ l) (hlu : l ≤ u) (hub : u ≤ b) :
    min u (max l (min b (max a z))) = min u (max l z) :=
  calc
    min u (max l (min b (max a z))) = min u (min (max l b) (max l (max a z))) := by rw [max_min_distrib_left]
    _ = min u (min b (max l z)) := by rw [max_eq_right (hlu.trans hub), ← max_assoc, max_eq_left hal]
    _ = min u (max l z) := by rw [← min_assoc, min_eq_left hub]

theorem apply_comp (g f : Clamped K) (x : K) : (g.comp f).apply x = g.apply (f.apply x) := by
  have hsum : x + (f.shift + g.shift) = x + f.shift + g.shift := (add_assoc _ _ _).symm
  have hmono : g.apply (f.apply x) = min (g.apply f.hi) (max (g.apply f.lo) (g.apply (x + f.shift))) := by
    show g.apply (min f.hi (max f.lo (x + f.shift))) = _
    rw [g.apply_mono.map_min, g.apply_mono.map_max]
  rw [hmono]
  show min (g.apply f.hi) (max (g.apply f.lo) (x + (f.shift + g.shift))) = _
  rw [hsum]
  exact (min_max_narrow g.lo _ _ g.hi _ (g.lo_le_apply f.lo) (g.apply_mono f.lo_le_hi) (g.apply_le_hi f.hi)).symm

/-! ## Walks -/

/-- The moves `ds` between two walls, one after another. -/
def walk (lo hi : K) (h : lo ≤ hi) (ds : List K) : Clamped K :=
  ds.foldl (fun f d => comp ⟨lo, hi, d, h⟩ f) ⟨lo, hi, 0, h⟩

section
variable (lo hi : K) (h : lo ≤ hi)

theorem walk_concat (ds : List K) (d : K) :
    walk lo hi h (ds ++ [d]) = comp ⟨lo, hi, d, h⟩ (walk lo hi h ds) := by
  unfold walk
  rw [List.foldl_append]
  rfl

theorem shift_walk (ds : List K) : (walk lo hi h ds).shift = ds.sum := by
  induction ds using List.reverseRecOn with
  | nil => rfl
  | append_singleton ds d ih =>
    rw [walk_concat, List.sum_append, List.sum_singleton, ← ih]
    rfl

theorem walls_walk (ds : List K) : lo ≤ (walk lo hi h ds).lo ∧ (walk lo hi h ds).hi ≤ hi := by
  induction ds using List.reverseRecOn with
  | nil => exact ⟨le_rfl, le_rfl⟩
  | append_singleton ds d ih =>
    rw [walk_concat]
    exact ⟨lo_le_apply ⟨lo, hi, d, h⟩ _, apply_le_hi ⟨lo, hi, d, h⟩ _⟩

/-- **A walk is one shift and one clamp.** -/
theorem apply_walk (ds : List K) (x : K) (hlo : lo ≤ x) (hhi : x ≤ hi) :
    (walk lo hi h ds).apply x = ds.foldl (bounce lo hi) x := by
  induction ds using List.reverseRecOn with
  | nil =>
    refine (apply_of_mem _ x ?_ ?_).trans (add_zero x)
    · show lo ≤ x + 0
      rw [add_zero]
      exact hlo
    · show x + 0 ≤ hi
      rw [add_zero]
      exact hhi
  | append_singleton ds d ih =>
    rw [walk_concat, apply_comp, ih, List.foldl_append]
    rfl

/-- A walk over the whole distance ends where it would have from any other start. -/
theorem foldl_forget (ds : List K) (hsum : hi - lo ≤ |ds.sum|) (x y : K) (hx : lo ≤ x ∧ x ≤ hi)
    (hy : lo ≤ y ∧ y ≤ hi) : ds.foldl (bounce lo hi) x = ds.foldl (bounce lo hi) y := by
  have h : lo ≤ hi := hx.1.trans hx.2
  have hend : ∃ w, ∀ z, lo ≤ z → z ≤ hi → ds.foldl (bounce lo hi) z = w := by
    rcases le_abs.mp hsum with hup | hdown
    · refine ⟨(walk lo hi h ds).hi, fun z hz hz' => ?_⟩
      rw [← apply_walk lo hi h ds z hz hz']
      apply apply_eq_hi
      rw [shift_walk]
      calc
        (walk lo hi h ds).hi ≤ hi := (walls_walk lo hi h ds).2
        _ = lo + (hi - lo) := (add_sub_cancel lo hi).symm
        _ ≤ z + ds.sum := add_le_add hz hup
    · refine ⟨(walk lo hi h ds).lo, fun z hz hz' => ?_⟩
      rw [← apply_walk lo hi h ds z hz hz']
      apply apply_eq_lo
      rw [shift_walk]
      calc
        z + ds.sum ≤ hi + (lo - hi) := add_le_add hz' (by rw [← neg_sub hi lo]; exact le_neg_of_le_neg hdown)
        _ = lo := add_sub_cancel hi lo
        _ ≤ (walk lo hi h ds).lo := (walls_walk lo hi h ds).1
  obtain ⟨w, hw⟩ := hend
  rw [hw x hx.1 hx.2, hw y hy.1 hy.2]

/-- Each move higher, the end higher. -/
theorem foldl_bounce_mono (ds es : List K) (hde : List.Forall₂ (· ≤ ·) ds es) (x y : K) (hxy : x ≤ y) :
    ds.foldl (bounce lo hi) x ≤ es.foldl (bounce lo hi) y := by
  induction hde generalizing x y with
  | nil => exact hxy
  | cons hd _ ih => exact ih _ _ (bounce_mono lo hi _ _ _ _ hxy hd)

end

end

end Clamped
