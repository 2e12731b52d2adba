import CachingLayer.Basis.Keyed

/-!
# Values with deadlines

A map whose values lapse at their deadlines (`Leases`); nothing in it is due.  A map that
drops nothing is one all the same when it is read for what is not due yet (`Leases.read`):
changing it and reading it is reading it and changing that (`read_put`, `read_adjust`,
`read_remove`), and reading it later is letting time pass (`advance_read`).
-/

structure Leases (κ α : Type) (deadline : α → ℚ) where
  now : ℚ
  held : κ → Option α
  live : ∀ k a, held k = some a → now < deadline a

namespace Leases

variable {κ α : Type} {deadline : α → ℚ}

theorem filter_comm (o : Option α) (p q : α → Bool) : (o.filter p).filter q = (o.filter q).filter p := by
  simp only [Option.filter_filter, Bool.and_comm]

theorem filter_self (o : Option α) (p : α → Bool) : (o.filter p).filter p = o.filter p := by
  simp only [Option.filter_filter, Bool.and_self]

theorem ext_held (l l' : Leases κ α deadline) (hnow : l.now = l'.now) (hheld : ∀ k, l.held k = l'.held k) : l = l' := by
  cases l
  cases l'
  obtain rfl := hnow
  obtain rfl := funext hheld
  rfl

/-- What a map holds that is not due. -/
def read (f : κ → Option α) (now : ℚ) : Leases κ α deadline where
  now
  held k := (f k).filter fun a => now < deadline a
  live _ _ h := of_decide_eq_true (Option.filter_eq_some_iff.mp h).2

def advance (l : Leases κ α deadline) (t : ℚ) : Leases κ α deadline := read l.held t

/-- A value that is due already is not kept. -/
def put [DecidableEq κ] (l : Leases κ α deadline) (k : κ) (a : α) : Leases κ α deadline :=
  read (Function.update l.held k (some a)) l.now

def adjust [DecidableEq κ] (l : Leases κ α deadline) (k : κ) (f : α → α) : Leases κ α deadline :=
  read (Function.update l.held k ((l.held k).map f)) l.now

def remove (l : Leases κ α deadline) (p : α → Bool) : Leases κ α deadline :=
  read (fun k => (l.held k).filter fun a => !p a) l.now

section
variable (l : Leases κ α deadline)

@[simp] theorem now_read (f : κ → Option α) (now : ℚ) : (read f now : Leases κ α deadline).now = now := rfl

@[simp] theorem now_advance (t : ℚ) : (l.advance t).now = t := rfl

theorem held_eq_filter (k : κ) : (l.held k).filter (fun a => l.now < deadline a) = l.held k := by
  cases h : l.held k with
  | none => rfl
  | some a => exact Option.filter_some_pos (decide_eq_true (l.live k a h))

theorem held_put [DecidableEq κ] (k : κ) (a : α) (hlive : l.now < deadline a) :
    (l.put k a).held = Function.update l.held k (some a) := by
  funext j
  show (Function.update l.held k (some a) j).filter _ = _
  by_cases hj : j = k
  · subst hj
    rw [Function.update_self]
    exact Option.filter_some_pos (decide_eq_true hlive)
  · rw [Function.update_of_ne hj]
    exact l.held_eq_filter j

theorem held_adjust [DecidableEq κ] (k : κ) (f : α → α) (hf : ∀ a, deadline (f a) = deadline a) :
    (l.adjust k f).held = Function.update l.held k ((l.held k).map f) := by
  funext j
  show (Function.update l.held k ((l.held k).map f) j).filter _ = _
  by_cases hj : j = k
  · subst hj
    rw [Function.update_self]
    cases h : l.held j with
    | none => rfl
    | some a =>
      refine Option.filter_some_pos (decide_eq_true ?_)
      rw [hf]
      exact l.live j a h
  · rw [Function.update_of_ne hj]
    exact l.held_eq_filter j

theorem held_remove (p : α → Bool) (k : κ) : (l.remove p).held k = (l.held k).filter fun a => !p a := by
  show ((l.held k).filter _).filter _ = _
  rw [filter_comm, l.held_eq_filter]

end

/-! ## Reading a map that drops nothing -/

section
variable (f : κ → Option α) (now : ℚ)

theorem advance_read (t : ℚ) (h : now ≤ t) : (read f now : Leases κ α deadline).advance t = read f t := by
  refine ext_held _ _ rfl fun k => ?_
  show ((f k).filter _).filter _ = (f k).filter _
  rw [Option.filter_filter]
  refine congrArg (Option.filter · (f k)) (funext fun a => ?_)
  rw [Bool.and_eq_right_iff_imp]
  intro hlive
  exact decide_eq_true (lt_of_le_of_lt h (of_decide_eq_true hlive))

theorem read_put [DecidableEq κ] (k : κ) (a : α) :
    (read (Function.update f k (some a)) now : Leases κ α deadline) = (read f now).put k a := by
  refine ext_held _ _ rfl fun j => ?_
  show (Function.update f k (some a) j).filter _ =
    (Function.update (fun k => (f k).filter fun a => now < deadline a) k (some a) j).filter _
  by_cases hj : j = k
  · subst hj
    rw [Function.update_self, Function.update_self]
    rfl
  · rw [Function.update_of_ne hj, Function.update_of_ne hj]
    exact (filter_self ..).symm

theorem read_adjust [DecidableEq κ] (k : κ) (g : α → α) (hg : ∀ a, deadline (g a) = deadline a) :
    (read (Function.update f k ((f k).map g)) now : Leases κ α deadline) = (read f now).adjust k g := by
  refine ext_held _ _ rfl fun j => ?_
  show (Function.update f k ((f k).map g) j).filter _ =
    (Function.update (fun k => (f k).filter fun a => now < deadline a) k
      (((f k).filter fun a => now < deadline a).map g) j).filter _
  by_cases hj : j = k
  · subst hj
    rw [Function.update_self, Function.update_self]
    cases f j with
    | none => rfl
    | some a =>
      by_cases hlive : now < deadline a
      · simp [Option.filter_some, hlive, hg]
      · simp [Option.filter_some, hlive, hg]
  · rw [Function.update_of_ne hj, Function.update_of_ne hj]
    exact (filter_self ..).symm

theorem read_remove (p : α → Bool) :
    (read (fun k => (f k).filter fun a => !p a) now : Leases κ α deadline) = (read f now).remove p := by
  refine ext_held _ _ rfl fun k => ?_
  rw [held_remove]
  exact filter_comm ..

end

end Leases
