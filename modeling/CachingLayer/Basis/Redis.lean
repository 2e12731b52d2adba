import Mathlib

/-!
# Hashes with deadlines

A Redis server: keys to hashes, a clock, and the commands `HSET`, `HGET`, `EXPIRE` and
`DEL`, each one step.  A key is gone when the clock reaches its deadline (`advance`).
`HSET` makes the key when there is none, and then without a deadline; on a key that is
there it leaves the deadline (`hset_deadline`).
-/

structure RedisHash (φ ν : Type) where
  fields : φ → Option ν
  deadline : Option ℚ := none

structure Redis (κ φ ν : Type) where
  now : ℚ
  hashes : κ → Option (RedisHash φ ν) := fun _ => none

namespace RedisHash

variable {φ ν : Type}

def empty : RedisHash φ ν := { fields := fun _ => none }

def isDue (h : RedisHash φ ν) (t : ℚ) : Bool := h.deadline.any fun d => decide (d ≤ t)

def set [DecidableEq φ] (h : RedisHash φ ν) (mapping : List (φ × ν)) : RedisHash φ ν :=
  { h with fields := fun f => (mapping.lookup f).or (h.fields f) }

end RedisHash

namespace Redis

section
variable {κ φ ν : Type} (r : Redis κ φ ν)

def hget (key : κ) (f : φ) : Option ν := (r.hashes key).bind fun h => h.fields f

def advance (t : ℚ) : Redis κ φ ν where
  now := t
  hashes k := (r.hashes k).filter fun h => !h.isDue t

/-- What the clock leaves was there before. -/
theorem advance_some (t : ℚ) (k : κ) (h : RedisHash φ ν) (hk : (r.advance t).hashes k = some h) :
    r.hashes k = some h := (Option.filter_eq_some_iff.mp hk).1

variable [DecidableEq κ]

def hset [DecidableEq φ] (key : κ) (mapping : List (φ × ν)) : Redis κ φ ν :=
  { r with hashes := Function.update r.hashes key (some (((r.hashes key).getD .empty).set mapping)) }

def del (keys : List κ) : Redis κ φ ν :=
  { r with hashes := fun k => if k ∈ keys then none else r.hashes k }

/-- No time left deletes the key. -/
def expire (key : κ) (seconds : Int) : Redis κ φ ν :=
  if 0 < seconds then
    { r with
      hashes := Function.update r.hashes key
        ((r.hashes key).map fun h => { h with deadline := some (r.now + seconds) }) }
  else r.del [key]

/-- And so was what `DEL` leaves. -/
theorem del_some (keys : List κ) (k : κ) (h : RedisHash φ ν) (hk : (r.del keys).hashes k = some h) :
    r.hashes k = some h := by
  unfold del at hk
  simp only [] at hk
  split at hk
  · cases hk
  · exact hk

theorem del_of_notMem (keys : List κ) (k : κ) (h : k ∉ keys) : (r.del keys).hashes k = r.hashes k := if_neg h

theorem expire_now (key : κ) (seconds : Int) : (r.expire key seconds).now = r.now := by
  unfold expire
  split
  · rfl
  · rfl

theorem expire_of_ne (key : κ) (seconds : Int) (k : κ) (h : k ≠ key) :
    (r.expire key seconds).hashes k = r.hashes k := by
  unfold expire
  split
  · exact Function.update_of_ne h ..
  · exact r.del_of_notMem [key] k (by simpa using h)

theorem expire_self (key : κ) (seconds : Int) (hpos : 0 < seconds) :
    (r.expire key seconds).hashes key =
      (r.hashes key).map fun h => { h with deadline := some (r.now + seconds) } := by
  unfold expire
  rw [if_pos hpos]
  exact Function.update_self ..

/-- `EXPIRE` changes the deadline of its key and nothing else. -/
theorem expire_some (key : κ) (seconds : Int) (k : κ) (h : RedisHash φ ν)
    (hk : (r.expire key seconds).hashes k = some h) :
    r.hashes k = some h ∨
      (k = key ∧ 0 < seconds ∧ ∃ h₀, r.hashes k = some h₀ ∧
        h = { h₀ with deadline := some (r.now + seconds) }) := by
  unfold expire at hk
  by_cases hpos : 0 < seconds
  · rw [if_pos hpos] at hk
    by_cases hkey : k = key
    · subst hkey
      simp only [Function.update_self] at hk
      obtain ⟨h₀, hh₀, rfl⟩ := Option.map_eq_some_iff.mp hk
      exact Or.inr ⟨rfl, hpos, h₀, hh₀, rfl⟩
    · simp only [Function.update_of_ne hkey] at hk
      exact Or.inl hk
  · rw [if_neg hpos] at hk
    exact Or.inl (r.del_some [key] k h hk)

end

/-! ## `HSET` -/

section
variable {κ φ ν : Type} [DecidableEq κ] [DecidableEq φ] (r : Redis κ φ ν) (key : κ)

theorem hset_self (mapping : List (φ × ν)) :
    (r.hset key mapping).hashes key = some (((r.hashes key).getD .empty).set mapping) :=
  Function.update_self ..

theorem hset_of_ne (k : κ) (mapping : List (φ × ν)) (h : k ≠ key) :
    (r.hset key mapping).hashes k = r.hashes k := Function.update_of_ne h ..

/-- `HSET` leaves the deadline there is, and sets none. -/
theorem hset_deadline (mapping : List (φ × ν)) (h : RedisHash φ ν)
    (hk : (r.hset key mapping).hashes key = some h) : h.deadline = (r.hashes key).bind (·.deadline) := by
  rw [hset_self] at hk
  obtain rfl := Option.some.inj hk
  cases r.hashes key <;> rfl

theorem hget_hset (f : φ) (v : ν) : (r.hset key [(f, v)]).hget key f = some v := by
  unfold hget
  rw [hset_self]
  show (List.lookup f [(f, v)]).or _ = _
  rw [List.lookup_cons_self]
  rfl

end

end Redis
