import Mathlib

/-!
# Insertion-ordered dictionaries of records

`Keyed α κ key`: records in insertion order, each under its own key `key a`, no key
twice — a Python dict `{key(a): a}`.  Writing a record under a present key replaces
it in place; under a new key it goes last.
-/

/-- Records with distinct keys, in insertion order. -/
structure Keyed (α κ : Type) (key : α → κ) where
  items : List α
  nodup : (items.map key).Nodup

namespace Keyed

variable {α κ : Type} {key : α → κ}

def empty : Keyed α κ key := ⟨[], by simp⟩

theorem ext_items (s t : Keyed α κ key) (h : s.items = t.items) : s = t := by
  cases s; cases t; cases h; rfl

def filter (s : Keyed α κ key) (p : α → Bool) : Keyed α κ key where
  items := s.items.filter p
  nodup := s.nodup.sublist (List.filter_sublist.map key)

theorem mem_filter (s : Keyed α κ key) (p : α → Bool) (b : α) :
    b ∈ (s.filter p).items ↔ b ∈ s.items ∧ p b = true := List.mem_filter

theorem filter_filter (s : Keyed α κ key) (p q : α → Bool) :
    (s.filter p).filter q = (s.filter q).filter p := by
  apply ext_items
  show (s.items.filter p).filter q = (s.items.filter q).filter p
  rw [List.filter_filter, List.filter_filter]
  exact List.filter_congr fun b _ => Bool.and_comm _ _

/-- Every record rewritten, keys kept. -/
def mapItems (s : Keyed α κ key) (f : α → α) (hf : ∀ a, key (f a) = key a) : Keyed α κ key where
  items := s.items.map f
  nodup := by
    have hkeys : (s.items.map f).map key = s.items.map key := by
      rw [List.map_map]
      exact List.map_congr_left fun a _ => hf a
    rw [hkeys]
    exact s.nodup

theorem filter_mapItems (s : Keyed α κ key) (f : α → α) (hf : ∀ a, key (f a) = key a) (p : α → Bool)
    (hp : ∀ a, p (f a) = p a) : (s.mapItems f hf).filter p = (s.filter p).mapItems f hf := by
  apply ext_items
  show (s.items.map f).filter p = (s.items.filter p).map f
  rw [List.filter_map]
  exact congrArg _ (List.filter_congr fun a _ => hp a)

variable [DecidableEq κ]

def find? (s : Keyed α κ key) (k : κ) : Option α := s.items.find? fun b => key b = k

/-- Rewrite the record under `k`, if there is one, keeping its key. -/
def modify (s : Keyed α κ key) (k : κ) (f : α → α) (hf : ∀ a, key (f a) = key a) : Keyed α κ key where
  items := s.items.map fun b => if key b = k then f b else b
  nodup := by
    have : (s.items.map fun b => if key b = k then f b else b).map key = s.items.map key := by
      rw [List.map_map]
      apply List.map_congr_left
      intro b _
      simp only [Function.comp]
      split
      · exact hf b
      · rfl
    rw [this]; exact s.nodup

/-- `d[key(a)] = a`. -/
def put (s : Keyed α κ key) (a : α) : Keyed α κ key :=
  if h : key a ∈ s.items.map key then
    { items := s.items.map fun b => if key b = key a then a else b
      nodup := by
        have : (s.items.map fun b => if key b = key a then a else b).map key = s.items.map key := by
          rw [List.map_map]
          apply List.map_congr_left
          intro b _
          simp only [Function.comp]
          split
          · next hb => exact hb.symm
          · rfl
        rw [this]; exact s.nodup }
  else
    { items := s.items ++ [a]
      nodup := by
        rw [List.map_append, List.nodup_append]
        refine ⟨s.nodup, by simp, ?_⟩
        intro x hx y hy hxy
        simp only [List.map_cons, List.map_nil, List.mem_singleton] at hy
        exact h (by rw [← hy, ← hxy]; exact hx) }

/-! ## Lemmas -/

theorem mem_modify (s : Keyed α κ key) (k : κ) (f : α → α) (hf : ∀ a, key (f a) = key a) (b : α) :
    b ∈ (s.modify k f hf).items ↔ ∃ c ∈ s.items, b = if key c = k then f c else c := by
  unfold modify
  rw [List.mem_map]
  exact exists_congr fun c => and_congr_right fun _ => eq_comm

theorem items_put_of_notMem (s : Keyed α κ key) (a : α) (h : key a ∉ s.items.map key) :
    (s.put a).items = s.items ++ [a] := by
  unfold put; rw [dif_neg h]

theorem length_put_of_mem (s : Keyed α κ key) (a : α) (h : key a ∈ s.items.map key) :
    (s.put a).items.length = s.items.length := by
  unfold put; rw [dif_pos h]; exact List.length_map _

theorem mem_put (s : Keyed α κ key) (a b : α) :
    b ∈ (s.put a).items ↔ b = a ∨ (b ∈ s.items ∧ key b ≠ key a) := by
  unfold put
  split
  · next h =>
    obtain ⟨c, hc, hca⟩ := List.mem_map.mp h
    rw [List.mem_map]
    constructor
    · rintro ⟨d, hd, rfl⟩
      by_cases hk : key d = key a
      · left; rw [if_pos hk]
      · right; rw [if_neg hk]; exact ⟨hd, hk⟩
    · rintro (rfl | ⟨hb, hk⟩)
      · exact ⟨c, hc, by rw [if_pos hca]⟩
      · exact ⟨b, hb, by rw [if_neg hk]⟩
  · next h =>
    rw [List.mem_append, List.mem_singleton]
    constructor
    · rintro (hb | rfl)
      · exact Or.inr ⟨hb, fun hk => h (hk ▸ List.mem_map_of_mem hb)⟩
      · exact Or.inl rfl
    · rintro (rfl | ⟨hb, -⟩)
      · exact Or.inr rfl
      · exact Or.inl hb

theorem filter_modify (s : Keyed α κ key) (k : κ) (f : α → α) (hf : ∀ a, key (f a) = key a)
    (p : α → Bool) (hp : ∀ a, p (f a) = p a) :
    (s.modify k f hf).filter p = (s.filter p).modify k f hf := by
  apply ext_items
  show (s.items.map _).filter p = (s.items.filter p).map _
  rw [List.filter_map]
  congr 1
  apply List.filter_congr
  intro b _
  simp only [Function.comp]
  split
  · exact hp b
  · rfl

/-- Keeping `p`, a new record shows when `p` holds of it. -/
theorem filter_put_of_notMem (s : Keyed α κ key) (a : α) (p : α → Bool) (h : key a ∉ s.items.map key) :
    (s.put a).filter p = if p a then (s.filter p).put a else s.filter p := by
  have h' : key a ∉ (s.filter p).items.map key := fun hm =>
    h ((List.filter_sublist.map key).mem hm)
  apply ext_items
  show (s.put a).items.filter p = _
  rw [items_put_of_notMem s a h, List.filter_append]
  by_cases hp : p a = true
  · rw [if_pos hp, items_put_of_notMem _ a h', List.filter_cons_of_pos hp]; rfl
  · rw [if_neg hp, List.filter_cons_of_neg hp]; exact List.append_nil _

/-- The same when `p` tells the records of one key alike. -/
theorem filter_put (s : Keyed α κ key) (a : α) (p : α → Bool)
    (hp : ∀ b ∈ s.items, key b = key a → p b = p a) :
    (s.put a).filter p = if p a then (s.filter p).put a else s.filter p := by
  by_cases h : key a ∈ s.items.map key
  · obtain ⟨b, hb, hba⟩ := List.mem_map.mp h
    apply ext_items
    show (s.put a).items.filter p = _
    unfold put
    rw [dif_pos h]
    show (s.items.map _).filter p = _
    rw [List.filter_map]
    have hcongr : s.items.filter (p ∘ fun b => if key b = key a then a else b) = s.items.filter p := by
      apply List.filter_congr
      intro c hc
      simp only [Function.comp]
      split
      · next hk => exact (hp c hc hk).symm
      · rfl
    rw [hcongr]
    by_cases hpa : p a = true
    · have h' : key a ∈ (s.filter p).items.map key :=
        List.mem_map.mpr ⟨b, (mem_filter _ _ _).mpr ⟨hb, by rw [hp b hb hba, hpa]⟩, hba⟩
      rw [if_pos hpa, dif_pos h']
      rfl
    · rw [if_neg hpa]
      show _ = s.items.filter p
      rw [List.map_congr_left (g := id), List.map_id]
      intro c hc
      obtain ⟨hc, hpc⟩ := List.mem_filter.mp hc
      rw [if_neg (fun hk => hpa (by rw [← hp c hc hk, hpc]))]
      rfl
  · exact filter_put_of_notMem s a p h

/-- Rewriting under an absent key does nothing. -/
theorem modify_of_notMem (s : Keyed α κ key) (k : κ) (f : α → α) (hf : ∀ a, key (f a) = key a)
    (h : ∀ b ∈ s.items, key b ≠ k) : s.modify k f hf = s := by
  apply ext_items
  show s.items.map _ = s.items
  calc s.items.map (fun b => if key b = k then f b else b) = s.items.map id :=
        List.map_congr_left fun b hb => if_neg (h b hb)
    _ = s.items := List.map_id _

/-- Rewriting a record leaves its place and the other records. -/
theorem items_modify_append_cons (s : Keyed α κ key) (f : α → α) (hf : ∀ a, key (f a) = key a) (l r : List α)
    (a : α) (h : s.items = l ++ a :: r) : (s.modify (key a) f hf).items = l ++ f a :: r := by
  have hnodup := s.nodup
  rw [h, List.map_append, List.map_cons, List.nodup_middle, List.nodup_cons, ← List.map_append] at hnodup
  have hother : ∀ b ∈ l ++ r, key b ≠ key a := fun b hb hk => hnodup.1 (hk ▸ List.mem_map_of_mem hb)
  have hkeep : ∀ t : List α, (∀ b ∈ t, b ∈ l ++ r) → t.map (fun b => if key b = key a then f b else b) = t := by
    intro t ht
    calc t.map (fun b => if key b = key a then f b else b) = t.map id :=
          List.map_congr_left fun b hb => if_neg (hother b (ht b hb))
      _ = t := List.map_id t
  show s.items.map _ = _
  rw [h, List.map_append, List.map_cons, if_pos rfl, hkeep l fun b hb => List.mem_append_left r hb,
    hkeep r fun b hb => List.mem_append_right l hb]

/-! ## Rewriting every record -/

section
variable (f : α → α) (hf : ∀ a, key (f a) = key a)

theorem modify_mapItems (s : Keyed α κ key) (k : κ) (g : α → α) (hg : ∀ a, key (g a) = key a)
    (hcomm : ∀ a, g (f a) = f (g a)) : (s.mapItems f hf).modify k g hg = (s.modify k g hg).mapItems f hf := by
  apply ext_items
  show (s.items.map f).map _ = (s.items.map _).map f
  rw [List.map_map, List.map_map]
  refine List.map_congr_left fun a _ => ?_
  show (if key (f a) = k then g (f a) else f a) = f (if key a = k then g a else a)
  rw [hf]
  split
  · exact hcomm a
  · rfl

theorem put_mapItems (s : Keyed α κ key) (a : α) : (s.mapItems f hf).put (f a) = (s.put a).mapItems f hf := by
  have hmem : key (f a) ∈ (s.mapItems f hf).items.map key ↔ key a ∈ s.items.map key := by
    have hkeys : (s.mapItems f hf).items.map key = s.items.map key := by
      show (s.items.map f).map key = _
      rw [List.map_map]
      exact List.map_congr_left fun b _ => hf b
    rw [hkeys, hf]
  apply ext_items
  by_cases h : key a ∈ s.items.map key
  · unfold put
    rw [dif_pos (hmem.mpr h), dif_pos h]
    show (s.items.map f).map _ = (s.items.map _).map f
    rw [List.map_map, List.map_map]
    refine List.map_congr_left fun b _ => ?_
    show (if key (f b) = key (f a) then f a else f b) = f (if key b = key a then a else b)
    rw [hf, hf]
    split <;> rfl
  · rw [items_put_of_notMem _ _ (mt hmem.mp h)]
    show s.items.map f ++ [f a] = (s.put a).items.map f
    rw [items_put_of_notMem s a h, List.map_append]
    rfl

end

/-! ## Looking up -/

/-- A record is found under its own key, and no other is. -/
theorem find?_eq_some_iff (s : Keyed α κ key) (k : κ) (a : α) : s.find? k = some a ↔ a ∈ s.items ∧ key a = k := by
  unfold find?
  constructor
  · intro h
    exact ⟨List.mem_of_find?_eq_some h, by simpa using List.find?_some h⟩
  · rintro ⟨hmem, rfl⟩
    cases h : s.items.find? fun b => key b = key a with
    | none => exact absurd (List.find?_eq_none.mp h a hmem) (by simp)
    | some b =>
      have hkey : key b = key a := by simpa using List.find?_some h
      rw [List.inj_on_of_nodup_map s.nodup (List.mem_of_find?_eq_some h) hmem hkey]

theorem find?_put (s : Keyed α κ key) (a : α) : (s.put a).find? = Function.update s.find? (key a) (some a) := by
  funext k
  refine Option.ext fun b => ?_
  rw [find?_eq_some_iff, mem_put]
  by_cases hk : k = key a
  · subst hk
    rw [Function.update_self, Option.some.injEq]
    constructor
    · rintro ⟨rfl | ⟨-, hne⟩, hkey⟩
      · rfl
      · exact absurd hkey hne
    · rintro rfl
      exact ⟨Or.inl rfl, rfl⟩
  · rw [Function.update_of_ne hk, find?_eq_some_iff]
    constructor
    · rintro ⟨rfl | ⟨hmem, -⟩, hkey⟩
      · exact absurd hkey.symm hk
      · exact ⟨hmem, hkey⟩
    · rintro ⟨hmem, rfl⟩
      exact ⟨Or.inr ⟨hmem, hk⟩, rfl⟩

theorem find?_modify (s : Keyed α κ key) (k : κ) (f : α → α) (hf : ∀ a, key (f a) = key a) :
    (s.modify k f hf).find? = Function.update s.find? k ((s.find? k).map f) := by
  funext j
  refine Option.ext fun b => ?_
  rw [find?_eq_some_iff, mem_modify]
  by_cases hj : j = k
  · subst hj
    rw [Function.update_self, Option.map_eq_some_iff]
    constructor
    · rintro ⟨⟨c, hc, rfl⟩, hkey⟩
      by_cases hcj : key c = j
      · rw [if_pos hcj]
        exact ⟨c, (find?_eq_some_iff s j c).mpr ⟨hc, hcj⟩, rfl⟩
      · rw [if_neg hcj] at hkey
        exact absurd hkey hcj
    · rintro ⟨c, hc, rfl⟩
      obtain ⟨hmem, hkey⟩ := (find?_eq_some_iff s j c).mp hc
      exact ⟨⟨c, hmem, (if_pos hkey).symm⟩, (hf c).trans hkey⟩
  · rw [Function.update_of_ne hj, find?_eq_some_iff]
    constructor
    · rintro ⟨⟨c, hc, rfl⟩, hkey⟩
      by_cases hck : key c = k
      · rw [if_pos hck, hf] at hkey
        exact absurd (hkey.symm.trans hck) hj
      · rw [if_neg hck] at hkey ⊢
        exact ⟨hc, hkey⟩
    · rintro ⟨hmem, rfl⟩
      exact ⟨⟨b, hmem, (if_neg hj).symm⟩, rfl⟩

theorem find?_filter (s : Keyed α κ key) (p : α → Bool) (k : κ) :
    (s.filter p).find? k = (s.find? k).filter p := by
  refine Option.ext fun b => ?_
  rw [find?_eq_some_iff, mem_filter, Option.filter_eq_some_iff, find?_eq_some_iff]
  exact and_right_comm

end Keyed
