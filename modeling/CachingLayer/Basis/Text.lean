import Mathlib

/-!
# Strings and byte strings as Python has them

Stripping, joining at a separator, decimal numbers; and when a joined text
determines its parts:

* the last separator is found from the right when the last part is free of it
  (`append_sep_inj`);
* a part that may contain both of two separators is still determined by the two
  joins together (`append_two_seps_inj`).
-/

namespace Text

abbrev Bytes := List UInt8

/-- UTF-8. -/
def encode (s : String) : Bytes := s.toUTF8.data.toList

/-! ## Stripping -/

/-- Drop the letters `ws` from both ends. -/
def stripBy {α : Type} (ws : α → Bool) (l : List α) : List α := (l.dropWhile ws).rdropWhile ws

/-- `str.isspace` on one character. -/
def isSpace (c : Char) : Bool :=
  let n := c.toNat
  (9 ≤ n && n ≤ 13) || (28 ≤ n && n ≤ 32) || n == 0x85 || n == 0xa0 || n == 0x1680 ||
    (0x2000 ≤ n && n ≤ 0x200a) || n == 0x2028 || n == 0x2029 || n == 0x202f || n == 0x205f ||
    n == 0x3000

/-- `str.strip()`. -/
def strip (s : String) : String := String.ofList (stripBy isSpace s.toList)

/-- The whitespace of `bytes.strip()`. -/
def isByteSpace (b : UInt8) : Bool := (9 ≤ b && b ≤ 13) || b == 32

/-- `bytes.strip()`. -/
def stripBytes (l : Bytes) : Bytes := stripBy isByteSpace l

theorem stripBy_eq_self {α : Type} (ws : α → Bool) (l : List α)
    (hhead : ∀ x ∈ l.head?, ws x = false) (hlast : ∀ x ∈ l.getLast?, ws x = false) :
    stripBy ws l = l := by
  have h1 : l.dropWhile ws = l := by
    cases l with
    | nil => rfl
    | cons x l => rw [List.dropWhile_cons_of_neg]; simp [hhead x rfl]
  unfold stripBy
  rw [h1, List.rdropWhile_eq_self_iff]
  intro hl
  have := hlast (l.getLast hl) (List.getLast?_eq_some_getLast hl)
  simp [this]

theorem getLast?_stripBy {α : Type} (ws : α → Bool) (l : List α) :
    ∀ x ∈ (stripBy ws l).getLast?, ws x = false := by
  intro x hx
  by_cases hne : stripBy ws l = []
  · rw [hne] at hx; cases hx
  · rw [List.getLast?_eq_some_getLast hne] at hx
    obtain rfl : (stripBy ws l).getLast hne = x := by simpa using hx
    exact Bool.eq_false_iff.mpr (List.rdropWhile_last_not ws (l.dropWhile ws) hne)

theorem head?_stripBy {α : Type} (ws : α → Bool) (l : List α) : ∀ x ∈ (stripBy ws l).head?, ws x = false := by
  intro x hx
  have hhead : x ∈ (l.dropWhile ws).head? := by
    obtain ⟨t, ht⟩ := List.rdropWhile_prefix ws (l.dropWhile ws)
    unfold stripBy at hx
    cases h : (l.dropWhile ws).rdropWhile ws with
    | nil => rw [h] at hx; cases hx
    | cons y ys =>
      rw [h] at hx ht
      rw [← ht]
      exact hx
  have hdrop := List.head?_dropWhile_not ws l
  rw [Option.mem_def.mp hhead] at hdrop
  simpa using hdrop

theorem stripBy_stripBy {α : Type} (ws : α → Bool) (l : List α) : stripBy ws (stripBy ws l) = stripBy ws l :=
  stripBy_eq_self ws _ (head?_stripBy ws l) (getLast?_stripBy ws l)

theorem mem_of_mem_stripBy {α : Type} (ws : α → Bool) (l : List α) (x : α) (hx : x ∈ stripBy ws l) : x ∈ l :=
  (List.dropWhile_sublist ws).mem ((List.rdropWhile_prefix ws _).sublist.mem hx)

section
variable {α : Type} (ws : α → Bool) (s : α) (hs : ws s = true)
include hs

theorem dropWhile_append_cons (l q : List α) :
    ∃ L, (l ++ s :: q).dropWhile ws = L ++ q.dropWhile ws ∧ ∀ x ∈ L.getLast?, ws x = true := by
  induction l with
  | nil => exact ⟨[], List.dropWhile_cons_of_pos hs, by simp⟩
  | cons y l ih =>
    by_cases hy : ws y = true
    · rw [List.cons_append, List.dropWhile_cons_of_pos hy]
      exact ih
    · refine ⟨y :: l ++ s :: q.takeWhile ws, ?_, ?_⟩
      · rw [List.cons_append, List.dropWhile_cons_of_neg hy, List.append_assoc, List.cons_append, List.cons_append,
          List.takeWhile_append_dropWhile]
      · intro x hx
        rw [List.getLast?_append_of_ne_nil _ (by simp)] at hx
        have hmem : x ∈ s :: q.takeWhile ws := List.mem_of_getLast? hx
        rcases List.mem_cons.mp hmem with rfl | hmem
        · exact hs
        · exact List.mem_takeWhile_imp hmem

theorem rdropWhile_append_cons (l q : List α) :
    ∃ R, (q ++ s :: l).rdropWhile ws = q.rdropWhile ws ++ R ∧ ∀ x ∈ R.head?, ws x = true := by
  obtain ⟨L, hL, hlast⟩ := dropWhile_append_cons ws s hs l.reverse q.reverse
  refine ⟨L.reverse, ?_, ?_⟩
  · unfold List.rdropWhile
    rw [List.reverse_append, List.reverse_cons, List.append_assoc, List.singleton_append, hL, List.reverse_append]
  · rw [List.head?_reverse]
    exact hlast

/-- A text stripped inside another is stripped there between whitespace and the ends. -/
theorem stripBy_surrounded (l p r : List α) (hp : stripBy ws p ≠ []) :
    ∃ L R, stripBy ws (l ++ s :: (p ++ s :: r)) = L ++ stripBy ws p ++ R ∧
      (∀ x ∈ L.getLast?, ws x = true) ∧ ∀ x ∈ R.head?, ws x = true := by
  obtain ⟨L, hL, hlast⟩ := dropWhile_append_cons ws s hs l (p ++ s :: r)
  obtain ⟨R, hR, hhead⟩ := rdropWhile_append_cons ws s hs r (L ++ p.dropWhile ws)
  have hdrop : p.dropWhile ws ≠ [] := by
    intro hnil
    apply hp
    unfold stripBy
    rw [hnil]
    rfl
  have hleft : (p ++ s :: r).dropWhile ws = p.dropWhile ws ++ s :: r := by
    rw [List.dropWhile_append, if_neg (by simpa using hdrop)]
  have hright : (L ++ p.dropWhile ws).rdropWhile ws = L ++ stripBy ws p := by
    unfold List.rdropWhile stripBy
    rw [List.reverse_append, List.dropWhile_append, if_neg]
    · rw [List.reverse_append, List.reverse_reverse]
      rfl
    · intro hempty
      apply hp
      unfold stripBy List.rdropWhile
      rw [List.isEmpty_iff.mp hempty]
      rfl
  refine ⟨L, R, ?_, hlast, hhead⟩
  unfold stripBy at hright ⊢
  rw [hL, hleft, ← List.append_assoc, hR, hright]

end
theorem encode_inj (s t : String) (h : encode s = encode t) : s = t := by
  have hdata : s.toUTF8.data = t.toUTF8.data := Array.toList_inj.mp h
  exact String.toByteArray_inj.mp (ByteArray.ext hdata)

/-! ## Separated texts -/

section
variable {α : Type} [DecidableEq α] (c : α)

theorem notMem_of_mem_splitOn (l p : List α) (hp : p ∈ l.splitOn c) : c ∉ p := by
  induction l generalizing p with
  | nil =>
    rw [List.splitOn_nil, List.mem_singleton] at hp
    rw [hp]
    exact List.not_mem_nil
  | cons x l ih =>
    rw [List.splitOn_cons_eq_if_modifyHead] at hp
    by_cases hx : x = c
    · rw [if_pos (by simpa using hx)] at hp
      rcases List.mem_cons.mp hp with rfl | hp
      · exact List.not_mem_nil
      · exact ih p hp
    · rw [if_neg (by simpa using hx)] at hp
      cases hsplit : l.splitOn c with
      | nil => rw [hsplit] at hp; cases hp
      | cons q qs =>
        rw [hsplit] at hp ih
        rcases List.mem_cons.mp hp with rfl | hp
        · rw [List.mem_cons, not_or]
          exact ⟨Ne.symm hx, ih q List.mem_cons_self⟩
        · exact ih p (List.mem_cons_of_mem q hp)

/-- Splitting a joined text splits the parts. -/
theorem splitOn_intercalate_flatMap (ls : List (List α)) (hls : ls ≠ []) :
    (List.intercalate [c] ls).splitOn c = ls.flatMap fun l => l.splitOn c := by
  induction ls with
  | nil => exact absurd rfl hls
  | cons l ls ih =>
    cases ls with
    | nil => simp
    | cons l' ls =>
      rw [List.intercalate_cons_cons, List.append_assoc, List.singleton_append, List.splitOn_append_cons_self,
        ih (List.cons_ne_nil l' ls)]
      rfl

end

/-! ## Joined texts determine their parts -/

section
variable {α : Type}

/-- The last separator is where the separator-free tails begin. -/
theorem append_sep_inj (c : α) (u u' v v' : List α) (hv : c ∉ v) (hv' : c ∉ v')
    (h : u ++ c :: v = u' ++ c :: v') : u = u' ∧ v = v' := by
  induction u generalizing u' with
  | nil =>
    cases u' with
    | nil => exact ⟨rfl, (List.cons.inj h).2⟩
    | cons x u' =>
      obtain ⟨-, ht⟩ := List.cons.inj h
      exact absurd (ht ▸ List.mem_append_right u' List.mem_cons_self) hv
  | cons x u ih =>
    cases u' with
    | nil =>
      obtain ⟨-, ht⟩ := List.cons.inj h
      exact absurd (ht ▸ List.mem_append_right u List.mem_cons_self) hv'
    | cons y u' =>
      obtain ⟨rfl, ht⟩ := List.cons.inj h
      obtain ⟨rfl, rfl⟩ := ih u' ht
      exact ⟨rfl, rfl⟩

/-- Two joins of the same parts, at two different separators, determine the parts,
whatever letters they contain: where the first parts stop agreeing in length one
text would have to show both separators. -/
theorem append_two_seps_inj (x y : α) (hxy : x ≠ y) (u u' v v' w w' : List α)
    (hx : u ++ x :: v = u' ++ x :: v') (hy : u ++ y :: w = u' ++ y :: w') : u = u' := by
  induction u generalizing u' with
  | nil =>
    cases u' with
    | nil => rfl
    | cons z u' =>
      obtain ⟨h1, -⟩ := List.cons.inj hx
      obtain ⟨h2, -⟩ := List.cons.inj hy
      exact absurd (h1.trans h2.symm) hxy
  | cons z u ih =>
    cases u' with
    | nil =>
      obtain ⟨h1, -⟩ := List.cons.inj hx
      obtain ⟨h2, -⟩ := List.cons.inj hy
      exact absurd (h1.symm.trans h2) hxy
    | cons z' u' =>
      obtain ⟨rfl, hx'⟩ := List.cons.inj hx
      rw [ih u' hx' (List.cons.inj hy).2]

end

/-! ## Decimal numbers -/

/-- `str(i)` on integers. -/
def intStr (i : Int) : String := i.repr

theorem intStr_inj (i j : Int) (h : intStr i = intStr j) : i = j := Int.repr_inj.mp h

theorem mem_natRepr (n : Nat) (c : Char) (h : c ∈ n.repr.toList) : c.isDigit = true := by
  rw [Nat.toList_repr] at h
  exact Nat.isDigit_of_mem_toDigits (by decide) (by decide) h

/-- A decimal number holds digits and the minus sign only. -/
theorem mem_intStr (i : Int) (c : Char) (h : c ∈ (intStr i).toList) : c.isDigit = true ∨ c = '-' := by
  cases i with
  | ofNat n => exact Or.inl (mem_natRepr n c h)
  | negSucc n =>
    have h' : c ∈ ("-" ++ (n + 1).repr).toList := h
    rw [String.toList_append, List.mem_append] at h'
    rcases h' with h' | h'
    · exact Or.inr (by simpa using h')
    · exact Or.inl (mem_natRepr (n + 1) c h')

end Text
