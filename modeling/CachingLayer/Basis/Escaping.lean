import Mathlib

/-!
# Escaped text up to a closing letter

A writer puts `esc` before each letter of a set (`escape`); a reader takes the text up to
the closing letter, where `esc` makes the next letter literal and a special letter that
stands bare is not accepted (`readUntil`).

`readUntil_escape_iff`: what was written is read back exactly when the set holds every
special letter of it, `esc` included.  `escape_eq_foldl`: one pass over the text is the
same as one pass for each letter of the set.
-/

namespace Escaping

section
variable {α : Type} [DecidableEq α] (esc close : α) (special escaped : α → Bool)

def escape (l : List α) : List α := l.flatMap fun c => if escaped c then [esc, c] else [c]

/-- What stands before the closing letter, and what stands after it. -/
def readUntil : List α → Option (List α × List α)
  | [] => none
  | c :: rest =>
    if c = close then some ([], rest)
    else if c = esc then
      match rest with
      | [] => none
      | d :: rest => (readUntil rest).map fun p => (d :: p.1, p.2)
    else if special c then none
    else (readUntil rest).map fun p => (c :: p.1, p.2)

omit [DecidableEq α] in
theorem escape_cons (c : α) (l : List α) :
    escape esc escaped (c :: l) = (if escaped c then [esc, c] else [c]) ++ escape esc escaped l := rfl

/-! ## Reading -/

section
variable (rest : List α)

theorem readUntil_close : readUntil esc close special (close :: rest) = some ([], rest) := by
  rw [readUntil.eq_def]
  simp only [if_true]

variable (hne : esc ≠ close)
include hne

theorem readUntil_esc (c : α) : readUntil esc close special (esc :: c :: rest) =
    (readUntil esc close special rest).map fun p => (c :: p.1, p.2) := by
  rw [readUntil.eq_def]
  simp only [if_neg hne, if_true]

omit hne in
theorem readUntil_special (c : α) (hclose : c ≠ close) (hesc : c ≠ esc) (hc : special c = true) :
    readUntil esc close special (c :: rest) = none := by
  rw [readUntil.eq_def]
  simp only [if_neg hclose, if_neg hesc, hc, if_true]

omit hne in
theorem readUntil_plain (c : α) (hclose : c ≠ close) (hesc : c ≠ esc) (hc : special c = false) :
    readUntil esc close special (c :: rest) =
      (readUntil esc close special rest).map fun p => (c :: p.1, p.2) := by
  rw [readUntil.eq_def]
  simp only [if_neg hclose, if_neg hesc, hc, Bool.false_eq_true, if_false]

end

/-! ## What was written -/

/-- The writer's letters are special to the reader, the closing one is among them and
`esc` is not. -/
structure Covers : Prop where
  close_escaped : escaped close = true
  esc_bare : escaped esc = false
  escaped_special : ∀ c, escaped c = true → c ≠ close → special c = true

section
variable {esc close special escaped} (hm : Covers esc close special escaped)
include hm

omit [DecidableEq α] in
theorem Covers.esc_ne_close : esc ≠ close := by
  intro h
  have := hm.esc_bare
  rw [h, hm.close_escaped] at this
  cases this

/-- A letter that is written so that it is read. -/
theorem readUntil_escape_cons (c : α) (hc : special c = true ∨ c = esc → escaped c = true) (l rest : List α) :
    readUntil esc close special (escape esc escaped (c :: l) ++ rest) =
      (readUntil esc close special (escape esc escaped l ++ rest)).map fun p => (c :: p.1, p.2) := by
  rw [escape_cons]
  by_cases he : escaped c = true
  · rw [if_pos he]
    exact readUntil_esc esc close special _ hm.esc_ne_close c
  · rw [if_neg he]
    have hclose : c ≠ close := by
      rintro rfl
      exact he hm.close_escaped
    have hesc : c ≠ esc := fun h => he (hc (Or.inr h))
    have hspecial : special c = false := by
      cases hs : special c with
      | false => rfl
      | true => exact absurd (hc (Or.inl hs)) he
    exact readUntil_plain esc close special _ c hclose hesc hspecial

/-- Text whose special letters are all escaped is read back, whatever follows it. -/
theorem readUntil_escape (l rest : List α) (hl : ∀ c ∈ l, special c = true ∨ c = esc → escaped c = true) :
    readUntil esc close special (escape esc escaped l ++ close :: rest) = some (l, rest) := by
  induction l with
  | nil => exact readUntil_close esc close special rest
  | cons c l ih =>
    rw [readUntil_escape_cons hm c (hl c List.mem_cons_self),
      ih fun d hd => hl d (List.mem_cons_of_mem c hd)]
    rfl

/-- An `esc` of the text takes the letter after it along, or what was put before it. -/
theorem readUntil_esc_escape (l tag rest : List α)
    (h : readUntil esc close special (esc :: (escape esc escaped l ++ [close])) = some (tag, rest)) :
    ∃ d l', l = d :: l' ∧ (tag = [esc] ∨
      ∃ t, tag = d :: t ∧ readUntil esc close special (escape esc escaped l' ++ [close]) = some (t, rest)) := by
  have hne := hm.esc_ne_close
  cases l with
  | nil =>
    rw [show escape esc escaped [] ++ [close] = [close] from rfl, readUntil_esc esc close special _ hne] at h
    cases h
  | cons d l =>
    refine ⟨d, l, rfl, ?_⟩
    rw [escape_cons] at h
    by_cases hd : escaped d = true
    · rw [if_pos hd] at h
      left
      obtain ⟨⟨t, r⟩, hread, heq⟩ := Option.map_eq_some_iff.mp ((readUntil_esc esc close special _ hne esc).symm.trans h)
      simp only [Prod.mk.injEq] at heq
      obtain ⟨rfl, rfl⟩ := heq
      -- now `d` stands bare
      by_cases hclose : d = close
      · rw [hclose] at hread
        obtain ⟨rfl, -⟩ := Prod.mk.inj (Option.some.inj ((readUntil_close esc close special _).symm.trans hread))
        rfl
      · have hesc : d ≠ esc := by
          rintro rfl
          rw [hm.esc_bare] at hd
          cases hd
        have hnone := readUntil_special esc close special (escape esc escaped l ++ [close]) d hclose hesc
          (hm.escaped_special d hd hclose)
        cases hnone.symm.trans hread
    · rw [if_neg hd] at h
      right
      obtain ⟨⟨t, r⟩, hread, heq⟩ := Option.map_eq_some_iff.mp ((readUntil_esc esc close special _ hne d).symm.trans h)
      simp only [Prod.mk.injEq] at heq
      obtain ⟨rfl, rfl⟩ := heq
      exact ⟨t, rfl, hread⟩

/-- A letter that is not written so that it is read: bare, and `esc` or not accepted. -/
theorem readUntil_bad_cons (c : α) (hc : ¬ (special c = true ∨ c = esc → escaped c = true)) (l tag rest : List α)
    (h : readUntil esc close special (escape esc escaped (c :: l) ++ [close]) = some (tag, rest)) :
    c = esc ∧ readUntil esc close special (esc :: (escape esc escaped l ++ [close])) = some (tag, rest) := by
  obtain ⟨hspecial, hescaped⟩ := Classical.not_imp.mp hc
  rw [escape_cons, if_neg hescaped] at h
  have hclose : c ≠ close := by
    rintro rfl
    exact hescaped hm.close_escaped
  by_cases hesc : c = esc
  · rw [hesc] at h
    exact ⟨hesc, h⟩
  · have hnone := readUntil_special esc close special (escape esc escaped l ++ [close]) c hclose hesc
      (hspecial.resolve_right hesc)
    cases hnone.symm.trans h

/-- Reading never gives more than was written. -/
theorem length_le_of_readUntil (l tag rest : List α)
    (h : readUntil esc close special (escape esc escaped l ++ [close]) = some (tag, rest)) :
    tag.length ≤ l.length := by
  generalize hn : l.length = n
  induction n using Nat.strong_induction_on generalizing l tag with
  | _ n ih =>
    cases l with
    | nil =>
      obtain ⟨rfl, -⟩ := Prod.mk.inj (Option.some.inj ((readUntil_close esc close special []).symm.trans h))
      exact Nat.zero_le n
    | cons c l =>
      rw [List.length_cons] at hn
      by_cases hc : special c = true ∨ c = esc → escaped c = true
      · rw [readUntil_escape_cons hm c hc] at h
        obtain ⟨⟨t, r⟩, hread, heq⟩ := Option.map_eq_some_iff.mp h
        simp only [Prod.mk.injEq] at heq
        obtain ⟨rfl, rfl⟩ := heq
        have := ih l.length (by omega) l t hread rfl
        rw [List.length_cons]
        omega
      · obtain ⟨-, hread⟩ := readUntil_bad_cons hm c hc l tag rest h
        obtain ⟨d, l', rfl, rfl | ⟨t, rfl, htail⟩⟩ := readUntil_esc_escape hm l tag rest hread
        · rw [List.length_singleton]
          omega
        · rw [List.length_cons] at hn
          have := ih l'.length (by omega) l' t htail rfl
          rw [List.length_cons]
          omega

/-- **Reading back.**  The text itself is read exactly when all its special letters were
escaped; one `esc` bare in it and it is not. -/
theorem readUntil_escape_iff (l : List α) :
    readUntil esc close special (escape esc escaped l ++ [close]) = some (l, []) ↔
      ∀ c ∈ l, special c = true ∨ c = esc → escaped c = true := by
  constructor
  · intro h
    induction l with
    | nil => intro c hc; cases hc
    | cons c l ih =>
      by_cases hc : special c = true ∨ c = esc → escaped c = true
      · rw [readUntil_escape_cons hm c hc] at h
        obtain ⟨⟨t, r⟩, hread, heq⟩ := Option.map_eq_some_iff.mp h
        simp only [Prod.mk.injEq, List.cons.injEq, true_and] at heq
        obtain ⟨rfl, rfl⟩ := heq
        exact List.forall_mem_cons.mpr ⟨hc, ih hread⟩
      · exfalso
        obtain ⟨rfl, hread⟩ := readUntil_bad_cons hm c hc l (c :: l) [] h
        obtain ⟨d, l', rfl, heq | ⟨t, heq, htail⟩⟩ := readUntil_esc_escape hm l (c :: l) [] hread
        · cases heq
        · -- then the text would be shorter than itself
          obtain ⟨-, rfl⟩ := List.cons.inj heq
          have := length_le_of_readUntil hm l' (d :: l') [] htail
          rw [List.length_cons] at this
          omega
  · exact readUntil_escape hm l []

end

/-! ## Letter by letter -/

/-- `replace(ch, esc + ch)`. -/
def replaceLetter (ch : α) (l : List α) : List α := l.flatMap fun c => if c = ch then [esc, ch] else [c]

/-- Replacing one letter of a set after another escapes the set. -/
theorem escape_eq_foldl (chs : List α) (hnodup : chs.Nodup) (hesc : esc ∉ chs) (l : List α) :
    escape esc (fun c => decide (c ∈ chs)) l = chs.foldl (fun out ch => replaceLetter esc ch out) l := by
  induction chs generalizing l with
  | nil =>
    show l.flatMap (fun c => [c]) = l
    exact List.flatMap_singleton' l
  | cons ch chs ih =>
    obtain ⟨hch, hnodup⟩ := List.nodup_cons.mp hnodup
    rw [List.mem_cons, not_or] at hesc
    rw [List.foldl_cons, ← ih hnodup hesc.2]
    unfold replaceLetter escape
    rw [List.flatMap_assoc]
    apply List.flatMap_congr
    intro c _
    by_cases hc : c = ch
    · subst hc
      simp [hch, hesc.2]
    · rw [if_neg hc, List.flatMap_cons, List.flatMap_nil, List.append_nil]
      simp only [List.mem_cons, hc, false_or]

end

end Escaping
