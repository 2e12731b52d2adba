import CachingLayer.Basis.Text

/-!
# Patterns and keywords

Searching for patterns as `re` does it, on lowered text: literals without regard to case,
alternatives, word boundaries, `.*` within a line; and for keywords as `in` does it.  What
Unicode says of characters is an argument (`Unicode`).
-/

namespace CachingLayer

open Text

/-- `str.lower`, and `str.isalnum` on one character. -/
structure Unicode where
  lower : String → String
  isAlnum : Char → Bool
  /-- A space is no context for a letter's case. -/
  lower_space : ∀ a b, lower (a ++ " " ++ b) = lower a ++ " " ++ lower b
  isAlnum_space : ∀ c, isSpace c = true → isAlnum c = false

inductive Piece
  /-- `\b`. -/
  | boundary
  | text (s : String)
  /-- `(…|…)`. -/
  | oneOf (alternatives : List String)
  /-- `.*`. -/
  | line

/-- A pattern as it is written, and taken apart. -/
structure Pattern where
  pattern : String
  pieces : List Piece

/-- `re.IGNORECASE`, for a small letter of a pattern against lowered text: `i` and `s` also
match the dotless and the long one. -/
def sameLetter (p c : Char) : Bool := p = c || (p = 'i' && c = 'ı') || (p = 's' && c = 'ſ')

/-- After the literal `ps`: the character before the rest, and the rest. -/
def eat : List Char → Option Char → List Char → Option (Option Char × List Char)
  | [], prev, rest => some (prev, rest)
  | p :: ps, _, c :: rest => if sameLetter p c then eat ps (some c) rest else none
  | _ :: _, _, [] => none

/-- `m` matches somewhere after this point of the line. -/
def withinLine (m : Option Char → List Char → Bool) : Option Char → List Char → Bool
  | prev, [] => m prev []
  | prev, c :: rest => m prev (c :: rest) || (c ≠ '\n' && withinLine m (some c) rest)

namespace Unicode

def isWord (u : Unicode) : Option Char → Bool
  | some c => u.isAlnum c || c = '_'
  | none => false

/-- The pieces match here, after `prev`. -/
def matchesHere (u : Unicode) : List Piece → Option Char → List Char → Bool
  | [], _, _ => true
  | .boundary :: ps, prev, rest => u.isWord prev != u.isWord rest.head? && matchesHere u ps prev rest
  | .text s :: ps, prev, rest => (eat s.toList prev rest).any fun x => matchesHere u ps x.1 x.2
  | .oneOf ss :: ps, prev, rest =>
    ss.any fun s => (eat s.toList prev rest).any fun x => matchesHere u ps x.1 x.2
  | .line :: ps, prev, rest => withinLine (matchesHere u ps) prev rest

def searchFrom (u : Unicode) (ps : List Piece) : Option Char → List Char → Bool
  | prev, [] => u.matchesHere ps prev []
  | prev, c :: rest => u.matchesHere ps prev (c :: rest) || searchFrom u ps (some c) rest

/-- `pattern.search(text)`. -/
def search (u : Unicode) (p : Pattern) (text : String) : Bool := u.searchFrom p.pieces none text.toList

end Unicode

/-- `keyword in text`. -/
def occursIn (keyword text : String) : Bool := keyword.toList <:+: text.toList

/-! ## Surrounded texts -/

namespace Unicode

section
variable (u : Unicode) (tail : List Char) (htail : ∀ c ∈ tail.head?, isSpace c = true)

theorem isWord_space (c : Char) (hc : isSpace c = true) : u.isWord (some c) = false := by
  have hne : c ≠ '_' := by
    rintro rfl
    exact absurd hc (by decide)
  show (u.isAlnum c || c = '_') = false
  rw [u.isAlnum_space c hc, Bool.false_or]
  exact decide_eq_false hne

include htail in
theorem isWord_head?_append (rest : List Char) : u.isWord (rest ++ tail).head? = u.isWord rest.head? := by
  cases rest with
  | cons c rest => rfl
  | nil =>
    rw [List.nil_append]
    cases htail' : tail.head? with
    | none => rfl
    | some c =>
      have hspace := htail c (by rw [htail']; rfl)
      rw [u.isWord_space c hspace]
      rfl

theorem eat_append (ps : List Char) (prev prev' : Option Char) (rest : List Char) (x : Option Char × List Char)
    (hprev : u.isWord prev = u.isWord prev') (h : eat ps prev rest = some x) :
    ∃ y, eat ps prev' (rest ++ tail) = some y ∧ u.isWord x.1 = u.isWord y.1 ∧ y.2 = x.2 ++ tail := by
  induction ps generalizing prev prev' rest with
  | nil =>
    obtain rfl := Option.some.inj h
    exact ⟨(prev', rest ++ tail), rfl, hprev, rfl⟩
  | cons p ps ih =>
    cases rest with
    | nil => cases h
    | cons c rest =>
      unfold eat at h
      rw [List.cons_append]
      unfold eat
      split at h
      · next hsame =>
        rw [if_pos hsame]
        exact ih (some c) (some c) rest rfl h
      · cases h

theorem withinLine_append (m : Option Char → List Char → Bool)
    (hm : ∀ prev prev' rest, u.isWord prev = u.isWord prev' → m prev rest = true → m prev' (rest ++ tail) = true)
    (prev prev' : Option Char) (rest : List Char) (hprev : u.isWord prev = u.isWord prev')
    (h : withinLine m prev rest = true) : withinLine m prev' (rest ++ tail) = true := by
  have hhere : ∀ prev l, m prev l = true → withinLine m prev l = true := by
    intro prev l hl
    cases l with
    | nil => exact hl
    | cons c l =>
      unfold withinLine
      rw [hl, Bool.true_or]
  induction rest generalizing prev prev' with
  | nil => exact hhere _ _ (hm prev prev' [] hprev h)
  | cons c rest ih =>
    unfold withinLine at h
    rw [Bool.or_eq_true, Bool.and_eq_true] at h
    rcases h with h | ⟨hline, hrest⟩
    · exact hhere _ _ (hm prev prev' (c :: rest) hprev h)
    · rw [List.cons_append]
      unfold withinLine
      rw [hline, ih (some c) (some c) rfl hrest, Bool.true_and, Bool.or_true]

include htail

/-- What matches still does when whitespace and more follow. -/
theorem matchesHere_append (ps : List Piece) (prev prev' : Option Char) (rest : List Char)
    (hprev : u.isWord prev = u.isWord prev') (h : u.matchesHere ps prev rest = true) :
    u.matchesHere ps prev' (rest ++ tail) = true := by
  induction ps generalizing prev prev' rest with
  | nil => rfl
  | cons piece ps ih =>
    have heat : ∀ s : String, (eat s.toList prev rest).any (fun x => u.matchesHere ps x.1 x.2) = true →
        (eat s.toList prev' (rest ++ tail)).any (fun x => u.matchesHere ps x.1 x.2) = true := by
      intro s hs
      obtain ⟨x, hx, hmatch⟩ := (Option.any_eq_true _ _).mp hs
      obtain ⟨y, hy, hword, hrest⟩ := u.eat_append tail s.toList prev prev' rest x hprev hx
      rw [hy]
      show u.matchesHere ps y.1 y.2 = true
      rw [hrest]
      exact ih x.1 y.1 x.2 hword hmatch
    cases piece with
    | boundary =>
      unfold matchesHere at h ⊢
      rw [Bool.and_eq_true] at h ⊢
      rw [u.isWord_head?_append tail htail rest, ← hprev]
      exact ⟨h.1, ih prev prev' rest hprev h.2⟩
    | text s => exact heat s h
    | oneOf ss =>
      unfold matchesHere at h ⊢
      obtain ⟨s, hs, hmatch⟩ := List.any_eq_true.mp h
      exact List.any_eq_true.mpr ⟨s, hs, heat s hmatch⟩
    | line => exact u.withinLine_append tail (u.matchesHere ps) ih prev prev' rest hprev h

theorem searchFrom_append (ps : List Piece) (prev prev' : Option Char) (rest : List Char)
    (hprev : u.isWord prev = u.isWord prev') (h : u.searchFrom ps prev rest = true) :
    u.searchFrom ps prev' (rest ++ tail) = true := by
  have hhere : ∀ prev l, u.matchesHere ps prev l = true → u.searchFrom ps prev l = true := by
    intro prev l hl
    cases l with
    | nil => exact hl
    | cons c l =>
      unfold searchFrom
      rw [hl, Bool.true_or]
  induction rest generalizing prev prev' with
  | nil => exact hhere _ _ (u.matchesHere_append tail htail ps prev prev' [] hprev h)
  | cons c rest ih =>
    unfold searchFrom at h
    rw [Bool.or_eq_true] at h
    rcases h with h | h
    · exact hhere _ _ (u.matchesHere_append tail htail ps prev prev' (c :: rest) hprev h)
    · rw [List.cons_append]
      unfold searchFrom
      rw [ih (some c) (some c) rfl h, Bool.or_true]

end

/-- A search starts anywhere. -/
theorem searchFrom_prepend (u : Unicode) (ps : List Piece) (front text : List Char) (prev : Option Char)
    (hfront : ∀ c ∈ front.getLast?, isSpace c = true) (hprev : front = [] → u.isWord prev = false)
    (h : u.searchFrom ps none text = true) : u.searchFrom ps prev (front ++ text) = true := by
  induction front generalizing prev with
  | nil =>
    have hsame := u.searchFrom_append [] (by simp) ps none prev text (hprev rfl).symm h
    rwa [List.append_nil] at hsame
  | cons c front ih =>
    have hrest : u.searchFrom ps (some c) (front ++ text) = true := by
      apply ih
      · intro d hd
        apply hfront
        rw [List.getLast?_cons, Option.mem_def.mp hd]
        rfl
      · rintro rfl
        exact u.isWord_space c (hfront c rfl)
    rw [List.cons_append]
    unfold searchFrom
    rw [hrest, Bool.or_true]

end Unicode

/-- `inner` stands in `text` between whitespace and the ends. -/
def StandsIn (inner text : String) : Prop :=
  ∃ front back, text.toList = front ++ inner.toList ++ back ∧ (∀ c ∈ front.getLast?, isSpace c = true) ∧
    ∀ c ∈ back.head?, isSpace c = true

theorem StandsIn.search (u : Unicode) (p : Pattern) (inner text : String) (h : StandsIn inner text)
    (hsearch : u.search p inner = true) : u.search p text = true := by
  obtain ⟨front, back, htext, hfront, hback⟩ := h
  unfold Unicode.search at hsearch ⊢
  rw [htext, List.append_assoc]
  apply u.searchFrom_prepend p.pieces front _ none hfront fun _ => rfl
  exact u.searchFrom_append back hback p.pieces none none _ rfl hsearch

theorem StandsIn.occursIn (keyword inner text : String) (h : StandsIn inner text)
    (hoccurs : occursIn keyword inner = true) : CachingLayer.occursIn keyword text = true := by
  obtain ⟨front, back, htext, -, -⟩ := h
  unfold CachingLayer.occursIn at hoccurs ⊢
  rw [decide_eq_true_eq] at hoccurs ⊢
  rw [htext]
  exact hoccurs.trans ⟨front, back, rfl⟩

/-- A text that is not blank stands in what surrounds it, lowered and stripped. -/
theorem standsIn_surrounded (u : Unicode) (a p b : String) (hp : strip (u.lower p) ≠ "") :
    StandsIn (strip (u.lower p)) (strip (u.lower (a ++ " " ++ p ++ " " ++ b))) := by
  have hne : stripBy isSpace (u.lower p).toList ≠ [] := by
    intro hnil
    apply hp
    unfold strip
    rw [hnil]
  obtain ⟨front, back, htext, hfront, hback⟩ :=
    stripBy_surrounded isSpace ' ' (by decide) (u.lower a).toList (u.lower p).toList (u.lower b).toList hne
  refine ⟨front, back, ?_, hfront, hback⟩
  rw [u.lower_space, u.lower_space]
  unfold strip
  rw [String.toList_ofList, String.toList_ofList, ← htext]
  congr 1
  simp [String.toList_append]

/-! ## ASCII -/

/-- Unicode as far as ASCII goes. -/
def Unicode.ascii : Unicode where
  lower s := String.ofList (s.toList.map Char.toLower)
  isAlnum := Char.isAlphanum
  lower_space a b := by
    have hspace : Char.toLower ' ' = ' ' := by decide
    apply String.toList_inj.mp
    simp [String.toList_append, hspace]
  isAlnum_space c h := by
    rw [Bool.eq_false_iff]
    intro halnum
    simp only [isSpace, Char.isAlphanum, Char.isAlpha, Char.isUpper, Char.isLower, Char.isDigit, Bool.or_eq_true,
      Bool.and_eq_true, decide_eq_true_eq, beq_iff_eq, UInt32.le_iff_toNat_le, ge_iff_le] at h halnum
    have hval : c.toNat = c.val.toNat := rfl
    have hA : 'A'.val.toNat = 65 := rfl
    have hZ : 'Z'.val.toNat = 90 := rfl
    have ha : 'a'.val.toNat = 97 := rfl
    have hz : 'z'.val.toNat = 122 := rfl
    have h0 : '0'.val.toNat = 48 := rfl
    have h9 : '9'.val.toNat = 57 := rfl
    omega

end CachingLayer
