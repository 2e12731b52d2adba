import CachingLayer.Basis.Escaping
import CachingLayer.Cache.RedisStore

/-!
# Tags in a query

`_escape_tag` against the lexer of a `TAG` query (`readTag`).  It escapes eight letters;
the lexer has all ASCII punctuation but `_`, the backslash included, and whitespace.

Main results: a value is read as itself exactly when its special letters are among the
eight (`readTag_escapeTag_iff`), and no namespace is (`namespaceKey_not_read`).
-/

namespace CachingLayer

open Text

/-! ## The lexer -/

def isAsciiPunct (c : Char) : Bool :=
  let n := c.toNat
  (33 ≤ n && n ≤ 47) || (58 ≤ n && n ≤ 64) || (91 ≤ n && n ≤ 96) || (123 ≤ n && n ≤ 126)

/-- Not part of a tag unless escaped. -/
def isTagSpecial (c : Char) : Bool := (isAsciiPunct c && c != '_') || isSpace c

/-- The tag between the braces at the head of a text, and the text after them.  Whether `\x7b\x7d`
holds the empty tag or none is left open. -/
def readTag (emptyTag : Bool) (text : String) : Option (String × String) :=
  match text.toList with
  | '{' :: rest =>
    ((Escaping.readUntil '\\' '}' isTagSpecial rest).filter fun p => p.1 ≠ [] || emptyTag).map fun p =>
      (String.ofList p.1, String.ofList p.2)
  | _ => none

/-! ## What `_escape_tag` escapes -/

def tagEscapes : List Char := ['-', '.', '@', '{', '}', '|', '/', ' ']

theorem escapeTag_eq_escape (value : String) :
    escapeTag value = String.ofList (Escaping.escape '\\' (fun c => decide (c ∈ tagEscapes)) value.toList) := by
  have hletters : "-.@\x7b\x7d|/ ".toList = tagEscapes := by decide
  unfold escapeTag Escaping.escape
  simp only [hletters, decide_eq_true_eq]

/-- As the source has it: one replacement after another. -/
theorem escapeTag_eq_foldl (value : String) :
    escapeTag value =
      String.ofList (tagEscapes.foldl (fun out ch => Escaping.replaceLetter '\\' ch out) value.toList) := by
  rw [escapeTag_eq_escape, Escaping.escape_eq_foldl '\\' tagEscapes (by decide) (by decide)]

theorem tagEscapes_covers : Escaping.Covers '\\' '}' isTagSpecial fun c => decide (c ∈ tagEscapes) where
  close_escaped := by decide
  esc_bare := by decide
  escaped_special := by
    intro c hc hne
    have hc' : c ∈ tagEscapes := of_decide_eq_true hc
    simp only [tagEscapes, List.mem_cons, List.not_mem_nil, or_false] at hc'
    rcases hc' with rfl | rfl | rfl | rfl | rfl | rfl | rfl | rfl
    case inr.inr.inr.inr.inl => exact absurd rfl hne
    all_goals decide

/-- Every special letter of the value is one that is escaped. -/
def Escapable (value : String) : Prop := ∀ c ∈ value.toList, isTagSpecial c = true → c ∈ tagEscapes

theorem readTag_eq_some_iff (emptyTag : Bool) (value rest tag rest' : String) :
    readTag emptyTag ("\x7b" ++ escapeTag value ++ "\x7d" ++ rest) = some (tag, rest') ↔
      Escaping.readUntil '\\' '}' isTagSpecial
          (Escaping.escape '\\' (fun c => decide (c ∈ tagEscapes)) value.toList ++ '}' :: rest.toList) =
        some (tag.toList, rest'.toList) ∧ (tag = "" → emptyTag = true) := by
  have htext : ("\x7b" ++ escapeTag value ++ "\x7d" ++ rest).toList =
      '{' :: (Escaping.escape '\\' (fun c => decide (c ∈ tagEscapes)) value.toList ++ '}' :: rest.toList) := by
    rw [escapeTag_eq_escape]
    simp
  unfold readTag
  rw [htext]
  simp only [Option.map_eq_some_iff, Option.filter_eq_some_iff]
  constructor
  · rintro ⟨⟨t, r⟩, ⟨hread, hempty⟩, heq⟩
    obtain ⟨rfl, rfl⟩ := Prod.mk.inj heq
    rw [String.toList_ofList, String.toList_ofList]
    refine ⟨hread, fun h => ?_⟩
    obtain rfl : t = [] := by simpa using congrArg String.toList h
    simpa using hempty
  · rintro ⟨hread, hempty⟩
    refine ⟨_, ⟨hread, ?_⟩, by rw [String.ofList_toList, String.ofList_toList]⟩
    by_cases h : tag = ""
    · rw [hempty h, Bool.or_true]
    · simp [h]

/-! ## What is read back -/

/-- The backslash is special and not escaped. -/
theorem escapable_iff (value : String) :
    Escapable value ↔ ∀ c ∈ value.toList, isTagSpecial c = true ∨ c = '\\' → decide (c ∈ tagEscapes) = true := by
  unfold Escapable
  simp only [decide_eq_true_eq]
  constructor
  · rintro h c hc (hspecial | rfl)
    · exact h c hc hspecial
    · exact h _ hc (by decide)
  · intro h c hc hspecial
    exact h c hc (Or.inl hspecial)

theorem readUntil_escape_iff_escapable (value : String) :
    Escaping.readUntil '\\' '}' isTagSpecial
        (Escaping.escape '\\' (fun c => decide (c ∈ tagEscapes)) value.toList ++ ['}']) = some (value.toList, []) ↔
      Escapable value := by
  rw [escapable_iff]
  exact Escaping.readUntil_escape_iff tagEscapes_covers value.toList

/-- Whatever follows it in the query. -/
theorem readTag_of_escapable (emptyTag : Bool) (value rest : String) (hvalue : Escapable value)
    (hempty : value = "" → emptyTag = true) :
    readTag emptyTag ("\x7b" ++ escapeTag value ++ "\x7d" ++ rest) = some (value, rest) := by
  rw [readTag_eq_some_iff]
  exact ⟨Escaping.readUntil_escape tagEscapes_covers _ _ ((escapable_iff value).mp hvalue), hempty⟩

/-- **Escaping.**  A value between braces is read as one tag equal to it exactly when
every special letter of it is one of the eight that are escaped. -/
theorem readTag_escapeTag_iff (emptyTag : Bool) (value : String) :
    readTag emptyTag ("\x7b" ++ escapeTag value ++ "\x7d") = some (value, "") ↔
      Escapable value ∧ (value = "" → emptyTag = true) := by
  have hread := readTag_eq_some_iff emptyTag value "" value ""
  rw [String.append_empty] at hread
  rw [hread]
  exact and_congr_left fun _ => readUntil_escape_iff_escapable value

/-- The colon is special and not escaped. -/
theorem not_escapable_namespaceKey (s : RequestSignature) : ¬ Escapable s.namespaceKey := by
  intro h
  have hcolon : ':' ∈ s.namespaceKey.toList := by
    unfold RequestSignature.namespaceKey
    simp
  exact absurd (h ':' hcolon (by decide)) (by decide)

/-- No namespace is read as itself. -/
theorem namespaceKey_not_read (emptyTag : Bool) (s : RequestSignature) :
    readTag emptyTag ("\x7b" ++ escapeTag s.namespaceKey ++ "\x7d") ≠ some (s.namespaceKey, "") := by
  intro h
  have hread := readTag_eq_some_iff emptyTag s.namespaceKey "" s.namespaceKey ""
  rw [String.append_empty] at hread
  exact not_escapable_namespaceKey s ((readUntil_escape_iff_escapable _).mp (hread.mp h).1)

/-- The namespace of a plain request is not read as a tag at all; a value may close its
own braces. -/
theorem readTag_plainSignature :
    readTag true ("\x7b" ++ escapeTag plainSignature.namespaceKey ++ "\x7d") = none ∧
      readTag true ("\x7b" ++ escapeTag "\\\x7d" ++ "\x7d") = some ("\\", "\x7d") := by
  constructor
  · decide +kernel
  · decide +kernel

end CachingLayer
