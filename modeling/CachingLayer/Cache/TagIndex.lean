import CachingLayer.Cache.RedisCalls

/-!
# The filters of a deletion, in Redis and in memory

`RedisVectorStore.delete` asks the `TAG` index, which holds the comma-separated, trimmed
pieces of each field's text (`tagPieces`), for its non-empty filters;
`InMemoryVectorStore.delete` compares the entry's own values with all filters given.

Main result: `delete_agrees_iff` — the two select an entry alike exactly when Redis
neither misses it (`Missed`) nor takes it for another one (`Mistaken`).  Where commas,
outer whitespace, the sentinel and empty filters stay out they always do
(`agree_of_plain`).
-/

namespace CachingLayer

open Text

/-! ## The index -/

/-- What a `TAG` field with the default separator holds of a text. -/
def tagPieces (text : String) : List String := (text.toList.splitOn ',').map fun p => strip (String.ofList p)

/-- A text that is its only piece. -/
def Plain (text : String) : Prop := ',' ∉ text.toList ∧ strip text = text

instance (text : String) : Decidable (Plain text) := inferInstanceAs (Decidable (_ ∧ _))

theorem plain_of_mem_tagPieces (text v : String) (h : v ∈ tagPieces text) : Plain v := by
  obtain ⟨p, hp, rfl⟩ := List.mem_map.mp h
  unfold Plain strip
  rw [String.toList_ofList, String.toList_ofList, stripBy_stripBy]
  refine ⟨fun hcomma => ?_, rfl⟩
  exact notMem_of_mem_splitOn ',' text.toList p hp (mem_of_mem_stripBy isSpace p ',' hcomma)

theorem tagPieces_of_plain (text : String) (h : Plain text) : tagPieces text = [text] := by
  unfold tagPieces
  rw [List.splitOn_eq_singleton h.1, List.map_singleton, String.ofList_toList, h.2]

/-- The pieces of a joined list are those of its members. -/
theorem mem_tagPieces_intercalate (tags : List String) (htags : tags ≠ []) (v : String) :
    v ∈ tagPieces (",".intercalate tags) ↔ ∃ t ∈ tags, v ∈ tagPieces t := by
  have htext : (",".intercalate tags).toList.splitOn ',' =
      (tags.map String.toList).flatMap fun l => l.splitOn ',' := by
    rw [String.toList_intercalate]
    exact splitOn_intercalate_flatMap ',' _ (by simpa using htags)
  unfold tagPieces
  rw [htext, List.flatMap_map]
  simp only [List.mem_map, List.mem_flatMap]
  constructor
  · rintro ⟨p, ⟨t, ht, hp⟩, rfl⟩
    exact ⟨t, ht, p, hp, rfl⟩
  · rintro ⟨t, ht, p, hp, rfl⟩
    exact ⟨p, ⟨t, ht, hp⟩, rfl⟩

/-! ## Filters -/

/-- A field that can be filtered by. -/
inductive TagField
  | model
  | systemPromptHash
  | tags
deriving DecidableEq

namespace TagField

/-- Its name in the schema. -/
def name : TagField → String
  | model => "model"
  | systemPromptHash => "system_prompt_hash"
  | tags => "tags"

section
variable {F : Type} (e : CacheEntry F)

/-- The text `upsert` stores. -/
def text : TagField → String
  | model => e.model
  | systemPromptHash => if e.systemPromptHash = "" then "none" else e.systemPromptHash
  | tags => if e.tags = [] then "none" else ",".intercalate e.tags

/-- The entry has the value there. -/
def Has : TagField → String → Prop
  | model, v => e.model = v
  | systemPromptHash, v => e.systemPromptHash = v
  | tags, v => v ∈ e.tags

/-- The index finds the value, which the entry does not have: the sentinel, or a piece of
a value that is not plain. -/
def Strays : TagField → String → Prop
  | model, v => ¬ Plain e.model ∧ v ∈ tagPieces e.model
  | systemPromptHash, v =>
    (e.systemPromptHash = "" ∧ v = "none") ∨ (¬ Plain e.systemPromptHash ∧ v ∈ tagPieces e.systemPromptHash)
  | tags, v => (e.tags = [] ∧ v = "none") ∨ (v ∉ e.tags ∧ ∃ t ∈ e.tags, ¬ Plain t ∧ v ∈ tagPieces t)

theorem Strays.not_has (field : TagField) (v : String) (h : Strays e field v) : ¬ Has e field v := by
  intro hhas
  cases field with
  | model =>
    obtain ⟨hplain, hv⟩ := h
    obtain rfl : e.model = v := hhas
    exact hplain (plain_of_mem_tagPieces _ _ hv)
  | systemPromptHash =>
    obtain rfl : e.systemPromptHash = v := hhas
    rcases h with ⟨hempty, hnone⟩ | ⟨hplain, hv⟩
    · rw [hempty] at hnone
      revert hnone
      decide
    · exact hplain (plain_of_mem_tagPieces _ _ hv)
  | tags =>
    have hmem : v ∈ e.tags := hhas
    rcases h with ⟨hempty, -⟩ | ⟨hnot, -⟩
    · rw [hempty] at hmem
      cases hmem
    · exact hnot hmem

/-- A plain value is found by its text. -/
theorem mem_tagPieces_of_has (field : TagField) (v : String) (hv : v ≠ "") (h : Has e field v)
    (hplain : Plain v) : v ∈ tagPieces (text e field) := by
  have hself : v ∈ tagPieces v := by
    rw [tagPieces_of_plain v hplain]
    exact List.mem_singleton_self v
  cases field with
  | model =>
    obtain rfl : e.model = v := h
    exact hself
  | systemPromptHash =>
    obtain rfl : e.systemPromptHash = v := h
    unfold text
    rw [if_neg hv]
    exact hself
  | tags =>
    have hmem : v ∈ e.tags := h
    have hne : e.tags ≠ [] := List.ne_nil_of_mem hmem
    unfold text
    rw [if_neg hne, mem_tagPieces_intercalate e.tags hne]
    exact ⟨v, hmem, hself⟩

theorem mem_tagPieces_of_strays (field : TagField) (v : String) (h : Strays e field v) :
    v ∈ tagPieces (text e field) := by
  have hnone : "none" ∈ tagPieces "none" := by decide
  cases field with
  | model => exact h.2
  | systemPromptHash =>
    unfold text
    rcases h with ⟨hempty, rfl⟩ | ⟨hplain, hv⟩
    · rw [if_pos hempty]
      exact hnone
    · have hne : e.systemPromptHash ≠ "" := by
        intro hempty
        rw [hempty] at hplain
        exact hplain (by decide)
      rw [if_neg hne]
      exact hv
  | tags =>
    unfold text
    rcases h with ⟨hempty, rfl⟩ | ⟨-, t, ht, -, hv⟩
    · rw [if_pos hempty]
      exact hnone
    · have hne : e.tags ≠ [] := List.ne_nil_of_mem ht
      rw [if_neg hne, mem_tagPieces_intercalate e.tags hne]
      exact ⟨t, ht, hv⟩

/-- Of a value the entry does not have. -/
theorem strays_of_mem_tagPieces (field : TagField) (v : String) (hv : v ∈ tagPieces (text e field))
    (hnot : ¬ Has e field v) : Strays e field v := by
  -- a plain text has no piece but itself
  have hplain : ∀ t : String, t ≠ v → v ∈ tagPieces t → ¬ Plain t := by
    intro t hne hvt ht
    rw [tagPieces_of_plain t ht, List.mem_singleton] at hvt
    exact hne hvt.symm
  have hnone : v ∈ tagPieces "none" → v = "none" := by
    rw [tagPieces_of_plain "none" (by decide)]
    exact List.mem_singleton.mp
  cases field with
  | model => exact ⟨hplain e.model hnot hv, hv⟩
  | systemPromptHash =>
    unfold text at hv
    by_cases hempty : e.systemPromptHash = ""
    · rw [if_pos hempty] at hv
      exact Or.inl ⟨hempty, hnone hv⟩
    · rw [if_neg hempty] at hv
      exact Or.inr ⟨hplain e.systemPromptHash hnot hv, hv⟩
  | tags =>
    unfold text at hv
    by_cases hempty : e.tags = []
    · rw [if_pos hempty] at hv
      exact Or.inl ⟨hempty, hnone hv⟩
    · rw [if_neg hempty, mem_tagPieces_intercalate e.tags hempty] at hv
      obtain ⟨t, ht, hvt⟩ := hv
      have hne : t ≠ v := by
        rintro rfl
        exact hnot ht
      exact Or.inr ⟨hnot, t, ht, hplain t hne hvt, hvt⟩

/-- What the index finds of an entry. -/
theorem mem_tagPieces_text_iff (field : TagField) (v : String) (hv : v ≠ "") :
    v ∈ tagPieces (text e field) ↔ (Has e field v ∧ Plain v) ∨ Strays e field v := by
  constructor
  · intro h
    by_cases hhas : Has e field v
    · exact Or.inl ⟨hhas, plain_of_mem_tagPieces _ v h⟩
    · exact Or.inr (strays_of_mem_tagPieces e field v h hhas)
  · rintro (⟨hhas, hplain⟩ | hstrays)
    · exact mem_tagPieces_of_has e field v hv hhas hplain
    · exact mem_tagPieces_of_strays e field v hstrays

end

end TagField

/-- The filters given. -/
def givenFilters (model systemPromptHash tag : Option String) : List (TagField × String) :=
  [model.map fun v => (.model, v), systemPromptHash.map fun v => (.systemPromptHash, v),
    tag.map fun v => (.tags, v)].reduceOption

/-- Those `RedisVectorStore.delete` makes clauses of. -/
def deleteClauses (model systemPromptHash tag : Option String) : List (TagField × String) :=
  (givenFilters model systemPromptHash tag).filter fun f => f.2 ≠ ""

/-- A clause as it stands in the query. -/
def clauseText (clause : TagField × String) : String :=
  "@" ++ clause.1.name ++ ":\x7b" ++ escapeTag clause.2 ++ "\x7d"

theorem tagClause_eq (field : TagField) (filter : Option String) :
    tagClause field.name filter =
      ((filter.map fun v => (field, v)).filter fun f => f.2 ≠ "").map clauseText := by
  cases filter with
  | none => rfl
  | some v =>
    by_cases hv : v = ""
    · simp [tagClause, hv]
    · simp [tagClause, hv, clauseText]

theorem reduceOption_filter_map {α β : Type} (p : α → Bool) (f : α → β) (l : List (Option α)) :
    (l.map fun o => (o.filter p).map f).reduceOption = (l.reduceOption.filter p).map f := by
  induction l with
  | nil => rfl
  | cons o l ih =>
    cases o with
    | none => exact ih
    | some a =>
      rw [List.map_cons, List.reduceOption_cons_of_some]
      by_cases ha : p a = true
      · rw [List.filter_cons_of_pos ha, List.map_cons, ← ih, Option.filter_some_pos ha, Option.map_some,
          List.reduceOption_cons_of_some]
      · rw [List.filter_cons_of_neg ha, ← ih, Option.filter_some_neg (by simpa using ha), Option.map_none,
          List.reduceOption_cons_of_none]

/-- The query is the clauses, each as its text. -/
theorem deleteQuery_eq (model systemPromptHash tag : Option String) :
    deleteQuery model systemPromptHash tag =
      if deleteClauses model systemPromptHash tag = [] then none
      else some (" ".intercalate ((deleteClauses model systemPromptHash tag).map clauseText)) := by
  have hclauses : [tagClause "model" model, tagClause "system_prompt_hash" systemPromptHash,
      tagClause "tags" tag].reduceOption = (deleteClauses model systemPromptHash tag).map clauseText := by
    unfold deleteClauses givenFilters
    rw [← reduceOption_filter_map]
    congr 1
    simp only [List.map_cons, List.map_nil, ← tagClause_eq]
    rfl
  unfold deleteQuery
  rw [hclauses]
  cases deleteClauses model systemPromptHash tag with
  | nil => rfl
  | cons c cs => rfl

/-! ## Selection -/

namespace RedisVectorStore

variable {F : Type} (store : RedisVectorStore F)

/-- The index finds the value in the field of the hash. -/
def Indexed (h : RedisHash String Bytes) (clause : TagField × String) : Prop :=
  ∃ text, h.fields clause.1.name = some (encode text) ∧ clause.2 ∈ tagPieces text

/-- The document under an id matches the query made of the clauses; of none, none is made. -/
def Selects (r : Redis String String Bytes) (id : String) (clauses : List (TagField × String)) : Prop :=
  clauses ≠ [] ∧ ∃ h, r.hashes (store.key id) = some h ∧ ∀ c ∈ clauses, Indexed h c

/-- A written entry matches by its texts. -/
theorem selects_upsert_iff (entry : CacheEntry F) (r : Redis String String Bytes)
    (clauses : List (TagField × String)) :
    store.Selects (store.upsert entry r) entry.id clauses ↔
      clauses ≠ [] ∧ ∀ c ∈ clauses, c.2 ∈ tagPieces (c.1.text entry) := by
  obtain ⟨h, hh, hfields, -⟩ := store.upsert_hash entry r
  have hfield : ∀ field : TagField, h.fields field.name = some (encode (field.text entry)) := by
    intro field
    apply hfields
    cases field <;> rfl
  unfold Selects
  rw [hh]
  constructor
  · rintro ⟨hne, h', heq, hall⟩
    obtain rfl := Option.some.inj heq
    refine ⟨hne, fun c hc => ?_⟩
    obtain ⟨text, htext, hmem⟩ := hall c hc
    rw [hfield c.1] at htext
    rwa [encode_inj _ _ (Option.some.inj htext)]
  · rintro ⟨hne, hall⟩
    exact ⟨hne, h, rfl, fun c hc => ⟨_, hfield c.1, hall c hc⟩⟩

end RedisVectorStore

section
variable {F : Type} (e : CacheEntry F)

theorem matchesFilter_iff_given (model systemPromptHash tag : Option String) :
    InMemoryVectorStore.matchesFilter model systemPromptHash tag e = true ↔
      ∀ f ∈ givenFilters model systemPromptHash tag, f.1.Has e f.2 := by
  unfold InMemoryVectorStore.matchesFilter givenFilters
  cases model <;> cases systemPromptHash <;> cases tag <;>
    simp [List.reduceOption, TagField.Has, and_assoc]

theorem givenFilters_eq_nil_iff (model systemPromptHash tag : Option String) :
    givenFilters model systemPromptHash tag = [] ↔ model = none ∧ systemPromptHash = none ∧ tag = none := by
  unfold givenFilters
  cases model <;> cases systemPromptHash <;> cases tag <;> simp [List.reduceOption]

/-- What `InMemoryVectorStore.delete` takes out of a store. -/
theorem notMem_delete_iff (mem : InMemoryVectorStore F) (he : e ∈ mem.items)
    (model systemPromptHash tag : Option String) :
    e ∉ (mem.delete model systemPromptHash tag).2.items ↔
      givenFilters model systemPromptHash tag ≠ [] ∧
        ∀ f ∈ givenFilters model systemPromptHash tag, f.1.Has e f.2 := by
  rw [← matchesFilter_iff_given, ne_eq, givenFilters_eq_nil_iff]
  by_cases hnone : model = none ∧ systemPromptHash = none ∧ tag = none
  · rw [mem.delete_of_none model systemPromptHash tag hnone]
    exact ⟨fun h => absurd he h, fun h => absurd hnone h.1⟩
  · rw [mem.delete_eq model systemPromptHash tag hnone, Keyed.mem_filter, Bool.not_eq_true']
    constructor
    · intro h
      exact ⟨hnone, by_contra fun hm => h ⟨he, Bool.eq_false_iff.mpr hm⟩⟩
    · rintro ⟨-, hm⟩ ⟨-, hnot⟩
      rw [hm] at hnot
      cases hnot

/-! ## Agreement -/

/-- The entry has every value asked for, and Redis does not find it: one of them is no
piece, or all are empty. -/
def Missed (given : List (TagField × String)) : Prop :=
  given ≠ [] ∧ (∀ f ∈ given, f.1.Has e f.2) ∧ ((∀ f ∈ given, f.2 = "") ∨ ∃ f ∈ given, ¬ Plain f.2)

/-- Every non-empty value asked for is a plain one of the entry's or strays, there is one,
and one strays or is empty and not the entry's. -/
def Mistaken (given : List (TagField × String)) : Prop :=
  (∃ f ∈ given, f.2 ≠ "") ∧ (∀ f ∈ given, f.2 ≠ "" → (f.1.Has e f.2 ∧ Plain f.2) ∨ f.1.Strays e f.2) ∧
    ∃ f ∈ given, (f.2 = "" ∧ ¬ f.1.Has e f.2) ∨ (f.2 ≠ "" ∧ f.1.Strays e f.2)

theorem plain_empty : Plain "" := by decide

theorem filter_nonempty_iff (given : List (TagField × String)) :
    (given.filter fun f => f.2 ≠ "") ≠ [] ↔ ∃ f ∈ given, f.2 ≠ "" := by
  rw [ne_eq, List.filter_eq_nil_iff]
  simp

theorem agree_iff (given : List (TagField × String)) :
    (((given.filter fun f => f.2 ≠ "") ≠ [] ∧
          ∀ c ∈ given.filter fun f => f.2 ≠ "", c.2 ∈ tagPieces (c.1.text e)) ↔
        given ≠ [] ∧ ∀ f ∈ given, f.1.Has e f.2) ↔
      ¬ Missed e given ∧ ¬ Mistaken e given := by
  have hpieces : (∀ c ∈ given.filter fun f => f.2 ≠ "", c.2 ∈ tagPieces (c.1.text e)) ↔
      ∀ f ∈ given, f.2 ≠ "" → (f.1.Has e f.2 ∧ Plain f.2) ∨ f.1.Strays e f.2 := by
    simp only [List.mem_filter, decide_eq_true_eq, and_imp]
    constructor
    · intro h f hf hne
      exact (f.1.mem_tagPieces_text_iff e f.2 hne).mp (h f hf hne)
    · intro h f hf hne
      exact (f.1.mem_tagPieces_text_iff e f.2 hne).mpr (h f hf hne)
  rw [filter_nonempty_iff, hpieces]
  constructor
  · intro h
    constructor
    · rintro ⟨hgiven, hhas, hmissed⟩
      obtain ⟨⟨f, hf, hne⟩, hfound⟩ := h.mpr ⟨hgiven, hhas⟩
      rcases hmissed with hempty | ⟨f', hf', hplain⟩
      · exact hne (hempty f hf)
      · have hne' : f'.2 ≠ "" := by
          intro h0
          rw [h0] at hplain
          exact hplain plain_empty
        rcases hfound f' hf' hne' with ⟨-, hplain'⟩ | hstrays
        · exact hplain hplain'
        · exact hstrays.not_has e f'.1 f'.2 (hhas f' hf')
    · rintro ⟨hne, hfound, f, hf, hnot⟩
      have hhas := (h.mp ⟨hne, hfound⟩).2 f hf
      rcases hnot with ⟨-, hnot⟩ | ⟨-, hstrays⟩
      · exact hnot hhas
      · exact hstrays.not_has e f.1 f.2 hhas
  · rintro ⟨hmissed, hmistaken⟩
    constructor
    · rintro ⟨hne, hfound⟩
      constructor
      · obtain ⟨f, hf, -⟩ := hne
        exact List.ne_nil_of_mem hf
      · intro f hf
        by_contra hnot
        by_cases hempty : f.2 = ""
        · exact hmistaken ⟨hne, hfound, f, hf, Or.inl ⟨hempty, hnot⟩⟩
        · have hstrays := (hfound f hf hempty).resolve_left fun h => hnot h.1
          exact hmistaken ⟨hne, hfound, f, hf, Or.inr ⟨hempty, hstrays⟩⟩
    · rintro ⟨hgiven, hhas⟩
      constructor
      · by_contra hempty
        simp only [not_exists, not_and, not_not] at hempty
        exact hmissed ⟨hgiven, hhas, Or.inl hempty⟩
      · intro f hf hne
        left
        refine ⟨hhas f hf, ?_⟩
        by_contra hplain
        exact hmissed ⟨hgiven, hhas, Or.inr ⟨f, hf, hplain⟩⟩

/-- Where all texts are one piece each, and neither the empty text nor the sentinel is
asked for, nothing is missed and nothing mistaken. -/
theorem agree_of_plain (given : List (TagField × String)) (hmodel : Plain e.model)
    (hprompt : Plain e.systemPromptHash) (htags : ∀ t ∈ e.tags, Plain t)
    (hgiven : ∀ f ∈ given, Plain f.2 ∧ f.2 ≠ "" ∧ f.2 ≠ "none") :
    ¬ Missed e given ∧ ¬ Mistaken e given := by
  have hstrays : ∀ f ∈ given, ¬ f.1.Strays e f.2 := by
    intro ⟨field, v⟩ hf h
    have hsentinel := (hgiven _ hf).2.2
    cases field with
    | model => exact h.1 hmodel
    | systemPromptHash =>
      rcases h with ⟨-, hnone⟩ | ⟨hplain, -⟩
      · exact hsentinel hnone
      · exact hplain hprompt
    | tags =>
      rcases h with ⟨-, hnone⟩ | ⟨-, t, ht, hplain, -⟩
      · exact hsentinel hnone
      · exact hplain (htags t ht)
  constructor
  · rintro ⟨hne, -, hempty | ⟨f, hf, hplain⟩⟩
    · obtain ⟨f, hf⟩ := List.exists_mem_of_ne_nil given hne
      exact (hgiven f hf).2.1 (hempty f hf)
    · exact hplain (hgiven f hf).1
  · rintro ⟨-, -, f, hf, ⟨hempty, -⟩ | ⟨-, h⟩⟩
    · exact (hgiven f hf).2.1 hempty
    · exact hstrays f hf h

namespace RedisVectorStore

/-- **Agreement.**  A written entry matches the query of a deletion if and only if the
in-memory store would remove it, exactly when Redis neither misses it nor takes it for
another. -/
theorem delete_agrees_iff (store : RedisVectorStore F) (r : Redis String String Bytes)
    (mem : InMemoryVectorStore F) (model systemPromptHash tag : Option String) :
    (store.Selects (store.upsert e r) e.id (deleteClauses model systemPromptHash tag) ↔
        e ∉ (InMemoryVectorStore.delete (mem.upsert e) model systemPromptHash tag).2.items) ↔
      ¬ Missed e (givenFilters model systemPromptHash tag) ∧
        ¬ Mistaken e (givenFilters model systemPromptHash tag) := by
  have he : e ∈ (InMemoryVectorStore.upsert mem e).items := (Keyed.mem_put _ _ _).mpr (Or.inl rfl)
  rw [store.selects_upsert_iff, notMem_delete_iff e _ he]
  exact agree_iff e (givenFilters model systemPromptHash tag)

end RedisVectorStore

end

/-- Redis deletes an entry without tags as one tagged `none`; one tagged `a,b` it does
not find by that tag. -/
theorem delete_disagrees :
    ¬ (plainStore.Selects (plainStore.upsert storedEntry { now := 0 }) storedEntry.id
          (deleteClauses none none (some "none")) ↔
        storedEntry ∉ (InMemoryVectorStore.delete (InMemoryVectorStore.upsert .new storedEntry) none none
          (some "none")).2.items) ∧
      ¬ (plainStore.Selects (plainStore.upsert { storedEntry with tags := ["a,b"] } { now := 0 }) storedEntry.id
          (deleteClauses none none (some "a,b")) ↔
        { storedEntry with tags := ["a,b"] } ∉ (InMemoryVectorStore.delete
          (InMemoryVectorStore.upsert .new { storedEntry with tags := ["a,b"] }) none none
          (some "a,b")).2.items) := by
  have hmem : ∀ e : CacheEntry ℚ, e ∈ (InMemoryVectorStore.upsert .new e).items :=
    fun e => (Keyed.mem_put _ _ _).mpr (Or.inl rfl)
  constructor
  · rw [plainStore.selects_upsert_iff, notMem_delete_iff storedEntry _ (hmem _)]
    intro h
    have hsome := h.mp ⟨by decide, by decide +kernel⟩
    simp [givenFilters, List.reduceOption, TagField.Has, storedEntry] at hsome
  · rw [plainStore.selects_upsert_iff { storedEntry with tags := ["a,b"] },
      notMem_delete_iff { storedEntry with tags := ["a,b"] } _ (hmem _)]
    intro h
    have hsome := h.mpr ⟨by decide, by simp [givenFilters, List.reduceOption, TagField.Has]⟩
    revert hsome
    decide +kernel

end CachingLayer
