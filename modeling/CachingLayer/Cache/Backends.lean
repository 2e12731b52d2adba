import CachingLayer.Basis.Leases
import CachingLayer.Cache.MemoryCalls
import CachingLayer.Cache.TagIndex
import CachingLayer.Cache.TagQuery

/-!
# One store, two backends

What a store is for, whichever it is: entries under their ids, each gone when its time is
up (`LiveStore`), and what its calls do to that (`MemoryCall.applyLive`).  The in-memory
store, read for what is not due, does it (`read_apply`), and so does Redis with its hashes
and deadlines (`Represents`), whole calls one after another.

So the two hold the same entries all along, hits included (`backends_agree`), as long as
the calls are such that the `TAG` index takes filters for what they are in memory (`Alike`).
-/

namespace CachingLayer

open Text

namespace CacheEntry

variable {F : Type}

def expiry (e : CacheEntry F) : ℚ := e.createdAt + e.ttlSeconds

def counted (e : CacheEntry F) : CacheEntry F := { e with hitCount := e.hitCount + 1 }

@[simp] theorem expiry_counted (e : CacheEntry F) : e.counted.expiry = e.expiry := rfl

@[simp] theorem id_counted (e : CacheEntry F) : e.counted.id = e.id := rfl

/-- What it can be filtered by is one piece each. -/
def PlainTexts (e : CacheEntry F) : Prop :=
  Plain e.model ∧ Plain e.systemPromptHash ∧ ∀ t ∈ e.tags, Plain t

theorem SameRecord.plainTexts {e e' : CacheEntry F} (h : e.SameRecord e') (hplain : e.PlainTexts) : e'.PlainTexts := by
  have hcounted : PlainTexts { e' with hitCount := 0 } := h ▸ hplain
  exact hcounted

end CacheEntry

abbrev LiveStore (F : Type) := Leases String (CacheEntry F) CacheEntry.expiry

namespace MemoryCall

variable {F : Type}

/-- The entries a call takes out on purpose. -/
def flushes : MemoryCall F → CacheEntry F → Bool
  | delete model systemPromptHash tag => fun e =>
    ¬ (model = none ∧ systemPromptHash = none ∧ tag = none) ∧
      InMemoryVectorStore.matchesFilter model systemPromptHash tag e
  | clear => fun _ => true
  | _ => fun _ => false

def applyLive (l : LiveStore F) : MemoryCall F → LiveStore F
  | upsert entry => l.put entry.id entry
  | search _ _ _ => l
  | incrementHit entryId => l.adjust entryId CacheEntry.counted
  | delete model systemPromptHash tag => l.remove (flushes (delete model systemPromptHash tag))
  | clear => l.remove (flushes clear)

/-- A call leaves plain what is plain, if what it writes is. -/
theorem plainTexts_apply (mem : InMemoryVectorStore F) (call : MemoryCall F) (hmem : ∀ e ∈ mem.items, e.PlainTexts)
    (hwritten : ∀ entry, call = .upsert entry → entry.PlainTexts) : ∀ e ∈ (call.apply mem).items, e.PlainTexts := by
  intro e he
  rcases (InMemoryVectorStore.holds_apply_iff mem call e).mp ⟨e, he, rfl⟩ with
    ⟨entry, rfl, hsame⟩ | ⟨⟨e', he', hsame⟩, -⟩
  · exact hsame.plainTexts (hwritten entry rfl)
  · exact hsame.plainTexts (hmem e' he')

end MemoryCall

/-! ## In memory -/

namespace InMemoryVectorStore

variable {F : Type} (mem : InMemoryVectorStore F) (now : ℚ)

/-- What is not due. -/
def read : LiveStore F := Leases.read mem.get now

theorem held_read_iff (id : String) (e : CacheEntry F) :
    (mem.read now).held id = some e ↔ (e ∈ mem.items ∧ e.id = id) ∧ now < e.expiry := by
  refine Option.filter_eq_some_iff.trans ?_
  rw [show mem.get id = some e ↔ _ from mem.find?_eq_some_iff id e, decide_eq_true_iff]

theorem read_advance (t : ℚ) (h : now ≤ t) : (mem.read now).advance t = mem.read t :=
  Leases.advance_read mem.get now t h

theorem get_delete (model systemPromptHash tag : Option String) (id : String) :
    (mem.delete model systemPromptHash tag).2.get id =
      (mem.get id).filter fun e => !(MemoryCall.delete model systemPromptHash tag).flushes e := by
  unfold MemoryCall.flushes
  by_cases hnone : model = none ∧ systemPromptHash = none ∧ tag = none
  · rw [delete_of_none mem model systemPromptHash tag hnone]
    cases mem.get id <;> simp [Option.filter_some, hnone]
  · rw [delete_eq mem model systemPromptHash tag hnone]
    simp only [hnone, not_false_eq_true, true_and, Bool.decide_eq_true]
    exact Keyed.find?_filter mem _ id

/-- **Step.**  A call on the store, read, is the call on what was read. -/
theorem read_apply (call : MemoryCall F) : (call.apply mem).read now = call.applyLive (mem.read now) := by
  cases call with
  | upsert entry =>
    have hget : (MemoryCall.apply mem (.upsert entry)).get = Function.update mem.get entry.id (some entry) :=
      Keyed.find?_put mem entry
    unfold read
    rw [hget]
    exact Leases.read_put mem.get now entry.id entry
  | search ns v k => rfl
  | incrementHit id =>
    have hget : (MemoryCall.apply mem (.incrementHit id)).get =
        Function.update mem.get id ((mem.get id).map CacheEntry.counted) :=
      Keyed.find?_modify mem id CacheEntry.counted fun _ => rfl
    unfold read
    rw [hget]
    exact Leases.read_adjust mem.get now id CacheEntry.counted fun _ => rfl
  | delete model systemPromptHash tag =>
    have hget : (MemoryCall.apply mem (.delete model systemPromptHash tag)).get = _ :=
      funext (mem.get_delete model systemPromptHash tag)
    unfold read
    rw [hget]
    exact Leases.read_remove mem.get now _
  | clear =>
    unfold read
    have hget : (MemoryCall.apply mem .clear).get = fun id => (mem.get id).filter fun e =>
        !MemoryCall.flushes .clear e := by
      funext id
      cases mem.get id <;> rfl
    rw [hget]
    exact Leases.read_remove mem.get now _

end InMemoryVectorStore

/-! ## In Redis -/

namespace RedisVectorStore

section
variable {F : Type} (store : RedisVectorStore F)

/-- `get`. -/
def get (entryId : String) (r : Redis String String Bytes) : Except PyError (Option (CacheEntry F)) :=
  match r.hget (store.key entryId) "data" with
  | none => .ok none
  | some raw => some <$> store.codec.loads raw

/-- `increment_hit`; what `get` raises, it raises. -/
def incrementHit (entryId : String) (r : Redis String String Bytes) : Redis String String Bytes :=
  match store.get entryId r with
  | .ok (some entry) => r.hset (store.key entryId) [("data", store.codec.dumps entry.counted)]
  | _ => r

/-- The commands of `increment_hit` when nothing comes between. -/
theorem exec_incrementHit [Field F] [LinearOrder F] (cache : SemanticCache F) (s : StoreState F) (client : Nat)
    (entryId : String) (hidle : s.calls client = none) :
    Run.exec (store.step cache) s (.start client (.incrementHit entryId) :: .command client [] ::
        match store.get entryId s.redis with
        | .ok (some _) => [.command client []]
        | _ => []) =
      some { s with redis := store.incrementHit entryId s.redis } := by
  have hcalls : Function.update s.calls client none = s.calls := by
    rw [← hidle]
    exact Function.update_eq_self client s.calls
  rw [exec_start store cache s client _ _ hidle,
    exec_command store cache _ client [] (.getting entryId) _ (Function.update_self ..)]
  unfold incrementHit get
  simp only [run, Function.update_idem]
  cases s.redis.hget (store.key entryId) "data" with
  | none =>
    simp only [hcalls]
    rfl
  | some raw =>
    simp only []
    cases store.codec.loads raw with
    | error e =>
      simp only [hcalls]
      rfl
    | ok entry =>
      have hsetting := exec_command store cache
        { s with calls := Function.update s.calls client (some (.setting entryId entry.counted)) } client []
        (.setting entryId entry.counted) [] (Function.update_self ..)
      refine hsetting.trans ?_
      simp only [run, Function.update_idem, hcalls]
      rfl

/-- A whole call: what it returns, for those that count, and what it leaves.  `found` is
what `FT.SEARCH` answers. -/
def call (found : List String) (r : Redis String String Bytes) : MemoryCall F → Nat × Redis String String Bytes
  | .upsert entry => (0, store.upsert entry r)
  | .search _ _ _ => (0, r)
  | .incrementHit entryId => (0, store.incrementHit entryId r)
  | .delete model systemPromptHash tag => delete model systemPromptHash tag (fun _ => found) r
  | .clear => clear (fun _ => found) r

/-- The hashes are those of the entries held, each under its deadline. -/
structure Represents (l : LiveStore F) (r : Redis String String Bytes) : Prop where
  now : r.now = l.now
  gone : ∀ id, l.held id = none → r.hashes (store.key id) = none
  kept : ∀ id e, l.held id = some e → e.id = id ∧ ∃ h, r.hashes (store.key id) = some h ∧
    h.deadline = some e.expiry ∧ ∀ f v, (store.mapping e).lookup f = some v → h.fields f = some v

end

/-! ### What the commands do to what is represented -/

section
variable {F : Type} {store : RedisVectorStore F} {l : LiveStore F} {r : Redis String String Bytes}

theorem represents_empty (now : ℚ) :
    store.Represents (Leases.read (fun _ => none) now) { now } where
  now := rfl
  gone _ _ := rfl
  kept _ _ h := by cases h

theorem Represents.advance (h : store.Represents l r) (t : ℚ) : store.Represents (l.advance t) (r.advance t) where
  now := rfl
  gone id hid := by
    show (r.hashes (store.key id)).filter _ = none
    cases hheld : l.held id with
    | none => rw [h.gone id hheld, Option.filter_none]
    | some e =>
      obtain ⟨-, hash, hhash, hdeadline, -⟩ := h.kept id e hheld
      have hdue : ¬ t < e.expiry := by
        intro hlt
        have hkept : (l.advance t).held id = some e := by
          show (l.held id).filter _ = some e
          rw [hheld]
          exact Option.filter_some_pos (decide_eq_true hlt)
        rw [hkept] at hid
        cases hid
      rw [hhash]
      refine Option.filter_some_neg ?_
      simpa [RedisHash.isDue, hdeadline] using hdue
  kept id e hid := by
    obtain ⟨hheld, hlt⟩ := Option.filter_eq_some_iff.mp (show (l.held id).filter _ = some e from hid)
    obtain ⟨hkey, hash, hhash, hdeadline, hfields⟩ := h.kept id e hheld
    refine ⟨hkey, hash, ?_, hdeadline, hfields⟩
    show (r.hashes (store.key id)).filter _ = some hash
    rw [hhash]
    refine Option.filter_some_pos ?_
    simpa [RedisHash.isDue, hdeadline] using hlt

theorem upsert_now (entry : CacheEntry F) : (store.upsert entry r).now = r.now := by
  unfold upsert
  split
  · exact Redis.expire_now _ _ _
  · rfl

theorem upsert_of_ne (entry : CacheEntry F) (id : String) (hid : id ≠ entry.id) :
    (store.upsert entry r).hashes (store.key id) = r.hashes (store.key id) := by
  have hkey : store.key id ≠ store.key entry.id := fun h => hid ((store.key_inj _ _).mp h)
  unfold upsert
  simp only []
  split
  · rw [Redis.expire_of_ne _ _ _ _ hkey, Redis.hset_of_ne _ _ _ _ hkey]
  · exact Redis.hset_of_ne _ _ _ _ hkey

/-- An entry written when it was made. -/
theorem Represents.upsert (h : store.Represents l r) (entry : CacheEntry F) (hpos : 0 < entry.ttlSeconds)
    (hcreated : entry.createdAt = r.now) : store.Represents (l.put entry.id entry) (store.upsert entry r) := by
  have hlive : l.now < entry.expiry := by
    have hseconds : (0 : ℚ) < entry.ttlSeconds := by exact_mod_cast hpos
    unfold CacheEntry.expiry
    rw [hcreated, h.now]
    linarith
  have hheld := l.held_put entry.id entry hlive
  refine ⟨(upsert_now entry).trans h.now, fun id hid => ?_, fun id e hid => ?_⟩
  · rw [hheld] at hid
    by_cases hne : id = entry.id
    · subst hne
      rw [Function.update_self] at hid
      cases hid
    · rw [Function.update_of_ne hne] at hid
      rw [upsert_of_ne entry id hne]
      exact h.gone id hid
  · rw [hheld] at hid
    by_cases hne : id = entry.id
    · subst hne
      rw [Function.update_self] at hid
      obtain rfl := Option.some.inj hid
      obtain ⟨hash, hhash, hfields, hdeadline⟩ := store.upsert_hash entry r
      rw [if_pos hpos, ← hcreated] at hdeadline
      exact ⟨rfl, hash, hhash, hdeadline, hfields⟩
    · rw [Function.update_of_ne hne] at hid
      rw [upsert_of_ne entry id hne]
      exact h.kept id e hid

/-- What is represented is read back. -/
theorem Represents.get (h : store.Represents l r) (hcodec : ∀ id e, l.held id = some e →
    store.codec.loads (store.codec.dumps e) = .ok e) (id : String) : store.get id r = .ok (l.held id) := by
  unfold RedisVectorStore.get Redis.hget
  cases hheld : l.held id with
  | none => rw [h.gone id hheld]; rfl
  | some e =>
    obtain ⟨-, hash, hhash, -, hfields⟩ := h.kept id e hheld
    rw [hhash, Option.bind_some, hfields "data" _ rfl]
    show some <$> store.codec.loads (store.codec.dumps e) = _
    rw [hcodec id e hheld]
    rfl

theorem mapping_counted (e : CacheEntry F) (f : String) (hf : f ≠ "data") :
    (store.mapping e.counted).lookup f = (store.mapping e).lookup f := by
  have hdata : (f == "data") = false := beq_false_of_ne hf
  simp only [mapping, List.lookup_cons, hdata]
  rfl

theorem Represents.incrementHit (h : store.Represents l r) (hcodec : ∀ id e, l.held id = some e →
    store.codec.loads (store.codec.dumps e) = .ok e) (id : String) :
    store.Represents (l.adjust id CacheEntry.counted) (store.incrementHit id r) := by
  have hheld := l.held_adjust id CacheEntry.counted fun _ => rfl
  have hget := h.get hcodec id
  unfold RedisVectorStore.incrementHit
  cases hid : l.held id with
  | none =>
    rw [hget, hid]
    have hsame : l.adjust id CacheEntry.counted = l := by
      refine Leases.ext_held _ _ rfl fun j => ?_
      rw [hheld, hid]
      by_cases hj : j = id
      · subst hj
        rw [Function.update_self, hid]
        rfl
      · rw [Function.update_of_ne hj]
    rw [hsame]
    exact h
  | some e =>
    rw [hget, hid]
    obtain ⟨hkey, hash, hhash, hdeadline, hfields⟩ := h.kept id e hid
    refine ⟨h.now, fun j hj => ?_, fun j e' hj => ?_⟩
    · rw [hheld] at hj
      by_cases hne : j = id
      · subst hne
        rw [Function.update_self, hid] at hj
        cases hj
      · rw [Function.update_of_ne hne] at hj
        rw [Redis.hset_of_ne _ _ _ _ fun hk => hne ((store.key_inj _ _).mp hk)]
        exact h.gone j hj
    · rw [hheld] at hj
      by_cases hne : j = id
      · subst hne
        rw [Function.update_self, hid] at hj
        obtain rfl := Option.some.inj hj
        refine ⟨hkey, _, Redis.hset_self _ _ _, ?_, fun f v hf => ?_⟩
        · rw [hhash]
          exact hdeadline
        · rw [hhash]
          show (List.lookup f [("data", store.codec.dumps e.counted)]).or (hash.fields f) = some v
          by_cases hdata : f = "data"
          · subst hdata
            exact hf
          · rw [mapping_counted e f hdata] at hf
            have hne : (f == "data") = false := beq_false_of_ne hdata
            simp only [List.lookup_cons, hne, List.lookup_nil, Option.none_or]
            exact hfields f v hf
      · rw [Function.update_of_ne hne] at hj
        rw [Redis.hset_of_ne _ _ _ _ fun hk => hne ((store.key_inj _ _).mp hk)]
        exact h.kept j e' hj

end

/-! ### What the commands find -/

section
variable {F : Type} (fold : String → String) (store : RedisVectorStore F)

/-- The index finds the value in the field of the hash: a piece that is the same when
folded, the schema's tags being without case. -/
def Finds (h : RedisHash String Bytes) (clause : TagField × String) : Prop :=
  ∃ text, h.fields clause.1.name = some (encode text) ∧ ∃ v ∈ tagPieces text, fold v = fold clause.2

/-- The document under an id matches the query made of the clauses. -/
def Matches (r : Redis String String Bytes) (id : String) (clauses : List (TagField × String)) : Prop :=
  clauses ≠ [] ∧ ∃ h, r.hashes (store.key id) = some h ∧ ∀ c ∈ clauses, Finds fold h c

/-- What `FT.SEARCH` answers to a call's query: each document that matches, once.  A query
means its clauses when their values are escaped faithfully. -/
def Answers (found : List String) (r : Redis String String Bytes) : MemoryCall F → Prop
  | .delete model systemPromptHash tag =>
    (∀ f ∈ givenFilters model systemPromptHash tag, Escapable f.2) →
      found.Nodup ∧ ∀ k, k ∈ found ↔
        ∃ id, k = store.key id ∧ store.Matches fold r id (deleteClauses model systemPromptHash tag)
  | .clear => found.Nodup ∧ ∀ k, k ∈ found ↔ ∃ id, k = store.key id ∧ (r.hashes k).isSome = true
  | _ => found = []

/-- The call is one on which the backends are alike: entries are written when they are made
and kept for some time, and their texts are one piece each; so are filters, which are
escaped faithfully, are neither empty nor the sentinel, and differ from nothing they are
compared with in case only; and what matches fits one page. -/
structure Alike (found : List String) (mem : InMemoryVectorStore F) (now : ℚ) (call : MemoryCall F) : Prop where
  written : ∀ entry, call = .upsert entry → 0 < entry.ttlSeconds ∧ entry.createdAt = now
  plain : ∀ entry, call = .upsert entry → entry.PlainTexts
  escaped : ∀ model systemPromptHash tag, call = .delete model systemPromptHash tag →
    ∀ f ∈ givenFilters model systemPromptHash tag, Escapable f.2
  filters : ∀ model systemPromptHash tag, call = .delete model systemPromptHash tag →
    ∀ f ∈ givenFilters model systemPromptHash tag, Plain f.2 ∧ f.2 ≠ "" ∧ f.2 ≠ "none"
  cased : ∀ model systemPromptHash tag, call = .delete model systemPromptHash tag → ∀ e ∈ mem.items,
    ∀ f ∈ givenFilters model systemPromptHash tag, ∀ v ∈ tagPieces (f.1.text e), fold v = fold f.2 → v = f.2
  page : found.length ≤ pageSize

theorem hashes_deleteMatching (found : List String) (hpage : found.length ≤ pageSize) (r : Redis String String Bytes)
    (k : String) : (deleteMatching found r).2.hashes k = if k ∈ found then none else r.hashes k := by
  unfold deleteMatching
  rw [List.take_of_length_le hpage]
  by_cases hnil : found = []
  · simp [hnil]
  · simp only [if_neg hnil]
    rfl

theorem now_deleteMatching (found : List String) (r : Redis String String Bytes) :
    (deleteMatching found r).2.now = r.now := by
  unfold deleteMatching
  simp only []
  split <;> rfl

variable {fold store} {l : LiveStore F} {r : Redis String String Bytes}

theorem Represents.deleteMatching (h : store.Represents l r) (p : CacheEntry F → Bool) (found : List String)
    (hpage : found.length ≤ pageSize)
    (hfound : ∀ k, k ∈ found ↔ ∃ id e, l.held id = some e ∧ p e = true ∧ k = store.key id) :
    store.Represents (l.remove p) (deleteMatching found r).2 := by
  refine ⟨(now_deleteMatching found r).trans h.now, fun id hid => ?_, fun id e hid => ?_⟩
  · rw [hashes_deleteMatching found hpage]
    split
    · rfl
    · next hnot =>
      rw [l.held_remove] at hid
      cases hheld : l.held id with
      | none => exact h.gone id hheld
      | some e =>
        rw [hheld] at hid
        have hp : p e = true := by simpa [Option.filter_some] using hid
        exact absurd ((hfound _).mpr ⟨id, e, hheld, hp, rfl⟩) hnot
  · rw [l.held_remove] at hid
    obtain ⟨hheld, hp⟩ := Option.filter_eq_some_iff.mp hid
    rw [hashes_deleteMatching found hpage, if_neg]
    · exact h.kept id e hheld
    · rw [hfound]
      rintro ⟨id', e', hheld', hp', hkey⟩
      obtain rfl := (store.key_inj _ _).mp hkey
      rw [hheld] at hheld'
      obtain rfl := Option.some.inj hheld'
      rw [hp'] at hp
      cases hp

/-- A document matches by the texts of the entry it is of. -/
theorem Represents.matches_iff (h : store.Represents l r) (id : String) (clauses : List (TagField × String)) :
    store.Matches fold r id clauses ↔
      ∃ e, l.held id = some e ∧ clauses ≠ [] ∧ ∀ c ∈ clauses, ∃ v ∈ tagPieces (c.1.text e), fold v = fold c.2 := by
  unfold Matches
  cases hheld : l.held id with
  | none => simp [h.gone id hheld]
  | some e =>
    obtain ⟨-, hash, hhash, -, hfields⟩ := h.kept id e hheld
    have hfield : ∀ field : TagField, hash.fields field.name = some (encode (field.text e)) := by
      intro field
      apply hfields
      cases field <;> rfl
    have hfinds : ∀ c : TagField × String, Finds fold hash c ↔ ∃ v ∈ tagPieces (c.1.text e), fold v = fold c.2 := by
      intro c
      unfold Finds
      rw [hfield c.1]
      constructor
      · rintro ⟨text, htext, hmem⟩
        rwa [encode_inj _ _ (Option.some.inj htext)]
      · exact fun hmem => ⟨_, rfl, hmem⟩
    simp [hhash, hfinds]

theorem flushes_delete_iff (model systemPromptHash tag : Option String) (e : CacheEntry F) :
    (MemoryCall.delete model systemPromptHash tag).flushes e = true ↔
      givenFilters model systemPromptHash tag ≠ [] ∧ ∀ f ∈ givenFilters model systemPromptHash tag, f.1.Has e f.2 := by
  rw [← matchesFilter_iff_given, ne_eq, givenFilters_eq_nil_iff]
  exact decide_eq_true_iff

/-- Of a plain entry, the index finds the filters of an alike call as they are meant. -/
theorem Alike.matches_iff {found : List String} {mem : InMemoryVectorStore F} {now : ℚ}
    {model systemPromptHash tag : Option String} (h : Alike fold found mem now (.delete model systemPromptHash tag))
    (e : CacheEntry F) (he : e ∈ mem.items) (hplain : e.PlainTexts) :
    (deleteClauses model systemPromptHash tag ≠ [] ∧
        ∀ c ∈ deleteClauses model systemPromptHash tag, ∃ v ∈ tagPieces (c.1.text e), fold v = fold c.2) ↔
      (MemoryCall.delete model systemPromptHash tag).flushes e = true := by
  have hagree := (agree_iff e (givenFilters model systemPromptHash tag)).mpr
    (agree_of_plain e _ hplain.1 hplain.2.1 hplain.2.2 (h.filters _ _ _ rfl))
  rw [flushes_delete_iff, ← hagree]
  refine and_congr_right fun _ => forall₂_congr fun c hc => ?_
  constructor
  · rintro ⟨v, hv, hfold⟩
    obtain rfl := h.cased _ _ _ rfl e he c (List.mem_of_mem_filter hc) v hv hfold
    exact hv
  · exact fun hv => ⟨c.2, hv, rfl⟩

/-- Redis finds what the call is about. -/
theorem Represents.mem_found (h : store.Represents l r) (call : MemoryCall F) (mem : InMemoryVectorStore F)
    (hmem : ∀ id e, l.held id = some e → e ∈ mem.items) (hplain : ∀ e ∈ mem.items, e.PlainTexts)
    (found : List String) (hanswers : store.Answers fold found r call) (halike : Alike fold found mem l.now call) :
    found.Nodup ∧ ∀ k, k ∈ found ↔ ∃ id e, l.held id = some e ∧ call.flushes e = true ∧ k = store.key id := by
  cases call with
  | delete model systemPromptHash tag =>
    obtain ⟨hnodup, hfound⟩ := hanswers (halike.escaped _ _ _ rfl)
    refine ⟨hnodup, fun k => ?_⟩
    rw [hfound]
    have hmatches : ∀ id, store.Matches fold r id (deleteClauses model systemPromptHash tag) ↔
        ∃ e, l.held id = some e ∧ (MemoryCall.delete model systemPromptHash tag).flushes e = true := by
      intro id
      rw [h.matches_iff]
      refine exists_congr fun e => and_congr_right fun hheld => ?_
      have he := hmem id e hheld
      exact halike.matches_iff e he (hplain e he)
    constructor
    · rintro ⟨id, rfl, hsel⟩
      obtain ⟨e, hheld, hflush⟩ := (hmatches id).mp hsel
      exact ⟨id, e, hheld, hflush, rfl⟩
    · rintro ⟨id, e, hheld, hflush, rfl⟩
      exact ⟨id, rfl, (hmatches id).mpr ⟨e, hheld, hflush⟩⟩
  | clear =>
    obtain ⟨hnodup, hfound⟩ := hanswers
    refine ⟨hnodup, fun k => ?_⟩
    rw [hfound]
    constructor
    · rintro ⟨id, rfl, hsome⟩
      cases hheld : l.held id with
      | none => rw [h.gone id hheld] at hsome; cases hsome
      | some e => exact ⟨id, e, hheld, rfl, rfl⟩
    · rintro ⟨id, e, hheld, -, rfl⟩
      obtain ⟨-, hash, hhash, -⟩ := h.kept id e hheld
      exact ⟨id, rfl, by rw [hhash]; rfl⟩
  | _ =>
    obtain rfl : found = [] := hanswers
    refine ⟨List.nodup_nil, fun k => ?_⟩
    simp [MemoryCall.flushes]

/-! ### Whole calls -/

/-- A deletion without clauses asks nothing, and there is nothing to find. -/
theorem delete_eq_deleteMatching (model systemPromptHash tag : Option String) (found : List String)
    (hnone : deleteClauses model systemPromptHash tag = [] → found = []) :
    delete model systemPromptHash tag (fun _ => found) r = RedisVectorStore.deleteMatching found r := by
  unfold delete
  rw [deleteQuery_eq]
  by_cases hclauses : deleteClauses model systemPromptHash tag = []
  · rw [if_pos hclauses, hnone hclauses]
    rfl
  · rw [if_neg hclauses]

section
variable (mem : InMemoryVectorStore F) (found : List String) (call : MemoryCall F)
  (h : store.Represents (mem.read r.now) r)
  (hcodec : ∀ e ∈ mem.items, store.codec.loads (store.codec.dumps e) = .ok e)
  (hplain : ∀ e ∈ mem.items, e.PlainTexts) (hanswers : store.Answers fold found r call)
  (halike : Alike fold found mem r.now call)
include h hcodec hplain hanswers halike

/-- **Step.**  A call keeps the two alike. -/
theorem Represents.apply :
    store.Represents ((call.apply mem).read r.now) (store.call found r call).2 := by
  have hheld : ∀ id e, (mem.read r.now).held id = some e → e ∈ mem.items :=
    fun id e hid => ((mem.held_read_iff _ id e).mp hid).1.1
  obtain ⟨-, hfound⟩ := h.mem_found call mem hheld hplain found hanswers halike
  rw [mem.read_apply r.now call]
  cases call with
  | upsert entry =>
    obtain ⟨hpos, hcreated⟩ := halike.written entry rfl
    exact h.upsert entry hpos hcreated
  | search ns v k => exact h
  | incrementHit id => exact h.incrementHit (fun j e hj => hcodec e (hheld j e hj)) id
  | delete model systemPromptHash tag =>
    have hnone : deleteClauses model systemPromptHash tag = [] → found = [] := by
      intro hclauses
      refine List.eq_nil_iff_forall_not_mem.mpr fun k hk => ?_
      obtain ⟨id, -, hsel⟩ := ((hanswers (halike.escaped _ _ _ rfl)).2 k).mp hk
      exact hsel.1 hclauses
    show store.Represents _ (delete model systemPromptHash tag (fun _ => found) r).2
    rw [delete_eq_deleteMatching model systemPromptHash tag found hnone]
    exact h.deleteMatching _ found halike.page hfound
  | clear => exact h.deleteMatching _ found halike.page hfound

omit hcodec in
/-- What Redis says it took out is what the call takes out of the memory that is not due. -/
theorem Represents.count :
    (store.call found r call).1 = (mem.items.filter fun e => r.now < e.expiry ∧ call.flushes e = true).length := by
  have hmem := mem.held_read_iff r.now
  obtain ⟨hnodup, hfound⟩ := h.mem_found call mem (fun id e hid => ((hmem id e).mp hid).1.1) hplain found
    hanswers halike
  have hkeys : found.Perm ((mem.items.filter fun e => r.now < e.expiry ∧ call.flushes e = true).map fun e =>
      store.key e.id) := by
    refine (List.perm_ext_iff_of_nodup hnodup ?_).mpr fun k => ?_
    · have hids := (mem.filter fun e => r.now < e.expiry ∧ call.flushes e = true).nodup
      have hcomp := hids.map (f := store.key) fun id id' => (store.key_inj id id').mp
      rwa [List.map_map] at hcomp
    · rw [hfound, List.mem_map]
      constructor
      · rintro ⟨id, e, hheld, hflush, rfl⟩
        obtain ⟨⟨he, rfl⟩, hlive⟩ := (hmem id e).mp hheld
        exact ⟨e, List.mem_filter.mpr ⟨he, decide_eq_true ⟨hlive, hflush⟩⟩, rfl⟩
      · rintro ⟨e, he, rfl⟩
        obtain ⟨he, hboth⟩ := List.mem_filter.mp he
        obtain ⟨hlive, hflush⟩ := of_decide_eq_true hboth
        exact ⟨e.id, e, (hmem e.id e).mpr ⟨⟨he, rfl⟩, hlive⟩, hflush, rfl⟩
  have hlength := hkeys.length_eq
  rw [List.length_map] at hlength
  rw [← hlength]
  have hpage : ∀ r : Redis String String Bytes, (RedisVectorStore.deleteMatching found r).1 = found.length := by
    intro r
    show (found.take pageSize).length = _
    rw [List.take_of_length_le halike.page]
  cases call with
  | delete model systemPromptHash tag =>
    have hnone : deleteClauses model systemPromptHash tag = [] → found = [] := by
      intro hclauses
      refine List.eq_nil_iff_forall_not_mem.mpr fun k hk => ?_
      obtain ⟨id, -, hsel⟩ := ((hanswers (halike.escaped _ _ _ rfl)).2 k).mp hk
      exact hsel.1 hclauses
    show (delete model systemPromptHash tag (fun _ => found) r).1 = _
    rw [delete_eq_deleteMatching model systemPromptHash tag found hnone]
    exact hpage r
  | clear => exact hpage r
  | _ =>
    obtain rfl : found = [] := hanswers
    rfl

end

end

end RedisVectorStore

/-! ## Side by side -/

/-- A call, when it is made, and what `FT.SEARCH` answers to it. -/
structure BackendAction (F : Type) where
  time : ℚ
  call : MemoryCall F
  found : List String := []

instance {F : Type} : Inhabited (BackendAction F) := ⟨0, .clear, []⟩

/-- The two backends, called alike. -/
structure Backends (F : Type) where
  redis : Redis String String Bytes
  memory : InMemoryVectorStore F := .new

namespace RedisVectorStore

section
variable {F : Type} {fold : String → String} (store : RedisVectorStore F)

def both (s : Backends F) (a : BackendAction F) : Option (Backends F) :=
  if s.redis.now ≤ a.time then
    some { redis := (store.call a.found (s.redis.advance a.time) a.call).2, memory := a.call.apply s.memory }
  else none

variable {store}

theorem both_eq_some_iff (s s' : Backends F) (a : BackendAction F) :
    store.both s a = some s' ↔ s.redis.now ≤ a.time ∧
      s' = { redis := (store.call a.found (s.redis.advance a.time) a.call).2, memory := a.call.apply s.memory } := by
  unfold both
  by_cases h : s.redis.now ≤ a.time
  · rw [if_pos h, Option.some.injEq]
    exact ⟨fun heq => ⟨h, heq.symm⟩, fun heq => heq.2.symm⟩
  · simp [h]

section
variable {t₀ : ℚ} (run : Run store.both { redis := { now := t₀ } })
  (hcodec : ∀ n ≤ run.len, ∀ e ∈ (run.state n).memory.items, store.codec.loads (store.codec.dumps e) = .ok e)
  (hanswers : ∀ n < run.len, store.Answers fold (run.act n).found ((run.state n).redis.advance (run.act n).time)
    (run.act n).call)
  (halike : ∀ n < run.len, Alike fold (run.act n).found (run.state n).memory (run.act n).time (run.act n).call)
include hcodec hanswers halike

omit hcodec hanswers in
/-- What was written is plain, and stays so. -/
theorem plainTexts_run : ∀ n ≤ run.len, ∀ e ∈ (run.state n).memory.items, e.PlainTexts := by
  refine run.inv _ ?_ fun n hn ih => ?_
  · rw [run.init]
    intro e he
    cases he
  · obtain ⟨-, hnext⟩ := (both_eq_some_iff _ _ _).mp (run.next n hn)
    rw [hnext]
    exact MemoryCall.plainTexts_apply _ _ ih (halike n hn).plain

/-- **Run.**  Redis represents what the memory holds that is not due. -/
theorem represents_run : ∀ n ≤ run.len,
    store.Represents ((run.state n).memory.read (run.state n).redis.now) (run.state n).redis := by
  refine run.inv _ ?_ fun n hn ih => ?_
  · rw [run.init]
    exact represents_empty t₀
  · obtain ⟨hle, hnext⟩ := (both_eq_some_iff _ _ _).mp (run.next n hn)
    have hadvanced := ih.advance (run.act n).time
    rw [(run.state n).memory.read_advance _ _ hle] at hadvanced
    have hcalled := hadvanced.apply _ _ (run.act n).call (hcodec n (by omega))
      (plainTexts_run run halike n (by omega)) (hanswers n hn) (halike n hn)
    have hnow : (store.call (run.act n).found ((run.state n).redis.advance (run.act n).time) (run.act n).call).2.now =
        ((run.state n).redis.advance (run.act n).time).now := hcalled.now
    rw [hnext]
    show store.Represents (InMemoryVectorStore.read _ (store.call _ _ _).2.now) _
    rw [hnow]
    exact hcalled

/-- **Two backends, one store.**  Called alike from the start, at every moment either has
under every id what the other has, hits counted, but for what is due; and what Redis says
a call took out is what it took out of the memory, but for what is due. -/
theorem backends_agree (n : ℕ) (hn : n ≤ run.len) :
    (∀ id, store.get id (run.state n).redis =
      .ok (((run.state n).memory.get id).filter fun e => (run.state n).redis.now < e.expiry)) ∧
    (n < run.len →
      (store.call (run.act n).found ((run.state n).redis.advance (run.act n).time) (run.act n).call).1 =
        ((run.state n).memory.items.filter fun e =>
          (run.act n).time < e.expiry ∧ (run.act n).call.flushes e = true).length) := by
  have hrep := represents_run run hcodec hanswers halike n hn
  constructor
  · exact hrep.get fun id e hid => hcodec n hn e (((run.state n).memory.held_read_iff _ id e).mp hid).1.1
  · intro hlt
    obtain ⟨hle, -⟩ := (both_eq_some_iff _ _ _).mp (run.next n hlt)
    have hadvanced := hrep.advance (run.act n).time
    rw [(run.state n).memory.read_advance _ _ hle] at hadvanced
    exact hadvanced.count _ _ (run.act n).call (plainTexts_run run halike n hn) (hanswers n hlt) (halike n hlt)

end

end

/-! ## A run of both -/

/-- Letters of ASCII, as RediSearch folds them. -/
def asciiFold (s : String) : String := String.ofList (s.toList.map Char.toLower)

/-- An entry with a tag. -/
def taggedEntry : CacheEntry ℚ := { storedEntry with tags := ["faq"] }

def taggedStore : RedisVectorStore ℚ where
  codec := .ofEntries [taggedEntry, taggedEntry.counted]

/-- Written, and hit a second later. -/
def taggedHit : List (BackendAction ℚ) := [
  ⟨1700000000, .upsert taggedEntry, []⟩,
  ⟨1700000001, .incrementHit taggedEntry.id, []⟩]

/-- And deleted by its tag. -/
def taggedFlush : List (BackendAction ℚ) :=
  taggedHit ++ [⟨1700000030, .delete none none (some "faq"), [taggedStore.key taggedEntry.id]⟩]

def taggedStart : Backends ℚ := { redis := { now := 1700000000 } }

theorem taggedHit_exec : (Run.exec taggedStore.both taggedStart taggedHit).isSome := by decide +kernel

theorem taggedFlush_exec : (Run.exec taggedStore.both taggedStart taggedFlush).isSome := by decide +kernel

def taggedHitRun : Run taggedStore.both taggedStart :=
  .ofExec _ _ _ taggedHit (Option.some_get taggedHit_exec).symm

def taggedFlushRun : Run taggedStore.both taggedStart :=
  .ofExec _ _ _ taggedFlush (Option.some_get taggedFlush_exec).symm

theorem taggedCodec (e : CacheEntry ℚ) (he : e = taggedEntry ∨ e = taggedEntry.counted) :
    taggedStore.codec.loads (taggedStore.codec.dumps e) = .ok e := by
  refine EntryCodec.ofEntries_loads_dumps _ (by decide +kernel) e ?_
  simpa using he

theorem taggedFlushRun_empty : (taggedFlushRun.state 3).memory.items = [] :=
  List.eq_nil_of_length_eq_zero (by decide +kernel)

theorem taggedFlushRun_get : (taggedFlushRun.state 2).memory.get taggedEntry.id = some taggedEntry.counted :=
  ((taggedFlushRun.state 2).memory.find?_eq_some_iff _ _).mpr ⟨List.mem_singleton_self _, rfl⟩

theorem taggedFlushRun_items (n : ℕ) (hn : n ≤ 3) (e : CacheEntry ℚ)
    (he : e ∈ (taggedFlushRun.state n).memory.items) : e = taggedEntry ∨ e = taggedEntry.counted := by
  obtain rfl | rfl | rfl | rfl : n = 0 ∨ n = 1 ∨ n = 2 ∨ n = 3 := by omega
  · cases he
  · exact Or.inl (List.mem_singleton.mp he)
  · exact Or.inr (List.mem_singleton.mp he)
  · rw [taggedFlushRun_empty] at he
    cases he

theorem taggedUpsert_alike (mem : InMemoryVectorStore ℚ) :
    Alike asciiFold [] mem 1700000000 (.upsert taggedEntry) where
  written entry h := by
    obtain rfl := MemoryCall.upsert.inj h
    exact ⟨by decide, rfl⟩
  plain entry h := by
    obtain rfl := MemoryCall.upsert.inj h
    exact ⟨by decide +kernel, by decide +kernel, by decide +kernel⟩
  escaped _ _ _ h := by cases h
  filters _ _ _ h := by cases h
  cased _ _ _ h := by cases h
  page := Nat.zero_le _

theorem taggedHit_alike (mem : InMemoryVectorStore ℚ) (now : ℚ) :
    Alike asciiFold [] mem now (.incrementHit taggedEntry.id) where
  written _ h := by cases h
  plain _ h := by cases h
  escaped _ _ _ h := by cases h
  filters _ _ _ h := by cases h
  cased _ _ _ h := by cases h
  page := Nat.zero_le _

theorem taggedHitRun_represents :
    taggedStore.Represents ((taggedFlushRun.state 2).memory.read 1700000030)
      ((taggedFlushRun.state 2).redis.advance 1700000030) := by
  have hcodec : ∀ n ≤ 2, ∀ e ∈ (taggedHitRun.state n).memory.items,
      taggedStore.codec.loads (taggedStore.codec.dumps e) = .ok e := by
    intro n hn e he
    apply taggedCodec
    obtain rfl | rfl | rfl : n = 0 ∨ n = 1 ∨ n = 2 := by omega
    · cases he
    · exact Or.inl (List.mem_singleton.mp he)
    · exact Or.inr (List.mem_singleton.mp he)
  have hanswers : ∀ n < 2, taggedStore.Answers asciiFold (taggedHitRun.act n).found
      ((taggedHitRun.state n).redis.advance (taggedHitRun.act n).time) (taggedHitRun.act n).call := by
    intro n hn
    obtain rfl | rfl : n = 0 ∨ n = 1 := by omega
    · rfl
    · rfl
  have halike : ∀ n < 2, Alike asciiFold (taggedHitRun.act n).found (taggedHitRun.state n).memory
      (taggedHitRun.act n).time (taggedHitRun.act n).call := by
    intro n hn
    obtain rfl | rfl : n = 0 ∨ n = 1 := by omega
    · exact taggedUpsert_alike _
    · exact taggedHit_alike _ _
  have hrep := (represents_run taggedHitRun hcodec hanswers halike 2 le_rfl).advance 1700000030
  rw [InMemoryVectorStore.read_advance _ _ _ (by decide +kernel)] at hrep
  exact hrep

/-- The entry is found by its tag, and one is out. -/
theorem backends_agree_tagged :
    taggedStore.get taggedEntry.id (taggedFlushRun.state 2).redis = .ok (some taggedEntry.counted) ∧
      (taggedStore.call [taggedStore.key taggedEntry.id] ((taggedFlushRun.state 2).redis.advance 1700000030)
        (.delete none none (some "faq"))).1 = 1 ∧
      taggedStore.get taggedEntry.id (taggedFlushRun.state 3).redis = .ok none := by
  have hanswers : ∀ n < 3, taggedStore.Answers asciiFold (taggedFlushRun.act n).found
      ((taggedFlushRun.state n).redis.advance (taggedFlushRun.act n).time) (taggedFlushRun.act n).call := by
    intro n hn
    obtain rfl | rfl | rfl : n = 0 ∨ n = 1 ∨ n = 2 := by omega
    · rfl
    · rfl
    · intro _
      refine ⟨List.nodup_singleton _, fun k => ?_⟩
      constructor
      · intro hk
        refine ⟨taggedEntry.id, List.mem_singleton.mp hk, (taggedHitRun_represents.matches_iff _ _).mpr
          ⟨taggedEntry.counted, ?_, by decide, by decide +kernel⟩⟩
        exact ((taggedFlushRun.state 2).memory.held_read_iff _ _ _).mpr
          ⟨⟨List.mem_singleton_self _, rfl⟩, by decide +kernel⟩
      · rintro ⟨id, rfl, hsel⟩
        obtain ⟨e, hheld, -⟩ := (taggedHitRun_represents.matches_iff _ _).mp hsel
        obtain ⟨⟨hmem, rfl⟩, -⟩ := ((taggedFlushRun.state 2).memory.held_read_iff _ id e).mp hheld
        obtain rfl : e = taggedEntry.counted := List.mem_singleton.mp hmem
        exact List.mem_singleton_self _
  have halike : ∀ n < 3, Alike asciiFold (taggedFlushRun.act n).found (taggedFlushRun.state n).memory
      (taggedFlushRun.act n).time (taggedFlushRun.act n).call := by
    intro n hn
    obtain rfl | rfl | rfl : n = 0 ∨ n = 1 ∨ n = 2 := by omega
    · exact taggedUpsert_alike _
    · exact taggedHit_alike _ _
    · have hgiven : ∀ m p tag, MemoryCall.delete (F := ℚ) none none (some "faq") = .delete m p tag →
          givenFilters m p tag = [(.tags, "faq")] := by
        intro m p tag h
        obtain ⟨rfl, rfl, rfl⟩ := MemoryCall.delete.inj h
        rfl
      refine ⟨fun _ h => (nomatch h), fun _ h => (nomatch h), fun m p tag h f hf => ?_, fun m p tag h f hf => ?_,
        fun m p tag h e he f hf => ?_, ?_⟩
      · rw [hgiven m p tag h, List.mem_singleton] at hf
        rw [hf]
        intro c hc hspecial
        replace hc : c ∈ ['f', 'a', 'q'] := hc
        simp only [List.mem_cons, List.not_mem_nil, or_false] at hc
        obtain rfl | rfl | rfl := hc <;> cases hspecial
      · rw [hgiven m p tag h, List.mem_singleton] at hf
        rw [hf]
        exact ⟨by decide +kernel, by decide, by decide⟩
      · rw [hgiven m p tag h, List.mem_singleton] at hf
        rw [hf]
        obtain rfl : e = taggedEntry.counted := List.mem_singleton.mp he
        decide +kernel
      · show 1 ≤ 10000
        omega
  have hcodec : ∀ n ≤ 3, ∀ e ∈ (taggedFlushRun.state n).memory.items,
      taggedStore.codec.loads (taggedStore.codec.dumps e) = .ok e :=
    fun n hn e he => taggedCodec e (taggedFlushRun_items n hn e he)
  obtain ⟨hhit, hout⟩ := backends_agree taggedFlushRun hcodec hanswers halike 2 (by decide)
  obtain ⟨hgone, -⟩ := backends_agree taggedFlushRun hcodec hanswers halike 3 le_rfl
  refine ⟨(hhit _).trans ?_, (hout (by decide)).trans ?_, (hgone _).trans ?_⟩
  · rw [taggedFlushRun_get]
    exact congrArg Except.ok (Option.filter_some_pos (by decide +kernel))
  · decide +kernel
  · have hnone : (taggedFlushRun.state 3).memory.get taggedEntry.id = none := by
      unfold InMemoryVectorStore.get Keyed.find?
      rw [taggedFlushRun_empty]
      rfl
    rw [hnone]
    rfl

end RedisVectorStore

end CachingLayer
