import CachingLayer.Cache.RedisStore

/-!
# Counting hits in Redis

`increment_hit` reads the record in one command and writes it back in another.  Of the
lookups that hit one live entry, none is lost exactly when no `HGET` falls between another
call's `HGET` and `HSET` (`hits_counted_iff`).
-/

namespace CachingLayer

open Text

namespace StoreCall

variable {F : Type}

/-- An `increment_hit` of `id`. -/
def counting (id : String) : StoreCall F → Bool
  | getting entryId => entryId = id
  | setting entryId _ => entryId = id
  | _ => false

end StoreCall

/-- Changing one value changes the number of those that satisfy `p` by that value. -/
theorem ncard_update {α : Type} (p : α → Bool) (f : Nat → α) (k : Nat) (x : α) (hfin : {c | p (f c)}.Finite) :
    {c | p (Function.update f k x c)}.Finite ∧
      {c | p (Function.update f k x c)}.ncard + (p (f k)).toNat = {c | p (f c)}.ncard + (p x).toNat := by
  have hrest : ({c | p (f c)} \ {k} : Set Nat).Finite := hfin.sdiff
  have hcard : ({c | p (f c)} \ {k} : Set Nat).ncard + (p (f k)).toNat = {c | p (f c)}.ncard := by
    cases hk : p (f k) with
    | true => exact Set.ncard_sdiff_singleton_add_one (show k ∈ {c | p (f c)} from hk) hfin
    | false =>
      rw [Set.sdiff_singleton_eq_self (fun h : k ∈ {c | p (f c)} => by simp [hk] at h)]
      rfl
  cases hx : p x with
  | true =>
    have hset : {c | p (Function.update f k x c)} = insert k ({c | p (f c)} \ {k}) := by
      ext c
      by_cases hc : c = k
      · subst hc; simp [hx]
      · simp [hc]
    rw [hset, Set.ncard_insert_of_notMem (by simp) hrest]
    exact ⟨hrest.insert k, by simp only [Bool.toNat_true]; omega⟩
  | false =>
    have hset : {c | p (Function.update f k x c)} = {c | p (f c)} \ {k} := by
      ext c
      by_cases hc : c = k
      · subst hc; simp [hx]
      · simp [hc]
    rw [hset]
    exact ⟨hrest, by simp only [Bool.toNat_false]; omega⟩

namespace RedisVectorStore

section
variable {F : Type}

/-- An `increment_hit` of `id` is in progress. -/
def Pending (s : StoreState F) (client : Nat) (id : String) : Prop :=
  (s.calls client).any (·.counting id) = true

/-- It has read the entry, and is to write it. -/
def Holds (s : StoreState F) (client : Nat) (id : String) : Prop :=
  ∃ entry, s.calls client = some (.setting id entry)

theorem Holds.pending {s : StoreState F} {client : Nat} {id : String} (h : Holds s client id) :
    Pending s client id := by
  obtain ⟨entry, hc⟩ := h
  simp [Pending, hc, StoreCall.counting]

/-- The step is the `HSET` of an upsert of `id`. -/
def upserts (s : StoreState F) (a : StoreAction F) (id : String) : Bool :=
  match a with
  | .command client _ =>
    match s.calls client with
    | some (.upserting entry) => entry.id = id
    | _ => false
  | _ => false

/-- The step breaks off an `increment_hit` of `id`. -/
def breaksOff (s : StoreState F) (a : StoreAction F) (id : String) : Bool :=
  match a with
  | .stop client => (s.calls client).any (·.counting id)
  | _ => false

/-- The step is the `HSET` of an `increment_hit` of `id`. -/
def counts (s : StoreState F) (a : StoreAction F) (id : String) : Bool :=
  match a with
  | .command client _ =>
    match s.calls client with
    | some (.setting entryId _) => entryId = id
    | _ => false
  | _ => false

theorem counts_iff (s : StoreState F) (a : StoreAction F) (id : String) :
    counts s a id = true ↔
      ∃ client docs entry, a = .command client docs ∧ s.calls client = some (.setting id entry) := by
  constructor
  · intro h
    unfold counts at h
    split at h
    · next client docs =>
      split at h
      · next entryId entry hc =>
        obtain rfl : entryId = id := by simpa using h
        exact ⟨client, docs, entry, rfl, hc⟩
      · cases h
    · cases h
  · rintro ⟨client, docs, entry, rfl, hc⟩
    simp [counts, hc]

end

section
variable {F : Type} [Field F] [LinearOrder F] (store : RedisVectorStore F) (cache : SemanticCache F)

/-- The entry under `id` as `get` reads it. -/
def stored (s : StoreState F) (id : String) : Option (CacheEntry F) :=
  (s.redis.hget (store.key id) "data").bind fun raw => (store.codec.loads raw).toOption

/-- A lookup hits `id`, in the step: an `increment_hit` of it begins. -/
def hits (s : StoreState F) (a : StoreAction F) (id : String) : Bool :=
  match a with
  | .start _ request => (start cache request).any (·.counting id)
  | .command client docs =>
    (s.calls client).any fun call => !call.counting id && (store.run cache docs s.redis call).2.any (·.counting id)
  | _ => false

/-- What a command does to the hits that are counted and pending. -/
theorem counting_run (s : StoreState F) (docs : List (SearchDoc F)) (id : String)
    (hstored : (store.stored s id).isSome) (client : Nat) (call : StoreCall F) (hc : s.calls client = some call) :
    (counts s (.command client docs) id).toNat +
        ((store.run cache docs s.redis call).2.any (·.counting id)).toNat =
      (call.counting id).toNat + (store.hits cache s (.command client docs) id).toNat := by
  have hhits : store.hits cache s (.command client docs) id =
      (!call.counting id && (store.run cache docs s.redis call).2.any (·.counting id)) := by
    simp [hits, hc]
  rw [hhits]
  cases call with
  | setting entryId entry => simp [counts, hc, run, StoreCall.counting]
  | getting entryId =>
    have hcounts : counts s (.command client docs) id = false := by simp [counts, hc]
    rw [hcounts]
    by_cases hid : entryId = id
    · -- the entry is there, so the call goes on to its `HSET`
      subst hid
      unfold stored at hstored
      cases hraw : s.redis.hget (store.key entryId) "data" with
      | none => rw [hraw] at hstored; cases hstored
      | some raw =>
        rw [hraw] at hstored
        cases hread : store.codec.loads raw with
        | error e => simp [hread, Except.toOption] at hstored
        | ok read => simp [run, hraw, hread, StoreCall.counting]
    · have hnext : (store.run cache docs s.redis (.getting entryId)).2.any (·.counting id) = false := by
        cases hnext : (store.run cache docs s.redis (.getting entryId)).2 with
        | none => rfl
        | some next =>
          simp only [run] at hnext
          split at hnext
          · cases hnext
          · split at hnext
            · cases hnext
            · obtain rfl := Option.some.inj hnext
              simpa [StoreCall.counting] using hid
      rw [hnext]
      simp [StoreCall.counting, hid]
  | _ => simp [counts, hc, StoreCall.counting]

section
variable (s s' : StoreState F) (a : StoreAction F) (h : store.step cache s a = some s') (id : String)
include h

/-- Every hit is counted or pending. -/
theorem pending_step (hstored : (store.stored s id).isSome)
    (hstop : breaksOff s a id = false) (hfin : {c | Pending s c id}.Finite) :
    {c | Pending s' c id}.Finite ∧
      {c | Pending s' c id}.ncard + (counts s a id).toNat =
        {c | Pending s c id}.ncard + (store.hits cache s a id).toNat := by
  have hupdate := fun client => ncard_update (fun o : Option (StoreCall F) => o.any (·.counting id)) s.calls client
  rcases store.step_cases cache s s' a h with ⟨now, rfl, -, rfl⟩ | ⟨client, request, rfl, hnone, rfl⟩ |
    ⟨client, docs, call, rfl, hc, rfl⟩ | ⟨client, rfl, rfl⟩
  · exact ⟨hfin, rfl⟩
  · obtain ⟨hfin', hcard⟩ := hupdate client (start cache request) hfin
    refine ⟨hfin', ?_⟩
    simp only [hnone, Option.any_none, Bool.toNat_false] at hcard
    exact hcard
  · obtain ⟨hfin', hcard⟩ := hupdate client (store.run cache docs s.redis call).2 hfin
    have hcount := store.counting_run cache s docs id hstored client call hc
    simp only [hc, Option.any_some] at hcard
    refine ⟨hfin', ?_⟩
    show Set.ncard {c | (Function.update s.calls client (store.run cache docs s.redis call).2 c).any _ = true} + _ =
      Set.ncard {c | (s.calls c).any _ = true} + _
    omega
  · obtain ⟨hfin', hcard⟩ := hupdate client none hfin
    have hfalse : (s.calls client).any (·.counting id) = false := hstop
    rw [hfalse] at hcard
    exact ⟨hfin', hcard⟩

/-- The entry stored is as before, or has just been written by an `increment_hit`. -/
theorem stored_step (hlive : (s'.redis.hashes (store.key id)).isSome)
    (hupsert : upserts s a id = false) :
    (counts s a id = false ∧ store.stored s' id = store.stored s id) ∨
      ∃ client docs entry, a = .command client docs ∧ s.calls client = some (.setting id entry) ∧
        counts s a id = true ∧ store.stored s' id = (store.codec.loads (store.codec.dumps entry)).toOption := by
  cases hcounts : counts s a id with
  | true =>
    right
    obtain ⟨client, docs, entry, rfl, hc⟩ := (counts_iff s a id).mp hcounts
    refine ⟨client, docs, entry, rfl, hc, rfl, ?_⟩
    unfold stored
    rw [(store.step_command cache s s' client docs _ h hc).1]
    simp only [run, Redis.hget_hset, Option.bind_some]
  | false =>
    left
    refine ⟨rfl, ?_⟩
    obtain ⟨hash, hhash⟩ := Option.isSome_iff_exists.mp hlive
    have hfields : ∃ h₀, s.redis.hashes (store.key id) = some h₀ ∧ hash.fields = h₀.fields := by
      rcases store.step_hash cache s s' a h _ hash hhash with hold | ⟨client, docs, call, rfl, hc, hwrites⟩
      · exact ⟨hash, hold, rfl⟩
      · rcases hwrites with ⟨entry, rfl, hkey, -⟩ | ⟨entry, h₀, rfl, -, hh₀, rfl⟩ | ⟨entryId, entry, rfl, hkey, -⟩
        · have hid := (store.key_inj _ _).mp hkey
          simp [upserts, hc, hid] at hupsert
        · exact ⟨h₀, hh₀, rfl⟩
        · obtain rfl := (store.key_inj _ _).mp hkey
          rw [(counts_iff s _ id).mpr ⟨client, docs, entry, rfl, hc⟩] at hcounts
          cases hcounts
    obtain ⟨h₀, hh₀, hfields⟩ := hfields
    unfold stored Redis.hget
    rw [hhash, hh₀, Option.bind_some, Option.bind_some, hfields]

/-- Who holds the entry after a step held it before, or has just read it. -/
theorem held_step (client : Nat) (entry : CacheEntry F) (hc : s'.calls client = some (.setting id entry)) :
    (s.calls client = some (.setting id entry) ∧ ∀ docs, a ≠ .command client docs) ∨
      ∃ docs read, a = .command client docs ∧ s.calls client = some (.getting id) ∧ store.stored s id = some read ∧
        entry = { read with hitCount := read.hitCount + 1 } := by
  rcases store.step_call cache s s' a h client _ hc with hold | ⟨request, rfl, hstart⟩ |
    ⟨docs, before, rfl, hbefore, hrun⟩
  · refine Or.inl ⟨hold, ?_⟩
    rintro docs rfl
    rw [(store.step_command cache s s' client docs _ h hold).2, Function.update_self] at hc
    cases hc
  · cases request <;> simp [start] at hstart
  · obtain ⟨rfl, raw, read, hraw, hread, rfl⟩ := store.run_setting cache docs _ before id entry hrun
    refine Or.inr ⟨docs, read, rfl, hbefore, ?_, rfl⟩
    unfold stored
    rw [hraw, Option.bind_some, hread]
    rfl

end

/-! ## The count -/

/-- `total` hits are counted of `entry`, `c` by the record.  Who holds the record may be
behind, and is when the record has moved on. -/
structure Tally (s : StoreState F) (id : String) (entry : CacheEntry F) (total c : Nat) : Prop where
  stored : store.stored s id = some { entry with hitCount := c }
  le : c ≤ total
  held : ∀ client e, s.calls client = some (.setting id e) →
    ∃ x, e = { entry with hitCount := x + 1 } ∧ (x = c ∨ x < total)

/-- Nothing is lost: the record is right, and at most one call holds it. -/
def Exact (s : StoreState F) (id : String) (total c : Nat) : Prop :=
  c = total ∧ ∀ client e, s.calls client = some (.setting id e) →
    e.hitCount = c + 1 ∧ ∀ other, Holds s other id → other = client

/-- Something is lost, or will be. -/
def Lossy (s : StoreState F) (id : String) (total c : Nat) : Prop :=
  c < total ∨ (∃ client e, s.calls client = some (.setting id e) ∧ e.hitCount ≤ total) ∨
    ∃ client other, client ≠ other ∧ Holds s client id ∧ Holds s other id

/-- The step is an `HGET` while another call holds the entry. -/
def Overlaps (s : StoreState F) (a : StoreAction F) (id : String) : Prop :=
  ∃ client docs, a = .command client docs ∧ s.calls client = some (.getting id) ∧ ∃ other, Holds s other id

section
variable (s s' : StoreState F) (a : StoreAction F) (h : store.step cache s a = some s') (id : String)
  (entry : CacheEntry F) (total c : Nat) (hT : store.Tally s id entry total c)
include h hT

/-- One step either counts no hit, or counts one more than its call has read. -/
theorem tally_step (hlive : (s'.redis.hashes (store.key id)).isSome) (hupsert : upserts s a id = false)
    (hcodec : counts s a id = true → ∀ n ≤ total + 1,
      store.codec.loads (store.codec.dumps { entry with hitCount := n }) = .ok { entry with hitCount := n }) :
    (counts s a id = false ∧ store.Tally s' id entry total c) ∨
      ∃ client docs x, a = .command client docs ∧
        s.calls client = some (.setting id { entry with hitCount := x + 1 }) ∧ counts s a id = true ∧
        (x = c ∨ x < total) ∧ store.Tally s' id entry (total + 1) (x + 1) := by
  have hle := hT.le
  rcases store.stored_step cache s s' a h id hlive hupsert with ⟨hcounts, hstored⟩ |
    ⟨client, docs, e, rfl, hc, hcounts, hstored⟩
  · refine Or.inl ⟨hcounts, ⟨hstored.trans hT.stored, hle, fun client e hc => ?_⟩⟩
    rcases store.held_step cache s s' a h id client e hc with ⟨hold, -⟩ | ⟨docs, read, -, -, hread, rfl⟩
    · exact hT.held client e hold
    · rw [hT.stored] at hread
      obtain rfl := Option.some.inj hread
      exact ⟨c, rfl, Or.inl rfl⟩
  · obtain ⟨x, rfl, hx⟩ := hT.held client e hc
    have hread := hcodec hcounts (x + 1) (by omega)
    refine Or.inr ⟨client, docs, x, rfl, hc, hcounts, hx, ⟨by rw [hstored, hread]; rfl, by omega, ?_⟩⟩
    intro other e hother
    rcases store.held_step cache s s' _ h id other e hother with ⟨hold, -⟩ | ⟨docs', read, hact, hget, -, -⟩
    · obtain ⟨y, rfl, hy⟩ := hT.held other e hold
      exact ⟨y, rfl, Or.inr (by omega)⟩
    · obtain ⟨rfl, -⟩ := StoreAction.command.inj hact
      rw [hc] at hget
      cases hget

omit hT in
theorem holds_step (other : Nat) (hother : Holds s' other id) :
    Holds s other id ∨ ∃ docs, a = .command other docs ∧ s.calls other = some (.getting id) := by
  obtain ⟨e, he⟩ := hother
  rcases store.held_step cache s s' a h id other e he with ⟨hold, -⟩ | ⟨docs, read, hact, hget, -⟩
  · exact Or.inl ⟨e, hold⟩
  · exact Or.inr ⟨docs, hact, hget⟩

/-- Without overlap nothing gets lost: neither by a step that counts no hit … -/
theorem exact_step (hserial : ¬ Overlaps s a id) (hexact : Exact s id total c) : Exact s' id total c := by
  refine ⟨hexact.1, fun client e hc => ?_⟩
  rcases store.held_step cache s s' a h id client e hc with ⟨hold, hne⟩ | ⟨docs, read, hact, hget, hread, rfl⟩
  · obtain ⟨hcount, honly⟩ := hexact.2 client e hold
    refine ⟨hcount, fun other hother => ?_⟩
    rcases store.holds_step cache s s' a h id other hother with hold' | ⟨docs, hact, hget⟩
    · exact honly other hold'
    · exact absurd ⟨other, docs, hact, hget, client, e, hold⟩ hserial
  · rw [hT.stored] at hread
    obtain rfl := Option.some.inj hread
    refine ⟨rfl, fun other hother => ?_⟩
    rcases store.holds_step cache s s' a h id other hother with hold' | ⟨docs', hact', -⟩
    · exact absurd ⟨client, docs, hact, hget, other, hold'⟩ hserial
    · rw [hact] at hact'
      exact (StoreAction.command.inj hact').1.symm

omit hT in
/-- … nor by one that counts a hit. -/
theorem exact_counts (client : Nat) (docs : List (SearchDoc F)) (x : Nat) (hact : a = .command client docs)
    (hc : s.calls client = some (.setting id { entry with hitCount := x + 1 })) (hexact : Exact s id total c) :
    Exact s' id (total + 1) (x + 1) := by
  obtain ⟨htotal, hall⟩ := hexact
  obtain ⟨hcount, honly⟩ := hall client _ hc
  have hx : x + 1 = c + 1 := hcount
  refine ⟨by omega, fun other e hother => ?_⟩
  rcases store.held_step cache s s' a h id other e hother with ⟨hold, hne⟩ | ⟨docs', read, hact', hget, -⟩
  · obtain rfl := honly other ⟨e, hold⟩
    exact absurd hact (hne docs)
  · rw [hact] at hact'
    obtain ⟨rfl, -⟩ := StoreAction.command.inj hact'
    rw [hc] at hget
    cases hget

omit hT in
/-- A loss stays one: through a step that counts no hit … -/
theorem lossy_step (hcounts : counts s a id = false) (hstop : breaksOff s a id = false)
    (hlossy : Lossy s id total c) : Lossy s' id total c := by
  have hstays : ∀ client e, s.calls client = some (.setting id e) → s'.calls client = some (.setting id e) := by
    intro client e hc
    refine store.step_call_stays cache s s' a h client _ hc ?_ ?_
    · rintro docs rfl
      rw [(counts_iff s _ id).mpr ⟨client, docs, e, rfl, hc⟩] at hcounts
      cases hcounts
    · rintro rfl
      simp [breaksOff, hc, StoreCall.counting] at hstop
  rcases hlossy with hlt | ⟨client, e, hc, hle⟩ | ⟨client, other, hne, ⟨e, he⟩, e', he'⟩
  · exact Or.inl hlt
  · exact Or.inr (Or.inl ⟨client, e, hstays client e hc, hle⟩)
  · exact Or.inr (Or.inr ⟨client, other, hne, ⟨e, hstays client e he⟩, e', hstays other e' he'⟩)

/-- … and through one that counts a hit. -/
theorem lossy_counts (client : Nat) (docs : List (SearchDoc F)) (x : Nat) (hact : a = .command client docs)
    (hc : s.calls client = some (.setting id { entry with hitCount := x + 1 })) (hx : x = c ∨ x < total)
    (hlossy : Lossy s id total c) : Lossy s' id (total + 1) (x + 1) := by
  have hother : ∀ other, other ≠ client → Holds s other id → Lossy s' id (total + 1) (x + 1) := by
    rintro other hne ⟨e, he⟩
    obtain ⟨y, rfl, hy⟩ := hT.held other e he
    have hle := hT.le
    refine Or.inr (Or.inl ⟨other, _, store.step_call_stays cache s s' a h other _ he ?_ ?_, ?_⟩)
    · rintro docs' rfl
      exact hne (StoreAction.command.inj hact).1
    · rw [hact]
      exact fun h => by cases h
    · show y + 1 ≤ total + 1
      omega
  rcases hlossy with hlt | ⟨other, e, he, hle⟩ | ⟨other, other', hne, hholds, hholds'⟩
  · exact Or.inl (by omega)
  · by_cases hne : other = client
    · subst hne
      rw [hc] at he
      obtain rfl := (StoreCall.setting.inj (Option.some.inj he)).2
      have hle' : x + 1 ≤ total := hle
      exact Or.inl (by omega)
    · exact hother other hne ⟨e, he⟩
  · by_cases heq : other = client
    · exact hother other' (by rintro rfl; exact hne heq) hholds'
    · exact hother other heq hholds

/-- Overlap loses a hit. -/
theorem lossy_of_overlaps (hoverlap : Overlaps s a id) : Lossy s' id total c := by
  obtain ⟨client, docs, rfl, hget, other, e, he⟩ := hoverlap
  have hne : client ≠ other := by
    rintro rfl
    rw [hget] at he
    cases he
  refine Or.inr (Or.inr ⟨client, other, hne, ?_, e, ?_⟩)
  · have hstored := hT.stored
    unfold stored at hstored
    cases hraw : s.redis.hget (store.key id) "data" with
    | none => rw [hraw] at hstored; cases hstored
    | some raw =>
      rw [hraw] at hstored
      cases hread : store.codec.loads raw with
      | error err => simp [hread, Except.toOption] at hstored
      | ok read =>
        refine ⟨{ read with hitCount := read.hitCount + 1 }, ?_⟩
        rw [(store.step_command cache s s' client docs _ h hget).2, Function.update_self]
        simp only [run, hraw, hread]
  · refine store.step_call_stays cache s s' _ h other _ he ?_ ?_
    · exact fun docs' hact => hne (StoreAction.command.inj hact).1
    · exact fun hact => by cases hact

end

end

/-! ## Runs -/

section
variable {F : Type} [Field F] [LinearOrder F] {store : RedisVectorStore F} {cache : SemanticCache F}
  {s₀ : StoreState F} (run : Run (store.step cache) s₀) (id : String)

/-- The hits on the entry from step `i` on, before step `m`. -/
def hitsFrom (i m : Nat) : Nat :=
  Nat.count (fun n => i ≤ n ∧ store.hits cache (run.state n) (run.act n) id = true) m

/-- Those of them counted. -/
def countedFrom (i m : Nat) : Nat :=
  Nat.count (fun n => i ≤ n ∧ counts (run.state n) (run.act n) id = true) m

/-- From state `i` to state `j` the entry is there and not written anew; no
`increment_hit` of it is in progress at either end, and none is broken off. -/
structure LiveBetween (i j : Nat) : Prop where
  order : i ≤ j
  len : j ≤ run.len
  live : ∀ m, i ≤ m → m ≤ j → ((run.state m).redis.hashes (store.key id)).isSome
  fresh : ∀ m, i ≤ m → m < j → upserts (run.state m) (run.act m) id = false
  unbroken : ∀ m, i ≤ m → m < j → breaksOff (run.state m) (run.act m) id = false
  start : ∀ client, ¬ Pending (run.state i) client id
  finish : ∀ client, ¬ Pending (run.state j) client id

theorem countFrom_self (P : Nat → Bool) (i : Nat) : Nat.count (fun n => i ≤ n ∧ P n = true) i = 0 := by
  rw [Nat.count_iff_forall_not]
  rintro n hn ⟨hin, -⟩
  omega

theorem countFrom_succ (P : Nat → Bool) (i m : Nat) (him : i ≤ m) :
    Nat.count (fun n => i ≤ n ∧ P n = true) (m + 1) = Nat.count (fun n => i ≤ n ∧ P n = true) m + (P m).toNat := by
  rw [Nat.count_succ]
  cases P m <;> simp [him]

/-- The record agrees with the hits counted, and every hit is counted or pending. -/
structure Accounted (entry : CacheEntry F) (i m c : Nat) : Prop where
  tally : store.Tally (run.state m) id entry (entry.hitCount + countedFrom run id i m) c
  finite : {client | Pending (run.state m) client id}.Finite
  hits : hitsFrom run id i m = countedFrom run id i m + {client | Pending (run.state m) client id}.ncard

section
variable (i j : Nat) (hlive : LiveBetween run id i j) (entry : CacheEntry F)
  (hcodec : ∀ n ≤ entry.hitCount + hitsFrom run id i j,
    store.codec.loads (store.codec.dumps { entry with hitCount := n }) = .ok { entry with hitCount := n })
include hlive hcodec

theorem accounted_step (m c : Nat) (him : i ≤ m) (hmj : m < j) (hacc : Accounted run id entry i m c) :
    (counts (run.state m) (run.act m) id = false ∧ countedFrom run id i (m + 1) = countedFrom run id i m ∧
      Accounted run id entry i (m + 1) c) ∨
    ∃ client docs x, run.act m = .command client docs ∧
      (run.state m).calls client = some (.setting id { entry with hitCount := x + 1 }) ∧
      (x = c ∨ x < entry.hitCount + countedFrom run id i m) ∧
      countedFrom run id i (m + 1) = countedFrom run id i m + 1 ∧ Accounted run id entry i (m + 1) (x + 1) := by
  have hnext := run.next m (by have := hlive.len; omega)
  have hhits : hitsFrom run id i (m + 1) = hitsFrom run id i m +
      (store.hits cache (run.state m) (run.act m) id).toNat := countFrom_succ _ i m him
  have hcounted : countedFrom run id i (m + 1) = countedFrom run id i m +
      (counts (run.state m) (run.act m) id).toNat := countFrom_succ _ i m him
  have hmono : hitsFrom run id i (m + 1) ≤ hitsFrom run id i j := Nat.count_monotone _ (by omega)
  have hstored : (store.stored (run.state m) id).isSome := by rw [hacc.tally.stored]; rfl
  obtain ⟨hfin, hcard⟩ := store.pending_step cache _ _ _ hnext id hstored (hlive.unbroken m him hmj) hacc.finite
  have hpending := hacc.hits
  have hcodec' : counts (run.state m) (run.act m) id = true →
      ∀ n ≤ entry.hitCount + countedFrom run id i m + 1,
        store.codec.loads (store.codec.dumps { entry with hitCount := n }) = .ok { entry with hitCount := n } := by
    intro hc n hn
    rw [hc, Bool.toNat_true] at hcounted hcard
    exact hcodec n (by omega)
  rcases store.tally_step cache _ _ _ hnext id entry _ c hacc.tally (hlive.live (m + 1) (by omega) hmj)
    (hlive.fresh m him hmj) hcodec' with ⟨hc, htally⟩ | ⟨client, docs, x, hact, hcall, hc, hx, htally⟩
  · rw [hc, Bool.toNat_false, Nat.add_zero] at hcounted
    rw [hc, Bool.toNat_false] at hcard
    exact Or.inl ⟨hc, hcounted, ⟨by rw [hcounted]; exact htally, hfin, by omega⟩⟩
  · rw [hc, Bool.toNat_true] at hcounted hcard
    refine Or.inr ⟨client, docs, x, hact, hcall, hx, hcounted, ⟨?_, hfin, by omega⟩⟩
    rw [hcounted, ← Nat.add_assoc]
    exact htally

/-- While calls do not overlap the record is exact, and once they have it is behind. -/
theorem accounted_run (hentry : store.stored (run.state i) id = some entry) (m : Nat) (him : i ≤ m) (hmj : m ≤ j) :
    ∃ c, Accounted run id entry i m c ∧
      ((∀ n, i ≤ n → n < m → ¬ Overlaps (run.state n) (run.act n) id) →
        Exact (run.state m) id (entry.hitCount + countedFrom run id i m) c) ∧
      ((∃ n, i ≤ n ∧ n < m ∧ Overlaps (run.state n) (run.act n) id) →
        Lossy (run.state m) id (entry.hitCount + countedFrom run id i m) c) := by
  have hlen := hlive.len
  have hinv := run.inv_from (fun m => m ≤ j → ∃ c, Accounted run id entry i m c ∧
    ((∀ n, i ≤ n → n < m → ¬ Overlaps (run.state n) (run.act n) id) →
      Exact (run.state m) id (entry.hitCount + countedFrom run id i m) c) ∧
    ((∃ n, i ≤ n ∧ n < m ∧ Overlaps (run.state n) (run.act n) id) →
      Lossy (run.state m) id (entry.hitCount + countedFrom run id i m) c)) i ?_ ?_
  · exact hinv m him (by omega) hmj
  · intro _
    have hheld : ∀ client, ¬ Holds (run.state i) client id := fun client hholds =>
      hlive.start client hholds.pending
    have hempty : {client | Pending (run.state i) client id} = ∅ :=
      Set.eq_empty_of_forall_notMem fun client => hlive.start client
    have hcounted : countedFrom run id i i = 0 := countFrom_self _ i
    have hhits : hitsFrom run id i i = 0 := countFrom_self _ i
    refine ⟨entry.hitCount, ⟨⟨hentry, by omega, fun client e he => absurd ⟨e, he⟩ (hheld client)⟩, ?_, ?_⟩, ?_, ?_⟩
    · rw [hempty]; exact Set.finite_empty
    · rw [hhits, hcounted, hempty, Set.ncard_empty]
    · intro _
      exact ⟨by omega, fun client e he => absurd ⟨e, he⟩ (hheld client)⟩
    · rintro ⟨n, hin, hni, -⟩
      omega
  · intro m him hmlen ih hmj
    obtain ⟨c, hacc, hexact, hlossy⟩ := ih (by omega)
    have hnext := run.next m hmlen
    have htally := hacc.tally
    have hbefore : (∃ n, i ≤ n ∧ n < m + 1 ∧ Overlaps (run.state n) (run.act n) id) →
        (∃ n, i ≤ n ∧ n < m ∧ Overlaps (run.state n) (run.act n) id) ∨ Overlaps (run.state m) (run.act m) id := by
      rintro ⟨n, hin, hnm, hn⟩
      by_cases h : n = m
      · subst h; exact Or.inr hn
      · exact Or.inl ⟨n, hin, by omega, hn⟩
    rcases accounted_step run id i j hlive entry hcodec m c him (by omega) hacc with ⟨hc, hcounted, hacc'⟩ |
      ⟨client, docs, x, hact, hcall, hx, hcounted, hacc'⟩
    · refine ⟨c, hacc', fun hserial => ?_, fun hoverlap => ?_⟩
      · rw [hcounted]
        exact store.exact_step cache _ _ _ hnext id entry _ c htally (hserial m him (by omega))
          (hexact fun n hin hnm => hserial n hin (by omega))
      · rw [hcounted]
        rcases hbefore hoverlap with hold | hnew
        · exact store.lossy_step cache _ _ _ hnext id _ c hc (hlive.unbroken m him (by omega)) (hlossy hold)
        · exact store.lossy_of_overlaps cache _ _ _ hnext id entry _ c htally hnew
    · refine ⟨x + 1, hacc', fun hserial => ?_, fun hoverlap => ?_⟩
      · rw [hcounted]
        exact store.exact_counts cache _ _ _ hnext id entry _ c client docs x hact hcall
          (hexact fun n hin hnm => hserial n hin (by omega))
      · rw [hcounted]
        rcases hbefore hoverlap with hold | ⟨client', docs', hact', hget, -⟩
        · exact store.lossy_counts cache _ _ _ hnext id entry _ c htally client docs x hact hcall hx (hlossy hold)
        · rw [hact] at hact'
          obtain ⟨rfl, -⟩ := StoreAction.command.inj hact'
          rw [hcall] at hget
          cases hget

end

/-- **Hit counting.**  Of the lookups that hit a live entry between two states every one is
in its `hit_count` exactly when no `HGET` falls between another call's `HGET` and `HSET`. -/
theorem hits_counted_iff (i j : Nat) (hlive : LiveBetween run id i j) (entry : CacheEntry F)
    (hentry : store.stored (run.state i) id = some entry)
    (hcodec : ∀ n ≤ entry.hitCount + hitsFrom run id i j,
      store.codec.loads (store.codec.dumps { entry with hitCount := n }) = .ok { entry with hitCount := n }) :
    (store.stored (run.state j) id).map (·.hitCount) = some (entry.hitCount + hitsFrom run id i j) ↔
      ∀ m, i ≤ m → m < j → ¬ Overlaps (run.state m) (run.act m) id := by
  obtain ⟨c, hacc, hexact, hlossy⟩ :=
    accounted_run run id i j hlive entry hcodec hentry j hlive.order le_rfl
  have hempty : {client | Pending (run.state j) client id} = ∅ :=
    Set.eq_empty_of_forall_notMem fun client => hlive.finish client
  have hhits : hitsFrom run id i j = countedFrom run id i j := by
    rw [hacc.hits, hempty, Set.ncard_empty, Nat.add_zero]
  rw [hacc.tally.stored, hhits]
  simp only [Option.map_some, Option.some.injEq]
  constructor
  · intro hc m him hmj hoverlap
    rcases hlossy ⟨m, him, hmj, hoverlap⟩ with hlt | ⟨client, e, he, -⟩ | ⟨client, -, -, hholds, -⟩
    · omega
    · exact hlive.finish client (Holds.pending ⟨e, he⟩)
    · exact hlive.finish client hholds.pending
  · exact fun hserial => (hexact hserial).1

end

/-! ## Two lookups -/

/-- The entry has been stored. -/
def storedState : StoreState ℚ where
  redis := (emptyStore.redis.hset (plainStore.key storedEntry.id) (plainStore.mapping storedEntry)).expire
    (plainStore.key storedEntry.id) storedEntry.ttlSeconds

/-- What a search finds when the entry has been hit so often. -/
def foundEntry (hits : Nat) : List (SearchDoc ℚ) :=
  [{ id := plainStore.key storedEntry.id, data := plainStore.codec.dumps (storedEntryHit hits), dist := 0 }]

def oceanLookup : StoreRequest ℚ :=
  .lookup { model := "gpt-4o-mini", provider := "openai" } "describe the ocean" none

/-- One after the other. -/
def serialActions : List (StoreAction ℚ) := [
  .start 0 oceanLookup,
  .command 0 (foundEntry 0),
  .command 0 [],
  .command 0 [],
  .start 1 oceanLookup,
  .command 1 (foundEntry 1),
  .command 1 [],
  .command 1 []]

/-- Side by side. -/
def parallelActions : List (StoreAction ℚ) := [
  .start 0 oceanLookup,
  .start 1 oceanLookup,
  .command 0 (foundEntry 0),
  .command 1 (foundEntry 0),
  .command 0 [],
  .command 1 [],
  .command 0 [],
  .command 1 []]

theorem serialActions_exec : (Run.exec (plainStore.step plainCache) storedState serialActions).isSome := by
  decide +kernel

theorem parallelActions_exec : (Run.exec (plainStore.step plainCache) storedState parallelActions).isSome := by
  decide +kernel

def serialRun : Run (plainStore.step plainCache) storedState :=
  .ofExec _ _ _ serialActions (Option.some_get serialActions_exec).symm

def parallelRun : Run (plainStore.step plainCache) storedState :=
  .ofExec _ _ _ parallelActions (Option.some_get parallelActions_exec).symm

/-- The entry is there, and neither written anew nor the step a break. -/
def staysLive (s : StoreState ℚ) (a : StoreAction ℚ) : Bool :=
  (s.redis.hashes (plainStore.key storedEntry.id)).isSome && !upserts s a storedEntry.id &&
    !breaksOff s a storedEntry.id

theorem liveBetween_ofExec (acts : List (StoreAction ℚ)) (s : StoreState ℚ)
    (h : Run.exec (plainStore.step plainCache) storedState acts = some s)
    (hclients : ∀ client request, StoreAction.start client request ∈ acts → client < 2)
    (run : Run (plainStore.step plainCache) storedState) (hrun : run = .ofExec _ _ s acts h)
    (n : Nat) (hn : n = acts.length)
    (hscan : Run.scan (plainStore.step plainCache) staysLive storedState acts = true)
    (hlast : ((run.state n).redis.hashes (plainStore.key storedEntry.id)).isSome)
    (hends : ((run.state n).calls 0).isNone ∧ ((run.state n).calls 1).isNone) :
    LiveBetween run storedEntry.id 0 n := by
  subst hrun hn
  have hstep := fun m hm => Run.scan_ofExec _ staysLive _ s acts h hscan m hm
  simp only [staysLive, Bool.and_eq_true, Bool.not_eq_true'] at hstep
  exact {
    order := by omega
    len := le_rfl
    live := by
      intro m _ hm
      by_cases hlt : m < acts.length
      · exact (hstep m hlt).1.1
      · obtain rfl : m = acts.length := by omega
        exact hlast
    fresh := fun m _ hm => (hstep m hm).1.2
    unbroken := fun m _ hm => (hstep m hm).2
    start := fun client hp => by cases hp
    finish := by
      intro client hp
      have hnone : ((Run.ofExec _ _ s acts h).state acts.length).calls client = none := by
        match client with
        | 0 => exact Option.isNone_iff_eq_none.mp hends.1
        | 1 => exact Option.isNone_iff_eq_none.mp hends.2
        | client + 2 =>
          refine plainStore.calls_of_ofExec plainCache acts (client + 2) (fun request hmem => ?_) _ s h rfl _
          have := hclients _ _ hmem
          omega
      unfold Pending at hp
      rw [hnone] at hp
      cases hp }

theorem plainStore_loads_dumps (hits : Nat) (h : hits ≤ 2) :
    plainStore.codec.loads (plainStore.codec.dumps (storedEntryHit hits)) = .ok (storedEntryHit hits) := by
  refine EntryCodec.ofEntries_loads_dumps _ (by decide +kernel) (storedEntryHit hits) ?_
  interval_cases hits <;> simp

/-- One after the other, two lookups are two hits. -/
theorem hits_counted_serial :
    hitsFrom serialRun storedEntry.id 0 8 = 2 ∧
      (plainStore.stored (serialRun.state 8) storedEntry.id).map (·.hitCount) = some 2 ∧
      ∀ m, 0 ≤ m → m < 8 → ¬ Overlaps (serialRun.state m) (serialRun.act m) storedEntry.id := by
  obtain ⟨hscan, hlast, hends, hhits, hcount⟩ :
      Run.scan (plainStore.step plainCache) staysLive storedState serialActions = true ∧
        ((serialRun.state 8).redis.hashes (plainStore.key storedEntry.id)).isSome ∧
        (((serialRun.state 8).calls 0).isNone ∧ ((serialRun.state 8).calls 1).isNone) ∧
        hitsFrom serialRun storedEntry.id 0 8 = 2 ∧
        (plainStore.stored (serialRun.state 8) storedEntry.id).map (·.hitCount) = some 2 := by
    decide +kernel
  have hlive : LiveBetween serialRun storedEntry.id 0 8 := by
    refine liveBetween_ofExec serialActions _ _ ?_ serialRun rfl 8 rfl hscan hlast hends
    intro client request hmem
    simp [serialActions] at hmem
    omega
  have hraw : storedState.redis.hget (plainStore.key storedEntry.id) "data" =
      some (plainStore.codec.dumps (storedEntryHit 0)) := rfl
  have hentry : plainStore.stored storedState storedEntry.id = some (storedEntryHit 0) := by
    unfold stored
    rw [hraw, Option.bind_some, plainStore_loads_dumps 0 (by decide)]
    rfl
  refine ⟨hhits, hcount, (hits_counted_iff serialRun storedEntry.id 0 8 hlive _ hentry ?_).mp ?_⟩
  · intro n hn
    rw [hhits] at hn
    have hentry' : { storedEntryHit 0 with hitCount := n } = storedEntryHit n := rfl
    rw [hentry']
    exact plainStore_loads_dumps n hn
  · rw [hhits]
    exact hcount

/-- Side by side, they are one. -/
theorem hits_lost_parallel :
    LiveBetween parallelRun storedEntry.id 0 8 ∧ hitsFrom parallelRun storedEntry.id 0 8 = 2 ∧
      (plainStore.stored storedState storedEntry.id).map (·.hitCount) = some 0 ∧
      (plainStore.stored (parallelRun.state 8) storedEntry.id).map (·.hitCount) = some 1 := by
  obtain ⟨hscan, hlast, hends, hcounts⟩ :
      Run.scan (plainStore.step plainCache) staysLive storedState parallelActions = true ∧
        ((parallelRun.state 8).redis.hashes (plainStore.key storedEntry.id)).isSome ∧
        (((parallelRun.state 8).calls 0).isNone ∧ ((parallelRun.state 8).calls 1).isNone) ∧
        hitsFrom parallelRun storedEntry.id 0 8 = 2 ∧
        (plainStore.stored storedState storedEntry.id).map (·.hitCount) = some 0 ∧
        (plainStore.stored (parallelRun.state 8) storedEntry.id).map (·.hitCount) = some 1 := by
    decide +kernel
  refine ⟨?_, hcounts⟩
  refine liveBetween_ofExec parallelActions _ _ ?_ parallelRun rfl 8 rfl hscan hlast hends
  intro client request hmem
  simp [parallelActions] at hmem
  omega

end RedisVectorStore

end CachingLayer
