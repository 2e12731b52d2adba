import CachingLayer.Basis.Rounding
import CachingLayer.Basis.Sha256
import CachingLayer.Basis.Text
import CachingLayer.Models.Json

/-!
# Cache namespacing

`namespaceKey` hashes the six dimensions of a request joined by `|` and puts the
readable prefix `tenant:provider:model:` before 20 hex letters of the digest.

Neither text is injective alone: tenant and model may hold both separators.  The
digest (when it does not collide, `CollisionFree`) gives the `|`-join, whose last
three parts are free of `|`; the prefix gives the `:`-join of the first three; the
two joins together determine them (`namespaceKey_inj`).
-/

namespace CachingLayer

open Text

/-! ## Temperatures -/

namespace PyFloat

/-- `round(x, 1)`: the tenth nearest to `x`; a negative `x` rounds to `-0.0`. -/
def round1 : PyFloat → PyFloat
  | finite x =>
    if roundEven (x * 10) = 0 ∧ x < 0 then negZero else finite (roundEven (x * 10) / 10)
  | x => x

/-- Sign, `k / 10`, the point, `k % 10`. -/
def tenthStr (negative : Bool) (k : Nat) : String :=
  (if negative then "-" else "") ++ (k / 10).repr ++ "." ++ (k % 10).repr

/-- `f"{x:.1f}"`. -/
def format1 : PyFloat → String
  | finite x => tenthStr (x < 0) (roundEven (x * 10)).natAbs
  | negZero => tenthStr true 0
  | inf negative => if negative then "-inf" else "inf"
  | nan => "nan"

end PyFloat

/-! ## Signatures -/

/-- `hexdigest()[:n]` of a text. -/
def digestPrefix (n : Nat) (s : String) : String := String.ofList ((Sha256.hexdigest (encode s)).take n)

/-- `(system_prompt or "").strip()`. -/
def normalizePrompt (systemPrompt : Option String) : String := strip (systemPrompt.getD "")

/-- Short hash of a system prompt; an empty one has a sentinel. -/
def hashSystemPrompt (systemPrompt : Option String) : String :=
  if normalizePrompt systemPrompt = "" then "no-system"
  else digestPrefix 16 (normalizePrompt systemPrompt)

/-- The dimensions that scope a cache entry. -/
structure RequestSignature where
  model : String
  provider : String
  systemPrompt : Option String := none
  temperature : PyFloat := .finite 1
  maxTokens : Option Int := none
  tenant : String := "default"

namespace RequestSignature

def systemPromptHash (s : RequestSignature) : String := hashSystemPrompt s.systemPrompt

def tempBucket (s : RequestSignature) : String := s.temperature.round1.format1

def maxTokensStr (s : RequestSignature) : String :=
  match s.maxTokens with
  | some n => intStr n
  | none => "default"

/-- The digest's input. -/
def raw (s : RequestSignature) : String :=
  "|".intercalate [s.tenant, s.provider, s.model, s.systemPromptHash, s.tempBucket, s.maxTokensStr]

def namespaceKey (s : RequestSignature) : String :=
  s.tenant ++ ":" ++ s.provider ++ ":" ++ s.model ++ ":" ++ digestPrefix 20 s.raw

/-- Same tenant, provider, model, stripped system prompt, temperature bucket and `max_tokens`. -/
structure SameDimensions (s t : RequestSignature) : Prop where
  tenant : s.tenant = t.tenant
  provider : s.provider = t.provider
  model : s.model = t.model
  systemPrompt : normalizePrompt s.systemPrompt = normalizePrompt t.systemPrompt
  temperature : s.temperature.round1 = t.temperature.round1
  maxTokens : s.maxTokens = t.maxTokens

end RequestSignature

/-- The truncated digests do not collide on what the signatures `S` hash. -/
structure CollisionFree (S : Set RequestSignature) : Prop where
  raw : Set.InjOn (digestPrefix 20) (RequestSignature.raw '' S)
  prompt : Set.InjOn (digestPrefix 16) ((fun s => normalizePrompt s.systemPrompt) '' S)

theorem CollisionFree.mono {S T : Set RequestSignature} (h : CollisionFree T) (hST : S ⊆ T) :
    CollisionFree S :=
  ⟨h.raw.mono (Set.image_mono hST), h.prompt.mono (Set.image_mono hST)⟩

/-! ## Rounding and printing a temperature -/

namespace PyFloat

/-- Printed digits and points, the sign apart. -/
theorem tenthStr_inj (b b' : Bool) (k k' : Nat) (h : tenthStr b k = tenthStr b' k') :
    b = b' ∧ k = k' := by
  have hdot : ∀ n : Nat, '.' ∉ n.repr.toList := fun n hn => by
    have := mem_natRepr n '.' hn; revert this; decide
  have hminus : ∀ n : Nat, '-' ∉ n.repr.toList := fun n hn => by
    have := mem_natRepr n '-' hn; revert this; decide
  have h' := congrArg String.toList h
  simp only [tenthStr, String.toList_append, List.append_assoc] at h'
  have hcut : ∀ (b : Bool) (k : Nat), (if b then "-" else "").toList ++ ((k / 10).repr.toList ++
      (".".toList ++ (k % 10).repr.toList)) =
      ((if b then "-" else "").toList ++ (k / 10).repr.toList) ++ '.' :: (k % 10).repr.toList := by
    intro b k; simp
  rw [hcut, hcut] at h'
  obtain ⟨hl, hr⟩ := append_sep_inj '.' _ _ _ _ (hdot _) (hdot _) h'
  have hmod : k % 10 = k' % 10 := Nat.repr_inj.mp (String.toList_inj.mp hr)
  have hb : b = b' ∧ (k / 10).repr.toList = (k' / 10).repr.toList := by
    cases b <;> cases b' <;> simp [-Nat.toList_repr] at hl
    · exact ⟨rfl, by rw [hl]⟩
    · exact absurd (hl ▸ List.mem_cons_self) (hminus (k / 10))
    · exact absurd (hl.symm ▸ List.mem_cons_self) (hminus (k' / 10))
    · exact ⟨rfl, by rw [hl]⟩
  have hdiv : k / 10 = k' / 10 := Nat.repr_inj.mp (String.toList_inj.mp hb.2)
  exact ⟨hb.1, by omega⟩

theorem dot_mem_tenthStr (b : Bool) (k : Nat) : '.' ∈ (tenthStr b k).toList := by
  simp [tenthStr, String.toList_append]

theorem format1_tenth (k : Int) : (finite (k / 10)).format1 = tenthStr (k < 0) k.natAbs := by
  have hk : ((k : ℚ) / 10) * 10 = k := by ring
  have hneg : ((k : ℚ) / 10 < 0) ↔ k < 0 := by
    rw [div_lt_iff₀ (by norm_num), zero_mul]; exact_mod_cast Iff.rfl
  show tenthStr _ (roundEven ((k : ℚ) / 10 * 10)).natAbs = _
  rw [hk, roundEven_intCast]
  simp only [hneg]

theorem round1_finite (x : ℚ) : (finite x).round1 =
    if roundEven (x * 10) = 0 ∧ x < 0 then negZero else finite (roundEven (x * 10) / 10) := rfl

/-- A rounded temperature is a tenth, the negative zero, or not finite. -/
theorem round1_cases (x : PyFloat) :
    (∃ k : Int, x.round1 = finite (k / 10)) ∨ x.round1 = negZero ∨ (∃ b, x.round1 = inf b) ∨
      x.round1 = nan := by
  cases x with
  | finite x =>
    rw [round1_finite]
    split_ifs
    · exact Or.inr (Or.inl rfl)
    · exact Or.inl ⟨_, rfl⟩
  | negZero => exact Or.inr (Or.inl rfl)
  | inf b => exact Or.inr (Or.inr (Or.inl ⟨b, rfl⟩))
  | nan => exact Or.inr (Or.inr (Or.inr rfl))

/-- The bucket text determines the rounded temperature. -/
theorem format1_round1_inj (x y : PyFloat) (h : x.round1.format1 = y.round1.format1) :
    x.round1 = y.round1 := by
  have hinf : ∀ b, '.' ∉ (inf b).format1.toList := by decide
  have hnan : '.' ∉ nan.format1.toList := by decide
  have htenth : ∀ k : Int, '.' ∈ (finite (k / 10)).format1.toList := fun k => by
    rw [format1_tenth]; exact dot_mem_tenthStr _ _
  have hzero : '.' ∈ negZero.format1.toList := dot_mem_tenthStr _ _
  rcases round1_cases x with ⟨k, hx⟩ | hx | ⟨b, hx⟩ | hx <;>
    rcases round1_cases y with ⟨k', hy⟩ | hy | ⟨b', hy⟩ | hy <;> rw [hx, hy] at h ⊢
  · rw [format1_tenth, format1_tenth] at h
    obtain ⟨hs, ha⟩ := tenthStr_inj _ _ _ _ h
    have hs' : k < 0 ↔ k' < 0 := by simpa using hs
    obtain rfl : k = k' := by omega
    rfl
  · rw [format1_tenth] at h
    obtain ⟨hs, ha⟩ := tenthStr_inj _ _ _ _ h
    have hs' : k < 0 := by simpa using hs
    omega
  · exact absurd (h ▸ htenth k) (hinf b')
  · exact absurd (h ▸ htenth k) hnan
  · rw [format1_tenth] at h
    obtain ⟨hs, ha⟩ := tenthStr_inj _ _ _ _ h
    have hs' : k' < 0 := by simpa using hs.symm
    omega
  · exact absurd (h ▸ hzero) (hinf b')
  · exact absurd (h ▸ hzero) hnan
  · exact absurd (h.symm ▸ htenth k') (hinf b)
  · exact absurd (h.symm ▸ hzero) (hinf b)
  · revert h; cases b <;> cases b' <;> decide
  · revert h; cases b <;> decide
  · exact absurd (h.symm ▸ htenth k') hnan
  · exact absurd (h.symm ▸ hzero) hnan
  · revert h; cases b' <;> decide

/-- Temperatures of one bucket differ by a tenth at most. -/
theorem abs_sub_le_of_round1_eq (x y : ℚ) (h : (finite x).round1 = (finite y).round1) :
    |x - y| ≤ 1 / 10 := by
  have key : roundEven (x * 10) = roundEven (y * 10) := by
    rw [round1_finite, round1_finite] at h
    split_ifs at h with hx hy hy
    · rw [hx.1, hy.1]
    · simp only [finite.injEq] at h
      have : (roundEven (x * 10) : ℚ) = roundEven (y * 10) := by linarith
      exact_mod_cast this
  have h1 := abs_le.mp (abs_roundEven_sub_le (x * 10))
  have h2 := abs_le.mp (abs_roundEven_sub_le (y * 10))
  rw [key] at h1
  rw [abs_le]
  constructor <;> linarith [h1.1, h1.2, h2.1, h2.2]

theorem bar_notMem_format1 (x : PyFloat) : '|' ∉ x.round1.format1.toList := by
  have hrepr : ∀ n : Nat, '|' ∉ n.repr.toList := fun n hn => by
    have := mem_natRepr n '|' hn; revert this; decide
  have ht : ∀ b k, '|' ∉ (tenthStr b k).toList := by
    intro b k
    cases b <;> simp [-Nat.toList_repr, tenthStr, String.toList_append, hrepr]
  rcases round1_cases x with ⟨k, hx⟩ | hx | ⟨b, hx⟩ | hx <;> rw [hx]
  · rw [format1_tenth]; exact ht _ _
  · exact ht _ _
  · cases b <;> decide
  · decide

end PyFloat

/-! ## Injectivity -/

theorem digestPrefix_length (n : Nat) (hn : n ≤ 64) (s : String) :
    (digestPrefix n s).toList.length = n := by
  unfold digestPrefix
  rw [String.toList_ofList, List.length_take, Sha256.hexdigest_length]
  omega

theorem mem_digestPrefix (n : Nat) (s : String) (c : Char) (h : c ∈ (digestPrefix n s).toList) :
    c ∈ Sha256.hexDigits := by
  unfold digestPrefix at h
  rw [String.toList_ofList] at h
  exact Sha256.hexdigest_hex _ c (List.mem_of_mem_take h)

/-- The sentinel is no digest: their lengths differ. -/
theorem digestPrefix_ne_sentinel (s : String) : digestPrefix 16 s ≠ "no-system" := by
  intro h
  have := digestPrefix_length 16 (by omega) s
  rw [h] at this
  revert this; decide

theorem bar_notMem_hashSystemPrompt (p : Option String) : '|' ∉ (hashSystemPrompt p).toList := by
  unfold hashSystemPrompt
  split
  · decide
  · intro h
    have := mem_digestPrefix _ _ _ h
    revert this; decide

theorem hashSystemPrompt_inj (p q : Option String)
    (hcol : Set.InjOn (digestPrefix 16) {normalizePrompt p, normalizePrompt q})
    (h : hashSystemPrompt p = hashSystemPrompt q) : normalizePrompt p = normalizePrompt q := by
  unfold hashSystemPrompt at h
  split at h <;> split at h
  · next hp hq => rw [hp, hq]
  · exact absurd h.symm (digestPrefix_ne_sentinel _)
  · exact absurd h (digestPrefix_ne_sentinel _)
  · exact hcol (by simp) (by simp) h

namespace RequestSignature

theorem maxTokensStr_inj (s t : RequestSignature) (h : s.maxTokensStr = t.maxTokensStr) :
    s.maxTokens = t.maxTokens := by
  have hdef : ∀ i, intStr i ≠ "default" := fun i hi => by
    have := mem_intStr i 'd' (hi ▸ by decide); revert this; decide
  unfold maxTokensStr at h
  cases hs : s.maxTokens <;> cases ht : t.maxTokens <;> rw [hs, ht] at h
  · exact absurd h.symm (hdef _)
  · exact absurd h (hdef _)
  · rw [intStr_inj _ _ h]

theorem bar_notMem_maxTokensStr (s : RequestSignature) : '|' ∉ s.maxTokensStr.toList := by
  unfold maxTokensStr
  split
  · next n _ => intro h; have := mem_intStr n '|' h; revert this; decide
  · decide

theorem toList_raw (s : RequestSignature) : s.raw.toList =
    ((s.tenant.toList ++ '|' :: (s.provider.toList ++ '|' :: s.model.toList)) ++
      '|' :: s.systemPromptHash.toList ++ '|' :: s.tempBucket.toList) ++
      '|' :: s.maxTokensStr.toList := by
  simp [raw, String.intercalate_cons_cons, String.toList_append]

theorem toList_namespaceKey (s : RequestSignature) : s.namespaceKey.toList =
    (s.tenant.toList ++ ':' :: (s.provider.toList ++ ':' :: s.model.toList)) ++
      ':' :: (digestPrefix 20 s.raw).toList := by
  simp [namespaceKey, String.toList_append]

/-- **Injectivity.**  Signatures whose digests do not collide have one namespace
only when they agree in all six dimensions. -/
theorem namespaceKey_inj (s t : RequestSignature) (hcol : CollisionFree {s, t})
    (h : s.namespaceKey = t.namespaceKey) : SameDimensions s t := by
  have h' := congrArg String.toList h
  rw [toList_namespaceKey, toList_namespaceKey] at h'
  obtain ⟨hcolon, hdigest⟩ := List.append_inj' h' (by
    simp only [List.length_cons, digestPrefix_length 20 (by omega)])
  have hraw : s.raw = t.raw :=
    hcol.raw ⟨s, by simp⟩ ⟨t, by simp⟩ (String.toList_inj.mp (List.cons.inj hdigest).2)
  -- from the right, the last three parts of the `|`-join are free of `|`
  have hbar := congrArg String.toList hraw
  rw [toList_raw, toList_raw] at hbar
  obtain ⟨hbar, htok⟩ := append_sep_inj '|' _ _ _ _ s.bar_notMem_maxTokensStr
    t.bar_notMem_maxTokensStr hbar
  obtain ⟨hbar, htemp⟩ := append_sep_inj '|' _ _ _ _ (PyFloat.bar_notMem_format1 _)
    (PyFloat.bar_notMem_format1 _) hbar
  obtain ⟨hbar, hprompt⟩ := append_sep_inj '|' _ _ _ _ (bar_notMem_hashSystemPrompt _)
    (bar_notMem_hashSystemPrompt _) hbar
  -- what is left of the two joins differs in the separator only
  have htenant := append_two_seps_inj '|' ':' (by decide) _ _ _ _ _ _ hbar hcolon
  rw [htenant] at hbar hcolon
  have hbar2 := (List.cons.inj (List.append_cancel_left hbar)).2
  have hcolon2 := (List.cons.inj (List.append_cancel_left hcolon)).2
  have hprovider := append_two_seps_inj '|' ':' (by decide) _ _ _ _ _ _ hbar2 hcolon2
  rw [hprovider] at hbar2
  have hmodel := (List.cons.inj (List.append_cancel_left hbar2)).2
  exact {
    tenant := String.toList_inj.mp htenant
    provider := String.toList_inj.mp hprovider
    model := String.toList_inj.mp hmodel
    systemPrompt := hashSystemPrompt_inj _ _
      (hcol.prompt.mono (by rintro x (rfl | rfl); exacts [⟨s, by simp⟩, ⟨t, by simp⟩]))
      (String.toList_inj.mp hprompt)
    temperature := PyFloat.format1_round1_inj _ _ (String.toList_inj.mp htemp)
    maxTokens := maxTokensStr_inj s t (String.toList_inj.mp htok) }

theorem SameDimensions.raw_eq {s t : RequestSignature} (h : SameDimensions s t) : s.raw = t.raw := by
  simp only [raw, systemPromptHash, hashSystemPrompt, tempBucket, maxTokensStr, h.tenant, h.provider,
    h.model, h.systemPrompt, h.temperature, h.maxTokens]

/-- Equal dimensions give equal namespaces. -/
theorem SameDimensions.namespaceKey_eq {s t : RequestSignature} (h : SameDimensions s t) :
    s.namespaceKey = t.namespaceKey := by
  simp only [namespaceKey, h.raw_eq, h.tenant, h.provider, h.model]

end RequestSignature

/-- Signatures that agree in every dimension hash the same texts. -/
theorem CollisionFree.of_sameDimensions {S : Set RequestSignature}
    (h : ∀ s ∈ S, ∀ t ∈ S, s.SameDimensions t) : CollisionFree S := by
  constructor
  · rintro _ ⟨s, hs, rfl⟩ _ ⟨t, ht, rfl⟩ -
    exact (h s hs t ht).raw_eq
  · rintro _ ⟨s, hs, rfl⟩ _ ⟨t, ht, rfl⟩ -
    exact (h s hs t ht).systemPrompt

/-! ## Namespace keys separate requests -/

/-- Two signatures of one namespace agree in tenant, provider, model, stripped
system prompt, temperature rounded to a tenth, and `max_tokens`. -/
theorem namespaceKey_separates (s t : RequestSignature) (hcol : CollisionFree {s, t})
    (h : s.namespaceKey = t.namespaceKey) :
    s.tenant = t.tenant ∧ s.provider = t.provider ∧ s.model = t.model ∧
      strip (s.systemPrompt.getD "") = strip (t.systemPrompt.getD "") ∧
      s.temperature.round1 = t.temperature.round1 ∧
      (∀ x y : ℚ, s.temperature = .finite x → t.temperature = .finite y → |x - y| ≤ 1 / 10) ∧
      s.maxTokens = t.maxTokens := by
  have hd := RequestSignature.namespaceKey_inj s t hcol h
  refine ⟨hd.tenant, hd.provider, hd.model, hd.systemPrompt, hd.temperature, ?_, hd.maxTokens⟩
  intro x y hx hy
  apply PyFloat.abs_sub_le_of_round1_eq
  rw [← hx, ← hy]
  exact hd.temperature

/-- Separators inside the tenant, a padded prompt, and 0.70 against 0.74. -/
def paddedSignature : RequestSignature where
  model := "gpt-4o-mini"
  provider := "openai"
  systemPrompt := some " You are helpful.\n"
  temperature := .finite (70 / 100)
  tenant := "team|a:openai"

def plainSignature : RequestSignature :=
  { paddedSignature with systemPrompt := some "You are helpful.", temperature := .finite (74 / 100) }

theorem paddedSignature_same : paddedSignature.SameDimensions plainSignature where
  tenant := rfl
  provider := rfl
  model := rfl
  systemPrompt := by decide
  temperature := by decide +kernel
  maxTokens := rfl

theorem namespaceKey_separates_padded :
    paddedSignature.temperature.round1 = plainSignature.temperature.round1 ∧
      |(70 / 100 : ℚ) - 74 / 100| ≤ 1 / 10 := by
  have hsame := paddedSignature_same
  have hcol : CollisionFree {paddedSignature, plainSignature} := by
    refine .of_sameDimensions ?_
    rintro _ (rfl | rfl) _ (rfl | rfl)
    · exact ⟨rfl, rfl, rfl, rfl, rfl, rfl⟩
    · exact hsame
    · exact ⟨hsame.tenant.symm, hsame.provider.symm, hsame.model.symm, hsame.systemPrompt.symm,
        hsame.temperature.symm, hsame.maxTokens.symm⟩
    · exact ⟨rfl, rfl, rfl, rfl, rfl, rfl⟩
  obtain ⟨-, -, -, -, h5, h6, -⟩ :=
    namespaceKey_separates paddedSignature plainSignature hcol hsame.namespaceKey_eq
  exact ⟨h5, h6 _ _ rfl rfl⟩

end CachingLayer
