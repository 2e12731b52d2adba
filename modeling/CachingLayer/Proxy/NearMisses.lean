import CachingLayer.Analytics.NearMiss
import CachingLayer.Proxy.Adaptation

/-!
# Near misses in service

A search whose best match falls short of the task's threshold by the window at most is on
record as a near miss (`NearMissOf`), with the threshold that was in force; nothing else is.
A tracker that saw the record (`State.tracker`) reports on its last events
(`near_misses_reported`).
-/

namespace CachingLayer

/-- The tracker's event of a `record` call. -/
def Effect.nearMiss? {F : Type} : Effect F → Option (NearMiss F)
  | .nearMiss score threshold namespaceKey prompt =>
    some { score, threshold, namespaceKey, promptPreview := String.ofList (prompt.toList.take 120) }
  | _ => none

/-- An effect, as far as the tracker is called. -/
def Effect.recordOn {F : Type} (t : NearMissTracker F) : Effect F → NearMissTracker F
  | .nearMiss score threshold namespaceKey prompt => t.record score threshold namespaceKey prompt
  | _ => t

theorem foldl_recordOn {F : Type} (effects : List (Effect F)) (t : NearMissTracker F) :
    effects.foldl Effect.recordOn t =
      { t with events := (effects.filterMap Effect.nearMiss?).foldl Deque.append t.events } := by
  induction effects generalizing t with
  | nil => rfl
  | cons e effects ih =>
    rw [List.foldl_cons, ih]
    cases e with
    | nearMiss score threshold namespaceKey prompt =>
      rw [List.filterMap_cons_some (by rfl), List.foldl_cons]
      rfl
    | _ => rw [List.filterMap_cons_none (by rfl)]; rfl

namespace State

variable {F E : Type} (s : State F E)

/-- What the tracker was told, in order. -/
def nearMisses : List (NearMiss F) := s.effects.filterMap Effect.nearMiss?

/-- The tracker of a service. -/
def tracker (capacity : Nat) (minSamples : Int) : NearMissTracker F :=
  s.effects.foldl Effect.recordOn { capacity, minSamples }

/-- The window. -/
theorem toList_tracker (capacity : Nat) (minSamples : Int) :
    (s.tracker capacity minSamples).events.toList = s.nearMisses.rtake capacity := by
  unfold tracker
  rw [foldl_recordOn]
  exact Deque.toList_foldl_append _ _

end State

namespace ProxyService

/-! ## What is on record -/

theorem nearMiss_outcome {F : Type} [Field F] [LinearOrder F] (c : SemanticCache F) (threshold : Option F)
    (found : List (ScoredEntry F)) (ms : ℚ) (h : (c.outcome threshold found ms).nearMiss = true) :
    ∃ best, found.head? = some best ∧ (c.outcome threshold found ms).score = best.score ∧
      c.effectiveThreshold threshold - c.nearMissWindow ≤ best.score ∧
      best.score < c.effectiveThreshold threshold := by
  unfold SemanticCache.outcome at h ⊢
  cases hhead : found.head? with
  | none =>
    rw [hhead] at h
    cases h
  | some best =>
    rw [hhead] at h
    simp only [] at h ⊢
    by_cases hreach : c.effectiveThreshold threshold ≤ best.score
    · rw [if_pos hreach] at h
      cases h
    · rw [if_neg hreach] at h ⊢
      rw [Bool.and_eq_true, decide_eq_true_eq, decide_eq_true_eq] at h
      exact ⟨best, rfl, rfl, h.1, h.2⟩

/-- `e` says that `best`, the best match of `rid`'s task `t`, just missed its threshold. -/
structure NearMissOf {F E : Type} [Field F] [LinearOrder F] (svc : ProxyService F E) (rid : RequestId) (t : Task F)
    (best : ScoredEntry F) (e : NearMiss F) : Prop where
  score : e.score = best.score
  threshold : e.threshold = svc.cache.effectiveThreshold t.threshold
  namespaceKey : e.namespaceKey = (svc.requestSignature t.request rid.tenant).namespaceKey
  promptPreview : e.promptPreview = String.ofList (t.request.latestUserPrompt.toList.take 120)
  gap_pos : 0 < e.gap
  gap_le : e.gap ≤ svc.cache.nearMissWindow

section
variable {F E : Type} [Field F] [LinearOrder F] [IsStrictOrderedRing F] (svc : ProxyService F E)

/-- What a lookup puts on record. -/
theorem nearMissOf_lookupEffects (rid : RequestId) (t : Task F) (found : List (ScoredEntry F)) (ms : ℚ) (e : NearMiss F)
    (he : e ∈ (svc.lookupEffects t.request rid.tenant t.threshold
      (svc.cache.outcome t.threshold found ms)).filterMap Effect.nearMiss?) :
    ∃ best, found.head? = some best ∧ svc.NearMissOf rid t best e := by
  unfold lookupEffects recordNearMiss at he
  rw [List.filterMap_cons_none (by rfl)] at he
  split at he
  · next h =>
    obtain ⟨best, hhead, hscore, hwindow, hbelow⟩ := nearMiss_outcome svc.cache t.threshold found ms h.2
    rw [List.filterMap_cons_some (by rfl), List.filterMap_nil, List.mem_singleton, hscore] at he
    subst he
    exact ⟨best, hhead, rfl, rfl, rfl, rfl, sub_pos.mpr hbelow, sub_le_comm.mp hwindow⟩
  · cases he

variable (oj : Orjson) (pyd : Pydantic)

/-- Only a search that missed goes on record. -/
theorem Advances.nearMiss (rid : RequestId) (t t' : Task F) (now perf : ℚ)
    (found : Except PyError (List (ScoredEntry F))) (event : Event) (op : StoreOp F) (effects : List (Effect F))
    (h : svc.Advances oj pyd rid t now perf found event t' op effects)
    (hreach : ∀ best, t.phase = .incrementing best → svc.cache.effectiveThreshold t.threshold ≤ best.score)
    (e : NearMiss F) (he : e ∈ effects.filterMap Effect.nearMiss?) :
    event = .searched ∧ ∃ hits best, found = .ok hits ∧ hits.head? = some best ∧ svc.NearMissOf rid t best e := by
  have hnone : ∀ best ms, t.phase = .incrementing best → e ∉ (svc.lookupEffects t.request rid.tenant t.threshold
      (svc.cache.outcome t.threshold [best] ms)).filterMap Effect.nearMiss? := by
    intro best ms hp hmem
    obtain ⟨best', hhead, hmiss⟩ := svc.nearMissOf_lookupEffects rid t [best] ms e hmem
    obtain rfl := Option.some.inj hhead
    have hgap := hmiss.gap_pos
    have hle := hreach best hp
    unfold NearMiss.gap at hgap
    rw [hmiss.threshold, hmiss.score] at hgap
    linarith
  cases h with
  | unmatchedStream hits l hp hfound hl =>
    subst hl
    obtain ⟨best, hhead, hmiss⟩ := svc.nearMissOf_lookupEffects rid t hits _ e he
    exact ⟨rfl, hits, best, hfound, hhead, hmiss⟩
  | unmatchedBuffered hits l hp hfound hl =>
    subst hl
    obtain ⟨best, hhead, hmiss⟩ := svc.nearMissOf_lookupEffects rid t hits _ e he
    exact ⟨rfl, hits, best, hfound, hhead, hmiss⟩
  | cachedInvalid best uuid sampled error l hp hl =>
    subst hl
    exact absurd he (hnone best _ hp)
  | cached best uuid sampled response l hp hl =>
    subst hl
    rw [List.filterMap_append, List.mem_append] at he
    rcases he with he | he
    · exact absurd he (hnone best _ hp)
    · rw [List.filterMap_cons_none (by rfl)] at he
      unfold maybeValidate at he
      split_ifs at he <;> cases he
  | _ => cases he

end

section
variable {F E : Type} [Field F] [LinearOrder F] [IsStrictOrderedRing F] {np : Numpy F} {oj : Orjson}
  {pyd : Pydantic} {svc : ProxyService F E} {s₀ : State F E} (run : Run (svc.step np oj pyd) s₀)

/-- Before step `n` a task searched, its best match just missed, and `e` says so. -/
def JustMissed (n : ℕ) (e : NearMiss F) : Prop :=
  ∃ m < n, ∃ rid t, run.act m = .task rid .searched ∧ (run.state m).tasks rid = some t ∧ Started run m rid t ∧
    ∃ found best, svc.search np rid t.request (run.state m).now (run.state m).store = .ok found ∧
      found.head? = some best ∧ svc.NearMissOf rid t best e

variable (htasks : ∀ rid, s₀.tasks rid = none) (heffects : s₀.effects = [])
include htasks heffects

/-- **Run.** -/
theorem justMissed : ∀ n ≤ run.len, ∀ e ∈ (run.state n).nearMisses, JustMissed run n e := by
  refine run.inv _ ?_ ?_
  · intro e he
    unfold State.nearMisses at he
    rw [run.init, heffects] at he
    cases he
  · intro n hn ih e he
    have hmono : ∀ e, JustMissed run n e → JustMissed run (n + 1) e := by
      rintro e ⟨m, hm, hrest⟩
      exact ⟨m, by omega, hrest⟩
    unfold State.nearMisses at he ih
    rcases svc.step_effects np oj pyd _ _ _ (run.next n hn) with
      hsame | ⟨rid, t, event, t', op, effects, hact, ht, hadv, hnew⟩
    · rw [hsame] at he
      exact hmono e (ih e he)
    · rw [hnew, List.filterMap_append, List.mem_append] at he
      rcases he with hold | hnew
      · exact hmono e (ih e hold)
      · obtain ⟨hstarted, hphase⟩ := tasksInv run htasks n (by omega) rid t ht
        have hreach : ∀ best, t.phase = .incrementing best →
            svc.cache.effectiveThreshold t.threshold ≤ best.score := by
          intro best hp
          rw [hp] at hphase
          obtain ⟨⟨-, -, -, -, -, hle⟩, -⟩ := hphase
          exact hle
        obtain ⟨rfl, hits, best, hfound, hhead, hmiss⟩ :=
          Advances.nearMiss svc oj pyd rid t t' _ _ _ event op effects hadv hreach e hnew
        exact ⟨n, by omega, rid, t, hact, ht, hstarted, hits, best, hfound, hhead, hmiss⟩

variable [FloorRing F] (capacity : Nat) (minSamples : Int) (fmt : FloatFormat F)

/-- **Near misses.**  At every moment of a run: what is on record are searches that missed by
the window at most, against the threshold in force; the tracker reports on the last
`capacity` of them, its bins hold each of them once; and what it recommends, three quarters
of them reach. -/
theorem near_misses_reported (n : ℕ) (hn : n ≤ run.len) :
    let recorded := (run.state n).nearMisses
    let tracker := (run.state n).tracker capacity minSamples
    let report := tracker.report fmt
    (∀ e ∈ recorded, JustMissed run n e ∧ 0 < e.gap ∧ e.gap ≤ svc.cache.nearMissWindow) ∧
    tracker.events.toList = recorded.rtake capacity ∧
    report.count = min capacity recorded.length ∧
    (report.histogram.map Prod.snd).sum = report.count ∧
    ∀ recommended, report.recommendedThreshold = some recommended →
      3 * report.count ≤ 4 * tracker.events.toList.countP fun e => recommended ≤ e.score := by
  have hwindow := (run.state n).toList_tracker capacity minSamples
  obtain ⟨hcount, hsum⟩ := ((run.state n).tracker capacity minSamples).report_counts fmt
  refine ⟨?_, hwindow, ?_, hsum, ?_⟩
  · intro e he
    have hmissed := justMissed run htasks heffects n hn e he
    obtain ⟨m, hm, rid, t, -, -, -, found, best, -, -, hmiss⟩ := id hmissed
    exact ⟨hmissed, hmiss.gap_pos, hmiss.gap_le⟩
  · rw [hcount, hwindow, Deque.length_rtake]
  · intro recommended hrec
    obtain ⟨hne, -, rfl⟩ := (NearMissTracker.recommendedThreshold_iff _ fmt recommended).mp hrec
    have hscores : (((run.state n).tracker capacity minSamples).events.toList.map (·.score)) ≠ [] := by
      simpa using hne
    have h := NearMissTracker.recommended_recovers _ hscores
    rw [List.length_map, List.countP_map] at h
    rw [hcount]
    exact h

end

/-! ## Is it a lowering? -/

section
variable {F : Type} [Field F] [LinearOrder F] [IsStrictOrderedRing F] [FloorRing F]

/-- Whatever is recommended is below every threshold that was missed. -/
def Lowers (t : NearMissTracker F) (fmt : FloatFormat F) : Prop :=
  ∀ recommended, (t.report fmt).recommendedThreshold = some recommended →
    ∀ e ∈ t.events.toList, recommended < e.threshold

/-- A quarter of the events would give a recommendation below each threshold missed. -/
def EnoughBelow (window : List (NearMiss F)) : Prop :=
  ∀ e ∈ window, max 1 (window.length / 4) ≤
    window.countP fun e' => NearMissTracker.justBelow e'.score < e.threshold

theorem lowers_iff (t : NearMissTracker F) (fmt : FloatFormat F) :
    Lowers t fmt ↔ (t.events.toList.length : Int) < t.minSamples ∨ EnoughBelow t.events.toList := by
  have hquartile : t.events.toList ≠ [] → ∀ e ∈ t.events.toList,
      (NearMissTracker.justBelow (NearMissTracker.lowerQuartile (t.events.toList.map (·.score))) < e.threshold ↔
        max 1 (t.events.toList.length / 4) ≤
          t.events.toList.countP fun e' => NearMissTracker.justBelow e'.score < e.threshold) := by
    intro hne e _
    have hscores : t.events.toList.map (·.score) ≠ [] := by simpa using hne
    have h := NearMissTracker.recommended_lt_iff _ hscores e.threshold
    rwa [List.length_map, List.countP_map] at h
  constructor
  · intro hlowers
    by_cases hmin : t.minSamples ≤ t.events.toList.length
    · refine Or.inr fun e he => ?_
      have hne : t.events.toList ≠ [] := List.ne_nil_of_mem he
      exact (hquartile hne e he).mp
        (hlowers _ ((t.recommendedThreshold_iff fmt _).mpr ⟨hne, hmin, rfl⟩) e he)
    · exact Or.inl (not_le.mp hmin)
  · rintro hcases recommended hrec e he
    obtain ⟨hne, hmin, rfl⟩ := (t.recommendedThreshold_iff fmt recommended).mp hrec
    rcases hcases with hfew | henough
    · omega
    · exact (hquartile hne e he).mpr (henough e he)

/-- Events that missed one threshold lower it. -/
theorem enoughBelow_of_same (window : List (NearMiss F)) (hgap : ∀ e ∈ window, 0 < e.gap)
    (hsame : ∀ e ∈ window, ∀ e' ∈ window, e'.threshold = e.threshold) : EnoughBelow window := by
  intro e he
  have hall : (window.countP fun e' => NearMissTracker.justBelow e'.score < e.threshold) = window.length := by
    rw [List.countP_eq_length]
    intro e' he'
    have hbelow := NearMissTracker.justBelow_lt e'.score
    have hpos := hgap e' he'
    unfold NearMiss.gap at hpos
    rw [hsame e he e' he', sub_pos] at hpos
    rw [decide_eq_true_eq]
    exact hbelow.trans hpos
  have hpos := List.length_pos_of_mem he
  rw [hall]
  omega

variable {np : Numpy F} {oj : Orjson} {pyd : Pydantic} {svc : ProxyService F (AdaptiveThresholdEngine F)}
  {s₀ : State F (AdaptiveThresholdEngine F)} (run : Run (svc.step np oj pyd) s₀) (u : Unicode)
  (hpolicy : svc.thresholdPolicy = some (AdaptiveThresholdEngine.buildThresholdPolicy u))
  (htasks : ∀ rid, s₀.tasks rid = none) (heffects : s₀.effects = [])
  (capacity : Nat) (minSamples : Int) (fmt : FloatFormat F)
include hpolicy htasks heffects

/-- **Recommendations.**  With a threshold for each category, at every moment of a run: what is
recommended is below all thresholds that were in force for the window's events exactly when
there are too few events to recommend any, or enough events below each threshold; one
threshold in force for them all is enough. -/
theorem recommendation_lowers_iff (n : ℕ) (hn : n ≤ run.len) :
    let tracker := (run.state n).tracker capacity minSamples
    let window := tracker.events.toList
    (Lowers tracker fmt ↔ (window.length : Int) < minSamples ∨ EnoughBelow window) ∧
    ((∀ e ∈ window, ∀ e' ∈ window, e'.threshold = e.threshold) → Lowers tracker fmt) ∧
    ∀ e ∈ window, ∃ m < n, ∃ rid streaming request, run.act m = .request rid streaming request ∧
      e.threshold = ((run.state m).policy.policies (categorize u request.latestUserPrompt)).current := by
  have hwindow := (run.state n).toList_tracker capacity minSamples
  have hmissed : ∀ e ∈ ((run.state n).tracker capacity minSamples).events.toList, JustMissed run n e := by
    intro e he
    rw [hwindow] at he
    exact justMissed run htasks heffects n hn e (List.mem_of_mem_drop he)
  have hmin : ((run.state n).tracker capacity minSamples).minSamples = minSamples := by
    unfold State.tracker
    rw [foldl_recordOn]
  have hiff := lowers_iff ((run.state n).tracker capacity minSamples) fmt
  rw [hmin] at hiff
  refine ⟨hiff, fun hsame => hiff.mpr (Or.inr (enoughBelow_of_same _ ?_ hsame)), ?_⟩
  · intro e he
    obtain ⟨m, -, rid, t, -, -, -, found, best, -, -, hmiss⟩ := hmissed e he
    exact hmiss.gap_pos
  · intro e he
    obtain ⟨m, hm, rid, t, -, -, hstarted, found, best, -, -, hmiss⟩ := hmissed e he
    obtain ⟨k, hk, hact, hthreshold⟩ := hstarted
    refine ⟨k, by omega, rid, t.streaming, t.request, hact, ?_⟩
    rw [hmiss.threshold, hthreshold]
    unfold thresholdFor
    rw [hpolicy]
    rfl

end

/-! ## A run of two categories -/

def mixedEmbed (prompt : String) : List ℚ :=
  if prompt = "write a poem about the ocean" then [99 / 101, 20 / 101]
  else if prompt = "is this about the ocean" then [15 / 17, 8 / 17]
  else [1, 0]

def mixedService : ProxyService ℚ (AdaptiveThresholdEngine ℚ) where
  cache := { embed := mixedEmbed, threshold := 95 / 100, nearMissWindow := 5 / 100, topK := 5 }
  resolveProvider := plainService.resolveProvider
  thresholdPolicy := some (AdaptiveThresholdEngine.buildThresholdPolicy .ascii)
  hasNearMissTracker := true

/-- A buffered request, up to its search. -/
def lookedUp (seq : Nat) (prompt : String) : List (Action (AdaptiveThresholdEngine ℚ)) := [
  .request ⟨"team", seq⟩ false { model := "gpt-4o-mini", messages := [{ role := .user, content := some prompt }] },
  .task ⟨"team", seq⟩ .embedded,
  .task ⟨"team", seq⟩ .searched]

/-- The ocean is described and kept; one prompt to classify it just misses that, and nineteen
creative ones do. -/
def mixedActions : List (Action (AdaptiveThresholdEngine ℚ)) :=
  lookedUp 0 "describe the ocean" ++ [
    .task ⟨"team", 0⟩ (.completed framedText),
    .task ⟨"team", 0⟩ (.storeEmbedded someReadings.entryId),
    .task ⟨"team", 0⟩ .upserted] ++
  lookedUp 1 "is this about the ocean" ++
  (List.range 19).flatMap fun i => lookedUp (i + 2) "write a poem about the ocean"

/-- Score and threshold of what is on record after `mixedActions`. -/
def mixedScores : List (ℚ × ℚ) := (15 / 17, 91 / 100) :: List.replicate 19 (99 / 101, 985 / 1000)

theorem mixedActions_exec :
    ((Run.exec (mixedService.step (.sorting Rat.sqrt) framedCodec .strict) adaptiveStart mixedActions).map
      fun s => s.nearMisses.map fun e => (e.score, e.threshold)) = some mixedScores := by
  decide +kernel

theorem mixedActions_isSome :
    (Run.exec (mixedService.step (.sorting Rat.sqrt) framedCodec .strict) adaptiveStart mixedActions).isSome := by
  have h := congrArg Option.isSome mixedActions_exec
  rwa [Option.isSome_map] at h

def mixedRun : Run (mixedService.step (.sorting Rat.sqrt) framedCodec .strict) adaptiveStart :=
  .ofExec _ _ _ mixedActions (Option.some_get mixedActions_isSome).symm

theorem nearMisses_mixedRun :
    ((mixedRun.state 66).nearMisses.map fun e => (e.score, e.threshold)) = mixedScores := by
  have hend := Run.exec_take_ofExec _ _ _ mixedActions (Option.some_get mixedActions_isSome).symm 66
  have hall : mixedActions.take 66 = mixedActions := List.take_of_length_le (by decide)
  rw [hall] at hend
  have h := mixedActions_exec
  rw [hend] at h
  exact Option.some.inj h

theorem feedbackRecorded_mixedRun : FeedbackRecorded mixedRun := by
  intro n hn update hact
  have hmem := Run.act_mem_ofExec _ _ _ mixedActions (Option.some_get mixedActions_isSome).symm n hn
  replace hact : (Run.ofExec _ _ _ mixedActions (Option.some_get mixedActions_isSome).symm).act n = _ := hact
  rw [hact] at hmem
  simp [mixedActions, lookedUp] at hmem

/-- What the tracker's window says of scores and thresholds. -/
theorem window_mixedRun (capacity : Nat) (minSamples : Int) :
    (((mixedRun.state 66).tracker capacity minSamples).events.toList.map fun e => (e.score, e.threshold)) =
      mixedScores.rtake capacity := by
  rw [State.toList_tracker, ← nearMisses_mixedRun]
  unfold List.rtake
  rw [List.map_drop, List.length_map]

/-- Twenty are on record, and ten reported. -/
theorem near_misses_reported_mixedRun :
    (mixedRun.state 66).nearMisses.length = 20 ∧
      ∀ fmt, (((mixedRun.state 66).tracker 10 20).report fmt).count = 10 ∧
        ∀ e ∈ (mixedRun.state 66).nearMisses, e.gap ≤ 5 / 100 := by
  have hlength : (mixedRun.state 66).nearMisses.length = 20 := by
    have h := congrArg List.length nearMisses_mixedRun
    rwa [List.length_map] at h
  refine ⟨hlength, fun fmt => ?_⟩
  obtain ⟨hgaps, -, hcount, -⟩ := near_misses_reported mixedRun (fun _ => rfl) rfl 10 20 fmt 66 (by decide)
  rw [hlength] at hcount
  exact ⟨hcount, fun e he => (hgaps e he).2.2⟩

/-- The creative ones by themselves lower their threshold. -/
theorem recommendation_lowers_mixedRun :
    ((mixedRun.state 66).tracker 19 19).events.toList.length = 19 ∧
      ∀ fmt, Lowers ((mixedRun.state 66).tracker 19 19) fmt := by
  have hwindow := window_mixedRun 19 19
  refine ⟨?_, fun fmt => ?_⟩
  · have h := congrArg List.length hwindow
    rw [List.length_map] at h
    exact h
  · apply (recommendation_lowers_iff mixedRun .ascii rfl (fun _ => rfl) rfl 19 19 fmt 66 (by decide)).2.1
    have hsame : ∀ e ∈ ((mixedRun.state 66).tracker 19 19).events.toList, e.threshold = 985 / 1000 := by
      intro e he
      have hmem : (e.score, e.threshold) ∈ mixedScores.rtake 19 := by
        rw [← hwindow]
        exact List.mem_map.mpr ⟨e, he, rfl⟩
      have hall : ∀ p ∈ mixedScores.rtake 19, p.2 = 985 / 1000 := by decide +kernel
      exact hall _ hmem
    intro e he e' he'
    rw [hsame e he, hsame e' he']

/-- All together, what is recommended tightens the threshold of the one to classify. -/
theorem recommendation_raises_mixedRun :
    FeedbackRecorded mixedRun ∧
      (∃ e ∈ ((mixedRun.state 66).tracker 1000 20).events.toList, e.threshold = 91 / 100) ∧
      ∀ fmt, (((mixedRun.state 66).tracker 1000 20).report fmt).recommendedThreshold = some (975 / 1000) := by
  have hwindow := window_mixedRun 1000 20
  generalize htracker : (mixedRun.state 66).tracker 1000 20 = tracker at hwindow
  have hmin : tracker.minSamples = 20 := by
    rw [← htracker, State.tracker, foldl_recordOn]
  have hscores : tracker.events.toList.map (·.score) = mixedScores.map Prod.fst := by
    have h := congrArg (List.map Prod.fst) hwindow
    rw [List.map_map] at h
    exact h
  have hlength : tracker.events.toList.length = 20 := by
    have h := congrArg List.length hscores
    rwa [List.length_map] at h
  refine ⟨feedbackRecorded_mixedRun, ?_, fun fmt => ?_⟩
  · have hmem : (15 / 17, 91 / 100) ∈ tracker.events.toList.map fun e => (e.score, e.threshold) := by
      rw [hwindow]
      exact List.mem_cons_self
    obtain ⟨e, he, hpair⟩ := List.mem_map.mp hmem
    exact ⟨e, he, congrArg Prod.snd hpair⟩
  · rw [tracker.recommendedThreshold_iff fmt, hscores, hmin, hlength]
    refine ⟨?_, by decide, by decide +kernel⟩
    intro hnil
    rw [hnil] at hlength
    cases hlength

end ProxyService

end CachingLayer
