import CachingLayer.Basis.Sorted
import CachingLayer.Core.Config
import CachingLayer.Embeddings.Base
import CachingLayer.Providers.Base

/-!
# OpenAI's embeddings

A batch of texts in one `POST`, tried three times at most while it is lost or refused; the
vectors come with the indices of their texts, in any order, and are put in order.

Of a vendor that embeds each text by itself (`Embeds`) a batch gives every text the vector it
would be given alone, in the order of the texts (`batch_agrees`).
-/

namespace CachingLayer

open Text

/-- An item of `data`. -/
structure EmbeddingItem (F : Type) where
  index : Int
  embedding : List F

/-- `resp.json()`, as far as it is read. -/
structure EmbeddingBody (F : Type) where
  data : List (EmbeddingItem F)
  /-- `usage.total_tokens`. -/
  totalTokens : Int := 0

structure EmbeddingResponse (F : Type) where
  statusCode : Nat
  /-- What reading the body raises, if it does. -/
  body : Except PyError (EmbeddingBody F)

/-- `raise_for_status` passes. -/
def EmbeddingResponse.succeeds {F : Type} (resp : EmbeddingResponse F) : Bool :=
  200 ≤ resp.statusCode ∧ resp.statusCode < 300

abbrev EmbeddingNetwork (F : Type) := List Post → Except HttpxError (EmbeddingResponse F)

inductive EmbeddingError
  | httpx (e : HttpxError)
  /-- `HTTPStatusError`. -/
  | status (statusCode : Nat)
  | python (e : PyError)
  | indexError
deriving DecidableEq

/-- `_RETRYABLE`. -/
def EmbeddingError.retryable : EmbeddingError → Bool
  | httpx (.transport _) | status _ => true
  | _ => false

structure OpenAIEmbeddingService where
  apiKey : String
  baseUrl : String
  model : String
  dimensions : Int

namespace OpenAIEmbeddingService

section
variable {F : Type} [Field F] [LinearOrder F] (np : Numpy F) (svc : OpenAIEmbeddingService)
  (network : EmbeddingNetwork F) (texts : List String)

def post : Post where
  url := rstripSlash svc.baseUrl ++ "/embeddings"
  headers := [("Authorization", "Bearer " ++ svc.apiKey)]
  json := [("model", .str svc.model), ("input", .arr (texts.map .str)), ("dimensions", .int svc.dimensions)]

/-- `sorted(data, key=lambda d: d["index"])`. -/
def sortByIndex (data : List (EmbeddingItem F)) : List (EmbeddingItem F) :=
  data.insertionSort fun a b => a.index ≤ b.index

def read (resp : EmbeddingResponse F) : Except EmbeddingError (List (EmbeddingResult F)) :=
  if ¬ resp.succeeds then .error (.status resp.statusCode)
  else
    match resp.body with
    | .error e => .error (.python e)
    | .ok body =>
      let perItemTokens := body.totalTokens / (max texts.length 1 : Nat)
      .ok ((sortByIndex body.data).map fun item =>
        { vector := normalize np item.embedding
          model := svc.model, dimensions := svc.dimensions, tokens := perItemTokens })

/-- What one try answers, once its post is the last of `sent`. -/
def outcome (sent : List Post) : Except EmbeddingError (List (EmbeddingResult F)) :=
  match network sent with
  | .error e => .error (.httpx e)
  | .ok resp => svc.read np texts resp

/-- One try: for no texts nothing is posted. -/
def attempt (sent : List Post) : Except EmbeddingError (List (EmbeddingResult F)) × List Post :=
  if texts = [] then (.ok [], sent) else sending (svc.outcome np network texts) (svc.post texts) sent

/-- `embed_batch`: `stop_after_attempt(3)`. -/
def embedBatch (sent : List Post) : Except EmbeddingError (List (EmbeddingResult F)) × List Post :=
  retry EmbeddingError.retryable (svc.attempt np network texts) 2 sent

def embed (text : String) (sent : List Post) : Except EmbeddingError (EmbeddingResult F) × List Post :=
  match svc.embedBatch np network [text] sent with
  | (.error e, sent) => (.error e, sent)
  | (.ok results, sent) =>
    match results with
    | [] => (.error .indexError, sent)
    | result :: _ => (.ok result, sent)

end

/-- `build_embedding_service`, where the provider is not the fake one. -/
def ofSettings (settings : Settings) : OpenAIEmbeddingService where
  apiKey := settings.openaiApiKey
  baseUrl := settings.openaiBaseUrl
  model := settings.embeddingModel
  dimensions := settings.embeddingDimensions

/-! ## What a batch gives -/

/-- The answers to the service's posts embed each text by itself, and say which is which. -/
def Embeds {F : Type} (svc : OpenAIEmbeddingService) (network : EmbeddingNetwork F) (e : String → List F) : Prop :=
  ∀ sent texts resp, network (sent ++ [svc.post texts]) = .ok resp → resp.succeeds = true →
    ∃ body, resp.body = .ok body ∧
      body.data.Perm (texts.zipIdx.map fun text => { index := text.2, embedding := e text.1 })

section
variable {F : Type} [Field F] [LinearOrder F] (np : Numpy F) (svc : OpenAIEmbeddingService)
  (network : EmbeddingNetwork F) (e : String → List F) (texts : List String)

omit [Field F] [LinearOrder F] in
/-- In the order of the texts, whatever order they came in. -/
theorem sortByIndex_of_perm (data : List (EmbeddingItem F))
    (h : data.Perm (texts.zipIdx.map fun text => { index := text.2, embedding := e text.1 })) :
    (sortByIndex data).map EmbeddingItem.embedding = texts.map e := by
  have hsorted : (texts.zipIdx.map fun text => ({ index := text.2, embedding := e text.1 } :
      EmbeddingItem F)).Pairwise fun a b => a.index < b.index := by
    have hindices : (texts.zipIdx.map Prod.snd).Pairwise (· < ·) := by
      rw [List.zipIdx_map_snd]
      exact List.pairwise_lt_range'
    rw [List.pairwise_map] at hindices ⊢
    exact hindices.imp fun hlt => Int.ofNat_lt.mpr hlt
  unfold sortByIndex
  rw [insertionSort_of_perm EmbeddingItem.index _ data h hsorted, List.map_map]
  show texts.zipIdx.map (e ∘ Prod.fst) = _
  rw [← List.map_map, List.zipIdx_map_fst]

/-- What a batch that is answered gives. -/
def given (tokens : Int) : List (EmbeddingResult F) :=
  texts.map fun text =>
    { vector := normalize np (e text), model := svc.model, dimensions := svc.dimensions, tokens }

/-- How a batch ends, its last post made. -/
inductive Ends (sent : List Post) (k : ℕ) : Except EmbeddingError (List (EmbeddingResult F)) → Prop
  | given (resp : EmbeddingResponse F) (heard : network (afterSending (svc.post texts) sent (k + 1)) = .ok resp)
      (succeeds : resp.succeeds = true) (tokens : Int) : Ends sent k (.ok (svc.given np e texts tokens))
  | refused (resp : EmbeddingResponse F) (heard : network (afterSending (svc.post texts) sent (k + 1)) = .ok resp)
      (fails : resp.succeeds = false) (last : k = 2) : Ends sent k (.error (.status resp.statusCode))
  | lost (err : HttpxError) (heard : network (afterSending (svc.post texts) sent (k + 1)) = .error err)
      (last : (∃ message, err = .transport message) → k = 2) : Ends sent k (.error (.httpx err))

/-- A post that is answered with success. -/
def Answered (sent : List Post) : Prop := ∃ resp, network sent = .ok resp ∧ resp.succeeds = true

/-- A post that is to be made again. -/
def Missed (sent : List Post) : Prop :=
  (∃ message, network sent = .error (.transport message)) ∨ ∃ resp, network sent = .ok resp ∧ resp.succeeds = false

theorem outcome_retryable (sent : List Post) (err : EmbeddingError)
    (h : svc.outcome np network texts sent = .error err) (hagain : err.retryable = true) : Missed network sent := by
  unfold outcome at h
  cases hn : network sent with
  | error err' =>
    rw [hn] at h
    obtain rfl := Except.error.inj h
    cases err' with
    | transport message => exact Or.inl ⟨message, hn⟩
    | other message => cases hagain
  | ok resp =>
    rw [hn] at h
    refine Or.inr ⟨resp, hn, ?_⟩
    by_contra hsucceeds
    change svc.read np texts resp = _ at h
    unfold read at h
    rw [if_neg (by simpa using hsucceeds)] at h
    cases hbody : resp.body with
    | error err' =>
      rw [hbody] at h
      obtain rfl := Except.error.inj h
      cases hagain
    | ok body => rw [hbody] at h; cases h

section
variable (he : svc.Embeds network e)
include he

theorem outcome_of_embeds (sent : List Post) :
    (∃ resp tokens, network (sent ++ [svc.post texts]) = .ok resp ∧ resp.succeeds = true ∧
        svc.outcome np network texts (sent ++ [svc.post texts]) = .ok (svc.given np e texts tokens)) ∨
      (∃ resp, network (sent ++ [svc.post texts]) = .ok resp ∧ resp.succeeds = false ∧
        svc.outcome np network texts (sent ++ [svc.post texts]) = .error (.status resp.statusCode)) ∨
      ∃ err, network (sent ++ [svc.post texts]) = .error err ∧
        svc.outcome np network texts (sent ++ [svc.post texts]) = .error (.httpx err) := by
  unfold outcome
  cases hn : network (sent ++ [svc.post texts]) with
  | error err => exact Or.inr (Or.inr ⟨err, rfl, rfl⟩)
  | ok resp =>
    unfold read
    cases hsucceeds : resp.succeeds with
    | false => exact Or.inr (Or.inl ⟨resp, rfl, hsucceeds, if_pos (by simp [hsucceeds])⟩)
    | true =>
      obtain ⟨body, hbody, hperm⟩ := he sent texts resp hn hsucceeds
      refine Or.inl ⟨resp, body.totalTokens / (max texts.length 1 : Nat), rfl, hsucceeds, ?_⟩
      have hvectors := congrArg (List.map fun v => ({
        vector := normalize np v, model := svc.model, dimensions := svc.dimensions
        tokens := body.totalTokens / (max texts.length 1 : Nat) } : EmbeddingResult F))
        (sortByIndex_of_perm e texts body.data hperm)
      rw [List.map_map, List.map_map] at hvectors
      simp only [hbody]
      rw [if_neg (by simp [hsucceeds])]
      exact congrArg Except.ok hvectors

/-- **A batch.**  The same post is made again until it is answered with success, three times
at most; and then the texts are given their vectors. -/
theorem embedBatch_ends (hne : texts ≠ []) (sent : List Post) :
    ∃ k ≤ 2, (∀ j < k, Missed network (afterSending (svc.post texts) sent (j + 1))) ∧
      svc.Ends np network e texts sent k (svc.embedBatch np network texts sent).1 ∧
      (svc.embedBatch np network texts sent).2 = afterSending (svc.post texts) sent (k + 1) := by
  have hattempt : svc.attempt np network texts = sending (svc.outcome np network texts) (svc.post texts) := by
    funext sent
    exact if_neg hne
  obtain ⟨k, hsent, hk⟩ := exists_sent EmbeddingError.retryable (svc.outcome np network texts) (svc.post texts) 2 sent
  unfold embedBatch
  rw [hattempt, hk]
  refine ⟨k, hsent.le, fun j hj => ?_, ?_, rfl⟩
  · obtain ⟨err, herr, hagain⟩ := hsent.failed j hj
    exact svc.outcome_retryable np network texts _ err herr hagain
  · have hlast := hsent.settled
    have houtcome := svc.outcome_of_embeds np network e texts he (afterSending (svc.post texts) sent k)
    rw [afterSending_succ] at houtcome
    show svc.Ends np network e texts sent k (svc.outcome np network texts _)
    rcases houtcome with ⟨resp, tokens, hheard, hsucceeds, hout⟩ | ⟨resp, hheard, hfails, hout⟩ | ⟨err, hheard, hout⟩
    · rw [hout]
      exact .given resp hheard hsucceeds tokens
    · rw [hout] at hlast ⊢
      refine .refused resp hheard hfails (hlast.resolve_right fun h => ?_)
      cases h _ rfl
    · rw [hout] at hlast ⊢
      refine .lost err hheard ?_
      rintro ⟨message, rfl⟩
      refine hlast.resolve_right fun h => ?_
      cases h _ rfl

theorem vectors_of_embedBatch (sent : List Post) (results : List (EmbeddingResult F))
    (h : (svc.embedBatch np network texts sent).1 = .ok results) :
    results.map EmbeddingResult.vector = texts.map fun text => normalize np (e text) := by
  by_cases hne : texts = []
  · subst hne
    obtain rfl := Except.ok.inj h
    rfl
  · obtain ⟨k, -, -, hends, -⟩ := svc.embedBatch_ends np network e texts he hne sent
    rw [h] at hends
    cases hends with
    | given resp hheard hsucceeds tokens => exact List.map_map

theorem vector_of_embed (text : String) (sent : List Post) (result : EmbeddingResult F)
    (h : (svc.embed np network text sent).1 = .ok result) : result.vector = normalize np (e text) := by
  unfold embed at h
  rcases hbatch : svc.embedBatch np network [text] sent with ⟨_ | results, sent'⟩
  · rw [hbatch] at h
    cases h
  · have hvectors := svc.vectors_of_embedBatch np network e [text] he sent results (congrArg Prod.fst hbatch)
    rw [hbatch] at h
    cases results with
    | nil => cases h
    | cons first rest =>
      obtain rfl := Except.ok.inj h
      exact (List.cons.inj hvectors).1

theorem succeeds_iff (hne : texts ≠ []) (sent : List Post) :
    (∃ results, (svc.embedBatch np network texts sent).1 = .ok results) ↔
      ∃ k ≤ 2, Answered network (afterSending (svc.post texts) sent (k + 1)) ∧
        ∀ j < k, Missed network (afterSending (svc.post texts) sent (j + 1)) := by
  obtain ⟨k, hle, hmissed, hends, -⟩ := svc.embedBatch_ends np network e texts he hne sent
  constructor
  · rintro ⟨results, hresults⟩
    rw [hresults] at hends
    cases hends with
    | given resp hheard hsucceeds tokens => exact ⟨k, hle, ⟨resp, hheard, hsucceeds⟩, hmissed⟩
  · rintro ⟨k', hle', ⟨resp', hheard', hsucceeds'⟩, hmissed'⟩
    -- the post that is answered is not one that is made again
    have hnot : ¬ Missed network (afterSending (svc.post texts) sent (k' + 1)) := by
      rintro (⟨message, hlost⟩ | ⟨resp, hheard, hfails⟩)
      · rw [hheard'] at hlost
        cases hlost
      · obtain rfl := Except.ok.inj (hheard'.symm.trans hheard)
        rw [hsucceeds'] at hfails
        cases hfails
    have hk : k ≤ k' := by
      by_contra hlt
      exact hnot (hmissed k' (Nat.not_le.mp hlt))
    generalize hanswer : (svc.embedBatch np network texts sent).1 = answer at hends
    cases hends with
    | given resp hheard hsucceeds tokens => exact ⟨_, rfl⟩
    | refused resp hheard hfails hlast =>
      obtain rfl : k = k' := by omega
      exact absurd (Or.inr ⟨resp, hheard, hfails⟩) hnot
    | lost err hheard hlast =>
      rcases Nat.lt_or_eq_of_le hk with hlt | rfl
      · rcases hmissed' k hlt with ⟨message, hlost⟩ | ⟨resp, hheard', -⟩
        · have := hlast ⟨message, Except.error.inj (hheard.symm.trans hlost)⟩
          omega
        · rw [hheard] at hheard'
          cases hheard'
      · rw [hheard] at hheard'
        cases hheard'

variable [IsStrictOrderedRing F] (hexact : ExactSqrt np)
include hexact

omit e texts he in
/-- **Batches agree with single texts.**  No texts post nothing; for others the same post is made
three times at most, and there are results if one of these is answered with success and those
before it were lost or refused.  Then each text has, in its place, the vector that it has
when it is embedded alone; and the dot product of two of them is the similarity of what
the vendor gave. -/
theorem batch_agrees (e : String → List F) (he : svc.Embeds network e) :
    (∀ sent, svc.embedBatch np network [] sent = (.ok [], sent)) ∧
      (∀ texts sent, texts ≠ [] →
        (∃ n, 1 ≤ n ∧ n ≤ 3 ∧ (svc.embedBatch np network texts sent).2 = afterSending (svc.post texts) sent n) ∧
          ((∃ results, (svc.embedBatch np network texts sent).1 = .ok results) ↔
            ∃ k ≤ 2, Answered network (afterSending (svc.post texts) sent (k + 1)) ∧
              ∀ j < k, Missed network (afterSending (svc.post texts) sent (j + 1)))) ∧
      (∀ texts sent results, (svc.embedBatch np network texts sent).1 = .ok results →
        results.map EmbeddingResult.vector = texts.map fun text => normalize np (e text)) ∧
      (∀ text sent result, (svc.embed np network text sent).1 = .ok result → result.vector = normalize np (e text)) ∧
      ∀ a b, dot (normalize np (e a)) (normalize np (e b)) = rowSimilarity np (e a) (e b) := by
  refine ⟨fun sent => rfl, fun texts sent hne => ⟨?_, ?_⟩, fun texts sent results h => ?_, fun text sent result h => ?_,
    fun a b => ?_⟩
  · obtain ⟨k, hle, -, -, hsent⟩ := svc.embedBatch_ends np network e texts he hne sent
    exact ⟨k + 1, by omega, by omega, hsent⟩
  · exact svc.succeeds_iff np network e texts he hne sent
  · exact svc.vectors_of_embedBatch np network e texts he sent results h
  · exact svc.vector_of_embed np network e he text sent result h
  · rw [dot_normalize np hexact, rowSimilarity_normalize np hexact]

end

end

/-- A vendor that loses the first post, and gives the vectors of the others back to front. -/
def backToFront : EmbeddingNetwork ℝ := fun sent =>
  match sent.tail.getLast? with
  | none => .error (.transport "reset")
  | some post =>
    match post.json.lookup "input" with
    | some (.arr texts) => .ok { statusCode := 200, body := .ok { totalTokens := 9, data :=
        (texts.zipIdx.map fun text => {
          index := text.2
          embedding := match text.1 with | .str s => [(s.length : ℝ), 1] | _ => [] }).reverse } }
    | _ => .error (.other "no input")

theorem embeds_backToFront (svc : OpenAIEmbeddingService) :
    svc.Embeds backToFront fun text => [(text.length : ℝ), 1] := by
  intro sent texts resp hn _
  cases sent with
  | nil => cases hn
  | cons first rest =>
    have hlast : (first :: rest ++ [svc.post texts]).tail.getLast? = some (svc.post texts) := by simp
    unfold backToFront at hn
    rw [hlast] at hn
    obtain rfl := Except.ok.inj hn
    refine ⟨_, rfl, (List.reverse_perm _).trans ?_⟩
    rw [List.zipIdx_map, List.map_map]
    exact List.Perm.of_eq (List.map_congr_left fun text _ => rfl)

theorem batch_agrees_real :
    ∃ results sent, (OpenAIEmbeddingService.mk "" "" "m" 2).embedBatch (.sorting Real.sqrt) backToFront
        ["alpha", "pi"] [] = (.ok results, sent) ∧ sent.length = 2 ∧
      results.map EmbeddingResult.vector = [normalize (.sorting Real.sqrt) [5, 1], normalize (.sorting Real.sqrt) [2, 1]] := by
  have hexact : ExactSqrt (.sorting Real.sqrt) := ⟨fun x _ => Real.sqrt_nonneg x, fun x hx => Real.sq_sqrt hx⟩
  obtain ⟨-, hposts, hvectors, -, -⟩ := batch_agrees (.sorting Real.sqrt) (OpenAIEmbeddingService.mk "" "" "m" 2)
    backToFront hexact _ (embeds_backToFront _)
  have hlost : ∀ j < 1, Missed backToFront (afterSending ((OpenAIEmbeddingService.mk "" "" "m" 2).post ["alpha", "pi"])
      [] (j + 1)) := by
    intro j hj
    obtain rfl : j = 0 := by omega
    exact Or.inl ⟨"reset", rfl⟩
  obtain ⟨results, hresults⟩ := (hposts ["alpha", "pi"] [] (by simp)).2.mpr ⟨1, by omega, ⟨_, rfl, rfl⟩, hlost⟩
  refine ⟨results, _, Prod.ext hresults rfl, rfl, ?_⟩
  have h := hvectors _ _ _ hresults
  norm_num at h
  exact h

end OpenAIEmbeddingService

end CachingLayer
