import CachingLayer.Proxy.Streaming

/-!
# What an assembler has read

Closed forms, over all streams.  Pushing raises exactly when some decoded payload is
not of the shape `_merge` takes apart (`Json.mergeable`), and otherwise the assembler
holds `reassembled` of the decoded payloads (`pushAll_eq_ok_iff`); building raises
exactly when what was read is not of the types the response model wants
(`Parts.buildable`).
-/

namespace CachingLayer

open Text

/-! ## The shape of a payload -/

namespace Json

/-- A dict's entries. -/
def entries : Json → Dict
  | obj kvs => kvs
  | _ => []

def isObj : Json → Bool
  | obj _ => true
  | _ => false

/-- A choice `_merge` takes apart: a dict whose `delta`, if given, is a dict. -/
def mergeableChoice (c : Json) : Bool := c.isObj && (c.entries.get "delta" (.obj [])).isObj

/-- The choices of a payload, when they can be iterated over. -/
def choices (j : Json) : Except PyError (List Json) := (j.entries.get "choices" (.arr [])).iter

/-- A payload `_merge` takes apart. -/
def mergeable (j : Json) : Bool :=
  j.isObj &&
    match j.choices with
    | .ok cs => cs.all mergeableChoice
    | .error _ => false

/-- The choices merged. -/
def choiceList (j : Json) : List Json :=
  match j.choices with
  | .ok cs => cs
  | .error _ => []

def choiceContent (c : Json) : Json := (c.entries.get "delta" (.obj [])).entries.get "content" .null

def choiceFinish (c : Json) : Json := c.entries.get "finish_reason" .null

/-- The content deltas of a payload, empty ones apart. -/
def contents (j : Json) : List Json := (j.choiceList.map choiceContent).filter truthy

def finishes (j : Json) : List Json := (j.choiceList.map choiceFinish).filter truthy

/-- The value of a key, when given: `null` counts. -/
def given (key : String) (j : Json) : Option Json := j.entries.lookup key

def usages (j : Json) : List Json := [j.entries.get "usage" .null].filter truthy

end Json

/-- What the payloads `js` leave in an assembler. -/
def reassembled (js : List Json) : Parts where
  contentParts := js.flatMap Json.contents
  finishReason := (js.flatMap Json.finishes).getLastD .null
  id := (js.filterMap (Json.given "id")).getLastD .null
  created := (js.filterMap (Json.given "created")).getLastD .null
  usage := (js.flatMap Json.usages).getLastD .null

/-- The payloads that are decoded: `[DONE]` apart, those `loads` accepts. -/
def decoded (oj : Orjson) (payloads : List Bytes) : List Json :=
  (payloads.filter (· ≠ doneMarker)).filterMap oj.loads

/-! ## Merging is total on mergeable payloads -/

namespace Parts

/-- A choice merged. -/
def addChoice (p : Parts) (c : Json) : Parts :=
  { p with
    contentParts := if c.choiceContent.truthy then p.contentParts ++ [c.choiceContent] else p.contentParts
    finishReason := orKeep c.choiceFinish p.finishReason }

/-- A payload merged. -/
def add (p : Parts) (j : Json) : Parts where
  contentParts := p.contentParts ++ j.contents
  finishReason := j.finishes.getLastD p.finishReason
  id := (j.given "id").getD p.id
  created := (j.given "created").getD p.created
  usage := j.usages.getLastD p.usage
  completed := p.completed

/-- A payload consumed. -/
def absorb (oj : Orjson) (p : Parts) (payload : Bytes) : Parts :=
  if payload = doneMarker then { p with completed := true }
  else
    match oj.loads payload with
    | none => p
    | some j => p.add j

theorem mergeChoice_eq_ok_iff (p : Parts) (c : Json) (p' : Parts) :
    p.mergeChoice c = .ok p' ↔ c.mergeableChoice = true ∧ p' = p.addChoice c := by
  cases c with
  | obj d =>
    show (do let delta ← (Dict.get d "delta" (.obj [])).asDict; _) = _ ↔
      (Dict.get d "delta" (.obj [])).isObj = true ∧ p' = p.addChoice (.obj d)
    cases hd : Dict.get d "delta" (.obj []) with
    | obj delta =>
      have hc : (Json.obj d).choiceContent = Dict.get delta "content" .null := by
        unfold Json.choiceContent Json.entries; rw [hd]
      unfold addChoice
      rw [hc]
      constructor
      · intro h; exact ⟨rfl, (Except.ok.inj h).symm⟩
      · rintro ⟨-, rfl⟩; rfl
    | _ => simp [Json.asDict, Json.isObj, bind, Except.bind]
  | _ => simp [mergeChoice, Json.asDict, Json.mergeableChoice, Json.isObj, bind, Except.bind]

/-- The choices of one payload, merged one after another. -/
theorem foldl_addChoice (cs : List Json) (p : Parts) :
    cs.foldl addChoice p = { p with
      contentParts := p.contentParts ++ (cs.map Json.choiceContent).filter Json.truthy
      finishReason := ((cs.map Json.choiceFinish).filter Json.truthy).getLastD p.finishReason } := by
  induction cs generalizing p with
  | nil => simp
  | cons c cs ih =>
    rw [List.foldl_cons, ih]
    unfold addChoice orKeep
    by_cases h1 : c.choiceContent.truthy = true <;> by_cases h2 : c.choiceFinish.truthy = true <;>
      simp only [h1, h2, List.map_cons, List.filter_cons, List.getLastD_cons, if_true,
        Bool.false_eq_true, if_false, List.append_assoc, List.cons_append, List.nil_append]

theorem merge_eq_ok_iff (p : Parts) (j : Json) (p' : Parts) :
    p.merge j = .ok p' ↔ j.mergeable = true ∧ p' = p.add j := by
  cases j with
  | obj d =>
    show (do let choices ← (Dict.get d "choices" (.arr [])).iter; _) = _ ↔ (true && _) = true ∧ _
    have hch : (Json.obj d).choices = (Dict.get d "choices" (.arr [])).iter := rfl
    unfold add Json.contents Json.finishes Json.choiceList
    rw [Bool.true_and, hch]
    cases (Dict.get d "choices" (.arr [])).iter with
    | error e => simp [bind, Except.bind]
    | ok cs =>
      show cs.foldlM mergeChoice _ = .ok p' ↔ _
      rw [Fold.foldlM_eq_ok_iff mergeChoice addChoice Json.mergeableChoice mergeChoice_eq_ok_iff,
        foldl_addChoice, List.all_eq_true]
      have hu : (Json.obj d).usages.getLastD p.usage = orKeep (Dict.get d "usage" .null) p.usage := by
        unfold Json.usages orKeep
        by_cases h : (Dict.get d "usage" .null).truthy = true
        · rw [if_pos h]; simp [Json.entries, h]
        · rw [if_neg h]; simp [Json.entries, h]
      rw [hu]
      rfl
  | _ => simp [merge, Json.asDict, Json.mergeable, Json.isObj, bind, Except.bind]

theorem foldl_add (js : List Json) (p : Parts) :
    js.foldl add p =
      { contentParts := p.contentParts ++ js.flatMap Json.contents
        finishReason := (js.flatMap Json.finishes).getLastD p.finishReason
        id := (js.filterMap (Json.given "id")).getLastD p.id
        created := (js.filterMap (Json.given "created")).getLastD p.created
        usage := (js.flatMap Json.usages).getLastD p.usage
        completed := p.completed } := by
  induction js generalizing p with
  | nil => simp
  | cons j js ih =>
    rw [List.foldl_cons, ih]
    simp only [add, List.flatMap_cons, Fold.getLastD_append, List.append_assoc, List.filterMap_cons]
    cases j.given "id" <;> cases j.given "created" <;> simp only [Option.getD, List.getLastD_cons]

/-- Consuming payloads is merging the decoded ones, and noting `[DONE]`. -/
theorem foldl_absorb (oj : Orjson) (ps : List Bytes) (p : Parts) :
    ps.foldl (absorb oj) p =
      { (decoded oj ps).foldl add p with completed := p.completed || decide (doneMarker ∈ ps) } := by
  induction ps generalizing p with
  | nil => simp [decoded]
  | cons x ps ih =>
    rw [List.foldl_cons, ih]
    unfold absorb decoded
    by_cases hx : x = doneMarker
    · subst hx
      rw [if_pos rfl, foldl_add, foldl_add]
      simp
    · rw [if_neg hx, List.filter_cons_of_pos (by simpa using hx), List.filterMap_cons]
      have hmem : decide (doneMarker ∈ x :: ps) = decide (doneMarker ∈ ps) := by
        simp only [List.mem_cons, Ne.symm hx, false_or]
      rw [hmem]
      cases oj.loads x with
      | none => rfl
      | some j => rfl

theorem consumePayload_eq_ok_iff (oj : Orjson) (p : Parts) (x : Bytes) (p' : Parts) :
    p.consumePayload oj x = .ok p' ↔
      (x = doneMarker ∨ ∀ j ∈ oj.loads x, j.mergeable = true) ∧ p' = p.absorb oj x := by
  unfold consumePayload absorb
  by_cases hx : x = doneMarker
  · rw [if_pos hx, if_pos hx]
    constructor
    · intro h; exact ⟨Or.inl hx, (Except.ok.inj h).symm⟩
    · rintro ⟨-, rfl⟩; rfl
  · rw [if_neg hx, if_neg hx, or_iff_right hx]
    cases oj.loads x with
    | none =>
      constructor
      · intro h; exact ⟨by simp, (Except.ok.inj h).symm⟩
      · rintro ⟨-, rfl⟩; rfl
    | some j =>
      show p.merge j = .ok p' ↔ _
      rw [merge_eq_ok_iff]
      simp only [Option.mem_def, Option.some.injEq, forall_eq']

end Parts

/-- **Pushing.**  Any chunks: raises exactly when a decoded payload is not mergeable. -/
theorem StreamAssembler.pushAll_eq_ok_iff (oj : Orjson) (model : String) (chunks : List Bytes)
    (a : StreamAssembler) :
    (new model).pushAll oj chunks = .ok a ↔
      (∀ j ∈ decoded oj (streamPayloads chunks.flatten), j.mergeable = true) ∧
        a = ⟨model, (Framing.splitAll blankLine chunks.flatten).2,
          { reassembled (decoded oj (streamPayloads chunks.flatten)) with
            completed := decide (doneMarker ∈ streamPayloads chunks.flatten) }⟩ := by
  have hok : ∀ p x p', Parts.consumePayload oj p x = .ok p' ↔
      (decide (x = doneMarker) || (oj.loads x).all Json.mergeable) = true ∧ p' = p.absorb oj x := by
    intro p x p'
    rw [Parts.consumePayload_eq_ok_iff, Bool.or_eq_true, decide_eq_true_eq, Option.all_eq_true]
    rfl
  have hall : (∀ x ∈ streamPayloads chunks.flatten,
      (decide (x = doneMarker) || (oj.loads x).all Json.mergeable) = true) ↔
      ∀ j ∈ decoded oj (streamPayloads chunks.flatten), j.mergeable = true := by
    unfold decoded
    constructor
    · intro h j hj
      obtain ⟨x, hx, hxj⟩ := List.mem_filterMap.mp hj
      obtain ⟨hx, hne⟩ := List.mem_filter.mp hx
      simpa [of_decide_eq_true hne, hxj] using h x hx
    · intro h x hx
      rw [Bool.or_eq_true, decide_eq_true_eq, or_iff_not_imp_left, Option.all_eq_true]
      intro hne j hj
      exact h j (List.mem_filterMap.mpr ⟨x, List.mem_filter.mpr ⟨hx, by simpa using hne⟩, hj⟩)
  have hend : (streamPayloads chunks.flatten).foldl (Parts.absorb oj) {} =
      { reassembled (decoded oj (streamPayloads chunks.flatten)) with
        completed := decide (doneMarker ∈ streamPayloads chunks.flatten) } := by
    rw [Parts.foldl_absorb, Parts.foldl_add, reassembled]
    simp only [List.nil_append, Bool.false_or]
  rw [pushAll_new, Fold.map_eq_ok_iff]
  constructor
  · rintro ⟨p, hp, rfl⟩
    obtain ⟨hm, rfl⟩ := (Fold.foldlM_eq_ok_iff _ _ _ hok _ _ _).mp hp
    exact ⟨hall.mp hm, by rw [hend]⟩
  · rintro ⟨hm, rfl⟩
    exact ⟨_, (Fold.foldlM_eq_ok_iff _ _ _ hok _ _ _).mpr ⟨hall.mpr hm, hend.symm⟩, rfl⟩

/-! ## Building the response -/

namespace Json

def isStr : Json → Bool
  | str _ => true
  | _ => false

/-- A string's text. -/
def text : Json → String
  | str s => s
  | _ => ""

end Json

/-- `d` as the fields of a `CompletionUsage`: each is absent or accepted as an integer. -/
def usageValid (pyd : Pydantic) (d : Dict) : Bool :=
  usageFields.all fun name => (d.lookup name).all fun v => (pyd.int v).isSome

def usageField (pyd : Pydantic) (d : Dict) (name : String) : Int :=
  ((d.lookup name).bind pyd.int).getD 0

namespace Parts

/-- `usage` as sent, when it was. -/
def usageSent (pyd : Pydantic) (d : Dict) : CompletionUsage where
  promptTokens := usageField pyd d "prompt_tokens"
  completionTokens := usageField pyd d "completion_tokens"
  totalTokens := usageField pyd d "total_tokens"

/-- What was read has the types the response model wants. -/
def buildable (pyd : Pydantic) (p : Parts) : Bool :=
  p.contentParts.all Json.isStr &&
    (!p.usage.truthy || (p.usage.isObj && usageValid pyd p.usage.entries)) &&
    (!p.finishReason.truthy || p.finishReason.isStr) &&
    (!p.id.truthy || p.id.isStr) &&
    (!p.created.truthy || (pyd.int p.created).isSome)

/-- The response of parts that are buildable. -/
def response (pyd : Pydantic) (uuid : String) (now : Int) (model : String) (p : Parts) :
    ChatCompletionResponse where
  id := (orKeep p.id (.str (ChatCompletionResponse.freshId uuid))).text
  created := (pyd.int (orKeep p.created (.int now))).getD 0
  model := model
  usage :=
    if p.usage.truthy then usageSent pyd p.usage.entries
    else StreamAssembler.estimateUsage (String.join (p.contentParts.map Json.text))
  choices :=
    [{ index := 0
       message := { role := .assistant, content := some (String.join (p.contentParts.map Json.text)) }
       finishReason := some (orKeep p.finishReason (.str "stop")).text }]

theorem validateStr_eq_ok_iff (j : Json) (s : String) :
    validateStr j = .ok s ↔ j.isStr = true ∧ s = j.text := by
  cases j <;> simp [validateStr, Json.isStr, Json.text, eq_comm]

theorem validateInt_eq_ok_iff (pyd : Pydantic) (j : Json) (i : Int) :
    validateInt pyd j = .ok i ↔ (pyd.int j).isSome = true ∧ i = (pyd.int j).getD 0 := by
  unfold validateInt
  cases pyd.int j <;> simp [eq_comm]

theorem joinContent_eq_ok_iff (cs : List Json) (s : String) :
    StreamAssembler.joinContent cs = .ok s ↔
      cs.all Json.isStr = true ∧ s = String.join (cs.map Json.text) := by
  have hpart : ∀ j t, StreamAssembler.joinPart j = .ok t ↔ j.isStr = true ∧ t = j.text := by
    intro j t
    cases j <;> simp [StreamAssembler.joinPart, Json.isStr, Json.text, eq_comm]
  unfold StreamAssembler.joinContent
  rw [List.all_eq_true, Fold.map_eq_ok_iff]
  simp only [Fold.mapM_eq_ok_iff _ _ _ hpart]
  constructor
  · rintro ⟨ss, ⟨hall, rfl⟩, rfl⟩; exact ⟨hall, rfl⟩
  · rintro ⟨hall, rfl⟩; exact ⟨_, ⟨hall, rfl⟩, rfl⟩

theorem field_int_eq_ok_iff (pyd : Pydantic) (d : Dict) (name : String) (i : Int) :
    field d name (some 0) (validateInt pyd) = .ok i ↔
      ((d.lookup name).all fun v => (pyd.int v).isSome) = true ∧ i = usageField pyd d name := by
  unfold field usageField
  cases d.lookup name with
  | none => simp [eq_comm]
  | some v => exact validateInt_eq_ok_iff pyd v i

theorem modelValidate_usage_eq_ok_iff (pyd : Pydantic) (d : Dict) (u : CompletionUsage) :
    CompletionUsage.modelValidate pyd (d.filter fun kv => kv.1 ∈ usageFields) = .ok u ↔
      usageValid pyd d = true ∧ u = usageSent pyd d := by
  have hextra : Extra.of usageFields (d.filter fun kv => kv.1 ∈ usageFields) = .none _ := by
    unfold Extra.of Extra.none
    congr 1
    rw [List.filter_filter, List.filter_eq_nil_iff]
    simp
  have hvalid : usageValid pyd d = true ↔
      ((d.lookup "prompt_tokens").all fun v => (pyd.int v).isSome) = true ∧
      ((d.lookup "completion_tokens").all fun v => (pyd.int v).isSome) = true ∧
      ((d.lookup "total_tokens").all fun v => (pyd.int v).isSome) = true := by
    simp only [usageValid, List.all_cons, List.all_nil, Bool.and_true, Bool.and_eq_true]
  unfold CompletionUsage.modelValidate usageSent
  rw [hextra, hvalid]
  simp only [Fold.bind_eq_ok_iff, field_int_eq_ok_iff, usageField,
    Dict.lookup_filter _ _ _ (show "prompt_tokens" ∈ usageFields by simp),
    Dict.lookup_filter _ _ _ (show "completion_tokens" ∈ usageFields by simp),
    Dict.lookup_filter _ _ _ (show "total_tokens" ∈ usageFields by simp)]
  constructor
  · rintro ⟨_, ⟨h1, rfl⟩, _, ⟨h2, rfl⟩, _, ⟨h3, rfl⟩, h⟩
    exact ⟨⟨h1, h2, h3⟩, (Except.ok.inj h).symm⟩
  · rintro ⟨⟨h1, h2, h3⟩, rfl⟩
    exact ⟨_, ⟨h1, rfl⟩, _, ⟨h2, rfl⟩, _, ⟨h3, rfl⟩, rfl⟩

theorem buildUsage_eq_ok_iff (pyd : Pydantic) (usage : Json) (content : String) (u : CompletionUsage) :
    StreamAssembler.buildUsage pyd usage content = .ok u ↔
      (!usage.truthy || (usage.isObj && usageValid pyd usage.entries)) = true ∧
        u = if usage.truthy then usageSent pyd usage.entries
          else StreamAssembler.estimateUsage content := by
  unfold StreamAssembler.buildUsage
  by_cases ht : usage.truthy = true
  · rw [if_pos ht, if_pos ht, ht, Bool.not_true, Bool.false_or, Bool.and_eq_true]
    cases usage with
    | obj d =>
      show CompletionUsage.modelValidate pyd _ = .ok u ↔ _
      rw [modelValidate_usage_eq_ok_iff]
      simp [Json.isObj, Json.entries]
    | _ => simp [Json.asDict, Json.isObj, bind, Except.bind]
  · rw [if_neg ht, if_neg ht]
    simp [ht, eq_comm]

theorem isStr_orKeep (j : Json) (s : String) :
    (orKeep j (.str s)).isStr = (!j.truthy || j.isStr) := by
  unfold orKeep
  by_cases h : j.truthy = true
  · rw [if_pos h, h, Bool.not_true, Bool.false_or]
  · rw [if_neg h, Bool.eq_false_iff.mpr h]; rfl

theorem isSome_int_orKeep (pyd : Pydantic) (j : Json) (i : Int) :
    (pyd.int (orKeep j (.int i))).isSome = (!j.truthy || (pyd.int j).isSome) := by
  unfold orKeep
  by_cases h : j.truthy = true
  · rw [if_pos h, h, Bool.not_true, Bool.false_or]
  · rw [if_neg h, Bool.eq_false_iff.mpr h, pyd.int_int]; rfl

end Parts

/-- **Building.**  Raises exactly when the parts are not buildable. -/
theorem StreamAssembler.buildResponse_eq_ok_iff (pyd : Pydantic) (uuid : String) (now : Int)
    (a : StreamAssembler) (r : ChatCompletionResponse) :
    a.buildResponse pyd uuid now = .ok r ↔
      a.parts.buildable pyd = true ∧ r = a.parts.response pyd uuid now a.model := by
  unfold buildResponse Parts.buildable Parts.response
  simp only [Fold.bind_eq_ok_iff, Parts.joinContent_eq_ok_iff, Parts.buildUsage_eq_ok_iff,
    Parts.validateStr_eq_ok_iff, Parts.validateInt_eq_ok_iff, Parts.isStr_orKeep,
    Parts.isSome_int_orKeep, Bool.and_eq_true]
  constructor
  · rintro ⟨_, ⟨h1, rfl⟩, _, ⟨h2, rfl⟩, _, ⟨h3, rfl⟩, _, ⟨h4, rfl⟩, _, ⟨h5, rfl⟩, h⟩
    exact ⟨⟨⟨⟨⟨h1, h2⟩, h3⟩, h4⟩, h5⟩, (Except.ok.inj h).symm⟩
  · rintro ⟨⟨⟨⟨⟨h1, h2⟩, h3⟩, h4⟩, h5⟩, rfl⟩
    exact ⟨_, ⟨h1, rfl⟩, _, ⟨h2, rfl⟩, _, ⟨h3, rfl⟩, _, ⟨h4, rfl⟩, _, ⟨h5, rfl⟩, rfl⟩

end CachingLayer
