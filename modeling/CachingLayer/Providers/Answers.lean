import CachingLayer.Providers.Anthropic
import CachingLayer.Proxy.Reassembly
import CachingLayer.Proxy.Wire

/-!
# Anthropic's answers

What `AnthropicProvider` makes of an answer of the Messages API: the texts of its text
blocks, joined in order, as one choice of the assistant.  The answer is taken exactly when
it is readable, and then for what it says (`toOpenaiResponse_eq_ok_iff`).
-/

namespace CachingLayer

/-- Python's floats, as far as `+` needs them. -/
structure FloatSums where
  add : PyFloat → PyFloat → PyFloat
  /-- `float(i)`, which overflows. -/
  ofInt : Int → Except PyError PyFloat

/-- Sums that are not rounded. -/
def FloatSums.exact : FloatSums where
  add
    | .finite x, .finite y => .finite (x + y)
    | .finite x, .negZero => .finite x
    | .negZero, y => y
    | .nan, _ => .nan
    | _, .nan => .nan
    | .inf s, .inf t => if s = t then .inf s else .nan
    | .inf s, _ => .inf s
    | _, .inf t => .inf t
  ofInt i := .ok (.finite i)

namespace Json

/-- An `int`, or a `bool` as one. -/
def asInt : Json → Option Int
  | int i => some i
  | bool b => some (if b then 1 else 0)
  | _ => none

/-- `x + y`. -/
def plus (fl : FloatSums) : Json → Json → Except PyError Json
  | str s, str t => .ok (.str (s ++ t))
  | arr xs, arr ys => .ok (.arr (xs ++ ys))
  | float x, float y => .ok (.float (fl.add x y))
  | float x, y =>
    match y.asInt with
    | some j => return .float (fl.add x (← fl.ofInt j))
    | none => .error .typeError
  | x, float y =>
    match x.asInt with
    | some i => return .float (fl.add (← fl.ofInt i) y)
    | none => .error .typeError
  | x, y =>
    match x.asInt, y.asInt with
    | some i, some j => .ok (.int (i + j))
    | _, _ => .error .typeError

end Json

namespace AnthropicProvider

/-- `_FINISH_REASON`. -/
def finishReasons : List (String × String) := [
  ("end_turn", "stop"),
  ("stop_sequence", "stop"),
  ("max_tokens", "length"),
  ("tool_use", "tool_calls")]

/-- `_FINISH_REASON.get(stop_reason, "stop")`: lists and dicts are no keys. -/
def finishReason : Json → Except PyError String
  | .str s => .ok ((finishReasons.lookup s).getD "stop")
  | .arr _ | .obj _ => .error .typeError
  | _ => .ok "stop"

/-- `block.get("type") == "text"`. -/
def isTextBlock (block : Dict) : Bool :=
  match block.get "type" .null with
  | .str s => s = "text"
  | _ => false

/-- What a block gives the text. -/
def blockText (block : Json) : Except PyError (List Json) := do
  let block ← block.asDict
  return if isTextBlock block then [block.get "text" (.str "")] else []

section
variable (fl : FloatSums) (pyd : Pydantic) (uuid : String) (now : Int)

/-- `_to_openai_response`. -/
def toOpenaiResponse (body : Json) (model : String) : Except PyError ChatCompletionResponse := do
  let body ← body.asDict
  let blocks ← (body.get "content" (.arr [])).iter
  let text ← StreamAssembler.joinContent (← blocks.mapM blockText).flatten
  let finish ← finishReason (body.get "stop_reason" (.str ""))
  let usage ← (body.get "usage" (.obj [])).asDict
  let input := usage.get "input_tokens" (.int 0)
  let output := usage.get "output_tokens" (.int 0)
  let total ← input.plus fl output
  let promptTokens ← validateInt pyd input
  let completionTokens ← validateInt pyd output
  let totalTokens ← validateInt pyd total
  let id ← validateStr (body.get "id" (.str (ChatCompletionResponse.freshId uuid)))
  let model ← validateStr (body.get "model" (.str model))
  return {
    id, created := now, model
    choices := [{ index := 0, message := { role := .assistant, content := some text }
                  finishReason := some finish }]
    usage := { promptTokens, completionTokens, totalTokens } }

/-! ## What an answer says -/

def blocks (body : Json) : List Json :=
  match (body.entries.get "content" (.arr [])).iter with
  | .ok bs => bs
  | .error _ => []

/-- The texts of the text blocks. -/
def texts (body : Json) : List Json :=
  (blocks body).flatMap fun b => if isTextBlock b.entries then [b.entries.get "text" (.str "")] else []

def saidText (body : Json) : String := String.join ((texts body).map Json.text)

def stopReason (body : Json) : Json := body.entries.get "stop_reason" (.str "")

def saidFinish (body : Json) : String :=
  match stopReason body with
  | .str s => (finishReasons.lookup s).getD "stop"
  | _ => "stop"

def usageOf (body : Json) : Json := body.entries.get "usage" (.obj [])

def inputTokens (body : Json) : Json := (usageOf body).entries.get "input_tokens" (.int 0)

def outputTokens (body : Json) : Json := (usageOf body).entries.get "output_tokens" (.int 0)

/-- The sum of the two counts; `null` where there is none. -/
def totalTokens (body : Json) : Json :=
  match (inputTokens body).plus fl (outputTokens body) with
  | .ok total => total
  | .error _ => .null

/-- An answer that is taken. -/
def readable (body : Json) (model : String) : Bool :=
  body.isObj && (body.entries.get "content" (.arr [])).iter.isOk && (blocks body).all Json.isObj &&
    (texts body).all Json.isStr && (finishReason (stopReason body)).isOk && (usageOf body).isObj &&
    (pyd.int (totalTokens fl body)).isSome && (pyd.int (inputTokens body)).isSome &&
    (pyd.int (outputTokens body)).isSome &&
    (body.entries.get "id" (.str (ChatCompletionResponse.freshId uuid))).isStr &&
    (body.entries.get "model" (.str model)).isStr

/-- The response of an answer that is readable. -/
def reading (body : Json) (model : String) : ChatCompletionResponse where
  id := (body.entries.get "id" (.str (ChatCompletionResponse.freshId uuid))).text
  created := now
  model := (body.entries.get "model" (.str model)).text
  choices :=
    [{ index := 0, message := { role := .assistant, content := some (saidText body) }
       finishReason := some (saidFinish body) }]
  usage :=
    { promptTokens := (pyd.int (inputTokens body)).getD 0
      completionTokens := (pyd.int (outputTokens body)).getD 0
      totalTokens := (pyd.int (totalTokens fl body)).getD 0 }

/-! ## Reading -/

theorem asDict_eq_ok_iff (j : Json) (d : Dict) : j.asDict = .ok d ↔ j.isObj = true ∧ d = j.entries := by
  cases j <;> simp [Json.asDict, Json.isObj, Json.entries, eq_comm]

theorem iter_eq_ok_iff (body : Json) (bs : List Json) :
    (body.entries.get "content" (.arr [])).iter = .ok bs ↔
      (body.entries.get "content" (.arr [])).iter.isOk = true ∧ bs = blocks body := by
  unfold blocks
  cases (body.entries.get "content" (.arr [])).iter <;> simp [Except.isOk, Except.toBool, eq_comm]

theorem mapM_blockText_eq_ok_iff (bs : List Json) (ts : List (List Json)) :
    bs.mapM blockText = .ok ts ↔
      (∀ b ∈ bs, b.isObj = true) ∧
        ts = bs.map fun b => if isTextBlock b.entries then [b.entries.get "text" (.str "")] else [] := by
  refine Fold.mapM_eq_ok_iff _ _ _ (fun b t => ?_) _ _
  unfold blockText
  rw [Fold.bind_eq_ok_iff]
  simp only [asDict_eq_ok_iff]
  constructor
  · rintro ⟨_, ⟨hobj, rfl⟩, h⟩
    exact ⟨hobj, (Except.ok.inj h).symm⟩
  · rintro ⟨hobj, rfl⟩
    exact ⟨_, ⟨hobj, rfl⟩, rfl⟩

theorem finishReason_eq_ok_iff (body : Json) (s : String) :
    finishReason (stopReason body) = .ok s ↔
      (finishReason (stopReason body)).isOk = true ∧ s = saidFinish body := by
  unfold saidFinish
  cases stopReason body <;> simp [finishReason, Except.isOk, Except.toBool, eq_comm]

/-- The sum is validated as it is; where there is none, `null` is no count. -/
theorem plus_validateInt_iff (body : Json) (i : Int) :
    (∃ total, (inputTokens body).plus fl (outputTokens body) = .ok total ∧ validateInt pyd total = .ok i) ↔
      (pyd.int (totalTokens fl body)).isSome = true ∧ i = (pyd.int (totalTokens fl body)).getD 0 := by
  unfold totalTokens
  cases (inputTokens body).plus fl (outputTokens body) with
  | error e => simp [pyd.int_null]
  | ok total =>
    rw [← Parts.validateInt_eq_ok_iff]
    simp

/-- **Reading.**  An answer is taken exactly when it is readable, and for what it says. -/
theorem toOpenaiResponse_eq_ok_iff (body : Json) (model : String) (r : ChatCompletionResponse) :
    toOpenaiResponse fl pyd uuid now body model = .ok r ↔
      readable fl pyd uuid body model = true ∧ r = reading fl pyd uuid now body model := by
  unfold toOpenaiResponse readable reading saidText
  simp only [Fold.bind_eq_ok_iff, asDict_eq_ok_iff, Bool.and_eq_true]
  constructor
  · rintro ⟨_, ⟨hobj, rfl⟩, bs, hbs, ts, hts, text, htext, finish, hfinish, usage, ⟨husage, rfl⟩, total, htotal,
      input, hinput, output, houtput, sum, hsum, id, hid, model', hmodel, hr⟩
    obtain ⟨hiter, rfl⟩ := (iter_eq_ok_iff body bs).mp hbs
    obtain ⟨hblocks, rfl⟩ := (mapM_blockText_eq_ok_iff _ ts).mp hts
    obtain ⟨htexts, rfl⟩ := (Parts.joinContent_eq_ok_iff _ text).mp htext
    obtain ⟨hok, rfl⟩ := (finishReason_eq_ok_iff body finish).mp hfinish
    obtain ⟨hin, rfl⟩ := (Parts.validateInt_eq_ok_iff pyd _ input).mp hinput
    obtain ⟨hout, rfl⟩ := (Parts.validateInt_eq_ok_iff pyd _ output).mp houtput
    obtain ⟨htot, rfl⟩ := (plus_validateInt_iff fl pyd body sum).mp ⟨total, htotal, hsum⟩
    obtain ⟨hidstr, rfl⟩ := (Parts.validateStr_eq_ok_iff _ id).mp hid
    obtain ⟨hmodelstr, rfl⟩ := (Parts.validateStr_eq_ok_iff _ model').mp hmodel
    rw [← List.flatMap_def] at htexts
    refine ⟨⟨⟨⟨⟨⟨⟨⟨⟨⟨⟨hobj, hiter⟩, List.all_eq_true.mpr hblocks⟩, htexts⟩, hok⟩, husage⟩, htot⟩, hin⟩, hout⟩, hidstr⟩,
      hmodelstr⟩, ?_⟩
    rw [← List.flatMap_def] at hr
    exact (Except.ok.inj hr).symm
  · rintro ⟨⟨⟨⟨⟨⟨⟨⟨⟨⟨⟨hobj, hiter⟩, hblocks⟩, htexts⟩, hok⟩, husage⟩, htot⟩, hin⟩, hout⟩, hidstr⟩, hmodelstr⟩, rfl⟩
    obtain ⟨total, htotal, hsum⟩ := (plus_validateInt_iff fl pyd body _).mpr ⟨htot, rfl⟩
    refine ⟨_, ⟨hobj, rfl⟩, _, (iter_eq_ok_iff body _).mpr ⟨hiter, rfl⟩, _,
      (mapM_blockText_eq_ok_iff _ _).mpr ⟨List.all_eq_true.mp hblocks, rfl⟩, _,
      (Parts.joinContent_eq_ok_iff _ _).mpr ⟨?_, rfl⟩, _, (finishReason_eq_ok_iff body _).mpr ⟨hok, rfl⟩, _,
      ⟨husage, rfl⟩, total, htotal, _, (Parts.validateInt_eq_ok_iff pyd _ _).mpr ⟨hin, rfl⟩, _,
      (Parts.validateInt_eq_ok_iff pyd _ _).mpr ⟨hout, rfl⟩, _, hsum, _,
      (Parts.validateStr_eq_ok_iff _ _).mpr ⟨hidstr, rfl⟩, _,
      (Parts.validateStr_eq_ok_iff _ _).mpr ⟨hmodelstr, rfl⟩, ?_⟩
    · rw [← List.flatMap_def]
      exact htexts
    · rw [← List.flatMap_def]
      rfl

end

end AnthropicProvider

end CachingLayer
