import CachingLayer.Api.Application
import CachingLayer.Basis.Clamped

/-!
# Thresholds over HTTP

The thresholds can be read off the log.  Whatever is called in whatever order, a category's
threshold is where the feedback that was answered leads from its base (`thresholdAfter`);
what the endpoints report is that, and so is the threshold that a chat is looked up with
(`thresholds_accounted`).  Refused feedback, chats and invalidations do not move it.

A category's feedback is a walk between its bounds, of which the library says the rest.
-/

namespace CachingLayer

/-- The feedback an answer took, where it is the category's. -/
def Answered.signal {F : Type} (category : ThresholdCategory) (answered : Answered F) : Option Bool :=
  match answered.call.endpoint, answered.reply with
  | .thresholdFeedback c falseHit, .feedback .. => if c = category then some falseHit else none
  | _, _ => none

namespace CategoryPolicy

section
variable {F : Type} [Field F] [LinearOrder F] (p : CategoryPolicy F)

def move (falseHit : Bool) : F := if falseHit then p.step else -p.step

/-- Where signals lead from the base. -/
def after (signals : List Bool) : F := (signals.map p.move).foldl (Clamped.bounce p.minimum p.maximum) p.base

theorem after_concat (signals : List Bool) (falseHit : Bool) :
    p.after (signals ++ [falseHit]) = Clamped.bounce p.minimum p.maximum (p.after signals) (p.move falseHit) := by
  unfold after
  rw [List.map_append, List.foldl_append]
  rfl

end

section
variable {F : Type} [Field F] [LinearOrder F] [IsStrictOrderedRing F] (p : CategoryPolicy F) (hp : p.Valid)
include hp

theorem move_mono (b b' : Bool) (h : b ≤ b') : p.move b ≤ p.move b' := by
  have hstep := hp.step_nonneg
  cases b <;> cases b'
  · exact le_rfl
  · exact (neg_nonpos.mpr hstep).trans hstep
  · exact absurd h (by decide)
  · exact le_rfl

theorem after_mem (signals : List Bool) : p.minimum ≤ p.after signals ∧ p.after signals ≤ p.maximum := by
  have hle := hp.minimum_le_base.trans hp.base_le_maximum
  unfold after
  rw [← Clamped.apply_walk p.minimum p.maximum hle _ _ hp.minimum_le_base hp.base_le_maximum]
  obtain ⟨hlo, hhi⟩ := Clamped.walls_walk p.minimum p.maximum hle (signals.map p.move)
  exact ⟨hlo.trans (Clamped.lo_le_apply _ _), (Clamped.apply_le_hi _ _).trans hhi⟩

/-- Signals whose moves come to the width leave no trace of what was before them. -/
theorem after_forget (before before' signals : List Bool)
    (hwidth : p.maximum - p.minimum ≤ |(signals.map p.move).sum|) :
    p.after (before ++ signals) = p.after (before' ++ signals) := by
  have hsplit : ∀ l, p.after (l ++ signals) =
      (signals.map p.move).foldl (Clamped.bounce p.minimum p.maximum) (p.after l) := by
    intro l
    unfold after
    rw [List.map_append, List.foldl_append]
  rw [hsplit, hsplit]
  exact Clamped.foldl_forget _ _ _ hwidth _ _ (p.after_mem hp before) (p.after_mem hp before')

/-- Had signals been false hits that were not, no lower. -/
theorem after_mono (signals signals' : List Bool) (h : List.Forall₂ (· ≤ ·) signals signals') :
    p.after signals ≤ p.after signals' := by
  apply Clamped.foldl_bounce_mono
  · rw [List.forall₂_map_left_iff, List.forall₂_map_right_iff]
    exact h.imp fun b b' => p.move_mono hp b b'
  · exact le_rfl

end

end CategoryPolicy

/-! ## What a log says -/

section
variable {F : Type} [Field F] [LinearOrder F] (policies : ThresholdCategory → CategoryPolicy F)

/-- A category's threshold after the feedback answered in a log. -/
def thresholdAfter (category : ThresholdCategory) (log : List (Answered F)) : F :=
  (policies category).after (log.filterMap (Answered.signal category))

/-- The engine that was given the table, after it. -/
def engineAfter (log : List (Answered F)) : AdaptiveThresholdEngine F where
  policies category := { policies category with current := thresholdAfter policies category log }

/-- Of an answer that came after `front`: the thresholds it tells are those after the
feedback answered by then, its own included. -/
structure Answered.Accounted (front : List (Answered F)) (answered : Answered F) : Prop where
  read : answered.call.endpoint = .currentThresholds →
    (∃ response, answered.reply = .refused response) ∨
      answered.reply = .thresholds ([.classification, .programming, .creative, .general].map fun category =>
        (category.value, thresholdAfter policies category front))
  moved : ∀ category falseHit, answered.call.endpoint = .thresholdFeedback category falseHit →
    (∃ response, answered.reply = .refused response) ∨
      answered.reply = .feedback category.value (thresholdAfter policies category (front ++ [answered]))

theorem engineAfter_nil (hvalid : AdaptiveThresholdEngine.Valid policies) :
    engineAfter policies [] = ⟨policies⟩ := by
  unfold engineAfter
  congr 1
  funext category
  show { policies category with current := (policies category).base } = _
  rw [← (hvalid category).current_eq]

/-- Answers that a category hears nothing in do not move its threshold. -/
theorem thresholdAfter_concat_of_none (category : ThresholdCategory) (log : List (Answered F)) (answered : Answered F)
    (h : answered.signal category = none) :
    thresholdAfter policies category (log ++ [answered]) = thresholdAfter policies category log := by
  unfold thresholdAfter
  rw [List.filterMap_append, List.filterMap_cons_none h, List.filterMap_nil, List.append_nil]

theorem thresholdAfter_concat_of_some (category : ThresholdCategory) (log : List (Answered F)) (answered : Answered F)
    (falseHit : Bool) (h : answered.signal category = some falseHit) :
    thresholdAfter policies category (log ++ [answered]) =
      Clamped.bounce (policies category).minimum (policies category).maximum
        (thresholdAfter policies category log) ((policies category).move falseHit) := by
  unfold thresholdAfter
  rw [List.filterMap_append, List.filterMap_cons_some h, List.filterMap_nil, CategoryPolicy.after_concat]

theorem engineAfter_concat_of_none (log : List (Answered F)) (answered : Answered F)
    (h : ∀ category, answered.signal category = none) :
    engineAfter policies (log ++ [answered]) = engineAfter policies log := by
  unfold engineAfter
  congr 1
  funext category
  rw [thresholdAfter_concat_of_none policies category log answered (h category)]

/-- Feedback answered is feedback recorded. -/
theorem engineAfter_concat_of_feedback (log : List (Answered F)) (answered : Answered F)
    (category : ThresholdCategory) (falseHit : Bool) (name : String) (threshold : F)
    (hendpoint : answered.call.endpoint = .thresholdFeedback category falseHit)
    (hreply : answered.reply = .feedback name threshold) :
    engineAfter policies (log ++ [answered]) = (engineAfter policies log).recordFeedback category falseHit := by
  have hsignal : ∀ c, answered.signal c = if category = c then some falseHit else none := by
    intro c
    unfold Answered.signal
    rw [hendpoint, hreply]
  refine congrArg AdaptiveThresholdEngine.mk (funext fun c => ?_)
  by_cases hc : c = category
  · subst hc
    refine Eq.trans ?_ (AdaptiveThresholdEngine.recordFeedback_self (engineAfter policies log) c falseHit).symm
    rw [thresholdAfter_concat_of_some policies c log answered falseHit (by rw [hsignal, if_pos rfl])]
    rfl
  · refine Eq.trans ?_
      (AdaptiveThresholdEngine.recordFeedback_of_ne (engineAfter policies log) category falseHit c hc).symm
    rw [thresholdAfter_concat_of_none policies c log answered (by rw [hsignal, if_neg (Ne.symm hc)])]
    rfl

end

/-! ## What a HIT says -/

namespace ProxyService

/-- The match a lookup serves reached the task's threshold. -/
def HitInv {F E : Type} [LinearOrder F] (svc : ProxyService F E) (t : Task F) : Phase F → Prop
  | .incrementing best => svc.cache.effectiveThreshold t.threshold ≤ best.score
  | .hit l best _ => svc.cache.effectiveThreshold t.threshold ≤ best.score ∧ l.score = best.score
  | _ => True

/-- **Step.** -/
theorem hitInv_advance {F E : Type} [Field F] [LinearOrder F] {oj : Orjson} {pyd : Pydantic} (svc : ProxyService F E)
    (rid : RequestId) (t t' : Task F) (now perf : ℚ) (found : Except PyError (List (ScoredEntry F))) (event : Event)
    (op : StoreOp F) (effects : List (Effect F)) (hinv : svc.HitInv t t.phase)
    (h : svc.Advances oj pyd rid t now perf found event t' op effects) : svc.HitInv t' t'.phase := by
  have hkeep : ∀ l response, svc.HitInv (svc.keep t l response) (svc.keep t l response).phase := by
    intro l response
    rcases svc.keep_cases t l response with ⟨-, heq⟩ | heq <;> rw [heq] <;> exact trivial
  cases h with
  | matched hits best hp hfound hhead hscore => exact hscore
  | cached best uuid sampled response l hp hl hvalid =>
    rw [hp] at hinv
    have hserved : l.served = some best := by
      rw [hl]
      exact (svc.cache.served_outcome _ _ _ _).mpr ⟨rfl, hinv⟩
    refine ⟨hinv, ?_⟩
    rw [hl] at hserved ⊢
    exact svc.cache.score_outcome _ _ _ _ hserved
  | completed l started response hp => exact hkeep l response
  | built l a uuid response hp => exact hkeep l response
  | taken l best response chunk hp =>
    rw [hp] at hinv
    show svc.HitInv _ t.phase
    rw [hp]
    exact hinv
  | _ => exact trivial

end ProxyService

/-! ## Runs -/

namespace Application

section
variable {F K : Type} [Field F] [LinearOrder F] {d : Nat} (np : Numpy F) (oj : Orjson) (pyd : Pydantic)
  (fmt : FloatFormat F) (app : Application F) (policies : ThresholdCategory → CategoryPolicy F)

/-- A task's chat is in the log, and the engine that it took its threshold from is the one
after the feedback answered before it. -/
def ChatAccounted (log : List (Answered F)) (rid : RequestId) (t : Task F) : Prop :=
  ∃ front answered back, log = front ++ answered :: back ∧ answered.call.endpoint = .chatCompletions t.request ∧
    answered.reply = .begun rid ∧ t.threshold = app.proxy.thresholdFor (engineAfter policies front) t.request

/-- What the log says of a state. -/
structure Accounts (s : AppState F K d) : Prop where
  engine : s.shadow.service.policy = engineAfter policies s.log
  answers : ∀ front answered back, s.log = front ++ answered :: back → answered.Accounted policies front
  chats : ∀ rid t, s.shadow.service.tasks rid = some t → app.ChatAccounted policies s.log rid t
  lookups : ∀ rid t, s.shadow.service.tasks rid = some t →
    app.proxy.HitInv t t.phase ∧ app.proxy.MissInv t t.phase

theorem ChatAccounted.concat (log : List (Answered F)) (answered : Answered F) (rid : RequestId) (t : Task F)
    (h : app.ChatAccounted policies log rid t) : app.ChatAccounted policies (log ++ [answered]) rid t := by
  obtain ⟨front, begun, back, rfl, hrest⟩ := h
  exact ⟨front, begun, back ++ [answered], by rw [List.append_assoc, List.cons_append], hrest⟩

/-- What the service does to its tasks leaves their chats where they are; a request that
comes in is a chat just begun. -/
theorem tasks_served (s s' : State F (AdaptiveThresholdEngine F)) (log : List (Answered F))
    (a : Action (AdaptiveThresholdEngine F)) (h : app.proxy.step np oj pyd s a = some s')
    (hchats : ∀ rid t, s.tasks rid = some t → app.ChatAccounted policies log rid t)
    (hlookups : ∀ rid t, s.tasks rid = some t → app.proxy.HitInv t t.phase ∧ app.proxy.MissInv t t.phase)
    (rid : RequestId) (t' : Task F) (ht' : s'.tasks rid = some t') :
    (app.ChatAccounted policies log rid t' ∨
        ∃ streaming request, a = .request rid streaming request ∧ t'.request = request ∧
          t'.threshold = app.proxy.thresholdFor s.policy request) ∧
      app.proxy.HitInv t' t'.phase ∧ app.proxy.MissInv t' t'.phase := by
  rcases app.proxy.step_tasks np oj pyd s s' a h rid t' ht' with
    hold | ⟨streaming, request, rfl, -, rfl⟩ | ⟨t, event, op, effects, rfl, ht, hadv⟩
  · exact ⟨Or.inl (hchats rid t' hold), hlookups rid t' hold⟩
  · exact ⟨Or.inr ⟨streaming, request, rfl, rfl, rfl⟩, trivial, trivial⟩
  · obtain ⟨hhit, hmiss⟩ := hlookups rid t ht
    refine ⟨Or.inl ?_, app.proxy.hitInv_advance rid t t' _ _ _ event op effects hhit hadv,
      ProxyService.missInv_advance rid t t' _ _ _ event op effects hmiss hadv⟩
    obtain ⟨-, hrequest, hthreshold⟩ :=
      ProxyService.Advances.request oj pyd app.proxy rid t t' _ _ _ event op effects hadv
    obtain ⟨front, answered, back, hlog, hendpoint, hreply, htaken⟩ := hchats rid t ht
    exact ⟨front, answered, back, hlog, by rw [hrequest, hendpoint], hreply, by rw [hthreshold, hrequest, htaken]⟩

/-- One more answer is in the log. -/
theorem accounts_answered (s s' : AppState F K d) (answered : Answered F) (hs : app.Accounts policies s)
    (hlog : s'.log = s.log ++ [answered])
    (hengine : s'.shadow.service.policy = engineAfter policies (s.log ++ [answered]))
    (hanswered : answered.Accounted policies s.log)
    (hchats : ∀ rid t, s'.shadow.service.tasks rid = some t → app.ChatAccounted policies (s.log ++ [answered]) rid t)
    (hlookups : ∀ rid t, s'.shadow.service.tasks rid = some t →
      app.proxy.HitInv t t.phase ∧ app.proxy.MissInv t t.phase) : app.Accounts policies s' := by
  refine ⟨hlog ▸ hengine, ?_, hlog ▸ hchats, hlookups⟩
  intro front a back hsplit
  rw [hlog] at hsplit
  rcases back.eq_nil_or_concat with rfl | ⟨back', last, rfl⟩
  · obtain ⟨rfl, hlast⟩ := List.append_inj' hsplit rfl
    obtain rfl := List.head_eq_of_cons_eq hlast
    exact hanswered
  · rw [List.concat_eq_append, ← List.cons_append, ← List.append_assoc] at hsplit
    exact hs.answers front a back' (List.append_inj_left' hsplit rfl)

/-! ### What a call does -/

/-- Feedback is asked for by its endpoint only. -/
theorem signal_of_action (answered : Answered F) (seq : Nat)
    (h : ∀ update, answered.call.action seq ≠ some (.feedback update)) (category : ThresholdCategory) :
    answered.signal category = none := by
  unfold HttpCall.action at h
  unfold Answered.signal
  cases hend : answered.call.endpoint with
  | thresholdFeedback c falseHit =>
    rw [hend] at h
    exact absurd rfl (h _)
  | _ => rfl

theorem feedback_of_action (call : HttpCall F) (seq : Nat)
    (update : AdaptiveThresholdEngine F → AdaptiveThresholdEngine F)
    (h : call.action seq = some (.feedback update)) :
    ∃ category falseHit, call.endpoint = .thresholdFeedback category falseHit ∧
      update = AdaptiveThresholdEngine.recordFeedback category falseHit := by
  unfold HttpCall.action at h
  cases hend : call.endpoint with
  | thresholdFeedback category falseHit =>
    rw [hend] at h
    exact ⟨category, falseHit, rfl, (Action.feedback.inj (Option.some.inj h)).symm⟩
  | _ => rw [hend] at h; cases h

theorem chat_of_action (call : HttpCall F) (seq : Nat) (rid : RequestId) (streaming : Bool)
    (request : ChatCompletionRequest) (h : call.action seq = some (.request rid streaming request)) :
    call.endpoint = .chatCompletions request ∧ rid = ⟨call.tenant, seq⟩ := by
  unfold HttpCall.action at h
  cases hend : call.endpoint with
  | chatCompletions request' =>
    rw [hend] at h
    obtain ⟨rfl, -, rfl⟩ := Action.request.inj (Option.some.inj h)
    exact ⟨rfl, rfl⟩
  | _ => rw [hend] at h; cases h

/-- What a state's engine answers, where the log is what it came from. -/
theorem accounted_reply [FloorRing F] (s : ShadowState F (AdaptiveThresholdEngine F) d) (log : List (Answered F))
    (hengine : s.service.policy = engineAfter policies log) (seq : Nat) (call : HttpCall F) (correlationId : String) :
    Answered.Accounted policies log { call, reply := app.reply np fmt s seq call, correlationId } := by
  constructor
  · intro hendpoint
    refine Or.inr ?_
    show app.reply np fmt s seq call = _
    unfold reply
    rw [show call.endpoint = _ from hendpoint, hengine]
    rfl
  · intro category falseHit hendpoint
    refine Or.inr ?_
    have hreply : app.reply np fmt s seq call = .feedback category.value
        ((s.service.policy.recordFeedback category falseHit).policies category).current := by
      unfold reply
      rw [show call.endpoint = _ from hendpoint]
    have hnext := engineAfter_concat_of_feedback policies log
      { call, reply := app.reply np fmt s seq call, correlationId } category falseHit _ _ hendpoint hreply
    refine hreply.trans ?_
    rw [hengine, ← hnext]
    rfl

/-- And what the engine is after it. -/
theorem engine_served [FloorRing F] (s : ShadowState F (AdaptiveThresholdEngine F) d)
    (s' : State F (AdaptiveThresholdEngine F)) (log : List (Answered F))
    (hengine : s.service.policy = engineAfter policies log) (seq : Nat) (call : HttpCall F) (correlationId : String)
    (a : Action (AdaptiveThresholdEngine F)) (ha : call.action seq = some a)
    (h : app.proxy.step np oj pyd s.service a = some s') :
    s'.policy = engineAfter policies (log ++ [{ call, reply := app.reply np fmt s seq call, correlationId }]) := by
  by_cases hfeedback : ∃ update, a = .feedback update
  · obtain ⟨update, rfl⟩ := hfeedback
    obtain ⟨category, falseHit, hendpoint, rfl⟩ := feedback_of_action call seq update ha
    obtain rfl := Option.some.inj h
    refine Eq.trans ?_ (engineAfter_concat_of_feedback policies log _ category falseHit category.value
      ((s.service.policy.recordFeedback category falseHit).policies category).current hendpoint ?_).symm
    · show s.service.policy.recordFeedback category falseHit = _
      rw [hengine]
    · show app.reply np fmt s seq call = _
      unfold reply
      rw [hendpoint]
  · have hquiet : ∀ update, call.action seq ≠ some (.feedback update) := by
      intro update hupdate
      exact hfeedback ⟨update, Option.some.inj (ha.symm.trans hupdate)⟩
    rw [engineAfter_concat_of_none policies log _ (signal_of_action _ seq hquiet), ← hengine]
    rcases app.proxy.step_policy np oj pyd _ _ a h with hsame | ⟨update, hupdate, -⟩
    · exact hsame
    · exact absurd ⟨update, hupdate⟩ hfeedback

/-- A refusal tells no threshold. -/
theorem accounted_refused (log : List (Answered F)) (call : HttpCall F) (response : JsonResponse)
    (correlationId : String) :
    Answered.Accounted policies log { call, reply := .refused response, correlationId } :=
  ⟨fun _ => Or.inl ⟨response, rfl⟩, fun _ _ _ => Or.inl ⟨response, rfl⟩⟩

omit [Field F] [LinearOrder F] in
theorem signal_refused (call : HttpCall F) (response : JsonResponse) (correlationId : String)
    (category : ThresholdCategory) :
    Answered.signal category ({ call, reply := .refused response, correlationId } : Answered F) = none := by
  unfold Answered.signal
  cases call.endpoint <;> rfl

/-! ### What a step does -/

section
variable (s s' : AppState F K d) (hs : app.Accounts policies s)
include hs

/-- The service goes on, and no answer goes out. -/
theorem accounts_serve (a : Action (AdaptiveThresholdEngine F)) (hfeedback : ∀ update, a ≠ .feedback update)
    (hrequest : ∀ rid streaming request, a ≠ .request rid streaming request)
    (h : app.serve np oj pyd s (.service a) = some s') : app.Accounts policies s' := by
  obtain ⟨hstep, -, hlog⟩ := app.serve_service np oj pyd s s' a h
  have htasks := app.tasks_served np oj pyd policies _ _ s.log a hstep hs.chats hs.lookups
  have hpolicy : s'.shadow.service.policy = s.shadow.service.policy := by
    rcases app.proxy.step_policy np oj pyd _ _ a hstep with hsame | ⟨update, ha, -⟩
    · exact hsame
    · exact absurd ha (hfeedback update)
  refine ⟨by rw [hpolicy, hlog, hs.engine], hlog ▸ hs.answers, ?_, fun rid t ht => (htasks rid t ht).2⟩
  intro rid t ht
  rw [hlog]
  rcases (htasks rid t ht).1 with hold | ⟨streaming, request, ha, -, -⟩
  · exact hold
  · exact absurd ha (hrequest rid streaming request)

section
variable (seq : Nat) (call : HttpCall F) (made now : K) (uuid : String)

/-- An answer goes out, and the service is asked nothing. -/
theorem accounts_quiet (buckets : String → Option (TokenBucket K)) (reply : Reply F)
    (hsignal : ∀ category, Answered.signal category { call, reply, correlationId := call.correlationId uuid } = none)
    (hanswered : Answered.Accounted policies s.log { call, reply, correlationId := call.correlationId uuid }) :
    app.Accounts policies (s.answered buckets call uuid reply) :=
  app.accounts_answered policies s _ _ hs rfl
    (hs.engine.trans (engineAfter_concat_of_none policies s.log _ hsignal).symm) hanswered
    (fun rid t ht => ChatAccounted.concat app policies s.log _ rid t (hs.chats rid t ht)) hs.lookups

/-- A call that asks something of the service. -/
theorem accounts_served [FloorRing F] (a : Action (AdaptiveThresholdEngine F)) (ha : call.action seq = some a)
    (buckets : String → Option (TokenBucket K))
    (h : app.serve np oj pyd (s.answered buckets call uuid (app.reply np fmt s.shadow seq call)) (.service a) =
      some s') : app.Accounts policies s' := by
  obtain ⟨hstep, -, hlog⟩ := app.serve_service np oj pyd _ s' a h
  have htasks := app.tasks_served np oj pyd policies _ _ s.log a hstep hs.chats hs.lookups
  refine app.accounts_answered policies s s' _ hs hlog
    (app.engine_served np oj pyd fmt policies s.shadow _ s.log hs.engine seq call _ a ha hstep)
    (app.accounted_reply np fmt policies s.shadow s.log hs.engine seq call (call.correlationId uuid)) ?_
    fun rid t ht => (htasks rid t ht).2
  intro rid t ht
  rcases (htasks rid t ht).1 with hold | ⟨streaming, request, rfl, hrequest, hthreshold⟩
  · exact ChatAccounted.concat app policies s.log _ rid t hold
  · obtain ⟨hendpoint, hrid⟩ := chat_of_action call seq rid streaming request ha
    refine ⟨s.log, _, [], rfl, ?_, ?_, ?_⟩
    · rw [hrequest]
      exact hendpoint
    · show app.reply np fmt s.shadow seq call = _
      unfold reply
      rw [hendpoint, hrid]
    · rw [hrequest, hthreshold, ← hs.engine]
      rfl

end

end

section
variable [FloorRing F] [Field K] [LinearOrder K]

/-- **Step.** -/
theorem accounts_step (s s' : AppState F K d) (hs : app.Accounts policies s) (a : AppAction F K d)
    (h : app.step np oj pyd fmt s a = some s') : app.Accounts policies s' := by
  cases a with
  | tick now perf =>
    exact app.accounts_serve np oj pyd policies s s' hs _ (fun _ h => by cases h) (fun _ _ _ h => by cases h) h
  | task rid event =>
    exact app.accounts_serve np oj pyd policies s s' hs _ (fun _ h => by cases h) (fun _ _ _ h => by cases h) h
  | resume i event =>
    obtain ⟨hservice, -, hlog⟩ := app.serve_resume np oj pyd s s' i event h
    exact ⟨hservice ▸ hlog ▸ hs.engine, hlog ▸ hs.answers, hservice ▸ hlog ▸ hs.chats, hservice ▸ hs.lookups⟩
  | call seq call made now uuid =>
    cases hlimit : (app.limit s.buckets ⟨call.toHttpRequest, made, now⟩).1 with
    | some response =>
      rw [app.step_refused np oj pyd fmt s seq call made now uuid response hlimit] at h
      obtain rfl := Option.some.inj h
      exact app.accounts_quiet policies s hs call uuid _ _ (signal_refused call response _)
        (accounted_refused policies s.log call response _)
    | none =>
      cases ha : call.action seq with
      | none =>
        rw [app.step_read np oj pyd fmt s seq call made now uuid hlimit ha] at h
        obtain rfl := Option.some.inj h
        exact app.accounts_quiet policies s hs call uuid _ _
          (signal_of_action _ seq fun update hupdate => by cases ha.symm.trans hupdate)
          (app.accounted_reply np fmt policies s.shadow s.log hs.engine seq call _)
      | some b =>
        rw [app.step_served np oj pyd fmt s seq call made now uuid hlimit b ha] at h
        exact app.accounts_served np oj pyd fmt policies s s' hs seq call uuid b ha _ h

variable [IsStrictOrderedRing F]

/-- **The thresholds are accounted for.**  In any run, each category's threshold is where the
feedback answered in it leads from the category's base, and the endpoints have said so at
each point of the log.  Where thresholds are adaptive, every chat was looked up with that of
its prompt's category as the log stood before it, and a HIT scored at least that, the best
match of a MISS less.  Feedback worth the width of a category's bounds leaves nothing of what
was before it, and false hits in place of others never lower a threshold. -/
theorem thresholds_accounted (hvalid : AdaptiveThresholdEngine.Valid policies) (s₀ s : AppState F K d)
    (hengine : s₀.shadow.service.policy = ⟨policies⟩) (hlog : s₀.log = [])
    (htasks : ∀ rid, s₀.shadow.service.tasks rid = none) (acts : List (AppAction F K d))
    (hrun : Run.exec (app.step np oj pyd fmt) s₀ acts = some s) :
    (∀ category, (s.shadow.service.policy.policies category).current = thresholdAfter policies category s.log) ∧
    (∀ front answered back, s.log = front ++ answered :: back → answered.Accounted policies front) ∧
    (∀ u, app.proxy.thresholdPolicy = some (AdaptiveThresholdEngine.buildThresholdPolicy u) →
      ∀ rid t, s.shadow.service.tasks rid = some t → ∃ front answered back θ,
        s.log = front ++ answered :: back ∧ answered.call.endpoint = .chatCompletions t.request ∧
        answered.reply = .begun rid ∧ θ = thresholdAfter policies (categorize u t.request.latestUserPrompt) front ∧
        t.threshold = some θ ∧ (∀ l best cached, t.phase = .hit l best cached → θ ≤ l.score) ∧
        ∀ l response best, t.phase = .missed l response → l.best = some best → best.score < θ) ∧
    (∀ category front back, s.log = front ++ back →
      (policies category).maximum - (policies category).minimum ≤
        |((back.filterMap (Answered.signal category)).map (policies category).move).sum| →
        (s.shadow.service.policy.policies category).current = thresholdAfter policies category back) ∧
    (∀ category signals, List.Forall₂ (· ≤ ·) signals (s.log.filterMap (Answered.signal category)) →
      (policies category).after signals ≤ (s.shadow.service.policy.policies category).current) := by
  have hs : app.Accounts policies s := by
    refine Run.exec_inv (app.step np oj pyd fmt) (app.Accounts policies)
      (fun s s' a hs => app.accounts_step np oj pyd fmt policies s s' hs a) acts s₀ s ⟨?_, ?_, ?_, ?_⟩ hrun
    · rw [hengine, hlog, engineAfter_nil policies hvalid]
    · intro front answered back hsplit
      rw [hlog] at hsplit
      cases front <;> cases hsplit
    · intro rid t ht
      rw [htasks rid] at ht
      cases ht
    · intro rid t ht
      rw [htasks rid] at ht
      cases ht
  have hcurrent : ∀ category,
      (s.shadow.service.policy.policies category).current = thresholdAfter policies category s.log := by
    intro category
    rw [hs.engine]
    rfl
  refine ⟨hcurrent, hs.answers, ?_, ?_, ?_⟩
  · intro u hadaptive rid t ht
    obtain ⟨front, answered, back, hsplit, hendpoint, hreply, htaken⟩ := hs.chats rid t ht
    obtain ⟨hhit, hmiss⟩ := hs.lookups rid t ht
    have hthreshold :
        t.threshold = some (thresholdAfter policies (categorize u t.request.latestUserPrompt) front) := by
      rw [htaken]
      unfold ProxyService.thresholdFor
      rw [hadaptive]
      rfl
    have heffective : app.proxy.cache.effectiveThreshold t.threshold =
        thresholdAfter policies (categorize u t.request.latestUserPrompt) front := by
      rw [hthreshold]
      rfl
    refine ⟨front, answered, back, _, hsplit, hendpoint, hreply, rfl, hthreshold, ?_, ?_⟩
    · intro l best cached hp
      rw [hp] at hhit
      rw [← heffective, hhit.2]
      exact hhit.1
    · intro l response best hp hbest
      rw [hp] at hmiss
      rw [← heffective]
      exact (hmiss best hbest).2
  · intro category front back hsplit hwidth
    rw [hcurrent, hsplit]
    unfold thresholdAfter
    rw [List.filterMap_append]
    exact (policies category).after_forget (hvalid category) _ [] _ hwidth
  · intro category signals hle
    rw [hcurrent]
    exact (policies category).after_mono (hvalid category) _ _ hle

end

end

/-! ## Feedback between two chats -/

def feedbackOf (host : String) (falseHit : Bool) : HttpCall ℚ :=
  { endpoint := .thresholdFeedback .general falseHit, clientHost := some host }

/-- A false hit is reported, twice within a second; the thresholds are read; the ocean is
described; a missed hit is reported, and the ocean asked for again. -/
def feedbackCalls : List (AppAction ℚ ℚ 2) := [
  .call 0 (feedbackOf "10.0.0.7" true) 0 0 "a",
  .call 0 (feedbackOf "10.0.0.7" true) (1 / 2) (1 / 2) "b",
  .call 0 { endpoint := .currentThresholds, clientHost := some "10.0.0.8" } (1 / 2) (1 / 2) "c",
  .call 0 (chatOf "team") (1 / 2) (1 / 2) "d",
  .task ⟨"team", 0⟩ .embedded,
  .task ⟨"team", 0⟩ .searched,
  .task ⟨"team", 0⟩ (.completed framedText),
  .task ⟨"team", 0⟩ (.storeEmbedded ProxyService.someReadings.entryId),
  .task ⟨"team", 0⟩ .upserted,
  .call 0 (feedbackOf "10.0.0.7" false) 2 2 "e",
  .call 1 (chatOf "team") 2 2 "f",
  .task ⟨"team", 1⟩ .embedded,
  .task ⟨"team", 1⟩ .searched,
  .task ⟨"team", 1⟩ (.incremented ProxyService.someReadings.uuid false)]

theorem feedbackCalls_exec :
    ((Run.exec (slowApplication.step (.sorting Rat.sqrt) framedCodec .strict noFormat)
      { shadow := { service := ProxyService.adaptiveStart } } feedbackCalls).any fun s =>
        (s.shadow.service.tasks ⟨"team", 1⟩).any (fun t => t.phase.isHit &&
          decide (categorize .ascii t.request.latestUserPrompt = .general)) &&
        s.log.map (fun answered => isRefused answered.reply) == [false, true, false, false, false, false] &&
        s.log.filterMap (Answered.signal .general) == [true, false]) = true := by
  decide +kernel

/-- The refused report does not count, and the second chat is a HIT at the threshold that the
other two lead to. -/
theorem thresholds_accounted_feedback : ∃ s,
    Run.exec (slowApplication.step (.sorting Rat.sqrt) framedCodec .strict noFormat)
      { shadow := { service := ProxyService.adaptiveStart } } feedbackCalls = some s ∧
    s.log.map (fun answered => isRefused answered.reply) = [false, true, false, false, false, false] ∧
    (s.shadow.service.policy.policies .general).current =
      (AdaptiveThresholdEngine.defaultPolicies .general).after [true, false] ∧
    ∃ t l best cached front answered back θ, s.shadow.service.tasks ⟨"team", 1⟩ = some t ∧
      t.phase = .hit l best cached ∧ s.log = front ++ answered :: back ∧ answered.reply = .begun ⟨"team", 1⟩ ∧
      θ = thresholdAfter AdaptiveThresholdEngine.defaultPolicies .general front ∧ t.threshold = some θ ∧
      θ ≤ l.score := by
  obtain ⟨s, hs, hend⟩ := (Option.any_eq_true _ _).mp feedbackCalls_exec
  rw [Bool.and_eq_true, Bool.and_eq_true, beq_iff_eq, beq_iff_eq] at hend
  obtain ⟨⟨htask, hrefused⟩, hsignals⟩ := hend
  obtain ⟨hcurrent, -, hchats, -, -⟩ := thresholds_accounted (.sorting Rat.sqrt) framedCodec .strict noFormat
    slowApplication AdaptiveThresholdEngine.defaultPolicies AdaptiveThresholdEngine.valid_defaultPolicies
    { shadow := { service := ProxyService.adaptiveStart } } s rfl rfl (fun _ => rfl) feedbackCalls hs
  obtain ⟨t, ht, hphase⟩ := (Option.any_eq_true _ _).mp htask
  rw [Bool.and_eq_true, decide_eq_true_iff] at hphase
  obtain ⟨front, answered, back, θ, hsplit, -, hreply, hθ, hthreshold, hhit, -⟩ := hchats .ascii rfl _ t ht
  refine ⟨s, hs, hrefused, ?_, ?_⟩
  · rw [hcurrent]
    unfold thresholdAfter
    rw [hsignals]
  · cases hp : t.phase with
    | hit l best cached =>
      exact ⟨t, l, best, cached, front, answered, back, θ, ht, hp, hsplit, hreply, hphase.2 ▸ hθ, hthreshold,
        hhit l best cached hp⟩
    | _ => rw [hp] at hphase; cases hphase.1

end Application

end CachingLayer
