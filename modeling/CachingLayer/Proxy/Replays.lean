import CachingLayer.Providers.Router
import CachingLayer.Proxy.Service

/-!
# Shadow replays

Requests served one after another, and between them the validations their sampled HITs
begin: each asks the upstream its request again, through the completer the service has, at
any later time and in any order, or not at all while the run lasts.

`traffic` runs them.  It goes by `Turn`s (`traffic_turns`): a request is served as its
endpoint serves it, and leaves a validation waiting or none; a validation posts its request
to the vendor its model routes to, as a call does, and changes nothing else of the proxy's.
So what is posted is a block for each (`Turns.sent`), and the validations that posted or
still wait are those that waited or were begun (`Turns.perm`).
-/

namespace CachingLayer

/-- The request a validation asks again. -/
def Effect.replayed {F : Type} : Effect F → Option ChatCompletionRequest
  | .validate request _ => some request
  | _ => none

inductive ProxyAction (C : Type)
  | call (call : C)
  /-- The validation that waits at this place runs; `uuid` and `now` feed the default
  factories of what it reads. -/
  | validate (i : ℕ) (uuid : String) (now : Int)

inductive Happened (C R : Type)
  | replied (call : C) (reply : R)
  | validated (request : ChatCompletionRequest)

/-- The request served or replayed. -/
def Happened.asks {C R : Type} (request : C → ChatCompletionRequest) : Happened C R → ChatCompletionRequest
  | .replied call _ => request call
  | .validated asked => asked

def Happened.reply {C R : Type} : Happened C R → Option R
  | .replied _ reply => some reply
  | .validated _ => none

def Happened.replayed {C R : Type} : Happened C R → Option ChatCompletionRequest
  | .validated request => some request
  | .replied _ _ => none

/-- All but the HITs served. -/
def Happened.asksUpstream {C R : Type} (isHit : R → Bool) (happened : Happened C R) : Bool :=
  !happened.reply.any isHit

/-- Blocks that are empty while a HIT is served, and never longer than `n`. -/
theorem Happened.length_le {C R : Type} (isHit : R → Bool) (happened : Happened C R) (block : List Post) (n : ℕ)
    (hle : block.length ≤ n) (hhit : ∀ reply ∈ happened.reply, isHit reply = true → block = []) :
    block.length ≤ if happened.asksUpstream isHit then n else 0 := by
  unfold Happened.asksUpstream
  cases hserved : happened.reply.any isHit with
  | false => exact hle
  | true =>
    obtain ⟨reply, hreply, h⟩ := (Option.any_eq_true isHit _).mp hserved
    rw [hhit reply hreply h]
    exact Nat.zero_le _

/-- What a reply leaves to be replayed; a validation leaves nothing. -/
def Happened.begun {C R : Type} (replays : C → R → List ChatCompletionRequest) :
    Happened C R → List ChatCompletionRequest
  | .replied call reply => replays call reply
  | .validated _ => []

structure ProxyState (F : Type) where
  world : World F
  /-- All that was posted. -/
  sent : List Post := []
  /-- What the validations begun ask, those that have not run. -/
  waiting : List ChatCompletionRequest := []

/-! ## Turns -/

/-- The adapter the router picks. -/
def Picks (u : Unicode) (fl : FloatSums) (pyd : Pydantic) (settings : Settings) (request : ChatCompletionRequest)
    (p : ChatProvider) : Prop :=
  (buildRouter fl pyd settings).providerFor u request = .ok p

section
variable {F C R : Type} (u : Unicode) (fl : FloatSums) (pyd : Pydantic) (settings : Settings) (network : Network)
  (Served : C → World F → List Post → R → World F → List Post → Prop) (replays : C → R → List ChatCompletionRequest)

/-- One thing happens, and posts a block. -/
inductive Turn (s : ProxyState F) : Happened C R → List Post → ProxyState F → Prop
  | replied (call : C) (reply : R) (w : World F) (block : List Post)
      (served : Served call s.world s.sent reply w (s.sent ++ block)) :
    Turn s (.replied call reply) block
      { world := w, sent := s.sent ++ block, waiting := s.waiting ++ replays call reply }
  | validated (i : ℕ) (request : ChatCompletionRequest) (waits : s.waiting[i]? = some request) (p : ChatProvider)
      (picked : Picks u fl pyd settings request p) (k : ℕ) (posts : p.Posts network request s.sent k) :
    Turn s (.validated request) (List.replicate (k + 1) (p.post request))
      { s with sent := s.sent ++ List.replicate (k + 1) (p.post request), waiting := s.waiting.eraseIdx i }

/-- Turn by turn. -/
inductive Turns : ProxyState F → List (Happened C R) → List (List Post) → ProxyState F → Prop
  | nil (s : ProxyState F) : Turns s [] [] s
  | cons {s s' s'' : ProxyState F} {h : Happened C R} {block : List Post} {hs : List (Happened C R)}
      {blocks : List (List Post)} (turn : Turn u fl pyd settings network Served replays s h block s')
      (turns : Turns s' hs blocks s'') : Turns s (h :: hs) (block :: blocks) s''

variable {u fl pyd settings network Served replays} {s s' : ProxyState F}

theorem Turn.sent {h : Happened C R} {block : List Post}
    (turn : Turn u fl pyd settings network Served replays s h block s') : s'.sent = s.sent ++ block := by
  cases turn <;> rfl

/-- A validation that posts was waiting; a request adds what it begins. -/
theorem Turn.perm {h : Happened C R} {block : List Post}
    (turn : Turn u fl pyd settings network Served replays s h block s') :
    (h.replayed.toList ++ s'.waiting).Perm (s.waiting ++ h.begun replays) := by
  cases turn with
  | replied call reply w block served => exact List.Perm.refl _
  | validated i request waits p picked k posts =>
    obtain ⟨hi, hrequest⟩ := List.getElem?_eq_some_iff.mp waits
    show (request :: s.waiting.eraseIdx i).Perm (s.waiting ++ [])
    rw [List.append_nil, ← hrequest]
    exact List.getElem_cons_eraseIdx_perm hi

theorem Turns.append {s'' : ProxyState F} {hs hs' : List (Happened C R)} {blocks blocks' : List (List Post)}
    (turns : Turns u fl pyd settings network Served replays s hs blocks s')
    (turns' : Turns u fl pyd settings network Served replays s' hs' blocks' s'') :
    Turns u fl pyd settings network Served replays s (hs ++ hs') (blocks ++ blocks') s'' := by
  induction turns with
  | nil => exact turns'
  | cons turn _ ih => exact .cons turn (ih turns')

/-- What is posted is the blocks, in order. -/
theorem Turns.sent {hs : List (Happened C R)} {blocks : List (List Post)}
    (turns : Turns u fl pyd settings network Served replays s hs blocks s') : s'.sent = s.sent ++ blocks.flatten := by
  induction turns with
  | nil => exact (List.append_nil _).symm
  | cons turn _ ih => rw [ih, turn.sent, List.flatten_cons, List.append_assoc]

open scoped List in
/-- **No validation is lost, and none runs twice.** -/
theorem Turns.perm {hs : List (Happened C R)} {blocks : List (List Post)}
    (turns : Turns u fl pyd settings network Served replays s hs blocks s') :
    (hs.filterMap Happened.replayed ++ s'.waiting).Perm (s.waiting ++ hs.flatMap (Happened.begun replays)) := by
  induction turns with
  | nil s => rw [List.flatMap_nil, List.append_nil]; exact List.Perm.refl _
  | @cons s u s'' h block hs blocks turn turns ih =>
    calc (h :: hs).filterMap Happened.replayed ++ s''.waiting
        = h.replayed.toList ++ (hs.filterMap Happened.replayed ++ s''.waiting) := by
          rw [List.filterMap_cons]
          cases h <;> rfl
      _ ~ h.replayed.toList ++ (u.waiting ++ hs.flatMap (Happened.begun replays)) := ih.append_left _
      _ = (h.replayed.toList ++ u.waiting) ++ hs.flatMap (Happened.begun replays) := (List.append_assoc ..).symm
      _ ~ (s.waiting ++ h.begun replays) ++ hs.flatMap (Happened.begun replays) := turn.perm.append_right _
      _ = s.waiting ++ (h :: hs).flatMap (Happened.begun replays) := by
          rw [List.flatMap_cons, List.append_assoc]

/-- What every turn says of its block, all blocks say. -/
theorem Turns.forall₂ {P : Happened C R → List Post → Prop}
    (hP : ∀ s s' h block, Turn u fl pyd settings network Served replays s h block s' → P h block)
    {hs : List (Happened C R)} {blocks : List (List Post)}
    (turns : Turns u fl pyd settings network Served replays s hs blocks s') :
    List.Forall₂ P hs blocks := by
  induction turns with
  | nil => exact .nil
  | cons turn _ ih => exact .cons (hP _ _ _ _ turn) ih

end

/-- Blocks of `n` at most, those of some kind empty. -/
theorem length_flatten_le {α β : Type} (n : ℕ) (full : α → Bool) {xs : List α} {blocks : List (List β)}
    (h : List.Forall₂ (fun x block => block.length ≤ if full x then n else 0) xs blocks) :
    blocks.flatten.length ≤ n * xs.countP full := by
  induction h with
  | nil => exact Nat.zero_le _
  | @cons x block xs blocks hblock _ ih =>
    rw [List.flatten_cons, List.length_append, List.countP_cons]
    cases hx : full x with
    | true =>
      rw [hx, if_pos rfl] at hblock
      rw [if_pos rfl, Nat.mul_add_one]
      omega
    | false =>
      rw [hx, if_neg Bool.false_ne_true] at hblock
      rw [if_neg Bool.false_ne_true, Nat.add_zero]
      omega

/-! ## Traffic -/

section
variable {F C R : Type} (u : Unicode) (router : ProviderRouter) (network : Network)
  (serve : C → World F → List Post → R × World F × List Post)

/-- What the tasks begun since `w` ask. -/
def World.replaysSince (w w' : World F) : List ChatCompletionRequest :=
  (w'.effects.drop w.effects.length).filterMap Effect.replayed

def ProxyState.call (s : ProxyState F) (call : C) : List (Happened C R) × ProxyState F :=
  let out := serve call s.world s.sent
  ([.replied call out.1],
    { world := out.2.1, sent := out.2.2, waiting := s.waiting ++ s.world.replaysSince out.2.1 })

/-- A validation calls the router's `complete`, and reads its answer beside the service. -/
def ProxyState.validate (s : ProxyState F) (i : ℕ) (uuid : String) (now : Int) :
    List (Happened C R) × ProxyState F :=
  match s.waiting[i]? with
  | none => ([], s)
  | some request =>
    ([.validated request],
      { s with sent := (router.complete u request network uuid now s.sent).2, waiting := s.waiting.eraseIdx i })

def ProxyState.act (s : ProxyState F) : ProxyAction C → List (Happened C R) × ProxyState F
  | .call call => s.call serve call
  | .validate i uuid now => s.validate u router network i uuid now

def ProxyState.traffic (s : ProxyState F) : List (ProxyAction C) → List (Happened C R) × ProxyState F
  | [] => ([], s)
  | action :: actions =>
    let out := s.act u router network serve action
    let rest := out.2.traffic actions
    (out.1 ++ rest.1, rest.2)

variable {serve} {Served : C → World F → List Post → R → World F → List Post → Prop}
  {replays : C → R → List ChatCompletionRequest} (fl : FloatSums) (pyd : Pydantic) (settings : Settings)
  (hserve : ∀ call w sent, ∃ block, (serve call w sent).2.2 = sent ++ block ∧
    Served call w sent (serve call w sent).1 (serve call w sent).2.1 (sent ++ block) ∧
    w.replaysSince (serve call w sent).2.1 = replays call (serve call w sent).1)

include hserve

theorem act_turns (s : ProxyState F) (action : ProxyAction C) :
    ∃ blocks, Turns u fl pyd settings network Served replays s
      (s.act u (buildRouter fl pyd settings) network serve action).1 blocks
      (s.act u (buildRouter fl pyd settings) network serve action).2 := by
  cases action with
  | call call =>
    obtain ⟨block, hblock, hserved, hreplays⟩ := hserve call s.world s.sent
    refine ⟨[block], .cons ?_ (.nil _)⟩
    show Turn _ _ _ _ _ _ _ s (.replied call _) block ⟨_, _, _⟩
    rw [hblock, hreplays]
    exact .replied call _ _ block hserved
  | validate i uuid now =>
    simp only [ProxyState.act, ProxyState.validate]
    cases hwaits : s.waiting[i]? with
    | none => exact ⟨[], .nil s⟩
    | some request =>
      obtain ⟨p, k, hp, -, hposts, hcomplete⟩ := buildRouter_complete u fl pyd settings request network uuid now s.sent
      refine ⟨[List.replicate (k + 1) (p.post request)], .cons ?_ (.nil _)⟩
      simp only [hcomplete]
      exact .validated i request hwaits p hp k hposts

/-- **Traffic goes by turns.** -/
theorem traffic_turns (s : ProxyState F) (actions : List (ProxyAction C)) :
    ∃ blocks, Turns u fl pyd settings network Served replays s
      (s.traffic u (buildRouter fl pyd settings) network serve actions).1 blocks
      (s.traffic u (buildRouter fl pyd settings) network serve actions).2 := by
  induction actions generalizing s with
  | nil => exact ⟨[], .nil s⟩
  | cons action actions ih =>
    obtain ⟨blocks, hturns⟩ := act_turns u network fl pyd settings hserve s action
    obtain ⟨blocks', hturns'⟩ := ih (s.act u (buildRouter fl pyd settings) network serve action).2
    exact ⟨blocks ++ blocks', hturns.append hturns'⟩

end

end CachingLayer
