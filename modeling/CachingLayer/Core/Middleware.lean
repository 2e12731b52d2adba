import CachingLayer.Basis.TokenBucket
import CachingLayer.Models.Json

/-!
# Rate limiting

`RateLimitMiddleware`: a token bucket for each client key, made when the key first
comes.  What a key is answered is what a bucket of its own answers (`served_filter`,
`events_served`), so that the library's account of buckets holds of every key, whatever
else comes in (`rate_limit_exact`).  What was refused leaves no trace (`refused_invisible`).

The clock's readings are arguments, in an ordered field.
-/

namespace CachingLayer

/-! ## `_TokenBucket` -/

structure TokenBucket (K : Type) where
  capacity : K
  tokens : K
  refillPerSec : K
  updated : K

namespace TokenBucket

section
variable {K : Type} [Field K]

def new (rate : ℕ) (now : K) : TokenBucket K where
  capacity := rate
  tokens := rate
  refillPerSec := rate
  updated := now

def toBucket (b : TokenBucket K) : Bucket K := ⟨b.tokens, b.updated⟩

/-- The capacity and the refill are the rate it was made with. -/
structure HasRate (b : TokenBucket K) (rate : ℕ) : Prop where
  capacity : b.capacity = rate
  refillPerSec : b.refillPerSec = rate

theorem hasRate_new (rate : ℕ) (now : K) : (new rate now).HasRate rate := ⟨rfl, rfl⟩

variable [LinearOrder K]

def allow (b : TokenBucket K) (now : K) : Bool × TokenBucket K :=
  let tokens := min b.capacity (b.tokens + (now - b.updated) * b.refillPerSec)
  if 1 ≤ tokens then (true, { b with tokens := tokens - 1, updated := now })
  else (false, { b with tokens, updated := now })

/-- `allow` is a request to the bucket. -/
theorem allow_eq (b : TokenBucket K) (rate : ℕ) (h : b.HasRate rate) (now : K) :
    (b.allow now).1 = (b.toBucket.take (rate : K) rate now).1 ∧
      (b.allow now).2.toBucket = (b.toBucket.take (rate : K) rate now).2 ∧ (b.allow now).2.HasRate rate := by
  unfold allow Bucket.take Bucket.level toBucket
  simp only [h.capacity, h.refillPerSec]
  split
  · exact ⟨rfl, rfl, rfl, rfl⟩
  · exact ⟨rfl, rfl, rfl, rfl⟩

end

end TokenBucket

/-! ## `RateLimitMiddleware` -/

structure HttpRequest where
  path : String
  /-- `headers.get("x-tenant-id")`. -/
  tenantId : Option String := none
  /-- `client.host`. -/
  clientHost : Option String := none

structure JsonResponse where
  content : Json
  statusCode : Nat
  headers : List (String × String)

/-- A request, and what the clock says while it is dispatched: when a bucket is made for
it (if one is), and when it asks for its token. -/
structure Arrival (K : Type) where
  request : HttpRequest
  made : K
  now : K

structure RateLimitMiddleware where
  ratePerSec : ℕ := 50
  exemptPaths : List String := []

namespace RateLimitMiddleware

def clientKey (request : HttpRequest) : String :=
  let tenant := request.tenantId.getD ""
  if tenant ≠ "" then "tenant:" ++ tenant else "ip:" ++ request.clientHost.getD "unknown"

def rateLimited : JsonResponse where
  content := .obj [("error", .obj [("message", .str "rate limit exceeded"), ("type", .str "rate_limit_error")])]
  statusCode := 429
  headers := [("Retry-After", "1")]

section
variable {K : Type} [Field K] [LinearOrder K] (mw : RateLimitMiddleware)

/-- `none` hands the request on to the application. -/
def dispatch (buckets : String → Option (TokenBucket K)) (a : Arrival K) :
    Option JsonResponse × (String → Option (TokenBucket K)) :=
  if a.request.path ∈ mw.exemptPaths then (none, buckets)
  else
    let key := clientKey a.request
    let bucket := (buckets key).getD (.new mw.ratePerSec a.made)
    (if ¬ (bucket.allow a.now).1 then some rateLimited else none,
      Function.update buckets key (some (bucket.allow a.now).2))

/-- The arrivals with their answers. -/
def served (buckets : String → Option (TokenBucket K)) : List (Arrival K) → List (Arrival K × Option JsonResponse)
  | [] => []
  | a :: arrivals => (a, (mw.dispatch buckets a).1) :: served (mw.dispatch buckets a).2 arrivals

/-- Non-exempt, and of the client. -/
def ofKey (key : String) (a : Arrival K) : Bool :=
  a.request.path ∉ mw.exemptPaths ∧ clientKey a.request = key

/-- The times of a client's requests, and whether they were let through. -/
def events (key : String) (arrivals : List (Arrival K)) : List (K × Bool) :=
  ((mw.served (fun _ => none) arrivals).filter fun x => mw.ofKey key x.1).map fun x => (x.1.now, x.2.isNone)

section
variable (key : String) (a : Arrival K) (buckets : String → Option (TokenBucket K))

theorem dispatch_ofKey (h : mw.ofKey key a = true) :
    mw.dispatch buckets a =
      let bucket := (buckets key).getD (.new mw.ratePerSec a.made)
      (if ¬ (bucket.allow a.now).1 then some rateLimited else none,
        Function.update buckets key (some (bucket.allow a.now).2)) := by
  unfold ofKey at h
  rw [decide_eq_true_eq] at h
  obtain ⟨hpath, rfl⟩ := h
  unfold dispatch
  rw [if_neg hpath]

/-- Other arrivals leave a client's bucket alone. -/
theorem dispatch_not_ofKey (h : ¬ mw.ofKey key a = true) : (mw.dispatch buckets a).2 key = buckets key := by
  unfold ofKey at h
  rw [decide_eq_true_eq] at h
  unfold dispatch
  by_cases hpath : a.request.path ∈ mw.exemptPaths
  · rw [if_pos hpath]
  · rw [if_neg hpath]
    have hne : key ≠ clientKey a.request := fun hk => h ⟨hpath, hk.symm⟩
    exact Function.update_of_ne hne _ _

end

/-- A client is answered as if nobody else were there. -/
theorem served_filter (key : String) (arrivals : List (Arrival K))
    (buckets buckets' : String → Option (TokenBucket K)) (h : buckets key = buckets' key) :
    ((mw.served buckets arrivals).filter fun x => mw.ofKey key x.1) =
      mw.served buckets' (arrivals.filter (mw.ofKey key)) := by
  induction arrivals generalizing buckets buckets' with
  | nil => rfl
  | cons a arrivals ih =>
    by_cases ha : mw.ofKey key a = true
    · have hboth : (mw.dispatch buckets a).1 = (mw.dispatch buckets' a).1 ∧
          (mw.dispatch buckets a).2 key = (mw.dispatch buckets' a).2 key := by
        rw [mw.dispatch_ofKey key a buckets ha, mw.dispatch_ofKey key a buckets' ha, h]
        simp only [Function.update_self, and_self]
      rw [List.filter_cons_of_pos ha, served, served, List.filter_cons, if_pos ha, hboth.1, ih _ _ hboth.2]
    · rw [List.filter_cons_of_neg ha]
      show ((a, _) :: mw.served _ arrivals).filter _ = _
      rw [List.filter_cons, if_neg ha]
      exact ih _ _ ((mw.dispatch_not_ofKey key a buckets ha).trans h)

/-- The requests of one client are the requests of its bucket. -/
theorem events_served (key : String) (arrivals : List (Arrival K)) (hkey : ∀ a ∈ arrivals, mw.ofKey key a = true)
    (buckets : String → Option (TokenBucket K)) (bucket : TokenBucket K) (hrate : bucket.HasRate mw.ratePerSec)
    (hbucket : ∀ a ∈ arrivals.head?, (buckets key).getD (.new mw.ratePerSec a.made) = bucket) :
    (mw.served buckets arrivals).map (fun x => (x.1.now, x.2.isNone)) =
      bucket.toBucket.events (mw.ratePerSec : K) mw.ratePerSec (arrivals.map (·.now)) := by
  induction arrivals generalizing buckets bucket with
  | nil => rfl
  | cons a arrivals ih =>
    have hown := hbucket a rfl
    have hdispatch := mw.dispatch_ofKey key a buckets (hkey a List.mem_cons_self)
    simp only [hown] at hdispatch
    obtain ⟨hallow, hafter, hrate'⟩ := bucket.allow_eq mw.ratePerSec hrate a.now
    unfold served
    rw [List.map_cons, List.map_cons, hdispatch]
    unfold Bucket.events
    rw [← hallow, ← hafter]
    congr 1
    · cases (bucket.allow a.now).1 <;> rfl
    · refine ih (fun b hb => hkey b (List.mem_cons_of_mem a hb)) _ _ hrate' fun b _ => ?_
      show (Function.update buckets key (some (bucket.allow a.now).2) key).getD _ = _
      rw [Function.update_self, Option.getD_some]

end

/-! ## The limiter is a token bucket for each client -/

section
variable {K : Type} [Field K] [LinearOrder K] [IsStrictOrderedRing K] (mw : RateLimitMiddleware) (key : String)
  (arrivals : List (Arrival K)) (hclock : arrivals.Pairwise fun a b => a.now ≤ b.now)
  (hmade : ∀ a ∈ arrivals, a.made ≤ a.now)

include hclock hmade

theorem exact_events : Bucket.Exact (mw.ratePerSec : K) mw.ratePerSec (mw.events key arrivals) := by
  have hkey : ∀ a ∈ arrivals.filter (mw.ofKey key), mw.ofKey key a = true := fun a ha => (List.mem_filter.mp ha).2
  unfold events
  rw [mw.served_filter key arrivals (fun _ => none) (fun _ => none) rfl]
  cases hfirst : arrivals.filter (mw.ofKey key) with
  | nil =>
    intro i hi
    cases hi
  | cons a rest =>
    rw [hfirst] at hkey
    have hsorted : (a :: rest).Pairwise fun a b => a.now ≤ b.now := hfirst ▸ hclock.filter _
    have hmem : a ∈ arrivals := List.mem_of_mem_filter (hfirst ▸ List.mem_cons_self)
    rw [mw.events_served key (a :: rest) hkey (fun _ => none) (.new mw.ratePerSec a.made)
      (TokenBucket.hasRate_new _ _) (by rintro b ⟨⟩; rfl)]
    refine Bucket.exact_events (mw.ratePerSec : K) mw.ratePerSec (Nat.cast_nonneg _) _ rfl _ ?_
    rw [List.pairwise_cons]
    refine ⟨fun t ht => ?_, List.pairwise_map.mpr hsorted⟩
    obtain ⟨b, hb, rfl⟩ := List.mem_map.mp ht
    rcases List.mem_cons.mp hb with rfl | hb
    · exact hmade _ hmem
    · exact (hmade a hmem).trans ((List.pairwise_cons.mp hsorted).1 b hb)

/-- **Exactness.**  A client's request is let through exactly when every window of its
requests that ends with it holds at most `r + r * length` requests let through, itself
counted.  So a stretch of length `d` holds at most `r * (1 + d)`, a request is refused only
when a window would hold more with it, and a client's answers are those it gets alone. -/
theorem rate_limit_exact :
    (∀ (i : ℕ) (hi : i < (mw.events key arrivals).length),
      (mw.events key arrivals)[i].2 = true ↔
        ∀ (j : ℕ) (hj : j ≤ i),
          ((Bucket.granted (((mw.events key arrivals).take i).drop j) : ℕ) : K) + 1 ≤
            mw.ratePerSec + mw.ratePerSec * ((mw.events key arrivals)[i].1 - (mw.events key arrivals)[j].1)) ∧
    (∀ s d : K, 0 ≤ d →
      (((mw.events key arrivals).countP fun e => e.2 ∧ s ≤ e.1 ∧ e.1 ≤ s + d : ℕ) : K) ≤
        mw.ratePerSec * (1 + d)) ∧
    (∀ (i : ℕ) (hi : i < (mw.events key arrivals).length), (mw.events key arrivals)[i].2 = false →
      ∃ (j : ℕ) (hj : j ≤ i),
        (mw.ratePerSec : K) * (1 + ((mw.events key arrivals)[i].1 - (mw.events key arrivals)[j].1)) <
          ((Bucket.granted (((mw.events key arrivals).take i).drop j) : ℕ) : K) + 1) ∧
    ((mw.served (fun _ => none) arrivals).filter fun x => mw.ofKey key x.1) =
      mw.served (fun _ => none) (arrivals.filter (mw.ofKey key)) := by
  have hrate : (0 : K) ≤ mw.ratePerSec := Nat.cast_nonneg _
  have hexact := mw.exact_events key arrivals hclock hmade
  refine ⟨hexact, fun s d hd => ?_, fun i hi hrefused => ?_,
    mw.served_filter key arrivals (fun _ => none) (fun _ => none) rfl⟩
  · have := Bucket.Exact.countP_stretch_le _ _ hrate hrate _ hexact s d hd
    linarith
  · have hnot : ¬ (mw.events key arrivals)[i].2 = true := by rw [hrefused]; decide
    rw [hexact i hi] at hnot
    push Not at hnot
    obtain ⟨j, hj, hbreaks⟩ := hnot
    exact ⟨j, hj, by linarith⟩

end

/-- Two clients and a health check, at two requests a second. -/
def burst : List (Arrival ℚ) := [
  ⟨{ path := "/v1/chat/completions", tenantId := some "team" }, 0, 0⟩,
  ⟨{ path := "/v1/chat/completions", tenantId := some "team" }, 0, 0⟩,
  ⟨{ path := "/healthz", tenantId := some "team" }, 0, 0⟩,
  ⟨{ path := "/v1/chat/completions", tenantId := some "", clientHost := some "10.0.0.7" }, 0, 1 / 4⟩,
  ⟨{ path := "/v1/chat/completions", tenantId := some "team" }, 0, 1 / 4⟩,
  ⟨{ path := "/v1/chat/completions", tenantId := some "team" }, 0, 1 / 2⟩]

theorem rate_limit_exact_burst :
    ((RateLimitMiddleware.mk 2 ["/healthz"]).events "tenant:team" burst).map (·.2) = [true, true, false, true] ∧
      ((((RateLimitMiddleware.mk 2 ["/healthz"]).events "tenant:team" burst).countP fun e =>
        e.2 ∧ 0 ≤ e.1 ∧ e.1 ≤ 0 + 1 / 2 : ℕ) : ℚ) ≤ (2 : ℕ) * (1 + 1 / 2) := by
  obtain ⟨-, hstretch, -⟩ := rate_limit_exact (RateLimitMiddleware.mk 2 ["/healthz"]) "tenant:team" burst
    (by decide +kernel) (by decide +kernel)
  exact ⟨by decide +kernel, hstretch 0 (1 / 2) (by norm_num)⟩

/-! ## Who is refused -/

section
variable {K : Type} [Field K] [LinearOrder K] [IsStrictOrderedRing K] (mw : RateLimitMiddleware)

/-- The level a client's request finds, should its bucket have to be made. -/
def levelAt (buckets : String → Option (TokenBucket K)) (key : String) (made now : K) : K :=
  ((buckets key).getD (.new mw.ratePerSec made)).toBucket.level mw.ratePerSec mw.ratePerSec now

/-- Every bucket has the middleware's rate. -/
def Rated (buckets : String → Option (TokenBucket K)) : Prop :=
  ∀ key bucket, buckets key = some bucket → bucket.HasRate mw.ratePerSec

/-- From `now` on, every client finds the same level in both. -/
def Alike (now : K) (buckets buckets' : String → Option (TokenBucket K)) : Prop :=
  ∀ key made t, made ≤ t → now ≤ t → mw.levelAt buckets key made t = mw.levelAt buckets' key made t

omit [LinearOrder K] [IsStrictOrderedRing K] in
theorem hasRate_getD (buckets : String → Option (TokenBucket K)) (hrated : mw.Rated buckets) (key : String)
    (made : K) : ((buckets key).getD (.new mw.ratePerSec made)).HasRate mw.ratePerSec := by
  cases hb : buckets key with
  | none => exact TokenBucket.hasRate_new _ _
  | some bucket => exact hrated key bucket hb

section
variable (buckets : String → Option (TokenBucket K)) (hrated : mw.Rated buckets) (a : Arrival K)
include hrated

omit [IsStrictOrderedRing K] in
theorem rated_dispatch : mw.Rated (mw.dispatch buckets a).2 := by
  intro key bucket hb
  by_cases hkey : mw.ofKey key a = true
  · rw [mw.dispatch_ofKey key a buckets hkey] at hb
    simp only [Function.update_self, Option.some.injEq] at hb
    subst hb
    exact (TokenBucket.allow_eq _ _ (mw.hasRate_getD buckets hrated key a.made) a.now).2.2
  · rw [mw.dispatch_not_ofKey key a buckets hkey] at hb
    exact hrated key bucket hb

omit [IsStrictOrderedRing K] in
/-- A client's arrival is a request to its bucket, whose level it leaves for the next. -/
theorem dispatch_take (key : String) (hkey : mw.ofKey key a = true) (bucket : Bucket K)
    (hbucket : bucket = ((buckets key).getD (.new mw.ratePerSec a.made)).toBucket) :
    (mw.dispatch buckets a).1 =
        (if (bucket.take (mw.ratePerSec : K) mw.ratePerSec a.now).1 then none else some rateLimited) ∧
      ∀ made t, mw.levelAt (mw.dispatch buckets a).2 key made t =
        (bucket.take (mw.ratePerSec : K) mw.ratePerSec a.now).2.level (mw.ratePerSec : K) mw.ratePerSec t := by
  obtain ⟨hallow, hafter, -⟩ :=
    TokenBucket.allow_eq _ _ (mw.hasRate_getD buckets hrated key a.made) a.now
  subst hbucket
  rw [mw.dispatch_ofKey key a buckets hkey, ← hallow, ← hafter]
  refine ⟨?_, fun made t => ?_⟩
  · simp only []
    split <;> simp_all
  · unfold levelAt
    simp only [Function.update_self, Option.getD_some]

end

section
variable (buckets buckets' : String → Option (TokenBucket K)) (hrated : mw.Rated buckets) (a : Arrival K)
  (now : K) (halike : mw.Alike now buckets buckets') (hmade : a.made ≤ a.now) (hnow : now ≤ a.now)
include hrated halike hmade hnow

omit [IsStrictOrderedRing K] in
/-- Alike buckets answer alike, and stay alike. -/
theorem alike_dispatch (hrated' : mw.Rated buckets') :
    (mw.dispatch buckets a).1 = (mw.dispatch buckets' a).1 ∧
      mw.Alike a.now (mw.dispatch buckets a).2 (mw.dispatch buckets' a).2 := by
  by_cases hexempt : a.request.path ∈ mw.exemptPaths
  · unfold dispatch
    rw [if_pos hexempt, if_pos hexempt]
    exact ⟨rfl, fun key made t hm ht => halike key made t hm (hnow.trans ht)⟩
  · have hown : mw.ofKey (clientKey a.request) a = true := decide_eq_true ⟨hexempt, rfl⟩
    obtain ⟨hanswer, hlevel⟩ := mw.dispatch_take buckets hrated a _ hown _ rfl
    obtain ⟨hanswer', hlevel'⟩ := mw.dispatch_take buckets' hrated' a _ hown _ rfl
    have htake := Bucket.take_of_level_eq (mw.ratePerSec : K) mw.ratePerSec _ _ a.now
      (halike (clientKey a.request) a.made a.now hmade hnow)
    refine ⟨by rw [hanswer, hanswer', htake], fun key made t hm ht => ?_⟩
    by_cases hkey : mw.ofKey key a = true
    · obtain rfl : clientKey a.request = key := (of_decide_eq_true hkey).2
      rw [hlevel, hlevel', htake]
    · unfold levelAt
      rw [mw.dispatch_not_ofKey key a buckets hkey, mw.dispatch_not_ofKey key a buckets' hkey]
      exact halike key made t hm (hnow.trans ht)

/-- An arrival that is exempt or refused leaves the buckets alike. -/
theorem alike_dispatch_left (hleft : a.request.path ∈ mw.exemptPaths ∨ (mw.dispatch buckets a).1.isSome = true) :
    mw.Alike a.now (mw.dispatch buckets a).2 buckets' := by
  intro key made t hm ht
  rw [← halike key made t hm (hnow.trans ht)]
  by_cases hkey : mw.ofKey key a = true
  · obtain ⟨hexempt, -⟩ := of_decide_eq_true hkey
    obtain ⟨hanswer, hlevel⟩ := mw.dispatch_take buckets hrated a _ hkey _ rfl
    have hrefused : (Bucket.take (mw.ratePerSec : K) mw.ratePerSec
        ((buckets key).getD (.new mw.ratePerSec a.made)).toBucket a.now).1 = false := by
      rcases hleft with hpath | hsome
      · exact absurd hpath hexempt
      · rw [hanswer] at hsome
        by_contra hgranted
        rw [if_pos (by simpa using hgranted)] at hsome
        cases hsome
    rw [hlevel, Bucket.level_take_of_refused _ _ (Nat.cast_nonneg _) _ a.now t ht hrefused]
    unfold levelAt
    cases hb : buckets key with
    | some bucket => rfl
    | none =>
      -- a bucket not made yet is full, whenever it is made
      have hfull : ∀ m, m ≤ t → Bucket.level (mw.ratePerSec : K) mw.ratePerSec
          (TokenBucket.new mw.ratePerSec m).toBucket t = mw.ratePerSec := by
        intro m hmt
        unfold Bucket.level TokenBucket.toBucket TokenBucket.new
        exact min_eq_left (le_add_of_nonneg_right (mul_nonneg (sub_nonneg.mpr hmt) (Nat.cast_nonneg _)))
      exact (hfull a.made (hmade.trans ht)).trans (hfull made hm).symm
  · unfold levelAt
    rw [mw.dispatch_not_ofKey key a buckets hkey]

end

/-- Exempt, or refused: what is let through and not exempt has to be kept. -/
def mayDrop (x : Arrival K × Option JsonResponse) : Bool := x.1.request.path ∈ mw.exemptPaths ∨ x.2.isSome

/-- What is left of a run when arrivals that may be dropped are, but for those at the
positions kept. -/
def heard (keep : ℕ → Bool) : List (Arrival K × Option JsonResponse) → List (Arrival K × Option JsonResponse)
  | [] => []
  | x :: served =>
    if keep 0 || !mw.mayDrop x then x :: heard (fun n => keep (n + 1)) served else heard (fun n => keep (n + 1)) served

theorem served_kept (keep : ℕ → Bool) (arrivals : List (Arrival K))
    (buckets buckets' : String → Option (TokenBucket K)) (hrated : mw.Rated buckets) (hrated' : mw.Rated buckets')
    (now : K) (halike : mw.Alike now buckets buckets')
    (hclock : (now :: arrivals.map (·.now)).Pairwise (· ≤ ·)) (hmade : ∀ a ∈ arrivals, a.made ≤ a.now) :
    mw.served buckets' ((mw.heard keep (mw.served buckets arrivals)).map (·.1)) =
      mw.heard keep (mw.served buckets arrivals) := by
  induction arrivals generalizing keep buckets buckets' now with
  | nil => rfl
  | cons a arrivals ih =>
    rw [List.map_cons, List.pairwise_cons] at hclock
    have hnow : now ≤ a.now := hclock.1 a.now List.mem_cons_self
    have hmade' := List.forall_mem_cons.mp hmade
    have hrest := mw.rated_dispatch buckets hrated a
    rw [served]
    unfold heard
    by_cases hkept : (keep 0 || !mw.mayDrop (a, (mw.dispatch buckets a).1)) = true
    · obtain ⟨hanswer, hnext⟩ := mw.alike_dispatch buckets buckets' hrated a now halike hmade'.1 hnow hrated'
      have htail := ih (fun n => keep (n + 1)) _ _ hrest (mw.rated_dispatch buckets' hrated' a) a.now hnext hclock.2
        hmade'.2
      rw [if_pos hkept, List.map_cons, served, htail, hanswer]
    · have hdropped : mw.mayDrop (a, (mw.dispatch buckets a).1) = true := by
        cases hdrop : mw.mayDrop (a, (mw.dispatch buckets a).1) with
        | true => rfl
        | false => exact absurd (by rw [hdrop, Bool.not_false, Bool.or_true]) hkept
      have hnext := mw.alike_dispatch_left buckets buckets' hrated a now halike hmade'.1 hnow
        (of_decide_eq_true hdropped)
      rw [if_neg hkept]
      exact ih (fun n => keep (n + 1)) _ _ hrest hrated' a.now hnext hclock.2 hmade'.2

/-- **A refusal leaves no trace.**  Take out of a run any arrivals that were refused or
exempt: all that are left are answered as before.  So what a client is refused never costs
it, or anybody, a later request. -/
theorem refused_invisible (keep : ℕ → Bool) (arrivals : List (Arrival K))
    (hclock : arrivals.Pairwise fun a b => a.now ≤ b.now) (hmade : ∀ a ∈ arrivals, a.made ≤ a.now) :
    mw.served (fun _ => none) ((mw.heard keep (mw.served (fun _ => none) arrivals)).map (·.1)) =
      mw.heard keep (mw.served (fun _ => none) arrivals) := by
  cases arrivals with
  | nil => rfl
  | cons a arrivals =>
    refine mw.served_kept keep (a :: arrivals) _ _ (fun _ _ h => by cases h) (fun _ _ h => by cases h) a.now
      (fun _ _ _ _ _ => rfl) ?_ hmade
    have hsorted := List.pairwise_map.mpr hclock
    rw [List.map_cons] at hsorted ⊢
    refine List.pairwise_cons.mpr ⟨fun t ht => ?_, hsorted⟩
    rcases List.mem_cons.mp ht with rfl | ht
    · exact le_rfl
    · exact (List.pairwise_cons.mp hsorted).1 t ht

end

/-- Four times the same, at two requests a second, and once more a second later. -/
def stutter : List (Arrival ℚ) := [0, 0, 0, 0, 1].map fun now =>
  ⟨{ path := "/v1/chat/completions", tenantId := some "team" }, 0, now⟩

/-- Two are refused, and the first of these is left out. -/
theorem refused_invisible_stutter :
    ((RateLimitMiddleware.mk 2 []).served (fun _ => none) stutter).map (·.2.isSome) =
        [false, false, true, true, false] ∧
      ((RateLimitMiddleware.mk 2 []).served (fun _ => none)
          (((RateLimitMiddleware.mk 2 []).heard (fun n => n ≠ 2)
            ((RateLimitMiddleware.mk 2 []).served (fun _ => none) stutter)).map (·.1))).map (·.2.isSome) =
        [false, false, true, false] := by
  refine ⟨by decide +kernel, ?_⟩
  rw [refused_invisible (RateLimitMiddleware.mk 2 []) (fun n => n ≠ 2) stutter (by decide +kernel) (by decide +kernel)]
  decide +kernel

end RateLimitMiddleware

end CachingLayer
