import CachingLayer.Proxy.StreamedMiss

/-!
# Line endings

The event-stream format lets a line end in CR LF as well as in LF.  `_consume_event`
strips the CR off its lines (`eventPayloads_crlf`); `push` cuts events at LF LF, and a
stream with CR LF has none (`crlf_not_blankLine`).

Main result: `assembler_crlf_iff` — exactly the streams that leave an assembler as it
was leave it so with either line ending.
-/

namespace CachingLayer

open Text

abbrev carriageReturn : UInt8 := 13

/-- Every LF made CR LF. -/
def crlf (b : Bytes) : Bytes := b.flatMap fun c => if c = newline then [carriageReturn, newline] else [c]

theorem crlf_cons_newline (b : Bytes) : crlf (newline :: b) = carriageReturn :: newline :: crlf b := rfl

theorem crlf_cons_of_ne (c : UInt8) (hc : c ≠ newline) (b : Bytes) : crlf (c :: b) = c :: crlf b := by
  unfold crlf
  rw [List.flatMap_cons, if_neg hc]
  rfl

theorem crlf_append (a b : Bytes) : crlf (a ++ b) = crlf a ++ crlf b := List.flatMap_append

/-! ## Lines -/

/-- Trailing whitespace is stripped. -/
theorem stripBytes_concat (l : Bytes) (c : UInt8) (hc : isByteSpace c = true) :
    stripBytes (l ++ [c]) = stripBytes l := by
  unfold stripBytes stripBy
  rw [List.dropWhile_append]
  by_cases hl : (l.dropWhile isByteSpace).isEmpty = true
  · rw [if_pos hl, List.isEmpty_iff.mp hl, List.dropWhile_cons_of_pos hc]
    rfl
  · rw [if_neg hl, List.rdropWhile_concat_pos isByteSpace _ c hc]

/-- Lines that are read alike. -/
theorem linePayload_concat_cr (line : Bytes) : linePayload (line ++ [carriageReturn]) = linePayload line := by
  unfold linePayload
  rw [stripBytes_concat line carriageReturn rfl]

theorem crlf_of_notMem (line : Bytes) (h : newline ∉ line) : crlf line = line := by
  induction line with
  | nil => rfl
  | cons c line ih =>
    rw [List.mem_cons, not_or] at h
    rw [crlf_cons_of_ne c (Ne.symm h.1), ih h.2]

theorem eventPayloads_cons_line (line rest : Bytes) :
    eventPayloads (line ++ newline :: rest) = eventPayloads line ++ eventPayloads rest := by
  unfold eventPayloads
  rw [List.splitOn_append_cons_self, List.filterMap_append]

/-- **Lines.**  Within an event the line endings make no difference. -/
theorem eventPayloads_crlf (event : Bytes) : eventPayloads (crlf event) = eventPayloads event := by
  generalize hn : event.length = n
  induction n using Nat.strong_induction_on generalizing event with
  | _ n ih =>
    by_cases h : newline ∈ event
    · obtain ⟨line, rest, rfl, hline⟩ := List.eq_append_cons_of_mem h
      have hcrlf : crlf (line ++ newline :: rest) = (line ++ [carriageReturn]) ++ newline :: crlf rest := by
        rw [crlf_append, crlf_of_notMem line hline, crlf_cons_newline, List.append_assoc]
        rfl
      have hrest : eventPayloads (crlf rest) = eventPayloads rest := by
        apply ih rest.length _ rest rfl
        rw [← hn]
        simp only [List.length_append, List.length_cons]
        omega
      have hline' : newline ∉ line ++ [carriageReturn] := by
        rw [List.mem_append, not_or]
        exact ⟨hline, by decide⟩
      rw [hcrlf, eventPayloads_cons_line, eventPayloads_cons_line, hrest]
      congr 1
      unfold eventPayloads
      rw [List.splitOn_eq_singleton hline, List.splitOn_eq_singleton hline']
      simp only [List.filterMap_cons, linePayload_concat_cr]
    · rw [crlf_of_notMem event h]

/-! ## Events -/

/-- No line of CR LF ending begins with LF. -/
theorem crlf_not_prefix (b : Bytes) : ¬ [newline] <+: crlf b := by
  cases b with
  | nil => decide
  | cons c b =>
    by_cases hc : c = newline
    · rw [hc, crlf_cons_newline, List.cons_prefix_cons]
      rintro ⟨h, -⟩
      cases h
    · rw [crlf_cons_of_ne c hc, List.cons_prefix_cons]
      rintro ⟨h, -⟩
      exact hc h.symm

/-- With CR LF no two LF stand side by side. -/
theorem crlf_not_blankLine (b : Bytes) : ¬ blankLine <:+: crlf b := by
  induction b with
  | nil => decide
  | cons c b ih =>
    by_cases hc : c = newline
    · rw [hc, crlf_cons_newline, List.infix_cons_iff, List.infix_cons_iff]
      rintro (h | h | h)
      · rw [List.cons_prefix_cons] at h
        cases h.1
      · rw [List.cons_prefix_cons] at h
        exact crlf_not_prefix b h.2
      · exact ih h
    · rw [crlf_cons_of_ne c hc, List.infix_cons_iff]
      rintro (h | h)
      · rw [List.cons_prefix_cons] at h
        exact hc h.1.symm
      · exact ih h

/-- **Events.**  No event of a stream with CR LF is ever complete. -/
theorem splitAll_crlf (b : Bytes) : Framing.splitAll blankLine (crlf b) = ([], crlf b) := by
  apply Framing.splitAll_none
  rw [Framing.cutAt_eq_none_iff (by decide)]
  exact crlf_not_blankLine b

theorem streamPayloads_crlf (b : Bytes) : streamPayloads (crlf b) = [] := by
  unfold streamPayloads
  rw [splitAll_crlf]
  rfl

namespace StreamAssembler

/-- What pushing `chunks` leaves in an assembler: everything but the buffer. -/
def assembled (oj : Orjson) (model : String) (chunks : List Bytes) : Except PyError Parts :=
  parts <$> (new model).pushAll oj chunks

theorem assembled_eq_ok_iff (oj : Orjson) (model : String) (chunks : List Bytes) (p : Parts) :
    assembled oj model chunks = .ok p ↔
      (∀ j ∈ streamValues oj chunks, j.mergeable = true) ∧
        p = { streamParts oj chunks with completed := decide (doneMarker ∈ streamPayloads chunks.flatten) } := by
  unfold assembled
  rw [Fold.map_eq_ok_iff]
  constructor
  · rintro ⟨a, ha, rfl⟩
    obtain ⟨hm, rfl⟩ := (pushAll_eq_ok_iff oj model chunks a).mp ha
    exact ⟨hm, rfl⟩
  · rintro ⟨hm, rfl⟩
    exact ⟨_, (pushAll_eq_ok_iff oj model chunks _).mpr ⟨hm, rfl⟩, rfl⟩

/-- Bytes with CR LF, in any chunks, leave an assembler as it was. -/
theorem assembled_crlf (oj : Orjson) (model : String) (b : Bytes) (chunks : List Bytes)
    (hcrlf : chunks.flatten = crlf b) : assembled oj model chunks = .ok {} := by
  have hnone : streamPayloads chunks.flatten = [] := by rw [hcrlf, streamPayloads_crlf]
  rw [assembled_eq_ok_iff]
  unfold streamParts streamValues
  rw [hnone]
  constructor
  · intro j hj; cases hj
  · rfl

/-! ## Streams that leave no trace -/

/-- Nothing in the stream changes an assembler: no `[DONE]`, every payload decoded is
mergeable and carries no content, finish reason or usage, and the last `id` and
`created`, if any, are `null`. -/
structure Traceless (oj : Orjson) (chunks : List Bytes) : Prop where
  notDone : doneMarker ∉ streamPayloads chunks.flatten
  mergeable : ∀ j ∈ streamValues oj chunks, j.mergeable = true
  empty : ∀ j ∈ streamValues oj chunks, j.contents = [] ∧ j.finishes = [] ∧ j.usages = []
  noId : ((streamValues oj chunks).filterMap (Json.given "id")).getLastD .null = .null
  noCreated : ((streamValues oj chunks).filterMap (Json.given "created")).getLastD .null = .null

/-- Of truthy values the last is `null` only when there is none. -/
theorem getLastD_null_iff (js : List Json) (htruthy : ∀ j ∈ js, j.truthy = true) :
    js.getLastD .null = .null ↔ js = [] := by
  constructor
  · intro h
    by_contra hne
    rw [List.getLastD_eq_getLast?, List.getLast?_eq_some_getLast hne, Option.getD_some] at h
    have := htruthy _ (List.getLast_mem hne)
    rw [h] at this
    cases this
  · rintro rfl; rfl

theorem truthy_of_mem_flatMap_filter (f : Json → List Json) (js : List Json) :
    ∀ x ∈ js.flatMap fun j => (f j).filter Json.truthy, x.truthy = true := by
  intro x hx
  obtain ⟨j, -, hxj⟩ := List.mem_flatMap.mp hx
  exact (List.mem_filter.mp hxj).2

theorem reassembled_eq_empty_iff (js : List Json) :
    reassembled js = {} ↔
      (∀ j ∈ js, j.contents = [] ∧ j.finishes = [] ∧ j.usages = []) ∧
        (js.filterMap (Json.given "id")).getLastD .null = .null ∧
        (js.filterMap (Json.given "created")).getLastD .null = .null := by
  have hfinish : (js.flatMap Json.finishes).getLastD .null = .null ↔ js.flatMap Json.finishes = [] :=
    getLastD_null_iff _ (truthy_of_mem_flatMap_filter (fun j => j.choiceList.map Json.choiceFinish) js)
  have husage : (js.flatMap Json.usages).getLastD .null = .null ↔ js.flatMap Json.usages = [] :=
    getLastD_null_iff _ (truthy_of_mem_flatMap_filter (fun j => [j.entries.get "usage" .null]) js)
  have hall : (∀ j ∈ js, j.contents = [] ∧ j.finishes = [] ∧ j.usages = []) ↔
      js.flatMap Json.contents = [] ∧ js.flatMap Json.finishes = [] ∧ js.flatMap Json.usages = [] := by
    simp only [List.flatMap_eq_nil_iff]
    constructor
    · intro h
      exact ⟨fun j hj => (h j hj).1, fun j hj => (h j hj).2.1, fun j hj => (h j hj).2.2⟩
    · rintro ⟨h₁, h₂, h₃⟩ j hj
      exact ⟨h₁ j hj, h₂ j hj, h₃ j hj⟩
  unfold reassembled
  rw [Parts.mk.injEq, hall, hfinish, husage]
  constructor
  · rintro ⟨h₁, h₂, h₃, h₄, h₅, -⟩
    exact ⟨⟨h₁, h₂, h₅⟩, h₃, h₄⟩
  · rintro ⟨⟨h₁, h₂, h₅⟩, h₃, h₄⟩
    exact ⟨h₁, h₂, h₃, h₄, h₅, rfl⟩

theorem assembled_eq_empty_iff (oj : Orjson) (model : String) (chunks : List Bytes) :
    assembled oj model chunks = .ok {} ↔ Traceless oj chunks := by
  rw [assembled_eq_ok_iff]
  unfold streamParts
  constructor
  · rintro ⟨hm, h⟩
    have hdone : decide (doneMarker ∈ streamPayloads chunks.flatten) = false :=
      (congrArg Parts.completed h).symm
    have hparts : reassembled (streamValues oj chunks) = {} := by
      rw [hdone] at h
      exact h.symm
    obtain ⟨hempty, hid, hcreated⟩ := (reassembled_eq_empty_iff _).mp hparts
    exact ⟨of_decide_eq_false hdone, hm, hempty, hid, hcreated⟩
  · intro h
    refine ⟨h.mergeable, ?_⟩
    rw [(reassembled_eq_empty_iff _).mpr ⟨h.empty, h.noId, h.noCreated⟩, decide_eq_false h.notDone]

/-- **Line endings.**  Written with CR LF, in whatever chunks, a stream leaves an
assembler what it leaves written with LF exactly when it leaves nothing at all. -/
theorem assembler_crlf_iff (oj : Orjson) (model : String) (chunks chunks' : List Bytes)
    (hcrlf : chunks'.flatten = crlf chunks.flatten) :
    assembled oj model chunks' = assembled oj model chunks ↔ Traceless oj chunks := by
  rw [assembled_crlf oj model chunks.flatten chunks' hcrlf, eq_comm]
  exact assembled_eq_empty_iff oj model chunks

/-- A comment, cut between CR and LF. -/
theorem assembler_crlf_comment :
    assembled framedCodec "m" [encode ": ping\r", encode "\n\r\n"] =
      assembled framedCodec "m" [encode ": ping\n\n"] := by
  refine (assembler_crlf_iff framedCodec "m" _ _ (by decide +kernel)).mpr ?_
  have hnone : streamPayloads [encode ": ping\n\n"].flatten = [] := by decide +kernel
  rw [← assembled_eq_empty_iff framedCodec "m", assembled_eq_ok_iff]
  unfold streamParts streamValues
  rw [hnone]
  constructor
  · intro j hj; cases hj
  · rfl

/-- The proxy's own rendering of an answer, each LF made CR LF: nothing of it is read. -/
theorem assembler_crlf_framedText :
    assembled framedCodec "m" [crlf (responseToSse framedCodec framedText).flatten] ≠
      assembled framedCodec "m" (responseToSse framedCodec framedText) := by
  rw [assembled_crlf framedCodec "m" _ _ List.flatten_singleton]
  intro h
  have hnot := ((assembled_eq_empty_iff framedCodec "m" _).mp h.symm).notDone
  rw [ProxyService.framedText_payloads] at hnot
  exact hnot (by simp [ssePayloads])

end StreamAssembler

namespace ProxyService

/-- A stream with CR LF is handed on whole and never cached. -/
theorem missBody_crlf {F E : Type} (oj : Orjson) (pyd : Pydantic) (svc : ProxyService F E)
    (request : ChatCompletionRequest) (signature : RequestSignature) (prompt : String) (b : Bytes)
    (chunks : List Bytes) (hcrlf : chunks.flatten = crlf b) (r : Readings) (w : World F) :
    svc.missBody oj pyd request signature prompt chunks .ended r w =
      { yielded := chunks, result := .ok (), world := w } := by
  have hnone : doneMarker ∉ streamPayloads chunks.flatten := by
    rw [hcrlf, streamPayloads_crlf]
    intro h; cases h
  obtain ⟨a, ha, -⟩ := (Fold.map_eq_ok_iff _ _ _).mp
    (StreamAssembler.assembled_crlf oj request.model b chunks hcrlf)
  exact svc.missBody_incomplete oj pyd request signature prompt chunks r w a ha hnone

end ProxyService

end CachingLayer
