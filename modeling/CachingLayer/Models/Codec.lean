import CachingLayer.Basis.Text
import CachingLayer.Cache.Namespace
import CachingLayer.Models.Cache

/-!
# Codecs

What writes cache entries as bytes and reads them back (`EntryCodec`), and concrete codecs
for closed instances: compact JSON text, with the values listed read back.
-/

namespace CachingLayer

open Text

/-- `orjson` and the validation of `CacheEntry`, and how the client sends numbers. -/
structure EntryCodec (F : Type) where
  /-- `orjson.dumps(entry.model_dump())`. -/
  dumps : CacheEntry F → Bytes
  /-- `CacheEntry.model_validate(orjson.loads(raw))`. -/
  loads : Bytes → Except PyError (CacheEntry F)
  /-- `np.asarray(embedding, dtype=np.float32).tobytes()`. -/
  vector : List F → Bytes
  float : ℚ → Bytes

/-! ## JSON text -/

/-- One character of a JSON string. -/
def escapeChar (c : Char) : String :=
  if c = '"' then "\\\"" else if c = '\\' then "\\\\" else if c = '\n' then "\\n" else String.singleton c

mutual

/-- Compact JSON text; floats print one decimal. -/
def Json.compact : Json → String
  | .null => "null"
  | .bool b => if b then "true" else "false"
  | .int i => intStr i
  | .float x => x.format1
  | .str s => "\"" ++ String.join (s.toList.map escapeChar) ++ "\""
  | .arr xs => "[" ++ compactList xs ++ "]"
  | .obj kvs => "\x7b" ++ compactFields kvs ++ "\x7d"

def Json.compactList : List Json → String
  | [] => ""
  | [x] => x.compact
  | x :: xs => x.compact ++ "," ++ compactList xs

def Json.compactFields : List (String × Json) → String
  | [] => ""
  | [(k, x)] => "\"" ++ k ++ "\":" ++ x.compact
  | (k, x) :: kvs => "\"" ++ k ++ "\":" ++ x.compact ++ "," ++ compactFields kvs

end

/-- The value listed with a text is found by it. -/
theorem find?_of_nodup {α : Type} (text : α → Bytes) (l : List α) (h : (l.map text).Nodup) (a : α) (ha : a ∈ l) :
    l.find? (fun b => text b = text a) = some a := by
  induction l with
  | nil => cases ha
  | cons b l ih =>
    rw [List.map_cons, List.nodup_cons] at h
    rw [List.find?_cons]
    rcases List.mem_cons.mp ha with rfl | ha
    · simp
    · have hne : text b ≠ text a := fun e => h.1 (e ▸ List.mem_map_of_mem ha)
      simp only [hne, decide_false]
      exact ih h.2 ha

/-- A codec that knows the texts of the values listed. -/
def Orjson.ofValues (js : List Json) : Orjson where
  dumps j := encode j.compact
  loads b := js.find? fun j => encode j.compact = b

theorem Orjson.ofValues_loads_dumps (js : List Json) (h : (js.map fun j => encode j.compact).Nodup)
    (j : Json) (hj : j ∈ js) : (ofValues js).loads ((ofValues js).dumps j) = some j :=
  find?_of_nodup (fun j : Json => encode j.compact) js h j hj

/-! ## Entries as text -/

/-- `entry.model_dump()`. -/
def CacheEntry.modelDump (e : CacheEntry ℚ) : Dict :=
  [("id", .str e.id), ("namespace", .str e.namespaceKey), ("prompt", .str e.prompt),
    ("embedding", .arr (e.embedding.map fun x => .float (.finite x))), ("response", .obj e.response),
    ("model", .str e.model), ("provider", .str e.provider), ("system_prompt_hash", .str e.systemPromptHash),
    ("temperature", .float e.temperature), ("max_tokens", .opt .int e.maxTokens),
    ("created_at", .float (.finite e.createdAt)), ("ttl_seconds", .int e.ttlSeconds),
    ("hit_count", .int e.hitCount), ("prompt_tokens", .int e.promptTokens),
    ("completion_tokens", .int e.completionTokens), ("tags", .arr (e.tags.map .str)), ("metadata", .obj [])]

def CacheEntry.text (e : CacheEntry ℚ) : Bytes := encode (Json.obj e.modelDump).compact

/-- A codec that knows the texts of the entries listed, and vectors of zeros and ones. -/
def EntryCodec.ofEntries (es : List (CacheEntry ℚ)) : EntryCodec ℚ where
  dumps := CacheEntry.text
  loads raw :=
    match es.find? fun e => e.text = raw with
    | some e => .ok e
    | none => .error .validationError
  vector v := v.flatMap fun x => if x = 0 then [0, 0, 0, 0] else [0, 0, 128, 63]
  float x := encode (PyFloat.finite x).format1

theorem EntryCodec.ofEntries_loads_dumps (es : List (CacheEntry ℚ)) (h : (es.map CacheEntry.text).Nodup)
    (e : CacheEntry ℚ) (he : e ∈ es) : (ofEntries es).loads ((ofEntries es).dumps e) = .ok e := by
  unfold ofEntries
  simp only [find?_of_nodup CacheEntry.text es h e he]

end CachingLayer
