import WeatherBot.Common.PyObject
import WeatherBot.Persistence.Codec

/-!
# Metadata

The metadata of decisions and of adapters (`codec.py`, 910-947): a mapping of
Python objects is written as sorted JSON beside its hash.

* `decodeMetadata_encodeMetadata`: **what was written is read back**, in the order
  of its keys.
* `encodeMetadata_ofMembers`: what is read back is written as the same text.
-/

namespace WeatherBot.Persistence

open WeatherBot.Common
open WeatherBot.Domain

/-- The items of a mapping that a caller hands over. -/
abbrev Metadata := List (Option String × PyObject)

mutual

/-- `_metadata_value` (`codec.py`, 910-932). -/
def metadataValue : PyObject → String → Except Error Json
  | .none, _ => return .null
  | .bool b, _ => return .bool b
  | .int n, _ => return .int n
  | .str s, _ => return .str s
  | .float, path => throw (.typeError (path ++ " must not contain binary floating-point values"))
  | .decimal d, _ => return .str d.format
  | .mapping items, path => do
    let members ← metadataMembers path [] items
    return .obj members
  | .sequence items, path => do
    let values ← metadataItems path 0 items
    return .arr values
  | .other typeName, path =>
    throw (.typeError (path ++ " contains unsupported value type " ++ typeName))

/-- The loop over the items of a mapping, which fills `result`. -/
def metadataMembers (path : String) (result : List (String × Json)) :
    List (Option String × PyObject) → Except Error (List (String × Json))
  | [] => return result
  | (key, value) :: items =>
    match key with
    | none => throw (.typeError (path ++ " contains a non-string or blank key"))
    | some key =>
      if key = "" then throw (.typeError (path ++ " contains a non-string or blank key"))
      else do
        let value ← metadataValue value (path ++ "." ++ key)
        metadataMembers path (Dict.assocSet result key value) items

/-- The items of a sequence from an index on. -/
def metadataItems (path : String) (index : ℕ) : List PyObject → Except Error (List Json)
  | [] => return []
  | value :: items => do
    let value ← metadataValue value (path ++ "[" ++ toString index ++ "]")
    let values ← metadataItems path (index + 1) items
    return value :: values

end

/-- The text of metadata, with its hash. -/
structure MetadataText where
  json : String
  hash : String
deriving DecidableEq

/-- `encode_metadata` (`codec.py`, 935-938). -/
def encodeMetadata (rt : Runtime) (value : Option Metadata) : Except Error MetadataText := do
  let normalized ← metadataValue (.mapping (value.getD [])) "metadata"
  return ⟨normalized.dumps, rt.sha256 normalized.dumps⟩

/-- `decode_metadata` (`codec.py`, 941-947). -/
def decodeMetadata (rt : Runtime) (payloadJson payloadHash : String) :
    Except Error (List (String × Json)) := do
  raiseIf (rt.sha256 payloadJson ≠ payloadHash)
    (corrupt ("metadata hash mismatch: expected " ++ payloadHash ++ ", calculated " ++
      rt.sha256 payloadJson))
  loadJsonObject payloadJson "metadata payload"

/-! ## Round trip -/

theorem plainValues_assocSet {l : List (String × Json)} {key : String} {value : Json}
    (hl : Json.PlainValues l) (hv : value.Plain) : Json.PlainValues (Dict.assocSet l key value) := by
  induction l with
  | nil => exact ⟨hv, trivial⟩
  | cons p l ih =>
    obtain ⟨key', value'⟩ := p
    rw [Dict.assocSet]
    split_ifs
    · exact ⟨hv, hl.2⟩
    · exact ⟨hl.1, ih hl.2⟩

theorem nodup_keys_nil : (([] : List (String × Json)).map Prod.fst).Nodup := List.nodup_nil

theorem nodup_keys_assocSet {l : List (String × Json)} {key : String} {value : Json}
    (hl : (l.map Prod.fst).Nodup) : ((Dict.assocSet l key value).map Prod.fst).Nodup :=
  (Dict.insert ⟨l, hl⟩ key value).nodup

mutual

/-- Metadata has no floats, and no mapping has a key twice. -/
theorem plain_metadataValue : ∀ {value : PyObject} {path : String} {v : Json},
    metadataValue value path = .ok v → v.Plain
  | .none, _, _, h => by
    cases h
    trivial
  | .bool _, _, _, h => by
    cases h
    trivial
  | .int _, _, _, h => by
    cases h
    trivial
  | .str _, _, _, h => by
    cases h
    trivial
  | .float, _, _, h => by cases h
  | .decimal _, _, _, h => by
    cases h
    trivial
  | .mapping items, path, v, h => by
    rw [metadataValue] at h
    obtain ⟨members, hmembers, h⟩ := bind_eq_ok.mp h
    cases h
    exact plain_metadataMembers nodup_keys_nil trivial hmembers
  | .sequence items, path, v, h => by
    rw [metadataValue] at h
    obtain ⟨values, hvalues, h⟩ := bind_eq_ok.mp h
    cases h
    exact plain_metadataItems hvalues
  | .other _, _, _, h => by cases h

theorem plain_metadataMembers : ∀ {items : List (Option String × PyObject)} {path : String}
    {result members : List (String × Json)}, (result.map Prod.fst).Nodup → Json.PlainValues result →
    metadataMembers path result items = .ok members →
      (members.map Prod.fst).Nodup ∧ Json.PlainValues members
  | [], _, _, _, hnodup, hplain, h => by
    cases h
    exact ⟨hnodup, hplain⟩
  | (none, _) :: _, _, _, _, _, _, h => by cases h
  | (some key, value) :: items, path, result, members, hnodup, hplain, h => by
    rw [metadataMembers] at h
    split_ifs at h
    obtain ⟨v, hv, h⟩ := bind_eq_ok.mp h
    exact plain_metadataMembers (nodup_keys_assocSet hnodup)
      (plainValues_assocSet hplain (plain_metadataValue hv)) h

theorem plain_metadataItems : ∀ {items : List PyObject} {path : String} {index : ℕ}
    {values : List Json}, metadataItems path index items = .ok values → Json.PlainItems values
  | [], _, _, _, h => by
    cases h
    trivial
  | value :: items, path, index, values, h => by
    rw [metadataItems] at h
    obtain ⟨v, hv, h⟩ := bind_eq_ok.mp h
    obtain ⟨vs, hvs, h⟩ := bind_eq_ok.mp h
    cases h
    exact ⟨plain_metadataValue hv, plain_metadataItems hvs⟩

end

variable {rt : Runtime}

/-- The text and the hash of metadata belong together. -/
structure MetadataText.Reads (rt : Runtime) (t : MetadataText) : Prop where
  hash_eq : t.hash = rt.sha256 t.json
  reads : ∃ members, decodeMetadata rt t.json t.hash = .ok members

/-- **What was written as metadata is read back**: the members that were handed over, sorted. -/
theorem decodeMetadata_encodeMetadata {value : Option Metadata} {t : MetadataText}
    (h : encodeMetadata rt value = .ok t) :
    ∃ members, metadataMembers "metadata" [] (value.getD []) = .ok members ∧
      decodeMetadata rt t.json t.hash = .ok (Json.sortMembers (Json.sortValues members)) := by
  obtain ⟨normalized, hnormalized, h⟩ := bind_eq_ok.mp h
  cases h
  rw [metadataValue] at hnormalized
  obtain ⟨members, hmembers, hnormalized⟩ := bind_eq_ok.mp hnormalized
  cases hnormalized
  have hplain : (Json.obj members).Plain := plain_metadataMembers nodup_keys_nil trivial hmembers
  refine ⟨members, hmembers, ?_⟩
  rw [decodeMetadata, raiseIf_of_not _ (not_not.mpr rfl), ok_bind, loadJsonObject,
    Json.loads_dumps hplain, Json.sortKeys]
  rfl

theorem reads_of_encodeMetadata {value : Option Metadata} {t : MetadataText}
    (h : encodeMetadata rt value = .ok t) : t.Reads rt := by
  obtain ⟨members, -, hdecode⟩ := decodeMetadata_encodeMetadata h
  obtain ⟨normalized, -, h⟩ := bind_eq_ok.mp h
  cases h
  exact ⟨rfl, _, hdecode⟩

/-! ## Writing again -/

/-- The value, sorted, is metadata that is written as itself. -/
def Rewrites (v : Json) : Prop :=
  ∀ path, metadataValue (.ofJson v.sortKeys) path = .ok v.sortKeys

/-- Every member has a key, and a value that is written as itself. -/
def RewritesMembers (ms : List (String × Json)) : Prop := ∀ p ∈ ms, p.1 ≠ "" ∧ Rewrites p.2

theorem mem_assocSet {l : List (String × Json)} {key : String} {value : Json} {p : String × Json}
    (h : p ∈ Dict.assocSet l key value) : p = (key, value) ∨ p ∈ l := by
  induction l with
  | nil => exact .inl (List.mem_singleton.mp h)
  | cons q l ih =>
    obtain ⟨key', value'⟩ := q
    rw [Dict.assocSet] at h
    split_ifs at h
    · exact (List.mem_cons.mp h).imp_right (List.mem_cons_of_mem _)
    · rcases List.mem_cons.mp h with rfl | h
      · exact .inr List.mem_cons_self
      · exact (ih h).imp_right (List.mem_cons_of_mem _)

theorem assocSet_of_notMem {l : List (String × Json)} {key : String} (h : key ∉ l.map Prod.fst)
    (value : Json) : Dict.assocSet l key value = l ++ [(key, value)] := by
  induction l with
  | nil => rfl
  | cons q l ih =>
    obtain ⟨key', value'⟩ := q
    rw [List.map_cons, List.mem_cons, not_or] at h
    rw [Dict.assocSet, if_neg (Ne.symm h.1), ih h.2]
    rfl

/-- Members that are written as themselves are added one after the other. -/
theorem metadataMembers_ofMembers {result ms : List (String × Json)} {path : String}
    (hnodup : ((result ++ ms).map Prod.fst).Nodup)
    (hms : ∀ p ∈ ms, p.1 ≠ "" ∧ ∀ path, metadataValue (.ofJson p.2) path = .ok p.2) :
    metadataMembers path result (PyObject.ofMembers ms) = .ok (result ++ ms) := by
  induction ms generalizing result with
  | nil =>
    rw [List.append_nil]
    rfl
  | cons p ms ih =>
    obtain ⟨key, value⟩ := p
    rw [List.forall_mem_cons] at hms
    have hnew : key ∉ result.map Prod.fst := by
      rw [List.map_append, List.map_cons] at hnodup
      exact fun hmem => (List.nodup_append.mp hnodup).2.2 key hmem key List.mem_cons_self rfl
    rw [PyObject.ofMembers, metadataMembers, if_neg hms.1.1, hms.1.2, ok_bind, assocSet_of_notMem hnew,
      ih _ hms.2, List.append_assoc]
    · rfl
    · rwa [List.append_assoc]

theorem rewrites_obj {ms : List (String × Json)} (hnodup : (ms.map Prod.fst).Nodup)
    (hms : RewritesMembers ms) (path : String) :
    metadataMembers path [] (PyObject.ofMembers (Json.sortMembers (Json.sortValues ms))) =
      .ok (Json.sortMembers (Json.sortValues ms)) := by
  refine metadataMembers_ofMembers (Json.nodup_keys_sorted hnodup) fun p hp => ?_
  rw [Json.mem_sortMembers, Json.sortValues_eq_map] at hp
  obtain ⟨q, hq, rfl⟩ := List.mem_map.mp hp
  exact hms q hq

theorem metadataItems_ofItems {path : String} {index : ℕ} {items : List Json}
    (h : ∀ v ∈ items, Rewrites v) :
    metadataItems path index (PyObject.ofItems (Json.sortItems items)) = .ok (Json.sortItems items) := by
  induction items generalizing index with
  | nil => rfl
  | cons v items ih =>
    rw [List.forall_mem_cons] at h
    rw [Json.sortItems, PyObject.ofItems, metadataItems, h.1, ok_bind, ih h.2, ok_bind]
    rfl

mutual

/-- What is written as metadata is, once it is sorted, written as itself. -/
theorem rewrites_metadataValue : ∀ {value : PyObject} {path : String} {v : Json},
    metadataValue value path = .ok v → Rewrites v
  | .none, _, _, h => by
    cases h
    exact fun _ => rfl
  | .bool _, _, _, h => by
    cases h
    exact fun _ => rfl
  | .int _, _, _, h => by
    cases h
    exact fun _ => rfl
  | .str _, _, _, h => by
    cases h
    exact fun _ => rfl
  | .float, _, _, h => by cases h
  | .decimal _, _, _, h => by
    cases h
    exact fun _ => rfl
  | .mapping items, path, v, h => by
    rw [metadataValue] at h
    obtain ⟨members, hmembers, h⟩ := bind_eq_ok.mp h
    cases h
    have hnodup := (plain_metadataMembers nodup_keys_nil trivial hmembers).1
    have hms : RewritesMembers members :=
      rewrites_metadataMembers (fun _ hp => absurd hp List.not_mem_nil) hmembers
    intro path'
    rw [Json.sortKeys, PyObject.ofJson, metadataValue, rewrites_obj hnodup hms, ok_bind]
    rfl
  | .sequence items, path, v, h => by
    rw [metadataValue] at h
    obtain ⟨values, hvalues, h⟩ := bind_eq_ok.mp h
    cases h
    intro path'
    rw [Json.sortKeys, PyObject.ofJson, metadataValue,
      metadataItems_ofItems (rewrites_metadataItems hvalues), ok_bind]
    rfl
  | .other _, _, _, h => by cases h

theorem rewrites_metadataMembers : ∀ {items : List (Option String × PyObject)} {path : String}
    {result members : List (String × Json)}, RewritesMembers result →
    metadataMembers path result items = .ok members → RewritesMembers members
  | [], _, _, _, hresult, h => by
    cases h
    exact hresult
  | (none, _) :: _, _, _, _, _, h => by cases h
  | (some key, value) :: items, path, result, members, hresult, h => by
    rw [metadataMembers] at h
    split_ifs at h with hkey
    obtain ⟨v, hv, h⟩ := bind_eq_ok.mp h
    refine rewrites_metadataMembers (fun p hp => ?_) h
    rcases mem_assocSet hp with rfl | hp
    · exact ⟨hkey, rewrites_metadataValue hv⟩
    · exact hresult p hp

theorem rewrites_metadataItems : ∀ {items : List PyObject} {path : String} {index : ℕ}
    {values : List Json}, metadataItems path index items = .ok values → ∀ v ∈ values, Rewrites v
  | [], _, _, _, h => by
    cases h
    exact fun _ hv => absurd hv List.not_mem_nil
  | value :: items, path, index, values, h => by
    rw [metadataItems] at h
    obtain ⟨v, hv, h⟩ := bind_eq_ok.mp h
    obtain ⟨vs, hvs, h⟩ := bind_eq_ok.mp h
    cases h
    exact List.forall_mem_cons.mpr ⟨rewrites_metadataValue hv, rewrites_metadataItems hvs⟩

end

/-- **What is read back is written as the same text.** -/
theorem encodeMetadata_ofMembers {value : Option Metadata} {t : MetadataText}
    {members : List (String × Json)} (h : encodeMetadata rt value = .ok t)
    (hdecode : decodeMetadata rt t.json t.hash = .ok members) :
    encodeMetadata rt (some (PyObject.ofMembers members)) = .ok t := by
  obtain ⟨ms, hms, hread⟩ := decodeMetadata_encodeMetadata h
  cases hread.symm.trans hdecode
  obtain ⟨normalized, hnormalized, h⟩ := bind_eq_ok.mp h
  cases h
  rw [metadataValue, hms] at hnormalized
  cases hnormalized
  have hnodup := (plain_metadataMembers nodup_keys_nil trivial hms).1
  have hrewrites : RewritesMembers ms :=
    rewrites_metadataMembers (fun _ hp => absurd hp List.not_mem_nil) hms
  have hsorted : (Json.obj (Json.sortMembers (Json.sortValues ms))).sortKeys = (Json.obj ms).sortKeys :=
    Json.sortKeys_sortKeys (.obj ms)
  have hdumps : (Json.obj (Json.sortMembers (Json.sortValues ms))).dumps = (Json.obj ms).dumps := by
    rw [Json.dumps, hsorted]
    rfl
  rw [encodeMetadata, Option.getD_some, metadataValue, rewrites_obj hnodup hrewrites, ok_bind,
    pure_eq_ok, ok_bind, hdumps]
  rfl

end WeatherBot.Persistence
