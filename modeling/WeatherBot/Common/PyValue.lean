import Mathlib.Tactic

/-!
# Texts and JSON values of Python

A `str` of Python may have lone surrogates, which JSON writes as `\ud800`, so it is
a list of code points and not a `String`.

* `PyStr.encode`: the text in UTF-8, unless it has a surrogate.
* `PyJson`: what `json.loads` returns.
-/

namespace WeatherBot.Common

/-! ## Texts -/

/-- A `str`. -/
structure PyStr where
  codePoints : List ℕ
deriving DecidableEq, Repr

namespace PyStr

/-- A text without surrogates. -/
def ofString (s : String) : PyStr := ⟨s.toList.map Char.toNat⟩

/-- The text, where `encode("utf-8")` does not raise. -/
def encode (t : PyStr) : Option String :=
  if t.codePoints.all fun n => decide n.isValidChar then
    some (String.ofList (t.codePoints.map Char.ofNat))
  else none

/-- `not text` is false. -/
def NonEmpty (t : PyStr) : Prop := t.codePoints ≠ []

instance (t : PyStr) : Decidable t.NonEmpty := inferInstanceAs (Decidable (t.codePoints ≠ []))

theorem ofString_inj {s s' : String} : ofString s = ofString s' ↔ s = s' := by
  constructor
  · intro h
    rw [ofString, ofString, mk.injEq] at h
    have htoNat : Function.Injective Char.toNat := fun _ _ h => Char.toNat_inj.mp h
    exact String.toList_injective (List.map_injective_iff.mpr htoNat h)
  · rintro rfl
    rfl

@[simp] theorem encode_ofString (s : String) : (ofString s).encode = some s := by
  have hvalid : (s.toList.map Char.toNat).all (fun n => decide n.isValidChar) = true := by
    rw [List.all_map, List.all_eq_true]
    exact fun c _ => decide_eq_true c.valid
  rw [encode, ofString, if_pos hvalid, List.map_map]
  have hid : (Char.ofNat ∘ Char.toNat) = id := funext Char.ofNat_toNat
  rw [hid, List.map_id, String.ofList_toList]

/-- A text that is encoded has no surrogates. -/
theorem eq_ofString {t : PyStr} {s : String} (h : t.encode = some s) : t = ofString s := by
  unfold encode at h
  split_ifs at h with hvalid
  rw [List.all_eq_true] at hvalid
  cases h
  rw [ofString, String.toList_ofList, List.map_map]
  have hid : ∀ n ∈ t.codePoints, (Char.toNat ∘ Char.ofNat) n = n := fun n hn => by
    rw [Function.comp_apply, Char.ofNat, dif_pos (of_decide_eq_true (hvalid n hn))]
    rfl
  rw [List.map_congr_left hid, List.map_id']

end PyStr

/-! ## JSON values -/

/-- A value that `json.loads` returns. -/
inductive PyJson where
  | none
  | bool (b : Bool)
  | int (n : ℤ)
  | float (text : String)
  | str (text : PyStr)
  | list (items : List PyJson)
  | dict (members : List (PyStr × PyJson))

namespace PyJson

/-- `value == text`. -/
def IsText : PyJson → String → Prop
  | .str t, s => t = .ofString s
  | _, _ => False

instance : (v : PyJson) → (s : String) → Decidable (v.IsText s)
  | .str t, s => inferInstanceAs (Decidable (t = .ofString s))
  | .none, _ | .bool _, _ | .int _, _ | .float _, _ | .list _, _ | .dict _, _ => isFalse id

theorem isText_iff {v : PyJson} {s : String} : v.IsText s ↔ v = .str (.ofString s) := by
  cases v <;> simp [IsText]

/-- `hash(value)` does not raise. -/
def Hashable : PyJson → Prop
  | .list _ => False
  | .dict _ => False
  | _ => True

instance : DecidablePred Hashable
  | .list _ => isFalse id
  | .dict _ => isFalse id
  | .none | .bool _ | .int _ | .float _ | .str _ => isTrue trivial

theorem IsText.inj {v : PyJson} {s s' : String} (h : v.IsText s) (h' : v.IsText s') : s = s' := by
  rw [isText_iff] at h h'
  exact PyStr.ofString_inj.mp (PyJson.str.inj (h.symm.trans h'))

theorem hashable_of_isText {v : PyJson} {s : String} (h : v.IsText s) : v.Hashable := by
  rw [isText_iff.mp h]
  trivial

/-- `data.get(key)`. -/
def get (data : List (PyStr × PyJson)) (key : String) : PyJson :=
  match data.find? fun p => p.1 = .ofString key with
  | some p => p.2
  | Option.none => .none

/-- `set(data) <= names`. -/
def KeysWithin (data : List (PyStr × PyJson)) (names : List String) : Prop :=
  ∀ p ∈ data, p.1 ∈ names.map PyStr.ofString

instance (data : List (PyStr × PyJson)) (names : List String) : Decidable (KeysWithin data names) :=
  inferInstanceAs (Decidable (∀ p ∈ data, p.1 ∈ names.map PyStr.ofString))

/-- `key in data`. -/
def HasKey (data : List (PyStr × PyJson)) (key : String) : Prop := .ofString key ∈ data.map Prod.fst

instance (data : List (PyStr × PyJson)) (key : String) : Decidable (HasKey data key) :=
  inferInstanceAs (Decidable (.ofString key ∈ data.map Prod.fst))

/-- A key whose value is not `None` is there. -/
theorem hasKey_of_get {data : List (PyStr × PyJson)} {key : String} (h : get data key ≠ .none) :
    HasKey data key := by
  unfold get at h
  split at h
  · rename_i p hp
    have hkey := List.find?_some hp
    exact List.mem_map.mpr ⟨p, List.mem_of_find?_eq_some hp, of_decide_eq_true hkey⟩
  · exact absurd rfl h

/-- `set(data) == names`. -/
def KeysAre (data : List (PyStr × PyJson)) (names : List String) : Prop :=
  KeysWithin data names ∧ ∀ name ∈ names, HasKey data name

instance (data : List (PyStr × PyJson)) (names : List String) : Decidable (KeysAre data names) :=
  inferInstanceAs (Decidable (KeysWithin data names ∧ ∀ name ∈ names, HasKey data name))

end PyJson

end WeatherBot.Common
