import WeatherBot.Common.JsonFloat

/-!
# Indented JSON texts

`json.dumps` with `ensure_ascii=False`, sorted keys and an indentation of two
blanks, and which characters a written value has.

* `readValue_writeIndent`: an indented value is read back.
* `loadsWith_dumpsIndent`: **a value with distinct keys and readable floats is read
  back from its indented text with its keys sorted.**
* `isWritten_writeIndent`: the only control character of an indented text is the
  line feed.
* `mem_write`: a character beyond ASCII is written as it stands in a text of the
  value, and only there.
-/

namespace WeatherBot.Common

namespace Json

/-! ## Writing -/

/-- A line end and the indentation of a level. -/
def newline (level : ℕ) : List Char := '\n' :: List.replicate (2 * level) ' '

mutual

/-- A value that stands at a level. -/
def writeIndent (level : ℕ) : Json → List Char
  | null => write null
  | bool b => write (bool b)
  | int n => write (int n)
  | float t => write (float t)
  | str s => write (str s)
  | arr [] => ['[', ']']
  | arr (v :: l) =>
    '[' :: (newline (level + 1) ++ (writeIndentItems (level + 1) (v :: l) ++ (newline level ++ [']'])))
  | obj [] => ['\x7b', '\x7d']
  | obj (p :: l) =>
    '\x7b' :: (newline (level + 1) ++
      (writeIndentMembers (level + 1) (p :: l) ++ (newline level ++ ['\x7d'])))

/-- Values on lines of their own. -/
def writeIndentItems (level : ℕ) : List Json → List Char
  | [] => []
  | v :: l =>
    writeIndent level v ++ if l = [] then [] else ',' :: (newline level ++ writeIndentItems level l)

/-- Members on lines of their own. -/
def writeIndentMembers (level : ℕ) : List (String × Json) → List Char
  | [] => []
  | (k, v) :: l =>
    writeString k ++ ':' :: ' ' :: (writeIndent level v ++
      if l = [] then [] else ',' :: (newline level ++ writeIndentMembers level l))

end

/-- `json.dumps(value, indent=2, sort_keys=True, ensure_ascii=False)`. -/
def dumpsIndent (v : Json) : String := String.ofList (writeIndent 0 v.sortKeys)

/-! ## Reading back -/

theorem skipSpace_newline (level : ℕ) (l : List Char) : skipSpace (newline level ++ l) = skipSpace l := by
  have hspace : ∀ c ∈ newline level, isJsonSpace c = true := by
    intro c hc
    rcases List.mem_cons.mp hc with rfl | hc
    · decide
    · rw [List.eq_of_mem_replicate hc]
      decide
  rw [skipSpace, List.dropWhile_append_of_pos hspace, skipSpace]

theorem endsNumber_newline (level : ℕ) (l : List Char) : EndsNumber (newline level ++ l) := by
  rintro d ⟨⟩
  decide

/-- An indented value starts with neither white space nor a closing bracket. -/
theorem head_writeIndent {v : Json} (h : v.Readable) (level : ℕ) :
    ∃ c l, writeIndent level v = c :: l ∧ isJsonSpace c = false ∧ c ≠ ']' := by
  cases v with
  | null => rw [writeIndent]; exact head_write (v := null) trivial
  | bool b => rw [writeIndent]; exact head_write (v := bool b) trivial
  | int n => rw [writeIndent]; exact head_write (v := int n) trivial
  | float t =>
    obtain ⟨c, l, hl, hspace, hc⟩ := head_writeFloat h
    refine ⟨c, l, by rw [writeIndent, hl], hspace, ?_⟩
    rintro rfl
    exact hc (by decide)
  | str s => rw [writeIndent]; exact head_write (v := str s) trivial
  | arr items => cases items <;> exact ⟨_, _, by rw [writeIndent], by decide, by decide⟩
  | obj members => cases members <;> exact ⟨_, _, by rw [writeIndent], by decide, by decide⟩

theorem skipSpace_writeIndent {v : Json} (h : v.Readable) (level : ℕ) (rest : List Char) :
    skipSpace (writeIndent level v ++ rest) = writeIndent level v ++ rest := by
  obtain ⟨c, l, hl, hc, -⟩ := head_writeIndent h level
  rw [hl]
  exact skipSpace_cons hc _

theorem writeIndent_length_pos {v : Json} (h : v.Readable) (level : ℕ) :
    0 < (writeIndent level v).length := by
  obtain ⟨c, l, hl, -⟩ := head_writeIndent h level
  rw [hl]
  exact Nat.succ_pos _

mutual

/-- **An indented value is read back**, given as many steps as its text has characters. -/
theorem readValue_writeIndent {hook : ObjectHook} (hk : hook.Keeps) : ∀ (v : Json), v.Readable →
    ∀ (level n : ℕ) (rest : List Char), EndsNumber rest → (writeIndent level v).length ≤ n →
    readValue hook n (writeIndent level v ++ rest) = some (v, rest)
  | null, _, level, n, rest, hrest, hn => by
    rw [writeIndent] at hn ⊢
    exact readValue_write hk null trivial n rest hrest hn
  | bool b, _, level, n, rest, hrest, hn => by
    rw [writeIndent] at hn ⊢
    exact readValue_write hk (bool b) trivial n rest hrest hn
  | int i, _, level, n, rest, hrest, hn => by
    rw [writeIndent] at hn ⊢
    exact readValue_write hk (int i) trivial n rest hrest hn
  | float t, h, level, n, rest, hrest, hn => by
    rw [writeIndent] at hn ⊢
    exact readValue_writeFloat h n hrest hn
  | str s, _, level, n, rest, hrest, hn => by
    rw [writeIndent] at hn ⊢
    exact readValue_write hk (str s) trivial n rest hrest hn
  | arr [], _, level, n + 1, rest, _, _ => by
    rw [writeIndent]
    rfl
  | arr (v :: items), h, level, n + 1, rest, _, hn => by
    rw [Readable] at h
    obtain ⟨c, l, hl, hc, hbracket⟩ := head_writeIndent h.1 (level + 1)
    rw [writeIndent] at hn ⊢
    simp only [List.length_cons, List.length_append] at hn
    have hitems := readItems_writeIndent hk (v :: items) (List.cons_ne_nil _ _) h (level + 1) n level
      rest (by omega)
    have hhead : ∃ l', writeIndentItems (level + 1) (v :: items) ++ (newline level ++ ']' :: rest) =
        c :: l' := by
      rw [writeIndentItems, hl]
      exact ⟨_, rfl⟩
    obtain ⟨l', hl'⟩ := hhead
    rw [List.cons_append, List.append_assoc, List.append_assoc, List.append_assoc,
      List.singleton_append, readValue, if_neg (by decide), if_pos rfl, skipSpace_newline, hl',
      skipSpace_cons hc]
    rw [hl'] at hitems
    split
    next l'' e => exact absurd (List.cons.inj e).1 hbracket
    next => rw [hitems]; rfl
  | obj [], _, level, n + 1, rest, _, _ => by
    rw [writeIndent]
    show (hook []).map (fun v => (v, rest)) = _
    rw [hk [] List.nodup_nil]
    rfl
  | obj ((k, v) :: members), h, level, n + 1, rest, _, hn => by
    rw [Readable] at h
    rw [writeIndent] at hn ⊢
    simp only [List.length_cons, List.length_append] at hn
    have hmembers := readMembers_writeIndent hk ((k, v) :: members) (List.cons_ne_nil _ _) h.2
      (level + 1) n level rest (by omega)
    have hhead : ∃ l', writeIndentMembers (level + 1) ((k, v) :: members) ++
        (newline level ++ '\x7d' :: rest) = '"' :: l' := by
      rw [writeIndentMembers, writeString]
      exact ⟨_, rfl⟩
    obtain ⟨l', hl'⟩ := hhead
    rw [List.cons_append, List.append_assoc, List.append_assoc, List.append_assoc,
      List.singleton_append, readValue, if_neg (by decide), if_neg (by decide), if_pos rfl,
      skipSpace_newline, hl', skipSpace_cons (by decide)]
    rw [hl'] at hmembers
    split
    next l'' e => exact absurd (List.cons.inj e).1 (by decide)
    next =>
      simp only [hmembers, Option.bind_eq_bind, Option.bind_some, hk _ h.1]
      rfl
  | v, h, level, 0, _, _, hn => absurd (writeIndent_length_pos h level) (by omega)

theorem readItems_writeIndent {hook : ObjectHook} (hk : hook.Keeps) : ∀ (l : List Json), l ≠ [] →
    ReadableItems l → ∀ (level n outer : ℕ) (rest : List Char),
    (writeIndentItems level l).length < n →
    readItems hook n (writeIndentItems level l ++ (newline outer ++ ']' :: rest)) = some (l, rest)
  | [v], _, h, level, n + 1, outer, rest, hn => by
    rw [writeIndentItems, if_pos rfl, List.append_nil] at hn ⊢
    have hv := readValue_writeIndent hk v h.1 level n (newline outer ++ ']' :: rest)
      (endsNumber_newline _ _) (by omega)
    rw [readItems, hv]
    simp [skipSpace_newline, skipSpace_cons (c := ']') (by decide)]
  | v :: w :: l, _, h, level, n + 1, outer, rest, hn => by
    rw [writeIndentItems, if_neg (List.cons_ne_nil w l)] at hn ⊢
    simp only [List.length_cons, List.length_append] at hn
    have hv := readValue_writeIndent hk v h.1 level n (',' :: (newline level ++
      (writeIndentItems level (w :: l) ++ (newline outer ++ ']' :: rest))))
      (endsNumber_cons (by simp) _) (by omega)
    have hlen := writeIndent_length_pos h.1 level
    have hl := readItems_writeIndent hk (w :: l) (List.cons_ne_nil _ _) h.2 level n outer rest
      (by omega)
    have hspace : skipSpace (writeIndentItems level (w :: l) ++ (newline outer ++ ']' :: rest)) =
        writeIndentItems level (w :: l) ++ (newline outer ++ ']' :: rest) := by
      rw [writeIndentItems, List.append_assoc]
      exact skipSpace_writeIndent h.2.1 level _
    rw [List.append_assoc, List.cons_append, List.append_assoc, readItems, hv]
    simp [skipSpace_cons (c := ',') (by decide), skipSpace_newline, hspace, hl]

theorem readMembers_writeIndent {hook : ObjectHook} (hk : hook.Keeps) :
    ∀ (l : List (String × Json)), l ≠ [] → ReadableValues l →
    ∀ (level n outer : ℕ) (rest : List Char), (writeIndentMembers level l).length < n →
    readMembers hook n (writeIndentMembers level l ++ (newline outer ++ '\x7d' :: rest)) =
      some (l, rest)
  | [(k, v)], _, h, level, n + 1, outer, rest, hn => by
    rw [writeIndentMembers, if_pos rfl, List.append_nil] at hn ⊢
    simp only [List.length_cons, List.length_append] at hn
    have hv := readValue_writeIndent hk v h.1 level n (newline outer ++ '\x7d' :: rest)
      (endsNumber_newline _ _) (by omega)
    have hspace : skipSpace (' ' :: (writeIndent level v ++ (newline outer ++ '\x7d' :: rest))) =
        writeIndent level v ++ (newline outer ++ '\x7d' :: rest) := by
      rw [skipSpace, List.dropWhile_cons_of_pos (by decide)]
      exact skipSpace_writeIndent h.1 level _
    rw [writeString, List.cons_append, List.cons_append, List.append_assoc, List.append_assoc,
      List.singleton_append, readMembers, List.cons_append, List.cons_append, readString_write]
    simp [skipSpace_cons (c := ':') (by decide), skipSpace_cons (c := '\x7d') (by decide),
      skipSpace_newline, hspace, hv]
  | (k, v) :: (k', w) :: l, _, h, level, n + 1, outer, rest, hn => by
    rw [writeIndentMembers, if_neg (List.cons_ne_nil (k', w) l)] at hn ⊢
    simp only [List.length_cons, List.length_append] at hn
    have hv := readValue_writeIndent hk v h.1 level n (',' :: (newline level ++
      (writeIndentMembers level ((k', w) :: l) ++ (newline outer ++ '\x7d' :: rest))))
      (endsNumber_cons (by simp) _) (by omega)
    have hl := readMembers_writeIndent hk ((k', w) :: l) (List.cons_ne_nil _ _) h.2 level n outer
      rest (by omega)
    have hmember : skipSpace (writeIndentMembers level ((k', w) :: l) ++
        (newline outer ++ '\x7d' :: rest)) =
        writeIndentMembers level ((k', w) :: l) ++ (newline outer ++ '\x7d' :: rest) := by
      rw [writeIndentMembers, writeString, List.cons_append, List.cons_append]
      exact skipSpace_cons (by decide) _
    have hspace : ∀ rest, skipSpace (' ' :: (writeIndent level v ++ rest)) =
        writeIndent level v ++ rest := by
      intro rest
      rw [skipSpace, List.dropWhile_cons_of_pos (by decide)]
      exact skipSpace_writeIndent h.1 level _
    rw [writeString, List.cons_append, List.cons_append, List.append_assoc, List.append_assoc,
      List.singleton_append, readMembers, List.cons_append, List.cons_append, readString_write,
      List.append_assoc, List.cons_append, List.append_assoc]
    simp [skipSpace_cons (c := ':') (by decide), skipSpace_cons (c := ',') (by decide),
      skipSpace_newline, hspace, hv, hmember, hl]

end

/-- **An indented text is read back as the value with its keys sorted**, with a line end after it
or without. -/
theorem loadsWith_dumpsIndent {hook : ObjectHook} (hk : hook.Keeps) {v : Json} (h : v.Readable)
    (rest : String) (hrest : rest = "" ∨ rest = "\n") :
    loadsWith hook (v.dumpsIndent ++ rest) = some v.sortKeys := by
  have hreadable := readable_sortKeys h
  have hends : EndsNumber rest.toList := by
    rcases hrest with rfl | rfl
    · rintro c ⟨⟩
    · rintro c ⟨⟩
      decide
  have hspace := skipSpace_writeIndent hreadable 0 rest.toList
  have hread := readValue_writeIndent hk v.sortKeys hreadable 0
    ((writeIndent 0 v.sortKeys ++ rest.toList).length + 1) rest.toList hends
    (by rw [List.length_append]; omega)
  have hend : skipSpace rest.toList = [] := by rcases hrest with rfl | rfl <;> rfl
  simp only [loadsWith, dumpsIndent, String.toList_append, String.toList_ofList, hspace, hread,
    Option.bind_eq_bind, Option.bind_some, hend, if_true]

/-! ## The characters of a written value -/

/-- A line feed, or not a control character. -/
def IsWritten (c : Char) : Prop := c = '\n' ∨ 0x20 ≤ c.toNat

theorem isWritten_newline (level : ℕ) : ∀ c ∈ newline level, IsWritten c := by
  intro c hc
  rcases List.mem_cons.mp hc with rfl | hc
  · exact .inl rfl
  · rw [List.eq_of_mem_replicate hc]
    exact .inr (by decide)

mutual

/-- The only control character of an indented value is the line feed. -/
theorem isWritten_writeIndent :
    ∀ (v : Json), v.Plain → ∀ (level : ℕ), ∀ c ∈ writeIndent level v, IsWritten c
  | null, h, level, c, hc => by
    rw [writeIndent] at hc
    exact .inr (le_toNat_write _ h c hc)
  | bool b, h, level, c, hc => by
    rw [writeIndent] at hc
    exact .inr (le_toNat_write _ h c hc)
  | int n, h, level, c, hc => by
    rw [writeIndent] at hc
    exact .inr (le_toNat_write _ h c hc)
  | str s, h, level, c, hc => by
    rw [writeIndent] at hc
    exact .inr (le_toNat_write _ h c hc)
  | arr [], h, level, c, hc => by
    rw [writeIndent] at hc
    refine .inr ?_
    revert c
    exact forall_mem_of_all (by decide)
  | arr (v :: l), h, level, c, hc => by
    rw [writeIndent, List.mem_cons, List.mem_append, List.mem_append, List.mem_append,
      List.mem_singleton] at hc
    rcases hc with rfl | hc | hc | hc | rfl
    · exact .inr (by decide)
    · exact isWritten_newline _ c hc
    · exact isWritten_writeIndentItems (v :: l) h (level + 1) c hc
    · exact isWritten_newline _ c hc
    · exact .inr (by decide)
  | obj [], h, level, c, hc => by
    rw [writeIndent] at hc
    refine .inr ?_
    revert c
    exact forall_mem_of_all (by decide)
  | obj (p :: l), h, level, c, hc => by
    rw [writeIndent, List.mem_cons, List.mem_append, List.mem_append, List.mem_append,
      List.mem_singleton] at hc
    rcases hc with rfl | hc | hc | hc | rfl
    · exact .inr (by decide)
    · exact isWritten_newline _ c hc
    · exact isWritten_writeIndentMembers (p :: l) h.2 (level + 1) c hc
    · exact isWritten_newline _ c hc
    · exact .inr (by decide)

theorem isWritten_writeIndentItems :
    ∀ (l : List Json), PlainItems l → ∀ (level : ℕ), ∀ c ∈ writeIndentItems level l, IsWritten c
  | [], _, level, c, hc => by cases hc
  | v :: l, h, level, c, hc => by
    rw [writeIndentItems, List.mem_append] at hc
    rcases hc with hc | hc
    · exact isWritten_writeIndent v h.1 level c hc
    · split_ifs at hc
      · cases hc
      · rw [List.mem_cons, List.mem_append] at hc
        rcases hc with rfl | hc | hc
        · exact .inr (by decide)
        · exact isWritten_newline _ c hc
        · exact isWritten_writeIndentItems l h.2 level c hc

theorem isWritten_writeIndentMembers :
    ∀ (l : List (String × Json)), PlainValues l →
    ∀ (level : ℕ), ∀ c ∈ writeIndentMembers level l, IsWritten c
  | [], _, level, c, hc => by cases hc
  | (k, v) :: l, h, level, c, hc => by
    rw [writeIndentMembers, List.mem_append, List.mem_cons, List.mem_cons, List.mem_append] at hc
    rcases hc with hc | rfl | rfl | hc | hc
    · exact .inr (le_toNat_writeString k c hc)
    · exact .inr (by decide)
    · exact .inr (by decide)
    · exact isWritten_writeIndent v h.1 level c hc
    · split_ifs at hc
      · cases hc
      · rw [List.mem_cons, List.mem_append] at hc
        rcases hc with rfl | hc | hc
        · exact .inr (by decide)
        · exact isWritten_newline _ c hc
        · exact isWritten_writeIndentMembers l h.2 level c hc

end

mutual

/-- The keys and the texts of a value. -/
def texts : Json → List String
  | null => []
  | bool _ => []
  | int _ => []
  | float _ => []
  | str s => [s]
  | arr items => textsItems items
  | obj members => textsMembers members

def textsItems : List Json → List String
  | [] => []
  | v :: l => texts v ++ textsItems l

def textsMembers : List (String × Json) → List String
  | [] => []
  | (k, v) :: l => k :: (texts v ++ textsMembers l)

end

theorem textsMembers_eq_flatMap (l : List (String × Json)) :
    textsMembers l = l.flatMap fun p => p.1 :: texts p.2 := by
  induction l with
  | nil => rfl
  | cons p l ih => rw [textsMembers, ih, List.flatMap_cons, List.cons_append]

mutual

/-- Sorting keeps the keys and the texts. -/
theorem perm_texts_sortKeys : ∀ v : Json, (texts v.sortKeys).Perm (texts v)
  | null => List.Perm.refl _
  | bool _ => List.Perm.refl _
  | int _ => List.Perm.refl _
  | float _ => List.Perm.refl _
  | str _ => List.Perm.refl _
  | arr items => by
    rw [sortKeys, texts, texts]
    exact perm_texts_sortItems items
  | obj members => by
    rw [sortKeys, texts, texts]
    refine List.Perm.trans ?_ (perm_texts_sortValues members)
    rw [textsMembers_eq_flatMap, textsMembers_eq_flatMap]
    exact (perm_sortMembers _).flatMap_right _

theorem perm_texts_sortItems : ∀ l : List Json, (textsItems (sortItems l)).Perm (textsItems l)
  | [] => List.Perm.refl _
  | v :: l => by
    rw [sortItems, textsItems, textsItems]
    exact (perm_texts_sortKeys v).append (perm_texts_sortItems l)

theorem perm_texts_sortValues :
    ∀ l : List (String × Json), (textsMembers (sortValues l)).Perm (textsMembers l)
  | [] => List.Perm.refl _
  | (k, v) :: l => by
    rw [sortValues, textsMembers, textsMembers]
    exact ((perm_texts_sortKeys v).append (perm_texts_sortValues l)).cons k

end

/-- A character that stands in one of the texts. -/
def OccursIn (c : Char) (l : List String) : Prop := ∃ s ∈ l, c ∈ s.toList

theorem occursIn_append {c : Char} {l m : List String} :
    OccursIn c (l ++ m) ↔ OccursIn c l ∨ OccursIn c m := by
  simp only [OccursIn, List.mem_append, or_and_right, exists_or]

theorem occursIn_cons {c : Char} {s : String} {l : List String} :
    OccursIn c (s :: l) ↔ c ∈ s.toList ∨ OccursIn c l := by
  simp only [OccursIn, List.mem_cons, or_and_right, exists_or, exists_eq_left]

theorem not_occursIn_nil {c : Char} : ¬ OccursIn c [] := by
  rintro ⟨s, hs, -⟩
  cases hs

theorem ascii_of_isDigit {c : Char} (h : c.isDigit = true) : c.toNat < 128 := by
  rw [Char.isDigit, Bool.and_eq_true, decide_eq_true_eq, decide_eq_true_eq] at h
  have : c.toNat ≤ 57 := h.2
  omega

theorem ne_of_ascii {c d : Char} (hc : 128 ≤ c.toNat) (hd : d.toNat < 128) : c ≠ d := by
  rintro rfl
  omega

theorem not_mem_ascii {c : Char} (hc : 128 ≤ c.toNat) {l : List Char} (hl : ∀ d ∈ l, d.toNat < 128) :
    c ∉ l := fun h => ne_of_ascii hc (hl c h) rfl

/-- Only ASCII characters are escaped, by ASCII characters. -/
theorem mem_escapeChar {c : Char} (hc : 128 ≤ c.toNat) (d : Char) : c ∈ escapeChar d ↔ c = d := by
  have hhex : ∀ n < 16, (Nat.digitChar n).toNat < 128 := by decide
  have hbound : ∀ {l : List Char}, (∀ e ∈ l, e.toNat < 128) → d.toNat < 128 → (c ∈ l ↔ c = d) := by
    intro l hl hd
    constructor
    · intro h
      exact absurd rfl (ne_of_ascii hc (hl c h))
    · intro h
      exact absurd h (ne_of_ascii hc hd)
  unfold escapeChar
  split_ifs with h1 h2 h3 h4 h5 h6 h7 h8
  · exact hbound (forall_mem_of_all (by decide)) (by rw [h1]; decide)
  · exact hbound (forall_mem_of_all (by decide)) (by rw [h2]; decide)
  · exact hbound (forall_mem_of_all (by decide)) (by rw [h3]; decide)
  · exact hbound (forall_mem_of_all (by decide)) (by rw [h4]; decide)
  · exact hbound (forall_mem_of_all (by decide)) (by rw [h5]; decide)
  · exact hbound (forall_mem_of_all (by decide)) (by rw [h6]; decide)
  · exact hbound (forall_mem_of_all (by decide)) (by rw [h7]; decide)
  · refine hbound ?_ (by omega)
    simp only [List.forall_mem_cons, List.not_mem_nil, false_imp_iff, implies_true, and_true]
    exact ⟨by decide, by decide, by decide, by decide, hhex _ (Nat.mod_lt _ (by decide)),
      hhex _ (Nat.mod_lt _ (by decide))⟩
  · exact List.mem_singleton

theorem mem_writeString {c : Char} (hc : 128 ≤ c.toNat) (s : String) :
    c ∈ writeString s ↔ c ∈ s.toList := by
  have hquote : c ≠ '"' := ne_of_ascii hc (by decide)
  simp only [writeString, List.mem_cons, List.mem_append, List.mem_flatMap, mem_escapeChar hc, hquote,
    List.not_mem_nil, false_or, or_false, exists_eq_right']

theorem not_mem_writeInt {c : Char} (hc : 128 ≤ c.toNat) (n : ℤ) : c ∉ writeInt n := by
  intro h
  rw [writeInt, List.mem_append] at h
  rcases h with h | h
  · split_ifs at h
    · exact ne_of_ascii hc (by decide) (List.mem_singleton.mp h)
    · cases h
  · exact absurd (ascii_of_isDigit (Decimal.isDigit_toDigits _ c h)) (by omega)

mutual

/-- **A character beyond ASCII is written as it stands in a key or a text, and only there.** -/
theorem mem_write {c : Char} (hc : 128 ≤ c.toNat) :
    ∀ v : Json, v.Plain → (c ∈ write v ↔ OccursIn c (texts v))
  | null, _ => by
    rw [write]
    exact iff_of_false (not_mem_ascii hc (forall_mem_of_all (by decide))) not_occursIn_nil
  | bool true, _ => by
    rw [write]
    exact iff_of_false (not_mem_ascii hc (forall_mem_of_all (by decide))) not_occursIn_nil
  | bool false, _ => by
    rw [write]
    exact iff_of_false (not_mem_ascii hc (forall_mem_of_all (by decide))) not_occursIn_nil
  | int n, _ => by
    rw [write]
    exact iff_of_false (not_mem_writeInt hc n) not_occursIn_nil
  | str s, _ => by
    rw [write, mem_writeString hc, texts, occursIn_cons]
    exact (or_iff_left not_occursIn_nil).symm
  | arr items, h => by
    have h1 : c ≠ '[' := ne_of_ascii hc (by decide)
    have h2 : c ≠ ']' := ne_of_ascii hc (by decide)
    rw [write, texts, ← mem_writeItems hc items h, List.mem_cons, List.mem_append, List.mem_singleton]
    simp only [h1, h2, false_or, or_false]
  | obj members, h => by
    have h1 : c ≠ '\x7b' := ne_of_ascii hc (by decide)
    have h2 : c ≠ '\x7d' := ne_of_ascii hc (by decide)
    rw [write, texts, ← mem_writeMembers hc members h.2, List.mem_cons, List.mem_append,
      List.mem_singleton]
    simp only [h1, h2, false_or, or_false]

theorem mem_writeItems {c : Char} (hc : 128 ≤ c.toNat) :
    ∀ l : List Json, PlainItems l → (c ∈ writeItems l ↔ OccursIn c (textsItems l))
  | [], _ => iff_of_false List.not_mem_nil not_occursIn_nil
  | [v], h => by
    rw [writeItems, textsItems, textsItems, List.append_nil]
    exact mem_write hc v h.1
  | v :: w :: l, h => by
    have h1 : c ≠ ',' := ne_of_ascii hc (by decide)
    rw [writeItems, textsItems, occursIn_append, ← mem_write hc v h.1,
      ← mem_writeItems hc (w :: l) h.2, List.mem_append, List.mem_cons]
    simp only [h1, false_or]

theorem mem_writeMembers {c : Char} (hc : 128 ≤ c.toNat) :
    ∀ l : List (String × Json), PlainValues l → (c ∈ writeMembers l ↔ OccursIn c (textsMembers l))
  | [], _ => iff_of_false List.not_mem_nil not_occursIn_nil
  | [(k, v)], h => by
    have h1 : c ≠ ':' := ne_of_ascii hc (by decide)
    rw [writeMembers, textsMembers, textsMembers, List.append_nil, occursIn_cons,
      ← mem_write hc v h.1, List.mem_append, List.mem_cons, mem_writeString hc]
    simp only [h1, false_or]
  | (k, v) :: p :: l, h => by
    have h1 : c ≠ ':' := ne_of_ascii hc (by decide)
    have h2 : c ≠ ',' := ne_of_ascii hc (by decide)
    rw [writeMembers, textsMembers, occursIn_cons, occursIn_append, ← mem_write hc v h.1,
      ← mem_writeMembers hc (p :: l) h.2, List.mem_append, List.mem_cons, List.mem_append,
      List.mem_cons, mem_writeString hc]
    simp only [h1, h2, false_or]

end

/-- A character beyond ASCII in a written text. -/
theorem mem_dumps {c : Char} (hc : 128 ≤ c.toNat) {v : Json} (h : v.Plain) :
    c ∈ v.dumps.toList ↔ OccursIn c (texts v) := by
  rw [dumps, String.toList_ofList, mem_write hc _ (plain_sortKeys h)]
  exact exists_congr fun s => and_congr_left' (perm_texts_sortKeys v).mem_iff

end Json

end WeatherBot.Common
