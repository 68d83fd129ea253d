import WeatherBot.Common.JsonText

/-!
# Floats in JSON texts

Which texts of floats are read back, and the values that have only such floats.

* `readScalar_append`: a literal or a number that takes a whole text is read before
  any text that cannot continue a number.
* `IsFloatText`: the text is read as one float, with its own text.
* `Readable`: no object has a key twice, and every float has such a text.
  `readable_of_plain`: a value without floats is readable.
-/

namespace WeatherBot.Common

namespace Json

/-! ## A scalar before another text -/

theorem takeWhile_isDigit_of_ends {rest : List Char} (h : EndsNumber rest) :
    rest.takeWhile Char.isDigit = [] := by
  cases rest with
  | nil => rfl
  | cons c rest =>
    rw [List.takeWhile_cons_of_neg]
    rw [(h c rfl).1]
    decide

theorem takeWhile_isDigit_append {rest : List Char} (hrest : EndsNumber rest) (l : List Char) :
    (l ++ rest).takeWhile Char.isDigit = l.takeWhile Char.isDigit := by
  rw [List.takeWhile_append, takeWhile_isDigit_of_ends hrest, List.append_nil]
  split_ifs with hlen
  · exact ((List.takeWhile_prefix _).eq_of_length hlen).symm
  · rfl

theorem dropWhile_isDigit_append {rest : List Char} (hrest : EndsNumber rest) (l : List Char) :
    (l ++ rest).dropWhile Char.isDigit = l.dropWhile Char.isDigit ++ rest := by
  have hwhole := List.takeWhile_append_dropWhile (p := Char.isDigit) (l := l ++ rest)
  have hpart := List.takeWhile_append_dropWhile (p := Char.isDigit) (l := l)
  rw [takeWhile_isDigit_append hrest] at hwhole
  refine @List.append_cancel_left _ (l.takeWhile Char.isDigit) _ _ ?_
  rw [hwhole, ← List.append_assoc, hpart]

theorem readNatural_append {l l' digits rest : List Char} (hrest : EndsNumber rest)
    (h : readNatural l = some (digits, l')) : readNatural (l ++ rest) = some (digits, l' ++ rest) := by
  cases l with
  | nil => cases h
  | cons c l =>
    rw [readNatural] at h
    rw [List.cons_append, readNatural]
    split_ifs at h ⊢ with hzero hdigit
    · cases h
      rfl
    · rw [takeWhile_isDigit_append hrest, dropWhile_isDigit_append hrest]
      cases h
      rfl

theorem readFraction_append {rest : List Char} (hrest : EndsNumber rest) (l : List Char) :
    readFraction (l ++ rest) = ((readFraction l).1, (readFraction l).2 ++ rest) := by
  rcases l with - | ⟨c, l⟩
  · rw [List.nil_append, readFraction_of_ends hrest]
    rfl
  · by_cases hc : c = '.'
    · subst hc
      rw [List.cons_append, readFraction, readFraction, takeWhile_isDigit_append hrest,
        dropWhile_isDigit_append hrest]
      split <;> rfl
    · rw [List.cons_append, readFraction, readFraction]
      · rfl
      all_goals
        intro l' e
        exact hc (List.cons.inj e).1

theorem readExponentSign_append (c : Char) (l rest : List Char) :
    readExponentSign (c :: l ++ rest) =
      ((readExponentSign (c :: l)).1, (readExponentSign (c :: l)).2 ++ rest) := by
  rw [List.cons_append]
  unfold readExponentSign
  split <;> split <;> simp_all

/-- An exponent that takes the whole text. -/
theorem readExponent_append {l rest exponent : List Char} (hrest : EndsNumber rest)
    (h : readExponent l = (exponent, [])) : readExponent (l ++ rest) = (exponent, rest) := by
  cases l with
  | nil =>
    cases h
    exact readExponent_of_ends hrest
  | cons c l =>
    rw [readExponent] at h
    rw [List.cons_append, readExponent]
    split_ifs at h ⊢ with hc
    · cases l with
      | nil => cases h
      | cons d l =>
        rw [← List.cons_append, readExponentSign_append]
        dsimp only at h ⊢
        rw [takeWhile_isDigit_append hrest, dropWhile_isDigit_append hrest]
        split at h
        · cases h
        · rename_i hdigits
          rw [Prod.mk.injEq] at h
          rw [h.1, h.2, List.nil_append]
    · cases h

/-- The number of its parts. -/
def numberOf (neg : Bool) (digits fraction exponent : List Char) : Json :=
  if fraction = [] ∧ exponent = [] then
    let n : ℕ := Nat.ofDigitChars 10 digits 0
    int (if neg then -n else n)
  else float (String.ofList ((if neg then ['-'] else []) ++ digits ++ fraction ++ exponent))

theorem readUnsigned_of_natural {l l' digits : List Char} (neg : Bool)
    (h : readNatural l = some (digits, l')) :
    readUnsigned neg l = some (numberOf neg digits (readFraction l').1 (readExponent (readFraction l').2).1,
      (readExponent (readFraction l').2).2) := by
  rw [readUnsigned, h, numberOf]
  simp only [Option.bind_eq_bind, Option.bind_some]
  split_ifs <;> rfl

theorem readUnsigned_append {neg : Bool} {l rest : List Char} {v : Json} (hrest : EndsNumber rest)
    (h : readUnsigned neg l = some (v, [])) : readUnsigned neg (l ++ rest) = some (v, rest) := by
  cases hdigits : readNatural l with
  | none =>
    rw [readUnsigned, hdigits] at h
    cases h
  | some p =>
    obtain ⟨digits, l'⟩ := p
    rw [readUnsigned_of_natural neg hdigits] at h
    obtain ⟨hv, hend⟩ := Prod.mk.inj (Option.some.inj h)
    have hexponent : readExponent ((readFraction l').2 ++ rest) =
        ((readExponent (readFraction l').2).1, rest) :=
      readExponent_append hrest (Prod.ext rfl hend)
    rw [readUnsigned_of_natural neg (readNatural_append hrest hdigits), readFraction_append hrest,
      hexponent, ← hv]

theorem readWord_eq_nil {word l : List Char} (h : readWord word l = some []) : l = word := by
  unfold readWord at h
  split_ifs at h with htake
  rw [← List.take_append_drop word.length l, htake, Option.some.inj h, List.append_nil]

theorem readWord_append (word rest : List Char) : readWord word (word ++ rest) = some rest := by
  rw [readWord, List.take_left, if_pos rfl, List.drop_left]

/-- A word that takes the whole text is read before any other text. -/
theorem map_readWord_append {word l : List Char} {v w : Json} (rest : List Char)
    (h : (readWord word l).map (v, ·) = some (w, [])) :
    (readWord word (l ++ rest)).map (v, ·) = some (w, rest) := by
  obtain ⟨l', hl', e⟩ := Option.map_eq_some_iff.mp h
  obtain ⟨rfl, rfl⟩ := Prod.mk.inj e
  rw [readWord_eq_nil hl', readWord_append]
  rfl

/-- A number starts with a digit. -/
theorem head_readUnsigned {neg : Bool} {l : List Char} {p : Json × List Char}
    (h : readUnsigned neg l = some p) : ∃ c l', l = c :: l' ∧ c.isDigit = true := by
  cases l with
  | nil => cases h
  | cons c l =>
    refine ⟨c, l, rfl, ?_⟩
    by_contra hc
    have hzero : c ≠ '0' := by
      rintro rfl
      exact hc (by decide)
    rw [readUnsigned, readNatural, if_neg hzero, if_neg hc] at h
    cases h

/-- **A scalar that takes a whole text is read before any text that cannot continue a number.** -/
theorem readScalar_append {l rest : List Char} {v : Json} (hrest : EndsNumber rest)
    (h : readScalar l = some (v, [])) : readScalar (l ++ rest) = some (v, rest) := by
  cases l with
  | nil => cases h
  | cons c l =>
    rw [readScalar] at h
    rw [List.cons_append, readScalar]
    split_ifs at h ⊢
    · exact map_readWord_append rest h
    · exact map_readWord_append rest h
    · exact map_readWord_append rest h
    · exact map_readWord_append rest h
    · exact map_readWord_append rest h
    · cases hword : readWord "Infinity".toList l with
      | some l' =>
        rw [hword] at h
        obtain ⟨rfl, rfl⟩ := Prod.mk.inj (Option.some.inj h)
        rw [readWord_eq_nil hword, readWord_append]
      | none =>
        rw [hword] at h
        obtain ⟨d, l', rfl, hd⟩ := head_readUnsigned h
        have hinfinity : readWord "Infinity".toList (d :: l' ++ rest) = none := by
          rw [readWord, if_neg]
          intro e
          have hhead : d = 'I' := (List.cons.inj e).1
          rw [hhead] at hd
          exact absurd hd (by decide)
        rw [hinfinity]
        exact readUnsigned_append hrest h
    · exact readUnsigned_append hrest h

/-! ## Texts of floats -/

/-- The text of a float that is read back: it is one number with a fraction or an exponent, or one
of the words for the special values. -/
def IsFloatText (text : String) : Prop := readScalar text.toList = some (float text, [])

/-- A scalar starts with neither white space nor the first character of another kind of value. -/
theorem head_readScalar {l : List Char} {p : Json × List Char} (h : readScalar l = some p) :
    ∃ c l', l = c :: l' ∧ isJsonSpace c = false ∧ c ∉ ['"', '[', ']', '\x7b'] := by
  cases l with
  | nil => cases h
  | cons c l =>
    refine ⟨c, l, rfl, ?_⟩
    rw [readScalar] at h
    split_ifs at h with h1 h2 h3 h4 h5 h6
    · subst h1; decide
    · subst h2; decide
    · subst h3; decide
    · subst h4; decide
    · subst h5; decide
    · subst h6; decide
    · obtain ⟨d, l', e, hd⟩ := head_readUnsigned h
      obtain rfl := (List.cons.inj e).1
      have hne : ∀ w : Char, w.isDigit = false → c ≠ w := by
        rintro w hw rfl
        exact absurd (hd.symm.trans hw) (by decide)
      refine ⟨?_, ?_⟩
      · simp [isJsonSpace, hne ' ' (by decide), hne '\t' (by decide), hne '\n' (by decide),
          hne '\r' (by decide)]
      · simp [hne '"' (by decide), hne '[' (by decide), hne ']' (by decide), hne '\x7b' (by decide)]

theorem head_writeFloat {t : String} (h : IsFloatText t) :
    ∃ c l, write (float t) = c :: l ∧ isJsonSpace c = false ∧ c ∉ ['"', '[', ']', '\x7b'] := by
  rw [write]
  exact head_readScalar h

/-- A float is read back. -/
theorem readValue_writeFloat {hook : ObjectHook} {t : String} (h : IsFloatText t) (n : ℕ)
    {rest : List Char} (hrest : EndsNumber rest) (hn : (write (float t)).length ≤ n) :
    readValue hook n (write (float t) ++ rest) = some (float t, rest) := by
  have hread := readScalar_append hrest h
  obtain ⟨c, l, hl, -, hc⟩ := head_writeFloat h
  rw [write] at hl hn ⊢
  rw [hl] at hn hread ⊢
  simp only [List.mem_cons, List.not_mem_nil, or_false, not_or] at hc
  cases n with
  | zero => cases hn
  | succ n =>
    rw [List.cons_append, readValue, if_neg hc.1, if_neg hc.2.1, if_neg hc.2.2.2]
    exact hread

/-! ## Readable values -/

mutual

/-- No object of the value has a key twice, and the text of every float is read back. -/
def Readable : Json → Prop
  | null => True
  | bool _ => True
  | int _ => True
  | float t => IsFloatText t
  | str _ => True
  | arr items => ReadableItems items
  | obj members => (members.map Prod.fst).Nodup ∧ ReadableValues members

def ReadableItems : List Json → Prop
  | [] => True
  | v :: l => Readable v ∧ ReadableItems l

def ReadableValues : List (String × Json) → Prop
  | [] => True
  | (_, v) :: l => Readable v ∧ ReadableValues l

end

theorem readableItems_iff {l : List Json} : ReadableItems l ↔ ∀ v ∈ l, Readable v := by
  induction l with
  | nil => simp [ReadableItems]
  | cons v l ih => rw [ReadableItems, ih, List.forall_mem_cons]

theorem readableValues_iff {l : List (String × Json)} :
    ReadableValues l ↔ ∀ p ∈ l, Readable p.2 := by
  induction l with
  | nil => simp [ReadableValues]
  | cons p l ih => rw [ReadableValues, ih, List.forall_mem_cons]

mutual

/-- **A value with distinct keys and no float is readable.** -/
theorem readable_of_plain : ∀ {v : Json}, v.Plain → v.Readable
  | null, _ => trivial
  | bool _, _ => trivial
  | int _, _ => trivial
  | float _, h => h.elim
  | str _, _ => trivial
  | arr _, h => by
    rw [Plain] at h
    exact readableItems_of_plain h
  | obj _, h => by
    rw [Plain] at h
    exact ⟨h.1, readableValues_of_plain h.2⟩

theorem readableItems_of_plain : ∀ {l : List Json}, PlainItems l → ReadableItems l
  | [], _ => trivial
  | _ :: _, h => ⟨readable_of_plain h.1, readableItems_of_plain h.2⟩

theorem readableValues_of_plain : ∀ {l : List (String × Json)}, PlainValues l → ReadableValues l
  | [], _ => trivial
  | (_, _) :: _, h => ⟨readable_of_plain h.1, readableValues_of_plain h.2⟩

end

theorem readableValues_sortMembers {l : List (String × Json)} :
    ReadableValues (sortMembers l) ↔ ReadableValues l := by
  simp only [readableValues_iff, mem_sortMembers]

mutual

theorem readable_sortKeys : ∀ {v : Json}, v.Readable → v.sortKeys.Readable
  | null, _ => trivial
  | bool _, _ => trivial
  | int _, _ => trivial
  | float _, h => h
  | str _, _ => trivial
  | arr items, h => by
    rw [Readable] at h
    rw [sortKeys, Readable]
    exact readableItems_sortItems h
  | obj members, h => by
    rw [Readable] at h
    rw [sortKeys, Readable, nodup_keys_sortMembers, keys_sortValues, readableValues_sortMembers]
    exact ⟨h.1, readableValues_sortValues h.2⟩

theorem readableItems_sortItems : ∀ {l : List Json}, ReadableItems l → ReadableItems (sortItems l)
  | [], _ => trivial
  | _ :: _, h => ⟨readable_sortKeys h.1, readableItems_sortItems h.2⟩

theorem readableValues_sortValues :
    ∀ {l : List (String × Json)}, ReadableValues l → ReadableValues (sortValues l)
  | [], _ => trivial
  | (_, _) :: _, h => ⟨readable_sortKeys h.1, readableValues_sortValues h.2⟩

end

end Json

end WeatherBot.Common
