import WeatherBot.Common.JsonText

/-!
# A JSON text that is cut short

What a reader finds where the text of a value breaks off and the text of an
object, whole or itself cut short, begins.

* `readArray_eq_some`, `readObject_eq_some`, `readItems_eq_some`,
  `readMembers_eq_some`: when each reader returns.
* `readValue_le`: more steps do not change what is read.
* `Blocks`: a text that starts an object and in which a reader that is inside a
  value or a string does not get to a place where it can go on.
* `halts_readValue`: a cut value in front of such a text is not read to a place
  where an array or an object goes on.
* `blocks_write`, `blocks_append`: such texts are built up from cut texts.
* `loadsWith_cut`: **an object that is cut short, or complete, does not load with
  such a text behind it.**
-/

namespace WeatherBot.Common.Json

/-- A prefix of `a ++ b` ends inside `a` or goes on into `b`. -/
theorem prefix_append_cases {p a b : List Char} (h : p <+: a ++ b) :
    p <+: a ∨ ∃ q, q <+: b ∧ p = a ++ q := by
  rcases List.prefix_or_prefix_of_prefix h (List.prefix_append a b) with h' | ⟨q, rfl⟩
  · exact .inl h'
  · exact .inr ⟨q, (List.prefix_append_right_inj a).mp h, rfl⟩

/-! ## When a reader returns -/

section Returns

variable {hook : ObjectHook} {n : ℕ} {l : List Char}

theorem readArray_eq_some {r : Json × List Char} :
    readValue hook (n + 1) ('[' :: l) = some r ↔
      (∃ l', skipSpace l = ']' :: l' ∧ r = (arr [], l')) ∨
      (∀ l', skipSpace l ≠ ']' :: l') ∧
        ∃ items l', readItems hook n (skipSpace l) = some (items, l') ∧ r = (arr items, l') := by
  rw [readValue, if_neg (by decide), if_pos rfl]
  split
  next l' h =>
    simp [h, eq_comm]
  next h =>
    rw [Option.map_eq_some_iff]
    constructor
    · rintro ⟨⟨items, l'⟩, hr, rfl⟩
      exact .inr ⟨h, items, l', hr, rfl⟩
    · rintro (⟨l', hl, -⟩ | ⟨-, items, l', hr, rfl⟩)
      · exact (h l' hl).elim
      · exact ⟨_, hr, rfl⟩

theorem readObject_eq_some {r : Json × List Char} :
    readValue hook (n + 1) ('\x7b' :: l) = some r ↔
      (∃ l' v, skipSpace l = '\x7d' :: l' ∧ hook [] = some v ∧ r = (v, l')) ∨
      (∀ l', skipSpace l ≠ '\x7d' :: l') ∧ ∃ members l' v,
        readMembers hook n (skipSpace l) = some (members, l') ∧ hook members = some v ∧
          r = (v, l') := by
  rw [readValue, if_neg (by decide), if_neg (by decide), if_pos rfl]
  split
  next l' h =>
    simp [h, eq_comm]
  next h =>
    simp only [Option.bind_eq_bind, Option.bind_eq_some_iff, Prod.exists]
    constructor
    · rintro ⟨members, l', hr, v, hv, hp⟩
      exact .inr ⟨h, members, l', v, hr, hv, (Option.some.inj hp).symm⟩
    · rintro (⟨l', v, hl, -⟩ | ⟨-, members, l', v, hr, hv, rfl⟩)
      · exact (h l' hl).elim
      · exact ⟨members, l', hr, v, hv, rfl⟩

theorem readItems_eq_some {r : List Json × List Char} :
    readItems hook (n + 1) l = some r ↔ ∃ v l₁, readValue hook n l = some (v, l₁) ∧
      ((∃ l₂, skipSpace l₁ = ']' :: l₂ ∧ r = ([v], l₂)) ∨
        ∃ l₂ items l₃, skipSpace l₁ = ',' :: l₂ ∧
          readItems hook n (skipSpace l₂) = some (items, l₃) ∧ r = (v :: items, l₃)) := by
  rw [readItems, Option.bind_eq_bind, Option.bind_eq_some_iff, Prod.exists]
  refine exists_congr fun v => exists_congr fun l₁ => and_congr_right fun _ => ?_
  dsimp only
  split
  next l₂ h => simp [h, eq_comm]
  next l₂ h =>
    simp only [h, Option.bind_eq_bind, Option.bind_eq_some_iff, Prod.exists]
    constructor
    · rintro ⟨items, l₃, hr, hp⟩
      exact .inr ⟨l₂, items, l₃, rfl, hr, (Option.some.inj hp).symm⟩
    · rintro (⟨l₂', hl, -⟩ | ⟨l₂', items, l₃, hl, hr, rfl⟩)
      · cases hl
      · cases hl
        exact ⟨items, l₃, hr, rfl⟩
  next h1 h2 =>
    constructor
    · intro h
      cases h
    · rintro (⟨l₂, hl, -⟩ | ⟨l₂, items, l₃, hl, -⟩)
      · exact (h1 l₂ hl).elim
      · exact (h2 l₂ hl).elim

theorem readMembers_eq_some {r : List (String × Json) × List Char} :
    readMembers hook (n + 1) ('"' :: l) = some r ↔ ∃ k l₁ l₂ v l₃,
      readString l = some (k, l₁) ∧ skipSpace l₁ = ':' :: l₂ ∧
      readValue hook n (skipSpace l₂) = some (v, l₃) ∧
      ((∃ l₄, skipSpace l₃ = '\x7d' :: l₄ ∧ r = ([(k, v)], l₄)) ∨
        ∃ l₄ members l₅, skipSpace l₃ = ',' :: l₄ ∧
          readMembers hook n (skipSpace l₄) = some (members, l₅) ∧ r = ((k, v) :: members, l₅)) := by
  rw [readMembers, Option.bind_eq_bind, Option.bind_eq_some_iff, Prod.exists]
  refine exists_congr fun k => exists_congr fun l₁ => ?_
  dsimp only
  split
  next l₂ h =>
    simp only [h, Option.bind_eq_bind, Option.bind_eq_some_iff, Prod.exists]
    constructor
    · rintro ⟨hk, v, l₃, hv, hr⟩
      refine ⟨l₂, v, l₃, hk, rfl, hv, ?_⟩
      split at hr
      next l₄ hl =>
        exact .inl ⟨l₄, hl, (Option.some.inj hr).symm⟩
      next l₄ hl =>
        obtain ⟨⟨members, l₅⟩, hm, hp⟩ := Option.bind_eq_some_iff.mp hr
        exact .inr ⟨l₄, members, l₅, hl, hm, (Option.some.inj hp).symm⟩
      next => cases hr
    · rintro ⟨l₂', v, l₃, hk, hl₂, hv, hr⟩
      cases hl₂
      refine ⟨hk, v, l₃, hv, ?_⟩
      rcases hr with ⟨l₄, hl, rfl⟩ | ⟨l₄, members, l₅, hl, hm, rfl⟩
      · simp only [hl]
      · simp only [hl, hm]
        rfl
  next h =>
    constructor
    · rintro ⟨-, hr⟩
      cases hr
    · rintro ⟨l₂, v, l₃, -, hl₂, -⟩
      exact (h l₂ hl₂).elim

theorem readMembers_eq_none {c : Char} (h : c ≠ '"') : readMembers hook n (c :: l) = none := by
  unfold readMembers
  split
  next => rfl
  next hl => exact absurd (List.cons.inj hl).1 h
  next => rfl

end Returns

/-! ## More steps -/

/-- One more step does not change what is read. -/
theorem read_succ (hook : ObjectHook) : ∀ n,
    (∀ l r, readValue hook n l = some r → readValue hook (n + 1) l = some r) ∧
    (∀ l r, readItems hook n l = some r → readItems hook (n + 1) l = some r) ∧
    ∀ l r, readMembers hook n l = some r → readMembers hook (n + 1) l = some r
  | 0 => by
    refine ⟨?_, ?_, ?_⟩ <;> intro l r h
    · rw [readValue] at h
      cases h
    · rw [readItems] at h
      cases h
    · rw [readMembers] at h
      cases h
  | n + 1 => by
    obtain ⟨hvalue, hitems, hmembers⟩ := read_succ hook n
    refine ⟨?_, ?_, ?_⟩
    · intro l r h
      cases l with
      | nil => cases h
      | cons c l =>
        by_cases hc : c = '['
        · subst hc
          rw [readArray_eq_some] at h ⊢
          exact h.imp_right fun ⟨hl, items, l', hr, hp⟩ => ⟨hl, items, l', hitems _ _ hr, hp⟩
        · by_cases hc' : c = '\x7b'
          · subst hc'
            rw [readObject_eq_some] at h ⊢
            exact h.imp_right fun ⟨hl, members, l', v, hr, hp⟩ =>
              ⟨hl, members, l', v, hmembers _ _ hr, hp⟩
          · rw [readValue, if_neg hc, if_neg hc'] at h ⊢
            exact h
    · intro l r h
      rw [readItems_eq_some] at h ⊢
      obtain ⟨v, l₁, hv, hr⟩ := h
      refine ⟨v, l₁, hvalue _ _ hv, hr.imp_right ?_⟩
      rintro ⟨l₂, items, l₃, hl, hi, hp⟩
      exact ⟨l₂, items, l₃, hl, hitems _ _ hi, hp⟩
    · intro l r h
      cases l with
      | nil => cases h
      | cons c l =>
        by_cases hc : c = '"'
        · subst hc
          rw [readMembers_eq_some] at h ⊢
          obtain ⟨k, l₁, l₂, v, l₃, hk, hl, hv, hr⟩ := h
          refine ⟨k, l₁, l₂, v, l₃, hk, hl, hvalue _ _ hv, hr.imp_right ?_⟩
          rintro ⟨l₄, members, l₅, hl, hm, hp⟩
          exact ⟨l₄, members, l₅, hl, hmembers _ _ hm, hp⟩
        · rw [readMembers_eq_none hc] at h
          cases h

/-- More steps do not change what is read. -/
theorem readValue_le {hook : ObjectHook} {n m : ℕ} (h : n ≤ m) {l : List Char}
    {r : Json × List Char} (hr : readValue hook n l = some r) : readValue hook m l = some r := by
  induction h with
  | refl => exact hr
  | step _ ih => exact (read_succ hook _).1 l r ih

/-- A written value is what is read, with however many steps. -/
theorem eq_of_readValue_write {hook : ObjectHook} (hk : hook.Keeps) {v : Json} (hv : v.Plain)
    {n : ℕ} {rest : List Char} (hrest : EndsNumber rest) {r : Json × List Char}
    (hr : readValue hook n (write v ++ rest) = some r) : r = (v, rest) := by
  have hread := readValue_write hk v hv (max n (write v).length) rest hrest (Nat.le_max_right ..)
  rw [readValue_le (Nat.le_max_left n (write v).length) hr] at hread
  exact Option.some.inj hread

/-! ## Where a reader cannot go on -/

/-- A remainder at which no array, object or member goes on. -/
def Halts (rest : List Char) : Prop :=
  ∀ c, rest.head? = some c →
    isJsonSpace c = false ∧ c ≠ ':' ∧ c ≠ ',' ∧ c ≠ ']' ∧ c ≠ '\x7d'

theorem halts_cons {c : Char} (h : isJsonSpace c = false ∧ c ≠ ':' ∧ c ≠ ',' ∧ c ≠ ']' ∧ c ≠ '\x7d')
    (l : List Char) : Halts (c :: l) := by
  intro d hd
  cases hd
  exact h

theorem Halts.skipSpace_ne {rest : List Char} (h : Halts rest) {c : Char}
    (hc : c = ':' ∨ c = ',' ∨ c = ']' ∨ c = '\x7d') (l : List Char) : skipSpace rest ≠ c :: l := by
  cases rest with
  | nil => exact nofun
  | cons d rest =>
    obtain ⟨hd, h1, h2, h3, h4⟩ := h d rfl
    rw [skipSpace_cons hd]
    intro e
    obtain ⟨rfl, -⟩ := List.cons.inj e
    rcases hc with rfl | rfl | rfl | rfl
    · exact h1 rfl
    · exact h2 rfl
    · exact h3 rfl
    · exact h4 rfl

/-- A text that starts an object. A reader inside a value or a string that comes upon it does not
get to a place where it can go on. -/
structure Blocks (hook : ObjectHook) (t : List Char) : Prop where
  head : ∃ l, t = '\x7b' :: l
  string : ∀ n r, readChars n t = some r → Halts r.2
  value : ∀ n r, readValue hook n t = some r → Halts r.2

namespace Blocks

variable {hook : ObjectHook} {t : List Char}

theorem halts (h : Blocks hook t) : Halts t := by
  obtain ⟨l, rfl⟩ := h.head
  exact halts_cons (by decide) l

theorem endsNumber (h : Blocks hook t) : EndsNumber t := by
  obtain ⟨l, rfl⟩ := h.head
  rintro c ⟨⟩
  decide

end Blocks

/-! ## Cut scalars -/

section Cut

variable {hook : ObjectHook} {t : List Char}

theorem eq_of_readWord {w p r : List Char} (ht : Blocks hook t) (hw : '\x7b' ∉ w) (hp : p <+: w)
    (hr : readWord w (p ++ t) = some r) : r = t := by
  obtain ⟨l, rfl⟩ := ht.head
  obtain ⟨q, rfl⟩ := hp
  rw [readWord] at hr
  split_ifs at hr with h
  cases hr
  have hsplit := List.take_append_drop (p ++ q).length (p ++ '\x7b' :: l)
  rw [h, List.append_assoc, List.append_right_inj] at hsplit
  cases q with
  | nil => exact hsplit
  | cons c q =>
    obtain ⟨rfl, -⟩ := List.cons.inj hsplit
    exact absurd (List.mem_append_right p (List.mem_cons_self ..)) hw

theorem halts_of_isDigit {c : Char} (h : c.isDigit = true) (l : List Char) : Halts (c :: l) := by
  have hne : ∀ w : Char, w.isDigit = false → c ≠ w := by
    rintro w hw rfl
    exact absurd (h.symm.trans hw) (by decide)
  refine halts_cons ⟨?_, hne _ (by decide), hne _ (by decide), hne _ (by decide), hne _ (by decide)⟩ l
  simp [isJsonSpace, hne ' ' (by decide), hne '\t' (by decide), hne '\n' (by decide),
    hne '\r' (by decide)]

/-- Digits that were cut off are not read to a place where anything goes on. -/
theorem halts_readUnsigned (ht : Blocks hook t) {d : List Char} (hd : ∀ c ∈ d, c.isDigit = true)
    {neg : Bool} {r : Json × List Char} (hr : readUnsigned neg (d ++ t) = some r) : Halts r.2 := by
  have hfirst : ∀ rest, Halts rest → (∀ c, rest.head? = some c → c.isDigit = true ∨ c = '\x7b') →
      ∀ digits, readNatural (d ++ t) = some (digits, rest) → Halts r.2 := by
    intro rest hrest hhead digits hn
    have hfraction : readFraction rest = ([], rest) := by
      cases rest with
      | nil => rfl
      | cons c rest =>
        rw [readFraction]
        rintro l ⟨⟩
        rcases hhead '.' rfl with h | h <;> exact absurd h (by decide)
    have hexponent : readExponent rest = ([], rest) := by
      cases rest with
      | nil => rfl
      | cons c rest =>
        rw [readExponent, if_neg]
        rintro (rfl | rfl) <;> rcases hhead _ rfl with h | h <;> exact absurd h (by decide)
    rw [readUnsigned, hn] at hr
    simp only [Option.bind_eq_bind, Option.bind_some, hfraction, hexponent, and_self, if_true] at hr
    cases hr
    exact hrest
  obtain ⟨l, hl⟩ := ht.head
  cases d with
  | nil =>
    rw [List.nil_append, hl] at hr
    cases hr
  | cons c d =>
    rw [List.forall_mem_cons] at hd
    by_cases hc : c = '0'
    · -- after a zero the number is over
      subst hc
      refine hfirst (d ++ t) ?_ ?_ ['0'] rfl
      · cases d with
        | nil => exact ht.halts
        | cons e d => exact halts_of_isDigit (hd.2 e (List.mem_cons_self ..)) _
      · intro e he
        cases d with
        | nil =>
          rw [List.nil_append, hl] at he
          cases he
          exact .inr rfl
        | cons e' d =>
          cases he
          exact .inl (hd.2 e (List.mem_cons_self ..))
    · have hcut := takeWhile_append_of_all t hd.2 (fun e he => (ht.endsNumber e he).1)
      refine hfirst t ht.halts ?_ (c :: d) ?_
      · intro e he
        rw [hl] at he
        cases he
        exact .inr rfl
      · rw [List.cons_append, readNatural, if_neg hc, if_pos hd.1, hcut.1, hcut.2]

/-- An integer that was cut off. -/
theorem halts_readScalar_int (ht : Blocks hook t) (i : ℤ) {c : Char} {p : List Char}
    (hp : c :: p <+: writeInt i) {r : Json × List Char}
    (hr : readScalar (c :: p ++ t) = some r) : Halts r.2 := by
  have hdigits : ∀ d, d <+: Nat.toDigits 10 i.natAbs → ∀ e ∈ d, e.isDigit = true :=
    fun d hd e he => Decimal.isDigit_toDigits _ e (hd.subset he)
  unfold writeInt at hp
  by_cases hi : i < 0
  · rw [if_pos hi, List.singleton_append, List.cons_prefix_cons] at hp
    obtain ⟨rfl, hp⟩ := hp
    have hinf : readWord "Infinity".toList (p ++ t) = none := by
      rw [readWord, if_neg]
      intro e
      have hhead : (p ++ t).head? = some 'I' := by
        have := congrArg List.head? e
        rwa [List.head?_take, if_neg (by decide)] at this
      cases p with
      | nil =>
        obtain ⟨l, hl⟩ := ht.head
        rw [List.nil_append, hl] at hhead
        exact absurd (Option.some.inj hhead) (by decide)
      | cons d p =>
        have hd := hdigits _ hp d (List.mem_cons_self ..)
        cases hhead
        exact absurd hd (by decide)
    simp only [List.cons_append, readScalar, hinf] at hr
    exact halts_readUnsigned ht (hdigits p hp) hr
  · rw [if_neg hi, List.nil_append] at hp
    have hc := hdigits _ hp c (List.mem_cons_self ..)
    have hword : ∀ w : Char, w.isDigit = false → c ≠ w := by
      rintro w hw rfl
      exact absurd (hc.symm.trans hw) (by decide)
    rw [List.cons_append, readScalar, if_neg (hword _ (by decide)), if_neg (hword _ (by decide)),
      if_neg (hword _ (by decide)), if_neg (hword _ (by decide)), if_neg (hword _ (by decide)),
      if_neg (hword _ (by decide))] at hr
    exact halts_readUnsigned ht (hdigits _ hp) hr

/-! ## Cut strings -/

theorem readHex_eq_some {l : List Char} {r : ℕ × List Char} (h : readHex l = some r) :
    ∀ i < 4, ∃ c, l[i]? = some c ∧ (hexValue c).isSome := by
  unfold readHex at h
  split at h
  next a b c d l =>
    simp only [Option.bind_eq_bind, Option.bind_eq_some_iff] at h
    obtain ⟨_, ha, _, hb, _, hc, _, hd, -⟩ := h
    intro i hi
    interval_cases i
    · exact ⟨a, rfl, Option.isSome_of_eq_some ha⟩
    · exact ⟨b, rfl, Option.isSome_of_eq_some hb⟩
    · exact ⟨c, rfl, Option.isSome_of_eq_some hc⟩
    · exact ⟨d, rfl, Option.isSome_of_eq_some hd⟩
  next => cases h

/-- An escape that was cut off is not read. -/
theorem readEscape_cut (ht : Blocks hook t) {p : List Char}
    (hp : p = [] ∨ ∃ q, p = 'u' :: q ∧ q.length < 4) : readEscape (p ++ t) = none := by
  obtain ⟨l, rfl⟩ := ht.head
  rcases hp with rfl | ⟨q, rfl, hq⟩
  · rfl
  · have hhex : readHex (q ++ '\x7b' :: l) = none := by
      by_contra hne
      obtain ⟨r, hr⟩ := Option.ne_none_iff_exists'.mp hne
      obtain ⟨c, hc, hsome⟩ := readHex_eq_some hr q.length hq
      rw [List.getElem?_append_right (le_refl _), Nat.sub_self] at hc
      cases hc
      exact absurd hsome (by decide)
    show (readHex (q ++ '\x7b' :: l) >>= _) = none
    rw [hhex]
    rfl

theorem escapeChar_cases (c : Char) :
    escapeChar c = [c] ∨ (∃ d, escapeChar c = ['\\', d]) ∨
      ∃ h, escapeChar c = '\\' :: 'u' :: h ∧ h.length = 4 := by
  unfold escapeChar
  split_ifs
  · exact .inr (.inl ⟨_, rfl⟩)
  · exact .inr (.inl ⟨_, rfl⟩)
  · exact .inr (.inl ⟨_, rfl⟩)
  · exact .inr (.inl ⟨_, rfl⟩)
  · exact .inr (.inl ⟨_, rfl⟩)
  · exact .inr (.inl ⟨_, rfl⟩)
  · exact .inr (.inl ⟨_, rfl⟩)
  · exact .inr (.inr ⟨_, rfl, rfl⟩)
  · exact .inl rfl

/-- A proper prefix of an escape is empty, a backslash, or a backslash, `u` and up to three digits. -/
theorem cut_escapeChar {c : Char} {p : List Char} (hp : p <+: escapeChar c)
    (hne : p ≠ escapeChar c) :
    p = [] ∨ ∃ q, p = '\\' :: q ∧ (q = [] ∨ ∃ q', q = 'u' :: q' ∧ q'.length < 4) := by
  rcases escapeChar_cases c with he | ⟨d, he⟩ | ⟨h, he, hlen⟩ <;> rw [he] at hp hne
  · rcases List.prefix_cons_iff.mp hp with rfl | ⟨q, rfl, hq⟩
    · exact .inl rfl
    · rw [List.prefix_nil.mp hq] at hne
      exact absurd rfl hne
  · rcases List.prefix_cons_iff.mp hp with rfl | ⟨q, rfl, hq⟩
    · exact .inl rfl
    · refine .inr ⟨q, rfl, .inl ?_⟩
      rcases List.prefix_cons_iff.mp hq with rfl | ⟨q', rfl, hq'⟩
      · rfl
      · rw [List.prefix_nil.mp hq'] at hne
        exact absurd rfl hne
  · rcases List.prefix_cons_iff.mp hp with rfl | ⟨q, rfl, hq⟩
    · exact .inl rfl
    · refine .inr ⟨q, rfl, ?_⟩
      rcases List.prefix_cons_iff.mp hq with rfl | ⟨q', rfl, hq'⟩
      · exact .inl rfl
      · refine .inr ⟨q', rfl, ?_⟩
        have hle := hq'.length_le
        have hneq : q'.length ≠ h.length := by
          intro e
          rw [hq'.eq_of_length e] at hne
          exact hne rfl
        omega

/-- One character that was cut off. -/
theorem halts_readChars_escapeChar (ht : Blocks hook t) (c : Char) {p : List Char}
    (hp : p <+: escapeChar c) (hne : p ≠ escapeChar c) {n : ℕ} {r : List Char × List Char}
    (hr : readChars n (p ++ t) = some r) : Halts r.2 := by
  rcases cut_escapeChar hp hne with rfl | ⟨q, rfl, hq⟩
  · exact ht.string _ _ hr
  · cases n with
    | zero =>
      rw [readChars] at hr
      cases hr
    | succ n =>
      rw [List.cons_append, readChars, if_neg (by decide), if_pos rfl, readEscape_cut ht hq] at hr
      cases hr

/-- A string that was cut off, or its end. -/
theorem halts_readChars (ht : Blocks hook t) (s : List Char) {p : List Char}
    (hp : p <+: s.flatMap escapeChar ++ ['"']) {n : ℕ} {r : List Char × List Char}
    (hr : readChars n (p ++ t) = some r) : Halts r.2 := by
  induction s generalizing p n r with
  | nil =>
    rcases List.prefix_cons_iff.mp hp with rfl | ⟨q, rfl, hq⟩
    · exact ht.string _ _ hr
    · rw [List.prefix_nil.mp hq] at hr
      cases n with
      | zero =>
        rw [readChars] at hr
        cases hr
      | succ n =>
        cases hr
        exact ht.halts
  | cons c s ih =>
    rw [List.flatMap_cons, List.append_assoc] at hp
    rcases prefix_append_cases hp with hp | ⟨q, hq, rfl⟩
    · by_cases he : p = escapeChar c
      · subst he
        cases n with
        | zero =>
          rw [readChars] at hr
          cases hr
        | succ n =>
          rw [readChars_escapeChar, Option.map_eq_some_iff] at hr
          obtain ⟨r', hr', rfl⟩ := hr
          show Halts r'.2
          exact ht.string _ _ hr'
      · exact halts_readChars_escapeChar ht c hp he hr
    · cases n with
      | zero =>
        rw [readChars] at hr
        cases hr
      | succ n =>
        rw [List.append_assoc, readChars_escapeChar, Option.map_eq_some_iff] at hr
        obtain ⟨r', hr', rfl⟩ := hr
        show Halts r'.2
        exact ih hq hr'

/-! ## Cut values -/

/-- A text that starts with neither white space nor `close`. -/
def Opens (close : Char) (l : List Char) : Prop :=
  ∀ c, l.head? = some c → isJsonSpace c = false ∧ c ≠ close

theorem opens_write {v : Json} (hv : v.Plain) (l : List Char) : Opens ']' (write v ++ l) := by
  obtain ⟨c, l', hl, hc⟩ := head_write hv
  rw [hl]
  rintro d ⟨⟩
  exact hc

theorem opens_writeItems {l : List Json} (hl : PlainItems l) : Opens ']' (writeItems l) := by
  cases l with
  | nil => exact nofun
  | cons v l =>
    rw [writeItems_cons]
    exact opens_write hl.1 _

theorem opens_writeMembers (l : List (String × Json)) : Opens '\x7d' (writeMembers l) := by
  cases l with
  | nil => exact nofun
  | cons p l =>
    rw [writeMembers_cons, writeString]
    rintro d ⟨⟩
    decide

/-- Nothing is skipped in front of a cut text. -/
theorem Blocks.skipSpace_cut (ht : Blocks hook t) {close : Char} {p a : List Char} (hp : p <+: a)
    (ha : Opens close a) : skipSpace (p ++ t) = p ++ t := by
  cases p with
  | nil =>
    obtain ⟨l, rfl⟩ := ht.head
    exact skipSpace_cons (by decide) l
  | cons c p =>
    obtain ⟨q, rfl⟩ := hp
    exact skipSpace_cons (ha c rfl).1 _

theorem Blocks.cut_ne (ht : Blocks hook t) {close : Char} (hclose : close ≠ '\x7b') {p a : List Char}
    (hp : p <+: a) (ha : Opens close a) (l : List Char) : p ++ t ≠ close :: l := by
  intro e
  cases p with
  | nil =>
    obtain ⟨l', rfl⟩ := ht.head
    exact hclose (List.cons.inj e).1.symm
  | cons c p =>
    obtain ⟨q, rfl⟩ := hp
    exact (ha c rfl).2 (List.cons.inj e).1

/-- An array that was cut off is not read, if its items are not. -/
theorem eq_of_readArray (hk : hook.Keeps) (ht : Blocks hook t) {items : List Json}
    (hv : (arr items).Plain)
    (hcut : ∀ p, p <+: writeItems items → ∀ n r, readItems hook n (p ++ t) ≠ some r) {p : List Char}
    (hp : p <+: writeItems items ++ [']']) {n : ℕ} {r : Json × List Char}
    (hr : readValue hook (n + 1) ('[' :: p ++ t) = some r) : r = (arr items, t) := by
  rcases List.prefix_concat_iff.mp hp with rfl | hp
  · exact eq_of_readValue_write hk hv ht.endsNumber hr
  · exfalso
    have hopen := opens_writeItems hv
    rw [List.cons_append, readArray_eq_some, ht.skipSpace_cut hp hopen] at hr
    rcases hr with ⟨l, hl, -⟩ | ⟨-, items', l, hr, -⟩
    · exact ht.cut_ne (by decide) hp hopen l hl
    · exact hcut p hp n _ hr

/-- An object that was cut off is not read, if its members are not. -/
theorem eq_of_readObject (hk : hook.Keeps) (ht : Blocks hook t) {members : List (String × Json)}
    (hv : (obj members).Plain)
    (hcut : ∀ p, p <+: writeMembers members → ∀ n r, readMembers hook n (p ++ t) ≠ some r)
    {p : List Char} (hp : p <+: writeMembers members ++ ['\x7d']) {n : ℕ} {r : Json × List Char}
    (hr : readValue hook (n + 1) ('\x7b' :: p ++ t) = some r) : r = (obj members, t) := by
  rcases List.prefix_concat_iff.mp hp with rfl | hp
  · exact eq_of_readValue_write hk hv ht.endsNumber hr
  · exfalso
    have hopen := opens_writeMembers members
    rw [List.cons_append, readObject_eq_some, ht.skipSpace_cut hp hopen] at hr
    rcases hr with ⟨l, v, hl, -⟩ | ⟨-, members', l, v, hr, -⟩
    · exact ht.cut_ne (by decide) hp hopen l hl
    · exact hcut p hp n _ hr

mutual

/-- **A value that was cut off is not read to a place where anything goes on.** -/
theorem halts_readValue (hk : hook.Keeps) (ht : Blocks hook t) : ∀ (v : Json), v.Plain →
    ∀ (p : List Char), p <+: write v → ∀ n r, readValue hook n (p ++ t) = some r → Halts r.2
  | v, _, [], _, n, r, hr => ht.value n r hr
  | v, _, c :: p, _, 0, r, hr => by
    rw [readValue] at hr
    cases hr
  | null, _, c :: p, hp, n + 1, r, hr => by
    rw [write, List.cons_prefix_cons] at hp
    obtain ⟨rfl, hp⟩ := hp
    obtain ⟨r', hr', rfl⟩ := Option.map_eq_some_iff.mp hr
    rw [eq_of_readWord ht (by decide) hp hr']
    exact ht.halts
  | bool true, _, c :: p, hp, n + 1, r, hr => by
    rw [write, List.cons_prefix_cons] at hp
    obtain ⟨rfl, hp⟩ := hp
    obtain ⟨r', hr', rfl⟩ := Option.map_eq_some_iff.mp hr
    rw [eq_of_readWord ht (by decide) hp hr']
    exact ht.halts
  | bool false, _, c :: p, hp, n + 1, r, hr => by
    rw [write, List.cons_prefix_cons] at hp
    obtain ⟨rfl, hp⟩ := hp
    obtain ⟨r', hr', rfl⟩ := Option.map_eq_some_iff.mp hr
    rw [eq_of_readWord ht (by decide) hp hr']
    exact ht.halts
  | int i, _, c :: p, hp, n + 1, r, hr => by
    rw [write] at hp
    have hc : c = '-' ∨ c.isDigit = true := by
      obtain ⟨d, l, hl, hd⟩ := head_writeInt i
      rw [hl, List.cons_prefix_cons] at hp
      exact hp.1 ▸ hd
    have hne : c ≠ '"' ∧ c ≠ '[' ∧ c ≠ '\x7b' := by
      rcases hc with rfl | hc
      · decide
      · refine ⟨?_, ?_, ?_⟩ <;> (rintro rfl; exact absurd hc (by decide))
    rw [List.cons_append, readValue, if_neg hne.1, if_neg hne.2.1, if_neg hne.2.2] at hr
    exact halts_readScalar_int ht i hp hr
  | str s, _, c :: p, hp, n + 1, r, hr => by
    rw [write, writeString, List.cons_prefix_cons] at hp
    obtain ⟨rfl, hp⟩ := hp
    rw [List.cons_append, readValue, if_pos rfl, Option.map_eq_some_iff] at hr
    obtain ⟨r', hr', rfl⟩ := hr
    obtain ⟨r'', hr'', hr'⟩ := Option.bind_eq_some_iff.mp hr'
    cases hr'
    exact halts_readChars ht s.toList hp hr''
  | arr items, hv, c :: p, hp, n + 1, r, hr => by
    rw [write, List.cons_prefix_cons] at hp
    obtain ⟨rfl, hp⟩ := hp
    rw [eq_of_readArray hk ht hv (readItems_cut hk ht items hv) hp hr]
    exact ht.halts
  | obj members, hv, c :: p, hp, n + 1, r, hr => by
    rw [write, List.cons_prefix_cons] at hp
    obtain ⟨rfl, hp⟩ := hp
    rw [eq_of_readObject hk ht hv (readMembers_cut hk ht members hv.2) hp hr]
    exact ht.halts

theorem readItems_cut (hk : hook.Keeps) (ht : Blocks hook t) : ∀ (l : List Json), PlainItems l →
    ∀ (p : List Char), p <+: writeItems l → ∀ n r, readItems hook n (p ++ t) ≠ some r
  | l, hl, p, hp, 0, r => by
    rw [readItems]
    exact nofun
  | [], hl, p, hp, n + 1, r => by
    intro hr
    rw [List.prefix_nil.mp hp, List.nil_append, readItems_eq_some] at hr
    obtain ⟨v, l₁, hv, ⟨l₂, hr, -⟩ | ⟨l₂, items, l₃, hr, -⟩⟩ := hr
    · exact (ht.value n _ hv).skipSpace_ne (by simp) l₂ hr
    · exact (ht.value n _ hv).skipSpace_ne (by simp) l₂ hr
  | v :: l, hl, p, hp, n + 1, r => by
    intro hr
    obtain ⟨v', l₁, hv, hr⟩ := readItems_eq_some.mp hr
    -- where the value ends, nothing goes on
    have hstop : ¬ Halts l₁ := by
      intro hhalts
      rcases hr with ⟨l₂, hr, -⟩ | ⟨l₂, items, l₃, hr, -⟩
      · exact hhalts.skipSpace_ne (by simp) l₂ hr
      · exact hhalts.skipSpace_ne (by simp) l₂ hr
    rw [writeItems_cons] at hp
    rcases prefix_append_cases hp with hp | ⟨q, hq, rfl⟩
    · exact hstop (halts_readValue hk ht v hl.1 p hp n _ hv)
    · rw [List.append_assoc] at hv
      cases q with
      | nil =>
        cases eq_of_readValue_write hk hl.1 ht.endsNumber hv
        exact hstop ht.halts
      | cons c q =>
        split_ifs at hq with hnil
        · cases List.prefix_nil.mp hq
        · rw [List.cons_prefix_cons] at hq
          obtain ⟨rfl, hq⟩ := hq
          rw [List.cons_append] at hv
          cases eq_of_readValue_write hk hl.1 (endsNumber_cons (by simp) _) hv
          rw [skipSpace_cons (by decide)] at hr
          rcases hr with ⟨l₂, hr, -⟩ | ⟨l₂, items, l₃, hr, hi, -⟩
          · cases hr
          · cases hr
            rw [ht.skipSpace_cut hq (opens_writeItems hl.2)] at hi
            exact readItems_cut hk ht l hl.2 q hq n _ hi

theorem readMembers_cut (hk : hook.Keeps) (ht : Blocks hook t) : ∀ (l : List (String × Json)),
    PlainValues l → ∀ (p : List Char), p <+: writeMembers l → ∀ n r,
    readMembers hook n (p ++ t) ≠ some r
  | l, hl, p, hp, 0, r => by
    rw [readMembers]
    exact nofun
  | l, hl, [], hp, n + 1, r => by
    obtain ⟨l', rfl⟩ := ht.head
    rw [List.nil_append, readMembers_eq_none (by decide)]
    exact nofun
  | [], hl, c :: p, hp, n + 1, r => by
    cases List.prefix_nil.mp hp
  | (k, v) :: l, hl, c :: p, hp, n + 1, r => by
    intro hr
    rw [writeMembers_cons, writeString, List.cons_append, List.cons_prefix_cons] at hp
    obtain ⟨rfl, hp⟩ := hp
    rw [List.cons_append] at hr
    obtain ⟨k', l₁, l₂, v', l₃, hk', hl₁, hv, hr⟩ := readMembers_eq_some.mp hr
    have hstop : ¬ Halts l₃ := by
      intro hhalts
      rcases hr with ⟨l₄, hr, -⟩ | ⟨l₄, members, l₅, hr, -⟩
      · exact hhalts.skipSpace_ne (by simp) l₄ hr
      · exact hhalts.skipSpace_ne (by simp) l₄ hr
    rcases prefix_append_cases hp with hp | ⟨q, hq, rfl⟩
    · -- cut in the key
      obtain ⟨r', hr', hk'⟩ := Option.bind_eq_some_iff.mp hk'
      cases hk'
      exact (halts_readChars ht k.toList hp hr').skipSpace_ne (by simp) l₂ hl₁
    · rw [List.append_assoc, List.append_assoc, List.singleton_append, readString_write] at hk'
      cases hk'
      cases q with
      | nil => exact ht.halts.skipSpace_ne (by simp) l₂ hl₁
      | cons c q =>
        rw [List.cons_prefix_cons] at hq
        obtain ⟨rfl, hq⟩ := hq
        rw [List.cons_append, skipSpace_cons (by decide)] at hl₁
        cases hl₁
        rw [ht.skipSpace_cut hq (opens_write hl.1 _)] at hv
        rcases prefix_append_cases hq with hq | ⟨q', hq', rfl⟩
        · exact hstop (halts_readValue hk ht v hl.1 q hq n _ hv)
        · rw [List.append_assoc] at hv
          cases q' with
          | nil =>
            cases eq_of_readValue_write hk hl.1 ht.endsNumber hv
            exact hstop ht.halts
          | cons c q' =>
            split_ifs at hq' with hnil
            · cases List.prefix_nil.mp hq'
            · rw [List.cons_prefix_cons] at hq'
              obtain ⟨rfl, hq'⟩ := hq'
              rw [List.cons_append] at hv
              cases eq_of_readValue_write hk hl.1 (endsNumber_cons (by simp) _) hv
              rw [skipSpace_cons (by decide)] at hr
              rcases hr with ⟨l₄, hr, -⟩ | ⟨l₄, members, l₅, hr, hm, -⟩
              · cases hr
              · cases hr
                rw [ht.skipSpace_cut hq' (opens_writeMembers l)] at hm
                exact readMembers_cut hk ht l hl.2 q' hq' n _ hm

end

/-! ## Texts that are built up from cut texts -/

/-- **An object in front of such a text**, cut off or complete, is read only if it is complete, and
then the text behind it is left. -/
theorem readObject_cut (hk : hook.Keeps) (ht : Blocks hook t) {members : List (String × Json)}
    (hv : (obj members).Plain) {p : List Char} (hp : p <+: write (obj members)) (hne : p ≠ [])
    {n : ℕ} {r : Json × List Char} (hr : readValue hook n (p ++ t) = some r) :
    r = (obj members, t) := by
  cases p with
  | nil => exact absurd rfl hne
  | cons c p =>
    rw [write, List.cons_prefix_cons] at hp
    obtain ⟨rfl, hp⟩ := hp
    cases n with
    | zero =>
      rw [readValue] at hr
      cases hr
    | succ n => exact eq_of_readObject hk ht hv (readMembers_cut hk ht members hv.2) hp hr

/-- **Such an object does not load.** -/
theorem loadsWith_cut (hk : hook.Keeps) (ht : Blocks hook t) {members : List (String × Json)}
    (hv : (obj members).Plain) {p : List Char} (hp : p <+: write (obj members)) (hne : p ≠ []) :
    loadsWith hook (String.ofList (p ++ t)) = none := by
  by_contra h
  obtain ⟨v, h⟩ := Option.ne_none_iff_exists'.mp h
  rw [loadsWith, String.toList_ofList] at h
  obtain ⟨r, hr, h⟩ := Option.bind_eq_some_iff.mp h
  have hskip : skipSpace (p ++ t) = p ++ t := by
    have hopen : Opens ']' (write (obj members)) := by
      rw [write]
      rintro c ⟨⟩
      decide
    exact ht.skipSpace_cut hp hopen
  rw [hskip] at hr
  cases readObject_cut hk ht hv hp hne hr
  obtain ⟨l, hl⟩ := ht.head
  dsimp only at h
  rw [hl, skipSpace_cons (by decide)] at h
  cases h

/-- The text of an object whose first key does not start like a place where a reader goes on. -/
def KeyedText (l : List Char) : Prop := ∃ key, l = '\x7b' :: '"' :: key ∧ Halts key

/-- An object with keys that start with small letters. -/
theorem keyedText_of_keys {members : List (String × Json)} (hne : members ≠ [])
    (hkeys : ∀ k ∈ members.map Prod.fst, ∃ c l, k.toList = c :: l ∧ c.isLower = true) :
    KeyedText (write (obj members)) := by
  cases members with
  | nil => exact absurd rfl hne
  | cons p members =>
    obtain ⟨c, l, hl, hc⟩ := hkeys p.1 (List.mem_cons_self ..)
    have hc := (Bool.and_eq_true ..).mp hc
    rw [decide_eq_true_eq, decide_eq_true_eq] at hc
    have h1 : 97 ≤ c.toNat := hc.1
    have h2 : c.toNat ≤ 122 := hc.2
    have hother : ∀ w : Char, ¬ (97 ≤ w.toNat ∧ w.toNat ≤ 122) → c ≠ w := by
      rintro w hw rfl
      exact hw ⟨h1, h2⟩
    have hescape : escapeChar c = [c] := by
      have h3 : ¬ c.toNat < 0x20 := by omega
      simp [escapeChar, h3, hother '"' (by decide), hother '\\' (by decide), hother '\n' (by decide),
        hother '\r' (by decide), hother '\t' (by decide), hother '\x0c' (by decide),
        hother '\x08' (by decide)]
    rw [write, writeMembers_cons, writeString, hl, List.flatMap_cons, hescape]
    refine ⟨_, rfl, halts_cons ⟨?_, ?_, ?_, ?_, ?_⟩ _⟩
    · simp [isJsonSpace, hother ' ' (by decide), hother '\t' (by decide), hother '\n' (by decide),
        hother '\r' (by decide)]
    · exact hother _ (by decide)
    · exact hother _ (by decide)
    · exact hother _ (by decide)
    · exact hother _ (by decide)

/-- What is read inside a string from `\x7b"` on. -/
theorem eq_of_readChars_keyed {key : List Char} {n : ℕ} {r : List Char × List Char}
    (hr : readChars n ('\x7b' :: '"' :: key) = some r) : r.2 = key := by
  match n with
  | 0 =>
    rw [readChars] at hr
    cases hr
  | 1 => cases hr
  | n + 2 =>
    cases hr
    rfl

/-- The text of an object blocks a reader. -/
theorem blocks_write (hk : hook.Keeps) {members : List (String × Json)} (hv : (obj members).Plain)
    (hkey : KeyedText (write (obj members))) : Blocks hook (write (obj members)) where
  head := ⟨_, rfl⟩
  string n r hr := by
    obtain ⟨key, hl, hkey⟩ := hkey
    rw [hl] at hr
    rwa [eq_of_readChars_keyed hr]
  value n r hr := by
    rw [← List.append_nil (write _)] at hr
    cases eq_of_readValue_write hk hv (by rintro c ⟨⟩) hr
    rintro c ⟨⟩

/-- **A cut text in front of one that blocks a reader blocks it too.** -/
theorem blocks_append (hk : hook.Keeps) (ht : Blocks hook t) {members : List (String × Json)}
    (hv : (obj members).Plain) (hkey : KeyedText (write (obj members))) {p : List Char}
    (hp : p <+: write (obj members)) (hne : p ≠ []) : Blocks hook (p ++ t) := by
  obtain ⟨key, hl, hkey⟩ := hkey
  obtain ⟨q, rfl, hq⟩ : ∃ q, p = '\x7b' :: q ∧ q <+: '"' :: key := by
    rw [hl, List.prefix_cons_iff] at hp
    exact hp.resolve_left hne
  refine ⟨⟨_, rfl⟩, ?_, fun n r => halts_readValue hk ht _ hv _ hp n r⟩
  intro n r hr
  rcases List.prefix_cons_iff.mp hq with rfl | ⟨q', rfl, hq'⟩
  · cases n with
    | zero =>
      rw [readChars] at hr
      cases hr
    | succ n =>
      obtain ⟨r', hr', hp⟩ := Option.bind_eq_some_iff.mp hr
      cases hp
      exact ht.string n r' hr'
  · rw [List.cons_append, List.cons_append] at hr
    rw [eq_of_readChars_keyed hr]
    cases q' with
    | nil => exact ht.halts
    | cons c q' =>
      obtain ⟨q'', rfl⟩ := hq'
      exact halts_cons (hkey c rfl) _

end Cut

end WeatherBot.Common.Json
