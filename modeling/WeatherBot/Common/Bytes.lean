import Mathlib.Tactic

/-!
# Bytes of a text file

* `encodeUtf8`, `decodeUtf8`: strict UTF-8. `exists_of_encodeUtf8_eq`: an ASCII
  byte of an encoded text is a character of its own, so what stands before it is
  the encoding of a text.
* `splitLines`: `bytes.splitlines(keepends=True)`. `splitLines_append`: **a text
  without line ends and a line feed are one line**, whatever follows.
* `rstripEnds`: `line.rstrip(b"\r\n")`.
-/

namespace WeatherBot.Common

/-! ## UTF-8 -/

/-- `text.encode("utf-8")`. -/
def encodeUtf8 (l : List Char) : List UInt8 := l.flatMap String.utf8EncodeChar

/-- `raw.decode("utf-8", errors="strict")`; `none` is a `UnicodeDecodeError`. -/
def decodeUtf8 (raw : List UInt8) : Option (List Char) :=
  raw.toByteArray.utf8Decode?.map Array.toList

@[simp] theorem encodeUtf8_nil : encodeUtf8 [] = [] := rfl

@[simp] theorem encodeUtf8_append (l m : List Char) :
    encodeUtf8 (l ++ m) = encodeUtf8 l ++ encodeUtf8 m := List.flatMap_append

theorem encodeUtf8_cons (c : Char) (l : List Char) :
    encodeUtf8 (c :: l) = String.utf8EncodeChar c ++ encodeUtf8 l := List.flatMap_cons

@[simp] theorem decodeUtf8_encodeUtf8 (l : List Char) : decodeUtf8 (encodeUtf8 l) = some l := by
  have h : (encodeUtf8 l).toByteArray.utf8Decode? = some l.toArray := List.utf8Decode?_utf8Encode
  rw [decodeUtf8, h]
  rfl

/-- What is decoded is an encoding. -/
theorem eq_encodeUtf8 {raw : List UInt8} {l : List Char} (h : decodeUtf8 raw = some l) :
    raw = encodeUtf8 l := by
  rw [decodeUtf8, Option.map_eq_some_iff] at h
  obtain ⟨a, ha, rfl⟩ := h
  have hsome : raw.toByteArray.utf8Decode?.isSome = true := by rw [ha]; rfl
  have hget := ByteArray.utf8Encode_get_utf8Decode? (h := hsome)
  simp only [ha, Option.get_some] at hget
  exact (List.toByteArray_inj.mp hget).symm

/-- A text whose encoding starts another encoding starts the other text. -/
theorem prefix_of_encodeUtf8_append {l m : List Char} {raw : List UInt8}
    (h : encodeUtf8 l ++ raw = encodeUtf8 m) : l <+: m := by
  apply List.isPrefix_of_utf8Encode_append_eq_utf8Encode raw.toByteArray
  have := congrArg List.toByteArray h
  rwa [List.toByteArray_append] at this

theorem encodeUtf8_inj {l m : List Char} (h : encodeUtf8 l = encodeUtf8 m) : l = m := by
  have := congrArg decodeUtf8 h
  rwa [decodeUtf8_encodeUtf8, decodeUtf8_encodeUtf8, Option.some.injEq] at this

/-- An ASCII character is one byte; every byte of another character is larger. -/
theorem utf8EncodeChar_cases (c : Char) :
    String.utf8EncodeChar c = [UInt8.ofNat c.toNat] ∧ c.toNat < 128 ∨
      ∀ b ∈ String.utf8EncodeChar c, 128 ≤ b.toNat := by
  unfold String.utf8EncodeChar
  show (if c.toNat ≤ 127 then _ else _) = _ ∧ _ ∨ _
  by_cases h : c.toNat ≤ 127
  · left
    rw [if_pos h]
    exact ⟨rfl, by omega⟩
  · right
    dsimp only
    have hval : ¬ c.val.toNat ≤ 127 := h
    rw [if_neg hval]
    split_ifs <;> simp only [List.mem_cons, List.not_mem_nil, or_false, forall_eq_or_imp, forall_eq,
      UInt8.toNat_ofNat'] <;> omega

theorem encodeUtf8_ascii {c : Char} (h : c.toNat < 128) (l : List Char) :
    encodeUtf8 (c :: l) = UInt8.ofNat c.toNat :: encodeUtf8 l := by
  rw [encodeUtf8_cons]
  rcases utf8EncodeChar_cases c with ⟨hc, -⟩ | hc
  · rw [hc, List.singleton_append]
  · exfalso
    have hone : String.utf8EncodeChar c = [UInt8.ofNat c.val.toNat] := by
      unfold String.utf8EncodeChar
      have : c.val.toNat ≤ 127 := Nat.le_of_lt_succ h
      rw [if_pos this]
    have := hc (UInt8.ofNat c.val.toNat) (by rw [hone]; exact List.mem_singleton_self _)
    rw [UInt8.toNat_ofNat'] at this
    have hval : c.val.toNat < 128 := h
    omega

/-- **An ASCII byte of an encoded text is a character of its own.** -/
theorem exists_of_encodeUtf8_eq {s : List Char} {p rest : List UInt8} {c : Char}
    (hc : c.toNat < 128) (h : encodeUtf8 s = p ++ UInt8.ofNat c.toNat :: rest) :
    ∃ s₁ s₂, s = s₁ ++ c :: s₂ ∧ p = encodeUtf8 s₁ ∧ rest = encodeUtf8 s₂ := by
  induction s generalizing p with
  | nil => simp at h
  | cons d s ih =>
    rw [encodeUtf8_cons, List.append_eq_append_iff] at h
    rcases h with ⟨q, rfl, hq⟩ | ⟨q, hd, hq⟩
    · obtain ⟨s₁, s₂, rfl, rfl, hrest⟩ := ih hq
      exact ⟨d :: s₁, s₂, rfl, (encodeUtf8_cons d s₁).symm, hrest⟩
    · cases q with
      | nil =>
        rw [List.append_nil] at hd
        obtain ⟨s₁, s₂, rfl, hnil, hrest⟩ := ih (p := []) hq.symm
        refine ⟨d :: s₁, s₂, rfl, ?_, hrest⟩
        rw [encodeUtf8_cons, ← hnil, hd, List.append_nil]
      | cons b q =>
        obtain ⟨rfl, hq⟩ := List.cons.inj hq
        have hmem : UInt8.ofNat c.toNat ∈ String.utf8EncodeChar d := by
          rw [hd]
          exact List.mem_append_right p (List.mem_cons_self ..)
        have hbyte : (UInt8.ofNat c.toNat).toNat = c.toNat := by
          rw [UInt8.toNat_ofNat']
          exact Nat.mod_eq_of_lt (by omega)
        rcases utf8EncodeChar_cases d with ⟨henc, hd'⟩ | henc
        · rw [henc, List.singleton_eq_append_iff] at hd
          rcases hd with ⟨rfl, hd⟩ | ⟨-, hd⟩
          · obtain ⟨hb, rfl⟩ := List.cons.inj hd
            have hcd : c = d := by
              apply Char.toNat_inj.mp
              have := congrArg UInt8.toNat hb
              rw [UInt8.toNat_ofNat', UInt8.toNat_ofNat'] at this
              omega
            subst hcd
            exact ⟨[], s, rfl, rfl, (List.cons.inj hq).2⟩
          · cases hd
        · have := henc _ hmem
          omega

/-- An ASCII character that a text does not have is not a byte of its encoding. -/
theorem not_mem_encodeUtf8 {l : List Char} {c : Char} (hc : c.toNat < 128) (h : c ∉ l) :
    UInt8.ofNat c.toNat ∉ encodeUtf8 l := by
  intro hmem
  obtain ⟨p, rest, heq⟩ := List.append_of_mem hmem
  obtain ⟨s₁, s₂, rfl, -⟩ := exists_of_encodeUtf8_eq hc heq
  exact h (List.mem_append_right s₁ (List.mem_cons_self ..))

/-! ## Lines -/

/-- The bytes `\n` and `\r`. -/
def lineFeed : UInt8 := 10

def carriageReturn : UInt8 := 13

/-- `bytes.splitlines(keepends=True)`. -/
def splitLines : List UInt8 → List (List UInt8)
  | [] => []
  | 13 :: 10 :: l => [13, 10] :: splitLines l
  | b :: l =>
    if b = lineFeed ∨ b = carriageReturn then [b] :: splitLines l
    else
      match splitLines l with
      | [] => [[b]]
      | line :: lines => (b :: line) :: lines

/-- `line.endswith((b"\n", b"\r"))`. -/
def endsLine (line : List UInt8) : Bool :=
  match line.getLast? with
  | some b => b = lineFeed || b = carriageReturn
  | none => false

/-- `line.rstrip(b"\r\n")`. -/
def rstripEnds (line : List UInt8) : List UInt8 :=
  (line.reverse.dropWhile fun b => b = lineFeed || b = carriageReturn).reverse

/-- A text without a line end. -/
def OneLine (l : List UInt8) : Prop := lineFeed ∉ l ∧ carriageReturn ∉ l

theorem OneLine.append {l m : List UInt8} (hl : OneLine l) (hm : OneLine m) : OneLine (l ++ m) := by
  constructor <;> rw [List.mem_append, not_or]
  · exact ⟨hl.1, hm.1⟩
  · exact ⟨hl.2, hm.2⟩

theorem OneLine.of_isPrefix {l m : List UInt8} (hm : OneLine m) (h : l <+: m) : OneLine l :=
  ⟨fun hl => hm.1 (h.subset hl), fun hl => hm.2 (h.subset hl)⟩

theorem splitLines_cons {b : UInt8} (hb : OneLine [b]) (l : List UInt8) :
    splitLines (b :: l) = match splitLines l with
      | [] => [[b]]
      | line :: lines => (b :: line) :: lines := by
  have h1 : b ≠ lineFeed := fun e => hb.1 (e ▸ List.mem_singleton_self _)
  have h2 : b ≠ carriageReturn := fun e => hb.2 (e ▸ List.mem_singleton_self _)
  rw [splitLines, if_neg (not_or.mpr ⟨h1, h2⟩)]
  rintro l' rfl -
  exact h2 rfl

/-- **A text without line ends and a line feed are one line.** -/
theorem splitLines_append {line : List UInt8} (h : OneLine line) (rest : List UInt8) :
    splitLines (line ++ lineFeed :: rest) = (line ++ [lineFeed]) :: splitLines rest := by
  induction line with
  | nil =>
    show splitLines (lineFeed :: rest) = [lineFeed] :: splitLines rest
    rw [splitLines, if_pos (.inl rfl)]
    intro l' hl'
    cases hl'
  | cons b line ih =>
    have hb : OneLine [b] := h.of_isPrefix ⟨line, rfl⟩
    have hline : OneLine line :=
      ⟨fun hm => h.1 (List.mem_cons_of_mem b hm), fun hm => h.2 (List.mem_cons_of_mem b hm)⟩
    rw [List.cons_append, splitLines_cons hb, ih hline]
    rfl

/-- A text without line ends is at most one line. -/
theorem splitLines_oneLine {line : List UInt8} (h : OneLine line) (hne : line ≠ []) :
    splitLines line = [line] := by
  induction line with
  | nil => exact absurd rfl hne
  | cons b line ih =>
    have hb : OneLine [b] := h.of_isPrefix ⟨line, rfl⟩
    have hline : OneLine line :=
      ⟨fun hm => h.1 (List.mem_cons_of_mem b hm), fun hm => h.2 (List.mem_cons_of_mem b hm)⟩
    rw [splitLines_cons hb]
    cases line with
    | nil => rfl
    | cons c line => rw [ih hline (List.cons_ne_nil _ _)]

theorem endsLine_append (line : List UInt8) : endsLine (line ++ [lineFeed]) = true := by
  simp [endsLine]

theorem endsLine_oneLine {line : List UInt8} (h : OneLine line) : endsLine line = false := by
  unfold endsLine
  cases hb : line.getLast? with
  | none => rfl
  | some b =>
    have hmem : b ∈ line := List.mem_of_getLast? hb
    have h1 : b ≠ lineFeed := fun e => h.1 (e ▸ hmem)
    have h2 : b ≠ carriageReturn := fun e => h.2 (e ▸ hmem)
    simp [h1, h2]

/-- The line feed is what is stripped. -/
theorem rstripEnds_append {line : List UInt8} (h : OneLine line) :
    rstripEnds (line ++ [lineFeed]) = line := by
  have hdrop : line.reverse.dropWhile (fun b => b = lineFeed || b = carriageReturn) = line.reverse := by
    cases hr : line.reverse with
    | nil => rfl
    | cons b l =>
      have hmem : b ∈ line := by
        rw [← List.mem_reverse, hr]
        exact List.mem_cons_self ..
      have h1 : b ≠ lineFeed := fun e => h.1 (e ▸ hmem)
      have h2 : b ≠ carriageReturn := fun e => h.2 (e ▸ hmem)
      rw [List.dropWhile_cons_of_neg]
      simp [h1, h2]
  rw [rstripEnds, List.reverse_append, List.reverse_singleton, List.singleton_append,
    List.dropWhile_cons_of_pos (by decide), hdrop, List.reverse_reverse]

end WeatherBot.Common
