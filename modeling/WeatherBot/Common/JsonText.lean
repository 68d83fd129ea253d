import WeatherBot.Common.Dict
import WeatherBot.Common.Json
import WeatherBot.Common.Text
import WeatherBot.Common.Decimal

/-!
# JSON texts

`json.dumps` with `ensure_ascii=False`, sorted keys and no white space, and
`json.loads`, whose hook decides what a repeated key means. A lone surrogate is
not a character, so an escape that denotes one is not read.

* `dumps`, `loadsWith`: writing and reading. `loads` refuses repeated keys.
* `readValue_write`: what is written is read back, before any text that cannot
  continue a number.
* `loadsWith_dumps`: **a value with distinct keys and no float is read back with
  its keys sorted.**
-/

namespace WeatherBot.Common

namespace Json

/-! ## Writing -/

/-- A hexadecimal digit, in lower case. -/
def hexChar (n : ℕ) : Char := Nat.digitChar (n % 16)

/-- One character inside a JSON string. -/
def escapeChar (c : Char) : List Char :=
  if c = '"' then ['\\', '"']
  else if c = '\\' then ['\\', '\\']
  else if c = '\n' then ['\\', 'n']
  else if c = '\r' then ['\\', 'r']
  else if c = '\t' then ['\\', 't']
  else if c = '\x0c' then ['\\', 'f']
  else if c = '\x08' then ['\\', 'b']
  else if c.toNat < 0x20 then ['\\', 'u', '0', '0', hexChar (c.toNat / 16), hexChar c.toNat]
  else [c]

/-- A JSON string. -/
def writeString (s : String) : List Char := '"' :: (s.toList.flatMap escapeChar ++ ['"'])

/-- `int.__repr__`. -/
def writeInt (n : ℤ) : List Char :=
  (if n < 0 then ['-'] else []) ++ Nat.toDigits 10 n.natAbs

mutual

/-- A value without white space. -/
def write : Json → List Char
  | null => ['n', 'u', 'l', 'l']
  | bool true => ['t', 'r', 'u', 'e']
  | bool false => ['f', 'a', 'l', 's', 'e']
  | int n => writeInt n
  | float t => t.toList
  | str s => writeString s
  | arr items => '[' :: (writeItems items ++ [']'])
  | obj members => '\x7b' :: (writeMembers members ++ ['\x7d'])

/-- Values with commas between them. -/
def writeItems : List Json → List Char
  | [] => []
  | [v] => write v
  | v :: w :: l => write v ++ ',' :: writeItems (w :: l)

/-- Members with commas between them. -/
def writeMembers : List (String × Json) → List Char
  | [] => []
  | [(k, v)] => writeString k ++ ':' :: write v
  | (k, v) :: p :: l => writeString k ++ ':' :: (write v ++ ',' :: writeMembers (p :: l))

end

/-- `json.dumps(value, ensure_ascii=False, sort_keys=True, separators=(",", ":"))`. -/
def dumps (v : Json) : String := String.ofList v.sortKeys.write

/-! ## Reading -/

/-- JSON's white space. -/
def isJsonSpace (c : Char) : Bool := c = ' ' || c = '\t' || c = '\n' || c = '\r'

def skipSpace (l : List Char) : List Char := l.dropWhile isJsonSpace

/-- The value of a hexadecimal digit in either case. -/
def hexValue (c : Char) : Option ℕ :=
  if c.isDigit then some (c.toNat - '0'.toNat)
  else if 'a' ≤ c ∧ c ≤ 'f' then some (c.toNat - 'a'.toNat + 10)
  else if 'A' ≤ c ∧ c ≤ 'F' then some (c.toNat - 'A'.toNat + 10)
  else none

/-- Four hexadecimal digits. -/
def readHex : List Char → Option (ℕ × List Char)
  | a :: b :: c :: d :: l => do
    let a ← hexValue a
    let b ← hexValue b
    let c ← hexValue c
    let d ← hexValue d
    return (((a * 16 + b) * 16 + c) * 16 + d, l)
  | _ => none

/-- The character of a code point that is not a surrogate. -/
def scalar (n : ℕ) : Option Char := if h : n.isValidChar then some (Char.ofNatAux n h) else none

/-- The second half of a surrogate pair. -/
def readLowSurrogate (high : ℕ) : List Char → Option (Char × List Char)
  | '\\' :: 'u' :: l => do
    let (low, l) ← readHex l
    if 0xdc00 ≤ low ∧ low ≤ 0xdfff then
      let c ← scalar (0x10000 + (high - 0xd800) * 0x400 + (low - 0xdc00))
      return (c, l)
    else none
  | _ => none

/-- What follows a backslash. -/
def readEscape : List Char → Option (Char × List Char)
  | [] => none
  | c :: l =>
    if c = '"' then some ('"', l)
    else if c = '\\' then some ('\\', l)
    else if c = '/' then some ('/', l)
    else if c = 'n' then some ('\n', l)
    else if c = 'r' then some ('\r', l)
    else if c = 't' then some ('\t', l)
    else if c = 'f' then some ('\x0c', l)
    else if c = 'b' then some ('\x08', l)
    else if c = 'u' then do
      let (n, l) ← readHex l
      if 0xd800 ≤ n ∧ n ≤ 0xdbff then readLowSurrogate n l
      else
        let c ← scalar n
        return (c, l)
    else none

/-- The characters of a string up to its closing quote. A control character must be escaped. -/
def readChars : ℕ → List Char → Option (List Char × List Char)
  | 0, _ => none
  | _, [] => none
  | n + 1, c :: l =>
    if c = '"' then some ([], l)
    else if c = '\\' then do
      let (e, l) ← readEscape l
      let (s, l) ← readChars n l
      return (e :: s, l)
    else if c.toNat < 0x20 then none
    else do
      let (s, l) ← readChars n l
      return (c :: s, l)

/-- A string after its opening quote. -/
def readString (l : List Char) : Option (String × List Char) := do
  let (s, l) ← readChars (l.length + 1) l
  return (String.ofList s, l)

/-- One or more digits, without a leading zero. -/
def readNatural (l : List Char) : Option (List Char × List Char) :=
  match l with
  | [] => none
  | c :: l =>
    if c = '0' then some (['0'], l)
    else if c.isDigit then some (c :: l.takeWhile Char.isDigit, l.dropWhile Char.isDigit)
    else none

/-- A point and digits, or nothing. -/
def readFraction : List Char → List Char × List Char
  | '.' :: l =>
    match l.takeWhile Char.isDigit with
    | [] => ([], '.' :: l)
    | digits => ('.' :: digits, l.dropWhile Char.isDigit)
  | l => ([], l)

/-- An exponent's sign, or nothing. -/
def readExponentSign : List Char → List Char × List Char
  | '+' :: l => (['+'], l)
  | '-' :: l => (['-'], l)
  | l => ([], l)

/-- An exponent, or nothing. -/
def readExponent : List Char → List Char × List Char
  | [] => ([], [])
  | c :: l =>
    if c = 'e' ∨ c = 'E' then
      let (sign, rest) := readExponentSign l
      match rest.takeWhile Char.isDigit with
      | [] => ([], c :: l)
      | digits => (c :: sign ++ digits, rest.dropWhile Char.isDigit)
    else ([], c :: l)

/-- A number without its sign: an integer if it has no fraction and no exponent. -/
def readUnsigned (neg : Bool) (l : List Char) : Option (Json × List Char) := do
  let (digits, l) ← readNatural l
  let (fraction, l) := readFraction l
  let (exponent, l) := readExponent l
  if fraction = [] ∧ exponent = [] then
    let n : ℕ := Nat.ofDigitChars 10 digits 0
    return (int (if neg then -n else n), l)
  else return (float (String.ofList ((if neg then ['-'] else []) ++ digits ++ fraction ++ exponent)), l)

/-- The rest of a text that starts with `word`. -/
def readWord (word : List Char) (l : List Char) : Option (List Char) :=
  if l.take word.length = word then some (l.drop word.length) else none

/-- A literal or a number. -/
def readScalar (l : List Char) : Option (Json × List Char) :=
  match l with
  | [] => none
  | c :: rest =>
    if c = 'n' then (readWord ['u', 'l', 'l'] rest).map (null, ·)
    else if c = 't' then (readWord ['r', 'u', 'e'] rest).map (bool true, ·)
    else if c = 'f' then (readWord ['a', 'l', 's', 'e'] rest).map (bool false, ·)
    else if c = 'N' then (readWord ['a', 'N'] rest).map (float "NaN", ·)
    else if c = 'I' then (readWord "nfinity".toList rest).map (float "Infinity", ·)
    else if c = '-' then
      match readWord "Infinity".toList rest with
      | some l => some (float "-Infinity", l)
      | none => readUnsigned true rest
    else readUnsigned false (c :: rest)

/-- What is done with the members of an object: `object_pairs_hook`. -/
def ObjectHook := List (String × Json) → Option Json

/-- The hook that refuses a repeated key. -/
def uniqueKeys : ObjectHook := fun members =>
  if (members.map Prod.fst).Nodup then some (obj members) else none

/-- `dict(members)`, what is done without a hook: the last value of a key stays. -/
def lastValues : ObjectHook := fun members =>
  some (obj (members.foldl (fun d p => Dict.assocSet d p.1 p.2) []))

mutual

/-- A value at the start of a text. -/
def readValue (hook : ObjectHook) : ℕ → List Char → Option (Json × List Char)
  | 0, _ => none
  | _, [] => none
  | n + 1, c :: l =>
    if c = '"' then (readString l).map fun p => (str p.1, p.2)
    else if c = '[' then
      match skipSpace l with
      | ']' :: l => some (arr [], l)
      | l => (readItems hook n l).map fun p => (arr p.1, p.2)
    else if c = '\x7b' then
      match skipSpace l with
      | '\x7d' :: l => (hook []).map fun v => (v, l)
      | l => do
        let (members, l) ← readMembers hook n l
        let v ← hook members
        return (v, l)
    else readScalar (c :: l)

/-- The items of an array up to its closing bracket. -/
def readItems (hook : ObjectHook) : ℕ → List Char → Option (List Json × List Char)
  | 0, _ => none
  | n + 1, l => do
    let (v, l) ← readValue hook n l
    match skipSpace l with
    | ']' :: l => some ([v], l)
    | ',' :: l => do
      let (items, l) ← readItems hook n (skipSpace l)
      return (v :: items, l)
    | _ => none

/-- The members of an object up to its closing brace. -/
def readMembers (hook : ObjectHook) : ℕ → List Char → Option (List (String × Json) × List Char)
  | 0, _ => none
  | n + 1, '"' :: l => do
    let (k, l) ← readString l
    match skipSpace l with
    | ':' :: l => do
      let (v, l) ← readValue hook n (skipSpace l)
      match skipSpace l with
      | '\x7d' :: l => some ([(k, v)], l)
      | ',' :: l => do
        let (members, l) ← readMembers hook n (skipSpace l)
        return ((k, v) :: members, l)
      | _ => none
    | _ => none
  | _, _ => none

end

/-- `json.loads` with a hook. -/
def loadsWith (hook : ObjectHook) (s : String) : Option Json := do
  let l := skipSpace s.toList
  let (v, l) ← readValue hook (l.length + 1) l
  if skipSpace l = [] then some v else none

/-- `json.loads` with a hook that refuses repeated keys. -/
def loads (s : String) : Option Json := loadsWith uniqueKeys s

/-! ## Reading a string back -/

theorem hexValue_digitChar : ∀ n < 16, hexValue (Nat.digitChar n) = some n := by decide

theorem scalar_toNat (c : Char) : scalar c.toNat = some c := by
  have h : c.toNat.isValidChar := c.valid
  rw [scalar, dif_pos h]
  congr 1

/-- The escape of a control character is read back. -/
theorem readEscape_control {c : Char} (hc : c.toNat < 0x20) (l : List Char) :
    readEscape (['u', '0', '0', hexChar (c.toNat / 16), hexChar c.toNat] ++ l) = some (c, l) := by
  have hz : hexValue '0' = some 0 := by decide
  have h1 : hexValue (hexChar (c.toNat / 16)) = some (c.toNat / 16 % 16) :=
    hexValue_digitChar _ (Nat.mod_lt _ (by decide))
  have h2 : hexValue (hexChar c.toNat) = some (c.toNat % 16) :=
    hexValue_digitChar _ (Nat.mod_lt _ (by decide))
  have hval : ((0 * 16 + 0) * 16 + c.toNat / 16 % 16) * 16 + c.toNat % 16 = c.toNat := by omega
  have hhex : readHex ('0' :: '0' :: hexChar (c.toNat / 16) :: hexChar c.toNat :: l) =
      some (c.toNat, l) := by
    rw [readHex, hz, h1, h2]
    simp only [Option.bind_eq_bind, Option.bind_some, hval]
    rfl
  have hlow : ¬ (0xd800 ≤ c.toNat ∧ c.toNat ≤ 0xdbff) := by omega
  simp [readEscape, hhex, hlow, scalar_toNat]

/-- One written character is read back. -/
theorem readChars_escapeChar (c : Char) (n : ℕ) (l : List Char) :
    readChars (n + 1) (escapeChar c ++ l) = (readChars n l).map fun p => (c :: p.1, p.2) := by
  unfold escapeChar
  split_ifs with h1 h2 h3 h4 h5 h6 h7 h8
  · subst h1; cases h : readChars n l <;> simp [readChars, readEscape, h]
  · subst h2; cases h : readChars n l <;> simp [readChars, readEscape, h]
  · subst h3; cases h : readChars n l <;> simp [readChars, readEscape, h]
  · subst h4; cases h : readChars n l <;> simp [readChars, readEscape, h]
  · subst h5; cases h : readChars n l <;> simp [readChars, readEscape, h]
  · subst h6; cases h : readChars n l <;> simp [readChars, readEscape, h]
  · subst h7; cases h : readChars n l <;> simp [readChars, readEscape, h]
  · have he := readEscape_control h8 l
    show readChars (n + 1) ('\\' :: (['u', '0', '0', hexChar (c.toNat / 16), hexChar c.toNat] ++ l)) = _
    rw [readChars, if_neg (by decide), if_pos rfl, he]
    cases h : readChars n l <;> simp [h]
  · show readChars (n + 1) (c :: l) = _
    rw [readChars, if_neg h1, if_neg h2, if_neg h8]
    cases readChars n l <;> simp

theorem readChars_write (s : List Char) (n : ℕ) (rest : List Char) (hn : s.length < n) :
    readChars n (s.flatMap escapeChar ++ '"' :: rest) = some (s, rest) := by
  induction s generalizing n with
  | nil =>
    obtain ⟨n, rfl⟩ := Nat.exists_eq_succ_of_ne_zero (Nat.ne_of_gt hn)
    rfl
  | cons c s ih =>
    obtain ⟨n, rfl⟩ := Nat.exists_eq_succ_of_ne_zero (Nat.ne_of_gt (Nat.zero_lt_of_lt hn))
    rw [List.flatMap_cons, List.append_assoc, readChars_escapeChar,
      ih n (Nat.lt_of_succ_lt_succ hn)]
    rfl

theorem escapeChar_ne_nil (c : Char) : escapeChar c ≠ [] := by
  unfold escapeChar
  split_ifs <;> exact List.cons_ne_nil _ _

theorem length_le_flatMap_escapeChar (s : List Char) : s.length ≤ (s.flatMap escapeChar).length := by
  induction s with
  | nil => exact le_rfl
  | cons c s ih =>
    have := List.length_pos_iff.mpr (escapeChar_ne_nil c)
    rw [List.flatMap_cons, List.length_append, List.length_cons]
    omega

/-- A written string is read back. -/
theorem readString_write (s : String) (rest : List Char) :
    readString (s.toList.flatMap escapeChar ++ '"' :: rest) = some (s, rest) := by
  have hlen := length_le_flatMap_escapeChar s.toList
  rw [readString, readChars_write s.toList _ rest (by rw [List.length_append]; omega)]
  simp

/-! ## Reading a number back -/

/-- A text that cannot continue a number. -/
def EndsNumber (rest : List Char) : Prop :=
  ∀ c, rest.head? = some c → c.isDigit = false ∧ c ≠ '.' ∧ c ≠ 'e' ∧ c ≠ 'E'

/-- The digits of a number that is not zero do not start with a zero. -/
theorem head_toDigits (n : ℕ) (hn : n ≠ 0) : ∃ c l, Nat.toDigits 10 n = c :: l ∧ c ≠ '0' := by
  induction n using Nat.strongRecOn with
  | ind n ih =>
    by_cases h : n < 10
    · refine ⟨_, [], Nat.toDigits_of_lt_base h, ?_⟩
      interval_cases n <;> first | exact absurd rfl hn | decide
    · obtain ⟨c, l, hl, hc⟩ := ih (n / 10) (by omega) (by omega)
      rw [Nat.toDigits_of_base_le (by norm_num) (not_lt.mp h), hl]
      exact ⟨c, _, rfl, hc⟩

theorem readNatural_toDigits (n : ℕ) {rest : List Char} (hrest : EndsNumber rest) :
    readNatural (Nat.toDigits 10 n ++ rest) = some (Nat.toDigits 10 n, rest) := by
  by_cases hn : n = 0
  · subst hn
    rfl
  · obtain ⟨c, l, hl, hc⟩ := head_toDigits n hn
    have hdigit : ∀ d ∈ c :: l, d.isDigit = true := hl ▸ Decimal.isDigit_toDigits n
    have hcut := takeWhile_append_of_all rest
      (fun d hd => hdigit d (List.mem_cons_of_mem c hd)) (fun d hd => (hrest d hd).1)
    rw [hl, List.cons_append, readNatural, if_neg hc, if_pos (hdigit c (List.mem_cons_self ..)),
      hcut.1, hcut.2]

theorem readFraction_of_ends {rest : List Char} (h : EndsNumber rest) :
    readFraction rest = ([], rest) := by
  cases rest with
  | nil => rfl
  | cons c rest =>
    rw [readFraction]
    rintro l ⟨⟩
    exact (h '.' rfl).2.1 rfl

theorem readExponent_of_ends {rest : List Char} (h : EndsNumber rest) :
    readExponent rest = ([], rest) := by
  cases rest with
  | nil => rfl
  | cons c rest =>
    obtain ⟨-, -, h1, h2⟩ := h c rfl
    rw [readExponent, if_neg (by rintro (e | e); exacts [h1 e, h2 e])]

theorem readUnsigned_toDigits (neg : Bool) (n : ℕ) {rest : List Char} (hrest : EndsNumber rest) :
    readUnsigned neg (Nat.toDigits 10 n ++ rest) = some (int (if neg then -n else n), rest) := by
  rw [readUnsigned, readNatural_toDigits n hrest]
  simp [readFraction_of_ends hrest, readExponent_of_ends hrest, Nat.ofDigitChars_ten_toDigits]

/-- The first character of an integer. -/
theorem head_writeInt (n : ℤ) : ∃ c l, writeInt n = c :: l ∧ (c = '-' ∨ c.isDigit = true) := by
  unfold writeInt
  split_ifs
  · exact ⟨'-', _, rfl, .inl rfl⟩
  · obtain ⟨c, l, hl⟩ := List.exists_cons_of_ne_nil (Nat.toDigits_ne_nil (n := n.natAbs) (b := 10))
    refine ⟨c, l, by rw [hl]; rfl, .inr ?_⟩
    exact Decimal.isDigit_toDigits n.natAbs c (by rw [hl]; exact List.mem_cons_self ..)

theorem readScalar_writeInt (n : ℤ) {rest : List Char} (hrest : EndsNumber rest) :
    readScalar (writeInt n ++ rest) = some (int n, rest) := by
  unfold writeInt
  obtain ⟨c, l, hl⟩ := List.exists_cons_of_ne_nil (Nat.toDigits_ne_nil (n := n.natAbs) (b := 10))
  have hc : c.isDigit = true :=
    Decimal.isDigit_toDigits n.natAbs c (by rw [hl]; exact List.mem_cons_self ..)
  have hword : ∀ {d : Char} {w : Char}, d.isDigit = true → w.isDigit = false → d ≠ w := by
    rintro d w hd hw rfl
    rw [hd] at hw
    cases hw
  by_cases hn : n < 0
  · rw [if_pos hn]
    show readScalar ('-' :: (Nat.toDigits 10 n.natAbs ++ rest)) = _
    have hinf : readWord "Infinity".toList (Nat.toDigits 10 n.natAbs ++ rest) = none := by
      rw [readWord, if_neg]
      rw [hl]
      intro e
      have : c = 'I' := by simpa using congrArg List.head? e
      exact hword hc (by decide) this
    simp only [readScalar, hinf, readUnsigned_toDigits true n.natAbs hrest]
    simp [abs_of_neg hn]
  · rw [if_neg hn, List.nil_append]
    have hdigits := readUnsigned_toDigits false n.natAbs hrest
    rw [hl, List.cons_append] at hdigits ⊢
    have h1 := hword hc (w := 'n') (by decide)
    have h2 := hword hc (w := 't') (by decide)
    have h3 := hword hc (w := 'f') (by decide)
    have h4 := hword hc (w := 'N') (by decide)
    have h5 := hword hc (w := 'I') (by decide)
    have h6 := hword hc (w := '-') (by decide)
    rw [readScalar, if_neg h1, if_neg h2, if_neg h3, if_neg h4, if_neg h5, if_neg h6, hdigits]
    simp [abs_of_nonneg (not_lt.mp hn)]

/-! ## No control characters -/

theorem le_toNat_digitChar : ∀ n < 16, 0x20 ≤ (Nat.digitChar n).toNat := by decide

theorem le_toNat_of_isDigit {c : Char} (h : c.isDigit = true) : 0x20 ≤ c.toNat := by
  rw [Char.isDigit, Bool.and_eq_true, decide_eq_true_eq] at h
  have : 48 ≤ c.toNat := h.1
  omega

theorem le_toNat_escapeChar (d : Char) : ∀ c ∈ escapeChar d, 0x20 ≤ c.toNat := by
  unfold escapeChar
  split_ifs with h1 h2 h3 h4 h5 h6 h7 h8
  · exact forall_mem_of_all (by decide)
  · exact forall_mem_of_all (by decide)
  · exact forall_mem_of_all (by decide)
  · exact forall_mem_of_all (by decide)
  · exact forall_mem_of_all (by decide)
  · exact forall_mem_of_all (by decide)
  · exact forall_mem_of_all (by decide)
  · simp only [List.forall_mem_cons, List.not_mem_nil, false_imp_iff, implies_true, and_true]
    refine ⟨by decide, by decide, by decide, by decide, ?_, ?_⟩
    · exact le_toNat_digitChar _ (Nat.mod_lt _ (by decide))
    · exact le_toNat_digitChar _ (Nat.mod_lt _ (by decide))
  · rintro c hc
    rw [List.mem_singleton.mp hc]
    exact not_lt.mp h8

theorem le_toNat_writeString (s : String) : ∀ c ∈ writeString s, 0x20 ≤ c.toNat := by
  intro c hc
  rw [writeString, List.mem_cons, List.mem_append, List.mem_flatMap] at hc
  rcases hc with rfl | ⟨d, -, hd⟩ | hc
  · decide
  · exact le_toNat_escapeChar d c hd
  · rw [List.mem_singleton.mp hc]
    decide

theorem le_toNat_writeInt (n : ℤ) : ∀ c ∈ writeInt n, 0x20 ≤ c.toNat := by
  intro c hc
  rw [writeInt, List.mem_append] at hc
  rcases hc with hc | hc
  · split_ifs at hc
    · rw [List.mem_singleton.mp hc]
      decide
    · cases hc
  · exact le_toNat_of_isDigit (Decimal.isDigit_toDigits _ c hc)

mutual

/-- **A written value has no control character**, so it is one line. -/
theorem le_toNat_write : ∀ (v : Json), v.Plain → ∀ c ∈ write v, 0x20 ≤ c.toNat
  | null, _ => by rw [write]; exact forall_mem_of_all (by decide)
  | bool true, _ => by rw [write]; exact forall_mem_of_all (by decide)
  | bool false, _ => by rw [write]; exact forall_mem_of_all (by decide)
  | int n, _ => by
    rw [write]
    exact le_toNat_writeInt n
  | str s, _ => by
    rw [write]
    exact le_toNat_writeString s
  | arr items, h => by
    intro c hc
    rw [write, List.mem_cons, List.mem_append, List.mem_singleton] at hc
    rcases hc with rfl | hc | rfl
    · decide
    · exact le_toNat_writeItems items h c hc
    · decide
  | obj members, h => by
    intro c hc
    rw [write, List.mem_cons, List.mem_append, List.mem_singleton] at hc
    rcases hc with rfl | hc | rfl
    · decide
    · exact le_toNat_writeMembers members h.2 c hc
    · decide

theorem le_toNat_writeItems :
    ∀ (l : List Json), PlainItems l → ∀ c ∈ writeItems l, 0x20 ≤ c.toNat
  | [], _ => nofun
  | [v], h => by
    rw [writeItems]
    exact le_toNat_write v h.1
  | v :: w :: l, h => by
    intro c hc
    rw [writeItems, List.mem_append, List.mem_cons] at hc
    rcases hc with hc | rfl | hc
    · exact le_toNat_write v h.1 c hc
    · decide
    · exact le_toNat_writeItems (w :: l) h.2 c hc

theorem le_toNat_writeMembers :
    ∀ (l : List (String × Json)), PlainValues l → ∀ c ∈ writeMembers l, 0x20 ≤ c.toNat
  | [], _ => nofun
  | [(k, v)], h => by
    intro c hc
    rw [writeMembers, List.mem_append, List.mem_cons] at hc
    rcases hc with hc | rfl | hc
    · exact le_toNat_writeString k c hc
    · decide
    · exact le_toNat_write v h.1 c hc
  | (k, v) :: p :: l, h => by
    intro c hc
    rw [writeMembers, List.mem_append, List.mem_cons, List.mem_append, List.mem_cons] at hc
    rcases hc with hc | rfl | hc | rfl | hc
    · exact le_toNat_writeString k c hc
    · decide
    · exact le_toNat_write v h.1 c hc
    · decide
    · exact le_toNat_writeMembers (p :: l) h.2 c hc

end

/-! ## Reading a value back -/

theorem skipSpace_cons {c : Char} (h : isJsonSpace c = false) (l : List Char) :
    skipSpace (c :: l) = c :: l := by
  rw [skipSpace, List.dropWhile_cons_of_neg]
  simp [h]

/-- A written value starts with neither white space nor a closing bracket. -/
theorem head_write {v : Json} (h : v.Plain) :
    ∃ c l, write v = c :: l ∧ isJsonSpace c = false ∧ c ≠ ']' := by
  cases v with
  | null => exact ⟨_, _, rfl, by decide, by decide⟩
  | bool b => cases b <;> exact ⟨_, _, rfl, by decide, by decide⟩
  | int n =>
    obtain ⟨c, l, hl, hc⟩ := head_writeInt n
    refine ⟨c, l, hl, ?_, ?_⟩
    · rcases hc with rfl | hc
      · decide
      · have hne : ∀ w : Char, w.isDigit = false → c ≠ w := by
          rintro w hw rfl
          exact absurd (hc.symm.trans hw) (by decide)
        simp [isJsonSpace, hne ' ' (by decide), hne '\t' (by decide), hne '\n' (by decide),
          hne '\r' (by decide)]
    · rintro rfl
      rcases hc with hc | hc <;> exact absurd hc (by decide)
  | float t => exact h.elim
  | str s => exact ⟨_, _, rfl, by decide, by decide⟩
  | arr items => exact ⟨_, _, rfl, by decide, by decide⟩
  | obj members => exact ⟨_, _, rfl, by decide, by decide⟩

theorem endsNumber_cons {c : Char} (hc : c = ',' ∨ c = ']' ∨ c = '\x7d') (rest : List Char) :
    EndsNumber (c :: rest) := by
  rintro d ⟨⟩
  rcases hc with rfl | rfl | rfl <;> decide

theorem write_length_pos {v : Json} (h : v.Plain) : 0 < (write v).length := by
  obtain ⟨c, l, hl, -⟩ := head_write h
  rw [hl]
  exact Nat.succ_pos _

/-- What is written does not start with white space or a closing bracket. -/
theorem skipSpace_write {v : Json} (h : v.Plain) (rest : List Char) :
    skipSpace (write v ++ rest) = write v ++ rest := by
  obtain ⟨c, l, hl, hc, -⟩ := head_write h
  rw [hl]
  exact skipSpace_cons hc _

theorem writeItems_cons (v : Json) (l : List Json) :
    writeItems (v :: l) = write v ++ if l = [] then [] else ',' :: writeItems l := by
  cases l with
  | nil => simp [writeItems]
  | cons w l => simp [writeItems]

theorem writeMembers_cons (k : String) (v : Json) (l : List (String × Json)) :
    writeMembers ((k, v) :: l) = writeString k ++ ':' ::
      (write v ++ if l = [] then [] else ',' :: writeMembers l) := by
  cases l with
  | nil => simp [writeMembers]
  | cons w l => simp [writeMembers]

/-- A hook that leaves distinct keys as they are. -/
def ObjectHook.Keeps (hook : ObjectHook) : Prop :=
  ∀ members, (members.map Prod.fst).Nodup → hook members = some (obj members)

theorem keeps_uniqueKeys : uniqueKeys.Keeps := fun _ h => if_pos h

theorem keeps_lastValues : lastValues.Keeps := by
  have happend : ∀ (l : List (String × Json)) (k : String) (v : Json), k ∉ l.map Prod.fst →
      Dict.assocSet l k v = l ++ [(k, v)] := by
    intro l k v h
    induction l with
    | nil => rfl
    | cons p l ih =>
      rw [List.map_cons, List.mem_cons, not_or] at h
      rw [Dict.assocSet, if_neg (Ne.symm h.1), ih h.2, List.cons_append]
  have hfold : ∀ (l d : List (String × Json)), ((d ++ l).map Prod.fst).Nodup →
      l.foldl (fun d p => Dict.assocSet d p.1 p.2) d = d ++ l := by
    intro l
    induction l with
    | nil =>
      intro d _
      rw [List.foldl_nil, List.append_nil]
    | cons p l ih =>
      intro d h
      have hp : p.1 ∉ d.map Prod.fst := by
        rw [List.map_append, List.nodup_append, List.map_cons] at h
        intro hp
        exact h.2.2 _ hp _ (List.mem_cons_self ..) rfl
      have hsplit : d ++ [p] ++ l = d ++ p :: l := by rw [List.append_assoc, List.singleton_append]
      rw [List.foldl_cons, happend d p.1 p.2 hp, ih (d ++ [p]) (by rwa [hsplit]), hsplit]
  intro members h
  rw [lastValues, hfold members [] h, List.nil_append]

mutual

/-- **A written value is read back**, given as many steps as its text has characters. -/
theorem readValue_write {hook : ObjectHook} (hk : hook.Keeps) : ∀ (v : Json), v.Plain →
    ∀ (n : ℕ) (rest : List Char), EndsNumber rest → (write v).length ≤ n →
    readValue hook n (write v ++ rest) = some (v, rest)
  | null, _, n + 1, rest, _, _ => by
    show readScalar ('n' :: (['u', 'l', 'l'] ++ rest)) = _
    simp [readScalar, readWord]
  | bool true, _, n + 1, rest, _, _ => by
    show readScalar ('t' :: (['r', 'u', 'e'] ++ rest)) = _
    simp [readScalar, readWord]
  | bool false, _, n + 1, rest, _, _ => by
    show readScalar ('f' :: (['a', 'l', 's', 'e'] ++ rest)) = _
    simp [readScalar, readWord]
  | int i, _, n + 1, rest, hrest, _ => by
    obtain ⟨c, l, hl, hc⟩ := head_writeInt i
    have hne : c ≠ '"' ∧ c ≠ '[' ∧ c ≠ '\x7b' := by
      rcases hc with rfl | hc
      · decide
      · refine ⟨?_, ?_, ?_⟩ <;> (rintro rfl; exact absurd hc (by decide))
    have hscalar := readScalar_writeInt i hrest
    rw [hl] at hscalar
    rw [write, hl, List.cons_append, readValue, if_neg hne.1, if_neg hne.2.1, if_neg hne.2.2]
    exact hscalar
  | str s, _, n + 1, rest, _, _ => by
    rw [write, writeString, List.cons_append, List.append_assoc, readValue, if_pos rfl,
      List.singleton_append, readString_write]
    rfl
  | arr [], _, n + 1, rest, _, _ => rfl
  | arr (v :: items), h, n + 1, rest, _, hn => by
    rw [Plain] at h
    obtain ⟨c, l, hl, hc, hbracket⟩ := head_write h.1
    have hitems := readItems_write hk (v :: items) (List.cons_ne_nil _ _) h n rest (by
      rw [write, List.length_cons, List.length_append, List.length_singleton] at hn
      omega)
    have hhead : ∃ l', writeItems (v :: items) ++ ']' :: rest = c :: l' := by
      rw [writeItems_cons, hl]
      exact ⟨_, rfl⟩
    obtain ⟨l', hl'⟩ := hhead
    rw [write, List.cons_append, List.append_assoc, List.singleton_append, readValue,
      if_neg (by decide), if_pos rfl, hl', skipSpace_cons hc]
    rw [hl'] at hitems
    split
    next l'' e => exact absurd (List.cons.inj e).1 hbracket
    next => rw [hitems]; rfl
  | obj [], _, n + 1, rest, _, _ => by
    show (hook []).map (fun v => (v, rest)) = _
    rw [hk [] List.nodup_nil]
    rfl
  | obj ((k, v) :: members), h, n + 1, rest, _, hn => by
    rw [Plain] at h
    have hmembers := readMembers_write hk ((k, v) :: members) (List.cons_ne_nil _ _) h.2 n rest (by
      rw [write, List.length_cons, List.length_append, List.length_singleton] at hn
      omega)
    have hhead : ∃ l', writeMembers ((k, v) :: members) ++ '\x7d' :: rest = '"' :: l' := by
      rw [writeMembers_cons, writeString]
      exact ⟨_, rfl⟩
    obtain ⟨l', hl'⟩ := hhead
    rw [write, List.cons_append, List.append_assoc, List.singleton_append, readValue,
      if_neg (by decide), if_neg (by decide), if_pos rfl, hl', skipSpace_cons (by decide)]
    rw [hl'] at hmembers
    split
    next l'' e => exact absurd (List.cons.inj e).1 (by decide)
    next =>
      simp only [hmembers, Option.bind_eq_bind, Option.bind_some, hk _ h.1]
      rfl
  | v, h, 0, _, _, hn => absurd (write_length_pos h) (by omega)

theorem readItems_write {hook : ObjectHook} (hk : hook.Keeps) : ∀ (l : List Json), l ≠ [] →
    PlainItems l → ∀ (n : ℕ) (rest : List Char), (writeItems l).length < n →
    readItems hook n (writeItems l ++ ']' :: rest) = some (l, rest)
  | [v], _, h, n + 1, rest, hn => by
    rw [writeItems] at hn ⊢
    have hv := readValue_write hk v h.1 n (']' :: rest) (endsNumber_cons (by simp) _) (by omega)
    rw [readItems, hv]
    simp [skipSpace_cons (c := ']') (by decide)]
  | v :: w :: l, _, h, n + 1, rest, hn => by
    rw [writeItems, List.length_append, List.length_cons] at hn
    have hv := readValue_write hk v h.1 n (',' :: (writeItems (w :: l) ++ ']' :: rest))
      (endsNumber_cons (by simp) _) (by omega)
    have hlen := write_length_pos h.1
    have hl := readItems_write hk (w :: l) (List.cons_ne_nil _ _) h.2 n rest (by omega)
    have hspace : skipSpace (writeItems (w :: l) ++ ']' :: rest) =
        writeItems (w :: l) ++ ']' :: rest := by
      rw [writeItems_cons, List.append_assoc]
      exact skipSpace_write h.2.1 _
    rw [writeItems, List.append_assoc, List.cons_append, readItems, hv]
    simp [skipSpace_cons (c := ',') (by decide), hspace, hl]

theorem readMembers_write {hook : ObjectHook} (hk : hook.Keeps) : ∀ (l : List (String × Json)),
    l ≠ [] → PlainValues l → ∀ (n : ℕ) (rest : List Char), (writeMembers l).length < n →
    readMembers hook n (writeMembers l ++ '\x7d' :: rest) = some (l, rest)
  | [(k, v)], _, h, n + 1, rest, hn => by
    rw [writeMembers, List.length_append, List.length_cons] at hn
    have hv := readValue_write hk v h.1 n ('\x7d' :: rest) (endsNumber_cons (by simp) _) (by omega)
    rw [writeMembers, writeString, List.cons_append, List.cons_append, List.append_assoc,
      List.append_assoc, List.singleton_append, readMembers, readString_write]
    simp [skipSpace_cons (c := ':') (by decide), skipSpace_cons (c := '\x7d') (by decide),
      skipSpace_write h.1, hv]
  | (k, v) :: (k', w) :: l, _, h, n + 1, rest, hn => by
    rw [writeMembers, List.length_append, List.length_cons, List.length_append,
      List.length_cons] at hn
    have hv := readValue_write hk v h.1 n (',' :: (writeMembers ((k', w) :: l) ++ '\x7d' :: rest))
      (endsNumber_cons (by simp) _) (by omega)
    have hl := readMembers_write hk ((k', w) :: l) (List.cons_ne_nil _ _) h.2 n rest (by omega)
    have hspace : skipSpace (writeMembers ((k', w) :: l) ++ '\x7d' :: rest) =
        writeMembers ((k', w) :: l) ++ '\x7d' :: rest := by
      rw [writeMembers_cons, writeString, List.cons_append, List.cons_append]
      exact skipSpace_cons (by decide) _
    rw [writeMembers, writeString, List.cons_append, List.cons_append, List.append_assoc,
      List.append_assoc, List.singleton_append, readMembers, readString_write]
    simp [skipSpace_cons (c := ':') (by decide), skipSpace_cons (c := ',') (by decide),
      skipSpace_write h.1, hv, hspace, hl]

end

/-- **A written text is read back as the value with its keys sorted.** -/
theorem loadsWith_dumps {hook : ObjectHook} (hk : hook.Keeps) {v : Json} (h : v.Plain) :
    loadsWith hook v.dumps = some v.sortKeys := by
  have hplain := plain_sortKeys h
  have hspace := skipSpace_write hplain []
  have hread := readValue_write hk v.sortKeys hplain ((write v.sortKeys).length + 1) []
    (by rintro c ⟨⟩) (Nat.le_succ _)
  rw [List.append_nil] at hspace hread
  simp only [loadsWith, dumps, String.toList_ofList, hspace, hread, Option.bind_eq_bind,
    Option.bind_some]
  rfl

theorem loads_dumps {v : Json} (h : v.Plain) : loads v.dumps = some v.sortKeys :=
  loadsWith_dumps keeps_uniqueKeys h

/-- Writing what was read gives the same text. -/
theorem dumps_sortKeys (v : Json) : v.sortKeys.dumps = v.dumps := by
  rw [dumps, sortKeys_sortKeys, dumps]

end Json

end WeatherBot.Common
