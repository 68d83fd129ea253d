import WeatherBot.Common.Text

/-!
# Dates and aware datetimes

A `DateTime` is a civil time and its UTC offset, which is what its ISO-8601
text carries. `isoformat` writes the text and `fromisoformat` reads it back.

* `Date.fromisoformat_isoformat`, `DateTime.fromisoformat_isoformat`: reading
  undoes writing.
* `DateTime.instant`: the point of time in microseconds, by which two datetimes
  are compared.
-/

namespace WeatherBot.Common

/-! ## Dates -/

/-- A leap year of the proleptic Gregorian calendar. -/
def isLeap (year : ℕ) : Bool := year % 4 = 0 && (year % 100 ≠ 0 || year % 400 = 0)

/-- The number of days of a month. -/
def daysInMonth (year month : ℕ) : ℕ :=
  if month = 2 then (if isLeap year then 29 else 28)
  else if month = 4 ∨ month = 6 ∨ month = 9 ∨ month = 11 then 30 else 31

/-- `datetime.date`: years 1 to 9999. -/
structure Date where
  year : ℕ
  month : ℕ
  day : ℕ
  valid : 1 ≤ year ∧ year ≤ 9999 ∧ 1 ≤ month ∧ month ≤ 12 ∧ 1 ≤ day ∧ day ≤ daysInMonth year month
deriving DecidableEq, Repr

namespace Date

theorem day_lt (d : Date) : d.day < 100 := by
  have h := d.valid.2.2.2.2.2
  unfold daysInMonth at h
  split_ifs at h <;> omega

/-- The date with these fields, when there is one. -/
def make (year month day : ℕ) : Option Date :=
  if h : 1 ≤ year ∧ year ≤ 9999 ∧ 1 ≤ month ∧ month ≤ 12 ∧ 1 ≤ day ∧ day ≤ daysInMonth year month then
    some ⟨year, month, day, h⟩
  else none

@[simp] theorem make_self (d : Date) : make d.year d.month d.day = some d := by
  rw [make, dif_pos d.valid]

/-- `date.toordinal`: days counted from 1 January of year 1, which is day 1. -/
def toordinal (d : Date) : ℕ :=
  let y := d.year - 1
  y * 365 + y / 4 - y / 100 + y / 400 +
    ((List.range (d.month - 1)).map fun m => daysInMonth d.year (m + 1)).sum + d.day

/-- The month and day of the day `n` of a year, counted from zero. -/
def monthDay (year : ℕ) : ℕ → ℕ → ℕ → ℕ × ℕ
  | 0, month, n => (month, n + 1)
  | k + 1, month, n =>
    if n < daysInMonth year month then (month, n + 1)
    else monthDay year k (month + 1) (n - daysInMonth year month)

/-- `date.fromordinal`. -/
def fromordinal (n : ℕ) : Option Date :=
  let n := n - 1
  let y := n / 146097 * 400 + 1
  let n := n % 146097
  let y := y + n / 36524 * 100
  let last := n / 36524 = 4
  let n := n % 36524
  let y := y + n / 1461 * 4
  let n := n % 1461
  let y := y + n / 365
  if last ∨ n / 365 = 4 then make (y - 1) 12 31
  else
    let (month, day) := monthDay y 11 1 (n % 365)
    make y month day

example : fromordinal 739617 = make 2026 1 1 := by decide

/-- The characters of `YYYY-MM-DD`. -/
def isoChars (d : Date) : List Char :=
  padDigits 4 d.year ++ '-' :: (padDigits 2 d.month ++ '-' :: padDigits 2 d.day)

/-- `date.isoformat`. -/
def isoformat (d : Date) : String := String.ofList d.isoChars

theorem dash_mem_isoChars (d : Date) : '-' ∈ d.isoChars := by simp [isoChars]

theorem isBlank_isoformat (d : Date) : isBlank d.isoformat = false :=
  isBlank_of_mem (by rw [isoformat, String.toList_ofList]; exact d.dash_mem_isoChars) (by decide)

/-- Read a date from the front of a text. -/
def read (l : List Char) : Option (Date × List Char) := do
  let (year, l) ← readDigits 4 l
  let l ← readChar '-' l
  let (month, l) ← readDigits 2 l
  let l ← readChar '-' l
  let (day, l) ← readDigits 2 l
  let d ← make year month day
  return (d, l)

theorem read_isoChars (d : Date) (rest : List Char) : read (d.isoChars ++ rest) = some (d, rest) := by
  have hv := d.valid
  have hd := d.day_lt
  simp only [read, isoChars, List.append_assoc, List.cons_append]
  rw [readDigits_pad (by omega)]
  simp only [Option.bind_eq_bind, Option.bind_some, readChar_self]
  rw [readDigits_pad (by omega)]
  simp only [Option.bind_some, readChar_self]
  rw [readDigits_pad (by omega)]
  simp

/-- `date.fromisoformat` on the extended form `YYYY-MM-DD`. -/
def fromisoformat (s : String) : Option Date := do
  let (d, l) ← read s.toList
  if l = [] then some d else none

/-- **Reading a date's text gives the date back.** -/
theorem fromisoformat_isoformat (d : Date) : fromisoformat d.isoformat = some d := by
  have h := read_isoChars d []
  rw [List.append_nil] at h
  simp [fromisoformat, isoformat, h]

end Date

/-! ## Datetimes -/

/-- Microseconds in a second, a minute, an hour and a day. -/
def secondMicros : ℕ := 1000000

def minuteMicros : ℕ := 60 * secondMicros

def hourMicros : ℕ := 60 * minuteMicros

def dayMicros : ℕ := 24 * hourMicros

/-- An aware `datetime.datetime`; `utcoffset` is in microseconds. -/
structure DateTime where
  date : Date
  hour : ℕ
  minute : ℕ
  second : ℕ
  microsecond : ℕ
  utcoffset : ℤ
  valid : hour < 24 ∧ minute < 60 ∧ second < 60 ∧ microsecond < 1000000 ∧
    utcoffset.natAbs < dayMicros
deriving DecidableEq, Repr

namespace DateTime

/-- The datetime with these fields, when there is one. -/
def make (date : Date) (hour minute second microsecond : ℕ) (utcoffset : ℤ) : Option DateTime :=
  if h : hour < 24 ∧ minute < 60 ∧ second < 60 ∧ microsecond < 1000000 ∧
      utcoffset.natAbs < dayMicros then
    some ⟨date, hour, minute, second, microsecond, utcoffset, h⟩
  else none

@[simp] theorem make_self (t : DateTime) :
    make t.date t.hour t.minute t.second t.microsecond t.utcoffset = some t := by
  rw [make, dif_pos t.valid]

/-- Microseconds of the civil time since the start of year 1. -/
def civilMicros (t : DateTime) : ℤ :=
  (t.date.toordinal - 1) * dayMicros + t.hour * hourMicros + t.minute * minuteMicros +
    t.second * secondMicros + t.microsecond

/-- The point of time: microseconds since the start of year 1 in UTC. -/
def instant (t : DateTime) : ℤ := t.civilMicros - t.utcoffset

/-- The first microsecond after year 9999. -/
def endMicros : ℤ := 3652059 * dayMicros

/-- `a == b` on aware datetimes. -/
def SameInstant (a b : DateTime) : Prop := a.instant = b.instant

instance (a b : DateTime) : Decidable (SameInstant a b) :=
  inferInstanceAs (Decidable (a.instant = b.instant))

/-- The UTC datetime at a point of time, in years 1 to 9999. -/
def ofInstant (n : ℤ) : Option DateTime :=
  if n < 0 then none
  else do
    let micros := n.toNat
    let date ← Date.fromordinal (micros / dayMicros + 1)
    make date (micros % dayMicros / hourMicros) (micros % hourMicros / minuteMicros)
      (micros % minuteMicros / secondMicros) (micros % secondMicros) 0

/-- `t.astimezone(UTC)`; `none` is an `OverflowError`. -/
def astimezoneUtc (t : DateTime) : Option DateTime :=
  if t.utcoffset = 0 then some t else ofInstant t.instant

theorem utcoffset_ofInstant {n : ℤ} {t : DateTime} (h : ofInstant n = some t) : t.utcoffset = 0 := by
  unfold ofInstant at h
  split_ifs at h
  obtain ⟨date, -, h⟩ := Option.bind_eq_some_iff.mp h
  unfold make at h
  split_ifs at h
  cases h
  rfl

theorem utcoffset_astimezoneUtc {t u : DateTime} (h : t.astimezoneUtc = some u) :
    u.utcoffset = 0 := by
  unfold astimezoneUtc at h
  split_ifs at h with h0
  · cases h
    exact h0
  · exact utcoffset_ofInstant h

/-- A datetime in UTC is not changed. -/
theorem astimezoneUtc_of_utc {t : DateTime} (h : t.utcoffset = 0) : t.astimezoneUtc = some t :=
  if_pos h

/-- `%02d:%02d` of an offset in whole minutes. -/
def offsetHourMinute (n : ℕ) : List Char :=
  padDigits 2 (n / hourMicros) ++ ':' :: padDigits 2 (n / minuteMicros % 60)

/-- `:SS` and `.ffffff` of an offset, each only where it is not zero. -/
def offsetSeconds (n : ℕ) : List Char :=
  if n % minuteMicros = 0 then []
  else ':' :: (padDigits 2 (n / secondMicros % 60) ++
    if n % secondMicros = 0 then [] else '.' :: padDigits 6 (n % secondMicros))

/-- `_format_offset`. -/
def offsetChars (offset : ℤ) : List Char :=
  (if offset < 0 then '-' else '+') ::
    (offsetHourMinute offset.natAbs ++ offsetSeconds offset.natAbs)

/-- `.ffffff`, only where it is not zero. -/
def fractionChars (microsecond : ℕ) : List Char :=
  if microsecond = 0 then [] else '.' :: padDigits 6 microsecond

/-- `HH:MM:SS` and the fraction. -/
def clockChars (t : DateTime) : List Char :=
  padDigits 2 t.hour ++ ':' :: (padDigits 2 t.minute ++ ':' :: (padDigits 2 t.second ++
    fractionChars t.microsecond))

/-- The characters of `datetime.isoformat`. -/
def isoChars (t : DateTime) : List Char :=
  t.date.isoChars ++ 'T' :: (t.clockChars ++ offsetChars t.utcoffset)

/-- `datetime.isoformat`. -/
def isoformat (t : DateTime) : String := String.ofList t.isoChars

theorem isBlank_isoformat (t : DateTime) : isBlank t.isoformat = false := by
  have h : '-' ∈ t.isoChars := List.mem_append_left _ t.date.dash_mem_isoChars
  exact isBlank_of_mem (by rwa [isoformat, String.toList_ofList]) (by decide)

/-- Read `.ffffff` where the text has it. -/
def readFraction (l : List Char) : Option (ℕ × List Char) :=
  match l with
  | '.' :: l => readDigits 6 l
  | l => some (0, l)

/-- Read `:SS` and `.ffffff` where the text has them; the result is in microseconds. -/
def readOffsetSeconds (l : List Char) : Option (ℕ × List Char) :=
  match l with
  | ':' :: l => do
    let (seconds, l) ← readDigits 2 l
    let (micros, l) ← readFraction l
    if seconds < 60 then some (seconds * secondMicros + micros, l) else none
  | l => some (0, l)

/-- The sign of an offset. -/
def readSign : List Char → Option (ℤ × List Char)
  | '+' :: l => some (1, l)
  | '-' :: l => some (-1, l)
  | _ => none

/-- Read a UTC offset. -/
def readOffset (l : List Char) : Option (ℤ × List Char) := do
  let (sign, l) ← readSign l
  let (hours, l) ← readDigits 2 l
  let l ← readChar ':' l
  let (minutes, l) ← readDigits 2 l
  let (micros, l) ← readOffsetSeconds l
  if minutes < 60 then
    some (sign * ((hours * hourMicros + minutes * minuteMicros + micros : ℕ) : ℤ), l)
  else none

/-- `datetime.fromisoformat` on the form that `isoformat` writes. -/
def fromisoformat (s : String) : Option DateTime := do
  let (date, l) ← Date.read s.toList
  let l ← readChar 'T' l
  let (hour, l) ← readDigits 2 l
  let l ← readChar ':' l
  let (minute, l) ← readDigits 2 l
  let l ← readChar ':' l
  let (second, l) ← readDigits 2 l
  let (microsecond, l) ← readFraction l
  let (utcoffset, l) ← readOffset l
  if l = [] then make date hour minute second microsecond utcoffset else none

/-! ### Round trip -/

theorem readFraction_fractionChars {n : ℕ} (h : n < 1000000) {rest : List Char}
    (hrest : ∀ l, rest ≠ '.' :: l) : readFraction (fractionChars n ++ rest) = some (n, rest) := by
  unfold fractionChars
  split_ifs with h0
  · subst h0
    cases rest with
    | nil => rfl
    | cons c l =>
      have hc : c ≠ '.' := fun e => hrest l (by rw [e])
      rw [List.nil_append, readFraction]
      exact fun l' e => hc (List.cons.inj e).1
  · show readDigits 6 (padDigits 6 n ++ rest) = _
    exact readDigits_pad (by omega) rest

theorem readOffsetSeconds_offsetSeconds (n : ℕ) :
    readOffsetSeconds (offsetSeconds n) = some (n % minuteMicros, []) := by
  unfold offsetSeconds
  split_ifs with h0 h1
  · rw [h0]; rfl
  · simp only [readOffsetSeconds, List.append_nil]
    have := readDigits_pad (w := 2) (n := n / secondMicros % 60) (by omega) []
    rw [List.append_nil] at this
    rw [this]
    have hr : readFraction [] = some (0, []) := rfl
    simp only [Option.bind_eq_bind, Option.bind_some, hr]
    rw [if_pos (by omega)]
    unfold minuteMicros secondMicros at *
    congr 2
    omega
  · simp only [readOffsetSeconds]
    rw [readDigits_pad (by omega)]
    simp only [Option.bind_eq_bind, Option.bind_some]
    have hr : readFraction ('.' :: padDigits 6 (n % secondMicros)) = some (n % secondMicros, []) := by
      show readDigits 6 (padDigits 6 (n % secondMicros)) = _
      have := readDigits_pad (w := 6) (n := n % secondMicros) (by unfold secondMicros; omega) []
      rwa [List.append_nil] at this
    rw [hr]
    simp only [Option.bind_some]
    rw [if_pos (by omega)]
    unfold minuteMicros secondMicros at *
    congr 2
    omega

theorem readOffset_offsetChars {offset : ℤ} (h : offset.natAbs < dayMicros) :
    readOffset (offsetChars offset) = some (offset, []) := by
  set n := offset.natAbs with hn
  have hn24 : n / hourMicros < 24 := by
    unfold dayMicros at h
    exact Nat.div_lt_of_lt_mul (by rwa [mul_comm])
  have hsign : readSign (offsetChars offset) =
      some (if offset < 0 then -1 else 1, offsetHourMinute n ++ offsetSeconds n) := by
    unfold offsetChars
    split_ifs <;> rfl
  have hsplit : n / hourMicros * hourMicros + n / minuteMicros % 60 * minuteMicros +
      n % minuteMicros = n := by
    unfold hourMicros minuteMicros secondMicros
    omega
  unfold readOffset
  rw [hsign]
  simp only [Option.bind_eq_bind, Option.bind_some, offsetHourMinute, List.append_assoc,
    List.cons_append]
  rw [readDigits_pad (by omega)]
  simp only [Option.bind_some, readChar_self]
  rw [readDigits_pad (by omega)]
  simp only [Option.bind_some]
  rw [readOffsetSeconds_offsetSeconds]
  simp only [Option.bind_some]
  rw [if_pos (by omega), hsplit]
  split_ifs with h0
  · rw [hn]; congr 2; omega
  · rw [hn]; congr 2; omega

/-- **Reading a datetime's text gives the datetime back, offset included.** -/
theorem fromisoformat_isoformat (t : DateTime) : fromisoformat t.isoformat = some t := by
  have hv := t.valid
  have hoff : ∀ l, offsetChars t.utcoffset ≠ '.' :: l := by
    intro l
    unfold offsetChars
    split_ifs <;> simp
  have hend : readOffset (offsetChars t.utcoffset) = some (t.utcoffset, []) :=
    readOffset_offsetChars hv.2.2.2.2
  simp only [fromisoformat, isoformat, isoChars, clockChars, String.toList_ofList,
    List.append_assoc, List.cons_append]
  rw [Date.read_isoChars]
  simp only [Option.bind_eq_bind, Option.bind_some, readChar_self]
  rw [readDigits_pad (by omega)]
  simp only [Option.bind_some, readChar_self]
  rw [readDigits_pad (by omega)]
  simp only [Option.bind_some, readChar_self]
  rw [readDigits_pad (by omega)]
  simp only [Option.bind_some]
  rw [readFraction_fractionChars hv.2.2.2.1 hoff]
  simp only [Option.bind_some]
  rw [hend]
  simp

end DateTime

/-! ## Sample days -/

namespace Sample

def newYear : Date := ⟨2026, 1, 1, by decide⟩

def firstOfMarch : Date := ⟨2026, 3, 1, by decide⟩

def secondOfMarch : Date := ⟨2026, 3, 2, by decide⟩

/-- Noon of the day, in UTC. -/
def noonOf (day : Date) : DateTime := ⟨day, 12, 0, 0, 0, 0, by decide⟩

end Sample

end WeatherBot.Common
