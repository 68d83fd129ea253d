import WeatherBot.Pip.SignalLog

/-!
# A signal log after crashes

A call of `append_signal` that crashes leaves a proper prefix of its line in the
file. The next call appends behind it, so its record ends up in one line with
what was left.

* `exists_of_cut`: the line decodes only if the prefix was cut between
  characters.
* `readFrom_torn`: **a record behind a part of a record is not read**; reading
  stops with a `PipExportError`.
* `readFrom_callBytes`: a log is read back iff no append completed after one that
  left a part of its record.
-/

namespace WeatherBot.Pip

open WeatherBot.Common
open WeatherBot.Domain
open WeatherBot.Producer

variable {rt : Runtime} {py : PyValues}

/-! ## Calls -/

/-- A signal as the constructors leave it. -/
abbrev Signal (rt : Runtime) : Type := { s : HermesSignal // s.Constructed rt }

/-- A part of `l` from its start that is not all of it. -/
def ProperPrefix (p l : List UInt8) : Prop := p <+: l ∧ p ≠ l

/-- A call of `append_signal`: it returns, or crashes when a proper prefix of its line is
written. -/
inductive AppendCall (rt : Runtime) where
  | completed (signal : Signal rt)
  | crashed (signal : Signal rt) (written : List UInt8)
      (proper : ProperPrefix written (recordLine signal.val))

namespace AppendCall

/-- The bytes that the call adds to the file. -/
def bytes : AppendCall rt → List UInt8
  | completed s => recordLine s.val
  | crashed _ written _ => written

/-- The file after the call. -/
def run (file : List UInt8) : AppendCall rt → List UInt8
  | completed s => appendSignal file s.val
  | crashed _ written _ => file ++ written

/-- The call returned. -/
def Completes : AppendCall rt → Prop
  | completed _ => True
  | crashed _ _ _ => False

/-- The call left a part of its record. -/
def Tears : AppendCall rt → Prop
  | completed _ => False
  | crashed _ written _ => written ≠ []

end AppendCall

/-- The file after calls, from a missing one. -/
def signalLog (calls : List (AppendCall rt)) : ReadBytes :=
  match calls with
  | [] => .fileNotFound
  | calls => .bytes (calls.foldl AppendCall.run [])

/-- The signals whose append completed, in append order. -/
def completedSignals : List (AppendCall rt) → List HermesSignal
  | [] => []
  | .completed s :: calls => s.val :: completedSignals calls
  | .crashed _ _ _ :: calls => completedSignals calls

/-- No append completes after one that left a part of its record. -/
def NoAppendAfterTear (calls : List (AppendCall rt)) : Prop :=
  calls.Pairwise fun a b => a.Tears → ¬ b.Completes

/-- The bytes that the calls add. -/
def callBytes (calls : List (AppendCall rt)) : List UInt8 := calls.flatMap AppendCall.bytes

theorem foldl_run (calls : List (AppendCall rt)) (file : List UInt8) :
    calls.foldl AppendCall.run file = file ++ callBytes calls := by
  induction calls generalizing file with
  | nil => simp [callBytes]
  | cons c calls ih =>
    have hrun : AppendCall.run file c = file ++ c.bytes := by cases c <;> rfl
    rw [List.foldl_cons, ih, hrun, List.append_assoc, callBytes, callBytes, List.flatMap_cons]

/-! ## Cut records -/

/-- The byte that every record starts with. -/
def brace : UInt8 := UInt8.ofNat '\x7b'.toNat

theorem recordBytes_eq (s : HermesSignal) :
    recordBytes s = encodeUtf8 (Json.write (.obj (recordMembers s))) := by
  rw [recordBytes, recordText_toList]

theorem head_of_prefix {s : HermesSignal} {p : List UInt8} (hp : p <+: recordBytes s) (hne : p ≠ []) :
    ∃ l, p = brace :: l := by
  rw [recordBytes_eq, Json.write, encodeUtf8_ascii (by decide), List.prefix_cons_iff] at hp
  obtain ⟨l, rfl, -⟩ := hp.resolve_left hne
  exact ⟨l, rfl⟩

/-- **A cut record in front of another decodes only if it was cut between characters.** -/
theorem exists_of_cut {s : HermesSignal} {p rest : List UInt8} {chars : List Char}
    (hp : p <+: recordBytes s) (hne : p ≠ []) (hrest : ∃ l, rest = brace :: l)
    (h : encodeUtf8 chars = p ++ rest) :
    ∃ q t, chars = q ++ t ∧ q <+: Json.write (.obj (recordMembers s)) ∧ q ≠ [] ∧
      encodeUtf8 t = rest := by
  obtain ⟨l, rfl⟩ := hrest
  obtain ⟨q, t, rfl, rfl, rfl⟩ := exists_of_encodeUtf8_eq (c := '\x7b') (by decide) h
  refine ⟨q, '\x7b' :: t, rfl, ?_, ?_, encodeUtf8_ascii (by decide) t⟩
  · obtain ⟨tail, htail⟩ := hp
    exact prefix_of_encodeUtf8_append (htail.trans (recordBytes_eq s))
  · rintro rfl
    exact hne rfl

/-- A proper prefix of a line is a part of the record. -/
theorem ProperPrefix.recordBytes {s : HermesSignal} {p : List UInt8}
    (h : ProperPrefix p (recordLine s)) : p <+: recordBytes s :=
  (List.prefix_concat_iff.mp h.1).resolve_left h.2

/-- What crashed calls leave is part of one line. -/
theorem oneLine_crashed {calls : List (AppendCall rt)} (h : ∀ c ∈ calls, ¬ c.Completes) :
    OneLine (callBytes calls) := by
  induction calls with
  | nil => exact ⟨List.not_mem_nil, List.not_mem_nil⟩
  | cons c calls ih =>
    rw [List.forall_mem_cons] at h
    rw [callBytes, List.flatMap_cons]
    refine OneLine.append ?_ (ih h.2)
    cases c with
    | completed s => exact absurd trivial h.1
    | crashed s written hp => exact (oneLine_recordBytes s.val).of_isPrefix hp.recordBytes

/-- A record behind what crashed calls left starts like a record. -/
theorem head_crashed {calls : List (AppendCall rt)} (h : ∀ c ∈ calls, ¬ c.Completes) (s : HermesSignal) :
    ∃ l, callBytes calls ++ recordBytes s = brace :: l := by
  induction calls with
  | nil => exact head_of_prefix (List.prefix_refl _) (recordBytes_ne_nil s)
  | cons c calls ih =>
    rw [List.forall_mem_cons] at h
    rw [callBytes, List.flatMap_cons, List.append_assoc]
    cases c with
    | completed s => exact absurd trivial h.1
    | crashed t written hp =>
      by_cases hw : written = []
      · rw [AppendCall.bytes, hw, List.nil_append]
        exact ih h.2
      · obtain ⟨l, hl⟩ := head_of_prefix hp.recordBytes hw
        rw [AppendCall.bytes, hl]
        exact ⟨_, rfl⟩

/-- **A record behind what crashed calls left blocks a JSON reader**, if it decodes at all. -/
theorem blocks_crashed {calls : List (AppendCall rt)} (h : ∀ c ∈ calls, ¬ c.Completes)
    (s : HermesSignal) {chars : List Char}
    (hchars : encodeUtf8 chars = callBytes calls ++ recordBytes s) :
    Json.Blocks Json.lastValues chars := by
  induction calls generalizing chars with
  | nil =>
    rw [callBytes, List.flatMap_nil, List.nil_append, recordBytes_eq] at hchars
    rw [encodeUtf8_inj hchars]
    exact Json.blocks_write Json.keeps_lastValues (plain_recordMembers s) (keyedText_record s)
  | cons c calls ih =>
    rw [List.forall_mem_cons] at h
    rw [callBytes, List.flatMap_cons, List.append_assoc] at hchars
    cases c with
    | completed s => exact absurd trivial h.1
    | crashed t written hp =>
      by_cases hw : written = []
      · rw [AppendCall.bytes, hw, List.nil_append] at hchars
        exact ih h.2 hchars
      · obtain ⟨q, u, rfl, hq, hne, hu⟩ :=
          exists_of_cut hp.recordBytes hw (head_crashed h.2 s) hchars
        exact Json.blocks_append Json.keeps_lastValues (ih h.2 hu) (plain_recordMembers t.val)
          (keyedText_record t.val) hq hne

/-- A line that starts with a part of a record and ends with a record is not JSON. -/
theorem decodeRecord_torn (py : PyValues) {calls : List (AppendCall rt)} (h : ∀ c ∈ calls, ¬ c.Completes)
    {t : HermesSignal} {p : List UInt8} (hp : p <+: recordBytes t) (hne : p ≠ []) (s : HermesSignal) :
    ∃ message, decodeRecord py (p ++ (callBytes calls ++ recordBytes s)) =
      .error (.valueError message) := by
  unfold decodeRecord
  cases hd : decodeUtf8 (p ++ (callBytes calls ++ recordBytes s)) with
  | none => exact ⟨_, rfl⟩
  | some chars =>
    obtain ⟨q, u, rfl, hq, hne, hu⟩ :=
      exists_of_cut hp hne (head_crashed h s) (eq_encodeUtf8 hd).symm
    have hloads := Json.loadsWith_cut Json.keeps_lastValues (blocks_crashed h s hu)
      (plain_recordMembers t) hq hne
    dsimp only
    rw [hloads]
    exact ⟨_, rfl⟩

/-! ## Reading after crashes -/

/-- **A record behind a part of a record is not read**: reading stops with a `PipExportError`. -/
theorem readFrom_torn {calls : List (AppendCall rt)} {c : AppendCall rt} (hc : c.Completes)
    (hmem : c ∈ calls) {t : HermesSignal} {p : List UInt8} (hp : p <+: recordBytes t) (hne : p ≠ [])
    (index : ℕ) :
    ∃ message, readFrom rt py index (p ++ callBytes calls) = .error (.pipExportError message) := by
  -- the first completed call ends the line
  obtain ⟨before, s, after, rfl, hbefore⟩ : ∃ before s after,
      calls = before ++ .completed s :: after ∧ ∀ c ∈ before, ¬ AppendCall.Completes c := by
    clear hp hne
    induction calls with
    | nil => cases hmem
    | cons d calls ih =>
      cases d with
      | completed s => exact ⟨[], s, calls, rfl, fun _ h => absurd h List.not_mem_nil⟩
      | crashed s written hp =>
        rcases List.mem_cons.mp hmem with rfl | hmem
        · exact hc.elim
        · obtain ⟨before, s', after, rfl, hbefore⟩ := ih hmem
          refine ⟨.crashed s written hp :: before, s', after, rfl, List.forall_mem_cons.mpr ⟨?_, hbefore⟩⟩
          exact id
  have hline : OneLine (p ++ (callBytes before ++ recordBytes s.val)) :=
    ((oneLine_recordBytes t).of_isPrefix hp).append
      ((oneLine_crashed hbefore).append (oneLine_recordBytes s.val))
  have hsplit : p ++ callBytes (before ++ .completed s :: after) =
      (p ++ (callBytes before ++ recordBytes s.val)) ++ lineFeed :: callBytes after := by
    simp only [callBytes, List.flatMap_append, List.flatMap_cons, AppendCall.bytes, recordLine,
      List.append_assoc, List.cons_append, List.nil_append]
  obtain ⟨message, hdecode⟩ := decodeRecord_torn py hbefore hp hne s.val
  rw [hsplit, readFrom_line hline (List.append_ne_nil_of_left_ne_nil hne _), readRecord, hdecode]
  exact ⟨_, rfl⟩

/-- Without a completed call, nothing is read and nothing is expected. -/
theorem completedSignals_crashed {calls : List (AppendCall rt)} (h : ∀ c ∈ calls, ¬ c.Completes) :
    completedSignals calls = [] := by
  induction calls with
  | nil => rfl
  | cons c calls ih =>
    rw [List.forall_mem_cons] at h
    cases c with
    | completed s => exact absurd trivial h.1
    | crashed s written hp => exact ih h.2

/-- Calls of which none completed are in order. -/
theorem noAppendAfterTear_crashed {calls : List (AppendCall rt)} (h : ∀ c ∈ calls, ¬ c.Completes) :
    NoAppendAfterTear calls :=
  List.pairwise_of_forall_mem_list fun _ _ b hb _ => h b hb

/-- A log is read back if no append completed after one that left a part of its record. -/
theorem readFrom_of_noAppend {calls : List (AppendCall rt)} (h : NoAppendAfterTear calls) (index : ℕ) :
    readFrom rt py index (callBytes calls) = .ok (completedSignals calls) := by
  induction calls generalizing index with
  | nil => exact readFrom_unended ⟨List.not_mem_nil, List.not_mem_nil⟩ index
  | cons c calls ih =>
    rw [NoAppendAfterTear, List.pairwise_cons] at h
    rw [callBytes, List.flatMap_cons]
    cases c with
    | completed s =>
      rw [AppendCall.bytes, readFrom_record s.property, bind_eq_ok]
      exact ⟨_, ih h.2 _, rfl⟩
    | crashed s written hp =>
      by_cases hw : written = []
      · subst hw
        exact ih h.2 index
      · have hnone : ∀ b ∈ calls, ¬ b.Completes := fun b hb => h.1 b hb hw
        rw [completedSignals, completedSignals_crashed hnone]
        exact readFrom_unended
          (((oneLine_recordBytes s.val).of_isPrefix hp.recordBytes).append (oneLine_crashed hnone)) index

/-- Otherwise reading stops with a `PipExportError`. -/
theorem readFrom_of_append (py : PyValues) {calls : List (AppendCall rt)}
    (h : ¬ NoAppendAfterTear calls) (index : ℕ) :
    ∃ message, readFrom rt py index (callBytes calls) = .error (.pipExportError message) := by
  induction calls generalizing index with
  | nil => exact absurd List.Pairwise.nil h
  | cons c calls ih =>
    rw [NoAppendAfterTear, List.pairwise_cons] at h
    rw [callBytes, List.flatMap_cons]
    cases c with
    | completed s =>
      obtain ⟨message, herror⟩ := ih (fun hc => h ⟨fun _ _ ht => ht.elim, hc⟩) (index + 1)
      rw [AppendCall.bytes, readFrom_record s.property, ← callBytes, herror]
      exact ⟨message, rfl⟩
    | crashed s written hp =>
      by_cases hw : written = []
      · subst hw
        exact ih (fun hc => h ⟨fun _ _ ht => absurd rfl ht, hc⟩) index
      · by_cases hnone : ∀ b ∈ calls, ¬ b.Completes
        · exact absurd ⟨fun b hb _ => hnone b hb, noAppendAfterTear_crashed hnone⟩ h
        · simp only [not_forall, not_not] at hnone
          obtain ⟨b, hb, hcompletes⟩ := hnone
          exact readFrom_torn hcompletes hb hp.recordBytes hw index

/-- The bytes of the log. -/
theorem readCommittedSignals_eq (calls : List (AppendCall rt)) :
    readCommittedSignals rt py (signalLog calls) = readFrom rt py 1 (callBytes calls) := by
  cases calls with
  | nil => rfl
  | cons c calls =>
    rw [signalLog, readCommittedSignals, foldl_run, List.nil_append]
    exact nofun

/-- **The log after any sequence of calls**, some of which crashed, is read back as the signals of the
calls that returned iff no append completed after one that left a part of its record. -/
theorem readCommittedSignals_signalLog (rt : Runtime) (py : PyValues) (calls : List (AppendCall rt)) :
    readCommittedSignals rt py (signalLog calls) = .ok (completedSignals calls) ↔
      NoAppendAfterTear calls := by
  rw [readCommittedSignals_eq]
  constructor
  · intro h
    by_contra hnot
    obtain ⟨message, herror⟩ := readFrom_of_append py hnot 1
    cases herror.symm.trans h
  · exact fun h => readFrom_of_noAppend h 1

namespace Sample

def signal : Signal hashes := ⟨hermesSignal, reference_new, hermesSignal_new⟩

/-- The first byte of a line is a part of it. -/
theorem properPrefix_brace (s : HermesSignal) : ProperPrefix [brace] (recordLine s) := by
  obtain ⟨l, hl⟩ := head_of_prefix (List.prefix_refl _) (recordBytes_ne_nil s)
  rw [recordLine, hl]
  refine ⟨⟨l ++ [lineFeed], rfl⟩, fun h => ?_⟩
  have := congrArg List.length h
  simp only [List.cons_append, List.length_cons, List.length_append, List.length_nil] at this
  omega

/-- A call that crashes after one byte, then one that returns. -/
def tornCalls : List (AppendCall hashes) :=
  [.crashed signal [brace] (properPrefix_brace _), .completed signal]

end Sample

/-- After a crash that left one byte, the next signal is not read back. -/
theorem readCommittedSignals_tornCalls :
    completedSignals Sample.tornCalls = [Sample.hermesSignal] ∧
    readCommittedSignals Sample.hashes Sample.noValues (signalLog Sample.tornCalls) ≠
      .ok (completedSignals Sample.tornCalls) ∧
    ∃ message, readCommittedSignals Sample.hashes Sample.noValues (signalLog Sample.tornCalls) =
      .error (.pipExportError message) := by
  have hnot : ¬ NoAppendAfterTear Sample.tornCalls := by
    intro h
    exact (List.pairwise_cons.mp h).1 _ (List.mem_singleton_self _) (List.cons_ne_nil _ _) trivial
  obtain ⟨message, herror⟩ := readFrom_of_append Sample.noValues hnot 1
  rw [← readCommittedSignals_eq] at herror
  refine ⟨rfl, fun h => ?_, message, herror⟩
  cases herror.symm.trans h

end WeatherBot.Pip
