import WeatherBot.Persistence.Append

/-!
# Tamper evidence

The last chain hash determines the whole ledger, and a checkpoint determines the
ledger up to its sequence number.

* `HashSound`: what is assumed of SHA-256.
* `soundLink_linkHash`: then the chain hash of a row has no collisions.
* `checkpoint_chain`: a checkpoint holds the chain hash of the events up to it.
* `tamper_evident`: both results.
-/

namespace WeatherBot.Persistence

open WeatherBot.Common
open WeatherBot.Domain

/-! ## The hash -/

/-- The digits of `hexdigest`. -/
def hexDigits : List Char := "0123456789abcdef".toList

/-- SHA-256 in hexadecimal has no collisions and never yields the genesis value. -/
structure HashSound (rt : Runtime) : Prop where
  injective : Function.Injective rt.sha256
  hexadecimal : ∀ s, ∀ c ∈ (rt.sha256 s).toList, c ∈ hexDigits
  ne_genesis : ∀ s, rt.sha256 s ≠ genesisChainHash

variable {rt : Runtime}

/-- A text of one line. -/
def OneLine (s : String) : Prop := '\n' ∉ s.toList

instance (s : String) : Decidable (OneLine s) := inferInstanceAs (Decidable (¬ '\n' ∈ s.toList))

theorem HashSound.oneLine (h : HashSound rt) (s : String) : OneLine (rt.sha256 s) := by
  intro hc
  exact absurd (h.hexadecimal s _ hc) (by decide)

theorem oneLine_genesis : OneLine genesisChainHash := by decide +kernel

theorem oneLine_eventType (t : EventType) : OneLine t.value := by
  cases t <;> decide

theorem oneLine_version : OneLine (toString eventSchemaVersion) := by decide

/-- The text before the first line feed is determined. -/
theorem append_line_inj {s s' t t' : String} (h : OneLine s) (h' : OneLine s')
    (heq : s ++ "\n" ++ t = s' ++ "\n" ++ t') : s = s' ∧ t = t' := by
  have hlist := congrArg String.toList heq
  simp only [String.toList_append, List.append_assoc] at hlist
  obtain ⟨hs, ht⟩ := append_separator_inj h h' hlist
  exact ⟨String.toList_inj.mp hs, String.toList_inj.mp ht⟩

/-- **The chain hash of an event has no collisions**: it determines the hash before the event and,
through the payload, the event. -/
theorem soundLink_linkHash (h : HashSound rt) :
    SoundLink (linkHash rt) genesisChainHash OneLine (ReadsBack rt) where
  mem_genesis := oneLine_genesis
  mem_link _ _ := h.oneLine _
  ne_genesis _ _ := h.ne_genesis _
  inj := by
    intro p p' e e' hp hp' he he' heq
    have hmaterial : p ++ "\n" ++ (toString eventSchemaVersion ++ "\n" ++
        ((eventType e).value ++ "\n" ++ rt.sha256 (encodeEvent rt e).payloadJson)) =
        p' ++ "\n" ++ (toString eventSchemaVersion ++ "\n" ++
        ((eventType e').value ++ "\n" ++ rt.sha256 (encodeEvent rt e').payloadJson)) := by
      have := h.injective heq
      simp only [String.append_assoc] at this ⊢
      exact this
    obtain ⟨hprevious, hmaterial⟩ := append_line_inj hp hp' hmaterial
    obtain ⟨-, hmaterial⟩ := append_line_inj oneLine_version oneLine_version hmaterial
    obtain ⟨-, hpayload⟩ := append_line_inj (oneLine_eventType _) (oneLine_eventType _) hmaterial
    have hreads := he
    rw [ReadsBack, h.injective hpayload, he', Except.ok.injEq] at hreads
    exact ⟨hprevious, hreads.symm⟩

/-! ## Checkpoints -/

/-- The rows up to a sequence number are those of the first events. -/
theorem filter_rowsFrom (events : List LedgerEvent) (sequence : ℤ) (previousHash : String) (k : ℤ) :
    (rowsFrom rt sequence previousHash events).filter (fun row => row.sequence ≤ k) =
      rowsFrom rt sequence previousHash (events.take (k - sequence).toNat) := by
  induction events generalizing sequence previousHash with
  | nil => simp [rowsFrom]
  | cons e events ih =>
    rw [rowsFrom, List.filter_cons, ih]
    by_cases hk : sequence + 1 ≤ k
    · have htake : (k - sequence).toNat = (k - (sequence + 1)).toNat + 1 := by omega
      have hrow : (eventRow rt (sequence + 1) previousHash e).sequence ≤ k := hk
      rw [if_pos (decide_eq_true hrow), htake, List.take_succ_cons, rowsFrom]
    · have hzero : (k - sequence).toNat = 0 := by omega
      have hzero' : (k - (sequence + 1)).toNat = 0 := by omega
      rw [if_neg (by simpa [eventRow] using hk), hzero, hzero', List.take_zero, List.take_zero]
      rfl

/-- **A checkpoint holds the chain hash of the events up to its sequence number.** -/
theorem checkpoint_chain {checkpoints : List StateCheckpoint} {rows : List EventRow}
    {start loaded : Loaded} (h : rows.foldlM (loadRow rt checkpoints) start = .ok loaded) :
    ∃ events, loaded.events = start.events ++ events ∧
      ∀ k c, checkpointAt checkpoints k = some c → start.lastSequence < k →
        k ≤ start.lastSequence + events.length →
        c.chainHash = (events.take (k - start.lastSequence).toNat).foldl (linkHash rt) start.chainHash := by
  induction rows generalizing start with
  | nil =>
    cases h
    refine ⟨[], (List.append_nil _).symm, fun k c _ hlow hhigh => ?_⟩
    rw [List.length_nil] at hhigh
    omega
  | cons row rows ih =>
    obtain ⟨mid, hrow, h⟩ := foldlM_cons_eq_ok.mp h
    obtain ⟨event, state, rfl, -, -, hcheckpoint, rfl⟩ := loadRow_eq_ok.mp hrow
    obtain ⟨events, hevents, hrest⟩ := ih h
    refine ⟨event :: events, ?_, fun k c hc hlow hhigh => ?_⟩
    · rw [hevents, List.append_assoc, List.singleton_append]
    · rcases eq_or_lt_of_le (Int.add_one_le_of_lt hlow) with rfl | hlt
      · have hone : (start.lastSequence + 1 - start.lastSequence).toNat = 1 := by omega
        rw [hone, (hcheckpoint c hc).1]
        rfl
      · rw [List.length_cons] at hhigh
        have htake : (k - start.lastSequence).toNat = (k - (start.lastSequence + 1)).toNat + 1 := by
          omega
        rw [htake, List.take_succ_cons, List.foldl_cons]
        refine hrest k c hc hlt ?_
        show k ≤ start.lastSequence + 1 + events.length
        push_cast at hhigh
        omega

/-- A checkpoint row is read as the checkpoint at its sequence number. -/
theorem checkpointAt_of_row {db : Db} {checkpoints : List StateCheckpoint}
    (h : checkpointRowsLocked db = .ok checkpoints) {k : ℤ} {row : CheckpointRow}
    (hrow : db.stateCheckpoints.get? k = some row) :
    ∃ c, checkpointAt checkpoints k = some c ∧ c ∈ checkpoints ∧ c.sequence = k ∧
      row.chainHash = .text c.chainHash := by
  obtain ⟨c, hc, hread⟩ := exists_of_mapM_eq_ok h (Dict.get?_eq_some.mp hrow)
  have hseq : ∀ {entry : ℤ × CheckpointRow} {c : StateCheckpoint}, (do
      let chainHash ← rowText entry.2.chainHash "chain_hash"
      let stateHash ← rowText entry.2.stateHash "state_hash"
      let createdAt ← rowText entry.2.createdAt "created_at"
      return ({ sequence := entry.1, chainHash, stateHash, createdAt } : StateCheckpoint)) = .ok c →
      c.sequence = entry.1 ∧ entry.2.chainHash = .text c.chainHash := by
    intro entry c h
    obtain ⟨chainHash, hchain, h⟩ := bind_eq_ok.mp h
    obtain ⟨stateHash, -, h⟩ := bind_eq_ok.mp h
    obtain ⟨createdAt, -, h⟩ := bind_eq_ok.mp h
    cases h
    exact ⟨rfl, rowText_eq_ok.mp hchain⟩
  cases hfind : checkpointAt checkpoints k with
  | none =>
    rw [checkpointAt, List.find?_eq_none] at hfind
    exact absurd (decide_eq_true (hseq hread).1) (hfind c hc)
  | some c' =>
    have hmem := List.mem_of_find?_eq_some hfind
    have hk : c'.sequence = k := by simpa using List.find?_some hfind
    obtain ⟨entry, hentry, hread'⟩ := mem_of_mapM_eq_ok h hmem
    obtain ⟨hkey, hchain⟩ := hseq hread'
    have hget : db.stateCheckpoints.get? entry.1 = some entry.2 := Dict.get?_eq_some.mpr hentry
    rw [← hkey, hk, hrow, Option.some.injEq] at hget
    exact ⟨c', rfl, hmem, hk, hget ▸ hchain⟩

/-! ## Two ledgers -/

/-- **Equal last hashes, equal ledgers.** -/
theorem events_of_chainHash (h : HashSound rt) {db db' : Db} {loaded loaded' : Loaded}
    (hload : loadLocked rt db = .ok loaded) (hload' : loadLocked rt db' = .ok loaded')
    (heq : loaded'.chainHash = loaded.chainHash) : loaded'.events = loaded.events := by
  have hfrom := loadedFrom_of_loadLocked hload
  have hfrom' := loadedFrom_of_loadLocked hload'
  rw [hfrom.chainHash, hfrom'.chainHash] at heq
  exact (soundLink_linkHash h).chain_inj hfrom'.readsBack hfrom.readsBack heq

/-- The chain hash of a checkpoint of a ledger that loads. -/
theorem chainHash_of_checkpoint {db : Db} {loaded : Loaded} (hload : loadLocked rt db = .ok loaded)
    {k : ℤ} {row : CheckpointRow} (hrow : db.stateCheckpoints.get? k = some row) (hk : 0 < k) :
    row.chainHash = .text ((loaded.events.take k.toNat).foldl (linkHash rt) genesisChainHash) := by
  obtain ⟨checkpoints, hcheckpoints, -, hrows, horphan⟩ := loadLocked_eq_ok.mp hload
  obtain ⟨c, hc, hmem, rfl, hchain⟩ := checkpointAt_of_row hcheckpoints hrow
  obtain ⟨events, hevents, hall⟩ := checkpoint_chain hrows
  have hlast := (loadedFrom_of_loadLocked hload).lastSequence
  have hevents : loaded.events = events := hevents
  have hhigh := horphan c hmem
  rw [hlast, hevents] at hhigh
  rw [hchain, hall c.sequence c hc hk hhigh, hevents]
  show _ = SqlValue.text ((events.take c.sequence.toNat).foldl _ _)
  have hstart : c.sequence - (Loaded.start rt).lastSequence = c.sequence := Int.sub_zero _
  rw [hstart]
  rfl

/-- The rows of a table up to a sequence number. -/
def rowsUpTo (db : Db) (k : ℤ) : List EventRow := db.ledgerEvents.filter fun row => row.sequence ≤ k

theorem rowsUpTo_of_loaded {db : Db} {loaded : Loaded} (hload : loadLocked rt db = .ok loaded) (k : ℤ) :
    rowsUpTo db k = rowsFrom rt 0 genesisChainHash (loaded.events.take k.toNat) := by
  have hrows : db.ledgerEvents = rowsFrom rt 0 genesisChainHash loaded.events :=
    (loadedFrom_of_loadLocked hload).rows_eq
  rw [rowsUpTo, hrows, filter_rowsFrom, Int.sub_zero]

/-- **Tamper evidence.** Two tables that load and have one last chain hash hold the same rows and
events; and a table that keeps the checkpoint at `k` of a ledger that loads, but differs from it in
the rows up to `k`, does not load. -/
theorem tamper_evident (h : HashSound rt) :
    (∀ db db' loaded loaded', loadLocked rt db = .ok loaded → loadLocked rt db' = .ok loaded' →
      loaded'.chainHash = loaded.chainHash →
      loaded'.events.length = loaded.events.length ∧ loaded'.events = loaded.events ∧
        db'.ledgerEvents = db.ledgerEvents) ∧
    ∀ db loaded k checkpoint, loadLocked rt db = .ok loaded →
      db.stateCheckpoints.get? k = some checkpoint →
      ∀ db', db'.stateCheckpoints.get? k = some checkpoint → rowsUpTo db' k ≠ rowsUpTo db k →
        ∃ error, loadLocked rt db' = .error error := by
  constructor
  · intro db db' loaded loaded' hload hload' heq
    have hevents := events_of_chainHash h hload hload' heq
    refine ⟨congrArg List.length hevents, hevents, ?_⟩
    rw [(loadedFrom_of_loadLocked hload).rows_eq, (loadedFrom_of_loadLocked hload').rows_eq, hevents]
  · intro db loaded k checkpoint hload hrow db' hrow' hdiff
    cases hload' : loadLocked rt db' with
    | error e => exact ⟨e, rfl⟩
    | ok loaded' =>
      refine absurd ?_ hdiff
      rw [rowsUpTo_of_loaded hload, rowsUpTo_of_loaded hload']
      rcases lt_or_ge 0 k with hk | hk
      · have hchain := chainHash_of_checkpoint hload hrow hk
        have hchain' := chainHash_of_checkpoint hload' hrow' hk
        rw [hchain, SqlValue.text.injEq] at hchain'
        have hreads : ∀ e ∈ loaded.events.take k.toNat, ReadsBack rt e :=
          fun e he => (loadedFrom_of_loadLocked hload).readsBack e (List.mem_of_mem_take he)
        have hreads' : ∀ e ∈ loaded'.events.take k.toNat, ReadsBack rt e :=
          fun e he => (loadedFrom_of_loadLocked hload').readsBack e (List.mem_of_mem_take he)
        rw [(soundLink_linkHash h).chain_inj hreads hreads' hchain']
      · rw [Int.toNat_of_nonpos hk, List.take_zero, List.take_zero]

namespace Sample

/-- A code of a text in hexadecimal digits, with every character in unary. -/
def unaryChars : List Char → List Char
  | [] => []
  | c :: l => List.replicate c.toNat '1' ++ '0' :: unaryChars l

theorem unaryChars_inj {l l' : List Char} (h : unaryChars l = unaryChars l') : l = l' := by
  induction l generalizing l' with
  | nil =>
    cases l' with
    | nil => rfl
    | cons c l' => simp [unaryChars] at h
  | cons c l ih =>
    cases l' with
    | nil => simp [unaryChars] at h
    | cons c' l' =>
      have hones : ∀ n, '0' ∉ List.replicate n '1' := by
        intro n hn
        exact absurd (List.eq_of_mem_replicate hn) (by decide)
      obtain ⟨hhead, htail⟩ := append_separator_inj (hones _) (hones _) h
      have hlength := congrArg List.length hhead
      rw [List.length_replicate, List.length_replicate] at hlength
      rw [ih htail, Char.toNat_inj.mp hlength]

theorem mem_unaryChars {l : List Char} {c : Char} (h : c ∈ unaryChars l) : c = '0' ∨ c = '1' := by
  induction l with
  | nil => cases h
  | cons d l ih =>
    rw [unaryChars, List.mem_append, List.mem_cons] at h
    rcases h with h | rfl | h
    · exact .inr (List.eq_of_mem_replicate h)
    · exact .inl rfl
    · exact ih h

/-- A runtime whose hash is the code, after a digit that the genesis value does not start with. -/
def unary : Runtime :=
  { Runtime.utc with sha256 := fun s => String.ofList ('f' :: unaryChars s.toList) }

theorem hashSound_unary : HashSound unary where
  injective := by
    intro s t h
    have hlist := congrArg String.toList h
    simp only [unary, String.toList_ofList, List.cons.injEq, true_and] at hlist
    exact String.toList_inj.mp (unaryChars_inj hlist)
  hexadecimal := by
    intro s c hc
    simp only [unary, String.toList_ofList, List.mem_cons] at hc
    rcases hc with rfl | hc
    · decide
    · rcases mem_unaryChars hc with rfl | rfl
      · decide
      · decide
  ne_genesis := by
    intro s h
    have hzero : genesisChainHash.toList.head? = some '0' := by decide
    rw [← h, unary, String.toList_ofList, List.head?_cons] at hzero
    exact absurd (Option.some.inj hzero) (by decide)

/-- The states after the two events. -/
def unaryState : LedgerState := okOr (applyEvent unary (.fresh "USDC") opened) (.fresh "USDC")

def unaryResolved (outcomeId : String) : LedgerState :=
  okOr (applyEvent unary unaryState (resolvedTo outcomeId)) unaryState

/-- The ledger of the two events. -/
def unaryLoaded (outcomeId : String) : Loaded :=
  ((Loaded.start unary).advance unary opened unaryState).advance unary (resolvedTo outcomeId)
    (unaryResolved outcomeId)

/-- Its rows. -/
def unaryRows (outcomeId : String) : List EventRow :=
  [eventRow unary 1 genesisChainHash opened,
    eventRow unary 2 (linkHash unary genesisChainHash opened) (resolvedTo outcomeId)]

/-- The checkpoint after both events. -/
def unaryCheckpoint (outcomeId : String) : CheckpointRow :=
  ⟨.text (unaryLoaded outcomeId).chainHash, .text (stateFingerprint unary (unaryResolved outcomeId)),
    .text "now"⟩

def unaryDb (outcomeId : String) : Db :=
  { Db.empty with
    ledgerEvents := unaryRows outcomeId
    stateCheckpoints := Dict.empty.insert 2 (unaryCheckpoint outcomeId) }

theorem loadLocked_unaryDb {outcomeId : String} (hreadable : Readable (resolvedTo outcomeId))
    (happly : (applyEvent unary unaryState (resolvedTo outcomeId)).isOk = true) :
    loadLocked unary (unaryDb outcomeId) = .ok (unaryLoaded outcomeId) := by
  have hopened : opened.Constructible unary := ⟨by decide, by decide⟩
  have hresolved : (resolvedTo outcomeId).Constructible unary := trivial
  refine loadLocked_eq_ok.mpr ⟨[⟨2, (unaryLoaded outcomeId).chainHash,
    stateFingerprint unary (unaryResolved outcomeId), "now"⟩], rfl, by decide, ?_,
    by simp [unaryLoaded, Loaded.advance, Loaded.start]⟩
  refine foldlM_cons_eq_ok.mpr ⟨_, loadRow_eq_ok.mpr ⟨opened, unaryState, rfl, ?_, ?_, ?_, rfl⟩,
    foldlM_cons_eq_ok.mpr ⟨_, loadRow_eq_ok.mpr ⟨resolvedTo outcomeId, unaryResolved outcomeId, rfl,
      ?_, ?_, ?_, rfl⟩, rfl⟩⟩
  · exact (decodeEvent_encodeEvent hopened).mpr ⟨by decide, rfl⟩
  · exact eq_ok_okOr (by decide) _
  · rintro c hc
    cases hc
  · exact (decodeEvent_encodeEvent hresolved).mpr ⟨hreadable, rfl⟩
  · exact eq_ok_okOr happly _
  · rintro c hc
    cases hc
    exact ⟨rfl, rfl⟩

theorem loadLocked_yes : loadLocked unary (unaryDb "yes") = .ok (unaryLoaded "yes") :=
  loadLocked_unaryDb (by decide) (by decide)

theorem loadLocked_no : loadLocked unary (unaryDb "no") = .ok (unaryLoaded "no") :=
  loadLocked_unaryDb (by decide) (by decide)

theorem resolvedTo_inj {outcomeId outcomeId' : String} (h : resolvedTo outcomeId = resolvedTo outcomeId') :
    outcomeId = outcomeId' := by
  have hpayouts := congrArg (fun e => (payoutsOf e).map OutcomePayout.outcomeId) h
  exact (List.cons.inj hpayouts).1

/-- The rows differ in the payload of the second event. -/
theorem unaryRows_ne : unaryRows "no" ≠ unaryRows "yes" := by
  intro h
  have hrow := (List.cons.inj (List.cons.inj h).2).1
  have hpayload : (encodeEvent unary (resolvedTo "no")).payloadJson =
      (encodeEvent unary (resolvedTo "yes")).payloadJson :=
    SqlValue.text.inj (congrArg EventRow.payloadJson hrow)
  have hreadable : Readable (resolvedTo "no") := by decide
  have hread := (decodeEvent_encodeEvent (show (resolvedTo "no").Constructible unary from trivial)).mpr
    ⟨hreadable, rfl⟩
  rw [hpayload] at hread
  have hevent := ((decodeEvent_encodeEvent (show (resolvedTo "yes").Constructible unary from trivial)).mp
    hread).2
  exact absurd (resolvedTo_inj hevent) (by decide)

theorem rowsUpTo_unaryRows {db : Db} {outcomeId : String} (h : db.ledgerEvents = unaryRows outcomeId) :
    rowsUpTo db 2 = unaryRows outcomeId := by
  rw [rowsUpTo, h]
  rfl

end Sample

/-- Another resolution has another last chain hash; and where its row, with all its hashes computed
anew, replaces the row under the checkpoint, the ledger does not load. -/
theorem tamper_evident_replaced :
    (Sample.unaryLoaded "no").chainHash ≠ (Sample.unaryLoaded "yes").chainHash ∧
      ∃ error, loadLocked Sample.unary
        { Sample.unaryDb "yes" with ledgerEvents := Sample.unaryRows "no" } = .error error := by
  obtain ⟨hchain, hcheckpoint⟩ := tamper_evident Sample.hashSound_unary
  constructor
  · intro heq
    exact Sample.unaryRows_ne (hchain _ _ _ _ Sample.loadLocked_yes Sample.loadLocked_no heq).2.2
  · refine hcheckpoint _ _ 2 _ Sample.loadLocked_yes rfl _ rfl ?_
    rw [Sample.rowsUpTo_unaryRows rfl, Sample.rowsUpTo_unaryRows rfl]
    exact Sample.unaryRows_ne

end WeatherBot.Persistence
