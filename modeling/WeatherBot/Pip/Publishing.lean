import WeatherBot.Pip.Publication

/-!
# Staging and reconciliation

Scans and workers run `stage_signal`, `append_signal`, `reconcile_signal_log` and the
transactions of the outbox on one signal log and one outbox file. Their steps
interleave, and a call may crash between any two of its steps.

* `Sound`: the invariant; what a row must be is a parameter of it.
* `frozen_of_run`: only an enqueue changes the columns that are frozen.
* `stageSignal_meets`, `reconcileSignalLog_meets`: what the calls owe each other.
-/

namespace WeatherBot.Producer

/-- `PRODUCER_ID` (`producer/service.py`). -/
def producerId : String := "hermes_weatherbot"

end WeatherBot.Producer

namespace WeatherBot.Pip

open WeatherBot.Common
open WeatherBot.Domain
open WeatherBot.Producer (HermesSignal)

/-- The event id of a signal of the producer. -/
def eventIdOf (rt : Runtime) (signalId : String) : String :=
  "pevt_" ++ rt.sha256 ("signal.created\x00" ++ Producer.producerId ++ "\x00" ++ signalId)

/-- The first durable record of a signal. -/
def firstSignal {rt : Runtime} (log : List (AppendCall rt)) (signalId : String) : Option HermesSignal :=
  (completedSignals log).find? fun s => s.signalId = signalId

/-- The columns of the rows that no update sets. -/
def Outbox.frozen (db : Outbox) : List FrozenColumns := db.rows.map OutboxRow.toFrozenColumns

/-- The columns are those of an envelope. -/
structure FrozenColumns.Carries (r : FrozenColumns) (f : FrozenEnvelope) : Prop where
  producerId : r.producerId = f.producerId
  eventId : r.eventId = f.eventId
  signalId : r.signalId = f.signalId
  eventSha256 : r.eventSha256 = f.eventSha256
  envelopeBytes : r.envelopeBytes = f.envelopeBytes
  generatedAt : r.generatedAt = f.generatedAt
  keyId : r.keyId = f.keyId

/-! ## Envelopes -/

section

variable (rt : Runtime) (lib : EnvelopeLibrary) (releases : String → Except PipError ProducerRelease)

/-- An envelope is that of a signal of the producer. -/
structure FreezesAs (f : FrozenEnvelope) (s : HermesSignal) : Prop where
  producerId : f.producerId = Producer.producerId
  eventId : f.eventId = eventIdOf rt f.signalId
  signalId : f.signalId = s.signalId
  eventSha256 : f.eventSha256 = lib.sha256Bytes f.canonicalEventBytes
  /-- Its event is the signal's, and what is sent is the event with its signature. -/
  event : eventBytes rt lib releases s f.keyId = .ok f.canonicalEventBytes
  envelope : ∃ (event : Json) (sign : List UInt8 → List UInt8),
    canonicalEventBytes lib event = .ok f.canonicalEventBytes ∧
    f.envelopeBytes = signedBytes lib event (sign f.canonicalEventBytes)

/-- An envelope that was frozen from some signal. -/
def IsFrozen (f : FrozenEnvelope) : Prop := ∃ s, FreezesAs rt lib releases f s

end

variable {rt : Runtime} {py : PyValues} {lib : EnvelopeLibrary}
  {releases : String → Except PipError ProducerRelease}

theorem freezesAs_of_freeze {s : HermesSignal} {config : PipExporterConfig} {values : CallValues}
    {f : FrozenEnvelope} (h : freezeForConfig rt lib releases s config values = .ok f)
    (hs : s.producerId = Producer.producerId) : FreezesAs rt lib releases f s := by
  unfold freezeForConfig at h
  obtain ⟨-, h⟩ := raiseIf_bind_eq_ok.mp h
  obtain ⟨path, -, h⟩ := bind_eq_ok.mp h
  obtain ⟨keyId, -, h⟩ := bind_eq_ok.mp h
  obtain ⟨release, hrelease, h⟩ := bind_eq_ok.mp h
  obtain ⟨sign, -, h⟩ := bind_eq_ok.mp h
  obtain ⟨event, canonical, generated, hevent, hcanonical, rfl⟩ := freezeSignalEnvelope_eq_ok h
  have hbytes : eventBytes rt lib releases s keyId = .ok canonical :=
    bind_eq_ok.mpr ⟨release, hrelease, bind_eq_ok.mpr ⟨event, hevent, hcanonical⟩⟩
  have heventId : makeEventId rt s = eventIdOf rt s.signalId := by
    unfold makeEventId eventIdOf
    rw [hs]
  exact
    { producerId := hs
      eventId := heventId
      signalId := rfl
      eventSha256 := rfl
      event := hbytes
      envelope := by
        refine ⟨event, sign, hcanonical, ?_⟩
        dsimp only }

/-! ## Records -/

theorem completedSignals_append (log log' : List (AppendCall rt)) :
    completedSignals (log ++ log') = completedSignals log ++ completedSignals log' := by
  induction log with
  | nil => rfl
  | cons c log ih =>
    cases c with
    | completed s => exact congrArg (List.cons s.val) ih
    | crashed s written proper => exact ih

theorem completedSignals_grow {log log' : List (AppendCall rt)} (h : log <+: log') :
    completedSignals log <+: completedSignals log' := by
  obtain ⟨more, rfl⟩ := h
  exact ⟨completedSignals more, (completedSignals_append log more).symm⟩

/-- **The first record of a signal stays the first.** -/
theorem firstSignal_grow {log log' : List (AppendCall rt)} (h : log <+: log') {signalId : String}
    {s : HermesSignal} (hs : firstSignal log signalId = some s) : firstSignal log' signalId = some s := by
  obtain ⟨more, rfl⟩ := h
  rw [firstSignal, completedSignals_append, List.find?_append]
  exact Option.or_eq_some_iff.mpr (.inl hs)

theorem mem_of_firstSignal {log : List (AppendCall rt)} {signalId : String} {s : HermesSignal}
    (h : firstSignal log signalId = some s) : s ∈ completedSignals log ∧ s.signalId = signalId := by
  rw [firstSignal, List.find?_eq_some_iff_append] at h
  obtain ⟨hkey, before, after, hlog, -⟩ := h
  exact ⟨hlog ▸ List.mem_append_right _ List.mem_cons_self, of_decide_eq_true hkey⟩

/-- What is read of the log are the signals whose append completed. -/
theorem eq_of_readCommittedSignals {log : List (AppendCall rt)} {signals : List HermesSignal}
    (h : readCommittedSignals rt py (signalLog log) = .ok signals) : signals = completedSignals log := by
  rw [readCommittedSignals_eq] at h
  by_cases hlog : NoAppendAfterTear log
  · rw [readFrom_of_noAppend hlog] at h
    exact (Except.ok.inj h).symm
  · obtain ⟨message, herror⟩ := readFrom_of_append py hlog 1
    cases herror.symm.trans h

/-! ## What others keep -/

/-- What every call keeps: the log and the rows only grow, and frozen columns stay. -/
structure Publication.Keeps (p q : Publication rt) : Prop where
  log : p.log <+: q.log
  frozen : p.outbox.frozen <+: q.outbox.frozen

/-- What every call but a reconciliation keeps: it adds no row, and it discards a staged intent only
if its signal has one. -/
structure Publication.Quiet (p q : Publication rt) : Prop where
  log : p.log <+: q.log
  frozen : q.outbox.frozen = p.outbox.frozen
  intents : ∀ f ∈ p.intents.rows, ¬ p.outbox.HasSignal f.signalId → f ∈ q.intents.rows

theorem Outbox.hasSignal_iff {db : Outbox} {signalId : String} :
    db.HasSignal signalId ↔ ∃ r ∈ db.frozen, r.signalId = signalId := by
  simp [Outbox.HasSignal, Outbox.frozen]

namespace Publication

variable {p q u : Publication rt} {signalId : String}

theorem Keeps.refl (p : Publication rt) : p.Keeps p := ⟨List.prefix_refl _, List.prefix_refl _⟩

theorem Keeps.trans (h : p.Keeps q) (h' : q.Keeps u) : p.Keeps u :=
  ⟨h.log.trans h'.log, h.frozen.trans h'.frozen⟩

/-- A row is never removed. -/
theorem Keeps.hasSignal (h : p.Keeps q) (hp : p.outbox.HasSignal signalId) :
    q.outbox.HasSignal signalId := by
  rw [Outbox.hasSignal_iff] at hp ⊢
  obtain ⟨r, hr, hid⟩ := hp
  exact ⟨r, h.frozen.subset hr, hid⟩

theorem Quiet.refl (p : Publication rt) : p.Quiet p := ⟨List.prefix_refl _, rfl, fun _ hf _ => hf⟩

theorem Quiet.keeps (h : p.Quiet q) : p.Keeps q := ⟨h.log, h.frozen ▸ List.prefix_refl _⟩

theorem Quiet.hasSignal_iff (h : p.Quiet q) :
    q.outbox.HasSignal signalId ↔ p.outbox.HasSignal signalId := by
  rw [Outbox.hasSignal_iff, Outbox.hasSignal_iff, h.frozen]

theorem Quiet.trans (h : p.Quiet q) (h' : q.Quiet u) : p.Quiet u where
  log := h.log.trans h'.log
  frozen := h'.frozen.trans h.frozen
  intents f hf hnone := h'.intents f (h.intents f hf hnone) (mt h.hasSignal_iff.mp hnone)

end Publication

/-! ## The invariant -/

/-- A state in which every row is that of a frozen envelope with the property `Ok`, which may depend
on the log. -/
structure Sound (lib : EnvelopeLibrary) (releases : String → Except PipError ProducerRelease)
    (Ok : List (AppendCall rt) → FrozenEnvelope → Prop) (p : Publication rt) : Prop where
  rows : ∀ r ∈ p.outbox.frozen, ∃ f : FrozenEnvelope,
    IsFrozen rt lib releases f ∧ r.Carries f ∧ Ok p.log f
  intents : ∀ f ∈ p.intents.rows, IsFrozen rt lib releases f
  signals : ∀ s ∈ completedSignals p.log, s.producerId = Producer.producerId

variable {Ok : List (AppendCall rt) → FrozenEnvelope → Prop} {p q : Publication rt}

theorem IsFrozen.producerId_eq {f : FrozenEnvelope} (h : IsFrozen rt lib releases f) :
    f.producerId = Producer.producerId := by
  obtain ⟨s, hs⟩ := h
  exact hs.producerId

theorem IsFrozen.eventId_eq {f : FrozenEnvelope} (h : IsFrozen rt lib releases f) :
    f.eventId = eventIdOf rt f.signalId := by
  obtain ⟨s, hs⟩ := h
  exact hs.eventId

/-- **A signal has at most one row.** -/
theorem Sound.eq_of_signalId (h : Sound lib releases Ok p) {r r' : OutboxRow}
    (hr : r ∈ p.outbox.rows) (hr' : r' ∈ p.outbox.rows) (hid : r.signalId = r'.signalId) : r = r' := by
  obtain ⟨f, hf, hc, -⟩ := h.rows _ (List.mem_map_of_mem hr)
  obtain ⟨f', hf', hc', -⟩ := h.rows _ (List.mem_map_of_mem hr')
  refine eq_of_key p.outbox.events hr hr' (Prod.ext ?_ ?_)
  · show r.producerId = r'.producerId
    rw [hc.producerId, hc'.producerId, hf.producerId_eq, hf'.producerId_eq]
  · show r.eventId = r'.eventId
    rw [hc.eventId, hc'.eventId, hf.eventId_eq, hf'.eventId_eq, ← hc.signalId, ← hc'.signalId, hid]

theorem Sound.eq_of_mem_frozen (h : Sound lib releases Ok p) {r r' : FrozenColumns} (hr : r ∈ p.outbox.frozen)
    (hr' : r' ∈ p.outbox.frozen) (hid : r.signalId = r'.signalId) : r = r' := by
  obtain ⟨row, hrow, rfl⟩ := List.mem_map.mp hr
  obtain ⟨row', hrow', rfl⟩ := List.mem_map.mp hr'
  rw [h.eq_of_signalId hrow hrow' hid]

/-- The row of an envelope's signal is that of its event. -/
theorem Sound.isEvent (h : Sound lib releases Ok p) {f : FrozenEnvelope}
    (hf : IsFrozen rt lib releases f) (hhas : p.outbox.HasSignal f.signalId) :
    ∃ r ∈ p.outbox.rows, IsEvent f r := by
  obtain ⟨r, hr, hid⟩ := hhas
  obtain ⟨g, hg, hc, -⟩ := h.rows _ (List.mem_map_of_mem hr)
  refine ⟨r, hr, ?_, ?_⟩
  · rw [hc.producerId, hg.producerId_eq, hf.producerId_eq]
  · rw [hc.eventId, hg.eventId_eq, hf.eventId_eq, ← hc.signalId, hid]

/-- The invariant is kept where no row comes and staged intents only go. -/
theorem Sound.of_subset (h : Sound lib releases Ok p) (hlog : q.log = p.log)
    (hfrozen : q.outbox.frozen = p.outbox.frozen)
    (hintents : ∀ f ∈ q.intents.rows, f ∈ p.intents.rows) : Sound lib releases Ok q where
  rows := by
    rw [hfrozen, hlog]
    exact h.rows
  intents f hf := h.intents f (hintents f hf)
  signals := by
    rw [hlog]
    exact h.signals

/-! ## Transactions of the outbox -/

section Transactions

variable {db db' : Outbox} {now : ℤ}

/-- `enqueue` finds the row of the signal, or adds one of a new event. -/
theorem enqueue_frozen {f : FrozenEnvelope} {outboxId : String} {item : OutboxItem}
    (h : enqueue db f outboxId now = .ok (item, db')) :
    (db' = db ∧ db.HasSignal f.signalId) ∨
      (db'.frozen = db.frozen ++ [(newRow f outboxId now).toFrozenColumns] ∧
        ∀ r ∈ db.rows, ¬ IsEvent f r) := by
  unfold enqueue at h
  split at h
  · rename_i row hrow
    obtain ⟨hsame, h⟩ := raiseIf_bind_eq_ok.mp h
    cases h
    simp only [not_or, not_not] at hsame
    exact .inl ⟨rfl, row, List.mem_of_find?_eq_some hrow, hsame.2.2⟩
  · rename_i hnone
    obtain ⟨db₁, h₁, h⟩ := bind_eq_ok.mp h
    cases h
    unfold insertRow at h₁
    split_ifs at h₁ with hmem
    cases h₁
    refine .inr ⟨List.map_append, fun r hr hevent => ?_⟩
    simpa [hevent] using List.find?_eq_none.mp hnone r hr

theorem update_frozen {p : OutboxRow → Prop} [DecidablePred p] {set : OutboxRow → OutboxRow}
    {hset : ∀ r, (set r).toFrozenColumns = r.toFrozenColumns} :
    (db.update p set hset).frozen = db.frozen :=
  map_updateWhere _ hset

theorem insertAudit_frozen {row : AuditRow} (h : db.insertAudit row = .ok db') :
    db'.frozen = db.frozen :=
  congrArg (List.map OutboxRow.toFrozenColumns) (insertAudit_rows h)

theorem recover_frozen (h : recover db now = .ok db') : db'.frozen = db.frozen := by
  obtain ⟨db₁, h₁, h₂⟩ := bind_eq_ok.mp h
  replace h₁ := (Outbox.updateEach_eq_ok.mp h₁).1
  replace h₂ := (Outbox.updateEach_eq_ok.mp h₂).1
  exact (map_mapM_eq_ok _ _ (fun _ _ => recoverHorizon_frozen) h₂).trans
    (map_mapM_eq_ok _ _ (fun _ _ => recoverLease_frozen) h₁)

theorem claimDue_frozen {owner token : String} {leaseSeconds : ℤ}
    {choice : RowChoice OutboxRow DueOrder} {item : Option OutboxItem}
    (h : claimDue db owner leaseSeconds token choice now = .ok (item, db')) :
    db'.frozen = db.frozen := by
  obtain ⟨-, h⟩ := check_bind_eq_ok.mp h
  obtain ⟨expires, -, h⟩ := bind_eq_ok.mp h
  obtain ⟨minimum, -, h⟩ := bind_eq_ok.mp h
  dsimp only at h
  split at h
  · cases h
    rfl
  · obtain ⟨-, h⟩ := raiseIf_bind_eq_ok.mp h
    cases h
    exact update_frozen

theorem claimDeadLetterOnce_frozen {eventId owner operatorId reason token auditId : String}
    {leaseSeconds : ℤ} {choice : RowChoice OutboxRow fun _ _ => True} {item : OutboxItem}
    (h : claimDeadLetterOnce db eventId owner operatorId reason leaseSeconds token auditId choice now =
      .ok (item, db')) :
    db'.frozen = db.frozen := by
  obtain ⟨-, h⟩ := check_bind_eq_ok.mp h
  obtain ⟨-, h⟩ := check_bind_eq_ok.mp h
  obtain ⟨expires, -, h⟩ := bind_eq_ok.mp h
  dsimp only at h
  split at h
  · cases h
  · obtain ⟨db₁, h₁, h⟩ := bind_eq_ok.mp h
    cases h
    exact update_frozen.trans (insertAudit_frozen h₁)

theorem operatorDeadLetter_frozen {eventId operatorId reason auditId : String} {changed : Bool}
    (h : operatorDeadLetter db eventId operatorId reason auditId now = .ok (changed, db')) :
    db'.frozen = db.frozen := by
  obtain ⟨-, h⟩ := check_bind_eq_ok.mp h
  dsimp only at h
  split_ifs at h
  · cases h
    exact update_frozen
  · obtain ⟨db₁, h₁, h⟩ := bind_eq_ok.mp h
    cases h
    exact (insertAudit_frozen h₁).trans update_frozen

theorem finish_frozen {item : OutboxItem} {o : Outcome} {changed : Bool}
    (h : finish db item o now = .ok (changed, db')) : db'.frozen = db.frozen := by
  unfold finish at h
  split at h
  · split_ifs at h
    · cases h
      rfl
    · obtain ⟨-, h⟩ := raiseIf_bind_eq_ok.mp h
      cases h
      exact update_frozen
  · cases h

/-- Other transactions than `enqueue`. -/
def Operation.Enqueues : Operation → Prop
  | .enqueue _ _ => True
  | _ => False

/-- **Delivery adds no row and changes no frozen column.** -/
theorem frozen_of_run {op : Operation} {reply : Reply} (hop : ¬ op.Enqueues)
    (h : op.run db now = .ok (reply, db')) : db'.frozen = db.frozen := by
  cases op with
  | enqueue frozen outboxId => exact absurd trivial hop
  | recover =>
    obtain ⟨db₁, h₁, h⟩ := bind_eq_ok.mp h
    cases h
    exact recover_frozen h₁
  | claimDue owner leaseSeconds token choice =>
    obtain ⟨⟨item, db₁⟩, h₁, h⟩ := bind_eq_ok.mp h
    cases h
    exact claimDue_frozen h₁
  | claimDeadLetterOnce eventId owner operatorId reason leaseSeconds token auditId choice =>
    obtain ⟨⟨item, db₁⟩, h₁, h⟩ := bind_eq_ok.mp h
    cases h
    exact claimDeadLetterOnce_frozen h₁
  | operatorDeadLetter eventId operatorId reason auditId =>
    obtain ⟨⟨changed, db₁⟩, h₁, h⟩ := bind_eq_ok.mp h
    cases h
    exact operatorDeadLetter_frozen h₁
  | acknowledge item receiptId resultClass httpStatus =>
    obtain ⟨⟨changed, db₁⟩, h₁, h⟩ := bind_eq_ok.mp h
    cases h
    exact finish_frozen h₁
  | retry item nextAttemptAt resultClass httpStatus =>
    obtain ⟨⟨changed, db₁⟩, h₁, h⟩ := bind_eq_ok.mp h
    cases h
    exact finish_frozen h₁
  | deadLetter item reason resultClass httpStatus =>
    obtain ⟨⟨changed, db₁⟩, h₁, h⟩ := bind_eq_ok.mp h
    cases h
    exact finish_frozen h₁

theorem Claims.item_frozen {mode : ClaimMode} {token owner : String}
    {item : OutboxItem} {r : OutboxRow} {expires : ℤ}
    (h : Claims db db' now mode token item r owner expires) : item.toFrozenColumns ∈ db.frozen := by
  rw [h.item_eq]
  show r.toFrozenColumns ∈ db.rows.map OutboxRow.toFrozenColumns
  exact List.mem_map_of_mem h.mem

/-- What a claim gives is a row's. -/
theorem items_frozen {op : Operation} {reply : Reply} (hop : ¬ op.Enqueues)
    (h : op.run db now = .ok (reply, db')) {item : OutboxItem} (hitem : item ∈ reply.items) :
    item.toFrozenColumns ∈ db.frozen := by
  cases op with
  | enqueue frozen outboxId => exact absurd trivial hop
  | claimDue owner leaseSeconds token choice =>
    obtain ⟨⟨claimed, db₁⟩, h₁, h⟩ := bind_eq_ok.mp h
    cases h
    cases claimed with
    | none => cases hitem
    | some claimed =>
      obtain rfl := List.mem_singleton.mp hitem
      obtain ⟨r, expires, hclaims⟩ := claimDue_claims h₁
      exact hclaims.item_frozen
  | claimDeadLetterOnce eventId owner operatorId reason leaseSeconds token auditId choice =>
    obtain ⟨⟨claimed, db₁⟩, h₁, h⟩ := bind_eq_ok.mp h
    cases h
    obtain rfl := List.mem_singleton.mp hitem
    obtain ⟨r, expires, hclaims⟩ := claimDeadLetterOnce_claims h₁
    exact hclaims.item_frozen
  | _ =>
    obtain ⟨_, -, h⟩ := bind_eq_ok.mp h
    cases h
    cases hitem

end Transactions

/-! ## Staging -/

/-- A contract under which signals may be staged. -/
structure Fits (lib : EnvelopeLibrary) (releases : String → Except PipError ProducerRelease)
    (Ok : List (AppendCall rt) → FrozenEnvelope → Prop) (c : Contract (Publication rt)) : Prop where
  inv : ∀ p, c.inv p ↔ Sound lib releases Ok p
  rely : ∀ p q, c.rely p q → p.Keeps q
  guarantee : ∀ p q, p.Quiet q → c.guarantee p q
  kept : ∀ p q, c.guarantee p q → p.Keeps q

variable {c : Contract (Publication rt)} {signalId : String}

/-- A staged intent may be discarded once its signal has a row. -/
theorem discard_meets (hc : Fits lib releases Ok c) (h : p.outbox.HasSignal signalId) :
    Routine.Meets c (fun _ q => q.outbox.HasSignal signalId) (discard rt signalId) p := by
  refine Routine.meets_transaction fun t hinv hrely a u hu => ?_
  cases hu
  have hhas := (hc.rely _ _ hrely).hasSignal h
  refine ⟨(hc.inv _).mpr (((hc.inv t).mp hinv).of_subset rfl rfl ?_), hc.guarantee _ _ ?_, hhas⟩
  · exact fun f hf => (IntentTable.mem_delete.mp hf).1
  · refine ⟨List.prefix_refl _, rfl, fun f hf hnone => IntentTable.mem_delete.mpr ⟨hf, ?_⟩⟩
    rintro rfl
    exact hnone hhas

theorem hasOutboxSignal_meets (hc : Fits lib releases Ok c) (signalId : String) (p : Publication rt) :
    Routine.Meets c (fun found q => found = true ↔ q.outbox.HasSignal signalId)
      (hasOutboxSignal rt signalId) p := by
  have hread : Routine.Meets c (fun found q => found = true ↔ q.outbox.HasSignal signalId)
      (.read fun p => decide (p.outbox.HasSignal signalId) : Routine _ PipError Bool) p :=
    Routine.meets_read fun t _ _ => decide_eq_true_iff
  refine hread.bind fun found q hfound => ?_
  cases found with
  | false => exact hfound
  | true =>
    refine (discard_meets hc (hfound.mp rfl)).bind fun _ t ht => ?_
    exact iff_of_true rfl ht

/-- An intent that agrees with the staged one is the staged one. -/
theorem mem_of_checkStaged {t : IntentTable} {existing f : FrozenEnvelope}
    (hstaged : t.get? f.signalId = some existing) (hsame : checkStaged existing f = .ok ()) :
    f ∈ t.rows := by
  rw [checkStaged, raiseIf_eq_ok, not_not] at hsame
  rw [← hsame]
  exact (IntentTable.get?_eq_some.mp hstaged).1

/-- The intent that is inserted, unless another caller has staged it since. -/
theorem insertIntent_meets (hc : Fits lib releases Ok c) {f : FrozenEnvelope}
    (hf : IsFrozen rt lib releases f) (p : Publication rt) :
    Routine.Meets c (fun _ q => f ∈ q.intents.rows) (.transaction (insertIntent rt f)) p := by
  refine Routine.meets_transaction fun t hinv hrely a u hu => ?_
  unfold insertIntent at hu
  split at hu
  · rename_i existing hexisting
    obtain ⟨hsame, hu⟩ := check_bind_eq_ok.mp hu
    cases hu
    exact ⟨hinv, c.guarantee_refl _, mem_of_checkStaged hexisting hsame⟩
  · obtain ⟨intents, hintents, hu⟩ := bind_eq_ok.mp hu
    cases hu
    have hrows := IntentTable.rows_of_insert hintents
    have hsound := (hc.inv t).mp hinv
    refine ⟨(hc.inv _).mpr ⟨hsound.rows, ?_, hsound.signals⟩, hc.guarantee _ _ ?_, ?_⟩
    · intro g hg
      rcases List.mem_append.mp (hrows ▸ hg) with hg | hg
      · exact hsound.intents g hg
      · exact List.mem_singleton.mp hg ▸ hf
    · refine ⟨List.prefix_refl _, rfl, fun g hg _ => ?_⟩
      show g ∈ intents.rows
      rw [hrows]
      exact List.mem_append_left _ hg
    · show f ∈ intents.rows
      rw [hrows]
      exact List.mem_append_right _ (List.mem_singleton_self _)

/-- **A signal that was staged has a row or a staged intent.** -/
theorem stage_meets (hc : Fits lib releases Ok c) {f : FrozenEnvelope}
    (hf : IsFrozen rt lib releases f) (p : Publication rt) :
    Routine.Meets c (fun _ q => q.outbox.HasSignal f.signalId ∨ f ∈ q.intents.rows) (stage rt f) p := by
  refine (hasOutboxSignal_meets hc f.signalId p).bind fun found q hfound => ?_
  cases found with
  | true => exact .inl (hfound.mp rfl)
  | false =>
    have hget : Routine.Meets c (fun o t => o = t.intents.get? f.signalId) (get rt f.signalId) q :=
      Routine.meets_read fun t _ _ => rfl
    refine hget.bind fun o t ho => ?_
    cases o with
    | some existing =>
      refine Routine.meets_lift_bind fun _ hsame => ?_
      exact .inr (mem_of_checkStaged ho.symm hsame)
    | none => exact (insertIntent_meets hc hf t).mono fun _ u hu => .inr hu

/-- The signal has a row, or an intent with its event is staged. -/
def Staged (lib : EnvelopeLibrary) (releases : String → Except PipError ProducerRelease)
    (p : Publication rt) (s : HermesSignal) : Prop :=
  p.outbox.HasSignal s.signalId ∨ ∃ f ∈ p.intents.rows, f.signalId = s.signalId ∧
    eventBytes rt lib releases s f.keyId = .ok f.canonicalEventBytes

theorem stageSignal_meets (hc : Fits lib releases Ok c) {s : HermesSignal}
    (hs : s.producerId = Producer.producerId) (config : PipExporterConfig) (values : CallValues)
    (p : Publication rt) :
    Routine.Meets c (fun _ q => config.enabled = true → Staged lib releases q s)
      (stageSignal rt lib releases s config values) p := by
  unfold stageSignal
  split_ifs with henabled
  · refine (hasOutboxSignal_meets hc s.signalId p).bind fun found q hfound => ?_
    cases found with
    | true => exact fun _ => .inl (hfound.mp rfl)
    | false =>
      refine Routine.meets_lift_bind fun f hf => ?_
      have hfreezes := freezesAs_of_freeze hf hs
      refine (stage_meets hc ⟨s, hfreezes⟩ q).bind fun _ t ht _ => ?_
      rw [hfreezes.signalId] at ht
      exact ht.imp_right fun hmem => ⟨f, hmem, hfreezes.signalId, hfreezes.event⟩
  · exact fun h => absurd h henabled

/-! ## Promotion -/

/-- A contract under which signals may be reconciled. -/
structure Reconciles (lib : EnvelopeLibrary) (releases : String → Except PipError ProducerRelease)
    (Ok : List (AppendCall rt) → FrozenEnvelope → Prop) (c : Contract (Publication rt)) : Prop extends
    Fits lib releases Ok c where
  keeps : ∀ p q, p.Keeps q → c.guarantee p q
  /-- What is right for a row stays so as the log grows. -/
  later : ∀ log log' f, log <+: log' → Ok log f → Ok log' f

/-- What every step keeps is kept by the call. -/
theorem Fits.framed {α : Type} (hc : Fits lib releases Ok c) {post : α → Publication rt → Prop}
    {x : Routine (Publication rt) PipError α} (h : Routine.Meets c post x p) :
    Routine.Meets c (fun a q => p.Keeps q ∧ post a q) x p :=
  h.framed Publication.Keeps.refl (fun _ _ _ => .trans) hc.rely hc.kept

theorem hasSignal_of_frozen (h : q.outbox.frozen = p.outbox.frozen)
    (hp : p.outbox.HasSignal signalId) : q.outbox.HasSignal signalId := by
  rw [Outbox.hasSignal_iff] at hp ⊢
  rwa [h]

/-- The row that is inserted. -/
theorem enqueue_meets (hc : Reconciles lib releases Ok c) {f : FrozenEnvelope}
    (hf : IsFrozen rt lib releases f) (hok : p.outbox.HasSignal f.signalId ∨ Ok p.log f)
    (outboxId : String) (now : ℤ) :
    Routine.Meets c (fun _ q => q.outbox.HasSignal f.signalId)
      (onOutbox rt fun db => enqueue db f outboxId now) p := by
  refine Routine.meets_transaction fun u hinv hrely item v hv => ?_
  have hsound := (hc.inv u).mp hinv
  have hkeeps := hc.rely _ _ hrely
  obtain ⟨⟨item', db'⟩, henqueue, hv⟩ := bind_eq_ok.mp hv
  cases hv
  rcases enqueue_frozen henqueue with ⟨rfl, hhas⟩ | ⟨hfrozen, hnew⟩
  · exact ⟨hinv, c.guarantee_refl _, hhas⟩
  · have hnone : ¬ u.outbox.HasSignal f.signalId := by
      intro hhas
      obtain ⟨r, hr, hevent⟩ := hsound.isEvent hf hhas
      exact hnew r hr hevent
    have hoku : Ok u.log f :=
      hc.later _ _ f hkeeps.log (hok.resolve_left fun h => hnone (hkeeps.hasSignal h))
    refine ⟨(hc.inv _).mpr ⟨?_, hsound.intents, hsound.signals⟩, hc.keeps _ _ ?_, ?_⟩
    · intro r hr
      rcases List.mem_append.mp (hfrozen ▸ hr) with hr | hr
      · exact hsound.rows r hr
      · obtain rfl := List.mem_singleton.mp hr
        exact ⟨f, hf, ⟨rfl, rfl, rfl, rfl, rfl, rfl, rfl⟩, hoku⟩
    · exact ⟨List.prefix_refl _, hfrozen ▸ List.prefix_append _ _⟩
    · rw [Outbox.hasSignal_iff]
      show ∃ r ∈ db'.frozen, r.signalId = f.signalId
      rw [hfrozen]
      exact ⟨_, List.mem_append_right _ (List.mem_singleton_self _), rfl⟩

/-- What `promote` does after it has enqueued. -/
theorem recover_meets (hc : Reconciles lib releases Ok c) (h : p.outbox.HasSignal signalId)
    (now : ℤ) :
    Routine.Meets c (fun _ q => q.outbox.HasSignal signalId)
      (onOutbox rt fun db => do return ((), ← recover db now)) p := by
  refine Routine.meets_transaction fun t hinv hrely _ u hu => ?_
  obtain ⟨⟨⟨⟩, db'⟩, hrecovered, hu⟩ := bind_eq_ok.mp hu
  obtain ⟨db'', hrecovered, heq⟩ := bind_eq_ok.mp hrecovered
  cases heq
  cases hu
  have hfrozen := recover_frozen hrecovered
  refine ⟨(hc.inv _).mpr (((hc.inv t).mp hinv).of_subset rfl hfrozen fun _ hf => hf),
    hc.guarantee _ _ ⟨List.prefix_refl _, hfrozen, fun _ hf _ => hf⟩, ?_⟩
  exact hasSignal_of_frozen hfrozen ((hc.rely _ _ hrely).hasSignal h)

/-- **What is promoted is what `promote` finds staged.** -/
theorem promote_meets (hc : Reconciles lib releases Ok c) {N : Prop}
    (hnone : ∀ t, c.rely p t → t.intents.get? signalId = none → N)
    (hsome : ∀ t f, c.rely p t → t.intents.get? signalId = some f →
      t.outbox.HasSignal signalId ∨ Ok t.log f) (values : CallValues) :
    Routine.Meets c (fun promoted q => q.outbox.HasSignal signalId ∨ (promoted = false ∧ N))
      (promote rt signalId values) p := by
  have hget : Routine.Meets c
      (fun o t => c.inv t ∧ c.rely p t ∧ o = t.intents.get? signalId) (get rt signalId) p :=
    Routine.meets_read fun t hinv hrely => ⟨hinv, hrely, rfl⟩
  refine hget.bind fun o t ho => ?_
  obtain ⟨hinv, hrely, ho⟩ := ho
  cases o with
  | none =>
    refine (hasOutboxSignal_meets hc.toFits signalId t).mono fun promoted q hpromoted => ?_
    cases promoted with
    | true => exact .inl (hpromoted.mp rfl)
    | false => exact .inr ⟨rfl, hnone t hrely ho.symm⟩
  | some f =>
    have hok := hsome t f hrely ho.symm
    obtain ⟨hf, rfl⟩ := IntentTable.get?_eq_some.mp ho.symm
    refine (enqueue_meets hc (((hc.inv t).mp hinv).intents f hf) hok _ _).bind fun _ u hu => ?_
    refine (recover_meets hc hu values.current).bind fun _ v hv => ?_
    refine Routine.meets_bind.mpr (Routine.meets_write fun w hinv hrely => ?_)
    refine ⟨(hc.inv _).mpr (((hc.inv w).mp hinv).of_subset rfl rfl fun g hg =>
      (IntentTable.mem_delete.mp hg).1), hc.keeps _ _ ⟨List.prefix_refl _, List.prefix_refl _⟩, ?_⟩
    exact .inl ((hc.rely _ _ hrely).hasSignal hv)

/-! ## Reconciliation -/

/-- What `promote` does for a signal that has a row or is staged. -/
def Promotes (lib : EnvelopeLibrary) (releases : String → Except PipError ProducerRelease)
    (c : Contract (Publication rt)) (Q : Publication rt → String → Prop) : Prop :=
  ∀ (first : HermesSignal) (values : CallValues) (p : Publication rt),
    firstSignal p.log first.signalId = some first → Staged lib releases p first →
    Routine.Meets c (fun _ q => Q q first.signalId) (promote rt first.signalId values) p

variable {Q : Publication rt → String → Prop} {first : HermesSignal} {config : PipExporterConfig}

/-- A reconciliation may discard staged intents. -/
theorem delete_meets {α : Type} (hc : Reconciles lib releases Ok c) (a : Publication rt → α)
    (gone : FrozenEnvelope → Prop) [DecidablePred gone] (p : Publication rt) :
    Routine.Meets c (fun _ _ => True)
      (.transaction fun p => .ok (a p, { p with intents := p.intents.delete gone }) :
        Routine _ PipError α) p := by
  refine Routine.meets_transaction fun t hinv hrely a u hu => ?_
  cases hu
  refine ⟨(hc.inv _).mpr (((hc.inv t).mp hinv).of_subset rfl rfl fun f hf =>
    (IntentTable.mem_delete.mp hf).1), hc.keeps _ _ ?_, trivial⟩
  exact ⟨List.prefix_refl _, List.prefix_refl _⟩

theorem publishFirst_meets (hc : Reconciles lib releases Ok c) (hpromotes : Promotes lib releases c Q)
    (henabled : config.enabled = true) (hfirst : firstSignal p.log first.signalId = some first)
    (hproducer : first.producerId = Producer.producerId) (values : CallValues) :
    Routine.Meets c (fun _ q => Q q first.signalId)
      (publishFirst rt lib releases first config values) p := by
  refine (hc.framed (stageSignal_meets hc.toFits hproducer config values p)).bind
    fun _ q hstaged => ?_
  obtain ⟨hkeeps, hstaged⟩ := hstaged
  rw [promoteStagedSignal, if_pos henabled]
  exact hpromotes first values q (firstSignal_grow hkeeps.log hfirst) (hstaged henabled)

/-- **One signal.** -/
theorem reconcileSignal_meets (hc : Reconciles lib releases Ok c)
    (hpromotes : Promotes lib releases c Q) (hhas : ∀ q id, q.outbox.HasSignal id → Q q id)
    (henabled : config.enabled = true) (hfirst : firstSignal p.log first.signalId = some first)
    (hproducer : first.producerId = Producer.producerId) (values : CallValues) :
    Routine.Meets c (fun _ q => Q q first.signalId)
      (reconcileSignal rt lib releases first config values) p := by
  refine (hc.framed (hasOutboxSignal_meets hc.toFits first.signalId p)).bind
    fun found q hfound => ?_
  obtain ⟨hkeeps, hfound⟩ := hfound
  cases found with
  | true => exact hhas q _ (hfound.mp rfl)
  | false =>
    have hget : Routine.Meets c (fun o t => q.Keeps t ∧ o = t.intents.get? first.signalId)
        (get rt first.signalId) q :=
      Routine.meets_read fun t _ hrely => ⟨hc.rely _ _ hrely, rfl⟩
    refine hget.bind fun o t ho => ?_
    obtain ⟨hkeeps', ho⟩ := ho
    have hfirst' := firstSignal_grow (hkeeps.trans hkeeps').log hfirst
    cases o with
    | none => exact publishFirst_meets hc hpromotes henabled hfirst' hproducer values
    | some intent =>
      obtain ⟨hmem, hid⟩ := IntentTable.get?_eq_some.mp ho.symm
      refine Routine.meets_lift_bind fun same hsame => ?_
      obtain ⟨bytes, hbytes, hsame⟩ := bind_eq_ok.mp hsame
      cases same with
      | true =>
        obtain rfl := of_decide_eq_true (Except.ok.inj hsame)
        exact hpromotes first values t hfirst' (.inr ⟨intent, hmem, hid, hbytes⟩)
      | false =>
        refine (hc.framed (delete_meets hc _ _ t)).bind fun _ u hu => ?_
        exact publishFirst_meets hc hpromotes henabled (firstSignal_grow hu.1.log hfirst')
          hproducer values

theorem discardOrphans_meets (hc : Reconciles lib releases Ok c) (committedSignalIds : List String)
    (p : Publication rt) :
    Routine.Meets c (fun _ _ => True) (discardOrphans rt committedSignalIds) p := by
  have hread : Routine.Meets c (fun _ _ => True)
      (.read fun p => p.intents.rows.map FrozenEnvelope.signalId :
        Routine _ PipError (List String)) p :=
    Routine.meets_read fun _ _ _ => trivial
  refine hread.bind fun signalIds q _ => ?_
  show Routine.Meets c _ (if _ then _ else _) q
  split_ifs
  · trivial
  · exact delete_meets hc _ _ q

/-- **The loop** over the first records of a log that has been read. -/
theorem reconcileSignals_meets (hc : Reconciles lib releases Ok c)
    (hpromotes : Promotes lib releases c Q) (hhas : ∀ q id, q.outbox.HasSignal id → Q q id)
    (hlater : ∀ p q id, p.Keeps q → Q p id → Q q id) (henabled : config.enabled = true)
    (values : CallValues) (hproducer : ∀ s ∈ completedSignals p.log, s.producerId = Producer.producerId)
    (hkeeps : p.Keeps q) :
    Routine.Meets c
      (fun _ u => ∀ x ∈ firstBy HermesSignal.signalId (completedSignals p.log), Q u x.signalId)
      ((firstBy HermesSignal.signalId (completedSignals p.log)).foldlM
        (countPromoted rt lib releases config values) 0) q := by
  -- the signals before the loop's position are reconciled
  let holds (before : List HermesSignal) (_ : ℕ) (u : Publication rt) : Prop :=
    p.Keeps u ∧ ∀ x ∈ before, Q u x.signalId
  have hstart : holds [] 0 q := ⟨hkeeps, List.forall_mem_nil _⟩
  refine (Routine.meets_foldlM hstart ?_).mono fun _ u h => h.2
  intro before x after promoted u hl hholds
  obtain ⟨hkeepsu, hbefore⟩ := hholds
  have hx : firstSignal p.log x.signalId = some x :=
    find?_of_mem_firstBy (hl ▸ List.mem_append_right _ List.mem_cons_self)
  have hsignal := reconcileSignal_meets hc hpromotes hhas henabled
    (firstSignal_grow hkeepsu.log hx) (hproducer x (mem_of_firstSignal hx).1) values
  refine (hc.framed hsignal).bind fun done r hr => ?_
  obtain ⟨hkeepsr, hr⟩ := hr
  have hall : p.Keeps r ∧ ∀ y ∈ before ++ [x], Q r y.signalId := by
    refine ⟨hkeepsu.trans hkeepsr, fun y hy => ?_⟩
    rcases List.mem_append.mp hy with hy | hy
    · exact hlater u r _ hkeepsr (hbefore y hy)
    · exact List.mem_singleton.mp hy ▸ hr
  cases done <;> exact hall

/-- **A reconciliation**: every signal whose record was durable when it began. -/
theorem reconcileSignalLog_meets (hc : Reconciles lib releases Ok c)
    (hpromotes : Promotes lib releases c Q) (hhas : ∀ q id, q.outbox.HasSignal id → Q q id)
    (hlater : ∀ p q id, p.Keeps q → Q p id → Q q id) (config : PipExporterConfig)
    (values : CallValues) (p : Publication rt) :
    Routine.Meets c
      (fun _ q => config.enabled = true → ∀ s ∈ completedSignals p.log, Q q s.signalId)
      (reconcileSignalLog rt py lib releases config values) p := by
  unfold reconcileSignalLog
  split_ifs with henabled
  · have hread : Routine.Meets c
        (fun file t => p.Keeps t ∧ c.inv t ∧ file = signalLog t.log)
        (.read fun p => signalLog p.log : Routine _ PipError ReadBytes) p :=
      Routine.meets_read fun t hinv hrely => ⟨hc.rely _ _ hrely, hinv, rfl⟩
    refine hread.bind fun file t hfile => ?_
    obtain ⟨hkeeps, hinv, hfile⟩ := hfile
    refine Routine.meets_lift_bind fun signals hsignals => ?_
    rw [hfile] at hsignals
    obtain rfl := eq_of_readCommittedSignals hsignals
    have hproducer := ((hc.inv t).mp hinv).signals
    refine (hc.framed (discardOrphans_meets hc _ t)).bind fun _ u hu => ?_
    have hloop := reconcileSignals_meets hc hpromotes hhas hlater henabled values hproducer hu.1
    refine hloop.mono fun _ q hq _ s hs => ?_
    have hmem : s.signalId ∈ (firstBy HermesSignal.signalId (completedSignals t.log)).map
        HermesSignal.signalId :=
      mem_map_firstBy.mpr (List.mem_map_of_mem ((completedSignals_grow hkeeps.log).subset hs))
    obtain ⟨x, hx, hid⟩ := List.mem_map.mp hmem
    rw [← hid]
    exact hq x hx
  · exact fun h => absurd h henabled

end WeatherBot.Pip
