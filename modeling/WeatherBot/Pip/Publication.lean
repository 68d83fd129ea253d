import WeatherBot.Common.FirstBy
import WeatherBot.Common.Routine
import WeatherBot.Pip.Envelope
import WeatherBot.Pip.Leases
import WeatherBot.Pip.TornLog

/-!
# Publication of signals

`PipIntentStore` (`pip/intents.py`), `stage_signal` and `promote_staged_signal`
(`pip/runtime.py`) and `reconcile_signal_log` (`pip/reconcile.py`). The scans of
the producer and the publication workers share the signal log, the table of staged
intents and the outbox. A method is a `Routine`: each read of the log, and each
statement or transaction of SQLite, is one step of it.

A file without the table `pip_outbox` is one whose outbox has no rows.

* `IntentTable.get?_eq_some`: a signal has at most one staged intent.
* `PublicationCall.program`: the steps of each call.
-/

namespace WeatherBot.Pip

open WeatherBot.Common
open WeatherBot.Domain
open WeatherBot.Producer

/-! ## Staged intents -/

/-- The table `pip_publication_intent`, with the keys that SQLite enforces: `signal_id` and
`(producer_id, event_id)`. -/
structure IntentTable where
  rows : List FrozenEnvelope
  signalIds : (rows.map FrozenEnvelope.signalId).Nodup
  events : (rows.map fun f => (f.producerId, f.eventId)).Nodup

namespace IntentTable

theorem events_nil : (([] : List FrozenEnvelope).map fun f => (f.producerId, f.eventId)).Nodup :=
  List.nodup_nil

/-- The table after `_migrate` on a new file. -/
def empty : IntentTable := ⟨[], List.nodup_nil, events_nil⟩

/-- `SELECT * FROM pip_publication_intent WHERE signal_id=?`. -/
def get? (t : IntentTable) (signalId : String) : Option FrozenEnvelope :=
  t.rows.find? fun f => f.signalId = signalId

/-- `DELETE FROM pip_publication_intent WHERE p`. -/
def delete (t : IntentTable) (p : FrozenEnvelope → Prop) [DecidablePred p] : IntentTable where
  rows := t.rows.filter fun f => ¬ p f
  signalIds := t.signalIds.sublist ((List.filter_sublist).map _)
  events := t.events.sublist ((List.filter_sublist).map _)

/-- `INSERT INTO pip_publication_intent`. -/
def insert (t : IntentTable) (frozen : FrozenEnvelope) : Except PipError IntentTable :=
  if hsignal : frozen.signalId ∈ t.rows.map FrozenEnvelope.signalId then
    .error (.raised ⟨.integrityError, "UNIQUE constraint failed: pip_publication_intent.signal_id"⟩)
  else if hevent : ∃ f ∈ t.rows, f.producerId = frozen.producerId ∧ f.eventId = frozen.eventId then
    .error (.raised ⟨.integrityError, "UNIQUE constraint failed: " ++
      "pip_publication_intent.producer_id, pip_publication_intent.event_id"⟩)
  else .ok {
    rows := t.rows ++ [frozen]
    signalIds := nodup_map_append_singleton t.signalIds hsignal
    events := by
      refine nodup_map_append_singleton t.events fun hmem => ?_
      obtain ⟨f, hf, hkey⟩ := List.mem_map.mp hmem
      exact hevent ⟨f, hf, Prod.mk.inj hkey⟩ }

theorem get?_eq_some {t : IntentTable} {signalId : String} {f : FrozenEnvelope} :
    t.get? signalId = some f ↔ f ∈ t.rows ∧ f.signalId = signalId := by
  have hfound : ∀ {g id}, t.get? id = some g → g ∈ t.rows ∧ g.signalId = id := by
    intro g id h
    rw [get?, List.find?_eq_some_iff_append] at h
    obtain ⟨hkey, before, after, hrows, -⟩ := h
    exact ⟨hrows ▸ List.mem_append_right _ List.mem_cons_self, of_decide_eq_true hkey⟩
  constructor
  · exact hfound
  · rintro ⟨hf, rfl⟩
    have hsome : (t.get? f.signalId).isSome := List.find?_isSome.mpr ⟨f, hf, decide_eq_true rfl⟩
    obtain ⟨g, hg⟩ := Option.isSome_iff_exists.mp hsome
    obtain ⟨hmem, hkey⟩ := hfound hg
    rw [hg, eq_of_key t.signalIds hmem hf hkey]

theorem get?_eq_none {t : IntentTable} {signalId : String} :
    t.get? signalId = none ↔ ∀ f ∈ t.rows, f.signalId ≠ signalId := by
  simp [get?, List.find?_eq_none]

theorem mem_delete {t : IntentTable} {p : FrozenEnvelope → Prop} [DecidablePred p]
    {f : FrozenEnvelope} : f ∈ (t.delete p).rows ↔ f ∈ t.rows ∧ ¬ p f := by
  simp [delete]

theorem rows_of_insert {t t' : IntentTable} {frozen : FrozenEnvelope}
    (h : t.insert frozen = .ok t') : t'.rows = t.rows ++ [frozen] := by
  unfold insert at h
  split_ifs at h
  cases h
  rfl

end IntentTable

/-! ## The shared state -/

/-- The calls of `append_signal` on the log, and the tables of the outbox file. -/
structure Publication (rt : Runtime) where
  log : List (AppendCall rt)
  intents : IntentTable
  outbox : Outbox

/-- `SELECT 1 FROM pip_outbox WHERE signal_id=? LIMIT 1` finds a row. -/
def Outbox.HasSignal (db : Outbox) (signalId : String) : Prop := ∃ r ∈ db.rows, r.signalId = signalId

instance (db : Outbox) (signalId : String) : Decidable (db.HasSignal signalId) :=
  inferInstanceAs (Decidable (∃ r ∈ db.rows, r.signalId = signalId))

/-- `PipExporterConfig`, as far as publication reads it. -/
structure PipExporterConfig where
  enabled : Bool
  signingKeyPath : Option String
  keyId : Option String

/-- What a call draws and reads beside the shared state. -/
structure CallValues where
  /-- `load_private_key`: the signing operation of the key in a file. -/
  loadPrivateKey : String → Except PipError (List UInt8 → List UInt8)
  /-- The fresh `pob_…` of the row of a signal. -/
  outboxId : String → String
  /-- `now`. -/
  current : ℤ

/-- `assert value is not None`. -/
def assertSome {α : Type} : Option α → Except PipError α
  | some a => .ok a
  | none => .error (.raised ⟨.assertionError, ""⟩)

section Routines

variable (rt : Runtime) (py : PyValues) (lib : EnvelopeLibrary)
  (releases : String → Except PipError ProducerRelease)

/-! ## `PipIntentStore` -/

/-- `PipIntentStore.get`. -/
def get (signalId : String) : Routine (Publication rt) PipError (Option FrozenEnvelope) :=
  .read fun p => p.intents.get? signalId

/-- `PipIntentStore.discard`. -/
def discard (signalId : String) : Routine (Publication rt) PipError Bool :=
  .transaction fun p => .ok ((p.intents.get? signalId).isSome,
    { p with intents := p.intents.delete fun f => f.signalId = signalId })

/-- `PipIntentStore.discard_orphans`. -/
def discardOrphans (committedSignalIds : List String) : Routine (Publication rt) PipError ℕ := do
  let signalIds ← .read fun p => p.intents.rows.map FrozenEnvelope.signalId
  let orphanIds := signalIds.filter (· ∉ committedSignalIds)
  if orphanIds = [] then return 0
  .transaction fun p => .ok (p.intents.rows.countP fun f => f.signalId ∈ orphanIds,
    { p with intents := p.intents.delete fun f => f.signalId ∈ orphanIds })

/-- `PipIntentStore.has_outbox_signal`. -/
def hasOutboxSignal (signalId : String) : Routine (Publication rt) PipError Bool := do
  let found ← .read fun p => decide (p.outbox.HasSignal signalId)
  if found then
    let _ ← discard rt signalId
    return true
  else return false

/-- A staged intent is the one to be staged. -/
def checkStaged (existing frozen : FrozenEnvelope) : Except PipError Unit :=
  raiseIf (existing ≠ frozen) (.pipExportError
    "PIP publication intent conflict: signal_id already has different frozen bytes")

/-- The transaction of `PipIntentStore.stage`. -/
def insertIntent (frozen : FrozenEnvelope) (p : Publication rt) :
    Except PipError (FrozenEnvelope × Publication rt) :=
  match p.intents.get? frozen.signalId with
  | some existing => do
    checkStaged existing frozen
    return (existing, p)
  | none => do
    let intents ← p.intents.insert frozen
    return (frozen, { p with intents })

/-- `PipIntentStore.stage`. -/
def stage (frozen : FrozenEnvelope) : Routine (Publication rt) PipError FrozenEnvelope := do
  if ← hasOutboxSignal rt frozen.signalId then return frozen
  match ← get rt frozen.signalId with
  | some existing =>
    checkStaged existing frozen
    return existing
  | none => .transaction (insertIntent rt frozen)

/-- A transaction of the outbox. -/
def onOutbox {α : Type} (f : Outbox → Except PipError (α × Outbox)) :
    Routine (Publication rt) PipError α :=
  .transaction fun p => do
    let (a, outbox) ← f p.outbox
    return (a, { p with outbox })

/-- `PipIntentStore.promote`. -/
def promote (signalId : String) (values : CallValues) : Routine (Publication rt) PipError Bool := do
  match ← get rt signalId with
  | none => hasOutboxSignal rt signalId
  | some frozen =>
    let _ ← onOutbox rt fun db => enqueue db frozen (values.outboxId signalId) values.current
    onOutbox rt fun db => do return ((), ← recover db values.current)
    .write fun p => { p with
      intents := p.intents.delete fun f => f.signalId = signalId ∧ f.eventSha256 = frozen.eventSha256 }
    return true

/-! ## Staging -/

/-- `_freeze_for_config`; `releases` is `load_release`. -/
def freezeForConfig (signal : HermesSignal) (config : PipExporterConfig) (values : CallValues) :
    Except PipError FrozenEnvelope := do
  raiseIf (¬ config.enabled) (.pipExportError "cannot freeze a PIP envelope while export is disabled")
  let signingKeyPath ← assertSome config.signingKeyPath
  let keyId ← assertSome config.keyId
  let release ← releases signal.strategyVersion
  let privateKey ← values.loadPrivateKey signingKeyPath
  freezeSignalEnvelope rt lib signal keyId privateKey release

/-- `stage_signal`. -/
def stageSignal (signal : HermesSignal) (config : PipExporterConfig) (values : CallValues) :
    Routine (Publication rt) PipError Bool := do
  if config.enabled then
    if ← hasOutboxSignal rt signal.signalId then return true
    let frozen ← freezeForConfig rt lib releases signal config values
    let _ ← stage rt frozen
    return true
  else return false

/-- `promote_staged_signal`. -/
def promoteStagedSignal (signalId : String) (config : PipExporterConfig) (values : CallValues) :
    Routine (Publication rt) PipError Bool :=
  if config.enabled then promote rt signalId values else return false

/-! ## `reconcile_signal_log` -/

/-- The canonical bytes of the event of a signal under a key id. -/
def eventBytes (signal : HermesSignal) (keyId : String) : Except PipError (List UInt8) := do
  let release ← releases signal.strategyVersion
  let event ← signalToEvent rt signal keyId release
  canonicalEventBytes lib event

/-- `_intent_matches_signal`. -/
def intentMatchesSignal (signal : HermesSignal) (keyId : String) (canonicalBytes : List UInt8) :
    Except PipError Bool := do
  let bytes ← eventBytes rt lib releases signal keyId
  return bytes = canonicalBytes

/-- The end of the body of the loop of `reconcile_signal_log`. -/
def publishFirst (first : HermesSignal) (config : PipExporterConfig) (values : CallValues) :
    Routine (Publication rt) PipError Bool := do
  let _ ← stageSignal rt lib releases first config values
  promoteStagedSignal rt first.signalId config values

/-- The body of the loop of `reconcile_signal_log`; it tells whether the signal was promoted. -/
def reconcileSignal (first : HermesSignal) (config : PipExporterConfig) (values : CallValues) :
    Routine (Publication rt) PipError Bool := do
  if ← hasOutboxSignal rt first.signalId then return false
  match ← get rt first.signalId with
  | some intent =>
    if ← intentMatchesSignal rt lib releases first intent.keyId intent.canonicalEventBytes then
      promote rt first.signalId values
    else
      let _ ← discard rt first.signalId
      publishFirst rt lib releases first config values
  | none => publishFirst rt lib releases first config values

/-- One iteration of the loop. -/
def countPromoted (config : PipExporterConfig) (values : CallValues) (promoted : ℕ)
    (first : HermesSignal) : Routine (Publication rt) PipError ℕ := do
  if ← reconcileSignal rt lib releases first config values then return promoted + 1
  else return promoted

/-- `reconcile_signal_log`. -/
def reconcileSignalLog (config : PipExporterConfig) (values : CallValues) :
    Routine (Publication rt) PipError ℕ := do
  if config.enabled then
    let file ← .read fun p : Publication rt => signalLog p.log
    let signals ← readCommittedSignals rt py file
    let firsts := firstBy HermesSignal.signalId signals
    let _ ← discardOrphans rt (firsts.map HermesSignal.signalId)
    firsts.foldlM (countPromoted rt lib releases config values) 0
  else return 0

/-! ## Calls -/

/-- A call on the shared state. -/
inductive PublicationCall where
  | stageSignal (signal : HermesSignal) (config : PipExporterConfig) (values : CallValues)
  | appendSignal (call : AppendCall rt)
  | reconcileSignalLog (config : PipExporterConfig) (values : CallValues)
  | outbox (op : Operation) (now : ℤ)

/-- What a call does. -/
def PublicationCall.program : PublicationCall rt → Routine (Publication rt) PipError Unit
  | .stageSignal signal config values => do
    let _ ← Pip.stageSignal rt lib releases signal config values
  | .appendSignal call => .write fun p => { p with log := p.log ++ [call] }
  | .reconcileSignalLog config values => do
    let _ ← Pip.reconcileSignalLog rt py lib releases config values
  | .outbox op now => do
    let _ ← onOutbox rt fun db => op.run db now

end Routines

end WeatherBot.Pip
