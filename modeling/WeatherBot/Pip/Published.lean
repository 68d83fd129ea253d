import WeatherBot.Pip.Publishing

/-!
# What is published

* `promotes_quiet`: without a second reconciliation, what is promoted is what was
  staged.
* `published_durably`: **only signals with a durable record are published, each once
  and unchangeably.**
* `published_first`: **if reconciliations do not overlap, each is published as the
  event of its first durable record, and a reconciliation that returns has
  published every signal that was durable when it began.**
* `delivered_first`: **what is delivered is that event, and the same bytes at every
  attempt.**
-/

namespace WeatherBot.Pip

open WeatherBot.Common
open WeatherBot.Domain
open WeatherBot.Producer (HermesSignal)

variable {rt : Runtime} {py : PyValues} {lib : EnvelopeLibrary}
  {releases : String → Except PipError ProducerRelease}
  {Ok : List (AppendCall rt) → FrozenEnvelope → Prop} {p q : Publication rt}
  {c : Contract (Publication rt)}

/-! ## Runs -/

/-- What a row must be when reconciliations do not overlap: the event of the first durable record. -/
def OfFirst (rt : Runtime) (lib : EnvelopeLibrary)
    (releases : String → Except PipError ProducerRelease) (log : List (AppendCall rt))
    (f : FrozenEnvelope) : Prop :=
  ∃ s, firstSignal log f.signalId = some s ∧
    eventBytes rt lib releases s f.keyId = .ok f.canonicalEventBytes

/-- What a row is in any case: of a signal with a durable record. -/
def OfDurable (log : List (AppendCall rt)) (f : FrozenEnvelope) : Prop :=
  ∃ s ∈ completedSignals log, s.signalId = f.signalId

theorem OfFirst.later {log log' : List (AppendCall rt)} {f : FrozenEnvelope} (h : log <+: log')
    (hf : OfFirst rt lib releases log f) : OfFirst rt lib releases log' f := by
  obtain ⟨s, hs, hbytes⟩ := hf
  exact ⟨s, firstSignal_grow h hs, hbytes⟩

theorem OfDurable.later {log log' : List (AppendCall rt)} {f : FrozenEnvelope} (h : log <+: log')
    (hf : OfDurable log f) : OfDurable log' f := by
  obtain ⟨s, hs, hid⟩ := hf
  exact ⟨s, (completedSignals_grow h).subset hs, hid⟩

/-- **What was staged is what is promoted**, as long as only staging and delivery interfere. -/
theorem promotes_quiet (hc : Reconciles lib releases (OfFirst rt lib releases) c)
    (hquiet : ∀ p q, c.rely p q → p.Quiet q) :
    Promotes lib releases c fun q id => q.outbox.HasSignal id := by
  intro first values p hfirst hstaged
  by_cases hhas : p.outbox.HasSignal first.signalId
  · have hpromote := promote_meets (N := True) hc (fun _ _ _ => trivial)
      (fun t f hrely _ => .inl ((hc.rely _ _ hrely).hasSignal hhas)) values
    exact (hc.framed hpromote).mono fun _ q h => h.1.hasSignal hhas
  · obtain ⟨f, hf, hid, hbytes⟩ := hstaged.resolve_left hhas
    -- the staged intent is still there when it is promoted
    have hkept : ∀ t, c.rely p t → t.intents.get? first.signalId = some f := by
      intro t hrely
      exact IntentTable.get?_eq_some.mpr ⟨(hquiet p t hrely).intents f hf (hid ▸ hhas), hid⟩
    refine (promote_meets (N := False) hc ?_ ?_ values).mono fun _ q h => ?_
    · intro t hrely hnone
      cases hnone.symm.trans (hkept t hrely)
    · intro t g hrely hg
      cases hg.symm.trans (hkept t hrely)
      refine .inr ⟨first, ?_, hbytes⟩
      rw [hid]
      exact firstSignal_grow (hc.rely _ _ hrely).log hfirst
    · exact h.resolve_right fun hfalse => hfalse.2

/-- Whatever interferes, only signals with a durable record are promoted. -/
theorem promotes_durable (hc : Reconciles lib releases OfDurable c) :
    Promotes lib releases c fun _ _ => True := by
  intro first values p hfirst _
  refine (promote_meets (N := True) hc (fun _ _ _ => trivial) ?_ values).mono fun _ _ _ => trivial
  intro t f hrely hf
  obtain ⟨hmem, hid⟩ := mem_of_firstSignal (firstSignal_grow (hc.rely _ _ hrely).log hfirst)
  exact .inr ⟨first, hmem, (IntentTable.get?_eq_some.mp hf).2.symm⟩

namespace PublicationCall

/-- Whether the call is a reconciliation. -/
def IsReconciliation : PublicationCall rt → Prop
  | reconcileSignalLog _ _ => True
  | _ => False

/-- The calls that are made: signals are those of `evaluate_candidate`, and only `promote` enqueues. -/
def Admitted : PublicationCall rt → Prop
  | stageSignal signal _ _ => signal.producerId = Producer.producerId
  | appendSignal (.completed signal) => signal.val.producerId = Producer.producerId
  | appendSignal (.crashed _ _ _) => True
  | reconcileSignalLog _ _ => True
  | outbox op _ => ¬ op.Enqueues

/-- What a reconciliation that has returned has published: every signal whose record was durable
when it began. -/
def Published (call : PublicationCall rt) (began q : Publication rt) : Prop :=
  match call with
  | reconcileSignalLog config _ => config.enabled = true →
      ∀ s ∈ completedSignals began.log, q.outbox.HasSignal s.signalId
  | _ => True

end PublicationCall

/-- Calls that are no reconciliations. -/
theorem meets_of_other (hc : Fits lib releases Ok c)
    (hlater : ∀ log log' f, log <+: log' → Ok log f → Ok log' f) {call : PublicationCall rt}
    (hadmitted : call.Admitted) (hcall : ¬ call.IsReconciliation) (p : Publication rt) :
    Routine.Meets c (fun _ _ => True) (call.program rt py lib releases) p := by
  cases call with
  | stageSignal signal config values =>
    exact (stageSignal_meets hc hadmitted config values p).bind fun _ _ _ => trivial
  | appendSignal call =>
    refine Routine.meets_write fun t hinv _ => ?_
    have hsound := (hc.inv t).mp hinv
    have hgrow : t.log <+: t.log ++ [call] := List.prefix_append _ _
    refine ⟨(hc.inv _).mpr ⟨fun r hr => ?_, hsound.intents, fun s hs => ?_⟩,
      hc.guarantee _ _ ⟨hgrow, rfl, fun _ hf _ => hf⟩, trivial⟩
    · obtain ⟨f, hf, hcarries, hok⟩ := hsound.rows r hr
      exact ⟨f, hf, hcarries, hlater _ _ f hgrow hok⟩
    · rw [completedSignals_append] at hs
      rcases List.mem_append.mp hs with hs | hs
      · exact hsound.signals s hs
      · cases call with
        | completed signal =>
          obtain rfl := List.mem_singleton.mp hs
          exact hadmitted
        | crashed signal written proper => cases hs
  | reconcileSignalLog config values => exact absurd trivial hcall
  | outbox op now =>
    have hrun : Routine.Meets c (fun _ _ => True) (onOutbox rt fun db => op.run db now) p := by
      refine Routine.meets_transaction fun t hinv _ reply u hu => ?_
      obtain ⟨⟨reply', db⟩, hdb, hu⟩ := bind_eq_ok.mp hu
      cases hu
      have hfrozen := frozen_of_run hadmitted hdb
      exact ⟨(hc.inv _).mpr (((hc.inv t).mp hinv).of_subset rfl hfrozen fun _ hg => hg),
        hc.guarantee _ _ ⟨List.prefix_refl _, hfrozen, fun _ hg _ => hg⟩, trivial⟩
    exact hrun.bind fun _ _ _ => trivial

/-- Calls that may be under way together. -/
def Apart (call call' : PublicationCall rt) : Prop :=
  ¬ (call.IsReconciliation ∧ call'.IsReconciliation)

namespace PublicationCall

/-- What a call relies on when reconciliations do not overlap. -/
def Relied (call : PublicationCall rt) (p q : Publication rt) : Prop :=
  p.Keeps q ∧ (call.IsReconciliation → p.Quiet q)

/-- What a call keeps. -/
def Granted (call : PublicationCall rt) (p q : Publication rt) : Prop :=
  p.Keeps q ∧ (¬ call.IsReconciliation → p.Quiet q)

end PublicationCall

section

variable (rt) (lib) (releases)

/-- The contract of a call when reconciliations do not overlap. -/
def apartContract (call : PublicationCall rt) : Contract (Publication rt) where
  inv := Sound lib releases (OfFirst rt lib releases)
  rely := call.Relied
  guarantee := call.Granted
  guarantee_refl p := ⟨.refl p, fun _ => .refl p⟩

/-- The contract of a call when anything may overlap. -/
def sharedContract : Contract (Publication rt) where
  inv := Sound lib releases OfDurable
  rely := Publication.Keeps
  guarantee := Publication.Keeps
  guarantee_refl := .refl

end

theorem fits_apart {call : PublicationCall rt} :
    Fits lib releases (OfFirst rt lib releases) (apartContract rt lib releases call) where
  inv _ := Iff.rfl
  rely _ _ h := h.1
  guarantee _ _ h := ⟨h.keeps, fun _ => h⟩
  kept _ _ h := h.1

theorem reconciles_apart {call : PublicationCall rt} (hcall : call.IsReconciliation) :
    Reconciles lib releases (OfFirst rt lib releases) (apartContract rt lib releases call) where
  toFits := fits_apart
  keeps _ _ h := ⟨h, fun hnot => absurd hcall hnot⟩
  later _ _ _ := OfFirst.later

theorem reconciles_shared :
    Reconciles lib releases OfDurable (sharedContract rt lib releases) where
  inv _ := Iff.rfl
  rely _ _ h := h
  guarantee _ _ h := h.keeps
  kept _ _ h := h
  keeps _ _ h := h
  later _ _ _ := OfDurable.later

/-- **Every call keeps its contract**, and a reconciliation publishes. -/
theorem meets_apart (call : PublicationCall rt) (p : Publication rt) (hadmitted : call.Admitted) :
    Routine.Meets (apartContract rt lib releases call) (fun _ q => call.Published p q)
      (call.program rt py lib releases) p := by
  by_cases hcall : call.IsReconciliation
  · cases call with
    | reconcileSignalLog config values =>
      have hc : Reconciles lib releases (OfFirst rt lib releases)
          (apartContract rt lib releases (.reconcileSignalLog config values)) := reconciles_apart hcall
      refine (reconcileSignalLog_meets hc (promotes_quiet hc fun _ _ h => h.2 hcall)
        (fun _ _ h => h) (fun _ _ _ h => h.hasSignal) config values p).bind fun _ q hq => hq
    | _ => exact absurd hcall id
  · refine (meets_of_other fits_apart (fun _ _ _ => OfFirst.later) hadmitted hcall p).mono fun _ q _ => ?_
    cases call with
    | reconcileSignalLog config values => exact absurd trivial hcall
    | _ => trivial

theorem meets_shared (call : PublicationCall rt) (p : Publication rt) (hadmitted : call.Admitted) :
    Routine.Meets (sharedContract rt lib releases) (fun _ _ => True)
      (call.program rt py lib releases) p := by
  by_cases hcall : call.IsReconciliation
  · cases call with
    | reconcileSignalLog config values =>
      exact (reconcileSignalLog_meets reconciles_shared (promotes_durable reconciles_shared)
        (fun _ _ _ => trivial) (fun _ _ _ _ _ => trivial) config values p).bind fun _ _ _ => trivial
    | _ => exact absurd hcall id
  · exact meets_of_other reconciles_shared.toFits (fun _ _ _ => OfDurable.later) hadmitted hcall p

/-- What a reconciliation has published stays published. -/
theorem PublicationCall.Published.later {call : PublicationCall rt} {began : Publication rt}
    (hkeeps : p.Keeps q) (h : call.Published began p) : call.Published began q := by
  cases call with
  | reconcileSignalLog config values =>
    exact fun henabled s hs => hkeeps.hasSignal (h henabled s hs)
  | _ => trivial

section

variable (rt) (py) (lib) (releases)

/-- What calls owe each other when reconciliations do not overlap. -/
def apartAgreement : Pool.Agreement (PublicationCall.program rt py lib releases)
    (fun _ call => call.Admitted) Apart where
  inv := Sound lib releases (OfFirst rt lib releases)
  rely := PublicationCall.Relied
  guarantee := PublicationCall.Granted
  post call began _ q := call.Published began q
  rely_refl _ p := ⟨.refl p, fun _ => .refl p⟩
  rely_trans _ _ _ _ h h' := ⟨h.1.trans h'.1, fun hcall => (h.2 hcall).trans (h'.2 hcall)⟩
  guarantee_refl _ p := ⟨.refl p, fun _ => .refl p⟩
  post_later _ _ _ _ _ h hpost := hpost.later h.1
  meets call p _ hadmitted := meets_apart call p hadmitted
  together_comm _ _ h hboth := h hboth.symm
  relies _ _ h _ _ hgranted :=
    ⟨hgranted.1, fun hcall' => hgranted.2 fun hcall => h ⟨hcall, hcall'⟩⟩

/-- What calls owe each other when anything may overlap. -/
def sharedAgreement : Pool.Agreement (PublicationCall.program rt py lib releases)
    (fun _ call => call.Admitted) (fun _ _ => True) where
  inv := Sound lib releases OfDurable
  rely _ := Publication.Keeps
  guarantee _ := Publication.Keeps
  post _ _ _ _ := True
  rely_refl _ := .refl
  rely_trans _ _ _ _ := .trans
  guarantee_refl _ := .refl
  post_later _ _ _ _ _ _ h := h
  meets call p _ hadmitted := meets_shared call p hadmitted
  together_comm _ _ h := h
  relies _ _ _ _ _ h := h

end

/-! ## Publication -/

/-- Nothing is logged, staged or published. -/
def Publication.empty (rt : Runtime) : Publication rt := ⟨[], .empty, .empty⟩

theorem sound_empty : Sound lib releases Ok (Publication.empty rt) where
  rows := List.forall_mem_nil _
  intents := List.forall_mem_nil _
  signals := List.forall_mem_nil _

/-- An envelope with the event of a signal is that signal's. -/
theorem FreezesAs.of_event {f : FrozenEnvelope} {s t : HermesSignal}
    (h : FreezesAs rt lib releases f t) (hid : s.signalId = f.signalId)
    (hbytes : eventBytes rt lib releases s f.keyId = .ok f.canonicalEventBytes) :
    FreezesAs rt lib releases f s :=
  { h with signalId := hid.symm, event := hbytes }

/-- A row is the event of its signal's first durable record. -/
theorem Sound.first (h : Sound lib releases (OfFirst rt lib releases) p)
    {r : FrozenColumns} (hr : r ∈ p.outbox.frozen) :
    ∃ s f, firstSignal p.log r.signalId = some s ∧ r.Carries f ∧ FreezesAs rt lib releases f s := by
  obtain ⟨f, ⟨t, ht⟩, hcarries, s, hs, hbytes⟩ := h.rows r hr
  refine ⟨s, f, ?_, hcarries, ht.of_event (mem_of_firstSignal hs).2 hbytes⟩
  rw [hcarries.signalId]
  exact hs

/-- **Only signals with a durable record are published, each once and unchangeably**, however the calls
of any number of scans, workers and operators interleave, and wherever they crash. -/
theorem published_durably (rt : Runtime) (py : PyValues) (lib : EnvelopeLibrary)
    (releases : String → Except PipError ProducerRelease)
    {p q : Pool (PublicationCall rt) (Publication rt) PipError Unit}
    (hp : Pool.Run (PublicationCall.program rt py lib releases) (fun _ call => call.Admitted)
      (fun _ _ => True) ⟨.empty rt, []⟩ p)
    (hq : Pool.Run (PublicationCall.program rt py lib releases) (fun _ call => call.Admitted)
      (fun _ _ => True) p q) :
    (∀ r ∈ p.state.outbox.rows, ∀ r' ∈ p.state.outbox.rows, r.signalId = r'.signalId → r = r') ∧
    (∀ r ∈ p.state.outbox.rows,
      (∃ s ∈ completedSignals p.state.log, s.signalId = r.signalId) ∧
      ∃ f s, r.toFrozenColumns.Carries f ∧ FreezesAs rt lib releases f s) ∧
    p.state.outbox.frozen <+: q.state.outbox.frozen := by
  have hsafe : (sharedAgreement rt py lib releases).Safe p :=
    Pool.Agreement.safe_of_run (Pool.Agreement.safe_idle sound_empty) hp
  have hsound : Sound lib releases OfDurable p.state := hsafe.inv
  refine ⟨fun r hr r' hr' => hsound.eq_of_signalId hr hr', fun r hr => ?_, ?_⟩
  · obtain ⟨f, ⟨s, hs⟩, hcarries, t, ht, hid⟩ := hsound.rows _ (List.mem_map_of_mem hr)
    exact ⟨⟨t, ht, hid.trans hcarries.signalId.symm⟩, f, s, hcarries, hs⟩
  · have hkeeps : p.state.Keeps q.state := Pool.Agreement.kept_of_run Publication.Keeps.refl
      (fun _ _ _ => .trans) (fun _ _ _ h => h) hsafe hq
    exact hkeeps.frozen

/-- **If reconciliations do not overlap, a signal is published as the event of its first durable
record**, and a reconciliation that has returned has published every signal whose record was durable
when it began. Any number of scans and operators may act between its steps, and calls may crash. -/
theorem published_first (rt : Runtime) (py : PyValues) (lib : EnvelopeLibrary)
    (releases : String → Except PipError ProducerRelease)
    {p q : Pool (PublicationCall rt) (Publication rt) PipError Unit}
    (hp : Pool.Run (PublicationCall.program rt py lib releases) (fun _ call => call.Admitted)
      Apart ⟨.empty rt, []⟩ p)
    (hq : Pool.Run (PublicationCall.program rt py lib releases) (fun _ call => call.Admitted)
      Apart p q) :
    (∀ r ∈ p.state.outbox.rows, ∀ r' ∈ p.state.outbox.rows, r.signalId = r'.signalId → r = r') ∧
    (∀ r ∈ p.state.outbox.rows, ∃ s f, firstSignal p.state.log r.signalId = some s ∧
      r.toFrozenColumns.Carries f ∧ FreezesAs rt lib releases f s) ∧
    p.state.outbox.frozen <+: q.state.outbox.frozen ∧
    ∀ call ∈ p.running, call.rest = .done () → call.call.Published call.began p.state := by
  have hsafe : (apartAgreement rt py lib releases).Safe p :=
    Pool.Agreement.safe_of_run (Pool.Agreement.safe_idle sound_empty) hp
  have hsound : Sound lib releases (OfFirst rt lib releases) p.state := hsafe.inv
  refine ⟨fun r hr r' hr' => hsound.eq_of_signalId hr hr', fun r hr => ?_, ?_, fun call hcall hdone => ?_⟩
  · exact hsound.first (List.mem_map_of_mem hr)
  · have hgranted : ∀ (call : PublicationCall rt) s t, call.Granted s t → s.Keeps t :=
      fun _ _ _ h => h.1
    have hkeeps : p.state.Keeps q.state := Pool.Agreement.kept_of_run Publication.Keeps.refl
      (fun _ _ _ => .trans) hgranted hsafe hq
    exact hkeeps.frozen
  · have hmeets := hsafe.meets call hcall
    rw [hdone] at hmeets
    exact hmeets

/-- **What is delivered is the event of the signal's first durable record, and the same bytes at every
attempt.** -/
theorem delivered_first (rt : Runtime) (py : PyValues) (lib : EnvelopeLibrary)
    (releases : String → Except PipError ProducerRelease)
    {p q : Pool (PublicationCall rt) (Publication rt) PipError Unit}
    (hp : Pool.Run (PublicationCall.program rt py lib releases) (fun _ call => call.Admitted)
      Apart ⟨.empty rt, []⟩ p)
    (hq : Pool.Run (PublicationCall.program rt py lib releases) (fun _ call => call.Admitted)
      Apart p q)
    {op op' : Operation} {now now' : ℤ} {reply reply' : Reply} {db db' : Outbox}
    (hop : ¬ op.Enqueues) (hop' : ¬ op'.Enqueues)
    (hrun : op.run p.state.outbox now = .ok (reply, db))
    (hrun' : op'.run q.state.outbox now' = .ok (reply', db')) :
    ∀ item ∈ reply.items,
      (∃ s f, firstSignal p.state.log item.signalId = some s ∧
        item.toFrozenColumns.Carries f ∧ FreezesAs rt lib releases f s) ∧
      ∀ item' ∈ reply'.items, item'.signalId = item.signalId →
        item'.toFrozenColumns = item.toFrozenColumns := by
  intro item hitem
  have hsafe : (apartAgreement rt py lib releases).Safe p :=
    Pool.Agreement.safe_of_run (Pool.Agreement.safe_idle sound_empty) hp
  have hsound : Sound lib releases (OfFirst rt lib releases) p.state := hsafe.inv
  have hfrozen := items_frozen hop hrun hitem
  refine ⟨hsound.first hfrozen, fun item' hitem' hid => ?_⟩
  have hsafe' := Pool.Agreement.safe_of_run hsafe hq
  have hsound' : Sound lib releases (OfFirst rt lib releases) q.state := hsafe'.inv
  have hgranted : ∀ (call : PublicationCall rt) s t, call.Granted s t → s.Keeps t :=
    fun _ _ _ h => h.1
  have hkeeps : p.state.Keeps q.state := Pool.Agreement.kept_of_run Publication.Keeps.refl
    (fun _ _ _ => .trans) hgranted hsafe hq
  exact hsound'.eq_of_mem_frozen (items_frozen hop' hrun' hitem') (hkeeps.frozen.subset hfrozen) hid

namespace Sample

/-- The sample's runtime, with a digest for every text. -/
def digests : Runtime := { hashes with sha256 := fun _ => identityDigest }

/-- The sample's signal, as the producer makes it. -/
def producedSignal : HermesSignal :=
  { hermesSignal with
    producerId := Producer.producerId
    weatherFingerprint := calibrationDigest
    marketReference := { reference with
      orderBookHash := calibrationDigest
      quoteFingerprint := calibrationDigest } }

theorem producedReference_new :
    Producer.SignalMarketReference.new producedSignal.marketReference =
      .ok producedSignal.marketReference := by
  have hdigest : Stripped calibrationDigest := stripped_ofList (by decide) (by decide)
  exact Producer.SignalMarketReference.new_of_stripped rfl hdigest hdigest (by decide) (by decide)

theorem stripped_producedTexts : ∀ text ∈ producedSignal.texts, Stripped text.2 := by
  simp only [HermesSignal.texts, producedSignal, hermesSignal, Producer.producerId, identityDigest,
    calibrationDigest, String.reduceAppend]
  iterate 27 refine List.forall_mem_cons.mpr ⟨stripped_ofList (by decide) (by decide), ?_⟩
  exact List.forall_mem_nil _

theorem producedSignal_new : HermesSignal.new digests producedSignal = .ok producedSignal :=
  HermesSignal.new_of_stripped stripped_producedTexts (by decide) (by decide) (by decide)

def produced : Signal digests := ⟨producedSignal, producedReference_new, producedSignal_new⟩

def exporterConfig : PipExporterConfig := ⟨true, some "pip.key", some "k1"⟩

def callValues : CallValues where
  loadPrivateKey _ := .ok fun _ => List.replicate 64 0
  outboxId _ := "pob_1"
  current := march

def producerReleases : String → Except PipError ProducerRelease := fun _ => .ok producerRelease

/-- One signal is logged. -/
def logged : Publication digests := ⟨[.completed produced], .empty, .empty⟩

/-- A reconciliation. -/
def reconciliation : PublicationCall digests := .reconcileSignalLog exporterConfig callValues

/-- What a reconciliation that nothing interferes with does when it has read the log. -/
theorem published_isOk :
    (((firstBy HermesSignal.signalId [producedSignal]).foldlM
      (countPromoted digests envelopeLibrary producerReleases exporterConfig callValues) 0).alone
        logged).1.isOk = true := by
  decide +kernel

/-- The state that such a reconciliation leaves. -/
def reconciledState : Publication digests :=
  (((firstBy HermesSignal.signalId [producedSignal]).foldlM
    (countPromoted digests envelopeLibrary producerReleases exporterConfig callValues) 0).alone
      logged).2

/-- A reconciliation that nothing interferes with returns. -/
theorem reconciled :
    (reconciliation.program digests noValues envelopeLibrary producerReleases).alone logged =
      (.ok (), reconciledState) := by
  have hread : readCommittedSignals digests noValues (signalLog logged.log) = .ok [producedSignal] := by
    rw [readCommittedSignals_eq]
    exact readFrom_of_noAppend (List.pairwise_singleton _ _) 1
  obtain ⟨promoted, hpromoted⟩ := exists_of_isOk published_isOk
  have hreconciled : (reconcileSignalLog digests noValues envelopeLibrary producerReleases
      exporterConfig callValues).alone logged = (.ok promoted, reconciledState) := by
    unfold reconcileSignalLog
    rw [if_pos (show exporterConfig.enabled = true from rfl), Routine.alone_read_bind,
      Routine.alone_lift_bind hread]
    exact Prod.ext hpromoted rfl
  exact Routine.alone_bind_pure hreconciled

/-- The pool in which that reconciliation has returned. -/
def reconciledPool : Pool (PublicationCall digests) (Publication digests) PipError Unit :=
  ⟨reconciledState, [⟨reconciliation, logged, .done ()⟩]⟩

/-- The signal is logged, and then reconciled. -/
theorem run_reconciledPool (together : PublicationCall digests → PublicationCall digests → Prop) :
    Pool.Run (PublicationCall.program digests noValues envelopeLibrary producerReleases)
      (fun _ call => call.Admitted) together ⟨.empty digests, []⟩ reconciledPool := by
  have hproducer : PublicationCall.Admitted (.appendSignal (.completed produced)) := rfl
  have happend : Pool.Run (PublicationCall.program digests noValues envelopeLibrary producerReleases)
      (fun _ call => call.Admitted) together ⟨.empty digests, []⟩ ⟨logged, []⟩ :=
    Pool.run_through (Publication.empty digests) (PublicationCall.appendSignal (.completed produced))
      hproducer
  refine happend.trans ?_
  have hcall : Pool.Run (PublicationCall.program digests noValues envelopeLibrary producerReleases)
      (fun _ call => call.Admitted) together ⟨logged, []⟩ _ :=
    Pool.run_call logged reconciliation trivial
  rw [reconciled] at hcall
  exact hcall

/-- A claim of the row that the reconciliation has added. -/
def publishedClaim : Operation := .claimDue "w" 60 "t" firstDue

theorem publishedClaim_items :
    ((publishedClaim.run reconciledPool.state.outbox march).toOption.map fun x => x.1.items.isEmpty) =
      some false := by
  decide +kernel

end Sample

/-- The reconciled signal. -/
theorem published_durably_reconciled :
    (∀ r ∈ Sample.reconciledPool.state.outbox.rows, ∀ r' ∈ Sample.reconciledPool.state.outbox.rows,
      r.signalId = r'.signalId → r = r') ∧
    ∀ r ∈ Sample.reconciledPool.state.outbox.rows,
      (∃ s ∈ completedSignals Sample.reconciledPool.state.log, s.signalId = r.signalId) ∧
      ∃ f s, r.toFrozenColumns.Carries f ∧
        FreezesAs Sample.digests Sample.envelopeLibrary Sample.producerReleases f s := by
  obtain ⟨honce, hdurable, -⟩ := published_durably Sample.digests Sample.noValues
    Sample.envelopeLibrary Sample.producerReleases (Sample.run_reconciledPool _) .refl
  exact ⟨honce, hdurable⟩

/-- The reconciled signal has a row, with its event. -/
theorem published_first_reconciled :
    (∃ r ∈ Sample.reconciledPool.state.outbox.rows, r.signalId = Sample.producedSignal.signalId) ∧
    ∀ r ∈ Sample.reconciledPool.state.outbox.rows, ∃ s f,
      firstSignal Sample.reconciledPool.state.log r.signalId = some s ∧ r.toFrozenColumns.Carries f ∧
        FreezesAs Sample.digests Sample.envelopeLibrary Sample.producerReleases f s := by
  obtain ⟨-, hfirst, -, hpublished⟩ := published_first Sample.digests Sample.noValues
    Sample.envelopeLibrary Sample.producerReleases (Sample.run_reconciledPool _) .refl
  refine ⟨hpublished _ (List.mem_singleton_self _) ?_ rfl Sample.producedSignal ?_, hfirst⟩
  · rfl
  · exact List.mem_singleton_self _

/-- The reconciled signal is delivered. -/
theorem delivered_first_reconciled :
    ∃ reply db item, Sample.publishedClaim.run Sample.reconciledPool.state.outbox Sample.march =
        .ok (reply, db) ∧ item ∈ reply.items ∧
      ∃ s f, firstSignal Sample.reconciledPool.state.log item.signalId = some s ∧
        item.toFrozenColumns.Carries f ∧
        FreezesAs Sample.digests Sample.envelopeLibrary Sample.producerReleases f s := by
  have hitems := Sample.publishedClaim_items
  cases hrun : Sample.publishedClaim.run Sample.reconciledPool.state.outbox Sample.march with
  | error e =>
    rw [hrun] at hitems
    cases hitems
  | ok result =>
    obtain ⟨reply, db⟩ := result
    rw [hrun] at hitems
    obtain ⟨item, hitem⟩ := List.exists_mem_of_ne_nil _
      (List.isEmpty_eq_false_iff.mp (Option.some.inj hitems))
    have hfirst := delivered_first Sample.digests Sample.noValues Sample.envelopeLibrary
      Sample.producerReleases (Sample.run_reconciledPool _) .refl id id hrun hrun item hitem
    exact ⟨reply, db, item, rfl, hitem, hfirst.1⟩

end WeatherBot.Pip
