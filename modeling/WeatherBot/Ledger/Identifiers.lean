import WeatherBot.Ledger.History

/-!
# Identifiers of accepted events

An event names an order or a position that the ledger has, so what an accepted
event names is not blank.

* `NamedPositions`: no position is filed under a blank identifier.
* `mem_of_eventFingerprint`: a recorded event identifier is that of an event of
  the run.
-/

namespace WeatherBot.Ledger

open WeatherBot.Common
open WeatherBot.Domain

variable {rt : Runtime}

/-! ## Orders and positions -/

/-- An order is filed under its own identifier, which is not blank. -/
theorem isBlank_of_order {s : LedgerState} (hs : s.WellKeyed) {intentId : String}
    {o : OrderAggregate} (h : s.orders.get? intentId = some o) : isBlank intentId = false := by
  rw [← hs.order h]
  exact o.intent.intentId_text

/-- Both identifiers of a key have a text. -/
def NamedKey (key : String × String) : Prop := isBlank key.1 = false ∧ isBlank key.2 = false

/-- No position is filed under a blank identifier. -/
def NamedPositions (s : LedgerState) : Prop :=
  ∀ key p, s.positions.get? key = some p → NamedKey key

theorem namedKey_order (o : OrderAggregate) : NamedKey o.key :=
  ⟨o.intent.marketId_text, o.intent.outcomeId_text⟩

theorem NamedPositions.insert {s next : LedgerState} {p' : Position} (h : NamedPositions s)
    (hpos : next.positions = s.positions.insert p'.key p') (hp' : NamedKey p'.key) :
    NamedPositions next := by
  intro key p hp
  rw [hpos, Dict.get?_insert] at hp
  split_ifs at hp with hk
  · exact hk ▸ hp'
  · exact h key p hp

/-- A position that is replaced keeps its key. -/
theorem NamedPositions.key {s : LedgerState} (h : NamedPositions s) (hs : s.WellKeyed)
    {key : String × String} {p p' : Position} (hp : s.positions.get? key = some p)
    (hp' : p'.key = p.key) : NamedKey p'.key := by
  rw [hp', hs.position hp]
  exact h key p hp

theorem namedPositions_of_step {s next : LedgerState} {event : LedgerEvent} (hs : s.WellKeyed)
    (hnamed : NamedPositions s) (h : Step rt s event next) : NamedPositions next := by
  cases h with
  | unchanged => exact hnamed
  | opened => exact hnamed
  | buyIntent => exact hnamed
  | sellIntent e order p reservedQuantity hnew hside hcurrency horder hposition =>
    exact hnamed.insert rfl (hnamed.key hs hposition rfl)
  | moved => exact hnamed
  | closedBuy => exact hnamed
  | closedSell _ intentId order target reason p reservedQuantity hget hside htarget hallowed
      hposition =>
    exact hnamed.insert rfl (hnamed.key hs hposition rfl)
  | buyFill fill order order' p' cash reservedCash h =>
    refine hnamed.insert rfl ?_
    rw [h.key_eq hs]
    exact namedKey_order order
  | sellFill fill order order' p p' cash net allocated h =>
    refine hnamed.insert rfl ?_
    rw [h.key_eq hs]
    exact namedKey_order order
  | recorded => exact hnamed
  | settled e p p' cash net h =>
    refine hnamed.insert rfl ?_
    rw [h.key_eq hs]
    exact hnamed _ p h.position

theorem namedPositions_of_applyEvents {currency : String} {events : List LedgerEvent}
    {s : LedgerState} (h : applyEvents rt (.fresh currency) events = .ok s) : NamedPositions s := by
  refine (applyEvents_preserves (fun _ _ _ h => h) (fun s event next hs _ hnamed hstep =>
    namedPositions_of_step hs.wellKeyed hnamed hstep) (invariants_fresh currency) ?_ h).2
  intro key p hp
  cases hp

/-! ## Events -/

/-- A recorded identifier was recorded before, or is that of the event. -/
theorem eventFingerprint_of_applyEvent {s s' : LedgerState} {event : LedgerEvent} (hs : s.Invariants)
    (h : applyEvent rt s event = .ok s') {eventId fp : String}
    (hfp : s'.eventFingerprints.get? eventId = some fp) :
    eventId = event.eventId ∨ s.eventFingerprints.get? eventId = some fp := by
  rcases applyEvent_eq_ok.mp h with ⟨-, rfl⟩ | ⟨-, next, hnext, rfl, -⟩
  · exact .inr hfp
  · rw [recordEvent, Dict.get?_insert,
      (keepsBooks_of_step hs (step_of_reduce hs.wellKeyed hnext)).events] at hfp
    split_ifs at hfp with hk
    · exact .inl hk.symm
    · exact .inr hfp

/-- **A recorded identifier comes from the run.** -/
theorem mem_of_eventFingerprint {s s' : LedgerState} {events : List LedgerEvent} (hs : s.Invariants)
    (h : applyEvents rt s events = .ok s') {eventId fp : String}
    (hfp : s'.eventFingerprints.get? eventId = some fp) :
    eventId ∈ events.map LedgerEvent.eventId ∨ s.eventFingerprints.get? eventId = some fp := by
  induction events generalizing s with
  | nil =>
    cases h
    exact .inr hfp
  | cons event events ih =>
    obtain ⟨t, hevent, h⟩ := foldlM_cons_eq_ok.mp h
    rw [List.map_cons, List.mem_cons]
    rcases ih (applyEvent_invariants hs hevent) h with hmem | hfp
    · exact .inl (.inr hmem)
    · rcases eventFingerprint_of_applyEvent hs hevent hfp with rfl | hfp
      · exact .inl (.inl rfl)
      · exact .inr hfp

end WeatherBot.Ledger
