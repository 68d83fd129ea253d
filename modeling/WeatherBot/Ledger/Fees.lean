import WeatherBot.Ledger.Fills

/-!
# The fees of a run

* `runFills`: the fills of all orders in a list of events.
* `acceptedFills_eq_filter`: those of one order are the fills of the run on it.
* `sum_fees_of_replay`: **the orders' fees add up to the fees of the run's fills.**
-/

namespace WeatherBot.Ledger

open WeatherBot.Common
open WeatherBot.Domain

variable {rt : Runtime}

/-- The fill that an event reports. -/
def anyFill : LedgerEvent → Option FillReceived
  | .fillReceived fill => some fill
  | _ => none

/-- All accepted fills, every event and every fill identifier of an order at its first occurrence. -/
def runFills (events : List LedgerEvent) : List FillReceived :=
  firstBy (fun fill => (fill.intentId, fill.fillId))
    ((firstBy LedgerEvent.eventId events).filterMap anyFill)

/-- The fees of all accepted fills. -/
def acceptedFees (events : List LedgerEvent) : ℤ :=
  ((runFills events).map fun fill => fill.fee.amount.val).sum

theorem filterMap_fillOf (intentId : String) (events : List LedgerEvent) :
    events.filterMap (fillOf intentId) =
      (events.filterMap anyFill).filter fun fill => fill.intentId = intentId := by
  induction events with
  | nil => rfl
  | cons event events ih =>
    cases event with
    | fillReceived fill =>
      by_cases h : fill.intentId = intentId <;> simp [fillOf, anyFill, h, ih]
    | _ => exact ih

theorem acceptedFills_eq_filter (events : List LedgerEvent) (intentId : String) :
    acceptedFills events intentId =
      (runFills events).filter fun fill => fill.intentId = intentId := by
  rw [acceptedFills, filterMap_fillOf, runFills, firstBy_filter]

/-- A sum over entries where one key counts. -/
theorem sumBy_single {V : Type} {d : Dict String V} {k : String} {v : V} (hget : d.get? k = some v)
    (c : ℤ) : Dict.sumBy (fun key _ => if k = key then c else 0) d = c := by
  have hmem := Dict.get?_eq_some.mp hget
  have hkeys : (d.entries.map Prod.fst).Nodup := d.nodup
  rw [Dict.sumBy]
  revert hmem hkeys
  generalize d.entries = l
  intro hmem hkeys
  induction l with
  | nil => cases hmem
  | cons p l ih =>
    rw [List.map_cons, List.nodup_cons] at hkeys
    rw [List.map_cons, List.sum_cons]
    rcases List.mem_cons.mp hmem with rfl | hmem
    · -- no later entry has the key
      have hzero : (l.map fun p => if k = p.1 then c else 0).sum = 0 := by
        apply List.sum_eq_zero
        intro x hx
        obtain ⟨q, hq, rfl⟩ := List.mem_map.mp hx
        rw [if_neg]
        rintro rfl
        exact hkeys.1 (List.mem_map.mpr ⟨q, hq, rfl⟩)
      rw [if_pos rfl, hzero, add_zero]
    · have hne : k ≠ p.1 := by
        rintro rfl
        exact hkeys.1 (List.mem_map.mpr ⟨_, hmem, rfl⟩)
      rw [if_neg hne, zero_add, ih hmem hkeys.2]

/-- Sums over the fills of each entry add up to the sum over the fills. -/
theorem sumBy_filter {V : Type} {d : Dict String V} {fills : List FillReceived}
    (hfills : ∀ fill ∈ fills, d.get? fill.intentId ≠ none) (f : FillReceived → ℤ) :
    Dict.sumBy (fun key _ => ((fills.filter fun fill => fill.intentId = key).map f).sum) d =
      (fills.map f).sum := by
  induction fills with
  | nil => simp [Dict.sumBy]
  | cons fill fills ih =>
    obtain ⟨v, hv⟩ := Option.ne_none_iff_exists'.mp (hfills fill List.mem_cons_self)
    have hrest := ih fun g hg => hfills g (List.mem_cons_of_mem _ hg)
    have hsplit : ∀ key, (((fill :: fills).filter fun fill => fill.intentId = key).map f).sum =
        (if fill.intentId = key then f fill else 0) +
          ((fills.filter fun fill => fill.intentId = key).map f).sum := by
      intro key
      by_cases hk : fill.intentId = key <;> simp [hk]
    simp only [hsplit]
    rw [List.map_cons, List.sum_cons, ← hrest]
    conv_rhs => rw [← sumBy_single hv (f fill)]
    exact List.sum_map_add

/-- **The fees of all orders are the fees of all accepted fills.** -/
theorem sum_fees_of_replay {events : List LedgerEvent} {currency : String} {s : LedgerState}
    (h : replay rt events currency = .ok s) :
    Dict.sumBy (fun _ o => o.fees.amount.val) s.orders = acceptedFees events := by
  have hhistory := fillHistory_of_replay h
  have hknown : ∀ fill ∈ runFills events, s.orders.get? fill.intentId ≠ none := by
    intro fill hfill hnone
    have hmem : fill ∈ acceptedFills events fill.intentId := by
      rw [acceptedFills_eq_filter]
      exact List.mem_filter.mpr ⟨hfill, decide_eq_true rfl⟩
    rw [hhistory.absent _ hnone] at hmem
    cases hmem
  rw [acceptedFees, ← sumBy_filter hknown]
  refine Dict.sumBy_congr ?_
  intro entry hentry
  rw [← acceptedFills_eq_filter]
  exact (hhistory.order _ _ (Dict.get?_eq_some.mpr hentry)).fees

end WeatherBot.Ledger
