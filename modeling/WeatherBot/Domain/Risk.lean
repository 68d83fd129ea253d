import WeatherBot.Domain.Evidence

/-!
# Risk scopes and portfolio valuations

The records of `domain/risk.py`.

* `RiskScope.new`, `RiskScope.new_self`: the normal form of a scope.
* `riskScopeEventId`: one event identifier for each position key.
* `PortfolioValuation`: marks with distinct keys and one currency.
-/

namespace WeatherBot.Domain

open WeatherBot.Common

/-! ## Risk scopes -/

/-- `RiskScope` (`risk.py`, 22-47). -/
structure RiskScope where
  marketId : String
  outcomeId : String
  eventId : String
  cityKey : String
  marketDate : Date
  correlationGroups : List String
deriving DecidableEq

namespace RiskScope

/-- One normalized correlation group. -/
def normalizeGroup (rt : Runtime) (group : String) : Except Error String := do
  let group ← requireText group "correlation group"
  return rt.casefold.map group

/-- `RiskScope.__post_init__`. -/
def new (rt : Runtime) (s : RiskScope) : Except Error RiskScope := do
  let _ ← requireText s.marketId "market_id"
  let _ ← requireText s.outcomeId "outcome_id"
  let eventId ← requireText s.eventId "event_id"
  let cityKey ← requireText s.cityKey "city_key"
  let groups ← s.correlationGroups.mapM (normalizeGroup rt)
  return { s with
    eventId := eventId
    cityKey := rt.casefold.map cityKey
    correlationGroups := sortedSet groups }

/-- The normal form of a case-folded text. -/
def Folded (rt : Runtime) (s : String) : Prop := Stripped s ∧ rt.casefold.map s = s

/-- The values that the constructor returns. -/
structure Valid (rt : Runtime) (s : RiskScope) : Prop where
  marketId : isBlank s.marketId = false
  outcomeId : isBlank s.outcomeId = false
  eventId : Stripped s.eventId
  cityKey : Folded rt s.cityKey
  groups : ∀ g ∈ s.correlationGroups, Folded rt g
  sorted : sortedSet s.correlationGroups = s.correlationGroups

theorem folded_of_requireText {rt : Runtime} {value label text : String}
    (h : requireText value label = .ok text) : Folded rt (rt.casefold.map text) :=
  stripped_map (stripped_of_requireText h)

theorem folded_of_normalizeGroup {rt : Runtime} {group g : String}
    (h : normalizeGroup rt group = .ok g) : Folded rt g := by
  obtain ⟨t, ht, h⟩ := bind_eq_ok.mp h
  cases h
  exact folded_of_requireText ht

theorem normalizeGroup_self {rt : Runtime} {g : String} (h : Folded rt g) :
    normalizeGroup rt g = .ok g := by
  rw [normalizeGroup, requireText_self h.1, ok_bind, h.2, pure_eq_ok]

theorem valid_of_new {rt : Runtime} {s s' : RiskScope} (h : new rt s = .ok s') : Valid rt s' := by
  obtain ⟨m, hm, h⟩ := bind_eq_ok.mp h
  obtain ⟨o, ho, h⟩ := bind_eq_ok.mp h
  obtain ⟨e, he, h⟩ := bind_eq_ok.mp h
  obtain ⟨c, hc, h⟩ := bind_eq_ok.mp h
  obtain ⟨gs, hgs, h⟩ := bind_eq_ok.mp h
  cases h
  exact {
    marketId := (requireText_eq_ok.mp hm).1
    outcomeId := (requireText_eq_ok.mp ho).1
    eventId := stripped_of_requireText he
    cityKey := folded_of_requireText hc
    groups := by
      intro g hg
      obtain ⟨x, -, hx⟩ := mem_of_mapM_eq_ok hgs (mem_sortedSet.mp hg)
      exact folded_of_normalizeGroup hx
    sorted := sortedSet_sortedSet gs }

/-- A scope is constructed from its own fields. -/
theorem new_self {rt : Runtime} {s : RiskScope} (h : Valid rt s) : new rt s = .ok s := by
  have hm : requireText s.marketId "market_id" = .ok (strip s.marketId) :=
    requireText_eq_ok.mpr ⟨h.marketId, rfl⟩
  have ho : requireText s.outcomeId "outcome_id" = .ok (strip s.outcomeId) :=
    requireText_eq_ok.mpr ⟨h.outcomeId, rfl⟩
  have hg : s.correlationGroups.mapM (normalizeGroup rt) = .ok s.correlationGroups :=
    mapM_eq_ok_self fun g hg => normalizeGroup_self (h.groups g hg)
  rw [new, hm, ok_bind, ho, ok_bind, requireText_self h.eventId, ok_bind,
    requireText_self h.cityKey.1, ok_bind, hg, ok_bind, h.cityKey.2, h.sorted, pure_eq_ok]

/-- `RiskScope.position_key`. -/
def positionKey (s : RiskScope) : String × String := (s.marketId, s.outcomeId)

/-- `RiskScope.city_date_key`. -/
def cityDateKey (s : RiskScope) : String := s.cityKey ++ ":" ++ s.marketDate.isoformat

/-- `RiskScope.all_correlation_groups`. -/
def allCorrelationGroups (rt : Runtime) (s : RiskScope) : List String :=
  sortedSet (("date:" ++ s.marketDate.isoformat) :: ("event:" ++ rt.casefold.map s.eventId) ::
    s.correlationGroups)

end RiskScope

/-- `risk_scope_event_id` (`risk.py`, 71-74). -/
def riskScopeEventId (rt : Runtime) (scope : RiskScope) : String :=
  "risk_scope_" ++ rt.sha256 (scope.marketId ++ "\n" ++ scope.outcomeId)

/-! ## Valuations -/

/-- `PositionValuation` (`risk.py`, 78-100). -/
structure PositionValuation where
  marketId : String
  outcomeId : String
  quantity : Micros
  liquidationValue : Money
  observedAt : DateTime
  marketId_text : isBlank marketId = false
  outcomeId_text : isBlank outcomeId = false
  quantity_pos : 0 < quantity.val
  liquidationValue_nonneg : 0 ≤ liquidationValue.amount.val

theorem PositionValuation.eq_iff (a b : PositionValuation) :
    (a.marketId = b.marketId ∧ a.outcomeId = b.outcomeId ∧ a.quantity = b.quantity ∧
      a.liquidationValue = b.liquidationValue ∧ a.observedAt = b.observedAt) ↔ a = b := by
  cases a
  cases b
  rw [mk.injEq]

instance : DecidableEq PositionValuation := fun a b =>
  decidable_of_iff _ (PositionValuation.eq_iff a b)

namespace PositionValuation

/-- `PositionValuation.__post_init__`. -/
def new (marketId outcomeId : String) (quantity : Decimal) (liquidationValue : Money)
    (observedAt : DateTime) : Except Error PositionValuation := do
  let ⟨hm⟩ ← ensureText marketId "market_id"
  let ⟨ho⟩ ← ensureText outcomeId "outcome_id"
  let quantity ← asDecimal quantity
  let ⟨hq⟩ ← ensure (0 < quantity.val) (.valueError "valuation quantity must be positive")
  let ⟨hl⟩ ← ensure (0 ≤ liquidationValue.amount.val)
    (.invariantViolation ("liquidation_value must not be negative: " ++ liquidationValue.amount.text))
  return ⟨marketId, outcomeId, quantity, liquidationValue, observedAt, hm, ho, hq, hl⟩

theorem new_self (v : PositionValuation) :
    new v.marketId v.outcomeId v.quantity.toDecimal v.liquidationValue v.observedAt = .ok v := by
  simp only [new, ensureText, asDecimal_toDecimal, ok_bind, ensure_bind_eq_ok]
  exact ⟨v.marketId_text, v.outcomeId_text, v.quantity_pos, v.liquidationValue_nonneg, rfl⟩

/-- `PositionValuation.position_key`. -/
def positionKey (v : PositionValuation) : String × String := (v.marketId, v.outcomeId)

end PositionValuation

/-- One mark of a portfolio valuation (`risk.py`, 118-122). -/
def checkMark (equity : Money) (assembledAt : DateTime) (mark : PositionValuation) :
    Except Error Unit := do
  raiseIf (mark.liquidationValue.currency ≠ equity.currency)
    (.valueError "portfolio valuation mixes currencies")
  raiseIf (assembledAt.instant < mark.observedAt.instant)
    (.valueError "position valuation cannot be observed after assembly")

/-- `PortfolioValuation` (`risk.py`, 103-123). -/
structure PortfolioValuation where
  positions : List PositionValuation
  equity : Money
  assembledAt : DateTime
  source : String
  equity_nonneg : 0 ≤ equity.amount.val
  source_text : Stripped source
  keys_nodup : (positions.map PositionValuation.positionKey).Nodup
  marks_checked : (positions.forM (checkMark equity assembledAt)) = .ok ()

instance (s : String) : Decidable (Stripped s) := inferInstanceAs (Decidable (_ ∧ _))

namespace PortfolioValuation

/-- `PortfolioValuation.__post_init__`. -/
def new (positions : List PositionValuation) (equity : Money) (assembledAt : DateTime)
    (source : String) : Except Error PortfolioValuation := do
  let ⟨he⟩ ← ensure (0 ≤ equity.amount.val)
    (.invariantViolation ("portfolio equity must not be negative: " ++ equity.amount.text))
  let ⟨hs⟩ ← ensure (Stripped (strip source)) (.valueError "valuation source must not be blank")
  let ⟨hk⟩ ← ensure ((positions.map PositionValuation.positionKey).Nodup)
    (.valueError "portfolio valuation contains duplicate position keys")
  let ⟨hm⟩ ← keepOk (positions.forM (checkMark equity assembledAt))
  return ⟨positions, equity, assembledAt, strip source, he, hs, hk, hm⟩

theorem new_self (v : PortfolioValuation) :
    new v.positions v.equity v.assembledAt v.source = .ok v := by
  have hstrip := v.source_text.1
  simp only [new, ensure_bind_eq_ok, keepOk_bind_eq_ok, hstrip]
  exact ⟨v.equity_nonneg, v.source_text, v.keys_nodup, v.marks_checked, rfl⟩

/-- The mark of a position key. -/
def mark? (v : PortfolioValuation) (key : String × String) : Option PositionValuation :=
  v.positions.find? fun mark => mark.positionKey = key

end PortfolioValuation

end WeatherBot.Domain
