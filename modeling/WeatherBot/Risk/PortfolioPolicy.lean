import WeatherBot.Risk.Portfolio

/-!
# The portfolio policy

What `evaluate_portfolio_risk` permits, over the positions and the orders of the
ledger and not over the dictionaries and loops of the code.

* `exposureOf`: the cost of open positions and the cash that live BUY orders
  reserve, of the position keys with a property.
* `Permits`: **the policy**.
* `approved_iff_permits`: the decision is an approval iff the policy permits the BUY.
-/

namespace WeatherBot.Risk

open WeatherBot.Common
open WeatherBot.Domain
open WeatherBot.Ledger

/-! ## Exposure -/

/-- An open position that holds something. -/
def OpenPosition (p : Position) : Prop := p.status = .open ∧ 0 < p.quantity.val

instance : DecidablePred OpenPosition := fun _ => inferInstanceAs (Decidable (_ ∧ _))

/-- What an open position of a key with the property cost. -/
def positionExposure (P : String × String → Prop) [DecidablePred P] (key : String × String)
    (p : Position) : ℤ :=
  if P key ∧ OpenPosition p then p.costBasis.amount.val else 0

/-- What a live BUY order for a key with the property reserves. -/
def orderExposure (P : String × String → Prop) [DecidablePred P] (_ : String)
    (order : OrderAggregate) : ℤ :=
  if P order.key ∧ LiveBuy order then order.reservedCash.amount.val else 0

/-- The exposure of the position keys with a property. -/
def exposureOf (s : LedgerState) (P : String × String → Prop) [DecidablePred P] : ℤ :=
  Dict.sumBy (positionExposure P) s.positions + Dict.sumBy (orderExposure P) s.orders

/-- The position keys with an open position or a live BUY order. -/
def exposedKeys (s : LedgerState) : Finset (String × String) :=
  (s.openPositions.map Prod.fst ++ (s.orders.values.filter LiveBuy).map OrderAggregate.key).toFinset

theorem mem_openPositions {s : LedgerState} {entry : (String × String) × Position} :
    entry ∈ s.openPositions ↔ entry ∈ s.positions.entries ∧ OpenPosition entry.2 := by
  rw [LedgerState.openPositions, List.mem_filter, decide_eq_true_eq]
  rfl

/-- A key is exposed by its position or by an order. -/
theorem mem_exposedKeys {s : LedgerState} {key : String × String} :
    key ∈ exposedKeys s ↔ (∃ p, s.positions.get? key = some p ∧ OpenPosition p) ∨
      ∃ intentId o, s.orders.get? intentId = some o ∧ LiveBuy o ∧ o.key = key := by
  rw [exposedKeys, List.mem_toFinset, List.mem_append, List.mem_map, List.mem_map]
  refine or_congr ?_ ?_
  · constructor
    · rintro ⟨entry, hentry, rfl⟩
      obtain ⟨hmem, hopen⟩ := mem_openPositions.mp hentry
      exact ⟨entry.2, Dict.get?_eq_some.mpr hmem, hopen⟩
    · rintro ⟨p, hp, hopen⟩
      exact ⟨(key, p), mem_openPositions.mpr ⟨Dict.get?_eq_some.mp hp, hopen⟩, rfl⟩
  · constructor
    · rintro ⟨o, ho, rfl⟩
      obtain ⟨hvalue, hlive⟩ := List.mem_filter.mp ho
      obtain ⟨entry, hentry, rfl⟩ := List.mem_map.mp hvalue
      exact ⟨entry.1, entry.2, Dict.get?_eq_some.mpr hentry, of_decide_eq_true hlive, rfl⟩
    · rintro ⟨intentId, o, ho, hlive, hkey⟩
      have hvalue := List.mem_map_of_mem (f := Prod.snd) (Dict.get?_eq_some.mp ho)
      exact ⟨o, List.mem_filter.mpr ⟨hvalue, decide_eq_true hlive⟩, hkey⟩

/-! ## The exposure that the code adds up -/

/-- The amounts of the keys with a property. -/
def amountAt (P : String × String → Prop) [DecidablePred P] (key : String × String) (m : Money) : ℤ :=
  if P key then m.amount.val else 0

theorem sumMoney_val {values : List Money} {currency : String} {m : Money}
    (h : sumMoney values currency = .ok m) :
    m.amount.val = (values.map fun v => v.amount.val).sum ∧ m.currency = currency := by
  have hloop : ∀ (values : List Money) (acc : Money), values.foldlM Money.add acc = .ok m →
      m.amount.val = acc.amount.val + (values.map fun v => v.amount.val).sum ∧
        m.currency = acc.currency := by
    intro values
    induction values with
    | nil =>
      intro acc h
      cases h
      exact ⟨(add_zero _).symm, rfl⟩
    | cons v values ih =>
      intro acc h
      obtain ⟨t, ht, h⟩ := foldlM_cons_eq_ok.mp h
      obtain ⟨-, htval, htcur⟩ := Money.add_eq_ok.mp ht
      obtain ⟨hval, hcur⟩ := ih t h
      rw [List.map_cons, List.sum_cons, ← add_assoc, ← htval]
      exact ⟨hval, hcur.trans htcur⟩
  have := hloop values _ h
  rwa [Money.zero_amount, Micros.zero_val, zero_add, Money.zero_currency] at this

/-- New keys, one after the other, each add their own term to a sum. -/
theorem sumBy_foldl_insert {V : Type} (f : String × String → V → ℤ)
    (amount : (String × String) × Position → V) {l : List ((String × String) × Position)}
    {d : Dict (String × String) V} (hnodup : (l.map Prod.fst).Nodup)
    (hnew : ∀ entry ∈ l, d.get? entry.1 = none) :
    Dict.sumBy f (l.foldl (fun d entry => d.insert entry.1 (amount entry)) d) =
      Dict.sumBy f d + (l.map fun entry => f entry.1 (amount entry)).sum := by
  induction l generalizing d with
  | nil => exact (add_zero _).symm
  | cons entry l ih =>
    rw [List.map_cons, List.nodup_cons] at hnodup
    rw [List.forall_mem_cons] at hnew
    rw [List.foldl_cons, ih hnodup.2, Dict.sumBy_insert_of_none f hnew.1, List.map_cons, List.sum_cons,
      add_assoc]
    intro e he
    have hne : entry.1 ≠ e.1 := fun h => hnodup.1 (h ▸ List.mem_map_of_mem (f := Prod.fst) he)
    rw [Dict.get?_insert_of_ne _ _ hne, hnew.2 e he]

theorem mem_keys_foldl_insert {V : Type} (amount : (String × String) × Position → V)
    (l : List ((String × String) × Position)) (d : Dict (String × String) V) (key : String × String) :
    key ∈ (l.foldl (fun d entry => d.insert entry.1 (amount entry)) d).keys ↔
      key ∈ d.keys ∨ key ∈ l.map Prod.fst := by
  induction l generalizing d with
  | nil => simp
  | cons entry l ih =>
    rw [List.foldl_cons, ih, Dict.mem_keys_insert, List.map_cons, List.mem_cons]
    tauto

variable {s : LedgerState}

theorem sumBy_openExposure (P : String × String → Prop) [DecidablePred P] :
    Dict.sumBy (amountAt P) (openExposure s) = Dict.sumBy (positionExposure P) s.positions := by
  have hnodup : (s.openPositions.map Prod.fst).Nodup :=
    s.positions.nodup.sublist (List.Sublist.map _ List.filter_sublist)
  rw [openExposure, sumBy_foldl_insert (amountAt P) (fun entry => entry.2.costBasis) hnodup
    fun _ _ => Dict.get?_empty _, Dict.sumBy_empty, zero_add]
  unfold Dict.sumBy LedgerState.openPositions
  induction s.positions.entries with
  | nil => rfl
  | cons entry l ih =>
    rw [List.filter_cons, List.map_cons, List.sum_cons, ← ih]
    by_cases hopen : OpenPosition entry.2
    · have hfilter : decide (entry.2.status = .open ∧ 0 < entry.2.quantity.val) = true :=
        decide_eq_true hopen
      rw [if_pos hfilter, List.map_cons, List.sum_cons]
      simp [amountAt, positionExposure, hopen]
    · have hfilter : ¬ decide (entry.2.status = .open ∧ 0 < entry.2.quantity.val) = true :=
        fun h => hopen (of_decide_eq_true h)
      rw [if_neg hfilter]
      simp [positionExposure, hopen]

/-- The loop over the orders adds what each live BUY reserves to its key. -/
theorem addReservations_spec {l : List OrderAggregate} {d d' : Dict (String × String) Money}
    (h : l.foldlM (addReservation s) d = .ok d') :
    (∀ (P : String × String → Prop) [DecidablePred P], Dict.sumBy (amountAt P) d' =
      Dict.sumBy (amountAt P) d + (l.map (orderExposure P "")).sum) ∧
    ∀ key, key ∈ d'.keys ↔ key ∈ d.keys ∨ key ∈ (l.filter LiveBuy).map OrderAggregate.key := by
  induction l generalizing d with
  | nil =>
    cases h
    simp
  | cons o l ih =>
    obtain ⟨t, ht, h⟩ := foldlM_cons_eq_ok.mp h
    obtain ⟨hsum, hkeys⟩ := ih h
    unfold addReservation at ht
    split_ifs at ht with hlive
    · obtain ⟨amount, hamount, ht⟩ := bind_eq_ok.mp ht
      cases ht
      obtain ⟨-, hval, -⟩ := Money.add_eq_ok.mp hamount
      constructor
      · intro P _
        rw [hsum P, Dict.sumBy_insert, List.map_cons, List.sum_cons, orderExposure, amountAt]
        cases hget : d.get? o.key with
        | none =>
          rw [hget] at hval
          simp [hlive, hval]
          ring
        | some m =>
          rw [hget] at hval
          simp only [Option.map_some, Option.getD_some, hlive, and_true, amountAt] at hval ⊢
          split_ifs <;> omega
      · intro key
        rw [hkeys, Dict.mem_keys_insert, List.filter_cons, if_pos (decide_eq_true hlive), List.map_cons,
          List.mem_cons]
        tauto
    · cases ht
      constructor
      · intro P _
        rw [hsum P, List.map_cons, List.sum_cons, orderExposure, if_neg (fun h => hlive h.2), zero_add]
      · intro key
        rw [hkeys, List.filter_cons, if_neg (fun h => hlive (of_decide_eq_true h))]

/-- **The exposure by position** is the exposure of the keys, and its keys are the exposed ones. -/
theorem exposureByPosition_spec {exposure : Dict (String × String) Money}
    (h : exposureByPosition s = .ok exposure) :
    (∀ (P : String × String → Prop) [DecidablePred P],
      Dict.sumBy (amountAt P) exposure = exposureOf s P) ∧
    ∀ key, key ∈ exposure.keys ↔ key ∈ exposedKeys s := by
  obtain ⟨hsum, hkeys⟩ := addReservations_spec h
  constructor
  · intro P _
    rw [hsum P, sumBy_openExposure, exposureOf, Dict.values, List.map_map]
    rfl
  · intro key
    rw [hkeys, openExposure, mem_keys_foldl_insert, exposedKeys, List.mem_toFinset, List.mem_append]
    simp [Dict.keys]

/-! ## Scopes -/

/-- The scope of a registration for a position key. -/
def scopeFor (key : String × String) : LedgerEvent → Option RiskScope
  | .riskScopeRegistered e => if e.scope.positionKey = key then some e.scope else none
  | _ => none

/-- The scope that the events register for a position key. -/
def scopeOf (events : List LedgerEvent) (key : String × String) : Option RiskScope :=
  events.findSome? (scopeFor key)

/-- The exposure of the keys whose scope has a property. -/
def scopeExposure (s : LedgerState) (events : List LedgerEvent) (P : RiskScope → Prop)
    [DecidablePred P] : ℤ :=
  exposureOf s fun key => ∃ scope ∈ scopeOf events key, P scope

/-- A registered scope is for its key. -/
theorem positionKey_of_scopeOf {events : List LedgerEvent} {key : String × String} {scope : RiskScope}
    (h : scopeOf events key = some scope) : scope.positionKey = key := by
  obtain ⟨event, -, hevent⟩ := List.exists_of_findSome?_eq_some h
  cases event with
  | riskScopeRegistered e =>
    rw [scopeFor, Option.ite_none_right_eq_some, Option.some.injEq] at hevent
    rw [← hevent.2]
    exact hevent.1
  | _ => cases hevent

/-- The dictionary of the code holds the scope that was registered first. -/
theorem riskScopes_spec {events : List LedgerEvent} {scopes : Dict (String × String) RiskScope}
    (h : riskScopes events = .ok scopes) (key : String × String) :
    scopes.get? key = scopeOf events key := by
  have hloop : ∀ (events : List LedgerEvent) (d : Dict (String × String) RiskScope),
      events.foldlM addScope d = .ok scopes →
        scopes.get? key = (d.get? key).or (events.findSome? (scopeFor key)) := by
    intro events
    induction events with
    | nil =>
      intro d h
      cases h
      simp
    | cons event events ih =>
      intro d h
      obtain ⟨t, ht, h⟩ := foldlM_cons_eq_ok.mp h
      rw [ih t h, List.findSome?_cons]
      cases event with
      | riskScopeRegistered e =>
        rw [addScope, raiseIf_bind_eq_ok] at ht
        obtain ⟨hsame, ht⟩ := ht
        cases ht
        rw [Dict.get?_insert, scopeFor]
        split_ifs with hkey
        · rw [Option.some_or]
          cases hget : d.get? key with
          | none => rfl
          | some existing =>
            have : existing = e.scope := by
              by_contra hne
              exact hsame ⟨existing, by rw [hkey, hget]; rfl, hne⟩
            rw [this, Option.some_or]
        · rfl
      | _ =>
        cases ht
        rfl
  have := hloop events _ h
  rwa [Dict.get?_empty, Option.none_or] at this

theorem scopedExposure_val {exposure : Dict (String × String) Money} {events : List LedgerEvent}
    {scopes : Dict (String × String) RiskScope} {P : RiskScope → Prop} [DecidablePred P] {m : Money}
    (hexposure : exposureByPosition s = .ok exposure) (hscopes : riskScopes events = .ok scopes)
    (h : scopedExposure s exposure scopes P = .ok m) :
    m.amount.val = scopeExposure s events P ∧ m.currency = s.currency := by
  obtain ⟨hval, hcur⟩ := sumMoney_val h
  refine ⟨?_, hcur⟩
  rw [hval, scopeExposure, ← (exposureByPosition_spec hexposure).1, Dict.sumBy, List.map_map]
  induction exposure.entries with
  | nil => rfl
  | cons entry l ih =>
    rw [List.filter_cons, List.map_cons, List.sum_cons, ← ih, amountAt, ← riskScopes_spec hscopes]
    by_cases hP : ∃ scope ∈ scopes.get? entry.1, P scope
    · rw [if_pos (decide_eq_true hP), if_pos hP, List.map_cons, List.sum_cons]
      rfl
    · rw [if_neg (fun h => hP (of_decide_eq_true h)), if_neg hP, zero_add]

theorem missingKeys_eq_nil {exposure : Dict (String × String) Money} {events : List LedgerEvent}
    {scopes : Dict (String × String) RiskScope} (hexposure : exposureByPosition s = .ok exposure)
    (hscopes : riskScopes events = .ok scopes) :
    missingKeys exposure scopes = [] ↔ ∀ key ∈ exposedKeys s, scopeOf events key ≠ none := by
  have hnil : ∀ l : List String, l.insertionSort (· ≤ ·) = [] ↔ l = [] := fun l => by
    rw [← List.length_eq_zero_iff, List.length_insertionSort, List.length_eq_zero_iff]
  rw [missingKeys, hnil, List.map_eq_nil_iff, List.filter_eq_nil_iff]
  constructor
  · intro h key hkey hnone
    refine h key (((exposureByPosition_spec hexposure).2 key).mpr hkey) (decide_eq_true ?_)
    rw [riskScopes_spec hscopes, hnone]
  · intro h key hkey hnone
    refine h key (((exposureByPosition_spec hexposure).2 key).mp hkey) ?_
    rw [← riskScopes_spec hscopes]
    exact of_decide_eq_true hnone

/-! ## Valuations -/

/-- The time is not too far ahead of the evaluation, and not too long ago. -/
def Timely (policy : PortfolioRiskPolicy) (evaluatedAt t : DateTime) : Prop :=
  t.instant ≤ evaluatedAt.instant + policy.futureTolerance ∧
    evaluatedAt.instant - t.instant ≤ policy.maximumValuationAge

/-- What the mark of a position says it is worth. -/
def markValue (valuation : PortfolioValuation) (key : String × String) : ℤ :=
  ((valuation.mark? key).map fun mark => mark.liquidationValue.amount.val).getD 0

/-- The valuation marks exactly what the ledger holds, in time, and adds up. -/
structure Valued (s : LedgerState) (valuation : PortfolioValuation) (evaluatedAt : DateTime)
    (policy : PortfolioRiskPolicy) : Prop where
  currency : valuation.equity.currency = s.currency
  timely : Timely policy evaluatedAt valuation.assembledAt
  covers : valuation.Covers s.openPositions
  marks : ∀ entry ∈ s.openPositions, ∃ mark, valuation.mark? entry.1 = some mark ∧
    mark.quantity = entry.2.quantity ∧ mark.liquidationValue.currency = s.currency ∧
    Timely policy evaluatedAt mark.observedAt
  equity : valuation.equity.amount.val =
    s.cash.amount.val + (s.openPositions.map fun entry => markValue valuation entry.1).sum

theorem addDelta_instant {value t : DateTime} {delta : ℤ} (h : addDelta value delta = .ok t) :
    t.instant = value.instant + delta := by
  unfold addDelta at h
  split at h
  · next wall hwall =>
    cases h
    obtain ⟨-, -, hoffset, hinstant⟩ := DateTime.ofInstant_eq_some.mp hwall
    rw [DateTime.instant, hoffset, sub_zero] at hinstant
    show wall.civilMicros - value.utcoffset = value.civilMicros - value.utcoffset + delta
    omega
  · cases h

theorem markOf_eq_ok {valuation : PortfolioValuation} {key : String × String}
    {mark : PositionValuation} :
    valuation.markOf key = .ok mark ↔ valuation.mark? key = some mark := by
  unfold PortfolioValuation.markOf
  cases valuation.mark? key with
  | none => exact iff_of_false (fun h => by cases h) (fun h => by cases h)
  | some m =>
    show Except.ok m = .ok mark ↔ some m = some mark
    rw [Except.ok.injEq, Option.some.injEq]

section Valuation

variable {valuation : PortfolioValuation} {evaluatedAt : DateTime} {policy : PortfolioRiskPolicy}

theorem markError_eq_none {entry : (String × String) × Position} {mark : PositionValuation}
    {e : Option String} (h : markError s evaluatedAt policy entry mark = .ok e) :
    e = none ↔ mark.quantity = entry.2.quantity ∧ mark.liquidationValue.currency = s.currency ∧
      Timely policy evaluatedAt mark.observedAt := by
  unfold markError at h
  dsimp only at h
  by_cases hquantity : mark.quantity = entry.2.quantity
  swap
  · rw [if_pos hquantity] at h
    cases h
    exact iff_of_false (fun h => by cases h) (fun h => hquantity h.1)
  by_cases hcurrency : mark.liquidationValue.currency = s.currency
  swap
  · rw [if_neg (not_not.mpr hquantity), if_pos hcurrency] at h
    cases h
    exact iff_of_false (fun h => by cases h) (fun h => hcurrency h.2.1)
  rw [if_neg (not_not.mpr hquantity), if_neg (not_not.mpr hcurrency)] at h
  obtain ⟨latest, hlatest, h⟩ := bind_eq_ok.mp h
  rw [and_iff_right hquantity, and_iff_right hcurrency, Timely, ← addDelta_instant hlatest]
  split_ifs at h with hfuture hstale
  · cases h
    exact iff_of_false (fun h => by cases h) (fun h => absurd h.1 (not_le.mpr hfuture))
  · cases h
    exact iff_of_false (fun h => by cases h) (fun h => absurd h.2 (not_le.mpr hstale))
  · cases h
    exact iff_of_true rfl ⟨not_lt.mp hfuture, not_lt.mp hstale⟩

/-- The loop over the marks returns a total iff every mark is accepted. -/
theorem liquidationTotal_spec {l : List ((String × String) × Position)} {total : Money}
    {r : Except String Money}
    (h : liquidationTotal s valuation evaluatedAt policy l total = .ok r) :
    (∀ t, r = .ok t → l.foldlM (addMark s valuation) total = .ok t ∧
      t.amount.val = total.amount.val + (l.map fun entry => markValue valuation entry.1).sum) ∧
    ((∃ t, r = .ok t) ↔ ∀ entry ∈ l, ∃ mark, valuation.mark? entry.1 = some mark ∧
      mark.quantity = entry.2.quantity ∧ mark.liquidationValue.currency = s.currency ∧
      Timely policy evaluatedAt mark.observedAt) := by
  induction l generalizing total with
  | nil =>
    cases h
    refine ⟨?_, iff_of_true ⟨total, rfl⟩ fun _ h => absurd h List.not_mem_nil⟩
    intro t ht
    cases ht
    exact ⟨rfl, (add_zero _).symm⟩
  | cons entry l ih =>
    obtain ⟨mark, hmark, h⟩ := bind_eq_ok.mp h
    obtain ⟨e, he, h⟩ := bind_eq_ok.mp h
    have hnone := markError_eq_none he
    have hget := markOf_eq_ok.mp hmark
    rw [List.forall_mem_cons]
    cases e with
    | some detail =>
      cases h
      refine ⟨fun t ht => (by cases ht), iff_of_false (fun h => ?_) ?_⟩
      · obtain ⟨t, ht⟩ := h
        cases ht
      · rintro ⟨⟨mark', hmark', hok⟩, -⟩
        rw [hget, Option.some.injEq] at hmark'
        subst hmark'
        exact absurd (hnone.mpr hok) (Option.some_ne_none detail)
    | none =>
      obtain ⟨next, hnext, h⟩ := bind_eq_ok.mp h
      obtain ⟨hsum, hall⟩ := ih h
      have hok := hnone.mp rfl
      obtain ⟨-, hval, -⟩ := Money.add_eq_ok.mp hnext
      constructor
      · intro t ht
        obtain ⟨hfold, htotal⟩ := hsum t ht
        constructor
        · refine foldlM_cons_eq_ok.mpr ⟨next, ?_, hfold⟩
          rw [addMark, hmark, ok_bind, raiseIf_of_not _ (not_not.mpr hok.1), ok_bind,
            raiseIf_of_not _ (not_not.mpr hok.2.1), ok_bind, hnext]
        · rw [htotal, hval, List.map_cons, List.sum_cons, markValue, hget, add_assoc]
          rfl
      · rw [hall]
        exact ⟨fun h => ⟨⟨mark, hget, hok⟩, h⟩, fun h => h.2⟩

/-- A valuation is refused iff it is not one of what the ledger holds. -/
theorem validateValuation_eq_none {e : Option String}
    (h : validateValuation s valuation evaluatedAt policy = .ok e) (hcash : s.cash.currency = s.currency) :
    e = none ↔ Valued s valuation evaluatedAt policy := by
  unfold validateValuation at h
  by_cases hcurrency : valuation.equity.currency = s.currency
  swap
  · rw [if_pos hcurrency] at h
    cases h
    exact iff_of_false (fun h => by cases h) (fun h => hcurrency h.currency)
  rw [if_neg (not_not.mpr hcurrency)] at h
  obtain ⟨latest, hlatest, h⟩ := bind_eq_ok.mp h
  rw [addDelta_instant hlatest] at h
  by_cases htimely : Timely policy evaluatedAt valuation.assembledAt
  swap
  · refine iff_of_false ?_ (fun h => htimely h.timely)
    rintro rfl
    by_cases hfuture : evaluatedAt.instant + policy.futureTolerance < valuation.assembledAt.instant
    · rw [if_pos hfuture] at h
      cases h
    · have hstale : policy.maximumValuationAge < evaluatedAt.instant - valuation.assembledAt.instant := by
        rw [Timely, not_and_or, not_le, not_le] at htimely
        exact htimely.resolve_left hfuture
      rw [if_neg hfuture, if_pos hstale] at h
      cases h
  rw [if_neg (not_lt.mpr htimely.1), if_neg (not_lt.mpr htimely.2)] at h
  by_cases hcovers : valuation.Covers s.openPositions
  swap
  · rw [if_pos hcovers] at h
    cases h
    exact iff_of_false (fun h => by cases h) (fun h => hcovers h.covers)
  rw [if_neg (not_not.mpr hcovers)] at h
  obtain ⟨r, hr, h⟩ := bind_eq_ok.mp h
  obtain ⟨hsum, hall⟩ := liquidationTotal_spec hr
  cases r with
  | error detail =>
    cases h
    refine iff_of_false (fun h => by cases h) (fun h => ?_)
    obtain ⟨t, ht⟩ := hall.mpr h.marks
    cases ht
  | ok total =>
    obtain ⟨equity, hequity, h⟩ := bind_eq_ok.mp h
    obtain ⟨-, htotal⟩ := hsum total rfl
    obtain ⟨-, hval, hcur⟩ := Money.add_eq_ok.mp hequity
    rw [htotal, Money.zero_amount, Micros.zero_val, zero_add] at hval
    split_ifs at h with hne
    · cases h
      refine iff_of_false (fun h => by cases h) (fun h => hne ?_)
      exact Money.ext_val (h.equity.trans hval.symm) (h.currency.trans (hcur.trans hcash).symm)
    · cases h
      rw [not_not] at hne
      exact iff_of_true rfl ⟨hcurrency, htimely, hcovers, hall.mp ⟨total, rfl⟩, by rw [hne, hval]⟩

end Valuation

/-! ## The policy -/

/-- The equities that the ledger knows: the initial cash, and the valuations recorded by then. -/
def equities (events : List LedgerEvent) (evaluatedAt : DateTime) : List Money :=
  (events.findSome? accountCash).toList ++ events.filterMap (recordedEquity evaluatedAt)

/-- The liquidation values of the open positions minus what they cost. -/
def unrealizedOf (s : LedgerState) (valuation : PortfolioValuation) : ℤ :=
  (s.openPositions.map fun entry => markValue valuation entry.1 - entry.2.costBasis.amount.val).sum

/-- **What the policy permits**: a BUY of the proposed cash for a key that has no exposure yet, at
marks of exactly what is held, below the limits on losses and within the caps. -/
structure Permits (rt : Runtime) (zoneInfo : String → Option Zone) (s : LedgerState)
    (events : List LedgerEvent) (scope : RiskScope) (cash : Money) (valuation : PortfolioValuation)
    (policy : PortfolioRiskPolicy) (evaluatedAt : DateTime) : Prop where
  valued : Valued s valuation evaluatedAt policy
  registered : ∀ key ∈ exposedKeys s, scopeOf events key ≠ none
  fresh : scope.positionKey ∉ exposedKeys s
  loss : ∀ realized,
    realizedPnlToday rt zoneInfo events s.currency evaluatedAt policy.lossTimezone = .ok realized →
      -(realized.amount.val + unrealizedOf s valuation) < policy.maximumDailyLoss.amount.val
  drawdown : ∀ equity ∈ equities events evaluatedAt,
    equity.amount.val - valuation.equity.amount.val < policy.maximumDrawdown.amount.val
  positions : (exposedKeys s).card + 1 ≤ policy.maximumOpenPositions
  total : exposureOf s (fun _ => True) + cash.amount.val ≤ policy.maximumTotalExposure.amount.val
  event : scopeExposure s events (fun r => r.eventId = scope.eventId) + cash.amount.val ≤
    policy.maximumEventExposure.amount.val
  cityDate : scopeExposure s events (fun r => r.cityDateKey = scope.cityDateKey) + cash.amount.val ≤
    policy.maximumCityDateExposure.amount.val
  correlation : ∀ group ∈ scope.allCorrelationGroups rt,
    scopeExposure s events (fun r => group ∈ r.allCorrelationGroups rt) + cash.amount.val ≤
      policy.maximumCorrelationGroupExposure.amount.val

section Evaluation

variable {rt : Runtime} {zoneInfo : String → Option Zone} {events : List LedgerEvent}
  {scope : RiskScope} {cash : Money} {valuation : PortfolioValuation} {policy : PortfolioRiskPolicy}
  {evaluatedAt : DateTime}

theorem moneyOfMicros_eq_ok {n : ℤ} {currency : String} {m : Money}
    (h : moneyOfMicros rt n currency = .ok m) :
    m.amount.val = n ∧ m.currency = rt.upper.normalize currency := by
  rw [moneyOfMicros, Money.new, raiseIf_bind_eq_ok] at h
  obtain ⟨-, h⟩ := h
  rw [asDecimal, Decimal.rescale_ofScaled, Money.quantize_bind_eq_ok] at h
  exact h

theorem addUnrealized_spec {l : List ((String × String) × Position)} {total m : Money}
    (h : l.foldlM (addUnrealized valuation) total = .ok m) :
    m.amount.val = total.amount.val +
      (l.map fun entry => markValue valuation entry.1 - entry.2.costBasis.amount.val).sum := by
  induction l generalizing total with
  | nil =>
    cases h
    exact (add_zero _).symm
  | cons entry l ih =>
    obtain ⟨t, ht, h⟩ := foldlM_cons_eq_ok.mp h
    obtain ⟨mark, hmark, ht⟩ := bind_eq_ok.mp ht
    obtain ⟨change, hchange, ht⟩ := bind_eq_ok.mp ht
    obtain ⟨-, hval, -⟩ := Money.sub_eq_ok.mp hchange
    obtain ⟨-, htval, -⟩ := Money.add_eq_ok.mp ht
    have hmark : markValue valuation entry.1 = mark.liquidationValue.amount.val := by
      rw [markValue, markOf_eq_ok.mp hmark]
      rfl
    rw [ih h, htval, hval, List.map_cons, List.sum_cons, hmark, add_assoc]

theorem foldl_max_lt {l : List ℤ} {x c : ℤ} : l.foldl max x < c ↔ x < c ∧ ∀ y ∈ l, y < c := by
  induction l generalizing x with
  | nil => simp
  | cons y l ih => rw [List.foldl_cons, ih, max_lt_iff, List.forall_mem_cons, and_assoc]

theorem le_foldl_max {l : List ℤ} {x : ℤ} : x ≤ l.foldl max x := by
  induction l generalizing x with
  | nil => exact le_rfl
  | cons y l ih => exact (le_max_left x y).trans ih

/-- The drawdown from the high-water mark is below a limit iff that from every equity is. -/
theorem highWaterMark_spec {equity m : Money} (h : highWaterMark rt events equity evaluatedAt = .ok m) :
    equity.amount.val ≤ m.amount.val ∧ ∀ c : ℤ, 0 < c →
      (m.amount.val - equity.amount.val < c ↔
        ∀ e ∈ equities events evaluatedAt, e.amount.val - equity.amount.val < c) := by
  unfold highWaterMark at h
  unfold equities
  cases hcash : events.findSome? accountCash with
  | none =>
    rw [hcash] at h
    cases h
  | some initialCash =>
    rw [hcash] at h
    dsimp only at h
    rw [raiseIf_bind_eq_ok, raiseIf_bind_eq_ok] at h
    obtain ⟨hval, -⟩ := moneyOfMicros_eq_ok h.2.2
    rw [hval]
    refine ⟨(le_max_right _ _).trans le_foldl_max, fun c hc => ?_⟩
    rw [sub_lt_iff_lt_add, foldl_max_lt, max_lt_iff, Option.toList_some, List.singleton_append,
      List.forall_mem_cons, List.forall_mem_map]
    simp only [sub_lt_iff_lt_add]
    have hself : equity.amount.val < c + equity.amount.val := by omega
    tauto

/-- What an assessment found out. -/
structure Assessed (rt : Runtime) (zoneInfo : String → Option Zone) (s : LedgerState)
    (events : List LedgerEvent) (scope : RiskScope) (cash : Money) (valuation : PortfolioValuation)
    (policy : PortfolioRiskPolicy) (evaluatedAt : DateTime) (a : Assessment) : Prop where
  invariants : s.Invariants
  opened : s.opened = true
  cash_pos : 0 < cash.amount.val
  cash_currency : cash.currency = s.currency
  scope_eq : ∀ registered ∈ scopeOf events scope.positionKey, registered = scope
  proposed : a.inputs.proposedScope = scope ∧ a.inputs.proposedCash = cash
  valuationError : validateValuation s valuation evaluatedAt policy = .ok a.valuationError
  missing : a.missingKeys = [] ↔ ∀ key ∈ exposedKeys s, scopeOf events key ≠ none
  duplicate : a.isDuplicate = true ↔ scope.positionKey ∈ exposedKeys s
  loss : a.valuationError = none → ∃ realized,
    realizedPnlToday rt zoneInfo events s.currency evaluatedAt policy.lossTimezone = .ok realized ∧
      a.inputs.dailyLoss.amount.val = max 0 (-(realized.amount.val + unrealizedOf s valuation))
  drawdown : a.valuationError = none →
    (a.inputs.drawdown.amount.val < policy.maximumDrawdown.amount.val ↔
      ∀ equity ∈ equities events evaluatedAt,
        equity.amount.val - valuation.equity.amount.val < policy.maximumDrawdown.amount.val)
  positions : a.inputs.openPositionsAfter =
    (exposedKeys s).card + if a.isDuplicate = true then 0 else 1
  total : a.inputs.totalExposureAfter.amount.val = exposureOf s (fun _ => True) + cash.amount.val
  event : a.inputs.eventExposureAfter.amount.val =
    scopeExposure s events (fun r => r.eventId = scope.eventId) + cash.amount.val
  cityDate : a.inputs.cityDateExposureAfter.amount.val =
    scopeExposure s events (fun r => r.cityDateKey = scope.cityDateKey) + cash.amount.val
  correlation : ∀ c : ℤ, (∀ item ∈ a.inputs.correlationExposures, item.after.amount.val ≤ c) ↔
    ∀ group ∈ scope.allCorrelationGroups rt,
      scopeExposure s events (fun r => group ∈ r.allCorrelationGroups rt) + cash.amount.val ≤ c

theorem correlationExposure_spec {exposure : Dict (String × String) Money}
    {scopes : Dict (String × String) RiskScope} {group : String} {item : CorrelationExposure}
    (hexposure : exposureByPosition s = .ok exposure) (hscopes : riskScopes events = .ok scopes)
    (h : correlationExposure rt s exposure scopes cash group = .ok item) :
    item.after.amount.val =
      scopeExposure s events (fun r => group ∈ r.allCorrelationGroups rt) + cash.amount.val := by
  obtain ⟨before, hbefore, h⟩ := bind_eq_ok.mp h
  obtain ⟨after, hafter, h⟩ := bind_eq_ok.mp h
  rw [CorrelationExposure.new, raiseIf_bind_eq_ok, raiseIf_bind_eq_ok, raiseIf_bind_eq_ok] at h
  obtain ⟨-, -, -, h⟩ := h
  cases h
  rw [(Money.add_eq_ok.mp hafter).2.1, (scopedExposure_val hexposure hscopes hbefore).1]

theorem correlationExposures_spec {exposure : Dict (String × String) Money}
    {scopes : Dict (String × String) RiskScope} {groups : List String}
    {items : List CorrelationExposure} (hexposure : exposureByPosition s = .ok exposure)
    (hscopes : riskScopes events = .ok scopes)
    (h : groups.mapM (correlationExposure rt s exposure scopes cash) = .ok items) (c : ℤ) :
    (∀ item ∈ items, item.after.amount.val ≤ c) ↔ ∀ group ∈ groups,
      scopeExposure s events (fun r => group ∈ r.allCorrelationGroups rt) + cash.amount.val ≤ c := by
  constructor
  · intro hall group hgroup
    obtain ⟨item, hitem, hmap⟩ := exists_of_mapM_eq_ok h hgroup
    rw [← correlationExposure_spec hexposure hscopes hmap]
    exact hall item hitem
  · intro hall item hitem
    obtain ⟨group, hgroup, hmap⟩ := mem_of_mapM_eq_ok h hitem
    rw [correlationExposure_spec hexposure hscopes hmap]
    exact hall group hgroup

theorem card_exposedKeys {exposure : Dict (String × String) Money}
    (h : exposureByPosition s = .ok exposure) : exposure.keys.length = (exposedKeys s).card := by
  have hset : exposure.keys.toFinset = exposedKeys s := by
    ext key
    rw [List.mem_toFinset, (exposureByPosition_spec h).2]
  rw [← hset, List.toFinset_card_of_nodup (l := exposure.keys) exposure.nodup]

theorem sum_values_exposure {exposure : Dict (String × String) Money}
    (h : exposureByPosition s = .ok exposure) :
    (exposure.values.map fun m => m.amount.val).sum = exposureOf s (fun _ => True) := by
  rw [← (exposureByPosition_spec h).1, Dict.sumBy, Dict.values, List.map_map]
  simp only [amountAt, if_true]
  rfl

/-- The unrealized profit, the equity and the drawdown of a valuation that is accepted. -/
theorem marksOf_none {r : Money × Money × Money}
    (h : marksOf rt s events valuation evaluatedAt none = .ok r) :
    r.1.amount.val = unrealizedOf s valuation ∧ r.2.1 = valuation.equity ∧
      highWaterMark rt events valuation.equity evaluatedAt = .ok r.2.2 := by
  obtain ⟨unrealized, hunrealized, h⟩ := bind_eq_ok.mp h
  obtain ⟨highWater, hhigh, h⟩ := bind_eq_ok.mp h
  cases h
  have hval := addUnrealized_spec hunrealized
  rw [Money.zero_amount, Micros.zero_val, zero_add] at hval
  exact ⟨hval, rfl, hhigh⟩

theorem assessed_of_assessPortfolio {a : Assessment}
    (h : assessPortfolio rt zoneInfo s events scope cash valuation policy evaluatedAt = .ok a) :
    Assessed rt zoneInfo s events scope cash valuation policy evaluatedAt a := by
  rw [assessPortfolio, check_bind_eq_ok] at h
  obtain ⟨hinvariants, h⟩ := h
  rw [raiseIf_bind_eq_ok, raiseIf_bind_eq_ok, raiseIf_bind_eq_ok, not_or, not_not, not_not,
    Bool.not_eq_false, not_le] at h
  obtain ⟨hopened, hpos, ⟨hcurrency, -⟩, h⟩ := h
  obtain ⟨scopes, hscopes, h⟩ := bind_eq_ok.mp h
  rw [raiseIf_bind_eq_ok] at h
  obtain ⟨hscope, h⟩ := h
  obtain ⟨exposure, hexposure, h⟩ := bind_eq_ok.mp h
  obtain ⟨totalBefore, htotalBefore, h⟩ := bind_eq_ok.mp h
  obtain ⟨totalAfter, htotalAfter, h⟩ := bind_eq_ok.mp h
  obtain ⟨eventBefore, heventBefore, h⟩ := bind_eq_ok.mp h
  obtain ⟨eventAfter, heventAfter, h⟩ := bind_eq_ok.mp h
  obtain ⟨cityDateBefore, hcityDateBefore, h⟩ := bind_eq_ok.mp h
  obtain ⟨cityDateAfter, hcityDateAfter, h⟩ := bind_eq_ok.mp h
  obtain ⟨correlation, hcorrelation, h⟩ := bind_eq_ok.mp h
  obtain ⟨valuationError, hvaluation, h⟩ := bind_eq_ok.mp h
  obtain ⟨realizedToday, hrealized, h⟩ := bind_eq_ok.mp h
  obtain ⟨⟨unrealized, currentEquity, highWater⟩, hmarks, h⟩ := bind_eq_ok.mp h
  obtain ⟨dailyPnl, hdailyPnl, h⟩ := bind_eq_ok.mp h
  obtain ⟨dailyLoss, hdailyLoss, h⟩ := bind_eq_ok.mp h
  obtain ⟨drawdown, hdrawdown, h⟩ := bind_eq_ok.mp h
  cases h
  have hkeys := (exposureByPosition_spec hexposure).2
  have hdup : decide (scope.positionKey ∈ exposure.keys) = true ↔ scope.positionKey ∈ exposedKeys s := by
    rw [decide_eq_true_eq, hkeys]
  exact {
    invariants := LedgerState.assertInvariants_eq_ok.mp hinvariants
    opened := hopened
    cash_pos := hpos
    cash_currency := hcurrency
    scope_eq := by
      intro registered hregistered
      by_contra hne
      exact hscope ⟨registered, by rwa [riskScopes_spec hscopes], hne⟩
    proposed := ⟨rfl, rfl⟩
    valuationError := hvaluation
    missing := missingKeys_eq_nil hexposure hscopes
    duplicate := hdup
    loss := by
      rintro rfl
      obtain ⟨hunrealized, -, -⟩ := marksOf_none hmarks
      refine ⟨realizedToday, hrealized, ?_⟩
      rw [(moneyOfMicros_eq_ok hdailyLoss).1, (Money.add_eq_ok.mp hdailyPnl).2.1, ← hunrealized]
    drawdown := by
      rintro rfl
      obtain ⟨-, rfl, hhigh⟩ := marksOf_none hmarks
      obtain ⟨hle, hlt⟩ := highWaterMark_spec hhigh
      have hcap := policy.maximumDrawdown_pos
      -- the equity is not negative, so the difference has no more digits than the high-water mark
      have hfits : Fits (highWater.amount.val - valuation.equity.amount.val) :=
        LedgerState.fits_sub valuation.equity_nonneg hle
      rw [(moneyOfMicros_eq_ok hdrawdown).1, ctxRound_of_lt hfits, max_lt_iff, ← hlt _ hcap]
      exact and_iff_right hcap
    positions := by
      dsimp only
      rw [card_exposedKeys hexposure]
      split_ifs <;> rfl
    total := by
      rw [(Money.add_eq_ok.mp htotalAfter).2.1, (sumMoney_val htotalBefore).1,
        sum_values_exposure hexposure]
    event := by
      rw [(Money.add_eq_ok.mp heventAfter).2.1, (scopedExposure_val hexposure hscopes heventBefore).1]
    cityDate := by
      rw [(Money.add_eq_ok.mp hcityDateAfter).2.1,
        (scopedExposure_val hexposure hscopes hcityDateBefore).1]
    correlation := correlationExposures_spec hexposure hscopes hcorrelation }

/-- One comparison of the chain. -/
theorem ite_some_eq_none {α : Type} {p : Prop} [Decidable p] {x : α} {y : Option α} :
    (if p then some x else y) = none ↔ ¬ p ∧ y = none := by
  by_cases h : p <;> simp [h]

/-- An assessment passes every comparison iff the policy permits the BUY. -/
theorem Assessed.rejection_eq_none {a : Assessment}
    (h : Assessed rt zoneInfo s events scope cash valuation policy evaluatedAt a) :
    a.rejection policy = none ↔
      Permits rt zoneInfo s events scope cash valuation policy evaluatedAt := by
  have hvalued := validateValuation_eq_none h.valuationError h.invariants.cash_currency
  unfold Assessment.rejection
  cases herror : a.valuationError with
  | some detail =>
    rw [herror] at hvalued
    exact iff_of_false (fun h => by cases h) (fun hp => by cases hvalued.mpr hp.valued)
  | none =>
    rw [herror, eq_self_iff_true, true_iff] at hvalued
    obtain ⟨realized, hrealized, hloss⟩ := h.loss herror
    have hlosscap := policy.maximumDailyLoss_pos
    dsimp only
    simp only [ite_some_eq_none, not_le, not_lt, not_not, Option.map_eq_none_iff, List.find?_eq_none,
      decide_eq_true_eq]
    rw [h.missing, h.duplicate, h.drawdown herror, h.positions, h.total, h.event, h.cityDate,
      h.correlation, hloss, max_lt_iff]
    constructor
    · rintro ⟨hregistered, hfresh, ⟨-, hloss⟩, hdrawdown, hpositions, htotal, hevent, hcity, hgroups⟩
      rw [if_neg (fun hdup => hfresh (h.duplicate.mp hdup))] at hpositions
      refine ⟨hvalued, hregistered, hfresh, ?_, hdrawdown, hpositions, htotal, hevent, hcity, hgroups⟩
      intro realized' hrealized'
      cases hrealized.symm.trans hrealized'
      exact hloss
    · intro hp
      rw [if_neg (fun hdup => hp.fresh (h.duplicate.mp hdup))]
      exact ⟨hp.registered, hp.fresh, ⟨hlosscap, hp.loss realized hrealized⟩, hp.drawdown, hp.positions,
        hp.total, hp.event, hp.cityDate, hp.correlation⟩

/-- **A decision that is returned is an approval iff the policy permits the BUY.** -/
theorem approved_iff_permits {d : PortfolioRiskDecision}
    (h : evaluatePortfolioRisk rt zoneInfo s events scope cash valuation policy evaluatedAt = .ok d) :
    d.status = .approved ↔ Permits rt zoneInfo s events scope cash valuation policy evaluatedAt := by
  obtain ⟨a, ha, h⟩ := bind_eq_ok.mp h
  rw [← (assessed_of_assessPortfolio ha).rejection_eq_none]
  cases hrejection : a.rejection policy with
  | none =>
    rw [hrejection] at h
    rw [PortfolioRiskDecision.eq_of_new h]
    exact iff_of_true rfl rfl
  | some r =>
    rw [hrejection] at h
    rw [PortfolioRiskDecision.eq_of_new h]
    exact iff_of_false (fun h => by cases h) (fun h => by cases h)

end Evaluation

/-! ## A first BUY -/

namespace Sample

open WeatherBot.Ledger.Sample

def usdcMoney (n : ℤ) (h : Fits n) : Money := ⟨⟨n, h⟩, "USDC"⟩

theorem offset_lt_utc : ∀ offset ∈ (0 : ℤ) :: ([] : List (ℤ × ℤ)).map Prod.snd,
    offset.natAbs < dayMicros := by decide

def utc : Zone where
  initial := 0
  transitions := []
  increasing := List.Pairwise.nil
  offset_lt := offset_lt_utc

/-- Every limit is a dollar, but that on losses. -/
def limits : PortfolioLimits where
  maximumTotalExposure := usdcMoney 1000000 fits_million
  maximumEventExposure := usdcMoney 1000000 fits_million
  maximumCityDateExposure := usdcMoney 1000000 fits_million
  maximumCorrelationGroupExposure := usdcMoney 1000000 fits_million
  maximumDailyLoss := usdcMoney 500000 fits_half
  maximumDrawdown := usdcMoney 500000 fits_half

theorem limits_checked :
    (limits.labelled.forM (checkLimit limits.maximumTotalExposure.currency)) = .ok () := by
  decide

theorem age_pos : (0 : ℤ) < 30 * secondMicros := by decide

theorem tolerance_nonneg : (0 : ℤ) ≤ 5 * secondMicros := by decide

theorem text_utc : isBlank "UTC" = false := by decide

/-- One position at a time, and the default times. -/
def policy : PortfolioRiskPolicy where
  toPortfolioLimits := limits
  maximumOpenPositions := 1
  maximumValuationAge := 30 * secondMicros
  futureTolerance := 5 * secondMicros
  lossTimezone := "UTC"
  limits_checked := limits_checked
  maximumOpenPositions_pos := Int.one_pos
  maximumValuationAge_pos := age_pos
  futureTolerance_nonneg := tolerance_nonneg
  lossTimezone_text := text_utc

def scope : RiskScope where
  marketId := "market"
  outcomeId := "yes"
  eventId := "event"
  cityKey := "city"
  marketDate := Common.Sample.newYear
  correlationGroups := []

theorem twoDollars_nonneg : 0 ≤ (usdcMoney 2000000 fits_twoMillion).amount.val := by decide

theorem source_text : Stripped "source" := by decide

theorem keys_nodup :
    (([] : List PositionValuation).map PositionValuation.positionKey).Nodup := List.nodup_nil

theorem marks_checked (equity : Money) (t : DateTime) :
    (([] : List PositionValuation).forM (checkMark equity t)) = .ok () := rfl

/-- Two dollars and no position. -/
def cashOnly : PortfolioValuation where
  positions := []
  equity := usdcMoney 2000000 fits_twoMillion
  assembledAt := noon
  source := "source"
  equity_nonneg := twoDollars_nonneg
  source_text := source_text
  keys_nodup := keys_nodup
  marks_checked := marks_checked _ _

/-- An account with two dollars. -/
def account : List LedgerEvent :=
  [accountOpened (event "1" (.refl false)) (usdcMoney 2000000 fits_twoMillion) twoDollars_nonneg]

def accountState : LedgerState := okOr (replay .utc account "USDC") (.fresh "USDC")

end Sample

/-- A first BUY for a dollar is approved, and nothing refuses it. -/
theorem approved_iff_permits_firstBuy :
    ∃ d, evaluatePortfolioRisk .utc (fun _ => some Sample.utc) Sample.accountState Sample.account
        Sample.scope (Sample.usdcMoney 1000000 Ledger.Sample.fits_million) Sample.cashOnly Sample.policy
        Ledger.Sample.noon = .ok d ∧
      d.status = .approved ∧
      Permits .utc (fun _ => some Sample.utc) Sample.accountState Sample.account Sample.scope
        (Sample.usdcMoney 1000000 Ledger.Sample.fits_million) Sample.cashOnly Sample.policy
        Ledger.Sample.noon := by
  have hstatus : (evaluatePortfolioRisk .utc (fun _ => some Sample.utc) Sample.accountState
      Sample.account Sample.scope (Sample.usdcMoney 1000000 Ledger.Sample.fits_million) Sample.cashOnly
      Sample.policy Ledger.Sample.noon).map PortfolioRiskDecision.status = .ok .approved := by
    decide +kernel
  cases hd : evaluatePortfolioRisk .utc (fun _ => some Sample.utc) Sample.accountState Sample.account
      Sample.scope (Sample.usdcMoney 1000000 Ledger.Sample.fits_million) Sample.cashOnly Sample.policy
      Ledger.Sample.noon with
  | error e =>
    rw [hd] at hstatus
    cases hstatus
  | ok d =>
    rw [hd] at hstatus
    have happroved : d.status = .approved := Except.ok.inj hstatus
    exact ⟨d, rfl, happroved, (approved_iff_permits hd).mp happroved⟩

end WeatherBot.Risk
