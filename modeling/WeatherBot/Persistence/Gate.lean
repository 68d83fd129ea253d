import WeatherBot.Persistence.Safety
import WeatherBot.Risk.Caps

/-!
# The gate before BUY intents

Runs of the calls of a `PortfolioRiskEventStore`. It overrides `commit_order_intent`
for SELL intents, and so BUY intents come in with a risk check.

* `gated_of_reaches`: the ledger of every run is guarded.
* `buys_permitted`: **every BUY of every run was permitted when it was made**.
* `caps_kept`: **every run stays within the caps of its policy**.
-/

namespace WeatherBot.Persistence

open WeatherBot.Common
open WeatherBot.Domain
open WeatherBot.Risk

/-! ## Calls -/

/-- A public call of a `PortfolioRiskEventStore`, whose risk checks are with certain policies. -/
def Operation.OfRiskStore (policies : Set PortfolioRiskPolicy) : Operation → Prop
  | .commitOrderIntent .. => False
  | .commitRiskCheckedOrderIntent r => r.policy ∈ policies
  | _ => True

/-- A call that a client of the risk store can make. -/
structure RiskCall (rt : Runtime) (policies : Set PortfolioRiskPolicy) extends Call rt where
  ofRiskStore : op.OfRiskStore policies

/-- What the call does to the tables. -/
def RiskCall.run (rt : Runtime) (zoneInfo : String → Option Zone) (policies : Set PortfolioRiskPolicy)
    (call : RiskCall rt policies) : Action Error Db Unit := call.toCall.run rt zoneInfo

/-- Some calls of the risk store lead from one state of the tables to the other. -/
def RiskReaches (rt : Runtime) (zoneInfo : String → Option Zone) (policies : Set PortfolioRiskPolicy)
    (db db' : Db) : Prop :=
  Relation.ReflTransGen (Action.CallStep (RiskCall.run rt zoneInfo policies)) db db'

/-- The tables after some calls. -/
def afterRiskCalls (rt : Runtime) (zoneInfo : String → Option Zone) (policies : Set PortfolioRiskPolicy)
    (calls : List (RiskCall rt policies)) (db : Db) : Db :=
  calls.foldl (fun db call => (call.run rt zoneInfo policies db).2) db

theorem riskReaches_afterRiskCalls {rt : Runtime} {zoneInfo : String → Option Zone}
    {policies : Set PortfolioRiskPolicy} (calls : List (RiskCall rt policies)) (db : Db) :
    RiskReaches rt zoneInfo policies db (afterRiskCalls rt zoneInfo policies calls db) := by
  induction calls generalizing db with
  | nil => exact .refl
  | cons call calls ih => exact (Relation.ReflTransGen.single ⟨call, rfl⟩).trans (ih _)

variable {rt : Runtime} {zoneInfo : String → Option Zone} {policies : Set PortfolioRiskPolicy}
  {db db' : Db} {events new batch : List LedgerEvent}

/-! ## One transition -/

/-- The ledger of the store is guarded. -/
def IsGuarded (rt : Runtime) (zoneInfo : String → Option Zone) (policies : Set PortfolioRiskPolicy)
    (events : List LedgerEvent) : Prop :=
  Guarded rt zoneInfo policies (rt.upper.normalize "USDC") events

theorem IsGuarded.quiet (h : IsGuarded rt zoneInfo policies events) (hnew : intentsOf new = []) :
    IsGuarded rt zoneInfo policies (events ++ new) := by
  refine h.append fun before e after heq _ => ?_
  have hmem : e ∈ intentsOf new := by
    rw [heq]
    exact mem_intentsOf.mpr (List.mem_append_right _ List.mem_cons_self)
  rw [hnew] at hmem
  exact absurd hmem List.not_mem_nil

theorem IsGuarded.snoc {e : OrderIntentCreated} (h : IsGuarded rt zoneInfo policies events)
    (he : e.intent.side = .buy → Permitted rt zoneInfo policies (rt.upper.normalize "USDC") events e) :
    IsGuarded rt zoneInfo policies (events ++ [.orderIntentCreated e]) := by
  refine h.append fun before e' after heq hside => ?_
  cases before with
  | nil =>
    cases heq
    rw [List.append_nil]
    exact he hside
  | cons x before =>
    have hnil := (List.cons.inj heq).2
    cases (List.append_eq_nil_iff.mp hnil.symm).2

/-- A batch that ends with an intent, once it is stored. -/
theorem exists_of_sublist_intent {before : List LedgerEvent} {e : OrderIntentCreated}
    (h : new.Sublist (before ++ [.orderIntentCreated e])) (hintents : intentsOf new = [e])
    (hbefore : intentsOf before = []) :
    ∃ l, l.Sublist before ∧ new = l ++ [.orderIntentCreated e] := by
  obtain ⟨l, last, rfl, hl, hlast⟩ := List.sublist_append_iff.mp h
  refine ⟨l, hl, ?_⟩
  rcases List.sublist_singleton.mp hlast with rfl | rfl
  · have hsublist : (intentsOf l).Sublist (intentsOf before) := hl.filterMap intentEvent?
    rw [hbefore, List.sublist_nil] at hsublist
    rw [List.append_nil, hsublist] at hintents
    cases hintents
  · rfl

theorem eq_of_sublist_intent {e : OrderIntentCreated}
    (h : new.Sublist [.orderIntentCreated e]) (hintents : intentsOf new = [e]) :
    new = [.orderIntentCreated e] := by
  rcases List.sublist_singleton.mp h with rfl | rfl
  · cases hintents
  · rfl

/-- The registration, if there is one, and the valuation before an intent. -/
theorem eventsToAppend_split {r : RiskCheckedIntent} {valuationEvent : PortfolioValuationRecorded}
    (h : eventsToAppend rt r events valuationEvent = .ok batch)
    (hvaluation : valuationEvent.valuation = r.valuation) :
    ∃ records, batch = records ++ [.orderIntentCreated r.event] ∧
      RecordedWith r.scope r.valuation records ∧
      (∀ e, .riskScopeRegistered e ∈ records → e.scope = r.scope) ∧
      (scopeOf events r.scope.positionKey = none → ∃ e, .riskScopeRegistered e ∈ records) := by
  obtain ⟨hscope, rfl⟩ | ⟨hscope, scopeEvent, hsame, -, rfl⟩ := eventsToAppend_eq_ok h
  · refine ⟨[.portfolioValuationRecorded valuationEvent], rfl, .registered _ hvaluation, ?_,
      fun hnone => absurd hnone hscope⟩
    intro e he
    cases List.mem_singleton.mp he
  · refine ⟨[.riskScopeRegistered scopeEvent, .portfolioValuationRecorded valuationEvent], rfl,
      .unregistered _ _ hsame hvaluation, ?_, fun _ => ⟨scopeEvent, List.mem_cons_self⟩⟩
    · intro e he
      rcases List.mem_cons.mp he with heq | he
      · cases heq
        exact hsame
      · cases List.mem_singleton.mp he

theorem intentsOf_of_records {records : List LedgerEvent}
    (h : ∀ event ∈ records, IsRiskRecord event) : intentsOf records = [] := by
  refine List.filterMap_eq_nil_iff.mpr fun event hevent => ?_
  have hrecord := h event hevent
  cases event with
  | orderIntentCreated e => exact absurd hrecord id
  | _ => rfl

/-- The scope of a permitted BUY is registered when its intent comes. -/
theorem scopeOf_of_records {l records : List LedgerEvent} {scope : RiskScope}
    (hsublist : l.Sublist records) (hold : ∀ registered ∈ scopeOf events scope.positionKey,
      registered = scope)
    (hscopes : ∀ e, .riskScopeRegistered e ∈ records → e.scope = scope)
    (hnew : scopeOf events scope.positionKey = none →
      ∃ e : RiskScopeRegistered, e.scope = scope ∧ .riskScopeRegistered e ∈ events ++ l) :
    scopeOf (events ++ l) scope.positionKey = some scope := by
  rw [scopeOf_append]
  cases hevents : scopeOf events scope.positionKey with
  | some registered =>
    rw [hold registered hevents]
    rfl
  | none =>
    obtain ⟨e, rfl, he⟩ := hnew hevents
    have hfor : scopeFor e.scope.positionKey (.riskScopeRegistered e) = some e.scope := if_pos rfl
    have hl : .riskScopeRegistered e ∈ l := by
      refine (List.mem_append.mp he).resolve_left fun hmem => ?_
      have hnone := List.findSome?_eq_none_iff.mp hevents _ hmem
      rw [hfor] at hnone
      cases hnone
    rw [Option.none_or]
    cases hscope : scopeOf l e.scope.positionKey with
    | none =>
      have hnone := List.findSome?_eq_none_iff.mp hscope _ hl
      rw [hfor] at hnone
      cases hnone
    | some registered =>
      obtain ⟨event, hevent, heq⟩ := List.exists_of_findSome?_eq_some hscope
      cases event with
      | riskScopeRegistered e' =>
        rw [scopeFor, Option.ite_none_right_eq_some, Option.some.injEq] at heq
        rw [← heq.2, hscopes e' (hsublist.subset hevent)]
      | _ => cases heq

/-- The batch of an approval, once it is stored: the registration and the valuation, then the intent. -/
theorem exists_records_of_extends {r : RiskCheckedIntent} {valuationEvent : PortfolioValuationRecorded}
    (hbatch : eventsToAppend rt r events valuationEvent = .ok batch)
    (hextends : Extends rt db db' events new batch) (hnew : intentsOf new = [r.event])
    (hregistered : ∀ registered ∈ scopeOf events r.scope.positionKey, registered = r.scope)
    (hvaluation : valuationEvent.valuation = r.valuation) :
    ∃ l, new = l ++ [.orderIntentCreated r.event] ∧
      (∃ records, RecordedWith r.scope r.valuation records ∧ l.Sublist records) ∧
      scopeOf (events ++ l) r.scope.positionKey = some r.scope := by
  obtain ⟨records, rfl, hrecords, hscopes, hregisters⟩ := eventsToAppend_split hbatch hvaluation
  obtain ⟨l, hl, rfl⟩ := exists_of_sublist_intent hextends.sublist hnew
    (intentsOf_of_records hrecords.isRiskRecord)
  refine ⟨l, rfl, ⟨records, hrecords, hl⟩, scopeOf_of_records hl hregistered hscopes fun hnone => ?_⟩
  obtain ⟨e, he⟩ := hregisters hnone
  refine ⟨e, hscopes e he, ?_⟩
  have hmem := hextends.stored _ (List.mem_append_left _ he) fun _ h => absurd h List.not_mem_nil
  rw [← List.append_assoc, List.mem_append, List.mem_singleton] at hmem
  exact hmem.resolve_right fun heq => by cases heq

/-- **A batch with an approved BUY keeps the ledger guarded.** -/
theorem IsGuarded.of_approved {r : RiskCheckedIntent}
    (h : IsGuarded rt zoneInfo policies events) (hpolicy : r.policy ∈ policies)
    (hextends : Extends rt db db' events new batch) (hnew : intentsOf new = [r.event])
    (happroved : r.Approved rt zoneInfo events batch) : IsGuarded rt zoneInfo policies (events ++ new) := by
  obtain ⟨s, cash, decision, hreplay, hcash, hdecision, hstatus⟩ := happroved.decided
  obtain ⟨valuationEvent, hvaluation, hbatch⟩ := happroved.batch
  obtain ⟨a, hassess, -⟩ := bind_eq_ok.mp hdecision
  obtain ⟨l, rfl, ⟨records, hrecords, hl⟩, hscope⟩ := exists_records_of_extends hbatch hextends hnew
    (assessed_of_assessPortfolio hassess).scope_eq hvaluation
  have hquiet : intentsOf l = [] :=
    intentsOf_of_records fun event hevent => hrecords.isRiskRecord event (hl.subset hevent)
  rw [← List.append_assoc]
  refine (h.quiet hquiet).snoc fun _ => ⟨events, l, s,
    ⟨r.scope, cash, r.valuation, r.policy, r.evaluatedAt⟩, rfl, ?_⟩
  exact {
    replay := hreplay
    records := ⟨records, hrecords, hl⟩
    policy := hpolicy
    cash := hcash
    scope := happroved.key ▸ hscope
    permits := (approved_iff_permits hdecision).mp hstatus }

/-- **Every call of the risk store keeps the ledger guarded.** -/
theorem IsGuarded.of_change {op : Operation} (h : IsGuarded rt zoneInfo policies events)
    (hclaims : Claims rt db events) (hop : op.OfRiskStore policies)
    (hchange : Change rt (op.Admits rt zoneInfo) db events db' new) :
    IsGuarded rt zoneInfo policies (events ++ new) := by
  cases hchange with
  | append hextends hintents => exact h.quiet (hextends.intentsOf_eq_nil hintents)
  | decide hwrite hunbound hextends hintents => exact h.quiet (hextends.intentsOf_eq_nil hintents)
  | commit hwrite hkey hbound hextends hintents hadmits hattach =>
    have hnew := intentsOf_of_commit hclaims hwrite hkey hextends hintents
    cases op with
    | commitOrderIntent event ownerId metadata => exact absurd hop id
    | commitSellOrderIntent event ownerId metadata =>
      obtain ⟨rfl, hside, rfl⟩ := hadmits
      obtain rfl := eq_of_sublist_intent hextends.sublist hnew
      exact h.snoc fun hbuy => absurd hbuy hside
    | commitRiskCheckedOrderIntent r =>
      obtain ⟨rfl, happroved⟩ := hadmits
      exact h.of_approved hop hextends hnew happroved
    | _ => exact absurd hadmits id
  | attach hattach => exact h.quiet rfl
  | checkpoint hcheckpoint => exact h.quiet rfl

/-! ## Runs -/

/-- The tables are those of guarded events. -/
def IsGated (rt : Runtime) (zoneInfo : String → Option Zone) (policies : Set PortfolioRiskPolicy)
    (db : Db) : Prop :=
  ∃ events, Consistent rt db events ∧ IsGuarded rt zoneInfo policies events

/-- **The ledger of every run is guarded.** -/
theorem gated_of_reaches (hrun : RiskReaches rt zoneInfo policies db db')
    (h : IsGated rt zoneInfo policies db) : IsGated rt zoneInfo policies db' ∧ Kept db db' := by
  refine Action.run_of_atomic (fun call => call.op.atomic_run rt zoneInfo call.env) Kept.refl
    (fun _ _ _ => Kept.trans) ?_ h hrun
  intro call s u t hs hreturns
  obtain ⟨events, hs, hguarded⟩ := hs
  obtain ⟨new, hchange⟩ := change_of_returns hs.represents call.constructed hreturns
  have hgated := hguarded.of_change hs.claims call.ofRiskStore hchange
  exact ⟨⟨events ++ new, hs.of_change hchange, hgated⟩, hchange.kept⟩

theorem IsGated.empty : IsGated rt zoneInfo policies Db.empty := ⟨[], .empty, guarded_nil⟩

/-- **The gate holds.** However the calls of the risk store come, whoever makes them and whatever fails,
the policy of some risk check permitted every BUY intent in the ledger over exactly the events before
it, but for the registration and the valuations that were recorded with it. -/
theorem buys_permitted (rt : Runtime) (zoneInfo : String → Option Zone)
    (policies : Set PortfolioRiskPolicy) (db : Db)
    (hrun : RiskReaches rt zoneInfo policies Db.empty db) :
    ∃ events, db.ledgerEvents = rowsFrom rt 0 genesisChainHash events ∧
      Guarded rt zoneInfo policies (rt.upper.normalize "USDC") events := by
  obtain ⟨⟨events, hevents, hguarded⟩, -⟩ := gated_of_reaches hrun .empty
  exact ⟨events, hevents.represents.rows, hguarded⟩

/-- **The caps hold over whole runs.** If every risk check is with one policy, then in every state of
every run the exposed keys are registered, no more than the policy allows, with one live BUY order each
at most; and the total exposure and that of every event, city and date, and correlation group is within
its cap, but for a millionth for each BUY fill. -/
theorem caps_kept (rt : Runtime) (zoneInfo : String → Option Zone) (policy : PortfolioRiskPolicy)
    (db : Db) (hrun : RiskReaches rt zoneInfo {policy} Db.empty db) :
    ∃ events s, db.ledgerEvents = rowsFrom rt 0 genesisChainHash events ∧ Replays rt events s ∧
      Booked events s ∧ WithinCaps rt policy events s := by
  obtain ⟨⟨events, hevents, hguarded⟩, -⟩ := gated_of_reaches hrun .empty
  obtain ⟨s, hreplay⟩ := hevents.represents.replay
  exact ⟨events, s, hevents.represents.rows, hreplay, booked_of_guarded hguarded hreplay,
    withinCaps_of_guarded hguarded hreplay⟩

/-! ## A first BUY -/

namespace Sample

open Ledger.Sample

/-- A risk check of a BUY for half a dollar. -/
def checkedBuy : RiskCheckedIntent where
  event := buy
  scope := Risk.Sample.scope
  valuation := Risk.Sample.cashOnly
  policy := Risk.Sample.policy
  evaluatedAt := noon
  ownerId := "worker"
  metadata := none
  adapterBackendName := none
  adapterPayload := none

theorem constructed_account :
    (Operation.appendMany Risk.Sample.account).Constructed digits :=
  List.forall_mem_singleton.mpr ⟨by decide, by decide⟩

theorem valid_scope : Risk.Sample.scope.Valid digits where
  marketId := by decide
  outcomeId := by decide
  eventId := by decide
  cityKey := ⟨by decide, by decide⟩
  groups := fun _ h => absurd h List.not_mem_nil
  sorted := by decide

theorem normal_equity : Risk.Sample.cashOnly.equity.Normal digits := ⟨by decide, by decide⟩

theorem constructed_checkedBuy : (Operation.commitRiskCheckedOrderIntent checkedBuy).Constructed digits :=
  ⟨constructible_buy, valid_scope, normal_equity, fun _ h => absurd h List.not_mem_nil⟩

def accountCall : RiskCall digits {Risk.Sample.policy} where
  env := .quiet "now"
  op := .appendMany Risk.Sample.account
  constructed := constructed_account
  ofRiskStore := trivial

/-- The worker buys. -/
def buyCall : RiskCall digits {Risk.Sample.policy} where
  env := .quiet "later"
  op := .commitRiskCheckedOrderIntent checkedBuy
  constructed := constructed_checkedBuy
  ofRiskStore := rfl

def boughtDb : Db :=
  afterRiskCalls digits (fun _ => some Risk.Sample.utc) {Risk.Sample.policy} [accountCall, buyCall] Db.empty

end Sample

theorem buys_permitted_worker :
    ∃ events, Sample.boughtDb.ledgerEvents = rowsFrom Sample.digits 0 genesisChainHash events ∧
      Guarded Sample.digits (fun _ => some Risk.Sample.utc) {Risk.Sample.policy}
        (Sample.digits.upper.normalize "USDC") events :=
  buys_permitted Sample.digits (fun _ => some Risk.Sample.utc) {Risk.Sample.policy} Sample.boughtDb
    (riskReaches_afterRiskCalls _ _)

theorem caps_kept_worker :
    ∃ events s, Sample.boughtDb.ledgerEvents = rowsFrom Sample.digits 0 genesisChainHash events ∧
      Replays Sample.digits events s ∧ Booked events s ∧
      WithinCaps Sample.digits Risk.Sample.policy events s :=
  caps_kept Sample.digits (fun _ => some Risk.Sample.utc) Risk.Sample.policy Sample.boughtDb
    (riskReaches_afterRiskCalls _ _)

end WeatherBot.Persistence
