import WeatherBot.Ledger.History

/-!
# Observations form one chain

* `LinearChain`: distinct payload hashes, and terminal observations that begin
  with one final root and go on with revisions, each of the one before it.
* `latestLearningObservation`: the selection in `resolution/observations.py`.
* `weather_chain`: every history of a reachable state is a chain, and the
  selection returns its head.
-/

namespace WeatherBot.Ledger

open WeatherBot.Common
open WeatherBot.Domain

variable {rt : Runtime}

/-! ## Chains -/

/-- The learning-eligible observations of a history. -/
def terminal (history : List WeatherObservationEvidence) : List WeatherObservationEvidence :=
  history.filter WeatherObservationEvidence.learningEligible

/-- `b` revises `a`. -/
def Revises (a b : WeatherObservationEvidence) : Prop :=
  b.status = .revised ∧ b.supersedesPayloadHash = some a.payloadHash

/-- One linear chain of evidence. -/
structure LinearChain (history : List WeatherObservationEvidence) : Prop where
  hashes : (history.map WeatherObservationEvidence.payloadHash).Nodup
  root : ∀ o ∈ (terminal history).head?, o.status = .final ∧ o.supersedesPayloadHash = none
  links : (terminal history).IsChain Revises
  identity : ∀ a ∈ terminal history, ∀ b ∈ terminal history, a.SameIdentity b

/-- `latest_learning_observation` (`resolution/observations.py`, 63-70). -/
def latestLearningObservation (s : LedgerState) (marketId : String) :
    Option WeatherObservationEvidence :=
  (observationsOf s marketId).reverse.find? WeatherObservationEvidence.learningEligible

theorem linearChain_nil : LinearChain [] := by
  constructor <;> simp [terminal]

theorem SameIdentity.symm {a b : WeatherObservationEvidence} (h : a.SameIdentity b) :
    b.SameIdentity a := by
  obtain ⟨h1, h2, h3, h4, h5, h6, h7⟩ := h
  exact ⟨h1.symm, h2.symm, h3.symm, h4.symm, h5.symm, h6.symm, h7.symm⟩

theorem SameIdentity.trans {a b c : WeatherObservationEvidence} (h : a.SameIdentity b)
    (h' : b.SameIdentity c) : a.SameIdentity c := by
  obtain ⟨h1, h2, h3, h4, h5, h6, h7⟩ := h
  obtain ⟨k1, k2, k3, k4, k5, k6, k7⟩ := h'
  exact ⟨h1.trans k1, h2.trans k2, h3.trans k3, h4.trans k4, h5.trans k5, h6.trans k6, h7.trans k7⟩

theorem terminal_append (history : List WeatherObservationEvidence)
    (e : WeatherObservationEvidence) :
    terminal (history ++ [e]) = terminal history ++ if e.learningEligible then [e] else [] := by
  rw [terminal, List.filter_append, terminal]
  cases he : e.learningEligible <;> simp [he]

theorem hashes_append {history : List WeatherObservationEvidence} {e : WeatherObservationEvidence}
    (h : (history.map WeatherObservationEvidence.payloadHash).Nodup)
    (hnew : ∀ prior ∈ history, prior.payloadHash ≠ e.payloadHash) :
    ((history ++ [e]).map WeatherObservationEvidence.payloadHash).Nodup := by
  rw [List.map_append, List.nodup_append]
  refine ⟨h, List.nodup_singleton _, ?_⟩
  intro a ha b hb
  obtain ⟨prior, hprior, rfl⟩ := List.mem_map.mp ha
  rw [List.map_singleton, List.mem_singleton] at hb
  rw [hb]
  exact hnew prior hprior

/-- A root supersedes nothing: the checks of the state refuse any other. -/
theorem root_supersedes {marketId : String} {history : List WeatherObservationEvidence}
    (h : LedgerState.checkObservations marketId history = .ok ()) :
    ∀ o ∈ (terminal history).head?, o.supersedesPayloadHash = none := by
  rw [LedgerState.checkObservations] at h
  obtain ⟨hashes, -, h⟩ := bind_eq_ok.mp h
  intro o ho
  rw [terminal] at ho
  cases hterm : history.filter WeatherObservationEvidence.learningEligible with
  | nil =>
    rw [hterm] at ho
    cases ho
  | cons root rest =>
    rw [hterm] at h ho
    rw [LedgerState.checkTerminalHistory] at h
    obtain ⟨hroot, -⟩ := raiseIf_bind_eq_ok.mp h
    rw [List.head?_cons, Option.mem_some] at ho
    subst ho
    exact not_not.mp fun hne => hroot (.inr hne)

/-- **Recorded evidence continues the chain.** -/
theorem linearChain_append {marketId : String} {history : List WeatherObservationEvidence}
    {e : WeatherObservationEvidence} (h : LinearChain history)
    (hnew : ∀ prior ∈ history, prior.payloadHash ≠ e.payloadHash)
    (hrevision : checkRevision history e = .ok ())
    (hcheck : LedgerState.checkObservations marketId (history ++ [e]) = .ok ()) :
    LinearChain (history ++ [e]) := by
  have hroot := root_supersedes hcheck
  rw [checkRevision] at hrevision
  cases hstatus : e.status with
  | provisional =>
    have hterm : terminal (history ++ [e]) = terminal history := by
      rw [terminal_append, if_neg, List.append_nil]
      simp [WeatherObservationEvidence.learningEligible,
        ObservationEvidenceStatus.learningEligible, hstatus]
    refine ⟨hashes_append h.hashes hnew, ?_, ?_, ?_⟩ <;> rw [hterm]
    · exact h.root
    · exact h.links
    · exact h.identity
  | final =>
    simp only [hstatus] at hrevision
    have hempty : terminal history = [] := not_not.mp (raiseIf_eq_ok.mp hrevision)
    have hterm : terminal (history ++ [e]) = [e] := by
      rw [terminal_append, hempty, List.nil_append, if_pos]
      simp [WeatherObservationEvidence.learningEligible,
        ObservationEvidenceStatus.learningEligible, hstatus]
    refine ⟨hashes_append h.hashes hnew, ?_, ?_, ?_⟩
    · intro o ho
      have hnone := hroot o ho
      rw [hterm, List.head?_cons, Option.mem_some] at ho
      subst ho
      exact ⟨hstatus, hnone⟩
    · rw [hterm]
      exact List.isChain_singleton _
    · rw [hterm]
      intro a ha b hb
      rw [List.mem_singleton.mp ha, List.mem_singleton.mp hb]
      exact ⟨rfl, rfl, rfl, rfl, rfl, rfl, rfl⟩
  | revised =>
    simp only [hstatus] at hrevision
    obtain ⟨-, hrevision⟩ := raiseIf_bind_eq_ok.mp hrevision
    cases hlast : (terminal history).getLast? with
    | none =>
      rw [terminal] at hlast
      simp only [hlast] at hrevision
      cases hrevision
    | some latest =>
      have hlast' := hlast
      rw [terminal] at hlast'
      simp only [hlast'] at hrevision
      obtain ⟨hsup, hrevision⟩ := raiseIf_bind_eq_ok.mp hrevision
      have hsup := not_not.mp hsup
      have hidentity := not_not.mp (raiseIf_eq_ok.mp hrevision)
      have hmem : latest ∈ terminal history := List.mem_of_getLast? hlast
      have hterm : terminal (history ++ [e]) = terminal history ++ [e] := by
        rw [terminal_append, if_pos]
        simp [WeatherObservationEvidence.learningEligible,
          ObservationEvidenceStatus.learningEligible, hstatus]
      -- every terminal observation shares the identity of the new one
      have hsame : ∀ a ∈ terminal history, a.SameIdentity e :=
        fun a ha => SameIdentity.trans (h.identity a ha latest hmem) hidentity
      refine ⟨hashes_append h.hashes hnew, ?_, ?_, ?_⟩
      · intro o ho
        rw [hterm, List.head?_append_of_ne_nil _ (List.ne_nil_of_mem hmem)] at ho
        exact h.root o ho
      · rw [hterm, List.isChain_append]
        refine ⟨h.links, List.isChain_singleton _, ?_⟩
        intro x hx y hy
        rw [hlast, Option.mem_some] at hx
        rw [List.head?_cons, Option.mem_some] at hy
        subst hx hy
        exact ⟨hstatus, hsup⟩
      · rw [hterm]
        intro a ha b hb
        rcases List.mem_append.mp ha with ha | ha <;> rcases List.mem_append.mp hb with hb | hb
        · exact h.identity a ha b hb
        · rw [List.mem_singleton.mp hb]
          exact hsame a ha
        · rw [List.mem_singleton.mp ha]
          exact SameIdentity.symm (hsame b hb)
        · rw [List.mem_singleton.mp ha, List.mem_singleton.mp hb]
          exact ⟨rfl, rfl, rfl, rfl, rfl, rfl, rfl⟩

/-! ## The histories of a run -/

theorem observationsOf_eq {s next : LedgerState}
    (h : next.weatherObservations = s.weatherObservations) (marketId : String) :
    observationsOf next marketId = observationsOf s marketId := by
  rw [observationsOf, h, observationsOf]

/-- What one event keeps. -/
theorem linearChain_of_applyEvent {s s' : LedgerState} {event : LedgerEvent}
    (hchain : ∀ marketId, LinearChain (observationsOf s marketId))
    (h : applyEvent rt s event = .ok s') (marketId : String) :
    LinearChain (observationsOf s' marketId) := by
  rcases applyEvent_eq_ok.mp h with ⟨-, rfl⟩ | ⟨-, next, hnext, rfl, hinv⟩
  · exact hchain marketId
  · have hrecord : observationsOf (recordEvent next event.eventId (fingerprint rt event.canonical))
        marketId = observationsOf next marketId := rfl
    rw [hrecord]
    have hinv := invariants_recordEvent.mp hinv
    cases recording_of_reduce hnext with
    | same _ _ hsame =>
      rw [observationsOf_eq hsame.weatherObservations]
      exact hchain marketId
    | evidence e hnew => exact hchain marketId
    | resolution e hnew => exact hchain marketId
    | observation e hnew hrevision =>
      rw [observationsOf_insert]
      split_ifs with hk
      · have hcheck := hinv.observations (e.evidence.marketId,
          observationsOf s e.evidence.marketId ++ [e.evidence])
          (Dict.get?_eq_some.mp (Dict.get?_insert_self ..))
        exact linearChain_append (hchain _) hnew hrevision hcheck
      · exact hchain marketId

theorem linearChain_of_reachable {s : LedgerState} (h : Reachable rt s) (marketId : String) :
    LinearChain (observationsOf s marketId) := by
  obtain ⟨events, currency, h⟩ := h
  have hfresh : ∀ m, LinearChain (observationsOf (.fresh (rt.upper.normalize currency)) m) :=
    fun _ => linearChain_nil
  exact foldlM_invariant (fun t => ∀ marketId, LinearChain (observationsOf t marketId))
    (fun _ _ _ ht h => linearChain_of_applyEvent ht h) events _ s hfresh
    (replay_eq_ok.mp h).2 marketId

/-! ## The head of a chain -/

theorem find?_reverse_eq_getLast? (history : List WeatherObservationEvidence) :
    history.reverse.find? WeatherObservationEvidence.learningEligible =
      (terminal history).getLast? := by
  rw [terminal, ← List.head?_reverse, ← List.filter_reverse, List.head?_filter]

/-- Nothing in a chain revises its last observation. -/
theorem LinearChain.head {history : List WeatherObservationEvidence} (h : LinearChain history)
    {latest : WeatherObservationEvidence} (hlatest : (terminal history).getLast? = some latest) :
    ∀ o ∈ terminal history, o.supersedesPayloadHash ≠ some latest.payloadHash := by
  have hnodup : ((terminal history).map WeatherObservationEvidence.payloadHash).Nodup :=
    (List.filter_sublist.map _).nodup h.hashes
  intro o ho hsup
  obtain ⟨i, hi, rfl⟩ := List.getElem_of_mem ho
  rcases Nat.eq_zero_or_pos i with rfl | hpos
  · have hnone := (h.root _ (List.head?_eq_getElem? ▸ List.getElem?_eq_getElem hi)).2
    rw [hnone] at hsup
    cases hsup
  · -- the observation before `o` has the hash of the last one, so it is the last one
    obtain ⟨j, rfl⟩ : ∃ j, i = j + 1 := ⟨i - 1, by omega⟩
    have hlink := (List.isChain_iff_getElem.mp h.links) j hi
    have hhash : (terminal history)[j].payloadHash = latest.payloadHash := by
      rw [hlink.2, Option.some.injEq] at hsup
      exact hsup
    have hmem := List.mem_of_getLast? hlatest
    have heq := List.inj_on_of_nodup_map hnodup (List.getElem_mem _) hmem hhash
    rw [List.getLast?_eq_getElem?, List.getElem?_eq_some_iff] at hlatest
    obtain ⟨hlt, hlast⟩ := hlatest
    have hidx := (List.Nodup.of_map _ hnodup).getElem_inj_iff.mp (heq.trans hlast.symm)
    omega

/-- **Weather evidence forms one linear chain**, and the latest terminal observation is its head. -/
theorem weather_chain {s : LedgerState} (h : Reachable rt s) (marketId : String) :
    LinearChain (observationsOf s marketId) ∧
    latestLearningObservation s marketId = (terminal (observationsOf s marketId)).getLast? ∧
    ∀ latest, latestLearningObservation s marketId = some latest →
      latest ∈ terminal (observationsOf s marketId) ∧
      ∀ o ∈ terminal (observationsOf s marketId),
        o.supersedesPayloadHash ≠ some latest.payloadHash := by
  have hchain := linearChain_of_reachable h marketId
  have hlatest := find?_reverse_eq_getLast? (observationsOf s marketId)
  refine ⟨hchain, hlatest, fun latest hsome => ?_⟩
  have hsome := hlatest.symm.trans hsome
  exact ⟨List.mem_of_getLast? hsome, hchain.head hsome⟩

namespace Sample

/-- A hash of one repeated digit. -/
def hash (digit : Char) : String := String.ofList (List.replicate 64 digit)

def observation (status : ObservationEvidenceStatus) (payloadHash : String)
    (supersedes : Option String) : WeatherObservationEvidence where
  marketId := "market"
  sourceName := "source"
  sourceUrl := "https://example.test/station"
  stationId := "station"
  measurementBasis := "daily maximum"
  marketDate := noon.date
  marketTimezone := "UTC"
  temperature := .ofScaled 215 1
  unit := "C"
  retrievedAt := noon
  sourceTimestamp := some noon
  sourceRevision := "1"
  status := status
  payloadHash := payloadHash
  supersedesPayloadHash := supersedes

def observed (base : DomainEvent) (evidence : WeatherObservationEvidence) : LedgerEvent :=
  .weatherObservationRecorded { base with evidence }

/-- Provisional, final, provisional again, two revisions, the first of them delivered twice. -/
def observations : List LedgerEvent :=
  [accountOpened (event "0" (by decide)) (usd 0 (by decide)) (by decide),
    observed (event "1" (.refl false)) (observation .provisional (hash 'a') none),
    observed (event "2" (.refl false)) (observation .final (hash 'b') none),
    observed (event "3" (.refl false)) (observation .provisional (hash 'c') none),
    observed (event "4" (.refl false)) (observation .revised (hash 'd') (some (hash 'b'))),
    observed (event "5" (.refl false)) (observation .revised (hash 'e') (some (hash 'd'))),
    observed (event "6" (.refl false)) (observation .revised (hash 'd') (some (hash 'b')))]

def observedState : LedgerState := okOr (replay .utc observations "USD") (.fresh "USD")

end Sample

theorem weather_chain_observations :
    LinearChain (observationsOf Sample.observedState "market") ∧
    latestLearningObservation Sample.observedState "market" =
      some (Sample.observation .revised (Sample.hash 'e') (some (Sample.hash 'd'))) := by
  have hs := eq_ok_okOr (x := replay .utc Sample.observations "USD") (by decide +kernel)
    (.fresh "USD")
  exact ⟨(weather_chain ⟨_, _, hs⟩ "market").1, by decide +kernel⟩

end WeatherBot.Ledger
