import WeatherBot.Common.PyValue
import WeatherBot.Pip.Leases

/-!
# Delivery of a claimed item

`_deliver_claimed` and `parse_delivery_result` (`pip/runtime.py`): what the answer to
a POST does to the row of the item. The answer is an HTTP status and a body; delays
are in microseconds.

* `Accepts`, `Rejects`, `Retries`: what a strict result says about an item.
* `parseDeliveryResult_eq_ok`: the results that the parser returns.
* `settles_iff_benign`: a delivery that finds its claim is recorded as it should be
  iff nothing in the answer makes Python raise.
* `delivers_iff`: **the same of every claimed item**, where another worker may have
  taken the claim back at a later time.
-/

namespace WeatherBot.Pip

open WeatherBot.Common
open WeatherBot.Domain

/-! ## Library calls -/

/-- How a call of `json.loads` ends. -/
inductive Loaded where
  | value (v : PyJson)
  | jsonDecodeError
  | raised (error : Error)

/-- What a delivery takes from Python's library. -/
structure DeliveryLibrary where
  /-- `json.loads` of a decoded text. -/
  loads : List Char → Loaded
  /-- `random.uniform(lower, upper)`, rounded to microseconds. -/
  uniform : ℤ → ℤ → ℤ
  uniform_mem : ∀ lower upper, lower ≤ upper → lower ≤ uniform lower upper ∧ uniform lower upper ≤ upper

/-- The status code of an HTTP response. -/
structure HttpStatus where
  code : ℕ
  valid : 100 ≤ code ∧ code ≤ 999

/-- The status is 2xx, not 202. -/
def HttpStatus.Success (status : HttpStatus) : Prop :=
  200 ≤ status.code ∧ status.code < 300 ∧ status.code ≠ 202

/-- The status is 4xx, not 429. -/
def HttpStatus.ClientError (status : HttpStatus) : Prop :=
  400 ≤ status.code ∧ status.code < 500 ∧ status.code ≠ 429

/-- The status is 3xx. -/
def HttpStatus.Redirect (status : HttpStatus) : Prop := 300 ≤ status.code ∧ status.code < 400

instance : DecidablePred HttpStatus.Redirect :=
  fun status => inferInstanceAs (Decidable (300 ≤ status.code ∧ status.code < 400))

/-! ## `parse_delivery_result` -/

/-- `DeliveryResult`. -/
structure DeliveryResult where
  disposition : String
  resultClass : String
  receiptId : Option PyStr
  reasonCode : Option PyStr
  retryAfterMs : Option ℤ

/-- The message of `hash(value)`. -/
def unhashableText : PyJson → String
  | .list _ => "unhashable type: 'list'"
  | _ => "unhashable type: 'dict'"

/-- `value in texts`, for a set of texts. -/
def inTexts (v : PyJson) (texts : List String) : Except PipError Bool :=
  if v.Hashable then .ok (decide (∃ text ∈ texts, v.IsText text))
  else .error (.raised (.typeError (unhashableText v)))

/-- The fields of an acceptance. -/
def acceptanceKeys : List String :=
  ["contract", "protocol_version", "disposition", "event", "receipt_id"]

/-- The fields that a request to retry may have. -/
def retryKeys : List String :=
  ["contract", "protocol_version", "disposition", "event", "reason_code", "retry_after_ms"]

/-- The fields of a rejection. -/
def rejectionKeys : List String :=
  ["contract", "protocol_version", "disposition", "event", "category", "reason_code"]

/-- `allowed_categories`. -/
def allowedCategories : List String :=
  ["invalid_envelope", "authentication", "lifecycle", "identity_conflict", "unsupported_version",
    "payload_limit", "policy", "other"]

/-- `isinstance(value, str) and value`. -/
def nonEmptyText : PyJson → Option PyStr
  | .str t => if t.NonEmpty then some t else none
  | _ => none

/-- The text of a category. -/
def categoryText (v : PyJson) : String := (allowedCategories.find? (v.IsText ·)).getD ""

/-- The object of a result. -/
def readResult (py : DeliveryLibrary) (body : List UInt8) : Except PipError (List (PyStr × PyJson)) :=
  match decodeUtf8 body with
  | none => throw (.pipExportError "PIP returned malformed delivery-result JSON")
  | some chars =>
    match py.loads chars with
    | .jsonDecodeError => throw (.pipExportError "PIP returned malformed delivery-result JSON")
    | .raised e => throw (.raised e)
    | .value (.dict data) => return data
    | .value _ => throw (.pipExportError "PIP delivery result must be an object")

/-- The contract and the event binding of a result. -/
def checkBinding (data : List (PyStr × PyJson)) (item : OutboxItem) : Except PipError Unit := do
  raiseIf (¬ (PyJson.get data "contract").IsText "pip.event-delivery-result" ∨
      ¬ (PyJson.get data "protocol_version").IsText "1")
    (.pipExportError "PIP returned an unknown delivery-result contract/version")
  match PyJson.get data "event" with
  | .dict binding => do
    raiseIf (¬ PyJson.KeysAre binding ["producer_id", "event_id", "event_sha256"])
      (.pipExportError "PIP delivery result has an invalid event binding")
    raiseIf (¬ (PyJson.get binding "producer_id").IsText item.producerId ∨
        ¬ (PyJson.get binding "event_id").IsText item.eventId ∨
        ¬ (PyJson.get binding "event_sha256").IsText item.eventSha256)
      (.pipExportError "PIP delivery result does not bind to the attempted event")
  | _ => throw (.pipExportError "PIP delivery result is missing its event binding")

/-- `retry_after_ms`, where it is acceptable. -/
def retryAfter : PyJson → Option (Option ℤ)
  | .none => some none
  | .int n => if 0 ≤ n ∧ n ≤ 86400000 then some (some n) else none
  | _ => none

/-- An acceptance. -/
def readAcceptance (data : List (PyStr × PyJson)) : Except PipError DeliveryResult := do
  raiseIf (¬ PyJson.KeysAre data acceptanceKeys)
    (.pipExportError "PIP acceptance result contains unexpected fields")
  match nonEmptyText (PyJson.get data "receipt_id") with
  | none => throw (.pipExportError "PIP acceptance result has no receipt_id")
  | some receipt =>
    if (PyJson.get data "disposition").IsText "accepted" then
      return ⟨"accepted", "accepted", some receipt, none, none⟩
    else return ⟨"already_accepted", "already_accepted", some receipt, none, none⟩

/-- A request to try again. -/
def readRetry (data : List (PyStr × PyJson)) : Except PipError DeliveryResult := do
  raiseIf (¬ PyJson.KeysWithin data retryKeys ∨ ¬ PyJson.HasKey data "reason_code")
    (.pipExportError "PIP retry result has invalid fields")
  match nonEmptyText (PyJson.get data "reason_code") with
  | none => throw (.pipExportError "PIP retry result has invalid reason_code")
  | some reason =>
    match retryAfter (PyJson.get data "retry_after_ms") with
    | none => throw (.pipExportError "PIP retry result has invalid retry_after_ms")
    | some after => return ⟨"retry", "retry", none, some reason, after⟩

/-- A rejection. -/
def readRejection (data : List (PyStr × PyJson)) : Except PipError DeliveryResult := do
  raiseIf (¬ PyJson.KeysAre data rejectionKeys)
    (.pipExportError "PIP rejection result has invalid fields")
  let allowed ← inTexts (PyJson.get data "category") allowedCategories
  match (if allowed then nonEmptyText (PyJson.get data "reason_code") else none) with
  | none => throw (.pipExportError "PIP rejection result has invalid category/reason")
  | some reason =>
    return ⟨"rejected", "rejected:" ++ categoryText (PyJson.get data "category"), none, some reason, none⟩

/-- What a bound result says. -/
def readDisposition (data : List (PyStr × PyJson)) : Except PipError DeliveryResult := do
  let accepted ← inTexts (PyJson.get data "disposition") ["accepted", "already_accepted"]
  if accepted then readAcceptance data
  else if (PyJson.get data "disposition").IsText "retry" then readRetry data
  else if (PyJson.get data "disposition").IsText "rejected" then readRejection data
  else throw (.pipExportError "PIP delivery result has an unknown disposition")

/-- `parse_delivery_result`. -/
def parseDeliveryResult (py : DeliveryLibrary) (body : List UInt8) (item : OutboxItem) :
    Except PipError DeliveryResult := do
  let data ← readResult py body
  checkBinding data item
  readDisposition data

/-! ## `_deliver_claimed` -/

/-- `RETRY_MAX_SECONDS`, in microseconds. -/
def retryMax : ℤ := 60 * secondMicros

/-- The jitter bounds of an attempt. -/
def jitterBounds (attemptCount : ℕ) : ℤ × ℤ :=
  let raw := min retryMax (secondMicros * 2 ^ min (attemptCount - 1) 10)
  (raw / 2, raw)

/-- `retry_delay_bounds`. -/
def retryDelayBounds (attemptCount : ℕ) : Except PipError (ℤ × ℤ) := do
  raiseIf (attemptCount < 1) (.raised (.valueError "PIP retry attempt_count must be at least 1"))
  return jitterBounds attemptCount

/-- The delay for jitter bounds and a requested delay in milliseconds. -/
def delayWithin (py : DeliveryLibrary) (bounds : ℤ × ℤ) (retryAfterMs : Option ℤ) : ℤ :=
  let delay := py.uniform bounds.1 bounds.2
  min (match retryAfterMs with | some ms => max delay (1000 * ms) | none => delay) retryMax

/-- `_retry_delay`. -/
def retryDelay (py : DeliveryLibrary) (item : OutboxItem) (result : Option DeliveryResult) :
    Except PipError ℤ := do
  let bounds ← retryDelayBounds item.attemptCount
  return delayWithin py bounds (result.bind DeliveryResult.retryAfterMs)

/-- `result.disposition in {"accepted", "already_accepted"}`. -/
def DeliveryResult.Accepted (result : DeliveryResult) : Prop :=
  result.disposition = "accepted" ∨ result.disposition = "already_accepted"

instance (result : DeliveryResult) : Decidable result.Accepted :=
  inferInstanceAs (Decidable (result.disposition = "accepted" ∨ result.disposition = "already_accepted"))

/-- `_terminal_status_matches_result`. -/
def terminalStatusMatchesResult (status : ℕ) (result : DeliveryResult) : Bool :=
  if result.Accepted then 200 ≤ status && status < 300 && status != 202
  else if result.disposition = "rejected" then 400 ≤ status && status < 500 && status != 429
  else false

/-- `outbox.retry`, at the end of a random delay. -/
def retryLater (py : DeliveryLibrary) (db : Outbox) (item : OutboxItem)
    (result : Option DeliveryResult) (resultClass : String) (status : ℕ) (finished : ℤ) :
    Except PipError Outbox := do
  let delay ← retryDelay py item result
  let next ← addTime finished delay
  let (_, db) ← retry db item next resultClass (some status) finished
  return db

/-- The lease of the item is over. -/
def LeaseOver (item : OutboxItem) (finished : ℤ) : Prop :=
  ∃ expires ∈ item.leaseExpiresAt, expires ≤ finished

instance (item : OutboxItem) (finished : ℤ) : Decidable (LeaseOver item finished) :=
  inferInstanceAs (Decidable (∃ expires ∈ item.leaseExpiresAt, expires ≤ finished))

/-- Bind a text to the statement of `_finish`, which is run only before the lease expires. -/
def bindText (item : OutboxItem) (finished : ℤ) (text : PyStr) : Except PipError String :=
  match text.encode with
  | some s => return s
  | none =>
    if LeaseOver item finished then return ""
    else throw (.raised (.valueError "surrogates not allowed"))

/-- What follows a result that was parsed. -/
def recordResult (py : DeliveryLibrary) (db : Outbox) (item : OutboxItem) (status : ℕ)
    (result : DeliveryResult) (finished : ℤ) : Except PipError Outbox :=
  if result.disposition = "retry" ∨ ¬ terminalStatusMatchesResult status result then
    retryLater py db item (if result.disposition = "retry" then some result else none)
      (if result.disposition = "retry" then result.resultClass
        else "http:" ++ toString status ++ ":" ++ result.resultClass) status finished
  else if result.Accepted then
    match result.receiptId with
    | none => throw (.raised ⟨.assertionError, ""⟩)
    | some receipt => do
      let receipt ← bindText item finished receipt
      let (_, db) ← acknowledge db item receipt result.resultClass (some status) finished
      return db
  else if result.disposition = "rejected" then do
    let reason ← bindText item finished (result.reasonCode.getD (.ofString "pip.rejected"))
    let (_, db) ← deadLetter db item reason result.resultClass (some status) finished
    return db
  else throw (.raised ⟨.assertionError, "unhandled PIP delivery disposition: " ++ result.disposition⟩)

/-- The body of the `try` of `_deliver_claimed`. -/
def readAnswer (py : DeliveryLibrary) (status : HttpStatus) (body : List UInt8) (item : OutboxItem) :
    Except PipError DeliveryResult := do
  raiseIf status.Redirect (.pipExportError "PIP redirects are never followed")
  parseDeliveryResult py body item

/-- `_deliver_claimed`, from the response on; `finished` is the completion time. -/
def deliverClaimed (py : DeliveryLibrary) (db : Outbox) (item : OutboxItem) (status : HttpStatus)
    (body : List UInt8) (finished : ℤ) : Except PipError Outbox :=
  match readAnswer py status body item with
  | .error (.pipExportError _) =>
    retryLater py db item none "ambiguous:PipExportError" status.code finished
  | .error (.raised e) => throw (.raised e)
  | .ok result => recordResult py db item status.code result finished

/-! ## What an answer says -/

section Says

variable (data : List (PyStr × PyJson))

/-- The result is bound to the event of the item. -/
def Bound (item : OutboxItem) : Prop :=
  (PyJson.get data "contract").IsText "pip.event-delivery-result" ∧
    (PyJson.get data "protocol_version").IsText "1" ∧
    ∃ binding, PyJson.get data "event" = .dict binding ∧
      PyJson.KeysAre binding ["producer_id", "event_id", "event_sha256"] ∧
      (PyJson.get binding "producer_id").IsText item.producerId ∧
      (PyJson.get binding "event_id").IsText item.eventId ∧
      (PyJson.get binding "event_sha256").IsText item.eventSha256

/-- A strict acceptance. -/
def SaysAccepted (receipt : PyStr) : Prop :=
  ((PyJson.get data "disposition").IsText "accepted" ∨
      (PyJson.get data "disposition").IsText "already_accepted") ∧
    PyJson.KeysAre data acceptanceKeys ∧ PyJson.get data "receipt_id" = .str receipt ∧ receipt.NonEmpty

/-- A strict rejection. -/
def SaysRejected (reason : PyStr) : Prop :=
  (PyJson.get data "disposition").IsText "rejected" ∧ PyJson.KeysAre data rejectionKeys ∧
    (∃ category ∈ allowedCategories, (PyJson.get data "category").IsText category) ∧
    PyJson.get data "reason_code" = .str reason ∧ reason.NonEmpty

/-- A strict request to try again. -/
def SaysRetry (after : Option ℤ) : Prop :=
  (PyJson.get data "disposition").IsText "retry" ∧ PyJson.KeysWithin data retryKeys ∧
    (∃ reason, PyJson.get data "reason_code" = .str reason ∧ reason.NonEmpty) ∧
    retryAfter (PyJson.get data "retry_after_ms") = some after

end Says

section Answer

variable (py : DeliveryLibrary) (status : HttpStatus) (body : List UInt8) (item : OutboxItem)

/-- The body is a result of the contract, bound to the event of the item. -/
def IsResult (data : List (PyStr × PyJson)) : Prop :=
  (∃ chars, decodeUtf8 body = some chars ∧ py.loads chars = .value (.dict data)) ∧ Bound data item

/-- The body is a strict acceptance of the item. -/
def Accepts (receipt : PyStr) : Prop :=
  ∃ data, IsResult py body item data ∧ SaysAccepted data receipt

/-- The body is a strict rejection of the item. -/
def Rejects (reason : PyStr) : Prop :=
  ∃ data, IsResult py body item data ∧ SaysRejected data reason

/-- The body is a strict request to try the item again. -/
def Retries (after : Option ℤ) : Prop :=
  ∃ data, IsResult py body item data ∧ SaysRetry data after

/-- Status and body acknowledge the item. -/
def Acknowledges : Prop := status.Success ∧ ∃ receipt, Accepts py body item receipt

/-- Status and body reject the item. -/
def RejectsFinally : Prop := status.ClientError ∧ ∃ reason, Rejects py body item reason

/-- The delay that the answer asks for. -/
def AsksFor (after : Option ℤ) : Prop :=
  (¬ status.Redirect ∧ Retries py body item after) ∨
    ((status.Redirect ∨ ∀ after', ¬ Retries py body item after') ∧ after = none)

/-- The row of the item after an answer that came in time. -/
structure RowOutcome (finished : ℤ) (r : OutboxRow) : Prop where
  acknowledged : r.state = .acknowledged ↔ Acknowledges py status body item
  receipt : r.state = .acknowledged → ∃ s, r.receiptId = some s ∧ Accepts py body item (.ofString s)
  deadLetter : r.state = .deadLetter ↔ ¬ Acknowledges py status body item ∧
    (RejectsFinally py status body item ∨ item.claimMode = some .operatorOneShot)
  retryWait : r.state ≠ .acknowledged → r.state ≠ .deadLetter →
    r.state = .retryWait ∧ finished < r.nextAttemptAt

/-- The delivery returns, and the outbox is what the answer says. -/
def Delivers (db : Outbox) (finished : ℤ) : Prop :=
  ∃ db', deliverClaimed py db item status body finished = .ok db' ∧
    (LeaseOver item finished → db' = db) ∧
    (¬ LeaseOver item finished →
      ∃ r ∈ db'.rows, r.outboxId = item.outboxId ∧ RowOutcome py status body item finished r)

/-- The JSON can be loaded, and what is looked up in a set of texts is hashable. -/
structure Readable : Prop where
  loads : ¬ status.Redirect → ∀ chars, decodeUtf8 body = some chars → ∀ e, py.loads chars ≠ .raised e
  disposition : ¬ status.Redirect → ∀ data, IsResult py body item data →
    (PyJson.get data "disposition").Hashable
  category : ¬ status.Redirect → ∀ data, IsResult py body item data →
    (PyJson.get data "disposition").IsText "rejected" → PyJson.KeysAre data rejectionKeys →
    (PyJson.get data "category").Hashable

/-- Nothing in the answer makes Python raise: it can be read, what is stored has no lone surrogate,
and the time of a retry is a datetime. -/
structure Benign (finished : ℤ) : Prop extends Readable py status body item where
  receipt : status.Success → ∀ receipt, Accepts py body item receipt →
    receipt.encode.isSome ∨ LeaseOver item finished
  reason : status.ClientError → ∀ reason, Rejects py body item reason →
    reason.encode.isSome ∨ LeaseOver item finished
  time : ¬ Acknowledges py status body item → ¬ RejectsFinally py status body item →
    ∀ after, AsksFor py status body item after →
      finished + delayWithin py (jitterBounds item.attemptCount) after < DateTime.endMicros

end Answer

/-! ## Parsing an answer -/

section Parse

variable {py : DeliveryLibrary} {status : HttpStatus} {body : List UInt8} {item : OutboxItem}
  {data : List (PyStr × PyJson)}

theorem inTexts_of_hashable {v : PyJson} (h : v.Hashable) (texts : List String) :
    inTexts v texts = .ok (decide (∃ text ∈ texts, v.IsText text)) :=
  if_pos h

theorem inTexts_of_not_hashable {v : PyJson} (h : ¬ v.Hashable) (texts : List String) :
    ∃ e, inTexts v texts = .error (.raised e) :=
  ⟨_, if_neg h⟩

theorem nonEmptyText_eq_some {v : PyJson} {t : PyStr} :
    nonEmptyText v = some t ↔ v = .str t ∧ t.NonEmpty := by
  cases v with
  | str t' =>
    rw [nonEmptyText]
    split_ifs with h
    · rw [Option.some.injEq, PyJson.str.injEq]
      constructor
      · rintro rfl
        exact ⟨rfl, h⟩
      · exact And.left
    · constructor
      · exact nofun
      · rintro ⟨heq, hne⟩
        cases heq
        exact absurd hne h
  | _ => simp [nonEmptyText]

/-- A result says one thing. -/
theorem SaysAccepted.not_rejected {receipt reason : PyStr} (h : SaysAccepted data receipt) :
    ¬ SaysRejected data reason := by
  rintro ⟨hrejected, -⟩
  rcases h.1 with h | h
  · exact absurd (h.inj hrejected) (by decide)
  · exact absurd (h.inj hrejected) (by decide)

theorem SaysAccepted.not_retry {receipt : PyStr} {after : Option ℤ} (h : SaysAccepted data receipt) :
    ¬ SaysRetry data after := by
  rintro ⟨hretry, -⟩
  rcases h.1 with h | h
  · exact absurd (h.inj hretry) (by decide)
  · exact absurd (h.inj hretry) (by decide)

theorem SaysRejected.not_retry {reason : PyStr} {after : Option ℤ} (h : SaysRejected data reason) :
    ¬ SaysRetry data after :=
  fun hretry => absurd (h.1.inj hretry.1) (by decide)

theorem SaysRetry.unique {after after' : Option ℤ} (h : SaysRetry data after)
    (h' : SaysRetry data after') : after = after' :=
  Option.some.inj (h.2.2.2.symm.trans h'.2.2.2)

/-- What `readDisposition` returns. -/
inductive Read (data : List (PyStr × PyJson)) : Except PipError DeliveryResult → Prop where
  | accepted {receipt : PyStr} {text : String} (h : SaysAccepted data receipt)
      (htext : text = "accepted" ∨ text = "already_accepted") :
      Read data (.ok ⟨text, text, some receipt, none, none⟩)
  | rejected {reason : PyStr} {resultClass : String} (h : SaysRejected data reason) :
      Read data (.ok ⟨"rejected", resultClass, none, some reason, none⟩)
  | retry {reason : PyStr} {after : Option ℤ} (h : SaysRetry data after) :
      Read data (.ok ⟨"retry", "retry", none, some reason, after⟩)
  | malformed {message : String} (haccepted : ∀ receipt, ¬ SaysAccepted data receipt)
      (hrejected : ∀ reason, ¬ SaysRejected data reason) (hretry : ∀ after, ¬ SaysRetry data after) :
      Read data (.error (.pipExportError message))

/-- The first case of a disposition. -/
theorem readDisposition_of_hashable (h : (PyJson.get data "disposition").Hashable) :
    readDisposition data =
      if (PyJson.get data "disposition").IsText "accepted" ∨
          (PyJson.get data "disposition").IsText "already_accepted" then readAcceptance data
      else if (PyJson.get data "disposition").IsText "retry" then readRetry data
      else if (PyJson.get data "disposition").IsText "rejected" then readRejection data
      else .error (.pipExportError "PIP delivery result has an unknown disposition") := by
  rw [readDisposition, inTexts_of_hashable h, ok_bind]
  refine if_congr ?_ rfl rfl
  simp

theorem read_readAcceptance (hdisposition : (PyJson.get data "disposition").IsText "accepted" ∨
    (PyJson.get data "disposition").IsText "already_accepted") : Read data (readAcceptance data) := by
  have hrejected : ∀ reason, ¬ SaysRejected data reason := by
    rintro reason ⟨h, -⟩
    rcases hdisposition with h' | h' <;> exact absurd (h'.inj h) (by decide)
  have hretry : ∀ after, ¬ SaysRetry data after := by
    rintro after ⟨h, -⟩
    rcases hdisposition with h' | h' <;> exact absurd (h'.inj h) (by decide)
  unfold readAcceptance
  by_cases hkeys : PyJson.KeysAre data acceptanceKeys
  · rw [raiseIf_of_not _ (not_not.mpr hkeys), ok_bind]
    split
    · rename_i hnone
      refine .malformed (fun receipt h => ?_) hrejected hretry
      rw [nonEmptyText_eq_some.mpr h.2.2] at hnone
      cases hnone
    · rename_i receipt hreceipt
      split
      · exact .accepted ⟨hdisposition, hkeys, nonEmptyText_eq_some.mp hreceipt⟩ (.inl rfl)
      · exact .accepted ⟨hdisposition, hkeys, nonEmptyText_eq_some.mp hreceipt⟩ (.inr rfl)
  · rw [raiseIf, if_pos hkeys]
    exact .malformed (fun receipt h => hkeys h.2.1) hrejected hretry

theorem read_readRetry (hdisposition : (PyJson.get data "disposition").IsText "retry") :
    Read data (readRetry data) := by
  have haccepted : ∀ receipt, ¬ SaysAccepted data receipt := by
    rintro receipt ⟨h | h, -⟩ <;> exact absurd (hdisposition.inj h) (by decide)
  have hrejected : ∀ reason, ¬ SaysRejected data reason :=
    fun reason h => absurd (hdisposition.inj h.1) (by decide)
  unfold readRetry
  by_cases hkeys : ¬ PyJson.KeysWithin data retryKeys ∨ ¬ PyJson.HasKey data "reason_code"
  · rw [raiseIf, if_pos hkeys]
    refine .malformed haccepted hrejected fun after h => ?_
    rcases hkeys with hkeys | hkey
    · exact hkeys h.2.1
    · obtain ⟨reason, hreason, -⟩ := h.2.2.1
      refine hkey (PyJson.hasKey_of_get fun hnone => ?_)
      rw [hreason] at hnone
      cases hnone
  · rw [raiseIf_of_not _ hkeys, ok_bind]
    rw [not_or, not_not, not_not] at hkeys
    split
    · rename_i hnone
      refine .malformed haccepted hrejected fun after h => ?_
      obtain ⟨reason, hreason⟩ := h.2.2.1
      rw [nonEmptyText_eq_some.mpr hreason] at hnone
      cases hnone
    · rename_i reason hreason
      split
      · rename_i hnone
        refine .malformed haccepted hrejected fun after h => ?_
        cases hnone.symm.trans h.2.2.2
      · rename_i after hafter
        exact .retry ⟨hdisposition, hkeys.1, ⟨reason, nonEmptyText_eq_some.mp hreason⟩, hafter⟩

theorem read_readRejection (hdisposition : (PyJson.get data "disposition").IsText "rejected")
    (hcategory : PyJson.KeysAre data rejectionKeys → (PyJson.get data "category").Hashable) :
    Read data (readRejection data) := by
  have haccepted : ∀ receipt, ¬ SaysAccepted data receipt := by
    rintro receipt ⟨h | h, -⟩ <;> exact absurd (hdisposition.inj h) (by decide)
  have hretry : ∀ after, ¬ SaysRetry data after :=
    fun after h => absurd (hdisposition.inj h.1) (by decide)
  unfold readRejection
  by_cases hkeys : PyJson.KeysAre data rejectionKeys
  · rw [raiseIf_of_not _ (not_not.mpr hkeys), ok_bind, inTexts_of_hashable (hcategory hkeys), ok_bind]
    split
    · rename_i hnone
      refine .malformed haccepted (fun reason h => ?_) hretry
      rw [if_pos (decide_eq_true h.2.2.1), nonEmptyText_eq_some.mpr h.2.2.2] at hnone
      cases hnone
    · rename_i reason hreason
      split_ifs at hreason with hallowed
      exact .rejected ⟨hdisposition, hkeys, of_decide_eq_true hallowed,
        nonEmptyText_eq_some.mp hreason⟩
  · rw [raiseIf, if_pos hkeys]
    exact .malformed haccepted (fun reason h => hkeys h.2.1) hretry

/-- **What the disposition of a result is read as**, where its values can be looked up. -/
theorem read_readDisposition (hhashable : (PyJson.get data "disposition").Hashable)
    (hcategory : (PyJson.get data "disposition").IsText "rejected" →
      PyJson.KeysAre data rejectionKeys → (PyJson.get data "category").Hashable) :
    Read data (readDisposition data) := by
  rw [readDisposition_of_hashable hhashable]
  split_ifs with haccepted hretry hrejected
  · exact read_readAcceptance haccepted
  · exact read_readRetry hretry
  · exact read_readRejection hrejected (hcategory hrejected)
  · exact .malformed (fun _ h => haccepted h.1) (fun _ h => hrejected h.1) fun _ h => hretry h.1

theorem readDisposition_of_not_hashable (h : ¬ (PyJson.get data "disposition").Hashable) :
    ∃ e, readDisposition data = .error (.raised e) := by
  obtain ⟨e, he⟩ := inTexts_of_not_hashable h ["accepted", "already_accepted"]
  rw [readDisposition, he]
  exact ⟨e, rfl⟩

theorem readDisposition_of_category (hdisposition : (PyJson.get data "disposition").IsText "rejected")
    (hkeys : PyJson.KeysAre data rejectionKeys) (h : ¬ (PyJson.get data "category").Hashable) :
    ∃ e, readDisposition data = .error (.raised e) := by
  have haccepted : ¬ ((PyJson.get data "disposition").IsText "accepted" ∨
      (PyJson.get data "disposition").IsText "already_accepted") := by
    rintro (h | h) <;> exact absurd (hdisposition.inj h) (by decide)
  have hretry : ¬ (PyJson.get data "disposition").IsText "retry" :=
    fun h => absurd (hdisposition.inj h) (by decide)
  obtain ⟨e, he⟩ := inTexts_of_not_hashable h allowedCategories
  rw [readDisposition_of_hashable (PyJson.hashable_of_isText hdisposition), if_neg haccepted,
    if_neg hretry, if_pos hdisposition, readRejection, raiseIf_of_not _ (not_not.mpr hkeys), ok_bind, he]
  exact ⟨e, rfl⟩

/-! ### Bodies -/

theorem checkBinding_cases (data : List (PyStr × PyJson)) (item : OutboxItem) :
    (Bound data item ∧ checkBinding data item = .ok ()) ∨
      (¬ Bound data item ∧ ∃ message, checkBinding data item = .error (.pipExportError message)) := by
  unfold checkBinding
  by_cases hcontract : ¬ (PyJson.get data "contract").IsText "pip.event-delivery-result" ∨
      ¬ (PyJson.get data "protocol_version").IsText "1"
  · rw [raiseIf, if_pos hcontract]
    refine .inr ⟨fun h => ?_, _, rfl⟩
    rcases hcontract with hcontract | hcontract
    · exact hcontract h.1
    · exact hcontract h.2.1
  rw [raiseIf_of_not _ hcontract, ok_bind]
  rw [not_or, not_not, not_not] at hcontract
  split
  · rename_i binding hevent
    by_cases hkeys : PyJson.KeysAre binding ["producer_id", "event_id", "event_sha256"]
    · rw [raiseIf_of_not _ (not_not.mpr hkeys), ok_bind, raiseIf]
      split_ifs with hbound
      · refine .inr ⟨?_, _, rfl⟩
        rintro ⟨-, -, binding', hevent', -, hproducer, hid, hsha⟩
        cases hevent.symm.trans hevent'
        rcases hbound with h | h | h
        · exact h hproducer
        · exact h hid
        · exact h hsha
      · rw [not_or, not_or, not_not, not_not, not_not] at hbound
        exact .inl ⟨⟨hcontract.1, hcontract.2, binding, hevent, hkeys, hbound⟩, rfl⟩
    · rw [raiseIf, if_pos hkeys]
      refine .inr ⟨?_, _, rfl⟩
      rintro ⟨-, -, binding', hevent', hkeys', -⟩
      cases hevent.symm.trans hevent'
      exact hkeys hkeys'
  · rename_i hnot
    refine .inr ⟨?_, _, rfl⟩
    rintro ⟨-, -, binding, hevent, -⟩
    exact hnot binding hevent

/-- A bound result is read by its disposition. -/
theorem parse_of_isResult (h : IsResult py body item data) :
    parseDeliveryResult py body item = readDisposition data := by
  obtain ⟨⟨chars, hchars, hloads⟩, hbound⟩ := h
  have hread : readResult py body = .ok data := by
    unfold readResult
    rw [hchars]
    dsimp only
    rw [hloads]
    rfl
  have hcheck : checkBinding data item = .ok () :=
    ((checkBinding_cases data item).resolve_right fun h => h.1 hbound).2
  rw [parseDeliveryResult, hread, ok_bind, hcheck, ok_bind]

/-- Any other body is reported, if its JSON can be loaded. -/
theorem parse_of_not_isResult
    (hloads : ∀ chars, decodeUtf8 body = some chars → ∀ e, py.loads chars ≠ .raised e)
    (h : ∀ data, ¬ IsResult py body item data) :
    ∃ message, parseDeliveryResult py body item = .error (.pipExportError message) := by
  unfold parseDeliveryResult readResult
  split
  · exact ⟨_, rfl⟩
  · rename_i chars hchars
    split
    · exact ⟨_, rfl⟩
    · rename_i e he
      exact absurd he (hloads chars hchars e)
    · rename_i data hdata
      rcases checkBinding_cases data item with ⟨hbound, -⟩ | ⟨-, message, hcheck⟩
      · exact absurd ⟨⟨chars, hchars, hdata⟩, hbound⟩ (h data)
      · rw [pure_eq_ok, ok_bind, hcheck]
        exact ⟨message, rfl⟩
    · exact ⟨_, rfl⟩

/-- A body is one result. -/
theorem IsResult.unique {data' : List (PyStr × PyJson)} (h : IsResult py body item data)
    (h' : IsResult py body item data') : data' = data := by
  obtain ⟨⟨chars, hchars, hloads⟩, -⟩ := h
  obtain ⟨⟨chars', hchars', hloads'⟩, -⟩ := h'
  cases hchars.symm.trans hchars'
  cases hloads.symm.trans hloads'
  rfl

/-- How the answer is read. -/
inductive Answered (py : DeliveryLibrary) (status : HttpStatus) (body : List UInt8)
    (item : OutboxItem) : Except PipError DeliveryResult → Prop where
  | accepted {receipt : PyStr} {text : String} (hstatus : ¬ status.Redirect)
      (h : Accepts py body item receipt) (htext : text = "accepted" ∨ text = "already_accepted")
      (hunique : ∀ receipt', Accepts py body item receipt' → receipt' = receipt)
      (hrejected : ∀ reason, ¬ Rejects py body item reason)
      (hretry : ∀ after, ¬ Retries py body item after) :
      Answered py status body item (.ok ⟨text, text, some receipt, none, none⟩)
  | rejected {reason : PyStr} {resultClass : String} (hstatus : ¬ status.Redirect)
      (h : Rejects py body item reason)
      (hunique : ∀ reason', Rejects py body item reason' → reason' = reason)
      (haccepted : ∀ receipt, ¬ Accepts py body item receipt)
      (hretry : ∀ after, ¬ Retries py body item after) :
      Answered py status body item (.ok ⟨"rejected", resultClass, none, some reason, none⟩)
  | retry {reason : PyStr} {after : Option ℤ} (hstatus : ¬ status.Redirect)
      (h : Retries py body item after)
      (hunique : ∀ after', Retries py body item after' → after' = after)
      (haccepted : ∀ receipt, ¬ Accepts py body item receipt)
      (hrejected : ∀ reason, ¬ Rejects py body item reason) :
      Answered py status body item (.ok ⟨"retry", "retry", none, some reason, after⟩)
  | ambiguous {message : String} (h : status.Redirect ∨
      (∀ receipt, ¬ Accepts py body item receipt) ∧ (∀ reason, ¬ Rejects py body item reason) ∧
        ∀ after, ¬ Retries py body item after) :
      Answered py status body item (.error (.pipExportError message))

theorem SaysAccepted.unique {receipt receipt' : PyStr} (h : SaysAccepted data receipt)
    (h' : SaysAccepted data receipt') : receipt' = receipt :=
  PyJson.str.inj (h'.2.2.1.symm.trans h.2.2.1)

theorem SaysRejected.unique {reason reason' : PyStr} (h : SaysRejected data reason)
    (h' : SaysRejected data reason') : reason' = reason :=
  PyJson.str.inj (h'.2.2.2.1.symm.trans h.2.2.2.1)

/-- **How a readable answer is read.** -/
theorem answered_readAnswer (h : Readable py status body item) :
    Answered py status body item (readAnswer py status body item) := by
  unfold readAnswer
  by_cases hstatus : status.Redirect
  · rw [raiseIf, if_pos hstatus]
    exact .ambiguous (.inl hstatus)
  rw [raiseIf_of_not _ hstatus, ok_bind]
  by_cases hresult : ∃ data, IsResult py body item data
  · obtain ⟨data, hdata⟩ := hresult
    have hiff {P : List (PyStr × PyJson) → Prop} : (∃ data, IsResult py body item data ∧ P data) ↔ P data := by
      constructor
      · rintro ⟨data', hdata', hP⟩
        rwa [hdata.unique hdata'] at hP
      · exact fun hP => ⟨data, hdata, hP⟩
    have haccepts : ∀ receipt, Accepts py body item receipt ↔ SaysAccepted data receipt := fun _ => hiff
    have hrejects : ∀ reason, Rejects py body item reason ↔ SaysRejected data reason := fun _ => hiff
    have hretries : ∀ after, Retries py body item after ↔ SaysRetry data after := fun _ => hiff
    rw [parse_of_isResult hdata]
    have hread := read_readDisposition (h.disposition hstatus data hdata) (h.category hstatus data hdata)
    revert hread
    generalize readDisposition data = x
    intro hread
    cases hread with
    | accepted hsays htext =>
      refine .accepted hstatus ((haccepts _).mpr hsays) htext ?_ ?_ ?_
      · exact fun receipt' h' => hsays.unique ((haccepts _).mp h')
      · exact fun reason h' => hsays.not_rejected ((hrejects _).mp h')
      · exact fun after h' => hsays.not_retry ((hretries _).mp h')
    | rejected hsays =>
      refine .rejected hstatus ((hrejects _).mpr hsays) ?_ ?_ ?_
      · exact fun reason' h' => hsays.unique ((hrejects _).mp h')
      · exact fun receipt h' => ((haccepts _).mp h').not_rejected hsays
      · exact fun after h' => hsays.not_retry ((hretries _).mp h')
    | retry hsays =>
      refine .retry hstatus ((hretries _).mpr hsays) ?_ ?_ ?_
      · exact fun after' h' => ((hretries _).mp h').unique hsays
      · exact fun receipt h' => ((haccepts _).mp h').not_retry hsays
      · exact fun reason h' => ((hrejects _).mp h').not_retry hsays
    | malformed haccepted hrejected hretry =>
      refine .ambiguous (.inr ⟨?_, ?_, ?_⟩)
      · exact fun receipt h' => haccepted receipt ((haccepts _).mp h')
      · exact fun reason h' => hrejected reason ((hrejects _).mp h')
      · exact fun after h' => hretry after ((hretries _).mp h')
  · obtain ⟨message, hparse⟩ := parse_of_not_isResult (h.loads hstatus) (not_exists.mp hresult)
    rw [hparse]
    refine .ambiguous (.inr ⟨?_, ?_, ?_⟩) <;> rintro _ ⟨data, hdata, -⟩ <;> exact hresult ⟨data, hdata⟩

/-- An answer that is not readable makes Python raise. -/
theorem readable_of_answer (h : ∀ e, readAnswer py status body item ≠ .error (.raised e)) :
    Readable py status body item := by
  have hanswer : ¬ status.Redirect → readAnswer py status body item = parseDeliveryResult py body item := by
    intro hstatus
    rw [readAnswer, raiseIf_of_not _ hstatus, ok_bind]
  constructor
  · intro hstatus chars hchars e he
    refine h e ?_
    rw [hanswer hstatus, parseDeliveryResult, readResult, hchars]
    dsimp only
    rw [he]
    rfl
  · intro hstatus data hdata
    by_contra hnot
    obtain ⟨e, he⟩ := readDisposition_of_not_hashable hnot
    exact h e (by rw [hanswer hstatus, parse_of_isResult hdata, he])
  · intro hstatus data hdata hdisposition hkeys
    by_contra hnot
    obtain ⟨e, he⟩ := readDisposition_of_category hdisposition hkeys hnot
    exact h e (by rw [hanswer hstatus, parse_of_isResult hdata, he])

end Parse

/-! ## Recording an answer -/

/-- The item is what a claim returned, and the completion time is a datetime. -/
structure InHand (item : OutboxItem) (finished : ℤ) : Prop where
  time : 0 ≤ finished
  attempts : 1 ≤ item.attemptCount
  claimed : ∃ token expires, item.claimToken = some token ∧ item.leaseExpiresAt = some expires

/-- The lease of the item runs, and the row of the item is held under it. -/
def Leased (db : Outbox) (item : OutboxItem) (finished : ℤ) : Prop :=
  ¬ LeaseOver item finished ∧ ∃ r ∈ db.rows, ∃ token ∈ item.claimToken, Held item token finished r

/-- The delivery returns, and the outbox is what the answer says if the row is held. -/
def Settles (py : DeliveryLibrary) (status : HttpStatus) (body : List UInt8) (item : OutboxItem)
    (db : Outbox) (finished : ℤ) : Prop :=
  ∃ db', deliverClaimed py db item status body finished = .ok db' ∧
    (¬ Leased db item finished → db' = db) ∧
    (Leased db item finished →
      ∃ r ∈ db'.rows, r.outboxId = item.outboxId ∧ RowOutcome py status body item finished r)

/-- The row of the item still carries the token of the claim, or it already is what the answer
says. -/
def StillHeld (py : DeliveryLibrary) (status : HttpStatus) (body : List UInt8) (item : OutboxItem)
    (db : Outbox) (finished : ℤ) : Prop :=
  ∃ r ∈ db.rows, r.outboxId = item.outboxId ∧
    (r.claimToken = item.claimToken ∨ RowOutcome py status body item finished r)

section Record

variable {py : DeliveryLibrary} {status : HttpStatus} {body : List UInt8} {db : Outbox}
  {item : OutboxItem} {finished : ℤ}

/-- `_finish` of an item in hand. -/
theorem finish_inHand (h : InHand item finished) (o : Outcome)
    (ho : ¬ ((o.recorded item).state = .retryWait ∧ (o.recorded item).nextAttemptAt = none)) :
    ∃ changed db', finish db item o finished = .ok (changed, db') ∧
      (¬ Leased db item finished → db' = db) ∧
      (Leased db item finished → ∃ r, r.outboxId = item.outboxId ∧
        finishedRow (o.recorded item) finished r ∈ db'.rows) := by
  obtain ⟨token, expires, htoken, hexpires⟩ := h.claimed
  unfold finish
  rw [htoken, hexpires]
  dsimp only
  by_cases hover : finished ≥ expires
  · rw [if_pos hover]
    exact ⟨false, db, rfl, fun _ => rfl, fun hleased => absurd ⟨expires, hexpires, hover⟩ hleased.1⟩
  · rw [if_neg hover, raiseIf_of_not _ ho, ok_bind]
    have hrunning : ¬ LeaseOver item finished := by
      rintro ⟨expires', hexpires', hle⟩
      cases hexpires.symm.trans hexpires'
      exact hover hle
    refine ⟨_, _, rfl, fun hnot => ?_, fun hleased => ?_⟩
    · refine Outbox.update_eq_self fun r hr hheld => ?_
      exact hnot ⟨hrunning, r, hr, token, htoken, hheld⟩
    · obtain ⟨r, hr, token', htoken', hheld⟩ := hleased.2
      cases htoken.symm.trans htoken'
      exact ⟨r, hheld.1, mem_updateWhere.mpr (.inl ⟨r, hr, hheld, rfl⟩)⟩

/-- The delay before a retry is positive. -/
theorem delayWithin_pos (py : DeliveryLibrary) (attemptCount : ℕ) (after : Option ℤ) :
    0 < delayWithin py (jitterBounds attemptCount) after := by
  have hpow : (1 : ℤ) ≤ 2 ^ min (attemptCount - 1) 10 := one_le_pow₀ (by norm_num)
  have hraw : (1000000 : ℤ) ≤ min retryMax (secondMicros * 2 ^ min (attemptCount - 1) 10) := by
    refine le_min (by decide) ?_
    unfold secondMicros
    push_cast
    omega
  have hbounds : 0 < (jitterBounds attemptCount).1 ∧
      (jitterBounds attemptCount).1 ≤ (jitterBounds attemptCount).2 := by
    unfold jitterBounds
    dsimp only
    omega
  have hjitter := (py.uniform_mem _ _ hbounds.2).1
  unfold delayWithin
  refine lt_min ?_ (by decide)
  split
  · exact lt_of_lt_of_le (hbounds.1.trans_le hjitter) (le_max_left _ _)
  · exact hbounds.1.trans_le hjitter

/-- Recording a retry returns iff the time of the retry is a datetime. -/
theorem retryLater_of_time (h : InHand item finished) (result : Option DeliveryResult)
    (resultClass : String) (code : ℕ)
    (htime : finished + delayWithin py (jitterBounds item.attemptCount)
      (result.bind DeliveryResult.retryAfterMs) < DateTime.endMicros) :
    ∃ db', retryLater py db item result resultClass code finished = .ok db' ∧
      (¬ Leased db item finished → db' = db) ∧
      (Leased db item finished → ∃ r ∈ db'.rows, r.outboxId = item.outboxId ∧
        r.state = (if item.claimMode = some .operatorOneShot then .deadLetter else .retryWait) ∧
        finished < r.nextAttemptAt) := by
  have hpos := delayWithin_pos py item.attemptCount (result.bind DeliveryResult.retryAfterMs)
  set delay := delayWithin py (jitterBounds item.attemptCount) (result.bind DeliveryResult.retryAfterMs)
  have hdelay : retryDelay py item result = .ok delay := by
    rw [retryDelay, retryDelayBounds, raiseIf_of_not _ (by have := h.attempts; omega)]
    rfl
  have hnext : addTime finished delay = .ok (finished + delay) :=
    addTime_eq_ok.mpr ⟨⟨by have := h.time; omega, htime⟩, rfl⟩
  set o : Outcome := ⟨.retryWait, resultClass, some code, none, some (finished + delay), none⟩ with ho
  have hrecorded : (o.recorded item).nextAttemptAt = some (finished + delay) := by
    unfold Outcome.recorded
    split <;> rfl
  obtain ⟨changed, db', hfinish, hunheld, hrow⟩ := finish_inHand h o (by rw [hrecorded]; exact nofun)
  refine ⟨db', ?_, hunheld, fun hleased => ?_⟩
  · rw [retryLater, hdelay, ok_bind, hnext, ok_bind, retry, hfinish]
    rfl
  · obtain ⟨r, hid, hr⟩ := hrow hleased
    refine ⟨_, hr, hid, ?_, ?_⟩
    · show (o.recorded item).state = _
      unfold Outcome.recorded
      by_cases hmode : item.claimMode = some .operatorOneShot
      · rw [if_pos ⟨hmode, rfl⟩, if_pos hmode]
      · rw [if_neg fun hc => hmode hc.1, if_neg hmode]
    · show finished < (o.recorded item).nextAttemptAt.getD r.nextAttemptAt
      rw [hrecorded, Option.getD_some]
      omega

theorem retryLater_of_not_time {result : Option DeliveryResult} {resultClass : String} {code : ℕ}
    (h : ∃ db', retryLater py db item result resultClass code finished = .ok db') :
    finished + delayWithin py (jitterBounds item.attemptCount)
      (result.bind DeliveryResult.retryAfterMs) < DateTime.endMicros := by
  obtain ⟨db', h⟩ := h
  obtain ⟨delay, hdelay, h⟩ := bind_eq_ok.mp h
  obtain ⟨next, hnext, -⟩ := bind_eq_ok.mp h
  obtain ⟨bounds, hbounds, hdelay⟩ := bind_eq_ok.mp hdelay
  obtain ⟨-, hbounds⟩ := raiseIf_bind_eq_ok.mp hbounds
  cases hbounds
  cases hdelay
  exact (addTime_eq_ok.mp hnext).1.2

/-- Recording an acceptance. -/
theorem acknowledge_inHand (h : InHand item finished) (receipt resultClass : String) (code : ℕ) :
    ∃ changed db', acknowledge db item receipt resultClass (some code) finished = .ok (changed, db') ∧
      (¬ Leased db item finished → db' = db) ∧
      (Leased db item finished → ∃ r ∈ db'.rows, r.outboxId = item.outboxId ∧
        r.state = .acknowledged ∧ r.receiptId = some receipt) := by
  set o : Outcome := ⟨.acknowledged, resultClass, some code, some receipt, none, none⟩ with ho
  have hrecorded : o.recorded item = o := if_neg fun hc => nomatch hc.2
  obtain ⟨changed, db', hfinish, hunheld, hrow⟩ :=
    finish_inHand h o (by rw [hrecorded]; exact fun hc => nomatch hc.1)
  refine ⟨changed, db', hfinish, hunheld, fun hleased => ?_⟩
  obtain ⟨r, hid, hr⟩ := hrow hleased
  rw [hrecorded] at hr
  exact ⟨_, hr, hid, rfl, rfl⟩

/-- Recording a rejection. -/
theorem deadLetter_inHand (h : InHand item finished) (reason resultClass : String) (code : ℕ) :
    ∃ changed db', deadLetter db item reason resultClass (some code) finished = .ok (changed, db') ∧
      (¬ Leased db item finished → db' = db) ∧
      (Leased db item finished → ∃ r ∈ db'.rows, r.outboxId = item.outboxId ∧
        r.state = .deadLetter) := by
  set o : Outcome := ⟨.deadLetter, resultClass, some code, none, none, some reason⟩ with ho
  have hrecorded : o.recorded item = o := if_neg fun hc => nomatch hc.2
  obtain ⟨changed, db', hfinish, hunheld, hrow⟩ :=
    finish_inHand h o (by rw [hrecorded]; exact fun hc => nomatch hc.1)
  refine ⟨changed, db', hfinish, hunheld, fun hleased => ?_⟩
  obtain ⟨r, hid, hr⟩ := hrow hleased
  rw [hrecorded] at hr
  exact ⟨_, hr, hid, rfl⟩

/-- A text is bound iff it has no surrogates or the statement is not run. -/
theorem bindText_eq_ok {text : PyStr} :
    (∃ s, bindText item finished text = .ok s) ↔ text.encode.isSome ∨ LeaseOver item finished := by
  unfold bindText
  split
  · rename_i s hs
    simp [hs]
  · rename_i hnone
    rw [hnone]
    split_ifs with hover
    · exact ⟨fun _ => .inr hover, fun _ => ⟨"", rfl⟩⟩
    · constructor
      · rintro ⟨s, h⟩
        cases h
      · rintro (h | h)
        · cases h
        · exact absurd h hover

/-! ### The three ways -/

instance : DecidablePred HttpStatus.Success :=
  fun status => inferInstanceAs (Decidable (200 ≤ status.code ∧ status.code < 300 ∧ status.code ≠ 202))

instance : DecidablePred HttpStatus.ClientError :=
  fun status => inferInstanceAs (Decidable (400 ≤ status.code ∧ status.code < 500 ∧ status.code ≠ 429))

theorem HttpStatus.Success.not_redirect (h : status.Success) : ¬ status.Redirect := by
  rintro ⟨hlow, -⟩
  have := h.2.1
  omega

theorem HttpStatus.ClientError.not_redirect (h : status.ClientError) : ¬ status.Redirect := by
  rintro ⟨-, hhigh⟩
  have := h.1
  omega

/-- A parsed acceptance. -/
theorem recordResult_accepted {text : String} (htext : text = "accepted" ∨ text = "already_accepted")
    (receipt : PyStr) (py : DeliveryLibrary) (status : HttpStatus) (db : Outbox) (item : OutboxItem)
    (finished : ℤ) : ∃ resultClass, recordResult py db item status.code
        ⟨text, text, some receipt, none, none⟩ finished =
      if status.Success then
        bindText item finished receipt >>= fun s =>
          acknowledge db item s text (some status.code) finished >>= fun p => .ok p.2
      else retryLater py db item none resultClass status.code finished := by
  have hretry : text ≠ "retry" := by
    rcases htext with rfl | rfl <;> decide
  have haccepted : DeliveryResult.Accepted ⟨text, text, some receipt, none, none⟩ := htext
  have hmatches : terminalStatusMatchesResult status.code ⟨text, text, some receipt, none, none⟩ = true ↔
      status.Success := by
    rw [terminalStatusMatchesResult, if_pos haccepted]
    simp [HttpStatus.Success, and_assoc]
  refine ⟨"http:" ++ toString status.code ++ ":" ++ text, ?_⟩
  unfold recordResult
  by_cases hstatus : status.Success
  · rw [if_neg (by simp [hretry, hmatches.mpr hstatus]), if_pos haccepted, if_pos hstatus]
    rfl
  · rw [if_pos (.inr (mt hmatches.mp hstatus)), if_neg hstatus, if_neg hretry, if_neg hretry]

/-- A parsed rejection. -/
theorem recordResult_rejected (resultClass : String) (reason : PyStr) (py : DeliveryLibrary)
    (status : HttpStatus) (db : Outbox) (item : OutboxItem) (finished : ℤ) :
    ∃ retryClass, recordResult py db item status.code
        ⟨"rejected", resultClass, none, some reason, none⟩ finished =
      if status.ClientError then
        bindText item finished reason >>= fun s =>
          deadLetter db item s resultClass (some status.code) finished >>= fun p => .ok p.2
      else retryLater py db item none retryClass status.code finished := by
  have hretry : "rejected" ≠ "retry" := by decide
  have hnot : ¬ DeliveryResult.Accepted ⟨"rejected", resultClass, none, some reason, none⟩ := by
    have haccepted : "rejected" ≠ "accepted" := by decide
    have halready : "rejected" ≠ "already_accepted" := by decide
    rintro (h | h)
    · exact haccepted h
    · exact halready h
  have hmatches : terminalStatusMatchesResult status.code
      ⟨"rejected", resultClass, none, some reason, none⟩ = true ↔ status.ClientError := by
    rw [terminalStatusMatchesResult, if_neg hnot, if_pos rfl]
    simp [HttpStatus.ClientError, and_assoc]
  refine ⟨"http:" ++ toString status.code ++ ":" ++ resultClass, ?_⟩
  unfold recordResult
  by_cases hstatus : status.ClientError
  · rw [if_neg (by simp [hmatches.mpr hstatus]), if_neg hnot, if_pos rfl, if_pos hstatus]
    rfl
  · rw [if_pos (.inr (mt hmatches.mp hstatus)), if_neg hstatus, if_neg hretry, if_neg hretry]

/-- A parsed request to try again. -/
theorem recordResult_retry (reason : PyStr) (after : Option ℤ) :
    recordResult py db item status.code ⟨"retry", "retry", none, some reason, after⟩ finished =
      retryLater py db item (some ⟨"retry", "retry", none, some reason, after⟩) "retry" status.code
        finished := by
  unfold recordResult
  rw [if_pos (.inl rfl), if_pos rfl, if_pos rfl]

/-- The row of an item that waits again, or was replayed. -/
theorem rowOutcome_retry (hack : ¬ Acknowledges py status body item)
    (hreject : ¬ RejectsFinally py status body item) {r : OutboxRow}
    (hstate : r.state = if item.claimMode = some .operatorOneShot then .deadLetter else .retryWait)
    (hnext : finished < r.nextAttemptAt) : RowOutcome py status body item finished r := by
  by_cases hmode : item.claimMode = some .operatorOneShot
  · rw [if_pos hmode] at hstate
    constructor <;> simp [hstate, hack, hmode]
  · rw [if_neg hmode] at hstate
    constructor <;> simp [hstate, hack, hreject, hmode, hnext]

/-- What `Settles` says where the item waits again. -/
theorem settles_retryLater (h : InHand item finished) (hack : ¬ Acknowledges py status body item)
    (hreject : ¬ RejectsFinally py status body item) {result : Option DeliveryResult}
    {resultClass : String}
    (hdeliver : deliverClaimed py db item status body finished =
      retryLater py db item result resultClass status.code finished)
    (htime : finished + delayWithin py (jitterBounds item.attemptCount)
      (result.bind DeliveryResult.retryAfterMs) < DateTime.endMicros) :
    Settles py status body item db finished := by
  obtain ⟨db', hrun, hunheld, hrow⟩ := retryLater_of_time h result resultClass status.code htime
  refine ⟨db', hdeliver.trans hrun, hunheld, fun hleased => ?_⟩
  obtain ⟨r, hr, hid, hstate, hnext⟩ := hrow hleased
  exact ⟨r, hr, hid, rowOutcome_retry hack hreject hstate hnext⟩

theorem deliverClaimed_of_ok (db : Outbox) (finished : ℤ) {result : DeliveryResult} (h : readAnswer py status body item = .ok result) :
    deliverClaimed py db item status body finished = recordResult py db item status.code result finished := by
  rw [deliverClaimed, h]

/-- The item waits again iff the time of the retry is a datetime. -/
theorem settles_iff_time (h : InHand item finished) (hack : ¬ Acknowledges py status body item)
    (hreject : ¬ RejectsFinally py status body item) {result : Option DeliveryResult}
    {resultClass : String} {after : Option ℤ}
    (hdeliver : deliverClaimed py db item status body finished =
      retryLater py db item result resultClass status.code finished)
    (hafter : result.bind DeliveryResult.retryAfterMs = after)
    (hasks : ∀ after', AsksFor py status body item after' ↔ after' = after) :
    Settles py status body item db finished ↔
      (¬ Acknowledges py status body item → ¬ RejectsFinally py status body item →
        ∀ after, AsksFor py status body item after →
          finished + delayWithin py (jitterBounds item.attemptCount) after < DateTime.endMicros) := by
  constructor
  · rintro ⟨db', hdelivered, -⟩ - - after' hafter'
    rw [(hasks after').mp hafter', ← hafter]
    exact retryLater_of_not_time ⟨db', hdeliver.symm.trans hdelivered⟩
  · intro htime
    refine settles_retryLater h hack hreject hdeliver ?_
    rw [hafter]
    exact htime hack hreject after ((hasks after).mpr rfl)

/-- Without a strict request to try again, no delay is asked for. -/
theorem asksFor_none (h : status.Redirect ∨ ∀ after, ¬ Retries py body item after) (after : Option ℤ) :
    AsksFor py status body item after ↔ after = none := by
  constructor
  · rintro (⟨hstatus, hretry⟩ | ⟨-, hnone⟩)
    · rcases h with h | h
      · exact absurd h hstatus
      · exact absurd hretry (h after)
    · exact hnone
  · rintro rfl
    exact .inr ⟨h, rfl⟩

/-- An acceptance that is recorded. -/
theorem settles_iff_receipt (h : InHand item finished) (hstatus : status.Success) {receipt : PyStr}
    (haccepts : Accepts py body item receipt) {resultClass : String}
    (hdeliver : deliverClaimed py db item status body finished =
      bindText item finished receipt >>= fun s =>
        acknowledge db item s resultClass (some status.code) finished >>= fun p => .ok p.2) :
    Settles py status body item db finished ↔ receipt.encode.isSome ∨ LeaseOver item finished := by
  rw [← bindText_eq_ok]
  constructor
  · rintro ⟨db', hdelivered, -⟩
    obtain ⟨s, hs, -⟩ := bind_eq_ok.mp (hdeliver.symm.trans hdelivered)
    exact ⟨s, hs⟩
  · rintro ⟨s, hs⟩
    obtain ⟨changed, db', hrun, hunheld, hrow⟩ := acknowledge_inHand h s resultClass status.code
    refine ⟨db', ?_, hunheld, fun hleased => ?_⟩
    · rw [hdeliver, hs, ok_bind, hrun, ok_bind]
    · obtain ⟨r, hr, hid, hstate, hreceipt⟩ := hrow hleased
      have hack : Acknowledges py status body item := ⟨hstatus, receipt, haccepts⟩
      have htext : receipt = .ofString s := by
        unfold bindText at hs
        split at hs
        · rename_i s' hs'
          cases hs
          exact PyStr.eq_ofString hs'
        · rw [if_neg hleased.1] at hs
          cases hs
      refine ⟨r, hr, hid, ?_, ?_, ?_, ?_⟩
      · simp [hstate, hack]
      · exact fun _ => ⟨s, hreceipt, htext ▸ haccepts⟩
      · simp [hstate, hack]
      · exact fun hne => absurd hstate hne

/-- A rejection that is recorded. -/
theorem settles_iff_reason (h : InHand item finished) (hstatus : status.ClientError) {reason : PyStr}
    (hrejects : Rejects py body item reason) (hack : ¬ Acknowledges py status body item)
    {resultClass : String}
    (hdeliver : deliverClaimed py db item status body finished =
      bindText item finished reason >>= fun s =>
        deadLetter db item s resultClass (some status.code) finished >>= fun p => .ok p.2) :
    Settles py status body item db finished ↔ reason.encode.isSome ∨ LeaseOver item finished := by
  rw [← bindText_eq_ok]
  constructor
  · rintro ⟨db', hdelivered, -⟩
    obtain ⟨s, hs, -⟩ := bind_eq_ok.mp (hdeliver.symm.trans hdelivered)
    exact ⟨s, hs⟩
  · rintro ⟨s, hs⟩
    obtain ⟨changed, db', hrun, hunheld, hrow⟩ := deadLetter_inHand h s resultClass status.code
    refine ⟨db', ?_, hunheld, fun hleased => ?_⟩
    · rw [hdeliver, hs, ok_bind, hrun, ok_bind]
    · obtain ⟨r, hr, hid, hstate⟩ := hrow hleased
      have hreject : RejectsFinally py status body item := ⟨hstatus, reason, hrejects⟩
      exact ⟨r, hr, hid, by constructor <;> simp [hstate, hack, hreject]⟩

/-- What a readable answer needs besides. -/
theorem settles_iff_of_readable (h : InHand item finished) (hread : Readable py status body item) :
    Settles py status body item db finished ↔
      (status.Success → ∀ receipt, Accepts py body item receipt →
        receipt.encode.isSome ∨ LeaseOver item finished) ∧
      (status.ClientError → ∀ reason, Rejects py body item reason →
        reason.encode.isSome ∨ LeaseOver item finished) ∧
      (¬ Acknowledges py status body item → ¬ RejectsFinally py status body item →
        ∀ after, AsksFor py status body item after →
          finished + delayWithin py (jitterBounds item.attemptCount) after < DateTime.endMicros) := by
  obtain ⟨x, hx⟩ : ∃ x, readAnswer py status body item = x := ⟨_, rfl⟩
  have hanswered := answered_readAnswer hread
  rw [hx] at hanswered
  cases hanswered with
  | @accepted receipt text hstatus haccepts htext hunique hrejected hretry =>
    have hdeliver := deliverClaimed_of_ok db finished hx
    obtain ⟨resultClass, hrecord⟩ := recordResult_accepted htext receipt py status db item finished
    rw [hrecord] at hdeliver
    have hreject : ¬ RejectsFinally py status body item := fun h => hrejected _ h.2.choose_spec
    by_cases hsuccess : status.Success
    · rw [if_pos hsuccess] at hdeliver
      rw [settles_iff_receipt h hsuccess haccepts hdeliver]
      have hack : Acknowledges py status body item := ⟨hsuccess, receipt, haccepts⟩
      constructor
      · intro hreceipt
        refine ⟨fun _ receipt' h' => ?_, fun _ reason h' => absurd h' (hrejected reason),
          fun hnot => absurd hack hnot⟩
        rwa [hunique receipt' h']
      · exact fun hall => hall.1 hsuccess receipt haccepts
    · rw [if_neg hsuccess] at hdeliver
      have hack : ¬ Acknowledges py status body item := fun h => hsuccess h.1
      rw [settles_iff_time h hack hreject hdeliver rfl (asksFor_none (.inr hretry))]
      constructor
      · exact fun htime => ⟨fun hs => absurd hs hsuccess, fun _ reason h' => absurd h' (hrejected reason),
          htime⟩
      · exact fun hall => hall.2.2
  | @rejected reason resultClass hstatus hrejects hunique haccepted hretry =>
    have hdeliver := deliverClaimed_of_ok db finished hx
    obtain ⟨retryClass, hrecord⟩ := recordResult_rejected resultClass reason py status db item finished
    rw [hrecord] at hdeliver
    have hack : ¬ Acknowledges py status body item := fun h => haccepted _ h.2.choose_spec
    by_cases hclient : status.ClientError
    · rw [if_pos hclient] at hdeliver
      rw [settles_iff_reason h hclient hrejects hack hdeliver]
      have hreject : RejectsFinally py status body item := ⟨hclient, reason, hrejects⟩
      constructor
      · intro hreason
        refine ⟨fun _ receipt h' => absurd h' (haccepted receipt), fun _ reason' h' => ?_,
          fun _ hnot => absurd hreject hnot⟩
        rwa [hunique reason' h']
      · exact fun hall => hall.2.1 hclient reason hrejects
    · rw [if_neg hclient] at hdeliver
      have hreject : ¬ RejectsFinally py status body item := fun h => hclient h.1
      rw [settles_iff_time h hack hreject hdeliver rfl (asksFor_none (.inr hretry))]
      constructor
      · exact fun htime => ⟨fun _ receipt h' => absurd h' (haccepted receipt),
          fun hc => absurd hc hclient, htime⟩
      · exact fun hall => hall.2.2
  | @retry reason after hstatus hretries hunique haccepted hrejected =>
    have hdeliver := deliverClaimed_of_ok db finished hx
    rw [recordResult_retry] at hdeliver
    have hack : ¬ Acknowledges py status body item := fun h => haccepted _ h.2.choose_spec
    have hreject : ¬ RejectsFinally py status body item := fun h => hrejected _ h.2.choose_spec
    have hasks : ∀ after', AsksFor py status body item after' ↔ after' = after := by
      intro after'
      constructor
      · rintro (⟨-, h'⟩ | ⟨h' | h', -⟩)
        · exact hunique after' h'
        · exact absurd h' hstatus
        · exact absurd hretries (h' after)
      · rintro rfl
        exact .inl ⟨hstatus, hretries⟩
    rw [settles_iff_time h hack hreject hdeliver rfl hasks]
    constructor
    · exact fun htime => ⟨fun _ receipt h' => absurd h' (haccepted receipt),
        fun _ reason h' => absurd h' (hrejected reason), htime⟩
    · exact fun hall => hall.2.2
  | @ambiguous message hnone =>
    have hdeliver : deliverClaimed py db item status body finished =
        retryLater py db item none "ambiguous:PipExportError" status.code finished := by
      rw [deliverClaimed, hx]
    have hack : ¬ Acknowledges py status body item := by
      rintro ⟨hsuccess, receipt, haccepts⟩
      rcases hnone with hredirect | hnone
      · exact hsuccess.not_redirect hredirect
      · exact hnone.1 receipt haccepts
    have hreject : ¬ RejectsFinally py status body item := by
      rintro ⟨hclient, reason, hrejects⟩
      rcases hnone with hredirect | hnone
      · exact hclient.not_redirect hredirect
      · exact hnone.2.1 reason hrejects
    have hasks := asksFor_none (hnone.imp_right fun h => h.2.2)
    rw [settles_iff_time h hack hreject hdeliver rfl hasks]
    constructor
    · exact fun htime => ⟨fun hs receipt h' => absurd ⟨hs, receipt, h'⟩ hack,
        fun hc reason h' => absurd ⟨hc, reason, h'⟩ hreject, htime⟩
    · exact fun hall => hall.2.2

/-- **A delivery is recorded as it should be iff nothing in the answer makes Python raise.** -/
theorem settles_iff_benign (h : InHand item finished) :
    Settles py status body item db finished ↔ Benign py status body item finished := by
  have hreadable : Settles py status body item db finished → Readable py status body item := by
    rintro ⟨db', hdeliver, -⟩
    refine readable_of_answer fun e he => ?_
    rw [deliverClaimed, he] at hdeliver
    cases hdeliver
  constructor
  · intro hsettles
    obtain ⟨hreceipt, hreason, htime⟩ :=
      (settles_iff_of_readable h (hreadable hsettles)).mp hsettles
    exact ⟨hreadable hsettles, hreceipt, hreason, htime⟩
  · exact fun hb => (settles_iff_of_readable h hb.toReadable).mpr ⟨hb.receipt, hb.reason, hb.time⟩

/-! ### Without the lease -/

theorem finish_of_not_leased (h : ¬ Leased db item finished) {o : Outcome} {changed : Bool}
    {db' : Outbox} (hfinish : finish db item o finished = .ok (changed, db')) : db' = db := by
  rcases finish_changes hfinish with ⟨-, hdb⟩ |
    ⟨-, ⟨expires, hexpires, hnow⟩, token, r, htoken, hr, hheld, -⟩
  · exact hdb
  · refine absurd ⟨?_, r, hr, token, htoken, hheld⟩ h
    rintro ⟨expires', hexpires', hle⟩
    cases hexpires.symm.trans hexpires'
    omega

theorem retryLater_of_not_leased (h : ¬ Leased db item finished) {result : Option DeliveryResult}
    {resultClass : String} {code : ℕ} {db' : Outbox}
    (hretry : retryLater py db item result resultClass code finished = .ok db') : db' = db := by
  obtain ⟨delay, -, hretry⟩ := bind_eq_ok.mp hretry
  obtain ⟨next, -, hretry⟩ := bind_eq_ok.mp hretry
  obtain ⟨p, hfinish, hretry⟩ := bind_eq_ok.mp hretry
  cases hretry
  exact finish_of_not_leased h hfinish

/-- A worker whose row is not held changes nothing. -/
theorem deliverClaimed_of_not_leased (h : ¬ Leased db item finished) {db' : Outbox}
    (hdeliver : deliverClaimed py db item status body finished = .ok db') : db' = db := by
  unfold deliverClaimed at hdeliver
  split at hdeliver
  · exact retryLater_of_not_leased h hdeliver
  · cases hdeliver
  · rename_i result hread
    unfold recordResult at hdeliver
    by_cases hretry : result.disposition = "retry" ∨ ¬ terminalStatusMatchesResult status.code result
    · rw [if_pos hretry] at hdeliver
      exact retryLater_of_not_leased h hdeliver
    rw [if_neg hretry] at hdeliver
    by_cases haccepted : result.Accepted
    · rw [if_pos haccepted] at hdeliver
      split at hdeliver
      · cases hdeliver
      · obtain ⟨receipt, -, hdeliver⟩ := bind_eq_ok.mp hdeliver
        obtain ⟨p, hfinish, hdeliver⟩ := bind_eq_ok.mp hdeliver
        cases hdeliver
        exact finish_of_not_leased h hfinish
    rw [if_neg haccepted] at hdeliver
    split at hdeliver
    · obtain ⟨reason, -, hdeliver⟩ := bind_eq_ok.mp hdeliver
      obtain ⟨p, hfinish, hdeliver⟩ := bind_eq_ok.mp hdeliver
      cases hdeliver
      exact finish_of_not_leased h hfinish
    · cases hdeliver

/-- **What a delivery needs besides**: before the end of the lease the row is held, or it already is
what the answer says. -/
theorem delivers_iff_settles :
    Delivers py status body item db finished ↔ Settles py status body item db finished ∧
      (¬ LeaseOver item finished → Leased db item finished ∨
        ∃ r ∈ db.rows, r.outboxId = item.outboxId ∧ RowOutcome py status body item finished r) := by
  constructor
  · rintro ⟨db', hdeliver, hover, hrow⟩
    refine ⟨⟨db', hdeliver, fun hnot => deliverClaimed_of_not_leased hnot hdeliver,
      fun hleased => hrow hleased.1⟩, fun hrunning => ?_⟩
    by_cases hleased : Leased db item finished
    · exact .inl hleased
    · obtain rfl := deliverClaimed_of_not_leased hleased hdeliver
      exact .inr (hrow hrunning)
  · rintro ⟨⟨db', hdeliver, hunheld, hrow⟩, hheld⟩
    refine ⟨db', hdeliver, fun hover => hunheld fun hleased => hleased.1 hover, fun hrunning => ?_⟩
    by_cases hleased : Leased db item finished
    · exact hrow hleased
    · rw [hunheld hleased]
      exact (hheld hrunning).resolve_left hleased

/-! ### Reachable worlds -/

/-- A claimed item is in hand. -/
theorem Reachable.inHand {w : World} (h : Reachable w) (hitem : item ∈ w.items) {token : String}
    (htoken : item.claimToken = some token) (hfinished : 0 ≤ finished) : InHand item finished := by
  obtain ⟨c, -, -, hgave⟩ := h.inv.items item hitem token htoken
  exact ⟨hfinished, hgave.attempts, ⟨_, _, htoken, hgave.expires⟩⟩

/-- A row with the token of an item is leased as the item says. -/
theorem Reachable.leased {w : World} (h : Reachable w) (hitem : item ∈ w.items) {token : String}
    (htoken : item.claimToken = some token) (hrunning : ¬ LeaseOver item finished) {r : OutboxRow}
    (hr : r ∈ w.outbox.rows) (hid : r.outboxId = item.outboxId)
    (hsame : r.claimToken = item.claimToken) : Leased w.outbox item finished := by
  have hinv := h.inv
  have hrow := hinv.rows r hr
  rw [htoken] at hsame
  obtain ⟨c, hc, hctoken, hgave⟩ := hinv.items item hitem token htoken
  obtain ⟨c', hc', hctoken', hleases⟩ := hrow.current token hsame
  cases eq_of_key hinv.tokens hc' hc (hctoken'.trans hctoken.symm)
  have hstate : r.state = .inFlight := hrow.lease.token.mp (by rw [hsame]; rfl)
  have hnow : finished < c.leaseExpiresAt := by
    by_contra hnot
    exact hrunning ⟨_, hgave.expires, not_lt.mp hnot⟩
  exact ⟨hrunning, r, hr, token, htoken, hid, hstate, hsame, _, hleases.expires, hnow⟩

/-- **In every reachable world, the delivery of a claimed item is recorded as it should be iff nothing
in the answer makes Python raise, and a delivery that ends within its lease finds its claim.** -/
theorem delivers_iff {w : World} (h : Reachable w) (hitem : item ∈ w.items) {token : String}
    (htoken : item.claimToken = some token) (hfinished : 0 ≤ finished) :
    Delivers py status body item w.outbox finished ↔
      Benign py status body item finished ∧
        (¬ LeaseOver item finished → StillHeld py status body item w.outbox finished) := by
  rw [delivers_iff_settles, settles_iff_benign (h.inHand hitem htoken hfinished)]
  refine and_congr_right fun _ => imp_congr_right fun hrunning => ?_
  constructor
  · rintro (⟨-, r, hr, token', htoken', hheld⟩ | ⟨r, hr, hid, houtcome⟩)
    · exact ⟨r, hr, hheld.1, .inl (hheld.2.2.1.trans htoken'.symm)⟩
    · exact ⟨r, hr, hid, .inr houtcome⟩
  · rintro ⟨r, hr, hid, hsame | houtcome⟩
    · exact .inl (h.leased hitem htoken hrunning hr hid hsame)
    · exact .inr ⟨r, hr, hid, houtcome⟩

end Record

namespace Sample

mutual

/-- A JSON value without lone surrogates. -/
def toPyJson : Json → PyJson
  | .null => .none
  | .bool b => .bool b
  | .int n => .int n
  | .float text => .float text
  | .str s => .str (.ofString s)
  | .arr items => .list (toPyItems items)
  | .obj members => .dict (toPyMembers members)

def toPyItems : List Json → List PyJson
  | [] => []
  | v :: l => toPyJson v :: toPyItems l

def toPyMembers : List (String × Json) → List (PyStr × PyJson)
  | [] => []
  | (key, v) :: l => (.ofString key, toPyJson v) :: toPyMembers l

end

/-- The shortest delays. -/
def library : DeliveryLibrary where
  loads chars :=
    match Json.loadsWith Json.lastValues (String.ofList chars) with
    | some v => .value (toPyJson v)
    | none => .jsonDecodeError
  uniform lower _ := lower
  uniform_mem _ _ h := ⟨le_rfl, h⟩

/-- The item that the claim of `claimedWorld` returned. -/
def claimedItem : OutboxItem :=
  (claimedRow .automatic "w" "t" march (march + 60 * secondMicros) (newRow envelope "pob_1" march)).item

theorem claimedItem_mem : claimedItem ∈ claimedWorld.items := by
  have h : claimedWorld.items = [claimedItem, (newRow envelope "pob_1" march).item] := rfl
  rw [h]
  exact List.mem_cons_self

theorem clock_claimedWorld : claimedWorld.clock = march := World.clock_after ..

/-- The members of a bound result whose disposition is a list. -/
def listMembers : List (String × Json) := [
  ("contract", .str "pip.event-delivery-result"),
  ("disposition", .arr []),
  ("event", .obj [("event_id", .str "e"), ("event_sha256", .str "h"), ("producer_id", .str "p")]),
  ("protocol_version", .str "1")]

def listBody : List UInt8 := encodeUtf8 (Json.obj listMembers).dumps.toList

def okStatus : HttpStatus := ⟨200, by decide⟩

theorem sortKeys_listMembers : (Json.obj listMembers).sortKeys = .obj listMembers := rfl

theorem length_listBody : listBody.length = 142 := by
  rw [listBody, Json.dumps, String.toList_ofList, sortKeys_listMembers]
  rfl

theorem loads_dumps {v : Json} (h : v.Plain) :
    library.loads v.dumps.toList = .value (toPyJson v.sortKeys) := by
  unfold library
  dsimp only
  rw [String.ofList_toList, Json.loadsWith_dumps Json.keeps_lastValues h]

/-- A bound object is a result. -/
theorem isResult_of_bound {members : List (String × Json)} (hplain : (Json.obj members).Plain)
    (hsorted : (Json.obj members).sortKeys = .obj members)
    (hbound : Bound (toPyMembers members) claimedItem) :
    IsResult library (encodeUtf8 (Json.obj members).dumps.toList) claimedItem (toPyMembers members) := by
  have hloads := loads_dumps hplain
  rw [hsorted] at hloads
  exact ⟨⟨_, decodeUtf8_encodeUtf8 _, hloads⟩, hbound⟩

theorem isResult_listBody : IsResult library listBody claimedItem (toPyMembers listMembers) := by
  refine isResult_of_bound ?_ sortKeys_listMembers ⟨rfl, rfl, _, rfl, ?_, rfl, rfl, rfl⟩
  · simp [listMembers, Json.Plain, Json.PlainValues, Json.PlainItems]
  · decide

/-- The members of a strict acceptance. -/
def acceptedMembers : List (String × Json) := [
  ("contract", .str "pip.event-delivery-result"),
  ("disposition", .str "accepted"),
  ("event", .obj [("event_id", .str "e"), ("event_sha256", .str "h"), ("producer_id", .str "p")]),
  ("protocol_version", .str "1"),
  ("receipt_id", .str "pipr_1")]

def acceptedBody : List UInt8 := encodeUtf8 (Json.obj acceptedMembers).dumps.toList

theorem isResult_acceptedBody :
    IsResult library acceptedBody claimedItem (toPyMembers acceptedMembers) := by
  refine isResult_of_bound ?_ rfl ⟨rfl, rfl, _, rfl, ?_, rfl, rfl, rfl⟩
  · simp [acceptedMembers, Json.Plain, Json.PlainValues]
  · decide

theorem accepts_acceptedBody : Accepts library acceptedBody claimedItem (.ofString "pipr_1") :=
  ⟨_, isResult_acceptedBody, .inl rfl, by decide, rfl, by decide⟩

theorem acknowledges_acceptedBody : Acknowledges library okStatus acceptedBody claimedItem :=
  ⟨by decide, _, accepts_acceptedBody⟩

theorem loads_ne_raised (chars : List Char) (e : Error) : library.loads chars ≠ .raised e := by
  unfold library
  dsimp only
  split
  · exact nofun
  · exact nofun

theorem benign_acceptedBody (finished : ℤ) :
    Benign library okStatus acceptedBody claimedItem finished where
  loads _ chars _ e := loads_ne_raised chars e
  disposition _ data hdata := by
    rw [isResult_acceptedBody.unique hdata]
    decide
  category _ data hdata hrejected := by
    rw [isResult_acceptedBody.unique hdata] at hrejected
    exact absurd hrejected (by decide)
  receipt _ receipt haccepts := by
    obtain ⟨data, hdata, hsays⟩ := haccepts
    obtain ⟨data', hdata', hsays'⟩ := accepts_acceptedBody
    rw [hdata.unique hdata'] at hsays'
    rw [hsays'.unique hsays]
    exact .inl rfl
  reason hclient := absurd hclient (by decide)
  time hnot := absurd acknowledges_acceptedBody hnot

/-- A completion within the lease. -/
def finished : ℤ := march + 30 * secondMicros

/-- Another worker has taken the claim back before the completion is recorded. -/
def recoveredWorld : World := claimedWorld.after .recover (march + 61 * secondMicros)

theorem reachable_recoveredWorld : Reachable recoveredWorld := by
  obtain ⟨clock, h⟩ := reachable_claimedWorld
  refine ⟨clock, h.tail (.run .recover _ ?_ ⟨fun _ h => (Option.not_mem_none _ h).elim,
    fun _ h => (Option.not_mem_none _ h).elim⟩)⟩
  rw [clock_claimedWorld]
  decide

theorem not_leaseOver_finished : ¬ LeaseOver claimedItem finished := by decide

theorem claimedItem_mem_recovered : claimedItem ∈ recoveredWorld.items := claimedItem_mem

/-- The recovered row waits for another worker. -/
theorem not_stillHeld_recovered :
    ¬ StillHeld library okStatus acceptedBody claimedItem recoveredWorld.outbox finished := by
  have hrows : ∀ r ∈ recoveredWorld.outbox.rows, r.state = .retryWait ∧ r.claimToken = none := by
    decide
  rintro ⟨r, hr, -, hsame | houtcome⟩
  · rw [(hrows r hr).2] at hsame
    cases hsame
  · have hstate := houtcome.acknowledged.mpr acknowledges_acceptedBody
    rw [(hrows r hr).1] at hstate
    cases hstate

end Sample

/-- A strict acceptance is recorded within the lease, unless another worker has taken the claim
back. -/
theorem delivers_acceptedBody :
    Delivers Sample.library Sample.okStatus Sample.acceptedBody Sample.claimedItem
        Sample.claimedWorld.outbox Sample.finished ∧
      ¬ Delivers Sample.library Sample.okStatus Sample.acceptedBody Sample.claimedItem
        Sample.recoveredWorld.outbox Sample.finished := by
  constructor
  · rw [delivers_iff Sample.reachable_claimedWorld Sample.claimedItem_mem rfl (by decide)]
    refine ⟨Sample.benign_acceptedBody _, fun _ => ?_⟩
    exact ⟨_, List.mem_cons_self, rfl, .inl rfl⟩
  · intro h
    have hheld := ((delivers_iff Sample.reachable_recoveredWorld Sample.claimedItem_mem_recovered rfl
      (by decide)).mp h).2
    exact Sample.not_stillHeld_recovered (hheld Sample.not_leaseOver_finished)

/-- A list as the disposition makes Python raise, and the item stays leased. -/
theorem not_delivers_listBody :
    Reachable Sample.claimedWorld ∧ Sample.claimedItem ∈ Sample.claimedWorld.items ∧
    Sample.listBody.length ≤ 65536 ∧
    deliverClaimed Sample.library Sample.claimedWorld.outbox Sample.claimedItem Sample.okStatus
      Sample.listBody Sample.march = .error (.raised (.typeError "unhashable type: 'list'")) ∧
    ¬ Delivers Sample.library Sample.okStatus Sample.listBody Sample.claimedItem
      Sample.claimedWorld.outbox Sample.march := by
  have hread : readAnswer Sample.library Sample.okStatus Sample.listBody Sample.claimedItem =
      .error (.raised (.typeError "unhashable type: 'list'")) := by
    rw [readAnswer, raiseIf_of_not _ (by decide), ok_bind, parse_of_isResult Sample.isResult_listBody]
    rfl
  have hdeliver : deliverClaimed Sample.library Sample.claimedWorld.outbox Sample.claimedItem
      Sample.okStatus Sample.listBody Sample.march =
        .error (.raised (.typeError "unhashable type: 'list'")) := by
    rw [deliverClaimed, hread]
    rfl
  refine ⟨Sample.reachable_claimedWorld, Sample.claimedItem_mem, ?_, hdeliver, ?_⟩
  · rw [Sample.length_listBody]
    decide
  · rintro ⟨db', h, -⟩
    cases hdeliver.symm.trans h

end WeatherBot.Pip
