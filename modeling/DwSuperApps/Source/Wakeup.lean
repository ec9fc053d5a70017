import Mathlib.Data.List.Range
import Mathlib.Logic.Function.Basic
import DwSuperApps.Lib.Programs
import DwSuperApps.Source.Envelope

/-!
# Wakeup outbox

`taskcontroller/controlplane/wakeup_outbox.py`: the two tables and bounded
delivery. Every transaction of the outbox is one operation; so is a call of the
clock or of a delivery port, whose answers are given from outside. The attempts of
an intent are numbered from one without gaps, so the rows of an intent stand in the
order of their numbers.

Left out: the creation of intents, the sleep between attempts, and the readbacks of
rows inside the transaction that wrote them. A delay is in microseconds; adding it
to an ISO timestamp is a parameter.
-/
namespace DwSuperApps.Source.Wakeup

open DwSuperApps.Lib DwSuperApps.Lib.Checked
open DwSuperApps.Lib.Programs (Prog)
open DwSuperApps.Source.Envelope

/-! ## Vocabulary -/

inductive IntentState where
  | pending | inFlight | delivered | failed | blocked
  deriving DecidableEq

inductive AttemptState where
  | started | delivered | failed | blocked
  deriving DecidableEq

/-- `updated_state` of `record_delivery_attempt`. -/
def AttemptState.intentState : AttemptState → IntentState
  | .started => .inFlight
  | .delivered => .delivered
  | .failed => .failed
  | .blocked => .blocked

/-- DELIVERED and BLOCKED end a delivery run. -/
def IntentState.terminal (s : IntentState) : Bool := s = .delivered ∨ s = .blocked

inductive DeliveryStatus where
  | delivered | deliveredFallback | blocked
  deriving DecidableEq

def wakeupDeliveryBlocked : String := "WAKEUP_DELIVERY_BLOCKED"
def wakeupFallbackDelivered : String := "WAKEUP_FALLBACK_DELIVERED"
def wakeupTransportUnavailable : String := "TRANSPORT_UNAVAILABLE"
def wakeupTransportRejected : String := "TRANSPORT_REJECTED"

/-- `_required_text`. -/
def requiredText (value name : String) : Except Raised Unit :=
  ensure (strip value ≠ "") (mailboxError .schemaInvalid s!"{name} must be a non-empty string")

/-- `_optional_text`. -/
def optionalText (value : Option String) (name : String) : Except Raised Unit :=
  match value with
  | none => .ok ()
  | some text => requiredText text name

/-! ## Retry policy -/

def maxWakeupAttempts : Nat := 16
/-- An hour. -/
def maxWakeupBackoff : Nat := 3600000000

structure WakeupRetryPolicy where
  maxAttempts : Nat
  backoff : List Nat
  approvedFallbackCapabilities : List String
  bounded : 1 ≤ maxAttempts ∧ maxAttempts ≤ maxWakeupAttempts
  scheduled : backoff.length = maxAttempts - 1 ∧ ∀ delay ∈ backoff, delay ≤ maxWakeupBackoff
  named : ∀ capability ∈ approvedFallbackCapabilities, strip capability ≠ ""

def WakeupRetryPolicy.backoffFor (p : WakeupRetryPolicy) (attemptNumber : Nat) : Except Raised Nat :=
  match attemptNumber with
  | 0 => .error outside
  | n + 1 => match p.backoff[n]? with
    | none => .error outside
    | some delay => .ok delay
where
  outside : Raised := mailboxError .invalidSequence
    "backoff attempt_number is outside the configured retry schedule"

/-! ## Rows -/

structure WakeupIntent where
  intentId : String
  logicalKey : String
  runId : String
  nodeId : String
  mailboxRef : String
  mailboxSeq : Nat
  eventId : String
  eventDigest : String
  envelopeDigest : String
  messageId : String
  idempotencyKey : String
  recipient : String
  state : IntentState
  attemptCount : Nat
  nextAttemptAt : Option String
  fallback : Option String
  claimTtlSeconds : Option Nat
  createdAt : String
  updatedAt : String
  deriving DecidableEq

structure WakeupDeliveryAttempt where
  attemptId : String
  intentId : String
  attemptNumber : Nat
  state : AttemptState
  attemptedAt : String
  retryAt : Option String := none
  errorCode : Option String := none
  errorDetail : Option String := none
  deriving DecidableEq

/-- `__post_init__`. -/
def WakeupDeliveryAttempt.check (a : WakeupDeliveryAttempt) : Except Raised Unit := do
  requiredText a.attemptId "WakeupDeliveryAttempt.attempt_id"
  requiredText a.intentId "WakeupDeliveryAttempt.intent_id"
  ensure (0 < a.attemptNumber) (mailboxError .invalidSequence
    "WakeupDeliveryAttempt.attempt_number must be an integer > 0")
  requiredText a.attemptedAt "WakeupDeliveryAttempt.attempted_at"
  optionalText a.retryAt "retry_at"
  optionalText a.errorCode "WakeupDeliveryAttempt.error_code"
  optionalText a.errorDetail "WakeupDeliveryAttempt.error_detail"

structure WakeupDeliveryResult where
  intentId : String
  status : DeliveryStatus
  attemptCount : Nat
  fallbackUsed : Option String := none
  nextAttemptAt : Option String := none
  reasonCode : Option String := none
  deriving DecidableEq

/-- The rows of an intent. -/
def rowsOf (attempts : List WakeupDeliveryAttempt) (intentId : String) : List WakeupDeliveryAttempt :=
  attempts.filter (·.intentId = intentId)

/-- The attempts of every intent are numbered 1, 2, and so on. -/
def Contiguous (attempts : List WakeupDeliveryAttempt) : Prop :=
  ∀ intentId, (rowsOf attempts intentId).map (·.attemptNumber) =
    List.range' 1 (rowsOf attempts intentId).length

theorem rowsOf_append (attempts : List WakeupDeliveryAttempt) (a : WakeupDeliveryAttempt)
    (intentId : String) : rowsOf (attempts ++ [a]) intentId =
      if a.intentId = intentId then rowsOf attempts intentId ++ [a] else rowsOf attempts intentId := by
  unfold rowsOf
  rw [List.filter_append]
  by_cases same : a.intentId = intentId
  · simp [same]
  · simp [same]

/-- `COALESCE(MAX(attempt_number), 0)`. -/
def maxNumber (attempts : List WakeupDeliveryAttempt) (intentId : String) : Nat :=
  ((rowsOf attempts intentId).map (·.attemptNumber)).foldl max 0

theorem foldl_max_range' (start count : Nat) :
    (List.range' (start + 1) count).foldl max start = start + count := by
  induction count generalizing start with
  | zero => rfl
  | succ count ih =>
    rw [List.range'_succ, List.foldl_cons, Nat.max_eq_right (Nat.le_succ start), ih]
    omega

/-- The greatest number of an intent is the number of its attempts. -/
theorem Contiguous.maxNumber_eq {attempts : List WakeupDeliveryAttempt}
    (contiguous : Contiguous attempts) (intentId : String) :
    maxNumber attempts intentId = (rowsOf attempts intentId).length := by
  unfold maxNumber
  rw [contiguous intentId]
  simpa using foldl_max_range' 0 (rowsOf attempts intentId).length

theorem Contiguous.append {attempts : List WakeupDeliveryAttempt} (contiguous : Contiguous attempts)
    {a : WakeupDeliveryAttempt} (next : a.attemptNumber = maxNumber attempts a.intentId + 1) :
    Contiguous (attempts ++ [a]) := by
  intro intentId
  rw [rowsOf_append]
  split
  · next same =>
    subst same
    rw [contiguous.maxNumber_eq] at next
    rw [List.map_append, contiguous a.intentId, List.length_append, List.map_singleton,
      List.length_singleton, List.range'_concat, next, Nat.one_mul, Nat.add_comm 1]
  · exact contiguous intentId

/-! ## The store -/

/-- The tables `wakeup_intents` and `wakeup_delivery_attempts`. -/
structure WakeupOutbox where
  intents : String → Option WakeupIntent := fun _ => none
  attempts : List WakeupDeliveryAttempt := []
  keyed : ∀ intentId intent, intents intentId = some intent → intent.intentId = intentId
  contiguous : Contiguous attempts

namespace WakeupOutbox

def getIntent (o : WakeupOutbox) (intentId : String) : Except Raised WakeupIntent := do
  requiredText intentId "WakeupOutbox.intent_id"
  match o.intents intentId with
  | none => .error ⟨.validation, "", s!"WakeupIntent not found: {intentId}"⟩
  | some intent => return intent

def listAttempts (o : WakeupOutbox) (intentId : String) :
    Except Raised (List WakeupDeliveryAttempt) := do
  requiredText intentId "WakeupOutbox.intent_id"
  return rowsOf o.attempts intentId

/-- Change the row of an intent, without its identifier. -/
def updateIntent (o : WakeupOutbox) (intent : WakeupIntent) : WakeupOutbox :=
  { o with
    intents := Function.update o.intents intent.intentId (some intent)
    keyed := by
      intro intentId held found
      by_cases same : intentId = intent.intentId
      · subst same
        rw [Function.update_self, Option.some.injEq] at found
        rw [found]
      · rw [Function.update_of_ne same] at found
        exact o.keyed intentId held found }

/-- The checks of `record_delivery_attempt` on the two tables; `none` is a new row. -/
def attemptAdmission (o : WakeupOutbox) (candidate : WakeupDeliveryAttempt) :
    Except Raised (WakeupIntent × Option WakeupDeliveryAttempt) := do
  requiredText candidate.intentId "WakeupDeliveryAttempt.intent_id"
  candidate.check
  match o.intents candidate.intentId with
  | none => .error (mailboxError .contractMismatch "delivery attempt references no WakeupIntent")
  | some intent =>
    match o.attempts.find? (·.attemptId = candidate.attemptId) with
    | some existing =>
      ensure (existing = candidate) (mailboxError .digestMismatch
        "delivery attempt ID is bound to conflicting evidence")
      return (intent, some existing)
    | none =>
      ensure ((rowsOf o.attempts candidate.intentId).all (·.attemptNumber ≠ candidate.attemptNumber))
        (mailboxError .invalidSequence
          "delivery attempt number is already occupied by another attempt")
      return (intent, none)

def recordDeliveryAttempt (o : WakeupOutbox) (candidate : WakeupDeliveryAttempt) :
    Except Raised WakeupDeliveryAttempt × WakeupOutbox :=
  match o.attemptAdmission candidate with
  | .error e => (.error e, o)
  | .ok (_, some existing) => (.ok existing, o)
  | .ok (intent, none) =>
    if next : candidate.attemptNumber = maxNumber o.attempts candidate.intentId + 1 then
      let appended : WakeupOutbox := { o with
        attempts := o.attempts ++ [candidate]
        contiguous := o.contiguous.append next }
      (.ok candidate, appended.updateIntent { intent with
        state := candidate.state.intentState
        attemptCount := candidate.attemptNumber
        nextAttemptAt := candidate.retryAt
        updatedAt := candidate.attemptedAt })
    else (.error (mailboxError .invalidSequence
      "delivery attempts must append in contiguous order"), o)

/-- `prepare_retry`: a delivered intent is left. -/
def prepareRetry (o : WakeupOutbox) (intentId retryAt : String) :
    Except Raised WakeupIntent × WakeupOutbox :=
  match requiredText intentId "WakeupOutbox.intent_id", requiredText retryAt "WakeupOutbox.retry_at",
      o.intents intentId with
  | .error e, _, _ => (.error e, o)
  | _, .error e, _ => (.error e, o)
  | _, _, none => (.error ⟨.validation, "", s!"WakeupIntent not found: {intentId}"⟩, o)
  | .ok _, .ok _, some current =>
    if current.state = .delivered then (.ok current, o)
    else
      let stored := { current with
        state := .pending, nextAttemptAt := some retryAt, updatedAt := retryAt }
      (.ok stored, o.updateIntent stored)

/-- `_mark_intent_blocked`. -/
def markIntentBlocked (o : WakeupOutbox) (intentId updatedAt : String) :
    Except Raised WakeupIntent × WakeupOutbox :=
  match requiredText intentId "WakeupOutbox.intent_id",
      requiredText updatedAt "WakeupOutbox.updated_at", o.getIntent intentId with
  | .error e, _, _ => (.error e, o)
  | _, .error e, _ => (.error e, o)
  | _, _, .error e => (.error e, o)
  | .ok _, .ok _, .ok current =>
    if current.state.terminal then (.ok current, o)
    else
      let stored := { current with
        state := .blocked, nextAttemptAt := none, updatedAt := updatedAt }
      (.ok stored, o.updateIntent stored)

end WakeupOutbox

/-! ## What the workers share -/

/-- What a delivery callback did with the pointer. -/
inductive PortAnswer where
  | accepted | rejected
  | raised (exceptionType : String)
  deriving DecidableEq

/-- `_invoke_delivery_callback`: accepted, error code and detail. -/
def PortAnswer.outcome : PortAnswer → Bool × Option String × Option String
  | .accepted => (true, none, none)
  | .rejected => (false, some wakeupTransportRejected, some "delivery callback rejected the pointer")
  | .raised exceptionType => (false, some wakeupTransportUnavailable, some exceptionType)

/-- A call of a delivery callback; `capability` names an approved fallback. -/
structure Invocation where
  capability : Option String
  intent : WakeupIntent
  attemptNumber : Nat
  deriving DecidableEq

/-- The outbox, the answers of clock and ports in the order they are asked for, and
the port calls made so far. -/
structure World where
  outbox : WakeupOutbox
  clock : Nat → Except Raised String
  ports : Nat → PortAnswer
  ticks : Nat := 0
  invocations : List Invocation := []

/-- `_retry_timestamp`: an ISO timestamp and a delay. -/
class RetryClock where
  retryTimestamp : String → Nat → String

abbrev Delivery (α : Type) : Type := Prog World Raised α

def getIntent (intentId : String) : Delivery WakeupIntent :=
  .observe fun w => w.outbox.getIntent intentId

def listAttempts (intentId : String) : Delivery (List WakeupDeliveryAttempt) :=
  .observe fun w => w.outbox.listAttempts intentId

def recordDeliveryAttempt (candidate : WakeupDeliveryAttempt) : Delivery WakeupDeliveryAttempt :=
  .operation fun w =>
    ((w.outbox.recordDeliveryAttempt candidate).1,
      { w with outbox := (w.outbox.recordDeliveryAttempt candidate).2 })

def markIntentBlocked (intentId updatedAt : String) : Delivery WakeupIntent :=
  .operation fun w =>
    ((w.outbox.markIntentBlocked intentId updatedAt).1,
      { w with outbox := (w.outbox.markIntentBlocked intentId updatedAt).2 })

/-- `_clock_timestamp`. -/
def clockTimestamp : Delivery String :=
  .operation fun w => (w.clock w.ticks, { w with ticks := w.ticks + 1 })

def invokeDeliveryCallback (call : Invocation) : Delivery PortAnswer :=
  .operation fun w =>
    (.ok (w.ports w.invocations.length), { w with invocations := w.invocations ++ [call] })

/-! ## Delivery -/

/-- The arguments of a worker: its policy and the capabilities with a callback. -/
structure Worker where
  policy : WakeupRetryPolicy
  fallbackCallbacks : List String

/-- `_fallback_callback`, by the capability it is registered under. -/
def fallbackCallback (intent : WakeupIntent) (worker : Worker) : Option String :=
  match intent.fallback with
  | none => none
  | some capability =>
    if capability ∈ worker.policy.approvedFallbackCapabilities ∧
        capability ∈ worker.fallbackCallbacks then some capability
    else none

def attemptIdOf (intentId : String) (attemptNumber : Nat) : String :=
  "wakeup-delivery:" ++ intentId ++ ":" ++ toString attemptNumber

/-- `_delivery_result`. -/
def deliveryResult (intent : WakeupIntent) : Delivery WakeupDeliveryResult :=
  if intent.state.terminal = false then
    .done (.error (mailboxError .contractMismatch
      "delivery result requested before a terminal outbox state"))
  else do
    let attempts ← listAttempts intent.intentId
    let fallbackUsed :=
      if attempts.getLast?.any (·.errorCode = some wakeupFallbackDelivered) then intent.fallback
      else none
    if intent.state = .delivered then
      return { intentId := intent.intentId,
               status := if fallbackUsed = none then .delivered else .deliveredFallback,
               attemptCount := intent.attemptCount, fallbackUsed := fallbackUsed,
               nextAttemptAt := intent.nextAttemptAt }
    else
      return { intentId := intent.intentId, status := .blocked,
               attemptCount := intent.attemptCount, nextAttemptAt := intent.nextAttemptAt,
               reasonCode := some wakeupDeliveryBlocked }

/-- `_deliver_fallback`. -/
def deliverFallback (intent : WakeupIntent) (attemptNumber : Nat) (capability : String) :
    Delivery WakeupDeliveryResult := do
  let attemptedAt ← clockTimestamp
  let answer ← invokeDeliveryCallback ⟨some capability, intent, attemptNumber⟩
  let (accepted, errorCode, _) := answer.outcome
  let attemptId := attemptIdOf intent.intentId attemptNumber
  let _ ← recordDeliveryAttempt (
    if accepted then
      { attemptId, intentId := intent.intentId, attemptNumber, state := .delivered, attemptedAt,
        errorCode := some wakeupFallbackDelivered }
    else
      { attemptId, intentId := intent.intentId, attemptNumber, state := .blocked, attemptedAt,
        errorCode := some wakeupDeliveryBlocked,
        errorDetail := some ("approved fallback delivery failed; last_error=" ++
          errorCode.getD "None") })
  deliveryResult (← getIntent intent.intentId)

/-- The intent is read again and handed to the fallback. -/
def resumeFallback (intentId : String) (attemptNumber : Nat) (capability : String) :
    Delivery WakeupDeliveryResult := do
  deliverFallback (← getIntent intentId) attemptNumber capability

/-- The retry budget is used up and no fallback is approved. -/
def giveUp (intentId : String) : Delivery WakeupDeliveryResult := do
  let blockedAt ← clockTimestamp
  deliveryResult (← markIntentBlocked intentId blockedAt)

variable [RetryClock]

/-- The loop of `deliver_with_retry`, with the number of attempts that are left. -/
def attemptLoop (intentId : String) (worker : Worker) :
    Nat → Nat → Delivery WakeupDeliveryResult
  | 0, _ => giveUp intentId
  | remaining + 1, attemptNumber => do
    let current ← getIntent intentId
    if current.state.terminal then deliveryResult current
    else
      let attemptedAt ← clockTimestamp
      let answer ← invokeDeliveryCallback ⟨none, current, attemptNumber⟩
      let (accepted, errorCode, errorDetail) := answer.outcome
      let attempt : WakeupDeliveryAttempt :=
        { attemptId := attemptIdOf intentId attemptNumber, intentId, attemptNumber,
          state := .failed, attemptedAt, errorCode, errorDetail }
      if accepted then
        let _ ← recordDeliveryAttempt
          { attempt with state := .delivered, errorCode := none, errorDetail := none }
        deliveryResult (← getIntent intentId)
      else if attemptNumber < worker.policy.maxAttempts then
        let delay ← worker.policy.backoffFor attemptNumber
        let _ ← recordDeliveryAttempt
          { attempt with retryAt := some (RetryClock.retryTimestamp attemptedAt delay) }
        attemptLoop intentId worker remaining (attemptNumber + 1)
      else
        match fallbackCallback current worker with
        | some capability =>
          let _ ← recordDeliveryAttempt attempt
          resumeFallback intentId (attemptNumber + 1) capability
        | none =>
          let _ ← recordDeliveryAttempt
            { attempt with
              state := .blocked
              errorCode := some wakeupDeliveryBlocked
              errorDetail := some ("primary delivery retry budget exhausted; last_error=" ++
                errorCode.getD "None") }
          deliveryResult (← getIntent intentId)

/-- The attempts are listed and the next number is chosen. -/
def chooseAttempt (intentId : String) (worker : Worker) (current : WakeupIntent) :
    Delivery WakeupDeliveryResult := do
  let attempts ← listAttempts intentId
  let attemptNumber := attempts.length + 1
  if worker.policy.maxAttempts < attemptNumber then
    match fallbackCallback current worker with
    | some capability => deliverFallback current attemptNumber capability
    | none => giveUp intentId
  else attemptLoop intentId worker (worker.policy.maxAttempts + 1 - attemptNumber) attemptNumber

def deliverWithRetry (intentId : String) (worker : Worker) : Delivery WakeupDeliveryResult := do
  requiredText intentId "WakeupOutbox.intent_id"
  let current ← getIntent intentId
  if current.state.terminal then deliveryResult current
  else chooseAttempt intentId worker current

end DwSuperApps.Source.Wakeup
