import DwSuperApps.Source.Dispatch
import DwSuperApps.Source.Wakeup

/-!
# Wakeup intents and their projection

`WakeupOutbox.create_intent` of `taskcontroller/controlplane/wakeup_outbox.py` and
`project_wakeup_delivery` of `taskcontroller/controlplane/wakeup_dispatch.py`. The id
of an intent is a function of its logical key, so the row under a key is the row
under its id. Left out: the human projection of an emission, and the readback of a
row inside the transaction that wrote it.
-/
namespace DwSuperApps.Source.WakeupIntents

open DwSuperApps.Lib DwSuperApps.Lib.Checked
open DwSuperApps.Source.Envelope DwSuperApps.Source.Wakeup
open DwSuperApps.Source.Dispatch (DispatchCommitted digestText)

/-! ## Emission evidence -/

structure WakeupSignal where
  runId : String
  recipient : String
  mailboxRef : String
  seq : Nat
  deriving DecidableEq

/-- `WakeupDecision`: an EMITTED one carries its signal, a DUPLICATE one has none. -/
structure WakeupDecision where
  dispatchId : String
  mailboxRef : String
  mailboxSeq : Nat
  envelopeDigest : String
  eventDigest : String
  signal : Option WakeupSignal
  deriving DecidableEq

/-- `_validate_committed_pointer`. -/
def validateCommittedPointer (committed : DispatchCommitted) (decision : WakeupDecision)
    (recipient : String) : Except Raised DispatchCommitted := do
  requiredText recipient "WakeupIntent.recipient"
  ensure (committed.readbackVerified = true) (mailboxError .digestMismatch
    "WakeupIntent requires a readback-verified DispatchCommitted")
  ensure (decision.dispatchId = committed.committedId ∧
      decision.mailboxRef = committed.mailboxRef ∧ decision.mailboxSeq = committed.mailboxSeq ∧
      decision.envelopeDigest = committed.envelopeDigest ∧
      decision.eventDigest = committed.eventDigest)
    (mailboxError .contractMismatch "pointer wakeup evidence differs from committed mailbox event")
  ensure (∀ signal ∈ decision.signal, signal.runId = committed.identity.runId ∧
      signal.recipient = recipient ∧ signal.mailboxRef = committed.mailboxRef ∧
      signal.seq = committed.mailboxSeq + 1)
    (mailboxError .contractMismatch "pointer wakeup signal differs from committed mailbox event")
  return committed

/-! ## Identity of an intent -/

/-- `_intent_id`. -/
def intentIdOf (logicalKey : String) : String :=
  "wakeup-intent:" ++ String.ofList (logicalKey.toList.drop 7)

section Creation
variable [Sha256]

/-- `_logical_key`. -/
def logicalKey (runId nodeId mailboxRef : String) (mailboxSeq : Nat)
    (idempotencyKey recipient : String) : String :=
  (canonicalDigest (.obj
    [("run_id", .str runId), ("node_id", .str nodeId), ("mailbox_ref", .str mailboxRef),
      ("mailbox_seq", .int mailboxSeq), ("idempotency_key", .str idempotencyKey),
      ("recipient", .str recipient)])).value

/-- `WakeupIntent.__post_init__`. -/
def checkIntent (i : WakeupIntent) : Except Raised Unit := do
  checkAll (fun (value, name) => requiredText value s!"WakeupIntent.{name}")
    [(i.intentId, "intent_id"), (i.runId, "run_id"), (i.nodeId, "node_id"),
      (i.mailboxRef, "mailbox_ref"), (i.eventId, "event_id"), (i.messageId, "message_id"),
      (i.idempotencyKey, "idempotency_key"), (i.createdAt, "created_at"),
      (i.updatedAt, "updated_at")]
  digestText i.logicalKey "WakeupIntent.logical_key"
  digestText i.eventDigest "WakeupIntent.event_digest"
  digestText i.envelopeDigest "WakeupIntent.envelope_digest"
  ensure (i.intentId = intentIdOf i.logicalKey) (mailboxError .contractMismatch
    "WakeupIntent ID is not bound to logical key")
  ensure (i.logicalKey =
      logicalKey i.runId i.nodeId i.mailboxRef i.mailboxSeq i.idempotencyKey i.recipient)
    (mailboxError .contractMismatch "WakeupIntent logical key binding differs")
  requiredText i.recipient "WakeupIntent.recipient"
  optionalText i.nextAttemptAt "retry_at"
  optionalText i.fallback "WakeupIntent.fallback"
  ensure (i.claimTtlSeconds ≠ some 0) (mailboxError .invalidSequence
    "WakeupIntent.claim_ttl_seconds must be an integer > 0")

/-! ## Creation -/

/-- Keyword arguments of `create_intent`. -/
structure IntentOptions where
  recipient : String
  createdAt : String
  retryAt : Option String := none
  fallback : Option String := none
  claimTtlSeconds : Option Nat := none
  deriving DecidableEq

/-- The intent `create_intent` wants to store. -/
def candidateIntent (committed : DispatchCommitted) (options : IntentOptions) : WakeupIntent :=
  let key := logicalKey committed.identity.runId committed.identity.nodeId committed.mailboxRef
    committed.mailboxSeq committed.identity.idempotencyKey options.recipient
  { intentId := intentIdOf key
    logicalKey := key
    runId := committed.identity.runId
    nodeId := committed.identity.nodeId
    mailboxRef := committed.mailboxRef
    mailboxSeq := committed.mailboxSeq
    eventId := committed.eventId
    eventDigest := committed.eventDigest
    envelopeDigest := committed.envelopeDigest
    messageId := committed.messageId
    idempotencyKey := committed.identity.idempotencyKey
    recipient := options.recipient
    state := .pending
    attemptCount := 0
    nextAttemptAt := options.retryAt
    fallback := options.fallback
    claimTtlSeconds := options.claimTtlSeconds
    createdAt := options.createdAt
    updatedAt := options.createdAt }

/-- The candidate after the checks on the evidence and the arguments. -/
def admittedIntent (committed : DispatchCommitted) (decision : WakeupDecision)
    (options : IntentOptions) : Except Raised WakeupIntent := do
  let committed ← validateCommittedPointer committed decision options.recipient
  requiredText options.recipient "WakeupIntent.recipient"
  requiredText options.createdAt "WakeupIntent.created_at"
  optionalText options.retryAt "retry_at"
  optionalText options.fallback "WakeupIntent.fallback"
  ensure (options.claimTtlSeconds ≠ some 0) (mailboxError .invalidSequence
    "WakeupIntent.claim_ttl_seconds must be an integer > 0")
  checkIntent (candidateIntent committed options)
  return candidateIntent committed options

end Creation

/-- The fields `_assert_same_intent_binding` compares. -/
def SameBinding (a b : WakeupIntent) : Prop :=
  a.intentId = b.intentId ∧ a.logicalKey = b.logicalKey ∧ a.runId = b.runId ∧
    a.nodeId = b.nodeId ∧ a.mailboxRef = b.mailboxRef ∧ a.mailboxSeq = b.mailboxSeq ∧
    a.eventId = b.eventId ∧ a.eventDigest = b.eventDigest ∧
    a.envelopeDigest = b.envelopeDigest ∧ a.messageId = b.messageId ∧
    a.idempotencyKey = b.idempotencyKey ∧ a.recipient = b.recipient ∧
    a.fallback = b.fallback ∧ a.claimTtlSeconds = b.claimTtlSeconds

instance (a b : WakeupIntent) : Decidable (SameBinding a b) := by
  unfold SameBinding; infer_instance

/-- `create_intent`: an existing intent of the same binding is returned as it is. -/
def createIntent [Sha256] (o : WakeupOutbox) (committed : DispatchCommitted)
    (decision : WakeupDecision) (options : IntentOptions) :
    Except Raised WakeupIntent × WakeupOutbox :=
  match admittedIntent committed decision options with
  | .error e => (.error e, o)
  | .ok candidate =>
    match o.intents candidate.intentId with
    | some existing =>
      if SameBinding existing candidate then (.ok existing, o)
      else (.error (mailboxError .digestMismatch
        "duplicate WakeupIntent key is bound to conflicting evidence"), o)
    | none => (.ok candidate, o.updateIntent candidate)

/-! ## Projection -/

inductive ProjectionStatus where
  | pending | retrying | delivered | blocked
  deriving DecidableEq

inductive ExecutorStatus where
  | notTriggered | retrying | deliveredClaimUnconfirmed | blocked
  deriving DecidableEq

structure WakeupDeliveryProjection where
  intentId : String
  runId : String
  nodeId : String
  mailboxRef : String
  mailboxSeq : Nat
  eventId : String
  eventDigest : String
  envelopeDigest : String
  idempotencyKey : String
  recipient : String
  deliveryStatus : ProjectionStatus
  executorStatus : ExecutorStatus
  attemptCount : Nat
  nextAttemptAt : Option String
  detail : String
  deriving DecidableEq

def validationError (message : String) : Raised := ⟨.validation, "", message⟩

/-- `_required_text` of `wakeup_dispatch.py`. -/
def projectionText (value name : String) : Except Raised Unit :=
  ensure (strip value ≠ "") (mailboxError .schemaInvalid s!"wakeup_projection.{name} must be non-empty")

/-- `WakeupDeliveryProjection.__post_init__`. -/
def checkProjection (p : WakeupDeliveryProjection) : Except Raised WakeupDeliveryProjection := do
  checkAll (fun (value, name) => projectionText value name)
    [(p.intentId, "intent_id"), (p.runId, "run_id"), (p.nodeId, "node_id"),
      (p.mailboxRef, "mailbox_ref"), (p.eventId, "event_id"), (p.eventDigest, "event_digest"),
      (p.envelopeDigest, "envelope_digest"), (p.idempotencyKey, "idempotency_key"),
      (p.recipient, "recipient"), (p.detail, "detail")]
  checkAll (projectionText · "next_attempt_at") p.nextAttemptAt.toList
  return p

/-- Status of the delivery and of the executor, with the detail, from the state of
the intent and of its last attempt. -/
def projectionStatus (intent : WakeupIntent) (lastAttempt : Option WakeupDeliveryAttempt) :
    Except Raised (ProjectionStatus × ExecutorStatus × String) :=
  let last := lastAttempt.map (·.state)
  if intent.state = .pending ∧ last = none then
    .ok (.pending, .notTriggered,
      "canonical request persisted in GitHub mailbox; Executor not yet triggered; " ++
        "wake-up delivery is pending.")
  else if intent.state = .delivered then
    if last ≠ some .delivered then
      .error (validationError "delivered wakeup projection lacks a delivered attempt")
    else .ok (.delivered, .deliveredClaimUnconfirmed,
      "canonical request persisted in GitHub mailbox; pointer wake-up delivered; " ++
        "Executor claim is not observed by this projection.")
  else if intent.state = .blocked then
    if last ≠ some .blocked then
      .error (validationError "blocked wakeup projection lacks a blocked attempt")
    else .ok (.blocked, .blocked,
      "canonical request persisted in GitHub mailbox; wake-up delivery is blocked with " ++
        "WAKEUP_DELIVERY_BLOCKED; Executor trigger is not confirmed.")
  else if last = some .started ∨ last = some .failed then
    .ok (.retrying, .retrying,
      "canonical request persisted in GitHub mailbox; Executor wake-up delivery is retrying; " ++
        "Executor claim is not observed.")
  else .error (validationError "wakeup projection state and attempt evidence are inconsistent")

/-- `project_wakeup_delivery`. -/
def projectWakeupDelivery (intent : WakeupIntent) (attempts : List WakeupDeliveryAttempt) :
    Except Raised WakeupDeliveryProjection := do
  checkAll (fun (attempt, expectedNumber) => do
      ensure (attempt.intentId = intent.intentId)
        (validationError "wakeup projection attempt is not bound to the intent")
      ensure (attempt.attemptNumber = expectedNumber)
        (validationError "wakeup projection attempts must be contiguous"))
    (attempts.zipIdx 1)
  ensure (intent.attemptCount = attempts.length)
    (validationError "wakeup projection attempt count differs from the intent")
  let (deliveryStatus, executorStatus, detail) ← projectionStatus intent attempts.getLast?
  checkProjection
    { intentId := intent.intentId
      runId := intent.runId
      nodeId := intent.nodeId
      mailboxRef := intent.mailboxRef
      mailboxSeq := intent.mailboxSeq
      eventId := intent.eventId
      eventDigest := intent.eventDigest
      envelopeDigest := intent.envelopeDigest
      idempotencyKey := intent.idempotencyKey
      recipient := intent.recipient
      deliveryStatus
      executorStatus
      attemptCount := intent.attemptCount
      nextAttemptAt := intent.nextAttemptAt
      detail }

end DwSuperApps.Source.WakeupIntents
