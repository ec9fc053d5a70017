import DwSuperApps.Source.Dispatch

/-!
# Executor entrypoint

The mailbox/v2 bootstrap of `taskcontroller/interaction/executor_entrypoint.py`, the
pointer of `taskcontroller/interaction/wakeup.py` and the gate that issues it,
`taskcontroller/interaction/wakeup_gate.py`.

Left out: bootstrap receipts, the v1 entrypoint and every `to_dict`. The projection a
bootstrap may be given is dropped unread.
-/
namespace DwSuperApps.Source.ExecutorEntrypoint

open DwSuperApps.Lib DwSuperApps.Lib.Checked
open DwSuperApps.Source.Envelope DwSuperApps.Source.Mailbox DwSuperApps.Source.Dispatch

/-- `TaskControllerValidationError(message)`. -/
def validationError (message : String) : Raised := ⟨.validation, "", message⟩

/-! ## Wakeup pointers -/

structure WakeupSignal where
  runId : String
  sender : String
  recipient : String
  mailboxRef : String
  seq : Int
  updatedAt : String
  deriving DecidableEq

/-- `_required_text`. -/
def requiredText (value name : String) : Except Raised Unit :=
  ensure (strip value ≠ "") (validationError s!"wakeup_signal.{name} must be non-empty")

/-- `__post_init__`. -/
def WakeupSignal.check (s : WakeupSignal) : Except Raised Unit := do
  requiredText s.runId "run_id"
  requiredText s.sender "sender"
  requiredText s.recipient "recipient"
  requiredText s.mailboxRef "mailbox_ref"
  requiredText s.updatedAt "updated_at"
  ensure (0 < s.seq) (validationError "wakeup_signal.seq must be int > 0")

inductive WakeupStatus where
  | emitted | duplicate
  deriving DecidableEq

/-- The status of a decision says whether it carries a signal. -/
structure WakeupDecision where
  dispatchId : String
  mailboxRef : String
  mailboxSeq : Nat
  envelopeDigest : String
  eventDigest : String
  signal : Option WakeupSignal
  deriving DecidableEq

namespace WakeupDecision

def status (d : WakeupDecision) : WakeupStatus :=
  if d.signal.isSome then .emitted else .duplicate

/-- `__post_init__`. -/
def check (d : WakeupDecision) : Except Raised Unit := do
  ensure (d.dispatchId ≠ "") (validationError "wakeup decision dispatch_id must be non-empty")
  ensure (d.mailboxRef ≠ "") (validationError "wakeup decision mailbox_ref must be non-empty")
  ensure (d.envelopeDigest ≠ "")
    (validationError "wakeup decision envelope_digest must be non-empty")
  ensure (d.eventDigest ≠ "") (validationError "wakeup decision event_digest must be non-empty")

end WakeupDecision

/-- The dispatches a gate has issued. -/
abbrev WakeupGate : Type := List String

/-- The decision about a commit, with the signal it carries. -/
def decisionOf (committed : DispatchCommitted) (signal : Option WakeupSignal) :
    WakeupDecision where
  dispatchId := committed.committedId
  mailboxRef := committed.mailboxRef
  mailboxSeq := committed.mailboxSeq
  envelopeDigest := committed.envelopeDigest
  eventDigest := committed.eventDigest
  signal := signal

/-- The pointer to the event of a commit; event sequences start at zero, pointers at one. -/
def signalOf (committed : DispatchCommitted) (sender recipient updatedAt : String) :
    WakeupSignal where
  runId := committed.identity.runId
  sender := sender
  recipient := recipient
  mailboxRef := committed.mailboxRef
  seq := committed.mailboxSeq + 1
  updatedAt := updatedAt

/-- `WakeupGate.issue`. -/
def WakeupGate.issue (gate : WakeupGate) (committed : DispatchCommitted)
    (sender recipient updatedAt : String) : Except Raised WakeupDecision × WakeupGate :=
  if committed.committedId ∈ gate then
    ((decisionOf committed none).check.map fun _ => decisionOf committed none, gate)
  else
    let signal := signalOf committed sender recipient updatedAt
    match signal.check with
    | .error e => (.error e, gate)
    | .ok () =>
      ((decisionOf committed (some signal)).check.map fun _ => decisionOf committed (some signal),
        committed.committedId :: gate)

/-! ## Bootstrap -/

structure V2ExecutorValidationPolicy where
  capabilityId : String
  instanceId : String
  attemptId : String
  leaseGeneration : Nat
  fencingToken : String
  lastSeenEventSeq : Int := -1
  named : strip capabilityId ≠ "" ∧ strip instanceId ≠ "" ∧ strip attemptId ≠ "" ∧
    strip fencingToken ≠ ""
  initial : -1 ≤ lastSeenEventSeq

structure V2ExecutorMailboxRequest where
  signal : WakeupSignal
  event : MailboxEvent
  cursor : MailboxActorCursor
  deriving DecidableEq

structure MailboxV2ExecutorEntrypoint where
  executorActor : String
  validationPolicy : Option V2ExecutorValidationPolicy
  named : executorActor ≠ ""

namespace MailboxV2ExecutorEntrypoint

/-- `__init__`. -/
def make (executorActor : String) (validationPolicy : Option V2ExecutorValidationPolicy) :
    Except Raised MailboxV2ExecutorEntrypoint :=
  if named : strip executorActor ≠ "" then
    .ok { executorActor := strip executorActor, validationPolicy, named }
  else .error (validationError "mailbox/v2 executor_actor must be non-empty")

/-- The checks of a policy on an event. -/
def validatePolicy (policy : V2ExecutorValidationPolicy) (event : MailboxEvent) :
    Except Raised Unit := do
  ensure (policy.lastSeenEventSeq < event.eventSeq) (validationError
    "mailbox/v2 executor wakeup is not newer than durable policy cursor")
  ensure (event.envelope.recipient.capability = policy.capabilityId)
    (validationError "mailbox/v2 executor capability mismatch")
  ensure (event.envelope.recipient.agentInstance = policy.instanceId)
    (validationError "mailbox/v2 executor instance mismatch")
  ensure (event.envelope.executionIdentity.attemptId = policy.attemptId)
    (validationError "mailbox/v2 executor attempt_id mismatch")
  ensure (event.envelope.executionIdentity.leaseGeneration = policy.leaseGeneration)
    (validationError "mailbox/v2 executor lease_generation mismatch")
  ensure (event.envelope.executionIdentity.fencingToken = policy.fencingToken)
    (validationError "mailbox/v2 executor fencing_token mismatch")

/-- `_validate_event`. -/
def validateEvent (entry : MailboxV2ExecutorEntrypoint) (signal : WakeupSignal)
    (event : MailboxEvent) : Except Raised Unit := do
  ensure (event.envelope.runId = signal.runId)
    (validationError "mailbox/v2 executor run_id mismatch")
  ensure (event.producerNamespace = signal.sender)
    (validationError "mailbox/v2 executor sender mismatch")
  ensure (event.envelope.direction = .controllerToExecutor) (validationError
    "mailbox/v2 executor request direction is not controller_to_executor")
  ensure (event.envelope.messageType = .executionRequest)
    (validationError "mailbox/v2 executor request is not execution_request")
  ensure (event.envelope.recipient.agentInstance = entry.executorActor)
    (validationError "mailbox/v2 executor recipient instance mismatch")
  match entry.validationPolicy with
  | none => return
  | some policy => validatePolicy policy event

variable [Sha256]

/-- `bootstrap`, over the repository of the entrypoint. -/
def bootstrap (entry : MailboxV2ExecutorEntrypoint) (repo : InMemoryMailboxRepository)
    (signal : WakeupSignal) : Except Raised V2ExecutorMailboxRequest := do
  ensure (signal.recipient = entry.executorActor)
    (validationError "mailbox/v2 executor wakeup recipient mismatch")
  let snapshot ← repo.read signal.mailboxRef
  match snapshot.events.filter fun event => (event.eventSeq : Int) = signal.seq - 1 with
  | [event] => do
    entry.validateEvent signal event
    let cursor ← repo.readCursor signal.mailboxRef event.envelope.runId event.envelope.nodeId
      event.producerNamespace
    ensure (¬ (cursor.lastEventSeq < event.eventSeq ∨ cursor.lastEventId ≠ some event.eventId ∨
        cursor.lastEventDigest ≠ some event.eventDigest.value))
      (validationError ("TASKCONTROLLER_EXECUTOR_MAILBOX_REJECTED: " ++
        "producer cursor does not prove committed event"))
    return { signal, event, cursor }
  | _ => .error (validationError
      "TASKCONTROLLER_EXECUTOR_MAILBOX_REJECTED: wakeup event not found exactly once")

end MailboxV2ExecutorEntrypoint

end DwSuperApps.Source.ExecutorEntrypoint
