import DwSuperApps.Lib.Programs
import DwSuperApps.Source.Mailbox

/-!
# Dispatch ledger

`taskcontroller/runtime/dispatch_ledger.py` over the in-memory mailbox and the run
ledger of `taskcontroller/audit/sqlite_writer.py`. A ledger append, a mailbox write
and every reading are one operation each. The caches of a `DispatchProtocol` live in
its process. Ledger rows keep their record parsed: every record was written by the
`to_dict` of its class, or is no dispatch record at all.

Left out of an audit event: `before`, evidence references, annotations and the
members no dispatch sets.
-/
namespace DwSuperApps.Source.Dispatch

open DwSuperApps.Lib DwSuperApps.Lib.Checked
open DwSuperApps.Lib.Programs (Prog)
open DwSuperApps.Source.Envelope DwSuperApps.Source.Mailbox

def dispatchPrepared : String := "DISPATCH_PREPARED"
def dispatchCommitted : String := "DISPATCH_COMMITTED"
def dispatchSource : String := "taskcontroller.runtime.dispatch_ledger"

/-! ## Field checks -/

/-- `_required_text`. -/
def requiredText (value name : String) : Except Raised Unit :=
  ensure (strip value ≠ "") (mailboxError .schemaInvalid s!"{name} must be a non-empty string")

/-- `_non_negative_int`. -/
def nonNegativeInt (value : Int) (name : String) : Except Raised Unit :=
  ensure (0 ≤ value) (mailboxError .invalidSequence s!"{name} must be an integer >= 0")

/-- `_sequence_or_initial`. -/
def sequenceOrInitial (value : Int) (name : String) : Except Raised Unit :=
  ensure (-1 ≤ value) (mailboxError .invalidSequence s!"{name} must be an integer >= -1")

/-- `_digest`. -/
def digestText (value name : String) : Except Raised Unit := do
  requiredText value name
  ensure (isDigest value = true) (mailboxError .digestMismatch s!"{name} is not a sha256 digest")

/-! ## Records -/

structure DispatchIdentity where
  runId : String
  nodeId : String
  planVersion : String
  contractDigest : String
  boundaryDigest : String
  sourceDigest : String
  attemptId : String
  leaseGeneration : Nat
  fencingToken : String
  messageId : String
  idempotencyKey : String
  deriving DecidableEq

namespace DispatchIdentity

/-- `__post_init__`. -/
def check (i : DispatchIdentity) : Except Raised Unit := do
  requiredText i.runId "logical_request.run_id"
  requiredText i.nodeId "logical_request.node_id"
  requiredText i.planVersion "logical_request.plan_version"
  requiredText i.attemptId "logical_request.attempt_id"
  requiredText i.fencingToken "logical_request.fencing_token"
  requiredText i.messageId "logical_request.message_id"
  requiredText i.idempotencyKey "logical_request.idempotency_key"
  digestText i.contractDigest "logical_request.contract_digest"
  digestText i.boundaryDigest "logical_request.boundary_digest"
  digestText i.sourceDigest "logical_request.source_digest"
  ensure (0 < i.leaseGeneration) (mailboxError .staleGeneration
    "logical_request.lease_generation must be an integer > 0")

/-- The identity an envelope carries. -/
def ofEnvelope (e : V2MailboxEnvelope) : DispatchIdentity where
  runId := e.runId
  nodeId := e.nodeId
  planVersion := e.executionIdentity.planVersion
  contractDigest := e.executionIdentity.contractDigest
  boundaryDigest := e.executionIdentity.boundaryDigest
  sourceDigest := e.executionIdentity.sourceDigest
  attemptId := e.executionIdentity.attemptId
  leaseGeneration := e.executionIdentity.leaseGeneration
  fencingToken := e.executionIdentity.fencingToken
  messageId := e.messageId
  idempotencyKey := e.idempotencyKey

/-- `from_envelope`. -/
def fromEnvelope (e : V2MailboxEnvelope) : Except Raised DispatchIdentity := do
  (ofEnvelope e).check
  return ofEnvelope e

/-- The fields `validate_current_identity` accepts. -/
def executionIdentity (i : DispatchIdentity) : List (String × Json) :=
  [("run_id", .str i.runId),
    ("node_id", .str i.nodeId),
    ("plan_version", .str i.planVersion),
    ("contract_digest", .str i.contractDigest),
    ("boundary_digest", .str i.boundaryDigest),
    ("source_digest", .str i.sourceDigest),
    ("attempt_id", .str i.attemptId),
    ("lease_generation", .int i.leaseGeneration),
    ("fencing_token", .str i.fencingToken)]

end DispatchIdentity

structure DispatchPrepared where
  identity : DispatchIdentity
  stateVersion : Int
  mailboxRef : String
  expectedMailboxSeq : Int
  envelopeDigest : String
  preparedId : String
  preparedAt : String
  deriving DecidableEq

namespace DispatchPrepared

def runId (p : DispatchPrepared) : String := p.identity.runId

/-- The key of the in-process caches. -/
def key (p : DispatchPrepared) : String × String := (p.identity.runId, p.identity.idempotencyKey)

/-- `__post_init__`; the identity was checked by its own constructor. -/
def check (p : DispatchPrepared) : Except Raised Unit := do
  nonNegativeInt p.stateVersion "DispatchPrepared.state_version"
  requiredText p.mailboxRef "DispatchPrepared.mailbox_ref"
  sequenceOrInitial p.expectedMailboxSeq "DispatchPrepared.expected_mailbox_seq"
  digestText p.envelopeDigest "DispatchPrepared.envelope_digest"
  requiredText p.preparedId "DispatchPrepared.prepared_id"
  requiredText p.preparedAt "DispatchPrepared.prepared_at"

end DispatchPrepared

structure DispatchCommitted where
  preparedId : String
  identity : DispatchIdentity
  stateVersion : Int
  mailboxRef : String
  expectedMailboxSeq : Int
  mailboxSeq : Nat
  eventId : String
  messageId : String
  envelopeDigest : String
  eventDigest : String
  readbackVerified : Bool
  committedId : String
  committedAt : String
  deriving DecidableEq

/-- `__post_init__`. -/
def DispatchCommitted.check (c : DispatchCommitted) : Except Raised Unit := do
  requiredText c.preparedId "DispatchCommitted.prepared_id"
  nonNegativeInt c.stateVersion "DispatchCommitted.state_version"
  requiredText c.mailboxRef "DispatchCommitted.mailbox_ref"
  sequenceOrInitial c.expectedMailboxSeq "DispatchCommitted.expected_mailbox_seq"
  nonNegativeInt c.mailboxSeq "DispatchCommitted.mailbox_seq"
  ensure ((c.mailboxSeq : Int) = c.expectedMailboxSeq + 1) (mailboxError .invalidSequence
    "DispatchCommitted mailbox sequence is not the prepared successor")
  requiredText c.eventId "DispatchCommitted.event_id"
  requiredText c.messageId "DispatchCommitted.message_id"
  ensure (c.messageId = c.identity.messageId) (mailboxError .contractMismatch
    "DispatchCommitted message identity differs")
  digestText c.envelopeDigest "DispatchCommitted.envelope_digest"
  digestText c.eventDigest "DispatchCommitted.event_digest"
  ensure (c.readbackVerified = true) (mailboxError .digestMismatch
    "DispatchCommitted requires verified exact readback")
  requiredText c.committedId "DispatchCommitted.committed_id"
  requiredText c.committedAt "DispatchCommitted.committed_at"

/-! ## The run ledger -/

/-- `after["record"]` of an audit event. -/
inductive LedgerRecord where
  | prepared (p : DispatchPrepared)
  | committed (c : DispatchCommitted)
  | other
  deriving DecidableEq

structure AuditEvent where
  eventId : String
  timestamp : String
  runId : String
  source : String
  decisionKind : String
  nodeId : String
  actor : String
  payloadSummary : String
  record : LedgerRecord
  deriving DecidableEq

def valueError (message : String) : Raised := ⟨.valueError, "", message⟩

/-- `__post_init__`. -/
def AuditEvent.check (e : AuditEvent) : Except Raised Unit := do
  ensure (e.eventId ≠ "") (valueError "event_id is required")
  ensure (e.timestamp ≠ "") (valueError "timestamp is required")
  ensure (e.runId ≠ "") (valueError "run_id is required")
  ensure (e.source ≠ "") (valueError "source is required")
  ensure (e.decisionKind ≠ "") (valueError "decision_kind is required")
  ensure (e.payloadSummary.length ≤ 300) (valueError "payload_summary exceeds 300 characters")

abbrev RunLedger : Type := String → List AuditEvent

def findEvent (events : List AuditEvent) (eventId : String) : Option AuditEvent :=
  events.find? (·.eventId = eventId)

/-- `append`: the identifiers of the events of a run are unique. -/
def RunLedger.append (l : RunLedger) (event : AuditEvent) : Except Raised Unit × RunLedger :=
  match findEvent (l event.runId) event.eventId with
  | some _ => (.error (valueError
      ("DUPLICATE_EVENT run_id=" ++ event.runId ++ " event_id=" ++ event.eventId)), l)
  | none => (.ok (), Function.update l event.runId (l event.runId ++ [event]))

/-- `_append_or_readback`. -/
def appendOrReadback (l : RunLedger) (event : AuditEvent) : Except Raised Unit × RunLedger :=
  match l.append event with
  | (.ok (), appended) => (.ok (), appended)
  | (.error e, _) =>
    match findEvent (l event.runId) event.eventId with
    | none => (.error e, l)
    | some existing => if existing.record = event.record then (.ok (), l) else (.error e, l)

/-- `UNSUPPORTED_PROTOCOL`. -/
def unsupportedProtocol (message : String) : Raised := ⟨.mailboxV2, "UNSUPPORTED_PROTOCOL", message⟩

/-- `_prepared_from_event`. -/
def preparedFromEvent (event : AuditEvent) : Except Raised DispatchPrepared :=
  match event.record with
  | .prepared p => .ok p
  | .committed _ => .error (unsupportedProtocol "unsupported DispatchPrepared record")
  | .other => .error (mailboxError .schemaInvalid "DispatchPrepared ledger record is malformed")

/-- `_committed_from_event`. -/
def committedFromEvent (event : AuditEvent) : Except Raised DispatchCommitted :=
  match event.record with
  | .committed c => .ok c
  | .prepared _ => .error (unsupportedProtocol "unsupported DispatchCommitted record")
  | .other => .error (mailboxError .schemaInvalid "DispatchCommitted ledger record is malformed")

/-- `_assert_same_prepared`. -/
def assertSamePrepared (left right : DispatchPrepared) : Except Raised Unit :=
  ensure (left = right) (mailboxError .contractMismatch
    "logical request was prepared with different bindings")

variable [Sha256]

/-- `_assert_envelope_matches`. -/
def assertEnvelopeMatches (prepared : DispatchPrepared) (envelope : V2MailboxEnvelope) :
    Except Raised Unit := do
  let identity ← DispatchIdentity.fromEnvelope envelope
  ensure (identity = prepared.identity ∧ envelope.digest.value = prepared.envelopeDigest)
    (mailboxError .contractMismatch "dispatch envelope differs from prepared identity/digest")

/-- `_assert_same_commit`. -/
def assertSameCommit (prepared : DispatchPrepared) (envelope : V2MailboxEnvelope)
    (committed : DispatchCommitted) : Except Raised Unit := do
  ensure (committed.preparedId = prepared.preparedId) (mailboxError .contractMismatch
    "committed record does not bind prepared record")
  ensure (committed.identity = prepared.identity ∧
      committed.envelopeDigest = envelope.digest.value)
    (mailboxError .contractMismatch "committed record identity/digest differs")

/-- `_verify_exact_readback`. -/
def verifyExactReadback (prepared : DispatchPrepared) (envelope : V2MailboxEnvelope)
    (receipt : WriteReceipt) (snapshot : MailboxSnapshot) : Except Raised Unit := do
  ensure (receipt.mailboxRef = prepared.mailboxRef) (mailboxError .contractMismatch
    "mailbox receipt ref differs from DispatchPrepared")
  ensure ((receipt.eventSeq : Int) = prepared.expectedMailboxSeq + 1) (mailboxError .invalidSequence
    "mailbox receipt sequence differs from prepared successor")
  ensure (receipt.messageId = prepared.identity.messageId) (mailboxError .contractMismatch
    "mailbox receipt message differs from prepared request")
  ensure (receipt.envelopeDigest = envelope.digest) (mailboxError .digestMismatch
    "mailbox receipt envelope digest differs")
  match snapshot.events.find? (·.eventId = receipt.eventId) with
  | none => .error (mailboxError .digestMismatch "exact readback omitted the written event")
  | some event =>
    ensure (event.mailboxRef = prepared.mailboxRef ∧ event.eventSeq = receipt.eventSeq ∧
        event.envelopeDigest = receipt.envelopeDigest ∧ event.eventDigest = receipt.eventDigest ∧
        event.envelope = envelope)
      (mailboxError .digestMismatch "exact readback event binding differs")

/-! ## The protocol -/

omit [Sha256] in
/-- The durable mailbox and ledger, and the protocol object of one process. -/
structure World where
  mailbox : InMemoryMailboxRepository := {}
  ledger : RunLedger := fun _ => []
  actor : String := "controller"
  prepared : String × String → Option DispatchPrepared := fun _ => none
  committed : String × String → Option DispatchCommitted := fun _ => none

abbrev Dispatching (α : Type) : Type := Prog World Raised α

omit [Sha256] in
def ledgerEvents (runId : String) : Dispatching (List AuditEvent) :=
  .observe fun w => .ok (w.ledger runId)

omit [Sha256] in
/-- An audit event is built and recorded. -/
def record (event : AuditEvent) : Dispatching Unit := do
  event.check
  .operation fun w =>
    ((appendOrReadback w.ledger event).1, { w with ledger := (appendOrReadback w.ledger event).2 })

omit [Sha256] in
def cachedPrepared (key : String × String) : Dispatching (Option DispatchPrepared) :=
  .observe fun w => .ok (w.prepared key)

omit [Sha256] in
def cachePrepared (p : DispatchPrepared) : Dispatching Unit :=
  .operation fun w => (.ok (), { w with prepared := Function.update w.prepared p.key (some p) })

omit [Sha256] in
def cachedCommitted (key : String × String) : Dispatching (Option DispatchCommitted) :=
  .observe fun w => .ok (w.committed key)

omit [Sha256] in
def cacheCommitted (key : String × String) (c : DispatchCommitted) : Dispatching Unit :=
  .operation fun w => (.ok (), { w with committed := Function.update w.committed key (some c) })

omit [Sha256] in
def actorOf : Dispatching String := .observe fun w => .ok w.actor

def write (mailboxRef : String) (expectedSeq : Int) (envelope : V2MailboxEnvelope)
    (expectedIdentity : List (String × Json)) : Dispatching WriteReceipt :=
  .operation fun w =>
    ((w.mailbox.write mailboxRef expectedSeq envelope (some expectedIdentity)).1, { w with
      mailbox := (w.mailbox.write mailboxRef expectedSeq envelope (some expectedIdentity)).2 })

def exactReadback (receipt : WriteReceipt) : Dispatching MailboxSnapshot :=
  .observe fun w => w.mailbox.exactReadback receipt

omit [Sha256] in
/-- `_prepared_event`. -/
def preparedEvent (actor : String) (p : DispatchPrepared) : AuditEvent where
  eventId := p.preparedId
  timestamp := p.preparedAt
  runId := p.identity.runId
  source := dispatchSource
  decisionKind := dispatchPrepared
  nodeId := p.identity.nodeId
  actor := actor
  payloadSummary := "DispatchPrepared " ++ p.identity.messageId
  record := .prepared p

omit [Sha256] in
/-- `_committed_event`. -/
def committedEvent (actor : String) (c : DispatchCommitted) : AuditEvent where
  eventId := c.committedId
  timestamp := c.committedAt
  runId := c.identity.runId
  source := dispatchSource
  decisionKind := dispatchCommitted
  nodeId := c.identity.nodeId
  actor := actor
  payloadSummary := "DispatchCommitted " ++ c.messageId
  record := .committed c

omit [Sha256] in
def preparedIdOf (envelopeDigest : String) : String := "dispatch-prepared:" ++ envelopeDigest

omit [Sha256] in
def committedIdOf (envelopeDigest : String) : String := "dispatch-committed:" ++ envelopeDigest

/-- The arguments of `prepare`. -/
structure PrepareRequest where
  envelope : V2MailboxEnvelope
  mailboxRef : String
  expectedMailboxSeq : Int
  stateVersion : Int
  leaseGeneration : Int
  preparedAt : String

/-- The record `prepare` builds. -/
def PrepareRequest.record (r : PrepareRequest) : DispatchPrepared where
  identity := .ofEnvelope r.envelope
  stateVersion := r.stateVersion
  mailboxRef := r.mailboxRef
  expectedMailboxSeq := r.expectedMailboxSeq
  envelopeDigest := r.envelope.digest.value
  preparedId := preparedIdOf r.envelope.digest.value
  preparedAt := r.preparedAt

def prepare (r : PrepareRequest) : Dispatching DispatchPrepared := do
  let identity ← DispatchIdentity.fromEnvelope r.envelope
  ensure ((identity.leaseGeneration : Int) = r.leaseGeneration) (mailboxError .staleGeneration
    "prepared generation does not match envelope")
  let prepared := r.record
  prepared.check
  match ← cachedPrepared prepared.key with
  | some cached => do
    assertSamePrepared cached prepared
    return cached
  | none =>
    match findEvent (← ledgerEvents prepared.runId) prepared.preparedId with
    | some existingEvent => do
      let existing ← preparedFromEvent existingEvent
      assertSamePrepared existing prepared
      cachePrepared existing
      return existing
    | none => do
      record (preparedEvent (← actorOf) prepared)
      cachePrepared prepared
      return prepared

/-- The commit of a verified receipt. -/
def commitOf (prepared : DispatchPrepared) (receipt : WriteReceipt) (committedAt : String) :
    DispatchCommitted where
  preparedId := prepared.preparedId
  identity := prepared.identity
  stateVersion := prepared.stateVersion
  mailboxRef := prepared.mailboxRef
  expectedMailboxSeq := prepared.expectedMailboxSeq
  mailboxSeq := receipt.eventSeq
  eventId := receipt.eventId
  messageId := receipt.messageId
  envelopeDigest := receipt.envelopeDigest.value
  eventDigest := receipt.eventDigest.value
  readbackVerified := true
  committedId := committedIdOf prepared.envelopeDigest
  committedAt := committedAt

/-- A receipt is read back and its commit recorded. -/
def verifyAndCommit (prepared : DispatchPrepared) (envelope : V2MailboxEnvelope)
    (receipt : WriteReceipt) (committedAt : String) : Dispatching DispatchCommitted := do
  let snapshot ← exactReadback receipt
  verifyExactReadback prepared envelope receipt snapshot
  let committed := commitOf prepared receipt committedAt
  committed.check
  record (committedEvent (← actorOf) committed)
  return committed

def dispatch (prepared : DispatchPrepared) (envelope : V2MailboxEnvelope) (committedAt : String) :
    Dispatching DispatchCommitted := do
  assertEnvelopeMatches prepared envelope
  match ← cachedCommitted prepared.key with
  | some cached => return cached
  | none =>
    match findEvent (← ledgerEvents prepared.runId) (committedIdOf prepared.envelopeDigest) with
    | some existingEvent => do
      let committed ← committedFromEvent existingEvent
      assertSameCommit prepared envelope committed
      cacheCommitted prepared.key committed
      return committed
    | none => do
      let receipt ← write prepared.mailboxRef prepared.expectedMailboxSeq envelope
        prepared.identity.executionIdentity
      let committed ← verifyAndCommit prepared envelope receipt committedAt
      cacheCommitted prepared.key committed
      return committed

/-! ## Reconciliation -/

inductive ReconciliationAction where
  | retry | repair | consume | blocked
  deriving DecidableEq

def preparedNoMailbox : String := "PREPARED_NO_MAILBOX"
def mailboxCommittedLedgerUncommitted : String := "MAILBOX_COMMITTED_LEDGER_UNCOMMITTED"
def identityOrDigestConflict : String := "IDENTITY_OR_DIGEST_CONFLICT"

omit [Sha256] in
structure ReconciliationDecision where
  state : String
  action : ReconciliationAction
  reason : String
  evidenceRefs : List String
  committed : Option DispatchCommitted
  deriving DecidableEq

omit [Sha256] in
/-- `_evidence_refs`. -/
def evidenceRefs (prepared : DispatchPrepared) (event : Option MailboxEvent)
    (committed : Option DispatchCommitted) : List String :=
  [prepared.preparedId, prepared.mailboxRef] ++
    (event.map fun e => prepared.mailboxRef ++ ":event-" ++ e.eventId).toList ++
    (committed.map (·.committedId)).toList

omit [Sha256] in
/-- `_blocked`. -/
def blocked (prepared : DispatchPrepared) (state reason : String)
    (event : Option MailboxEvent := none) : ReconciliationDecision where
  state := state
  action := .blocked
  reason := "RECONCILIATION_BLOCKED: " ++ reason
  evidenceRefs := evidenceRefs prepared event none
  committed := none

omit [Sha256] in
/-- Why the durable prepared record does not bind `prepared`. -/
def preparedProblem (events : List AuditEvent) (prepared : DispatchPrepared) :
    Option (String × String) :=
  match findEvent events prepared.preparedId with
  | none => some ("MISSING_PREPARED", "durable DispatchPrepared record is absent")
  | some event =>
    if event.decisionKind ≠ dispatchPrepared then
      some (identityOrDigestConflict, "prepared event has an unexpected decision kind")
    else
      match event.record with
      | .prepared durable =>
        match assertSamePrepared durable prepared with
        | .ok () => none
        | .error e => some (identityOrDigestConflict, bindingFailure e.text)
      | .committed _ => some (identityOrDigestConflict,
          bindingFailure (unsupportedProtocol "unsupported DispatchPrepared record").text)
      | .other => some (identityOrDigestConflict, bindingFailure "'record'")
where
  bindingFailure (text : String) : String :=
    "durable DispatchPrepared binding is malformed or conflicting: " ++ text

omit [Sha256] in
/-- `snapshot_last_event_seq`. -/
def snapshotLastEventSeq (events : List MailboxEvent) : Int :=
  match events.getLast? with
  | none => -1
  | some event => event.eventSeq

omit [Sha256] in
/-- The checks of `_validate_snapshot` on the events from a sequence on. -/
def validateEvents (mailboxRef : String) : Nat → List MailboxEvent → Except Raised Unit
  | _, [] => .ok ()
  | seq, event :: rest => do
    ensure (event.eventSeq = seq) (mailboxError .invalidSequence "mailbox event sequence has a gap")
    ensure (event.mailboxRef = mailboxRef) (mailboxError .contractMismatch
      "mailbox event reference differs")
    validateEvents mailboxRef (seq + 1) rest

omit [Sha256] in
/-- `_validate_snapshot`. -/
def validateSnapshot (snapshot : MailboxSnapshot) (prepared : DispatchPrepared) :
    Except Raised (List MailboxEvent) := do
  ensure (snapshot.mailboxRef = prepared.mailboxRef) (mailboxError .contractMismatch
    "mailbox snapshot reference differs")
  validateEvents prepared.mailboxRef 0 snapshot.events
  ensure (snapshot.lastEventSeq = snapshotLastEventSeq snapshot.events) (mailboxError .invalidSequence
    "mailbox snapshot last sequence is inconsistent")
  return snapshot.events

/-- The event of the prepared dispatch. -/
def isExact (prepared : DispatchPrepared) (envelope : V2MailboxEnvelope) (event : MailboxEvent) :
    Prop :=
  DispatchIdentity.fromEnvelope event.envelope = .ok prepared.identity ∧
    (event.eventSeq : Int) = prepared.expectedMailboxSeq + 1 ∧ event.logicalSeq = envelope.seq ∧
    event.producerNamespace = envelope.producerNamespace ∧
    event.idempotencyKey = envelope.idempotencyKey ∧ event.envelopeDigest = envelope.digest ∧
    event.envelope = envelope

instance (prepared : DispatchPrepared) (envelope : V2MailboxEnvelope) (event : MailboxEvent) :
    Decidable (isExact prepared envelope event) := by
  unfold isExact
  infer_instance

omit [Sha256] in
/-- An event that takes the slot, the key or the message of the prepared dispatch. -/
def isRelated (prepared : DispatchPrepared) (event : MailboxEvent) : Prop :=
  (event.eventSeq : Int) = prepared.expectedMailboxSeq + 1 ∨
    event.idempotencyKey = prepared.identity.idempotencyKey ∨
    event.envelope.messageId = prepared.identity.messageId

instance (prepared : DispatchPrepared) (event : MailboxEvent) :
    Decidable (isRelated prepared event) := by
  unfold isRelated
  infer_instance

/-- `_locate_event`: the exact event and the conflict. -/
def locateEvent (events : List MailboxEvent) (prepared : DispatchPrepared)
    (envelope : V2MailboxEnvelope) : Option MailboxEvent × Option String :=
  match events.filter (isExact prepared envelope) with
  | exact :: _ :: _ => (some exact, some "multiple mailbox events match one prepared dispatch")
  | exactEvents =>
    let conflict := (events.filter fun event =>
      isRelated prepared event ∧ ¬ isExact prepared envelope event).getLast?
    (exactEvents.head?, conflict.map fun event =>
      "mailbox event conflicts with the prepared identity/digest or occupies the " ++
        "successor slot: " ++ event.eventId)

omit [Sha256] in
/-- The committed records of a dispatch. -/
def isCommitCandidate (prepared : DispatchPrepared) (event : AuditEvent) : Bool :=
  event.decisionKind = dispatchCommitted && (event.eventId = committedIdOf prepared.envelopeDigest ||
    match event.record with
    | .prepared p => p.preparedId = prepared.preparedId
    | .committed c => c.preparedId = prepared.preparedId
    | .other => false)

omit [Sha256] in
/-- `_find_committed_record`. -/
def findCommittedRecord (events : List AuditEvent) (prepared : DispatchPrepared) :
    Except String (Option DispatchCommitted) :=
  match events.find? (isCommitCandidate prepared) with
  | none => .ok none
  | some event =>
    match event.record with
    | .committed c => .ok (some c)
    | .prepared _ => .error (malformed
        (unsupportedProtocol "unsupported DispatchCommitted record").text)
    | .other => .error (malformed
        (mailboxError .schemaInvalid "DispatchCommitted record must be an object").text)
where
  malformed (text : String) : String := "durable DispatchCommitted record is malformed: " ++ text

/-- `_commit_matches_event`. -/
def commitMatchesEvent (committed : DispatchCommitted) (prepared : DispatchPrepared)
    (envelope : V2MailboxEnvelope) (event : MailboxEvent) : Prop :=
  committed.preparedId = prepared.preparedId ∧ committed.identity = prepared.identity ∧
    committed.stateVersion = prepared.stateVersion ∧ committed.mailboxRef = prepared.mailboxRef ∧
    committed.expectedMailboxSeq = prepared.expectedMailboxSeq ∧
    committed.mailboxSeq = event.eventSeq ∧ committed.eventId = event.eventId ∧
    committed.messageId = prepared.identity.messageId ∧
    committed.envelopeDigest = envelope.digest.value ∧
    committed.eventDigest = event.eventDigest.value ∧ committed.readbackVerified = true

instance (committed : DispatchCommitted) (prepared : DispatchPrepared)
    (envelope : V2MailboxEnvelope) (event : MailboxEvent) :
    Decidable (commitMatchesEvent committed prepared envelope event) := by
  unfold commitMatchesEvent
  infer_instance

omit [Sha256] in
/-- What `reconcile` finds in the ledger and the mailbox. -/
inductive Disposition where
  | blocked (reason : String) (event : Option MailboxEvent)
  | consume (event : MailboxEvent) (committed : DispatchCommitted)
  | repair (event : MailboxEvent)
  | retry
  deriving DecidableEq

/-- The checks of `reconcile` after the prepared record and the snapshot. -/
def classify (ledger : List AuditEvent) (events : List MailboxEvent) (prepared : DispatchPrepared)
    (envelope : V2MailboxEnvelope) : Disposition :=
  match locateEvent events prepared envelope with
  | (exactEvent, some conflict) => .blocked conflict exactEvent
  | (exactEvent, none) =>
    match findCommittedRecord ledger prepared, exactEvent with
    | .error reason, _ => .blocked reason exactEvent
    | .ok (some durable), some event =>
      if commitMatchesEvent durable prepared envelope event then .consume event durable
      else .blocked "DispatchCommitted does not match the exact mailbox event" (some event)
    | .ok none, some event => .repair event
    | .ok (some _), none =>
      .blocked "DispatchCommitted exists but its exact mailbox event is absent" none
    | .ok none, none =>
      if snapshotLastEventSeq events ≠ prepared.expectedMailboxSeq then
        .blocked "mailbox successor slot is not empty at the prepared sequence" none
      else .retry

/-- `_commit_from_existing_event`. -/
def commitFromExistingEvent (prepared : DispatchPrepared) (envelope : V2MailboxEnvelope)
    (event : MailboxEvent) (reconciledAt : String) : Dispatching DispatchCommitted :=
  verifyAndCommit prepared envelope (receiptOf event true) reconciledAt

/-- The action of a disposition. -/
def settle (prepared : DispatchPrepared) (envelope : V2MailboxEnvelope) (reconciledAt : String) :
    Disposition → Dispatching ReconciliationDecision
  | .blocked reason event => pure (blocked prepared identityOrDigestConflict reason event)
  | .consume event durable => pure
      { state := dispatchCommitted, action := .consume,
        reason := "exact mailbox event and DispatchCommitted evidence already exist",
        evidenceRefs := evidenceRefs prepared (some event) (some durable), committed := some durable }
  | .repair event =>
    Prog.handle (do
      let repaired ← commitFromExistingEvent prepared envelope event reconciledAt
      return { state := mailboxCommittedLedgerUncommitted, action := .repair,
               reason := "exact mailbox event was read back and committed into the ledger",
               evidenceRefs := evidenceRefs prepared (some event) (some repaired),
               committed := some repaired })
      fun e => pure (blocked prepared mailboxCommittedLedgerUncommitted
        ("existing mailbox event could not repair the ledger: " ++ e.text) (some event))
  | .retry =>
    Prog.handle (do
      let retried ← dispatch prepared envelope reconciledAt
      return { state := preparedNoMailbox, action := .retry,
               reason := "prepared successor slot was empty; CAS/exact-readback/commit was retried",
               evidenceRefs := evidenceRefs prepared none (some retried),
               committed := some retried })
      fun e => pure (blocked prepared preparedNoMailbox
        ("retry did not produce verified committed evidence: " ++ e.text))

def reconcile (prepared : DispatchPrepared) (envelope : V2MailboxEnvelope) (reconciledAt : String) :
    Dispatching ReconciliationDecision :=
  match assertEnvelopeMatches prepared envelope with
  | .error e => pure (blocked prepared identityOrDigestConflict
      ("supplied envelope differs from prepared binding: " ++ e.text))
  | .ok () => do
    let events ← ledgerEvents prepared.runId
    match preparedProblem events prepared with
    | some (state, reason) => return blocked prepared state reason
    | none =>
      let snapshot ← Prog.observe fun w =>
        .ok ((w.mailbox.read prepared.mailboxRef).bind (validateSnapshot · prepared))
      match snapshot with
      | .error e =>
        let reason := "mailbox snapshot cannot be validated: " ++ e.text
        return blocked prepared identityOrDigestConflict reason
      | .ok mailboxEvents =>
        settle prepared envelope reconciledAt (classify events mailboxEvents prepared envelope)

end DwSuperApps.Source.Dispatch
