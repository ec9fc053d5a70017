import Mathlib.Logic.Function.Basic
import DwSuperApps.Source.Envelope

/-!
# Mailbox repository

`taskcontroller/interaction/mailbox_repository.py`, the in-memory adapter. The
digest of an event is checked by its constructor, so it is a function of the
other fields; a cursor either is initial or names an acknowledged event, so its
four position fields are one optional record, and the durable cursors are kept
by their binding.

Left out: the quarantine of raw payloads that are no envelope, and the derived
read models of a snapshot.
-/
namespace DwSuperApps.Source.Mailbox

open DwSuperApps.Lib DwSuperApps.Lib.Checked
open DwSuperApps.Source.Envelope

/-! ## Events -/

structure MailboxEvent where
  mailboxRef : String
  eventId : String
  eventSeq : Nat
  producerNamespace : String
  logicalSeq : Nat
  previousEventDigest : Option Digest
  envelopeDigest : Digest
  idempotencyKey : String
  envelope : V2MailboxEnvelope
  deriving DecidableEq

namespace MailboxEvent
variable [Sha256]

def body (e : MailboxEvent) : List (String × Json) :=
  [("mailbox_ref", .str e.mailboxRef),
    ("event_id", .str e.eventId),
    ("event_seq", .int e.eventSeq),
    ("producer_namespace", .str e.producerNamespace),
    ("logical_seq", .int e.logicalSeq),
    ("previous_event_digest", .ofOption (e.previousEventDigest.map (·.value))),
    ("envelope_digest", .str e.envelopeDigest.value),
    ("idempotency_key", .str e.idempotencyKey),
    ("envelope", e.envelope.toDict)]

def eventDigest (e : MailboxEvent) : Digest := canonicalDigest (.obj e.body)

end MailboxEvent

/-! ## Cursors -/

/-- Mailbox, run, node and producer a cursor belongs to: `_cursor_key`. -/
structure CursorBinding where
  mailboxRef : String
  runId : String
  nodeId : String
  actorNamespace : String
  named : mailboxRef ≠ "" ∧ runId ≠ "" ∧ nodeId ≠ "" ∧ actorNamespace ≠ ""
  deriving DecidableEq

/-- The acknowledged event of a cursor. -/
structure CursorPosition where
  logicalSeq : Nat
  eventSeq : Nat
  eventId : String
  eventDigest : String
  deriving DecidableEq

structure MailboxActorCursor extends CursorBinding where
  position : Option CursorPosition := none
  deriving DecidableEq

namespace MailboxActorCursor

def lastLogicalSeq (c : MailboxActorCursor) : Int := c.position.elim (-1) fun p => p.logicalSeq

def lastEventSeq (c : MailboxActorCursor) : Int := c.position.elim (-1) fun p => p.eventSeq

def lastEventId (c : MailboxActorCursor) : Option String := c.position.map (·.eventId)

def lastEventDigest (c : MailboxActorCursor) : Option String := c.position.map (·.eventDigest)

/-- `MailboxActorCursor.initial`; the first empty text is named. -/
def initial (mailboxRef runId nodeId actorNamespace : String) :
    Except Raised MailboxActorCursor :=
  let missing (name : String) : Raised :=
    mailboxError .schemaInvalid s!"cursor {name} must be a non-empty string"
  if ref : mailboxRef = "" then .error (missing "mailbox_ref")
  else if run : runId = "" then .error (missing "run_id")
  else if node : nodeId = "" then .error (missing "node_id")
  else if actor : actorNamespace = "" then .error (missing "actor_namespace")
  else .ok { mailboxRef, runId, nodeId, actorNamespace, named := ⟨ref, run, node, actor⟩ }

/-- `_validate_event_binding`. -/
def validateEventBinding (c : MailboxActorCursor) (event : MailboxEvent) : Except Raised Unit := do
  ensure (event.mailboxRef = c.mailboxRef)
    (mailboxError .contractMismatch "event mailbox does not match cursor mailbox")
  ensure (event.envelope.runId = c.runId ∧ event.envelope.nodeId = c.nodeId ∧
      event.producerNamespace = c.actorNamespace)
    (mailboxError .contractMismatch "event identity does not match cursor actor binding")

variable [Sha256]

/-- The position of a cursor at an event. -/
def positionAt (event : MailboxEvent) : CursorPosition where
  logicalSeq := event.logicalSeq
  eventSeq := event.eventSeq
  eventId := event.eventId
  eventDigest := event.eventDigest.value

/-- `observe`: advance over a newer event, the exact event again is a no-op. -/
def observe (c : MailboxActorCursor) (event : MailboxEvent) : Except Raised MailboxActorCursor := do
  c.validateEventBinding event
  if c.position = some (positionAt event) then return c
  else
    ensure (¬ ((event.eventSeq ≤ c.lastEventSeq ∨ event.logicalSeq ≤ c.lastLogicalSeq) ∧
        (event.eventSeq = c.lastEventSeq ∨ event.logicalSeq = c.lastLogicalSeq)))
      (mailboxError .digestMismatch "cursor position is bound to a different event")
    ensure (c.lastEventSeq < event.eventSeq ∧ c.lastLogicalSeq < event.logicalSeq)
      (mailboxError .invalidSequence "event is not newer than the durable actor cursor")
    return { c with position := some (positionAt event) }

end MailboxActorCursor

/-! ## Receipts and snapshots -/

structure WriteReceipt where
  mailboxRef : String
  eventId : String
  eventSeq : Nat
  messageId : String
  envelopeDigest : Digest
  eventDigest : Digest
  idempotent : Bool := false
  deriving DecidableEq

structure MailboxSnapshot where
  mailboxRef : String
  events : List MailboxEvent
  lastEventSeq : Int
  deriving DecidableEq

/-- `_receipt`. -/
def receiptOf [Sha256] (event : MailboxEvent) (idempotent : Bool := false) : WriteReceipt where
  mailboxRef := event.mailboxRef
  eventId := event.eventId
  eventSeq := event.eventSeq
  messageId := event.envelope.messageId
  envelopeDigest := event.envelopeDigest
  eventDigest := event.eventDigest
  idempotent := idempotent

/-! ## The repository -/

structure InMemoryMailboxRepository where
  mailboxes : String → List MailboxEvent := fun _ => []
  idempotency : String → String → Option WriteReceipt := fun _ _ => none
  actorCursors : CursorBinding → Option CursorPosition := fun _ => none

namespace InMemoryMailboxRepository

def validateRef (mailboxRef : String) : Except Raised Unit :=
  ensure (mailboxRef ≠ "") (mailboxError .schemaInvalid "mailbox_ref must be a non-empty string")

def validateExpectedSeq (expectedSeq : Int) : Except Raised Unit :=
  ensure (-1 ≤ expectedSeq)
    (mailboxError .invalidSequence "expected_seq must be an integer greater than or equal to -1")

/-- `len(events) - 1`. -/
def lastSeq (events : List MailboxEvent) : Int := events.length - 1

def buildSnapshot (repo : InMemoryMailboxRepository) (mailboxRef : String) : MailboxSnapshot where
  mailboxRef := mailboxRef
  events := repo.mailboxes mailboxRef
  lastEventSeq := lastSeq (repo.mailboxes mailboxRef)

def read (repo : InMemoryMailboxRepository) (mailboxRef : String) :
    Except Raised MailboxSnapshot := do
  validateRef mailboxRef
  return repo.buildSnapshot mailboxRef

/-! ### Writing -/

/-- Greatest logical sequence of a producer, -1 without events. -/
def producerLastSeq (events : List MailboxEvent) (producerNamespace : String) : Int :=
  ((events.filter (·.producerNamespace = producerNamespace)).map
    fun event => (event.logicalSeq : Int)).foldl max (-1)

/-- What a write that is let through does. -/
inductive Admission where
  | duplicate (receipt : WriteReceipt)
  | append (event : MailboxEvent)
  deriving DecidableEq

variable [Sha256]

omit [Sha256] in
def eventIdOf (mailboxRef : String) (eventSeq : Nat) : String :=
  mailboxRef ++ ":event-" ++ toString eventSeq

/-- The event a write appends after `events`. -/
def eventFor (mailboxRef : String) (events : List MailboxEvent) (envelope : V2MailboxEnvelope) :
    MailboxEvent where
  mailboxRef := mailboxRef
  eventId := eventIdOf mailboxRef events.length
  eventSeq := events.length
  producerNamespace := envelope.producerNamespace
  logicalSeq := envelope.seq
  previousEventDigest := events.getLast?.map MailboxEvent.eventDigest
  envelopeDigest := envelope.digest
  idempotencyKey := envelope.idempotencyKey
  envelope := envelope

/-- The checks of `write`, in its order: idempotency before the sequences. -/
def admission (repo : InMemoryMailboxRepository) (mailboxRef : String) (expectedSeq : Int)
    (envelope : V2MailboxEnvelope) (expectedIdentity : Option (List (String × Json))) :
    Except Raised Admission := do
  validateRef mailboxRef
  validateExpectedSeq expectedSeq
  (match expectedIdentity with
    | some expected => envelope.validateCurrentIdentity expected
    | none => pure ())
  match repo.idempotency mailboxRef envelope.idempotencyKey with
  | some receipt =>
    ensure (receipt.envelopeDigest = envelope.digest)
      (mailboxError .digestMismatch "idempotency key was reused with a different envelope digest")
    return .duplicate { receipt with idempotent := true }
  | none =>
    let events := repo.mailboxes mailboxRef
    ensure (expectedSeq = lastSeq events) (mailboxError .invalidSequence
      s!"expected mailbox sequence {expectedSeq}, current sequence is {lastSeq events}")
    let last := producerLastSeq events envelope.producerNamespace
    ensure (last < envelope.seq) (mailboxError .invalidSequence
      s!"producer sequence {envelope.seq} is not newer than {last}")
    return .append (eventFor mailboxRef events envelope)

/-- Append an event and remember its receipt under its idempotency key. -/
def commit (repo : InMemoryMailboxRepository) (event : MailboxEvent) : InMemoryMailboxRepository :=
  { repo with
    mailboxes := Function.update repo.mailboxes event.mailboxRef
      (repo.mailboxes event.mailboxRef ++ [event])
    idempotency := Function.update repo.idempotency event.mailboxRef
      (Function.update (repo.idempotency event.mailboxRef) event.idempotencyKey
        (some (receiptOf event))) }

def write (repo : InMemoryMailboxRepository) (mailboxRef : String) (expectedSeq : Int)
    (envelope : V2MailboxEnvelope) (expectedIdentity : Option (List (String × Json)) := none) :
    Except Raised WriteReceipt × InMemoryMailboxRepository :=
  match repo.admission mailboxRef expectedSeq envelope expectedIdentity with
  | .error e => (.error e, repo)
  | .ok (.duplicate receipt) => (.ok receipt, repo)
  | .ok (.append event) => (.ok (receiptOf event), repo.commit event)

def exactReadback (repo : InMemoryMailboxRepository) (receipt : WriteReceipt) :
    Except Raised MailboxSnapshot := do
  validateRef receipt.mailboxRef
  match (repo.mailboxes receipt.mailboxRef).find? (·.eventId = receipt.eventId) with
  | none => .error (mailboxError .digestMismatch "receipt event is not present in the mailbox")
  | some event =>
    let expected := receiptOf event
    ensure (receipt.eventSeq = expected.eventSeq ∧ receipt.messageId = expected.messageId ∧
        receipt.envelopeDigest = expected.envelopeDigest ∧
        receipt.eventDigest = expected.eventDigest)
      (mailboxError .digestMismatch "exact readback receipt does not match persisted event")
    return repo.buildSnapshot receipt.mailboxRef

/-! ### Actor cursors -/

omit [Sha256] in
/-- The durable cursor of a binding. -/
def durableCursor (repo : InMemoryMailboxRepository) (binding : CursorBinding) :
    MailboxActorCursor :=
  ⟨binding, repo.actorCursors binding⟩

omit [Sha256] in
def readCursor (repo : InMemoryMailboxRepository) (mailboxRef runId nodeId actorNamespace : String) :
    Except Raised MailboxActorCursor := do
  validateRef mailboxRef
  let initial ← MailboxActorCursor.initial mailboxRef runId nodeId actorNamespace
  return repo.durableCursor initial.toCursorBinding

omit [Sha256] in
/-- An event of the cursor's actor after the cursor. -/
def isNewer (cursor : MailboxActorCursor) (event : MailboxEvent) : Prop :=
  event.producerNamespace = cursor.actorNamespace ∧ event.envelope.runId = cursor.runId ∧
    event.envelope.nodeId = cursor.nodeId ∧ cursor.lastEventSeq < event.eventSeq ∧
    cursor.lastLogicalSeq < event.logicalSeq

instance (cursor : MailboxActorCursor) (event : MailboxEvent) : Decidable (isNewer cursor event) := by
  unfold isNewer
  infer_instance

omit [Sha256] in
def scanAfterCursor (repo : InMemoryMailboxRepository) (cursor : MailboxActorCursor) :
    Except Raised (List MailboxEvent) := do
  (match repo.actorCursors cursor.toCursorBinding with
    | none => pure ()
    | some position => do
      let durable : MailboxActorCursor := ⟨cursor.toCursorBinding, some position⟩
      ensure (durable.lastEventSeq ≤ cursor.lastEventSeq ∧
          durable.lastLogicalSeq ≤ cursor.lastLogicalSeq)
        (mailboxError .invalidSequence "scan cursor is behind the durable actor cursor")
      ensure (cursor.lastEventSeq = durable.lastEventSeq → cursor = durable)
        (mailboxError .digestMismatch "scan cursor conflicts with the durable actor cursor"))
  return (repo.mailboxes cursor.mailboxRef).filter (isNewer cursor)

/-- The checks of `acknowledge_cursor` on a cursor that is not the current one. -/
def acknowledgeable (repo : InMemoryMailboxRepository) (cursor : MailboxActorCursor) :
    Except Raised Unit := do
  let current := repo.durableCursor cursor.toCursorBinding
  ensure (current.lastEventSeq ≤ cursor.lastEventSeq ∧
      current.lastLogicalSeq ≤ cursor.lastLogicalSeq)
    (mailboxError .invalidSequence "acknowledged cursor cannot move backwards")
  ensure (cursor.lastEventSeq ≠ current.lastEventSeq ∧
      cursor.lastLogicalSeq ≠ current.lastLogicalSeq)
    (mailboxError .digestMismatch
      "acknowledged cursor position conflicts with the durable cursor")
  match (repo.mailboxes cursor.mailboxRef).find? (some ·.eventId = cursor.lastEventId) with
  | none =>
    .error (mailboxError .digestMismatch "acknowledged cursor event is not present in the mailbox")
  | some event =>
    cursor.validateEventBinding event
    ensure ((event.eventSeq : Int) = cursor.lastEventSeq ∧
        (event.logicalSeq : Int) = cursor.lastLogicalSeq ∧
        some event.eventDigest.value = cursor.lastEventDigest)
      (mailboxError .digestMismatch "acknowledged cursor does not match the mailbox event")

def acknowledgeCursor (repo : InMemoryMailboxRepository) (cursor : MailboxActorCursor) :
    Except Raised MailboxActorCursor × InMemoryMailboxRepository :=
  if cursor = repo.durableCursor cursor.toCursorBinding then (.ok cursor, repo)
  else match repo.acknowledgeable cursor with
    | .error e => (.error e, repo)
    | .ok () => (.ok cursor, { repo with
        actorCursors := Function.update repo.actorCursors cursor.toCursorBinding cursor.position })

end InMemoryMailboxRepository

end DwSuperApps.Source.Mailbox
