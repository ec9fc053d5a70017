import DwSuperApps.Source.Dispatch

/-!
# Mailbox dispatch with cursor

`taskcontroller/controlplane/mailbox_dispatch.py`: one dispatch, a second exact
readback of its receipt and the acknowledgement of the producer cursor.
-/
namespace DwSuperApps.Source.MailboxDispatch

open DwSuperApps.Lib DwSuperApps.Lib.Checked
open DwSuperApps.Source.Envelope DwSuperApps.Source.Mailbox DwSuperApps.Source.Dispatch

structure MailboxDispatchOutcome where
  committed : DispatchCommitted
  cursor : MailboxActorCursor
  verified : committed.readbackVerified = true
  mailbox : cursor.mailboxRef = committed.mailboxRef
  sequence : cursor.lastEventSeq = committed.mailboxSeq
  event : cursor.lastEventId = some committed.eventId
  digest : cursor.lastEventDigest = some committed.eventDigest
  deriving DecidableEq

/-- `__post_init__`. -/
def MailboxDispatchOutcome.make (committed : DispatchCommitted) (cursor : MailboxActorCursor) :
    Except Raised MailboxDispatchOutcome :=
  if verified : committed.readbackVerified = true then
    if mailbox : cursor.mailboxRef = committed.mailboxRef then
      if sequence : cursor.lastEventSeq = committed.mailboxSeq then
        if event : cursor.lastEventId = some committed.eventId then
          if digest : cursor.lastEventDigest = some committed.eventDigest then
            .ok { committed, cursor, verified, mailbox, sequence, event, digest }
          else .error (mailboxError .digestMismatch "outcome cursor digest differs from commit")
        else .error (mailboxError .contractMismatch "outcome cursor event differs from commit")
      else .error (mailboxError .invalidSequence "outcome cursor sequence differs from commit")
    else .error (mailboxError .contractMismatch "outcome cursor mailbox differs from commit")
  else .error (mailboxError .digestMismatch
    "dispatch outcome requires exact-readback-verified commit")

/-- A digest of a commit; its constructor let digests through only. -/
def committedDigest (text name : String) : Except Raised Digest :=
  if valid : isDigest text = true then .ok ⟨text, valid⟩
  else .error (mailboxError .digestMismatch s!"DispatchCommitted.{name} is not a sha256 digest")

/-- `_write_receipt`. -/
def writeReceipt (committed : DispatchCommitted) : Except Raised WriteReceipt := do
  let envelopeDigest ← committedDigest committed.envelopeDigest "envelope_digest"
  let eventDigest ← committedDigest committed.eventDigest "event_digest"
  return {
    mailboxRef := committed.mailboxRef
    eventId := committed.eventId
    eventSeq := committed.mailboxSeq
    messageId := committed.messageId
    envelopeDigest := envelopeDigest
    eventDigest := eventDigest
    idempotent := true }

variable [Sha256]

/-- `_verified_event`. -/
def verifiedEvent (snapshot : MailboxSnapshot) (committed : DispatchCommitted)
    (envelope : V2MailboxEnvelope) : Except Raised MailboxEvent := do
  ensure (snapshot.mailboxRef = committed.mailboxRef) (mailboxError .contractMismatch
    "mailbox readback reference differs from commit")
  match snapshot.events.find? (·.eventId = committed.eventId) with
  | none => .error (mailboxError .digestMismatch "exact readback omitted the committed event")
  | some event => do
    ensure (event.mailboxRef = committed.mailboxRef ∧ event.eventSeq = committed.mailboxSeq ∧
        event.envelopeDigest.value = committed.envelopeDigest ∧
        event.eventDigest.value = committed.eventDigest ∧ event.envelope = envelope ∧
        event.logicalSeq = envelope.seq ∧ event.producerNamespace = envelope.producerNamespace ∧
        event.idempotencyKey = envelope.idempotencyKey)
      (mailboxError .digestMismatch "exact readback event binding differs from commit")
    return event

omit [Sha256] in
def readCursor (mailboxRef runId nodeId actorNamespace : String) :
    Dispatching MailboxActorCursor :=
  .observe fun w => w.mailbox.readCursor mailboxRef runId nodeId actorNamespace

def acknowledgeCursor (cursor : MailboxActorCursor) : Dispatching MailboxActorCursor :=
  .operation fun w =>
    ((w.mailbox.acknowledgeCursor cursor).1, { w with
      mailbox := (w.mailbox.acknowledgeCursor cursor).2 })

/-- The cursor to acknowledge for an event; a cursor past the event stays where it is. -/
def candidateCursor (current : MailboxActorCursor) (event : MailboxEvent) :
    Except Raised MailboxActorCursor :=
  if event.eventSeq < current.lastEventSeq ∧ event.logicalSeq < current.lastLogicalSeq then
    .ok current
  else current.observe event

/-- `_acknowledge_event_cursor`. -/
def acknowledgeEventCursor (event : MailboxEvent) : Dispatching MailboxActorCursor := do
  let current ← readCursor event.mailboxRef event.envelope.runId event.envelope.nodeId
    event.producerNamespace
  let candidate ← candidateCursor current event
  let acknowledged ← acknowledgeCursor candidate
  ensure (acknowledged = candidate) (mailboxError .digestMismatch
    "durable cursor readback differs from candidate")
  return acknowledged

/-- The checks on a commit the protocol returned. -/
def checkCommit (committed : DispatchCommitted) (envelope : V2MailboxEnvelope) :
    Except Raised Unit := do
  ensure (committed.readbackVerified = true) (mailboxError .digestMismatch
    "dispatch protocol returned an unverified commit")
  ensure (committed.envelopeDigest = envelope.digest.value) (mailboxError .digestMismatch
    "commit envelope digest differs from request")
  ensure (committed.messageId = envelope.messageId) (mailboxError .contractMismatch
    "commit message ID differs from request")

/-- `dispatch_v2_with_cursor`. -/
def dispatchV2WithCursor (prepared : DispatchPrepared) (envelope : V2MailboxEnvelope)
    (committedAt : String) : Dispatching MailboxDispatchOutcome := do
  let committed ← dispatch prepared envelope committedAt
  checkCommit committed envelope
  let receipt ← writeReceipt committed
  let snapshot ← exactReadback receipt
  let event ← verifiedEvent snapshot committed envelope
  let cursor ← acknowledgeEventCursor event
  MailboxDispatchOutcome.make committed cursor

end DwSuperApps.Source.MailboxDispatch
