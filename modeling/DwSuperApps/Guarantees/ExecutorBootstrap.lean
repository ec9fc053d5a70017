import DwSuperApps.Guarantees.ProducerCursor
import DwSuperApps.Source.ExecutorEntrypoint

/-!
# Executor start after later commits

A bootstrap looks its event up by the sequence of the pointer and then asks the producer
cursor for it. In every world after a dispatch with cursor it accepts the pointer of the
commit exactly where the event is addressed to the executor and the producer cursor still
stands at the event: a cursor that moved past it does not prove the event any more.
-/
namespace DwSuperApps.Guarantees.ExecutorBootstrap

open DwSuperApps.Lib DwSuperApps.Lib.Checked
open DwSuperApps.Source.Envelope DwSuperApps.Source.Mailbox DwSuperApps.Source.Dispatch
open DwSuperApps.Source.MailboxDispatch DwSuperApps.Source.ExecutorEntrypoint
open DwSuperApps.Source.Mailbox.InMemoryMailboxRepository
open DwSuperApps.Guarantees.MailboxLog DwSuperApps.Guarantees.MailboxChain
open DwSuperApps.Guarantees.DispatchRecords DwSuperApps.Guarantees.ProducerCursor

/-! ## Addressed events -/

/-- The policy expects the identity of the envelope and has not seen the sequence. -/
structure Meets (policy : V2ExecutorValidationPolicy) (e : V2MailboxEnvelope) (seq : Nat) :
    Prop where
  newer : policy.lastSeenEventSeq < seq
  capability : e.recipient.capability = policy.capabilityId
  agent : e.recipient.agentInstance = policy.instanceId
  attempt : e.executionIdentity.attemptId = policy.attemptId
  generation : e.executionIdentity.leaseGeneration = policy.leaseGeneration
  fencing : e.executionIdentity.fencingToken = policy.fencingToken

/-- An execution request for the executor, announced by its producer. -/
structure Addressed (entry : MailboxV2ExecutorEntrypoint) (signal : WakeupSignal)
    (e : V2MailboxEnvelope) (seq : Nat) : Prop where
  recipient : signal.recipient = entry.executorActor
  sender : e.producerNamespace = signal.sender
  direction : e.direction = .controllerToExecutor
  message : e.messageType = .executionRequest
  agent : e.recipient.agentInstance = entry.executorActor
  policy : ∀ policy, entry.validationPolicy = some policy → Meets policy e seq

theorem validatePolicy_ok (policy : V2ExecutorValidationPolicy) (x : MailboxEvent) :
    MailboxV2ExecutorEntrypoint.validatePolicy policy x = .ok () ↔
      Meets policy x.envelope x.eventSeq := by
  unfold MailboxV2ExecutorEntrypoint.validatePolicy
  constructor
  · intro passed
    obtain ⟨_, newer, passed⟩ := bind_ok.mp passed
    obtain ⟨_, capability, passed⟩ := bind_ok.mp passed
    obtain ⟨_, agent, passed⟩ := bind_ok.mp passed
    obtain ⟨_, attempt, passed⟩ := bind_ok.mp passed
    obtain ⟨_, generation, fencing⟩ := bind_ok.mp passed
    exact ⟨ensure_ok.mp newer, ensure_ok.mp capability, ensure_ok.mp agent, ensure_ok.mp attempt,
      ensure_ok.mp generation, ensure_ok.mp fencing⟩
  · intro meets
    rw [ensure_of meets.newer, ok_bind, ensure_of meets.capability, ok_bind,
      ensure_of meets.agent, ok_bind, ensure_of meets.attempt, ok_bind,
      ensure_of meets.generation, ok_bind, ensure_of meets.fencing]

/-- The validation passes where the event is addressed to the executor. -/
theorem validateEvent_ok (entry : MailboxV2ExecutorEntrypoint) (signal : WakeupSignal)
    (x : MailboxEvent) (run : x.envelope.runId = signal.runId)
    (produced : x.producerNamespace = x.envelope.producerNamespace)
    (recipient : signal.recipient = entry.executorActor) :
    entry.validateEvent signal x = .ok () ↔ Addressed entry signal x.envelope x.eventSeq := by
  unfold MailboxV2ExecutorEntrypoint.validateEvent
  rw [ensure_of run, ok_bind, produced]
  constructor
  · intro passed
    obtain ⟨_, sender, passed⟩ := bind_ok.mp passed
    obtain ⟨_, direction, passed⟩ := bind_ok.mp passed
    obtain ⟨_, message, passed⟩ := bind_ok.mp passed
    obtain ⟨_, agent, passed⟩ := bind_ok.mp passed
    refine ⟨recipient, ensure_ok.mp sender, ensure_ok.mp direction, ensure_ok.mp message,
      ensure_ok.mp agent, ?_⟩
    intro policy given
    rw [given] at passed
    exact (validatePolicy_ok policy x).mp passed
  · intro addressed
    rw [ensure_of addressed.sender, ok_bind, ensure_of addressed.direction, ok_bind,
      ensure_of addressed.message, ok_bind, ensure_of addressed.agent, ok_bind]
    cases given : entry.validationPolicy with
    | none => rfl
    | some policy => exact (validatePolicy_ok policy x).mpr (addressed.policy policy given)

/-! ## One bootstrap -/

variable [Sha256]

/-- What a cursor proves: it stands at the event. -/
theorem proves_iff {repo : InMemoryMailboxRepository} (wf : WellFormed repo)
    {e : V2MailboxEnvelope} {c : DispatchCommitted} {x : MailboxEvent} (event : EventOf repo e c x)
    {b : CursorBinding} (mailbox : b.mailboxRef = c.mailboxRef) :
    (¬ ((repo.durableCursor b).lastEventSeq < x.eventSeq ∨
      (repo.durableCursor b).lastEventId ≠ some x.eventId ∨
      (repo.durableCursor b).lastEventDigest ≠ some x.eventDigest.value)) ↔
    (repo.durableCursor b).lastEventSeq = c.mailboxSeq := by
  push Not
  constructor
  · rintro ⟨-, named, -⟩
    unfold MailboxActorCursor.lastEventId at named
    obtain ⟨position, held, same⟩ := Option.map_eq_some_iff.mp named
    obtain ⟨y, member, place, -⟩ := wf.bound b position held
    rw [mailbox] at member
    have id : y.eventId = x.eventId := by
      rw [← same, ← place]
      rfl
    obtain rfl := wf.eq_of_id member event.member id
    unfold MailboxActorCursor.lastEventSeq
    rw [held, ← place, ← event.seq]
    rfl
  · intro stands
    have place := position_at wf event mailbox stands
    refine ⟨?_, congrArg (Option.map CursorPosition.eventId) place,
      congrArg (Option.map CursorPosition.eventDigest) place⟩
    rw [stands, event.seq]

/-- A bootstrap in a world that has the dispatch behind it. -/
theorem bootstrap_iff {w : World} (traced : Traced w) {p : DispatchPrepared}
    {e : V2MailboxEnvelope} {c : DispatchCommitted} (held : Dispatched w p e c)
    (entry : MailboxV2ExecutorEntrypoint) (sender recipient updatedAt : String) :
    (∃ request, entry.bootstrap w.mailbox (signalOf c sender recipient updatedAt) = .ok request) ↔
      Addressed entry (signalOf c sender recipient updatedAt) e c.mailboxSeq ∧
        ProducerAt w.mailbox e c := by
  set signal := signalOf c sender recipient updatedAt with shape
  obtain ⟨x, event⟩ := held.event
  obtain ⟨b, producer⟩ := held.producer
  have wf := traced.mailbox
  have recorded := wf.recorded_of_mem event.member
  have found : (w.mailbox.mailboxes c.mailboxRef).filter
      (fun y => (y.eventSeq : Int) = signal.seq - 1) = [x] := by
    have seq (y : MailboxEvent) : (y.eventSeq : Int) = signal.seq - 1 ↔ y.eventSeq = x.eventSeq := by
      rw [event.seq, shape, signalOf]
      dsimp only
      omega
    refine Keyed.filter_eq (keys_distinct wf _).of_map ?_ event.member ((seq x).mpr rfl)
    intro y inside z other first second
    exact wf.eq_of_seq inside other (((seq y).mp first).trans ((seq z).mp second).symm)
  have run : x.envelope.runId = signal.runId := by
    have whole := (envelope_matches held.matched).2.1
    rw [event.envelope, shape, signalOf, held.identity, ← whole]
    rfl
  have read : w.mailbox.read signal.mailboxRef = .ok (w.mailbox.buildSnapshot c.mailboxRef) := by
    have named : signal.mailboxRef ≠ "" := wf.named event.member
    unfold InMemoryMailboxRepository.read validateRef
    rw [ensure_of named, ok_bind]
    rfl
  have cursor : w.mailbox.readCursor signal.mailboxRef x.envelope.runId x.envelope.nodeId
      x.producerNamespace = .ok (w.mailbox.durableCursor b) := by
    rw [event.envelope, event_producer wf event]
    exact readCursor_producer producer
  rw [producerAt_iff producer, ← proves_iff wf event producer.mailbox]
  have addressed (recipient : signal.recipient = entry.executorActor) :
      entry.validateEvent signal x = .ok () ↔ Addressed entry signal e c.mailboxSeq := by
    rw [validateEvent_ok entry signal x run recorded.producer recipient, event.envelope, event.seq]
  unfold MailboxV2ExecutorEntrypoint.bootstrap
  constructor
  · rintro ⟨request, returned⟩
    obtain ⟨_, recipient, returned⟩ := bind_ok.mp returned
    rw [read, ok_bind] at returned
    simp only [buildSnapshot, found] at returned
    obtain ⟨_, valid, returned⟩ := bind_ok.mp returned
    rw [cursor, ok_bind] at returned
    obtain ⟨_, proves, -⟩ := bind_ok.mp returned
    exact ⟨(addressed (ensure_ok.mp recipient)).mp valid, ensure_ok.mp proves⟩
  · rintro ⟨valid, proves⟩
    refine ⟨⟨signal, x, w.mailbox.durableCursor b⟩, ?_⟩
    rw [ensure_of valid.recipient, ok_bind, read, ok_bind]
    simp only [buildSnapshot, found]
    rw [(addressed valid.recipient).mpr valid, ok_bind, cursor, ok_bind, ensure_of proves]
    rfl

omit [Sha256] in
theorem decided {c : DispatchCommitted} {signal : Option WakeupSignal} {decision : WakeupDecision}
    (made : ((decisionOf c signal).check.map fun _ => decisionOf c signal) = .ok decision) :
    decision.signal = signal := by
  cases checked : (decisionOf c signal).check with
  | error e =>
    rw [checked] at made
    cases made
  | ok u =>
    rw [checked] at made
    cases made
    rfl

omit [Sha256] in
/-- The signal a gate issues for a commit. -/
theorem issued_signal {gate : WakeupGate} {c : DispatchCommitted}
    {sender recipient updatedAt : String} {decision : WakeupDecision} {signal : WakeupSignal}
    (issued : (gate.issue c sender recipient updatedAt).1 = .ok decision)
    (carried : decision.signal = some signal) : signal = signalOf c sender recipient updatedAt := by
  unfold WakeupGate.issue at issued
  split at issued
  · rw [decided issued] at carried
    cases carried
  · dsimp only at issued
    split at issued
    · cases issued
    · rw [decided issued] at carried
      exact (Option.some.inj carried).symm

/-- After a dispatch with cursor that returned and whatever followed, the bootstrap
accepts the pointer its gate issued for the commit exactly where the event is addressed to
the executor and the producer cursor stands at the event. -/
theorem bootstrap_accepts_iff (actor : String) (moves : List Move) (p : DispatchPrepared)
    (e : V2MailboxEnvelope) (committedAt : String) (o : MailboxDispatchOutcome)
    (first : (callAfter actor moves p e committedAt).1 = .ok o) (later : List Move)
    (gate : WakeupGate) (sender recipient updatedAt : String) (decision : WakeupDecision)
    (issued : (gate.issue o.committed sender recipient updatedAt).1 = .ok decision)
    (signal : WakeupSignal) (carried : decision.signal = some signal)
    (entry : MailboxV2ExecutorEntrypoint) :
    let repo := (Runs.run move (callAfter actor moves p e committedAt).2 later).mailbox
    (∃ request, entry.bootstrap repo signal = .ok request) ↔
      Addressed entry signal e o.committed.mailboxSeq ∧ ProducerAt repo e o.committed := by
  obtain ⟨traced, held⟩ := callAfter_returned first later
  obtain rfl := issued_signal issued carried
  exact bootstrap_iff traced held entry sender recipient updatedAt

/-! ## The pointer to the first request -/

omit [Sha256] in
/-- A gate issues a pointer for a commit it has not seen. -/
theorem issue_new {gate : WakeupGate} {c : DispatchCommitted} (unseen : c.committedId ∉ gate)
    (committed : c.committedId ≠ "") (run : strip c.identity.runId ≠ "")
    (ref : strip c.mailboxRef ≠ "") (envelope : c.envelopeDigest ≠ "") (event : c.eventDigest ≠ "")
    {sender recipient updatedAt : String} (sent : strip sender ≠ "")
    (received : strip recipient ≠ "") (timed : strip updatedAt ≠ "") :
    (gate.issue c sender recipient updatedAt).1 =
      .ok (decisionOf c (some (signalOf c sender recipient updatedAt))) := by
  have positive : 0 < (c.mailboxSeq : Int) + 1 := by omega
  have pointed : (signalOf c sender recipient updatedAt).check = .ok () := by
    simp only [WakeupSignal.check, signalOf, Source.ExecutorEntrypoint.requiredText, run, sent,
      received, ref, timed, positive,
      ne_eq, not_false_eq_true, ensure_true, ok_bind]
  have decided : (decisionOf c (some (signalOf c sender recipient updatedAt))).check = .ok () := by
    simp only [WakeupDecision.check, decisionOf, committed, ne_empty_of_strip ref, envelope, event,
      ne_eq, not_false_eq_true, ensure_true, ok_bind]
  unfold WakeupGate.issue
  simp only [if_neg unseen, pointed, decided]
  rfl

theorem first_issued : (WakeupGate.issue [] firstCommit "executor" "controller" "t").1 =
    .ok (decisionOf firstCommit (some (signalOf firstCommit "executor" "controller" "t"))) := by
  have named : committedIdOf requestEnvelope.digest.value ≠ "" := by
    refine ne_empty_of_strip (strip_append (.inr ?_))
    rw [requestEnvelope.digest.strip_value]
    exact requestEnvelope.digest.value_ne_empty
  have run : strip "run" ≠ "" := by decide
  have ref : strip "mailbox" ≠ "" := by decide
  have sent : strip "executor" ≠ "" := by decide
  have received : strip "controller" ≠ "" := by decide
  have timed : strip "t" ≠ "" := by decide
  exact issue_new (c := firstCommit) List.not_mem_nil named run ref
    firstEvent.envelopeDigest.value_ne_empty firstEvent.eventDigest.value_ne_empty sent received
    timed

omit [Sha256] in
/-- The executor the request names, without a policy. -/
def requestEntry : MailboxV2ExecutorEntrypoint := ⟨"controller", none, by decide⟩

theorem first_addressed : Addressed requestEntry (signalOf firstCommit "executor" "controller" "t")
    requestEnvelope firstCommit.mailboxSeq :=
  ⟨rfl, rfl, rfl, rfl, rfl, fun _ given => nomatch given⟩

/-- The first request, its pointer and its cursor after a restart. -/
theorem first_restarted : ∃ o,
    (callAfter "controller" [] DispatchReconcile.requestPrepare.record requestEnvelope "t").1 = .ok o ∧
    (WakeupGate.issue [] o.committed "executor" "controller" "t").1 =
      .ok (decisionOf firstCommit (some (signalOf firstCommit "executor" "controller" "t"))) ∧
    Addressed requestEntry (signalOf firstCommit "executor" "controller" "t") requestEnvelope
      o.committed.mailboxSeq ∧
    ProducerAt (Runs.run move (callAfter "controller" [] DispatchReconcile.requestPrepare.record
      requestEnvelope "t").2 [.step .restart]).mailbox requestEnvelope o.committed := by
  obtain ⟨o, returned, same, mailbox⟩ := first_returned
  refine ⟨o, returned, ?_⟩
  rw [same, mailbox_restarted, mailbox, producerAt_first]
  exact ⟨first_issued, first_addressed, first_stands⟩

omit [Sha256] in
theorem bootstrap_accepts_first : ∃ request, @MailboxV2ExecutorEntrypoint.bootstrap zeroHash
    requestEntry (@Runs.run _ _ (@move zeroHash) (@callAfter zeroHash "controller" []
      (@PrepareRequest.record zeroHash DispatchReconcile.requestPrepare) requestEnvelope "t").2
      [.step .restart]).mailbox (signalOf (@firstCommit zeroHash) "executor" "controller" "t") =
    .ok request := by
  obtain ⟨o, returned, issued, condition⟩ := @first_restarted zeroHash
  exact (@bootstrap_accepts_iff zeroHash _ _ _ _ _ o returned _ _ _ _ _ _ issued _ rfl
    requestEntry).mpr condition

/-- The pointer to the first request after the next event was acknowledged. -/
theorem next_unproved (moved : ((Runs.run perform firstMailbox nextOperations).durableCursor
    requestBinding).lastEventSeq = 1) : ∃ o,
    (callAfter "controller" [] DispatchReconcile.requestPrepare.record requestEnvelope "t").1 = .ok o ∧
    (WakeupGate.issue [] o.committed "executor" "controller" "t").1 =
      .ok (decisionOf firstCommit (some (signalOf firstCommit "executor" "controller" "t"))) ∧
    Addressed requestEntry (signalOf firstCommit "executor" "controller" "t") requestEnvelope
      o.committed.mailboxSeq ∧
    ¬ ∃ request, requestEntry.bootstrap (Runs.run move (callAfter "controller" []
      DispatchReconcile.requestPrepare.record requestEnvelope "t").2
        (nextOperations.map fun op => .step (.mailbox op))).mailbox
      (signalOf firstCommit "executor" "controller" "t") = .ok request := by
  obtain ⟨o, returned, same, mailbox⟩ := first_returned
  refine ⟨o, returned, ?_⟩
  obtain ⟨traced, held⟩ := callAfter_returned returned
    (nextOperations.map fun op => .step (.mailbox op))
  rw [same] at held ⊢
  refine ⟨first_issued, first_addressed, ?_⟩
  rw [bootstrap_iff traced held, run_mailbox, mailbox, producerAt_first, moved]
  exact fun both => absurd both.2 (by decide)

omit [Sha256] in
/-- Once a later event of the producer is acknowledged, an addressed executor is refused. -/
theorem later_event_unproved :
    ¬ ∀ (actor : String) (moves : List Move) (p : DispatchPrepared) (e : V2MailboxEnvelope)
      (committedAt : String) (o : MailboxDispatchOutcome),
      (@callAfter zeroHash actor moves p e committedAt).1 = .ok o →
      ∀ (later : List Move) (gate : WakeupGate) (sender recipient updatedAt : String)
        (decision : WakeupDecision),
      (gate.issue o.committed sender recipient updatedAt).1 = .ok decision →
      ∀ signal, decision.signal = some signal → ∀ entry : MailboxV2ExecutorEntrypoint,
      Addressed entry signal e o.committed.mailboxSeq →
      ∃ request, @MailboxV2ExecutorEntrypoint.bootstrap zeroHash entry
        (@Runs.run _ _ (@move zeroHash) (@callAfter zeroHash actor moves p e committedAt).2
          later).mailbox signal = .ok request := by
  intro all
  have moved : ((@Runs.run _ _ (@perform zeroHash) (@firstMailbox zeroHash)
      nextOperations).durableCursor requestBinding).lastEventSeq = 1 := by decide
  obtain ⟨o, returned, issued, addressed, refused⟩ := @next_unproved zeroHash moved
  exact refused (all _ _ _ _ _ o returned _ _ _ _ _ _ issued _ rfl _ addressed)

end DwSuperApps.Guarantees.ExecutorBootstrap
