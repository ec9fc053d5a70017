import DwSuperApps.Guarantees.DispatchReconcile
import DwSuperApps.Guarantees.MailboxDelivery
import DwSuperApps.Source.MailboxDispatch

/-!
# Dispatching an envelope again

Histories of prepares, dispatches and reconciliations cut anywhere, restarts, mailbox
calls and audit events. Every commit in the ledger names an event of the mailbox that
carries its identity, and a cached commit is in the ledger.

* `dispatched` — what a dispatch with cursor that returned has left;
* `repeats_iff` — the same envelope sent again returns the same commit and changes
  neither mailbox nor ledger exactly where the producer cursor still stands at its
  event and the process holds no other commit under its key.
-/
namespace DwSuperApps.Guarantees.ProducerCursor

open DwSuperApps.Lib DwSuperApps.Lib.Checked
open DwSuperApps.Lib.Programs (Prog)
open DwSuperApps.Lib.Programs.Prog
open DwSuperApps.Source.Envelope DwSuperApps.Source.Mailbox DwSuperApps.Source.Dispatch
open DwSuperApps.Source.MailboxDispatch
open DwSuperApps.Source.Mailbox.InMemoryMailboxRepository
open DwSuperApps.Guarantees.MailboxLog DwSuperApps.Guarantees.MailboxChain
open DwSuperApps.Guarantees.DispatchRecords

variable [Sha256]

/-! ## Histories -/

omit [Sha256] in
/-- A step of the ledger and the mailbox, or the first operations of a dispatch with
cursor. -/
inductive Move where
  | step (step : Step)
  | dispatch (prepared : DispatchPrepared) (envelope : V2MailboxEnvelope) (committedAt : String)
      (operations : Nat)

def move (w : World) : Move → World
  | .step s => step w s
  | .dispatch p e committedAt operations =>
    ((dispatchV2WithCursor p e committedAt).runFor operations w).2

/-- What follows the dispatch of the protocol. -/
def afterDispatch (e : V2MailboxEnvelope) (c : DispatchCommitted) :
    Dispatching MailboxDispatchOutcome := do
  checkCommit c e
  let receipt ← writeReceipt c
  let snapshot ← exactReadback receipt
  let event ← verifiedEvent snapshot c e
  let cursor ← acknowledgeEventCursor event
  MailboxDispatchOutcome.make c cursor

theorem dispatchV2_eq (p : DispatchPrepared) (e : V2MailboxEnvelope) (committedAt : String) :
    dispatchV2WithCursor p e committedAt = dispatch p e committedAt >>= afterDispatch e := rfl

theorem throughout_afterDispatch {P : World → Prop} (closed : Closed P) {w : World}
    (e : V2MailboxEnvelope) (c : DispatchCommitted) (kept : P w) :
    (afterDispatch e c).Throughout P w := by
  refine throughout_lift kept fun _ _ => throughout_lift kept fun receipt _ => ?_
  refine (throughout_observe kept).bind fun snapshot v _ kept => ?_
  refine throughout_lift kept fun event _ => Throughout.bind ?_ fun cursor v _ kept => .done kept
  refine (throughout_observe kept).bind fun current v _ kept => ?_
  refine throughout_lift kept fun candidate _ => ?_
  refine (throughout_operation kept (closed.mailbox v (.acknowledgeCursor candidate) kept)).bind ?_
  exact fun _ v _ kept => throughout_lift kept fun _ _ => throughout_pure kept

theorem throughout_dispatchV2 {P : World → Prop} (closed : Closed P) {w : World}
    (p : DispatchPrepared) (e : V2MailboxEnvelope) (committedAt : String) (kept : P w) :
    (dispatchV2WithCursor p e committedAt).Throughout P w :=
  (throughout_dispatch closed (fun _ _ _ _ => trivial) e committedAt kept).bind fun c _ _ kept =>
    throughout_afterDispatch closed e c kept

theorem closed_move {P : World → Prop} (closed : Closed P) {w : World} (kept : P w) (m : Move) :
    P (move w m) := by
  cases m with
  | step s => exact closed_step closed kept s
  | dispatch p e committedAt operations =>
    exact (throughout_dispatchV2 closed p e committedAt kept).runFor operations

theorem closed_run {P : World → Prop} (closed : Closed P) {w : World} (kept : P w)
    (moves : List Move) : P (Runs.run move w moves) := by
  have preserved : ∀ w m, P w → P (move w m) := fun _ m kept => closed_move closed kept m
  exact Runs.run_invariant_of_forall preserved moves kept

/-! ## Traces of commits -/

/-- The commits of the ledger are backed, the cached ones are recorded. -/
structure Traced (w : World) : Prop extends Kept w where
  backed : ∀ runId, ∀ row ∈ w.ledger runId, ∀ c, row.record = .committed c → Backed w.mailbox c
  cached : ∀ key c, w.committed key = some c → key = keyOf c ∧ InLedger w.ledger c

theorem traced_start (actor : String) : Traced { actor := actor } where
  mailbox := WellFormed.empty
  ledger := LedgerSound.empty
  backed _ _ member := nomatch member
  cached _ _ held := nomatch held

/-- A world after another one: nothing of the log or of the ledger is lost. -/
structure Later (w v : World) : Prop where
  traced : Traced v
  grown : Extends w.mailbox v.mailbox
  appended : ∀ runId, w.ledger runId <+: v.ledger runId

theorem Later.refl {w : World} (traced : Traced w) : Later w w where
  traced := traced
  grown := Extends.refl w.mailbox
  appended _ := List.prefix_rfl

theorem perform_extends {repo : InMemoryMailboxRepository} (wf : WellFormed repo)
    (op : Operation) : Extends repo (perform repo op) := by
  cases op with
  | write ref expectedSeq envelope expected =>
    exact (write_wellFormed wf ref expectedSeq envelope expected).2
  | acknowledgeCursor cursor =>
    intro ref
    have logs := (acknowledge_wellFormed wf cursor).2
    change _ <+: (repo.acknowledgeCursor cursor).2.mailboxes ref
    simp only [logs, List.prefix_rfl]
  | read _ => exact Extends.refl repo
  | exactReadback _ => exact Extends.refl repo
  | readCursor _ _ _ _ => exact Extends.refl repo
  | scanAfterCursor _ => exact Extends.refl repo

omit [Sha256] in
theorem backed_grow {before after : InMemoryMailboxRepository} (grown : Extends before after)
    {c : DispatchCommitted} (backed : Backed before c) : Backed after c := by
  obtain ⟨x, member, facts⟩ := backed
  exact ⟨x, grown.mem member, facts⟩

omit [Sha256] in
theorem inLedger_grow {before after : RunLedger}
    (appended : ∀ runId, before runId <+: after runId) {c : DispatchCommitted}
    (recorded : InLedger before c) : InLedger after c := by
  obtain ⟨row, member, shape⟩ := recorded
  exact ⟨row, (appended _).subset member, shape⟩

/-- Nothing a call does loses a commit or its event. -/
theorem closed_later (w : World) : Closed (Later w) where
  mailbox v op later := by
    have grown := perform_extends later.traced.mailbox op
    refine ⟨⟨⟨perform_wellFormed later.traced.mailbox op, later.traced.ledger⟩, ?_,
      later.traced.cached⟩, later.grown.trans grown, later.appended⟩
    exact fun runId row member c shape => backed_grow grown (later.traced.backed runId row member c shape)
  record v event later _ filed backed := by
    obtain ⟨appended, rows⟩ := recorded_rows v.ledger event
    refine ⟨⟨⟨later.traced.mailbox, later.traced.ledger.appendOrReadback filed⟩, ?_, ?_⟩,
      later.grown, fun runId => (later.appended runId).trans (appended runId)⟩
    · intro runId row member c shape
      rcases rows runId row member with held | rfl
      · exact later.traced.backed runId row held c shape
      · exact backed c shape
    · intro key c held
      obtain ⟨same, recorded⟩ := later.traced.cached key c held
      exact ⟨same, inLedger_grow appended recorded⟩
  prepared v p later _ :=
    ⟨⟨later.traced.toKept.congr rfl rfl, later.traced.backed, later.traced.cached⟩, later.grown,
      later.appended⟩
  committed v c later recorded := by
    refine ⟨⟨later.traced.toKept.congr rfl rfl, later.traced.backed, ?_⟩, later.grown,
      later.appended⟩
    intro key held found
    by_cases here : key = keyOf c
    · subst here
      change Function.update v.committed (keyOf c) (some c) (keyOf c) = some held at found
      rw [Function.update_self] at found
      cases found
      exact ⟨rfl, recorded⟩
    · change Function.update v.committed (keyOf c) (some c) key = some held at found
      rw [Function.update_of_ne here] at found
      exact later.traced.cached key held found
  restart v later :=
    ⟨⟨later.traced.toKept.congr rfl rfl, later.traced.backed, fun _ _ held => nomatch held⟩,
      later.grown, later.appended⟩

theorem traced_run (actor : String) (moves : List Move) :
    Traced (Runs.run move { actor := actor } moves) :=
  (closed_run (closed_later _) (Later.refl (traced_start actor)) moves).traced

/-! ## The producer cursor -/

omit [Sha256] in
/-- The binding of an envelope's producer in a mailbox. -/
structure ProducerBinding (ref : String) (e : V2MailboxEnvelope) (b : CursorBinding) : Prop where
  mailbox : b.mailboxRef = ref
  run : b.runId = e.runId
  node : b.nodeId = e.nodeId
  actor : b.actorNamespace = e.producerNamespace

omit [Sha256] in
theorem ProducerBinding.unique {ref : String} {e : V2MailboxEnvelope} {b d : CursorBinding}
    (first : ProducerBinding ref e b) (second : ProducerBinding ref e d) : b = d := by
  obtain ⟨mailbox, run, node, actor, _⟩ := b
  obtain ⟨rfl, rfl, rfl, rfl⟩ := first
  obtain ⟨same_mailbox, same_run, same_node, same_actor⟩ := second
  cases d
  simp_all

omit [Sha256] in
/-- What a read cursor is. -/
theorem readCursor_returned {repo : InMemoryMailboxRepository} {ref : String}
    {e : V2MailboxEnvelope} {k : MailboxActorCursor}
    (read : repo.readCursor ref e.runId e.nodeId e.producerNamespace = .ok k) :
    ∃ b, ProducerBinding ref e b ∧ k = repo.durableCursor b := by
  unfold InMemoryMailboxRepository.readCursor at read
  obtain ⟨_, _, read⟩ := bind_ok.mp read
  obtain ⟨start, built, read⟩ := bind_ok.mp read
  unfold MailboxActorCursor.initial at built
  split at built
  · cases built
  · split at built
    · cases built
    · split at built
      · cases built
      · split at built
        · cases built
        · cases built
          exact ⟨_, ⟨rfl, rfl, rfl, rfl⟩, (Except.ok.inj read).symm⟩

omit [Sha256] in
theorem readCursor_producer {repo : InMemoryMailboxRepository} {ref : String}
    {e : V2MailboxEnvelope} {b : CursorBinding} (producer : ProducerBinding ref e b) :
    repo.readCursor ref e.runId e.nodeId e.producerNamespace = .ok (repo.durableCursor b) := by
  obtain ⟨rfl, run, node, actor⟩ := producer
  rw [← run, ← node, ← actor]
  exact MailboxDelivery.readCursor_binding repo b

omit [Sha256] in
/-- The durable cursor of the producer stands at the sequence of the commit. -/
def ProducerAt (repo : InMemoryMailboxRepository) (e : V2MailboxEnvelope) (c : DispatchCommitted) :
    Prop :=
  ∃ k, repo.readCursor c.mailboxRef e.runId e.nodeId e.producerNamespace = .ok k ∧
    k.lastEventSeq = c.mailboxSeq

omit [Sha256] in
theorem producerAt_iff {repo : InMemoryMailboxRepository} {e : V2MailboxEnvelope}
    {c : DispatchCommitted} {b : CursorBinding} (producer : ProducerBinding c.mailboxRef e b) :
    ProducerAt repo e c ↔ (repo.durableCursor b).lastEventSeq = c.mailboxSeq := by
  unfold ProducerAt
  rw [readCursor_producer producer]
  constructor
  · rintro ⟨k, same, stands⟩
    cases same
    exact stands
  · exact fun stands => ⟨_, rfl, stands⟩

/-- The event of a commit. -/
structure EventOf (repo : InMemoryMailboxRepository) (e : V2MailboxEnvelope)
    (c : DispatchCommitted) (x : MailboxEvent) : Prop where
  member : x ∈ repo.mailboxes c.mailboxRef
  id : x.eventId = c.eventId
  seq : x.eventSeq = c.mailboxSeq
  envelopeDigest : x.envelopeDigest.value = c.envelopeDigest
  eventDigest : x.eventDigest.value = c.eventDigest
  envelope : x.envelope = e

/-- A cursor at the sequence of an event is at the event. -/
theorem position_at {repo : InMemoryMailboxRepository} (wf : WellFormed repo)
    {e : V2MailboxEnvelope} {c : DispatchCommitted} {x : MailboxEvent}
    (event : EventOf repo e c x) {b : CursorBinding} (mailbox : b.mailboxRef = c.mailboxRef)
    (stands : (repo.durableCursor b).lastEventSeq = c.mailboxSeq) :
    (repo.durableCursor b).position = some (MailboxActorCursor.positionAt x) := by
  unfold InMemoryMailboxRepository.durableCursor at stands ⊢
  unfold MailboxActorCursor.lastEventSeq at stands
  dsimp only at stands ⊢
  cases held : repo.actorCursors b with
  | none =>
    rw [held] at stands
    simp only [Option.elim_none] at stands
    omega
  | some p =>
    obtain ⟨y, member, rfl, -⟩ := wf.bound b p held
    rw [held] at stands
    have seq : y.eventSeq = x.eventSeq := by
      rw [event.seq]
      exact Int.ofNat_inj.mp stands
    rw [mailbox] at member
    rw [wf.eq_of_seq member event.member seq]

/-- What acknowledging an event returns is durable. -/
theorem acknowledge_returned {w v : World} {x : MailboxEvent} {e : V2MailboxEnvelope}
    {k : MailboxActorCursor} (carries : x.envelope = e)
    (namespaced : x.producerNamespace = e.producerNamespace)
    (ran : (acknowledgeEventCursor x).run w = (.ok k, v)) :
    ∃ b, ProducerBinding x.mailboxRef e b ∧ k = v.mailbox.durableCursor b := by
  obtain ⟨current, read, ran⟩ := run_observe_returned.mp ran
  obtain ⟨candidate, chosen, ran⟩ := run_lift_returned.mp ran
  obtain ⟨acknowledged, u, acked, ran⟩ := run_bind_returned.mp ran
  obtain ⟨_, same, ran⟩ := run_lift_returned.mp ran
  obtain ⟨returned, rfl⟩ := Prod.mk.inj ran
  cases returned
  obtain rfl : k = candidate := ensure_ok.mp same
  rw [carries, namespaced] at read
  obtain ⟨b, producer, rfl⟩ := readCursor_returned read
  have binding : k.toCursorBinding = b := by
    unfold candidateCursor at chosen
    split at chosen
    · cases chosen
      rfl
    · unfold MailboxActorCursor.observe at chosen
      obtain ⟨_, _, chosen⟩ := bind_ok.mp chosen
      split at chosen
      · cases chosen
        rfl
      · obtain ⟨_, _, chosen⟩ := bind_ok.mp chosen
        obtain ⟨_, _, chosen⟩ := bind_ok.mp chosen
        cases chosen
        rfl
  refine ⟨b, producer, ?_⟩
  obtain ⟨outcome, rfl⟩ := Prod.mk.inj acked
  change (w.mailbox.acknowledgeCursor k).1 = .ok k at outcome
  change k = (w.mailbox.acknowledgeCursor k).2.durableCursor b
  rcases acknowledge_cases w.mailbox k with
    ⟨failure, refused⟩ | ⟨durable, kept⟩ | ⟨y, _, place, _, _, _, _, moved⟩
  · rw [refused] at outcome
    cases outcome
  · rw [kept]
    exact binding ▸ durable
  · rw [moved]
    unfold InMemoryMailboxRepository.durableCursor
    change _ = (⟨b, Function.update w.mailbox.actorCursors k.toCursorBinding
      k.position b⟩ : MailboxActorCursor)
    rw [binding, Function.update_self, ← binding]

/-! ## One call -/

/-- What a dispatch with cursor that returned has left. -/
structure Dispatched (w : World) (p : DispatchPrepared) (e : V2MailboxEnvelope)
    (c : DispatchCommitted) : Prop where
  matched : assertEnvelopeMatches p e = .ok ()
  passed : checkCommit c e = .ok ()
  identity : c.identity = p.identity
  recorded : InLedger w.ledger c
  event : ∃ x, EventOf w.mailbox e c x
  producer : ∃ b, ProducerBinding c.mailboxRef e b

theorem Dispatched.grow {w v : World} {p : DispatchPrepared} {e : V2MailboxEnvelope}
    {c : DispatchCommitted} (held : Dispatched w p e c) (later : Later w v) :
    Dispatched v p e c := by
  refine { held with recorded := inLedger_grow later.appended held.recorded, event := ?_ }
  obtain ⟨x, event⟩ := held.event
  exact ⟨x, { event with member := later.grown.mem event.member }⟩

/-- A dispatch that returned has its commit in the cache. -/
theorem dispatch_returned {w v : World} {p : DispatchPrepared} {e : V2MailboxEnvelope}
    {committedAt : String} {c : DispatchCommitted}
    (ran : (dispatch p e committedAt).run w = (.ok c, v)) :
    assertEnvelopeMatches p e = .ok () ∧ v.committed p.key = some c := by
  obtain ⟨_, matched, ran⟩ := run_lift_returned.mp ran
  refine ⟨matched, ?_⟩
  obtain ⟨cached, seen, ran⟩ := run_observe_returned.mp ran
  cases cached with
  | some held =>
    obtain ⟨returned, rfl⟩ := Prod.mk.inj ran
    cases returned
    exact Except.ok.inj seen
  | none =>
    obtain ⟨rows, -, ran⟩ := run_observe_returned.mp ran
    cases found : findEvent rows (committedIdOf p.envelopeDigest) with
    | some existing =>
      simp only [found] at ran
      obtain ⟨_, -, ran⟩ := run_lift_returned.mp ran
      obtain ⟨_, -, ran⟩ := run_lift_returned.mp ran
      obtain ⟨_, u, stored, ran⟩ := run_bind_returned.mp ran
      obtain ⟨returned, rfl⟩ := Prod.mk.inj ran
      cases returned
      obtain ⟨-, rfl⟩ := Prod.mk.inj stored
      exact Function.update_self _ _ _
    | none =>
      simp only [found] at ran
      obtain ⟨receipt, u, -, ran⟩ := run_bind_returned.mp ran
      obtain ⟨_, t, -, ran⟩ := run_bind_returned.mp ran
      obtain ⟨_, u, stored, ran⟩ := run_bind_returned.mp ran
      obtain ⟨returned, rfl⟩ := Prod.mk.inj ran
      cases returned
      obtain ⟨-, rfl⟩ := Prod.mk.inj stored
      exact Function.update_self _ _ _

/-- What a verified event says. -/
theorem verifiedEvent_ok {repo : InMemoryMailboxRepository} {e : V2MailboxEnvelope}
    {c : DispatchCommitted} {x : MailboxEvent}
    (passed : verifiedEvent (repo.buildSnapshot c.mailboxRef) c e = .ok x) :
    EventOf repo e c x ∧ x.mailboxRef = c.mailboxRef ∧
      x.producerNamespace = e.producerNamespace := by
  unfold verifiedEvent at passed
  obtain ⟨_, -, passed⟩ := bind_ok.mp passed
  split at passed
  · cases passed
  · next y found =>
    obtain ⟨_, agrees, passed⟩ := bind_ok.mp passed
    cases passed
    obtain ⟨mailbox, seq, envelopeDigest, eventDigest, same, -, producer, -⟩ := ensure_ok.mp agrees
    have named := List.find?_some found
    exact ⟨⟨List.mem_of_find?_eq_some found, of_decide_eq_true named, seq, envelopeDigest,
      eventDigest, same⟩, mailbox, producer⟩

omit [Sha256] in
/-- What the receipt of a commit is. -/
theorem writeReceipt_ok {c : DispatchCommitted} {receipt : WriteReceipt}
    (built : writeReceipt c = .ok receipt) : receipt.mailboxRef = c.mailboxRef := by
  unfold writeReceipt at built
  obtain ⟨_, _, built⟩ := bind_ok.mp built
  obtain ⟨_, _, built⟩ := bind_ok.mp built
  cases built
  rfl

omit [Sha256] in
theorem make_ok {c : DispatchCommitted} {k : MailboxActorCursor} {o : MailboxDispatchOutcome}
    (made : MailboxDispatchOutcome.make c k = .ok o) : o.committed = c ∧ o.cursor = k := by
  unfold MailboxDispatchOutcome.make at made
  repeat' split at made
  all_goals cases made
  exact ⟨rfl, rfl⟩

/-- What the rest of a call that returned has checked and left. -/
theorem afterDispatch_returned {w v : World} {e : V2MailboxEnvelope} {c : DispatchCommitted}
    {o : MailboxDispatchOutcome} (ran : (afterDispatch e c).run w = (.ok o, v)) :
    o.committed = c ∧ checkCommit c e = .ok () ∧ (∃ x, EventOf w.mailbox e c x) ∧
      ∃ b, ProducerBinding c.mailboxRef e b ∧
        (v.mailbox.durableCursor b).lastEventSeq = c.mailboxSeq := by
  obtain ⟨_, passed, ran⟩ := run_lift_returned.mp ran
  obtain ⟨receipt, built, ran⟩ := run_lift_returned.mp ran
  obtain ⟨snapshot, read, ran⟩ := run_observe_returned.mp ran
  obtain ⟨x, named, ran⟩ := run_lift_returned.mp ran
  obtain ⟨k, u, acknowledged, made⟩ := run_bind_returned.mp ran
  obtain ⟨valid, rfl⟩ := Prod.mk.inj made
  obtain ⟨same, cursor⟩ := make_ok valid
  have shown := readback_snapshot read
  rw [writeReceipt_ok built] at shown
  rw [shown] at named
  obtain ⟨event, mailbox, producer⟩ := verifiedEvent_ok named
  obtain ⟨b, binding, durable⟩ := acknowledge_returned event.envelope producer acknowledged
  refine ⟨same, passed, ⟨x, event⟩, b, mailbox ▸ binding, ?_⟩
  rw [← durable, ← cursor, o.sequence, same]

theorem dispatched {w v : World} (traced : Traced w) {p : DispatchPrepared}
    {e : V2MailboxEnvelope} {committedAt : String} {o : MailboxDispatchOutcome}
    (ran : (dispatchV2WithCursor p e committedAt).run w = (.ok o, v)) :
    Traced v ∧ Dispatched v p e o.committed := by
  rw [dispatchV2_eq] at ran
  obtain ⟨c, u, first, rest⟩ := run_bind_returned.mp ran
  have there : Traced u := by
    have kept : Later w ((dispatch p e committedAt).run w).2 :=
      (throughout_dispatch (closed_later w) (fun _ _ _ _ => trivial) e committedAt
        (Later.refl traced)).run
    rw [first] at kept
    exact kept.traced
  have later : Later u v := by
    have kept := (throughout_afterDispatch (closed_later u) e c (Later.refl there)).run
    rw [rest] at kept
    exact kept
  obtain ⟨matched, cached⟩ := dispatch_returned first
  obtain ⟨rfl, passed, ⟨x, event⟩, b, binding, -⟩ := afterDispatch_returned rest
  obtain ⟨-, recorded⟩ := there.cached _ _ cached
  refine ⟨later.traced, Dispatched.grow ?_ later⟩
  refine ⟨matched, passed, ?_, recorded, ⟨x, event⟩, b, binding⟩
  obtain ⟨row, member, shape⟩ := recorded
  obtain ⟨y, held, named, carries⟩ := there.backed _ row member _ shape
  obtain rfl := there.mailbox.eq_of_id held event.member (named.trans event.id.symm)
  rw [← carries, event.envelope]
  exact (envelope_matches matched).2.1

/-! ## The protocol again -/

section Protocol
variable {w : World} {p : DispatchPrepared} {e : V2MailboxEnvelope} {c : DispatchCommitted}

/-- The protocol finds the commit in its cache or in the ledger. -/
theorem dispatch_again (traced : Traced w) (held : Dispatched w p e c) (again : String) :
    (∃ other, w.committed p.key = some other ∧ (dispatch p e again).run w = (.ok other, w)) ∨
    (w.committed p.key = none ∧ c.preparedId = p.preparedId ∧
      ∃ cache, (dispatch p e again).run w = (.ok c, { w with committed := cache })) ∨
    (w.committed p.key = none ∧ c.preparedId ≠ p.preparedId ∧
      ∃ failure, (dispatch p e again).run w = (.error failure, w)) := by
  cases cached : w.committed p.key with
  | some other =>
    exact .inl ⟨other, rfl, DispatchReconcile.run_dispatch_cached held.matched again cached⟩
  | none =>
    obtain ⟨row, member, shape⟩ := held.recorded
    have filed := traced.ledger.filed _ row member
    unfold Filed at filed
    rw [shape] at filed
    obtain ⟨_, -, passed⟩ := bind_ok.mp held.passed
    obtain ⟨_, digest, -⟩ := bind_ok.mp passed
    have found : findEvent (w.ledger p.runId) (committedIdOf p.envelopeDigest) = some row := by
      have here := traced.ledger.find member
      rw [filed.1, ensure_ok.mp digest, (envelope_matches held.matched).2.2, held.identity] at here
      exact here
    have read : (cachedCommitted p.key).run w = (.ok none, w) := by
      rw [run_cachedCommitted, cached]
    have start : (dispatch p e again).run w = (do
        assertSameCommit p e c
        cacheCommitted p.key c
        return c : Dispatching DispatchCommitted).run w := by
      refine (run_lift_ok held.matched).trans ?_
      refine (run_bind_ok read).trans ?_
      refine (run_bind_ok (run_ledgerEvents w p.runId)).trans ?_
      simp only [found]
      have parsed : committedFromEvent row = .ok c := by
        unfold committedFromEvent
        rw [shape]
      exact run_lift_ok parsed
    by_cases binds : c.preparedId = p.preparedId
    · refine .inr (.inl ⟨rfl, binds, Function.update w.committed p.key (some c), start.trans ?_⟩)
      have same : assertSameCommit p e c = .ok () :=
        bind_ok.mpr ⟨(), ensure_of binds _, ensure_of ⟨held.identity, ensure_ok.mp digest⟩ _⟩
      exact (run_lift_ok same).trans rfl
    · have other : ∃ failure, assertSameCommit p e c = .error failure := by
        unfold assertSameCommit
        rw [ensure_error binds]
        exact ⟨_, rfl⟩
      obtain ⟨failure, refused⟩ := other
      exact .inr (.inr ⟨rfl, binds, failure, start.trans (run_lift_error refused)⟩)

/-- The process knows no other commit for the key, and the one of the ledger names the
prepared record. -/
def Answers (w : World) (p : DispatchPrepared) (c : DispatchCommitted) : Prop :=
  match w.committed p.key with
  | some held => held = c
  | none => c.preparedId = p.preparedId

end Protocol

/-! ## A cursor that is not past the event -/

/-- The mailbox with a durable cursor at an event. -/
def cursorAt (repo : InMemoryMailboxRepository) (b : CursorBinding) (x : MailboxEvent) :
    InMemoryMailboxRepository :=
  { repo with
    actorCursors := Function.update repo.actorCursors b (some (MailboxActorCursor.positionAt x)) }

theorem cursorAt_self {repo : InMemoryMailboxRepository} {b : CursorBinding} {x : MailboxEvent}
    (place : repo.actorCursors b = some (MailboxActorCursor.positionAt x)) :
    cursorAt repo b x = repo := by
  unfold cursorAt
  rw [← place, Function.update_eq_self]

section Behind
variable {w : World} {e : V2MailboxEnvelope} {c : DispatchCommitted} {x : MailboxEvent}
  (wf : WellFormed w.mailbox) (event : EventOf w.mailbox e c x) {b : CursorBinding}
  (producer : ProducerBinding c.mailboxRef e b)
  (behind : (w.mailbox.durableCursor b).lastEventSeq ≤ c.mailboxSeq)
include wf event

theorem writeReceipt_event (message : c.messageId = e.messageId) :
    writeReceipt c = .ok (receiptOf x true) := by
  have digestOf (d : Digest) (name : String) : committedDigest d.value name = .ok d :=
    dif_pos d.digest
  have recorded := wf.recorded_of_mem event.member
  unfold writeReceipt
  rw [← event.envelopeDigest, ← event.eventDigest, digestOf, digestOf]
  simp only [Checked.ok_bind, receiptOf, recorded.mailbox, event.id, event.seq, event.envelope,
    message]
  rfl

theorem event_producer : x.producerNamespace = e.producerNamespace := by
  rw [(wf.recorded_of_mem event.member).producer, event.envelope]

theorem verifiedEvent_event : verifiedEvent (w.mailbox.buildSnapshot c.mailboxRef) c e = .ok x := by
  have recorded := wf.recorded_of_mem event.member
  have found := wf.find_id event.member
  have logical : x.logicalSeq = e.seq := by rw [recorded.logical, event.envelope]
  have key : x.idempotencyKey = e.idempotencyKey := by rw [recorded.key, event.envelope]
  rw [event.id] at found
  unfold verifiedEvent
  simp only [buildSnapshot, ensure_true, Checked.ok_bind, found]
  rw [ensure_of ⟨recorded.mailbox, event.seq, event.envelopeDigest, event.eventDigest,
    event.envelope, logical, event_producer wf event, key⟩]
  rfl

include producer

theorem event_bound : Bound w.mailbox b (MailboxActorCursor.positionAt x) := by
  refine ⟨x, producer.mailbox.symm ▸ event.member, rfl, ?_, ?_, ?_⟩
  · rw [event.envelope, producer.run]
  · rw [event.envelope, producer.node]
  · rw [event_producer wf event, producer.actor]

include behind

/-- The cursor stands at the event already, or the event is newer. -/
theorem cursor_cases :
    w.mailbox.durableCursor b = ⟨b, some (MailboxActorCursor.positionAt x)⟩ ∨
      ((w.mailbox.durableCursor b).lastEventSeq < x.eventSeq ∧
        (w.mailbox.durableCursor b).lastLogicalSeq < x.logicalSeq) := by
  rw [← event.seq] at behind
  rcases lt_or_eq_of_le behind with before | stands
  · let reached : MailboxActorCursor := ⟨b, some (MailboxActorCursor.positionAt x)⟩
    refine .inr ⟨before, MailboxDelivery.forward_of_event (d := reached) wf (wf.bound b) ?_ before⟩
    intro p held
    cases held
    exact event_bound wf event producer
  · rw [event.seq] at stands
    have place := position_at wf event producer.mailbox stands
    exact .inl (congrArg (MailboxActorCursor.mk b) place)

theorem candidateCursor_event : candidateCursor (w.mailbox.durableCursor b) x =
    .ok ⟨b, some (MailboxActorCursor.positionAt x)⟩ := by
  have recorded := wf.recorded_of_mem event.member
  have mailbox : x.mailboxRef = b.mailboxRef := recorded.mailbox.trans producer.mailbox.symm
  have run : x.envelope.runId = b.runId := by rw [event.envelope, producer.run]
  have node : x.envelope.nodeId = b.nodeId := by rw [event.envelope, producer.node]
  have actor : x.producerNamespace = b.actorNamespace := by
    rw [event_producer wf event, producer.actor]
  have reached : ¬ ((x.eventSeq : Int) < (w.mailbox.durableCursor b).lastEventSeq ∧
      (x.logicalSeq : Int) < (w.mailbox.durableCursor b).lastLogicalSeq) := by
    rw [← event.seq] at behind
    omega
  unfold candidateCursor
  rw [if_neg reached]
  rcases cursor_cases wf event producer behind with stands | ⟨seq, logical⟩
  · rw [stands]
    unfold MailboxActorCursor.observe MailboxActorCursor.validateEventBinding
    rw [ensure_of mailbox, Checked.ok_bind, ensure_of ⟨run, node, actor⟩, Checked.ok_bind,
      if_pos rfl]
    rfl
  · exact MailboxDelivery.observe_newer mailbox run node actor seq logical

theorem acknowledgeCursor_event :
    w.mailbox.acknowledgeCursor ⟨b, some (MailboxActorCursor.positionAt x)⟩ =
      (.ok ⟨b, some (MailboxActorCursor.positionAt x)⟩, cursorAt w.mailbox b x) := by
  rcases cursor_cases wf event producer behind with stands | ⟨seq, _⟩
  · have place := congrArg MailboxActorCursor.position stands
    rw [cursorAt_self place]
    exact if_pos stands.symm
  · have moved : (⟨b, some (MailboxActorCursor.positionAt x)⟩ : MailboxActorCursor) ≠
        w.mailbox.durableCursor b := by
      intro same
      rw [← same] at seq
      exact lt_irrefl _ seq
    have admissible : w.mailbox.acknowledgeable
        ⟨b, some (MailboxActorCursor.positionAt x)⟩ = .ok () := by
      refine MailboxDelivery.acknowledgeable_later wf ?_ seq
      intro p held
      cases held
      exact event_bound wf event producer
    unfold InMemoryMailboxRepository.acknowledgeCursor
    rw [if_neg moved, admissible]
    rfl

theorem acknowledgeEventCursor_event : (acknowledgeEventCursor x).run w =
    (.ok ⟨b, some (MailboxActorCursor.positionAt x)⟩,
      { w with mailbox := cursorAt w.mailbox b x }) := by
  have read : (readCursor x.mailboxRef x.envelope.runId x.envelope.nodeId
      x.producerNamespace).run w = (.ok (w.mailbox.durableCursor b), w) := by
    rw [(wf.recorded_of_mem event.member).mailbox, event.envelope, event_producer wf event]
    exact congrArg (·, w) (readCursor_producer producer)
  have acknowledged : (acknowledgeCursor ⟨b, some (MailboxActorCursor.positionAt x)⟩).run w =
      (.ok ⟨b, some (MailboxActorCursor.positionAt x)⟩,
        { w with mailbox := cursorAt w.mailbox b x }) := by
    unfold Source.MailboxDispatch.acknowledgeCursor
    rw [run_operation, acknowledgeCursor_event wf event producer behind]
  refine (run_bind_ok read).trans ?_
  refine (run_lift_ok (candidateCursor_event wf event producer behind)).trans ?_
  refine (run_bind_ok acknowledged).trans ?_
  exact (run_lift_ok (ensure_of rfl _)).trans rfl

omit wf behind in
theorem make_event (verified : c.readbackVerified = true) : ∃ o, MailboxDispatchOutcome.make c
    ⟨b, some (MailboxActorCursor.positionAt x)⟩ = .ok o ∧ o.committed = c := by
  have sequence : ((x.eventSeq : Nat) : Int) = c.mailboxSeq := congrArg _ event.seq
  have id : some x.eventId = some c.eventId := congrArg some event.id
  have digest : some x.eventDigest.value = some c.eventDigest := congrArg some event.eventDigest
  unfold MailboxDispatchOutcome.make
  rw [dif_pos verified, dif_pos producer.mailbox]
  exact ⟨_, (dif_pos sequence).trans ((dif_pos id).trans (dif_pos digest)), rfl⟩

/-- Where the producer cursor is not past the commit, the call moves it there. -/
theorem afterDispatch_event (passed : checkCommit c e = .ok ()) :
    ∃ o, (afterDispatch e c).run w = (.ok o, { w with mailbox := cursorAt w.mailbox b x }) ∧
      o.committed = c := by
  obtain ⟨_, verified, rest⟩ := bind_ok.mp passed
  obtain ⟨_, -, message⟩ := bind_ok.mp rest
  obtain ⟨o, made, same⟩ := make_event event producer (ensure_ok.mp verified)
  refine ⟨o, ?_, same⟩
  have readback : (exactReadback (receiptOf x true)).run w =
      (.ok (w.mailbox.buildSnapshot c.mailboxRef), w) :=
    congrArg (·, w) (wf.readback event.member true)
  refine (run_lift_ok passed).trans ?_
  refine (run_lift_ok (writeReceipt_event wf event (ensure_ok.mp message))).trans ?_
  refine (run_bind_ok readback).trans ((run_lift_ok (verifiedEvent_event wf event)).trans ?_)
  refine (run_bind_ok (acknowledgeEventCursor_event wf event producer behind)).trans ?_
  rw [made]
  rfl

end Behind

/-! ## The same envelope again -/

section Again
variable {w : World} {p : DispatchPrepared} {e : V2MailboxEnvelope} {c : DispatchCommitted}

/-- The call returns the commit and leaves mailbox and ledger. -/
def Repeats (w : World) (p : DispatchPrepared) (e : V2MailboxEnvelope) (again : String)
    (c : DispatchCommitted) : Prop :=
  ∃ o v, (dispatchV2WithCursor p e again).run w = (.ok o, v) ∧ o.committed = c ∧
    v.mailbox = w.mailbox ∧ v.ledger = w.ledger

theorem repeats_iff (traced : Traced w) (held : Dispatched w p e c) (again : String) :
    Repeats w p e again c ↔ ProducerAt w.mailbox e c ∧ Answers w p c := by
  unfold Answers
  constructor
  · rintro ⟨o, v, ran, same, mailbox, -⟩
    rw [dispatchV2_eq] at ran
    obtain ⟨found, u, first, rest⟩ := run_bind_returned.mp ran
    obtain ⟨returned, -, -, b, producer, stands⟩ := afterDispatch_returned rest
    obtain rfl : found = c := returned.symm.trans same
    have place : ProducerAt w.mailbox e found := by
      rw [mailbox] at stands
      exact (producerAt_iff producer).mpr stands
    refine ⟨place, ?_⟩
    rcases dispatch_again traced held again with
      ⟨other, cached, outcome⟩ | ⟨absent, binds, _⟩ | ⟨_, _, failure, outcome⟩
    · rw [first] at outcome
      rw [cached]
      exact (Except.ok.inj (congrArg Prod.fst outcome)).symm
    · rw [absent]
      exact binds
    · rw [first] at outcome
      cases congrArg Prod.fst outcome
  · rintro ⟨⟨k, read, seq⟩, answers⟩
    obtain ⟨b, producer, rfl⟩ := readCursor_returned read
    obtain ⟨x, event⟩ := held.event
    have first : ∃ cache, (dispatch p e again).run w = (.ok c, { w with committed := cache }) := by
      rcases dispatch_again traced held again with
        ⟨other, cached, outcome⟩ | ⟨_, _, cache, outcome⟩ | ⟨absent, differs, _⟩
      · rw [cached] at answers
        exact ⟨w.committed, answers ▸ outcome⟩
      · exact ⟨cache, outcome⟩
      · rw [absent] at answers
        exact absurd answers differs
    obtain ⟨cache, first⟩ := first
    have still := cursorAt_self (position_at traced.mailbox event producer.mailbox seq)
    obtain ⟨o, rest, same⟩ := afterDispatch_event (w := { w with committed := cache })
      traced.mailbox event producer (le_of_eq seq) held.passed
    exact ⟨o, _, (run_bind_ok first).trans rest, same, still, rfl⟩

end Again

/-- A call after a history: what it returns and the world it leaves. -/
def callAfter (actor : String) (moves : List Move) (p : DispatchPrepared) (e : V2MailboxEnvelope)
    (committedAt : String) : Except Raised MailboxDispatchOutcome × World :=
  (dispatchV2WithCursor p e committedAt).run (Runs.run move { actor := actor } moves)

/-- A call that returned, in every world after it. -/
theorem callAfter_returned {actor : String} {moves : List Move} {p : DispatchPrepared}
    {e : V2MailboxEnvelope} {committedAt : String} {o : MailboxDispatchOutcome}
    (first : (callAfter actor moves p e committedAt).1 = .ok o) (later : List Move) :
    let after := Runs.run move (callAfter actor moves p e committedAt).2 later
    Traced after ∧ Dispatched after p e o.committed := by
  unfold callAfter at first ⊢
  have ran := run_of_result first
  obtain ⟨traced, held⟩ := dispatched (traced_run actor moves) ran
  have kept := closed_run (closed_later _) (Later.refl traced) later
  exact ⟨kept.traced, held.grow kept⟩

/-- After a dispatch with cursor that returned, whatever happens later, the same envelope
dispatched again returns the same commit and changes neither mailbox nor ledger exactly
where the producer cursor stands at the commit and the process knows no other commit. -/
theorem dispatched_again (actor : String) (moves : List Move) (p : DispatchPrepared)
    (e : V2MailboxEnvelope) (committedAt : String) (o : MailboxDispatchOutcome)
    (first : (callAfter actor moves p e committedAt).1 = .ok o) (later : List Move)
    (again : String) :
    let after := Runs.run move (callAfter actor moves p e committedAt).2 later
    Repeats after p e again o.committed ↔
      ProducerAt after.mailbox e o.committed ∧ Answers after p o.committed := by
  obtain ⟨traced, held⟩ := callAfter_returned first later
  exact repeats_iff traced held again

/-! ## A first dispatch -/

section Fresh
variable {w : World} {p : DispatchPrepared} {e : V2MailboxEnvelope}

/-- Every durable cursor is behind the next event. -/
theorem cursor_behind (wf : WellFormed w.mailbox) (b : CursorBinding) :
    (w.mailbox.durableCursor b).lastEventSeq ≤ (w.mailbox.mailboxes b.mailboxRef).length := by
  unfold InMemoryMailboxRepository.durableCursor MailboxActorCursor.lastEventSeq
  cases held : w.mailbox.actorCursors b with
  | none => simp only [Option.elim_none]; omega
  | some position =>
    obtain ⟨y, member, rfl, -⟩ := wf.bound b position held
    have inside := wf.seq_lt member
    simp only [Option.elim_some, MailboxActorCursor.positionAt]
    omega

/-- A new request whose successor slot is free is written, committed and acknowledged. -/
theorem fresh_dispatch (kept : Kept w) (checked : Checked p)
    (matched : assertEnvelopeMatches p e = .ok ()) (absent : w.committed p.key = none)
    (free : DispatchReconcile.Free w p)
    (quiet : DispatchReconcile.Quiet (w.mailbox.mailboxes p.mailboxRef) p e)
    (missing : ∀ x ∈ w.mailbox.mailboxes p.mailboxRef, ¬ isExact p e x)
    (last : lastSeq (w.mailbox.mailboxes p.mailboxRef) = p.expectedMailboxSeq)
    (newer : producerLastSeq (w.mailbox.mailboxes p.mailboxRef) e.producerNamespace < e.seq)
    {committedAt : String} (timed : strip committedAt ≠ "") {b : CursorBinding}
    (producer : ProducerBinding p.mailboxRef e b) :
    let x := eventFor p.mailboxRef (w.mailbox.mailboxes p.mailboxRef) e
    let c := commitOf p (receiptOf x) committedAt
    ∃ o, (dispatchV2WithCursor p e committedAt).run w = (.ok o, { w with
        mailbox := cursorAt (w.mailbox.commit x) b x
        ledger := Function.update w.ledger p.runId (w.ledger p.runId ++ [committedEvent w.actor c])
        committed := Function.update w.committed p.key (some c) }) ∧ o.committed = c := by
  intro x c
  have named : p.mailboxRef ≠ "" := ne_empty_of_strip (checked_facts checked).2.2.2.1
  have written := (DispatchReconcile.retry_written matched quiet last).1
  have wrote := DispatchReconcile.retry_write_newer kept.mailbox matched quiet missing named last newer
  have unused := DispatchReconcile.key_fresh kept.mailbox matched quiet missing
  have grown : WellFormed (w.mailbox.commit x) := commit_wellFormed kept.mailbox named unused newer
  have member : x ∈ (w.mailbox.commit x).mailboxes p.mailboxRef := by
    rw [commit_mailboxes, if_pos rfl]
    exact List.mem_append_right _ (List.mem_singleton_self _)
  have recorded : appendOrReadback w.ledger (committedEvent w.actor c) = (.ok (),
      Function.update w.ledger p.runId (w.ledger p.runId ++ [committedEvent w.actor c])) := by
    rcases readback_cases w.ledger (committedEvent w.actor c) with
      ⟨existing, taken, _⟩ | ⟨existing, _, taken, _⟩ | ⟨_, outcome⟩
    · exact nomatch free.symm.trans taken
    · exact nomatch free.symm.trans taken
    · exact outcome
  have committed := DispatchReconcile.run_timed (w := { w with mailbox := w.mailbox.commit x }) grown
    checked member written false timed recorded
  have message : c.messageId = e.messageId := rfl
  have passed : checkCommit c e = .ok () :=
    bind_ok.mpr ⟨(), ensure_of rfl _, bind_ok.mpr ⟨(), ensure_of rfl _, ensure_of message _⟩⟩
  have event : EventOf (w.mailbox.commit x) e c x := ⟨member, rfl, rfl, rfl, rfl, rfl⟩
  have behind : ((w.mailbox.commit x).durableCursor b).lastEventSeq ≤ c.mailboxSeq := by
    have before := cursor_behind kept.mailbox b
    rw [producer.mailbox] at before
    exact before
  obtain ⟨o, rest, same⟩ := afterDispatch_event (w := { w with
      mailbox := w.mailbox.commit x
      ledger := Function.update w.ledger p.runId (w.ledger p.runId ++ [committedEvent w.actor c])
      committed := Function.update w.committed p.key (some c) })
    grown event producer behind passed
  refine ⟨o, ?_, same⟩
  have first := DispatchReconcile.run_dispatch_fresh matched committedAt absent free
  have stored := first.trans ((run_bind_ok wrote).trans ((run_bind_ok committed).trans rfl))
  exact (run_bind_ok stored).trans rest

end Fresh

/-! ## A later event of the producer -/

omit [Sha256] in
/-- The producer's next envelope. -/
def nextEnvelope : V2MailboxEnvelope :=
  { requestSample with messageId := "next", seq := 1, idempotencyKey := "next" }.envelope
    (Sample.accepted (by decide) (by decide) (by decide) (fun given => absurd (by decide) given))

omit [Sha256] in
def requestBinding : CursorBinding := ⟨"mailbox", "run", "node", "executor", by decide⟩

omit [Sha256] in
theorem requestBinding_producer : ProducerBinding "mailbox" requestEnvelope requestBinding :=
  ⟨rfl, rfl, rfl, rfl⟩

/-- The event of the first request. -/
def firstEvent : MailboxEvent := eventFor "mailbox" [] requestEnvelope

def firstCommit : DispatchCommitted :=
  commitOf DispatchReconcile.requestPrepare.record (receiptOf firstEvent) "t"

/-- The mailbox the first call leaves. -/
def firstMailbox : InMemoryMailboxRepository :=
  cursorAt (InMemoryMailboxRepository.commit {} firstEvent) requestBinding firstEvent

theorem first_returned :
    let call := callAfter "controller" [] DispatchReconcile.requestPrepare.record requestEnvelope "t"
    ∃ o, call.1 = .ok o ∧ o.committed = firstCommit ∧ call.2.mailbox = firstMailbox := by
  have kept : Kept { actor := "controller" } := ⟨WellFormed.empty, LedgerSound.empty⟩
  have newer : producerLastSeq ([] : List MailboxEvent) requestEnvelope.producerNamespace <
      requestEnvelope.seq := by decide
  obtain ⟨o, ran, same⟩ := fresh_dispatch (w := { actor := "controller" })
    (p := DispatchReconcile.requestPrepare.record) (e := requestEnvelope) kept
    DispatchReconcile.requestPrepare_checked DispatchReconcile.crashed_open.bound rfl rfl
    (fun _ member => nomatch member) (fun _ member => nomatch member) rfl newer
    DispatchReconcile.solid_time requestBinding_producer
  refine ⟨o, ?_, same, ?_⟩
  · unfold callAfter
    rw [Runs.run_nil, ran]
  · unfold callAfter
    rw [Runs.run_nil, ran]
    rfl

theorem producerAt_first (repo : InMemoryMailboxRepository) :
    ProducerAt repo requestEnvelope firstCommit ↔
      (repo.durableCursor requestBinding).lastEventSeq = 0 :=
  producerAt_iff requestBinding_producer

theorem first_stands : (firstMailbox.durableCursor requestBinding).lastEventSeq = 0 := by
  unfold InMemoryMailboxRepository.durableCursor firstMailbox cursorAt
  simp only [Function.update_self, MailboxActorCursor.lastEventSeq, Option.elim_some]
  rfl

omit [Sha256] in
/-- The next event of the producer, and the cursor that acknowledges it. -/
def nextOperations : List Operation :=
  [.write "mailbox" 0 nextEnvelope none,
    .acknowledgeCursor ⟨requestBinding, some ⟨1, 1, "mailbox:event-1", zeroDigest.value⟩⟩]

theorem run_mailbox (w : World) (ops : List Operation) :
    (Runs.run move w (ops.map fun op => .step (.mailbox op))).mailbox =
      Runs.run perform w.mailbox ops := by
  induction ops generalizing w with
  | nil => rfl
  | cons op rest ih => exact ih _

/-- A process that restarted finds its commit in the ledger. -/
theorem answers_restarted (w : World) :
    Answers (Runs.run move w [.step .restart]) DispatchReconcile.requestPrepare.record
      firstCommit := rfl

theorem mailbox_restarted (w : World) :
    (Runs.run move w [.step .restart]).mailbox = w.mailbox := rfl

/-- The first call again, after a restart. -/
theorem restarted_stands : ∃ o,
    (callAfter "controller" [] DispatchReconcile.requestPrepare.record requestEnvelope "t").1 = .ok o ∧
    let after := Runs.run move (callAfter "controller" [] DispatchReconcile.requestPrepare.record
      requestEnvelope "t").2 [.step .restart]
    ProducerAt after.mailbox requestEnvelope o.committed ∧
      Answers after DispatchReconcile.requestPrepare.record o.committed := by
  obtain ⟨o, returned, same, mailbox⟩ := first_returned
  refine ⟨o, returned, ?_⟩
  intro after
  have left : after.mailbox = firstMailbox := (mailbox_restarted _).trans mailbox
  rw [same, left, producerAt_first]
  exact ⟨first_stands, answers_restarted _⟩

omit [Sha256] in
theorem dispatched_again_request : ∃ o,
    @Repeats zeroHash (@Runs.run _ _ (@move zeroHash) (@callAfter zeroHash "controller" []
      (@PrepareRequest.record zeroHash DispatchReconcile.requestPrepare) requestEnvelope "t").2
      [.step .restart]) (@PrepareRequest.record zeroHash DispatchReconcile.requestPrepare)
      requestEnvelope "later" o := by
  obtain ⟨o, returned, condition⟩ := @restarted_stands zeroHash
  exact ⟨o.committed, (@dispatched_again zeroHash _ _ _ _ _ o returned _ "later").mpr condition⟩

/-- The first call again, after the next event was acknowledged. -/
theorem next_refused (moved : ((Runs.run perform firstMailbox nextOperations).durableCursor
    requestBinding).lastEventSeq = 1) : ∃ o,
    (callAfter "controller" [] DispatchReconcile.requestPrepare.record requestEnvelope "t").1 = .ok o ∧
    ¬ Repeats (Runs.run move (callAfter "controller" [] DispatchReconcile.requestPrepare.record
      requestEnvelope "t").2 (nextOperations.map fun op => .step (.mailbox op)))
      DispatchReconcile.requestPrepare.record requestEnvelope "later" o.committed := by
  obtain ⟨o, returned, same, mailbox⟩ := first_returned
  refine ⟨o, returned, ?_⟩
  obtain ⟨traced, held⟩ := callAfter_returned returned
    (nextOperations.map fun op => .step (.mailbox op))
  rw [repeats_iff traced held, same, run_mailbox, mailbox, producerAt_first, moved]
  exact fun both => absurd both.1 (by decide)

omit [Sha256] in
/-- Once a later event of the producer is acknowledged, the same call does not return the
commit again. -/
theorem later_event_raises :
    ¬ ∀ (actor : String) (moves : List Move) (p : DispatchPrepared) (e : V2MailboxEnvelope)
      (committedAt : String) (o : MailboxDispatchOutcome),
      (@callAfter zeroHash actor moves p e committedAt).1 = .ok o →
      ∀ (later : List Move) (again : String), @Repeats zeroHash (@Runs.run _ _ (@move zeroHash)
        (@callAfter zeroHash actor moves p e committedAt).2 later) p e again o.committed := by
  intro all
  have moved : ((@Runs.run _ _ (@perform zeroHash) (@firstMailbox zeroHash)
      nextOperations).durableCursor requestBinding).lastEventSeq = 1 := by decide
  obtain ⟨o, returned, refused⟩ := @next_refused zeroHash moved
  exact refused (all _ _ _ _ _ o returned _ _)

end DwSuperApps.Guarantees.ProducerCursor
