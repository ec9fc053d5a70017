import DwSuperApps.Guarantees.DispatchRecords

/-!
# Reconciliation after a crash

What a reconciliation does in a world reached by prepares, dispatches and
reconciliations cut anywhere, restarts, foreign mailbox calls and foreign audit
events. It ends with one mailbox event and one matching commit or blocks without a
trace, and the next reconciliation changes nothing, except when it would repair or
retry with a blank time, or retries with a commit of another dispatch in its cache.
-/
namespace DwSuperApps.Guarantees.DispatchReconcile

open DwSuperApps.Lib DwSuperApps.Lib.Checked
open DwSuperApps.Lib.Programs (Prog)
open DwSuperApps.Lib.Programs.Prog
open DwSuperApps.Source.Envelope DwSuperApps.Source.Mailbox DwSuperApps.Source.Dispatch
open DwSuperApps.Source.Mailbox.InMemoryMailboxRepository
open DwSuperApps.Guarantees.MailboxLog DwSuperApps.Guarantees.MailboxChain
open DwSuperApps.Guarantees.DispatchRecords

/-! ## Commits that pass their checks -/

variable [Sha256]

/-- The only check of a commit that its caller can fail is the time. -/
theorem commitOf_check {p : DispatchPrepared} (checked : Checked p) {x : MailboxEvent}
    (idempotent : Bool) (seq : (x.eventSeq : Int) = p.expectedMailboxSeq + 1)
    (message : x.envelope.messageId = p.identity.messageId) (id : strip x.eventId ≠ "")
    (at_time : String) : (commitOf p (receiptOf x idempotent) at_time).check =
      requiredText at_time "DispatchCommitted.committed_at" := by
  obtain ⟨-, solid, version, ref, digest, prepared, -⟩ := checked_facts checked
  have committed : strip (committedIdOf p.envelopeDigest) ≠ "" := strip_append (.inr digest)
  have sequence : -1 ≤ p.expectedMailboxSeq := by omega
  have natural : 0 ≤ p.expectedMailboxSeq + 1 := by omega
  have envelope : strip x.envelopeDigest.value ≠ "" := by
    rw [x.envelopeDigest.strip_value]
    exact x.envelopeDigest.value_ne_empty
  have event : strip x.eventDigest.value ≠ "" := by
    rw [x.eventDigest.strip_value]
    exact x.eventDigest.value_ne_empty
  simp only [DispatchCommitted.check, commitOf, receiptOf, digestText, requiredText,
    nonNegativeInt, sequenceOrInitial, prepared, version, ref, sequence, natural, seq, id, message,
     envelope, x.envelopeDigest.digest, event, x.eventDigest.digest, committed, solid, ne_eq,
    not_false_eq_true, ensure_true, Checked.ok_bind]

theorem committedEvent_check {p : DispatchPrepared} (checked : Checked p) {x : MailboxEvent}
    (idempotent : Bool) {at_time : String} (timed : strip at_time ≠ "") (actor : String) :
    (committedEvent actor (commitOf p (receiptOf x idempotent) at_time)).check = .ok () := by
  obtain ⟨run, -, -, -, digest, -, -⟩ := checked_facts checked
  have committed : committedIdOf p.envelopeDigest ≠ "" :=
    ne_empty_of_strip (strip_append (.inr digest))
  have short : ("DispatchCommitted " ++ x.envelope.messageId).length ≤ 300 := by
    have bound := message_short x.envelope
    rw [String.length_append]
    have lead : "DispatchCommitted ".length = 18 := by decide
    omega
  simp only [AuditEvent.check, committedEvent, commitOf, receiptOf, committed,
    ne_empty_of_strip timed, ne_empty_of_strip run, short, dispatchSource, dispatchCommitted, ne_eq,
    not_false_eq_true, ensure_true, Checked.ok_bind]
  rfl

/-! ## The ledger and the log of a dispatch -/

variable {w : World} {p : DispatchPrepared} {e : V2MailboxEnvelope}

omit [Sha256] in
theorem identity_facts {i : DispatchIdentity} {envelope : V2MailboxEnvelope}
    (same : DispatchIdentity.fromEnvelope envelope = .ok i) :
    DispatchIdentity.ofEnvelope envelope = i := by
  unfold DispatchIdentity.fromEnvelope at same
  obtain ⟨_, _, same⟩ := bind_ok.mp same
  exact Except.ok.inj same

theorem exact_envelope {x : MailboxEvent} (found : isExact p e x) :
    x.envelope.messageId = p.identity.messageId ∧ x.idempotencyKey = p.identity.idempotencyKey := by
  obtain ⟨identity, -, -, -, key, -, same⟩ := found
  have whole := identity_facts identity
  subst same
  exact ⟨congrArg DispatchIdentity.messageId whole,
    key.trans (congrArg DispatchIdentity.idempotencyKey whole)⟩

/-- One event at most is the exact one. -/
theorem exact_cases (wf : WellFormed w.mailbox) (p : DispatchPrepared) (e : V2MailboxEnvelope) :
    (w.mailbox.mailboxes p.mailboxRef).filter (isExact p e) = [] ∨
      ∃ x ∈ w.mailbox.mailboxes p.mailboxRef, isExact p e x ∧
        (w.mailbox.mailboxes p.mailboxRef).filter (isExact p e) = [x] := by
  refine Keyed.filter_unique (keys_distinct wf p.mailboxRef).of_map ?_
  intro a inside b other first second
  have same : (a.eventSeq : Int) = b.eventSeq := first.2.1.trans second.2.1.symm
  exact wf.eq_of_seq inside other (Int.ofNat_inj.mp same)

omit [Sha256] in
theorem validateEvents_ok {ref : String} {events : List MailboxEvent} {seq : Nat}
    (each : ∀ i x, events[i]? = some x → x.eventSeq = seq + i ∧ x.mailboxRef = ref) :
    validateEvents ref seq events = .ok () := by
  induction events generalizing seq with
  | nil => rfl
  | cons x rest ih =>
    obtain ⟨place, named⟩ := each 0 x rfl
    rw [validateEvents, ensure_of (by simpa using place), Checked.ok_bind, ensure_of named,
      Checked.ok_bind]
    apply ih
    intro i y found
    obtain ⟨after, same⟩ := each (i + 1) y found
    exact ⟨by omega, same⟩

theorem snapshotLastEventSeq_eq (wf : WellFormed w.mailbox) (ref : String) :
    snapshotLastEventSeq (w.mailbox.mailboxes ref) = lastSeq (w.mailbox.mailboxes ref) := by
  unfold snapshotLastEventSeq lastSeq
  cases last : (w.mailbox.mailboxes ref).getLast? with
  | none => simp [List.getLast?_eq_none_iff.mp last]
  | some x =>
    rw [List.getLast?_eq_getElem?] at last
    have place := (wf.recorded ref _ x last).seq
    have inside := (List.getElem?_eq_some_iff.mp last).1
    simp only [place]
    omega

/-- The snapshot of a mailbox passes its validation. -/
theorem snapshot_valid (wf : WellFormed w.mailbox) (named : p.mailboxRef ≠ "") :
    (w.mailbox.read p.mailboxRef).bind (validateSnapshot · p) =
      .ok (w.mailbox.mailboxes p.mailboxRef) := by
  have read : w.mailbox.read p.mailboxRef = .ok (w.mailbox.buildSnapshot p.mailboxRef) := by
    unfold InMemoryMailboxRepository.read validateRef
    rw [ensure_of named, Checked.ok_bind]
    rfl
  rw [read]
  change validateSnapshot (w.mailbox.buildSnapshot p.mailboxRef) p = _
  have numbered : validateEvents p.mailboxRef 0 (w.mailbox.mailboxes p.mailboxRef) = .ok () := by
    apply validateEvents_ok
    intro i x found
    have recorded := wf.recorded p.mailboxRef i x found
    exact ⟨by rw [recorded.seq, Nat.zero_add], recorded.mailbox⟩
  simp only [validateSnapshot, buildSnapshot, snapshotLastEventSeq_eq wf, numbered, ensure_true,
    Checked.ok_bind]
  rfl

/-! ## Dispositions -/

/-- No event takes the slot, the key or the message of the dispatch. -/
def Quiet (events : List MailboxEvent) (p : DispatchPrepared) (e : V2MailboxEnvelope) : Prop :=
  ∀ x ∈ events, isRelated p x → isExact p e x

omit [Sha256] in
/-- No record of the ledger says that the dispatch was committed. -/
def Uncommitted (rows : List AuditEvent) (p : DispatchPrepared) : Prop :=
  ∀ row ∈ rows, isCommitCandidate p row = false

theorem locateEvent_eq (wf : WellFormed w.mailbox) (p : DispatchPrepared) (e : V2MailboxEnvelope) :
    locateEvent (w.mailbox.mailboxes p.mailboxRef) p e =
      (((w.mailbox.mailboxes p.mailboxRef).filter (isExact p e)).head?,
        (((w.mailbox.mailboxes p.mailboxRef).filter fun x =>
          isRelated p x ∧ ¬ isExact p e x).getLast?).map fun x =>
            "mailbox event conflicts with the prepared identity/digest or occupies the " ++
              "successor slot: " ++ x.eventId) := by
  unfold locateEvent
  rcases exact_cases wf p e with none | ⟨x, _, _, one⟩
  · rw [none]
  · rw [one]

omit [Sha256] in
theorem findCommittedRecord_cases (rows : List AuditEvent) (p : DispatchPrepared) :
    (Uncommitted rows p ∧ findCommittedRecord rows p = .ok none) ∨
    (¬ Uncommitted rows p ∧ ∃ row ∈ rows, ∃ c, row.record = .committed c ∧
      findCommittedRecord rows p = .ok (some c)) ∨
    (¬ Uncommitted rows p ∧ ∃ reason, findCommittedRecord rows p = .error reason) := by
  unfold findCommittedRecord
  cases found : rows.find? (isCommitCandidate p) with
  | none =>
    refine .inl ⟨fun row member => ?_, rfl⟩
    simpa using List.find?_eq_none.mp found row member
  | some row =>
    have member := List.mem_of_find?_eq_some found
    have taken : ¬ Uncommitted rows p := by
      intro free
      have candidate := List.find?_some found
      rw [free row member] at candidate
      cases candidate
    cases shape : row.record with
    | committed c => exact .inr (.inl ⟨taken, row, member, c, shape, by simp only [shape]⟩)
    | prepared q => exact .inr (.inr ⟨taken, _, by simp only [shape]; rfl⟩)
    | other => exact .inr (.inr ⟨taken, _, by simp only [shape]; rfl⟩)

/-- What the reconciler finds, with the event and the record it finds. -/
theorem classify_cases (wf : WellFormed w.mailbox) (rows : List AuditEvent) (p : DispatchPrepared)
    (e : V2MailboxEnvelope) :
    let events := w.mailbox.mailboxes p.mailboxRef
    (∃ reason found, classify rows events p e = .blocked reason found ∧
      ¬ (Quiet events p e ∧ Uncommitted rows p ∧
        ((∃ x ∈ events, isExact p e x) ∨ lastSeq events = p.expectedMailboxSeq))) ∨
    (∃ x ∈ events, ∃ row ∈ rows, ∃ c, isExact p e x ∧ row.record = .committed c ∧
      commitMatchesEvent c p e x ∧ classify rows events p e = .consume x c ∧ ¬ Uncommitted rows p) ∨
    (Quiet events p e ∧ Uncommitted rows p ∧
      ∃ x ∈ events, isExact p e x ∧ classify rows events p e = .repair x) ∨
    (Quiet events p e ∧ Uncommitted rows p ∧ (∀ x ∈ events, ¬ isExact p e x) ∧
      lastSeq events = p.expectedMailboxSeq ∧ classify rows events p e = .retry) := by
  intro events
  unfold classify
  rw [locateEvent_eq wf]
  by_cases quiet : Quiet events p e
  · have silent : (events.filter fun x => isRelated p x ∧ ¬ isExact p e x) = [] := by
      rw [List.filter_eq_nil_iff]
      intro x member
      simpa using quiet x member
    rw [silent]
    rcases exact_cases wf p e with absent | ⟨x, member, exact_x, one⟩
    · have missing : ∀ x ∈ events, ¬ isExact p e x := by
        intro x member
        simpa using List.filter_eq_nil_iff.mp absent x member
      rw [absent]
      rcases findCommittedRecord_cases rows p with
        ⟨free, outcome⟩ | ⟨taken, row, held, c, shape, outcome⟩ | ⟨taken, reason, outcome⟩
      · simp only [outcome, List.getLast?_nil, List.head?_nil, Option.map_none]
        have seq := snapshotLastEventSeq_eq wf p.mailboxRef
        by_cases last : lastSeq events = p.expectedMailboxSeq
        · have reached := not_not.mpr (seq.trans last)
          exact .inr (.inr (.inr ⟨quiet, free, missing, last, if_neg reached⟩))
        · refine .inl ⟨_, _, if_pos fun reached => last (seq.symm.trans reached), ?_⟩
          rintro ⟨-, -, ⟨x, member, found⟩ | same⟩
          · exact missing x member found
          · exact last same
      · exact .inl ⟨_, _, by simp only [outcome]; rfl, fun opened => taken opened.2.1⟩
      · exact .inl ⟨_, _, by simp only [outcome]; rfl, fun opened => taken opened.2.1⟩
    · rw [one]
      rcases findCommittedRecord_cases rows p with
        ⟨free, outcome⟩ | ⟨taken, row, held, c, shape, outcome⟩ | ⟨taken, reason, outcome⟩
      · exact .inr (.inr (.inl ⟨quiet, free, x, member, exact_x, by simp only [outcome]; rfl⟩))
      · simp only [outcome, List.getLast?_nil, List.head?_cons, Option.map_none]
        by_cases same : commitMatchesEvent c p e x
        · exact .inr (.inl ⟨x, member, row, held, c, exact_x, shape, same, if_pos same, taken⟩)
        · exact .inl ⟨_, _, if_neg same, fun opened => taken opened.2.1⟩
      · exact .inl ⟨_, _, by simp only [outcome]; rfl, fun opened => taken opened.2.1⟩
  · have conflict : (events.filter fun x => isRelated p x ∧ ¬ isExact p e x) ≠ [] := by
      intro silent
      refine quiet fun x member related => ?_
      by_contra other
      have passed := List.filter_eq_nil_iff.mp silent x member
      simp [related, other] at passed
    obtain ⟨last, shape⟩ := Option.ne_none_iff_exists'.mp
      (fun none => conflict (List.getLast?_eq_none_iff.mp none))
    rw [shape]
    exact .inl ⟨_, _, rfl, fun opened => quiet opened.1⟩

omit [Sha256] in
theorem findCommittedRecord_snoc {rows : List AuditEvent} {row : AuditEvent}
    (free : Uncommitted rows p) (candidate : isCommitCandidate p row = true) {c : DispatchCommitted}
    (shape : row.record = .committed c) : findCommittedRecord (rows ++ [row]) p = .ok (some c) := by
  have absent : rows.find? (isCommitCandidate p) = none := by
    rw [List.find?_eq_none]
    intro other member
    simp [free other member]
  unfold findCommittedRecord
  rw [List.find?_append, absent, Option.none_or, List.find?_cons_of_pos candidate]
  simp only [shape]

/-- Where the exact event and its commit are recorded, the reconciler consumes them. -/
theorem classify_consume (wf : WellFormed w.mailbox) {rows : List AuditEvent}
    {x : MailboxEvent} (quiet : Quiet (w.mailbox.mailboxes p.mailboxRef) p e)
    (member : x ∈ w.mailbox.mailboxes p.mailboxRef) (found : isExact p e x) {c : DispatchCommitted}
    (outcome : findCommittedRecord rows p = .ok (some c)) (same : commitMatchesEvent c p e x) :
    classify rows (w.mailbox.mailboxes p.mailboxRef) p e = .consume x c := by
  unfold classify
  have silent : ((w.mailbox.mailboxes p.mailboxRef).filter fun x =>
      isRelated p x ∧ ¬ isExact p e x) = [] := by
    rw [List.filter_eq_nil_iff]
    intro x member
    simpa using quiet x member
  rw [locateEvent_eq wf, silent]
  rcases exact_cases wf p e with absent | ⟨y, held, exact_y, one⟩
  · exact absurd found (by simpa using List.filter_eq_nil_iff.mp absent x member)
  · have seq : (y.eventSeq : Int) = x.eventSeq := exact_y.2.1.trans found.2.1.symm
    obtain rfl := wf.eq_of_seq held member (Int.ofNat_inj.mp seq)
    rw [one]
    simp only [outcome, List.getLast?_nil, List.head?_cons, Option.map_none]
    exact if_pos same

/-! ## Reading back and committing -/

theorem verify_ok (wf : WellFormed w.mailbox) {x : MailboxEvent}
    (member : x ∈ w.mailbox.mailboxes p.mailboxRef) (found : isExact p e x) (idempotent : Bool) :
    verifyExactReadback p e (receiptOf x idempotent) (w.mailbox.buildSnapshot p.mailboxRef) =
      .ok () := by
  have message := (exact_envelope found).1
  obtain ⟨-, seq, -, -, -, digest, same⟩ := found
  rw [same] at message
  have place := (wf.recorded_of_mem member).mailbox
  unfold verifyExactReadback
  simp only [receiptOf, buildSnapshot, place, seq, message, digest, wf.find_id member, same,
    ensure_true, Checked.ok_bind, and_self]

section Commits
variable (wf : WellFormed w.mailbox) (checked : Checked p) {x : MailboxEvent}
  (member : x ∈ w.mailbox.mailboxes p.mailboxRef) (found : isExact p e x) (idempotent : Bool)
  {at_time : String}
include wf checked member found

theorem commit_check (at_time : String) : (commitOf p (receiptOf x idempotent) at_time).check =
    requiredText at_time "DispatchCommitted.committed_at" := by
  obtain ⟨-, -, -, ref, -, -, -⟩ := checked_facts checked
  have id : strip x.eventId ≠ "" := by
    rw [(wf.recorded_of_mem member).id]
    exact strip_append (.inl (strip_append (.inl ref)))
  exact commitOf_check checked idempotent found.2.1 (exact_envelope found).1 id at_time

theorem run_untimed (blank : strip at_time = "") : ∃ failure,
    (verifyAndCommit p e (receiptOf x idempotent) at_time).run w = (.error failure, w) := by
  have read : (exactReadback (receiptOf x idempotent)).run w =
      (.ok (w.mailbox.buildSnapshot p.mailboxRef), w) :=
    congrArg (·, w) (wf.readback member idempotent)
  have refused := (commit_check wf checked member found idempotent at_time).trans
    (ensure_error (not_not.mpr blank) _)
  have verified := verify_ok wf member found idempotent
  exact ⟨_, (run_bind_ok read).trans ((run_lift_ok verified).trans (run_lift_error refused))⟩

theorem run_timed (timed : strip at_time ≠ "") {r : Except Raised Unit} {l : RunLedger}
    (outcome : appendOrReadback w.ledger
      (committedEvent w.actor (commitOf p (receiptOf x idempotent) at_time)) = (r, l)) :
    (verifyAndCommit p e (receiptOf x idempotent) at_time).run w =
      (r.map fun _ => commitOf p (receiptOf x idempotent) at_time, { w with ledger := l }) := by
  have read : (exactReadback (receiptOf x idempotent)).run w =
      (.ok (w.mailbox.buildSnapshot p.mailboxRef), w) :=
    congrArg (·, w) (wf.readback member idempotent)
  have passed := (commit_check wf checked member found idempotent at_time).trans
    (ensure_of timed _)
  have recorded : (record (committedEvent w.actor (commitOf p (receiptOf x idempotent) at_time))).run w =
      (r, { w with ledger := l }) := by
    refine (run_lift_ok (committedEvent_check checked idempotent timed w.actor)).trans ?_
    rw [run_operation, outcome]
  refine (run_bind_ok read).trans ?_
  refine (run_lift_ok (verify_ok wf member found idempotent)).trans ?_
  refine (run_lift_ok passed).trans ?_
  refine (run_bind_ok (p := actorOf) (t := w) rfl).trans ?_
  cases r with
  | ok u => exact (run_bind_ok recorded).trans rfl
  | error failure => exact run_bind_error recorded

end Commits

/-! ## What a reconciliation leaves -/

omit [Sha256] in
def Unchanged (v u : World) : Prop := u.mailbox = v.mailbox ∧ u.ledger = v.ledger

/-- The record commits the dispatch with the event. -/
def isCommitOf (p : DispatchPrepared) (e : V2MailboxEnvelope) (x : MailboxEvent) (row : AuditEvent) :
    Prop :=
  match row.record with
  | .committed c => commitMatchesEvent c p e x
  | .prepared _ | .other => False

instance (p : DispatchPrepared) (e : V2MailboxEnvelope) (x : MailboxEvent) (row : AuditEvent) :
    Decidable (isCommitOf p e x row) := by
  unfold isCommitOf
  cases row.record <;> infer_instance

/-- One mailbox event of the envelope and one record that commits it. -/
def Resolved (w : World) (p : DispatchPrepared) (e : V2MailboxEnvelope) : Prop :=
  ∃ x row, (w.mailbox.mailboxes p.mailboxRef).filter (·.envelope = e) = [x] ∧
    (w.ledger p.runId).filter (isCommitOf p e x) = [row]

/-- Two events of one mailbox with one envelope are the same event. -/
theorem envelope_unique (wf : WellFormed w.mailbox) {ref : String} {a b : MailboxEvent}
    (first : a ∈ w.mailbox.mailboxes ref) (second : b ∈ w.mailbox.mailboxes ref)
    (same : a.envelope = b.envelope) : a = b := by
  have keys : a.idempotencyKey = b.idempotencyKey := by
    rw [(wf.recorded_of_mem first).key, (wf.recorded_of_mem second).key, same]
  exact List.inj_on_of_nodup_map (keys_distinct wf ref) first second keys

theorem resolved (kept : Kept w) {x : MailboxEvent} {row : AuditEvent} {c : DispatchCommitted}
    (member : x ∈ w.mailbox.mailboxes p.mailboxRef) (found : isExact p e x)
    (held : row ∈ w.ledger p.runId) (shape : row.record = .committed c)
    (same : commitMatchesEvent c p e x) : Resolved w p e := by
  refine ⟨x, row, Keyed.filter_eq (keys_distinct kept.mailbox _).of_map ?_ member found.2.2.2.2.2.2,
    Keyed.filter_eq (kept.ledger.unique p.runId).of_map ?_ held ?_⟩
  · intro a inside b other first second
    exact envelope_unique kept.mailbox inside other (first.trans second.symm)
  · have named : ∀ a ∈ w.ledger p.runId, isCommitOf p e x a →
        a.eventId = committedIdOf e.digest.value := by
      intro a inside commits
      have filed := kept.ledger.filed p.runId a inside
      unfold isCommitOf at commits
      unfold Filed at filed
      split at commits
      · next c' shape' =>
        rw [shape'] at filed
        rw [filed.1, commits.2.2.2.2.2.2.2.2.1]
      all_goals exact commits.elim
    intro a inside b other first second
    exact List.inj_on_of_nodup_map (kept.ledger.unique p.runId) inside other
      ((named a inside first).trans (named b other second).symm)
  · unfold isCommitOf
    rw [shape]
    exact same

omit [Sha256] in
/-- The world as a reconciler with a cache of its own finds it. -/
def withCache (w : World) (cache : String × String → Option DispatchCommitted) : World :=
  { w with committed := cache }

/-- What is asked of a reconciliation and of every one after it. -/
def Recovers (v : World) (p : DispatchPrepared) (e : V2MailboxEnvelope) (reconciledAt : String) :
    Prop :=
  (∃ d, ((reconcile p e reconciledAt).run v).1 = .ok d ∧
    if d.action = .blocked then Unchanged v ((reconcile p e reconciledAt).run v).2
    else Resolved ((reconcile p e reconciledAt).run v).2 p e) ∧
  ∀ cache again, Unchanged ((reconcile p e reconciledAt).run v).2
    ((reconcile p e again).run (withCache ((reconcile p e reconciledAt).run v).2 cache)).2

/-- A dispatch that the reconciler may repair or retry. -/
structure Open (v : World) (p : DispatchPrepared) (e : V2MailboxEnvelope) : Prop where
  bound : assertEnvelopeMatches p e = .ok ()
  durable : preparedProblem (v.ledger p.runId) p = none
  quiet : Quiet (v.mailbox.mailboxes p.mailboxRef) p e
  uncommitted : Uncommitted (v.ledger p.runId) p

omit [Sha256] in
/-- No audit event has the identifier of the commit. -/
def Free (v : World) (p : DispatchPrepared) : Prop :=
  findEvent (v.ledger p.runId) (committedIdOf p.envelopeDigest) = none

/-- The time a repair or a retry records is not blank, and a retry does not find a
commit in the cache of the reconciler. -/
def Completes (v : World) (p : DispatchPrepared) (e : V2MailboxEnvelope) (reconciledAt : String) :
    Prop :=
  Open v p e →
    ((∃ x ∈ v.mailbox.mailboxes p.mailboxRef, isExact p e x) → Free v p → strip reconciledAt ≠ "") ∧
    ((∀ x ∈ v.mailbox.mailboxes p.mailboxRef, ¬ isExact p e x) →
      lastSeq (v.mailbox.mailboxes p.mailboxRef) = p.expectedMailboxSeq →
      v.committed p.key = none ∧
        (Free v p → producerLastSeq (v.mailbox.mailboxes p.mailboxRef) e.producerNamespace < e.seq →
          strip reconciledAt ≠ ""))

/-! ## Runs of the reconciler -/

omit [Sha256] in
theorem durable_recorded (durable : preparedProblem (w.ledger p.runId) p = none) :
    PreparedIn w.ledger p := by
  unfold preparedProblem at durable
  split at durable
  · cases durable
  · next event found =>
    split at durable
    · cases durable
    · split at durable
      · next q shape =>
        split at durable
        · next same =>
          obtain rfl : q = p := ensure_ok.mp same
          exact ⟨event, (findEvent_mem found).1, shape⟩
        · cases durable
      · cases durable
      · cases durable

theorem durable_checked (kept : Kept w) (durable : preparedProblem (w.ledger p.runId) p = none) :
    Checked p := by
  obtain ⟨row, member, shape⟩ := durable_recorded durable
  have filed := kept.ledger.filed p.runId row member
  unfold Filed at filed
  rw [shape] at filed
  exact filed.2.2.2.2

theorem run_open (kept : Kept w) (bound : assertEnvelopeMatches p e = .ok ())
    (durable : preparedProblem (w.ledger p.runId) p = none) {d : Disposition}
    (classified : classify (w.ledger p.runId) (w.mailbox.mailboxes p.mailboxRef) p e = d)
    (at_time : String) : (reconcile p e at_time).run w = (settle p e at_time d).run w := by
  have named : p.mailboxRef ≠ "" :=
    ne_empty_of_strip (checked_facts (durable_checked kept durable)).2.2.2.1
  unfold reconcile
  rw [bound]
  refine (run_bind_ok (run_ledgerEvents w p.runId)).trans ?_
  rw [durable, ← classified]
  refine (run_bind_ok (t := w) (a := .ok (w.mailbox.mailboxes p.mailboxRef)) ?_).trans rfl
  rw [run_observe, snapshot_valid kept.mailbox named]

theorem run_closed (closed : ¬ (assertEnvelopeMatches p e = .ok () ∧
    preparedProblem (w.ledger p.runId) p = none)) (at_time : String) :
    ∃ d, (reconcile p e at_time).run w = (.ok d, w) ∧ d.action = .blocked := by
  unfold reconcile
  cases bound : assertEnvelopeMatches p e with
  | error failure => exact ⟨_, rfl, rfl⟩
  | ok u =>
    cases problem : preparedProblem (w.ledger p.runId) p with
    | none => exact absurd ⟨bound, problem⟩ closed
    | some failure =>
      refine ⟨blocked p failure.1 failure.2, (run_bind_ok (run_ledgerEvents w p.runId)).trans ?_, rfl⟩
      rw [problem]
      rfl

/-! ## Runs of a dispatch -/

omit [Sha256] in
theorem envelope_consistent (e : V2MailboxEnvelope) :
    e.executionIdentity.runId = e.runId ∧ e.executionIdentity.nodeId = e.nodeId := by
  obtain ⟨-, -, consistent⟩ := envelope_sound e
  simp only [EnvelopeFields.inconsistency, guard_none] at consistent
  exact ⟨not_not.mp (not_or.mp consistent.1).1, not_not.mp (not_or.mp consistent.1).2⟩

/-- The identity a dispatch expects is the one of its envelope. -/
theorem own_identity (bound : assertEnvelopeMatches p e = .ok ()) :
    e.validateCurrentIdentity p.identity.executionIdentity = .ok () := by
  obtain ⟨run, node⟩ := envelope_consistent e
  have members : p.identity.executionIdentity = e.executionIdentity.members := by
    rw [← (envelope_matches bound).2.1]
    simp only [DispatchIdentity.executionIdentity, DispatchIdentity.ofEnvelope,
      ExecutionIdentity.members, run, node]
  rw [members]
  unfold V2MailboxEnvelope.validateCurrentIdentity
  rw [checkAll_ok]
  intro entry member
  simp only [ExecutionIdentity.members, List.mem_cons, List.not_mem_nil, or_false] at member
  rcases member with rfl | rfl | rfl | rfl | rfl | rfl | rfl | rfl | rfl <;>
    exact ensure_of rfl _

section Dispatches
variable (bound : assertEnvelopeMatches p e = .ok ()) (at_time : String)
include bound

theorem run_dispatch_cached {c : DispatchCommitted} (cached : w.committed p.key = some c) :
    (dispatch p e at_time).run w = (.ok c, w) := by
  refine (run_lift_ok bound).trans ?_
  have read : (cachedCommitted p.key).run w = (.ok (some c), w) := by
    rw [run_cachedCommitted, cached]
  exact (run_bind_ok read).trans rfl

/-- A dispatch that finds no commit writes, reads back and commits. -/
theorem run_dispatch_fresh (absent : w.committed p.key = none) (free : Free w p) :
    (dispatch p e at_time).run w =
      (do
        let receipt ← write p.mailboxRef p.expectedMailboxSeq e p.identity.executionIdentity
        let committed ← verifyAndCommit p e receipt at_time
        cacheCommitted p.key committed
        return committed).run w := by
  refine (run_lift_ok bound).trans ?_
  have read : (cachedCommitted p.key).run w = (.ok none, w) := by
    rw [run_cachedCommitted, absent]
  refine (run_bind_ok read).trans ?_
  refine (run_bind_ok (run_ledgerEvents w p.runId)).trans ?_
  unfold Free at free
  rw [free]

theorem run_dispatch_taken (absent : w.committed p.key = none) (kept : Kept w)
    (free : Uncommitted (w.ledger p.runId) p) (taken : ¬ Free w p) :
    ∃ failure, (dispatch p e at_time).run w = (.error failure, w) := by
  obtain ⟨row, found⟩ := Option.ne_none_iff_exists'.mp taken
  obtain ⟨held, named⟩ := findEvent_mem found
  have other : ∃ failure, committedFromEvent row = .error failure := by
    have filed := kept.ledger.filed p.runId row held
    unfold Filed at filed
    unfold committedFromEvent
    cases shape : row.record with
    | prepared q => exact ⟨_, rfl⟩
    | other => exact ⟨_, rfl⟩
    | committed c =>
      rw [shape] at filed
      have candidate : isCommitCandidate p row = true := by
        simp [isCommitCandidate, filed.2.1, named]
      rw [free row held] at candidate
      cases candidate
  obtain ⟨failure, refused⟩ := other
  have read : (cachedCommitted p.key).run w = (.ok none, w) := by
    rw [run_cachedCommitted, absent]
  refine ⟨failure, (run_lift_ok bound).trans ((run_bind_ok read).trans ((run_bind_ok (run_ledgerEvents w p.runId)).trans ?_))⟩
  rw [found]
  exact run_lift_error refused

end Dispatches

/-! ## The successor slot is empty -/

section Retries
variable (wf : WellFormed w.mailbox) (bound : assertEnvelopeMatches p e = .ok ())
  (quiet : Quiet (w.mailbox.mailboxes p.mailboxRef) p e)
  (missing : ∀ x ∈ w.mailbox.mailboxes p.mailboxRef, ¬ isExact p e x)
include wf bound quiet missing

theorem key_fresh : w.mailbox.idempotency p.mailboxRef e.idempotencyKey = none := by
  have key : e.idempotencyKey = p.identity.idempotencyKey :=
    congrArg DispatchIdentity.idempotencyKey (envelope_matches bound).2.1
  cases held : w.mailbox.idempotency p.mailboxRef e.idempotencyKey with
  | none => rfl
  | some receipt =>
    obtain ⟨x, member, same, -⟩ := wf.backed _ _ _ held
    exact absurd (quiet x member (.inr (.inl (same.trans key)))) (missing x member)

theorem envelope_absent (x : MailboxEvent) (member : x ∈ w.mailbox.mailboxes p.mailboxRef) :
    x.envelope ≠ e := by
  rintro rfl
  have key : x.envelope.idempotencyKey = p.identity.idempotencyKey :=
    congrArg DispatchIdentity.idempotencyKey (envelope_matches bound).2.1
  have related : isRelated p x := .inr (.inl ((wf.recorded_of_mem member).key.trans key))
  exact missing x member (quiet x member related)

variable (named : p.mailboxRef ≠ "")
  (last : lastSeq (w.mailbox.mailboxes p.mailboxRef) = p.expectedMailboxSeq)
include named last

/-- Only the sequence of the producer can stop the write. -/
theorem retry_admission : ∃ failure,
    w.mailbox.admission p.mailboxRef p.expectedMailboxSeq e (some p.identity.executionIdentity) =
      (ensure (producerLastSeq (w.mailbox.mailboxes p.mailboxRef) e.producerNamespace < e.seq)
        failure).bind fun _ =>
      .ok (.append (eventFor p.mailboxRef (w.mailbox.mailboxes p.mailboxRef) e)) := by
  have initial : -1 ≤ p.expectedMailboxSeq := by
    rw [← last, lastSeq]
    omega
  unfold admission validateRef validateExpectedSeq
  rw [ensure_of named, Checked.ok_bind, ensure_of initial, Checked.ok_bind]
  simp only [own_identity bound, key_fresh wf bound quiet missing, last, ensure_true,
    Checked.ok_bind]
  exact ⟨_, rfl⟩

theorem retry_write_older
    (older : ¬ producerLastSeq (w.mailbox.mailboxes p.mailboxRef) e.producerNamespace < e.seq) :
    ∃ failure, (write p.mailboxRef p.expectedMailboxSeq e p.identity.executionIdentity).run w =
      (.error failure, w) := by
  obtain ⟨failure, refused⟩ := retry_admission wf bound quiet missing named last
  rw [ensure_error older] at refused
  refine ⟨failure, ?_⟩
  unfold Source.Dispatch.write
  rw [run_operation]
  unfold InMemoryMailboxRepository.write
  rw [refused]
  rfl

theorem retry_write_newer
    (newer : producerLastSeq (w.mailbox.mailboxes p.mailboxRef) e.producerNamespace < e.seq) :
    (write p.mailboxRef p.expectedMailboxSeq e p.identity.executionIdentity).run w =
      (.ok (receiptOf (eventFor p.mailboxRef (w.mailbox.mailboxes p.mailboxRef) e)), { w with
        mailbox := w.mailbox.commit (eventFor p.mailboxRef (w.mailbox.mailboxes p.mailboxRef) e) }) := by
  obtain ⟨_, admitted⟩ := retry_admission wf bound quiet missing named last
  rw [ensure_of newer] at admitted
  unfold Source.Dispatch.write
  rw [run_operation]
  unfold InMemoryMailboxRepository.write
  rw [admitted]
  rfl

omit wf missing named in
/-- The written event is the exact one and conflicts with nothing. -/
theorem retry_written :
    isExact p e (eventFor p.mailboxRef (w.mailbox.mailboxes p.mailboxRef) e) ∧
      Quiet (w.mailbox.mailboxes p.mailboxRef ++
        [eventFor p.mailboxRef (w.mailbox.mailboxes p.mailboxRef) e]) p e := by
  have written : isExact p e (eventFor p.mailboxRef (w.mailbox.mailboxes p.mailboxRef) e) := by
    refine ⟨(envelope_matches bound).1, ?_, rfl, rfl, rfl, rfl, rfl⟩
    rw [← last, lastSeq]
    simp only [eventFor]
    omega
  refine ⟨written, fun x member related => ?_⟩
  rcases List.mem_append.mp member with held | new
  · exact quiet x held related
  · rw [List.mem_singleton.mp new]
    exact written

end Retries

/-! ## Outcomes -/

section Settling
variable {at_time : String} {u : World}

theorem settle_blocked (at_time : String) (reason : String) (found : Option MailboxEvent) :
    ∃ d, (settle p e at_time (.blocked reason found)).run w = (.ok d, w) ∧ d.action = .blocked :=
  ⟨_, rfl, rfl⟩

theorem settle_consume (at_time : String) (x : MailboxEvent) (c : DispatchCommitted) :
    ∃ d, (settle p e at_time (.consume x c)).run w = (.ok d, w) ∧ d.action ≠ .blocked :=
  ⟨_, rfl, nofun⟩

theorem settle_repair_ok {x : MailboxEvent} {c : DispatchCommitted}
    (committed : (verifyAndCommit p e (receiptOf x true) at_time).run w = (.ok c, u)) :
    ∃ d, (settle p e at_time (.repair x)).run w = (.ok d, u) ∧ d.action ≠ .blocked := by
  rw [settle]
  exact ⟨_, run_handle_ok ((run_bind_ok (p := commitFromExistingEvent p e x at_time)
    committed).trans rfl), fun blocked => by cases blocked⟩

theorem settle_repair_error {x : MailboxEvent} {failure : Raised}
    (failed : (verifyAndCommit p e (receiptOf x true) at_time).run w = (.error failure, u)) :
    ∃ d, (settle p e at_time (.repair x)).run w = (.ok d, u) ∧ d.action = .blocked := by
  rw [settle]
  exact ⟨_, (run_handle_error (run_bind_error (p := commitFromExistingEvent p e x at_time)
    failed)).trans rfl, rfl⟩

theorem settle_retry_ok {c : DispatchCommitted}
    (committed : (dispatch p e at_time).run w = (.ok c, u)) :
    ∃ d, (settle p e at_time .retry).run w = (.ok d, u) ∧ d.action ≠ .blocked := by
  rw [settle]
  exact ⟨_, run_handle_ok ((run_bind_ok committed).trans rfl), fun blocked => by cases blocked⟩

theorem settle_retry_error {failure : Raised}
    (failed : (dispatch p e at_time).run w = (.error failure, u)) :
    ∃ d, (settle p e at_time .retry).run w = (.ok d, u) ∧ d.action = .blocked := by
  rw [settle]
  exact ⟨_, (run_handle_error (run_bind_error failed)).trans rfl, rfl⟩

end Settling

/-- No reconciliation of the dispatch changes the mailbox or the ledger. -/
def Inert (w : World) (p : DispatchPrepared) (e : V2MailboxEnvelope) : Prop :=
  ∀ cache again, Unchanged w ((reconcile p e again).run (withCache w cache)).2

theorem inert_closed (closed : ¬ (assertEnvelopeMatches p e = .ok () ∧
    preparedProblem (w.ledger p.runId) p = none)) : Inert w p e := by
  intro cache again
  obtain ⟨d, outcome, -⟩ := run_closed (w := withCache w cache) closed again
  rw [outcome]
  exact ⟨rfl, rfl⟩

section Inert
variable (kept : Kept w) (bound : assertEnvelopeMatches p e = .ok ())
  (durable : preparedProblem (w.ledger p.runId) p = none)
include kept bound durable

theorem inert_of_settle {d : Disposition}
    (classified : classify (w.ledger p.runId) (w.mailbox.mailboxes p.mailboxRef) p e = d)
    (still : ∀ cache again, ∃ decision, (settle p e again d).run (withCache w cache) =
      (.ok decision, withCache w cache)) : Inert w p e := by
  intro cache again
  obtain ⟨decision, outcome⟩ := still cache again
  have kept' : Kept (withCache w cache) := kept.congr rfl rfl
  rw [run_open kept' bound durable classified again, outcome]
  exact ⟨rfl, rfl⟩

theorem inert_blocked {reason : String} {found : Option MailboxEvent}
    (classified : classify (w.ledger p.runId) (w.mailbox.mailboxes p.mailboxRef) p e =
      .blocked reason found) : Inert w p e :=
  inert_of_settle kept bound durable classified fun _ _ =>
    (settle_blocked _ reason found).imp fun _ outcome => outcome.1

theorem inert_consume {x : MailboxEvent} {c : DispatchCommitted}
    (classified : classify (w.ledger p.runId) (w.mailbox.mailboxes p.mailboxRef) p e =
      .consume x c) : Inert w p e :=
  inert_of_settle kept bound durable classified fun _ _ =>
    (settle_consume _ x c).imp fun _ outcome => outcome.1

end Inert

/-! ## A recorded commit settles the dispatch -/

omit [Sha256] in
theorem preparedProblem_append {rows : List AuditEvent} (durable : preparedProblem rows p = none)
    (later : List AuditEvent) : preparedProblem (rows ++ later) p = none := by
  unfold preparedProblem at durable ⊢
  cases found : findEvent rows p.preparedId with
  | none =>
    rw [found] at durable
    cases durable
  | some event =>
    have same : findEvent (rows ++ later) p.preparedId = some event := by
      unfold findEvent at found ⊢
      rw [List.find?_append, found, Option.some_or]
    rw [found] at durable
    rw [same]
    exact durable

theorem commit_matches {x : MailboxEvent} (found : isExact p e x) (idempotent : Bool)
    (at_time : String) : commitMatchesEvent (commitOf p (receiptOf x idempotent) at_time) p e x := by
  have digest := found.2.2.2.2.2.1
  exact ⟨rfl, rfl, rfl, rfl, rfl, rfl, rfl, (exact_envelope found).1, congrArg Digest.value digest,
    rfl, rfl⟩

theorem commit_settles (kept : Kept w) (opened : Open w p e) {x : MailboxEvent}
    (member : x ∈ w.mailbox.mailboxes p.mailboxRef) (found : isExact p e x) (idempotent : Bool)
    {at_time : String} (timed : strip at_time ≠ "") (free : Free w p) :
    ∃ l, (verifyAndCommit p e (receiptOf x idempotent) at_time).run w =
        (.ok (commitOf p (receiptOf x idempotent) at_time), { w with ledger := l }) ∧
      l ≠ w.ledger ∧
      ∀ v : World, v.mailbox = w.mailbox → v.ledger = l → Resolved v p e ∧ Inert v p e := by
  have checked := durable_checked kept opened.durable
  obtain ⟨-, -, bound⟩ := envelope_matches opened.bound
  set commit := commitOf p (receiptOf x idempotent) at_time with shape
  set event := committedEvent w.actor commit with recorded
  have place : event.runId = p.runId := rfl
  have outcome : appendOrReadback w.ledger event =
      (.ok (), Function.update w.ledger event.runId (w.ledger event.runId ++ [event])) := by
    rcases readback_cases w.ledger event with
      ⟨existing, taken, _⟩ | ⟨existing, _, taken, _⟩ | ⟨_, outcome⟩
    · rw [show findEvent (w.ledger event.runId) event.eventId = none from free] at taken
      cases taken
    · rw [show findEvent (w.ledger event.runId) event.eventId = none from free] at taken
      cases taken
    · exact outcome
  have digest : (receiptOf x idempotent).envelopeDigest.value = p.envelopeDigest :=
    (congrArg Digest.value found.2.2.2.2.2.1).trans bound
  have filed : Filed event.runId event := filed_commit w.actor at_time digest
  refine ⟨_, run_timed kept.mailbox checked member found idempotent timed outcome, ?_, ?_⟩
  · intro same
    have rows := congrArg List.length (congrFun same event.runId)
    rw [Function.update_self, List.length_append, List.length_singleton] at rows
    omega
  · intro v mailbox ledger
    have kept' : Kept v := ⟨mailbox ▸ kept.mailbox, ledger ▸ kept.ledger.extend free filed⟩
    have rows : v.ledger p.runId = w.ledger p.runId ++ [event] := by
      rw [ledger, ← place, Function.update_self]
    have matched : commitMatchesEvent commit p e x := commit_matches found idempotent at_time
    have held : event ∈ v.ledger p.runId := by
      rw [rows]
      exact List.mem_append_right _ (List.mem_singleton_self _)
    have candidate : isCommitCandidate p event = true := by
      simp [isCommitCandidate, recorded, shape, committedEvent, commitOf]
    have durable : preparedProblem (v.ledger p.runId) p = none := by
      rw [rows]
      exact preparedProblem_append opened.durable _
    rw [← mailbox] at member
    have quiet := opened.quiet
    rw [← mailbox] at quiet
    have listed : findCommittedRecord (v.ledger p.runId) p = .ok (some commit) := by
      rw [rows]
      exact findCommittedRecord_snoc opened.uncommitted candidate rfl
    have consumed := classify_consume kept'.mailbox quiet member found listed matched
    exact ⟨resolved kept' member found held rfl matched,
      inert_consume kept' opened.bound durable consumed⟩

/-! ## Repairing -/

section Repair
variable (kept : Kept w) (opened : Open w p e) {x : MailboxEvent}
  (member : x ∈ w.mailbox.mailboxes p.mailboxRef) (found : isExact p e x)
  (classified : classify (w.ledger p.runId) (w.mailbox.mailboxes p.mailboxRef) p e = .repair x)
include kept opened member found classified

/-- A repair that may not record leaves the world. -/
theorem repair_refused (at_time : String) (refused : Free w p → strip at_time = "") :
    ∃ d, (reconcile p e at_time).run w = (.ok d, w) ∧ d.action = .blocked := by
  have checked := durable_checked kept opened.durable
  rw [run_open kept opened.bound opened.durable classified at_time]
  by_cases blank : strip at_time = ""
  · obtain ⟨failure, failed⟩ := run_untimed kept.mailbox checked member found true blank
    exact settle_repair_error failed
  · have taken : ¬ Free w p := fun free => blank (refused free)
    have outcome : ∃ failure, appendOrReadback w.ledger
        (committedEvent w.actor (commitOf p (receiptOf x true) at_time)) = (.error failure, w.ledger) := by
      set event := committedEvent w.actor (commitOf p (receiptOf x true) at_time) with recorded
      rcases readback_cases w.ledger event with
        ⟨existing, taken', same, _⟩ | ⟨_, failure, _, _, outcome⟩ | ⟨free, _⟩
      · obtain ⟨held, named⟩ := findEvent_mem taken'
        have filed := kept.ledger.filed p.runId existing held
        unfold Filed at filed
        rw [same] at filed
        have candidate : isCommitCandidate p existing = true := by
          simp [isCommitCandidate, filed.2.1, named, recorded, committedEvent, commitOf]
        rw [opened.uncommitted existing held] at candidate
        cases candidate
      · exact ⟨failure, outcome⟩
      · exact absurd free taken
    obtain ⟨failure, outcome⟩ := outcome
    exact settle_repair_error (run_timed kept.mailbox checked member found true blank outcome)

theorem repair_commits {at_time : String} (timed : strip at_time ≠ "") (free : Free w p) :
    ∃ d u, (reconcile p e at_time).run w = (.ok d, u) ∧ d.action ≠ .blocked ∧
      u.ledger ≠ w.ledger ∧ Resolved u p e ∧ Inert u p e := by
  obtain ⟨l, committed, changed, settled⟩ :=
    commit_settles kept opened member found true timed free
  obtain ⟨d, outcome, acted⟩ := settle_repair_ok committed
  refine ⟨d, { w with ledger := l }, ?_, acted, changed, settled _ rfl rfl⟩
  rw [run_open kept opened.bound opened.durable classified at_time, outcome]

end Repair

/-! ## Retrying -/

section Retry
variable (kept : Kept w) (opened : Open w p e)
  (missing : ∀ x ∈ w.mailbox.mailboxes p.mailboxRef, ¬ isExact p e x)
  (last : lastSeq (w.mailbox.mailboxes p.mailboxRef) = p.expectedMailboxSeq)
  (classified : classify (w.ledger p.runId) (w.mailbox.mailboxes p.mailboxRef) p e = .retry)
include kept opened missing last classified

omit missing last in
theorem retry_cached {c : DispatchCommitted} (cached : w.committed p.key = some c)
    (at_time : String) : ∃ d, (reconcile p e at_time).run w = (.ok d, w) ∧ d.action ≠ .blocked := by
  rw [run_open kept opened.bound opened.durable classified at_time]
  exact settle_retry_ok (run_dispatch_cached opened.bound at_time cached)

/-- A retry whose write or whose commit is taken leaves the world. -/
theorem retry_refused (absent : w.committed p.key = none)
    (refused : Free w p →
      ¬ producerLastSeq (w.mailbox.mailboxes p.mailboxRef) e.producerNamespace < e.seq)
    (at_time : String) : ∃ d, (reconcile p e at_time).run w = (.ok d, w) ∧ d.action = .blocked := by
  have named : p.mailboxRef ≠ "" :=
    ne_empty_of_strip (checked_facts (durable_checked kept opened.durable)).2.2.2.1
  rw [run_open kept opened.bound opened.durable classified at_time]
  by_cases free : Free w p
  · obtain ⟨failure, failed⟩ :=
      retry_write_older kept.mailbox opened.bound opened.quiet missing named last (refused free)
    have stopped := run_dispatch_fresh opened.bound at_time absent free
    exact settle_retry_error (stopped.trans (run_bind_error failed))
  · obtain ⟨failure, failed⟩ :=
      run_dispatch_taken opened.bound at_time absent kept opened.uncommitted free
    exact settle_retry_error failed

section Written
variable (absent : w.committed p.key = none) (free : Free w p)
  (newer : producerLastSeq (w.mailbox.mailboxes p.mailboxRef) e.producerNamespace < e.seq)
include absent free newer

/-- A retry that writes, in the world its write leaves. -/
theorem retry_writes : ∃ v x, v.mailbox ≠ w.mailbox ∧ v.ledger = w.ledger ∧ Kept v ∧ Open v p e ∧
    x ∈ v.mailbox.mailboxes p.mailboxRef ∧ isExact p e x ∧
    ∀ at_time, (reconcile p e at_time).run w = (settle p e at_time .retry).run w ∧
      (dispatch p e at_time).run w = (do
        let committed ← verifyAndCommit p e (receiptOf x) at_time
        cacheCommitted p.key committed
        return committed).run v := by
  have named : p.mailboxRef ≠ "" :=
    ne_empty_of_strip (checked_facts (durable_checked kept opened.durable)).2.2.2.1
  set x := eventFor p.mailboxRef (w.mailbox.mailboxes p.mailboxRef) e with shape
  obtain ⟨written, quiet⟩ := retry_written opened.bound opened.quiet last
  have wrote := retry_write_newer kept.mailbox opened.bound opened.quiet missing named last newer
  have fresh := key_fresh kept.mailbox opened.bound opened.quiet missing
  have log : (w.mailbox.commit x).mailboxes p.mailboxRef =
      w.mailbox.mailboxes p.mailboxRef ++ [x] := by
    rw [shape, commit_mailboxes, if_pos rfl]
  refine ⟨{ w with mailbox := w.mailbox.commit x }, x, ?_, rfl, ?_, ?_, ?_, written, ?_⟩
  · intro same
    have grown := congrArg (fun m => (m.mailboxes p.mailboxRef).length) same
    simp only [log, List.length_append, List.length_singleton] at grown
    omega
  · exact ⟨commit_wellFormed kept.mailbox named fresh newer, kept.ledger⟩
  · refine ⟨opened.bound, opened.durable, ?_, opened.uncommitted⟩
    change Quiet ((w.mailbox.commit x).mailboxes p.mailboxRef) p e
    rw [log]
    exact quiet
  · change x ∈ (w.mailbox.commit x).mailboxes p.mailboxRef
    rw [log]
    exact List.mem_append_right _ (List.mem_singleton_self _)
  · intro at_time
    refine ⟨run_open kept opened.bound opened.durable classified at_time, ?_⟩
    rw [run_dispatch_fresh opened.bound at_time absent free]
    exact run_bind_ok wrote

theorem retry_untimed {at_time : String} (blank : strip at_time = "") :
    ∃ d u, (reconcile p e at_time).run w = (.ok d, u) ∧ d.action = .blocked ∧
      u.mailbox ≠ w.mailbox := by
  obtain ⟨v, x, changed, _, kept', opened', member, found, runs⟩ :=
    retry_writes kept opened missing last classified absent free newer
  obtain ⟨outcome, dispatched⟩ := runs at_time
  have checked := durable_checked kept' opened'.durable
  obtain ⟨failure, failed⟩ := run_untimed kept'.mailbox checked member found false blank
  obtain ⟨d, settled, action⟩ :=
    settle_retry_error (dispatched.trans (run_bind_error failed))
  exact ⟨d, v, outcome.trans settled, action, changed⟩

theorem retry_commits {at_time : String} (timed : strip at_time ≠ "") :
    ∃ d u, (reconcile p e at_time).run w = (.ok d, u) ∧ d.action ≠ .blocked ∧
      u.mailbox ≠ w.mailbox ∧ Resolved u p e ∧ Inert u p e := by
  obtain ⟨v, x, changed, ledger, kept', opened', member, found, runs⟩ :=
    retry_writes kept opened missing last classified absent free newer
  obtain ⟨outcome, dispatched⟩ := runs at_time
  have free' : Free v p := by
    unfold Free
    rw [ledger]
    exact free
  obtain ⟨l, committed, -, after⟩ := commit_settles kept' opened' member found false timed free'
  obtain ⟨d, settled, acted⟩ :=
    settle_retry_ok (dispatched.trans ((run_bind_ok committed).trans rfl))
  exact ⟨d, _, outcome.trans settled, acted, changed, after _ rfl rfl⟩

end Written

end Retry

/-! ## When a reconciliation recovers the dispatch -/

theorem recovers_of_run {at_time : String} {d : ReconciliationDecision} {u : World}
    (outcome : (reconcile p e at_time).run w = (.ok d, u)) :
    Recovers w p e at_time ↔
      (if d.action = .blocked then Unchanged w u else Resolved u p e) ∧ Inert u p e := by
  unfold Recovers Inert
  rw [outcome]
  simp

omit [Sha256] in
theorem solid_time : strip "t" ≠ "" := by decide

theorem recovers_repair (kept : Kept w) (opened : Open w p e) {x : MailboxEvent}
    (member : x ∈ w.mailbox.mailboxes p.mailboxRef) (found : isExact p e x)
    (classified : classify (w.ledger p.runId) (w.mailbox.mailboxes p.mailboxRef) p e = .repair x)
    (at_time : String) : Recovers w p e at_time ↔ (Free w p → strip at_time ≠ "") := by
  by_cases free : Free w p
  · by_cases blank : strip at_time = ""
    · obtain ⟨d, outcome, action⟩ :=
        repair_refused kept opened member found classified at_time fun _ => blank
      rw [recovers_of_run outcome]
      refine ⟨fun recovered => ?_, fun timed => absurd blank (timed free)⟩
      obtain ⟨_, u, repaired, _, changed, _⟩ :=
        repair_commits kept opened member found classified solid_time free
      have still := recovered.2 w.committed "t"
      rw [show (reconcile p e "t").run (withCache w w.committed) = _ from repaired] at still
      exact absurd still.2 changed
    · obtain ⟨d, u, outcome, acted, _, settled⟩ :=
        repair_commits kept opened member found classified blank free
      rw [recovers_of_run outcome, if_neg acted]
      exact ⟨fun _ _ => blank, fun _ => settled⟩
  · obtain ⟨d, outcome, action⟩ :=
      repair_refused kept opened member found classified at_time fun held =>
        absurd held free
    rw [recovers_of_run outcome, if_pos action]
    refine ⟨fun _ held => absurd held free, fun _ => ⟨⟨rfl, rfl⟩, ?_⟩⟩
    intro cache again
    have kept' : Kept (withCache w cache) := kept.congr rfl rfl
    have opened' : Open (withCache w cache) p e :=
      ⟨opened.bound, opened.durable, opened.quiet, opened.uncommitted⟩
    obtain ⟨_, still, _⟩ := repair_refused kept' opened' member found classified
      again fun held => absurd held free
    rw [still]
    exact ⟨rfl, rfl⟩

theorem recovers_retry (kept : Kept w) (opened : Open w p e)
    (missing : ∀ x ∈ w.mailbox.mailboxes p.mailboxRef, ¬ isExact p e x)
    (last : lastSeq (w.mailbox.mailboxes p.mailboxRef) = p.expectedMailboxSeq)
    (classified : classify (w.ledger p.runId) (w.mailbox.mailboxes p.mailboxRef) p e = .retry)
    (at_time : String) :
    Recovers w p e at_time ↔ w.committed p.key = none ∧
      (Free w p → producerLastSeq (w.mailbox.mailboxes p.mailboxRef) e.producerNamespace < e.seq →
        strip at_time ≠ "") := by
  cases cached : w.committed p.key with
  | some c =>
    obtain ⟨d, outcome, acted⟩ := retry_cached kept opened classified cached at_time
    rw [recovers_of_run outcome, if_neg acted]
    refine ⟨fun recovered => ?_, fun both => nomatch both.1⟩
    obtain ⟨⟨x, _, one, _⟩, _⟩ := recovered
    have listed : x ∈ (w.mailbox.mailboxes p.mailboxRef).filter (·.envelope = e) := by
      rw [one]
      exact List.mem_singleton_self x
    obtain ⟨member, same⟩ := List.mem_filter.mp listed
    exact absurd (of_decide_eq_true same)
      (envelope_absent kept.mailbox opened.bound opened.quiet missing x member)
  | none =>
    by_cases writes : Free w p ∧
        producerLastSeq (w.mailbox.mailboxes p.mailboxRef) e.producerNamespace < e.seq
    · obtain ⟨free, newer⟩ := writes
      by_cases blank : strip at_time = ""
      · obtain ⟨d, u, outcome, action, changed⟩ :=
          retry_untimed kept opened missing last classified cached free newer blank
        rw [recovers_of_run outcome, if_pos action]
        exact ⟨fun recovered => absurd recovered.1.1 changed,
          fun timed => absurd blank (timed.2 free newer)⟩
      · obtain ⟨d, u, outcome, acted, _, settled⟩ :=
          retry_commits kept opened missing last classified cached free newer blank
        rw [recovers_of_run outcome, if_neg acted]
        exact ⟨fun _ => ⟨rfl, fun _ _ => blank⟩, fun _ => settled⟩
    · have refused : Free w p →
          ¬ producerLastSeq (w.mailbox.mailboxes p.mailboxRef) e.producerNamespace < e.seq :=
        fun free newer => writes ⟨free, newer⟩
      obtain ⟨d, outcome, action⟩ :=
        retry_refused kept opened missing last classified cached refused at_time
      rw [recovers_of_run outcome, if_pos action]
      refine ⟨fun _ => ⟨rfl, fun free newer => absurd newer (refused free)⟩,
        fun _ => ⟨⟨rfl, rfl⟩, ?_⟩⟩
      refine inert_of_settle kept opened.bound opened.durable classified fun cache again => ?_
      have kept' : Kept (withCache w cache) := kept.congr rfl rfl
      have opened' : Open (withCache w cache) p e :=
        ⟨opened.bound, opened.durable, opened.quiet, opened.uncommitted⟩
      rw [← run_open kept' opened.bound opened.durable classified again]
      cases held : cache p.key with
      | some c =>
        exact (retry_cached kept' opened' classified held again).imp fun _ outcome => outcome.1
      | none =>
        exact (retry_refused kept' opened' missing last classified held refused again).imp
          fun _ outcome => outcome.1

theorem recovers_iff (kept : Kept w) (at_time : String) :
    Recovers w p e at_time ↔ Completes w p e at_time := by
  by_cases pending : assertEnvelopeMatches p e = .ok () ∧ preparedProblem (w.ledger p.runId) p = none
  · obtain ⟨bound, durable⟩ := pending
    rcases classify_cases kept.mailbox (w.ledger p.runId) p e with
      ⟨reason, found, classified, shut⟩ | ⟨x, member, row, held, c, found, shape, same, classified, taken⟩
      | ⟨quiet, free, x, member, found, classified⟩ | ⟨quiet, free, missing, last, classified⟩
    · obtain ⟨d, settled, action⟩ := settle_blocked (p := p) (e := e) (w := w) at_time
        reason found
      have outcome := (run_open kept bound durable classified at_time).trans settled
      rw [recovers_of_run outcome, if_pos action]
      refine ⟨fun _ opened => ?_, fun _ =>
        ⟨⟨rfl, rfl⟩, inert_blocked kept bound durable classified⟩⟩
      exact ⟨fun exact_event => absurd ⟨opened.quiet, opened.uncommitted, .inl exact_event⟩ shut,
        fun _ last => absurd ⟨opened.quiet, opened.uncommitted, .inr last⟩ shut⟩
    · obtain ⟨d, settled, acted⟩ := settle_consume (p := p) (e := e) (w := w) at_time x c
      have outcome := (run_open kept bound durable classified at_time).trans settled
      rw [recovers_of_run outcome, if_neg acted]
      exact ⟨fun _ opened => absurd opened.uncommitted taken, fun _ =>
        ⟨resolved kept member found held shape same, inert_consume kept bound durable classified⟩⟩
    · have opened : Open w p e := ⟨bound, durable, quiet, free⟩
      rw [recovers_repair kept opened member found classified at_time]
      exact ⟨fun timed _ => ⟨fun _ => timed, fun missing => absurd found (missing x member)⟩,
        fun completes => (completes opened).1 ⟨x, member, found⟩⟩
    · have opened : Open w p e := ⟨bound, durable, quiet, free⟩
      rw [recovers_retry kept opened missing last classified at_time]
      refine ⟨fun timed _ => ⟨?_, fun _ _ => timed⟩, fun completes =>
        (completes opened).2 missing last⟩
      rintro ⟨x, member, found⟩
      exact absurd found (missing x member)
  · obtain ⟨d, outcome, action⟩ := run_closed pending at_time
    rw [recovers_of_run outcome, if_pos action]
    exact ⟨fun _ opened => absurd ⟨opened.bound, opened.durable⟩ pending,
      fun _ => ⟨⟨rfl, rfl⟩, inert_closed pending⟩⟩

/-- After every history each mailbox has each envelope once at most, and a reconciler
with any cache recovers a dispatch exactly when its time is not blank where it records
a commit and its cache does not hold a commit where it retries. -/
theorem reconcile_recovers (actor : String) (steps : List Step) :
    (∀ ref e, (((Runs.run step { actor := actor } steps).mailbox.mailboxes ref).filter
      (·.envelope = e)).length ≤ 1) ∧
    ∀ cache p e reconciledAt,
      Recovers (withCache (Runs.run step { actor := actor } steps) cache) p e reconciledAt ↔
        Completes (withCache (Runs.run step { actor := actor } steps) cache) p e
          reconciledAt := by
  have kept := kept_run actor steps
  generalize Runs.run step { actor := actor } steps = w at kept ⊢
  constructor
  · intro ref e
    have unique : ∀ a ∈ w.mailbox.mailboxes ref, ∀ b ∈ w.mailbox.mailboxes ref,
        a.envelope = e → b.envelope = e → a = b := fun a first b second here there =>
      envelope_unique kept.mailbox first second (here.trans there.symm)
    rcases Keyed.filter_unique (keys_distinct kept.mailbox ref).of_map unique with
      none | ⟨x, _, _, one⟩
    · rw [none]
      exact Nat.zero_le 1
    · rw [one]
      exact Nat.le_refl 1
  · intro cache p e at_time
    have kept' : Kept (withCache w cache) := kept.congr rfl rfl
    exact recovers_iff kept' at_time

/-! ## A retry with a blank time -/

def requestPrepare : PrepareRequest where
  envelope := requestEnvelope
  mailboxRef := "mailbox"
  expectedMailboxSeq := -1
  stateVersion := 0
  leaseGeneration := requestEnvelope.executionIdentity.leaseGeneration
  preparedAt := "t"

theorem requestPrepare_checked : Checked requestPrepare.record := by
  have identity : (DispatchIdentity.ofEnvelope requestEnvelope).check = .ok () := by
    change DispatchIdentity.check ⟨"run", "node", "v1", zeroDigest.value, zeroDigest.value,
      zeroDigest.value, "attempt", 1, "token", "message", "key"⟩ = .ok ()
    simp only [DispatchIdentity.check, digestText_value]
    decide
  exact checked_record identity (by decide) (by decide) (by decide) (by decide)

omit [Sha256] in
theorem preparedProblem_none {rows : List AuditEvent} {row : AuditEvent}
    (found : findEvent rows p.preparedId = some row) (kind : row.decisionKind = dispatchPrepared)
    (shape : row.record = .prepared p) : preparedProblem rows p = none := by
  unfold preparedProblem
  rw [found]
  dsimp only
  rw [if_neg (not_not.mpr kind), shape]
  simp only [assertSamePrepared, ensure_true]

/-- What a process leaves that crashes after DispatchPrepared. -/
def crashedWorld : World where
  ledger := Function.update (fun _ => []) "run" [preparedEvent "controller" requestPrepare.record]

theorem crashed_run :
    Runs.run step { actor := "controller" } [.call (.prepare requestPrepare) 5, .restart] =
      crashedWorld := by
  have prepared := run_prepare_fresh (w := { actor := "controller" }) requestPrepare_checked
    rfl rfl rfl
  rw [Runs.run_cons, step_prepare, prepared]
  rfl

theorem crashed_rows : crashedWorld.ledger requestPrepare.record.runId =
    [preparedEvent "controller" requestPrepare.record] := by
  have here : requestPrepare.record.runId = "run" := rfl
  rw [here]
  simp only [crashedWorld, Function.update_self]

theorem crashed_open : Open crashedWorld requestPrepare.record requestEnvelope := by
  have built : DispatchIdentity.fromEnvelope requestEnvelope = .ok requestPrepare.record.identity := by
    unfold DispatchIdentity.fromEnvelope
    exact bind_ok.mpr ⟨(), requestPrepare_checked.identity, rfl⟩
  refine ⟨?_, ?_, (fun _ member => nomatch member), ?_⟩
  · exact bind_ok.mpr ⟨_, built, ensure_of ⟨rfl, rfl⟩ _⟩
  · rw [crashed_rows]
    exact preparedProblem_none (List.find?_cons_of_pos (by simp [preparedEvent])) rfl rfl
  · rw [crashed_rows]
    intro row member
    rw [List.mem_singleton.mp member]
    rfl

theorem crashed_free : Free crashedWorld requestPrepare.record := by
  unfold Free
  rw [crashed_rows, findEvent_none]
  intro row member
  rw [List.mem_singleton.mp member]
  exact ids_differ _ _

/-- A reconciliation with a blank time blocks after it wrote the mailbox. -/
theorem blank_retry : ¬ Recovers crashedWorld requestPrepare.record requestEnvelope "" := by
  have kept : Kept crashedWorld := crashed_run ▸ kept_run "controller" _
  rw [recovers_iff kept]
  intro completes
  obtain ⟨-, timed⟩ := (completes crashed_open).2 (fun _ member => nomatch member) rfl
  have newer : (-1 : Int) < 0 := by decide
  exact timed crashed_free newer rfl

omit [Sha256] in
theorem blank_time_blocks :
    ¬ ∀ (actor : String) (steps : List Step) (p : DispatchPrepared) (e : V2MailboxEnvelope)
      (reconciledAt : String),
      @Recovers zeroHash (@Runs.run _ _ (@step zeroHash) { actor := actor } steps) p e
        reconciledAt := by
  intro all
  have recovered := all "controller" [.call (.prepare (@requestPrepare)) 5, .restart]
    (@requestPrepare.record zeroHash) requestEnvelope ""
  rw [@crashed_run zeroHash] at recovered
  exact @blank_retry zeroHash recovered

end DwSuperApps.Guarantees.DispatchReconcile
