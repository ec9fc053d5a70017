import DwSuperApps.Guarantees.DispatchReconcile

/-!
# One dispatch for each key

Prepares look a request up under its key in the cache of their process, and in the
ledger only under the digest of its envelope. So a prepare overlooks the durable record
of its key exactly where its process has not seen that record and the ledger has none
of its own envelope. In a run without such a prepare, and whose dispatches are given
prepared records, each key has one prepared record and one commit.
-/
namespace DwSuperApps.Guarantees.DispatchKeys

open DwSuperApps.Lib DwSuperApps.Lib.Checked DwSuperApps.Lib.Runs
open DwSuperApps.Lib.Programs (Prog)
open DwSuperApps.Lib.Programs.Prog
open DwSuperApps.Source.Envelope DwSuperApps.Source.Mailbox DwSuperApps.Source.Dispatch
open DwSuperApps.Guarantees.MailboxLog DwSuperApps.Guarantees.MailboxChain
open DwSuperApps.Guarantees.DispatchRecords DwSuperApps.Guarantees.DispatchReconcile

variable [Sha256] {w : World} {p : DispatchPrepared} {r : PrepareRequest}

/-! ## Keys of the ledger -/

omit [Sha256] in
theorem preparedIdOf_inj {a b : String} (same : preparedIdOf a = preparedIdOf b) : a = b := by
  have texts := congrArg String.toList same
  unfold preparedIdOf at texts
  rw [String.toList_append, String.toList_append] at texts
  exact String.toList_inj.mp (List.append_cancel_left texts)

omit [Sha256] in
/-- A commit of the ledger is the one of a prepared record of the ledger. -/
def CommitOf (l : RunLedger) (c : DispatchCommitted) : Prop :=
  ∃ p, PreparedIn l p ∧ p.identity = c.identity ∧ p.envelopeDigest = c.envelopeDigest

/-- The ledger has one prepared record for each key; the cache of a process holds such
records, commits are commits of such records, and no other row has an identifier of
such a record. -/
structure Keyed (w : World) : Prop where
  kept : Kept w
  one : ∀ p q, PreparedIn w.ledger p → PreparedIn w.ledger q → p.key = q.key → p = q
  cached : ∀ key p, w.prepared key = some p → p.key = key ∧ PreparedIn w.ledger p
  commits : ∀ c, InLedger w.ledger c → CommitOf w.ledger c
  ids : ∀ runId, ∀ row ∈ w.ledger runId, ∀ digest, row.eventId = preparedIdOf digest →
    ∃ p, row.record = .prepared p

theorem keyed_start (actor : String) : Keyed { actor := actor } where
  kept := ⟨WellFormed.empty, LedgerSound.empty⟩
  one _ _ recorded := nomatch recorded.choose_spec.1
  cached _ _ held := nomatch held
  commits _ recorded := nomatch recorded.choose_spec.1
  ids _ _ member := nomatch member

omit [Sha256] in
/-- The rows of an append that goes through or finds its record there. -/
theorem preparedIn_append {l : RunLedger} {event : AuditEvent}
    (recorded : PreparedIn (appendOrReadback l event).2 p) :
    PreparedIn l p ∨ event.record = .prepared p := by
  obtain ⟨row, member, shape⟩ := recorded
  rcases (recorded_rows l event).2 _ row member with held | rfl
  · exact .inl ⟨row, held, shape⟩
  · exact .inr shape

omit [Sha256] in
theorem preparedIn_grow {l : RunLedger} (event : AuditEvent) (recorded : PreparedIn l p) :
    PreparedIn (appendOrReadback l event).2 p := by
  obtain ⟨row, member, shape⟩ := recorded
  exact ⟨row, ((recorded_rows l event).1 _).subset member, shape⟩

/-- An event that keeps the keys of a ledger: a prepared record is the only one of its
key, a commit is one of a prepared record, and only a prepared record has its
identifier. -/
structure Fits (l : RunLedger) (event : AuditEvent) : Prop where
  own : ∀ p, event.record = .prepared p → ∀ q, PreparedIn l q → q.key = p.key → q = p
  commit : ∀ c, event.record = .committed c → CommitOf l c
  id : ∀ digest, event.eventId = preparedIdOf digest → ∃ p, event.record = .prepared p

theorem Keyed.record {event : AuditEvent} (keyed : Keyed w) (filed : Filed event.runId event)
    (fits : Fits w.ledger event) :
    Keyed { w with ledger := (appendOrReadback w.ledger event).2 } where
  kept := ⟨keyed.kept.mailbox, keyed.kept.ledger.appendOrReadback filed⟩
  one p q left right same := by
    rcases preparedIn_append left with left | left
    · rcases preparedIn_append right with right | right
      · exact keyed.one p q left right same
      · exact fits.own q right p left same
    · rcases preparedIn_append right with right | right
      · exact (fits.own p left q right same.symm).symm
      · exact LedgerRecord.prepared.inj (left.symm.trans right)
  cached key p held :=
    ⟨(keyed.cached key p held).1, preparedIn_grow event (keyed.cached key p held).2⟩
  commits c recorded := by
    obtain ⟨row, member, shape⟩ := recorded
    have grown : CommitOf w.ledger c → CommitOf (appendOrReadback w.ledger event).2 c :=
      fun ⟨p, held, facts⟩ => ⟨p, preparedIn_grow event held, facts⟩
    rcases (recorded_rows w.ledger event).2 _ row member with held | rfl
    · exact grown (keyed.commits c ⟨row, held, shape⟩)
    · exact grown (fits.commit c shape)
  ids runId row member digest same := by
    rcases (recorded_rows w.ledger event).2 _ row member with held | rfl
    · exact keyed.ids runId row held digest same
    · exact fits.id digest same

/-! ## Calls that keep the keys -/

/-- Calls keep the keys as long as what they record fits. -/
theorem closed_keyed (S : RunLedger → Prop) {Q : AuditEvent → Prop}
    (keeps : ∀ l event, S l → Q event → Filed event.runId event →
      Fits l event ∧ S (appendOrReadback l event).2) :
    Closed (fun v => Keyed v ∧ S v.ledger) Q where
  mailbox v op held :=
    ⟨{ held.1 with kept := closed_kept.mailbox v op held.1.kept }, held.2⟩
  record v event held own filed _ := by
    obtain ⟨fits, later⟩ := keeps v.ledger event held.2 own filed
    exact ⟨held.1.record filed fits, later⟩
  prepared v p held recorded := by
    refine ⟨{ held.1 with kept := held.1.kept.congr rfl rfl, cached := ?_ }, held.2⟩
    intro key q found
    by_cases here : key = p.key
    · rw [here] at found ⊢
      change Function.update v.prepared p.key (some p) p.key = some q at found
      rw [Function.update_self] at found
      cases found
      exact ⟨rfl, recorded⟩
    · change Function.update v.prepared p.key (some p) key = some q at found
      rw [Function.update_of_ne here] at found
      exact held.1.cached key q found
  committed v c held _ := ⟨{ held.1 with kept := held.1.kept.congr rfl rfl }, held.2⟩
  restart v held :=
    ⟨{ held.1 with kept := held.1.kept.congr rfl rfl, cached := fun _ _ found => nomatch found },
      held.2⟩

omit [Sha256] in
/-- The event is a commit of the prepared record. -/
def Commit (p : DispatchPrepared) (event : AuditEvent) : Prop :=
  ∃ actor c, event = committedEvent actor c ∧ c.identity = p.identity ∧
    c.envelopeDigest = p.envelopeDigest

omit [Sha256] in
theorem commits_own (p : DispatchPrepared) : Commits (Commit p) p :=
  fun actor c identity digest => ⟨actor, c, rfl, identity, digest⟩

/-- The commits of a recorded prepared record fit. -/
theorem closed_commits (p : DispatchPrepared) :
    Closed (fun v => Keyed v ∧ PreparedIn v.ledger p) (Commit p) := by
  refine closed_keyed (PreparedIn · p) ?_
  rintro l event recorded ⟨actor, c, rfl, identity, digest⟩ filed
  refine ⟨⟨(fun _ shape => nomatch shape), ?_, ?_⟩, preparedIn_grow _ recorded⟩
  · intro d shape
    cases shape
    exact ⟨p, recorded, identity.symm, digest.symm⟩
  · intro other same
    exact absurd (same.symm.trans filed.1) (ids_differ _ _)

/-- The prepared record of a request fits where no other record has its key. -/
theorem closed_prepares (r : PrepareRequest) :
    Closed (fun v => Keyed v ∧ ∀ q, PreparedIn v.ledger q → q.key = r.record.key → q = r.record)
      (fun event => ∃ actor, event = preparedEvent actor r.record) := by
  refine closed_keyed (fun l => ∀ q, PreparedIn l q → q.key = r.record.key → q = r.record) ?_
  rintro l event alone ⟨actor, rfl⟩ filed
  refine ⟨⟨?_, (fun _ shape => nomatch shape), fun _ _ => ⟨r.record, rfl⟩⟩, ?_⟩
  · intro p shape q recorded same
    cases shape
    exact alone q recorded same
  · intro q recorded same
    rcases preparedIn_append recorded with held | shape
    · exact alone q held same
    · cases shape
      rfl

/-- Calls that record nothing keep the keys. -/
theorem closed_silent : Closed (fun v => Keyed v ∧ True) (fun _ => False) :=
  closed_keyed (fun _ => True) fun _ _ _ own => own.elim

/-! ## Requests -/

/-- A request whose own values are in order. -/
def Passes (r : PrepareRequest) : Prop :=
  Checked r.record ∧ (r.record.identity.leaseGeneration : Int) = r.leaseGeneration

/-- The process has not seen the record of the key, and the ledger has it under another
envelope. -/
def Overlooked (w : World) (r : PrepareRequest) : Prop :=
  Passes r ∧ w.prepared r.record.key = none ∧
    findEvent (w.ledger r.record.runId) r.record.preparedId = none ∧
    ∃ p, PreparedIn w.ledger p ∧ p.key = r.record.key

theorem throughout_prepare_keyed (keyed : Keyed w) (seen : ¬ Overlooked w r) :
    (prepare r).Throughout Keyed w := by
  by_cases fresh : Passes r ∧ w.prepared r.record.key = none ∧
      findEvent (w.ledger r.record.runId) r.record.preparedId = none
  · have alone : ∀ q, PreparedIn w.ledger q → q.key = r.record.key → q = r.record :=
      fun q recorded same => absurd ⟨fresh.1, fresh.2.1, fresh.2.2, q, recorded, same⟩ seen
    exact (throughout_prepare (closed_prepares r) (fun _ _ _ _ actor => ⟨actor, rfl⟩)
      ⟨keyed, alone⟩).mono fun _ held => held.1
  · exact (throughout_prepare closed_silent
      (fun checked generation absent free => absurd ⟨⟨checked, generation⟩, absent, free⟩ fresh)
      ⟨keyed, trivial⟩).mono fun _ held => held.1

def preparedDiffers : Raised :=
  mailboxError .contractMismatch "logical request was prepared with different bindings"

/-- A request that passes its own checks is compared with what its process or the ledger
has of it. -/
theorem prepare_compares (passes : Passes r) {q : DispatchPrepared} (differs : q ≠ r.record)
    (held : w.prepared r.record.key = some q ∨ w.prepared r.record.key = none ∧
      ∃ row, findEvent (w.ledger r.record.runId) r.record.preparedId = some row ∧
        row.record = .prepared q) :
    (prepare r).run w = (.error preparedDiffers, w) := by
  obtain ⟨checked, generation⟩ := passes
  have built : DispatchIdentity.fromEnvelope r.envelope = .ok r.record.identity := by
    unfold DispatchIdentity.fromEnvelope
    exact bind_ok.mpr ⟨(), checked.identity, rfl⟩
  have refused : assertSamePrepared q r.record = .error preparedDiffers :=
    ensure_error differs preparedDiffers
  refine (run_lift_ok built).trans ((run_lift_ok (ensure_of generation _)).trans ?_)
  refine (run_lift_ok checked.record).trans ?_
  rcases held with cached | ⟨absent, row, found, shape⟩
  · have seen : (cachedPrepared r.record.key).run w = (.ok (some q), w) := by
      rw [← cached]
      rfl
    exact (run_bind_ok seen).trans (run_lift_error refused)
  · have unseen : (cachedPrepared r.record.key).run w = (.ok none, w) := by
      rw [← absent]
      rfl
    refine (run_bind_ok unseen).trans ((run_bind_ok (run_ledgerEvents w r.record.runId)).trans ?_)
    rw [found]
    have parsed : preparedFromEvent row = .ok q := by
      unfold preparedFromEvent
      rw [shape]
    exact (run_lift_ok parsed).trans (run_lift_error refused)

/-- A request under a recorded key that is not the recorded one is refused exactly where
the record is not overlooked. -/
theorem prepare_refused_iff (keyed : Keyed w) (passes : Passes r) (recorded : PreparedIn w.ledger p)
    (key : p.key = r.record.key) (differs : p ≠ r.record) :
    (prepare r).run w = (.error preparedDiffers, w) ↔ ¬ Overlooked w r := by
  constructor
  · rintro refused ⟨-, absent, free, -⟩
    rw [run_prepare_fresh passes.1 passes.2 absent free] at refused
    cases congrArg Prod.fst refused
  · intro seen
    cases cached : w.prepared r.record.key with
    | some q =>
      obtain ⟨same, there⟩ := keyed.cached _ q cached
      obtain rfl := keyed.one p q recorded there (key.trans same.symm)
      exact prepare_compares passes differs (.inl cached)
    | none =>
      cases found : findEvent (w.ledger r.record.runId) r.record.preparedId with
      | none => exact absurd ⟨passes, cached, found, p, recorded, key⟩ seen
      | some row =>
        obtain ⟨member, id⟩ := findEvent_mem found
        obtain ⟨q, shape⟩ := keyed.ids _ row member _ id
        have other : q ≠ r.record := by
          rintro rfl
          exact differs (keyed.one p _ recorded ⟨row, member, shape⟩ key)
        exact prepare_compares passes other (.inr ⟨cached, row, found, shape⟩)

/-! ## Runs -/

/-- A prepare overlooks no record, a dispatch is given a prepared record of the ledger,
and no foreign event takes the identifier of one. -/
def Admissible (w : World) : Step → Prop
  | .call (.prepare r) _ => ¬ Overlooked w r
  | .call (.dispatch p _ _) _ => PreparedIn w.ledger p
  | .call (.reconcile _ _ _) _ => True
  | .restart => True
  | .mailbox _ => True
  | .audit event => ∀ digest, event.eventId ≠ preparedIdOf digest

theorem throughout_reconcile_keyed (keyed : Keyed w) (p : DispatchPrepared) (e : V2MailboxEnvelope)
    (at_time : String) : (reconcile p e at_time).Throughout Keyed w := by
  by_cases durable : preparedProblem (w.ledger p.runId) p = none
  · exact (throughout_reconcile (closed_commits p) (commits_own p) e at_time
      ⟨keyed, durable_recorded durable⟩).mono fun _ held => held.1
  · unfold reconcile
    split
    · exact throughout_pure keyed
    · refine (throughout_observe keyed).bind fun events v seen kept => ?_
      obtain ⟨rows, rfl⟩ := Prod.mk.inj seen
      cases problem : preparedProblem events p with
      | some found => exact throughout_pure kept
      | none =>
        rw [← Except.ok.inj rows] at problem
        exact absurd problem durable

theorem step_keyed (keyed : Keyed w) {s : Step} (admissible : Admissible w s) : Keyed (step w s) := by
  cases s with
  | call c operations =>
    cases c with
    | prepare r => exact (throughout_prepare_keyed keyed admissible).runFor operations
    | dispatch p e t =>
      exact ((throughout_dispatch (closed_commits p) (commits_own p) e t
        ⟨keyed, admissible⟩).runFor operations).1
    | reconcile p e t => exact (throughout_reconcile_keyed keyed p e t).runFor operations
  | restart => exact (closed_silent.restart w ⟨keyed, trivial⟩).1
  | mailbox op => exact (closed_silent.mailbox w op ⟨keyed, trivial⟩).1
  | audit event =>
    change Keyed { w with ledger := (w.ledger.append { event with record := .other }).2 }
    rw [append_ledger]
    exact keyed.record trivial ⟨(fun _ shape => nomatch shape), (fun _ shape => nomatch shape),
      fun digest same => absurd same (admissible digest)⟩

theorem one_commit (keyed : Keyed w) {c d : DispatchCommitted} (left : InLedger w.ledger c)
    (right : InLedger w.ledger d) (same : keyOf c = keyOf d) : c = d := by
  obtain ⟨p, ofC, identityC, digestC⟩ := keyed.commits c left
  obtain ⟨q, ofD, identityD, digestD⟩ := keyed.commits d right
  have key : p.key = q.key := by
    unfold DispatchPrepared.key
    rw [identityC, identityD]
    exact same
  obtain rfl := keyed.one p q ofC ofD key
  obtain ⟨a, inside, shapeC⟩ := left
  obtain ⟨b, there, shapeD⟩ := right
  have filedC := keyed.kept.ledger.filed _ a inside
  have filedD := keyed.kept.ledger.filed _ b there
  rw [← identityC] at inside
  rw [← identityD] at there
  unfold Filed at filedC filedD
  rw [shapeC] at filedC
  rw [shapeD] at filedD
  have ids : a.eventId = b.eventId := by
    rw [filedC.1, filedD.1, ← digestC, ← digestD]
  have foundA := keyed.kept.ledger.find inside
  rw [ids, keyed.kept.ledger.find there] at foundA
  cases foundA
  exact LedgerRecord.committed.inj (shapeC.symm.trans shapeD)

omit [Sha256] in
/-- A digest that tells envelopes apart by the length of their message id. -/
@[reducible] def messageHash : Sha256 where
  bits
    | .obj members =>
      match Json.get members "message_id" with
      | .str messageId => messageId.length
      | _ => 0
    | _ => 0

def otherEnvelope : V2MailboxEnvelope :=
  { requestSample with messageId := "other" }.envelope
    (Sample.accepted (by decide) (by decide) (by decide) (fun given => absurd (by decide) given))

/-- A request under the same key for another mailbox. -/
def otherPrepare : PrepareRequest :=
  { requestPrepare with envelope := otherEnvelope, mailboxRef := "other" }

theorem otherPrepare_passes : Passes otherPrepare := by
  have identity : (DispatchIdentity.ofEnvelope otherEnvelope).check = .ok () := by
    change DispatchIdentity.check ⟨"run", "node", "v1", zeroDigest.value, zeroDigest.value,
      zeroDigest.value, "attempt", 1, "token", "other", "key"⟩ = .ok ()
    simp only [DispatchIdentity.check, digestText_value]
    decide
  exact ⟨checked_record identity (by decide) (by decide) (by decide) (by decide), rfl⟩

omit [Sha256] in
theorem digests_differ : (@V2MailboxEnvelope.digest messageHash requestEnvelope).value ≠
    (@V2MailboxEnvelope.digest messageHash otherEnvelope).value := by
  decide

omit [Sha256] in
theorem other_free : findEvent (@crashedWorld messageHash |>.ledger "run")
    (@PrepareRequest.record messageHash otherPrepare).preparedId = none := by
  rw [findEvent_none]
  intro row member
  rw [show (@crashedWorld messageHash).ledger "run" = _ from @crashed_rows messageHash] at member
  rw [List.mem_singleton.mp member]
  exact fun same => digests_differ (preparedIdOf_inj same)

end DwSuperApps.Guarantees.DispatchKeys
