import Mathlib.Data.List.Nodup
import DwSuperApps.Guarantees.MailboxChain
import DwSuperApps.Lib.Keyed
import DwSuperApps.Source.Dispatch

/-!
# Ledger and mailbox of dispatches

What prepares, dispatches and reconciliations keep, whatever their caches hold and
wherever they are cut: the mailbox is well formed, the audit events of a run have
distinct identifiers, and every dispatch record stands under the identifier and the
decision kind it was written with.
-/
namespace DwSuperApps.Guarantees.DispatchRecords

open DwSuperApps.Lib DwSuperApps.Lib.Checked
open DwSuperApps.Lib.Programs (Prog)
open DwSuperApps.Lib.Programs.Prog
open DwSuperApps.Source.Envelope DwSuperApps.Source.Mailbox DwSuperApps.Source.Dispatch
open DwSuperApps.Guarantees.MailboxLog DwSuperApps.Guarantees.MailboxChain

/-! ## Lifted checks -/

/-- A record that its constructors let through. -/
structure Checked (p : DispatchPrepared) : Prop where
  identity : p.identity.check = .ok ()
  record : p.check = .ok ()

/-- What a prepared record that passed its checks says. -/
theorem checked_facts {p : DispatchPrepared} (checked : Checked p) :
    strip p.identity.runId ≠ "" ∧ strip p.identity.messageId ≠ "" ∧ 0 ≤ p.stateVersion ∧
      strip p.mailboxRef ≠ "" ∧ strip p.envelopeDigest ≠ "" ∧ strip p.preparedId ≠ "" ∧
      strip p.preparedAt ≠ "" := by
  obtain ⟨_, run, identity⟩ := bind_ok.mp checked.identity
  obtain ⟨_, _, identity⟩ := bind_ok.mp identity
  obtain ⟨_, _, identity⟩ := bind_ok.mp identity
  obtain ⟨_, _, identity⟩ := bind_ok.mp identity
  obtain ⟨_, _, identity⟩ := bind_ok.mp identity
  obtain ⟨_, message, -⟩ := bind_ok.mp identity
  obtain ⟨_, version, record⟩ := bind_ok.mp checked.record
  obtain ⟨_, ref, record⟩ := bind_ok.mp record
  obtain ⟨_, _, record⟩ := bind_ok.mp record
  obtain ⟨_, digest, record⟩ := bind_ok.mp record
  obtain ⟨_, digest, _⟩ := bind_ok.mp digest
  obtain ⟨_, id, prepared⟩ := bind_ok.mp record
  exact ⟨ensure_ok.mp run, ensure_ok.mp message, ensure_ok.mp version, ensure_ok.mp ref,
    ensure_ok.mp digest, ensure_ok.mp id, ensure_ok.mp prepared⟩

theorem message_short (e : V2MailboxEnvelope) : e.messageId.length ≤ 128 := by
  obtain ⟨conforms, -, -⟩ := envelope_sound e
  simp only [EnvelopeFields.conforms, isId, Bool.and_eq_true, decide_eq_true_eq] at conforms
  tauto

theorem ids_differ (a b : String) : preparedIdOf a ≠ committedIdOf b := by
  have prepared : "dispatch-prepared:".toList[9]? = some 'p' := by decide
  have committed : "dispatch-committed:".toList[9]? = some 'c' := by decide
  have left : (preparedIdOf a).toList[9]? = some 'p' := by
    unfold preparedIdOf
    rw [String.toList_append, List.getElem?_append_left (List.getElem?_eq_some_iff.mp prepared).1]
    exact prepared
  have right : (committedIdOf b).toList[9]? = some 'c' := by
    unfold committedIdOf
    rw [String.toList_append, List.getElem?_append_left (List.getElem?_eq_some_iff.mp committed).1]
    exact committed
  intro same
  rw [same, right] at left
  cases left

/-- An audit event whose record is the one it was written for. -/
def Filed (runId : String) (event : AuditEvent) : Prop :=
  match event.record with
  | .prepared p => event.eventId = p.preparedId ∧ event.decisionKind = dispatchPrepared ∧
      p.identity.runId = runId ∧ p.preparedId = preparedIdOf p.envelopeDigest ∧ Checked p
  | .committed c => event.eventId = committedIdOf c.envelopeDigest ∧
      event.decisionKind = dispatchCommitted ∧ c.identity.runId = runId
  | .other => True

/-- The run ledger of dispatches. -/
structure LedgerSound (l : RunLedger) : Prop where
  unique : ∀ runId, ((l runId).map (·.eventId)).Nodup
  filed : ∀ runId, ∀ event ∈ l runId, Filed runId event

theorem LedgerSound.empty : LedgerSound fun _ => [] where
  unique _ := List.nodup_nil
  filed _ _ member := nomatch member

theorem findEvent_mem {events : List AuditEvent} {eventId : String} {event : AuditEvent}
    (found : findEvent events eventId = some event) : event ∈ events ∧ event.eventId = eventId :=
  Keyed.find_some found

theorem findEvent_none {events : List AuditEvent} {eventId : String} :
    findEvent events eventId = none ↔ ∀ event ∈ events, event.eventId ≠ eventId := by
  unfold findEvent
  simp

theorem LedgerSound.find {l : RunLedger} (sound : LedgerSound l) {runId : String} {event : AuditEvent}
    (member : event ∈ l runId) : findEvent (l runId) event.eventId = some event :=
  Keyed.find_of_mem (sound.unique runId) member

/-- An append finds its identifier taken or puts the event at the end. -/
theorem append_cases (l : RunLedger) (event : AuditEvent) :
    (∃ existing e, findEvent (l event.runId) event.eventId = some existing ∧
      e.kind = .valueError ∧ l.append event = (.error e, l)) ∨
    (findEvent (l event.runId) event.eventId = none ∧
      l.append event = (.ok (), Function.update l event.runId (l event.runId ++ [event]))) := by
  unfold RunLedger.append
  cases found : findEvent (l event.runId) event.eventId with
  | none => exact .inr ⟨rfl, rfl⟩
  | some existing => exact .inl ⟨existing, _, rfl, rfl, rfl⟩

/-- Recording finds the record there, is refused, or appends it. -/
theorem readback_cases (l : RunLedger) (event : AuditEvent) :
    (∃ existing, findEvent (l event.runId) event.eventId = some existing ∧
      existing.record = event.record ∧ appendOrReadback l event = (.ok (), l)) ∨
    (∃ existing e, findEvent (l event.runId) event.eventId = some existing ∧
      existing.record ≠ event.record ∧ appendOrReadback l event = (.error e, l)) ∨
    (findEvent (l event.runId) event.eventId = none ∧
      appendOrReadback l event =
        (.ok (), Function.update l event.runId (l event.runId ++ [event]))) := by
  unfold appendOrReadback
  rcases append_cases l event with ⟨existing, e, found, _, outcome⟩ | ⟨absent, outcome⟩
  · rw [outcome]
    simp only [found]
    by_cases same : existing.record = event.record
    · exact .inl ⟨existing, rfl, same, if_pos same⟩
    · exact .inr (.inl ⟨existing, e, rfl, same, if_neg same⟩)
  · rw [outcome]
    exact .inr (.inr ⟨absent, rfl⟩)

theorem LedgerSound.extend {l : RunLedger} (sound : LedgerSound l) {event : AuditEvent}
    (absent : findEvent (l event.runId) event.eventId = none) (filed : Filed event.runId event) :
    LedgerSound (Function.update l event.runId (l event.runId ++ [event])) := by
  constructor
  · intro runId
    by_cases here : runId = event.runId
    · subst here
      rw [Function.update_self, List.map_append, List.map_singleton]
      refine List.nodup_append.mpr ⟨sound.unique event.runId, List.nodup_singleton _, ?_⟩
      intro a member b last
      obtain ⟨other, held, rfl⟩ := List.mem_map.mp member
      rw [List.mem_singleton.mp last]
      exact findEvent_none.mp absent other held
    · rw [Function.update_of_ne here]
      exact sound.unique runId
  · intro runId other member
    by_cases here : runId = event.runId
    · subst here
      rw [Function.update_self] at member
      rcases List.mem_append.mp member with held | last
      · exact sound.filed event.runId other held
      · rw [List.mem_singleton.mp last]
        exact filed
    · rw [Function.update_of_ne here] at member
      exact sound.filed runId other member

theorem LedgerSound.appendOrReadback {l : RunLedger} (sound : LedgerSound l) {event : AuditEvent}
    (filed : Filed event.runId event) : LedgerSound (appendOrReadback l event).2 := by
  rcases readback_cases l event with
    ⟨existing, _, _, outcome⟩ | ⟨existing, e, _, _, outcome⟩ | ⟨absent, outcome⟩
  · rw [outcome]
    exact sound
  · rw [outcome]
    exact sound
  · rw [outcome]
    exact sound.extend absent filed

/-- Recording an event leaves the ledger or puts the event at its end. -/
theorem recorded_rows (l : RunLedger) (event : AuditEvent) :
    (∀ runId, l runId <+: (appendOrReadback l event).2 runId) ∧
    ∀ runId, ∀ row ∈ (appendOrReadback l event).2 runId, row ∈ l runId ∨ row = event := by
  have still : (∀ runId, l runId <+: l runId) ∧ ∀ runId, ∀ row ∈ l runId,
      row ∈ l runId ∨ row = event :=
    ⟨fun _ => List.prefix_rfl, fun _ _ member => .inl member⟩
  rcases readback_cases l event with
    ⟨existing, _, _, outcome⟩ | ⟨existing, e, _, _, outcome⟩ | ⟨_, outcome⟩
  · rw [outcome]
    exact still
  · rw [outcome]
    exact still
  · rw [outcome]
    have shape (runId : String) : Function.update l event.runId (l event.runId ++ [event]) runId =
        if runId = event.runId then l event.runId ++ [event] else l runId := by
      by_cases here : runId = event.runId
      · rw [if_pos here, here, Function.update_self]
      · rw [if_neg here, Function.update_of_ne here]
    constructor
    · intro runId
      change _ <+: Function.update l event.runId (l event.runId ++ [event]) runId
      rw [shape]
      split
      · next here =>
        rw [here]
        exact List.prefix_append _ _
      · exact List.prefix_rfl
    · intro runId row member
      change row ∈ Function.update l event.runId (l event.runId ++ [event]) runId at member
      rw [shape] at member
      split at member
      · next here =>
        rcases List.mem_append.mp member with held | last
        · exact .inl (here ▸ held)
        · exact .inr (List.mem_singleton.mp last)
      · exact .inl member

/-! ## What every call keeps -/

variable [Sha256]

structure Kept (w : World) : Prop where
  mailbox : WellFormed w.mailbox
  ledger : LedgerSound w.ledger

theorem Kept.congr {w v : World} (kept : Kept w) (mailbox : v.mailbox = w.mailbox)
    (ledger : v.ledger = w.ledger) : Kept v :=
  ⟨mailbox ▸ kept.mailbox, ledger ▸ kept.ledger⟩

variable {w : World}

/-- The event a commit names is there and carries its identity. -/
def Backed (repo : InMemoryMailboxRepository) (c : DispatchCommitted) : Prop :=
  ∃ x ∈ repo.mailboxes c.mailboxRef, x.eventId = c.eventId ∧
    DispatchIdentity.ofEnvelope x.envelope = c.identity

omit [Sha256] in
/-- A record of the ledger is the commit. -/
def InLedger (l : RunLedger) (c : DispatchCommitted) : Prop :=
  ∃ row ∈ l c.identity.runId, row.record = .committed c

omit [Sha256] in
/-- A record of the ledger is the prepared record. -/
def PreparedIn (l : RunLedger) (p : DispatchPrepared) : Prop :=
  ∃ row ∈ l p.runId, row.record = .prepared p

omit [Sha256] in
/-- The cache key of a commit. -/
def keyOf (c : DispatchCommitted) : String × String := (c.identity.runId, c.identity.idempotencyKey)

/-- A property of worlds that every operation of a call keeps where `Q` holds of the
events it records. -/
structure Closed (P : World → Prop) (Q : AuditEvent → Prop := fun _ => True) : Prop where
  mailbox : ∀ w op, P w → P { w with mailbox := perform w.mailbox op }
  record : ∀ w event, P w → Q event → Filed event.runId event →
    (∀ c, event.record = .committed c → Backed w.mailbox c) →
    P { w with ledger := (appendOrReadback w.ledger event).2 }
  prepared : ∀ w p, P w → PreparedIn w.ledger p →
    P { w with prepared := Function.update w.prepared p.key (some p) }
  committed : ∀ w c, P w → InLedger w.ledger c →
    P { w with committed := Function.update w.committed (keyOf c) (some c) }
  restart : ∀ w, P w → P { w with prepared := fun _ => none, committed := fun _ => none }

theorem closed_kept : Closed Kept where
  mailbox _ op kept := ⟨perform_wellFormed kept.mailbox op, kept.ledger⟩
  record _ _ kept _ filed _ := ⟨kept.mailbox, kept.ledger.appendOrReadback filed⟩
  prepared _ _ kept _ := kept.congr rfl rfl
  committed _ _ kept _ := kept.congr rfl rfl
  restart _ kept := kept.congr rfl rfl

/-! ## Readbacks and commits -/

/-- What a verified receipt says. -/
theorem verified {prepared : DispatchPrepared} {envelope : V2MailboxEnvelope} {receipt : WriteReceipt}
    {snapshot : MailboxSnapshot} {u : Unit}
    (checked : verifyExactReadback prepared envelope receipt snapshot = .ok u) :
    receipt.mailboxRef = prepared.mailboxRef ∧ receipt.envelopeDigest = envelope.digest ∧
    ∃ x ∈ snapshot.events, x.eventId = receipt.eventId ∧ x.envelope = envelope := by
  unfold verifyExactReadback at checked
  obtain ⟨_, ref, checked⟩ := bind_ok.mp checked
  obtain ⟨_, -, checked⟩ := bind_ok.mp checked
  obtain ⟨_, -, checked⟩ := bind_ok.mp checked
  obtain ⟨_, digest, checked⟩ := bind_ok.mp checked
  refine ⟨ensure_ok.mp ref, ensure_ok.mp digest, ?_⟩
  split at checked
  · cases checked
  · next x found =>
    obtain ⟨-, -, -, -, same⟩ := ensure_ok.mp checked
    have named := List.find?_some found
    exact ⟨x, List.mem_of_find?_eq_some found, of_decide_eq_true named, same⟩

/-- A readback shows the mailbox of its receipt. -/
theorem readback_snapshot {repo : InMemoryMailboxRepository} {receipt : WriteReceipt}
    {snapshot : MailboxSnapshot} (read : repo.exactReadback receipt = .ok snapshot) :
    snapshot = repo.buildSnapshot receipt.mailboxRef := by
  unfold InMemoryMailboxRepository.exactReadback at read
  obtain ⟨_, _, read⟩ := bind_ok.mp read
  split at read
  · cases read
  · obtain ⟨_, _, read⟩ := bind_ok.mp read
    exact (Except.ok.inj read).symm

/-- What a matching envelope says. -/
theorem envelope_matches {prepared : DispatchPrepared} {envelope : V2MailboxEnvelope} {u : Unit}
    (checked : assertEnvelopeMatches prepared envelope = .ok u) :
    DispatchIdentity.fromEnvelope envelope = .ok prepared.identity ∧
      DispatchIdentity.ofEnvelope envelope = prepared.identity ∧
      envelope.digest.value = prepared.envelopeDigest := by
  unfold assertEnvelopeMatches at checked
  obtain ⟨identity, built, checked⟩ := bind_ok.mp checked
  obtain ⟨rfl, digest⟩ := ensure_ok.mp checked
  refine ⟨built, ?_, digest⟩
  unfold DispatchIdentity.fromEnvelope at built
  obtain ⟨_, _, built⟩ := bind_ok.mp built
  exact Except.ok.inj built

omit [Sha256] in
theorem filed_commit {prepared : DispatchPrepared} {receipt : WriteReceipt} (actor at_time : String)
    (digest : receipt.envelopeDigest.value = prepared.envelopeDigest) :
    Filed prepared.identity.runId (committedEvent actor (commitOf prepared receipt at_time)) := by
  refine ⟨?_, rfl, rfl⟩
  change committedIdOf prepared.envelopeDigest = committedIdOf receipt.envelopeDigest.value
  rw [digest]

omit [Sha256] in
theorem preparedFromEvent_ok {event : AuditEvent} {p : DispatchPrepared}
    (parsed : preparedFromEvent event = .ok p) : event.record = .prepared p := by
  unfold preparedFromEvent at parsed
  split at parsed
  · next shape => exact shape.trans (congrArg _ (Except.ok.inj parsed))
  · cases parsed
  · cases parsed

omit [Sha256] in
/-- A record that was let through is in the ledger. -/
theorem record_returned {event : AuditEvent} {u : Unit} {v : World}
    (ran : (record event).run w = (.ok u, v)) :
    ∃ row ∈ v.ledger event.runId, row.record = event.record := by
  obtain ⟨_, -, ran⟩ := run_lift_returned.mp ran
  rw [run_operation] at ran
  obtain ⟨recorded, rfl⟩ := Prod.mk.inj ran
  rcases readback_cases w.ledger event with
    ⟨existing, found, same, outcome⟩ | ⟨existing, e, _, _, outcome⟩ | ⟨_, outcome⟩
  · rw [outcome]
    exact ⟨existing, (findEvent_mem found).1, same⟩
  · rw [outcome] at recorded
    cases recorded
  · rw [outcome]
    refine ⟨event, ?_, rfl⟩
    change event ∈ Function.update w.ledger event.runId _ event.runId
    rw [Function.update_self]
    exact List.mem_append_right _ (List.mem_singleton_self event)

/-- A commit that was returned is in the ledger. -/
theorem verifyAndCommit_returned {prepared : DispatchPrepared} {envelope : V2MailboxEnvelope}
    {receipt : WriteReceipt} {at_time : String} {c : DispatchCommitted} {v : World}
    (ran : (verifyAndCommit prepared envelope receipt at_time).run w = (.ok c, v)) :
    c = commitOf prepared receipt at_time ∧ InLedger v.ledger c := by
  obtain ⟨snapshot, -, ran⟩ := run_observe_returned.mp ran
  obtain ⟨_, -, ran⟩ := run_lift_returned.mp ran
  obtain ⟨_, -, ran⟩ := run_lift_returned.mp ran
  obtain ⟨actor, -, ran⟩ := run_observe_returned.mp ran
  obtain ⟨_, u, recorded, ran⟩ := run_bind_returned.mp ran
  obtain ⟨returned, rfl⟩ := Prod.mk.inj ran
  cases returned
  exact ⟨rfl, record_returned recorded⟩

/-- A commit of the ledger that was read back for a dispatch. -/
theorem existing_commit {l : RunLedger} {prepared : DispatchPrepared} {envelope : V2MailboxEnvelope}
    {eventId : String} {existing : AuditEvent} {c : DispatchCommitted} {u : Unit}
    (found : findEvent (l prepared.runId) eventId = some existing)
    (parsed : committedFromEvent existing = .ok c)
    (same : assertSameCommit prepared envelope c = .ok u) :
    existing.record = .committed c ∧ c.preparedId = prepared.preparedId ∧
      c.identity = prepared.identity ∧ InLedger l c := by
  have shape : existing.record = .committed c := by
    unfold committedFromEvent at parsed
    split at parsed
    · next shape => exact shape.trans (congrArg _ (Except.ok.inj parsed))
    · cases parsed
    · cases parsed
  unfold assertSameCommit at same
  obtain ⟨_, binds, same⟩ := bind_ok.mp same
  obtain ⟨identity, -⟩ := ensure_ok.mp same
  refine ⟨shape, ensure_ok.mp binds, identity, existing, ?_, shape⟩
  rw [identity]
  exact (findEvent_mem found).1

/-! ## Properties kept throughout a call -/

/-- The commits of a prepared record are among the events that may be recorded. -/
def Commits (Q : AuditEvent → Prop) (p : DispatchPrepared) : Prop :=
  ∀ actor c, c.identity = p.identity → c.envelopeDigest = p.envelopeDigest → Q (committedEvent actor c)

section Throughout
variable {P : World → Prop} {Q : AuditEvent → Prop} (closed : Closed P Q)
include closed

theorem throughout_record {event : AuditEvent} (own : Q event) (filed : Filed event.runId event)
    (backed : ∀ c, event.record = .committed c → Backed w.mailbox c) (kept : P w) :
    (record event).Throughout P w :=
  throughout_lift kept fun _ _ =>
    throughout_operation kept (closed.record w event kept own filed backed)

theorem throughout_write (ref : String) (seq : Int) (envelope : V2MailboxEnvelope)
    (identity : List (String × Json)) (kept : P w) :
    (write ref seq envelope identity).Throughout P w :=
  throughout_operation kept (closed.mailbox w (.write ref seq envelope (some identity)) kept)

theorem throughout_cacheCommitted {prepared : DispatchPrepared} {c : DispatchCommitted}
    (same : c.identity = prepared.identity) (recorded : InLedger w.ledger c) (kept : P w) :
    (cacheCommitted prepared.key c).Throughout P w := by
  have key : prepared.key = keyOf c := by
    unfold DispatchPrepared.key keyOf
    rw [same]
  rw [key]
  exact throughout_operation kept (closed.committed w c kept recorded)

theorem throughout_verifyAndCommit {prepared : DispatchPrepared} {envelope : V2MailboxEnvelope}
    (own : Commits Q prepared) (matched : assertEnvelopeMatches prepared envelope = .ok ())
    (receipt : WriteReceipt) (at_time : String) (kept : P w) :
    (verifyAndCommit prepared envelope receipt at_time).Throughout P w := by
  obtain ⟨-, identity, bound⟩ := envelope_matches matched
  refine (throughout_observe kept).bind fun snapshot v read kept => ?_
  refine throughout_lift kept fun _ checked => throughout_lift kept fun _ _ => ?_
  obtain ⟨ref, digest, x, member, named, same⟩ := verified checked
  obtain ⟨shown, rfl⟩ := Prod.mk.inj read
  refine (throughout_observe kept).bind fun actor u seen kept => ?_
  obtain ⟨-, rfl⟩ := Prod.mk.inj seen
  have filed := filed_commit actor at_time ((congrArg Digest.value digest).trans bound)
  have backed : ∀ c, (committedEvent actor (commitOf prepared receipt at_time)).record =
      .committed c → Backed w.mailbox c := by
    intro c shape
    cases shape
    rw [readback_snapshot shown, ref] at member
    exact ⟨x, member, named, (congrArg _ same).trans identity⟩
  have may := own actor (commitOf prepared receipt at_time) rfl
    ((congrArg Digest.value digest).trans bound)
  exact (throughout_record closed may filed backed kept).bind fun _ v _ kept => throughout_pure kept

theorem throughout_dispatch {prepared : DispatchPrepared} (own : Commits Q prepared)
    (envelope : V2MailboxEnvelope) (at_time : String) (kept : P w) :
    (dispatch prepared envelope at_time).Throughout P w := by
  refine throughout_lift kept fun _ matched => ?_
  refine (throughout_observe kept).bind fun cached v seen kept => ?_
  obtain ⟨-, rfl⟩ := Prod.mk.inj seen
  cases cached with
  | some c => exact throughout_pure kept
  | none =>
    refine (throughout_observe kept).bind fun events v seen kept => ?_
    obtain ⟨rows, rfl⟩ := Prod.mk.inj seen
    cases found : findEvent events (committedIdOf prepared.envelopeDigest) with
    | some existing =>
      refine throughout_lift kept fun c parsed => throughout_lift kept fun _ same => ?_
      rw [← Except.ok.inj rows] at found
      obtain ⟨-, -, identity, recorded⟩ := existing_commit found parsed same
      exact (throughout_cacheCommitted closed identity recorded kept).bind fun _ v _ kept =>
        throughout_pure kept
    | none =>
      refine (throughout_write closed _ _ _ _ kept).bind fun receipt v _ kept => ?_
      refine (throughout_verifyAndCommit closed own matched receipt at_time kept).bind
        fun c v ran kept => ?_
      obtain ⟨rfl, recorded⟩ := verifyAndCommit_returned ran
      exact (throughout_cacheCommitted closed rfl recorded kept).bind fun _ v _ kept =>
        throughout_pure kept

/-- What a prepare may record is needed only of a request that passes its own checks and
finds its record neither in the cache nor in the ledger. -/
theorem throughout_prepare {r : PrepareRequest}
    (own : Checked r.record → (r.record.identity.leaseGeneration : Int) = r.leaseGeneration →
      w.prepared r.record.key = none →
      findEvent (w.ledger r.record.runId) r.record.preparedId = none →
        ∀ actor, Q (preparedEvent actor r.record))
    (kept : P w) : (prepare r).Throughout P w := by
  refine throughout_lift kept fun identity built => throughout_lift kept fun _ current =>
    throughout_lift kept fun _ checked => ?_
  have valid : (DispatchIdentity.ofEnvelope r.envelope).check = .ok () := by
    unfold DispatchIdentity.fromEnvelope at built
    obtain ⟨_, valid, -⟩ := bind_ok.mp built
    exact valid
  refine (throughout_observe kept).bind fun cached v seen kept => ?_
  obtain ⟨looked, rfl⟩ := Prod.mk.inj seen
  cases cached with
  | some p => exact throughout_lift kept fun _ _ => throughout_pure kept
  | none =>
    refine (throughout_observe kept).bind fun events v seen kept => ?_
    obtain ⟨rows, rfl⟩ := Prod.mk.inj seen
    cases found : findEvent events r.record.preparedId with
    | some existing =>
      refine throughout_lift kept fun p parsed => throughout_lift kept fun _ same => ?_
      obtain rfl : p = r.record := ensure_ok.mp same
      rw [← Except.ok.inj rows] at found
      have recorded : PreparedIn w.ledger r.record :=
        ⟨existing, (findEvent_mem found).1, preparedFromEvent_ok parsed⟩
      exact (throughout_operation kept (closed.prepared w _ kept recorded)).bind fun _ v _ kept =>
        throughout_pure kept
    | none =>
      refine (throughout_observe kept).bind fun actor v seen kept => ?_
      obtain ⟨-, rfl⟩ := Prod.mk.inj seen
      have filed : Filed r.record.identity.runId (preparedEvent actor r.record) :=
        ⟨rfl, rfl, rfl, rfl, valid, checked⟩
      have uncommitted : ∀ c, (preparedEvent actor r.record).record = .committed c →
          Backed w.mailbox c := fun _ shape => nomatch shape
      rw [← Except.ok.inj rows] at found
      have generation : (r.record.identity.leaseGeneration : Int) = r.leaseGeneration := by
        unfold DispatchIdentity.fromEnvelope at built
        obtain ⟨_, -, built⟩ := bind_ok.mp built
        cases built
        exact ensure_ok.mp current
      have may := own ⟨valid, checked⟩ generation (Except.ok.inj looked) found actor
      refine (throughout_record closed may filed uncommitted kept).bind fun _ v ran kept => ?_
      have recorded : PreparedIn v.ledger r.record := record_returned ran
      exact (throughout_operation kept (closed.prepared v _ kept recorded)).bind fun _ v _ kept =>
        throughout_pure kept

theorem throughout_commitFromExistingEvent {prepared : DispatchPrepared}
    {envelope : V2MailboxEnvelope} (own : Commits Q prepared)
    (matched : assertEnvelopeMatches prepared envelope = .ok ())
    (event : MailboxEvent) (at_time : String) (kept : P w) :
    (commitFromExistingEvent prepared envelope event at_time).Throughout P w :=
  throughout_verifyAndCommit closed own matched (receiptOf event true) at_time kept

theorem throughout_settle {prepared : DispatchPrepared} {envelope : V2MailboxEnvelope}
    (own : Commits Q prepared) (matched : assertEnvelopeMatches prepared envelope = .ok ()) (at_time : String)
    (d : Disposition) (kept : P w) : (settle prepared envelope at_time d).Throughout P w := by
  cases d with
  | blocked reason event => exact throughout_pure kept
  | consume event durable => exact throughout_pure kept
  | repair event =>
    rw [settle]
    have repaired := throughout_commitFromExistingEvent closed own matched event at_time kept
    refine Throughout.handle (repaired.bind ?_) fun _ _ _ kept => throughout_pure kept
    exact fun _ _ _ kept => throughout_pure kept
  | retry =>
    rw [settle]
    have retried := throughout_dispatch closed own envelope at_time kept
    refine Throughout.handle (retried.bind ?_) fun _ _ _ kept => throughout_pure kept
    exact fun _ _ _ kept => throughout_pure kept

theorem throughout_reconcile {prepared : DispatchPrepared} (own : Commits Q prepared)
    (envelope : V2MailboxEnvelope) (at_time : String) (kept : P w) : (reconcile prepared envelope at_time).Throughout P w := by
  unfold reconcile
  split
  · exact throughout_pure kept
  · next matched =>
    refine (throughout_observe kept).bind fun events v _ kept => ?_
    split
    · exact throughout_pure kept
    · refine (throughout_observe kept).bind fun snapshot v _ kept => ?_
      cases snapshot with
      | error e => exact throughout_pure kept
      | ok mailboxEvents => exact throughout_settle closed own matched at_time _ kept

end Throughout

/-! ## Running alone -/

omit [Sha256] in
/-- A digest passes the check of its field. -/
theorem digestText_value (d : Digest) (name : String) : digestText d.value name = .ok () := by
  have solid : strip d.value ≠ "" := by
    rw [d.strip_value]
    exact d.value_ne_empty
  simp only [digestText, requiredText, solid, d.digest, ne_eq, not_false_eq_true, ensure_true,
    Checked.ok_bind]

/-- A request whose own values are in order builds a record that passes its checks. -/
theorem checked_record {r : PrepareRequest} (identity : r.record.identity.check = .ok ())
    (version : 0 ≤ r.stateVersion) (ref : strip r.mailboxRef ≠ "") (seq : -1 ≤ r.expectedMailboxSeq)
    (timed : strip r.preparedAt ≠ "") : Checked r.record := by
  refine ⟨identity, ?_⟩
  have id : strip (preparedIdOf r.envelope.digest.value) ≠ "" := by
    refine strip_append (.inr ?_)
    rw [r.envelope.digest.strip_value]
    exact r.envelope.digest.value_ne_empty
  simp only [DispatchPrepared.check, PrepareRequest.record, digestText_value, nonNegativeInt,
    sequenceOrInitial, requiredText, version, ref, seq, id, timed, ne_eq, not_false_eq_true,
    ensure_true, Checked.ok_bind]


omit [Sha256] in
theorem run_ledgerEvents (w : World) (runId : String) :
    (ledgerEvents runId).run w = (.ok (w.ledger runId), w) := rfl

omit [Sha256] in
theorem run_cachedCommitted (w : World) (key : String × String) :
    (cachedCommitted key).run w = (.ok (w.committed key), w) := rfl

theorem preparedEvent_check {r : PrepareRequest} (checked : Checked r.record) (actor : String) :
    (preparedEvent actor r.record).check = .ok () := by
  obtain ⟨run, -, -, -, -, id, prepared⟩ := checked_facts checked
  have short : ("DispatchPrepared " ++ r.record.identity.messageId).length ≤ 300 := by
    have bound : r.record.identity.messageId.length ≤ 128 := message_short r.envelope
    rw [String.length_append]
    have lead : "DispatchPrepared ".length = 17 := by decide
    omega
  simp only [AuditEvent.check, preparedEvent, ne_empty_of_strip id, ne_empty_of_strip prepared,
    ne_empty_of_strip run, short, dispatchSource, dispatchPrepared, ne_eq, not_false_eq_true,
    ensure_true, Checked.ok_bind]
  rfl

/-- A request that is new to the cache and the ledger is recorded. -/
theorem run_prepare_fresh {r : PrepareRequest} (checked : Checked r.record)
    (generation : (r.record.identity.leaseGeneration : Int) = r.leaseGeneration)
    (absent : w.prepared r.record.key = none)
    (free : findEvent (w.ledger r.record.runId) r.record.preparedId = none) :
    (prepare r).run w = (.ok r.record, { w with
      ledger := Function.update w.ledger r.record.runId
        (w.ledger r.record.runId ++ [preparedEvent w.actor r.record])
      prepared := Function.update w.prepared r.record.key (some r.record) }) := by
  have built : DispatchIdentity.fromEnvelope r.envelope = .ok r.record.identity := by
    unfold DispatchIdentity.fromEnvelope
    exact bind_ok.mpr ⟨(), checked.identity, rfl⟩
  have cached : (cachedPrepared r.record.key).run w = (.ok none, w) := by
    rw [← absent]
    rfl
  have outcome : appendOrReadback w.ledger (preparedEvent w.actor r.record) =
      (.ok (), Function.update w.ledger r.record.runId
        (w.ledger r.record.runId ++ [preparedEvent w.actor r.record])) := by
    rcases readback_cases w.ledger (preparedEvent w.actor r.record) with
      ⟨existing, taken, _⟩ | ⟨existing, _, taken, _⟩ | ⟨_, outcome⟩
    · exact nomatch free.symm.trans taken
    · exact nomatch free.symm.trans taken
    · exact outcome
  refine (run_lift_ok built).trans ((run_lift_ok (ensure_of generation _)).trans ?_)
  refine (run_lift_ok checked.record).trans ((run_bind_ok cached).trans ?_)
  refine (run_bind_ok (run_ledgerEvents w r.record.runId)).trans ?_
  rw [free]
  refine (run_bind_ok (p := actorOf) (t := w) rfl).trans ?_
  have recorded : (record (preparedEvent w.actor r.record)).run w = (.ok (), { w with
      ledger := Function.update w.ledger r.record.runId
        (w.ledger r.record.runId ++ [preparedEvent w.actor r.record]) }) := by
    refine (run_lift_ok (preparedEvent_check checked w.actor)).trans ?_
    rw [run_operation, outcome]
  exact (run_bind_ok recorded).trans rfl

omit [Sha256] in
theorem record_within (event : AuditEvent) : (record event).Within 1 :=
  within_lift fun _ => within_operation _

theorem prepare_within (r : PrepareRequest) : (prepare r).Within 5 := by
  refine within_lift fun identity => within_lift fun _ => within_lift fun _ =>
    within_observe_bind fun cached => ?_
  cases cached with
  | some p => exact within_lift fun _ => within_done 4 _
  | none =>
    refine within_observe_bind fun events => ?_
    cases findEvent events r.record.preparedId with
    | some existing =>
      exact within_lift fun _ => within_lift fun _ => (within_operation_bind fun _ =>
        within_done 0 _).mono (by omega)
    | none =>
      refine within_observe_bind fun actor => ?_
      exact (record_within _).bind fun _ => within_operation_bind fun _ => within_done 0 _

/-! ## Histories -/

omit [Sha256] in
/-- A call of the protocol or of the reconciler. -/
inductive Call where
  | prepare (request : PrepareRequest)
  | dispatch (prepared : DispatchPrepared) (envelope : V2MailboxEnvelope) (committedAt : String)
  | reconcile (prepared : DispatchPrepared) (envelope : V2MailboxEnvelope) (reconciledAt : String)

omit [Sha256] in
/-- The first operations of a call, a restart, a call of someone else on the mailbox,
an audit event that is no dispatch record. -/
inductive Step where
  | call (call : Call) (operations : Nat)
  | restart
  | mailbox (op : Operation)
  | audit (event : AuditEvent)

/-- The world after the first operations of a call. -/
def Call.cut (c : Call) (operations : Nat) (w : World) : World :=
  match c with
  | .prepare r => ((Source.Dispatch.prepare r).runFor operations w).2
  | .dispatch p e t => ((Source.Dispatch.dispatch p e t).runFor operations w).2
  | .reconcile p e t => ((Source.Dispatch.reconcile p e t).runFor operations w).2

def step (w : World) : Step → World
  | .call c operations => c.cut operations w
  | .restart => { w with prepared := fun _ => none, committed := fun _ => none }
  | .mailbox op => { w with mailbox := perform w.mailbox op }
  | .audit event => { w with ledger := (w.ledger.append { event with record := .other }).2 }

theorem step_prepare (r : PrepareRequest) (w : World) :
    step w (.call (.prepare r) 5) = ((prepare r).run w).2 := by
  change ((prepare r).runFor 5 w).2 = _
  rw [runFor_of_within (prepare_within r)]

omit [Sha256] in
/-- Recording again leaves what the first record left. -/
theorem append_ledger (l : RunLedger) (event : AuditEvent) :
    (l.append event).2 = (appendOrReadback l event).2 := by
  unfold appendOrReadback
  rcases append_cases l event with ⟨existing, e, found, _, outcome⟩ | ⟨_, outcome⟩
  · rw [outcome]
    simp only [found]
    split <;> rfl
  · rw [outcome]

theorem closed_step {P : World → Prop} (closed : Closed P) (kept : P w) (s : Step) :
    P (step w s) := by
  cases s with
  | call c operations =>
    cases c with
    | prepare r =>
      exact (throughout_prepare closed (fun _ _ _ _ _ => trivial) kept).runFor operations
    | dispatch p e t =>
      exact (throughout_dispatch closed (fun _ _ _ _ => trivial) e t kept).runFor operations
    | reconcile p e t =>
      exact (throughout_reconcile closed (fun _ _ _ _ => trivial) e t kept).runFor operations
  | restart => exact closed.restart w kept
  | mailbox op => exact closed.mailbox w op kept
  | audit event =>
    have foreign : P { w with
        ledger := (appendOrReadback w.ledger { event with record := .other }).2 } :=
      closed.record w { event with record := .other } kept trivial trivial
        fun _ shape => nomatch shape
    rw [← append_ledger] at foreign
    exact foreign

theorem kept_step (kept : Kept w) (s : Step) : Kept (step w s) := closed_step closed_kept kept s

theorem kept_run (actor : String) (steps : List Step) :
    Kept (Runs.run step { actor := actor } steps) := by
  have start : Kept { actor := actor } := ⟨WellFormed.empty, LedgerSound.empty⟩
  have preserved : ∀ w s, Kept w → Kept (step w s) := fun w s kept => kept_step kept s
  exact Runs.run_invariant_of_forall preserved steps start

end DwSuperApps.Guarantees.DispatchRecords
