import DwSuperApps.Source.Mailbox

/-!
# The append-only mailbox log

What every repository reached by writes and acknowledgements satisfies. Each log
is numbered from zero with canonical event ids, every event carries the values
of its envelope, the logical sequences of a producer increase along the log, and
the idempotency keys name exactly the events they were remembered for. A write
either leaves the repository as it was or appends one event.
-/
namespace DwSuperApps.Guarantees.MailboxLog

open DwSuperApps.Lib DwSuperApps.Lib.Checked
open DwSuperApps.Source.Envelope DwSuperApps.Source.Mailbox
open DwSuperApps.Source.Mailbox.InMemoryMailboxRepository

/-! ## Event ids -/

theorem toString_injective {m n : Nat} (same : toString m = toString n) : m = n := by
  have digits : Nat.toDigits 10 m = Nat.toDigits 10 n := by
    have lists := congrArg String.toList same
    simpa [Nat.repr] using lists
  have value := congrArg (fun l => Nat.ofDigitChars 10 l 0) digits
  simpa [Nat.ofDigitChars_toDigits] using value

theorem eventIdOf_injective {ref : String} {m n : Nat} (same : eventIdOf ref m = eventIdOf ref n) :
    m = n := by
  have lists := congrArg String.toList same
  simp only [eventIdOf, String.toList_append, List.append_assoc, List.append_cancel_left_eq] at lists
  exact toString_injective (String.toList_inj.mp lists)

/-! ## Growth and producer sequences -/

/-- Every log of the first is an initial part of the second's. -/
def Extends (before after : InMemoryMailboxRepository) : Prop :=
  ∀ ref, before.mailboxes ref <+: after.mailboxes ref

theorem Extends.refl (repo : InMemoryMailboxRepository) : Extends repo repo :=
  fun _ => List.prefix_rfl

theorem Extends.trans {a b c : InMemoryMailboxRepository} (first : Extends a b)
    (second : Extends b c) : Extends a c := fun ref => (first ref).trans (second ref)

theorem Extends.mem {a b : InMemoryMailboxRepository} (grown : Extends a b) {ref : String}
    {e : MailboxEvent} (member : e ∈ a.mailboxes ref) : e ∈ b.mailboxes ref :=
  (grown ref).subset member

theorem le_foldl_max {xs : List Int} {start x : Int} (held : x ≤ start ∨ x ∈ xs) :
    x ≤ xs.foldl max start := by
  induction xs generalizing start with
  | nil => simpa using held
  | cons y rest ih =>
    apply ih
    rcases held with le | member
    · exact .inl (le_trans le (le_max_left _ _))
    · rcases List.mem_cons.mp member with rfl | later
      · exact .inl (le_max_right _ _)
      · exact .inr later

/-- A sequence above the producer's last one is above all its events. -/
theorem producerLastSeq_lt {events : List MailboxEvent} {producer : String} {seq : Nat}
    (newer : producerLastSeq events producer < seq) {e : MailboxEvent} (member : e ∈ events)
    (same : e.producerNamespace = producer) : e.logicalSeq < seq := by
  have bound : (e.logicalSeq : Int) ≤ producerLastSeq events producer := by
    refine le_foldl_max (.inr (List.mem_map.mpr ⟨e, ?_, rfl⟩))
    simp [member, same]
  omega

variable [Sha256]

/-! ## Invariant -/

/-- The event at a place of a log, as the write that appended it built it. -/
structure Recorded (ref : String) (i : Nat) (e : MailboxEvent) : Prop where
  mailbox : e.mailboxRef = ref
  seq : e.eventSeq = i
  id : e.eventId = eventIdOf ref i
  producer : e.producerNamespace = e.envelope.producerNamespace
  logical : e.logicalSeq = e.envelope.seq
  digest : e.envelopeDigest = e.envelope.digest
  key : e.idempotencyKey = e.envelope.idempotencyKey

/-- Of two events of one producer the earlier has the smaller logical sequence. -/
def Earlier (a b : MailboxEvent) : Prop :=
  a.producerNamespace = b.producerNamespace → a.logicalSeq < b.logicalSeq

/-- A durable cursor position is an event of its actor. -/
def Bound (repo : InMemoryMailboxRepository) (binding : CursorBinding) (p : CursorPosition) : Prop :=
  ∃ e ∈ repo.mailboxes binding.mailboxRef, MailboxActorCursor.positionAt e = p ∧
    e.envelope.runId = binding.runId ∧ e.envelope.nodeId = binding.nodeId ∧
    e.producerNamespace = binding.actorNamespace

structure WellFormed (repo : InMemoryMailboxRepository) : Prop where
  unnamed : repo.mailboxes "" = []
  recorded : ∀ ref i e, (repo.mailboxes ref)[i]? = some e → Recorded ref i e
  increasing : ∀ ref, (repo.mailboxes ref).Pairwise Earlier
  remembered : ∀ ref, ∀ e ∈ repo.mailboxes ref,
    repo.idempotency ref e.idempotencyKey = some (receiptOf e)
  backed : ∀ ref key receipt, repo.idempotency ref key = some receipt →
    ∃ e ∈ repo.mailboxes ref, e.idempotencyKey = key ∧ receipt = receiptOf e
  bound : ∀ binding p, repo.actorCursors binding = some p → Bound repo binding p

namespace WellFormed

theorem empty : WellFormed {} where
  unnamed := rfl
  recorded := by simp
  increasing := by simp
  remembered := by simp
  backed := by simp
  bound := by simp

variable {repo : InMemoryMailboxRepository} (wf : WellFormed repo) {ref : String}
include wf

theorem recorded_of_mem {e : MailboxEvent} (member : e ∈ repo.mailboxes ref) :
    Recorded ref e.eventSeq e := by
  obtain ⟨i, found⟩ := List.getElem?_of_mem member
  have at_i := wf.recorded ref i e found
  rw [at_i.seq]
  exact at_i

theorem getElem_of_mem {e : MailboxEvent} (member : e ∈ repo.mailboxes ref) :
    (repo.mailboxes ref)[e.eventSeq]? = some e := by
  obtain ⟨i, found⟩ := List.getElem?_of_mem member
  rw [(wf.recorded ref i e found).seq]
  exact found

theorem seq_lt {e : MailboxEvent} (member : e ∈ repo.mailboxes ref) :
    e.eventSeq < (repo.mailboxes ref).length :=
  (List.getElem?_eq_some_iff.mp (wf.getElem_of_mem member)).1

/-- Two events of a log with one sequence are the same event. -/
theorem eq_of_seq {a b : MailboxEvent} (first : a ∈ repo.mailboxes ref)
    (second : b ∈ repo.mailboxes ref) (same : a.eventSeq = b.eventSeq) : a = b := by
  have here := wf.getElem_of_mem first
  rw [same, wf.getElem_of_mem second] at here
  exact (Option.some.inj here).symm

theorem eq_of_id {a b : MailboxEvent} (first : a ∈ repo.mailboxes ref)
    (second : b ∈ repo.mailboxes ref) (same : a.eventId = b.eventId) : a = b := by
  rw [(wf.recorded_of_mem first).id, (wf.recorded_of_mem second).id] at same
  exact wf.eq_of_seq first second (eventIdOf_injective same)

/-- A search by event id finds the event. -/
theorem find_id {e : MailboxEvent} (member : e ∈ repo.mailboxes ref) :
    (repo.mailboxes ref).find? (·.eventId = e.eventId) = some e := by
  cases found : (repo.mailboxes ref).find? (·.eventId = e.eventId) with
  | none =>
    have absent := List.find?_eq_none.mp found e member
    simp at absent
  | some other =>
    have same := List.find?_some found
    rw [wf.eq_of_id (List.mem_of_find?_eq_some found) member (of_decide_eq_true same)]

theorem named {e : MailboxEvent} (member : e ∈ repo.mailboxes ref) : ref ≠ "" := by
  rintro rfl
  rw [wf.unnamed] at member
  cases member

/-- Events of one producer later in the log have a greater logical sequence. -/
theorem logical_lt {a b : MailboxEvent} (first : a ∈ repo.mailboxes ref)
    (second : b ∈ repo.mailboxes ref) (before : a.eventSeq < b.eventSeq)
    (producer : a.producerNamespace = b.producerNamespace) : a.logicalSeq < b.logicalSeq := by
  obtain ⟨hi, at_i⟩ := List.getElem?_eq_some_iff.mp (wf.getElem_of_mem first)
  obtain ⟨hj, at_j⟩ := List.getElem?_eq_some_iff.mp (wf.getElem_of_mem second)
  have earlier := List.pairwise_iff_getElem.mp (wf.increasing ref) _ _ hi hj before
  rw [at_i, at_j] at earlier
  exact earlier producer

/-- The receipt of a stored event reads back. -/
theorem readback {e : MailboxEvent} (member : e ∈ repo.mailboxes ref) (idempotent : Bool) :
    repo.exactReadback (receiptOf e idempotent) = .ok (repo.buildSnapshot ref) := by
  have place := (wf.recorded_of_mem member).mailbox
  unfold exactReadback validateRef
  simp only [receiptOf, place, ensure_of (wf.named member), ok_bind, wf.find_id member]
  rfl

end WellFormed

/-! ## Writing -/

/-- What an admitted write is: the stored duplicate under its key, or a new last
event. -/
theorem admit_ok {repo : InMemoryMailboxRepository} {ref : String} {expectedSeq : Int}
    {envelope : V2MailboxEnvelope} {expected : Option (List (String × Json))} {a : Admission}
    (admitted : repo.admission ref expectedSeq envelope expected = .ok a) :
    ref ≠ "" ∧
    ((∃ receipt, repo.idempotency ref envelope.idempotencyKey = some receipt ∧
        receipt.envelopeDigest = envelope.digest ∧
        a = .duplicate { receipt with idempotent := true }) ∨
      (repo.idempotency ref envelope.idempotencyKey = none ∧
        expectedSeq = lastSeq (repo.mailboxes ref) ∧
        producerLastSeq (repo.mailboxes ref) envelope.producerNamespace < envelope.seq ∧
        a = .append (eventFor ref (repo.mailboxes ref) envelope))) := by
  unfold admission validateRef at admitted
  obtain ⟨_, named, admitted⟩ := bind_ok.mp admitted
  obtain ⟨_, _, admitted⟩ := bind_ok.mp admitted
  obtain ⟨_, _, admitted⟩ := bind_ok.mp admitted
  refine ⟨ensure_ok.mp named, ?_⟩
  split at admitted
  · next receipt found =>
    obtain ⟨_, same, admitted⟩ := bind_ok.mp admitted
    exact .inl ⟨receipt, found, ensure_ok.mp same, (Except.ok.inj admitted).symm⟩
  · next absent =>
    obtain ⟨_, race, admitted⟩ := bind_ok.mp admitted
    obtain ⟨_, newer, admitted⟩ := bind_ok.mp admitted
    exact .inr ⟨absent, ensure_ok.mp race, ensure_ok.mp newer, (Except.ok.inj admitted).symm⟩

section Commit
variable {repo : InMemoryMailboxRepository} {ref : String} {envelope : V2MailboxEnvelope}

theorem commit_mailboxes (other : String) :
    (repo.commit (eventFor ref (repo.mailboxes ref) envelope)).mailboxes other =
      if other = ref then repo.mailboxes ref ++ [eventFor ref (repo.mailboxes ref) envelope]
      else repo.mailboxes other := by
  by_cases here : other = ref
  · subst here
    simp [commit, eventFor]
  · simp [commit, eventFor, here]

theorem commit_extends : Extends repo (repo.commit (eventFor ref (repo.mailboxes ref) envelope)) := by
  intro other
  rw [commit_mailboxes]
  split
  · next here =>
    subst here
    exact List.prefix_append _ _
  · exact List.prefix_rfl

theorem recorded_eventFor :
    Recorded ref (repo.mailboxes ref).length (eventFor ref (repo.mailboxes ref) envelope) :=
  ⟨rfl, rfl, rfl, rfl, rfl, rfl, rfl⟩

theorem commit_wellFormed (wf : WellFormed repo) (named : ref ≠ "")
    (fresh : repo.idempotency ref envelope.idempotencyKey = none)
    (newer : producerLastSeq (repo.mailboxes ref) envelope.producerNamespace < envelope.seq) :
    WellFormed (repo.commit (eventFor ref (repo.mailboxes ref) envelope)) := by
  set event := eventFor ref (repo.mailboxes ref) envelope with shape
  have keyed (other key : String) : (repo.commit event).idempotency other key =
      if other = ref ∧ key = envelope.idempotencyKey then some (receiptOf event)
      else repo.idempotency other key := by
    by_cases here : other = ref
    · subst here
      by_cases same : key = envelope.idempotencyKey
      · subst same
        simp [commit, shape, eventFor]
      · simp [commit, shape, eventFor, same]
    · simp [commit, shape, eventFor, here]
  refine ⟨?_, ?_, ?_, ?_, ?_, ?_⟩
  · rw [commit_mailboxes, if_neg (Ne.symm named)]
    exact wf.unnamed
  · intro other i e found
    rw [commit_mailboxes] at found
    split at found
    · next here =>
      subst here
      rcases Nat.lt_or_ge i (repo.mailboxes other).length with inside | past
      · rw [List.getElem?_append_left inside] at found
        exact wf.recorded other i e found
      · rw [List.getElem?_append_right past] at found
        obtain ⟨at_end, rfl⟩ := List.getElem?_eq_some_iff.mp found
        have last : i = (repo.mailboxes other).length := by
          simp only [List.length_singleton] at at_end
          omega
        subst last
        simpa using recorded_eventFor
    · exact wf.recorded other i e found
  · intro other
    rw [commit_mailboxes]
    split
    · next here =>
      subst here
      rw [List.pairwise_append]
      refine ⟨wf.increasing other, List.pairwise_singleton _ _, ?_⟩
      intro a member b last
      rw [List.mem_singleton.mp last]
      intro producer
      exact producerLastSeq_lt newer member producer
    · exact wf.increasing other
  · intro other e member
    rw [commit_mailboxes] at member
    rw [keyed]
    split at member
    · next here =>
      subst here
      rcases List.mem_append.mp member with held | last
      · have known := wf.remembered other e held
        have different : ¬ (other = other ∧ e.idempotencyKey = envelope.idempotencyKey) := by
          rintro ⟨-, same⟩
          rw [same, fresh] at known
          cases known
        rw [if_neg different]
        exact known
      · rw [List.mem_singleton.mp last]
        simp [eventFor, shape]
    · next elsewhere =>
      rw [if_neg fun both => elsewhere both.1]
      exact wf.remembered other e member
  · intro other key receipt known
    rw [keyed] at known
    split at known
    · next both =>
      obtain ⟨rfl, rfl⟩ := both
      refine ⟨event, ?_, rfl, (Option.some.inj known).symm⟩
      rw [commit_mailboxes, if_pos rfl]
      exact List.mem_append_right _ (List.mem_singleton_self _)
    · obtain ⟨e, member, same⟩ := wf.backed other key receipt known
      exact ⟨e, commit_extends.mem member, same⟩
  · intro binding p held
    obtain ⟨e, member, same⟩ := wf.bound binding p held
    exact ⟨e, commit_extends.mem member, same⟩

end Commit

/-- What a write does: it leaves the repository as it was, or appends the event of
its envelope. -/
theorem write_cases (repo : InMemoryMailboxRepository) (ref : String) (expectedSeq : Int)
    (envelope : V2MailboxEnvelope) (expected : Option (List (String × Json))) :
    (∃ e, repo.admission ref expectedSeq envelope expected = .error e ∧
      repo.write ref expectedSeq envelope expected = (.error e, repo)) ∨
    (∃ receipt, repo.idempotency ref envelope.idempotencyKey = some receipt ∧
      receipt.envelopeDigest = envelope.digest ∧
      repo.write ref expectedSeq envelope expected =
        (.ok { receipt with idempotent := true }, repo)) ∨
    (ref ≠ "" ∧ repo.idempotency ref envelope.idempotencyKey = none ∧
      expectedSeq = lastSeq (repo.mailboxes ref) ∧
      producerLastSeq (repo.mailboxes ref) envelope.producerNamespace < envelope.seq ∧
      repo.write ref expectedSeq envelope expected =
        (.ok (receiptOf (eventFor ref (repo.mailboxes ref) envelope)),
          repo.commit (eventFor ref (repo.mailboxes ref) envelope))) := by
  unfold write
  cases admitted : repo.admission ref expectedSeq envelope expected with
  | error e => exact .inl ⟨e, rfl, rfl⟩
  | ok a =>
    obtain ⟨named, duplicate | appended⟩ := admit_ok admitted
    · obtain ⟨receipt, found, same, rfl⟩ := duplicate
      exact .inr (.inl ⟨receipt, found, same, rfl⟩)
    · obtain ⟨absent, race, newer, rfl⟩ := appended
      exact .inr (.inr ⟨named, absent, race, newer, rfl⟩)

theorem write_wellFormed {repo : InMemoryMailboxRepository} (wf : WellFormed repo) (ref : String)
    (expectedSeq : Int) (envelope : V2MailboxEnvelope)
    (expected : Option (List (String × Json))) :
    WellFormed (repo.write ref expectedSeq envelope expected).2 ∧
      Extends repo (repo.write ref expectedSeq envelope expected).2 := by
  rcases write_cases repo ref expectedSeq envelope expected with
    ⟨e, _, outcome⟩ | ⟨receipt, _, _, outcome⟩ | ⟨named, fresh, _, newer, outcome⟩
  · rw [outcome]
    exact ⟨wf, Extends.refl repo⟩
  · rw [outcome]
    exact ⟨wf, Extends.refl repo⟩
  · rw [outcome]
    exact ⟨commit_wellFormed wf named fresh newer, commit_extends⟩

/-! ## Acknowledging -/

/-- A changed acknowledgement moves the durable cursor of its binding forward to an
event of the actor, and nothing else. -/
theorem acknowledge_cases (repo : InMemoryMailboxRepository) (cursor : MailboxActorCursor) :
    (∃ e, repo.acknowledgeCursor cursor = (.error e, repo)) ∨
    (cursor = repo.durableCursor cursor.toCursorBinding ∧
      repo.acknowledgeCursor cursor = (.ok cursor, repo)) ∨
    (∃ event ∈ repo.mailboxes cursor.mailboxRef,
      cursor.position = some (MailboxActorCursor.positionAt event) ∧
      event.envelope.runId = cursor.runId ∧ event.envelope.nodeId = cursor.nodeId ∧
      event.producerNamespace = cursor.actorNamespace ∧
      (repo.durableCursor cursor.toCursorBinding).lastEventSeq < cursor.lastEventSeq ∧
      repo.acknowledgeCursor cursor = (.ok cursor, { repo with
        actorCursors := Function.update repo.actorCursors cursor.toCursorBinding
          cursor.position })) := by
  unfold acknowledgeCursor
  by_cases same : cursor = repo.durableCursor cursor.toCursorBinding
  · exact .inr (.inl ⟨same, if_pos same⟩)
  · rw [if_neg same]
    cases checked : repo.acknowledgeable cursor with
    | error e => exact .inl ⟨e, rfl⟩
    | ok u =>
      refine .inr (.inr ?_)
      unfold acknowledgeable at checked
      obtain ⟨_, forward, checked⟩ := bind_ok.mp checked
      obtain ⟨_, moved, checked⟩ := bind_ok.mp checked
      have forward := ensure_ok.mp forward
      have moved := ensure_ok.mp moved
      split at checked
      · cases checked
      · next event found =>
        obtain ⟨_, valid, checked⟩ := bind_ok.mp checked
        have exact_event := ensure_ok.mp checked
        obtain ⟨_, place, valid⟩ := bind_ok.mp valid
        obtain ⟨run, node, actor⟩ := ensure_ok.mp valid
        have id : some event.eventId = cursor.lastEventId := by simpa using List.find?_some found
        refine ⟨event, List.mem_of_find?_eq_some found, ?_, run, node, actor, ?_, rfl⟩
        · cases position : cursor.position with
          | none => simp [MailboxActorCursor.lastEventId, position] at id
          | some p =>
            simp only [MailboxActorCursor.lastEventId, MailboxActorCursor.lastEventSeq,
              MailboxActorCursor.lastLogicalSeq, MailboxActorCursor.lastEventDigest, position,
              Option.map_some, Option.elim_some, Option.some.injEq, Int.natCast_inj] at id exact_event
            obtain ⟨seq, logical, digest⟩ := exact_event
            simp [MailboxActorCursor.positionAt, id, seq, logical, digest]
        · have le := forward.1
          have ne := moved.1
          omega

theorem acknowledge_wellFormed {repo : InMemoryMailboxRepository} (wf : WellFormed repo)
    (cursor : MailboxActorCursor) : WellFormed (repo.acknowledgeCursor cursor).2 ∧
      (repo.acknowledgeCursor cursor).2.mailboxes = repo.mailboxes := by
  rcases acknowledge_cases repo cursor with
    ⟨e, outcome⟩ | ⟨_, outcome⟩ | ⟨event, member, place, run, node, actor, _, outcome⟩
  · rw [outcome]
    exact ⟨wf, rfl⟩
  · rw [outcome]
    exact ⟨wf, rfl⟩
  · rw [outcome]
    refine ⟨⟨wf.unnamed, wf.recorded, wf.increasing, wf.remembered, wf.backed, ?_⟩, rfl⟩
    intro binding p held
    by_cases here : binding = cursor.toCursorBinding
    · subst here
      simp only [Function.update_self, place, Option.some.injEq] at held
      exact ⟨event, member, held, run, node, actor⟩
    · simp only [Function.update_of_ne here] at held
      exact wf.bound binding p held

/-! ## A sample execution -/

def zeroDigest : Digest := Digest.ofNat 0

omit [Sha256] in
theorem isDigestText_value (d : Digest) : isDigestText d.value = true := by
  have shape := d.digest
  unfold isDigest at shape
  simp [isDigestText, anchored, shape]

def reviewScope : Scope where
  allowedActions := ["read"]
  deniedActions := []
  writableTargets := []
  sourceRoots := ["src"]
  maxChildren := 0
  maxParallel := 1
  maxDepth := 0

def reviewContract : LogicalContract :=
  ⟨"contract", "v1", zeroDigest.value, zeroDigest.value, zeroDigest.value, "review", reviewScope,
    ["reviewed"], "standards", "manifest"⟩

def reviewAttempt : Attempt :=
  ⟨"attempt", zeroDigest.value, 1, 1, "token", "executor", "2026-01-02T00:00:00Z"⟩

def reviewIdentity : ExecutionIdentity :=
  ⟨"run", "node", "v1", zeroDigest.value, zeroDigest.value, zeroDigest.value, "attempt", 1, "token"⟩

def reviewManifest : SourceManifest :=
  ⟨sourceManifestVersion, zeroDigest.value,
    [⟨"owner/name", "0123456789abcdef0123456789abcdef01234567", "src", zeroDigest.value⟩]⟩

def reviewProfile : StandardsProfile := ⟨"standards", "v1", zeroDigest.value⟩

def reviewProvenance : Provenance where
  origin := .executor
  agentInstance := "executor"
  status := .succeeded
  sourceRefs := []
  evidenceRefs := []
  resultDigest := none

/-- What the envelopes of one execution differ in. -/
structure Sample where
  messageId : String
  seq : Nat
  direction : Direction
  messageType : MessageType
  payload : List (String × Json)
  result : Option Json
  idempotencyKey : String

def Sample.fields (s : Sample) : EnvelopeFields where
  messageId := s.messageId
  runId := "run"
  nodeId := "node"
  seq := s.seq
  correlationId := "correlation"
  direction := s.direction
  messageType := s.messageType
  producer := ⟨"executor", "executor", .executor⟩
  recipient := ⟨"control", "controller"⟩
  logicalContract := reviewContract
  attempt := reviewAttempt
  executionIdentity := reviewIdentity
  sourceManifest := reviewManifest
  standardsProfile := reviewProfile
  payload := s.payload
  provenance := reviewProvenance
  result := s.result
  idempotencyKey := s.idempotencyKey

omit [Sha256] in
theorem sections_conform : reviewContract.conforms = true ∧ reviewAttempt.conforms = true ∧
    reviewIdentity.conforms = true ∧ reviewManifest.conforms = true ∧
    reviewProfile.conforms = true ∧ reviewProvenance.conforms = true := by
  have scope : reviewScope.conforms = true := by decide
  have source : SourceRef.conforms
      ⟨"owner/name", "0123456789abcdef0123456789abcdef01234567", "src", zeroDigest.value⟩ = true := by
    simp only [SourceRef.conforms, isDigestText_value]
    decide
  refine ⟨?_, ?_, ?_, ?_, ?_, by decide⟩
  · simp only [LogicalContract.conforms, reviewContract, isDigestText_value, scope]
    decide
  · simp only [Attempt.conforms, reviewAttempt, isDigestText_value]
    decide
  · simp only [ExecutionIdentity.conforms, reviewIdentity, isDigestText_value]
    decide
  · simp only [SourceManifest.conforms, reviewManifest, isDigestText_value, List.all_cons, source,
      List.nodup_cons, List.not_mem_nil, List.nodup_nil]
    decide
  · simp only [StandardsProfile.conforms, reviewProfile, isDigestText_value]
    decide

omit [Sha256] in
theorem Sample.accepted {s : Sample} (message : isId s.messageId = true)
    (key : isId s.idempotencyKey = true)
    (shape : (if s.messageType.carriesResult then s.result.any isResult
      else s.result.all isObjectOrNull) = true)
    (bound : s.result ∉ [none, some .null] →
      s.fields.resultMember "boundary_digest" = some (.str zeroDigest.value)) :
    s.fields.problem = none := by
  obtain ⟨contract, attempt, identity, manifest, profile, provenance⟩ := sections_conform
  have conforms : s.fields.conforms = true := by
    simp only [EnvelopeFields.conforms, Sample.fields, message, key, contract, attempt, identity,
      manifest, profile, provenance]
    rw [Bool.and_eq_true]
    exact ⟨by decide, shape⟩
  have consistent : s.fields.inconsistency = none := by
    unfold EnvelopeFields.inconsistency
    have result : ¬ (s.fields.result ∉ [none, some .null] ∧ s.fields.resultMember "boundary_digest" ≠
        some (.str s.fields.logicalContract.boundaryDigest)) := fun both => both.2 (bound both.1)
    simp only [if_neg result]
    simp [Sample.fields, reviewIdentity, reviewContract, reviewAttempt, reviewManifest]
  unfold EnvelopeFields.problem
  rw [if_neg (not_not_intro conforms), if_neg (by simp [Sample.fields, reviewManifest]), consistent]

def Sample.envelope (s : Sample) (accepted : s.fields.problem = none) : V2MailboxEnvelope :=
  ⟨s.fields, accepted⟩

end DwSuperApps.Guarantees.MailboxLog
