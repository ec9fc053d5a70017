import DwSuperApps.Guarantees.MailboxLog
import DwSuperApps.Source.TerminalResult

/-!
# One terminal result for an execution

Any number of `write_terminal_parent_result` calls interleave, one mailbox
operation at a time, with each other and with other mailbox writers. A mailbox
never holds two terminal results of one execution, a call that returns hands out
the receipt of the stored one, and once a result is stored the calls in progress
leave the log alone: those with another digest can only fail.

A call with the same digest returns the stored receipt unless it lost the race
between its reading and its append while its idempotency key was taken by
another envelope: the repository checks the key before the sequence, and only a
lost sequence is reconciled again.
-/
namespace DwSuperApps.Guarantees.TerminalOnce

open DwSuperApps.Lib DwSuperApps.Lib.Checked DwSuperApps.Lib.Programs
open DwSuperApps.Source.Envelope DwSuperApps.Source.Mailbox DwSuperApps.Source.TerminalResult
open DwSuperApps.Source.Mailbox.InMemoryMailboxRepository
open DwSuperApps.Guarantees.MailboxLog

/-! ## Executions and their results -/

/-- Run, node and execution identity. -/
structure Execution where
  runId : String
  nodeId : String
  identity : ExecutionIdentity
  deriving DecidableEq

/-- A terminal result of an execution. -/
def Reports (X : Execution) (envelope : V2MailboxEnvelope) : Prop :=
  envelope.messageType = .terminalResult ∧ envelope.runId = X.runId ∧
    envelope.nodeId = X.nodeId ∧ envelope.executionIdentity = X.identity

/-- The result digest an envelope carries. -/
def digestOf (envelope : V2MailboxEnvelope) : Json :=
  (envelope.resultMember "result_digest").getD .null

section Writing
variable [Sha256]

/-- Arguments of one call. -/
structure WriteCall where
  mailboxRef : String
  expectedSeq : Int
  terminal : TerminalParentResult
  expectedIdentity : Option (List (String × Json)) := none

namespace WriteCall

def execution (k : WriteCall) : Execution :=
  ⟨k.terminal.envelope.runId, k.terminal.envelope.nodeId, k.terminal.envelope.executionIdentity⟩

def digest (k : WriteCall) : Json := digestOf k.terminal.envelope

def body (k : WriteCall) : MailboxProg (WriteReceipt × TerminalParentResult) :=
  writeTerminalParentResult k.mailboxRef k.expectedSeq k.terminal k.expectedIdentity

/-- The call writes results of the execution into the mailbox. -/
def Targets (ref : String) (X : Execution) (k : WriteCall) : Prop :=
  k.mailboxRef = ref ∧ k.execution = X

/-- `expected_identity`, when given, holds of the result. -/
def IdentityHolds (k : WriteCall) : Prop :=
  ∀ expected, k.expectedIdentity = some expected →
    k.terminal.envelope.validateCurrentIdentity expected = .ok ()

/-- The call has read the mailbox, found no result and appends next. -/
def appending (k : WriteCall) : MailboxProg (WriteReceipt × TerminalParentResult) :=
  (appendTerminal k.mailboxRef k.expectedSeq k.terminal k.expectedIdentity).handle
    (recoverWrite k.mailboxRef k.terminal) >>= finishWrite k.terminal

end WriteCall

theorem terminal_type (t : TerminalParentResult) : t.envelope.messageType = .terminalResult := by
  have checked := t.checked
  unfold readNormalized at checked
  obtain ⟨_, _, checked⟩ := bind_ok.mp checked
  obtain ⟨_, kind, _⟩ := bind_ok.mp checked
  exact ensure_ok.mp kind

theorem reports_self (k : WriteCall) : Reports k.execution k.terminal.envelope :=
  ⟨terminal_type k.terminal, rfl, rfl, rfl⟩

theorem isSameExecution_iff (k : WriteCall) (e : MailboxEvent) :
    isSameExecution k.terminal e ↔ Reports k.execution e.envelope := Iff.rfl

theorem fromEnvelope_self (t : TerminalParentResult) :
    TerminalParentResult.fromEnvelope t.envelope = .ok t := by
  unfold TerminalParentResult.fromEnvelope
  split
  · next e failed =>
    rw [t.checked] at failed
    cases failed
  · next normalized read =>
    have same := read
    rw [t.checked, Except.ok.injEq] at same
    subst same
    rfl

theorem fromEnvelope_ok {envelope : V2MailboxEnvelope} {t : TerminalParentResult}
    (read : TerminalParentResult.fromEnvelope envelope = .ok t) : t.envelope = envelope := by
  unfold TerminalParentResult.fromEnvelope at read
  split at read
  · cases read
  · cases read
    rfl

theorem fromEnvelope_error {envelope : V2MailboxEnvelope} {raised : Raised}
    (failed : TerminalParentResult.fromEnvelope envelope = .error raised) :
    readNormalized envelope = .error raised := by
  unfold TerminalParentResult.fromEnvelope at failed
  split at failed
  · next e read =>
    cases failed
    exact read
  · cases failed

/-! ## Invariant -/

section Execution
variable (ref : String) (X : Execution)

/-- A stored terminal result of the execution. -/
def Stored (repo : InMemoryMailboxRepository) (e : MailboxEvent) : Prop :=
  e ∈ repo.mailboxes ref ∧ Reports X e.envelope

structure Inv (repo : InMemoryMailboxRepository) : Prop where
  wellFormed : WellFormed repo
  unique : ∀ a b, Stored ref X repo a → Stored ref X repo b → a = b
  readable : ∀ e, Stored ref X repo e → ∃ t, TerminalParentResult.fromEnvelope e.envelope = .ok t

variable {ref X} {repo : InMemoryMailboxRepository}

omit [Sha256] in
theorem Stored.grown {later : InMemoryMailboxRepository} {e : MailboxEvent}
    (stored : Stored ref X repo e) (grown : Extends repo later) : Stored ref X later e :=
  ⟨grown.mem stored.1, stored.2⟩

theorem inv_empty : Inv ref X {} where
  wellFormed := WellFormed.empty
  unique := fun _ _ h _ => absurd h.1 List.not_mem_nil
  readable := fun _ h => absurd h.1 List.not_mem_nil

/-- After a commit the stored results are the old ones and the new event, if it is
one. -/
theorem stored_commit {target : String} {envelope : V2MailboxEnvelope} {e : MailboxEvent}
    (stored : Stored ref X (repo.commit (eventFor target (repo.mailboxes target) envelope)) e) :
    Stored ref X repo e ∨ (target = ref ∧ Reports X envelope ∧
      e = eventFor target (repo.mailboxes target) envelope) := by
  obtain ⟨member, reports⟩ := stored
  rw [commit_mailboxes] at member
  split at member
  · next here =>
    subst here
    rcases List.mem_append.mp member with held | last
    · exact .inl ⟨held, reports⟩
    · rw [List.mem_singleton] at last
      subst last
      exact .inr ⟨rfl, reports, rfl⟩
  · exact .inl ⟨member, reports⟩

/-- A write of anything else keeps the invariant. -/
theorem Inv.other_write (inv : Inv ref X repo) (target : String) (expectedSeq : Int)
    (envelope : V2MailboxEnvelope) (expected : Option (List (String × Json)))
    (other : ¬ (target = ref ∧ Reports X envelope)) :
    Inv ref X (repo.write target expectedSeq envelope expected).2 ∧
      Extends repo (repo.write target expectedSeq envelope expected).2 := by
  rcases write_cases repo target expectedSeq envelope expected with
    ⟨e, _, outcome⟩ | ⟨receipt, _, _, outcome⟩ | ⟨named, fresh, _, newer, outcome⟩
  · rw [outcome]
    exact ⟨inv, Extends.refl repo⟩
  · rw [outcome]
    exact ⟨inv, Extends.refl repo⟩
  · rw [outcome]
    have held {e : MailboxEvent} (stored : Stored ref X
        (repo.commit (eventFor target (repo.mailboxes target) envelope)) e) :
        Stored ref X repo e := by
      rcases stored_commit stored with old | ⟨here, reports, _⟩
      · exact old
      · exact absurd ⟨here, reports⟩ other
    refine ⟨⟨commit_wellFormed inv.wellFormed named fresh newer, ?_, ?_⟩, commit_extends⟩
    · exact fun a b first second => inv.unique a b (held first) (held second)
    · exact fun e stored => inv.readable e (held stored)

/-- The first result of the execution. -/
theorem Inv.first_write (inv : Inv ref X repo) {k : WriteCall} (targets : k.Targets ref X)
    (none_stored : ∀ e, ¬ Stored ref X repo e) (named : ref ≠ "")
    (fresh : repo.idempotency ref k.terminal.envelope.idempotencyKey = none)
    (newer : producerLastSeq (repo.mailboxes ref) k.terminal.envelope.producerNamespace <
      k.terminal.envelope.seq) :
    Inv ref X (repo.commit (eventFor ref (repo.mailboxes ref) k.terminal.envelope)) ∧
    Stored ref X (repo.commit (eventFor ref (repo.mailboxes ref) k.terminal.envelope))
      (eventFor ref (repo.mailboxes ref) k.terminal.envelope) := by
  have only {e : MailboxEvent} (stored : Stored ref X
      (repo.commit (eventFor ref (repo.mailboxes ref) k.terminal.envelope)) e) :
      e = eventFor ref (repo.mailboxes ref) k.terminal.envelope := by
    rcases stored_commit stored with old | ⟨_, _, same⟩
    · exact absurd old (none_stored e)
    · exact same
  refine ⟨⟨commit_wellFormed inv.wellFormed named fresh newer, ?_, ?_⟩, ?_, ?_⟩
  · intro a b first second
    rw [only first, only second]
  · intro e stored
    rw [only stored]
    exact ⟨k.terminal, fromEnvelope_self k.terminal⟩
  · rw [commit_mailboxes, if_pos rfl]
    exact List.mem_append_right _ (List.mem_singleton_self _)
  · have reports := reports_self k
    rw [targets.2] at reports
    exact reports

/-! ## Why a write is refused -/

omit [Sha256] in
theorem identity_error {envelope : V2MailboxEnvelope} {expected : List (String × Json)}
    {raised : Raised} (failed : envelope.validateCurrentIdentity expected = .error raised) :
    raised.kind = .mailboxV2 ∧ raised.code ≠ MailboxV2ErrorCode.invalidSequence.value := by
  obtain ⟨entry, _, failed⟩ := checkAll_error failed
  unfold V2MailboxEnvelope.validateIdentityKey at failed
  split at failed
  · cases failed
    exact ⟨rfl, by simp [mailboxError, MailboxV2ErrorCode.value]⟩
  · obtain ⟨_, rfl⟩ := ensure_eq_error.mp failed
    split
    · exact ⟨rfl, by simp [mailboxError, MailboxV2ErrorCode.value]⟩
    · split <;> exact ⟨rfl, by simp [mailboxError, MailboxV2ErrorCode.value]⟩

theorem admit_error {target : String} {expectedSeq : Int} {envelope : V2MailboxEnvelope}
    {expected : Option (List (String × Json))} {raised : Raised}
    (refused : repo.admission target expectedSeq envelope expected = .error raised) :
    raised.kind = .mailboxV2 ∧
    (target ≠ "" →
      (∀ identity, expected = some identity → envelope.validateCurrentIdentity identity = .ok ()) →
      (∀ receipt, repo.idempotency target envelope.idempotencyKey = some receipt →
        receipt.envelopeDigest = envelope.digest) →
      raised.code = MailboxV2ErrorCode.invalidSequence.value) := by
  unfold admission validateRef validateExpectedSeq at refused
  rcases bind_error.mp refused with unnamed | ⟨_, _, refused⟩
  · obtain ⟨empty, rfl⟩ := ensure_eq_error.mp unnamed
    exact ⟨rfl, fun named => absurd named empty⟩
  rcases bind_error.mp refused with below | ⟨_, _, refused⟩
  · obtain ⟨_, rfl⟩ := ensure_eq_error.mp below
    exact ⟨rfl, fun _ _ _ => rfl⟩
  rcases bind_error.mp refused with stale | ⟨_, _, refused⟩
  · cases expected with
    | none => cases stale
    | some identity =>
      refine ⟨(identity_error stale).1, fun _ holds => ?_⟩
      have passed := holds identity rfl
      rw [show envelope.validateCurrentIdentity identity = .error raised from stale] at passed
      cases passed
  split at refused
  · next receipt found =>
    rcases bind_error.mp refused with reused | ⟨_, _, refused⟩
    · obtain ⟨differs, rfl⟩ := ensure_eq_error.mp reused
      exact ⟨rfl, fun _ _ bound => absurd (bound receipt found) differs⟩
    · cases refused
  · rcases bind_error.mp refused with raced | ⟨_, _, refused⟩
    · obtain ⟨_, rfl⟩ := ensure_eq_error.mp raced
      exact ⟨rfl, fun _ _ _ => rfl⟩
    rcases bind_error.mp refused with behind | ⟨_, _, refused⟩
    · obtain ⟨_, rfl⟩ := ensure_eq_error.mp behind
      exact ⟨rfl, fun _ _ _ => rfl⟩
    · cases refused

/-! ## The discipline of the calls -/

variable (ref X)

/-- The receipt is the event's, fresh or idempotent. -/
def Names (receipt : WriteReceipt) (e : MailboxEvent) : Prop :=
  receipt = receiptOf e receipt.idempotent

/-- No other envelope holds the idempotency key of the call in its mailbox: under
the key, an equal digest means equal contents, and once an equal result is stored
every event under the key has the call's digest. -/
def KeyHeld (k : WriteCall) (repo : InMemoryMailboxRepository) : Prop :=
  (∀ e ∈ repo.mailboxes ref, e.idempotencyKey = k.terminal.envelope.idempotencyKey →
    e.envelope.digest = k.terminal.envelope.digest →
    Json.same e.envelope.toDict k.terminal.envelope.toDict) ∧
  ((∃ e, Stored ref X repo e ∧ digestOf e.envelope = k.digest) →
    ∀ e ∈ repo.mailboxes ref, e.idempotencyKey = k.terminal.envelope.idempotencyKey →
      e.envelope.digest = k.terminal.envelope.digest)

/-- A step of a call: the log only grows, and only by the result of the call while
none is stored. Once an equal result is stored the call does not fail. -/
structure Guarantee (k : WriteCall) (before : InMemoryMailboxRepository)
    (left : MailboxProg (WriteReceipt × TerminalParentResult))
    (after : InMemoryMailboxRepository) : Prop where
  inv : Inv ref X after
  grown : Extends before after
  appends : k.Targets ref X → after.mailboxes = before.mailboxes ∨
    (∀ e, ¬ Stored ref X before e) ∧ ∃ e, Stored ref X after e ∧ digestOf e.envelope = k.digest
  settled : k.Targets ref X → ∀ e, Stored ref X before e → digestOf e.envelope = k.digest →
    ∀ raised, left ≠ .done (.error raised)

/-- A returned receipt names the stored result, and the digests agree. -/
def Returned (k : WriteCall) (result : Except Raised (WriteReceipt × TerminalParentResult))
    (repo : InMemoryMailboxRepository) : Prop :=
  k.Targets ref X → ∀ receipt consumed, result = .ok (receipt, consumed) →
    ∃ e, Stored ref X repo e ∧ Names receipt e ∧ consumed.envelope = e.envelope ∧
      digestOf e.envelope = k.digest

def discipline :
    Discipline InMemoryMailboxRepository Raised (WriteReceipt × TerminalParentResult) WriteCall where
  inv := Inv ref X
  rely := Extends
  admitted k p repo := k.Targets ref X → p = k.appending → KeyHeld ref X k repo
  guarantee := Guarantee ref X
  post := Returned ref X
  refl := fun s _ => Extends.refl s
  trans := fun _ _ _ => Extends.trans
  keeps := fun _ _ _ _ _ g => ⟨g.inv, g.grown⟩

variable {ref X}

/-- A call of another mailbox or execution never adds a result of this one. -/
theorem sat_other {k : WriteCall} (other : ¬ k.Targets ref X)
    {p : MailboxProg (WriteReceipt × TerminalParentResult)}
    (harmless : p.Effects fun effect => ∀ s, Inv ref X s → Inv ref X (effect s) ∧
      Extends s (effect s)) (s : InMemoryMailboxRepository) : (discipline ref X).Sat k p s := by
  induction p generalizing s with
  | done r => exact fun t _ _ targets => absurd targets other
  | atomic next effect ih =>
    intro t inv _ _
    obtain ⟨kept, grown⟩ := harmless.1 t inv
    exact ⟨⟨kept, grown, fun targets => absurd targets other, fun targets => absurd targets other⟩,
      ih t (harmless.2 t) (effect t)⟩

section Effects
variable {ok : (InMemoryMailboxRepository → InMemoryMailboxRepository) → Prop} (quiet : ok id)
include quiet

theorem reconcile_effects (target : String) (t : TerminalParentResult) :
    (reconcileExistingTerminal target t).Effects ok := by
  unfold reconcileExistingTerminal
  refine (Prog.effects_observe quiet _).bind fun snapshot => ?_
  unfold reconcileIn
  split
  · trivial
  · next event _ =>
    unfold reconcileEvent
    refine Prog.Effects.bind (p := .done (TerminalParentResult.fromEnvelope event.envelope)) trivial
      fun existing => ?_
    split
    · refine (Prog.effects_observe quiet _).bind fun snapshot => ?_
      exact Prog.Effects.bind
        (p := .done (verifyTerminalResultReadback existing snapshot (receiptFromEvent event)))
        trivial fun _ => trivial
    · trivial

/-- The operations of a call: its write, and readings. -/
theorem write_effects (k : WriteCall)
    (writes : ok fun repo => (repo.write k.mailboxRef k.expectedSeq k.terminal.envelope
      k.expectedIdentity).2) : k.body.Effects ok := by
  unfold WriteCall.body writeTerminalParentResult
  refine Prog.Effects.bind (Prog.Effects.handle ?_ ?_) ?_
  · unfold attemptWrite
    refine Prog.Effects.bind ?_ fun _ => ?_
    · split <;> trivial
    · refine (reconcile_effects quiet _ _).bind fun found => ?_
      split
      · trivial
      · unfold appendTerminal
        refine Prog.Effects.bind ⟨writes, fun _ => trivial⟩ fun receipt => ?_
        exact (Prog.effects_observe quiet _).bind fun _ => trivial
  · intro raised
    unfold recoverWrite
    split
    · split
      · refine (reconcile_effects quiet _ _).bind fun found => ?_
        split <;> trivial
      · trivial
    · trivial
  · intro written
    cases written with
    | existing receipt consumed => trivial
    | appended receipt snapshot =>
      exact Prog.Effects.bind (p := .done (verifyTerminalResultReadback k.terminal snapshot receipt))
        trivial fun _ => trivial

end Effects

/-! ## Equal contents -/

section Same
variable {a b : V2MailboxEnvelope} (same : Json.same a.toDict b.toDict)
include same

theorem same_member (name : String) :
    (Json.member (a.body ++ [("digest", .str a.digest.value)]) name).map Json.sortKeys =
      (Json.member (b.body ++ [("digest", .str b.digest.value)]) name).map Json.sortKeys := by
  have members : Json.sortMembers (a.body ++ [("digest", .str a.digest.value)]) =
      Json.sortMembers (b.body ++ [("digest", .str b.digest.value)]) := Json.obj.inj same
  rw [← Json.member_sortMembers, ← Json.member_sortMembers, members]

theorem same_messageType : a.messageType = b.messageType := by
  have value : (some (Json.str a.messageType.value)).map Json.sortKeys =
      (some (Json.str b.messageType.value)).map Json.sortKeys := same_member same "message_type"
  simp only [Option.map_some, Json.sortKeys, Option.some.injEq, Json.str.injEq] at value
  revert value
  cases a.messageType <;> cases b.messageType <;> decide

theorem same_runId : a.runId = b.runId := by
  have value : (some (Json.str a.runId)).map Json.sortKeys =
      (some (Json.str b.runId)).map Json.sortKeys := same_member same "run_id"
  simpa [Json.sortKeys] using value

theorem same_nodeId : a.nodeId = b.nodeId := by
  have value : (some (Json.str a.nodeId)).map Json.sortKeys =
      (some (Json.str b.nodeId)).map Json.sortKeys := same_member same "node_id"
  simpa [Json.sortKeys] using value

theorem same_identity : a.executionIdentity = b.executionIdentity := by
  have value : (some (Json.obj a.executionIdentity.members)).map Json.sortKeys =
      (some (Json.obj b.executionIdentity.members)).map Json.sortKeys :=
    same_member same "execution_identity"
  simp only [Option.map_some, Json.sortKeys, Option.some.injEq, Json.obj.injEq] at value
  have field (name : String) : (Json.member a.executionIdentity.members name).map Json.sortKeys =
      (Json.member b.executionIdentity.members name).map Json.sortKeys := by
    rw [← Json.member_sortMembers, ← Json.member_sortMembers, value]
  simp only [ExecutionIdentity.members, Json.member_cons] at field
  apply ExecutionIdentity.ext
  · simpa [Json.sortKeys] using field "run_id"
  · simpa [Json.sortKeys] using field "node_id"
  · simpa [Json.sortKeys] using field "plan_version"
  · simpa [Json.sortKeys] using field "contract_digest"
  · simpa [Json.sortKeys] using field "boundary_digest"
  · simpa [Json.sortKeys] using field "source_digest"
  · simpa [Json.sortKeys] using field "attempt_id"
  · simpa [Json.sortKeys, Int.natCast_inj] using field "lease_generation"
  · simpa [Json.sortKeys] using field "fencing_token"

theorem same_reports {X : Execution} (reports : Reports X a) : Reports X b :=
  ⟨same_messageType same ▸ reports.1, same_runId same ▸ reports.2.1, same_nodeId same ▸ reports.2.2.1,
    same_identity same ▸ reports.2.2.2⟩

theorem same_result : a.result.map Json.sortKeys = b.result.map Json.sortKeys := by
  have value := same_member same "result"
  have read (e : V2MailboxEnvelope) : Json.member (e.body ++ [("digest", .str e.digest.value)])
      "result" = e.result := by
    unfold EnvelopeFields.body optionalMember
    cases e.result <;> rfl
  rw [read, read] at value
  exact value

/-- A result digest is a string, so it does not depend on the order of members. -/
theorem same_digestOf {text : String} (read : a.resultMember "result_digest" = some (.str text)) :
    digestOf b = digestOf a := by
  have results := same_result same
  unfold EnvelopeFields.resultMember at read
  split at read
  · next members shape =>
    rw [shape] at results
    cases other : b.result with
    | none => simp [other] at results
    | some value =>
      rw [other, Option.map_some, Option.map_some, Option.some.injEq] at results
      cases value with
      | obj others =>
        simp only [Json.sortKeys, Json.obj.injEq] at results
        have values : (Json.member members "result_digest").map Json.sortKeys =
            (Json.member others "result_digest").map Json.sortKeys := by
          rw [← Json.member_sortMembers, ← Json.member_sortMembers, results]
        rw [read] at values
        cases found : Json.member others "result_digest" with
        | none => simp [found] at values
        | some d =>
          simp only [found, Option.map_some, Option.some.injEq] at values
          have same_text : d = .str text := by
            cases d <;> simp_all [Json.sortKeys]
          simp [digestOf, EnvelopeFields.resultMember, shape, other, found, read, same_text]
      | _ => simp [Json.sortKeys] at results
  · cases read

end Same

/-! ## Calls of the execution -/

theorem normalize_digest {value : Json} {allowEmpty : Bool} {normalized : List (String × Json)}
    (read : normalizeParentResult value allowEmpty = .ok normalized) :
    ∃ text, Json.member normalized "result_digest" = some (.str text) := by
  unfold normalizeParentResult at read
  obtain ⟨_, _, read⟩ := bind_ok.mp read
  obtain ⟨_, _, read⟩ := bind_ok.mp read
  obtain ⟨_, _, read⟩ := bind_ok.mp read
  obtain ⟨_, _, read⟩ := bind_ok.mp read
  obtain ⟨_, _, read⟩ := bind_ok.mp read
  obtain ⟨_, _, read⟩ := bind_ok.mp read
  obtain ⟨_, _, read⟩ := bind_ok.mp read
  obtain ⟨_, _, read⟩ := bind_ok.mp read
  obtain ⟨_, _, read⟩ := bind_ok.mp read
  cases read
  exact ⟨_, (Json.member_setMember _ _ _ _).trans (if_pos rfl)⟩

/-- The result digest of a terminal result is a text. -/
theorem digest_text {envelope : V2MailboxEnvelope} {t : TerminalParentResult}
    (read : TerminalParentResult.fromEnvelope envelope = .ok t) :
    ∃ text, envelope.resultMember "result_digest" = some (.str text) := by
  have checked := t.checked
  rw [fromEnvelope_ok read] at checked
  unfold readNormalized at checked
  obtain ⟨normalized, made, checked⟩ := bind_ok.mp checked
  obtain ⟨_, _, checked⟩ := bind_ok.mp checked
  obtain ⟨_, _, checked⟩ := bind_ok.mp checked
  obtain ⟨_, bound, _⟩ := bind_ok.mp checked
  obtain ⟨text, shape⟩ := normalize_digest made
  exact ⟨text, (ensure_ok.mp bound).trans shape⟩

/-- A stored result passes the readback of its own receipt. -/
theorem verify_stored (wf : WellFormed repo) {e : MailboxEvent} (member : e ∈ repo.mailboxes ref)
    {t expected : TerminalParentResult}
    (read : TerminalParentResult.fromEnvelope e.envelope = .ok t)
    (same : Json.same e.envelope.toDict expected.envelope.toDict) (idempotent : Bool) :
    verifyTerminalResultReadback expected (repo.buildSnapshot ref) (receiptOf e idempotent) =
      .ok t := by
  have place := (wf.recorded_of_mem member).mailbox
  have found : eventForReceipt (repo.buildSnapshot ref) (receiptOf e idempotent) = .ok e := by
    unfold eventForReceipt
    simp only [buildSnapshot, receiptOf, place, wf.find_id member]
    rfl
  unfold verifyTerminalResultReadback
  rw [found, ok_bind, read, ok_bind, fromEnvelope_ok read, ensure_of same]
  rfl

end Execution

/-! ## Calls keep to the discipline -/

section Calls
variable {k : WriteCall} {repo : InMemoryMailboxRepository}

/-- A reading of a call in progress. -/
theorem quiet_step {p : MailboxProg (WriteReceipt × TerminalParentResult)}
    (inv : Inv k.mailboxRef k.execution repo)
    (settled : ∀ e, Stored k.mailboxRef k.execution repo e → digestOf e.envelope = k.digest →
      ∀ raised, p ≠ .done (.error raised)) :
    Guarantee k.mailboxRef k.execution k repo p repo :=
  ⟨inv, Extends.refl repo, fun _ => .inl rfl, fun _ => settled⟩

theorem sat_failed (raised : Raised) :
    (discipline k.mailboxRef k.execution).Sat k (.done (.error raised)) repo := by
  intro t _ _ _ receipt consumed returned
  cases returned

theorem sat_returned {e : MailboxEvent} (stored : Stored k.mailboxRef k.execution repo e)
    {t : TerminalParentResult} (read : TerminalParentResult.fromEnvelope e.envelope = .ok t)
    (equal : digestOf e.envelope = k.digest) (idempotent : Bool) :
    (discipline k.mailboxRef k.execution).Sat k (.done (.ok (receiptOf e idempotent, t))) repo := by
  intro later _ grown _ receipt consumed returned
  cases returned
  exact ⟨e, stored.grown grown, rfl, fromEnvelope_ok read, equal⟩

/-- A call whose last reading confirms a stored result with its digest. -/
theorem sat_confirming {e : MailboxEvent} (stored : Stored k.mailboxRef k.execution repo e)
    {t : TerminalParentResult} (read : TerminalParentResult.fromEnvelope e.envelope = .ok t)
    (equal : digestOf e.envelope = k.digest) (idempotent : Bool)
    {next : InMemoryMailboxRepository → MailboxProg (WriteReceipt × TerminalParentResult)}
    (confirms : ∀ later, WellFormed later → e ∈ later.mailboxes k.mailboxRef →
      next later = .done (.ok (receiptOf e idempotent, t))) :
    (discipline k.mailboxRef k.execution).Sat k (.atomic next id) repo := by
  intro later inv grown _
  have held := stored.grown grown
  rw [confirms later inv.wellFormed held.1]
  exact ⟨quiet_step inv fun _ _ _ raised same => (by cases same),
    sat_returned held read equal idempotent⟩

/-- What surrounds a reconciliation in a call: operations pass through, a result
that was found is returned, a refusal is raised. -/
structure Frame (C : MailboxProg (Option (WriteReceipt × TerminalParentResult)) →
    MailboxProg (WriteReceipt × TerminalParentResult)) : Prop where
  atomic : ∀ next effect, C (.atomic next effect) = .atomic (fun s => C (next s)) effect
  found : ∀ returned, C (.done (.ok (some returned))) = .done (.ok returned)
  refused : ∀ raised, raised.kind = .terminalResult →
    C (.done (.error raised)) = .done (.error raised)
  failed : ∀ message, ∃ raised,
    C (.done (.error (mailboxError .schemaInvalid message))) = .done (.error raised)

theorem sat_reconcile {C : MailboxProg (Option (WriteReceipt × TerminalParentResult)) →
      MailboxProg (WriteReceipt × TerminalParentResult)} (frame : Frame C)
    (missing : ∀ later, Inv k.mailboxRef k.execution later → Extends repo later →
      (∀ e, ¬ Stored k.mailboxRef k.execution later e) →
      (discipline k.mailboxRef k.execution).Sat k (C (.done (.ok none))) later) :
    (discipline k.mailboxRef k.execution).Sat k
      (C (reconcileExistingTerminal k.mailboxRef k.terminal)) repo := by
  unfold reconcileExistingTerminal Prog.observe
  rw [Prog.atomic_bind, frame.atomic]
  intro later inv grown _
  dsimp only
  unfold InMemoryMailboxRepository.read validateRef
  by_cases named : k.mailboxRef = ""
  · have nothing : ∀ e, ¬ Stored k.mailboxRef k.execution later e := by
      intro e stored
      exact inv.wellFormed.named stored.1 named
    rw [ensure_error (by simpa using named)]
    obtain ⟨raised, fails⟩ := frame.failed "mailbox_ref must be a non-empty string"
    rw [error_bind, Prog.error_bind, fails]
    exact ⟨quiet_step inv fun e stored => absurd stored (nothing e), sat_failed raised⟩
  · have reads : (Prog.done (ensure (k.mailboxRef ≠ "") (mailboxError .schemaInvalid
          "mailbox_ref must be a non-empty string") >>= fun _ =>
          (pure (later.buildSnapshot k.mailboxRef) : Except Raised MailboxSnapshot)) >>=
          fun snapshot => reconcileIn k.terminal snapshot) =
        reconcileIn k.terminal (later.buildSnapshot k.mailboxRef) := by
      rw [ensure_of named]
      rfl
    rw [reads]
    unfold reconcileIn buildSnapshot
    dsimp only
    split
    · next search =>
      have nothing : ∀ e, ¬ Stored k.mailboxRef k.execution later e := by
        intro e stored
        have passed := List.find?_eq_none.mp search e stored.1
        exact passed (decide_eq_true ((isSameExecution_iff k e).mpr stored.2))
      exact ⟨quiet_step inv fun e stored => absurd stored (nothing e),
        missing later inv grown nothing⟩
    · next e search =>
      have own : isSameExecution k.terminal e := by simpa using List.find?_some search
      have stored : Stored k.mailboxRef k.execution later e :=
        ⟨List.mem_of_find?_eq_some search, (isSameExecution_iff k e).mp own⟩
      obtain ⟨t, read⟩ := inv.readable e stored
      have digest : t.resultDigest = digestOf e.envelope := by
        rw [← fromEnvelope_ok read]
        rfl
      have shape : reconcileEvent k.terminal e =
          if digestOf e.envelope = k.digest then
            .atomic (fun s => Prog.done (s.exactReadback (receiptOf e true)) >>= fun snapshot =>
              Prog.done (verifyTerminalResultReadback t snapshot (receiptOf e true)) >>= fun c =>
              pure (some (receiptOf e true, c))) id
          else .done (.error resultConflict) := by
        rw [← digest]
        unfold reconcileEvent
        rw [read]
        rfl
      rw [shape]
      by_cases equal : digestOf e.envelope = k.digest
      · rw [if_pos equal, frame.atomic]
        refine ⟨quiet_step inv fun _ _ _ raised same => (by cases same),
          sat_confirming stored read equal true fun after wf member => ?_⟩
        rw [wf.readback member, Prog.ok_bind, verify_stored wf member read
          (by rw [fromEnvelope_ok read]; exact Json.same_refl _)]
        exact frame.found _
      · rw [if_neg equal, frame.refused _ rfl]
        refine ⟨quiet_step inv fun other present same => ?_, sat_failed _⟩
        rw [inv.unique other e present stored] at same
        exact absurd same equal

/-- What follows a reconciliation in the guarded part, and in its recovery. -/
theorem frame_attempt (k : WriteCall) :
    Frame fun m => ((m >>= fun
      | some (receipt, consumed) => return .existing receipt consumed
      | none => appendTerminal k.mailboxRef k.expectedSeq k.terminal k.expectedIdentity).handle
        (recoverWrite k.mailboxRef k.terminal)) >>= finishWrite k.terminal where
  atomic := fun _ _ => rfl
  found := fun _ => rfl
  refused := fun raised kind => by
    have other : raised.kind ≠ .mailboxV2 := by rw [kind]; decide
    simp only [Prog.error_bind, Prog.error_handle, recoverWrite, if_neg other]
  failed := fun message => ⟨_, rfl⟩

theorem frame_recover (k : WriteCall) (raised : Raised) :
    Frame fun m => (m >>= fun
      | some (receipt, consumed) => return .existing receipt consumed
      | none => Prog.done (.error (terminalError "TERMINAL_WRITE_REJECTED" raised.text))) >>=
        finishWrite k.terminal where
  atomic := fun _ _ => rfl
  found := fun _ => rfl
  refused := fun _ _ => rfl
  failed := fun _ => ⟨_, rfl⟩

/-- A refused append: a lost sequence is reconciled, anything else fails. -/
theorem sat_recover (raised : Raised)
    (quiet : (∃ e, Stored k.mailboxRef k.execution repo e ∧ digestOf e.envelope = k.digest) →
      raised.kind = .mailboxV2 ∧ raised.code = MailboxV2ErrorCode.invalidSequence.value) :
    (discipline k.mailboxRef k.execution).Sat k
      (recoverWrite k.mailboxRef k.terminal raised >>= finishWrite k.terminal) repo ∧
    ∀ e, Stored k.mailboxRef k.execution repo e → digestOf e.envelope = k.digest → ∀ r,
      (recoverWrite k.mailboxRef k.terminal raised >>= finishWrite k.terminal) ≠
        .done (.error r) := by
  by_cases race : raised.kind = .mailboxV2 ∧ raised.code = MailboxV2ErrorCode.invalidSequence.value
  · have shape : recoverWrite k.mailboxRef k.terminal raised =
        reconcileExistingTerminal k.mailboxRef k.terminal >>= fun
          | some (receipt, consumed) => return .existing receipt consumed
          | none => Prog.done (.error (terminalError "TERMINAL_WRITE_REJECTED" raised.text)) := by
      unfold recoverWrite
      exact (if_pos race.1).trans (if_pos race.2)
    rw [shape]
    refine ⟨sat_reconcile (frame_recover k raised) fun later _ _ _ => sat_failed _, ?_⟩
    exact fun e _ _ r same => (by cases same)
  · have shape : ∃ r, recoverWrite k.mailboxRef k.terminal raised = .done (.error r) := by
      unfold recoverWrite
      split
      · next kind =>
        rw [if_neg fun code => race ⟨kind, code⟩]
        exact ⟨_, rfl⟩
      · exact ⟨_, rfl⟩
    obtain ⟨r, shape⟩ := shape
    rw [shape]
    exact ⟨sat_failed r, fun e stored equal => absurd (quiet ⟨e, stored, equal⟩) race⟩

theorem sat_append (holds : k.IdentityHolds)
    (bound : k.expectedSeq ≤ lastSeq (repo.mailboxes k.mailboxRef))
    (empty : ∀ e, ¬ Stored k.mailboxRef k.execution repo e) :
    (discipline k.mailboxRef k.execution).Sat k k.appending repo := by
  intro later inv grown admitted
  have held : KeyHeld k.mailboxRef k.execution k later := admitted ⟨rfl, rfl⟩ rfl
  clear admitted
  dsimp only
  rcases write_cases later k.mailboxRef k.expectedSeq k.terminal.envelope k.expectedIdentity with
    ⟨raised, refused, outcome⟩ | ⟨receipt, found, same, outcome⟩ |
    ⟨named, fresh, race, newer, outcome⟩
  · rw [outcome]
    obtain ⟨kind, code⟩ := admit_error refused
    have quiet : (∃ e, Stored k.mailboxRef k.execution later e ∧ digestOf e.envelope = k.digest) →
        raised.kind = .mailboxV2 ∧ raised.code = MailboxV2ErrorCode.invalidSequence.value := by
      rintro ⟨e, stored, equal⟩
      refine ⟨kind, code (inv.wellFormed.named stored.1) holds fun receipt known => ?_⟩
      obtain ⟨other, member, key, rfl⟩ := inv.wellFormed.backed _ _ _ known
      have digest := held.2 ⟨e, stored, equal⟩ other member key
      rw [← digest]
      exact (inv.wellFormed.recorded_of_mem member).digest
    obtain ⟨sat, settled⟩ := sat_recover raised quiet
    exact ⟨quiet_step inv settled, sat⟩
  · rw [outcome]
    obtain ⟨other, member, key, rfl⟩ := inv.wellFormed.backed _ _ _ found
    have record := inv.wellFormed.recorded_of_mem member
    have contents := held.1 other member key (record.digest.symm.trans same)
    have stored : Stored k.mailboxRef k.execution later other := by
      refine ⟨member, same_reports ?_ (reports_self k)⟩
      exact contents.symm
    obtain ⟨t, read⟩ := inv.readable other stored
    obtain ⟨text, shape⟩ := digest_text (fromEnvelope_self k.terminal)
    have equal : digestOf other.envelope = k.digest := same_digestOf contents.symm shape
    refine ⟨quiet_step inv fun _ _ _ r same => (by cases same),
      sat_confirming stored read equal true ?_⟩
    intro after wf kept
    change ((Prog.done (after.exactReadback (receiptOf other true)) >>= fun snapshot =>
      (pure (.appended (receiptOf other true) snapshot) : MailboxProg Written)).handle
        (recoverWrite k.mailboxRef k.terminal)) >>= finishWrite k.terminal = _
    rw [wf.readback kept true, Prog.ok_bind]
    change Prog.done (verifyTerminalResultReadback k.terminal _ _) >>= _ = _
    rw [verify_stored wf kept read contents true]
    rfl
  · rw [outcome]
    have equal_lengths : repo.mailboxes k.mailboxRef = later.mailboxes k.mailboxRef := by
      have initial := grown k.mailboxRef
      apply initial.eq_of_length_le
      simp only [lastSeq] at bound race
      omega
    have nothing : ∀ e, ¬ Stored k.mailboxRef k.execution later e := by
      intro e stored
      exact empty e ⟨equal_lengths ▸ stored.1, stored.2⟩
    obtain ⟨kept, first⟩ := inv.first_write ⟨rfl, rfl⟩ nothing named fresh newer
    refine ⟨⟨kept, commit_extends, fun _ => .inr ⟨nothing, _, first, rfl⟩,
      fun _ e stored => absurd stored (nothing e)⟩, ?_⟩
    refine sat_confirming first (fromEnvelope_self k.terminal) rfl false ?_
    intro after wf held
    change ((Prog.done (after.exactReadback (receiptOf _ false)) >>= fun snapshot =>
      (pure (.appended (receiptOf _ false) snapshot) : MailboxProg Written)).handle
        (recoverWrite k.mailboxRef k.terminal)) >>= finishWrite k.terminal = _
    rw [wf.readback held false, Prog.ok_bind]
    change Prog.done (verifyTerminalResultReadback k.terminal _ _) >>= _ = _
    rw [verify_stored wf held (fromEnvelope_self k.terminal) (Json.same_refl _) false]
    rfl

end Calls

/-! ## Runs -/

/-- What other writers of the repository do. -/
inductive Other where
  | append (mailboxRef : String) (expectedSeq : Int) (envelope : V2MailboxEnvelope)
      (expectedIdentity : Option (List (String × Json)))
  | acknowledge (cursor : MailboxActorCursor)

def Other.apply (repo : InMemoryMailboxRepository) : Other → InMemoryMailboxRepository
  | .append mailboxRef expectedSeq envelope expectedIdentity =>
    (repo.write mailboxRef expectedSeq envelope expectedIdentity).2
  | .acknowledge cursor => (repo.acknowledgeCursor cursor).2

abbrev Writers :=
  Pool InMemoryMailboxRepository Raised (WriteReceipt × TerminalParentResult) WriteCall

def step : Writers → Action WriteCall Other → Writers := Pool.step WriteCall.body Other.apply

/-- The repository and the calls after the actions, from nothing. -/
def reached (actions : List (Action WriteCall Other)) : Writers :=
  Runs.run step { shared := {} } actions

section Runs
variable (ref : String) (X : Execution)

/-- A call starts with a sequence read before, and only calls append results of the
execution. -/
def Timely (P : Writers) : Action WriteCall Other → Prop
  | .start k => k.Targets ref X → k.expectedSeq ≤ lastSeq (P.shared.mailboxes ref)
  | .advance _ => True
  | .environment (.append target _ envelope _) => ¬ (target = ref ∧ Reports X envelope)
  | .environment (.acknowledge _) => True

/-- A call that reaches its append holds its idempotency key. -/
def KeysHeld (P : Writers) : Action WriteCall Other → Prop
  | .advance i => ∀ k, P.calls[i]? = some (k, k.appending) → k.Targets ref X →
      KeyHeld ref X k P.shared
  | .start _ | .environment _ => True

def Admitted (P : Writers) (a : Action WriteCall Other) : Prop :=
  Timely ref X P a ∧ KeysHeld ref X P a

variable {ref X}

omit [Sha256] in
theorem lastSeq_mono {before after : List MailboxEvent} (grown : before <+: after) :
    lastSeq before ≤ lastSeq after := by
  have le := grown.length_le
  unfold lastSeq
  omega

theorem inv_acknowledge {repo : InMemoryMailboxRepository} (inv : Inv ref X repo)
    (cursor : MailboxActorCursor) : Inv ref X (repo.acknowledgeCursor cursor).2 ∧
      Extends repo (repo.acknowledgeCursor cursor).2 := by
  obtain ⟨wf, logs⟩ := acknowledge_wellFormed inv.wellFormed cursor
  have stored {e : MailboxEvent} (held : Stored ref X (repo.acknowledgeCursor cursor).2 e) :
      Stored ref X repo e := ⟨logs ▸ held.1, held.2⟩
  refine ⟨⟨wf, ?_, ?_⟩, fun other => ?_⟩
  · exact fun a b first second => inv.unique a b (stored first) (stored second)
  · exact fun e held => inv.readable e (stored held)
  · exact logs ▸ List.prefix_rfl

/-- The identity check passes and the call reconciles first, or the call has failed. -/
theorem body_cases (k : WriteCall) :
    (k.IdentityHolds ∧ k.body = ((reconcileExistingTerminal k.mailboxRef k.terminal >>= fun
      | some (receipt, consumed) => return .existing receipt consumed
      | none => appendTerminal k.mailboxRef k.expectedSeq k.terminal k.expectedIdentity).handle
        (recoverWrite k.mailboxRef k.terminal)) >>= finishWrite k.terminal) ∨
    (¬ k.IdentityHolds ∧ ∃ raised, k.body = .done (.error raised)) := by
  unfold WriteCall.IdentityHolds WriteCall.body writeTerminalParentResult attemptWrite
  cases k.expectedIdentity with
  | none => exact .inl ⟨fun _ given => (by cases given), rfl⟩
  | some expected =>
    cases checked : k.terminal.envelope.validateCurrentIdentity expected with
    | ok u =>
      refine .inl ⟨fun other given => ?_, ?_⟩
      · cases given
        exact checked
      · simp only [checked]
        rfl
    | error raised =>
      refine .inr ⟨fun holds => ?_, ?_⟩
      · have passed := holds expected rfl
        rw [checked] at passed
        cases passed
      · obtain ⟨kind, other⟩ := identity_error checked
        simp only [checked, Prog.error_bind, Prog.error_handle, recoverWrite, if_pos kind,
          if_neg other]
        exact ⟨_, rfl⟩

theorem sat_body {k : WriteCall} {repo : InMemoryMailboxRepository}
    (fresh : k.Targets ref X → k.expectedSeq ≤ lastSeq (repo.mailboxes ref)) :
    (discipline ref X).Sat k k.body repo := by
  by_cases targets : k.Targets ref X
  · obtain ⟨rfl, rfl⟩ := targets
    have bound := fresh ⟨rfl, rfl⟩
    rcases body_cases k with ⟨holds, shape⟩ | ⟨_, raised, shape⟩
    · rw [shape]
      refine sat_reconcile (frame_attempt k) fun later inv grown nothing => ?_
      exact sat_append holds (le_trans bound (lastSeq_mono (grown k.mailboxRef))) nothing
    · rw [shape]
      exact sat_failed raised
  · refine sat_other targets ?_ repo
    refine write_effects (fun s inv => ⟨inv, Extends.refl s⟩) k fun s inv => ?_
    refine inv.other_write _ _ _ _ fun ⟨here, reports⟩ => targets ⟨here, ?_⟩
    obtain ⟨_, run, node, identity⟩ := reports
    unfold WriteCall.execution
    rw [run, node, identity]

theorem admits {P : Writers} {a : Action WriteCall Other} (admitted : Admitted ref X P a) :
    (discipline ref X).Admits WriteCall.body Other.apply P a := by
  cases a with
  | start k => exact fun _ => sat_body admitted.1
  | advance i =>
    rintro ⟨k, p⟩ found targets appends
    have place : p = k.appending := appends
    subst place
    exact admitted.2 k found targets
  | environment op =>
    intro inv
    cases op with
    | append target expectedSeq envelope expected =>
      exact Inv.other_write inv target expectedSeq envelope expected admitted.1
    | acknowledge cursor => exact inv_acknowledge inv cursor

theorem keeps_start : (discipline ref X).Keeps ({ shared := {} } : Writers) where
  inv := inv_empty
  calls := fun _ member => absurd member List.not_mem_nil

/-- Reading, appending, its readback, and a reconciliation after a lost race. -/
theorem body_within (k : WriteCall) : k.body.Within 6 := by
  have reconcile (target : String) (t : TerminalParentResult) :
      (reconcileExistingTerminal target t).Within 2 := by
    refine Prog.Within.bind (Prog.within_observe _) (m := 1) fun snapshot => ?_
    unfold reconcileIn
    split
    · trivial
    · next event _ =>
      unfold reconcileEvent
      refine Prog.Within.bind (Prog.within_done 0 _) (m := 1) fun existing => ?_
      split
      · refine Prog.Within.bind (Prog.within_observe _) (m := 0) fun snapshot => ?_
        exact Prog.Within.bind (Prog.within_done 0 _) (m := 0) fun _ => trivial
      · trivial
  have attempt : (attemptWrite k.mailboxRef k.expectedSeq k.terminal k.expectedIdentity).Within 4 := by
    refine Prog.Within.bind (n := 0) ?_ (m := 4) fun _ => ?_
    · split <;> exact Prog.within_done 0 _
    refine Prog.Within.bind (reconcile _ _) (m := 2) fun found => ?_
    split
    · trivial
    · refine Prog.Within.bind (Prog.within_operation _) (m := 1) fun receipt => ?_
      exact Prog.Within.bind (Prog.within_observe _) (m := 0) fun _ => trivial
  have recover (raised : Raised) : (recoverWrite k.mailboxRef k.terminal raised).Within 2 := by
    unfold recoverWrite
    split
    · split
      · refine Prog.Within.bind (reconcile _ _) (m := 0) fun found => ?_
        split <;> exact Prog.within_done 0 _
      · trivial
    · trivial
  refine Prog.Within.bind (n := 6) (attempt.handle recover) (m := 0) fun written => ?_
  cases written with
  | existing receipt consumed => trivial
  | appended receipt snapshot =>
    exact Prog.Within.bind (Prog.within_done 0 _) (m := 0) fun _ => trivial

/-- The result is stored, and the call at a place, if it has the same digest and a
current identity, has not failed. -/
def Settled (ref : String) (X : Execution) (e : MailboxEvent) (i : Nat) (P : Writers) : Prop :=
  Stored ref X P.shared e ∧ ∀ k raised, P.calls[i]? = some (k, .done (.error raised)) →
    k.Targets ref X → k.IdentityHolds → digestOf e.envelope ≠ k.digest

theorem settled_step {P : Writers} {e : MailboxEvent} {i : Nat} (settled : Settled ref X e i P)
    (keeps : (discipline ref X).Keeps P) {a : Action WriteCall Other}
    (admitted : Admitted ref X P a) : Settled ref X e i (step P a) := by
  have grown : Extends P.shared (step P a).shared := (keeps.step (admits admitted)).2
  refine ⟨settled.1.grown grown, fun k raised found targets holds equal => ?_⟩
  have failed_before (same : P.calls[i]? = some (k, .done (.error raised))) : False :=
    settled.2 k raised same targets holds equal
  cases a with
  | environment op => exact failed_before found
  | start request =>
    change (P.calls ++ [(request, request.body)])[i]? = _ at found
    rw [List.getElem?_append] at found
    split at found
    · exact failed_before found
    · obtain ⟨rfl, failed⟩ := Prod.mk.inj (List.mem_singleton.mp (List.mem_of_getElem? found))
      rcases body_cases k with ⟨_, shape⟩ | ⟨stale, _⟩
      · rw [shape] at failed
        cases failed
      · exact stale holds
  | advance j =>
    change (P.advance j).calls[i]? = _ at found
    unfold Pool.advance at found
    split at found
    · next k' next effect current =>
      rw [List.getElem?_set] at found
      split at found
      · next same =>
        subst same
        split at found
        · obtain ⟨rfl, left⟩ := Prod.mk.inj (Option.some.inj found)
          have sat := keeps.calls _ (List.mem_of_getElem? current)
          have own := (sat P.shared keeps.inv (Extends.refl _) (admits admitted _ current)).1
          exact own.settled targets e settled.1 equal raised left
        · cases found
      · exact failed_before found
    · exact failed_before found

theorem settled_run {P : Writers} {e : MailboxEvent} {i : Nat} {actions : List _}
    (settled : Settled ref X e i P) (keeps : (discipline ref X).Keeps P)
    (admitted : Runs.Along step (Admitted ref X) P actions) :
    Settled ref X e i (Runs.run step P actions) := by
  induction actions generalizing P with
  | nil => exact settled
  | cons a rest ih =>
    exact ih (settled_step settled keeps admitted.1) (keeps.step (admits admitted.1)).1 admitted.2

section Statement
variable (ref X)

def AtMostOne (Q : Writers) : Prop :=
  ∀ a b, Stored ref X Q.shared a → Stored ref X Q.shared b → a = b

/-- A call that returned handed out the receipt of the stored result, whose digest is
its own. -/
def ReceiptsHold (Q : Writers) : Prop :=
  ∀ (i : Nat) (k : WriteCall) (receipt : WriteReceipt) (consumed : TerminalParentResult),
    Q.calls[i]? = some (k, .done (.ok (receipt, consumed))) → k.Targets ref X →
      ∃ e, Stored ref X Q.shared e ∧ Names receipt e ∧ consumed.envelope = e.envelope ∧
        digestOf e.envelope = k.digest

/-- The next operation of a call leaves the log alone, or stores its result while none
is stored. -/
def LogKept (Q : Writers) : Prop :=
  ∀ (i : Nat) (k : WriteCall) (left : MailboxProg (WriteReceipt × TerminalParentResult)),
    Q.calls[i]? = some (k, left) → k.Targets ref X → Admitted ref X Q (.advance i) →
      (Q.advance i).shared.mailboxes = Q.shared.mailboxes ∨
      (∀ e, ¬ Stored ref X Q.shared e) ∧
        ∃ e, Stored ref X (Q.advance i).shared e ∧ digestOf e.envelope = k.digest

/-- With a result stored, a call that had not ended yet ends with the receipt of that
result, or with an error if its digest is another one. -/
def Answered (P Q : Writers) : Prop :=
  ∀ (e : MailboxEvent) (i : Nat) (k : WriteCall)
    (result : Except Raised (WriteReceipt × TerminalParentResult)),
    Stored ref X P.shared e → (∀ earlier, P.calls[i]? ≠ some (k, .done earlier)) →
    Q.calls[i]? = some (k, .done result) → k.Targets ref X → k.IdentityHolds →
      if digestOf e.envelope = k.digest then
        ∃ receipt consumed, result = .ok (receipt, consumed) ∧ Names receipt e ∧
          consumed.envelope = e.envelope
      else ∃ raised, result = .error raised

/-- Six turns end a call. -/
def Ends (P : Writers) (actions : List (Action WriteCall Other)) : Prop :=
  ∀ (i : Nat) (k : WriteCall) (left : MailboxProg (WriteReceipt × TerminalParentResult)),
    P.calls[i]? = some (k, left) → 6 ≤ turns i actions →
      ∃ result, (Runs.run step P actions).calls[i]? = some (k, .done result)

end Statement

/-- In every run whose steps are admitted, before and after any point of it. -/
theorem terminal_result_written_once (ref : String) (X : Execution)
    (before after : List (Action WriteCall Other))
    (admitted : Runs.Along step (Admitted ref X) { shared := {} } (before ++ after)) :
    AtMostOne ref X (reached (before ++ after)) ∧ ReceiptsHold ref X (reached (before ++ after)) ∧
    LogKept ref X (reached (before ++ after)) ∧
    Answered ref X (reached before) (reached (before ++ after)) ∧ Ends (reached before) after := by
  obtain ⟨early, later⟩ := (Runs.along_append _ _ _ _ _).mp admitted
  have keepsP := (Discipline.sound keeps_start (early.mono fun _ _ => admits)).1
  have keepsQ := (Discipline.sound keeps_start (admitted.mono fun _ _ => admits)).1
  have receipts : ReceiptsHold ref X (reached (before ++ after)) := by
    intro i k receipt consumed found targets
    have post := keepsQ.calls _ (List.mem_of_getElem? found)
    exact post _ keepsQ.inv (Extends.refl _) targets receipt consumed rfl
  have moved : reached (before ++ after) = Runs.run step (reached before) after :=
    Runs.run_append _ _ _ _
  refine ⟨keepsQ.inv.unique, receipts, ?_, ?_, ?_⟩
  · intro i k left found targets admitted
    cases left with
    | done r =>
      rw [advance_done found]
      exact .inl rfl
    | atomic next effect =>
      rw [(advance_call found).2]
      have sat := keepsQ.calls _ (List.mem_of_getElem? found)
      exact (sat _ keepsQ.inv (Extends.refl _) (admits admitted _ found)).1.appends targets
  · intro e i k result stored pending found targets holds
    have start : Settled ref X e i (reached before) := by
      refine ⟨stored, fun other raised ended => ?_⟩
      have kept : (Runs.run step (reached before) after).calls[i]? = _ := run_done_call after ended
      rw [moved] at found
      obtain ⟨rfl, _⟩ := Prod.mk.inj (Option.some.inj (found.symm.trans kept))
      exact absurd ended (pending _)
    have settled : Settled ref X e i (reached (before ++ after)) := by
      rw [moved]
      exact settled_run start keepsP later
    cases result with
    | error raised =>
      rw [if_neg (settled.2 k raised found targets holds)]
      exact ⟨raised, rfl⟩
    | ok returned =>
      obtain ⟨receipt, consumed⟩ := returned
      obtain ⟨other, present, names, contents, equal⟩ :=
        receipts i k receipt consumed found targets
      have same := keepsQ.inv.unique other e present settled.1
      subst same
      rw [if_pos equal]
      exact ⟨receipt, consumed, rfl, names, contents⟩
  · intro i k left found enough
    have short : left.Within 6 := within_run body_within
      (fun _ member => absurd member List.not_mem_nil) before _ (List.mem_of_getElem? found)
    exact ended_after_turns found short enough

end Runs
end Writing

/-! ## A lost race -/

/-- A digest that depends on the length of the message id only. -/
@[reducible] def messageHash : Sha256 where
  bits
    | .obj members => match Json.member members "message_id" with
      | some (.str id) => id.length
      | _ => 0
    | _ => 0

theorem messageHash_digest (members : List (String × Json)) :
    @canonicalDigest messageHash (.obj members) =
      Digest.ofNat (match (Json.member members "message_id").map Json.sortKeys with
        | some (.str id) => id.length
        | _ => 0) := by
  unfold canonicalDigest
  rw [Json.sortKeys, ← Json.member_sortMembers]
  rfl

/-- The canonical parent result of a review without findings or children. -/
def reviewResult : List (String × Json) :=
  [("findings", .arr []), ("child_refs", .arr []), ("child_provenance", .arr []),
    ("child_result_digests", .arr []), ("residual_risks", .arr []),
    ("unresolved_questions", .arr []),
    ("controller_decision", .obj [("evidence_refs", .arr [.str "evidence"])]),
    ("result_digest", .str zeroDigest.value)]

def terminalSample (messageId : String) : Sample where
  messageId := messageId
  seq := 0
  direction := .executorToController
  messageType := .terminalResult
  payload := [("normalized_parent_result", .obj reviewResult), ("child_provenance", .arr [])]
  result := some (.obj [("status", .str "SUCCEEDED"), ("boundary_digest", .str zeroDigest.value),
    ("result_digest", .str zeroDigest.value), ("artifact_refs", .arr []), ("findings", .arr [])])
  idempotencyKey := "key"

theorem terminalSample_accepted {messageId : String} (valid : isId messageId = true) :
    (terminalSample messageId).fields.problem = none := by
  have key : isId "key" = true := by decide
  refine Sample.accepted valid key ?_ fun _ => rfl
  simp only [terminalSample, MessageType.carriesResult, if_true, Option.any_some, isResult, isRecord,
    List.all_cons, List.all_nil, Json.member_cons]
  simp [isText, isDigestText_value, isTextArray, isFindings]

theorem mapping_obj (members : List (String × Json)) (field : String) :
    mapping (.obj members) field = .ok members := rfl

theorem digest_zero (field : String) :
    Source.TerminalResult.digest (.str zeroDigest.value) field = .ok zeroDigest.value := by
  have clean : strip zeroDigest.value = zeroDigest.value := zeroDigest.toText.stripped
  have nonempty : zeroDigest.value ≠ "" := zeroDigest.toText.nonempty
  have noNul : '\x00' ∉ zeroDigest.value.toList := zeroDigest.toText.noNul
  have shape : isDigest zeroDigest.value := zeroDigest.digest
  simp [Source.TerminalResult.digest, Source.TerminalResult.text, clean, ensure_of nonempty,
    ensure_of noNul, ensure_of shape]

theorem reviewResult_raw :
    rejectRawContext "normalized_parent_result" (.obj reviewResult) = .ok () := by
  have allowed (key : String) (named : key ∈ ["findings", "child_refs", "child_provenance",
      "child_result_digests", "residual_risks", "unresolved_questions", "controller_decision",
      "evidence_refs", "result_digest"]) : casefold key ∉ forbiddenContextKeys := by
    simp only [List.mem_cons, List.not_mem_nil, or_false] at named
    rcases named with rfl | rfl | rfl | rfl | rfl | rfl | rfl | rfl | rfl <;> decide
  simp [reviewResult, rejectRawContext, rejectRawMembers, rejectRawItems, allowed, ensure_of]

theorem reviewResult_normal :
    @normalizeParentResult messageHash (.obj reviewResult) true = .ok reviewResult := by
  have computed : @canonicalResultDigest messageHash
      (Json.dropMember "child_provenance" reviewResult) = zeroDigest := by
    unfold canonicalResultDigest
    rw [messageHash_digest]
    rfl
  unfold normalizeParentResult
  refine bind_ok.mpr ⟨_, mapping_obj _ _, ?_⟩
  refine bind_ok.mpr ⟨_, reviewResult_raw, ?_⟩
  refine bind_ok.mpr ⟨[], rfl, ?_⟩
  refine bind_ok.mpr ⟨[], rfl, ?_⟩
  refine bind_ok.mpr ⟨[], rfl, ?_⟩
  refine bind_ok.mpr ⟨[], rfl, ?_⟩
  refine bind_ok.mpr ⟨[("evidence_refs", .arr [.str "evidence"])], rfl, ?_⟩
  refine bind_ok.mpr ⟨["evidence"], rfl, ?_⟩
  refine bind_ok.mpr ⟨(), ?_, ?_⟩
  · change (Source.TerminalResult.digest (.str zeroDigest.value) "result_digest" >>= fun supplied =>
      ensure (supplied = (@canonicalResultDigest messageHash
        (Json.dropMember "child_provenance" reviewResult)).value) _) = .ok ()
    rw [digest_zero, ok_bind, computed, ensure_of rfl]
  · change Except.ok (Json.setMember "result_digest" (.str (@canonicalResultDigest messageHash
        (Json.dropMember "child_provenance" reviewResult)).value) reviewResult) = .ok reviewResult
    rw [computed]
    rfl

def reviewEnvelope (messageId : String) (valid : isId messageId = true) : V2MailboxEnvelope :=
  (terminalSample messageId).envelope (terminalSample_accepted valid)

theorem terminalSample_normal {messageId : String} (valid : isId messageId = true) :
    @readNormalized messageHash (reviewEnvelope messageId valid) =
      .ok reviewResult := by
  unfold readNormalized
  refine bind_ok.mpr ⟨reviewResult, reviewResult_normal, ?_⟩
  refine bind_ok.mpr ⟨(), ensure_of rfl _, ?_⟩
  refine bind_ok.mpr ⟨(), ensure_of rfl _, ?_⟩
  refine bind_ok.mpr ⟨(), ensure_of rfl _, ?_⟩
  refine bind_ok.mpr ⟨(), ensure_of rfl _, ?_⟩
  refine bind_ok.mpr ⟨(), ensure_of (Json.same_refl _) _, ?_⟩
  exact bind_ok.mpr ⟨(), ensure_of (Json.same_refl _) _, rfl⟩

/-- A call that writes the review result under a message id. -/
def reviewCall (messageId : String) (valid : isId messageId = true) : @WriteCall messageHash :=
  letI := messageHash
  { mailboxRef := "mailbox"
    expectedSeq := -1
    terminal := ⟨reviewEnvelope messageId valid, reviewResult, terminalSample_normal valid⟩ }

section Race
variable [Sha256]

theorem advance_eq {P : Writers} {i : Nat} {k : WriteCall}
    {next : InMemoryMailboxRepository → MailboxProg (WriteReceipt × TerminalParentResult)}
    {effect : InMemoryMailboxRepository → InMemoryMailboxRepository}
    (found : P.calls[i]? = some (k, .atomic next effect)) :
    step P (.advance i) = { shared := effect P.shared, calls := P.calls.set i (k, next P.shared) } := by
  change P.advance i = _
  unfold Pool.advance
  rw [found]

/-- A first reading of an empty mailbox. -/
theorem body_reading {k : WriteCall} (named : k.mailboxRef ≠ "") (holds : k.IdentityHolds) :
    ∃ next, k.body = .atomic next id ∧ ∀ repo : InMemoryMailboxRepository,
      repo.mailboxes k.mailboxRef = [] → next repo = k.appending := by
  rcases body_cases k with ⟨_, shape⟩ | ⟨stale, _⟩
  · refine ⟨_, shape, fun repo empty => ?_⟩
    simp only [InMemoryMailboxRepository.read, validateRef, ensure_of named, ok_bind, buildSnapshot,
      empty]
    rfl
  · exact absurd holds stale

variable {a b : WriteCall}

theorem admit_first (named : a.mailboxRef ≠ "") (current : a.expectedIdentity = none)
    (first : a.expectedSeq = -1) :
    ({} : InMemoryMailboxRepository).write a.mailboxRef a.expectedSeq a.terminal.envelope
        a.expectedIdentity =
      (.ok (receiptOf (eventFor a.mailboxRef [] a.terminal.envelope)),
        ({} : InMemoryMailboxRepository).commit (eventFor a.mailboxRef [] a.terminal.envelope)) := by
  have newer : producerLastSeq [] a.terminal.envelope.producerNamespace <
      (a.terminal.envelope.seq : Int) := by
    change (-1 : Int) < _
    omega
  have admitted : ({} : InMemoryMailboxRepository).admission a.mailboxRef (-1) a.terminal.envelope none =
      .ok (.append (eventFor a.mailboxRef [] a.terminal.envelope)) := by
    unfold admission validateRef validateExpectedSeq
    rw [ensure_of named, ok_bind, ensure_of (by decide), ok_bind]
    refine bind_ok.mpr ⟨(), rfl, ?_⟩
    refine bind_ok.mpr ⟨(), ensure_of rfl _, ?_⟩
    exact bind_ok.mpr ⟨(), ensure_of newer _, rfl⟩
  unfold write
  rw [first, current, admitted]

/-- The repository after the append of `a`. -/
def afterFirst (a : WriteCall) : InMemoryMailboxRepository :=
  ({} : InMemoryMailboxRepository).commit (eventFor a.mailboxRef [] a.terminal.envelope)

/-- The key is checked before the sequence. -/
theorem admit_second (named : b.mailboxRef ≠ "") (current : b.expectedIdentity = none)
    (first : b.expectedSeq = -1) (place : b.mailboxRef = a.mailboxRef)
    (key : b.terminal.envelope.idempotencyKey = a.terminal.envelope.idempotencyKey)
    (apart : a.terminal.envelope.digest ≠ b.terminal.envelope.digest) :
    (afterFirst a).write b.mailboxRef b.expectedSeq b.terminal.envelope b.expectedIdentity =
      (.error (mailboxError .digestMismatch
        "idempotency key was reused with a different envelope digest"), afterFirst a) := by
  have known : (afterFirst a).idempotency b.mailboxRef b.terminal.envelope.idempotencyKey =
      some (receiptOf (eventFor a.mailboxRef [] a.terminal.envelope)) := by
    rw [place, key]
    simp [afterFirst, commit, eventFor]
  have refused : (afterFirst a).admission b.mailboxRef (-1) b.terminal.envelope none =
      .error (mailboxError .digestMismatch
        "idempotency key was reused with a different envelope digest") := by
    unfold admission validateRef validateExpectedSeq
    rw [ensure_of named, ok_bind, ensure_of (by decide), ok_bind]
    refine bind_error.mpr (.inr ⟨(), rfl, ?_⟩)
    rw [known]
    exact bind_error.mpr (.inl (ensure_error apart _))
  unfold write
  rw [first, current, refused]

/-- Both calls read the empty mailbox, then `a` appends. -/
def race (a b : WriteCall) : List (Action WriteCall Other) :=
  [.start a, .start b, .advance 1, .advance 0, .advance 0]

theorem race_reached (named : a.mailboxRef ≠ "") (currentA : a.expectedIdentity = none)
    (firstA : a.expectedSeq = -1) (place : b.mailboxRef = a.mailboxRef)
    (currentB : b.expectedIdentity = none) :
    ∃ confirming, reached (race a b) =
      { shared := afterFirst a, calls := [(a, confirming), (b, b.appending)] } := by
  have holdsA : a.IdentityHolds := fun _ given => by simp [currentA] at given
  have holdsB : b.IdentityHolds := fun _ given => by simp [currentB] at given
  obtain ⟨nextA, bodyA, readA⟩ := body_reading named holdsA
  obtain ⟨nextB, bodyB, readB⟩ := body_reading (place ▸ named) holdsB
  have start : reached (race a b) = step (step (step
      { shared := {}, calls := [(a, a.body), (b, b.body)] } (.advance 1)) (.advance 0)) (.advance 0) :=
    rfl
  have readingB : step { shared := {}, calls := [(a, a.body), (b, b.body)] } (.advance 1) =
      { shared := {}, calls := [(a, a.body), (b, b.appending)] } := by
    rw [bodyB, advance_eq (k := b) rfl]
    dsimp only
    rw [readB {} rfl]
    rfl
  have readingA : step { shared := {}, calls := [(a, a.body), (b, b.appending)] } (.advance 0) =
      { shared := {}, calls := [(a, a.appending), (b, b.appending)] } := by
    rw [bodyA, advance_eq (k := a) rfl]
    dsimp only
    rw [readA {} rfl]
    rfl
  rw [start, readingB, readingA, advance_eq (k := a) rfl]
  dsimp only
  rw [admit_first named currentA firstA]
  exact ⟨_, rfl⟩

theorem race_lost (named : a.mailboxRef ≠ "") (currentA : a.expectedIdentity = none)
    (firstA : a.expectedSeq = -1) (place : b.mailboxRef = a.mailboxRef)
    (currentB : b.expectedIdentity = none) (firstB : b.expectedSeq = -1)
    (key : b.terminal.envelope.idempotencyKey = a.terminal.envelope.idempotencyKey)
    (apart : a.terminal.envelope.digest ≠ b.terminal.envelope.digest) :
    ∃ raised, (reached (race a b ++ [.advance 1])).calls[1]? = some (b, .done (.error raised)) := by
  obtain ⟨confirming, before⟩ := race_reached named currentA firstA place currentB
  have after : reached (race a b ++ [.advance 1]) = step (reached (race a b)) (.advance 1) := rfl
  rw [after, before, advance_eq (k := b) rfl]
  dsimp only
  rw [admit_second (place ▸ named) currentB firstB place key apart]
  exact ⟨_, rfl⟩

/-- A stored result refuses the call that lost the race, though the digests agree. -/
theorem race_unanswered (named : a.mailboxRef ≠ "") (currentA : a.expectedIdentity = none)
    (firstA : a.expectedSeq = -1) (place : b.mailboxRef = a.mailboxRef)
    (currentB : b.expectedIdentity = none) (firstB : b.expectedSeq = -1)
    (key : b.terminal.envelope.idempotencyKey = a.terminal.envelope.idempotencyKey)
    (execution : b.execution = a.execution) (digest : a.digest = b.digest)
    (apart : a.terminal.envelope.digest ≠ b.terminal.envelope.digest) :
    Runs.Along step (Timely a.mailboxRef a.execution) { shared := {} } (race a b ++ [.advance 1]) ∧
    ¬ Answered a.mailboxRef a.execution (reached (race a b))
      (reached (race a b ++ [.advance 1])) := by
  constructor
  · exact ⟨fun _ => firstA.le, fun _ => firstB.le, trivial, trivial, trivial, trivial, trivial⟩
  · intro answered
    obtain ⟨confirming, before⟩ := race_reached named currentA firstA place currentB
    obtain ⟨raised, lost⟩ := race_lost named currentA firstA place currentB firstB key apart
    have stored : Stored a.mailboxRef a.execution (reached (race a b)).shared
        (eventFor a.mailboxRef [] a.terminal.envelope) := by
      rw [before]
      refine ⟨?_, reports_self a⟩
      simp [afterFirst, commit, eventFor]
    have result := answered _ 1 b _ stored (fun earlier ended => ?_) lost ⟨place, execution⟩
      (fun _ given => by simp [currentB] at given)
    · have equal : digestOf (eventFor a.mailboxRef [] a.terminal.envelope).envelope = b.digest :=
        digest
      rw [if_pos equal] at result
      obtain ⟨_, _, returned, _⟩ := result
      cases returned
    · rw [before] at ended
      cases ended

end Race

def reviewExecution : Execution := ⟨"run", "node", reviewIdentity⟩

section Fields
variable (messageId : String) (valid : isId messageId = true)

theorem reviewCall_execution :
    @WriteCall.execution messageHash (reviewCall messageId valid) = reviewExecution := rfl

theorem reviewCall_digest :
    @WriteCall.digest messageHash (reviewCall messageId valid) = .str zeroDigest.value := rfl

theorem reviewEnvelope_digest : @V2MailboxEnvelope.digest messageHash
    (reviewEnvelope messageId valid) = Digest.ofNat messageId.length := by
  unfold V2MailboxEnvelope.digest
  rw [messageHash_digest]
  have named : Json.member (reviewEnvelope messageId valid).body "message_id" =
      some (.str messageId) := rfl
  rw [named]
  rfl

end Fields

/-- Two calls with one result digest and one idempotency key but different message ids
read the empty mailbox; the second to append is refused with the stored result at
hand. -/
theorem equal_result_refused :
    letI := messageHash
    Runs.Along step (Timely "mailbox" reviewExecution) { shared := {} }
      (race (reviewCall "first" (by decide)) (reviewCall "second" (by decide)) ++ [.advance 1]) ∧
    ¬ Answered "mailbox" reviewExecution
      (reached (race (reviewCall "first" (by decide)) (reviewCall "second" (by decide))))
      (reached (race (reviewCall "first" (by decide)) (reviewCall "second" (by decide)) ++
        [.advance 1])) := by
  have apart : (Digest.ofNat 5) ≠ Digest.ofNat 6 := by decide
  refine @race_unanswered messageHash (reviewCall "first" (by decide))
    (reviewCall "second" (by decide)) ?_ rfl rfl rfl rfl rfl ?_ ?_ ?_ ?_
  · change "mailbox" ≠ ""
    decide
  · rfl
  · rw [reviewCall_execution, reviewCall_execution]
  · rw [reviewCall_digest, reviewCall_digest]
  · change @V2MailboxEnvelope.digest messageHash (reviewEnvelope "first" (by decide)) ≠
      @V2MailboxEnvelope.digest messageHash (reviewEnvelope "second" (by decide))
    rw [reviewEnvelope_digest, reviewEnvelope_digest]
    exact apart

section Solo
variable [Sha256] {a : WriteCall} {ref : String} {X : Execution}

theorem keyHeld_of_own {k : WriteCall} {repo : InMemoryMailboxRepository}
    (own : ∀ e ∈ repo.mailboxes ref, e.envelope = k.terminal.envelope) : KeyHeld ref X k repo := by
  refine ⟨fun e member _ _ => ?_, fun _ e member _ => ?_⟩
  · rw [own e member]
    exact Json.same_refl _
  · rw [own e member]

/-- One call reads and appends. -/
def solo (a : WriteCall) : List (Action WriteCall Other) :=
  [.start a, .advance 0, .advance 0]

theorem solo_admitted (named : a.mailboxRef ≠ "") (current : a.expectedIdentity = none)
    (first : a.expectedSeq = -1) :
    Runs.Along step (Admitted a.mailboxRef a.execution) { shared := {} }
      (solo a ++ [.advance 0]) := by
  have holds : a.IdentityHolds := fun _ given => by simp [current] at given
  obtain ⟨next, body, read⟩ := body_reading named holds
  have untouched (calls) : KeysHeld a.mailboxRef a.execution { shared := {}, calls := calls }
      (.advance 0) :=
    fun k _ _ => keyHeld_of_own fun e member => absurd member List.not_mem_nil
  have reading : step { shared := {}, calls := [(a, a.body)] } (.advance 0) =
      { shared := {}, calls := [(a, a.appending)] } := by
    rw [body, advance_eq (k := a) rfl]
    dsimp only
    rw [read {} rfl]
    rfl
  have appended : ∃ confirming, step { shared := {}, calls := [(a, a.appending)] } (.advance 0) =
      { shared := afterFirst a, calls := [(a, confirming)] } := by
    rw [advance_eq (k := a) rfl]
    dsimp only
    rw [admit_first named current first]
    exact ⟨_, rfl⟩
  obtain ⟨confirming, appended⟩ := appended
  refine ⟨⟨fun _ => first.le, trivial⟩, ⟨trivial, untouched _⟩, ?_⟩
  change Runs.Along _ _ (step { shared := {}, calls := [(a, a.body)] } (.advance 0)) _
  rw [reading]
  refine ⟨⟨trivial, untouched _⟩, ?_⟩
  rw [appended]
  refine ⟨⟨trivial, fun k found _ => ?_⟩, trivial⟩
  obtain ⟨rfl, _⟩ := Prod.mk.inj (Option.some.inj found)
  refine keyHeld_of_own fun e member => ?_
  simp only [afterFirst, commit, eventFor, Function.update_self, List.nil_append,
    List.mem_singleton] at member
  rw [member]

end Solo

/-- One call reads, appends and reads back. -/
theorem terminal_result_written_once_review :
    letI := messageHash
    let call := reviewCall "first" (by decide)
    let Q := reached (solo call ++ [.advance 0])
    AtMostOne "mailbox" reviewExecution Q ∧ ReceiptsHold "mailbox" reviewExecution Q ∧
    LogKept "mailbox" reviewExecution Q ∧
    Answered "mailbox" reviewExecution (reached (solo call)) Q ∧
    Ends (reached (solo call)) [.advance 0] :=
  @terminal_result_written_once messageHash "mailbox" reviewExecution
    (@solo messageHash (reviewCall "first" (by decide))) [.advance 0]
    (@solo_admitted messageHash (reviewCall "first" (by decide)) (by change "mailbox" ≠ ""; decide)
      rfl rfl)

end DwSuperApps.Guarantees.TerminalOnce
