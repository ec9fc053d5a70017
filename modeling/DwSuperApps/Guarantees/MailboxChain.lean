import Mathlib.Data.List.Nodup
import DwSuperApps.Guarantees.MailboxLog
import DwSuperApps.Lib.Runs

/-!
# The mailbox log over whole histories

Any sequence of calls on one repository. Every log stays numbered, linked to the
digests of its earlier events, increasing for each producer and free of repeated
idempotency keys; committed events stay where they are. A write whose envelope is
already in the log answers with the receipt of the first write before any
sequence is looked at.
-/
namespace DwSuperApps.Guarantees.MailboxChain

open DwSuperApps.Lib DwSuperApps.Lib.Checked
open DwSuperApps.Source.Envelope DwSuperApps.Source.Mailbox
open DwSuperApps.Source.Mailbox.InMemoryMailboxRepository
open DwSuperApps.Guarantees.MailboxLog

variable [Sha256]

/-! ## Calls -/

omit [Sha256] in
/-- One call on the repository, with the arguments of its caller. -/
inductive Operation where
  | write (mailboxRef : String) (expectedSeq : Int) (envelope : V2MailboxEnvelope)
      (expectedIdentity : Option (List (String × Json)))
  | read (mailboxRef : String)
  | exactReadback (receipt : WriteReceipt)
  | readCursor (mailboxRef runId nodeId actorNamespace : String)
  | scanAfterCursor (cursor : MailboxActorCursor)
  | acknowledgeCursor (cursor : MailboxActorCursor)

/-- The repository after the call; the readings leave it. -/
def perform (repo : InMemoryMailboxRepository) : Operation → InMemoryMailboxRepository
  | .write mailboxRef expectedSeq envelope expectedIdentity =>
    (repo.write mailboxRef expectedSeq envelope expectedIdentity).2
  | .acknowledgeCursor cursor => (repo.acknowledgeCursor cursor).2
  | .read _ | .exactReadback _ | .readCursor _ _ _ _ | .scanAfterCursor _ => repo

/-! ## Links -/

/-- Every event names the digest of the event before it. -/
def Linked (log : List MailboxEvent) : Prop :=
  ∀ i e, log[i]? = some e →
    e.previousEventDigest = (log.take i).getLast?.map MailboxEvent.eventDigest

theorem linked_snoc {log : List MailboxEvent} (linked : Linked log) {e : MailboxEvent}
    (last : e.previousEventDigest = log.getLast?.map MailboxEvent.eventDigest) :
    Linked (log ++ [e]) := by
  intro i x found
  rcases Nat.lt_or_ge i log.length with inside | past
  · rw [List.getElem?_append_left inside] at found
    rw [List.take_append_of_le_length (Nat.le_of_lt inside)]
    exact linked i x found
  · rw [List.getElem?_append_right past] at found
    obtain ⟨at_end, rfl⟩ := List.getElem?_eq_some_iff.mp found
    have here : i = log.length := by
      rw [List.length_singleton] at at_end
      omega
    subst here
    rw [List.take_left]
    simpa using last

/-- What histories keep of a repository. -/
structure Sound (repo : InMemoryMailboxRepository) : Prop where
  wellFormed : WellFormed repo
  linked : ∀ ref, Linked (repo.mailboxes ref)

theorem sound_empty : Sound {} := ⟨WellFormed.empty, fun _ _ _ found => nomatch found⟩

theorem sound_write {repo : InMemoryMailboxRepository} (sound : Sound repo) (ref : String)
    (expectedSeq : Int) (envelope : V2MailboxEnvelope) (expected : Option (List (String × Json))) :
    Sound (repo.write ref expectedSeq envelope expected).2 := by
  refine ⟨(write_wellFormed sound.wellFormed ref expectedSeq envelope expected).1, ?_⟩
  rcases write_cases repo ref expectedSeq envelope expected with
    ⟨e, _, outcome⟩ | ⟨receipt, _, _, outcome⟩ | ⟨_, _, _, _, outcome⟩
  · rw [outcome]
    exact sound.linked
  · rw [outcome]
    exact sound.linked
  · rw [outcome]
    intro other
    rw [commit_mailboxes]
    split
    · exact linked_snoc (sound.linked ref) rfl
    · exact sound.linked other

theorem sound_perform {repo : InMemoryMailboxRepository} (sound : Sound repo) (op : Operation) :
    Sound (perform repo op) ∧ Extends repo (perform repo op) := by
  cases op with
  | write ref expectedSeq envelope expected =>
    exact ⟨sound_write sound ref expectedSeq envelope expected,
      (write_wellFormed sound.wellFormed ref expectedSeq envelope expected).2⟩
  | acknowledgeCursor cursor =>
    obtain ⟨wf, logs⟩ := acknowledge_wellFormed sound.wellFormed cursor
    change Sound (repo.acknowledgeCursor cursor).2 ∧ Extends repo (repo.acknowledgeCursor cursor).2
    refine ⟨⟨wf, logs ▸ sound.linked⟩, fun ref => ?_⟩
    exact logs ▸ List.prefix_rfl
  | read _ => exact ⟨sound, Extends.refl repo⟩
  | exactReadback _ => exact ⟨sound, Extends.refl repo⟩
  | readCursor _ _ _ _ => exact ⟨sound, Extends.refl repo⟩
  | scanAfterCursor _ => exact ⟨sound, Extends.refl repo⟩

theorem perform_wellFormed {repo : InMemoryMailboxRepository} (wf : WellFormed repo)
    (op : Operation) : WellFormed (perform repo op) := by
  cases op with
  | write ref expectedSeq envelope expected =>
    exact (write_wellFormed wf ref expectedSeq envelope expected).1
  | acknowledgeCursor cursor => exact (acknowledge_wellFormed wf cursor).1
  | read _ => exact wf
  | exactReadback _ => exact wf
  | readCursor _ _ _ _ => exact wf
  | scanAfterCursor _ => exact wf

theorem sound_run {repo : InMemoryMailboxRepository} (sound : Sound repo) (ops : List Operation) :
    Sound (Runs.run perform repo ops) ∧ Extends repo (Runs.run perform repo ops) := by
  have kept : ∀ s op, Sound s → Sound (perform s op) := fun _ op sound => (sound_perform sound op).1
  refine ⟨Runs.run_invariant_of_forall kept ops sound, ?_⟩
  have everywhere : Runs.Along perform (fun _ _ => True) repo ops :=
    Runs.along_of_forall (fun _ _ => trivial) repo ops
  have preserved : ∀ s op, Sound s → True → Sound (perform s op) ∧ Extends s (perform s op) :=
    fun _ op sound _ => sound_perform sound op
  exact Runs.run_relation Extends.refl (fun _ _ _ => Extends.trans) preserved sound everywhere

/-! ## The log -/

/-- The log of a mailbox: numbers and canonical ids from zero, links, increasing
sequences of each producer and distinct idempotency keys. -/
structure LogSound (ref : String) (log : List MailboxEvent) : Prop where
  numbered : ∀ i e, log[i]? = some e → e.eventSeq = i ∧ e.eventId = eventIdOf ref i
  linked : Linked log
  increasing : log.Pairwise Earlier
  distinct : (log.map (·.idempotencyKey)).Nodup

/-- Two places with one key hold the event of its one receipt. -/
theorem keys_distinct {repo : InMemoryMailboxRepository} (wf : WellFormed repo) (ref : String) :
    ((repo.mailboxes ref).map (·.idempotencyKey)).Nodup := by
  refine List.nodup_iff_getElem?_ne_getElem?.mpr fun i j before inside same => ?_
  rw [List.length_map] at inside
  have first := List.getElem?_eq_getElem (before.trans inside)
  have second := List.getElem?_eq_getElem inside
  rw [List.getElem?_map, List.getElem?_map, first, second] at same
  have keys : (repo.mailboxes ref)[i].idempotencyKey = (repo.mailboxes ref)[j].idempotencyKey :=
    Option.some.inj same
  have receipts := wf.remembered ref _ (List.mem_of_getElem? first)
  rw [keys, wf.remembered ref _ (List.mem_of_getElem? second)] at receipts
  have seqs := congrArg WriteReceipt.eventSeq (Option.some.inj receipts)
  change MailboxEvent.eventSeq _ = MailboxEvent.eventSeq _ at seqs
  rw [(wf.recorded ref i _ first).seq, (wf.recorded ref j _ second).seq] at seqs
  omega

theorem Sound.log {repo : InMemoryMailboxRepository} (sound : Sound repo) (ref : String) :
    LogSound ref (repo.mailboxes ref) := by
  have wf := sound.wellFormed
  refine ⟨?_, sound.linked ref, wf.increasing ref, keys_distinct wf ref⟩
  intro i e found
  have recorded := wf.recorded ref i e found
  exact ⟨recorded.seq, recorded.id⟩

/-! ## Writing again -/

/-- A call that passes the checks before the key is looked up. -/
def Admissible (envelope : V2MailboxEnvelope) (expectedSeq : Int)
    (expected : Option (List (String × Json))) : Prop :=
  -1 ≤ expectedSeq ∧ ∀ identity, expected = some identity →
    envelope.validateCurrentIdentity identity = .ok ()

/-- A write that returned had passed them. -/
theorem admissible_of_returned {repo : InMemoryMailboxRepository} {ref : String}
    {expectedSeq : Int} {envelope : V2MailboxEnvelope} {expected : Option (List (String × Json))}
    {receipt : WriteReceipt}
    (returned : (repo.write ref expectedSeq envelope expected).1 = .ok receipt) :
    Admissible envelope expectedSeq expected := by
  unfold write at returned
  split at returned
  · cases returned
  all_goals
    next admitted =>
    unfold admission validateExpectedSeq at admitted
    obtain ⟨_, _, admitted⟩ := bind_ok.mp admitted
    obtain ⟨_, bounded, admitted⟩ := bind_ok.mp admitted
    obtain ⟨_, current, -⟩ := bind_ok.mp admitted
    refine ⟨ensure_ok.mp bounded, ?_⟩
    rintro identity rfl
    exact current

/-- The receipt of the first write is found again as long as the key is remembered. -/
theorem write_again {repo : InMemoryMailboxRepository} {ref : String} (named : ref ≠ "")
    {envelope : V2MailboxEnvelope} {receipt : WriteReceipt}
    (held : repo.idempotency ref envelope.idempotencyKey = some receipt)
    (same : receipt.envelopeDigest = envelope.digest) {expectedSeq : Int}
    {expected : Option (List (String × Json))} (admissible : Admissible envelope expectedSeq expected) :
    repo.write ref expectedSeq envelope expected =
      (.ok { receipt with idempotent := true }, repo) := by
  have admitted : repo.admission ref expectedSeq envelope expected =
      .ok (.duplicate { receipt with idempotent := true }) := by
    unfold admission validateRef validateExpectedSeq
    rw [ensure_of named, ok_bind, ensure_of admissible.1, ok_bind, held]
    cases expected with
    | none =>
      simp only [ensure_of same]
      rfl
    | some identity =>
      simp only [admissible.2 identity rfl, ensure_of same]
      rfl
  unfold write
  rw [admitted]

/-- A write that returns has its envelope in the log under its key. -/
theorem write_remembered {repo : InMemoryMailboxRepository} (wf : WellFormed repo) {ref : String}
    {expectedSeq : Int} {envelope : V2MailboxEnvelope} {expected : Option (List (String × Json))}
    {receipt : WriteReceipt} (returned : (repo.write ref expectedSeq envelope expected).1 = .ok receipt) :
    ref ≠ "" ∧ ∃ e ∈ (repo.write ref expectedSeq envelope expected).2.mailboxes ref,
      e.idempotencyKey = envelope.idempotencyKey ∧ e.envelopeDigest = envelope.digest ∧
      { receiptOf e with idempotent := true } = { receipt with idempotent := true } := by
  rcases write_cases repo ref expectedSeq envelope expected with
    ⟨e, _, outcome⟩ | ⟨first, found, same, outcome⟩ | ⟨named, _, _, _, outcome⟩
  · rw [outcome] at returned
    cases returned
  · rw [outcome] at returned ⊢
    cases returned
    obtain ⟨e, member, key, rfl⟩ := wf.backed _ _ _ found
    exact ⟨wf.named member, e, member, key, same, rfl⟩
  · rw [outcome] at returned ⊢
    cases returned
    refine ⟨named, eventFor ref (repo.mailboxes ref) envelope, ?_, rfl, rfl, rfl⟩
    rw [commit_mailboxes, if_pos rfl]
    exact List.mem_append_right _ (List.mem_singleton_self _)

/-- After every sequence of calls each log is sound and has every earlier state of it
as a beginning, and an envelope that was written before, written again with any
admissible arguments, returns its first receipt and leaves the repository. -/
theorem mailbox_log_sound (ops : List Operation) :
    (∀ ref, LogSound ref ((Runs.run perform {} ops).mailboxes ref)) ∧
    (∀ before after, ops = before ++ after →
      Extends (Runs.run perform {} before) (Runs.run perform {} ops)) ∧
    ∀ before ref seq envelope identity after receipt,
      ops = before ++ .write ref seq envelope identity :: after →
      ((Runs.run perform {} before).write ref seq envelope identity).1 = .ok receipt →
      Admissible envelope seq identity ∧ ∀ seq' identity', Admissible envelope seq' identity' →
        (Runs.run perform {} ops).write ref seq' envelope identity' =
          (.ok { receipt with idempotent := true }, Runs.run perform {} ops) := by
  refine ⟨fun ref => (sound_run sound_empty ops).1.log ref, ?_, ?_⟩
  · rintro before after rfl
    rw [Runs.run_append]
    exact (sound_run (sound_run sound_empty before).1 after).2
  · rintro before ref seq envelope identity after receipt rfl returned
    refine ⟨admissible_of_returned returned, fun seq' identity' admissible => ?_⟩
    have reached := (sound_run sound_empty before).1
    obtain ⟨named, e, member, key, digest, same⟩ := write_remembered reached.wellFormed returned
    have written := sound_write reached ref seq envelope identity
    have later := sound_run written after
    rw [Runs.run_append, Runs.run_cons]
    change (Runs.run perform (Runs.run perform {} before |>.write ref seq envelope identity).2
      after).write _ _ _ _ = (_, Runs.run perform _ after)
    have held := later.1.wellFormed.remembered ref e (later.2.mem member)
    rw [key] at held
    rw [write_again named held digest admissible, same]
    rfl

/-! ## A request written twice -/

omit [Sha256] in
/-- A digest that is the same for every value. -/
@[reducible] def zeroHash : Sha256 where
  bits _ := 0

def requestSample : Sample where
  messageId := "message"
  seq := 0
  direction := .controllerToExecutor
  messageType := .executionRequest
  payload := []
  result := none
  idempotencyKey := "key"

def requestEnvelope : V2MailboxEnvelope :=
  requestSample.envelope (Sample.accepted (by decide) (by decide) (by decide)
    (fun given => absurd (by decide) given))

omit [Sha256] in
theorem mailbox_log_sound_twice :
    let ops : List Operation := [.write "mailbox" (-1) requestEnvelope none, .read "mailbox"]
    let repo := @Runs.run _ _ (@perform zeroHash) {} ops
    @LogSound zeroHash "mailbox" (repo.mailboxes "mailbox") ∧
      (@InMemoryMailboxRepository.write zeroHash repo "mailbox" 7 requestEnvelope none).2 = repo := by
  intro ops repo
  obtain ⟨sound, -, again⟩ := @mailbox_log_sound zeroHash ops
  refine ⟨sound "mailbox", ?_⟩
  obtain ⟨-, repeated⟩ := again [] "mailbox" (-1) requestEnvelope none [.read "mailbox"] _ rfl rfl
  rw [repeated 7 none ⟨by decide, fun _ given => nomatch given⟩]

end DwSuperApps.Guarantees.MailboxChain
