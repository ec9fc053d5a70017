import DwSuperApps.Source.StateAdvancement
import DwSuperApps.Guarantees.MailboxLog

/-!
# Which writes advance the state

`validate_state_advancing_write` accepts a write exactly where the compared fields
of its identity are the current ones and both optional fences hold: the generation
fence where the current identity carries a token, the lease fence where the caller
passes a lease (`write_accepted`). Each fence is first given the same kind of
description on its own (`evaluate_accepted`, `fence_accepted`). Neither reads an
execution id or a lease id of the candidate, since an envelope has none, and
without a lease nothing is asked of one (`write_unleased`).
-/
namespace DwSuperApps.Guarantees.StateAdvancing

open DwSuperApps.Lib DwSuperApps.Lib.Checked
open DwSuperApps.Source.Envelope DwSuperApps.Source.StateAdvancement
open DwSuperApps.Source.Runtime (Identifier LeaseStatus WorkLease IsoTime Timestamps)
open DwSuperApps.Guarantees.MailboxLog

/-! ## Texts -/

/-- A text that strips to something and has no NUL. -/
def Readable (s : String) : Prop := strip s ≠ "" ∧ '\x00' ∉ s.toList

instance (s : String) : Decidable (Readable s) := by unfold Readable; infer_instance

theorem readable_strip {s : String} (read : Readable s) : Readable (strip s) := by
  refine ⟨by rw [strip_strip]; exact read.1, fun nul => read.2 ?_⟩
  rw [strip, String.toList_ofList, stripChars, List.mem_reverse] at nul
  have dropped := (List.dropWhile_sublist isSpace).subset nul
  exact (List.dropWhile_sublist isSpace).subset (List.mem_reverse.mp dropped)

theorem textValue_ok {ε : Type} {invalid : String → ε} {value : IdentityValue} {field t : String} :
    textValue invalid value field = .ok t ↔ ∃ s, value = .text s ∧ Readable s ∧ t = strip s := by
  cases value with
  | text s =>
    simp only [IdentityValue.text.injEq, exists_eq_left']
    by_cases bad : strip s = "" ∨ '\x00' ∈ s.toList
    · rw [textValue, if_pos bad]
      exact iff_of_false (fun made => nomatch made) fun read => bad.elim read.1.1 read.1.2
    · have read : Readable s := not_or.mp bad
      rw [textValue, if_neg bad]
      exact ⟨fun made => ⟨read, (Except.ok.inj made).symm⟩, fun made => congrArg _ made.2.symm⟩
  | _ => exact iff_of_false (fun made => nomatch made) fun ⟨_, kind, _⟩ => nomatch kind

theorem isIdentifierChars_solid {l : List Char} (id : isIdentifierChars l = true) :
    (∃ c ∈ l, isSpace c = false) ∧ '\x00' ∉ l := by
  cases l with
  | nil => cases id
  | cons c rest =>
    simp only [isIdentifierChars, Bool.and_eq_true, List.all_eq_true] at id
    refine ⟨⟨c, List.mem_cons_self, isAlnum_noSpace id.1⟩, fun nul => ?_⟩
    rcases List.mem_cons.mp nul with rfl | later
    · exact absurd id.1 (by decide)
    · exact absurd (id.2 _ later) (by decide)

/-- An identifier of the schema is readable, a final line feed included. -/
theorem readable_of_isId {s : String} (id : isId s = true) : Readable s := by
  simp only [isId, anchored, Bool.and_eq_true, Bool.or_eq_true, beq_iff_eq] at id
  have solid : (∃ c ∈ s.toList, isSpace c = false) ∧ '\x00' ∉ s.toList := by
    rcases id.1 with whole | ⟨last, front⟩
    · exact isIdentifierChars_solid whole
    · obtain ⟨init, split⟩ := List.getLast?_eq_some_iff.mp last
      rw [split, List.dropLast_concat] at front
      obtain ⟨⟨c, member, visible⟩, clean⟩ := isIdentifierChars_solid front
      rw [split]
      exact ⟨⟨c, List.mem_append_left _ member, visible⟩, by simp [clean]⟩
  obtain ⟨⟨c, member, visible⟩, clean⟩ := solid
  refine ⟨fun empty => ?_, clean⟩
  rw [strip_empty.mp empty c member] at visible
  cases visible

/-- What the schema and the binding checks say of the identity of an envelope. -/
structure SoundIdentity (e : V2MailboxEnvelope) : Prop where
  runId : Readable e.executionIdentity.runId
  nodeId : Readable e.executionIdentity.nodeId
  attemptId : Readable e.attempt.attemptId
  agentInstance : Readable e.attempt.agentInstance
  sameAttempt : e.executionIdentity.attemptId = e.attempt.attemptId
  sameGeneration : e.executionIdentity.leaseGeneration = e.attempt.leaseGeneration
  sameToken : e.executionIdentity.fencingToken = e.attempt.fencingToken
  contract : e.executionIdentity.contractDigest ≠ ""
  source : e.executionIdentity.sourceDigest ≠ ""

theorem isDigestText_nonempty {s : String} (digest : isDigestText s = true) : s ≠ "" := by
  rintro rfl
  exact absurd digest (by decide)

theorem soundIdentity (e : V2MailboxEnvelope) : SoundIdentity e := by
  obtain ⟨conforms, -, consistent⟩ := envelope_sound e
  simp only [EnvelopeFields.conforms, Bool.and_eq_true] at conforms
  obtain ⟨⟨⟨⟨⟨⟨⟨-, attempt⟩, identity⟩, -⟩, -⟩, -⟩, -⟩, -⟩ := conforms
  simp only [EnvelopeFields.inconsistency, guard_none] at consistent
  obtain ⟨-, -, -, -, -, -, -, attemptId, generation, token, -⟩ := consistent
  simp only [Attempt.conforms, Bool.and_eq_true] at attempt
  simp only [ExecutionIdentity.conforms, Bool.and_eq_true] at identity
  obtain ⟨⟨⟨⟨⟨⟨⟨run, node⟩, -⟩, contract⟩, -⟩, source⟩, -⟩, -⟩ := identity
  exact ⟨readable_of_isId run, readable_of_isId node, readable_of_isId attempt.1.1.1.1.1,
    readable_of_isId attempt.1.2, not_not.mp attemptId, not_not.mp generation, not_not.mp token,
    isDigestText_nonempty contract, isDigestText_nonempty source⟩

/-! ## Decisions -/

theorem mismatch_nil {field : String} {same : Prop} [Decidable same] :
    mismatch field same = [] ↔ same := by
  by_cases here : same <;> simp [mismatch, here]

theorem ofFailed_accepted {failed : List String} :
    Disposition.ofFailed failed = .accepted ↔ failed = [] := by
  cases failed <;> simp [Disposition.ofFailed]

theorem failedChecks_nil {d : Disposition} : d.failedChecks = [] ↔ d = .accepted := by
  cases d <;> simp [Disposition.failedChecks]

theorem mergeChecks_nil {failed extra : List String} :
    mergeChecks failed extra = [] ↔ failed = [] ∧ extra = [] := by
  induction extra generalizing failed with
  | nil => simp [mergeChecks]
  | cons check rest ih =>
    have step : mergeChecks failed (check :: rest) =
        mergeChecks (if check ∈ failed then failed else failed ++ [check]) rest := rfl
    rw [step, ih]
    by_cases known : check ∈ failed
    · simp [known, List.ne_nil_of_mem known]
    · simp [known]

/-! ## The generation fence -/

theorem field_text {d : Dict String IdentityValue} {field name t : String} :
    GenerationFence.text (GenerationFence.fieldOf d field) name = .ok t ↔
      ∃ s, d.get? field = some (.text s) ∧ Readable s ∧ t = strip s := by
  rw [GenerationFence.text, textValue_ok, GenerationFence.fieldOf]
  cases d.get? field with
  | none => simp
  | some value => simp

theorem field_generation {d : Dict String IdentityValue} {field name : String} {n : Int} :
    GenerationFence.generation (GenerationFence.fieldOf d field) name = .ok n ↔
      d.get? field = some (.int n) ∧ 0 ≤ n := by
  rw [GenerationFence.fieldOf]
  cases d.get? field with
  | none => simp [GenerationFence.generation]
  | some value =>
    cases value with
    | int m =>
      simp only [GenerationFence.generation, Option.getD_some, bind_ok, ensure_ok,
        Option.some.injEq, IdentityValue.int.injEq]
      constructor
      · rintro ⟨_, bound, same⟩
        obtain rfl := Except.ok.inj same
        exact ⟨rfl, bound⟩
      · rintro ⟨rfl, bound⟩
        exact ⟨(), bound, rfl⟩
    | _ => simp [GenerationFence.generation]

/-- The execution id of a current identity can be read. -/
def ReadableExecution (d : Dict String IdentityValue) : Prop :=
  d.get? "execution_id" ∈ [none, some .null] ∨
    ∃ s, d.get? "execution_id" = some (.text s) ∧ Readable s

theorem executionId_ok {d : Dict String IdentityValue} {name : String} :
    (∃ x, GenerationFence.executionId d name = .ok x) ↔ ReadableExecution d := by
  unfold GenerationFence.executionId ReadableExecution
  cases d.get? "execution_id" with
  | none => simp
  | some value =>
    have read : (∃ x, (GenerationFence.text value s!"{name}.execution_id" >>= fun normalized =>
        Except.ok (some normalized)) = .ok x) ↔ ∃ s, value = .text s ∧ Readable s := by
      simp only [bind_ok, GenerationFence.text, textValue_ok]
      constructor
      · rintro ⟨_, _, ⟨s, kind, fine, _⟩, _⟩
        exact ⟨s, kind, fine⟩
      · rintro ⟨s, kind, fine⟩
        exact ⟨_, _, ⟨s, kind, fine, rfl⟩, rfl⟩
    cases value with
    | null => simp
    | _ => exact read.trans (by simp)

/-- What a normalized identity is. -/
theorem identity_ok {d : Dict String IdentityValue} {name : String} {i : GenerationFence.Identity} :
    GenerationFence.identity d name = .ok i ↔
      (∃ s, d.get? "run_id" = some (.text s) ∧ Readable s ∧ i.runId = strip s) ∧
      (∃ s, d.get? "node_id" = some (.text s) ∧ Readable s ∧ i.nodeId = strip s) ∧
      (∃ s, d.get? "attempt_id" = some (.text s) ∧ Readable s ∧ i.attemptId = strip s) ∧
      (d.get? "lease_generation" = some (.int i.leaseGeneration) ∧ 0 ≤ i.leaseGeneration) ∧
      (∃ s, d.get? "fencing_token" = some (.text s) ∧ Readable s ∧ i.fencingToken = strip s) ∧
      GenerationFence.executionId d name = .ok i.executionId := by
  unfold GenerationFence.identity
  simp only [bind_ok, ensure_ok, field_text, field_generation]
  constructor
  · rintro ⟨_, _, _, run, _, node, _, attempt, _, generation, _, token, _, execution, made⟩
    cases made
    exact ⟨run, node, attempt, generation, token, execution⟩
  · rintro ⟨run, node, attempt, generation, token, execution⟩
    refine ⟨(), ?_, _, run, _, node, _, attempt, _, generation, _, token, _, execution, rfl⟩
    obtain ⟨⟨_, run, -⟩, ⟨_, node, -⟩, ⟨_, attempt, -⟩, ⟨_, token, -⟩⟩ := And.intro run
      (And.intro node (And.intro attempt token))
    simp [GenerationFence.requiredFields, run, node, attempt, generation.1, token]

/-- What the generation fence asks of a current identity beside equal fields. -/
structure Fenced (e : V2MailboxEnvelope) (current : Dict String IdentityValue) : Prop where
  token : ∃ t, current.get? "fencing_token" = some (.text t) ∧ Readable t ∧
    strip t = strip e.executionIdentity.fencingToken
  ownToken : Readable e.executionIdentity.fencingToken
  generation : current.get? "lease_generation" = some (.int e.executionIdentity.leaseGeneration)
  execution : ReadableExecution current

/-- The required fields of the current identity are the candidate's. -/
structure SameFields (e : V2MailboxEnvelope) (current : Dict String IdentityValue) : Prop where
  runId : current.get? "run_id" = some (.text e.executionIdentity.runId)
  nodeId : current.get? "node_id" = some (.text e.executionIdentity.nodeId)
  planVersion : current.get? "plan_version" = some (.text e.executionIdentity.planVersion)
  attemptId : current.get? "attempt_id" = some (.text e.executionIdentity.attemptId)
  generation : ∃ v, current.get? "lease_generation" = some v ∧
    v.number = some (e.executionIdentity.leaseGeneration : Int)

/-- The candidate, normalized. -/
def normalizedIdentity (i : ExecutionIdentity) : GenerationFence.Identity :=
  ⟨strip i.runId, strip i.nodeId, strip i.attemptId, i.leaseGeneration, strip i.fencingToken, none⟩

theorem candidate_ok (e : V2MailboxEnvelope) {x : GenerationFence.Identity} :
    GenerationFence.identity (identityValues e.executionIdentity) "candidate" = .ok x ↔
      Readable e.executionIdentity.fencingToken ∧ x = normalizedIdentity e.executionIdentity := by
  have sound := soundIdentity e
  have attemptId : Readable e.executionIdentity.attemptId := sound.sameAttempt ▸ sound.attemptId
  have unnamed : GenerationFence.executionId (identityValues e.executionIdentity) "candidate" =
      .ok none := rfl
  rw [identity_ok, unnamed]
  simp only [identityValues_run, identityValues_node, identityValues_attempt,
    identityValues_generation, identityValues_token, Option.some.injEq, IdentityValue.text.injEq,
    IdentityValue.int.injEq, exists_eq_left', Except.ok.injEq]
  constructor
  · rintro ⟨⟨-, run⟩, ⟨-, node⟩, ⟨-, attempt⟩, ⟨generation, -⟩, ⟨readable, token⟩, execution⟩
    refine ⟨readable, ?_⟩
    cases x
    simp_all [normalizedIdentity]
  · rintro ⟨readable, rfl⟩
    exact ⟨⟨sound.runId, rfl⟩, ⟨sound.nodeId, rfl⟩, ⟨attemptId, rfl⟩,
      ⟨rfl, Int.natCast_nonneg _⟩, ⟨readable, rfl⟩, rfl⟩

/-- The generation fence accepts a candidate with equal fields exactly where it is
fenced. -/
theorem evaluate_accepted {e : V2MailboxEnvelope} {current : Dict String IdentityValue}
    (same : SameFields e current) :
    GenerationFence.evaluate (identityValues e.executionIdentity) current = .ok .accepted ↔
      Fenced e current := by
  have sound := soundIdentity e
  have attemptId : Readable e.executionIdentity.attemptId := sound.sameAttempt ▸ sound.attemptId
  unfold GenerationFence.evaluate
  simp only [bind_ok, candidate_ok]
  constructor
  · rintro ⟨_, ⟨readable, rfl⟩, expected, normal, accepted⟩
    obtain ⟨-, -, -, generation, ⟨t, held, readable', stripped⟩, execution⟩ := identity_ok.mp normal
    have failed := ofFailed_accepted.mp (Except.ok.inj accepted)
    unfold GenerationFence.failures at failed
    simp only [List.append_eq_nil_iff, mismatch_nil] at failed
    obtain ⟨⟨⟨-, generations⟩, tokens⟩, -⟩ := failed
    refine ⟨⟨t, held, readable', ?_⟩, readable, ?_, executionId_ok.mp ⟨_, execution⟩⟩
    · rw [← stripped, ← tokens, normalizedIdentity]
    · rw [generation.1, ← generations, normalizedIdentity]
  · rintro ⟨⟨t, held, readable, stripped⟩, ownToken, generation, execution⟩
    obtain ⟨x, execution⟩ := executionId_ok.mpr execution
    have normal : GenerationFence.identity current "current" =
        .ok { normalizedIdentity e.executionIdentity with executionId := x } :=
      identity_ok.mpr ⟨⟨_, same.runId, sound.runId, rfl⟩, ⟨_, same.nodeId, sound.nodeId, rfl⟩,
        ⟨_, same.attemptId, attemptId, rfl⟩, ⟨generation, Int.natCast_nonneg _⟩,
        ⟨t, held, readable, stripped.symm⟩, execution⟩
    refine ⟨_, ⟨ownToken, rfl⟩, _, normal, congrArg Except.ok (ofFailed_accepted.mpr ?_)⟩
    simp [GenerationFence.failures, mismatch, normalizedIdentity]

/-! ## The lease fence -/

section Lease
variable [Timestamps]

omit [Timestamps] in
theorem leaseText_ok {s field t : String} :
    LeaseBinding.text (.text s) field = .ok t ↔ Readable s ∧ t = strip s := by
  rw [LeaseBinding.text, textValue_ok]
  simp only [IdentityValue.text.injEq, exists_eq_left']

theorem instant_ok {value field : String} {moment : Int} :
    LeaseBinding.instant value field = .ok moment ↔
      Readable value ∧ Timestamps.fromisoformat (strip value) = .aware moment := by
  unfold LeaseBinding.instant
  by_cases read : Readable value
  · rw [leaseText_ok.mpr ⟨read, rfl⟩]
    dsimp only
    cases Timestamps.fromisoformat (strip value) <;> simp [read]
  · cases stripped : LeaseBinding.text (.text value) field with
    | error e => exact iff_of_false (fun made => nomatch made) fun both => read both.1
    | ok t => exact absurd (leaseText_ok.mp stripped).1 read

/-- The attempt is the one the lease was granted for, text by text. The bind
compares the attempt's stripped texts and the identity's own, so an attempt id and
a token with blanks around them bind to no lease. -/
structure Bound (e : V2MailboxEnvelope) (lease : WorkLease) : Prop where
  runId : e.executionIdentity.runId = lease.runId
  nodeId : e.executionIdentity.nodeId = lease.nodeId
  attemptId : e.attempt.attemptId = lease.attemptId
  attemptTrimmed : strip e.attempt.attemptId = e.attempt.attemptId
  token : e.attempt.fencingToken = lease.fencingToken
  tokenTrimmed : strip e.attempt.fencingToken = e.attempt.fencingToken
  tokenReadable : Readable e.attempt.fencingToken
  holder : strip e.attempt.agentInstance = lease.holder
  expiry : strip e.attempt.leaseExpiresAt = lease.expiresAt
  expiryReadable : Readable e.attempt.leaseExpiresAt
  generation : ∀ held ∈ lease.leaseGeneration, e.attempt.leaseGeneration = held

omit [Timestamps] in
theorem attemptTexts_ok {a : Attempt} {t : LeaseBinding.AttemptTexts} :
    LeaseBinding.attemptTexts a = .ok t ↔
      (Readable a.attemptId ∧ Readable a.fencingToken ∧ Readable a.agentInstance ∧
        Readable a.leaseExpiresAt) ∧
      t = ⟨strip a.attemptId, strip a.fencingToken, strip a.agentInstance,
        strip a.leaseExpiresAt⟩ := by
  unfold LeaseBinding.attemptTexts
  simp only [bind_ok, leaseText_ok]
  constructor
  · rintro ⟨_, ⟨attempt, rfl⟩, _, ⟨token, rfl⟩, _, ⟨agent, rfl⟩, _, ⟨expiry, rfl⟩, made⟩
    exact ⟨⟨attempt, token, agent, expiry⟩, (Except.ok.inj made).symm⟩
  · rintro ⟨⟨attempt, token, agent, expiry⟩, rfl⟩
    exact ⟨_, ⟨attempt, rfl⟩, _, ⟨token, rfl⟩, _, ⟨agent, rfl⟩, _, ⟨expiry, rfl⟩, rfl⟩

omit [Timestamps] in
theorem bind_iff {e : V2MailboxEnvelope} {lease : WorkLease} :
    (∃ binding, LeaseBinding.bindAttemptToWorkLease e lease = .ok binding) ↔ Bound e lease := by
  have sound := soundIdentity e
  unfold LeaseBinding.bindAttemptToWorkLease
  simp only [bind_ok, ensure_ok, attemptTexts_ok]
  constructor
  · rintro ⟨_, _, ⟨⟨-, token, -, expiry⟩, rfl⟩, _, failed, -⟩
    unfold LeaseBinding.mismatches at failed
    simp only [List.append_eq_nil_iff, mismatch_nil] at failed
    obtain ⟨⟨⟨⟨⟨⟨⟨⟨⟨attempt, stripped⟩, holder⟩, expires⟩, generation⟩, run⟩, node⟩, attempt'⟩,
      token'⟩, -⟩ := failed
    rw [sound.sameAttempt] at attempt'
    rw [sound.sameToken] at token'
    exact ⟨run, node, attempt', attempt.trans attempt'.symm, token', stripped.trans token'.symm,
      token, holder, expires, expiry, generation⟩
  · intro bound
    refine ⟨_, _, ⟨⟨sound.attemptId, bound.tokenReadable, sound.agentInstance,
      bound.expiryReadable⟩, rfl⟩, (), ?_, rfl⟩
    unfold LeaseBinding.mismatches
    simp only [List.append_eq_nil_iff, mismatch_nil]
    rw [sound.sameAttempt, sound.sameToken, bound.attemptTrimmed, bound.tokenTrimmed]
    exact ⟨⟨⟨⟨⟨⟨⟨⟨⟨bound.attemptId, bound.token⟩, bound.holder⟩, bound.expiry⟩, bound.generation⟩,
      bound.runId⟩, bound.nodeId⟩, bound.attemptId⟩, bound.token⟩, sound.sameGeneration⟩

/-- The lease is ACTIVE and not past its expiry at the time given. -/
def Current (lease : WorkLease) (now : Option String) : Prop :=
  lease.status = .active ∧ ∃ t ∈ now, Readable t ∧ ∃ expires moment,
    Timestamps.fromisoformat (strip lease.expiresAt) = .aware expires ∧
    Timestamps.fromisoformat (strip t) = .aware moment ∧ moment ≤ expires

theorem fenceAt_accepted {lease : WorkLease} {binding : AttemptLeaseBinding} {now : Option String}
    (readable : Readable lease.expiresAt) :
    LeaseBinding.fenceAt lease binding now = .ok (.accepted binding) ↔ Current lease now := by
  unfold LeaseBinding.fenceAt Current
  by_cases status : lease.status = .active
  · rw [if_neg (not_not_intro status)]
    cases now with
    | none => simp
    | some t =>
      simp only [bind_ok, instant_ok, readable, status, Option.mem_def, Option.some.injEq, true_and,
        exists_eq_left']
      constructor
      · rintro ⟨expires, parsed, moment, ⟨read, now⟩, made⟩
        refine ⟨read, expires, moment, parsed, now, ?_⟩
        by_contra late
        rw [if_pos (not_le.mp late)] at made
        cases made
      · rintro ⟨read, expires, moment, parsed, now, early⟩
        refine ⟨expires, parsed, moment, ⟨read, now⟩, ?_⟩
        rw [if_neg (not_lt.mpr early)]
        rfl
  · rw [if_pos status]
    exact iff_of_false (fun made => by cases made) fun both => status both.1

theorem fenceAt_binding {lease : WorkLease} {binding other : AttemptLeaseBinding}
    {now : Option String}
    (accepted : LeaseBinding.fenceAt lease binding now = .ok (.accepted other)) :
    other = binding := by
  unfold LeaseBinding.fenceAt at accepted
  split at accepted
  · cases accepted
  · cases now with
    | none => cases accepted
    | some t =>
      obtain ⟨expires, -, later⟩ := bind_ok.mp accepted
      obtain ⟨moment, -, made⟩ := bind_ok.mp later
      by_cases late : expires < moment
      · rw [if_pos late] at made
        cases made
      · rw [if_neg late] at made
        cases made
        rfl

/-- What the lease fence asks where the caller passes a lease. -/
def Held (e : V2MailboxEnvelope) (active : ObservedLease) (now : Option String) : Prop :=
  ∃ lease, active = .lease lease ∧ Bound e lease ∧ Current lease now

/-- The lease fence accepts exactly the attempt of an ACTIVE, unexpired lease. -/
theorem fence_accepted [Sha256] {e : V2MailboxEnvelope} {active : ObservedLease}
    {now : Option String} :
    (∃ decision, LeaseBinding.evaluateResultFence e active now = .ok decision ∧
      ∃ binding, decision.fence = .accepted binding) ↔ Held e active now := by
  have fence : (∃ decision, LeaseBinding.evaluateResultFence e active now = .ok decision ∧
      ∃ binding, decision.fence = .accepted binding) ↔
      ∃ binding, LeaseBinding.fenceOf e active now = .ok (.accepted binding) := by
    unfold LeaseBinding.evaluateResultFence
    simp only [bind_ok]
    constructor
    · rintro ⟨decision, ⟨_, found, made⟩, binding, accepted⟩
      obtain rfl := Except.ok.inj made
      cases accepted
      exact ⟨binding, found⟩
    · rintro ⟨binding, found⟩
      exact ⟨_, ⟨_, found, rfl⟩, binding, rfl⟩
  have unbound_stale (failure : LeaseBindingError) (binding : AttemptLeaseBinding) :
      LeaseBinding.unbound failure ≠ .accepted binding := by
    unfold LeaseBinding.unbound
    cases failure.failedChecks <;> simp
  rw [fence]
  cases active with
  | absent => simp [LeaseBinding.fenceOf, Held]
  | notALease =>
    refine iff_of_false ?_ ?_
    · rintro ⟨binding, accepted⟩
      exact unbound_stale _ binding (Except.ok.inj accepted)
    · rintro ⟨_, kind, _⟩
      cases kind
  | lease lease =>
    simp only [Held, ObservedLease.lease.injEq, exists_eq_left', LeaseBinding.fenceOf]
    cases bound : LeaseBinding.bindAttemptToWorkLease e lease with
    | error failure =>
      refine iff_of_false ?_ fun both => ?_
      · rintro ⟨binding, accepted⟩
        exact unbound_stale _ binding (Except.ok.inj accepted)
      · obtain ⟨binding, found⟩ := bind_iff.mpr both.1
        cases bound.symm.trans found
    | ok binding =>
      have attempt : Bound e lease := bind_iff.mp ⟨binding, bound⟩
      have readable : Readable lease.expiresAt := by
        rw [← attempt.expiry]
        exact readable_strip attempt.expiryReadable
      dsimp only
      constructor
      · rintro ⟨other, accepted⟩
        obtain rfl := fenceAt_binding accepted
        exact ⟨attempt, (fenceAt_accepted readable).mp accepted⟩
      · rintro ⟨-, current⟩
        exact ⟨binding, (fenceAt_accepted readable).mpr current⟩

end Lease

/-! ## The write predicate -/

theorem text_equals {s : String} {c : IdentityValue} :
    (IdentityValue.text s).equals c = true ↔ c = .text s := by
  cases c with
  | text t =>
    rw [IdentityValue.equals, beq_iff_eq, IdentityValue.text.injEq]
    exact eq_comm
  | _ => exact iff_of_false (fun same => nomatch same) fun same => nomatch same

theorem int_equals {n : Int} {c : IdentityValue} :
    (IdentityValue.int n).equals c = true ↔ c.number = some n := by
  have compared : (IdentityValue.int n).equals c = (some n == c.number) := by
    cases c <;> rfl
  rw [compared, beq_iff_eq]
  exact eq_comm

theorem sameField_text {actual current : Dict String IdentityValue} {field s : String}
    (own : actual.get? field = some (.text s)) :
    sameField actual current field ↔ current.get? field = some (.text s) := by
  simp only [sameField, own, Option.mem_def, Option.some.injEq, exists_eq_left', text_equals]
  constructor
  · rintro ⟨_, held, rfl⟩
    exact held
  · exact fun held => ⟨_, held, rfl⟩

theorem requiredChecks_nil {e : V2MailboxEnvelope} {current : Dict String IdentityValue} :
    requiredCurrentFields.filter
        (fun field => ¬ sameField (identityValues e.executionIdentity) current field) = [] ↔
      SameFields e current := by
  have generation : sameField (identityValues e.executionIdentity) current "lease_generation" ↔
      ∃ v, current.get? "lease_generation" = some v ∧
        v.number = some (e.executionIdentity.leaseGeneration : Int) := by
    simp only [sameField, identityValues_generation, Option.mem_def, Option.some.injEq,
      exists_eq_left', int_equals]
  simp only [List.filter_eq_nil_iff, decide_eq_true_eq, not_not, requiredCurrentFields,
    List.forall_mem_cons, generation, sameField_text (identityValues_run _),
    sameField_text (identityValues_node _), sameField_text (identityValues_plan _),
    sameField_text (identityValues_attempt _)]
  constructor
  · rintro ⟨run, node, plan, attempt, generation, -⟩
    exact ⟨run, node, plan, attempt, generation⟩
  · rintro ⟨run, node, plan, attempt, generation⟩
    exact ⟨run, node, plan, attempt, generation, by simp⟩

theorem failedChecks_none {e : V2MailboxEnvelope} {current : CurrentState} :
    failedChecks e current = [] ↔ SameFields e current.identity ∧
      e.executionIdentity.contractDigest = current.contractDigest ∧
      e.executionIdentity.sourceDigest = current.sourceDigest ∧ current.cursor < e.seq := by
  simp only [failedChecks, List.append_eq_nil_iff, mismatch_nil, requiredChecks_nil, and_assoc]

theorem missingFields_nil {current : Dict String IdentityValue} :
    missingFields current = [] ↔
      (∀ field ∈ requiredCurrentFields, (current.get? field).isSome) ∧
        (contractOf current).isSome := by
  unfold missingFields
  cases contractOf current <;> simp [List.filter_eq_nil_iff, Option.isSome_iff_ne_none]

theorem validateInputs_ok {w : WriteContext} {c : CurrentState} :
    validateInputs w = .ok c ↔
      w.currentIdentity = some c.identity ∧ missingFields c.identity = [] ∧
      w.expectedSourceDigest = some c.sourceDigest ∧ c.sourceDigest ≠ "" ∧
      w.actorCursor = some c.cursor ∧ -1 ≤ c.cursor ∧
      contractOf c.identity = some (.text c.contractDigest) ∧ c.contractDigest ≠ "" := by
  unfold validateInputs
  cases identity : w.currentIdentity with
  | none => exact iff_of_false (fun made => nomatch made) fun held => nomatch held.1
  | some current =>
    simp only [bind_ok, ensure_ok, Option.some.injEq]
    constructor
    · rintro ⟨_, complete, made⟩
      cases source : w.expectedSourceDigest with
      | none =>
        rw [source] at made
        cases made
      | some digest =>
        rw [source] at made
        obtain ⟨_, named, made⟩ := bind_ok.mp made
        cases cursor : w.actorCursor with
        | none =>
          rw [cursor] at made
          cases made
        | some place =>
          rw [cursor] at made
          obtain ⟨_, durable, made⟩ := bind_ok.mp made
          split at made
          · next contract found =>
            obtain ⟨_, solid, made⟩ := bind_ok.mp made
            cases made
            exact ⟨rfl, complete, rfl, ensure_ok.mp named, rfl, ensure_ok.mp durable, found,
              ensure_ok.mp solid⟩
          · cases made
    · rintro ⟨rfl, complete, source, named, cursor, durable, found, solid⟩
      refine ⟨(), complete, ?_⟩
      rw [source]
      refine bind_ok.mpr ⟨(), ensure_of named _, ?_⟩
      rw [cursor]
      refine bind_ok.mpr ⟨(), ensure_of durable _, ?_⟩
      rw [found]
      exact bind_ok.mpr ⟨(), ensure_of solid _, rfl⟩

/-- The generation fence runs where the current identity carries the token. -/
theorem generationChecks_nil {e : V2MailboxEnvelope} {current : CurrentState}
    (same : SameFields e current.identity) :
    generationChecks e current = .ok [] ↔
      current.identity.get? "fencing_token" = none ∨ Fenced e current.identity := by
  unfold generationChecks
  by_cases carried : (current.identity.get? "fencing_token").isNone
  · rw [if_pos carried]
    exact iff_of_true rfl (.inl (Option.isNone_iff_eq_none.mp carried))
  · rw [if_neg carried, ← evaluate_accepted same]
    have held : current.identity.get? "fencing_token" ≠ none :=
      fun none => carried (Option.isNone_iff_eq_none.mpr none)
    cases GenerationFence.evaluate (identityValues e.executionIdentity) current.identity with
    | error failure => simp [held]
    | ok disposition => simp [held, failedChecks_nil]

section Write
variable [Sha256] [Timestamps]

theorem leaseChecks_accepted {e : V2MailboxEnvelope} {active : Option ObservedLease}
    {now : Option String} :
    leaseChecks e active now = .ok .accepted ↔ ∀ lease ∈ active, Held e lease now := by
  unfold leaseChecks
  cases active with
  | none => simp
  | some active =>
    simp only [Option.mem_def, Option.some.injEq, forall_eq', ← fence_accepted]
    cases LeaseBinding.evaluateResultFence e active now with
    | error failure => cases failure <;> simp
    | ok decision =>
      obtain ⟨digest, fence⟩ := decision
      cases fence <;> simp

/-- What a write that advances the state is, field by field. -/
structure Advances (e : V2MailboxEnvelope) (w : WriteContext) (identity : Dict String IdentityValue)
    (cursor : Int) : Prop where
  kind : canonicalWriteKind w.writeKind = .ok e.messageType
  given : w.currentIdentity = some identity
  fields : SameFields e identity
  contract : contractOf identity = some (.text e.executionIdentity.contractDigest)
  source : w.expectedSourceDigest = some e.executionIdentity.sourceDigest
  position : w.actorCursor = some cursor
  durable : -1 ≤ cursor
  newer : cursor < e.seq
  generation : identity.get? "fencing_token" = none ∨ Fenced e identity
  lease : ∀ active ∈ w.activeLease, Held e active w.leaseNow

/-- The predicate accepts the write. -/
def Accepts (input : EnvelopeInput) (w : WriteContext) : Prop :=
  ∃ d, validateStateAdvancingWrite input w = .ok d ∧ d.disposition = .accepted

theorem accepts_iff {input : EnvelopeInput} {w : WriteContext} :
    Accepts input w ↔ ∃ e identity cursor,
      coerceEnvelope input = .ok e ∧ Advances e w identity cursor := by
  unfold Accepts validateStateAdvancingWrite
  simp only [bind_ok, ensure_ok]
  constructor
  · rintro ⟨d, ⟨kind, named, e, made, _, typed, current, inputs, fenced, generation, decided⟩,
      accepted⟩
    cases checks : mergeChecks (failedChecks e current) fenced with
    | cons first rest =>
      rw [checks] at decided
      cases decided
      cases accepted
    | nil =>
      rw [checks] at decided
      obtain ⟨disposition, lease, decided⟩ := bind_ok.mp decided
      cases decided
      obtain rfl : disposition = .accepted := accepted
      obtain ⟨none, rfl⟩ := mergeChecks_nil.mp checks
      obtain ⟨same, contract, source, newer⟩ := failedChecks_none.mp none
      obtain ⟨identity, -, expected, -, cursor, durable, found, -⟩ := validateInputs_ok.mp inputs
      refine ⟨e, current.identity, current.cursor, made, typed ▸ named, identity, same,
        contract ▸ found, source ▸ expected, cursor, durable, newer,
        (generationChecks_nil same).mp generation, leaseChecks_accepted.mp lease⟩
  · rintro ⟨e, identity, cursor, made, advances⟩
    have sound := soundIdentity e
    have complete : missingFields identity = [] := by
      refine missingFields_nil.mpr ⟨?_, by rw [advances.contract]; rfl⟩
      obtain ⟨run, node, plan, attempt, _, generation, -⟩ := advances.fields
      simp [requiredCurrentFields, run, node, plan, attempt, generation]
    have inputs : validateInputs w = .ok ⟨identity, e.executionIdentity.sourceDigest, cursor,
        e.executionIdentity.contractDigest⟩ :=
      validateInputs_ok.mpr ⟨advances.given, complete, advances.source, sound.source,
        advances.position, advances.durable, advances.contract, sound.contract⟩
    have generation : generationChecks e ⟨identity, e.executionIdentity.sourceDigest, cursor,
        e.executionIdentity.contractDigest⟩ = .ok [] :=
      (generationChecks_nil advances.fields).mpr advances.generation
    refine ⟨⟨e.messageType, .accepted, e.digest⟩, ⟨_, advances.kind, e, made, (), rfl, _, inputs,
      [], generation, ?_⟩, rfl⟩
    rw [mergeChecks_nil.mpr ⟨failedChecks_none.mpr ⟨advances.fields, rfl, rfl, advances.newer⟩, rfl⟩]
    exact bind_ok.mpr ⟨_, leaseChecks_accepted.mpr advances.lease, rfl⟩

/-- A write is accepted exactly where its fields are the current ones and each
fence that applies accepts it, and each fence accepts exactly what the
description of the write asks of it. -/
theorem write_accepted :
    (∀ (e : V2MailboxEnvelope) (current : Dict String IdentityValue), SameFields e current →
      (GenerationFence.evaluate (identityValues e.executionIdentity) current = .ok .accepted ↔
        Fenced e current)) ∧
    (∀ (e : V2MailboxEnvelope) (active : ObservedLease) (now : Option String),
      (∃ decision, LeaseBinding.evaluateResultFence e active now = .ok decision ∧
        ∃ binding, decision.fence = .accepted binding) ↔ Held e active now) ∧
    ∀ (input : EnvelopeInput) (w : WriteContext),
      Accepts input w ↔ ∃ e identity cursor,
        coerceEnvelope input = .ok e ∧ Advances e w identity cursor :=
  ⟨fun _ _ same => evaluate_accepted same, fun _ _ _ => fence_accepted, fun _ _ => accepts_iff⟩

end Write

/-! ## Two writes of a child -/

def childSample : Sample where
  messageId := "message"
  seq := 3
  direction := .executorToController
  messageType := .childResult
  payload := []
  result := some (.obj [("status", .str "SUCCEEDED"), ("boundary_digest", .str zeroDigest.value),
    ("result_digest", .str zeroDigest.value), ("artifact_refs", .arr []), ("findings", .arr [])])
  idempotencyKey := "key"

theorem childSample_accepted : childSample.fields.problem = none := by
  refine Sample.accepted (by decide) (by decide) ?_ fun _ => rfl
  simp only [childSample, MessageType.carriesResult, if_true, Option.any_some, isResult, isRecord,
    List.all_cons, List.all_nil, Json.member_cons]
  simp [isText, isDigestText_value, isTextArray, isFindings]

def childEnvelope : V2MailboxEnvelope := childSample.envelope childSample_accepted

/-- The current identity of the child's attempt; its execution is the second. -/
def attemptIdentity : Dict String IdentityValue where
  entries := [("run_id", .text "run"), ("node_id", .text "node"), ("plan_version", .text "v1"),
    ("attempt_id", .text "attempt"), ("lease_generation", .int 1),
    ("contract_digest", .text zeroDigest.value), ("fencing_token", .text "token"),
    ("execution_id", .text "execution-2")]

def childWrite (lease : Option ObservedLease) : WriteContext where
  currentIdentity := some attemptIdentity
  expectedSourceDigest := some zeroDigest.value
  actorCursor := some 2
  writeKind := some "child"
  activeLease := lease
  leaseNow := some "2026-01-01T00:00:00Z"

/-- A lease of the attempt, granted for the first execution. -/
def firstLease : WorkLease where
  leaseId := ⟨"lease", by decide⟩
  runId := ⟨"run", by decide⟩
  nodeId := ⟨"node", by decide⟩
  executionId := ⟨"execution-1", by decide⟩
  attemptId := ⟨"attempt", by decide⟩
  holder := ⟨"executor", by decide⟩
  fencingToken := "token"
  grantedAt := "2026-01-01T00:00:00Z"
  expiresAt := "2026-01-02T00:00:00Z"
  leaseGeneration := some 1

@[reducible] def writeHash : Sha256 := ⟨fun _ => 0⟩

@[reducible] def writeTimes : Timestamps where
  fromisoformat text :=
    if text = "2026-01-01T00:00:00Z" then .aware 0
    else if text = "2026-01-02T00:00:00Z" then .aware 86400
    else .unparseable

theorem child_sameFields : SameFields childEnvelope attemptIdentity :=
  ⟨rfl, rfl, rfl, rfl, _, rfl, rfl⟩

theorem child_fenced : Fenced childEnvelope attemptIdentity where
  token := ⟨"token", rfl, by decide, rfl⟩
  ownToken := by decide
  generation := rfl
  execution := .inr ⟨"execution-2", rfl, by decide⟩

theorem child_bound : Bound childEnvelope firstLease where
  runId := rfl
  nodeId := rfl
  attemptId := rfl
  attemptTrimmed := by decide
  token := rfl
  tokenTrimmed := by decide
  tokenReadable := by decide
  holder := by decide
  expiry := by decide
  expiryReadable := by decide
  generation := by decide

theorem child_held :
    @Held writeTimes childEnvelope (.lease firstLease) (some "2026-01-01T00:00:00Z") := by
  let _ := writeTimes
  exact ⟨firstLease, rfl, child_bound, rfl, _, rfl, by decide, 86400, 0, by decide, by decide,
    by decide⟩

theorem child_advances {lease : Option ObservedLease}
    (held : ∀ active ∈ lease,
      @Held writeTimes childEnvelope active (some "2026-01-01T00:00:00Z")) :
    @Advances writeTimes childEnvelope (childWrite lease) attemptIdentity 2 :=
  let _ := writeTimes
  ⟨rfl, rfl, child_sameFields, rfl, rfl, rfl, by decide, by decide, .inr child_fenced, held⟩

theorem child_accepted {lease : Option ObservedLease}
    (held : ∀ active ∈ lease,
      @Held writeTimes childEnvelope active (some "2026-01-01T00:00:00Z")) :
    @Accepts writeHash writeTimes (.envelope childEnvelope) (childWrite lease) :=
  (@accepts_iff writeHash writeTimes _ _).mpr ⟨_, _, _, rfl, child_advances held⟩

theorem write_accepted_child :
    @Accepts writeHash writeTimes (.envelope childEnvelope) (childWrite (some (.lease firstLease))) ∧
      GenerationFence.evaluate (identityValues childEnvelope.executionIdentity) attemptIdentity =
        .ok .accepted := by
  obtain ⟨fenced, -, accepted⟩ := @write_accepted writeHash writeTimes
  refine ⟨(accepted _ _).mpr ⟨childEnvelope, attemptIdentity, 2, rfl, child_advances ?_⟩,
    (fenced _ _ child_sameFields).mpr child_fenced⟩
  rintro _ ⟨⟩
  exact child_held

/-- A write that passes no lease is accepted without one, and a lease of another
execution than the current one accepts too. -/
theorem write_unleased :
    (¬ ∀ [Sha256] [Timestamps] (input : EnvelopeInput) (w : WriteContext),
      Accepts input w → ∃ lease, w.activeLease = some (.lease lease) ∧ lease.status = .active) ∧
    ¬ ∀ [Sha256] [Timestamps] (input : EnvelopeInput) (w : WriteContext)
        (identity : Dict String IdentityValue) (lease : WorkLease) (execution : String),
      Accepts input w → w.currentIdentity = some identity →
      w.activeLease = some (.lease lease) →
      identity.get? "execution_id" = some (.text execution) → execution = lease.executionId := by
  constructor
  · intro leased
    obtain ⟨_, given, -⟩ := @leased writeHash writeTimes (.envelope childEnvelope) (childWrite none)
      (child_accepted nofun)
    cases given
  · intro bound
    have accepted : @Accepts writeHash writeTimes (.envelope childEnvelope)
        (childWrite (some (.lease firstLease))) := by
      refine child_accepted ?_
      rintro _ ⟨⟩
      exact child_held
    exact absurd (@bound writeHash writeTimes _ _ _ _ _ accepted rfl rfl rfl) (by decide)

end DwSuperApps.Guarantees.StateAdvancing
