import DwSuperApps.Source.RequestCompiler

/-!
# Chains of retries

What a chain of retries keeps, what it moves forward, and which of its requests compile.
Each retry is held against its predecessor alone, and the request it returns is not
compiled before the next retry: `next_compiles_iff` says when it would compile.
-/
namespace DwSuperApps.Guarantees.RetryChains

open DwSuperApps.Lib DwSuperApps.Lib.Checked
open DwSuperApps.Source.Envelope DwSuperApps.Source.RequestCompiler

section Chains
variable [Sha256] [Equality]

def Compiles (r : BoundedMailboxRequest) : Prop := ∃ e, compileBoundedMailboxRequest r = .ok e

/-! ## The compiler read backwards -/

/-- What the compiler needs beside the parts it prepares. -/
structure Compiled (r : BoundedMailboxRequest) (p : Prepared) (payload : Members) (k : Kept) : Prop where
  prepared : prepare r = .ok p
  strings : ∀ field ∈ stringFields r, strip field.1 ≠ ""
  numbers : 0 ≤ r.seq ∧ 1 ≤ r.attemptNumber ∧ 0 ≤ r.leaseGeneration
  requested : requestPayload r p = .ok payload
  canonical : canonicalMembers payload = true ∧ canonicalMembers p.standards.members = true ∧
    p.sources.all (fun s => canonicalMembers s.members) = true
  kept : keptParts r p payload = some k
  accepted : (candidate r k).problem = none

omit [Sha256] [Equality] in
theorem checkNumbers_ok {r : BoundedMailboxRequest} :
    checkNumbers r = .ok () ↔ 0 ≤ r.seq ∧ 1 ≤ r.attemptNumber ∧ 0 ≤ r.leaseGeneration := by
  unfold checkNumbers
  simp only [bind_ok, ensure_ok, Unique.exists_iff]

omit [Sha256] [Equality] in
theorem strings_ok {r : BoundedMailboxRequest} :
    checkAll (fun field => string field.1 field.2) (stringFields r) = .ok () ↔
      ∀ field ∈ stringFields r, strip field.1 ≠ "" := by
  rw [checkAll_ok]
  simp only [string, ensure_ok]

theorem compile_ok {r : BoundedMailboxRequest} {e : V2MailboxEnvelope} :
    compileBoundedMailboxRequest r = .ok e ↔
      ∃ p payload k, Compiled r p payload k ∧ e.toEnvelopeFields = candidate r k := by
  unfold compileBoundedMailboxRequest
  constructor
  · intro compiled
    obtain ⟨p, prepared, compiled⟩ := bind_ok.mp compiled
    obtain ⟨_, strings, compiled⟩ := bind_ok.mp compiled
    obtain ⟨_, numbers, compiled⟩ := bind_ok.mp compiled
    obtain ⟨payload, requested, compiled⟩ := bind_ok.mp compiled
    obtain ⟨_, canonical, compiled⟩ := bind_ok.mp compiled
    cases kept : keptParts r p payload with
    | none =>
      rw [kept] at compiled
      cases compiled
    | some k =>
      rw [kept] at compiled
      dsimp only at compiled
      unfold V2MailboxEnvelope.fromFields at compiled
      split at compiled
      · cases compiled
      · next accepted =>
        cases compiled
        exact ⟨p, payload, k, ⟨prepared, strings_ok.mp strings, checkNumbers_ok.mp numbers, requested,
          ensure_ok.mp canonical, kept, accepted⟩, rfl⟩
  · rintro ⟨p, payload, k, ⟨prepared, strings, numbers, requested, canonical, kept, accepted⟩, same⟩
    obtain ⟨fields, accepted'⟩ := e
    cases same
    refine bind_ok.mpr ⟨p, prepared, ?_⟩
    refine bind_ok.mpr ⟨(), strings_ok.mpr strings, bind_ok.mpr ⟨(), checkNumbers_ok.mpr numbers, ?_⟩⟩
    refine bind_ok.mpr ⟨payload, requested, bind_ok.mpr ⟨(), ensure_of canonical _, ?_⟩⟩
    rw [kept]
    dsimp only
    unfold V2MailboxEnvelope.fromFields
    split
    · next failure found =>
      rw [accepted] at found
      cases found
    · rfl

theorem compiles_iff {r : BoundedMailboxRequest} :
    Compiles r ↔ ∃ p payload k, Compiled r p payload k := by
  constructor
  · rintro ⟨e, compiled⟩
    obtain ⟨p, payload, k, checked, -⟩ := compile_ok.mp compiled
    exact ⟨p, payload, k, checked⟩
  · rintro ⟨p, payload, k, checked⟩
    exact ⟨⟨candidate r k, checked.accepted⟩, compile_ok.mpr ⟨p, payload, k, checked, rfl⟩⟩

/-! ## What a retry changes -/

omit [Sha256] [Equality] in
theorem newText_ok {value field previous : String} :
    newText value field previous = .ok () ↔
      (strip value ≠ "" ∧ '\x00' ∉ value.toList) ∧ value ≠ previous := by
  unfold newText text
  simp only [bind_ok, ensure_ok, Unique.exists_iff]

/-- What a retry that succeeded has checked. -/
structure Checked (previous : BoundedMailboxRequest) (given : Attempted) : Prop where
  compiles : Compiles previous
  messageId : strip given.messageId ≠ "" ∧ given.messageId ≠ previous.messageId
  attemptId : strip given.attemptId ≠ "" ∧ given.attemptId ≠ previous.attemptId
  fencingToken : strip given.fencingToken ≠ "" ∧ given.fencingToken ≠ previous.fencingToken
  idempotencyKey : strip given.idempotencyKey ≠ "" ∧ given.idempotencyKey ≠ previous.idempotencyKey
  leaseExpiresAt : strip given.leaseExpiresAt ≠ ""
  seq : 0 ≤ given.seq ∧ previous.seq < given.seq
  leaseGeneration : 0 ≤ given.leaseGeneration ∧ previous.leaseGeneration < given.leaseGeneration
  correlationId : ∀ correlationId ∈ given.correlationId, strip correlationId ≠ ""

theorem retry_ok {previous next : BoundedMailboxRequest} {given : Attempted}
    (retried : retryBoundedMailboxRequest previous given = .ok next) :
    Checked previous given ∧ next = nextAttempt previous given := by
  unfold retryBoundedMailboxRequest at retried
  obtain ⟨e, compiled, retried⟩ := bind_ok.mp retried
  obtain ⟨_, messageId, retried⟩ := bind_ok.mp retried
  obtain ⟨_, attemptId, retried⟩ := bind_ok.mp retried
  obtain ⟨_, fencingToken, retried⟩ := bind_ok.mp retried
  obtain ⟨_, idempotencyKey, retried⟩ := bind_ok.mp retried
  obtain ⟨_, expiry, retried⟩ := bind_ok.mp retried
  obtain ⟨_, seq, retried⟩ := bind_ok.mp retried
  obtain ⟨_, newer, retried⟩ := bind_ok.mp retried
  obtain ⟨_, generation, retried⟩ := bind_ok.mp retried
  obtain ⟨_, later, retried⟩ := bind_ok.mp retried
  obtain ⟨_, correlation, retried⟩ := bind_ok.mp retried
  cases retried
  have new := @newText_ok
  refine ⟨⟨⟨e, compiled⟩, ?_, ?_, ?_, ?_, (ensure_ok.mp expiry).1, ⟨ensure_ok.mp seq, ensure_ok.mp newer⟩,
    ⟨ensure_ok.mp generation, ensure_ok.mp later⟩, ?_⟩, rfl⟩
  · exact ⟨(new.mp messageId).1.1, (new.mp messageId).2⟩
  · exact ⟨(new.mp attemptId).1.1, (new.mp attemptId).2⟩
  · exact ⟨(new.mp fencingToken).1.1, (new.mp fencingToken).2⟩
  · exact ⟨(new.mp idempotencyKey).1.1, (new.mp idempotencyKey).2⟩
  · intro correlationId member
    rw [Option.mem_def.mp member] at correlation
    exact (ensure_ok.mp correlation).1

/-- A request without what belongs to one attempt of it. -/
def binding (r : BoundedMailboxRequest) : BoundedMailboxRequest :=
  { r with
    messageId := "", seq := 0, correlationId := "", attemptId := "", attemptNumber := 0
    leaseGeneration := 0, fencingToken := "", leaseExpiresAt := "", idempotencyKey := "" }

/-- The order of the attempts of one request. -/
def Before (a b : BoundedMailboxRequest) : Prop :=
  a.seq < b.seq ∧ a.leaseGeneration < b.leaseGeneration ∧ a.attemptNumber < b.attemptNumber

/-- Identities that are not those of the attempt before. -/
def Fresh (a b : BoundedMailboxRequest) : Prop :=
  b.messageId ≠ a.messageId ∧ b.attemptId ≠ a.attemptId ∧ b.fencingToken ≠ a.fencingToken ∧
    b.idempotencyKey ≠ a.idempotencyKey

def Retried (a b : BoundedMailboxRequest) : Prop :=
  ∃ given, retryBoundedMailboxRequest a given = .ok b

theorem retried_step {a b : BoundedMailboxRequest} (retried : Retried a b) :
    Compiles a ∧ binding b = binding a ∧ Before a b ∧ Fresh a b := by
  obtain ⟨given, made⟩ := retried
  obtain ⟨checked, rfl⟩ := retry_ok made
  refine ⟨checked.compiles, rfl, ⟨checked.seq.2, checked.leaseGeneration.2, ?_⟩, checked.messageId.2,
    checked.attemptId.2, checked.fencingToken.2, checked.idempotencyKey.2⟩
  exact Int.lt_succ a.attemptNumber

/-! ## The last request -/

/-- The schema's conditions on the texts a retry is given. -/
structure OwnTexts (r : BoundedMailboxRequest) : Prop where
  messageId : isId r.messageId = true
  correlationId : isId r.correlationId = true
  attemptId : isId r.attemptId = true
  fencingToken : isNonEmpty r.fencingToken = true
  leaseExpiresAt : isNonEmpty r.leaseExpiresAt = true
  idempotencyKey : isId r.idempotencyKey = true

omit [Sha256] [Equality] in
/-- The bindings of a candidate are consistent by how it is put together. -/
theorem candidate_problem {r : BoundedMailboxRequest} {p : Prepared} {payload : Members} {k : Kept}
    (kept : keptParts r p payload = some k) :
    (candidate r k).problem = none ↔ (candidate r k).conforms = true := by
  have consistent : k.sourceManifest.manifestVersion = sourceManifestVersion ∧
      (candidate r k).inconsistency = none := by
    unfold keptParts at kept
    simp only [Option.bind_eq_bind, Option.bind_eq_some_iff] at kept
    obtain ⟨scope, -, sources, -, profile, -, made⟩ := kept
    cases made
    exact ⟨rfl, by simp [candidate, EnvelopeFields.inconsistency]⟩
  unfold EnvelopeFields.problem
  rw [guard_none, guard_none, consistent.2, not_not, not_not]
  constructor
  · exact fun passed => passed.1
  · exact fun conforms => ⟨conforms, consistent.1, rfl⟩

/-- The schema's conditions on what a retry keeps. -/
def keptConforms (r : BoundedMailboxRequest) (k : Kept) : Bool :=
  isId r.runId && isId r.nodeId && isId r.producerNamespace && isId r.producerActorId &&
    isNonEmpty r.recipientCapability && isId r.agentInstance && isId r.planVersion &&
    isDigestText r.contractDigest && isDigestText r.boundaryDigest && isDigestText r.sourceDigest &&
    k.logicalContract.conforms && k.sourceManifest.conforms && k.standardsProfile.conforms &&
    k.provenance.conforms

omit [Sha256] [Equality] in
theorem conforms_iff {r : BoundedMailboxRequest} {k : Kept} (counted : 1 ≤ r.attemptNumber) :
    (candidate r k).conforms = true ↔ OwnTexts r ∧ keptConforms r k = true := by
  have number : 1 ≤ r.attemptNumber.toNat := by omega
  simp only [candidate, EnvelopeFields.conforms, Attempt.conforms, ExecutionIdentity.conforms, keptConforms,
    Bool.and_eq_true, decide_eq_true_eq, MessageType.carriesResult, isObjectOrNull, Option.all_some,
    Bool.false_eq_true, if_false, number, and_true, and_assoc]
  constructor
  · rintro ⟨message, run, node, correlation, space, actor, capability, agent, logical, attempt, boundary,
      token, -, expiry, -, -, plan, contract, -, source, -, -, manifest, profile, provenance, key⟩
    exact ⟨⟨message, correlation, attempt, token, expiry, key⟩, run, node, space, actor, capability, agent,
      plan, contract, boundary, source, logical, manifest, profile, provenance⟩
  · rintro ⟨⟨message, correlation, attempt, token, expiry, key⟩, run, node, space, actor, capability, agent,
      plan, contract, boundary, source, logical, manifest, profile, provenance⟩
    exact ⟨message, run, node, correlation, space, actor, capability, agent, logical, attempt, boundary,
      token, agent, expiry, run, node, plan, contract, boundary, source, attempt, token, manifest, profile,
      provenance, key⟩

/-- The request of a retry compiles exactly where the texts it was given meet the schema. -/
theorem next_compiles_iff {a b : BoundedMailboxRequest} (retried : Retried a b) :
    Compiles b ↔ OwnTexts b := by
  obtain ⟨given, made⟩ := retried
  obtain ⟨checked, rfl⟩ := retry_ok made
  obtain ⟨p, payload, k, compiled⟩ := compiles_iff.mp checked.compiles
  have counted : 1 ≤ (nextAttempt a given).attemptNumber :=
    le_trans compiled.numbers.2.1 (Int.le_of_lt (Int.lt_succ a.attemptNumber))
  constructor
  · intro compiles
    obtain ⟨p', payload', k', next⟩ := compiles_iff.mp compiles
    exact ((conforms_iff counted).mp ((candidate_problem next.kept).mp next.accepted)).1
  · intro own
    have conforms := (conforms_iff compiled.numbers.2.1).mp
      ((candidate_problem compiled.kept).mp compiled.accepted)
    have keptParts : keptParts (nextAttempt a given) p payload = some k := compiled.kept
    refine compiles_iff.mpr ⟨p, payload, k, compiled.prepared, ?_,
      ⟨checked.seq.1, counted, checked.leaseGeneration.1⟩, compiled.requested, compiled.canonical,
      keptParts, (candidate_problem keptParts).mpr ((conforms_iff counted).mpr ⟨own, conforms.2⟩)⟩
    have before := compiled.strings
    have correlation : strip (nextAttempt a given).correlationId ≠ "" := by
      cases none : given.correlationId with
      | none =>
        have same : (nextAttempt a given).correlationId = a.correlationId := by
          unfold nextAttempt
          rw [none]
          rfl
        rw [same]
        exact before (a.correlationId, "correlation_id") (by simp [stringFields])
      | some text =>
        have same : (nextAttempt a given).correlationId = text := by
          unfold nextAttempt
          rw [none]
          rfl
        rw [same]
        exact checked.correlationId text none
    simp only [stringFields, List.forall_mem_cons] at before ⊢
    obtain ⟨-, run, node, -, contract, plan, digest, boundary, source, manifest, objective, capability,
      agent, -, -, -, -, space, actor, last⟩ := before
    exact ⟨checked.messageId.1, run, node, correlation, contract, plan, digest, boundary, source, manifest,
      objective, capability, agent, checked.attemptId.1, checked.fencingToken.1, checked.leaseExpiresAt,
      checked.idempotencyKey.1, space, actor, last⟩

/-! ## Chains -/

theorem chain_steps {first : BoundedMailboxRequest} {chain : List BoundedMailboxRequest}
    (steps : (first :: chain).IsChain Retried) :
    (∀ r ∈ (first :: chain).dropLast, Compiles r) ∧
      (∀ r ∈ chain, binding r = binding first ∧ Before first r) := by
  induction chain generalizing first with
  | nil => simp
  | cons next rest ih =>
    obtain ⟨step, later⟩ := List.isChain_cons_cons.mp steps
    obtain ⟨compiles, kept, order, -⟩ := retried_step step
    obtain ⟨others, remain⟩ := ih later
    refine ⟨?_, ?_⟩
    · rw [List.dropLast_cons_cons, List.forall_mem_cons]
      exact ⟨compiles, others⟩
    · rw [List.forall_mem_cons]
      refine ⟨⟨kept, order⟩, fun r member => ?_⟩
      obtain ⟨same, after⟩ := remain r member
      exact ⟨same.trans kept, order.1.trans after.1, order.2.1.trans after.2.1, order.2.2.trans after.2.2⟩

theorem chain_order {first : BoundedMailboxRequest} {chain : List BoundedMailboxRequest}
    (steps : (first :: chain).IsChain Retried) : (first :: chain).Pairwise Before := by
  induction chain generalizing first with
  | nil => simp
  | cons next rest ih =>
    refine List.pairwise_cons.mpr ⟨fun r member => ((chain_steps steps).2 r member).2, ?_⟩
    exact ih (List.isChain_cons_cons.mp steps).2

theorem last_retried {first : BoundedMailboxRequest} {chain : List BoundedMailboxRequest}
    (steps : (first :: chain).IsChain Retried) {last : BoundedMailboxRequest}
    (ends : chain.getLast? = some last) : ∃ r, Retried r last := by
  induction chain generalizing first with
  | nil => cases ends
  | cons next rest ih =>
    obtain ⟨step, later⟩ := List.isChain_cons_cons.mp steps
    cases rest with
    | nil =>
      cases ends
      exact ⟨first, step⟩
    | cons other rest =>
      rw [List.getLast?_cons_cons] at ends
      exact ih later ends

/-- Along a chain of retries every request but the last compiles, and the last one where its
own texts meet the schema; contract, scope and payload stay; sequence, generation and
attempt number go up; each attempt's identities are not those of the attempt before. -/
theorem retry_chain (first : BoundedMailboxRequest) (chain : List BoundedMailboxRequest)
    (compiles : Compiles first) (steps : (first :: chain).IsChain Retried) :
    (∀ r ∈ (first :: chain).dropLast, Compiles r) ∧
      (∀ last, (first :: chain).getLast? = some last → (Compiles last ↔ OwnTexts last)) ∧
      (∀ r ∈ chain, binding r = binding first) ∧ (first :: chain).Pairwise Before ∧
      (first :: chain).IsChain Fresh := by
  refine ⟨(chain_steps steps).1, ?_, fun r member => ((chain_steps steps).2 r member).1,
    chain_order steps, steps.imp fun _ _ step => (retried_step step).2.2.2⟩
  intro last ends
  cases chain with
  | nil =>
    cases ends
    refine iff_of_true compiles ?_
    obtain ⟨p, payload, k, compiled⟩ := compiles_iff.mp compiles
    exact ((conforms_iff compiled.numbers.2.1).mp
      ((candidate_problem compiled.kept).mp compiled.accepted)).1
  | cons next rest =>
    rw [List.getLast?_cons_cons] at ends
    obtain ⟨r, retried⟩ := last_retried steps ends
    exact next_compiles_iff retried

/-- A retry with new texts, in the order of time, succeeds. -/
theorem retried_of {r : BoundedMailboxRequest} {given : Attempted} (compiles : Compiles r)
    (new : ∀ t ∈ [(given.messageId, r.messageId), (given.attemptId, r.attemptId),
      (given.fencingToken, r.fencingToken), (given.idempotencyKey, r.idempotencyKey)],
      (strip t.1 ≠ "" ∧ '\x00' ∉ t.1.toList) ∧ t.1 ≠ t.2)
    (expiry : strip given.leaseExpiresAt ≠ "" ∧ '\x00' ∉ given.leaseExpiresAt.toList)
    (seq : 0 ≤ given.seq ∧ r.seq < given.seq)
    (generation : 0 ≤ given.leaseGeneration ∧ r.leaseGeneration < given.leaseGeneration)
    (correlation : given.correlationId = none) : Retried r (nextAttempt r given) := by
  obtain ⟨e, compiled⟩ := compiles
  simp only [List.forall_mem_cons] at new
  obtain ⟨message, attempt, token, key, -⟩ := new
  refine ⟨given, ?_⟩
  unfold retryBoundedMailboxRequest
  rw [compiled, ok_bind, newText_ok.mpr message, ok_bind, newText_ok.mpr attempt, ok_bind,
    newText_ok.mpr token, ok_bind, newText_ok.mpr key, ok_bind, text, ensure_of expiry, ok_bind,
    ensure_of seq.1, ok_bind, ensure_of seq.2, ok_bind, ensure_of generation.1, ok_bind,
    ensure_of generation.2, ok_bind, correlation]
  rfl

end Chains

/-! ## Three attempts -/

/-- Any function will do for requests without an execution boundary. -/
@[reducible] def anySha : Sha256 := ⟨fun _ => 0⟩

/-- `==` of values without numbers that are not integers. -/
@[reducible] def byMembers : Equality := ⟨fun a b => decide (a.sortKeys = b.sortKeys)⟩

def someDigest : String := "sha256:" ++ String.ofList (List.replicate 64 '2')

def request : BoundedMailboxRequest where
  messageId := "m1"
  runId := "r"
  nodeId := "n"
  seq := 10
  correlationId := "c"
  contractId := "t"
  planVersion := "p"
  contractDigest := someDigest
  boundaryDigest := someDigest
  sourceDigest := someDigest
  sourceManifestRef := "s"
  objective := "o"
  scope := .obj [("allowed_actions", .arr [.str "w"]), ("source_roots", .arr [.str "s"]),
    ("max_children", .int 0), ("max_parallel", .int 1), ("max_depth", .int 0)]
  acceptanceCriteria := .arr [.str "a"]
  sourceRefs := .arr [.obj [("repository", .str "o/r"),
    ("commit_sha", .str (String.ofList (List.replicate 40 'a'))), ("path", .str "f"),
    ("blob_digest", .str someDigest)]]
  standardsProfile := .obj [("profile_id", .str "d"), ("version", .str "1"), ("digest", .str someDigest)]
  recipientCapability := "k"
  agentInstance := "h"
  attemptId := "a1"
  attemptNumber := 1
  leaseGeneration := 4
  fencingToken := "f1"
  leaseExpiresAt := "e1"
  idempotencyKey := "i1"

/-- The identities of the attempt with a number. -/
def attempted (seq generation : Int) (mark : String) : Attempted where
  messageId := "m" ++ mark
  seq := seq
  attemptId := "a" ++ mark
  leaseGeneration := generation
  fencingToken := "f" ++ mark
  leaseExpiresAt := "e" ++ mark
  idempotencyKey := "i" ++ mark

def second : BoundedMailboxRequest := nextAttempt request (attempted 11 5 "2")

def third : BoundedMailboxRequest := nextAttempt second (attempted 12 6 "3")

def commit : String := String.ofList (List.replicate 40 'a')

/-- What the compiler prepares of the request. -/
def prepared : Prepared where
  scope := [("allowed_actions", texts ["w"]), ("source_roots", texts ["s"]), ("max_children", .int 0),
    ("max_parallel", .int 1), ("max_depth", .int 0), ("denied_actions", .arr []),
    ("writable_targets", .arr []), ("time_budget_seconds", .null), ("token_budget", .null)]
  authorityRaw := []
  sources := [⟨[("repository", .str "o/r"), ("commit_sha", .str commit), ("path", .str "f"),
    ("blob_digest", .str someDigest)], "o/r", commit, "f", someDigest⟩]
  criteria := ["a"]
  evidenceRefs := []
  environment := []
  standards := ⟨[("profile_id", .str "d"), ("version", .str "1"), ("digest", .str someDigest)], "d", "1",
    someDigest⟩
  standardsRef := "d/v1"

/-- The parts of the envelope a retry of the request keeps, without its payload. -/
def kept : Kept where
  logicalContract := {
    contractId := "t"
    planVersion := "p"
    contractDigest := someDigest
    boundaryDigest := someDigest
    sourceDigest := someDigest
    objective := "o"
    scope := {
      allowedActions := ["w"]
      deniedActions := []
      writableTargets := []
      sourceRoots := ["s"]
      maxChildren := 0
      maxParallel := 1
      maxDepth := 0
      timeBudgetSeconds := some none
      tokenBudget := some none }
    acceptanceCriteria := ["a"]
    standardsProfileRef := "d/v1"
    sourceManifestRef := "s" }
  sourceManifest := ⟨sourceManifestVersion, someDigest, [⟨"o/r", commit, "f", someDigest⟩]⟩
  standardsProfile := ⟨"d", "1", someDigest⟩
  payload := []
  provenance := {
    origin := .controller
    parentMessageId := some none
    childId := some none
    lens := some none
    agentInstance := "h"
    status := .requested
    sourceRefs := prepared.sources.map NormalizedSource.ref
    evidenceRefs := []
    resultDigest := none }

theorem digest_text : isDigestText someDigest = true ∧ strip someDigest ≠ "" := by decide

theorem request_prepared : @prepare anySha byMembers request = .ok prepared := by
  have evaluated : (@prepare anySha byMembers request).toOption = some prepared := by decide
  cases read : @prepare anySha byMembers request with
  | error e =>
    rw [read] at evaluated
    cases evaluated
  | ok p =>
    rw [read] at evaluated
    exact congrArg Except.ok (Option.some.inj evaluated)

theorem request_kept (payload : Members) :
    keptParts request prepared payload = some { kept with payload := payload } := by
  have scope : scopeOf prepared.scope = some kept.logicalContract.scope := by decide
  have sources : prepared.sources.mapM sourceOf = some kept.sourceManifest.sources := by decide
  have profile : profileOf prepared.standards = some kept.standardsProfile := by decide
  unfold keptParts
  rw [scope, Option.bind_eq_bind, Option.bind_some, sources, Option.bind_eq_bind, Option.bind_some, profile]
  rfl

theorem request_conforms : keptConforms request kept = true := by
  simp only [keptConforms, kept, request, digest_text.1, LogicalContract.conforms, SourceManifest.conforms,
    StandardsProfile.conforms, List.all_cons, SourceRef.conforms, List.all_nil, Bool.and_true]
  decide

theorem request_compiles : @Compiles anySha byMembers request := by
  obtain ⟨payload, requested, canonical⟩ : ∃ payload, requestPayload request prepared = .ok payload ∧
      canonicalMembers payload = true := ⟨_, rfl, by decide⟩
  have strings : ∀ field ∈ stringFields request, strip field.1 ≠ "" := by
    simp only [stringFields, request, List.forall_mem_cons]
    refine ⟨?_, ?_, ?_, ?_, ?_, ?_, digest_text.2, digest_text.2, digest_text.2, ?_⟩
    all_goals decide
  have own : OwnTexts request := by
    constructor <;> decide
  have accepted : (candidate request { kept with payload := payload }).problem = none :=
    (candidate_problem (request_kept payload)).mpr ((conforms_iff (by decide)).mpr ⟨own, request_conforms⟩)
  exact (@compiles_iff anySha byMembers request).mpr ⟨prepared, payload, _,
    @Compiled.mk anySha byMembers request prepared payload _ request_prepared strings (by decide) requested
      ⟨canonical, by decide, by decide⟩ (request_kept payload) accepted⟩

theorem second_retried : @Retried anySha byMembers request second :=
  @retried_of anySha byMembers request (attempted 11 5 "2") request_compiles (by decide)
    (by decide) (by decide) (by decide) rfl

theorem second_compiles : @Compiles anySha byMembers second :=
  (@next_compiles_iff anySha byMembers request second second_retried).mpr
    ⟨by decide, by decide, by decide, by decide, by decide,
      by decide⟩

theorem retry_chain_three : @Compiles anySha byMembers second ∧ binding third = binding request := by
  have last := @retried_of anySha byMembers second (attempted 12 6 "3") second_compiles (by decide)
    (by decide) (by decide) (by decide) rfl
  have steps : [request, second, third].IsChain (@Retried anySha byMembers) :=
    .cons_cons second_retried (.cons_cons last (.singleton _))
  obtain ⟨compile, -, keep, -⟩ := @retry_chain anySha byMembers request [second, third] request_compiles steps
  exact ⟨compile second (by simp), keep third (by simp)⟩

/-- An attempt whose identifier the envelope does not take. -/
def spaced : BoundedMailboxRequest := nextAttempt request (attempted 11 5 "2 b")

/-- A third attempt under the identities of the first. -/
def reused : BoundedMailboxRequest := nextAttempt second (attempted 12 6 "1")

/-- The last request of a chain need not compile, and identities of an earlier attempt than
the one before may come back. -/
theorem spaced_and_reused :
    ([request, spaced].IsChain (@Retried anySha byMembers) ∧ ¬ @Compiles anySha byMembers spaced) ∧
      [request, second, reused].IsChain (@Retried anySha byMembers) ∧
      reused.attemptId = request.attemptId ∧ reused.fencingToken = request.fencingToken ∧
      reused.idempotencyKey = request.idempotencyKey := by
  have toSpaced := @retried_of anySha byMembers request (attempted 11 5 "2 b") request_compiles
    (by decide) (by decide) (by decide) (by decide) rfl
  have toReused := @retried_of anySha byMembers second (attempted 12 6 "1") second_compiles
    (by decide) (by decide) (by decide) (by decide) rfl
  refine ⟨⟨.cons_cons toSpaced (.singleton _), ?_⟩, .cons_cons second_retried
    (.cons_cons toReused (.singleton _)), by decide, by decide, by decide⟩
  intro compiles
  have own := ((@next_compiles_iff anySha byMembers request spaced toSpaced).mp compiles).attemptId
  exact absurd own (by decide)

end DwSuperApps.Guarantees.RetryChains
