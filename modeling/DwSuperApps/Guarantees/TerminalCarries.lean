import DwSuperApps.Guarantees.CanonicalResult
import DwSuperApps.Guarantees.TerminalOnce
import DwSuperApps.Source.Acceptance

/-!
# A synthesized result in its terminal envelope

What `build_terminal_parent_result` makes of a synthesized parent result and a valid
message:

* `builds_iff`: it succeeds exactly when the result and the sources of the request are
  within the bounds of the mailbox schema;
* `carries_synthesized`: the terminal result then has the digest of the synthesis, and
  reading its envelope gives back every member of the synthesized result.
-/
namespace DwSuperApps.Guarantees.TerminalCarries

open DwSuperApps.Lib DwSuperApps.Lib.Checked
open DwSuperApps.Source.Envelope DwSuperApps.Source.TerminalResult
open DwSuperApps.Source.Findings DwSuperApps.Source.Synthesis
open DwSuperApps.Guarantees.CanonicalResult
open DwSuperApps.Guarantees.MailboxLog (isDigestText_value)
open DwSuperApps.Source.Acceptance (Solid)

/-! ## Schema values -/

theorem length_le_utf8Bytes (s : String) : s.length ≤ utf8Bytes s := by
  rw [← String.length_toList, utf8Bytes]
  induction s.toList with
  | nil => exact Nat.le_refl 0
  | cons c rest ih =>
    rw [List.length_cons, List.map_cons, List.sum_cons, Nat.add_comm]
    exact Nat.add_le_add c.utf8Size_pos ih

theorem isId_of {s : String} (identifier : isIdentifier s) (bounded : s.length ≤ 128) :
    isId s = true := by
  unfold isIdentifier at identifier
  simp [isId, anchored, identifier, bounded]

theorem isId_ident (i : Ident 128) : isId i.value = true :=
  isId_of i.identifier ((length_le_utf8Bytes i.value).trans i.bounded)

theorem isNonEmpty_text {n : Nat} (t : BoundedText n) (small : n ≤ 4096) : isNonEmpty t.value = true := by
  have bounded := ((length_le_utf8Bytes t.value).trans t.bounded).trans small
  simp [isNonEmpty, t.nonempty, bounded]

/-- `repr` writes a float of the unit interval as the schema reads one. -/
structure UnitFloats [Rendering] : Prop where
  zero : Rendering.float 0 = "0.0"
  unit : ∀ value, 0 ≤ value → value ≤ 1 → isConfidence (.float (Rendering.float value)) = true

section Findings
variable [Rendering]

theorem isConfidence_repr (floats : UnitFloats) (c : Confidence) :
    isConfidence (.float c.repr) = true := by
  unfold Confidence.repr
  cases negative : c.negative with
  | true =>
    rw [if_pos rfl, c.zero negative, floats.zero]
    decide
  | false => exact floats.unit c.value c.nonneg c.le_one

omit [Rendering] in
theorem isText_severity (severity : Severity) :
    isText (· ∈ ["critical", "major", "minor", "info"]) (.str severity.value) = true := by
  cases severity <;> decide

omit [Rendering] in
theorem isText_disposition (disposition : FindingDisposition) :
    isText (· ∈ ["OPEN", "ACCEPTED", "REJECTED", "DEFERRED", "ESCALATED"])
      (.str disposition.value) = true := by
  cases disposition <;> decide

omit [Rendering] in
theorem isText_bounded {n : Nat} (t : BoundedText n) (small : n ≤ 4096) :
    isText isNonEmpty (.str t.value) = true := isNonEmpty_text t small

omit [Rendering] in
theorem isTextArray_refs (f : NormalizedFinding) :
    isTextArray 1 256 isNonEmpty (.arr (f.evidenceRefs.map fun ref => .str ref.value)) = true := by
  have some : 1 ≤ f.evidenceRefs.length := List.length_pos_iff.mpr f.referenced
  have each : ∀ ref ∈ f.evidenceRefs, isText isNonEmpty (.str ref.value) = true :=
    fun ref _ => isText_bounded ref (by decide)
  simp only [isTextArray, List.length_map, some, f.bounded, decide_true, Bool.true_and]
  rw [List.all_map]
  exact List.all_eq_true.mpr each

theorem isFinding_toDict (floats : UnitFloats) (f : NormalizedFinding) : isFinding f.toDict = true := by
  have findingId : isText isId (.str f.findingId.value) = true := isId_ident f.findingId
  have reviewer : isText isId (.str f.reviewer.value) = true := isId_ident f.reviewer
  have severity := isText_severity f.severity
  have disposition := isText_disposition f.disposition
  have category := isText_bounded f.category (by decide)
  have lens := isText_bounded f.lens (by decide)
  have claim := isText_bounded f.claim (by decide)
  have recommendation := isText_bounded f.recommendation (by decide)
  have refs := isTextArray_refs f
  have group (g : BoundedText 128) : isConflictGroup (.str g.value) = true :=
    decide_eq_true ((length_le_utf8Bytes g.value).trans g.bounded)
  have absent (name : String) : Json.member [] name = none := rfl
  simp only [List.mem_cons, List.not_mem_nil, or_false, Bool.decide_or] at severity disposition
  cases confidence : f.confidence <;> cases conflict : f.conflictGroup <;>
    simp [isFinding, isRecord, NormalizedFinding.toDict, confidence, conflict, Json.member_cons,
      absent, findingId, reviewer, severity, disposition, category, lens, claim, recommendation,
      refs, group, isConfidence_repr floats]

/-- The mailbox finding is the representative. -/
theorem mailboxFinding_of (f : DeduplicatedFinding) (index : Nat) :
    mailboxFinding (.obj (findingMembers f), index) = .ok f.representative.toDict := by
  have missing : requiredFields.filter (fun name =>
      Json.member (membersOf (.obj (findingMembers f))) name = none) = [] := rfl
  have picked : Json.obj (pick (requiredFields ++ optionalFields)
      (membersOf (.obj (findingMembers f)))) = f.representative.toDict := by
    obtain ⟨representative, provenance⟩ := f
    obtain ⟨_, _, _, _, _, _, _, _, _, confidence, conflict, _, _, _⟩ := representative
    cases confidence <;> cases conflict <;> rfl
  refine bind_ok.mpr ⟨(), ensure_of missing _, ?_⟩
  exact congrArg Except.ok picked

end Findings

/-! ## Messages and sources -/

/-- A stable identifier of the schema once stripped. -/
def Identified (s : String) : Prop := isIdentifier (strip s) = true ∧ (strip s).length ≤ 128

theorem text_solid {s : String} (solid : Solid s) (field : String) :
    Source.TerminalResult.text (.str s) field = .ok (strip s) := by
  simp [Source.TerminalResult.text, ensure_of solid.1, ensure_of solid.2]

theorem identifier_identified {s : String} (identified : Identified s) (field : String) :
    Source.TerminalResult.identifier (.str s) field = .ok (strip s) := by
  obtain ⟨nonempty, chars⟩ := isIdentifier_chars identified.1
  have noNul : '\x00' ∉ (strip s).toList := fun member => absurd (chars _ member) (by decide)
  rw [Source.TerminalResult.identifier, text_solid ⟨nonempty, noNul⟩, ok_bind, ensure_of identified.1]
  rfl

/-- The caller's fields of a message to the Controller. -/
structure ValidMessage (request : V2MailboxEnvelope) (message : MessageFields) : Prop where
  identity : ∀ entry ∈ message.expectedIdentity.getD [],
    ∃ value ∈ Json.member request.executionIdentity.members entry.1, Json.pyEq value entry.2
  capability : ∃ s, Json.get message.recipient "capability" = .str s ∧ Solid s ∧
    (strip s).length ≤ 4096
  agentInstance : ∃ s, Json.get message.recipient "agent_instance" = .str s ∧ Identified s
  messageId : Identified message.messageId
  producerNamespace : Identified message.producerNamespace
  producerActorId : Identified message.producerActorId
  idempotencyKey : Identified message.idempotencyKey
  seq : 0 ≤ message.seq

/-- The texts of a source are solid. -/
def SourceSolid (s : SourceRef) : Prop := Solid s.repository ∧ Solid s.commitSha ∧ Solid s.path

/-- The reference of a source. -/
def refOf (s : SourceRef) : String := s!"{strip s.repository}@{strip s.commitSha}:{strip s.path}"

theorem text_ok {s field t : String} (read : Source.TerminalResult.text (.str s) field = .ok t) :
    Solid s ∧ t = strip s := by
  obtain ⟨_, solid, read⟩ := bind_ok.mp read
  obtain ⟨_, noNul, read⟩ := bind_ok.mp read
  cases read
  exact ⟨⟨ensure_ok.mp solid, ensure_ok.mp noNul⟩, rfl⟩

theorem sourceRef_ok {s : SourceRef} {ref : String} :
    sourceRef s = .ok ref ↔ SourceSolid s ∧ ref = refOf s := by
  constructor
  · intro read
    obtain ⟨_, first, read⟩ := bind_ok.mp read
    obtain ⟨_, second, read⟩ := bind_ok.mp read
    obtain ⟨_, third, read⟩ := bind_ok.mp read
    obtain ⟨repository, rfl⟩ := text_ok first
    obtain ⟨commitSha, rfl⟩ := text_ok second
    obtain ⟨path, rfl⟩ := text_ok third
    exact ⟨⟨repository, commitSha, path⟩, (Except.ok.inj read).symm⟩
  · rintro ⟨⟨repository, commitSha, path⟩, rfl⟩
    rw [sourceRef, text_solid repository, ok_bind, text_solid commitSha, ok_bind, text_solid path,
      ok_bind]
    rfl

/-- A loop whose items succeed on a condition, each with its own value. -/
theorem mapM_ok_iff {ε α β : Type} {f : α → Except ε β} {P : α → Prop} {g : α → β}
    (each : ∀ a b, f a = .ok b ↔ P a ∧ b = g a) {items : List α} {results : List β} :
    items.mapM f = .ok results ↔ (∀ a ∈ items, P a) ∧ results = items.map g := by
  rw [mapM_ok]
  simp only [each]
  rw [List.forall₂_and_left]
  refine and_congr Iff.rfl ?_
  constructor
  · intro same
    induction same with
    | nil => rfl
    | cons first _ ih => rw [first, ih, List.map_cons]
  · rintro rfl
    exact List.forall₂_map_right_iff.mpr (List.forall₂_same.mpr fun _ _ => rfl)

theorem sourceRefs_ok {manifest : SourceManifest} {refs : List String} :
    sourceRefs manifest = .ok refs ↔ (∀ s ∈ manifest.sources, SourceSolid s) ∧
      manifest.sources ≠ [] ∧ refs = sortedSet (manifest.sources.map refOf) := by
  unfold sourceRefs
  simp only [bind_ok, mapM_ok_iff fun a b => sourceRef_ok, ensure_ok]
  constructor
  · rintro ⟨_, ⟨solid, rfl⟩, _, some, made⟩
    exact ⟨solid, fun empty => some (empty ▸ rfl), (Except.ok.inj made).symm⟩
  · rintro ⟨solid, some, rfl⟩
    exact ⟨_, ⟨solid, rfl⟩, (), fun empty => some (List.map_eq_nil_iff.mp empty), rfl⟩

/-! ## The envelope -/

/-- The sections of a request. -/
structure SameSections (request : V2MailboxEnvelope) (f : EnvelopeFields) : Prop where
  runId : f.runId = request.runId
  nodeId : f.nodeId = request.nodeId
  correlationId : f.correlationId = request.correlationId
  logicalContract : f.logicalContract = request.logicalContract
  attempt : f.attempt = request.attempt
  executionIdentity : f.executionIdentity = request.executionIdentity
  sourceManifest : f.sourceManifest = request.sourceManifest
  standardsProfile : f.standardsProfile = request.standardsProfile

/-- An answer to a request with its sections fails only on its provenance and its
result. -/
theorem problem_none_iff {request : V2MailboxEnvelope} {f : EnvelopeFields}
    (same : SameSections request f) (kind : f.messageType.carriesResult = true)
    (own : isId f.messageId = true ∧ isId f.producer.namespaceName = true ∧
      isId f.producer.actorId = true ∧ isNonEmpty f.recipient.capability = true ∧
      isId f.recipient.agentInstance = true ∧ isId f.idempotencyKey = true)
    (bound : f.resultMember "boundary_digest" = some (.str request.logicalContract.boundaryDigest)) :
    f.problem = none ↔ f.provenance.conforms = true ∧ f.result.any isResult = true := by
  obtain ⟨conforms, version, consistent⟩ := envelope_sound request
  obtain ⟨messageId, namespaceName, actorId, capability, agentInstance, idempotencyKey⟩ := own
  simp only [EnvelopeFields.conforms, Bool.and_eq_true] at conforms
  obtain ⟨⟨⟨⟨⟨⟨⟨⟨⟨⟨⟨⟨⟨⟨⟨-, runId⟩, nodeId⟩, correlationId⟩, -⟩, -⟩, -⟩, -⟩, logical⟩, attempt⟩,
    identity⟩, manifest⟩, profile⟩, -⟩, -⟩, -⟩ := conforms
  have conforming : f.conforms = (f.provenance.conforms && f.result.any isResult) := by
    simp [EnvelopeFields.conforms, same.runId, same.nodeId, same.correlationId,
      same.logicalContract, same.attempt, same.executionIdentity, same.sourceManifest,
      same.standardsProfile, runId, nodeId, correlationId, logical, attempt, identity, manifest,
      profile, messageId, namespaceName, actorId, capability, agentInstance, idempotencyKey, kind]
  have bindings : f.inconsistency = none := by
    simp only [EnvelopeFields.inconsistency, guard_none, same.runId, same.nodeId,
      same.logicalContract, same.attempt, same.executionIdentity, same.sourceManifest, bound]
      at consistent ⊢
    obtain ⟨run, plan, contract, boundary, attempted, -, others⟩ := consistent
    exact ⟨run, plan, contract, boundary, attempted, fun other => other.2 rfl, others⟩
  unfold EnvelopeFields.problem
  rw [conforming, same.sourceManifest, bindings, if_neg (not_not.mpr version)]
  cases f.provenance.conforms <;> cases f.result.any isResult <;> simp

/-! ## The builder -/

section Building
variable [Rendering] [Sha256] {request : V2MailboxEnvelope} {r : ParentSynthesisResult}
  {message : MessageFields}

/-- The distinct references of the findings and of the decision. -/
def citedRefs (r : ParentSynthesisResult) : List String :=
  sortedSet (r.findings.flatMap (fun f => f.representative.evidenceRefs.map (·.value)) ++
    r.controllerDecision.evidenceRefs)

/-- The status the envelope reports. -/
def statusFor (r : ParentSynthesisResult) : ProvenanceStatus := statusOf (upper r.finalVerdict.value)

omit [Rendering] [Sha256] in
theorem stringsOf_texts (items : List String) : stringsOf (texts items) = items := by
  simp [stringsOf, texts, List.filterMap_map]

theorem evidenceRefsOf_carried (r : ParentSynthesisResult) :
    evidenceRefsOf (carried r) = citedRefs r := by
  have findings : itemsOf (Json.get (carried r) "findings") =
      r.findings.map fun f => .obj (findingMembers f) := rfl
  have decision : Json.get (membersOf (Json.get (carried r) "controller_decision")) "evidence_refs" =
      texts r.controllerDecision.evidenceRefs := rfl
  have refs (f : DeduplicatedFinding) :
      stringsOf (Json.get (membersOf (.obj (findingMembers f))) "evidence_refs") =
        f.representative.evidenceRefs.map (·.value) := by
    rw [membersOf, Json.get_of (finding_refs f), stringsOf_texts]
  unfold evidenceRefsOf citedRefs
  rw [findings, decision, stringsOf_texts, List.flatMap_map]
  simp only [refs]

theorem operationalStatus_carried (r : ParentSynthesisResult) :
    operationalStatus (carried r) = .ok (statusFor r) := by
  have reported : reportedStatus (carried r) = .str r.finalVerdict.value := rfl
  have stripped : Stripped r.finalVerdict.value := by
    cases r.finalVerdict <;> exact ⟨by decide, by decide, by decide⟩
  unfold operationalStatus
  rw [reported, text_of stripped, ok_bind]
  rfl

theorem mailboxFindings_carried (r : ParentSynthesisResult) :
    (itemsOf (Json.get (carried r) "findings")).zipIdx.mapM mailboxFinding =
      .ok (r.findings.map fun f => f.representative.toDict) :=
  mapM_zipIdx (fun f _ index => mailboxFinding_of f index) 0

/-- The fields of the answer that carries a parent result. -/
structure Answer (request : V2MailboxEnvelope) (r : ParentSynthesisResult) (refs : List String)
    (f : EnvelopeFields) : Prop where
  same : SameSections request f
  messageType : f.messageType = .terminalResult
  direction : f.direction = .executorToController
  own : isId f.messageId = true ∧ isId f.producer.namespaceName = true ∧
    isId f.producer.actorId = true ∧ isNonEmpty f.recipient.capability = true ∧
    isId f.recipient.agentInstance = true ∧ isId f.idempotencyKey = true
  payload : f.payload = terminalPayload request (carried r)
  result : f.result = some (resultObject request.executionIdentity (statusFor r)
    (.str r.resultDigest.value) (.arr []) (.arr (r.findings.map fun f => f.representative.toDict)))
  provenance : f.provenance = {
    origin := .executor
    parentMessageId := some (some request.messageId)
    childId := some none
    lens := some (some "parent-synthesis")
    agentInstance := request.attempt.agentInstance
    status := statusFor r
    sourceRefs := refs
    evidenceRefs := citedRefs r
    resultDigest := some r.resultDigest.value }

theorem terminalFields_of (valid : ValidMessage request message) {refs : List String}
    (sources : sourceRefs request.sourceManifest = .ok refs) :
    ∃ f, terminalFields request (carried r) message = .ok f ∧ Answer request r refs f := by
  obtain ⟨capability, givenCapability, solid, bounded⟩ := valid.capability
  obtain ⟨agentInstance, givenAgent, agent⟩ := valid.agentInstance
  have identity : validateExpectedIdentity request.executionIdentity.members message.expectedIdentity =
      .ok () := checkAll_ok.mpr fun entry member => ensure_of (valid.identity entry member) _
  have seq : sequence message.seq = .ok message.seq.toNat := if_pos valid.seq
  have artifacts : listOf (Json.member (carried r) "artifact_refs") = .ok [] := rfl
  have nonEmpty : isNonEmpty (strip capability) = true := by
    simp [isNonEmpty, solid.1, bounded]
  unfold terminalFields
  rw [identity, ok_bind, givenCapability, text_solid solid, ok_bind, givenAgent,
    identifier_identified agent, ok_bind, sources, ok_bind, operationalStatus_carried, ok_bind,
    artifacts, ok_bind, mailboxFindings_carried, ok_bind, identifier_identified valid.messageId,
    ok_bind, identifier_identified valid.producerNamespace, ok_bind,
    identifier_identified valid.producerActorId, ok_bind,
    identifier_identified valid.idempotencyKey, ok_bind, seq, ok_bind]
  refine ⟨_, rfl, ⟨rfl, rfl, rfl, rfl, rfl, rfl, rfl, rfl⟩, rfl, rfl, ⟨?_, ?_, ?_, nonEmpty, ?_, ?_⟩,
    rfl, rfl, ?_⟩
  · exact isId_of valid.messageId.1 valid.messageId.2
  · exact isId_of valid.producerNamespace.1 valid.producerNamespace.2
  · exact isId_of valid.producerActorId.1 valid.producerActorId.2
  · exact isId_of agent.1 agent.2
  · exact isId_of valid.idempotencyKey.1 valid.idempotencyKey.2
  · rw [evidenceRefsOf_carried]
    rfl

omit [Rendering] [Sha256] in
/-- What the request vouches for in an answer. -/
theorem request_sound (request : V2MailboxEnvelope) : request.messageId.length ≤ 128 ∧
    isId request.attempt.agentInstance = true ∧
    isDigestText request.executionIdentity.boundaryDigest = true ∧
    request.executionIdentity.boundaryDigest = request.logicalContract.boundaryDigest := by
  obtain ⟨conforms, -, consistent⟩ := envelope_sound request
  simp only [EnvelopeFields.conforms, Bool.and_eq_true] at conforms
  obtain ⟨⟨⟨⟨⟨⟨⟨⟨⟨⟨⟨⟨⟨⟨⟨messageId, -⟩, -⟩, -⟩, -⟩, -⟩, -⟩, -⟩, -⟩, attempt⟩, identity⟩, -⟩, -⟩, -⟩, -⟩,
    -⟩ := conforms
  simp only [EnvelopeFields.inconsistency, guard_none] at consistent
  obtain ⟨-, -, -, boundary, -⟩ := consistent
  simp only [isId, Bool.and_eq_true, decide_eq_true_eq] at messageId
  simp only [Attempt.conforms, Bool.and_eq_true] at attempt
  simp only [ExecutionIdentity.conforms, Bool.and_eq_true] at identity
  exact ⟨messageId.2, attempt.1.2, identity.1.1.1.2, not_not.mp boundary⟩

omit [Rendering] [Sha256] in
theorem statusFor_known (r : ParentSynthesisResult) : (statusFor r).value ∈
    ["SUCCEEDED", "FAILED", "NEEDS_CLARIFICATION", "STALE", "REJECTED"] := by
  unfold statusFor
  cases r.finalVerdict <;> decide

omit [Sha256] in
theorem isFindings_iff (floats : UnitFloats) (r : ParentSynthesisResult) :
    isFindings (.arr (r.findings.map fun f => f.representative.toDict)) = true ↔
      r.findings.length ≤ 256 := by
  have each : (r.findings.map fun f => f.representative.toDict).all isFinding = true := by
    rw [List.all_map]
    exact List.all_eq_true.mpr fun f _ => isFinding_toDict floats f.representative
  simp only [isFindings, each, List.length_map, Bool.and_true, decide_eq_true_eq]

/-- The schema bounds the references and the number of findings. -/
theorem answer_problem (floats : UnitFloats) {refs : List String} {f : EnvelopeFields}
    (answer : Answer request r refs f) : f.problem = none ↔
      isRefList refs = true ∧ isRefList (citedRefs r) = true ∧ r.findings.length ≤ 256 := by
  obtain ⟨short, agentInstance, boundary, bound⟩ := request_sound request
  have kind : f.messageType.carriesResult = true := by
    rw [answer.messageType]
    rfl
  have bindings : f.resultMember "boundary_digest" =
      some (.str request.logicalContract.boundaryDigest) := by
    rw [EnvelopeFields.resultMember, answer.result, ← bound]
    rfl
  have provenance : f.provenance.conforms = (isRefList refs && isRefList (citedRefs r)) := by
    have lens : "parent-synthesis".length ≤ 128 := by decide
    rw [answer.provenance]
    simp [Provenance.conforms, isShort, short, lens, agentInstance, isDigestText_value]
  have result : f.result.any isResult =
      isFindings (.arr (r.findings.map fun f => f.representative.toDict)) := by
    have status := statusFor_known r
    simp only [List.mem_cons, List.not_mem_nil, or_false] at status
    have artifacts : isTextArray 0 256 isNonEmpty (.arr []) = true := by decide
    rw [answer.result, Option.any_some]
    simp only [isResult, isRecord, resultObject, List.all_cons, List.all_nil, Json.member_cons,
      List.append_nil, List.map_cons, List.map_nil]
    simp [isText, status, boundary, isDigestText_value, artifacts]
  rw [problem_none_iff answer.same kind answer.own bindings, provenance, result, Bool.and_eq_true,
    isFindings_iff floats, and_assoc]

/-! ## Results that fit -/

/-- The source can be cited within the bounds of the schema. -/
def SourceFits (s : SourceRef) : Prop := SourceSolid s ∧ (refOf s).length ≤ 4096

/-- The result and the sources of the request are within the bounds of the schema. -/
structure Fits (request : V2MailboxEnvelope) (r : ParentSynthesisResult) : Prop where
  findings : r.findings.length ≤ 256
  cited : (citedRefs r).length ≤ 256
  decision : ∀ ref ∈ r.controllerDecision.evidenceRefs, ref.length ≤ 4096
  sources : ∀ s ∈ request.sourceManifest.sources, SourceFits s

/-- What a terminal result keeps of a parent result. -/
structure Carries (r : ParentSynthesisResult) (t : TerminalParentResult) : Prop where
  digest : t.resultDigest = .str r.resultDigest.value
  members : Json.dropMember "child_provenance" t.normalizedResult = r.toDict
  children : Json.get t.normalizedResult "child_provenance" = childProvenance r
  readBack : TerminalParentResult.fromEnvelope t.envelope = .ok t

theorem carried_read (canonical : Canonical r) {refs : List String} {envelope : V2MailboxEnvelope}
    (answer : Answer request r refs envelope.toEnvelopeFields) :
    readNormalized envelope = .ok (carried r) := by
  have payload : Json.get envelope.payload "normalized_parent_result" = .obj (carried r) := by
    rw [answer.payload]
    rfl
  have children : Json.get envelope.payload "child_provenance" = childProvenance r := by
    rw [answer.payload]
    rfl
  unfold readNormalized
  refine bind_ok.mpr ⟨carried r, ?_, ?_⟩
  · rw [payload]
    exact normalize_carried canonical _ (.inr rfl)
  refine bind_ok.mpr ⟨(), ensure_of answer.messageType _, ?_⟩
  refine bind_ok.mpr ⟨(), ensure_of answer.direction _, ?_⟩
  refine bind_ok.mpr ⟨(), ensure_of ?_ _, ?_⟩
  · rw [EnvelopeFields.resultMember, answer.result]
    rfl
  refine bind_ok.mpr ⟨(), ensure_of ?_ _, ?_⟩
  · rw [EnvelopeFields.resultMember, answer.result, answer.same.executionIdentity]
    rfl
  refine bind_ok.mpr ⟨(), ensure_of ?_ _, ?_⟩
  · rw [payload]
    exact Json.same_refl _
  refine bind_ok.mpr ⟨(), ensure_of ?_ _, rfl⟩
  rw [children]
  exact Json.same_refl _

omit [Rendering] [Sha256] in
theorem isRefList_sortedSet {items : List String} :
    isRefList (sortedSet items) = true ↔
      (sortedSet items).length ≤ 256 ∧ ∀ s ∈ items, isNonEmpty s = true := by
  simp only [isRefList, Bool.and_eq_true, decide_eq_true_eq, List.all_eq_true, mem_sortedSet]

omit [Rendering] [Sha256] in
theorem request_sources (request : V2MailboxEnvelope) :
    request.sourceManifest.sources ≠ [] ∧ request.sourceManifest.sources.length ≤ 256 := by
  obtain ⟨conforms, -, -⟩ := envelope_sound request
  simp only [EnvelopeFields.conforms, Bool.and_eq_true] at conforms
  obtain ⟨⟨⟨⟨⟨-, manifest⟩, -⟩, -⟩, -⟩, -⟩ := conforms
  simp only [SourceManifest.conforms, Bool.and_eq_true, decide_eq_true_eq] at manifest
  exact ⟨List.length_pos_iff.mp manifest.1.1.1.2, manifest.1.1.2⟩

omit [Rendering] [Sha256] in
theorem isRefList_sources (request : V2MailboxEnvelope) :
    isRefList (sortedSet (request.sourceManifest.sources.map refOf)) = true ↔
      ∀ s ∈ request.sourceManifest.sources, (refOf s).length ≤ 4096 := by
  have few : (sortedSet (request.sourceManifest.sources.map refOf)).length ≤ 256 := by
    unfold sortedSet
    rw [List.length_insertionSort]
    refine (List.dedup_sublist _).length_le.trans ?_
    rw [List.length_map]
    exact (request_sources request).2
  have solid (s : SourceRef) : refOf s ≠ "" := by
    intro empty
    have chars := congrArg String.toList empty
    simp only [refOf, String.toList_append, String.toList_empty, List.append_eq_nil_iff] at chars
    exact absurd chars.1.1.1.2 (by decide)
  rw [isRefList_sortedSet]
  simp [few, isNonEmpty, solid]

omit [Rendering] [Sha256] in
theorem isRefList_cited (canonical : Canonical r) :
    isRefList (citedRefs r) = true ↔
      (citedRefs r).length ≤ 256 ∧ ∀ ref ∈ r.controllerDecision.evidenceRefs, ref.length ≤ 4096 := by
  have own : ∀ ref ∈ r.findings.flatMap (fun f => f.representative.evidenceRefs.map (·.value)),
      isNonEmpty ref = true := by
    intro ref member
    obtain ⟨f, -, listed⟩ := List.mem_flatMap.mp member
    obtain ⟨t, -, rfl⟩ := List.mem_map.mp listed
    exact isNonEmpty_text t (by decide)
  have decided : ∀ ref ∈ r.controllerDecision.evidenceRefs,
      (isNonEmpty ref = true ↔ ref.length ≤ 4096) := by
    intro ref member
    simp [isNonEmpty, (canonical.decision.stripped ref member).2.1]
  unfold citedRefs
  rw [isRefList_sortedSet, List.forall_mem_append]
  refine and_congr Iff.rfl ?_
  constructor
  · exact fun both ref member => (decided ref member).mp (both.2 ref member)
  · exact fun short => ⟨own, fun ref member => (decided ref member).mpr (short ref member)⟩

/-- The answer of a successful build. -/
theorem built_answer (canonical : Canonical r) (valid : ValidMessage request message)
    {t : TerminalParentResult}
    (made : buildTerminalParentResult request (.obj r.toDict) message = .ok t) :
    (∀ s ∈ request.sourceManifest.sources, SourceSolid s) ∧
      Answer request r (sortedSet (request.sourceManifest.sources.map refOf))
        t.envelope.toEnvelopeFields := by
  obtain ⟨normalized, normal, later⟩ := bind_ok.mp made
  obtain ⟨f, filled, last⟩ := bind_ok.mp later
  obtain ⟨envelope, accepted, read⟩ := bind_ok.mp last
  obtain rfl := Except.ok.inj ((normalize_carried canonical _ (.inl rfl)).symm.trans normal)
  obtain ⟨refs, sources⟩ : ∃ refs, sourceRefs request.sourceManifest = .ok refs := by
    unfold terminalFields at filled
    obtain ⟨_, -, filled⟩ := bind_ok.mp filled
    obtain ⟨_, -, filled⟩ := bind_ok.mp filled
    obtain ⟨_, -, filled⟩ := bind_ok.mp filled
    obtain ⟨refs, sources, -⟩ := bind_ok.mp filled
    exact ⟨refs, sources⟩
  obtain ⟨_, again, answer⟩ := terminalFields_of valid sources
  obtain rfl := Except.ok.inj (filled.symm.trans again)
  obtain ⟨solid, -, rfl⟩ := sourceRefs_ok.mp sources
  rw [TerminalOnce.fromEnvelope_ok read, terminalEnvelope_ok.mp accepted]
  exact ⟨solid, answer⟩

/-- A synthesized result and a valid message make a terminal result exactly within the
bounds of the schema. -/
theorem builds_iff (floats : UnitFloats) (canonical : Canonical r)
    (valid : ValidMessage request message) :
    (∃ t, buildTerminalParentResult request (.obj r.toDict) message = .ok t) ↔ Fits request r := by
  constructor
  · rintro ⟨t, made⟩
    obtain ⟨solid, answer⟩ := built_answer canonical valid made
    obtain ⟨sources, cited, findings⟩ := (answer_problem floats answer).mp t.envelope.accepted
    obtain ⟨few, short⟩ := (isRefList_cited canonical).mp cited
    have bounded := (isRefList_sources request).mp sources
    exact ⟨findings, few, short, fun s member => ⟨solid s member, bounded s member⟩⟩
  · intro fits
    have sources : sourceRefs request.sourceManifest =
        .ok (sortedSet (request.sourceManifest.sources.map refOf)) :=
      sourceRefs_ok.mpr ⟨fun s member => (fits.sources s member).1, (request_sources request).1, rfl⟩
    obtain ⟨f, filled, answer⟩ := terminalFields_of valid sources
    have accepted : f.problem = none := (answer_problem floats answer).mpr
      ⟨(isRefList_sources request).mpr fun s member => (fits.sources s member).2,
        (isRefList_cited canonical).mpr ⟨fits.cited, fits.decision⟩, fits.findings⟩
    have read : readNormalized ⟨f, accepted⟩ = .ok (carried r) := carried_read canonical answer
    refine ⟨⟨⟨f, accepted⟩, carried r, read⟩, ?_⟩
    unfold buildTerminalParentResult
    rw [normalize_carried canonical _ (.inl rfl), ok_bind, filled, ok_bind,
      terminalEnvelope_ok.mpr (show (⟨f, accepted⟩ : V2MailboxEnvelope).toEnvelopeFields = f from rfl),
      ok_bind]
    exact TerminalOnce.fromEnvelope_self ⟨⟨f, accepted⟩, carried r, read⟩

theorem built_carries (canonical : Canonical r) (valid : ValidMessage request message)
    {t : TerminalParentResult}
    (made : buildTerminalParentResult request (.obj r.toDict) message = .ok t) : Carries r t := by
  obtain ⟨-, answer⟩ := built_answer canonical valid made
  have read : t.normalizedResult = carried r :=
    Except.ok.inj (t.checked.symm.trans (carried_read canonical answer))
  refine ⟨?_, ?_, ?_, TerminalOnce.fromEnvelope_self t⟩
  · rw [TerminalParentResult.resultDigest, EnvelopeFields.resultMember, answer.result]
    rfl
  · rw [read, carried_drop]
  · rw [read]
    rfl

/-- The terminal result of a synthesized result: made exactly within the bounds of the
schema, and then with everything the synthesis says. -/
theorem carries_synthesized (floats : UnitFloats) {children : List NormalizedChildResult}
    {options : SynthesisOptions} (constructed : OptionsConstructed options)
    (made : synthesizeParentResult children options = .ok r) (valid : ValidMessage request message) :
    ((∃ t, buildTerminalParentResult request (.obj r.toDict) message = .ok t) ↔ Fits request r) ∧
      ∀ t, buildTerminalParentResult request (.obj r.toDict) message = .ok t → Carries r t := by
  have canonical := synthesized_canonical constructed made
  exact ⟨builds_iff floats canonical valid, fun t built => built_carries canonical valid built⟩

end Building

/-! ## A reviewed request -/

open DwSuperApps.Guarantees.SynthesisCompletion
open DwSuperApps.Guarantees.MailboxLog (Sample)

def requestSample : Sample where
  messageId := "request"
  seq := 0
  direction := .controllerToExecutor
  messageType := .executionRequest
  payload := []
  result := none
  idempotencyKey := "key"

def reviewRequest : V2MailboxEnvelope :=
  requestSample.envelope (Sample.accepted (by decide) (by decide) rfl fun given => absurd given (by decide))

def reviewMessage : MessageFields where
  messageId := "result"
  seq := 0
  producerNamespace := "executor"
  producerActorId := "executor"
  recipient := [("capability", .str "control"), ("agent_instance", .str "controller")]
  idempotencyKey := "key"

theorem reviewMessage_valid : ValidMessage reviewRequest reviewMessage where
  identity := fun entry member => absurd member List.not_mem_nil
  capability := ⟨"control", rfl, by decide, by decide⟩
  agentInstance := ⟨"controller", rfl, by decide, by decide⟩
  messageId := ⟨by decide, by decide⟩
  producerNamespace := ⟨by decide, by decide⟩
  producerActorId := ⟨by decide, by decide⟩
  idempotencyKey := ⟨by decide, by decide⟩
  seq := by decide

theorem reviewText_floats : @UnitFloats reviewText :=
  @UnitFloats.mk reviewText rfl fun _ _ _ =>
    show isConfidence (.float "0.0") = true from by decide

/-- The bounds on the result alone. -/
def bounded (made : Except Failure ParentSynthesisResult) : Bool :=
  match made with
  | .ok r => r.findings.length ≤ 256 && (citedRefs r).length ≤ 256 &&
      r.controllerDecision.evidenceRefs.all (·.length ≤ 4096)
  | .error _ => false

theorem reviewed_bounded_result :
    bounded (@synthesizeParentResult reviewText constantHash [reviewed] completing) = true := by
  unfold synthesizeParentResult
  rw [ensure_of (List.cons_ne_nil _ _), reviewed_accepted]
  decide

theorem bounded_fits {made : Except Failure ParentSynthesisResult} (small : bounded made = true) :
    ∃ r, made = .ok r ∧ Fits reviewRequest r := by
  cases made with
  | error _ => cases small
  | ok r =>
    simp only [bounded, Bool.and_eq_true, decide_eq_true_eq, List.all_eq_true] at small
    refine ⟨r, rfl, small.1.1, small.1.2, small.2, ?_⟩
    exact List.forall_mem_singleton.mpr ⟨⟨by decide, by decide, by decide⟩, by decide⟩

theorem completing_constructed : OptionsConstructed completing :=
  ⟨fun _ given => Option.some.inj given ▸ trivial, fun _ given => nomatch given⟩

/-- The reviewed result is carried by its terminal result. -/
theorem carries_reviewed : ∃ r t,
    @synthesizeParentResult reviewText constantHash [reviewed] completing = .ok r ∧
      @buildTerminalParentResult constantHash reviewRequest
        (.obj (@ParentSynthesisResult.toDict reviewText constantHash r)) reviewMessage = .ok t ∧
      @Carries reviewText constantHash r t := by
  obtain ⟨r, made, fits⟩ := bounded_fits reviewed_bounded_result
  have carries := @carries_synthesized reviewText constantHash reviewRequest r reviewMessage
    reviewText_floats [reviewed] completing completing_constructed made reviewMessage_valid
  obtain ⟨t, built⟩ := carries.1.mpr fits
  exact ⟨r, t, made, built, carries.2 t built⟩

/-! ## A reference beyond the schema -/

/-- A reference of some length. -/
def reference (n : Nat) : String := String.ofList (List.replicate n 'a')

theorem reference_length (n : Nat) : (reference n).length = n := by
  rw [reference, String.length_ofList, List.length_replicate]

theorem reference_stripped {n : Nat} (some : n ≠ 0) : Stripped (reference n) := by
  have chars : ∀ c ∈ (reference n).toList, c = 'a' := by
    intro c member
    rw [reference, String.toList_ofList] at member
    exact List.eq_of_mem_replicate member
  refine ⟨strip_of_noSpace fun c member => ?_, fun empty => some ?_, fun member => ?_⟩
  · rw [chars c member]
    decide
  · rw [← reference_length n, empty]
    rfl
  · exact absurd (chars _ member) (by decide)

/-- A decision that cites one reference. -/
def citingDecision (n : Nat) : ControllerDecision where
  decisionId := "decision-1"
  runRef := "run-1"
  decisionType := .complete
  rationale := "review accepted"
  evidenceRefs := [reference n]

theorem synthesisText_of {s : String} (stripped : Stripped s) (field : String) :
    Source.Synthesis.text field s = .ok s := by
  obtain ⟨same, solid, noNul⟩ := stripped
  simp [Source.Synthesis.text, same, ensure_of solid, ensure_of noNul]

theorem citingDecision_constructed {n : Nat} (some : n ≠ 0) : Constructed (citingDecision n) := by
  refine ⟨"decision-1", "run-1", "COMPLETE", "review accepted", [reference n], none, ?_⟩
  refine bind_ok.mpr ⟨"decision-1", rfl, ?_⟩
  refine bind_ok.mpr ⟨"run-1", rfl, ?_⟩
  refine bind_ok.mpr ⟨.complete, rfl, ?_⟩
  refine bind_ok.mpr ⟨"review accepted", rfl, ?_⟩
  refine bind_ok.mpr ⟨[reference n], ?_, rfl⟩
  unfold uniqueSortedTexts
  rw [ensure_of (.inl (List.cons_ne_nil _ _)), ok_bind, List.mapM_cons,
    synthesisText_of (reference_stripped some)]
  rfl

/-- The review completes with a decision that cites a reference of some length. -/
def citing (n : Nat) : SynthesisOptions where
  controllerDecision := some (.decision (citingDecision n))

theorem citing_constructed {n : Nat} (some : n ≠ 0) : OptionsConstructed (citing n) := by
  constructor
  · intro input given
    obtain rfl : DecisionInput.decision (citingDecision n) = input := Option.some.inj given
    exact citingDecision_constructed some
  · intro input given
    cases given

theorem citing_completes :
    completes (@synthesizeParentResult reviewText constantHash [reviewed] (citing 4097)) = true := by
  unfold synthesizeParentResult
  rw [ensure_of (List.cons_ne_nil _ _), reviewed_accepted]
  decide

/-- A synthesis that cites a reference of 4097 characters has no terminal result. -/
theorem long_reference_refused : ∃ r,
    @synthesizeParentResult reviewText constantHash [reviewed] (citing 4097) = .ok r ∧
      OptionsConstructed (citing 4097) ∧ ValidMessage reviewRequest reviewMessage ∧
      ¬ ∃ t, @buildTerminalParentResult constantHash reviewRequest
        (.obj (@ParentSynthesisResult.toDict reviewText constantHash r)) reviewMessage = .ok t := by
  obtain ⟨r, made, -⟩ := completed_decision citing_completes
  have constructed : OptionsConstructed (citing 4097) := citing_constructed (by decide)
  have canonical := @synthesized_canonical reviewText constantHash _ _ _ constructed made
  refine ⟨r, made, constructed, reviewMessage_valid, fun built => ?_⟩
  have fits := (@builds_iff reviewText constantHash reviewRequest r reviewMessage reviewText_floats
    canonical reviewMessage_valid).mp built
  obtain ⟨trace⟩ := @synthesizeParentResult_ok reviewText constantHash _ _ _ made
  have decided : citingDecision 4097 = r.controllerDecision := 
    Except.ok.inj (@SynthesisTrace.controller reviewText constantHash _ _ _ trace)
  have short := fits.decision (reference 4097) (decided ▸ List.mem_singleton_self _)
  rw [reference_length] at short
  exact absurd short (by decide)

end DwSuperApps.Guarantees.TerminalCarries
