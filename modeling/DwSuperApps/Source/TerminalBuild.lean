import DwSuperApps.Source.TerminalResult

/-!
# Building a terminal parent result

`build_terminal_parent_result` of `taskcontroller/execution/terminal_result.py`: one
validated request and one parent result, as its `to_dict`, become a terminal envelope.
-/
namespace DwSuperApps.Source.TerminalResult

open DwSuperApps.Lib DwSuperApps.Lib.Checked
open DwSuperApps.Source.Envelope

/-! ## Operational status -/

/-- The upper case of one character as far as it is ASCII. Every other character has an
upper case with a character outside ASCII. -/
def upperChar (c : Char) : List Char :=
  if 'a' ≤ c ∧ c ≤ 'z' then [Char.ofNat (c.toNat - 32)]
  else match c.toNat with
  | 0xdf => ['S', 'S']
  | 0x131 => ['I']
  | 0x17f => ['S']
  | 0xfb00 => ['F', 'F']
  | 0xfb01 => ['F', 'I']
  | 0xfb02 => ['F', 'L']
  | 0xfb03 => ['F', 'F', 'I']
  | 0xfb04 => ['F', 'F', 'L']
  | 0xfb05 => ['S', 'T']
  | 0xfb06 => ['S', 'T']
  | _ => [c]

/-- `str.upper`. -/
def upper (s : String) : String := String.ofList (s.toList.flatMap upperChar)

/-- `_RESULT_STATUSES`. -/
def resultStatuses : List ProvenanceStatus :=
  [.succeeded, .failed, .needsClarification, .stale, .rejected]

/-- The status of an upper-case candidate. -/
def statusOf (candidate : String) : ProvenanceStatus :=
  match resultStatuses.find? (·.value = candidate) with
  | some status => status
  | none =>
    if candidate = "PASS" then .succeeded
    else if candidate = "NEEDS_FIX" ∨ candidate = "FAIL" then .failed
    else .needsClarification

/-- The first of `status`, `final_verdict` and `verdict` that is there. -/
def reportedStatus (normalized : List (String × Json)) : Json :=
  (Json.member normalized "status").getD
    ((Json.member normalized "final_verdict").getD (Json.get normalized "verdict"))

/-- `_operational_status`. -/
def operationalStatus (normalized : List (String × Json)) : Except Raised ProvenanceStatus := do
  let candidate ← text (reportedStatus normalized) "normalized_parent_result.status"
  return statusOf (upper candidate)

/-! ## References -/

/-- The text of one source. -/
def sourceRef (source : SourceRef) : Except Raised String := do
  let repository ← text (.str source.repository) "source.repository"
  let commitSha ← text (.str source.commitSha) "source.commit_sha"
  let path ← text (.str source.path) "source.path"
  return s!"{repository}@{commitSha}:{path}"

/-- `_source_refs`. -/
def sourceRefs (manifest : SourceManifest) : Except Raised (List String) := do
  let refs ← manifest.sources.mapM sourceRef
  ensure (refs ≠ []) (terminalError "TERMINAL_SOURCE_BINDING_INVALID"
    "source manifest must contain sources")
  return sortedSet refs

/-- The texts of an array. -/
def stringsOf : Json → List String
  | .arr items => items.filterMap fun item => match item with
    | .str s => some s
    | _ => none
  | _ => []

def itemsOf : Json → List Json
  | .arr items => items
  | _ => []

def membersOf : Json → List (String × Json)
  | .obj members => members
  | _ => []

/-- The references of the findings and of the decision of a normalized result. -/
def evidenceRefsOf (normalized : List (String × Json)) : List String :=
  sortedSet (((itemsOf (Json.get normalized "findings")).flatMap fun finding =>
      stringsOf (Json.get (membersOf finding) "evidence_refs")) ++
    stringsOf (Json.get (membersOf (Json.get normalized "controller_decision")) "evidence_refs"))

/-- `list(value)` of a member that may be missing. -/
def listOf : Option Json → Except Raised (List Json)
  | none => .ok []
  | some (.arr items) => .ok items
  | some (.str s) => .ok (s.toList.map fun c => .str (String.singleton c))
  | some (.obj members) => .ok (members.map fun m => .str m.1)
  | some .null => .error ⟨.typeError, "", "'NoneType' object is not iterable"⟩
  | some (.bool _) => .error ⟨.typeError, "", "'bool' object is not iterable"⟩
  | some (.int _) => .error ⟨.typeError, "", "'int' object is not iterable"⟩
  | some (.float _) => .error ⟨.typeError, "", "'float' object is not iterable"⟩

/-! ## Mailbox findings -/

def requiredFields : List String :=
  ["finding_id", "severity", "category", "lens", "claim", "evidence_refs", "recommendation",
    "reviewer", "disposition"]

def optionalFields : List String := ["confidence", "conflict_group"]

/-- The members under the names, in the order of the names. -/
def pick (names : List String) (members : List (String × Json)) : List (String × Json) :=
  names.filterMap fun name => (Json.member members name).map (name, ·)

/-- `_mailbox_finding`. -/
def mailboxFinding (entry : Json × Nat) : Except Raised Json := do
  let (finding, index) := entry
  let missing := requiredFields.filter fun name => Json.member (membersOf finding) name = none
  ensure (missing = []) (invalid (s!"findings[{index}] is missing: " ++ ", ".intercalate missing))
  return .obj (pick (requiredFields ++ optionalFields) (membersOf finding))

/-! ## The builder -/

/-- The caller's fields of the message. -/
structure MessageFields where
  messageId : String
  seq : Int
  producerNamespace : String
  producerActorId : String
  recipient : List (String × Json)
  idempotencyKey : String
  expectedIdentity : Option (List (String × Json)) := none

/-- `_validate_expected_identity`. -/
def validateExpectedIdentity (actual : List (String × Json))
    (expected : Option (List (String × Json))) : Except Raised Unit :=
  checkAll (fun entry : String × Json =>
    ensure (∃ value ∈ Json.member actual entry.1, Json.pyEq value entry.2)
      (terminalError "TERMINAL_IDENTITY_MISMATCH" s!"current identity mismatch for {entry.1}"))
    (expected.getD [])

/-- The result object of the envelope. -/
def resultObject (identity : ExecutionIdentity) (status : ProvenanceStatus)
    (resultDigest artifactRefs findings : Json) : Json :=
  .obj [("status", .str status.value),
    ("boundary_digest", .str identity.boundaryDigest),
    ("result_digest", resultDigest),
    ("artifact_refs", artifactRefs),
    ("findings", findings)]

/-- The payload of the envelope. -/
def terminalPayload (request : V2MailboxEnvelope) (normalized : List (String × Json)) :
    List (String × Json) :=
  [("normalized_parent_result", .obj normalized),
    ("child_provenance", Json.get normalized "child_provenance"),
    ("standards_digest", .str request.standardsProfile.digest),
    ("source_digest", .str request.sourceManifest.digest),
    ("attempt_id", .str request.executionIdentity.attemptId),
    ("lease_generation", .int request.executionIdentity.leaseGeneration),
    ("fencing_token", .str request.executionIdentity.fencingToken)]

/-- `V2MailboxEnvelope.from_dict` inside the builder: any refusal is a terminal error. -/
def terminalEnvelope (fields : EnvelopeFields) : Except Raised V2MailboxEnvelope :=
  (V2MailboxEnvelope.fromFields fields).mapError fun e => invalid e.text

theorem terminalEnvelope_ok {fields : EnvelopeFields} {envelope : V2MailboxEnvelope} :
    terminalEnvelope fields = .ok envelope ↔ envelope.toEnvelopeFields = fields := by
  unfold terminalEnvelope V2MailboxEnvelope.fromFields
  constructor
  · intro made
    split at made
    · cases made
    · cases made
      rfl
  · rintro rfl
    split
    · next failed =>
      rw [envelope.accepted] at failed
      cases failed
    · rfl

/-- A sequence number of the schema. -/
def sequence (seq : Int) : Except Raised Nat :=
  if 0 ≤ seq then .ok seq.toNat
  else .error (invalid (mailboxError .schemaInvalid "schema validation failed").text)

section
variable [Sha256]

/-- The fields of the terminal envelope of a normalized result. -/
def terminalFields (request : V2MailboxEnvelope) (normalized : List (String × Json))
    (message : MessageFields) : Except Raised EnvelopeFields := do
  validateExpectedIdentity request.executionIdentity.members message.expectedIdentity
  let capability ← text (Json.get message.recipient "capability") "recipient.capability"
  let agentInstance ←
    identifier (Json.get message.recipient "agent_instance") "recipient.agent_instance"
  let sources ← sourceRefs request.sourceManifest
  let status ← operationalStatus normalized
  let artifactRefs ← listOf (Json.member normalized "artifact_refs")
  let findings ← (itemsOf (Json.get normalized "findings")).zipIdx.mapM mailboxFinding
  let messageId ← identifier (.str message.messageId) "message_id"
  let namespaceName ← identifier (.str message.producerNamespace) "producer.namespace"
  let actorId ← identifier (.str message.producerActorId) "producer.actor_id"
  let idempotencyKey ← identifier (.str message.idempotencyKey) "idempotency_key"
  let seq ← sequence message.seq
  return {
    messageId, seq, idempotencyKey
    runId := request.runId
    nodeId := request.nodeId
    correlationId := request.correlationId
    direction := .executorToController
    messageType := .terminalResult
    producer := { namespaceName, actorId, role := .executor }
    recipient := { capability, agentInstance }
    logicalContract := request.logicalContract
    attempt := request.attempt
    executionIdentity := request.executionIdentity
    sourceManifest := request.sourceManifest
    standardsProfile := request.standardsProfile
    payload := terminalPayload request normalized
    provenance := {
      origin := .executor
      parentMessageId := some (some request.messageId)
      childId := some none
      lens := some (some "parent-synthesis")
      agentInstance := request.attempt.agentInstance
      status
      sourceRefs := sources
      evidenceRefs := evidenceRefsOf normalized
      resultDigest := some (stringOf (Json.get normalized "result_digest")) }
    result := some (resultObject request.executionIdentity status
      (Json.get normalized "result_digest") (.arr artifactRefs) (.arr findings)) }

/-- `build_terminal_parent_result`. -/
def buildTerminalParentResult (request : V2MailboxEnvelope) (normalizedParentResult : Json)
    (message : MessageFields) : Except Raised TerminalParentResult := do
  let normalized ← normalizeParentResult normalizedParentResult
    (request.logicalContract.scope.maxChildren = 0)
  let fields ← terminalFields request normalized message
  let envelope ← terminalEnvelope fields
  TerminalParentResult.fromEnvelope envelope

end
end DwSuperApps.Source.TerminalResult
