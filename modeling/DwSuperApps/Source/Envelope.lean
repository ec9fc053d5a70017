import DwSuperApps.Lib.Checked
import DwSuperApps.Lib.Text

/-!
# Mailbox/v2 envelope

`taskcontroller/interaction/mailbox_v2.py` and `schemas/mailbox_v2.schema.json`.
The fields of an envelope are typed as the schema types them; what the schema
asks of a value beyond its type is `EnvelopeFields.conforms`, and an envelope is
a record of fields that `from_dict` lets through. The top-level `digest` is
always the canonical one, so it is a function of the other fields.

The schema's patterns end in `$`, which also matches before a final line feed.
-/
namespace DwSuperApps.Source.Envelope

open DwSuperApps.Lib DwSuperApps.Lib.Checked

/-! ## Exceptions -/

/-- Exception classes of the control plane. -/
inductive ErrorClass where
  | validation | mailboxV2 | terminalResult | resultResume | leaseBinding | orchestrationPolicy
  | materialization | valueError | typeError | semanticAcceptance | decisionMapping
  deriving DecidableEq

/-- A raised exception; `code` is empty for a class without one. -/
structure Raised where
  kind : ErrorClass
  code : String := ""
  message : String
  deriving DecidableEq

/-- `MailboxV2ErrorCode`, the members raised by the modelled functions. -/
inductive MailboxV2ErrorCode where
  | schemaInvalid | invalidSequence | staleGeneration | contractMismatch | boundaryMismatch
  | manifestVersionMismatch | digestMismatch
  deriving DecidableEq

def MailboxV2ErrorCode.value : MailboxV2ErrorCode → String
  | .schemaInvalid => "SCHEMA_INVALID"
  | .invalidSequence => "INVALID_SEQUENCE"
  | .staleGeneration => "STALE_GENERATION"
  | .contractMismatch => "CONTRACT_MISMATCH"
  | .boundaryMismatch => "BOUNDARY_MISMATCH"
  | .manifestVersionMismatch => "MANIFEST_VERSION_MISMATCH"
  | .digestMismatch => "DIGEST_MISMATCH"

/-- `MailboxV2ValidationError(code, message)`. -/
def mailboxError (code : MailboxV2ErrorCode) (message : String) : Raised :=
  ⟨.mailboxV2, code.value, message⟩

/-- `str(exc)`. -/
def Raised.text (e : Raised) : String :=
  if e.code = "" then e.message else s!"{e.code}: {e.message}"

/-! ## Vocabulary -/

def v2Protocol : String := "dw.taskcontroller.mailbox/v2"
def sourceManifestVersion : String := "dw-source-manifest-json/v1"

inductive Direction where
  | controllerToExecutor | executorToController
  deriving DecidableEq

def Direction.value : Direction → String
  | .controllerToExecutor => "controller_to_executor"
  | .executorToController => "executor_to_controller"

inductive MessageType where
  | executionRequest | executionProgress | childResult | reviewFinding | mixerResult | terminalResult
  deriving DecidableEq

def MessageType.value : MessageType → String
  | .executionRequest => "execution_request"
  | .executionProgress => "execution_progress"
  | .childResult => "child_result"
  | .reviewFinding => "review_finding"
  | .mixerResult => "mixer_result"
  | .terminalResult => "terminal_result"

/-- Message types whose `result` is required. -/
def MessageType.carriesResult : MessageType → Bool
  | .childResult | .reviewFinding | .mixerResult | .terminalResult => true
  | .executionRequest | .executionProgress => false

inductive Role where
  | controller | executor | child | reviewer | mixer | system
  deriving DecidableEq

def Role.value : Role → String
  | .controller => "controller"
  | .executor => "executor"
  | .child => "child"
  | .reviewer => "reviewer"
  | .mixer => "mixer"
  | .system => "system"

inductive ProvenanceStatus where
  | requested | running | succeeded | failed | stale | rejected | needsClarification
  deriving DecidableEq

def ProvenanceStatus.value : ProvenanceStatus → String
  | .requested => "REQUESTED"
  | .running => "RUNNING"
  | .succeeded => "SUCCEEDED"
  | .failed => "FAILED"
  | .stale => "STALE"
  | .rejected => "REJECTED"
  | .needsClarification => "NEEDS_CLARIFICATION"

/-! ## Schema values -/

/-- `re.search` of a pattern anchored at both ends. -/
def anchored (full : List Char → Bool) (s : String) : Bool :=
  full s.toList || (s.toList.getLast? == some '\n' && full s.toList.dropLast)

/-- `#/$defs/id`. -/
def isId (s : String) : Bool := anchored isIdentifierChars s && s.length ≤ 128

/-- `#/$defs/non_empty`. -/
def isNonEmpty (s : String) : Bool := s ≠ "" && s.length ≤ 4096

/-- `#/$defs/digest`. -/
def isDigestText (s : String) : Bool := anchored isDigestChars s

def isRepositoryChars (l : List Char) : Bool :=
  let owner := l.takeWhile (· ≠ '/')
  let name := (l.dropWhile (· ≠ '/')).drop 1
  '/' ∈ l && owner ≠ [] && name ≠ [] && (owner ++ name).all fun c => c ≠ '/' && !isSpace c

def isCommitChars (l : List Char) : Bool :=
  l.length == 40 && l.all fun c => isHexChar c || ('A' ≤ c && c ≤ 'F')

/-- A nullable text of bounded length. -/
def isShort : Option (Option String) → Bool
  | some (some s) => s.length ≤ 128
  | _ => true

/-- An array of texts with the bounds of a scope list. -/
def isScopeList (minItems : Nat) (items : List String) : Bool :=
  minItems ≤ items.length && items.length ≤ 64 && items.all isNonEmpty && decide items.Nodup

def isRefList (items : List String) : Bool := items.length ≤ 256 && items.all isNonEmpty

/-! ## Sections -/

structure Producer where
  namespaceName : String
  actorId : String
  role : Role
  deriving DecidableEq

structure Recipient where
  capability : String
  agentInstance : String
  deriving DecidableEq

structure Scope where
  allowedActions : List String
  deniedActions : List String
  writableTargets : List String
  sourceRoots : List String
  maxChildren : Nat
  maxParallel : Nat
  maxDepth : Nat
  replanRequiredWhen : Option (List String) := none
  timeBudgetSeconds : Option (Option Nat) := none
  tokenBudget : Option (Option Nat) := none
  deriving DecidableEq

structure LogicalContract where
  contractId : String
  planVersion : String
  contractDigest : String
  boundaryDigest : String
  sourceDigest : String
  objective : String
  scope : Scope
  acceptanceCriteria : List String
  standardsProfileRef : String
  sourceManifestRef : String
  deriving DecidableEq

structure Attempt where
  attemptId : String
  boundaryDigest : String
  attemptNumber : Nat
  leaseGeneration : Nat
  fencingToken : String
  agentInstance : String
  leaseExpiresAt : String
  deriving DecidableEq

@[ext] structure ExecutionIdentity where
  runId : String
  nodeId : String
  planVersion : String
  contractDigest : String
  boundaryDigest : String
  sourceDigest : String
  attemptId : String
  leaseGeneration : Nat
  fencingToken : String
  deriving DecidableEq

structure SourceRef where
  repository : String
  commitSha : String
  path : String
  blobDigest : String
  deriving DecidableEq

structure SourceManifest where
  manifestVersion : String
  digest : String
  sources : List SourceRef
  deriving DecidableEq

structure StandardsProfile where
  profileId : String
  version : String
  digest : String
  deriving DecidableEq

/-- A nullable member that may also be left out is an option of an option. -/
structure Provenance where
  origin : Role
  parentMessageId : Option (Option String) := none
  childId : Option (Option String) := none
  lens : Option (Option String) := none
  agentInstance : String
  status : ProvenanceStatus
  sourceRefs : List String
  evidenceRefs : List String
  resultDigest : Option String
  deriving DecidableEq

/-! ## Serialized form -/

def texts (items : List String) : Json := .arr (items.map .str)

def natOrNull : Option Nat → Json
  | none => .null
  | some n => .int n

/-- A member that may be left out. -/
def optionalMember {α : Type} (name : String) (render : α → Json) : Option α → List (String × Json)
  | none => []
  | some value => [(name, render value)]

def Producer.toDict (p : Producer) : Json :=
  .obj [("namespace", .str p.namespaceName), ("actor_id", .str p.actorId), ("role", .str p.role.value)]

def Recipient.toDict (r : Recipient) : Json :=
  .obj [("capability", .str r.capability), ("agent_instance", .str r.agentInstance)]

def Scope.toDict (s : Scope) : Json :=
  .obj ([("allowed_actions", texts s.allowedActions),
      ("denied_actions", texts s.deniedActions),
      ("writable_targets", texts s.writableTargets),
      ("source_roots", texts s.sourceRoots),
      ("max_children", .int s.maxChildren),
      ("max_parallel", .int s.maxParallel),
      ("max_depth", .int s.maxDepth)] ++
    optionalMember "replan_required_when" texts s.replanRequiredWhen ++
    optionalMember "time_budget_seconds" natOrNull s.timeBudgetSeconds ++
    optionalMember "token_budget" natOrNull s.tokenBudget)

def LogicalContract.toDict (c : LogicalContract) : Json :=
  .obj [("contract_id", .str c.contractId),
    ("plan_version", .str c.planVersion),
    ("contract_digest", .str c.contractDigest),
    ("boundary_digest", .str c.boundaryDigest),
    ("source_digest", .str c.sourceDigest),
    ("objective", .str c.objective),
    ("scope", c.scope.toDict),
    ("acceptance_criteria", texts c.acceptanceCriteria),
    ("standards_profile_ref", .str c.standardsProfileRef),
    ("source_manifest_ref", .str c.sourceManifestRef)]

def Attempt.toDict (a : Attempt) : Json :=
  .obj [("attempt_id", .str a.attemptId),
    ("boundary_digest", .str a.boundaryDigest),
    ("attempt_number", .int a.attemptNumber),
    ("lease_generation", .int a.leaseGeneration),
    ("fencing_token", .str a.fencingToken),
    ("agent_instance", .str a.agentInstance),
    ("lease_expires_at", .str a.leaseExpiresAt)]

def ExecutionIdentity.members (i : ExecutionIdentity) : List (String × Json) :=
  [("run_id", .str i.runId),
    ("node_id", .str i.nodeId),
    ("plan_version", .str i.planVersion),
    ("contract_digest", .str i.contractDigest),
    ("boundary_digest", .str i.boundaryDigest),
    ("source_digest", .str i.sourceDigest),
    ("attempt_id", .str i.attemptId),
    ("lease_generation", .int i.leaseGeneration),
    ("fencing_token", .str i.fencingToken)]

def SourceRef.toDict (s : SourceRef) : Json :=
  .obj [("repository", .str s.repository), ("commit_sha", .str s.commitSha), ("path", .str s.path),
    ("blob_digest", .str s.blobDigest)]

def SourceManifest.toDict (m : SourceManifest) : Json :=
  .obj [("manifest_version", .str m.manifestVersion), ("digest", .str m.digest),
    ("sources", .arr (m.sources.map SourceRef.toDict))]

def StandardsProfile.toDict (p : StandardsProfile) : Json :=
  .obj [("profile_id", .str p.profileId), ("version", .str p.version), ("digest", .str p.digest)]

def Provenance.toDict (p : Provenance) : Json :=
  .obj ([("origin", .str p.origin.value)] ++
    optionalMember "parent_message_id" .ofOption p.parentMessageId ++
    optionalMember "child_id" .ofOption p.childId ++
    optionalMember "lens" .ofOption p.lens ++
    [("agent_instance", .str p.agentInstance),
      ("status", .str p.status.value),
      ("source_refs", texts p.sourceRefs),
      ("evidence_refs", texts p.evidenceRefs),
      ("result_digest", .ofOption p.resultDigest)])

/-! ## Schema of the sections -/

def Scope.conforms (s : Scope) : Bool :=
  isScopeList 1 s.allowedActions && isScopeList 0 s.deniedActions &&
    isScopeList 0 s.writableTargets && isScopeList 1 s.sourceRoots &&
    s.maxChildren ≤ 64 && 1 ≤ s.maxParallel && s.maxParallel ≤ 64 && s.maxDepth ≤ 8 &&
    s.replanRequiredWhen.all (isScopeList 1) &&
    s.timeBudgetSeconds.all (·.all fun n => 1 ≤ n && n ≤ 3600) &&
    s.tokenBudget.all (·.all fun n => 1 ≤ n && n ≤ 1000000)

def LogicalContract.conforms (c : LogicalContract) : Bool :=
  isId c.contractId && isId c.planVersion && isDigestText c.contractDigest &&
    isDigestText c.boundaryDigest && isDigestText c.sourceDigest && isNonEmpty c.objective &&
    c.scope.conforms && 1 ≤ c.acceptanceCriteria.length && c.acceptanceCriteria.length ≤ 64 &&
    c.acceptanceCriteria.all isNonEmpty && isNonEmpty c.standardsProfileRef &&
    isId c.sourceManifestRef

def Attempt.conforms (a : Attempt) : Bool :=
  isId a.attemptId && isDigestText a.boundaryDigest && 1 ≤ a.attemptNumber &&
    isNonEmpty a.fencingToken && isId a.agentInstance && isNonEmpty a.leaseExpiresAt

def ExecutionIdentity.conforms (i : ExecutionIdentity) : Bool :=
  isId i.runId && isId i.nodeId && isId i.planVersion && isDigestText i.contractDigest &&
    isDigestText i.boundaryDigest && isDigestText i.sourceDigest && isId i.attemptId &&
    isNonEmpty i.fencingToken

def SourceRef.conforms (s : SourceRef) : Bool :=
  anchored isRepositoryChars s.repository && anchored isCommitChars s.commitSha &&
    isNonEmpty s.path && isDigestText s.blobDigest

def SourceManifest.conforms (m : SourceManifest) : Bool :=
  isNonEmpty m.manifestVersion && isDigestText m.digest && 1 ≤ m.sources.length &&
    m.sources.length ≤ 256 && m.sources.all SourceRef.conforms && decide m.sources.Nodup

def StandardsProfile.conforms (p : StandardsProfile) : Bool :=
  isId p.profileId && isId p.version && isDigestText p.digest

def Provenance.conforms (p : Provenance) : Bool :=
  isShort p.parentMessageId && isShort p.childId && isShort p.lens && isId p.agentInstance &&
    isRefList p.sourceRefs && isRefList p.evidenceRefs && p.resultDigest.all isDigestText

/-! ### The result object -/

/-- An object with every required member and none outside the two lists, whose
members pass their checks. -/
def isRecord (required optional : List (String × (Json → Bool))) : Json → Bool
  | .obj members =>
    required.all (fun f => (Json.member members f.1).any f.2) &&
      optional.all (fun f => (Json.member members f.1).all f.2) &&
      members.all fun m => m.1 ∈ (required ++ optional).map Prod.fst
  | _ => false

def isText (check : String → Bool) : Json → Bool
  | .str s => check s
  | _ => false

def isTextArray (minItems maxItems : Nat) (check : String → Bool) : Json → Bool
  | .arr items => minItems ≤ items.length && items.length ≤ maxItems && items.all (isText check)
  | _ => false

/-- A number of the unit interval. Other numbers are kept by their decimal text,
which starts with `0.` exactly inside the interval (exponents aside). -/
def isConfidence : Json → Bool
  | .int n => n = 0 || n = 1
  | .float text => text ∈ ["1.0", "-0.0"] || text.toList.take 2 = "0.".toList ||
      ('e' ∈ text.toList && '-' ∈ (text.toList.dropWhile (· ≠ 'e')) && '-' ∉ text.toList.take 1)
  | _ => false

def isConflictGroup : Json → Bool
  | .null => true
  | .str s => s.length ≤ 128
  | _ => false

/-- `#/$defs/finding`. -/
def isFinding : Json → Bool :=
  isRecord
    [("finding_id", isText isId),
      ("severity", isText (· ∈ ["critical", "major", "minor", "info"])),
      ("category", isText isNonEmpty), ("lens", isText isNonEmpty), ("claim", isText isNonEmpty),
      ("evidence_refs", isTextArray 1 256 isNonEmpty), ("recommendation", isText isNonEmpty),
      ("reviewer", isText isId),
      ("disposition", isText (· ∈ ["OPEN", "ACCEPTED", "REJECTED", "DEFERRED", "ESCALATED"]))]
    [("confidence", isConfidence), ("conflict_group", isConflictGroup)]

def isFindings : Json → Bool
  | .arr items => items.length ≤ 256 && items.all isFinding
  | _ => false

/-- `#/$defs/result`. -/
def isResult : Json → Bool :=
  isRecord
    [("status", isText (· ∈ ["SUCCEEDED", "FAILED", "NEEDS_CLARIFICATION", "STALE", "REJECTED"])),
      ("boundary_digest", isText isDigestText), ("result_digest", isText isDigestText),
      ("artifact_refs", isTextArray 0 256 isNonEmpty), ("findings", isFindings)]
    []

def isObjectOrNull : Json → Bool
  | .null | .obj _ => true
  | _ => false

/-! ## Envelopes -/

/-- The members of an envelope other than `protocol` and `digest`. `result` may be
left out; `payload` is any object. -/
structure EnvelopeFields where
  messageId : String
  runId : String
  nodeId : String
  seq : Nat
  correlationId : String
  direction : Direction
  messageType : MessageType
  producer : Producer
  recipient : Recipient
  logicalContract : LogicalContract
  attempt : Attempt
  executionIdentity : ExecutionIdentity
  sourceManifest : SourceManifest
  standardsProfile : StandardsProfile
  payload : List (String × Json)
  provenance : Provenance
  result : Option Json := none
  idempotencyKey : String
  deriving DecidableEq

namespace EnvelopeFields

/-- The normative schema. -/
def conforms (f : EnvelopeFields) : Bool :=
  isId f.messageId && isId f.runId && isId f.nodeId && isId f.correlationId &&
    isId f.producer.namespaceName && isId f.producer.actorId && isNonEmpty f.recipient.capability &&
    isId f.recipient.agentInstance && f.logicalContract.conforms && f.attempt.conforms &&
    f.executionIdentity.conforms && f.sourceManifest.conforms && f.standardsProfile.conforms &&
    f.provenance.conforms && isId f.idempotencyKey &&
    (if f.messageType.carriesResult then f.result.any isResult else f.result.all isObjectOrNull)

/-- `payload["result"]["boundary_digest"]` of a result object. -/
def resultMember (f : EnvelopeFields) (name : String) : Option Json :=
  match f.result with
  | some (.obj members) => Json.member members name
  | _ => none

/-- `_validate_identity_consistency`: the first binding that fails. -/
def inconsistency (f : EnvelopeFields) : Option Raised :=
  let identity := f.executionIdentity
  let logical := f.logicalContract
  if identity.runId ≠ f.runId ∨ identity.nodeId ≠ f.nodeId then
    some (mailboxError .contractMismatch "execution identity does not bind run/node")
  else if identity.planVersion ≠ logical.planVersion then
    some (mailboxError .contractMismatch "plan version is not bound to logical contract")
  else if identity.contractDigest ≠ logical.contractDigest then
    some (mailboxError .contractMismatch "contract digest is not bound to logical contract")
  else if identity.boundaryDigest ≠ logical.boundaryDigest then
    some (mailboxError .boundaryMismatch "boundary digest is not bound to logical contract")
  else if f.attempt.boundaryDigest ≠ logical.boundaryDigest then
    some (mailboxError .boundaryMismatch "boundary digest is not bound to attempt")
  else if f.result ∉ [none, some .null] ∧
      f.resultMember "boundary_digest" ≠ some (.str logical.boundaryDigest) then
    some (mailboxError .boundaryMismatch "boundary digest is not bound to result")
  else if identity.sourceDigest ≠ logical.sourceDigest then
    some (mailboxError .contractMismatch "source digest is not bound to logical contract")
  else if identity.attemptId ≠ f.attempt.attemptId then
    some (mailboxError .contractMismatch "attempt ID is not bound to attempt")
  else if identity.leaseGeneration ≠ f.attempt.leaseGeneration then
    some (mailboxError .staleGeneration "lease generation is not self-consistent")
  else if identity.fencingToken ≠ f.attempt.fencingToken then
    some (mailboxError .staleGeneration "fencing token is not bound to attempt")
  else if f.sourceManifest.digest ≠ logical.sourceDigest then
    some (mailboxError .digestMismatch "source manifest digest differs from contract source digest")
  else none

/-- The first check of `from_dict` that fails. -/
def problem (f : EnvelopeFields) : Option Raised :=
  if ¬ f.conforms then some (mailboxError .schemaInvalid "schema validation failed")
  else if f.sourceManifest.manifestVersion ≠ sourceManifestVersion then
    some (mailboxError .manifestVersionMismatch s!"expected {sourceManifestVersion}")
  else f.inconsistency

/-- The members the digest covers. -/
def body (f : EnvelopeFields) : List (String × Json) :=
  [("protocol", .str v2Protocol),
    ("message_id", .str f.messageId),
    ("run_id", .str f.runId),
    ("node_id", .str f.nodeId),
    ("seq", .int f.seq),
    ("correlation_id", .str f.correlationId),
    ("direction", .str f.direction.value),
    ("message_type", .str f.messageType.value),
    ("producer", f.producer.toDict),
    ("recipient", f.recipient.toDict),
    ("logical_contract", f.logicalContract.toDict),
    ("attempt", f.attempt.toDict),
    ("execution_identity", .obj f.executionIdentity.members),
    ("source_manifest", f.sourceManifest.toDict),
    ("standards_profile", f.standardsProfile.toDict),
    ("payload", .obj f.payload),
    ("provenance", f.provenance.toDict),
    ("idempotency_key", .str f.idempotencyKey)] ++
  optionalMember "result" id f.result

end EnvelopeFields

structure V2MailboxEnvelope extends EnvelopeFields where
  accepted : toEnvelopeFields.problem = none
  deriving DecidableEq

/-- The three checks of an envelope. -/
theorem envelope_sound (e : V2MailboxEnvelope) : e.toEnvelopeFields.conforms = true ∧
    e.sourceManifest.manifestVersion = sourceManifestVersion ∧ e.toEnvelopeFields.inconsistency = none := by
  have accepted := e.accepted
  unfold EnvelopeFields.problem at accepted
  split at accepted
  · cases accepted
  · next conforms =>
    split at accepted
    · cases accepted
    · next version => exact ⟨not_not.mp conforms, not_not.mp version, accepted⟩

theorem guard_none {c : Prop} [Decidable c] {raised : Raised} {rest : Option Raised} :
    (if c then some raised else rest) = none ↔ ¬ c ∧ rest = none := by
  by_cases here : c <;> simp [here]

namespace V2MailboxEnvelope

/-- `V2MailboxEnvelope.from_dict`. -/
def fromFields (f : EnvelopeFields) : Except Raised V2MailboxEnvelope :=
  match h : f.problem with
  | some failure => .error failure
  | none => .ok ⟨f, h⟩

def producerNamespace (e : V2MailboxEnvelope) : String := e.producer.namespaceName

/-- The check of one key of `validate_current_identity`. -/
def validateIdentityKey (e : V2MailboxEnvelope) (key : String) (expected : Json) :
    Except Raised Unit :=
  match Json.member e.executionIdentity.members key with
  | none => .error (mailboxError .schemaInvalid s!"unknown identity key {Json.reprString key}")
  | some actual =>
    ensure (actual = expected)
      (if key = "lease_generation" then
        mailboxError .staleGeneration "lease generation is stale"
      else if key = "boundary_digest" then
        mailboxError .boundaryMismatch "boundary digest differs"
      else mailboxError .contractMismatch s!"identity field {Json.reprString key} differs")

def validateCurrentIdentity (e : V2MailboxEnvelope) (expected : List (String × Json)) :
    Except Raised Unit :=
  checkAll (fun entry => e.validateIdentityKey entry.1 entry.2) expected

variable [Sha256]

/-- `canonical_digest(payload)`, which leaves the `digest` member out. -/
def digest (e : V2MailboxEnvelope) : Digest := canonicalDigest (.obj e.body)

def toDict (e : V2MailboxEnvelope) : Json :=
  .obj (e.body ++ [("digest", .str e.digest.value)])

end V2MailboxEnvelope

end DwSuperApps.Source.Envelope
