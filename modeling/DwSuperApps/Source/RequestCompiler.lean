import Mathlib.Data.Prod.Lex
import DwSuperApps.Lib.Sorted
import DwSuperApps.Source.Boundary
import DwSuperApps.Source.Envelope

/-!
# Bounded mailbox requests

`taskcontroller/controlplane/{request_compiler,retry}.py`: the compiler of one bounded
request into an execution request envelope, and the binding of a retry. Texts and numbers
are typed, structured fields are JSON values, and a `ScopeSpec` is its `to_dict`. The list
fields of a scope are checked in the order of `_SCOPE_KEYS`. `Materialization` reads the
same requests as its scans see them.
-/
namespace DwSuperApps.Source.RequestCompiler

open DwSuperApps.Lib DwSuperApps.Lib.Checked
open DwSuperApps.Source.Envelope
open DwSuperApps.Source.Boundary (ExecutionBoundary maxTimeBudgetSeconds maxTokenBudget)

/-- `==` of two JSON values, which the interpreter supplies. -/
class Equality where
  same : Json → Json → Bool

inductive Failure where
  | mailbox (raised : Raised)
  | boundary (raised : Boundary.Raised)
  | attributeError (message : String)
  | typeError (message : String)
  deriving DecidableEq

/-- `MailboxV2ErrorCode` where this module raises it. -/
inductive Code where
  | schemaInvalid | invalidSequence | staleGeneration | contractMismatch | boundaryMismatch
  | replanRequired
  deriving DecidableEq

def Code.value : Code → String
  | .schemaInvalid => "SCHEMA_INVALID"
  | .invalidSequence => "INVALID_SEQUENCE"
  | .staleGeneration => "STALE_GENERATION"
  | .contractMismatch => "CONTRACT_MISMATCH"
  | .boundaryMismatch => "BOUNDARY_MISMATCH"
  | .replanRequired => "REPLAN_REQUIRED"

/-- `_fail`. -/
def fail (code : Code) (message : String) : Failure := .mailbox ⟨.mailboxV2, code.value, message⟩

def schemaInvalid (message : String) : Failure := fail .schemaInvalid message

abbrev Members := List (String × Json)

/-- The execution boundary of a request: none, a boundary, or a value to read one from. -/
inductive BoundaryInput where
  | absent
  | boundary (value : ExecutionBoundary)
  | value (value : Json)

structure BoundedMailboxRequest where
  messageId : String
  runId : String
  nodeId : String
  seq : Int
  correlationId : String
  contractId : String
  planVersion : String
  contractDigest : String
  boundaryDigest : String
  sourceDigest : String
  sourceManifestRef : String
  objective : String
  scope : Json
  acceptanceCriteria : Json
  sourceRefs : Json
  standardsProfile : Json
  recipientCapability : String
  agentInstance : String
  attemptId : String
  attemptNumber : Int
  leaseGeneration : Int
  fencingToken : String
  leaseExpiresAt : String
  idempotencyKey : String
  evidenceRefs : Json := .arr []
  environmentRequirements : Json := .obj []
  authorityConstraints : Json := .obj []
  standardsProfileRef : Option String := none
  producerNamespace : String := "controller"
  producerActorId : String := "controller"
  executionId : Option String := none
  checkpointId : Option String := none
  payload : Json := .obj []
  executionBoundary : BoundaryInput := .absent

/-! ## Values -/

/-- `type(value).__name__`. -/
def typeName : Json → String
  | .null => "NoneType"
  | .bool _ => "bool"
  | .int _ => "int"
  | .float _ => "float"
  | .str _ => "str"
  | .arr _ => "list"
  | .obj _ => "dict"

/-- `_mapping`. -/
def mapping (value : Json) (name : String) : Except Failure Members :=
  match value with
  | .obj members => .ok members
  | _ => .error (schemaInvalid s!"{name} must be an object")

/-- `_string` of a text. -/
def string (value name : String) : Except Failure Unit :=
  ensure (strip value ≠ "") (schemaInvalid s!"{name} must be non-empty")

/-- `_string` of a value. -/
def stringOf (name : String) : Json → Except Failure String
  | .str value => do
    string value name
    return value
  | _ => .error (schemaInvalid s!"{name} must be non-empty")

/-- `_string_list`, as its two callers that sort use it. -/
def stringList (value : Json) (name : String) : Except Failure (List String) :=
  match value with
  | .arr items => do
    let texts ← items.mapM (stringOf s!"{name}[]")
    ensure texts.Nodup (schemaInvalid s!"{name} must not contain duplicates")
    return Sorted.sortedBy id texts
  | _ => .error (schemaInvalid s!"{name} must be an array")

/-! ## Scope -/

def scopeKeys : List String :=
  ["allowed_actions", "denied_actions", "writable_targets", "source_roots", "max_children",
    "max_parallel", "max_depth", "replan_required_when", "time_budget_seconds", "token_budget"]

def scopeListKeys : List String :=
  ["allowed_actions", "denied_actions", "writable_targets", "source_roots", "replan_required_when"]

/-- `_SCOPE_ALIASES.get(key, key)`. -/
def canonicalKey (key : String) : String :=
  if key = "allowed_work" then "allowed_actions"
  else if key = "forbidden_actions" then "denied_actions"
  else key

section Equal
variable [Equality]

/-- The loop of `canonicalize`. -/
def mergeMembers (name : String) (result : Members) : Members → Except Failure Members
  | [] => .ok result
  | (key, value) :: rest =>
    if key = "boundaries" then mergeMembers name result rest
    else do
      ensure (∀ held ∈ Json.member result (canonicalKey key), Equality.same held value = true)
        (fail .boundaryMismatch s!"{name} contains conflicting values for {canonicalKey key}")
      mergeMembers name (Json.setMember (canonicalKey key) value result) rest

def canonicalize (raw : Members) (name : String) : Except Failure Members :=
  match Json.member raw "boundaries" with
  | none | some .null => mergeMembers name [] raw
  | some (.obj boundaries) => mergeMembers name boundaries raw
  | some _ => .error (schemaInvalid s!"{name}.boundaries must be an object")

/-- `authority_raw.get("scope", authority_raw)`, canonicalized. -/
def canonicalAuthority (raw : Members) : Except Failure Members :=
  match Json.member raw "scope" with
  | none => canonicalize raw "authority_constraints"
  | some (.obj members) => canonicalize members "authority_constraints"
  | some value => .error (.attributeError s!"'{typeName value}' object has no attribute 'get'")

/-- One key of the merged scope: equal where both have it. -/
def mergeKey (base authority : Members) (key : String) : Except Failure Members :=
  match Json.member base key, Json.member authority key with
  | some left, some right => do
    if key ∈ scopeListKeys then
      let ours ← stringList left s!"scope.{key}"
      let theirs ← stringList right s!"authority_constraints.{key}"
      ensure (ours = theirs)
        (fail .boundaryMismatch s!"scope and authority_constraints disagree on {key}")
      return [(key, texts ours)]
    else
      ensure (Equality.same left right = true)
        (fail .boundaryMismatch s!"scope and authority_constraints disagree on {key}")
      return [(key, left)]
  | none, some right => .ok [(key, right)]
  | some left, none => .ok [(key, left)]
  | none, none => .ok []

/-- `normalized.setdefault(key, [])`. -/
def defaultEmpty (key : String) (scope : Members) : Members :=
  if (Json.member scope key).isSome then scope else scope ++ [(key, .arr [])]

/-- A list field that is there, sorted. -/
def sortListField (scope : Members) (key : String) : Except Failure Members :=
  match Json.member scope key with
  | none => .ok scope
  | some value => do
    let items ← stringList value s!"scope.{key}"
    return Json.setMember key (texts items) scope

def boundInteger (scope : Members) (key : String) : Except Failure Unit :=
  match Json.member scope key with
  | some (.int _) => .ok ()
  | _ => .error (schemaInvalid s!"scope.{key} must be explicitly bound as an integer")

def boundBudget (maximum : Int) (scope : Members) (key : String) : Except Failure Members :=
  match Json.member scope key with
  | none | some .null => .ok (Json.setMember key .null scope)
  | some (.int n) => do
    ensure (1 ≤ n ∧ n ≤ maximum)
      (schemaInvalid s!"scope.{key} must be None or an integer between 1 and {maximum}")
    return scope
  | some _ => .error (schemaInvalid s!"scope.{key} must be None or an integer between 1 and {maximum}")

/-- `_normalize_scope`: the normalized scope, and the authority as it was given. -/
def normalizeScope (scope authorityConstraints : Json) : Except Failure (Members × Members) := do
  let given ← mapping scope "scope"
  let authorityRaw ← mapping authorityConstraints "authority_constraints"
  let base ← canonicalize given "scope"
  let authority ← canonicalAuthority authorityRaw
  let unknown := Sorted.sortedBy id
    (((base ++ authority).map Prod.fst).dedup.filter (· ∉ scopeKeys))
  ensure (unknown = []) (schemaInvalid ("unsupported scope fields: " ++ ", ".intercalate unknown))
  let merged ← scopeKeys.mapM (mergeKey base authority)
  let defaulted := defaultEmpty "writable_targets" (defaultEmpty "denied_actions" merged.flatten)
  let sorted ← scopeListKeys.foldlM sortListField defaulted
  checkAll (boundInteger sorted) ["max_children", "max_parallel", "max_depth"]
  let timed ← boundBudget maxTimeBudgetSeconds sorted "time_budget_seconds"
  let normalized ← boundBudget maxTokenBudget timed "token_budget"
  return (normalized, authorityRaw)

/-- `_execution_boundary`. -/
def executionBoundary [Sha256] : BoundaryInput → Except Failure (Option ExecutionBoundary)
  | .absent | .value .null => .ok none
  | .boundary value => .ok (some value)
  | .value (.obj members) =>
    match ExecutionBoundary.fromDict members with
    | .ok boundary => .ok (some boundary)
    | .error e => .error (.boundary e)
  | .value _ => .error (schemaInvalid "execution_boundary must be an ExecutionBoundary object")

/-- The checks of a scope against an execution boundary. -/
def checkBoundary [Sha256] (scope : Members) (boundaryDigest : String) :
    Option ExecutionBoundary → Except Failure Unit
  | none => .ok ()
  | some boundary => do
    let expected := boundary.toDict.filter (·.1 ≠ "scope_digest")
    ensure (Equality.same (.obj scope) (.obj expected) = true)
      (fail .replanRequired "compiled scope does not exactly bind execution_boundary")
    ensure (boundaryDigest = boundary.scopeDigest.value)
      (fail .boundaryMismatch "boundary_digest does not match execution_boundary")

/-! ## Sources, standards, criteria -/

def sourceKeys : List String := ["repository", "commit_sha", "path", "blob_digest"]

/-- A source, with the four texts it is sorted by. -/
structure NormalizedSource where
  members : Members
  repository : String
  commitSha : String
  path : String
  blobDigest : String
  deriving DecidableEq

def normalizeSource (source : Json × Nat) : Except Failure NormalizedSource := do
  let members ← mapping source.1 s!"source_refs[{source.2}]"
  let text (key : String) := stringOf s!"source_refs[{source.2}].{key}" (Json.get members key)
  let repository ← text "repository"
  let commitSha ← text "commit_sha"
  let path ← text "path"
  let blobDigest ← text "blob_digest"
  return { members, repository, commitSha, path, blobDigest }

def NormalizedSource.key (s : NormalizedSource) : String ×ₗ String ×ₗ String ×ₗ String :=
  toLex (s.repository, toLex (s.commitSha, toLex (s.path, s.blobDigest)))

/-- `repository@commit_sha:path`. -/
def NormalizedSource.ref (s : NormalizedSource) : String := s!"{s.repository}@{s.commitSha}:{s.path}"

/-- A member value that cannot be part of a set. -/
def unhashable : Json → Bool
  | .arr _ | .obj _ => true
  | _ => false

/-- The set of the sources' items has as many elements as there are sources. -/
def distinctSources : List Members → Bool
  | [] => true
  | source :: rest =>
    rest.all (fun other => !Equality.same (.obj source) (.obj other)) && distinctSources rest

/-- `_normalize_source_refs`. -/
def normalizeSourceRefs (sourceRefs : Json) : Except Failure (List NormalizedSource) :=
  match sourceRefs with
  | .arr (first :: rest) => do
    let read ← (first :: rest).zipIdx.mapM normalizeSource
    let sources := Sorted.sortedBy NormalizedSource.key read
    match (sources.flatMap fun s => Sorted.sortedBy Prod.fst s.members).find? fun m => unhashable m.2 with
    | some member => .error (.typeError s!"unhashable type: '{typeName member.2}'")
    | none => do
      ensure (distinctSources (sources.map (·.members)) = true)
        (schemaInvalid "source_refs must not contain duplicates")
      return sources
  | _ => .error (schemaInvalid "source_refs must contain at least one source")

end Equal

/-- A standards profile with the three texts that are read of it. -/
structure NormalizedProfile where
  members : Members
  profileId : String
  version : String
  digest : String
  deriving DecidableEq

/-- `_normalize_standards_profile`. -/
def normalizeStandardsProfile (profile : Json) : Except Failure NormalizedProfile := do
  let members ← mapping profile "standards_profile"
  let text (key : String) := stringOf s!"standards_profile.{key}" (Json.get members key)
  let profileId ← text "profile_id"
  let version ← text "version"
  let digest ← text "digest"
  return { members, profileId, version, digest }

/-- `_normalize_criteria`. -/
def normalizeCriteria (criteria : Json) : Except Failure (List String) :=
  match criteria with
  | .arr (first :: rest) => (first :: rest).mapM (stringOf "acceptance_criteria[]")
  | _ => .error (schemaInvalid "acceptance_criteria must contain at least one item")

/-- The reference of the standards profile, `profile/vVERSION` where none is given. -/
def standardsRef (given : Option String) (profile : NormalizedProfile) : String :=
  match given with
  | some ref => ref
  | none =>
    let suffix := if ['v'] <+: profile.version.toList then profile.version else s!"v{profile.version}"
    s!"{profile.profileId}/{suffix}"

/-! ## The compiler -/

/-- What the compiler reads of the fields a retry keeps, before it looks at the others. -/
structure Prepared where
  scope : Members
  authorityRaw : Members
  sources : List NormalizedSource
  criteria : List String
  evidenceRefs : List String
  environment : Members
  standards : NormalizedProfile
  standardsRef : String
  deriving DecidableEq

def prepare [Sha256] [Equality] (bound : BoundedMailboxRequest) : Except Failure Prepared := do
  let (scope, authorityRaw) ← normalizeScope bound.scope bound.authorityConstraints
  let boundary ← executionBoundary bound.executionBoundary
  checkBoundary scope bound.boundaryDigest boundary
  let sources ← normalizeSourceRefs bound.sourceRefs
  let criteria ← normalizeCriteria bound.acceptanceCriteria
  let evidenceRefs ← stringList bound.evidenceRefs "evidence_refs"
  let environment ← mapping bound.environmentRequirements "environment_requirements"
  let standards ← normalizeStandardsProfile bound.standardsProfile
  let ref := standardsRef bound.standardsProfileRef standards
  string ref "standards_profile_ref"
  return { scope, authorityRaw, sources, criteria, evidenceRefs, environment, standards, standardsRef := ref }

/-- The texts that have to be filled, under their names. -/
def stringFields (bound : BoundedMailboxRequest) : List (String × String) := [
  (bound.messageId, "message_id"), (bound.runId, "run_id"), (bound.nodeId, "node_id"),
  (bound.correlationId, "correlation_id"), (bound.contractId, "contract_id"),
  (bound.planVersion, "plan_version"), (bound.contractDigest, "contract_digest"),
  (bound.boundaryDigest, "boundary_digest"), (bound.sourceDigest, "source_digest"),
  (bound.sourceManifestRef, "source_manifest_ref"), (bound.objective, "objective"),
  (bound.recipientCapability, "recipient_capability"), (bound.agentInstance, "agent_instance"),
  (bound.attemptId, "attempt_id"), (bound.fencingToken, "fencing_token"),
  (bound.leaseExpiresAt, "lease_expires_at"), (bound.idempotencyKey, "idempotency_key"),
  (bound.producerNamespace, "producer_namespace"), (bound.producerActorId, "producer_actor_id")]

def checkNumbers (bound : BoundedMailboxRequest) : Except Failure Unit := do
  ensure (0 ≤ bound.seq) (schemaInvalid "seq must be int >= 0")
  ensure (1 ≤ bound.attemptNumber) (schemaInvalid "attempt_number must be int >= 1")
  ensure (0 ≤ bound.leaseGeneration) (schemaInvalid "lease_generation must be int >= 0")

def payloadOwnedKeys : List String :=
  ["objective", "acceptance_criteria", "source_refs", "evidence_refs", "environment_requirements",
    "authority_constraints", "contract_id", "source_manifest_ref", "standards_profile_ref",
    "recipient_capability", "agent_instance", "execution_id", "checkpoint_id"]

/-- An identifier of the request, if it has one, as a member of the payload. -/
def optionalId (name : String) : Option String → Except Failure Members
  | none => .ok []
  | some value => do
    string value name
    return [(name, .str value)]

/-- `request_payload`. -/
def requestPayload (bound : BoundedMailboxRequest) (p : Prepared) : Except Failure Members := do
  let extra ← mapping bound.payload "payload"
  let collision := Sorted.sortedBy id ((extra.map Prod.fst).filter (· ∈ payloadOwnedKeys))
  ensure (collision = [])
    (fail .contractMismatch ("payload cannot override compiler-owned fields: " ++ ", ".intercalate collision))
  let executionId ← optionalId "execution_id" bound.executionId
  let checkpointId ← optionalId "checkpoint_id" bound.checkpointId
  return extra ++ [
    ("objective", .str bound.objective),
    ("acceptance_criteria", texts p.criteria),
    ("source_refs", texts (p.sources.map NormalizedSource.ref)),
    ("evidence_refs", texts p.evidenceRefs),
    ("environment_requirements", .obj p.environment),
    ("authority_constraints", .obj p.authorityRaw),
    ("contract_id", .str bound.contractId),
    ("source_manifest_ref", .str bound.sourceManifestRef),
    ("standards_profile_ref", .str p.standardsRef),
    ("recipient_capability", .str bound.recipientCapability),
    ("agent_instance", .str bound.agentInstance)] ++ executionId ++ checkpointId

mutual
/-- A value `json.dumps(allow_nan=False)` writes. -/
def canonicalJson : Json → Bool
  | .float text => text ∉ ["NaN", "Infinity", "-Infinity"]
  | .arr items => canonicalItems items
  | .obj members => canonicalMembers members
  | _ => true
def canonicalItems : List Json → Bool
  | [] => true
  | item :: rest => canonicalJson item && canonicalItems rest
def canonicalMembers : Members → Bool
  | [] => true
  | (_, value) :: rest => canonicalJson value && canonicalMembers rest
end

/-! ### The schema's types -/

def natOf : Json → Option Nat
  | .int n => if 0 ≤ n then some n.toNat else none
  | _ => none

def budgetOf : Json → Option (Option Nat)
  | .null => some none
  | value => (natOf value).map some

def textOf : Json → Option String
  | .str value => some value
  | _ => none

def textsOf : Json → Option (List String)
  | .arr items => items.mapM textOf
  | _ => none

/-- A scope of the schema, from a normalized one. -/
def scopeOf (scope : Members) : Option Scope := do
  let field (key : String) := Json.member scope key
  let allowedActions ← (field "allowed_actions").bind textsOf
  let deniedActions ← (field "denied_actions").bind textsOf
  let writableTargets ← (field "writable_targets").bind textsOf
  let sourceRoots ← (field "source_roots").bind textsOf
  let maxChildren ← (field "max_children").bind natOf
  let maxParallel ← (field "max_parallel").bind natOf
  let maxDepth ← (field "max_depth").bind natOf
  let replanRequiredWhen ← match field "replan_required_when" with
    | none => some none
    | some value => (textsOf value).map some
  let timeBudgetSeconds ← (field "time_budget_seconds").bind budgetOf
  let tokenBudget ← (field "token_budget").bind budgetOf
  return {
    allowedActions, deniedActions, writableTargets, sourceRoots, maxChildren, maxParallel, maxDepth
    replanRequiredWhen, timeBudgetSeconds := some timeBudgetSeconds, tokenBudget := some tokenBudget }

/-- The names of the members are these and no others. -/
def onlyNames (names : List String) (members : Members) : Bool := members.all fun m => m.1 ∈ names

def sourceOf (s : NormalizedSource) : Option SourceRef :=
  if onlyNames sourceKeys s.members then some ⟨s.repository, s.commitSha, s.path, s.blobDigest⟩ else none

def profileOf (p : NormalizedProfile) : Option StandardsProfile :=
  if onlyNames ["profile_id", "version", "digest"] p.members then some ⟨p.profileId, p.version, p.digest⟩
  else none

/-- The envelope's parts that a retry keeps. -/
structure Kept where
  logicalContract : LogicalContract
  sourceManifest : SourceManifest
  standardsProfile : StandardsProfile
  payload : Members
  provenance : Provenance
  deriving DecidableEq

def keptParts (bound : BoundedMailboxRequest) (p : Prepared) (payload : Members) : Option Kept := do
  let scope ← scopeOf p.scope
  let sources ← p.sources.mapM sourceOf
  let standardsProfile ← profileOf p.standards
  let refs := p.sources.map NormalizedSource.ref
  return {
    logicalContract := {
      contractId := bound.contractId
      planVersion := bound.planVersion
      contractDigest := bound.contractDigest
      boundaryDigest := bound.boundaryDigest
      sourceDigest := bound.sourceDigest
      objective := bound.objective
      scope := scope
      acceptanceCriteria := p.criteria
      standardsProfileRef := p.standardsRef
      sourceManifestRef := bound.sourceManifestRef }
    sourceManifest := ⟨sourceManifestVersion, bound.sourceDigest, sources⟩
    standardsProfile := standardsProfile
    payload := payload
    provenance := {
      origin := .controller
      parentMessageId := some none
      childId := some none
      lens := some none
      agentInstance := bound.agentInstance
      status := .requested
      sourceRefs := refs
      evidenceRefs := p.evidenceRefs
      resultDigest := none } }

/-- `candidate`, where its values have the types of the schema. -/
def candidate (bound : BoundedMailboxRequest) (k : Kept) : EnvelopeFields where
  messageId := bound.messageId
  runId := bound.runId
  nodeId := bound.nodeId
  seq := bound.seq.toNat
  correlationId := bound.correlationId
  direction := .controllerToExecutor
  messageType := .executionRequest
  producer := ⟨bound.producerNamespace, bound.producerActorId, .controller⟩
  recipient := ⟨bound.recipientCapability, bound.agentInstance⟩
  logicalContract := k.logicalContract
  attempt := {
    attemptId := bound.attemptId
    boundaryDigest := bound.boundaryDigest
    attemptNumber := bound.attemptNumber.toNat
    leaseGeneration := bound.leaseGeneration.toNat
    fencingToken := bound.fencingToken
    agentInstance := bound.agentInstance
    leaseExpiresAt := bound.leaseExpiresAt }
  executionIdentity := {
    runId := bound.runId
    nodeId := bound.nodeId
    planVersion := bound.planVersion
    contractDigest := bound.contractDigest
    boundaryDigest := bound.boundaryDigest
    sourceDigest := bound.sourceDigest
    attemptId := bound.attemptId
    leaseGeneration := bound.leaseGeneration.toNat
    fencingToken := bound.fencingToken }
  sourceManifest := k.sourceManifest
  standardsProfile := k.standardsProfile
  payload := k.payload
  provenance := k.provenance
  result := some .null
  idempotencyKey := bound.idempotencyKey

/-- `compile_bounded_mailbox_request`. -/
def compileBoundedMailboxRequest [Sha256] [Equality] (bound : BoundedMailboxRequest) :
    Except Failure V2MailboxEnvelope := do
  let prepared ← prepare bound
  checkAll (fun field => string field.1 field.2) (stringFields bound)
  checkNumbers bound
  let payload ← requestPayload bound prepared
  ensure (canonicalMembers payload = true ∧ canonicalMembers prepared.standards.members = true ∧
      prepared.sources.all (fun s => canonicalMembers s.members) = true)
    (schemaInvalid "value is not canonical JSON: Out of range float values are not JSON compliant")
  match keptParts bound prepared payload with
  | none => .error (schemaInvalid "schema validation failed")
  | some kept => (V2MailboxEnvelope.fromFields (candidate bound kept)).mapError .mailbox

/-! ## Retries -/

/-- `_text`. -/
def text (value field : String) : Except Failure Unit :=
  ensure (strip value ≠ "" ∧ '\x00' ∉ value.toList)
    (schemaInvalid s!"{field} must be a non-empty string")

/-- `_new_text`. -/
def newText (value field previous : String) : Except Failure Unit := do
  text value field
  ensure (value ≠ previous) (fail .contractMismatch s!"{field} must be new for a retry attempt")

/-- The values the Controller supplies for a retry. -/
structure Attempted where
  messageId : String
  seq : Int
  attemptId : String
  leaseGeneration : Int
  fencingToken : String
  leaseExpiresAt : String
  idempotencyKey : String
  correlationId : Option String := none
  deriving DecidableEq

def checkCorrelation : Option String → Except Failure Unit
  | none => .ok ()
  | some correlationId => text correlationId "correlation_id"

/-- The request of the next attempt. -/
def nextAttempt (previous : BoundedMailboxRequest) (given : Attempted) : BoundedMailboxRequest :=
  { previous with
    messageId := given.messageId
    seq := given.seq
    correlationId := given.correlationId.getD previous.correlationId
    attemptId := given.attemptId
    attemptNumber := previous.attemptNumber + 1
    leaseGeneration := given.leaseGeneration
    fencingToken := given.fencingToken
    leaseExpiresAt := given.leaseExpiresAt
    idempotencyKey := given.idempotencyKey }

/-- `retry_bounded_mailbox_request`. -/
def retryBoundedMailboxRequest [Sha256] [Equality] (previous : BoundedMailboxRequest)
    (given : Attempted) : Except Failure BoundedMailboxRequest := do
  let _ ← compileBoundedMailboxRequest previous
  newText given.messageId "message_id" previous.messageId
  newText given.attemptId "attempt_id" previous.attemptId
  newText given.fencingToken "fencing_token" previous.fencingToken
  newText given.idempotencyKey "idempotency_key" previous.idempotencyKey
  text given.leaseExpiresAt "lease_expires_at"
  ensure (0 ≤ given.seq) (schemaInvalid "seq must be an integer greater than or equal to zero")
  ensure (previous.seq < given.seq)
    (fail .invalidSequence "retry mailbox sequence must be newer than the previous request")
  ensure (0 ≤ given.leaseGeneration)
    (schemaInvalid "lease_generation must be an integer greater than or equal to zero")
  ensure (previous.leaseGeneration < given.leaseGeneration)
    (fail .staleGeneration "retry lease_generation must be newer than the previous attempt")
  checkCorrelation given.correlationId
  return nextAttempt previous given

end DwSuperApps.Source.RequestCompiler
