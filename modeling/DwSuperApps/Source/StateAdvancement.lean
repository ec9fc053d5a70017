import DwSuperApps.Source.Envelope
import DwSuperApps.Source.Lease

/-!
# State-advancing writes

`taskcontroller/interaction/state_advancement.py` with the two fences it calls,
`controlplane/generation_fence.py` and `controlplane/lease_binding.py`. The fences
are modelled as this caller uses them: the candidate is an envelope and no
identity is expected beside its own. A decision carries its failed checks only
where it is stale, as the constructors of the source check.
-/
namespace DwSuperApps.Source.StateAdvancement

open DwSuperApps.Lib DwSuperApps.Lib.Checked
open DwSuperApps.Source.Envelope
open DwSuperApps.Source.Runtime (Identifier LeaseStatus WorkLease IsoTime Timestamps)

/-! ## Values of an identity -/

/-- A value of a current identity. A float is known by the integer it equals, if
any; `other` is equal to no text and no number. -/
inductive IdentityValue where
  | null | text (value : String) | int (value : Int) | bool (value : Bool)
  | float (whole : Option Int) | other
  deriving DecidableEq

namespace IdentityValue

/-- The integer a value compares as. -/
def number : IdentityValue → Option Int
  | .int n => some n
  | .bool b => some b.toNat
  | .float whole => whole
  | _ => none

/-- `==`, where one side is a text or a number. -/
def equals : IdentityValue → IdentityValue → Bool
  | .text s, .text t => s == t
  | a, b => a.number.isSome && a.number == b.number

end IdentityValue

/-- `envelope.execution_identity`. -/
def identityValues (i : ExecutionIdentity) : Dict String IdentityValue where
  entries := [("run_id", .text i.runId),
    ("node_id", .text i.nodeId),
    ("plan_version", .text i.planVersion),
    ("contract_digest", .text i.contractDigest),
    ("boundary_digest", .text i.boundaryDigest),
    ("source_digest", .text i.sourceDigest),
    ("attempt_id", .text i.attemptId),
    ("lease_generation", .int i.leaseGeneration),
    ("fencing_token", .text i.fencingToken)]
  distinct := by simp

section
variable (i : ExecutionIdentity)

@[simp] theorem identityValues_run : (identityValues i).get? "run_id" = some (.text i.runId) := rfl
@[simp] theorem identityValues_node : (identityValues i).get? "node_id" = some (.text i.nodeId) := rfl
@[simp] theorem identityValues_plan :
    (identityValues i).get? "plan_version" = some (.text i.planVersion) := rfl
@[simp] theorem identityValues_attempt :
    (identityValues i).get? "attempt_id" = some (.text i.attemptId) := rfl
@[simp] theorem identityValues_generation :
    (identityValues i).get? "lease_generation" = some (.int i.leaseGeneration) := rfl
@[simp] theorem identityValues_token :
    (identityValues i).get? "fencing_token" = some (.text i.fencingToken) := rfl
@[simp] theorem identityValues_execution : (identityValues i).get? "execution_id" = none := rfl

end

/-- `_text` of both fences: the stripped text. -/
def textValue {ε : Type} (invalid : String → ε) (value : IdentityValue) (field : String) :
    Except ε String :=
  match value with
  | .text s =>
    if strip s = "" ∨ '\x00' ∈ s.toList then
      .error (invalid s!"{field} must be a non-empty text value")
    else .ok (strip s)
  | _ => .error (invalid s!"{field} must be a non-empty text value")

/-- The disposition of a decision. -/
inductive Disposition where
  | accepted
  | staleResult (first : String) (rest : List String)
  deriving DecidableEq

namespace Disposition

/-- Stale for the failed checks, if there are any. -/
def ofFailed : List String → Disposition
  | [] => .accepted
  | first :: rest => .staleResult first rest

def failedChecks : Disposition → List String
  | .accepted => []
  | .staleResult first rest => first :: rest

def advancesState : Disposition → Bool
  | .accepted => true
  | .staleResult _ _ => false

def evidenceOnly (d : Disposition) : Bool := !d.advancesState

end Disposition

/-- The field, where the comparison fails. -/
def mismatch (field : String) (same : Prop) [Decidable same] : List String :=
  if same then [] else [field]

/-! ## Generation fence -/

structure GenerationFenceError where
  code : String
  message : String
  failedChecks : List String := []
  deriving DecidableEq

/-- `str(exc)`. -/
def GenerationFenceError.text (e : GenerationFenceError) : String := s!"{e.code}: {e.message}"

namespace GenerationFence

def requiredFields : List String :=
  ["run_id", "node_id", "attempt_id", "lease_generation", "fencing_token"]

def schemaInvalid (message : String) : GenerationFenceError := ⟨"SCHEMA_INVALID", message, []⟩

def text : IdentityValue → String → Except GenerationFenceError String := textValue schemaInvalid

/-- `_generation`. -/
def generation (value : IdentityValue) (field : String) : Except GenerationFenceError Int :=
  match value with
  | .int n => do
    ensure (0 ≤ n) (schemaInvalid s!"{field} must be a non-negative integer")
    return n
  | _ => .error (schemaInvalid s!"{field} must be a non-negative integer")

/-- A normalized identity. -/
structure Identity where
  runId : String
  nodeId : String
  attemptId : String
  leaseGeneration : Int
  fencingToken : String
  executionId : Option String
  deriving DecidableEq

/-- `candidate[field]` of a field that is there. -/
def fieldOf (candidate : Dict String IdentityValue) (field : String) : IdentityValue :=
  (candidate.get? field).getD .null

/-- The `execution_id`, where there is one. -/
def executionId (candidate : Dict String IdentityValue) (name : String) :
    Except GenerationFenceError (Option String) :=
  match candidate.get? "execution_id" with
  | none | some .null => .ok none
  | some value => do
    let normalized ← text value s!"{name}.execution_id"
    return some normalized

/-- `_identity`. -/
def identity (candidate : Dict String IdentityValue) (name : String) :
    Except GenerationFenceError Identity := do
  let missing := requiredFields.filter fun field => (candidate.get? field).isNone
  ensure (missing = [])
    ⟨"SCHEMA_INVALID", s!"{name} is missing: " ++ ", ".intercalate missing, missing⟩
  let runId ← text (fieldOf candidate "run_id") s!"{name}.run_id"
  let nodeId ← text (fieldOf candidate "node_id") s!"{name}.node_id"
  let attemptId ← text (fieldOf candidate "attempt_id") s!"{name}.attempt_id"
  let leaseGeneration ←
    generation (fieldOf candidate "lease_generation") s!"{name}.lease_generation"
  let fencingToken ← text (fieldOf candidate "fencing_token") s!"{name}.fencing_token"
  let executionId ← executionId candidate name
  return ⟨runId, nodeId, attemptId, leaseGeneration, fencingToken, executionId⟩

/-- The fields that differ; `execution_id` only where both sides have it. -/
def failures (actual expected : Identity) : List String :=
  mismatch "run_id" (actual.runId = expected.runId) ++
    mismatch "node_id" (actual.nodeId = expected.nodeId) ++
    mismatch "attempt_id" (actual.attemptId = expected.attemptId) ++
    mismatch "lease_generation" (actual.leaseGeneration = expected.leaseGeneration) ++
    mismatch "fencing_token" (actual.fencingToken = expected.fencingToken) ++
    match actual.executionId, expected.executionId with
    | some a, some b => mismatch "execution_id" (a = b)
    | _, _ => []

/-- `evaluate_generation_fence`. -/
def evaluate (candidate current : Dict String IdentityValue) :
    Except GenerationFenceError Disposition := do
  let actual ← identity candidate "candidate"
  let expected ← identity current "current"
  return .ofFailed (failures actual expected)

end GenerationFence

/-! ## Lease binding -/

structure LeaseBindingError where
  code : String
  message : String
  failedChecks : List String := []
  deriving DecidableEq

/-- `str(exc)`. -/
def LeaseBindingError.text (e : LeaseBindingError) : String := s!"{e.code}: {e.message}"

/-- What a lease fence raises; the conversion to UTC can overflow. -/
inductive FenceFailure where
  | leaseBinding (error : LeaseBindingError) | overflowError (message : String)
  deriving DecidableEq

structure AttemptLeaseBinding where
  runId : Identifier
  nodeId : Identifier
  executionId : Identifier
  attemptId : Identifier
  leaseId : Identifier
  holder : Identifier
  fencingToken : String
  leaseGeneration : Nat
  grantedAt : String
  expiresAt : String
  resourceRef : Option String
  status : LeaseStatus
  deriving DecidableEq

/-- The argument `active_lease` of a fence. -/
inductive ObservedLease where
  | absent | notALease | lease (value : WorkLease)
  deriving DecidableEq

/-- An accepted fence has its binding. -/
inductive LeaseFence where
  | accepted (binding : AttemptLeaseBinding)
  | stale (first : String) (rest : List String) (binding : Option AttemptLeaseBinding)
  deriving DecidableEq

structure LeaseFenceDecision where
  envelopeDigest : Digest
  fence : LeaseFence
  deriving DecidableEq

namespace LeaseBinding

def text : IdentityValue → String → Except LeaseBindingError String :=
  textValue (⟨"ATTEMPT_LEASE_INVALID", ·, []⟩)

/-- The attempt's texts, stripped. -/
structure AttemptTexts where
  attemptId : String
  fencingToken : String
  agentInstance : String
  expiresAt : String
  deriving DecidableEq

def attemptTexts (a : Attempt) : Except LeaseBindingError AttemptTexts := do
  let attemptId ← text (.text a.attemptId) "attempt_id"
  let fencingToken ← text (.text a.fencingToken) "fencing_token"
  let agentInstance ← text (.text a.agentInstance) "agent_instance"
  let expiresAt ← text (.text a.leaseExpiresAt) "lease_expires_at"
  return ⟨attemptId, fencingToken, agentInstance, expiresAt⟩

/-- The comparisons of `bind_attempt_to_work_lease`, in order: the attempt's
stripped texts, then the identity as it is. -/
def mismatches (generation : Nat) (i : ExecutionIdentity) (t : AttemptTexts) (lease : WorkLease) :
    List String :=
  mismatch "attempt_id" (t.attemptId = lease.attemptId) ++
    mismatch "fencing_token" (t.fencingToken = lease.fencingToken) ++
    mismatch "holder" (t.agentInstance = lease.holder) ++
    mismatch "lease_expires_at" (t.expiresAt = lease.expiresAt) ++
    mismatch "lease_generation" (∀ held ∈ lease.leaseGeneration, generation = held) ++
    mismatch "run_id" (i.runId = lease.runId) ++
    mismatch "node_id" (i.nodeId = lease.nodeId) ++
    mismatch "attempt_id" (i.attemptId = lease.attemptId) ++
    mismatch "fencing_token" (i.fencingToken = lease.fencingToken) ++
    mismatch "lease_generation" (i.leaseGeneration = generation)

/-- `bind_attempt_to_work_lease(envelope, lease)`. Neither the attempt nor the
identity of an envelope has an `execution_id` or a `lease_id`. -/
def bindAttemptToWorkLease (e : V2MailboxEnvelope) (lease : WorkLease) :
    Except LeaseBindingError AttemptLeaseBinding := do
  let texts ← attemptTexts e.attempt
  let failed := mismatches e.attempt.leaseGeneration e.executionIdentity texts lease
  ensure (failed = [])
    ⟨"ATTEMPT_LEASE_MISMATCH",
      "attempt does not bind the supplied WorkLease: " ++ ", ".intercalate failed.eraseDups,
      failed.eraseDups⟩
  return {
    runId := lease.runId, nodeId := lease.nodeId, executionId := lease.executionId
    attemptId := lease.attemptId, leaseId := lease.leaseId, holder := lease.holder
    fencingToken := lease.fencingToken, leaseGeneration := e.attempt.leaseGeneration
    grantedAt := lease.grantedAt, expiresAt := lease.expiresAt
    resourceRef := lease.resourceRef, status := lease.status }

section Fence
variable [Timestamps]

/-- `_instant`. -/
def instant (value field : String) : Except FenceFailure Int :=
  match text (.text value) field with
  | .error e => .error (.leaseBinding e)
  | .ok stripped =>
    match Timestamps.fromisoformat stripped with
    | .unparseable => .error (.leaseBinding ⟨"LEASE_TIME_INVALID", s!"{field} is not ISO-8601", []⟩)
    | .naive =>
      .error (.leaseBinding ⟨"LEASE_TIME_INVALID", s!"{field} must include a timezone", []⟩)
    | .outOfRange => .error (.overflowError "date value out of range")
    | .aware moment => .ok moment

/-- What a bound lease says at `now`. -/
def fenceAt (lease : WorkLease) (binding : AttemptLeaseBinding) (now : Option String) :
    Except FenceFailure LeaseFence :=
  if lease.status ≠ .active then .ok (.stale "lease_status" [] (some binding))
  else
    match now with
    | none => .error (.leaseBinding
        ⟨"LEASE_TIME_REQUIRED", "now is required for active lease evaluation", []⟩)
    | some now => do
      let expires ← instant lease.expiresAt "lease.expires_at"
      let current ← instant now "now"
      return if expires < current then .stale "lease_expiry" [] (some binding)
        else .accepted binding

/-- The failed checks of an attempt that does not bind. -/
def unbound (e : LeaseBindingError) : LeaseFence :=
  match e.failedChecks with
  | [] => .stale "lease_binding" [] none
  | first :: rest => .stale first rest none

def fenceOf (e : V2MailboxEnvelope) (active : ObservedLease) (now : Option String) :
    Except FenceFailure LeaseFence :=
  match active with
  | .absent => .ok (.stale "active_lease" [] none)
  | .notALease => .ok (unbound ⟨"WORK_LEASE_INVALID", "active lease must be a WorkLease", []⟩)
  | .lease lease =>
    match bindAttemptToWorkLease e lease with
    | .error failure => .ok (unbound failure)
    | .ok binding => fenceAt lease binding now

/-- `evaluate_result_fence`. -/
def evaluateResultFence [Sha256] (e : V2MailboxEnvelope) (active : ObservedLease)
    (now : Option String) : Except FenceFailure LeaseFenceDecision := do
  let fence ← fenceOf e active now
  return ⟨e.digest, fence⟩

end Fence

end LeaseBinding

/-! ## The write predicate -/

/-- What a write raises. -/
inductive Failure where
  | raised (error : Raised) | overflowError (message : String)
  deriving DecidableEq

def invalid (code : MailboxV2ErrorCode) (message : String) : Failure :=
  .raised (mailboxError code message)

/-- The argument `envelope`. A mapping is typed as the schema types it. -/
inductive EnvelopeInput where
  | envelope (value : V2MailboxEnvelope) | mapping (fields : EnvelopeFields) | other
  deriving DecidableEq

/-- `_coerce_envelope`. -/
def coerceEnvelope : EnvelopeInput → Except Failure V2MailboxEnvelope
  | .envelope e => .ok e
  | .mapping fields =>
    match V2MailboxEnvelope.fromFields fields with
    | .error e => .error (.raised e)
    | .ok e => .ok e
  | .other => .error (invalid .schemaInvalid "state-advancing write requires a v2 envelope or mapping")

inductive StateAdvancingWriteKind where
  | childResult | mixerResult | parentTerminal
  deriving DecidableEq

def StateAdvancingWriteKind.value : StateAdvancingWriteKind → String
  | .childResult => "child_result"
  | .mixerResult => "mixer_result"
  | .parentTerminal => "terminal_result"

/-- `_KIND_TO_MESSAGE_TYPE`. -/
def kindToMessageType : List (String × MessageType) :=
  [("child_result", .childResult), ("mixer_result", .mixerResult),
    ("terminal_result", .terminalResult), ("child", .childResult), ("mixer", .mixerResult),
    ("parent_terminal", .terminalResult), ("terminal", .terminalResult)]

/-- `_canonical_write_kind`; the value of an enumeration member is its text, and
`none` is an argument that is neither. -/
def canonicalWriteKind : Option String → Except Failure MessageType
  | none => .error (invalid .contractMismatch
      "write_kind is required; message_type must not be inferred")
  | some candidate =>
    match kindToMessageType.lookup candidate with
    | none => .error (invalid .contractMismatch
        s!"unsupported state-advancing write kind: {Json.reprString candidate}")
    | some messageType => .ok messageType

def requiredCurrentFields : List String :=
  ["run_id", "node_id", "plan_version", "attempt_id", "lease_generation"]

/-- The arguments of a write beside the envelope. `none` is an argument that is not
of the type the source asks for; for `activeLease` it is the argument left out. -/
structure WriteContext where
  currentIdentity : Option (Dict String IdentityValue)
  expectedSourceDigest : Option String
  actorCursor : Option Int
  writeKind : Option String
  activeLease : Option ObservedLease := none
  leaseNow : Option String := none

/-- What `_validate_inputs` lets through. -/
structure CurrentState where
  identity : Dict String IdentityValue
  sourceDigest : String
  cursor : Int
  contractDigest : String

/-- `current_identity.get("contract_digest", current_identity.get("parent_contract_digest"))`. -/
def contractOf (current : Dict String IdentityValue) : Option IdentityValue :=
  match current.get? "contract_digest" with
  | some digest => some digest
  | none => current.get? "parent_contract_digest"

/-- The required fields a current identity does not have. -/
def missingFields (current : Dict String IdentityValue) : List String :=
  requiredCurrentFields.filter (fun field => (current.get? field).isNone) ++
    if (contractOf current).isNone then ["contract_digest"] else []

/-- `_validate_inputs`. -/
def validateInputs (w : WriteContext) : Except Failure CurrentState := do
  let some current := w.currentIdentity
    | .error (invalid .schemaInvalid "current execution identity must be an object")
  ensure (missingFields current = [])
    (invalid .schemaInvalid
      ("current execution identity is missing: " ++ ", ".intercalate (missingFields current)))
  let some source := w.expectedSourceDigest
    | .error (invalid .schemaInvalid "expected_source_digest must be a non-empty string")
  ensure (source ≠ "")
    (invalid .schemaInvalid "expected_source_digest must be a non-empty string")
  let some cursor := w.actorCursor
    | .error (invalid .invalidSequence
        "actor_cursor must be an integer greater than or equal to -1")
  ensure (-1 ≤ cursor)
    (invalid .invalidSequence "actor_cursor must be an integer greater than or equal to -1")
  let some (.text contract) := contractOf current
    | .error (invalid .schemaInvalid "current contract_digest must be a non-empty string")
  ensure (contract ≠ "")
    (invalid .schemaInvalid "current contract_digest must be a non-empty string")
  return ⟨current, source, cursor, contract⟩

/-- `actual[field] == current[field]`. -/
def sameField (actual current : Dict String IdentityValue) (field : String) : Prop :=
  ∃ a ∈ actual.get? field, ∃ c ∈ current.get? field, a.equals c = true

instance (actual current : Dict String IdentityValue) (field : String) :
    Decidable (sameField actual current field) := by
  unfold sameField; infer_instance

/-- The checks that fail before the fences. -/
def failedChecks (e : V2MailboxEnvelope) (current : CurrentState) : List String :=
  requiredCurrentFields.filter
      (fun field => ¬ sameField (identityValues e.executionIdentity) current.identity field) ++
    mismatch "contract_digest" (e.executionIdentity.contractDigest = current.contractDigest) ++
    mismatch "source_digest" (e.executionIdentity.sourceDigest = current.sourceDigest) ++
    mismatch "seq" (current.cursor < e.seq)

/-- The checks of the generation fence, which runs where the current identity
carries the token. -/
def generationChecks (e : V2MailboxEnvelope) (current : CurrentState) :
    Except Failure (List String) :=
  if (current.identity.get? "fencing_token").isNone then .ok []
  else
    match GenerationFence.evaluate (identityValues e.executionIdentity) current.identity with
    | .error failure => .error (invalid .schemaInvalid failure.text)
    | .ok disposition => .ok disposition.failedChecks

/-- `failed` with the checks it does not have yet. -/
def mergeChecks (failed extra : List String) : List String :=
  extra.foldl (fun known check => if check ∈ known then known else known ++ [check]) failed

structure StateAdvancingWriteDecision where
  writeKind : MessageType
  disposition : Disposition
  envelopeDigest : Digest
  deriving DecidableEq

section Predicate
variable [Sha256] [Timestamps]

/-- The lease checks of a write that passed every other check. -/
def leaseChecks (e : V2MailboxEnvelope) (active : Option ObservedLease) (now : Option String) :
    Except Failure Disposition :=
  match active with
  | none => .ok .accepted
  | some active =>
    match LeaseBinding.evaluateResultFence e active now with
    | .error (.leaseBinding failure) => .error (invalid .schemaInvalid failure.text)
    | .error (.overflowError message) => .error (.overflowError message)
    | .ok decision =>
      match decision.fence with
      | .accepted _ => .ok .accepted
      | .stale first rest _ => .ok (.staleResult first rest)

/-- `validate_state_advancing_write`. -/
def validateStateAdvancingWrite (input : EnvelopeInput) (w : WriteContext) :
    Except Failure StateAdvancingWriteDecision := do
  let kind ← canonicalWriteKind w.writeKind
  let e ← coerceEnvelope input
  ensure (e.messageType = kind)
    (invalid .contractMismatch
      s!"write kind {Json.reprString kind.value} requires message_type {Json.reprString kind.value}")
  let current ← validateInputs w
  let fenced ← generationChecks e current
  match mergeChecks (failedChecks e current) fenced with
  | first :: rest => return ⟨kind, .staleResult first rest, e.digest⟩
  | [] =>
    let disposition ← leaseChecks e w.activeLease w.leaseNow
    return ⟨kind, disposition, e.digest⟩

end Predicate

end DwSuperApps.Source.StateAdvancement
